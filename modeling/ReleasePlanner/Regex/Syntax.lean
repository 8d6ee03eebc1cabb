import ReleasePlanner.Text.Blank
import ReleasePlanner.Text.Unicode.Folding
import ReleasePlanner.Text.Unicode.Letter

/-!
# Regular expressions

The syntax tree of a regular expression and the meaning of its leaves.  A leaf
is a set of characters or an assertion about the place between two characters.
Sets are kept as expressions over ranges, tables and the set operations, so a
character class stands in the tree as it was written.

Only whether an expression matches is ever asked.  So the tree has no groups,
and repetition is neither greedy nor lazy.
-/

namespace ReleasePlanner.Regex

/-! ## Sets of characters -/

/-- A set of characters. -/
inductive CharSet where
  /-- No character. -/
  | none
  /-- The characters from the first to the last code point. -/
  | range (first last : Nat)
  /-- The characters of a table. -/
  | table (codes : Text.CodeRanges)
  /-- Decimal digits of every script. -/
  | digit
  /-- Blanks. -/
  | blank
  /-- Characters of words. -/
  | word
  | union (a b : CharSet)
  | inter (a b : CharSet)
  | diff (a b : CharSet)
  | symmDiff (a b : CharSet)
  | compl (a : CharSet)
  /-- The characters that differ from a member in case at most. -/
  | folded (a : CharSet)
  deriving DecidableEq

namespace CharSet

/-- The set of one character. -/
def single (c : Char) : CharSet :=
  .range c.toNat c.toNat

/-- Every character. -/
def all : CharSet :=
  .compl .none

/-- Whether a code point is in a set. -/
def contains : CharSet → Nat → Bool
  | none, _ => false
  | range first last, n => first ≤ n && n ≤ last
  | table codes, n => codes.contains n
  | digit, n => Text.isDecimalDigit (Char.ofNat n)
  | blank, n => Text.isBlank (Char.ofNat n)
  | word, n => Text.isWord (Char.ofNat n)
  | union a b, n => a.contains n || b.contains n
  | inter a b, n => a.contains n && b.contains n
  | diff a b, n => a.contains n && !b.contains n
  | symmDiff a b, n => a.contains n != b.contains n
  | compl a, n => !a.contains n
  | folded a, n => a.contains n || (Text.foldOrbit n).any a.contains

/-- How many states an automaton needs for a set, roughly. -/
def weight : CharSet → Nat
  | none => 1
  | range _ last => if last < 128 then 1 else 4
  | table codes => codes.bounds.size * 2 + 1
  | digit => 100
  | blank => 20
  | word => 1500
  | union a b => a.weight + b.weight
  | inter a b => a.weight + b.weight
  | diff a b => a.weight + b.weight
  | symmDiff a b => a.weight + b.weight
  | compl a => a.weight + 8
  | folded a => a.weight + 1

end CharSet

/-! ## Assertions -/

/-- A statement about the place between two characters. -/
inductive Assertion where
  | textStart
  | textEnd
  | lineStart
  | lineEnd
  /-- Line start where a carriage return ends lines as well. -/
  | lineStartReturn
  /-- Line end where a carriage return ends lines as well. -/
  | lineEndReturn
  /-- Exactly one of the two characters belongs to a word. -/
  | wordBoundary
  | notWordBoundary
  | wordStart
  | wordEnd
  /-- The character before does not belong to a word. -/
  | wordStartHalf
  /-- The character after does not belong to a word. -/
  | wordEndHalf
  deriving DecidableEq

namespace Assertion

/-- Whether an assertion holds between two characters, where `inWord` says which belong to words.
A missing character means that the text starts or ends there. -/
def holds (inWord : Char → Bool) (before after : Option Char) : Assertion → Bool
  | textStart => before.isNone
  | textEnd => after.isNone
  | lineStart => before.isNone || before == some '\n'
  | lineEnd => after.isNone || after == some '\n'
  | lineStartReturn =>
    before.isNone || before == some '\n' || (before == some '\r' && after != some '\n')
  | lineEndReturn =>
    after.isNone || after == some '\r' || (after == some '\n' && before != some '\r')
  | wordBoundary => before.any inWord != after.any inWord
  | notWordBoundary => before.any inWord == after.any inWord
  | wordStart => !before.any inWord && after.any inWord
  | wordEnd => before.any inWord && !after.any inWord
  | wordStartHalf => !before.any inWord
  | wordEndHalf => !after.any inWord

end Assertion

/-! ## Expressions -/

/-- A regular expression. -/
inductive Re where
  /-- Matches the empty text. -/
  | empty
  /-- Matches one character of a set. -/
  | set (s : CharSet)
  /-- Matches the empty text where an assertion holds.  The flag says whether words are those of
  ASCII only. -/
  | look (ascii : Bool) (a : Assertion)
  /-- One expression, then another. -/
  | cat (a b : Re)
  /-- Either of two expressions. -/
  | alt (a b : Re)
  /-- An expression at least `min` times, and at most `max` times if there is a bound. -/
  | rep (min : Nat) (max : Option Nat) (a : Re)
  deriving DecidableEq

namespace Re

/-- One expression after the other. -/
def seq : List Re → Re
  | [] => empty
  | [a] => a
  | a :: as => cat a (seq as)

/-- Any of some expressions. -/
def anyOf : List Re → Re
  | [] => empty
  | [a] => a
  | a :: as => alt a (anyOf as)

/-- How many states an automaton for an expression has, roughly. -/
def weight : Re → Nat
  | empty => 1
  | set s => s.weight
  | look _ _ => 1
  | cat a b => a.weight + b.weight
  | alt a b => a.weight + b.weight + 1
  | rep min max a => a.weight * (max.getD (min + 1)) + 1

/-- Characters of words, in ASCII or at all. -/
def inWord (ascii : Bool) (c : Char) : Bool :=
  if ascii then c.isAlphanum || c == '_' else Text.isWord c

end Re

end ReleasePlanner.Regex
