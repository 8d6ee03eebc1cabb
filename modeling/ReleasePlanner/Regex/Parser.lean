import ReleasePlanner.Regex.Matcher
import ReleasePlanner.Regex.Property
import ReleasePlanner.Text.Decimal

/-!
# Reading regular expressions

The written form of regular expressions: literals, escapes, character classes
with set operations, groups, flags and repetitions.  There are no
backreferences and no look-around.  Flags set inside a group end with it.

A reader takes the state of the reading and fails or returns a result with
the state after it.  Which fault an expression has is not told, only that it
has one.  The readers that call themselves have a counter.  Every call
consumes a character, so a counter above the length of the text never runs
out.
-/

namespace ReleasePlanner.Regex

/-! ## State -/

/-- What the flags of an expression switch. -/
structure Flags where
  /-- Case makes no difference. -/
  caseless : Bool
  /-- Assertions about the text hold at lines as well. -/
  multiLine : Bool
  /-- A dot matches line feeds as well. -/
  dotAll : Bool
  /-- A carriage return ends lines as well. -/
  returns : Bool
  /-- Classes and case are those of Unicode. -/
  unicode : Bool
  /-- Blanks and comments are passed over. -/
  spaced : Bool

/-- The flags at the start of an expression. -/
def Flags.standard : Flags :=
  ⟨false, false, false, false, true, false⟩

/-- The state of a reading. -/
structure Reading where
  /-- What is still to be read. -/
  text : List Char
  /-- The flags in force. -/
  flags : Flags
  /-- The names of the groups so far. -/
  names : List (List Char)

/-- A reader of a part of an expression. -/
abbrev Reader := StateT Reading Option

/-- What is still to be read. -/
def rest : Reader (List Char) := do
  return (← get).text

/-- Goes on with `text`. -/
def goOn (text : List Char) : Reader Unit :=
  modify fun r => { r with text := text }

/-- The flags in force. -/
def flags : Reader Flags := do
  return (← get).flags

/-- The text after blanks and comments.  A comment starts with a number sign and ends with the
line.  The flag says whether a comment is being passed over. -/
def afterSpace (comment : Bool) : List Char → List Char
  | [] => []
  | c :: text =>
    if comment then afterSpace (c != '\n') text
    else if Text.isBlank c then afterSpace false text
    else if c == '#' then afterSpace true text
    else c :: text

/-- Passes over blanks and comments where the flags say so. -/
def skipSpace : Reader Unit := do
  if (← flags).spaced then goOn (afterSpace false (← rest))

/-- Goes on with `text`, past blanks and comments where the flags say so. -/
def goOnSpaced (text : List Char) : Reader Unit := do
  goOn text
  skipSpace

/-- The next character, which is not consumed. -/
def peek : Reader Char := do
  match ← rest with
  | [] => failure
  | c :: _ => return c

/-- Consumes the next character. -/
def bump : Reader Char := do
  match ← rest with
  | [] => failure
  | c :: text =>
    goOn text
    return c

/-- Consumes the next character and the blanks after it. -/
def bumpSpaced : Reader Char := do
  let c ← bump
  skipSpace
  return c

/-- Consumes the character `c`, and fails at any other. -/
def expect (c : Char) : Reader Unit := do
  guard ((← bump) == c)

/-! ## Numbers and names -/

/-- The largest count of a repetition. -/
def maxCount : Nat := 4294967295

/-- Reads digits, between which blanks may stand where the flags say so. -/
def digitRun : Nat → Reader (List Char)
  | 0 => failure
  | fuel + 1 => do
    match ← rest with
    | c :: _ =>
      if c.isDigit then
        let _ ← bumpSpaced
        return c :: (← digitRun fuel)
      else return []
    | [] => return []

/-- Reads the count of a repetition; nothing when there are no digits. -/
def count? : Reader (Option Nat) := do
  goOn ((← rest).dropWhile Text.isBlank)
  let digits ← digitRun ((← rest).length + 1)
  goOnSpaced ((← rest).dropWhile Text.isBlank)
  if digits.isEmpty then return none
  let n := Text.digitsValue 0 digits
  guard (n ≤ maxCount)
  return some n

/-- Reads a given number of hexadecimal digits. -/
def hexDigits : Nat → Nat → Reader Nat
  | 0, acc => return acc
  | k + 1, acc => do
    match Text.hexValue? (← bumpSpaced) with
    | some d => hexDigits k (acc * 16 + d)
    | none => failure

/-- Reads hexadecimal digits up to a closing brace, and the brace. -/
def hexBraced : Nat → Option Nat → Reader Nat
  | 0, _ => failure
  | fuel + 1, acc => do
    let c ← bumpSpaced
    if c == '\x7d' then acc.elim failure pure
    else
      match Text.hexValue? c with
      | some d =>
        let n := acc.getD 0 * 16 + d
        hexBraced fuel (some (if n ≤ maxCount then n else maxCount))
      | none => failure

/-- The character of a code point. -/
def charOf (n : Nat) : Reader Char :=
  if n < 0xD800 ∨ (0xDFFF < n ∧ n < 0x110000) then pure (Char.ofNat n) else failure

/-- Reads characters up to a closing brace, and the brace. -/
def bracedName : Nat → Reader (List Char)
  | 0 => failure
  | fuel + 1 => do
    let c ← bumpSpaced
    if c == '\x7d' then return []
    return c :: (← bracedName fuel)

/-- Can stand in the name of a group. -/
def inGroupName (first : Bool) (c : Char) : Bool :=
  c == '_' || Text.isAlphabetic c
    || (!first && (c == '.' || c == '[' || c == ']' || Text.isDecimalDigit c || isNumber c))
where
  /-- Is a number of some other kind. -/
  isNumber (c : Char) : Bool :=
    Text.categoryNl.contains c.toNat || Text.categoryNo.contains c.toNat

/-- Reads the name of a group up to the closing angle.  No two groups have the same name. -/
def groupName : Reader Unit := do
  let text ← rest
  let name := text.takeWhile (· != '>')
  let after := text.dropWhile (· != '>')
  guard !after.isEmpty
  match name with
  | [] => failure
  | c :: more => guard (inGroupName true c && more.all (inGroupName false))
  let r ← get
  guard !r.names.contains name
  set { r with text := after.drop 1, names := name :: r.names }

/-! ## Flags -/

/-- The characters of flags. -/
def flagChars : List Char := ['i', 'm', 's', 'U', 'u', 'R', 'x']

/-- The flags after one of them has been switched. -/
def Flags.switch (f : Flags) (c : Char) (on : Bool) : Flags :=
  match c with
  | 'i' => { f with caseless := on }
  | 'm' => { f with multiLine := on }
  | 's' => { f with dotAll := on }
  | 'R' => { f with returns := on }
  | 'u' => { f with unicode := on }
  | 'x' => { f with spaced := on }
  | _ => f

/-- Whether what stands between question mark and colon or parenthesis is a list of flags: each at
most once, and at most one hyphen, which is not the last. -/
def legalFlags (items : List Char) : Bool :=
  items.all (fun c => flagChars.contains c || c == '-') && items.Nodup
    && items.getLast? != some '-'

/-- The flags after a list of switches.  Those after a hyphen are switched off. -/
def Flags.switchAll (f : Flags) (items : List Char) : Flags :=
  let on := items.takeWhile (· != '-')
  let off := items.dropWhile (· != '-')
  off.foldl (fun f c => f.switch c false) (on.foldl (fun f c => f.switch c true) f)

/-! ## Escapes -/

/-- One atom of an expression or a class. -/
inductive Atom where
  /-- A character. The flag says that it was given as a byte. -/
  | char (c : Char) (byte : Bool)
  /-- A set with a name. -/
  | named (s : CharSet)
  /-- An assertion. -/
  | assert (a : Assertion)

/-- Characters with a meaning of their own. -/
def metaChars : List Char :=
  ['\\', '.', '+', '*', '?', '(', ')', '|', '[', ']', '\x7b', '\x7d', '^', '$', '#', '&', '-', '~']

/-- Can be escaped to stand for itself. -/
def escapable (c : Char) : Bool :=
  metaChars.contains c || (c.toNat < 128 && !c.isAlphanum && c != '<' && c != '>')

/-- A set, or what is not in it. -/
def negateIf (negated : Bool) (s : CharSet) : CharSet :=
  if negated then .compl s else s

/-- A set, with the other cases of its members where the flags say so. -/
def foldIf (f : Flags) (s : CharSet) : CharSet :=
  if f.caseless then .folded s else s

/-- The sets of `\d`, `\s` and `\w`, and by a capital letter what is not in them.  Without Unicode
they are sets of ASCII, and their complements are refused. -/
def shorthand (f : Flags) (c : Char) : Reader CharSet := do
  let negated := c.isUpper
  if f.unicode then
    let s : CharSet :=
      match c.toLower with
      | 'd' => .digit
      | 's' => .blank
      | _ => .word
    return negateIf negated s
  guard !negated
  let name :=
    match c with
    | 'd' => "digit"
    | 's' => "space"
    | _ => "word"
  match asciiSet? name with
  | some s => return s
  | none => failure

/-- The index of the first occurrence of `c`. -/
def cutAt (c : Char) (name : List Char) : Option (List Char × List Char) :=
  Text.splitAtFirst? c name

/-- The parts around the first `!=`. -/
def cutAtUnequal : List Char → Option (List Char × List Char)
  | [] => none
  | '!' :: '=' :: tail => some ([], tail)
  | c :: tail => (cutAtUnequal tail).map fun parts => (c :: parts.1, parts.2)

/-- The set of a property in braces, `Greek`, `sc=Greek`, `sc:Greek` or `sc!=Greek`. -/
def bracedProperty? (name : List Char) : Option CharSet :=
  match cutAtUnequal name with
  | some (property, value) => (valueSet? property value).map .compl
  | none =>
    match (cutAt ':' name).orElse fun _ => cutAt '=' name with
    | some (property, value) => valueSet? property value
    | none => propertySet? name

/-- Reads what follows `\p` or `\P`. -/
def property (f : Flags) (negated : Bool) : Reader CharSet := do
  skipSpace
  let c ← bumpSpaced
  let s? ←
    if c == '\x7b' then do
      let name ← bracedName ((← rest).length + 1)
      pure (bracedProperty? name)
    else do
      guard (c != '\\')
      pure (propertySet? [c])
  guard f.unicode
  match s? with
  | some s => return negateIf negated (foldIf f s)
  | none => failure

/-- The assertion of a name in braces after `\b`. -/
def boundary? : String → Option Assertion
  | "start" => some .wordStart
  | "end" => some .wordEnd
  | "start-half" => some .wordStartHalf
  | "end-half" => some .wordEndHalf
  | _ => none

/-- Can stand in the name of a word boundary. -/
def inBoundaryName (c : Char) : Bool :=
  c.isAlpha || c == '-'

/-- Reads the name of a word boundary up to the closing brace, and the brace. -/
def boundaryName : Nat → Reader (List Char)
  | 0 => failure
  | fuel + 1 => do
    let c ← bumpSpaced
    if c == '\x7d' then return []
    guard (inBoundaryName c)
    return c :: (← boundaryName fuel)

/-- Reads what follows `\b`.  A brace starts a name, unless it can only start a repetition. -/
def afterBoundary : Reader Assertion := do
  let before ← get
  match before.text with
  | '\x7b' :: text =>
    goOnSpaced text
    let c ← peek
    if inBoundaryName c then
      -- the closing brace is consumed without the blanks after it
      let name ← boundaryName ((← rest).length + 1)
      match boundary? (String.ofList name) with
      | some a => return a
      | none => failure
    else
      set before
      return .wordBoundary
  | _ => return .wordBoundary

/-- Reads a hexadecimal escape after its letter. -/
def hexEscape (letter : Char) : Reader Atom := do
  skipSpace
  match ← rest with
  | '\x7b' :: text =>
    goOnSpaced text
    let n ← hexBraced (text.length + 1) none
    return .char (← charOf n) false
  | _ =>
    let digits := if letter == 'x' then 2 else if letter == 'u' then 4 else 8
    let n ← hexDigits digits 0
    return .char (← charOf n) (letter == 'x')

/-- Reads an escape after its backslash. -/
def escape : Reader Atom := do
  let f ← flags
  let c ← bump
  match c with
  | 'x' | 'u' | 'U' => hexEscape c
  | 'p' => return .named (← property f false)
  | 'P' => return .named (← property f true)
  | 'd' | 's' | 'w' | 'D' | 'S' | 'W' => return .named (← shorthand f c)
  | 'a' => return .char '\x07' false
  | 'f' => return .char '\x0c' false
  | 't' => return .char '\t' false
  | 'n' => return .char '\n' false
  | 'r' => return .char '\r' false
  | 'v' => return .char '\x0b' false
  | 'A' => return .assert .textStart
  | 'z' => return .assert .textEnd
  | 'b' => return .assert (← afterBoundary)
  | 'B' => return .assert .notWordBoundary
  | '<' => return .assert .wordStart
  | '>' => return .assert .wordEnd
  | _ =>
    guard (escapable c)
    return .char c false

/-! ## Classes -/

/-- The operations on sets in a class. -/
inductive SetOp where
  | inter
  | diff
  | symmDiff

/-- Applies an operation. -/
def SetOp.apply : SetOp → CharSet → CharSet → CharSet
  | inter => .inter
  | diff => .diff
  | symmDiff => .symmDiff

/-- The operand so far together with one more operand. -/
def operate (f : Flags) (lhs : Option (SetOp × CharSet)) (s : CharSet) : CharSet :=
  match lhs with
  | none => s
  | some (op, a) => op.apply (foldIf f a) (foldIf f s)

/-- A class in brackets from its content.  Without Unicode the complement of a set of ASCII is
refused. -/
def closeClass (f : Flags) (negated : Bool) (s : CharSet) : Reader CharSet := do
  guard (f.unicode || !negated)
  return negateIf negated (foldIf f s)

/-- The character of an atom as an end of a range.  Without Unicode it must be one of ASCII. -/
def rangeEnd (f : Flags) : Atom → Reader Char
  | .char c _ => do
    guard (f.unicode || c.toNat < 128)
    return c
  | _ => failure

/-- The set of an atom in a class. -/
def atomSet (f : Flags) : Atom → Reader CharSet
  | .char c byte => return .single (← rangeEnd f (.char c byte))
  | .named s => return s
  | .assert _ => failure

/-- Reads an atom of a class. -/
def classAtom : Reader Atom := do
  let c ← bump
  if c == '\\' then escape else return .char c false

/-- Reads an atom of a class, or a range between two. -/
def classItem : Reader CharSet := do
  let f ← flags
  let first ← classAtom
  skipSpace
  let c ← peek
  if c != '-' then atomSet f first
  else
    let after := (← rest).drop 1
    let next := if f.spaced then afterSpace false after else after
    if next.head? == some ']' || next.head? == some '-' then atomSet f first
    else
      goOn next
      let second ← classAtom
      let a ← rangeEnd f first
      let b ← rangeEnd f second
      guard (a.toNat ≤ b.toNat)
      return .range a.toNat b.toNat

/-- Reads an ASCII class such as `[:alpha:]`; nothing when the text is not one. -/
def asciiClass? : Reader (Option CharSet) := do
  let f ← flags
  match ← rest with
  | '[' :: ':' :: text =>
    let (negated, text) :=
      match text with
      | '^' :: more => (true, more)
      | _ => (false, text)
    let name := text.takeWhile (· != ':')
    match text.dropWhile (· != ':') with
    | ':' :: ']' :: after =>
      match asciiSet? (String.ofList name) with
      | some s =>
        goOn after
        return some (← closeClass f negated s)
      | none => return none
    | _ => return none
  | _ => return none

/-- Reads the hyphens at the start of a class, which stand for themselves. -/
def leadingHyphens : Nat → CharSet → Reader CharSet
  | 0, _ => failure
  | fuel + 1, s => do
    if (← peek) == '-' then
      let _ ← bumpSpaced
      leadingHyphens fuel (.union s (.single '-'))
    else return s

/-- Reads the start of a class after its bracket: whether it is negated, and the characters that
stand for themselves only there. -/
def openClass : Reader (Bool × CharSet) := do
  skipSpace
  let negated := (← peek) == '^'
  if negated then
    let _ ← bumpSpaced
  let start ← rest
  let s ← leadingHyphens (start.length + 1) .none
  if start.head? != some '-' && (← peek) == ']' then
    let _ ← bumpSpaced
    let _ ← peek
    return (negated, .single ']')
  return (negated, s)

/-- Reads a class after its start, up to and with its closing bracket. -/
def classBody : Nat → Option (SetOp × CharSet) → CharSet → Reader CharSet
  | 0, _, _ => failure
  | fuel + 1, lhs, s => do
    skipSpace
    let f ← flags
    match ← rest with
    | [] => failure
    | '[' :: text =>
      match ← asciiClass? with
      | some named => classBody fuel lhs (.union s named)
      | none =>
        goOn text
        let (negated, first) ← openClass
        let inner ← classBody fuel none first
        classBody fuel lhs (.union s (← closeClass f negated inner))
    | ']' :: text =>
      goOn text
      return operate f lhs s
    | '&' :: '&' :: text =>
      goOn text
      classBody fuel (some (.inter, operate f lhs s)) .none
    | '-' :: '-' :: text =>
      goOn text
      classBody fuel (some (.diff, operate f lhs s)) .none
    | '~' :: '~' :: text =>
      goOn text
      classBody fuel (some (.symmDiff, operate f lhs s)) .none
    | _ =>
      let item ← classItem
      classBody fuel lhs (.union s item)

/-- Reads a class after its bracket. -/
def charClass : Reader CharSet := do
  let f ← flags
  let (negated, first) ← openClass
  let inner ← classBody ((← rest).length + 1) none first
  closeClass f negated inner

/-! ## Expressions -/

/-- An expression with the depth of its nesting. -/
structure Nested where
  /-- The expression. -/
  re : Re
  /-- How deep it is nested. -/
  depth : Nat

/-- The deepest nesting that is read. -/
def maxDepth : Nat := 250

/-- The greatest weight of an expression. -/
def maxWeight : Nat := 327680

/-- The greatest depth of some expressions. -/
def deepest (parts : List Nested) : Nat :=
  (parts.map Nested.depth).foldl max 0

/-- A sequence of items, given last first.  An item that only switches flags matches the empty
text. -/
def sequence (items : List (Option Nested)) : Nested :=
  match items with
  | [] => ⟨.empty, 0⟩
  | [some a] => a
  | _ =>
    let parts := items.reverse.filterMap id
    ⟨.seq (parts.map Nested.re), deepest parts + 1⟩

/-- A choice between expressions, given last first. -/
def choice (branches : List Nested) : Nested :=
  match branches with
  | [a] => a
  | _ => ⟨.anyOf (branches.reverse.map Nested.re), deepest branches + 1⟩

/-- The set a dot stands for. -/
def dot (f : Flags) : CharSet :=
  if f.dotAll then .all
  else if f.returns then .compl (.union (.single '\n') (.single '\r'))
  else .compl (.single '\n')

/-- The set of a literal character. -/
def literal (f : Flags) (c : Char) : CharSet :=
  if f.caseless then
    if f.unicode then .folded (.single c)
    else if c.isAlpha then .union (.single c.toLower) (.single c.toUpper)
    else .single c
  else .single c

/-- The expression of an atom. -/
def atomRe (f : Flags) : Atom → Reader Re
  | .char c byte => do
    guard (f.unicode || !byte || c.toNat < 128)
    return .set (literal f c)
  | .named s => return .set s
  | .assert a => return .look (!f.unicode) a

/-- The assertion of a circumflex. -/
def startAssertion (f : Flags) : Assertion :=
  if f.multiLine then (if f.returns then .lineStartReturn else .lineStart) else .textStart

/-- The assertion of a dollar sign. -/
def endAssertion (f : Flags) : Assertion :=
  if f.multiLine then (if f.returns then .lineEndReturn else .lineEnd) else .textEnd

/-- Reads a literal, a dot, an assertion or an escape. -/
def primitive : Reader Re := do
  let f ← flags
  let c ← bump
  match c with
  | '\\' => atomRe f (← escape)
  | '.' =>
    guard f.unicode
    return .set (dot f)
  | '^' => return .look false (startAssertion f)
  | '$' => return .look false (endAssertion f)
  | _ => return .set (literal f c)

/-- Reads the bounds of a counted repetition after its brace, up to and with the closing brace. -/
def bounds : Reader (Nat × Option Nat) := do
  skipSpace
  let _ ← peek
  let min? ← count?
  let c ← bump
  match c, min? with
  | '\x7d', some n => return (n, some n)
  | ',', some n =>
    skipSpace
    if (← peek) == '\x7d' then
      let _ ← bump
      return (n, none)
    match ← count? with
    | some m =>
      expect '\x7d'
      guard (n ≤ m)
      return (n, some m)
    | none => failure
  | _, _ => failure

/-- Passes over a question mark, which only says how a repetition looks for its matches. -/
def skipLazy : Reader Unit := do
  match ← rest with
  | '?' :: text => goOn text
  | _ => pure ()

/-- An expression repeated. -/
def repeated (min : Nat) (max : Option Nat) (a : Nested) : Nested :=
  ⟨.rep min max a.re, a.depth + 1⟩

/-- Replaces the last item by its repetition.  There must be one, and not just flags. -/
def repeatLast (min : Nat) (max : Option Nat) :
    List (Option Nested) → Reader (List (Option Nested))
  | some a :: items => return some (repeated min max a) :: items
  | _ => failure

/-- How a group starts. -/
inductive GroupStart where
  /-- A group follows. -/
  | group
  /-- There is no group, only flags that were switched. -/
  | switches

/-- Reads the start of a group after its parenthesis. -/
def groupStart : Reader GroupStart := do
  skipSpace
  match ← rest with
  | '?' :: '=' :: _ | '?' :: '!' :: _ | '?' :: '<' :: '=' :: _ | '?' :: '<' :: '!' :: _ => failure
  | '?' :: 'P' :: '<' :: text | '?' :: '<' :: text =>
    goOn text
    groupName
    return .group
  | '?' :: text =>
    let items := text.takeWhile fun c => c != ':' && c != ')'
    guard (legalFlags items)
    let r ← get
    match text.dropWhile fun c => c != ':' && c != ')' with
    | ':' :: after =>
      set { r with text := after, flags := r.flags.switchAll items }
      return .group
    | _ :: after =>
      guard !items.isEmpty
      set { r with text := after, flags := r.flags.switchAll items }
      return .switches
    | [] => failure
  | _ => return .group

/-- Reads alternatives up to a closing parenthesis or the end of the text.  The branches so far
and the items of the current branch are given last first. -/
def alternatives : Nat → List Nested → List (Option Nested) → Reader Nested
  | 0, _, _ => failure
  | fuel + 1, branches, items => do
    skipSpace
    match ← rest with
    | [] => return choice (sequence items :: branches)
    | ')' :: _ => return choice (sequence items :: branches)
    | '|' :: text =>
      goOn text
      alternatives fuel (sequence items :: branches) []
    | '(' :: text =>
      let outer ← flags
      goOn text
      match ← groupStart with
      | .switches => alternatives fuel branches (none :: items)
      | .group =>
        let inner ← alternatives fuel [] []
        expect ')'
        modify fun r => { r with flags := outer }
        alternatives fuel branches (some ⟨inner.re, inner.depth + 1⟩ :: items)
    | '[' :: text =>
      goOn text
      let s ← charClass
      alternatives fuel branches (some ⟨.set s, 1⟩ :: items)
    | '?' :: text =>
      goOn text
      skipLazy
      alternatives fuel branches (← repeatLast 0 (some 1) items)
    | '*' :: text =>
      goOn text
      skipLazy
      alternatives fuel branches (← repeatLast 0 none items)
    | '+' :: text =>
      goOn text
      skipLazy
      alternatives fuel branches (← repeatLast 1 none items)
    | '\x7b' :: text =>
      goOn text
      let (min, max) ← bounds
      skipSpace
      skipLazy
      alternatives fuel branches (← repeatLast min max items)
    | _ =>
      let a ← primitive
      alternatives fuel branches (some ⟨a, 0⟩ :: items)

/-- Reads a whole expression.  It must not be nested too deep or be too large. -/
def parse? (text : List Char) : Option Re := do
  let (a, r) ← (alternatives (text.length + 1) [] []).run ⟨text, .standard, []⟩
  if r.text.isEmpty && a.depth ≤ maxDepth && a.re.weight ≤ maxWeight then some a.re else none

end ReleasePlanner.Regex

namespace ReleasePlanner

/-- An expression together with its text. -/
structure Pattern where
  /-- The text. -/
  text : String
  /-- The expression. -/
  re : Regex.Re
  deriving DecidableEq

namespace Pattern

/-- Reads an expression. -/
def ofText? (text : String) : Option Pattern :=
  (Regex.parse? text.toList).map fun re => ⟨text, re⟩

/-- Whether a pattern matches somewhere in a text. -/
def isMatch (p : Pattern) (text : String) : Bool :=
  p.re.matchesIn text.toList

end Pattern

end ReleasePlanner
