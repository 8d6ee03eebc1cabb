/-!
# Globs

Patterns with wildcards, as they are written for files.  A question mark
stands for one character, a star for any run of characters, brackets for one
character of a set, and a backslash takes the special meaning away from the
character after it.

Which characters the wildcards may stand for is a parameter: all of them, or
all but the slash.
-/

namespace ReleasePlanner.Text

/-- A part of a pattern. -/
inductive Glob where
  /-- One character that passes a test. -/
  | one (accepts : Char → Bool)
  /-- Any run of characters that pass a test. -/
  | many (accepts : Char → Bool)
  /-- Any number of directories, each with the slash after it. -/
  | directories

namespace Glob

/-- What is left after each of the runs of accepted characters at the start. -/
def afterRuns (accepts : Char → Bool) : List Char → List (List Char)
  | [] => [[]]
  | c :: cs => (c :: cs) :: if accepts c then afterRuns accepts cs else []

/-- What is left after each slash. -/
def afterSlashes : List Char → List (List Char)
  | [] => []
  | c :: cs => if c = '/' then cs :: afterSlashes cs else afterSlashes cs

/-- Whether a text follows a pattern. -/
def isMatch : List Glob → List Char → Bool
  | [], cs => cs.isEmpty
  | one _ :: _, [] => false
  | one accepts :: gs, c :: cs => accepts c && isMatch gs cs
  | many accepts :: gs, cs => (afterRuns accepts cs).any fun rest => isMatch gs rest
  | directories :: gs, cs => isMatch gs cs || (afterSlashes cs).any fun rest => isMatch gs rest

/-! ## Sets in brackets -/

/-- The class of characters with a name. -/
def className? : String → Option (Char → Bool)
  | "alpha" => some Char.isAlpha
  | "digit" => some Char.isDigit
  | "alnum" => some Char.isAlphanum
  | "upper" => some Char.isUpper
  | "lower" => some Char.isLower
  | "space" => some fun c => c = ' ' || (9 ≤ c.toNat && c.toNat ≤ 13)
  | "blank" => some fun c => c = ' ' || c = '\t'
  | "punct" => some fun c => 33 ≤ c.toNat && c.toNat ≤ 126 && !c.isAlphanum
  | "print" => some fun c => 32 ≤ c.toNat && c.toNat ≤ 126
  | "graph" => some fun c => 33 ≤ c.toNat && c.toNat ≤ 126
  | "cntrl" => some fun c => c.toNat < 32 || c.toNat = 127
  | "xdigit" => some fun c =>
    c.isDigit || ('a' ≤ c && c ≤ 'f') || ('A' ≤ c && c ≤ 'F')
  | _ => none

/-- Reads the name of a class up to its end. -/
def readClass? : List Char → List Char → Option ((Char → Bool) × List Char)
  | read, ':' :: ']' :: cs => (className? (String.ofList read.reverse)).map fun t => (t, cs)
  | read, c :: cs => readClass? (c :: read) cs
  | _, [] => none

/-- Reads one character of a set, which a backslash may stand before. -/
def readMember? : List Char → Option (Char × List Char)
  | '\\' :: c :: cs => some (c, cs)
  | c :: cs => some (c, cs)
  | [] => none

/-- Reads a member or a range of members. -/
def readRange? (cs : List Char) : Option ((Char → Bool) × List Char) :=
  match readMember? cs with
  | none => none
  | some (low, '-' :: ']' :: rest) => some (fun c => c = low, '-' :: ']' :: rest)
  | some (low, '-' :: rest) =>
    (readMember? rest).map fun (high, after) => (fun c => low ≤ c && c ≤ high, after)
  | some (c, rest) => some (fun d => d = c, rest)

/-- Reads a named class, a range or a member. -/
def readItem? : List Char → Option ((Char → Bool) × List Char)
  | '[' :: ':' :: rest => (readClass? [] rest).orElse fun _ => readRange? ('[' :: ':' :: rest)
  | cs => readRange? cs

/-- Reads the members of a set up to the closing bracket.  A closing bracket that comes first is a
member. -/
def readMembers? : Nat → (isFirst : Bool) → List Char → Option ((Char → Bool) × List Char)
  | 0, _, _ => none
  | n + 1, isFirst, cs =>
    if cs.head? = some ']' && !isFirst then some (fun _ => false, cs.drop 1)
    else do
      let (test, rest) ← readItem? cs
      let (others, after) ← readMembers? n false rest
      return (fun c => test c || others c, after)

/-- Reads a set after its opening bracket. -/
def readSet? (cs : List Char) : Option ((Char → Bool) × List Char) :=
  match cs with
  | '!' :: rest | '^' :: rest =>
    (readMembers? rest.length.succ true rest).map fun r =>
      (fun c => !r.1 c, r.2)
  | _ => readMembers? cs.length.succ true cs

/-! ## Whole patterns -/

/-- Reads a pattern whose wildcards stand for the characters that `free` accepts.  A bracket that
is never closed stands for itself. -/
def readWith (free : Char → Bool) : Nat → List Char → List Glob
  | 0, _ => []
  | _ + 1, [] => []
  | n + 1, '*' :: cs => many free :: readWith free n cs
  | n + 1, '?' :: cs => one free :: readWith free n cs
  | n + 1, '\\' :: c :: cs => one (fun d => d == c) :: readWith free n cs
  | n + 1, '[' :: cs =>
    match readSet? cs with
    | some (test, rest) => one (fun d => free d && test d) :: readWith free n rest
    | none => one (fun d => d == '[') :: readWith free n cs
  | n + 1, c :: cs => one (fun d => d == c) :: readWith free n cs

/-- The pattern of a text, with wildcards for any character. -/
def ofText (cs : List Char) : List Glob :=
  readWith (fun _ => true) cs.length cs

/-- Whether a text holds a wildcard. -/
def hasWildcard (cs : List Char) : Bool :=
  cs.any fun c => c = '*' || c = '?' || c = '['

example : isMatch (ofText "a*[0-9]?".toList) "abc7x".toList = true := by decide

example : isMatch (ofText "[!]a]\\*".toList) "b*".toList = true := by decide

end Glob

end ReleasePlanner.Text
