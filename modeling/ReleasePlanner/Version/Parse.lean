import ReleasePlanner.Error
import ReleasePlanner.Text.Lines
import ReleasePlanner.Version.Order

/-!
# Reading versions

`Version.parse` reads `1.2.3`, `v1.2.3` and `1.2.3-rc.2`.  Any number of `v`
and after them any number of `V` may stand in front.  The first hyphen starts
the pre-release, and its first point starts the iteration.  A number may carry
a plus sign and leading zeros, which its text later does not show.

Faults of the pre-release are reported before those of the numbers.
-/

namespace ReleasePlanner

namespace PreRelease

/-- Checks that an identifier can stand in a version: not empty, and only ASCII letters, digits
and hyphens. -/
def checkIdentifier (identifier : List Char) : Except VersionError Unit :=
  if identifier.isEmpty then .error .emptyIdentifier
  else if identifier.all Identifier.allows then .ok ()
  else .error (.badIdentifier (String.ofList identifier))

/-- Reads `rc.2`. -/
def parseChars (text : List Char) : Except VersionError PreRelease :=
  match Text.splitAtFirst? '.' text with
  | none => .error (.noIteration (String.ofList text))
  | some (identifier, iteration) => do
    checkIdentifier identifier
    match Text.number? iteration with
    | none => .error (.badIteration (String.ofList iteration))
    | some n => .ok ⟨String.ofList identifier, n⟩

/-- Reads `rc.2`. -/
def parse (text : String) : Except VersionError PreRelease :=
  parseChars text.toList

end PreRelease

namespace Version

/-- Reads one of the three numbers. -/
def parsePart (part : VersionPart) (text : List Char) : Except VersionError Nat :=
  match Text.number? text with
  | some n => .ok n
  | none => .error (.badNumber part (String.ofList text))

/-- The text without the letters that may stand in front of it. -/
def dropMarks (text : List Char) : List Char :=
  (text.dropWhile (· == 'v')).dropWhile (· == 'V')

/-- The parts before and after the first hyphen. -/
def splitPre (text : List Char) : List Char × Option (List Char) :=
  match Text.splitAtFirst? '-' text with
  | none => (text, none)
  | some (core, pre) => (core, some pre)

/-- Reads the part after the first hyphen, if there is one. -/
def parsePre : Option (List Char) → Except VersionError (Option PreRelease)
  | none => .ok none
  | some pre => (PreRelease.parseChars pre).map some

/-- Reads a version. -/
def parseChars (text : List Char) : Except VersionError Version := do
  let parts := splitPre (dropMarks text)
  let pre ← parsePre parts.2
  match Text.splitOn '.' parts.1 with
  | [major, minor, patch] =>
    let major ← parsePart .major major
    let minor ← parsePart .minor minor
    let patch ← parsePart .patch patch
    .ok ⟨major, minor, patch, pre⟩
  | _ => .error (.badShape (String.ofList text))

/-- Reads a version. -/
def parse (text : String) : Except VersionError Version :=
  parseChars text.toList

example : parseChars ['v', '1', '.', '0', '2', '.', '+', '3'] = .ok (stable 1 2 3) := by rfl

example : parseChars ['1', '.', '2'] = .error (.badShape "1.2") := by rfl

end Version

end ReleasePlanner
