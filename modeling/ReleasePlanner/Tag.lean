import ReleasePlanner.Error
import ReleasePlanner.Text.Lines
import ReleasePlanner.Text.Placeholder
import ReleasePlanner.Version.Parse

/-!
# Tags

A tag pattern is a text with one place for a version.  `TagPattern.format`
writes a version there and `TagPattern.parse?` reads it back.  Between the two
fixed parts of a tag only the strict form of a version counts: no letters in
front and no plus signs.
-/

namespace ReleasePlanner

namespace Version

/-- Reads the part of a strict version after the first hyphen, if there is one. -/
def strictPre? : Option (List Char) → Option (Option PreRelease)
  | none => some none
  | some pre => do
    let (identifier, iteration) ← Text.splitAtFirst? '.' pre
    if !identifier.isEmpty && identifier.all Identifier.allows then
      let n ← Text.digits? iteration
      some (some ⟨String.ofList identifier, n⟩)
    else none

/-- Reads a version in strict form, `N.N.N` or `N.N.N-id.N` with plain digits. -/
def strict? (text : List Char) : Option Version :=
  let parts := splitPre text
  match Text.splitOn '.' parts.1 with
  | [major, minor, patch] => do
    let major ← Text.digits? major
    let minor ← Text.digits? minor
    let patch ← Text.digits? patch
    let pre ← strictPre? parts.2
    some ⟨major, minor, patch, pre⟩
  | _ => none

end Version

/-- How tags are named: a version between two fixed texts. -/
structure TagPattern where
  /-- What stands before the version. -/
  lead : List Char
  /-- What stands after the version. -/
  tail : List Char
  deriving DecidableEq, Repr

namespace TagPattern

/-- Reads a pattern, which must have the placeholder of a version exactly once. -/
def ofChars (text : List Char) : Except TagError TagPattern :=
  if Text.occurrences Text.versionWord text = 1 then
    match Text.around? Text.versionWord text with
    | some (lead, tail) => .ok ⟨lead, tail⟩
    | none => .error (.placeholders (String.ofList text))
  else .error (.placeholders (String.ofList text))

/-- Reads a pattern, which must have the placeholder of a version exactly once. -/
def ofText (text : String) : Except TagError TagPattern :=
  ofChars text.toList

/-- The text of a pattern. -/
def text (p : TagPattern) : String :=
  String.ofList (p.lead ++ Text.versionWord ++ p.tail)

/-- The tag of a version. -/
def format (p : TagPattern) (v : Version) : String :=
  String.ofList (p.lead ++ v.chars ++ p.tail)

/-- The version of a tag, if the tag follows the pattern. -/
def parseChars? (p : TagPattern) (tag : List Char) : Option Version := do
  let rest ← Text.dropWord? p.lead tag
  let middle ← Text.dropWordEnd? p.tail rest
  Version.strict? middle

/-- The version of a tag, if the tag follows the pattern. -/
def parse? (p : TagPattern) (tag : String) : Option Version :=
  p.parseChars? tag.toList

/-- Whether a tag follows the pattern. -/
def accepts (p : TagPattern) (tag : String) : Bool :=
  (p.parse? tag).isSome

example : parseChars? ⟨['v'], []⟩ ['v', '1', '.', '2', '.', '3'] = some (.stable 1 2 3) := by
  decide

end TagPattern

end ReleasePlanner
