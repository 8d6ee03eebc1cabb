import ReleasePlanner.Shell.Session
import ReleasePlanner.Shell.Word
import ReleasePlanner.Text.Glob
import ReleasePlanner.Text.Lines

/-!
# Expansion of words

A word stands for a number of fields.  Variables are replaced by their values
and scripts by their output.  What comes from an unquoted part is split at
blanks, and unquoted wildcards stand for the names of files.
-/

namespace ReleasePlanner.Shell

/-- A character of a field, and whether it was quoted. -/
abbrev Mark := Char × Bool

/-- What a word is while it is split.  Quoted text makes a field even when it is empty. -/
inductive Bit where
  | mark (m : Mark)
  | split (blank : Char)
  | quotes
  deriving DecidableEq, Repr

/-- A step on sessions that may end the script. -/
abbrev Expand (α : Type) := StateM Session α

/-- The text of some marks. -/
def unmarked (ms : List Mark) : List Char :=
  ms.map Prod.fst

/-- The characters of some bits. -/
def Bit.chars (bs : List Bit) : List Char :=
  bs.filterMap fun
    | mark m => some m.1
    | split c => some c
    | quotes => none

/-- The pattern of some bits: quoted characters stand for themselves. -/
def Bit.pattern (bs : List Bit) : List Char :=
  bs.flatMap fun
    | mark (c, true) => ['\\', c]
    | mark (c, false) => [c]
    | _ => []

/-- The bits of a value: unquoted ones are split at blanks. -/
def Bit.ofValue (quoted : Bool) (cs : List Char) : List Bit :=
  let inner := cs.map fun c =>
    if !quoted && (c = ' ' || c = '\t' || c = '\n') then split c else mark (c, quoted)
  if quoted then quotes :: inner else inner

/-- The shortest or longest part that follows a pattern at the start of a text is cut off. -/
def cutStart (longest : Bool) (pattern : List Text.Glob) (cs : List Char) : List Char :=
  let sizes := List.range (cs.length + 1)
  match (if longest then sizes.reverse else sizes).find? fun n =>
      Text.Glob.isMatch pattern (cs.take n) with
  | some n => cs.drop n
  | none => cs

/-- The shortest or longest part that follows a pattern at the end of a text is cut off. -/
def cutEnd (longest : Bool) (pattern : List Text.Glob) (cs : List Char) : List Char :=
  let sizes := List.range (cs.length + 1)
  match (if longest then sizes else sizes.reverse).find? fun n =>
      Text.Glob.isMatch pattern (cs.drop n) with
  | some n => cs.take n
  | none => cs

/-- Whether a value counts as missing. -/
def isMissing (orEmpty : Bool) : Option (List Char) → Bool
  | none => true
  | some v => orEmpty && v.isEmpty

/-- The bits of a word.  Scripts in it are run by `sub`, which gives their output. -/
def bits (line : Nat) (sub : List Char → Expand String) : Word → Expand (List Bit)
  | .done => return []
  | .text quoted cs rest => do
    let more ← bits line sub rest
    let inner := cs.map fun c => Bit.mark (c, quoted)
    return (if quoted then .quotes :: inner else inner) ++ more
  | .output quoted script rest => do
    let text ← sub script
    let trimmed := (text.toList.reverse.dropWhile fun c => c = '\n').reverse
    let more ← bits line sub rest
    return Bit.ofValue quoted trimmed ++ more
  | .parameter quoted name modifier inner rest => do
    let here ← parameterBits quoted name modifier (bits line sub inner)
    let more ← bits line sub rest
    return here ++ more
where
  /-- The bits of a variable. -/
  parameterBits (quoted : Bool) (name : List Char) (modifier : Modifier)
      (inner : Expand (List Bit)) : Expand (List Bit) := do
    let value? := (← get).value? name
    let value := value?.getD []
    match modifier with
    | .value => return Bit.ofValue quoted value
    | .length => return Bit.ofValue quoted (Text.decimal value.length)
    | .fallback orEmpty =>
      if isMissing orEmpty value? then inner else return Bit.ofValue quoted value
    | .replace orEmpty =>
      if isMissing orEmpty value? then return Bit.ofValue quoted [] else inner
    | .assign orEmpty =>
      if isMissing orEmpty value? then
        let new := Bit.chars (← inner)
        modify fun s => s.assign name new
        return Bit.ofValue quoted new
      else return Bit.ofValue quoted value
    | .demand orEmpty =>
      if isMissing orEmpty value? then
        let words := Bit.chars (← inner)
        let said := if words.isEmpty then
            if orEmpty then "parameter not set or null" else "parameter not set"
          else String.ofList words
        modify fun s => (s.report line (String.ofList name ++ ": " ++ said)).stop 2
        return []
      else return Bit.ofValue quoted value
    | .cutStart longest =>
      let pattern := Text.Glob.ofText (Bit.pattern (← inner))
      return Bit.ofValue quoted (cutStart longest pattern value)
    | .cutEnd longest =>
      let pattern := Text.Glob.ofText (Bit.pattern (← inner))
      return Bit.ofValue quoted (cutEnd longest pattern value)

/-- Collects bits into fields.  `open?` is the field that has begun, newest character first. -/
def fieldsFrom : (open? : Option (List Mark)) → List Bit → List (List Mark)
  | none, [] => []
  | some ms, [] => [ms.reverse]
  | none, .split _ :: bs => fieldsFrom none bs
  | some ms, .split _ :: bs => ms.reverse :: fieldsFrom none bs
  | open?, .quotes :: bs => fieldsFrom (some (open?.getD [])) bs
  | open?, .mark m :: bs => fieldsFrom (some (m :: open?.getD [])) bs

/-- The pattern of a field. -/
def fieldPattern (ms : List Mark) : List Char :=
  ms.flatMap fun (c, quoted) => if quoted then ['\\', c] else [c]

/-- Whether a field holds a wildcard. -/
def isPattern (ms : List Mark) : Bool :=
  ms.any fun (c, quoted) => !quoted && Text.Glob.hasWildcard [c]

/-- The paths below a directory that follow the patterns of their names.  A name that begins with a
dot is only found by a pattern that begins with one. -/
def findPaths (t : FileTree) : (dir : Place) → List (List Char) → List (List String)
  | _, [] => [[]]
  | dir, p :: ps =>
    let names := (t.children dir).filter fun n =>
      Text.Glob.isMatch (Text.Glob.ofText p) n.toList
        && (n.toList.head? ≠ some '.' || p.head? = some '.')
    (names.mergeSort fun a b => decide (a ≤ b)).flatMap fun n =>
      (findPaths t (dir ++ [n]) ps).map fun rest => n :: rest

/-- The fields that a field with wildcards stands for: the paths that follow it, or itself. -/
def fileNames (s : Session) (ms : List Mark) : List String :=
  let found :=
    if isPattern ms then findPaths s.files s.dir (Text.splitOn '/' (fieldPattern ms)) else []
  if found.isEmpty then [String.ofList (unmarked ms)]
  else found.map fun names => "/".intercalate names

/-- The fields of a word. -/
def fields (line : Nat) (sub : List Char → Expand String) (w : Word) : Expand (List String) := do
  let bs ← bits line sub w
  let s ← get
  return (fieldsFrom none bs).flatMap (fileNames s)

/-- The text of a word that is not split. -/
def wholeText (line : Nat) (sub : List Char → Expand String) (w : Word) : Expand (List Char) := do
  return Bit.chars (← bits line sub w)

end ReleasePlanner.Shell
