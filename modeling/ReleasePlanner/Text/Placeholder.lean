/-!
# Placeholders

Finding and filling a fixed word in a text.  Occurrences are looked for from
the left and do not overlap.  The functions carry a count of characters still
to pass over, so they are structural on the text.
-/

namespace ReleasePlanner.Text

/-- The text after `word`, when it starts with `word`. -/
def dropWord? : List Char → List Char → Option (List Char)
  | [], text => some text
  | _ :: _, [] => none
  | w :: word, c :: text => if w = c then dropWord? word text else none

/-- The text before `word`, when it ends with `word`. -/
def dropWordEnd? (word text : List Char) : Option (List Char) :=
  (dropWord? word.reverse text.reverse).map List.reverse

/-- `text` with every occurrence of `word` replaced, after passing over `skip` characters. -/
def fillFrom (word filling : List Char) : Nat → List Char → List Char
  | _, [] => []
  | skip + 1, _ :: text => fillFrom word filling skip text
  | 0, c :: text =>
    if word.isPrefixOf (c :: text) then filling ++ fillFrom word filling (word.length - 1) text
    else c :: fillFrom word filling 0 text

/-- `text` with every occurrence of `word` replaced by `filling`. -/
def fill (word filling text : List Char) : List Char :=
  fillFrom word filling 0 text

/-- How often `word` occurs in `text`, after passing over `skip` characters. -/
def occurrencesFrom (word : List Char) : Nat → List Char → Nat
  | _, [] => 0
  | skip + 1, _ :: text => occurrencesFrom word skip text
  | 0, c :: text =>
    if word.isPrefixOf (c :: text) then occurrencesFrom word (word.length - 1) text + 1
    else occurrencesFrom word 0 text

/-- How often `word` occurs in `text`. -/
def occurrences (word text : List Char) : Nat :=
  occurrencesFrom word 0 text

/-- The parts of `text` around the first occurrence of `word`. -/
def around? (word : List Char) : List Char → Option (List Char × List Char)
  | [] => (dropWord? word []).map fun tail => ([], tail)
  | c :: text =>
    match dropWord? word (c :: text) with
    | some tail => some ([], tail)
    | none => (around? word text).map fun parts => (c :: parts.1, parts.2)

/-- The word a version is written for. -/
def versionWord : List Char :=
  ['\x7b', 'v', 'e', 'r', 's', 'i', 'o', 'n', '\x7d']

/-- The word release notes are written for. -/
def notesWord : List Char :=
  ['\x7b', 'n', 'o', 't', 'e', 's', '\x7d']

example : fill ['a', 'b'] ['x'] ['a', 'b', 'a', 'a', 'b'] = ['x', 'a', 'x'] := by decide

example : around? ['a', 'b'] ['c', 'a', 'b', 'd'] = some (['c'], ['d']) := by decide

end ReleasePlanner.Text
