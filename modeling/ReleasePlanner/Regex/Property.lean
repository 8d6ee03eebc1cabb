import ReleasePlanner.Regex.Syntax
import ReleasePlanner.Text.Unicode.Category
import ReleasePlanner.Text.Unicode.Property
import ReleasePlanner.Text.Unicode.Script

/-!
# Named classes

The sets of characters that a regular expression calls by name: Unicode
properties as in `\p{Greek}`, and the ASCII classes as in `[[:alpha:]]`.
Property names are compared without regard to case, blanks, hyphens,
underscores and a leading `is`.
-/

namespace ReleasePlanner.Regex

open Text (CodeRanges)

/-- The form in which names of properties are compared. -/
def looseName (name : List Char) : String :=
  let (body, marked) :=
    match name with
    | a :: b :: rest =>
      if (a == 'i' || a == 'I') && (b == 's' || b == 'S') then (rest, true) else (name, false)
    | _ => (name, false)
  let kept := (body.filter fun c => c.toNat < 128 && c != ' ' && c != '_' && c != '-').map
    Char.toLower
  if marked && kept == ['c'] then "isc" else String.ofList kept

/-- The entry of a name in a list of names. -/
def named? {α : Type} (table : List (List String × α)) (name : String) : Option α :=
  (table.find? fun entry => entry.1.contains name).map Prod.snd

/-- The union of some tables. -/
def ofTables (tables : List CodeRanges) : CharSet :=
  tables.foldr (fun t s => .union (.table t) s) .none

/-- The set of a general category. -/
def categorySet? (name : String) : Option CharSet :=
  match name with
  | "any" => some .all
  | "ascii" => some (.range 0 127)
  | "assigned" => some (ofTables Text.assignedCategories)
  | "cn" | "unassigned" => some (.compl (ofTables Text.assignedCategories))
  | "c" | "other" =>
    some (.union (ofTables [Text.categoryCc, Text.categoryCf, Text.categoryCo])
      (.compl (ofTables Text.assignedCategories)))
  | _ => (named? Text.categoryNames name).map ofTables

/-- The set of a script. -/
def scriptSet? (name : String) : Option CharSet :=
  (named? Text.scriptNames name).map .table

/-- Names of properties with values that are short names of a category as well. -/
def ambiguousNames : List String := ["cf", "sc", "lc"]

/-- The set of a name that stands alone: a property, a category or a script. -/
def propertySet? (name : List Char) : Option CharSet :=
  let n := looseName name
  let property := if ambiguousNames.contains n then none else named? Text.propertyNames n
  (property.map .table).orElse fun _ => (categorySet? n).orElse fun _ => scriptSet? n

/-- The set of the characters for which a property has a value. -/
def valueSet? (property value : List Char) : Option CharSet :=
  let v := looseName value
  match looseName property with
  | "gc" | "generalcategory" => categorySet? v
  | "sc" | "script" => scriptSet? v
  | _ => none

/-- The set of an ASCII class. -/
def asciiSet? (name : String) : Option CharSet :=
  let digits : CharSet := .range 48 57
  let upper : CharSet := .range 65 90
  let lower : CharSet := .range 97 122
  let alpha : CharSet := .union upper lower
  match name with
  | "alnum" => some (.union digits alpha)
  | "alpha" => some alpha
  | "ascii" => some (.range 0 127)
  | "blank" => some (.union (.range 9 9) (.range 32 32))
  | "cntrl" => some (.union (.range 0 31) (.range 127 127))
  | "digit" => some digits
  | "graph" => some (.range 33 126)
  | "lower" => some lower
  | "print" => some (.range 32 126)
  | "punct" =>
    some (.union (.union (.range 33 47) (.range 58 64)) (.union (.range 91 96) (.range 123 126)))
  | "space" => some (.union (.range 9 13) (.range 32 32))
  | "upper" => some upper
  | "word" => some (.union (.union digits alpha) (.range 95 95))
  | "xdigit" => some (.union digits (.union (.range 65 70) (.range 97 102)))
  | _ => none

end ReleasePlanner.Regex
