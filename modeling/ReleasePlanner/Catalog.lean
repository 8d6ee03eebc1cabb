/-!
# Catalogues

Entries with names, in the order of the names and each name once.  Everything
that a repository keeps by name is kept this way, so two catalogues with the
same entries are equal.
-/

namespace ReleasePlanner

/-- Entries with names. -/
abbrev Catalog (α : Type) := List (String × α)

namespace Catalog

variable {α : Type}

/-- The entry with a name. -/
def get? (c : Catalog α) (name : String) : Option α :=
  c.lookup name

/-- The names of all entries. -/
def names (c : Catalog α) : List String :=
  c.map Prod.fst

/-- The catalogue with an entry put at its name. -/
def put (name : String) (a : α) : Catalog α → Catalog α
  | [] => [(name, a)]
  | e :: es =>
    if e.1 = name then (name, a) :: es
    else if name < e.1 then (name, a) :: e :: es
    else e :: put name a es

/-- The catalogue without the entry at a name. -/
def erase (c : Catalog α) (name : String) : Catalog α :=
  c.filter fun e => e.1 != name

/-- The catalogue of some entries, where the last of each name counts. -/
def ofList (es : List (String × α)) : Catalog α :=
  es.foldl (fun c e => put e.1 e.2 c) []

example : ofList [("b", 1), ("a", 2), ("b", 3)] = [("a", 2), ("b", 3)] := by decide +kernel

end Catalog

end ReleasePlanner
