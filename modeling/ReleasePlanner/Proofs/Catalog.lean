import ReleasePlanner.Catalog

/-!
# Looking up entries

Putting an entry at a name changes what is found under that name and nothing
else (`lookup_put`), and the other names are listed as before
(`filter_names_put`).  This holds of every list of entries, in order or not.
-/

namespace ReleasePlanner.Catalog

variable {α : Type} {name : String}

theorem lookup_cons_eq_ite (name : String) (e : String × α) (es : Catalog α) :
    (e :: es).lookup name = if name = e.1 then some e.2 else es.lookup name := by
  rw [List.lookup_cons]
  by_cases same : name = e.1
  · simp [same]
  · simp [beq_false_of_ne same, same]

/-- Only what is found under the name changes. -/
theorem lookup_put (name other : String) (a : α) (c : Catalog α) :
    (put name a c).lookup other = if other = name then some a else c.lookup other := by
  induction c with
  | nil => exact lookup_cons_eq_ite other (name, a) []
  | cons e es ih =>
      rw [put]
      split
      next same =>
        rw [lookup_cons_eq_ite, lookup_cons_eq_ite, same]
        split <;> rfl
      next different =>
        split
        next => exact lookup_cons_eq_ite other (name, a) (e :: es)
        next =>
          rw [lookup_cons_eq_ite, lookup_cons_eq_ite, ih]
          by_cases found : other = e.1
          · have hne : other ≠ name := fun same => different (found.symm.trans same)
            rw [if_pos found, if_pos found, if_neg hne]
          · rw [if_neg found, if_neg found]

/-- Names that are not the new one are listed as before. -/
theorem filter_names_put (a : α) (c : Catalog α) {keeps : String → Bool}
    (dropped : keeps name = false) :
    ((put name a c).map Prod.fst).filter keeps = (c.map Prod.fst).filter keeps := by
  induction c with
  | nil => simp [put, dropped]
  | cons e es ih =>
      rw [put]
      split
      next same => simp [same, dropped]
      next =>
        split
        next => simp [dropped]
        next => rw [List.map_cons, List.map_cons, List.filter_cons, List.filter_cons, ih]

/-- A name is listed when there is an entry under it. -/
theorem mem_names_iff {c : Catalog α} : name ∈ c.map Prod.fst ↔ ∃ a, c.lookup name = some a := by
  induction c with
  | nil => simp
  | cons e es ih =>
      rw [List.map_cons, List.mem_cons, lookup_cons_eq_ite, ih]
      by_cases same : name = e.1
      · simp [same]
      · simp [same]

end ReleasePlanner.Catalog
