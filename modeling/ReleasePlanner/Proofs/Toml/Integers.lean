import ReleasePlanner.Proofs.Toml.Tables

/-!
# Integers that are read

Every integer in a document that was read fits into 64 bits with a sign
(`parse?_fits`), so it can be written and read again.  The readers of integers
check it, and whatever is made of their values, in arrays and tables, keeps it.
-/

namespace ReleasePlanner.Toml

/-! ## Values whose integers fit -/

/-- All integers in the value fit. -/
inductive Value.Fits : Value → Prop where
  | string (text : String) : Fits (.string text)
  | integer {n : Int} : fits n = true → Fits (.integer n)
  | float (text : String) : Fits (.float text)
  | boolean (b : Bool) : Fits (.boolean b)
  | datetime (text : String) : Fits (.datetime text)
  | array {items : List Value} : (∀ v ∈ items, Fits v) → Fits (.array items)
  | table {es : List (String × Value)} : (∀ e ∈ es, Fits e.2) → Fits (.table es)

/-- All integers in what a key stands for fit. -/
inductive Item.Fits : Item → Prop where
  | value {v : Value} : v.Fits → Fits (.value v)
  | table {origin : Origin} {keys : List String} {items : List Item} :
      (∀ item ∈ items, Fits item) → Fits (.table origin keys items)
  | tables {keys : List (List String)} {items : List (List Item)} :
      (∀ row ∈ items, ∀ item ∈ row, Fits item) → Fits (.tables keys items)

/-- All integers in a table that is read fit. -/
def Draft.Fits (d : Draft) : Prop :=
  ∀ item ∈ d.items, item.Fits

variable {α β : Type} {name : String} {item : Item} {v : Value} {d d' : Draft} {r s : Reading}
  {path : List String} {origin : Origin} {dotted : Bool}

namespace Draft.Fits

theorem empty : Draft.empty.Fits := by
  intro item listed
  cases listed

theorem of_get? (h : d.Fits) (found : d.get? name = some item) : item.Fits := by
  obtain ⟨e, first, rfl⟩ := Option.map_eq_some_iff.mp found
  exact h e.2 (List.of_mem_zip (List.mem_of_find?_eq_some first)).2

theorem put (h : d.Fits) (hitem : item.Fits) : (d.put name item).Fits := by
  rw [Draft.put]
  split
  · intro other listed
    simp only [← List.map_uncurry_zip_eq_zipWith, List.mem_map] at listed
    obtain ⟨⟨other, old⟩, zipped, rfl⟩ := listed
    rw [Function.uncurry_apply_pair]
    split
    · exact hitem
    · exact h old (List.of_mem_zip zipped).2
  · intro other listed
    rcases List.mem_append.mp listed with old | new
    · exact h other old
    · rw [List.mem_singleton.mp new]
      exact hitem

theorem lastOf {keys : List (List String)} {items : List (List Item)}
    (h : ∀ row ∈ items, ∀ item ∈ row, item.Fits) : (Draft.lastOf keys items).Fits := by
  intro item listed
  rw [Draft.lastOf] at listed
  rcases List.eq_nil_or_concat items with rfl | ⟨before, row, rfl⟩
  · cases listed
  · exact h row (by simp) item (by simpa using listed)

/-- What a change does at the end of a path is all it does. -/
theorem change {f : Origin → Draft → Option Draft}
    (keeps : ∀ origin d d', d.Fits → f origin d = some d' → d'.Fits) (h : d.Fits)
    (changed : d.change dotted f path origin = some d') : d'.Fits := by
  induction path generalizing origin d d' with
  | nil => exact keeps origin d d' h changed
  | cons name path ih =>
      rw [Draft.change] at changed
      split at changed
      next missing =>
        simp only [Option.bind_eq_bind, Option.bind_eq_some_iff, Option.some.injEq] at changed
        obtain ⟨inner, filled, rfl⟩ := changed
        exact h.put (.table (ih empty filled))
      next => cases changed
      next kind keys items found =>
        have old : Draft.Fits ⟨keys, items⟩ := by
          cases h.of_get? found with
          | table inner => exact inner
        split at changed
        · cases changed
        · simp only [Option.bind_eq_bind, Option.bind_eq_some_iff, Option.some.injEq] at changed
          obtain ⟨inner, filled, rfl⟩ := changed
          exact h.put (.table (ih old filled))
      next keys items found =>
        have rows : ∀ row ∈ items, ∀ item ∈ row, item.Fits := by
          cases h.of_get? found with
          | tables inner => exact inner
        simp only [Option.bind_eq_bind, Option.bind_eq_some_iff, Option.some.injEq] at changed
        obtain ⟨inner, filled, rfl⟩ := changed
        refine h.put (.tables ?_)
        intro row listed
        rcases List.mem_append.mp listed with earlier | last
        · exact rows row (List.dropLast_subset items earlier)
        · rw [List.mem_singleton.mp last]
          exact ih (lastOf rows) filled

theorem define (h : d.Fits) (hv : v.Fits) (defined : d.define path name v origin = some d') :
    d'.Fits := by
  refine change ?_ h defined
  intro kind inner inner' old changed
  split at changed
  · cases changed
  split at changed
  · cases changed
  · cases changed
    exact old.put (.value hv)

theorem openTable (h : d.Fits) (opened : d.openTable name = some d') : d'.Fits := by
  rw [Draft.openTable] at opened
  split at opened
  next =>
    cases opened
    refine h.put (.table ?_)
    intro item listed
    cases listed
  next found =>
    cases opened
    cases h.of_get? found with
    | table inner => exact h.put (.table inner)
  next => cases opened

theorem addTable (h : d.Fits) (added : d.addTable name = some d') : d'.Fits := by
  rw [Draft.addTable] at added
  split at added
  next =>
    cases added
    exact h.put (.tables (by simp))
  next found =>
    cases added
    cases h.of_get? found with
    | tables inner =>
        refine h.put (.tables ?_)
        intro row listed
        rcases List.mem_append.mp listed with earlier | last
        · exact inner row earlier
        · rw [List.mem_singleton.mp last]
          intro item listed
          cases listed
  next => cases added

end Draft.Fits

/-! ## What readers yield -/

/-- Every result of the reader has a property. -/
def Yields (P : α → Prop) (x : Reader α) : Prop :=
  ∀ text a after, x.run text = some (a, after) → P a

namespace Yields

variable {P : α → Prop} {Q : β → Prop} {x : Reader α} {f : α → Reader β} {depth fuel : Nat}

theorem pure {a : α} (h : P a) : Yields P (pure a) := by
  intro text b after run
  cases run
  exact h

theorem failure : Yields P failure := by
  intro text a after run
  cases run

theorem guarded {p : Prop} [Decidable p] : Yields (fun _ => p) (guard p : Reader Unit) := by
  intro text a after run
  by_cases h : p
  · exact h
  · rw [guard, if_neg h] at run
    cases run

/-- What the first reader yields is known to what follows it. -/
theorem bind (first : Yields P x) (next : ∀ a, P a → Yields Q (f a)) : Yields Q (x >>= f) := by
  intro text b after run
  rw [run_bind, Option.bind_eq_some_iff] at run
  obtain ⟨⟨a, middle⟩, found, run⟩ := run
  exact next a (first text a middle found) middle b after run

/-- What follows a reader yields the same, whatever was read. -/
theorem after (next : ∀ a, Yields Q (f a)) : Yields Q (x >>= f) :=
  bind (P := fun _ => True) (fun _ _ _ _ => trivial) fun a _ => next a

/-! ### Integers -/

theorem decimalNumber (negative : Bool) : Yields Value.Fits (decimalNumber negative) := by
  refine after fun whole => after fun fraction => after fun exponent => ?_
  split
  · exact bind guarded fun _ fit => pure (.integer fit)
  · exact after fun _ => pure (.float _)

theorem basedInteger (base : Nat) (isDigit : Char → Bool) :
    Yields Value.Fits (basedInteger base isDigit) :=
  after fun _ => bind guarded fun _ fit => pure (.integer fit)

theorem number : Yields Value.Fits number := by
  refine after fun text => ?_
  split
  · exact after fun _ => basedInteger _ _
  · exact after fun _ => basedInteger _ _
  · exact after fun _ => basedInteger _ _
  · refine after fun negative => after fun text => ?_
    split
    · exact after fun _ => pure (.float _)
    · exact after fun _ => pure (.float _)
    · exact decimalNumber negative

theorem dateAndTime : Yields Value.Fits dateAndTime := by
  refine after fun date => after fun text => ?_
  split
  · exact after fun _ => after fun _ => after fun _ => pure (.datetime _)
  · exact pure (.datetime _)

theorem dateOrNumber : Yields Value.Fits dateOrNumber := by
  refine after fun text => ?_
  split
  · exact dateAndTime
  split
  · exact after fun _ => pure (.datetime _)
  · exact number

/-! ### Values -/

theorem flatValue : Yields Value.Fits flatValue := by
  refine after fun text => ?_
  split
  · exact after fun _ => pure (.string _)
  · exact after fun _ => pure (.string _)
  · exact after fun _ => pure (.boolean _)
  · exact after fun _ => pure (.boolean _)
  · exact dateOrNumber

theorem arrayItems {item : Reader Value} (fitting : Yields Value.Fits item) (fuel : Nat) :
    Yields (fun items => ∀ v ∈ items, v.Fits) (arrayItems item fuel) := by
  induction fuel with
  | zero => exact failure
  | succ fuel ih =>
      refine after fun _ => after fun _ => after fun closed => ?_
      split
      · exact pure (by simp)
      · refine bind fitting fun v hv => after fun _ => after fun _ => after fun more => ?_
        split
        · refine bind ih fun items hitems => pure ?_
          intro w listed
          rcases List.mem_cons.mp listed with rfl | later
          · exact hv
          · exact hitems w later
        · exact after fun _ => pure (by simpa using hv)

theorem inlineEntries {item : Reader Value} (fitting : Yields Value.Fits item) (fuel : Nat)
    {d : Draft} (h : d.Fits) : Yields Draft.Fits (inlineEntries item fuel d) := by
  induction fuel generalizing d with
  | zero => exact failure
  | succ fuel ih =>
      refine after fun named => after fun _ => after fun _ => bind fitting fun v hv => ?_
      split
      next => exact failure
      next more defined =>
        have grown := h.define hv defined
        refine after fun _ => after fun comma => ?_
        split
        · exact ih grown
        · exact after fun _ => pure grown

end Yields

/-! ## Finished tables -/

theorem tablesOf_eq_zipWith (keys : List (List String)) (items : List (List Item)) :
    tablesOf keys items
      = List.zipWith (fun names row => .table (names.zip (row.map Item.toValue))) keys items := by
  induction keys generalizing items with
  | nil => cases items <;> rfl
  | cons names keys ih =>
      cases items with
      | nil => rfl
      | cons row items => rw [tablesOf, ih, valuesOf_eq_map, List.zipWith_cons_cons]

/-- The integers of a finished item are those that were read. -/
theorem Item.Fits.toValue (h : item.Fits) : item.toValue.Fits := by
  induction h with
  | value hv => exact hv
  | table _ ih =>
      rw [Item.toValue, valuesOf_eq_map]
      refine .table fun e listed => ?_
      obtain ⟨inner, there, same⟩ := List.mem_map.mp (List.of_mem_zip listed).2
      rw [← same]
      exact ih inner there
  | @tables keys items _ ih =>
      rw [Item.toValue, tablesOf_eq_zipWith, ← List.map_uncurry_zip_eq_zipWith]
      refine .array fun v listed => ?_
      obtain ⟨⟨names, row⟩, zipped, rfl⟩ := List.mem_map.mp listed
      refine .table fun e inside => ?_
      obtain ⟨inner, there, same⟩ := List.mem_map.mp (List.of_mem_zip inside).2
      rw [← same]
      exact ih row (List.of_mem_zip zipped).2 inner there

theorem Draft.Fits.entries (h : d.Fits) : ∀ e ∈ d.entries, e.2.Fits := by
  intro e listed
  rw [Draft.entries, valuesOf_eq_map] at listed
  obtain ⟨inner, there, same⟩ := List.mem_map.mp (List.of_mem_zip listed).2
  rw [← same]
  exact (h inner there).toValue

namespace Yields

variable {depth fuel : Nat}

theorem inlineTable {item : Reader Value} (fitting : Yields Value.Fits item) :
    Yields Value.Fits (inlineTable item) := by
  refine after fun _ => after fun closed => ?_
  split
  · exact pure (.table (by simp))
  · exact after fun _ => bind (inlineEntries fitting _ .empty) fun d h => pure (.table h.entries)

theorem value (depth : Nat) : Yields Value.Fits (value depth) := by
  induction depth with
  | zero => exact flatValue
  | succ depth ih =>
      refine after fun text => ?_
      split
      · exact after fun _ => bind (arrayItems ih _) fun items h => pure (.array h)
      · exact after fun _ => inlineTable ih
      · exact flatValue

/-! ### Documents -/

theorem tableHeader (h : r.root.Fits) : Yields (fun s => s.root.Fits) (tableHeader r) := by
  refine after fun named => after fun _ => ?_
  split
  next s acts =>
    obtain ⟨root, changed, acts⟩ := Option.bind_eq_some_iff.mp acts
    cases acts
    exact pure (.change (fun _ _ _ old opened => old.openTable opened) h changed)
  next => exact failure

theorem tablesHeader (h : r.root.Fits) : Yields (fun s => s.root.Fits) (tablesHeader r) := by
  refine after fun named => after fun _ => after fun _ => ?_
  split
  next s acts =>
    obtain ⟨root, changed, acts⟩ := Option.bind_eq_some_iff.mp acts
    cases acts
    exact pure (.change (fun _ _ _ old added => old.addTable added) h changed)
  next => exact failure

theorem entry (h : r.root.Fits) : Yields (fun s => s.root.Fits) (entry r) := by
  refine after fun named => after fun _ => after fun _ => bind (value maxDepth) fun v hv => ?_
  split
  next root changed =>
    exact pure (.change (fun _ _ _ old defined => old.define hv defined) h changed)
  next => exact failure

theorem documentLines (fuel : Nat) (h : r.root.Fits) :
    Yields (fun s => s.root.Fits) (documentLines fuel r) := by
  induction fuel generalizing r with
  | zero => exact failure
  | succ fuel ih =>
      refine after fun _ => after fun text => ?_
      split
      · exact pure h
      · exact after fun _ => ih h
      · exact after fun _ => ih h
      · exact after fun _ => ih h
      · exact after fun _ => bind (tablesHeader h) fun s hs => after fun _ => ih hs
      · exact after fun _ => bind (tableHeader h) fun s hs => after fun _ => ih hs
      · exact bind (entry h) fun s hs => after fun _ => ih hs

end Yields

/-- The integers of a document fit. -/
theorem parse?_fits {text : String} {es : Entries} (parsed : parse? text = some es) :
    ∀ e ∈ es, e.2.Fits := by
  rw [parse?] at parsed
  obtain ⟨⟨r, rest⟩, run, rfl⟩ := Option.map_eq_some_iff.mp parsed
  exact Draft.Fits.entries (Yields.documentLines _ Draft.Fits.empty _ r rest run)

end ReleasePlanner.Toml
