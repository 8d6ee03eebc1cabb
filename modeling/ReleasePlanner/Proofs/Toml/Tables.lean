import ReleasePlanner.Proofs.Toml.Lines

/-!
# Tables that grow

While a document that was written is read, every line works on the newest table,
which is the last entry of the tables around it.  `Focus` says where such a
table stands: whatever is changed at its path is changed in it, and everything
around it stays.  So an entry is added to it (`act_entry`), and a header opens a
table at the end of it (`act_table`, `act_tables`).
-/

namespace ReleasePlanner.Toml

variable {name : String} {item old : Item} {es : List (String × Item)} {path current : List String}
  {whole : Draft → Draft} {origin : Origin} {v : Value}

/-! ## Tables as lists of entries -/

/-- The table with some entries. -/
def Draft.ofItems (es : List (String × Item)) : Draft :=
  ⟨es.map Prod.fst, es.map Prod.snd⟩

namespace Draft

theorem zip_ofItems (es : List (String × Item)) :
    (ofItems es).keys.zip (ofItems es).items = es :=
  (List.zip_of_prod rfl rfl).symm

theorem find?_eq_none_of_new (new : name ∉ es.map Prod.fst) :
    es.find? (fun e => e.1 == name) = none := by
  rw [List.find?_eq_none]
  intro e listed same
  exact new (List.mem_map.mpr ⟨e, listed, by simpa using same⟩)

theorem get?_ofItems_of_new (new : name ∉ es.map Prod.fst) : (ofItems es).get? name = none := by
  rw [get?, zip_ofItems, find?_eq_none_of_new new, Option.map_none]

theorem get?_ofItems_last (new : name ∉ es.map Prod.fst) :
    (ofItems (es ++ [(name, item)])).get? name = some item := by
  simp [get?, zip_ofItems, List.find?_append, find?_eq_none_of_new new]

theorem put_ofItems (new : name ∉ es.map Prod.fst) :
    (ofItems es).put name item = ofItems (es ++ [(name, item)]) := by
  have missing : ¬(ofItems es).keys.contains name = true := by simpa [ofItems] using new
  rw [put, if_neg missing]
  simp [ofItems]

theorem put_ofItems_last (new : name ∉ es.map Prod.fst) :
    (ofItems (es ++ [(name, old)])).put name item = ofItems (es ++ [(name, item)]) := by
  have there : (ofItems (es ++ [(name, old)])).keys.contains name = true := by simp [ofItems]
  have kept : es.map (fun e => if e.1 = name then item else e.2) = es.map Prod.snd := by
    refine List.map_congr_left ?_
    intro e listed
    have other : e.1 ≠ name := fun same => new (List.mem_map.mpr ⟨e, listed, same⟩)
    rw [if_neg other]
  have lengths : (es.map Prod.fst).length = (es.map Prod.snd).length := by simp
  rw [put, if_pos there]
  simp [ofItems, List.zipWith_append lengths, List.zipWith_map, kept]

end Draft

/-! ## Where a table stands -/

/-- The table at a path that came about in some way, in a whole document: what is changed at the
path, or below it, is changed in the table. -/
structure Focus (path : List String) (origin : Origin) (whole : Draft → Draft) : Prop where
  change_eq : ∀ f more d,
    (whole d).change false f (path ++ more) .header = (d.change false f more origin).map whole

namespace Focus

/-- The whole document. -/
theorem root : Focus [] .header id where
  change_eq f more d := by simp

/-- The last entry of a table, which is a table. -/
theorem table (focus : Focus path origin whole) (new : name ∉ es.map Prod.fst) (inner : Origin) :
    Focus (path ++ [name]) inner fun d =>
      whole (.ofItems (es ++ [(name, .table inner d.keys d.items)])) where
  change_eq f more d := by
    rw [List.append_assoc, List.singleton_append, focus.change_eq, Draft.change,
      Draft.get?_ofItems_last new]
    cases changed : d.change false f more inner with
    | none => simp [changed]
    | some d' => simp [changed, Draft.put_ofItems_last new]

/-- The last table of an array of tables that is the last entry of a table. -/
theorem tables (focus : Focus path origin whole) (new : name ∉ es.map Prod.fst)
    (keys : List (List String)) (items : List (List Item)) :
    Focus (path ++ [name]) .header fun d =>
      whole (.ofItems (es ++ [(name, .tables (keys ++ [d.keys]) (items ++ [d.items]))])) where
  change_eq f more d := by
    rw [List.append_assoc, List.singleton_append, focus.change_eq, Draft.change,
      Draft.get?_ofItems_last new]
    cases changed : d.change false f more .header with
    | none => simp [Draft.lastOf, changed]
    | some d' => simp [Draft.lastOf, changed, Draft.replaceLast, Draft.put_ofItems_last new]

end Focus

/-! ## Lines in a table -/

theorem act_entry (focus : Focus path .header whole) (new : name ∉ es.map Prod.fst) :
    Reading.act ⟨whole (.ofItems es), path⟩ (.entry name v)
      = some ⟨whole (.ofItems (es ++ [(name, .value v)])), path⟩ := by
  have changed := focus.change_eq (fun origin d => d.define [] name v origin) [] (.ofItems es)
  have missing : ¬(Draft.ofItems es).keys.contains name = true := by
    simpa [Draft.ofItems] using new
  rw [List.append_nil] at changed
  rw [Reading.act, changed]
  simp only [Draft.change, Draft.define]
  rw [if_neg (by decide), if_neg missing, Draft.put_ofItems new]
  rfl

/-- The values of a table as its entries. -/
def valueItems (es : Entries) : List (String × Item) :=
  es.map fun e => (e.1, .value e.2)

/-- The lines of the entries of a table. -/
def entryLines (es : Entries) : List Line :=
  es.map fun e => .entry e.1 e.2

theorem foldlM_entries (focus : Focus path .header whole) {more : Entries}
    (new : (es.map Prod.fst ++ more.map Prod.fst).Nodup) :
    (entryLines more).foldlM Reading.act ⟨whole (.ofItems es), path⟩
      = some ⟨whole (.ofItems (es ++ valueItems more)), path⟩ := by
  induction more generalizing es with
  | nil => simp [entryLines, valueItems]
  | cons e more ih =>
      have first : e.1 ∉ es.map Prod.fst := fun listed =>
        (List.nodup_append.mp new).2.2 e.1 listed e.1 List.mem_cons_self rfl
      have later : ((es ++ [(e.1, Item.value e.2)]).map Prod.fst ++ more.map Prod.fst).Nodup := by
        simpa using new
      have rest := ih later
      rw [entryLines, List.map_cons, List.foldlM_cons, act_entry focus first]
      simpa [entryLines, valueItems] using rest

/-- Entries fill an empty table. -/
theorem foldlM_entries_empty (focus : Focus path .header whole) {inner : Entries}
    (distinct : (inner.map Prod.fst).Nodup) :
    (entryLines inner).foldlM Reading.act ⟨whole (.ofItems []), path⟩
      = some ⟨whole (.ofItems (valueItems inner)), path⟩ :=
  foldlM_entries focus distinct

/-! ## Headers -/

theorem act_table (focus : Focus path origin whole) (new : name ∉ es.map Prod.fst) :
    Reading.act ⟨whole (.ofItems es), current⟩ (.table path name)
      = some ⟨whole (.ofItems (es ++ [(name, .table .header [] [])])), path ++ [name]⟩ := by
  have changed := focus.change_eq (fun _ d => Draft.openTable name d) [] (.ofItems es)
  rw [List.append_nil] at changed
  rw [Reading.act, header, changed]
  simp [Draft.change, Draft.openTable, Draft.get?_ofItems_of_new new, Draft.put_ofItems new]

/-- The item of a table with some items. -/
def tableItem (es : List (String × Item)) : Item :=
  .table .header (Draft.ofItems es).keys (Draft.ofItems es).items

/-- The lines of a table. -/
def tableLines (path : List String) (name : String) (es : Entries) : List Line :=
  .table path name :: entryLines es

theorem foldlM_table (focus : Focus path origin whole) (new : name ∉ es.map Prod.fst)
    {inner : Entries} (distinct : (inner.map Prod.fst).Nodup) :
    (tableLines path name inner).foldlM Reading.act ⟨whole (.ofItems es), current⟩
      = some ⟨whole (.ofItems (es ++ [(name, tableItem (valueItems inner))])), path ++ [name]⟩ := by
  have filled := foldlM_entries_empty (focus.table new .header) distinct
  rw [tableLines, List.foldlM_cons, act_table focus new]
  exact filled

/-! ## Arrays of tables -/

/-- The item of an array of tables with values. -/
def tablesItem (ts : List Entries) : Item :=
  .tables (ts.map fun t => (Draft.ofItems (valueItems t)).keys)
    (ts.map fun t => (Draft.ofItems (valueItems t)).items)

/-- The lines of an array of tables, with a blank line before each of them. -/
def tablesLines (path : List String) (name : String) (ts : List Entries) : List Line :=
  ts.flatMap fun t => .blank :: .tables path name :: entryLines t

theorem act_tables_new (focus : Focus path origin whole) (new : name ∉ es.map Prod.fst) :
    Reading.act ⟨whole (.ofItems es), current⟩ (.tables path name)
      = some ⟨whole (.ofItems (es ++ [(name, .tables [[]] [[]])])), path ++ [name]⟩ := by
  have changed := focus.change_eq (fun _ d => Draft.addTable name d) [] (.ofItems es)
  rw [List.append_nil] at changed
  rw [Reading.act, header, changed]
  simp [Draft.change, Draft.addTable, Draft.get?_ofItems_of_new new, Draft.put_ofItems new]

theorem act_tables (focus : Focus path origin whole) (new : name ∉ es.map Prod.fst)
    (keys : List (List String)) (items : List (List Item)) :
    Reading.act ⟨whole (.ofItems (es ++ [(name, .tables keys items)])), current⟩ (.tables path name)
      = some ⟨whole (.ofItems (es ++ [(name, .tables (keys ++ [[]]) (items ++ [[]]))])),
        path ++ [name]⟩ := by
  have changed := focus.change_eq (fun _ d => Draft.addTable name d) []
    (.ofItems (es ++ [(name, .tables keys items)]))
  rw [List.append_nil] at changed
  rw [Reading.act, header, changed]
  simp [Draft.change, Draft.addTable, Draft.get?_ofItems_last new, Draft.put_ofItems_last new]

/-- One more table is added to an array that is there. -/
theorem foldlM_oneMore (focus : Focus path origin whole) (new : name ∉ es.map Prod.fst)
    (done : List Entries) {t : Entries} (distinct : (t.map Prod.fst).Nodup) :
    (.blank :: .tables path name :: entryLines t).foldlM Reading.act
        ⟨whole (.ofItems (es ++ [(name, tablesItem done)])), current⟩
      = some ⟨whole (.ofItems (es ++ [(name, tablesItem (done ++ [t]))])), path ++ [name]⟩ := by
  have filled := foldlM_entries_empty (focus.tables new
    (done.map fun t => (Draft.ofItems (valueItems t)).keys)
    (done.map fun t => (Draft.ofItems (valueItems t)).items)) distinct
  rw [List.foldlM_cons, Reading.act, Option.bind_eq_bind, Option.bind_some, List.foldlM_cons,
    tablesItem, act_tables focus new, Option.bind_eq_bind, Option.bind_some, tablesItem,
    List.map_append, List.map_append]
  exact filled

/-- The first table of an array. -/
theorem foldlM_firstTable (focus : Focus path origin whole) (new : name ∉ es.map Prod.fst)
    {t : Entries} (distinct : (t.map Prod.fst).Nodup) :
    (.blank :: .tables path name :: entryLines t).foldlM Reading.act
        ⟨whole (.ofItems es), current⟩
      = some ⟨whole (.ofItems (es ++ [(name, tablesItem [t])])), path ++ [name]⟩ := by
  have filled := foldlM_entries_empty (focus.tables new [] []) distinct
  rw [List.foldlM_cons, Reading.act, Option.bind_eq_bind, Option.bind_some, List.foldlM_cons,
    act_tables_new focus new]
  exact filled

theorem foldlM_moreTables (focus : Focus path origin whole) (new : name ∉ es.map Prod.fst)
    (done : List Entries) {more : List Entries}
    (distinct : ∀ t ∈ more, (t.map Prod.fst).Nodup) :
    (tablesLines path name more).foldlM Reading.act
        ⟨whole (.ofItems (es ++ [(name, tablesItem done)])), path ++ [name]⟩
      = some ⟨whole (.ofItems (es ++ [(name, tablesItem (done ++ more))])), path ++ [name]⟩ := by
  induction more generalizing done with
  | nil => simp [tablesLines]
  | cons t more ih =>
      have later := ih (done ++ [t]) fun u listed => distinct u (List.mem_cons_of_mem t listed)
      rw [List.append_assoc, List.singleton_append] at later
      rw [tablesLines, List.flatMap_cons, List.foldlM_append,
        foldlM_oneMore focus new done (distinct t List.mem_cons_self)]
      exact later

/-- An array of tables is opened and filled. -/
theorem foldlM_tables (focus : Focus path origin whole) (new : name ∉ es.map Prod.fst)
    {ts : List Entries} (some_table : ts ≠ []) (distinct : ∀ t ∈ ts, (t.map Prod.fst).Nodup) :
    (tablesLines path name ts).foldlM Reading.act ⟨whole (.ofItems es), current⟩
      = some ⟨whole (.ofItems (es ++ [(name, tablesItem ts)])), path ++ [name]⟩ := by
  obtain ⟨t, more, rfl⟩ := List.exists_cons_of_ne_nil some_table
  rw [tablesLines, List.flatMap_cons, List.foldlM_append,
    foldlM_firstTable focus new (distinct t List.mem_cons_self)]
  exact foldlM_moreTables focus new [t] fun u listed => distinct u (List.mem_cons_of_mem t listed)

/-! ## Finished tables -/

theorem valuesOf_eq_map (items : List Item) : valuesOf items = items.map Item.toValue := by
  induction items with
  | nil => rfl
  | cons item items ih => rw [valuesOf, ih, List.map_cons]

theorem entries_ofItems (es : List (String × Item)) :
    (Draft.ofItems es).entries = es.map fun e => (e.1, e.2.toValue) := by
  simp [Draft.entries, Draft.ofItems, valuesOf_eq_map, List.zip_map', Function.comp_def]

theorem toValue_tableItem (es : List (String × Item)) :
    (tableItem es).toValue = .table (es.map fun e => (e.1, e.2.toValue)) := by
  rw [tableItem, Item.toValue]
  exact congrArg Value.table (entries_ofItems es)

theorem toValue_valueItems (es : Entries) :
    (valueItems es).map (fun e => (e.1, e.2.toValue)) = es := by
  simp [valueItems, Item.toValue, Function.comp_def]

theorem toValue_tablesItem (ts : List Entries) :
    (tablesItem ts).toValue = .array (ts.map .table) := by
  rw [tablesItem, Item.toValue]
  congr 1
  induction ts with
  | nil => rfl
  | cons t ts ih =>
      have first : (Draft.ofItems (valueItems t)).entries = t := by
        rw [entries_ofItems, toValue_valueItems]
      rw [List.map_cons, List.map_cons, tablesOf, ih]
      exact congrArg (Value.table · :: ts.map Value.table) first

end ReleasePlanner.Toml
