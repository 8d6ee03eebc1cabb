import ReleasePlanner.Proofs.Toml.Tables

/-!
# Tables that are written

A document is written in blocks, one for each table, with blank lines between
them.  The block of a table with plain values is a header and a line for each
entry, so such tables can be written line by line.
-/

namespace ReleasePlanner.Toml

variable {es : Entries} {ts : List Entries} {path : List String} {name : String} {v : Value}
  {depth : Nat}

/-- Bare keys with plain values. -/
def PlainEntries (es : Entries) : Prop :=
  ∀ e ∈ es, IsBare e.1 ∧ e.2.Plain maxDepth

theorem Value.Plain.not_table (plain : v.Plain depth) : v.isTable = false := by
  cases plain <;> rfl

/-- A plain value has no header. -/
theorem Value.Plain.not_header (plain : v.Plain depth) : v.hasHeader = false := by
  cases plain with
  | string s => rfl
  | boolean b => rfl
  | integer fit => rfl
  | @array depth items inner =>
      cases items with
      | nil => rfl
      | cons w items => simp [hasHeader, (inner w List.mem_cons_self).not_table]

theorem plainEntries_append {fs : Entries} :
    PlainEntries (es ++ fs) ↔ PlainEntries es ∧ PlainEntries fs :=
  List.forall_mem_append

theorem hasHeader_table (es : Entries) : (Value.table es).hasHeader = true := rfl

/-- An array of tables has headers, when there are tables. -/
theorem hasHeader_tables (ts : List Entries) :
    (Value.array (ts.map .table)).hasHeader = !ts.isEmpty := by
  cases ts with
  | nil => rfl
  | cons t ts => simp [Value.hasHeader, Value.isTable]

/-! ## Lines -/

theorem wellFormed_entryLines (plain : PlainEntries es) :
    ∀ line ∈ entryLines es, line.WellFormed := by
  intro line listed
  obtain ⟨e, there, rfl⟩ := List.mem_map.mp listed
  exact plain e there

theorem wellFormed_tableLines (bare : ∀ part ∈ path ++ [name], IsBare part)
    (short : path.length < maxDepth) (plain : PlainEntries es) :
    ∀ line ∈ tableLines path name es, line.WellFormed := by
  intro line listed
  rcases List.mem_cons.mp listed with rfl | listed
  · exact ⟨bare, short⟩
  · exact wellFormed_entryLines plain line listed

theorem wellFormed_tablesLines (bare : ∀ part ∈ path ++ [name], IsBare part)
    (short : path.length < maxDepth) (plain : ∀ t ∈ ts, PlainEntries t) :
    ∀ line ∈ tablesLines path name ts, line.WellFormed := by
  intro line listed
  obtain ⟨t, there, listed⟩ := List.mem_flatMap.mp listed
  rcases List.mem_cons.mp listed with rfl | listed
  · trivial
  rcases List.mem_cons.mp listed with rfl | listed
  · exact ⟨bare, short⟩
  · exact wellFormed_entryLines (plain t there) line listed

/-! ## Blocks -/

theorem plainLines_eq (es : Entries) :
    plainLines es = (entryLines (es.filter fun e => !e.2.hasHeader)).flatMap Line.text := by
  rw [plainLines, entryLines, List.flatMap_map]
  rfl

theorem filter_of_plain (plain : PlainEntries es) :
    (es.filter fun e => !e.2.hasHeader) = es := by
  rw [List.filter_eq_self]
  intro e listed
  simp [(plain e listed).2.not_header]

theorem plainLines_of_plain (plain : PlainEntries es) :
    plainLines es = (entryLines es).flatMap Line.text := by
  rw [plainLines_eq, filter_of_plain plain]

theorem showsHeader_of_plain (plain : PlainEntries es) : showsHeader es = true := by
  cases es with
  | nil => rfl
  | cons e es => simp [showsHeader, (plain e List.mem_cons_self).2.not_header]

/-- Plain values have no blocks of their own. -/
theorem entryBlocks_of_plain (plain : PlainEntries es) (path : List String) :
    entryBlocks path es = [] := by
  induction es with
  | nil => rfl
  | cons e es ih =>
      have first := (plain e List.mem_cons_self).2.not_header
      have later := ih fun other listed => plain other (List.mem_cons_of_mem e listed)
      simp [entryBlocks, first, later]

/-- A table with plain values has one block. -/
theorem entryBlocks_table {t : Entries} (plain : PlainEntries t) (path : List String)
    (name : String) (es : Entries) :
    entryBlocks path ((name, .table t) :: es)
      = (tableLines path name t).flatMap Line.text :: entryBlocks path es := by
  have block : tableBlocks (path ++ [name]) 1 (.table t)
      = [(tableLines path name t).flatMap Line.text] := by
    rw [tableBlocks, showsHeader_of_plain plain, entryBlocks_of_plain plain,
      plainLines_of_plain plain]
    rfl
  rw [entryBlocks, block]
  rfl

theorem itemBlocks_of_plain (plain : ∀ t ∈ ts, PlainEntries t) (path : List String)
    (name : String) :
    itemBlocks (path ++ [name]) (ts.map .table)
      = ts.map fun t => (.tables path name :: entryLines t).flatMap Line.text := by
  induction ts with
  | nil => rfl
  | cons t ts ih =>
      have first := plain t List.mem_cons_self
      have later := ih fun u listed => plain u (List.mem_cons_of_mem t listed)
      rw [List.map_cons, itemBlocks, later, tableBlocks, entryBlocks_of_plain first,
        plainLines_of_plain first]
      rfl

/-- An array of tables with plain values has a block for each of them. -/
theorem entryBlocks_tables (plain : ∀ t ∈ ts, PlainEntries t) (path : List String)
    (name : String) (es : Entries) :
    entryBlocks path ((name, .array (ts.map .table)) :: es)
      = (ts.map fun t => (.tables path name :: entryLines t).flatMap Line.text)
        ++ entryBlocks path es := by
  rw [← itemBlocks_of_plain plain, entryBlocks, hasHeader_tables, tableBlocks]
  cases ts with
  | nil => rfl
  | cons t ts => rfl

/-- Each block but the first stands after a blank line. -/
theorem between_cons (sep block : List Char) (blocks : List (List Char)) :
    between sep (block :: blocks) = block ++ blocks.flatMap fun b => sep ++ b := by
  induction blocks generalizing block with
  | nil => simp [between]
  | cons next blocks ih =>
      have first : between sep (block :: next :: blocks)
          = block ++ (sep ++ between sep (next :: blocks)) := by
        simp [between, List.intercalate_cons_cons]
      rw [first, ih next, List.flatMap_cons, List.append_assoc]

end ReleasePlanner.Toml
