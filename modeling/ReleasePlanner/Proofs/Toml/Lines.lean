import ReleasePlanner.Proofs.Toml.Values

/-!
# Documents line by line

A document that is written is a sequence of lines: headers, entries with plain
values, and blank lines.  Each line does something to the tables that were read
before it (`Reading.act`), and reading the document is doing what its lines do,
one after the other (`parse?_lines`).
-/

namespace ReleasePlanner.Toml

variable {c : Char} {rest : List Char} {name last : String} {path : List String}
  {fuel : Nat} {r s : Reading} {v : Value}

/-! ## Keys -/

/-- A key that needs no quotes. -/
def IsBare (name : String) : Prop :=
  (!name.toList.isEmpty && name.toList.all inBareKey) = true

instance (name : String) : Decidable (IsBare name) :=
  inferInstanceAs (Decidable (_ = true))

/-- The text of a dotted key. -/
def dottedText (path : List String) : List Char :=
  between ['.'] (path.map fun name => renderKey name.toList)

theorem IsBare.renderKey_eq (bare : IsBare name) : renderKey name.toList = name.toList := by
  rw [renderKey]
  exact if_pos bare

theorem ne_of_inBareKey (bare : inBareKey c = true) :
    isSpace c = false ∧ c ≠ '"' ∧ c ≠ '\x27' ∧ c ≠ '#' ∧ c ≠ '\n' ∧ c ≠ '\r' ∧ c ≠ '[' ∧
      c ≠ '\ufeff' := by
  refine ⟨?_, ?_, ?_, ?_, ?_, ?_, ?_, ?_⟩
  · cases space : isSpace c with
    | false => rfl
    | true =>
        simp only [isSpace, Bool.or_eq_true, beq_iff_eq] at space
        rcases space with rfl | rfl <;> cases bare
  all_goals
    rintro rfl
    cases bare

theorem IsBare.exists_cons (bare : IsBare name) :
    ∃ c more, name.toList = c :: more ∧ inBareKey c = true := by
  rw [IsBare, Bool.and_eq_true] at bare
  cases form : name.toList with
  | nil =>
      rw [form] at bare
      cases bare.1
  | cons c more =>
      rw [form, List.all_cons, Bool.and_eq_true] at bare
      exact ⟨c, more, rfl, bare.2.1⟩

/-- A bare key is read up to the first character that cannot be in it. -/
theorem run_simpleKey (bare : IsBare name) (ended : inBareKey c = false) :
    simpleKey.run (name.toList ++ c :: rest) = some (name, c :: rest) := by
  obtain ⟨d, more, form, first⟩ := bare.exists_cons
  obtain ⟨-, double, single, -⟩ := ne_of_inBareKey first
  rw [IsBare, Bool.and_eq_true] at bare
  have taken : (name.toList ++ c :: rest).takeWhile inBareKey = name.toList := by
    rw [List.takeWhile_append_of_pos (List.all_eq_true.mp bare.2)]
    simp [ended]
  have dropped : (name.toList ++ c :: rest).dropWhile inBareKey = c :: rest := by
    rw [List.dropWhile_append_of_pos (List.all_eq_true.mp bare.2)]
    simp [ended]
  have whole : String.ofList (d :: more) = name := by rw [← form, String.ofList_toList]
  rw [form, List.cons_append] at taken dropped ⊢
  simp [simpleKey, double, single, taken, dropped, whole]

theorem dottedText_singleton (bare : IsBare name) : dottedText [name] = name.toList := by
  simp [dottedText, between, bare.renderKey_eq]

theorem dottedText_cons (bare : IsBare name) (next : String) (path : List String) :
    dottedText (name :: next :: path) = name.toList ++ '.' :: dottedText (next :: path) := by
  simp [dottedText, between, bare.renderKey_eq]

/-- No space stands before a bare key. -/
theorem IsBare.dropWhile_isSpace (bare : IsBare name) (text : List Char) :
    (name.toList ++ text).dropWhile isSpace = name.toList ++ text := by
  obtain ⟨c, more, form, first⟩ := bare.exists_cons
  rw [form]
  exact Toml.dropWhile_isSpace (ne_of_inBareKey first).1

/-- A dotted key is read up to the spaces after it. -/
theorem run_dottedKey (bare : ∀ name ∈ path, IsBare name) (some_key : path ≠ [])
    (ended : inBareKey c = false) (last : ((c :: rest).dropWhile isSpace).head? ≠ some '.')
    (enough : path.length ≤ fuel) :
    (dottedKey fuel).run (dottedText path ++ c :: rest)
      = some (path, (c :: rest).dropWhile isSpace) := by
  induction path generalizing fuel with
  | nil => exact absurd rfl some_key
  | cons name path ih =>
      have hname := bare name List.mem_cons_self
      cases fuel with
      | zero => cases enough
      | succ fuel =>
      cases path with
      | nil =>
          have skipped := run_skip?_of_ne last
          rw [dottedText_singleton hname]
          simp [dottedKey, hname.dropWhile_isSpace, run_simpleKey hname ended, skipped]
      | cons next path =>
          have later := ih (fun name listed => bare name (List.mem_cons_of_mem _ listed))
            (List.cons_ne_nil _ _) (Nat.le_of_succ_le_succ enough)
          have point : inBareKey '.' = false := by decide
          have space : isSpace '.' = false := by decide
          rw [dottedText_cons hname, List.append_assoc, List.cons_append]
          simp [dottedKey, hname.dropWhile_isSpace, run_simpleKey hname point, space, later]

theorem run_key (rest : List Char) (bare : ∀ name ∈ path ++ [last], IsBare name)
    (ended : inBareKey c = false) (after : ((c :: rest).dropWhile isSpace).head? ≠ some '.')
    (short : path.length < maxDepth) :
    key.run (dottedText (path ++ [last]) ++ c :: rest)
      = some ((path, last), (c :: rest).dropWhile isSpace) := by
  have enough : (path ++ [last]).length ≤ maxDepth := by simpa using Nat.succ_le_of_lt short
  have read := run_dottedKey bare (by simp) ended after enough
  simp [key, read]

/-! ## Lines -/

/-- A line of a document. -/
inductive Line where
  /-- A blank line. -/
  | blank
  /-- The header of a table, by its path and the last part of it. -/
  | table (path : List String) (last : String)
  /-- The header of an array of tables. -/
  | tables (path : List String) (last : String)
  /-- A key with a value. -/
  | entry (name : String) (v : Value)

namespace Line

/-- The line as it is written. -/
def text : Line → List Char
  | blank => ['\n']
  | table path last => headerLine 1 (path ++ [last])
  | tables path last => headerLine 2 (path ++ [last])
  | entry name v => entryLine name v

/-- The keys are bare and not too many, and the value is plain and not nested too deep. -/
def WellFormed : Line → Prop
  | blank => True
  | table path last => (∀ name ∈ path ++ [last], IsBare name) ∧ path.length < maxDepth
  | tables path last => (∀ name ∈ path ++ [last], IsBare name) ∧ path.length < maxDepth
  | entry name v => IsBare name ∧ v.Plain maxDepth

end Line

/-- What a line does to the tables that were read before it. -/
def Reading.act (r : Reading) : Line → Option Reading
  | .blank => some r
  | .table path last => header path last Draft.openTable r
  | .tables path last => header path last Draft.addTable r
  | .entry name v =>
    (r.root.change false (fun origin d => d.define [] name v origin) r.current .header).map
      fun root => { r with root := root }

/-- What some lines do, and then what more lines do. -/
theorem foldlM_act_append {lines more : List Line} {t : Reading}
    (first : lines.foldlM Reading.act r = some s) (second : more.foldlM Reading.act s = some t) :
    (lines ++ more).foldlM Reading.act r = some t := by
  rw [List.foldlM_append, first]
  exact second

theorem run_entry (bare : IsBare name) (plain : v.Plain maxDepth)
    (acts : r.act (.entry name v) = some s) (rest : List Char) :
    (entry r).run (entryLine name v ++ rest) = some (s, '\n' :: rest) := by
  have ended : inBareKey ' ' = false := by decide
  have blank : isSpace ' ' = true := by decide
  have equals : isSpace '=' = false := by decide
  obtain ⟨root, changed, rfl⟩ := Option.map_eq_some_iff.mp acts
  have readBy := plain.readBy (Nat.le_refl maxDepth)
  have read := readBy.run_eq '\n' rest rfl
  obtain ⟨c, more, form, starts⟩ := readBy.starts
  have visible := (ne_of_startsValue starts).1
  have bares : ∀ other ∈ [] ++ [name], IsBare other := by simpa using bare
  have keyed := run_key ('=' :: ' ' :: (v.render ++ '\n' :: rest)) bares ended
    (by simp [blank, equals]) (by decide)
  have line : entryLine name v ++ rest
      = dottedText [name] ++ ' ' :: '=' :: ' ' :: (v.render ++ '\n' :: rest) := by
    simp [entryLine, dottedText, between]
  rw [form, List.cons_append] at read keyed
  rw [List.nil_append] at keyed
  rw [line, form, List.cons_append]
  simp [entry, keyed, blank, equals, visible, read, changed]

theorem run_tableHeader (bare : ∀ name ∈ path ++ [last], IsBare name)
    (short : path.length < maxDepth) (acts : r.act (.table path last) = some s)
    (rest : List Char) :
    (tableHeader r).run (dottedText (path ++ [last]) ++ ']' :: '\n' :: rest)
      = some (s, '\n' :: rest) := by
  have ended : inBareKey ']' = false := by decide
  have space : isSpace ']' = false := by decide
  have keyed := run_key ('\n' :: rest) bare ended (by simp [space]) short
  rw [Reading.act] at acts
  simp [tableHeader, keyed, space, acts]

theorem run_tablesHeader (bare : ∀ name ∈ path ++ [last], IsBare name)
    (short : path.length < maxDepth) (acts : r.act (.tables path last) = some s)
    (rest : List Char) :
    (tablesHeader r).run (dottedText (path ++ [last]) ++ ']' :: ']' :: '\n' :: rest)
      = some (s, '\n' :: rest) := by
  have ended : inBareKey ']' = false := by decide
  have space : isSpace ']' = false := by decide
  have keyed := run_key (']' :: '\n' :: rest) bare ended (by simp [space]) short
  rw [Reading.act] at acts
  simp [tablesHeader, keyed, space, acts]

/-- The first character of a key decides what kind of line it is on. -/
theorem dottedText_start (bare : ∀ name ∈ path ++ [last], IsBare name) :
    ∃ c more, dottedText (path ++ [last]) = c :: more ∧ inBareKey c = true := by
  cases path with
  | nil =>
      have only := bare last List.mem_cons_self
      obtain ⟨c, more, form, first⟩ := only.exists_cons
      exact ⟨c, more, (dottedText_singleton only).trans form, first⟩
  | cons name path =>
      have head := bare name List.mem_cons_self
      obtain ⟨c, more, form, first⟩ := head.exists_cons
      obtain ⟨next, tail, split⟩ := List.exists_cons_of_ne_nil
        (List.append_ne_nil_of_right_ne_nil path (List.cons_ne_nil last []))
      rw [List.cons_append, split, dottedText_cons head, form]
      exact ⟨c, _, rfl, first⟩

/-- A line is read for what it does. -/
theorem run_documentLines_line {line : Line} (wellFormed : line.WellFormed)
    (acts : r.act line = some s) (rest : List Char) :
    (documentLines (fuel + 1) r).run (line.text ++ rest) = (documentLines fuel s).run rest := by
  have bracket : isSpace '[' = false := by decide
  cases line with
  | blank =>
      obtain rfl := Option.some.inj acts
      have feed : isSpace '\n' = false := by decide
      simp [documentLines, Line.text, feed]
  | table path last =>
      obtain ⟨bare, short⟩ := wellFormed
      obtain ⟨c, more, form, first⟩ := dottedText_start bare
      obtain ⟨-, -, -, -, -, -, other, -⟩ := ne_of_inBareKey first
      have read := run_tableHeader bare short acts rest
      have line : (Line.table path last).text ++ rest
          = '[' :: (dottedText (path ++ [last]) ++ ']' :: '\n' :: rest) := by
        simp [Line.text, headerLine, dottedText]
      rw [line]
      rw [form, List.cons_append] at read ⊢
      simp [documentLines, bracket, other, read]
  | tables path last =>
      obtain ⟨bare, short⟩ := wellFormed
      have read := run_tablesHeader bare short acts rest
      have line : (Line.tables path last).text ++ rest
          = '[' :: '[' :: (dottedText (path ++ [last]) ++ ']' :: ']' :: '\n' :: rest) := by
        simp [Line.text, headerLine, dottedText, List.replicate_succ]
      rw [line]
      simp [documentLines, bracket, read]
  | entry name v =>
      obtain ⟨bare, plain⟩ := wellFormed
      have read := run_entry bare plain acts rest
      obtain ⟨c, more, form, first⟩ := bare.exists_cons
      obtain ⟨space, -, -, hash, feed, ret, other, -⟩ := ne_of_inBareKey first
      have line : (Line.entry name v).text ++ rest
          = c :: (more ++ ' ' :: '=' :: ' ' :: (v.render ++ '\n' :: rest)) := by
        rw [Line.text, entryLine, bare.renderKey_eq, form]
        simp
      rw [Line.text] at line
      rw [line] at read
      rw [Line.text, line]
      simp [documentLines, space, hash, feed, ret, other, read]

/-! ## Documents -/

section Documents

variable {lines : List Line}

/-- What all lines of a document do, one after the other. -/
theorem run_documentLines (wellFormed : ∀ line ∈ lines, line.WellFormed)
    (acts : lines.foldlM Reading.act r = some s) (enough : lines.length < fuel) :
    (documentLines fuel r).run (lines.flatMap Line.text) = some (s, []) := by
  induction lines generalizing fuel r with
  | nil =>
      obtain rfl := Option.some.inj acts
      cases fuel with
      | zero => cases enough
      | succ fuel => simp [documentLines]
  | cons line lines ih =>
      rw [List.foldlM_cons] at acts
      obtain ⟨middle, first, acts⟩ := Option.bind_eq_some_iff.mp acts
      cases fuel with
      | zero => cases enough
      | succ fuel =>
          rw [List.flatMap_cons, run_documentLines_line (wellFormed line List.mem_cons_self) first]
          exact ih (fun other listed => wellFormed other (List.mem_cons_of_mem line listed)) acts
            (Nat.lt_of_succ_lt_succ enough)

/-- A line is not empty, and no mark stands in front of it. -/
theorem Line.exists_text {line : Line} (wellFormed : line.WellFormed) :
    ∃ c more, line.text = c :: more ∧ c ≠ '\ufeff' := by
  cases line with
  | blank => exact ⟨'\n', [], rfl, by decide⟩
  | table path last => exact ⟨'[', _, rfl, by decide⟩
  | tables path last => exact ⟨'[', _, rfl, by decide⟩
  | entry name v =>
      obtain ⟨c, more, form, first⟩ := wellFormed.1.exists_cons
      obtain ⟨-, -, -, -, -, -, -, mark⟩ := ne_of_inBareKey first
      refine ⟨c, more ++ ' ' :: '=' :: ' ' :: (v.render ++ ['\n']), ?_, mark⟩
      rw [text, entryLine, wellFormed.1.renderKey_eq, form]
      rfl

theorem length_le_flatMap_text (wellFormed : ∀ line ∈ lines, line.WellFormed) :
    lines.length ≤ (lines.flatMap Line.text).length := by
  induction lines with
  | nil => exact Nat.le_refl 0
  | cons line lines ih =>
      obtain ⟨c, more, form, -⟩ := Line.exists_text (wellFormed line List.mem_cons_self)
      have later := ih fun other listed => wellFormed other (List.mem_cons_of_mem line listed)
      rw [List.flatMap_cons, List.length_append, form]
      simp only [List.length_cons]
      omega

theorem dropMark_flatMap_text (wellFormed : ∀ line ∈ lines, line.WellFormed) :
    dropMark (lines.flatMap Line.text) = lines.flatMap Line.text := by
  cases lines with
  | nil => rfl
  | cons line lines =>
      obtain ⟨c, more, form, mark⟩ := Line.exists_text (wellFormed line List.mem_cons_self)
      rw [List.flatMap_cons, form, List.cons_append, dropMark]
      rintro text ⟨rfl, -⟩
      exact mark rfl

/-- A document is what its lines do. -/
theorem parse?_lines (wellFormed : ∀ line ∈ lines, line.WellFormed)
    (acts : lines.foldlM Reading.act ⟨.empty, []⟩ = some s) :
    parse? (String.ofList (lines.flatMap Line.text)) = some s.root.entries := by
  have enough := Nat.lt_succ_of_le (length_le_flatMap_text wellFormed)
  rw [parse?, String.toList_ofList, dropMark_flatMap_text wellFormed,
    run_documentLines wellFormed acts enough]
  rfl

end Documents

end ReleasePlanner.Toml
