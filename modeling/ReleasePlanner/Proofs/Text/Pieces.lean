import ReleasePlanner.Text.Lines

/-!
# Splitting texts

What `Text.splitAtFirst?` and `Text.splitOn` give for a text that is put
together from parts.  A part must not hold the separator itself.  A first
piece is found where it was put, and the search goes on behind it.
-/

namespace ReleasePlanner.Text

variable {sep : Char} {front back : List Char}

theorem splitAtFirst?_append (h : sep ∉ front) :
    splitAtFirst? sep (front ++ sep :: back) = some (front, back) := by
  induction front with
  | nil => simp [splitAtFirst?]
  | cons c front ih =>
      rw [List.mem_cons, not_or] at h
      simp [splitAtFirst?, Ne.symm h.1, ih h.2]

theorem splitAtFirst?_eq_none (h : sep ∉ front) : splitAtFirst? sep front = none := by
  induction front with
  | nil => rfl
  | cons c front ih =>
      rw [List.mem_cons, not_or] at h
      simp [splitAtFirst?, Ne.symm h.1, ih h.2]

/-- A text is split where its first separator stands. -/
theorem splitAtFirst?_eq_some {text : List Char}
    (h : splitAtFirst? sep text = some (front, back)) :
    text = front ++ sep :: back ∧ sep ∉ front := by
  induction text generalizing front with
  | nil => cases h
  | cons c text ih =>
      rw [splitAtFirst?] at h
      split at h
      next same =>
        cases h
        exact ⟨by rw [same, List.nil_append], List.not_mem_nil⟩
      next different =>
        obtain ⟨⟨tail, back⟩, hparts, h⟩ := Option.map_eq_some_iff.mp h
        cases h
        obtain ⟨rfl, hnot⟩ := ih hparts
        refine ⟨rfl, ?_⟩
        rw [List.mem_cons, not_or]
        exact ⟨Ne.symm different, hnot⟩

theorem splitOn_ne_nil (sep : Char) (text : List Char) : splitOn sep text ≠ [] := by
  cases text with
  | nil => simp [splitOn]
  | cons c text =>
      simp only [splitOn]
      split
      · simp
      · split <;> simp

theorem splitOn_eq_singleton (h : sep ∉ front) : splitOn sep front = [front] := by
  induction front with
  | nil => rfl
  | cons c front ih =>
      rw [List.mem_cons, not_or] at h
      simp [splitOn, Ne.symm h.1, ih h.2]

theorem splitOn_append (h : sep ∉ front) :
    splitOn sep (front ++ sep :: back) = front :: splitOn sep back := by
  induction front with
  | nil => simp [splitOn]
  | cons c front ih =>
      rw [List.mem_cons, not_or] at h
      simp [splitOn, Ne.symm h.1, ih h.2]

/-- No piece holds the separator. -/
theorem sep_notMem_of_mem_splitOn {piece text : List Char} (h : piece ∈ splitOn sep text) :
    sep ∉ piece := by
  induction text generalizing piece with
  | nil =>
      rw [splitOn, List.mem_singleton] at h
      rw [h]
      exact List.not_mem_nil
  | cons c text ih =>
      rw [splitOn] at h
      split at h
      next =>
        rcases List.mem_cons.mp h with rfl | h
        · exact List.not_mem_nil
        · exact ih h
      next different =>
        split at h
        next hnil => exact absurd hnil (splitOn_ne_nil _ _)
        next first pieces hpieces =>
          rw [hpieces] at ih
          rcases List.mem_cons.mp h with rfl | h
          · rw [List.mem_cons, not_or]
            exact ⟨Ne.symm different, ih List.mem_cons_self⟩
          · exact ih (List.mem_cons_of_mem _ h)

/-- A text that is not split is its only piece. -/
theorem eq_of_splitOn_eq_singleton {piece text : List Char} (h : splitOn sep text = [piece]) :
    text = piece := by
  by_cases found : sep ∈ text
  · obtain ⟨front, back, rfl, first⟩ := List.eq_append_cons_of_mem found
    rw [splitOn_append first, List.cons.injEq] at h
    exact absurd h.2 (splitOn_ne_nil _ _)
  · rw [splitOn_eq_singleton found, List.cons.injEq] at h
    exact h.1

/-- A text that is split starts with its first piece, and the other pieces are those of what
follows the separator. -/
theorem splitOn_eq_cons {piece next text : List Char} {pieces : List (List Char)}
    (h : splitOn sep text = piece :: next :: pieces) :
    ∃ back, text = piece ++ sep :: back ∧ splitOn sep back = next :: pieces := by
  by_cases found : sep ∈ text
  · obtain ⟨front, back, rfl, first⟩ := List.eq_append_cons_of_mem found
    rw [splitOn_append first, List.cons.injEq] at h
    exact ⟨back, by rw [h.1], h.2⟩
  · rw [splitOn_eq_singleton found, List.cons.injEq] at h
    cases h.2

/-- A text in three pieces. -/
theorem splitOn_eq_three_iff {a b c text : List Char} :
    splitOn sep text = [a, b, c] ↔
      text = a ++ sep :: (b ++ sep :: c) ∧ sep ∉ a ∧ sep ∉ b ∧ sep ∉ c := by
  constructor
  · intro h
    obtain ⟨back, first, rest⟩ := splitOn_eq_cons h
    obtain ⟨last, second, rest⟩ := splitOn_eq_cons rest
    rw [eq_of_splitOn_eq_singleton rest] at second
    have absent : ∀ piece ∈ [a, b, c], sep ∉ piece := fun piece hpiece =>
      sep_notMem_of_mem_splitOn (h ▸ hpiece)
    exact ⟨by rw [first, second], absent a (by simp), absent b (by simp), absent c (by simp)⟩
  · rintro ⟨rfl, ha, hb, hc⟩
    rw [splitOn_append ha, splitOn_append hb, splitOn_eq_singleton hc]

/-! ## Runs -/

section Runs

variable {α : Type} {kind : α → Bool} {run back : List α}

theorem takeWhile_run (inside : ∀ a ∈ run, kind a = true)
    (outside : ∀ a, back.head? = some a → kind a = false) :
    (run ++ back).takeWhile kind = run := by
  rw [List.takeWhile_append_of_pos inside]
  cases back with
  | nil => exact List.append_nil run
  | cons a back => simp [outside a rfl]

theorem dropWhile_run (inside : ∀ a ∈ run, kind a = true)
    (outside : ∀ a, back.head? = some a → kind a = false) :
    (run ++ back).dropWhile kind = back := by
  rw [List.dropWhile_append_of_pos inside]
  cases back with
  | nil => rfl
  | cons a back => simp [outside a rfl]

end Runs

end ReleasePlanner.Text
