import ReleasePlanner.Proofs.Text.Pieces
import ReleasePlanner.Proofs.Text.Placeholder
import ReleasePlanner.Proofs.Text.Trim

/-!
# The lines of a text

`Text.line` is what stands before the first line feed.  Up to blanks at its
end it is the first line (`trimEnd_firstLine`).  It only depends on the line
that the text starts with, also when words are filled (`line_fill`).

No line holds a line feed (`newline_notMem_of_mem_lines`).  A text that is put
together from whole lines has those lines and no others (`Lined`).  With a line
feed at its end every text is of this kind (`lined_concat`).  Lines that are
joined by single line feeds are the lines of the text, up to blanks at their
ends (`map_trimEnd_lines_joinLines`).
-/

namespace ReleasePlanner.Text

variable {word filling front back text : List Char}

/-- What stands before the first line feed. -/
def line (text : List Char) : List Char :=
  text.takeWhile (· != '\n')

theorem line_cons (c : Char) (text : List Char) :
    line (c :: text) = if c = '\n' then [] else c :: line text := by
  rw [line, List.takeWhile_cons]
  by_cases hc : c = '\n'
  · simp [hc]
  · simp [hc, line]

theorem line_append (h : '\n' ∉ front) (back : List Char) :
    line (front ++ back) = front ++ line back := by
  induction front with
  | nil => rfl
  | cons c front ih =>
      rw [List.mem_cons, not_or] at h
      rw [List.cons_append, line_cons, if_neg (Ne.symm h.1), ih h.2]
      rfl

theorem line_eq_self (h : '\n' ∉ text) : line text = text := by
  have hline := line_append h []
  rwa [List.append_nil, show line [] = [] from rfl, List.append_nil] at hline

/-- What follows a line feed does not count. -/
theorem line_append_newline (front back : List Char) :
    line (front ++ '\n' :: back) = line front := by
  induction front with
  | nil => rfl
  | cons c front ih => rw [List.cons_append, line_cons, line_cons, ih]

/-- A text is its first line, or goes on after it with a line feed. -/
theorem eq_line_or (text : List Char) :
    text = line text ∨ ∃ rest, text = line text ++ '\n' :: rest := by
  induction text with
  | nil => exact Or.inl rfl
  | cons c text ih =>
      rw [line_cons]
      by_cases hc : c = '\n'
      · rw [if_pos hc, hc]
        exact Or.inr ⟨text, rfl⟩
      · rw [if_neg hc]
        rcases ih with h | ⟨rest, h⟩
        · exact Or.inl (congrArg (c :: ·) h)
        · exact Or.inr ⟨rest, congrArg (c :: ·) h⟩

theorem newline_notMem_line (text : List Char) : '\n' ∉ line text := by
  induction text with
  | nil => exact List.not_mem_nil
  | cons c text ih =>
      rw [line_cons]
      by_cases hc : c = '\n'
      · rw [if_pos hc]
        exact List.not_mem_nil
      · rw [if_neg hc, List.mem_cons, not_or]
        exact ⟨Ne.symm hc, ih⟩

/-! ## The first line -/

/-- The carriage return of a line end is a blank. -/
theorem dropReturn_eq_or (text : List Char) :
    dropReturn text = text ∨ text = dropReturn text ++ ['\r'] := by
  induction text using dropReturn.induct with
  | case1 => exact Or.inl rfl
  | case2 => exact Or.inr rfl
  | case3 c cs _ ih =>
      rw [dropReturn]
      · rcases ih with h | h
        · exact Or.inl (congrArg (c :: ·) h)
        · exact Or.inr (congrArg (c :: ·) h)
      · assumption

theorem dropReturn_isPrefix (text : List Char) : dropReturn text <+: text := by
  rcases dropReturn_eq_or text with h | h
  · exact ⟨[], (List.append_nil _).trans h⟩
  · exact ⟨['\r'], h.symm⟩

theorem trimEnd_dropReturn (text : List Char) : trimEnd (dropReturn text) = trimEnd text := by
  rcases dropReturn_eq_or text with h | h
  · rw [h]
  · have hblank : isBlank '\r' = true := by decide
    have htrim : trimEnd (dropReturn text ++ ['\r']) = trimEnd (dropReturn text) := by
      simp [trimEnd, hblank]
    rw [← h] at htrim
    exact htrim.symm

/-- A line without blanks at its end has no carriage return there. -/
theorem dropReturn_eq_self (h : trimEnd text = text) : dropReturn text = text := by
  rcases dropReturn_eq_or text with hsame | hreturn
  · exact hsame
  · have hlast : (trimEnd text).getLast? = some '\r' := by rw [h, hreturn, List.getLast?_concat]
    have hblank : isBlank '\r' = false := isBlank_of_getLast?_trimEnd hlast
    exact absurd hblank (by decide)

/-- Without blanks at the end, the first line is what stands before the first line feed. -/
theorem trimEnd_firstLine (text : List Char) : trimEnd (firstLine text) = trimEnd (line text) := by
  have hnot := newline_notMem_line text
  rcases eq_line_or text with h | ⟨rest, h⟩
  · rw [firstLine, lines, h, splitOn_eq_singleton hnot, closeLines, line_eq_self hnot]
    cases line text with
    | nil => rfl
    | cons c cs => rfl
  · rw [firstLine, lines, h, splitOn_append hnot, line_append_newline, line_eq_self hnot]
    cases hpieces : splitOn '\n' rest with
    | nil => exact absurd hpieces (splitOn_ne_nil _ _)
    | cons piece pieces => exact trimEnd_dropReturn _

/-! ## All lines -/

/-- A line feed ends a line, and the other lines stand behind it. -/
theorem lines_append_newline (h : '\n' ∉ front) (back : List Char) :
    lines (front ++ '\n' :: back) = dropReturn front :: lines back := by
  rw [lines, splitOn_append h, lines]
  cases hpieces : splitOn '\n' back with
  | nil => exact absurd hpieces (splitOn_ne_nil _ _)
  | cons piece pieces => rfl

theorem exists_piece_of_mem_closeLines {l : List Char} {pieces : List (List Char)}
    (h : l ∈ closeLines pieces) : ∃ piece ∈ pieces, l <+: piece := by
  induction pieces with
  | nil => cases h
  | cons piece pieces ih =>
      cases pieces with
      | nil =>
          rw [closeLines] at h
          split at h
          next => cases h
          next => exact ⟨l, h, List.prefix_rfl⟩
      | cons next pieces =>
          rcases List.mem_cons.mp h with rfl | h
          · exact ⟨piece, List.mem_cons_self, dropReturn_isPrefix piece⟩
          · obtain ⟨other, hother, starts⟩ := ih h
            exact ⟨other, List.mem_cons_of_mem _ hother, starts⟩

/-- No line holds a line feed. -/
theorem newline_notMem_of_mem_lines {l : List Char} (h : l ∈ lines text) : '\n' ∉ l := by
  obtain ⟨piece, hpiece, starts⟩ := exists_piece_of_mem_closeLines h
  exact fun hc => sep_notMem_of_mem_splitOn hpiece (starts.subset hc)

/-- The text is made of whole lines, and each of them has the property. -/
inductive Lined (P : List Char → Prop) : List Char → Prop where
  | nil : Lined P []
  | cons {front back : List Char} :
      '\n' ∉ front → P front → Lined P back → Lined P (front ++ '\n' :: back)

namespace Lined

variable {P : List Char → Prop}

theorem append (hfront : Lined P front) (hback : Lined P back) : Lined P (front ++ back) := by
  induction hfront with
  | nil => exact hback
  | cons hline h _ ih =>
      rw [List.append_assoc]
      exact .cons hline h ih

theorem flatMap {α : Type} {f : α → List Char} {as : List α} (h : ∀ a ∈ as, Lined P (f a)) :
    Lined P (as.flatMap f) := by
  induction as with
  | nil => exact .nil
  | cons a as ih =>
      rw [List.flatMap_cons]
      exact (h a List.mem_cons_self).append (ih fun b hb => h b (List.mem_cons_of_mem a hb))

theorem lines_append (h : Lined P front) (back : List Char) :
    lines (front ++ back) = lines front ++ lines back := by
  induction h with
  | nil => rfl
  | cons hline _ _ ih =>
      rw [List.append_assoc, List.cons_append, lines_append_newline hline, ih,
        lines_append_newline hline]
      rfl

/-- What a text starts with is made of whole lines when a line feed ends it. -/
theorem of_isPrefix (h : Lined P text) (empty : P [])
    (shorter : ∀ {a b : List Char}, a <+: b → P b → P a) (starts : front <+: text) :
    Lined P (front ++ ['\n']) := by
  have whole : ∀ {front line : List Char}, '\n' ∉ line → P line → front <+: line →
      Lined P (front ++ ['\n']) := fun hline hp within =>
    .cons (fun hc => hline (within.subset hc)) (shorter within hp) .nil
  induction h generalizing front with
  | nil => exact whole List.not_mem_nil empty starts
  | @cons line back hline hp _ ih =>
      obtain ⟨rest, heq⟩ := starts
      rcases List.append_eq_append_iff.mp heq with ⟨more, within, -⟩ | ⟨more, rfl, hback⟩
      · exact whole hline hp ⟨more, within.symm⟩
      · cases more with
        | nil =>
            rw [List.append_nil]
            exact whole hline hp List.prefix_rfl
        | cons c more =>
            rw [List.cons_append, List.cons.injEq] at hback
            obtain ⟨rfl, rfl⟩ := hback
            rw [List.append_assoc, List.cons_append]
            exact .cons hline hp (ih ⟨rest, rfl⟩)

theorem lines_ne_nil (h : Lined P text) (nonempty : text ≠ []) : lines text ≠ [] := by
  cases h with
  | nil => exact absurd rfl nonempty
  | cons hline _ _ =>
      rw [lines_append_newline hline]
      exact List.cons_ne_nil _ _

/-- Every line has the property together with the end that it has in the text. -/
theorem exists_of_mem_lines (h : Lined P text) {l : List Char} (hl : l ∈ lines text) :
    ∃ raw, P raw ∧ l = dropReturn raw := by
  induction h with
  | nil => cases hl
  | @cons front back hline hfront _ ih =>
      rw [lines_append_newline hline] at hl
      rcases List.mem_cons.mp hl with rfl | hl
      · exact ⟨front, hfront, rfl⟩
      · exact ih hl

end Lined

/-- With a line feed at its end any text is made of whole lines. -/
theorem lined_concat (text : List Char) : Lined (fun _ => True) (text ++ ['\n']) := by
  induction text with
  | nil => exact Lined.cons List.not_mem_nil trivial .nil
  | cons c text ih =>
      by_cases hc : c = '\n'
      · have first : Lined (fun _ => True) ([] ++ '\n' :: (text ++ ['\n'])) :=
          .cons List.not_mem_nil trivial ih
        rwa [hc]
      · generalize hends : text ++ ['\n'] = ended at ih
        cases ih with
        | nil => exact absurd hends (by simp)
        | @cons front back hline _ hback =>
            rw [List.cons_append, hends, ← List.cons_append]
            exact .cons (by simp [Ne.symm hc, hline]) trivial hback

/-- Texts that end in line feeds bring their lines along one after the other. -/
theorem lines_flatMap {α : Type} {f : α → List Char} (as : List α) :
    lines (as.flatMap fun a => f a ++ ['\n']) = as.flatMap fun a => lines (f a ++ ['\n']) := by
  induction as with
  | nil => rfl
  | cons a as ih =>
      rw [List.flatMap_cons, List.flatMap_cons, (lined_concat (f a)).lines_append, ih]

/-- A line feed behind a text that does not end in a blank only ends the last line. -/
theorem lines_concat_newline (nonempty : text ≠ []) (trimmed : trimEnd text = text) :
    lines (text ++ ['\n']) = lines text := by
  induction hn : text.length using Nat.strongRecOn generalizing text with
  | ind n ih =>
      subst hn
      by_cases more : '\n' ∈ text
      · obtain ⟨front, back, rfl, first⟩ := List.eq_append_cons_of_mem more
        have last : ∀ c, (front ++ '\n' :: back).getLast? = some c → isBlank c = false := by
          intro c hc
          rw [← trimmed] at hc
          exact isBlank_of_getLast?_trimEnd hc
        have filled : back ≠ [] := by
          rintro rfl
          exact absurd (last '\n' (by simp)) (by decide)
        have shorter : back.length < (front ++ '\n' :: back).length := by
          rw [List.length_append, List.length_cons]
          omega
        have rest : trimEnd back = back := trimEnd_eq_self fun c hc =>
          last c (by simp [List.getLast?_append, List.getLast?_cons, hc])
        rw [List.append_assoc, List.cons_append, lines_append_newline first,
          lines_append_newline first, ih back.length shorter filled rest rfl]
      · have single : lines text = [text] := by
          rw [lines, splitOn_eq_singleton more, closeLines]
          simp [nonempty]
        rw [lines_append_newline more, dropReturn_eq_self trimmed, single]
        rfl

/-! ## Joining lines -/

section Join

variable {ls : List (List Char)}

theorem splitOn_joinLines (nonempty : ls ≠ []) (h : ∀ l ∈ ls, '\n' ∉ l) :
    splitOn '\n' (joinLines ls) = ls := by
  induction ls with
  | nil => exact absurd rfl nonempty
  | cons l ls ih =>
      obtain ⟨hl, hls⟩ := List.forall_mem_cons.mp h
      cases ls with
      | nil => rw [joinLines, List.intercalate_singleton, splitOn_eq_singleton hl]
      | cons next ls =>
          have htail : splitOn '\n' (joinLines (next :: ls)) = next :: ls :=
            ih (List.cons_ne_nil _ _) hls
          rw [joinLines, List.intercalate_cons_cons, List.append_assoc, List.singleton_append,
            splitOn_append hl]
          exact congrArg (l :: ·) htail

/-- The last piece stays as it is. -/
theorem closeLines_concat {l : List Char} (front : List (List Char)) (filled : l ≠ []) :
    closeLines (front ++ [l]) = front.map dropReturn ++ [l] := by
  induction front with
  | nil => simp [closeLines, filled]
  | cons piece front ih =>
      have hclose : closeLines (piece :: (front ++ [l]))
          = dropReturn piece :: closeLines (front ++ [l]) := by
        cases front <;> rfl
      rw [List.cons_append, hclose, ih]
      rfl

/-- The lines of lines that are joined.  There is no line feed behind the last of them, so a
carriage return at its end stays. -/
theorem lines_joinLines {front : List (List Char)} {l : List Char} (filled : l ≠ [])
    (h : ∀ piece ∈ front ++ [l], '\n' ∉ piece) :
    lines (joinLines (front ++ [l])) = front.map dropReturn ++ [l] := by
  rw [lines, splitOn_joinLines (by simp) h, closeLines_concat front filled]

theorem exists_eq_concat (nonempty : ls ≠ []) (last : ls.getLast? ≠ some []) :
    ∃ front l, ls = front ++ [l] ∧ l ≠ [] := by
  refine ⟨ls.dropLast, ls.getLast nonempty, (List.dropLast_append_getLast nonempty).symm, ?_⟩
  intro hnil
  exact last (by rw [List.getLast?_eq_some_getLast nonempty, hnil])

/-- Lines that are joined are the lines of the text, up to blanks at their ends. -/
theorem map_trimEnd_lines_joinLines (nonempty : ls ≠ []) (last : ls.getLast? ≠ some [])
    (h : ∀ l ∈ ls, '\n' ∉ l) : (lines (joinLines ls)).map trimEnd = ls.map trimEnd := by
  obtain ⟨front, l, rfl, filled⟩ := exists_eq_concat nonempty last
  rw [lines_joinLines filled h, List.map_append, List.map_append, List.map_map]
  congr 1
  exact List.map_congr_left fun piece _ => trimEnd_dropReturn piece

/-- Lines without blanks at their ends are the lines of the text that they are joined to. -/
theorem lines_joinLines_of_trimmed (nonempty : ls ≠ []) (last : ls.getLast? ≠ some [])
    (h : ∀ l ∈ ls, '\n' ∉ l) (trimmed : ∀ l ∈ ls, trimEnd l = l) :
    lines (joinLines ls) = ls := by
  obtain ⟨front, l, rfl, filled⟩ := exists_eq_concat nonempty last
  have hfront : front.map dropReturn = front := by
    refine (List.map_congr_left fun piece hpiece => ?_).trans (List.map_id front)
    exact dropReturn_eq_self (trimmed piece (List.mem_append_left _ hpiece))
  rw [lines_joinLines filled h, hfront]

end Join

/-! ## Filling words -/

/-- The line that a filled text starts with comes from the line that the text starts with. -/
theorem line_fill (nonempty : word ≠ []) (hword : '\n' ∉ word) (filling text : List Char) :
    line (fill word filling text) = line (fill word filling (line text)) := by
  rcases eq_line_or text with h | ⟨rest, h⟩
  · rw [← h]
  · rw [h, fill_append_cons nonempty hword, line_append_newline, line_append_newline,
      line_eq_self (newline_notMem_line text)]

end ReleasePlanner.Text
