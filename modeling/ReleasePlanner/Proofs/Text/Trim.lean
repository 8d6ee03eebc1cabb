import Mathlib.Data.List.Basic
import Mathlib.Data.List.Induction
import Mathlib.Data.List.TakeWhile
import ReleasePlanner.Text.Blank
import ReleasePlanner.Text.Lines

/-!
# Trimmed texts

A text without a blank at its end is what trimming leaves (`trimEnd_eq_self`),
and trimming leaves no other texts (`isBlank_of_getLast?_trimEnd`).  Such a text
is empty when it holds blanks only (`allBlank_eq_false`), and lines that are put
together end as the last of them does (`getLast?_joinLines`).
-/

namespace ReleasePlanner.Text

variable {text : List Char} {c : Char}

theorem trimEnd_concat (text : List Char) (c : Char) :
    trimEnd (text ++ [c]) = if isBlank c then trimEnd text else text ++ [c] := by
  rw [trimEnd, List.reverse_concat, List.dropWhile_cons]
  split
  next => rfl
  next => simp

/-- No blank is left at the end. -/
theorem isBlank_of_getLast?_trimEnd (h : (trimEnd text).getLast? = some c) : isBlank c = false := by
  induction text using List.reverseRecOn with
  | nil => cases h
  | append_singleton text d ih =>
      rw [trimEnd_concat] at h
      split at h
      next => exact ih h
      next hd =>
        rw [List.getLast?_concat, Option.some.injEq] at h
        rw [← h]
        exact (Bool.not_eq_true _).mp hd

theorem trimEnd_eq_self (h : ∀ c, text.getLast? = some c → isBlank c = false) :
    trimEnd text = text := by
  induction text using List.reverseRecOn with
  | nil => rfl
  | append_singleton front c =>
      rw [trimEnd_concat, h c List.getLast?_concat]
      rfl

@[simp]
theorem trimEnd_trimEnd (text : List Char) : trimEnd (trimEnd text) = trimEnd text :=
  trimEnd_eq_self fun _ => isBlank_of_getLast?_trimEnd

@[simp]
theorem trimEnd_trim (text : List Char) : trimEnd (trim text) = trim text :=
  trimEnd_trimEnd (trimStart text)

/-- Behind a text that does not end in a blank, only the rest is trimmed. -/
theorem trimEnd_append {front : List Char} (trimmed : trimEnd front = front) (back : List Char) :
    trimEnd (front ++ back) = front ++ trimEnd back := by
  induction back using List.reverseRecOn with
  | nil => rw [List.append_nil, trimmed]; exact (List.append_nil front).symm
  | append_singleton back c ih =>
      rw [← List.append_assoc, trimEnd_concat, trimEnd_concat, ih]
      split
      next => rfl
      next => exact List.append_assoc front back [c]

theorem trimEnd_isPrefix (text : List Char) : trimEnd text <+: text := by
  have hsuffix := List.reverse_prefix.mpr (List.dropWhile_suffix (l := text.reverse) isBlank)
  rwa [List.reverse_reverse] at hsuffix

/-- Where trimming leaves nothing there were only blanks. -/
theorem isBlank_of_trimEnd_eq_nil (h : trimEnd text = []) (hc : c ∈ text) : isBlank c = true := by
  rw [trimEnd, List.reverse_eq_nil_iff, List.dropWhile_eq_nil_iff] at h
  exact h c (List.mem_reverse.mpr hc)

/-- Every character of a trimmed text was there before. -/
theorem trim_subset (text : List Char) : trim text ⊆ text := by
  intro c hc
  exact (List.dropWhile_suffix isBlank).subset ((trimEnd_isPrefix _).subset hc)

/-- A trimmed text with a character in it does not hold blanks only. -/
theorem allBlank_eq_false (h : trimEnd text = text) (hne : text ≠ []) : allBlank text = false := by
  have hlast : text.getLast? = some (text.getLast hne) := List.getLast?_eq_some_getLast hne
  have hblank : isBlank (text.getLast hne) = false := isBlank_of_getLast?_trimEnd (by rwa [h])
  rw [allBlank, List.all_eq_false]
  exact ⟨_, List.getLast_mem hne, by rw [hblank]; exact Bool.false_ne_true⟩

/-- Lines that are put together end as the last of them does. -/
theorem getLast?_joinLines {ls : List (List Char)} {l : List Char} (last : ls.getLast? = some l)
    (hne : l ≠ []) : (joinLines ls).getLast? = l.getLast? := by
  induction ls with
  | nil => cases last
  | cons first ls ih =>
      cases ls with
      | nil =>
          rw [List.getLast?_singleton, Option.some.injEq] at last
          rw [joinLines, List.intercalate_singleton, last]
      | cons second ls =>
          have hrest := ih last
          have filled : joinLines (second :: ls) ≠ [] := by
            intro hnil
            rw [hnil] at hrest
            exact hne (List.getLast?_eq_none_iff.mp hrest.symm)
          rw [joinLines, List.intercalate_cons_cons]
          exact (List.getLast?_append_of_ne_nil _ filled).trans hrest

end ReleasePlanner.Text
