import ReleasePlanner.Text.Placeholder

/-!
# Words in texts

`Text.dropWord?` and `Text.dropWordEnd?` undo putting a word in front of a
text and behind it, and they succeed on no other text.

Filling a word goes on behind every occurrence (`fill_of_around?`) and changes
nothing where there is none (`fill_eq_self`).  It can be done part by part
around a character that is not in the word (`fill_append_cons`).
-/

namespace ReleasePlanner.Text

@[simp] theorem dropWord?_append (word text : List Char) :
    dropWord? word (word ++ text) = some text := by
  induction word with
  | nil => rfl
  | cons w word ih => simp [dropWord?, ih]

/-- A word is dropped from exactly the texts that start with it. -/
theorem dropWord?_eq_some {word text rest : List Char} :
    dropWord? word text = some rest ↔ text = word ++ rest := by
  induction word generalizing text with
  | nil => simp [dropWord?, eq_comm]
  | cons w word ih =>
      cases text with
      | nil => simp [dropWord?]
      | cons c text =>
          by_cases hc : w = c
          · simp [dropWord?, hc, ih]
          · simp [dropWord?, hc, Ne.symm hc]

theorem dropWord?_eq_none {word text : List Char} :
    dropWord? word text = none ↔ ¬word <+: text := by
  rw [Option.eq_none_iff_forall_ne_some, List.IsPrefix, not_exists]
  exact forall_congr' fun rest => not_congr (dropWord?_eq_some.trans eq_comm)

@[simp] theorem dropWordEnd?_append (word text : List Char) :
    dropWordEnd? word (text ++ word) = some text := by
  simp [dropWordEnd?]

/-- A word is dropped from the end of exactly the texts that end with it. -/
theorem dropWordEnd?_eq_some {word text rest : List Char} :
    dropWordEnd? word text = some rest ↔ text = rest ++ word := by
  rw [dropWordEnd?, Option.map_eq_some_iff]
  constructor
  · rintro ⟨back, dropped, rfl⟩
    rw [← List.reverse_inj, dropWord?_eq_some.mp dropped]
    simp
  · rintro rfl
    exact ⟨rest.reverse, by simp, List.reverse_reverse rest⟩

/-! ## Filling words -/

variable {word filling text before after : List Char} {c : Char}

theorem isPrefixOf_eq_isSome_dropWord? (word text : List Char) :
    word.isPrefixOf text = (dropWord? word text).isSome := by
  induction word generalizing text with
  | nil => rfl
  | cons w word ih =>
      cases text with
      | nil => rfl
      | cons c text =>
          rw [List.isPrefixOf, dropWord?, ih]
          by_cases hc : w = c
          · simp [hc]
          · simp [hc]

/-- Passing over characters leaves what stands behind them. -/
theorem fillFrom_length (word filling skip text : List Char) :
    fillFrom word filling skip.length (skip ++ text) = fill word filling text := by
  induction skip with
  | nil => rfl
  | cons _ skip ih => exact ih

theorem fill_cons_of_none (none_here : dropWord? word (c :: text) = none) :
    fill word filling (c :: text) = c :: fill word filling text := by
  have hprefix : word.isPrefixOf (c :: text) = false := by
    rw [isPrefixOf_eq_isSome_dropWord?, none_here]
    rfl
  rw [fill, fillFrom, hprefix]
  rfl

/-- A word at the start is filled, and filling goes on behind it. -/
theorem fill_append (nonempty : word ≠ []) (filling text : List Char) :
    fill word filling (word ++ text) = filling ++ fill word filling text := by
  cases word with
  | nil => exact absurd rfl nonempty
  | cons w word =>
      have hprefix : (w :: word).isPrefixOf (w :: (word ++ text)) = true := by
        rw [isPrefixOf_eq_isSome_dropWord?, ← List.cons_append, dropWord?_append]
        rfl
      rw [List.cons_append, fill, fillFrom, hprefix, if_pos rfl, List.length_cons,
        Nat.add_sub_cancel, fillFrom_length]

/-- Nothing changes where the word does not occur. -/
theorem fill_eq_self (absent : around? word text = none) : fill word filling text = text := by
  induction text with
  | nil => rfl
  | cons c text ih =>
      rw [around?] at absent
      split at absent
      next => cases absent
      next none_here =>
        rw [Option.map_eq_none_iff] at absent
        rw [fill_cons_of_none none_here, ih absent]

/-- The first occurrence is filled, and filling goes on behind it. -/
theorem fill_of_around? (nonempty : word ≠ []) (occurs : around? word text = some (before, after)) :
    fill word filling text = before ++ (filling ++ fill word filling after) := by
  induction text generalizing before with
  | nil =>
      cases word with
      | nil => exact absurd rfl nonempty
      | cons w word => cases occurs
  | cons c text ih =>
      rw [around?] at occurs
      split at occurs
      next rest here =>
        cases occurs
        rw [dropWord?_eq_some.mp here, fill_append nonempty]
        rfl
      next none_here =>
        obtain ⟨parts, hparts, heq⟩ := Option.map_eq_some_iff.mp occurs
        cases heq
        rw [fill_cons_of_none none_here, ih hparts]
        rfl

/-- A word that a filled text starts with is there before, if it lacks the character that the
filling starts with. -/
theorem isPrefix_of_isPrefix_fill {front : List Char} (nonempty : word ≠ []) (lacks : c ∉ front)
    (starts : front <+: fill word (c :: filling) text) : front <+: text := by
  induction front generalizing text with
  | nil => exact List.nil_prefix
  | cons d front ih =>
      rw [List.mem_cons, not_or] at lacks
      cases text with
      | nil => exact starts
      | cons e text =>
          cases here : dropWord? word (e :: text) with
          | some rest =>
              rw [dropWord?_eq_some.mp here, fill_append nonempty, List.cons_append,
                List.cons_prefix_cons] at starts
              exact absurd starts.1.symm lacks.1
          | none =>
              rw [fill_cons_of_none here, List.cons_prefix_cons] at starts
              exact List.cons_prefix_cons.mpr ⟨starts.1, ih lacks.2 starts.2⟩

theorem around?_of_some (here : dropWord? word (c :: text) = some after) :
    around? word (c :: text) = some ([], after) := by
  rw [around?, here]

theorem around?_cons_of_none (none_here : dropWord? word (c :: text) = none) :
    around? word (c :: text) = (around? word text).map fun parts => (c :: parts.1, parts.2) := by
  rw [around?, none_here]

/-- The parts around an occurrence make up the text. -/
theorem eq_of_around? (occurs : around? word text = some (before, after)) :
    text = before ++ (word ++ after) := by
  induction text generalizing before with
  | nil =>
      obtain ⟨rest, here, heq⟩ := Option.map_eq_some_iff.mp occurs
      cases heq
      simpa using dropWord?_eq_some.mp here
  | cons c text ih =>
      rw [around?] at occurs
      split at occurs
      next rest here =>
        cases occurs
        simpa using dropWord?_eq_some.mp here
      next =>
        obtain ⟨parts, hparts, heq⟩ := Option.map_eq_some_iff.mp occurs
        cases heq
        rw [List.cons_append, ← ih hparts]

/-- A word that stands in a text is found. -/
theorem around?_ne_none (before : List Char) : around? word (before ++ (word ++ after)) ≠ none := by
  induction before with
  | nil =>
      rw [List.nil_append]
      cases word with
      | nil => cases after <;> exact Option.some_ne_none _
      | cons w word =>
          rw [List.cons_append, around?, ← List.cons_append, dropWord?_append]
          exact Option.some_ne_none _
  | cons c before ih =>
      rw [List.cons_append, around?]
      split
      next => exact Option.some_ne_none _
      next => rwa [Ne, Option.map_eq_none_iff]

/-- A word does not occur in a text that lacks one of its characters. -/
theorem around?_eq_none (hword : c ∈ word) (lacks : c ∉ text) : around? word text = none := by
  cases occurs : around? word text with
  | none => rfl
  | some parts =>
      obtain ⟨before, after⟩ := parts
      rw [eq_of_around? occurs] at lacks
      exact absurd (List.mem_append_right _ (List.mem_append_left _ hword)) lacks

/-! ## Counting words -/

/-- Passing over characters does not count what stands in them. -/
theorem occurrencesFrom_length (word skip text : List Char) :
    occurrencesFrom word skip.length (skip ++ text) = occurrences word text := by
  induction skip with
  | nil => rfl
  | cons _ skip ih => exact ih

theorem occurrences_cons_of_none (none_here : dropWord? word (c :: text) = none) :
    occurrences word (c :: text) = occurrences word text := by
  have hprefix : word.isPrefixOf (c :: text) = false := by
    rw [isPrefixOf_eq_isSome_dropWord?, none_here]
    rfl
  rw [occurrences, occurrencesFrom, hprefix]
  rfl

/-- A word at the start counts, and counting goes on behind it. -/
theorem occurrences_append (nonempty : word ≠ []) (text : List Char) :
    occurrences word (word ++ text) = occurrences word text + 1 := by
  cases word with
  | nil => exact absurd rfl nonempty
  | cons w word =>
      have hprefix : (w :: word).isPrefixOf (w :: (word ++ text)) = true := by
        rw [isPrefixOf_eq_isSome_dropWord?, ← List.cons_append, dropWord?_append]
        rfl
      rw [List.cons_append, occurrences, occurrencesFrom, hprefix, if_pos rfl, List.length_cons,
        Nat.add_sub_cancel, occurrencesFrom_length]

/-- A word that does not count is nowhere in the text. -/
theorem around?_eq_none_of_occurrences (nonempty : word ≠ []) (absent : occurrences word text = 0) :
    around? word text = none := by
  induction text with
  | nil =>
      cases word with
      | nil => exact absurd rfl nonempty
      | cons w word => rfl
  | cons c text ih =>
      rw [around?]
      cases here : dropWord? word (c :: text) with
      | some rest =>
          rw [dropWord?_eq_some.mp here, occurrences_append nonempty] at absent
          cases absent
      | none =>
          rw [occurrences_cons_of_none here] at absent
          rw [ih absent]
          rfl

/-- A word that a text starts with ends before every character that is not in it. -/
theorem exists_append_of_absent {front back rest : List Char} (absent : c ∉ word)
    (heq : front ++ c :: back = word ++ rest) :
    ∃ more, front = word ++ more ∧ rest = more ++ c :: back := by
  rcases List.append_eq_append_iff.mp heq with ⟨more, hword, hback⟩ | ⟨more, hfront, hrest⟩
  · cases more with
    | nil =>
        rw [List.append_nil] at hword
        exact ⟨[], by simp [hword], by simpa using hback.symm⟩
    | cons d more =>
        rw [List.cons_append, List.cons.injEq] at hback
        rw [hword, hback.1] at absent
        exact absurd (List.mem_append_right _ List.mem_cons_self) absent
  · exact ⟨more, hfront, hrest⟩

/-- The parts around a word that counts once, where its first character does not come again in it,
are the only ones. -/
theorem around?_of_occurrences {w : Char} (fresh : w ∉ word)
    (once : occurrences (w :: word) (before ++ (w :: word ++ after)) = 1) :
    around? (w :: word) (before ++ (w :: word ++ after)) = some (before, after) ∧
      around? (w :: word) after = none := by
  have nonempty : w :: word ≠ [] := List.cons_ne_nil w word
  induction before with
  | nil =>
      rw [List.nil_append] at once ⊢
      rw [occurrences_append nonempty] at once
      refine ⟨?_, around?_eq_none_of_occurrences nonempty (Nat.succ.inj once)⟩
      rw [List.cons_append, around?, ← List.cons_append, dropWord?_append]
  | cons c before ih =>
      rw [List.cons_append] at once ⊢
      cases here : dropWord? (w :: word) (c :: (before ++ (w :: word ++ after))) with
      | none =>
          rw [occurrences_cons_of_none here] at once
          rw [around?, here, (ih once).1]
          exact ⟨rfl, (ih once).2⟩
      | some rest =>
          -- A word before this one would be counted as well, and this one stands behind it.
          have starts := dropWord?_eq_some.mp here
          rw [starts, occurrences_append nonempty] at once
          obtain ⟨more, -, rfl⟩ := exists_append_of_absent fresh (List.cons.inj starts).2
          have absent := around?_eq_none_of_occurrences nonempty (Nat.succ.inj once)
          exact absurd absent (around?_ne_none more)

/-- Around a character that is not in the word, both sides are filled on their own. -/
theorem fill_append_cons (nonempty : word ≠ []) (absent : c ∉ word)
    (filling front back : List Char) :
    fill word filling (front ++ c :: back)
      = fill word filling front ++ c :: fill word filling back := by
  induction hn : front.length using Nat.strongRecOn generalizing front with
  | ind n ih =>
      subst hn
      cases hdrop : dropWord? word (front ++ c :: back) with
      | some rest =>
          obtain ⟨more, rfl, rfl⟩ := exists_append_of_absent absent (dropWord?_eq_some.mp hdrop)
          have shorter : more.length < (word ++ more).length := by
            rw [List.length_append]
            exact Nat.lt_add_of_pos_left (List.length_pos_iff.mpr nonempty)
          rw [List.append_assoc, fill_append nonempty, fill_append nonempty,
            ih more.length shorter more rfl, List.append_assoc]
      | none =>
          cases front with
          | nil => exact fill_cons_of_none hdrop
          | cons d front =>
              have hfront : dropWord? word (d :: front) = none := by
                cases here : dropWord? word (d :: front) with
                | none => rfl
                | some rest =>
                    rw [dropWord?_eq_some.mp here, List.append_assoc, dropWord?_append] at hdrop
                    cases hdrop
              rw [List.cons_append] at hdrop ⊢
              rw [fill_cons_of_none hdrop, fill_cons_of_none hfront,
                ih front.length (Nat.lt_succ_self _) front rfl]
              rfl

end ReleasePlanner.Text
