import ReleasePlanner.Proofs.Regex.Matcher

/-!
# What expressions take

Which parts of a text an expression takes, told by its shape.  A sequence takes
the parts of its members one behind the other (`takes_seq_cons_iff`), a run of a
set takes any number of its members (`takes_run_iff`), and what is not required
takes nothing or what it would take (`takes_optional_iff`).

An expression that is bound to both ends of a text and has fixed words there
leaves no choice where its middle is taken (`matchesIn_bound_iff`), so nothing
depends on which of several matches is looked for first.
-/

namespace ReleasePlanner

/-- One or more decimal digits, of any script. -/
structure Text.DigitRun (cs : List Char) : Prop where
  nonempty : cs ≠ []
  digits : ∀ c ∈ cs, isDecimalDigit c = true

/-- The ten digits of ASCII are among the decimal digits of all scripts. -/
theorem Text.isDecimalDigit_of_isDigit {c : Char} (h : c.isDigit = true) :
    isDecimalDigit c = true := by
  have small : c.toNat < 128 := by
    have hle : c.toNat ≤ 57 := (Char.isDigit_iff_toNat.mp h).2
    omega
  rw [isDecimalDigit, if_pos small]
  exact h

theorem Regex.CharSet.contains_single_iff {c d : Char} :
    (single c).contains d.toNat = true ↔ d = c := by
  simp only [single, contains, Bool.and_eq_true, decide_eq_true_iff]
  constructor
  · rintro ⟨lower, upper⟩
    exact Char.toNat_inj.mp (Nat.le_antisymm upper lower)
  · rintro rfl
    exact ⟨Nat.le_refl _, Nat.le_refl _⟩

namespace Regex.Re

variable {text before taken after word : List Char} {a b : Re} {as : List Re} {s : CharSet}
variable {i j min : Nat} {ascii : Bool}

/-! ## Places and parts -/

/-- An expression does not lead out of a text. -/
theorem Moves.le_length (h : a.Moves text i j) (inside : i ≤ text.length) : j ≤ text.length := by
  induction a generalizing i j with
  | empty => exact h ▸ inside
  | set s =>
      obtain ⟨rfl, c, found, -⟩ := h
      exact (List.getElem?_eq_some_iff.mp found).1
  | look ascii a => exact h.1 ▸ inside
  | cat a b iha ihb =>
      obtain ⟨k, first, second⟩ := h
      exact ihb second (iha first inside)
  | alt a b iha ihb => exact h.elim (iha · inside) (ihb · inside)
  | rep min max a ih =>
      obtain ⟨more, -, moves⟩ := h
      generalize min + more = n at moves
      induction n generalizing i with
      | zero => exact moves ▸ inside
      | succ n ihn =>
          obtain ⟨k, move, rest⟩ := moves
          exact ihn (ih move inside) rest

/-- Between two places stands a part of the text. -/
theorem exists_part (forward : i ≤ j) (inside : j ≤ text.length) :
    ∃ before taken after, text = before ++ (taken ++ after) ∧ i = before.length ∧
      j = (before ++ taken).length := by
  obtain ⟨d, rfl⟩ := Nat.exists_eq_add_of_le forward
  refine ⟨text.take i, (text.drop i).take d, (text.drop i).drop d, ?_, ?_, ?_⟩
  · rw [List.take_append_drop, List.take_append_drop]
  · rw [List.length_take]
    omega
  · rw [List.length_append, List.length_take, List.length_take, List.length_drop]
    omega

/-- A match is a part of the text that the expression takes. -/
theorem matchesIn_iff_takes :
    a.matchesIn text = true ↔
      ∃ before taken after, text = before ++ (taken ++ after) ∧ a.Takes before taken after := by
  constructor
  · intro found
    obtain ⟨i, j, inside, moves⟩ := matchesIn_iff.mp found
    obtain ⟨before, taken, after, rfl, rfl, rfl⟩ := exists_part moves.le (moves.le_length inside)
    exact ⟨before, taken, after, rfl, moves⟩
  · rintro ⟨before, taken, after, rfl, takes⟩
    exact matchesIn_of_takes takes

/-! ## Shapes -/

theorem takes_textStart_iff :
    (look ascii .textStart).Takes before taken after ↔ before = [] ∧ taken = [] := by
  constructor
  · rintro ⟨still, holds⟩
    have nothing : taken = [] := by simpa using still
    cases before with
    | nil => exact ⟨rfl, nothing⟩
    | cons c before =>
        simp only [Assertion.holds, around?, List.length_cons, Nat.add_one_ne_zero, if_false,
          Nat.add_sub_cancel, Option.isNone_iff_eq_none, List.getElem?_eq_none_iff,
          List.length_append] at holds
        omega
  · rintro ⟨rfl, rfl⟩
    exact .textStart

theorem takes_textEnd_iff :
    (look ascii .textEnd).Takes before taken after ↔ taken = [] ∧ after = [] := by
  simp only [Takes, Moves, Assertion.holds, around?]
  constructor
  · rintro ⟨still, holds⟩
    have nothing : taken = [] := by simpa using still
    subst nothing
    simpa using holds
  · rintro ⟨rfl, rfl⟩
    simp

theorem takes_set_iff :
    (set s).Takes before taken after ↔ ∃ c, taken = [c] ∧ s.contains c.toNat = true := by
  constructor
  · rintro ⟨next, c, found, member⟩
    have one : taken.length = 1 := by simpa using next
    obtain ⟨d, rfl⟩ := List.length_eq_one_iff.mp one
    obtain rfl : d = c := by simpa using found
    exact ⟨d, rfl, member⟩
  · rintro ⟨c, rfl, member⟩
    exact .set member

theorem takes_single_iff {c : Char} : (set (.single c)).Takes before taken after ↔ taken = [c] := by
  simp only [takes_set_iff, CharSet.contains_single_iff, exists_eq_right]

/-- One part is taken behind the other. -/
theorem takes_cat_iff :
    (cat a b).Takes before taken after ↔
      ∃ xs ys, taken = xs ++ ys ∧ a.Takes before xs (ys ++ after) ∧
        b.Takes (before ++ xs) ys after := by
  constructor
  · rintro ⟨k, first, second⟩
    obtain ⟨d, rfl⟩ := Nat.exists_eq_add_of_le first.le
    have inside : d ≤ taken.length := by simpa using second.le
    obtain ⟨xs, ys, rfl, rfl⟩ : ∃ xs ys, taken = xs ++ ys ∧ d = xs.length :=
      ⟨taken.take d, taken.drop d, (List.take_append_drop d taken).symm, by simp [inside]⟩
    refine ⟨xs, ys, rfl, ?_, ?_⟩
    · simpa [Takes] using first
    · simpa [Takes] using second
  · rintro ⟨xs, ys, rfl, first, second⟩
    exact first.cat second

theorem takes_seq_cons_iff (more : as ≠ []) :
    (seq (a :: as)).Takes before taken after ↔
      ∃ xs ys, taken = xs ++ ys ∧ a.Takes before xs (ys ++ after) ∧
        (seq as).Takes (before ++ xs) ys after := by
  cases as with
  | nil => exact absurd rfl more
  | cons b bs => exact takes_cat_iff

theorem takes_seq_single_iff : (seq [a]).Takes before taken after ↔ a.Takes before taken after :=
  Iff.rfl

/-- A word is taken where it stands. -/
theorem takes_seq_spell_iff (more : as ≠ []) :
    (seq (spell word ++ as)).Takes before taken after ↔
      ∃ ys, taken = word ++ ys ∧ (seq as).Takes (before ++ word) ys after := by
  induction word generalizing before taken with
  | nil => simp [spell]
  | cons c word ih =>
      have others : spell word ++ as ≠ [] := by simp [more]
      refine (takes_seq_cons_iff others).trans ?_
      simp only [ih, takes_single_iff]
      constructor
      · rintro ⟨_, _, rfl, rfl, ys, rfl, rest⟩
        exact ⟨ys, rfl, by simpa using rest⟩
      · rintro ⟨ys, rfl, rest⟩
        exact ⟨[c], word ++ ys, rfl, rfl, ys, rfl, by simpa using rest⟩

theorem repeats_set {n : Nat}
    (h : Repeats ((set s).Moves (before ++ (taken ++ after))) n before.length
      (before ++ taken).length) :
    n = taken.length ∧ ∀ c ∈ taken, s.contains c.toNat = true := by
  induction n generalizing before taken with
  | zero =>
      have nothing : taken = [] := by simpa [Repeats] using h
      simp [nothing]
  | succ n ih =>
      obtain ⟨k, ⟨rfl, c, found, member⟩, rest⟩ := h
      have forward : before.length + 1 ≤ (before ++ taken).length := by
        obtain ⟨_, -, forward, -⟩ := rest.exists_short fun _ _ => Moves.le
        exact forward
      cases taken with
      | nil => exact absurd forward (by simp)
      | cons d taken =>
          obtain rfl : d = c := by simpa using found
          have others : Repeats ((set s).Moves (before ++ [d] ++ (taken ++ after))) n
              (before ++ [d]).length (before ++ [d] ++ taken).length := by
            simpa using rest
          obtain ⟨count, members⟩ := ih others
          exact ⟨by simp [count], by simpa [member] using members⟩

/-- A run of characters of a set is taken, if it is long enough. -/
theorem takes_run_iff :
    (rep min none (set s)).Takes before taken after ↔
      min ≤ taken.length ∧ ∀ c ∈ taken, s.contains c.toNat = true := by
  constructor
  · rintro ⟨more, -, moves⟩
    obtain ⟨count, members⟩ := repeats_set moves
    exact ⟨count ▸ Nat.le_add_right min more, members⟩
  · rintro ⟨enough, members⟩
    exact .run members enough

theorem takes_optional_iff :
    (rep 0 (some 1) a).Takes before taken after ↔ taken = [] ∨ a.Takes before taken after := by
  constructor
  · rintro ⟨more, few, moves⟩
    rw [Nat.zero_add] at moves
    have few := few 1 rfl
    cases more with
    | zero => exact Or.inl (by simpa [Repeats] using moves)
    | succ more =>
        obtain rfl : more = 0 := by omega
        obtain ⟨_, move, rfl⟩ := moves
        exact Or.inr move
  · rintro (rfl | takes)
    · exact .absent
    · exact .present takes

/-! ## Numbers -/

/-- One or more decimal digits. -/
def number : Re :=
  rep 1 none (set .digit)

theorem takes_number_iff : number.Takes before taken after ↔ Text.DigitRun taken := by
  have member : ∀ c : Char, CharSet.digit.contains c.toNat = Text.isDecimalDigit c := by
    intro c
    rw [CharSet.contains, Char.ofNat_toNat]
  simp only [number, takes_run_iff, member]
  constructor
  · rintro ⟨enough, digits⟩
    exact ⟨List.length_pos_iff.mp enough, digits⟩
  · rintro ⟨nonempty, digits⟩
    exact ⟨List.length_pos_iff.mpr nonempty, digits⟩

/-! ## Bound expressions -/

/-- An expression for whole texts, with a word on either side of what is looked for. -/
def bound (front : List Char) (middle : Re) (back : List Char) : Re :=
  seq (look false .textStart :: (spell front ++ middle :: (spell back ++ [look false .textEnd])))

theorem weight_seq_cons (more : as ≠ []) : (seq (a :: as)).weight = a.weight + (seq as).weight := by
  cases as with
  | nil => exact absurd rfl more
  | cons b bs => rfl

theorem weight_seq_spell_le (more : as ≠ []) :
    (seq (spell word ++ as)).weight ≤ 4 * word.length + (seq as).weight := by
  induction word with
  | nil => simp [spell]
  | cons c word ih =>
      have others : spell word ++ as ≠ [] := by simp [more]
      have one : (set (.single c)).weight ≤ 4 := by
        rw [weight, CharSet.single, CharSet.weight]
        split <;> decide
      calc (seq (spell (c :: word) ++ as)).weight
          = (set (.single c)).weight + (seq (spell word ++ as)).weight := weight_seq_cons others
        _ ≤ 4 + (4 * word.length + (seq as).weight) := Nat.add_le_add one ih
        _ = 4 * (c :: word).length + (seq as).weight := by rw [List.length_cons]; omega

/-- What a bound expression weighs grows with its words. -/
theorem weight_bound_le (front back : List Char) :
    (bound front a back).weight ≤ 4 * (front.length + back.length) + a.weight + 2 := by
  have filled : ∀ (c : Re) (cs ds : List Re), cs ++ c :: ds ≠ [] := by simp
  have more : spell back ++ [look false .textEnd] ≠ [] := filled _ _ _
  have whole : (bound front a back).weight
      = 1 + (seq (spell front ++ a :: (spell back ++ [look false .textEnd]))).weight :=
    weight_seq_cons (filled _ _ _)
  have inner : (seq (spell front ++ a :: (spell back ++ [look false .textEnd]))).weight
      ≤ 4 * front.length + (seq (a :: (spell back ++ [look false .textEnd]))).weight :=
    weight_seq_spell_le (List.cons_ne_nil _ _)
  have middle : (seq (a :: (spell back ++ [look false .textEnd]))).weight
      = a.weight + (seq (spell back ++ [look false .textEnd])).weight := weight_seq_cons more
  have last : (seq (spell back ++ [look false .textEnd])).weight ≤ 4 * back.length + 1 :=
    weight_seq_spell_le (List.cons_ne_nil _ _)
  omega

section Bound

variable {front back : List Char}

theorem takes_bound_iff :
    (bound front a back).Takes before taken after ↔
      before = [] ∧ after = [] ∧
        ∃ part, taken = front ++ (part ++ back) ∧ a.Takes front part back := by
  have filled : ∀ (c : Re) (cs ds : List Re), cs ++ c :: ds ≠ [] := by simp
  constructor
  · intro takes
    obtain ⟨_, _, rfl, first, inner⟩ := (takes_seq_cons_iff (filled _ _ _)).mp takes
    obtain ⟨rfl, rfl⟩ := takes_textStart_iff.mp first
    obtain ⟨_, rfl, behind⟩ := (takes_seq_spell_iff (List.cons_ne_nil _ _)).mp inner
    have more : spell back ++ [look false .textEnd] ≠ [] := filled _ _ _
    obtain ⟨part, _, rfl, middle, rest⟩ := (takes_seq_cons_iff more).mp behind
    obtain ⟨_, rfl, last⟩ := (takes_seq_spell_iff (List.cons_ne_nil _ _)).mp rest
    obtain ⟨rfl, rfl⟩ := takes_textEnd_iff.mp last
    exact ⟨rfl, rfl, part, by simp, by simpa using middle⟩
  · rintro ⟨rfl, rfl, part, rfl, middle⟩
    have last : (seq (spell back ++ [look false .textEnd])).Takes (front ++ part) (back ++ []) [] :=
      .seq_spell (List.cons_ne_nil _ _) (takes_textEnd_iff.mpr ⟨rfl, rfl⟩)
    rw [List.append_nil] at last
    have inner : (seq (spell front ++ a :: (spell back ++ [look false .textEnd]))).Takes []
        (front ++ (part ++ back)) [] :=
      .seq_spell (List.cons_ne_nil _ _)
        (.seq_cons (filled _ _ _) (by simpa using middle) (by simpa using last))
    exact (takes_seq_cons_iff (filled _ _ _)).mpr ⟨[], _, rfl, .textStart, by simpa using inner⟩

/-- There is one place only where the middle of a bound expression can be taken. -/
theorem matchesIn_bound_iff :
    (bound front a back).matchesIn text = true ↔
      ∃ taken, text = front ++ (taken ++ back) ∧ a.Takes front taken back := by
  simp only [matchesIn_iff_takes, takes_bound_iff]
  constructor
  · rintro ⟨_, _, _, rfl, rfl, rfl, part, rfl, takes⟩
    exact ⟨part, by simp, takes⟩
  · rintro ⟨part, rfl, takes⟩
    exact ⟨[], _, [], by simp, rfl, rfl, part, rfl, takes⟩

end Bound

end Regex.Re

end ReleasePlanner
