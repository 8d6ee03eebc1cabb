import Mathlib.Logic.Relation
import ReleasePlanner.Repository.Interface

/-!
# Reachability

`Reaches parents a b` says that `b` is `a` or one of its ancestors.  Where
parents have smaller numbers than their children (`Descending`), the sweep over
the numbers collects exactly these commits (`mem_ancestors_iff`), each of them
once and the newest first (`pairwise_ancestors`).
-/

namespace ReleasePlanner

/-- The second commit is the first or can be reached from it. -/
def Reaches (parents : CommitId → List CommitId) : CommitId → CommitId → Prop :=
  Relation.ReflTransGen fun child parent => parent ∈ parents child

/-- Parents have smaller numbers than their children, and no parent has the number zero. -/
def Descending (parents : CommitId → List CommitId) : Prop :=
  ∀ child parent, parent ∈ parents child → 0 < parent ∧ parent < child

variable {parents others : CommitId → List CommitId} {a b c x : CommitId}

/-! ## Laws of reachability -/

namespace Reaches

theorem refl (a : CommitId) : Reaches parents a a :=
  Relation.ReflTransGen.refl

theorem trans (hab : Reaches parents a b) (hbc : Reaches parents b c) : Reaches parents a c :=
  Relation.ReflTransGen.trans hab hbc

theorem of_parent (h : b ∈ parents a) : Reaches parents a b :=
  Relation.ReflTransGen.single h

theorem le (hdesc : Descending parents) (h : Reaches parents a b) : b ≤ a := by
  induction h with
  | refl => exact Nat.le_refl a
  | tail _ hstep ih => exact Nat.le_trans (Nat.le_of_lt (hdesc _ _ hstep).2) ih

theorem antisymm (hdesc : Descending parents) (hab : Reaches parents a b)
    (hba : Reaches parents b a) : a = b :=
  Nat.le_antisymm (hba.le hdesc) (hab.le hdesc)

theorem pos (hdesc : Descending parents) (ha : 0 < a) (h : Reaches parents a b) : 0 < b := by
  cases h with
  | refl => exact ha
  | tail _ hstep => exact (hdesc _ _ hstep).1

/-- What can be reached stays the same when commits are added that the old ones do not know. -/
theorem mono (h : ∀ child parent, parent ∈ parents child → parent ∈ others child)
    (hab : Reaches parents a b) : Reaches others a b :=
  Relation.ReflTransGen.mono h a b hab

/-- Another commit is reached through a parent. -/
theorem exists_parent (hab : Reaches parents a b) (hne : b ≠ a) :
    ∃ p ∈ parents a, Reaches parents p b := by
  cases Relation.ReflTransGen.cases_head hab with
  | inl h => exact absurd h.symm hne
  | inr h => exact h

/-- What is reached from a commit is the commit and what is reached from its parents. -/
theorem iff_exists_parent : Reaches parents a x ↔ x = a ∨ ∃ p ∈ parents a, Reaches parents p x := by
  constructor
  · intro hax
    by_cases same : x = a
    · exact Or.inl same
    · exact Or.inr (hax.exists_parent same)
  · rintro (rfl | ⟨p, hp, hpx⟩)
    · exact refl x
    · exact (of_parent hp).trans hpx

/-- What is reached from a commit with one parent is the commit and what is reached from the
parent. -/
theorem iff_of_parents_eq (only : parents a = [b]) :
    Reaches parents a x ↔ x = a ∨ Reaches parents b x := by
  simp [iff_exists_parent (a := a), only]

end Reaches

/-! ## The sweep -/

/-- The sweep collects what can be reached from a wanted commit that it passes. -/
theorem mem_sweep_iff (hdesc : Descending parents) (n : Nat) (wanted : List CommitId) :
    x ∈ sweep parents n wanted ↔ 0 < x ∧ ∃ w ∈ wanted, w ≤ n ∧ Reaches parents w x := by
  induction n generalizing wanted with
  | zero =>
      simp only [sweep, List.not_mem_nil, false_iff, not_and, not_exists]
      intro hx w _ hw hreach
      exact absurd (Nat.le_trans (hreach.le hdesc) hw) (Nat.not_le.mpr hx)
  | succ n ih =>
      rw [sweep]
      split
      next hwanted =>
        have hmem : n + 1 ∈ wanted := by simpa using hwanted
        rw [List.mem_cons, ih]
        constructor
        · rintro (rfl | ⟨hx, w, hw, hle, hreach⟩)
          · exact ⟨Nat.succ_pos n, n + 1, hmem, Nat.le_refl _, Reaches.refl _⟩
          · rcases List.mem_append.mp hw with hparent | hw
            · exact ⟨hx, n + 1, hmem, Nat.le_refl _, (Reaches.of_parent hparent).trans hreach⟩
            · exact ⟨hx, w, hw, Nat.le_succ_of_le hle, hreach⟩
        · rintro ⟨hx, w, hw, hle, hreach⟩
          by_cases hxn : x = n + 1
          · exact Or.inl hxn
          refine Or.inr ⟨hx, ?_⟩
          by_cases hwn : w = n + 1
          · -- The wanted commit is the one just passed, so its parents are wanted from here on.
            subst hwn
            obtain ⟨p, hp, hpx⟩ := hreach.exists_parent hxn
            exact ⟨p, List.mem_append_left _ hp, Nat.lt_succ_iff.mp (hdesc _ _ hp).2, hpx⟩
          · have hlt : w < n + 1 := Nat.lt_of_le_of_ne hle hwn
            exact ⟨w, List.mem_append_right _ hw, Nat.lt_succ_iff.mp hlt, hreach⟩
      next hwanted =>
        have hnot : n + 1 ∉ wanted := by simpa using hwanted
        rw [ih]
        constructor
        · rintro ⟨hx, w, hw, hle, hreach⟩
          exact ⟨hx, w, hw, Nat.le_succ_of_le hle, hreach⟩
        · rintro ⟨hx, w, hw, hle, hreach⟩
          have hne : w ≠ n + 1 := fun heq => hnot (heq ▸ hw)
          exact ⟨hx, w, hw, Nat.lt_succ_iff.mp (Nat.lt_of_le_of_ne hle hne), hreach⟩

/-- The sweep collects exactly what can be reached. -/
theorem mem_ancestors_iff (hdesc : Descending parents) (ha : 0 < a) :
    x ∈ ancestors parents a ↔ Reaches parents a x := by
  rw [ancestors, mem_sweep_iff hdesc]
  constructor
  · rintro ⟨_, w, hw, _, hreach⟩
    rw [List.mem_singleton] at hw
    rwa [hw] at hreach
  · intro hreach
    exact ⟨hreach.pos hdesc ha, a, List.mem_singleton_self a, Nat.le_refl a, hreach⟩

theorem le_of_mem_sweep {n : Nat} {wanted : List CommitId} (h : x ∈ sweep parents n wanted) :
    x ≤ n := by
  induction n generalizing wanted with
  | zero => cases h
  | succ n ih =>
      rw [sweep] at h
      split at h
      next =>
        rcases List.mem_cons.mp h with rfl | h
        · exact Nat.le_refl _
        · exact Nat.le_succ_of_le (ih h)
      next => exact Nat.le_succ_of_le (ih h)

/-- The sweep only asks for the parents of the numbers that it passes. -/
theorem sweep_congr {n : Nat} (same : ∀ i, 0 < i → i ≤ n → others i = parents i)
    (wanted : List CommitId) : sweep others n wanted = sweep parents n wanted := by
  induction n generalizing wanted with
  | zero => rfl
  | succ n ih =>
      have below : ∀ i, 0 < i → i ≤ n → others i = parents i :=
        fun i hi hle => same i hi (Nat.le_succ_of_le hle)
      rw [sweep, sweep, same (n + 1) (Nat.succ_pos n) (Nat.le_refl _), ih below, ih below]

theorem pairwise_sweep (n : Nat) (wanted : List CommitId) :
    (sweep parents n wanted).Pairwise (· > ·) := by
  induction n generalizing wanted with
  | zero => exact List.Pairwise.nil
  | succ n ih =>
      rw [sweep]
      split
      next => exact List.Pairwise.cons (fun y hy => Nat.lt_succ_of_le (le_of_mem_sweep hy)) (ih _)
      next => exact ih _

/-- Ancestors are listed once each, the newest first. -/
theorem pairwise_ancestors (a : CommitId) : (ancestors parents a).Pairwise (· > ·) :=
  pairwise_sweep _ _

end ReleasePlanner
