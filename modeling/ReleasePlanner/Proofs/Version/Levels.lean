import ReleasePlanner.Proofs.Version.Precedence

/-!
# Levels and the versions they lead to

The levels are a chain and `Level.join` takes the greater of two, so the level
of a batch is told by what bounds it (`Level.greatest_le_iff`).  It does not
depend on the order of the commits (`Level.greatest_perm`), and it can be put
together from the levels of parts (`Level.greatest_append`).

The bumps of a stable version are in the order of the levels
(`Version.bump_below_iff`).
-/

namespace ReleasePlanner

namespace Level

variable {a b : Level} {ls ks : List Level} {n : Nat}

theorem rank_join (a b : Level) : (a.join b).rank = max a.rank b.rank := by
  cases a <;> cases b <;> rfl

theorem rank_injective (h : a.rank = b.rank) : a = b := by
  cases a <;> cases b <;> first | rfl | cases h

theorem join_le_iff : (a.join b).rank ≤ n ↔ a.rank ≤ n ∧ b.rank ≤ n := by
  rw [rank_join, Nat.max_le]

theorem join_eq_left (h : b.rank ≤ a.rank) : a.join b = a := by
  apply rank_injective
  rw [rank_join, Nat.max_eq_left h]

theorem join_eq_right (h : a.rank ≤ b.rank) : a.join b = b := by
  apply rank_injective
  rw [rank_join, Nat.max_eq_right h]

theorem fires_iff : a.fires = true ↔ 0 < a.rank := by
  cases a <;> simp [fires, rank]

/-- Levels that are put together ask for a release if one of them does. -/
theorem fires_join (h : b.fires = true) : (a.join b).fires = true := by
  rw [fires_iff] at h ⊢
  rw [rank_join]
  exact Nat.lt_of_lt_of_le h (Nat.le_max_right _ _)

/-- A level is told by what bounds it. -/
theorem eq_of_bounds (h : ∀ n, a.rank ≤ n ↔ b.rank ≤ n) : a = b :=
  rank_injective (Nat.le_antisymm ((h b.rank).mpr (Nat.le_refl _)) ((h a.rank).mp (Nat.le_refl _)))

theorem foldl_join_le_iff : (ls.foldl join a).rank ≤ n ↔ a.rank ≤ n ∧ ∀ l ∈ ls, l.rank ≤ n := by
  induction ls generalizing a with
  | nil => simp
  | cons l ls ih => rw [List.foldl_cons, ih, join_le_iff, List.forall_mem_cons, and_assoc]

/-- What bounds the level of a batch bounds all levels in it. -/
theorem greatest_le_iff : (greatest ls).rank ≤ n ↔ ∀ l ∈ ls, l.rank ≤ n := by
  rw [greatest, foldl_join_le_iff]
  exact and_iff_right (Nat.zero_le n)

theorem greatest_append (ls ks : List Level) :
    greatest (ls ++ ks) = (greatest ls).join (greatest ks) := by
  apply eq_of_bounds
  intro n
  rw [join_le_iff, greatest_le_iff, greatest_le_iff, greatest_le_iff, List.forall_mem_append]

theorem greatest_perm (same : ls.Perm ks) : greatest ls = greatest ks := by
  apply eq_of_bounds
  intro n
  rw [greatest_le_iff, greatest_le_iff]
  exact forall_congr' fun l => by rw [same.mem_iff]

theorem greatest_cons (l : Level) (ls : List Level) :
    greatest (l :: ls) = l.join (greatest ls) := by
  have alone : greatest [l] = l := by cases l <;> rfl
  rw [← List.singleton_append, greatest_append, alone]

/-- Levels that ask for nothing do not count. -/
theorem greatest_filter {α : Type} (level : α → Level) (counts : α → Bool) (as : List α) :
    greatest ((as.filter counts).map level)
      = greatest (as.map fun a => if counts a then level a else none) := by
  induction as with
  | nil => rfl
  | cons a as ih =>
      rw [List.filter_cons, List.map_cons, greatest_cons]
      split
      next => rw [List.map_cons, greatest_cons, ih]
      next =>
        rw [ih]
        exact (join_eq_right (Nat.zero_le _)).symm

end Level

namespace Version

variable {v : Version} {a b : Level}

/-- The bumps of a stable version are in the order of the levels. -/
theorem bump_below_iff (hv : v.pre = none) :
    (v.bump a).below (v.bump b) = true ↔ a.rank < b.rank := by
  obtain ⟨major, minor, patch, pre⟩ := v
  cases hv
  rw [below_iff]
  cases a <;> cases b <;>
    simp [compare, bump, stable, base, rank?, compareRanks, Level.rank, Nat.compare_eq_lt,
      Ordering.then_eq_lt]

end Version

end ReleasePlanner
