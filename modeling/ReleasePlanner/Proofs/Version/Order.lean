import ReleasePlanner.Proofs.Text.Decimal
import ReleasePlanner.Proofs.Text.Pieces
import ReleasePlanner.Version.Order

/-!
# Laws of the order of versions

`Version.compare` is oriented and transitive, so `Version.below` is a strict
weak order: versions of one precedence can stand for each other
(`below_of_notBelow_of_below`).

The three numbers decide first (`compare_eq_then`), and a pre-release with a
legal identifier is ranked by that identifier and its number
(`PreRelease.rank?_eq`).  So the next step of a series is above the one before
it (`below_withPre`), and a stable version is below every bump of it
(`below_bump`).
-/

namespace ReleasePlanner

/-! ## Comparing identifiers -/

namespace Identifier

theorem compareChars_eq_compareLex (as bs : List Char) :
    compareChars as bs = List.compareLex (compareOn Char.toNat) as bs := by
  induction as generalizing bs with
  | nil => cases bs <;> rfl
  | cons a as ih =>
      cases bs with
      | nil => rfl
      | cons b bs => simp [compareChars, List.compareLex_cons_cons, compareOn, ih]

instance : Std.TransCmp compareChars := by
  have heq : compareChars = List.compareLex (compareOn Char.toNat) :=
    funext fun as => funext fun bs => compareChars_eq_compareLex as bs
  rw [heq]
  infer_instance

instance : Std.OrientedCmp compare where
  eq_swap {a b} := by
    cases a with
    | number m =>
        cases b with
        | number n => exact Std.OrientedOrd.eq_swap
        | word bs => rfl
    | word as =>
        cases b with
        | number n => rfl
        | word bs =>
            show compareChars as bs = (compareChars bs as).swap
            exact Std.OrientedCmp.eq_swap

instance : Std.TransCmp compare where
  isLE_trans {a b c} hab hbc := by
    cases a with
    | number m =>
        cases c with
        | number n =>
            cases b with
            | number k => exact Std.TransOrd.isLE_trans hab hbc
            | word cs => cases hbc
        | word cs => rfl
    | word as =>
        cases b with
        | number k => cases hab
        | word bs =>
            cases c with
            | number n => cases hbc
            | word cs =>
                show (compareChars as cs).isLE = true
                exact Std.TransCmp.isLE_trans hab hbc

theorem compareAll_eq_compareLex (as bs : List Identifier) :
    compareAll as bs = List.compareLex compare as bs := by
  induction as generalizing bs with
  | nil => cases bs <;> rfl
  | cons a as ih =>
      cases bs with
      | nil => rfl
      | cons b bs => simp [compareAll, List.compareLex_cons_cons, ih]

instance : Std.TransCmp compareAll := by
  have heq : compareAll = List.compareLex compare :=
    funext fun as => funext fun bs => compareAll_eq_compareLex as bs
  rw [heq]
  infer_instance

end Identifier

/-! ## Comparing versions -/

namespace Version

instance : Std.OrientedCmp compareRanks where
  eq_swap {a b} := by
    cases a with
    | none => cases b <;> rfl
    | some p =>
        cases b with
        | none => rfl
        | some q =>
            show Identifier.compareAll p q = (Identifier.compareAll q p).swap
            exact Std.OrientedCmp.eq_swap

instance : Std.TransCmp compareRanks where
  isLE_trans {a b c} hab hbc := by
    cases c with
    | none => cases a <;> rfl
    | some c =>
        cases b with
        | none => cases hbc
        | some b =>
            cases a with
            | none => cases hab
            | some a =>
                show (Identifier.compareAll a c).isLE = true
                exact Std.TransCmp.isLE_trans hab hbc

/-- Compares the three numbers of two versions and nothing else. -/
def compareNumbers : Version → Version → Ordering :=
  compareLex (compareOn major) (compareLex (compareOn minor) (compareOn patch))

/-- The numbers decide, and what follows them counts where they agree. -/
theorem compare_eq_then (v w : Version) :
    v.compare w = (compareNumbers v w).then (compareRanks v.rank? w.rank?) := by
  simp only [compare, compareNumbers, compareLex, compareOn, Ordering.then_assoc]

instance : Std.TransCmp compare := by
  have heq : compare = compareLex compareNumbers fun v w => compareRanks v.rank? w.rank? :=
    funext fun v => funext fun w => compare_eq_then v w
  have : Std.TransCmp fun v w : Version => compareRanks v.rank? w.rank? :=
    { eq_swap := Std.OrientedCmp.eq_swap
      isLE_trans := fun hab hbc => Std.TransCmp.isLE_trans hab hbc }
  rw [heq, compareNumbers]
  infer_instance

/-! ## Below -/

theorem below_iff {v w : Version} : v.below w = true ↔ v.compare w = .lt := by
  simp [below]

theorem compare_swap (v w : Version) : v.compare w = (w.compare v).swap :=
  Std.OrientedCmp.eq_swap

theorem compare_self (v : Version) : v.compare v = .eq :=
  Std.ReflCmp.compare_self

theorem notBelow_iff {v w : Version} : v.below w = false ↔ (w.compare v).isLE = true := by
  rw [below, compare_swap w v]
  cases v.compare w <;> decide

theorem upTo_eq_not_below (v w : Version) : v.upTo w = !w.below v := by
  rw [upTo, below, compare_swap w v]
  cases v.compare w <;> decide

theorem not_below_self (v : Version) : v.below v = false := by
  rw [notBelow_iff, compare_self]
  rfl

theorem below_trans {u v w : Version} (huv : u.below v = true) (hvw : v.below w = true) :
    u.below w = true := by
  rw [below_iff] at *
  exact Std.TransCmp.lt_trans huv hvw

/-- What is not above a version is below everything that the version is below. -/
theorem below_of_notBelow_of_below {u v w : Version} (hu : v.below u = false)
    (hw : v.below w = true) : u.below w = true := by
  rw [notBelow_iff] at hu
  rw [below_iff] at *
  exact Std.TransCmp.lt_of_isLE_of_lt hu hw

/-! ## The numbers decide first -/

/-- Only the numbers of two bases are compared. -/
theorem compare_base (v w : Version) : v.base.compare w.base = compareNumbers v w := by
  rw [compare_eq_then]
  simp only [rank?, base, Option.bind_none, compareRanks, Ordering.then_eq]
  rfl

/-- A version whose base is below that of another is below it. -/
theorem below_of_base_below {v w : Version} (h : v.base.below w.base = true) :
    v.below w = true := by
  rw [below_iff, compare_base] at h
  rw [below_iff, compare_eq_then, h]
  rfl

theorem compareNumbers_self (v : Version) : compareNumbers v v = .eq := by
  simp [compareNumbers, compareLex, compareOn]

@[simp] theorem base_withPre (v : Version) (p : PreRelease) : (v.withPre p).base = v.base := rfl

theorem base_eq_self {v : Version} (h : v.pre = none) : v.base = v := by
  cases v
  cases h
  rfl

/-- A stable version is below every version that raises one of its numbers. -/
theorem below_bump {v : Version} {level : Level} (hv : v.pre = none) (h : level.fires = true) :
    v.below (v.bump level) = true := by
  have hsucc : ∀ n : Nat, Ord.compare n (n + 1) = .lt :=
    fun n => Nat.compare_eq_lt.mpr (Nat.lt_succ_self n)
  have hbase : v.base.below (v.bump level).base = true := by
    rw [below_iff, compare_base]
    cases level with
    | none => cases h
    | patch => simp [compareNumbers, compareLex, compareOn, bump, stable, hsucc]
    | minor => simp [compareNumbers, compareLex, compareOn, bump, stable, hsucc]
    | major => simp [compareNumbers, compareLex, compareOn, bump, stable, hsucc]
  rw [base_eq_self hv] at hbase
  refine below_of_base_below ?_
  rwa [base_eq_self hv]

@[simp] theorem pre_bump (v : Version) (level : Level) : (v.bump level).pre = none := by
  cases level <;> rfl

end Version

/-! ## The rank of a pre-release -/

/-- A legal identifier holds allowed characters only, and at least one. -/
theorem Identifier.allows_of_legal {cs : List Char} (h : legal cs = true) :
    cs ≠ [] ∧ cs.all allows = true := by
  simp only [legal, Bool.and_eq_true, Bool.not_eq_true', List.isEmpty_eq_false_iff] at h
  exact ⟨h.1.1, h.1.2⟩

theorem Identifier.point_notMem {cs : List Char} (h : cs.all allows = true) : '.' ∉ cs := by
  intro hmem
  have hpoint := List.all_eq_true.mp h _ hmem
  revert hpoint
  decide

namespace PreRelease

theorem pieces_eq {p : PreRelease} (h : '.' ∉ p.identifier.toList) :
    p.pieces = [p.identifier.toList, Text.decimal p.iteration] := by
  rw [pieces, chars, Text.splitOn_append h,
    Text.splitOn_eq_singleton (Text.notMem_decimal (by decide))]

/-- A pre-release with a legal identifier is ranked by the identifier and then by its number. -/
theorem rank?_eq {p : PreRelease} (h : Identifier.legal p.identifier.toList = true) :
    p.rank? = some [Identifier.ofChars p.identifier.toList, .number p.iteration] := by
  have hpoint := Identifier.point_notMem (Identifier.allows_of_legal h).2
  simp [rank?, pieces_eq hpoint, h, Identifier.legal_decimal, Identifier.ofChars_decimal]

end PreRelease

namespace Version

/-- Among pre-releases of one version with one legal identifier the number decides. -/
theorem below_withPre {v : Version} {identifier : String} {m n : Nat}
    (hid : Identifier.legal identifier.toList = true) (h : m < n) :
    (v.withPre ⟨identifier, m⟩).below (v.withPre ⟨identifier, n⟩) = true := by
  have hself : ∀ a : Identifier, a.compare a = .eq :=
    fun a => Std.ReflCmp.compare_self
  have hnumbers : compareNumbers (v.withPre ⟨identifier, m⟩) (v.withPre ⟨identifier, n⟩) = .eq :=
    compareNumbers_self v
  have hnumber : (Identifier.number m).compare (.number n) = .lt := Nat.compare_eq_lt.mpr h
  rw [below_iff, compare_eq_then, hnumbers]
  simp [rank?, withPre, PreRelease.rank?_eq, hid, compareRanks, Identifier.compareAll, hself,
    hnumber]

/-- A pre-release with a legal identifier is below the version it leads to. -/
theorem below_of_withPre {v : Version} {p : PreRelease} (hv : v.pre = none)
    (hid : Identifier.legal p.identifier.toList = true) : (v.withPre p).below v = true := by
  have hnumbers : compareNumbers (v.withPre p) v = .eq := compareNumbers_self v
  rw [below_iff, compare_eq_then, hnumbers]
  simp [rank?, withPre, hv, PreRelease.rank?_eq, hid, compareRanks]

end Version

end ReleasePlanner
