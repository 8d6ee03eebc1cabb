import ReleasePlanner.Proofs.Step
import ReleasePlanner.Proofs.Version.Written
import ReleasePlanner.Version.Parse

/-!
# Equality and precedence

Two legal identifiers are compared as equal only if they are the same
(`Identifier.ofChars_injective`), so a pre-release with a legal identifier
stands at a place of its own.  The identifiers of versions that were read are
legal, all but numbers with a leading zero (`Identifier.legal_iff`).

A version with such a number is read, but it has no rank.  It stands level with
the stable version and with every other version of this kind
(`parsed_precedence`, `leading_zero_level`).
-/

namespace ReleasePlanner

namespace Identifier

/-! ## Equal identifiers -/

theorem eq_of_compareChars {as bs : List Char} (h : compareChars as bs = .eq) : as = bs := by
  induction as generalizing bs with
  | nil =>
      cases bs with
      | nil => rfl
      | cons b bs => cases h
  | cons a as ih =>
      cases bs with
      | nil => cases h
      | cons b bs =>
          rw [compareChars, Ordering.then_eq_eq, Nat.compare_eq_eq, Char.toNat_inj] at h
          rw [h.1, ih h.2]

instance : Std.LawfulEqCmp compare where
  eq_of_compare {a b} h := by
    cases a with
    | number m =>
        cases b with
        | number n => rw [Nat.compare_eq_eq.mp h]
        | word bs => cases h
    | word as =>
        cases b with
        | number n => cases h
        | word bs => rw [eq_of_compareChars h]

instance : Std.LawfulEqCmp compareAll where
  eq_of_compare {as bs} h := by
    induction as generalizing bs with
    | nil =>
        cases bs with
        | nil => rfl
        | cons b bs => cases h
    | cons a as ih =>
        cases bs with
        | nil => cases h
        | cons b bs =>
            rw [compareAll, Ordering.then_eq_eq, Std.LawfulEqCmp.compare_eq_iff_eq] at h
            rw [h.1, ih h.2]

/-! ## Numbers with a leading zero -/

/-- A number of two digits or more that starts with a zero. -/
def LeadingZero (cs : List Char) : Prop :=
  cs.all Char.isDigit = true ∧ 1 < cs.length ∧ cs.head? = some '0'

instance (cs : List Char) : Decidable (LeadingZero cs) :=
  inferInstanceAs (Decidable (_ ∧ _ ∧ _))

/-- What may stand in a version is legal unless it is a number with a leading zero. -/
theorem legal_iff {cs : List Char} (h : PreRelease.checkIdentifier cs = .ok ()) :
    legal cs = true ↔ ¬LeadingZero cs := by
  obtain ⟨hne, hall⟩ := PreRelease.checkIdentifier_eq_ok.mp h
  have hempty : cs.isEmpty = false := List.isEmpty_eq_false_iff.mpr hne
  have hzero : LeadingZero cs ↔
      (cs.all Char.isDigit && decide (1 < cs.length) && cs.head? == some '0') = true := by
    simp only [LeadingZero, Bool.and_eq_true, decide_eq_true_iff, beq_iff_eq, and_assoc]
  rw [hzero, legal, hempty, hall, Bool.not_false, Bool.true_and, Bool.true_and,
    Bool.not_eq_true', Bool.not_eq_true]

/-- The digits of a legal number are the normal form of its value. -/
theorem decimal_of_legal {cs : List Char} (hlegal : legal cs = true)
    (hdigits : cs.all Char.isDigit = true) : Text.decimal (Text.digitsValue 0 cs) = cs := by
  cases cs with
  | nil => cases hlegal
  | cons c cs =>
      refine Text.decimal_digitsValue hdigits ?_
      by_cases hzero : c = '0'
      · rw [legal, hdigits, hzero, Bool.and_eq_true] at hlegal
        exact Or.inr (by simpa using hlegal.2)
      · exact Or.inl hzero

/-- A legal identifier can be told from what it stands for. -/
theorem ofChars_injective {as bs : List Char} (ha : legal as = true) (hb : legal bs = true)
    (h : ofChars as = ofChars bs) : as = bs := by
  rw [ofChars, ofChars] at h
  split at h
  next has =>
    split at h
    next hbs =>
      rw [← decimal_of_legal ha has, ← decimal_of_legal hb hbs, Identifier.number.inj h]
    next => cases h
  next =>
    split at h
    next => cases h
    next => exact Identifier.word.inj h

end Identifier

open Identifier (LeadingZero)

/-! ## Ranks of pre-releases -/

namespace PreRelease

variable {p q : PreRelease}

/-- The identifier of a pre-release that was read may stand in a version. -/
theorem checkIdentifier_of_parseChars {text : List Char} (h : parseChars text = .ok p) :
    checkIdentifier p.identifier.toList = .ok () := by
  rw [parseChars] at h
  split at h
  next => cases h
  next identifier iteration _ =>
    obtain ⟨_, hcheck, h⟩ := Result.bind_eq_ok.mp h
    split at h
    next => cases h
    next n _ =>
      cases h
      rwa [String.toList_ofList]

/-- A pre-release has no rank when its identifier is a number with a leading zero. -/
theorem rank?_eq_none_iff (h : checkIdentifier p.identifier.toList = .ok ()) :
    p.rank? = none ↔ LeadingZero p.identifier.toList := by
  have hpoint := Identifier.point_notMem (checkIdentifier_eq_ok.mp h).2
  have hall : p.pieces.all Identifier.legal = Identifier.legal p.identifier.toList := by
    rw [pieces_eq hpoint]
    simp only [List.all_cons, List.all_nil, Identifier.legal_decimal, Bool.and_true]
  have hlegal := Identifier.legal_iff h
  rw [rank?, hall]
  by_cases zero : LeadingZero p.identifier.toList
  · simp [zero, hlegal]
  · simp [zero, hlegal]

/-- Pre-releases of one rank are the same. -/
theorem rank?_injective (hp : Identifier.legal p.identifier.toList = true)
    (hq : Identifier.legal q.identifier.toList = true) (h : p.rank? = q.rank?) : p = q := by
  rw [rank?_eq hp, rank?_eq hq] at h
  simp only [Option.some.injEq, List.cons.injEq, Identifier.number.injEq, and_true] at h
  have hid := String.toList_injective (Identifier.ofChars_injective hp hq h.1)
  cases p
  cases q
  simp_all

end PreRelease

namespace Version

variable {v w : Version}

/-- A version without a rank of its own: a stable one, or one that was read with a number with a
leading zero as its identifier. -/
def Unranked (v : Version) : Prop :=
  ∀ p, v.pre = some p → LeadingZero p.identifier.toList

theorem rank?_eq_none_iff (h : v.WellNamed) : v.rank? = none ↔ v.Unranked := by
  rw [rank?, Unranked]
  cases hpre : v.pre with
  | none => simp
  | some p => simp [PreRelease.rank?_eq_none_iff (h p hpre)]

/-! ## Versions of one precedence -/

theorem compareRanks_eq_iff {a b : Option (List Identifier)} :
    compareRanks a b = .eq ↔ a = b := by
  cases a with
  | none => cases b <;> simp [compareRanks]
  | some a => cases b <;> simp [compareRanks, Std.LawfulEqCmp.compare_eq_iff_eq]

theorem compareNumbers_eq_iff : compareNumbers v w = .eq ↔ v.base = w.base := by
  simp [compareNumbers, compareLex, compareOn, Ordering.then_eq_eq, base]

theorem compare_eq_iff : v.compare w = .eq ↔ v.base = w.base ∧ v.rank? = w.rank? := by
  rw [compare_eq_then, Ordering.then_eq_eq, compareNumbers_eq_iff, compareRanks_eq_iff]

/-- Stable versions of which neither is below the other are the same. -/
theorem eq_of_notBelow (hv : v.pre = none) (hw : w.pre = none) (hvw : v.below w = false)
    (hwv : w.below v = false) : v = w := by
  rw [notBelow_iff] at hvw hwv
  have level : v.compare w = .eq := Std.OrientedCmp.isLE_antisymm hwv hvw
  rw [← base_eq_self hv, ← base_eq_self hw]
  exact (compare_eq_iff.mp level).1

/-- Versions with the same numbers and the same rank are the same, if they have a rank. -/
theorem eq_of_rank? (hv : v.WellNamed) (hw : w.WellNamed) (hbase : v.base = w.base)
    (hrank : v.rank? = w.rank?) (hsome : v.rank? ≠ none) : v = w := by
  have hsome' := hsome
  rw [hrank] at hsome'
  cases hp : v.pre with
  | none => simp [rank?, hp] at hsome
  | some p =>
      cases hq : w.pre with
      | none => simp [rank?, hq] at hsome'
      | some q =>
          simp only [rank?, hp, hq, Option.bind_some] at hrank hsome hsome'
          rw [ne_eq, PreRelease.rank?_eq_none_iff (hv p hp),
            ← Identifier.legal_iff (hv p hp)] at hsome
          rw [ne_eq, PreRelease.rank?_eq_none_iff (hw q hq),
            ← Identifier.legal_iff (hw q hq)] at hsome'
          have same := PreRelease.rank?_injective hsome hsome' hrank
          cases v
          cases w
          simp_all [base]

/-- Versions stand level when they are the same or neither has a rank. -/
theorem compare_eq_iff_of_wellNamed (hv : v.WellNamed) (hw : w.WellNamed) :
    v.compare w = .eq ↔ v = w ∨ (v.base = w.base ∧ v.Unranked ∧ w.Unranked) := by
  rw [compare_eq_iff, ← rank?_eq_none_iff hv, ← rank?_eq_none_iff hw]
  constructor
  · rintro ⟨hbase, hrank⟩
    by_cases hnone : v.rank? = none
    · exact Or.inr ⟨hbase, hnone, hrank.symm.trans hnone⟩
    · exact Or.inl (eq_of_rank? hv hw hbase hrank hnone)
  · rintro (rfl | ⟨hbase, hv, hw⟩)
    · exact ⟨rfl, rfl⟩
    · exact ⟨hbase, hv.trans hw.symm⟩

/-! ## Versions of different precedence -/

/-- Where the numbers differ, the first that differs decides. -/
theorem below_iff_of_base_ne (h : v.base ≠ w.base) :
    v.below w = true ↔
      v.major < w.major ∨
        v.major = w.major ∧ (v.minor < w.minor ∨ v.minor = w.minor ∧ v.patch < w.patch) := by
  have hne : compareNumbers v w ≠ .eq := fun heq => h (compareNumbers_eq_iff.mp heq)
  rw [below_iff, compare_eq_then, Ordering.then_eq_lt, or_iff_left fun heq => hne heq.1]
  simp [compareNumbers, compareLex, compareOn, Ordering.then_eq_lt, Nat.compare_eq_lt]

theorem base_withPre_of_pre {p : PreRelease} (h : v.pre = some p) : v.base.withPre p = v := by
  cases v
  cases h
  rfl

theorem unranked_of_leadingZero {p : PreRelease} (h : v.pre = some p)
    (zero : LeadingZero p.identifier.toList) : v.Unranked := by
  intro q hq
  rw [h, Option.some.injEq] at hq
  rwa [← hq]

/-- A pre-release is below the version it leads to, unless its identifier is a number with a
leading zero. -/
theorem below_base_iff (hv : v.WellNamed) {p : PreRelease} (hp : v.pre = some p) :
    v.below v.base = true ↔ ¬LeadingZero p.identifier.toList := by
  constructor
  · intro hbelow zero
    have hbase : v.base.WellNamed := wellNamed_of_stable rfl
    have stable : v.base.Unranked := fun q hq => by cases hq
    have level : v.compare v.base = .eq :=
      (compare_eq_iff_of_wellNamed hv hbase).mpr
        (Or.inr ⟨rfl, unranked_of_leadingZero hp zero, stable⟩)
    rw [below_iff, level] at hbelow
    cases hbelow
  · intro nonzero
    have hlegal := (Identifier.legal_iff (hv p hp)).mpr nonzero
    have hbelow := below_of_withPre (v := v.base) rfl hlegal
    rwa [base_withPre_of_pre hp] at hbelow

/-- Among pre-releases of one version with one identifier the number decides, unless the identifier
is a number with a leading zero. -/
theorem below_withPre_iff (hv : v.WellNamed) {identifier : String} {m : Nat}
    (hp : v.pre = some ⟨identifier, m⟩) (n : Nat) :
    v.below (v.base.withPre ⟨identifier, n⟩) = true ↔ m < n ∧ ¬LeadingZero identifier.toList := by
  have hself := base_withPre_of_pre hp
  have hid := hv _ hp
  constructor
  · intro hbelow
    have hother : (v.base.withPre ⟨identifier, n⟩).WellNamed := by
      rintro q ⟨⟩
      exact hid
    have nonzero : ¬LeadingZero identifier.toList := by
      intro zero
      have level : v.compare (v.base.withPre ⟨identifier, n⟩) = .eq :=
        (compare_eq_iff_of_wellNamed hv hother).mpr
          (Or.inr ⟨rfl, unranked_of_leadingZero hp zero, unranked_of_leadingZero rfl zero⟩)
      rw [below_iff, level] at hbelow
      cases hbelow
    refine ⟨?_, nonzero⟩
    rcases Nat.lt_trichotomy m n with hlt | rfl | hgt
    · exact hlt
    · rw [hself, not_below_self] at hbelow
      cases hbelow
    · -- The other version would be below this one, and so this one below itself.
      have hback := below_withPre (v := v.base) ((Identifier.legal_iff hid).mpr nonzero) hgt
      rw [hself] at hback
      have hcircle := below_trans hbelow hback
      rw [not_below_self] at hcircle
      cases hcircle
  · rintro ⟨hlt, nonzero⟩
    have hbelow := below_withPre (v := v.base) ((Identifier.legal_iff hid).mpr nonzero) hlt
    rwa [hself] at hbelow

/-! ## Versions that were read -/

theorem parse_wellNamed {text : String} (h : parse text = .ok v) : v.WellNamed := by
  simp only [parse, parseChars, Result.bind_eq_ok] at h
  obtain ⟨pre, hpre, h⟩ := h
  have named : ∀ p, pre = some p → PreRelease.checkIdentifier p.identifier.toList = .ok () := by
    rintro p rfl
    cases hparts : (splitPre (dropMarks text.toList)).2 with
    | none => simp [hparts, parsePre] at hpre
    | some part =>
        rw [hparts, parsePre] at hpre
        cases hpart : PreRelease.parseChars part with
        | error e => simp [hpart, Except.map] at hpre
        | ok q =>
            rw [hpart] at hpre
            cases hpre
            exact PreRelease.checkIdentifier_of_parseChars hpart
  split at h
  next major minor patch _ =>
    simp only [Result.bind_eq_ok] at h
    obtain ⟨_, _, _, _, _, _, h⟩ := h
    cases h
    exact named
  next => cases h

end Version

/-- The order of the versions that were read is total and transitive, and where their numbers differ
it is the order of these.  Two of them stand level exactly if they are the same, or if they have the
same numbers and neither has a rank of its own.  So a pre-release is below the version it leads to,
and below the pre-releases of a greater number, unless its identifier is a number with a leading
zero. -/
theorem parsed_precedence {s t : String} {a b : Version} (ha : Version.parse s = .ok a)
    (hb : Version.parse t = .ok b) :
    a.compare b = (b.compare a).swap ∧
      (∀ c, (a.compare b).isLE = true → (b.compare c).isLE = true → (a.compare c).isLE = true) ∧
      (a.compare b = .eq ↔ a = b ∨ (a.base = b.base ∧ a.Unranked ∧ b.Unranked)) ∧
      (a.base ≠ b.base → (a.below b = true ↔
        a.major < b.major ∨
          a.major = b.major ∧ (a.minor < b.minor ∨ a.minor = b.minor ∧ a.patch < b.patch))) ∧
      (∀ p, a.pre = some p → (a.below a.base = true ↔ ¬LeadingZero p.identifier.toList)) ∧
      ∀ identifier m n, a.pre = some ⟨identifier, m⟩ → b = a.base.withPre ⟨identifier, n⟩ →
        (a.below b = true ↔ m < n ∧ ¬LeadingZero identifier.toList) := by
  have namedA := Version.parse_wellNamed ha
  have namedB := Version.parse_wellNamed hb
  refine ⟨Version.compare_swap a b, fun _ => Std.TransCmp.isLE_trans,
    Version.compare_eq_iff_of_wellNamed namedA namedB, Version.below_iff_of_base_ne,
    fun p hp => Version.below_base_iff namedA hp, ?_⟩
  rintro identifier m n hp rfl
  exact Version.below_withPre_iff namedA hp n

/-- The steps towards a version come one after the other, and the version comes after them. -/
theorem precedence_of_candidates :
    ∃ a b c, Version.parse "1.3.0-rc.2" = .ok a ∧ Version.parse "1.3.0-rc.10" = .ok b ∧
      Version.parse "v1.3.0" = .ok c ∧ a.below b = true ∧ a.below c = true ∧
      a.compare b ≠ .eq := by
  have first : Version.parse "1.3.0-rc.2" = .ok ⟨1, 3, 0, some ⟨"rc", 2⟩⟩ := by rfl
  have second : Version.parse "1.3.0-rc.10" = .ok ⟨1, 3, 0, some ⟨"rc", 10⟩⟩ := by rfl
  have third : Version.parse "v1.3.0" = .ok (.stable 1 3 0) := by rfl
  obtain ⟨-, -, level, -, base, step⟩ := parsed_precedence first second
  have nonzero : ¬LeadingZero "rc".toList := by decide
  refine ⟨_, _, _, first, second, third, (step "rc" 2 10 rfl rfl).mpr ⟨by decide, nonzero⟩,
    (base _ rfl).mpr nonzero, ?_⟩
  rw [ne_eq, level]
  rintro (same | ⟨-, unranked, -⟩)
  · exact absurd same (by decide)
  · exact nonzero (unranked _ rfl)

/-- A version with a leading zero in its identifier stands level with the version it leads to,
which is another one. -/
theorem leading_zero_level :
    ∃ a b, Version.parse "1.0.0-01.1" = .ok a ∧ Version.parse "1.0.0" = .ok b ∧ b = a.base ∧
      a.compare b = .eq ∧ a ≠ b ∧ a.below b = false :=
  ⟨⟨1, 0, 0, some ⟨"01", 1⟩⟩, .stable 1 0 0, by rfl, by rfl, rfl, by decide, by decide, by decide⟩

end ReleasePlanner
