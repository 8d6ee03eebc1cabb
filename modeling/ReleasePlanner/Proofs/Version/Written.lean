import ReleasePlanner.Proofs.Text.Placeholder
import ReleasePlanner.Proofs.Version.Order
import ReleasePlanner.Tag

/-!
# The written form of versions

A version can be written and read again when its numbers fit (`Version.Fits`)
and its identifier is one that versions may have (`Version.WellNamed`).  Every
version of a tag is of this kind (`strict?_eq_some`), and every version of this
kind is read back from its text (`strict?_chars`).  So the tags of different
versions differ (`TagPattern.format_injective`).
-/

namespace ReleasePlanner

/-! ## Versions that can be read -/

/-- Every number of a version is one that can be read. -/
structure Version.Fits (v : Version) : Prop where
  major_le : v.major ≤ Text.maxNumber
  minor_le : v.minor ≤ Text.maxNumber
  patch_le : v.patch ≤ Text.maxNumber
  iteration_le : ∀ p, v.pre = some p → p.iteration ≤ Text.maxNumber

theorem fits_digits {v : Version} (h : v.major ≤ 9) (h' : v.minor ≤ 9) (h'' : v.patch ≤ 9)
    (hpre : ∀ p ∈ v.pre, p.iteration ≤ 9) : v.Fits where
  major_le := Nat.le_trans h (by decide)
  minor_le := Nat.le_trans h' (by decide)
  patch_le := Nat.le_trans h'' (by decide)
  iteration_le p hp := Nat.le_trans (hpre p hp) (by decide)

theorem fits_stable {major minor patch : Nat} (h : major ≤ 9) (h' : minor ≤ 9) (h'' : patch ≤ 9) :
    (Version.stable major minor patch).Fits :=
  fits_digits h h' h'' nofun

/-- The identifier of a version, if it has one, may stand in a version. -/
def Version.WellNamed (v : Version) : Prop :=
  ∀ p, v.pre = some p → PreRelease.checkIdentifier p.identifier.toList = .ok ()

theorem PreRelease.checkIdentifier_eq_ok {identifier : List Char} :
    checkIdentifier identifier = .ok () ↔
      identifier ≠ [] ∧ identifier.all Identifier.allows = true := by
  cases identifier with
  | nil => simp [checkIdentifier]
  | cons c cs =>
      simp only [checkIdentifier, List.isEmpty_cons, Bool.false_eq_true, if_false, ne_eq,
        reduceCtorEq, not_false_eq_true, true_and]
      split <;> simp_all

namespace Version

theorem wellNamed_of_stable {v : Version} (h : v.pre = none) : v.WellNamed := by
  intro p hp
  rw [h] at hp
  cases hp

/-! ## Reading what was written -/

/-- The three numbers are written with digits and points. -/
theorem notMem_coreChars {c : Char} (digit : c.isDigit = false) (point : c ≠ '.') (v : Version) :
    c ∉ v.coreChars := by
  intro h
  simp only [coreChars, List.mem_append, List.mem_cons] at h
  have hdigits : ∀ n : Nat, c ∉ Text.decimal n := fun n => Text.notMem_decimal digit
  rcases h with h | h | h | h | h
  · exact hdigits _ h
  · exact point h
  · exact hdigits _ h
  · exact point h
  · exact hdigits _ h

theorem hyphen_notMem_coreChars (v : Version) : '-' ∉ v.coreChars :=
  notMem_coreChars (by decide) (by decide) v

theorem splitOn_coreChars (v : Version) :
    Text.splitOn '.' v.coreChars
      = [Text.decimal v.major, Text.decimal v.minor, Text.decimal v.patch] := by
  have hdigits : ∀ n : Nat, '.' ∉ Text.decimal n := fun n => Text.notMem_decimal (by decide)
  exact Text.splitOn_eq_three_iff.mpr ⟨rfl, hdigits _, hdigits _, hdigits _⟩

/-- The first hyphen of a version stands between its numbers and its pre-release. -/
theorem splitPre_chars (v : Version) :
    splitPre v.chars = (v.coreChars, v.pre.map PreRelease.chars) := by
  rw [splitPre, chars]
  cases v.pre with
  | none => simp [Text.splitAtFirst?_eq_none (hyphen_notMem_coreChars v)]
  | some p => simp [Text.splitAtFirst?_append (hyphen_notMem_coreChars v)]

theorem strictPre?_chars {p : PreRelease} (hn : p.iteration ≤ Text.maxNumber)
    (hid : PreRelease.checkIdentifier p.identifier.toList = .ok ()) :
    strictPre? (some p.chars) = some (some p) := by
  obtain ⟨hne, hall⟩ := PreRelease.checkIdentifier_eq_ok.mp hid
  have hshape : (!p.identifier.toList.isEmpty && p.identifier.toList.all Identifier.allows)
      = true := by
    simp [hne, hall]
  rw [strictPre?, PreRelease.chars, Text.splitAtFirst?_append (Identifier.point_notMem hall)]
  simp only [Option.bind_eq_bind, Option.bind_some, hshape, if_true, Text.digits?_decimal hn,
    String.ofList_toList]

/-- Besides its identifier a version is written with digits, points and a hyphen. -/
theorem notMem_chars_of_identifier {v : Version} {c : Char} (digit : c.isDigit = false)
    (hyphen : c ≠ '-') (point : c ≠ '.') (absent : ∀ p ∈ v.pre, c ∉ p.identifier.toList) :
    c ∉ v.chars := by
  have hcore : c ∉ v.coreChars := notMem_coreChars digit point v
  rw [chars]
  cases hp : v.pre with
  | none => exact hcore
  | some p =>
      simp only [PreRelease.chars, List.mem_append, List.mem_cons, not_or]
      exact ⟨hcore, hyphen, absent p hp, point, Text.notMem_decimal digit⟩

/-- A version is written with points and the characters of identifiers. -/
theorem notMem_chars {v : Version} (hn : v.WellNamed) {c : Char}
    (barred : Identifier.allows c = false) (point : c ≠ '.') : c ∉ v.chars := by
  have hdigit : c.isDigit = false := by
    rw [Identifier.allows, Bool.or_eq_false_iff, Char.isAlphanum, Bool.or_eq_false_iff] at barred
    exact barred.1.2
  refine notMem_chars_of_identifier hdigit ?_ point fun p hp hmem => ?_
  · rintro rfl
    revert barred
    decide
  · obtain ⟨-, hall⟩ := PreRelease.checkIdentifier_eq_ok.mp (hn p hp)
    rw [List.all_eq_true.mp hall c hmem] at barred
    cases barred

/-- A version is read back from its text. -/
theorem strict?_chars {v : Version} (hf : v.Fits) (hn : v.WellNamed) :
    strict? v.chars = some v := by
  have hpre : strictPre? (v.pre.map PreRelease.chars) = some v.pre := by
    cases hp : v.pre with
    | none => rfl
    | some p => exact strictPre?_chars (hf.iteration_le p hp) (hn p hp)
  simp only [strict?, splitPre_chars, splitOn_coreChars, Text.digits?_decimal hf.major_le,
    Text.digits?_decimal hf.minor_le, Text.digits?_decimal hf.patch_le, hpre,
    Option.bind_eq_bind, Option.bind_some]

/-! ## What is read can be written -/

theorem strictPre?_eq_some {text : Option (List Char)} {pre : Option PreRelease}
    (h : strictPre? text = some pre) (p : PreRelease) (hp : pre = some p) :
    p.iteration ≤ Text.maxNumber ∧
      PreRelease.checkIdentifier p.identifier.toList = .ok () := by
  subst hp
  cases text with
  | none => simp [strictPre?] at h
  | some text =>
      simp only [strictPre?, Option.bind_eq_bind, Option.bind_eq_some_iff] at h
      obtain ⟨⟨identifier, iteration⟩, -, h⟩ := h
      split at h
      next hid =>
        obtain ⟨n, hn, h⟩ := Option.bind_eq_some_iff.mp h
        cases h
        refine ⟨Text.le_maxNumber hn, PreRelease.checkIdentifier_eq_ok.mpr ?_⟩
        simpa [Bool.and_eq_true] using hid
      next => cases h

theorem strict?_eq_some {text : List Char} {v : Version} (h : strict? text = some v) :
    v.Fits ∧ v.WellNamed := by
  simp only [strict?] at h
  split at h
  next major minor patch _ =>
    simp only [Option.bind_eq_bind, Option.bind_eq_some_iff] at h
    obtain ⟨a, ha, b, hb, c, hc, pre, hpre, h⟩ := h
    cases h
    exact ⟨⟨Text.le_maxNumber ha, Text.le_maxNumber hb, Text.le_maxNumber hc,
      fun p hp => (strictPre?_eq_some hpre p hp).1⟩,
      fun p hp => (strictPre?_eq_some hpre p hp).2⟩
  next => cases h

end Version

/-! ## Tags -/

namespace TagPattern

variable {pattern : TagPattern} {v w : Version}

/-- The version of a tag is the one the tag was written for. -/
theorem parse?_format (hf : v.Fits) (hn : v.WellNamed) :
    pattern.parse? (pattern.format v) = some v := by
  rw [parse?, format, String.toList_ofList, parseChars?, List.append_assoc]
  simp only [Text.dropWord?_append, Text.dropWordEnd?_append, Option.bind_eq_bind,
    Option.bind_some, Version.strict?_chars hf hn]

/-- No two versions have the same tag. -/
theorem format_injective (hv : v.Fits) (hv' : v.WellNamed) (hw : w.Fits) (hw' : w.WellNamed)
    (h : pattern.format v = pattern.format w) : v = w := by
  have hparse := congrArg pattern.parse? h
  rwa [parse?_format hv hv', parse?_format hw hw', Option.some.injEq] at hparse

/-- The tag of a stable version is not that of a pre-release, whether their numbers fit or not. -/
theorem format_ne (hv : v.pre = none) (hw : w.isPreRelease = true) :
    pattern.format v ≠ pattern.format w := by
  intro h
  have htexts : pattern.lead ++ v.chars ++ pattern.tail = pattern.lead ++ w.chars ++ pattern.tail :=
    String.ofList_injective h
  have hchars : v.chars = w.chars :=
    List.append_cancel_left (List.append_cancel_right htexts)
  obtain ⟨p, hp⟩ := Option.isSome_iff_exists.mp hw
  rw [Version.chars, Version.chars, hv, hp] at hchars
  have hyphen : '-' ∈ v.coreChars := by
    simp only at hchars
    rw [hchars]
    exact List.mem_append_right _ List.mem_cons_self
  exact v.hyphen_notMem_coreChars hyphen

/-- The version of a tag can be written. -/
theorem parse?_eq_some {tag : String} (h : pattern.parse? tag = some v) :
    v.Fits ∧ v.WellNamed := by
  simp only [parse?, parseChars?, Option.bind_eq_bind, Option.bind_eq_some_iff] at h
  obtain ⟨-, -, middle, -, h⟩ := h
  exact Version.strict?_eq_some h

end TagPattern

end ReleasePlanner
