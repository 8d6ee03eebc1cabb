import ReleasePlanner.Proofs.Version.Written

/-!
# How versions are spelled in tags

The grammar of the versions of tags: `N.N.N` or `N.N.N-id.N` (`Version.Spelled`),
where numbers may have zeros in front and may be as large as they like.  A text
spells at most one version (`Version.Spelled.unique`).  It is read exactly when
the numbers of that version fit (`Version.strict?_eq_some_iff`).

A tag is read when such a text stands between the two fixed parts of the
pattern (`TagPattern.parse?_eq_some_iff`).  The fixed parts are what stands
around the placeholder, which counts only once and so is at one place only
(`TagPattern.around?_of_ofChars`).
-/

namespace ReleasePlanner

/-! ## Numbers -/

/-- One or more digits that stand for a number. -/
structure Text.Numeral (cs : List Char) (n : Nat) : Prop where
  nonempty : cs ≠ []
  digits : ∀ c ∈ cs, c.isDigit = true
  value_eq : digitsValue 0 cs = n

namespace Text

variable {cs : List Char} {n m : Nat}

theorem Numeral.unique (h : Numeral cs n) (h' : Numeral cs m) : n = m :=
  h.value_eq.symm.trans h'.value_eq

theorem Numeral.notMem (h : Numeral cs n) {c : Char} (other : c.isDigit = false) : c ∉ cs := by
  intro hc
  rw [h.digits c hc] at other
  cases other

theorem numeral_decimal (n : Nat) : Numeral (decimal n) n where
  nonempty := decimal_ne_nil n
  digits _ hc := isDigit_of_mem_decimal hc
  value_eq := digitsValue_decimal n

/-- Digits are read when their number fits. -/
theorem digits?_eq_some_iff : digits? cs = some n ↔ Numeral cs n ∧ n ≤ maxNumber := by
  have shape : (cs.isEmpty || !cs.all Char.isDigit) = false
      ↔ cs ≠ [] ∧ ∀ c ∈ cs, c.isDigit = true := by
    simp
  constructor
  · intro h
    have fits := le_maxNumber h
    rw [digits?] at h
    split at h
    next => cases h
    next digits =>
      obtain ⟨nonempty, digits⟩ := shape.mp (Bool.not_eq_true _ ▸ digits)
      simp only [Option.ite_none_right_eq_some, Option.some.injEq] at h
      exact ⟨⟨nonempty, digits, h.2⟩, fits⟩
  · rintro ⟨⟨nonempty, digits, rfl⟩, fits⟩
    rw [digits?, shape.mpr ⟨nonempty, digits⟩]
    exact if_pos fits

end Text

open Text (Numeral)

/-! ## Pre-releases -/

/-- The text spells a pre-release, `id.N`. -/
def PreRelease.Spelled (text : List Char) (p : PreRelease) : Prop :=
  ∃ number, text = p.identifier.toList ++ '.' :: number ∧
    p.identifier.toList ≠ [] ∧ (∀ c ∈ p.identifier.toList, c.isAlphanum = true ∨ c = '-') ∧
    Numeral number p.iteration

namespace PreRelease

variable {text : List Char} {p q : PreRelease}

theorem Spelled.named (h : p.Spelled text) :
    checkIdentifier p.identifier.toList = .ok () := by
  obtain ⟨-, -, nonempty, allowed, -⟩ := h
  refine checkIdentifier_eq_ok.mpr ⟨nonempty, List.all_eq_true.mpr fun c hc => ?_⟩
  simpa [Identifier.allows] using allowed c hc

/-- The first point stands between identifier and number. -/
theorem Spelled.exists_split (h : p.Spelled text) :
    ∃ number, Text.splitAtFirst? '.' text = some (p.identifier.toList, number) ∧
      Numeral number p.iteration := by
  have named := checkIdentifier_eq_ok.mp h.named
  obtain ⟨number, rfl, -, -, numeral⟩ := h
  exact ⟨number, Text.splitAtFirst?_append (Identifier.point_notMem named.2), numeral⟩

theorem Spelled.unique (h : p.Spelled text) (h' : q.Spelled text) : p = q := by
  obtain ⟨number, split, numeral⟩ := h.exists_split
  obtain ⟨number', split', numeral'⟩ := h'.exists_split
  rw [split, Option.some.injEq, Prod.mk.injEq] at split'
  obtain ⟨same, rfl⟩ := split'
  have identifier := String.toList_injective same
  have iteration := numeral.unique numeral'
  cases p
  cases q
  simp_all

end PreRelease

/-! ## Versions -/

namespace Version

/-- The text spells the three numbers of a version, `N.N.N`. -/
def SpelledNumbers (text : List Char) (v : Version) : Prop :=
  ∃ a b c, text = a ++ '.' :: (b ++ '.' :: c) ∧
    Numeral a v.major ∧ Numeral b v.minor ∧ Numeral c v.patch

/-- The text spells a version, `N.N.N` or `N.N.N-id.N`. -/
inductive Spelled : List Char → Version → Prop where
  | stable {text : List Char} {v : Version} (numbers : SpelledNumbers text v)
      (pre_eq : v.pre = none) : Spelled text v
  | step {core mark : List Char} {v : Version} {p : PreRelease} (numbers : SpelledNumbers core v)
      (pre_eq : v.pre = some p) (pre : p.Spelled mark) : Spelled (core ++ '-' :: mark) v

variable {text core mark : List Char} {v w : Version}

/-! ### Taking a spelling apart -/

theorem SpelledNumbers.notMem (h : SpelledNumbers text v) {c : Char} (other : c.isDigit = false)
    (point : c ≠ '.') : c ∉ text := by
  obtain ⟨a, b, d, rfl, ha, hb, hd⟩ := h
  simp [ha.notMem other, hb.notMem other, hd.notMem other, point]

theorem SpelledNumbers.exists_split (h : SpelledNumbers text v) :
    ∃ a b c, Text.splitOn '.' text = [a, b, c] ∧
      Numeral a v.major ∧ Numeral b v.minor ∧ Numeral c v.patch := by
  obtain ⟨a, b, c, rfl, ha, hb, hc⟩ := h
  have point : ∀ {cs n}, Numeral cs n → '.' ∉ cs := fun h => h.notMem (by decide)
  exact ⟨a, b, c, Text.splitOn_eq_three_iff.mpr ⟨rfl, point ha, point hb, point hc⟩, ha, hb, hc⟩

theorem SpelledNumbers.unique (h : SpelledNumbers text v) (h' : SpelledNumbers text w) :
    v.major = w.major ∧ v.minor = w.minor ∧ v.patch = w.patch := by
  obtain ⟨a, b, c, split, ha, hb, hc⟩ := h.exists_split
  obtain ⟨a', b', c', split', ha', hb', hc'⟩ := h'.exists_split
  rw [split] at split'
  cases split'
  exact ⟨ha.unique ha', hb.unique hb', hc.unique hc'⟩

theorem SpelledNumbers.splitPre_eq (h : SpelledNumbers text v) : splitPre text = (text, none) := by
  rw [splitPre, Text.splitAtFirst?_eq_none (h.notMem (by decide) (by decide))]

theorem SpelledNumbers.splitPre_append (h : SpelledNumbers core v) (mark : List Char) :
    splitPre (core ++ '-' :: mark) = (core, some mark) := by
  rw [splitPre, Text.splitAtFirst?_append (h.notMem (by decide) (by decide))]

/-- A text spells at most one version. -/
theorem Spelled.unique (h : Spelled text v) (h' : Spelled text w) : v = w := by
  have same : ∀ {core : List Char}, SpelledNumbers core v → SpelledNumbers core w →
      v.pre = w.pre → v = w := by
    intro core numbers others pre
    obtain ⟨major, minor, patch⟩ := numbers.unique others
    cases v
    cases w
    simp_all
  cases h with
  | stable numbers pre_eq =>
      cases h' with
      | stable others other_eq => exact same numbers others (pre_eq.trans other_eq.symm)
      | step others =>
          have split := numbers.splitPre_eq
          rw [others.splitPre_append] at split
          exact absurd (congrArg Prod.snd split) (Option.some_ne_none _)
  | @step core mark _ p numbers pre_eq pre =>
      generalize htext : core ++ '-' :: mark = text at h'
      have split := numbers.splitPre_append mark
      rw [htext] at split
      cases h' with
      | stable others =>
          rw [others.splitPre_eq] at split
          exact absurd (congrArg Prod.snd split).symm (Option.some_ne_none _)
      | step others other_eq other =>
          rw [others.splitPre_append, Prod.mk.injEq, Option.some.injEq] at split
          obtain ⟨rfl, rfl⟩ := split
          exact same numbers others (pre_eq.trans (pre.unique other ▸ other_eq.symm))

/-! ### Reading -/

theorem strictPre?_eq_some_iff {pre : Option PreRelease} :
    strictPre? (some mark) = some pre ↔
      ∃ p, pre = some p ∧ p.Spelled mark ∧ p.iteration ≤ Text.maxNumber := by
  simp only [strictPre?, Option.bind_eq_bind, Option.bind_eq_some_iff]
  constructor
  · rintro ⟨⟨identifier, number⟩, split, h⟩
    obtain ⟨rfl, -⟩ := Text.splitAtFirst?_eq_some split
    split at h
    next named =>
      obtain ⟨n, read, h⟩ := Option.bind_eq_some_iff.mp h
      obtain ⟨numeral, fits⟩ := Text.digits?_eq_some_iff.mp read
      rw [Bool.and_eq_true, List.all_eq_true] at named
      refine ⟨_, (Option.some.inj h).symm,
        ⟨number, by rw [String.toList_ofList], ?_, fun c hc => ?_, numeral⟩, fits⟩
      · simpa using named.1
      · rw [String.toList_ofList] at hc
        simpa [Identifier.allows] using named.2 c hc
    next => cases h
  · rintro ⟨p, rfl, spelled, fits⟩
    obtain ⟨nonempty, allowed⟩ := PreRelease.checkIdentifier_eq_ok.mp spelled.named
    obtain ⟨number, split, numeral⟩ := spelled.exists_split
    refine ⟨_, split, ?_⟩
    have named : (!p.identifier.toList.isEmpty && p.identifier.toList.all Identifier.allows)
        = true := by
      simp [nonempty, allowed]
    simp only [named, if_true, Text.digits?_eq_some_iff.mpr ⟨numeral, fits⟩, Option.bind_some,
      String.ofList_toList]

theorem spelledNumbers_of_splitOn {a b c : List Char} (split : Text.splitOn '.' text = [a, b, c])
    (ha : Numeral a v.major) (hb : Numeral b v.minor) (hc : Numeral c v.patch) :
    SpelledNumbers text v :=
  ⟨a, b, c, (Text.splitOn_eq_three_iff.mp split).1, ha, hb, hc⟩

/-- A version is read from the parts of its spelling. -/
theorem strict?_of_numbers {pre : Option (List Char)} (numbers : SpelledNumbers core v)
    (fits : v.Fits) (split : splitPre text = (core, pre)) (hpre : strictPre? pre = some v.pre) :
    strict? text = some v := by
  obtain ⟨a, b, c, pieces, ha, hb, hc⟩ := numbers.exists_split
  simp only [strict?, split, pieces, hpre, Option.bind_eq_bind, Option.bind_some,
    Text.digits?_eq_some_iff.mpr ⟨ha, fits.major_le⟩,
    Text.digits?_eq_some_iff.mpr ⟨hb, fits.minor_le⟩,
    Text.digits?_eq_some_iff.mpr ⟨hc, fits.patch_le⟩]

/-- A version is read from its spellings and from nothing else, and only when its numbers fit. -/
theorem strict?_eq_some_iff : strict? text = some v ↔ Spelled text v ∧ v.Fits := by
  constructor
  · intro h
    refine ⟨?_, (strict?_eq_some h).1⟩
    simp only [strict?] at h
    split at h
    next a b c split =>
      simp only [Option.bind_eq_bind, Option.bind_eq_some_iff] at h
      obtain ⟨major, ha, minor, hb, patch, hc, pre, hpre, h⟩ := h
      cases h
      have numbers : SpelledNumbers (splitPre text).1 ⟨major, minor, patch, pre⟩ :=
        spelledNumbers_of_splitOn split (Text.digits?_eq_some_iff.mp ha).1
          (Text.digits?_eq_some_iff.mp hb).1 (Text.digits?_eq_some_iff.mp hc).1
      cases found : Text.splitAtFirst? '-' text with
      | none =>
          rw [splitPre, found] at numbers hpre
          exact .stable numbers (Option.some.inj hpre).symm
      | some parts =>
          obtain ⟨core, mark⟩ := parts
          rw [splitPre, found] at numbers hpre
          obtain ⟨rfl, -⟩ := Text.splitAtFirst?_eq_some found
          obtain ⟨p, rfl, spelled, -⟩ := strictPre?_eq_some_iff.mp hpre
          exact .step numbers rfl spelled
    next => cases h
  · rintro ⟨spelled, fits⟩
    cases spelled with
    | stable numbers pre_eq =>
        exact strict?_of_numbers numbers fits numbers.splitPre_eq (pre_eq ▸ rfl)
    | @step core mark _ p numbers pre_eq pre =>
        refine strict?_of_numbers numbers fits (numbers.splitPre_append mark) ?_
        exact strictPre?_eq_some_iff.mpr ⟨p, pre_eq, pre, fits.iteration_le p pre_eq⟩

end Version

/-! ## Tags -/

namespace TagPattern

variable {pattern : TagPattern} {tag : String} {v : Version} {lead tail : List Char}

/-- The tag spells a version between the fixed parts of the pattern. -/
def Spells (pattern : TagPattern) (tag : String) (v : Version) : Prop :=
  ∃ text, tag.toList = pattern.lead ++ text ++ pattern.tail ∧ Version.Spelled text v

theorem parse?_eq_some_iff : pattern.parse? tag = some v ↔ pattern.Spells tag v ∧ v.Fits := by
  simp only [parse?, parseChars?, Option.bind_eq_bind, Option.bind_eq_some_iff,
    Text.dropWord?_eq_some, Text.dropWordEnd?_eq_some, Version.strict?_eq_some_iff]
  constructor
  · rintro ⟨rest, htag, text, rfl, spelled, fits⟩
    exact ⟨⟨text, by rw [htag, List.append_assoc], spelled⟩, fits⟩
  · rintro ⟨⟨text, htag, spelled⟩, fits⟩
    exact ⟨text ++ pattern.tail, by rw [htag, List.append_assoc], text, rfl, spelled, fits⟩

/-- A tag spells at most one version. -/
theorem Spells.unique {w : Version} (h : pattern.Spells tag v) (h' : pattern.Spells tag w) :
    v = w := by
  obtain ⟨text, htag, spelled⟩ := h
  obtain ⟨other, hother, others⟩ := h'
  rw [htag, List.append_left_inj, List.append_right_inj] at hother
  exact spelled.unique (hother ▸ others)

/-- The fixed parts of a pattern are what stands around its placeholder, which stands nowhere
else. -/
theorem around?_of_ofChars {text : List Char} (made : ofChars text = .ok pattern) :
    Text.around? Text.versionWord text = some (pattern.lead, pattern.tail) ∧
      Text.around? Text.versionWord pattern.tail = none := by
  rw [ofChars] at made
  split at made
  next once =>
    split at made
    next lead tail found =>
      cases made
      rw [Text.eq_of_around? found] at once
      exact ⟨found, (Text.around?_of_occurrences (by decide) once).2⟩
    next => cases made
  next => cases made

theorem eq_of_ofChars (made : ofChars (lead ++ Text.versionWord ++ tail) = .ok pattern) :
    pattern = ⟨lead, tail⟩ := by
  rw [ofChars, List.append_assoc] at made
  split at made
  next once =>
    rw [Text.versionWord, (Text.around?_of_occurrences (by decide) once).1] at made
    cases made
    rfl
  next => cases made

end TagPattern

end ReleasePlanner
