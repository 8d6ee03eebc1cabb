import Mathlib.Data.List.TakeWhile
import ReleasePlanner.Proofs.Version.Precedence
import ReleasePlanner.Proofs.Version.Spelling

/-!
# How versions are read

The grammar of the versions that are read (`Version.Reads`).  Letters may stand
in front, first any number of `v` and then any number of `V`.  Numbers may have
a plus sign and zeros in front, and they must fit.

The reader cuts the text at the first hyphen, the pre-release at its first
point and the rest at every point.  No number holds a hyphen or a point and no
identifier a point, so these cuts are those of the grammar, and exactly its
texts are read (`Version.parseChars_eq_ok_iff`).

The text of a version is one of them (`Version.reads_chars`).  It is the normal
form: what was read is written in it and read back unchanged
(`Version.parse_normal_form`).
-/

namespace ReleasePlanner

open Text (Numeral)

/-! ## Numbers -/

namespace Text

variable {cs : List Char} {n : Nat}

/-- Digits, with or without a plus sign in front, that stand for a number that fits. -/
def Number (cs : List Char) (n : Nat) : Prop :=
  ∃ digits, (cs = digits ∨ cs = '+' :: digits) ∧ Numeral digits n ∧ n ≤ maxNumber

theorem number?_eq_some_iff : number? cs = some n ↔ Number cs n := by
  unfold number?
  split
  next digits =>
    rw [digits?_eq_some_iff]
    constructor
    · rintro ⟨numeral, fits⟩
      exact ⟨digits, Or.inr rfl, numeral, fits⟩
    · rintro ⟨other, rfl | same, numeral, fits⟩
      · exact absurd List.mem_cons_self (numeral.notMem (c := '+') (by decide))
      · cases same
        exact ⟨numeral, fits⟩
  next unsigned =>
    rw [digits?_eq_some_iff]
    constructor
    · rintro ⟨numeral, fits⟩
      exact ⟨cs, Or.inl rfl, numeral, fits⟩
    · rintro ⟨digits, rfl | signed, numeral, fits⟩
      · exact ⟨numeral, fits⟩
      · exact absurd signed (unsigned digits)

theorem Number.notMem (h : Number cs n) {c : Char} (digit : c.isDigit = false) (plus : c ≠ '+') :
    c ∉ cs := by
  obtain ⟨digits, rfl | rfl, numeral, -⟩ := h
  · exact numeral.notMem digit
  · rw [List.mem_cons, not_or]
    exact ⟨plus, numeral.notMem digit⟩

theorem Number.ne_nil (h : Number cs n) : cs ≠ [] := by
  obtain ⟨digits, rfl | rfl, numeral, -⟩ := h
  · exact numeral.nonempty
  · exact List.cons_ne_nil _ _

theorem Number.le_maxNumber (h : Number cs n) : n ≤ maxNumber := by
  obtain ⟨-, -, -, fits⟩ := h
  exact fits

theorem number_decimal (fits : n ≤ maxNumber) : Number (decimal n) n :=
  ⟨decimal n, Or.inl rfl, numeral_decimal n, fits⟩

end Text

open Text (Number)

/-! ## Pre-releases -/

namespace PreRelease

variable {text : List Char} {p : PreRelease}

/-- The text reads as a pre-release, `id.N`. -/
def Reads (text : List Char) (p : PreRelease) : Prop :=
  ∃ number, text = p.identifier.toList ++ '.' :: number ∧
    p.identifier.toList ≠ [] ∧ (∀ c ∈ p.identifier.toList, c.isAlphanum = true ∨ c = '-') ∧
    Number number p.iteration

theorem checkIdentifier_eq_ok_iff_forall {identifier : List Char} :
    checkIdentifier identifier = .ok () ↔
      identifier ≠ [] ∧ ∀ c ∈ identifier, c.isAlphanum = true ∨ c = '-' := by
  simp [checkIdentifier_eq_ok, Identifier.allows]

theorem parseChars_eq_ok_iff : parseChars text = .ok p ↔ p.Reads text := by
  rw [parseChars]
  constructor
  · intro h
    split at h
    next => cases h
    next identifier iteration split =>
      obtain ⟨_, named, h⟩ := Result.bind_eq_ok.mp h
      obtain ⟨nonempty, allowed⟩ := checkIdentifier_eq_ok_iff_forall.mp named
      split at h
      next => cases h
      next n read =>
        cases h
        refine ⟨iteration, ?_, ?_, ?_, Text.number?_eq_some_iff.mp read⟩
        · rw [String.toList_ofList]
          exact (Text.splitAtFirst?_eq_some split).1
        · rwa [String.toList_ofList]
        · rwa [String.toList_ofList]
  · rintro ⟨number, rfl, nonempty, allowed, hnumber⟩
    have named := checkIdentifier_eq_ok_iff_forall.mpr ⟨nonempty, allowed⟩
    have point := Identifier.point_notMem (checkIdentifier_eq_ok.mp named).2
    simp only [Text.splitAtFirst?_append point, named, Text.number?_eq_some_iff.mpr hnumber,
      String.ofList_toList]
    rfl

theorem reads_chars (named : checkIdentifier p.identifier.toList = .ok ())
    (fits : p.iteration ≤ Text.maxNumber) : p.Reads p.chars := by
  obtain ⟨nonempty, allowed⟩ := checkIdentifier_eq_ok_iff_forall.mp named
  exact ⟨_, rfl, nonempty, allowed, Text.number_decimal fits⟩

end PreRelease

/-! ## Versions -/

namespace Version

variable {text core mark : List Char} {pre : Option PreRelease} {v : Version}

/-- What follows the three numbers: nothing, or a hyphen and a pre-release. -/
def ReadsMark (mark : List Char) : Option PreRelease → Prop
  | none => mark = []
  | some p => ∃ text, mark = '-' :: text ∧ p.Reads text

/-- The text reads as a version, `N.N.N` or `N.N.N-id.N` behind letters. -/
def Reads (text : List Char) (v : Version) : Prop :=
  ∃ small large a b c mark,
    text = List.replicate small 'v' ++
      (List.replicate large 'V' ++ (a ++ '.' :: (b ++ '.' :: c) ++ mark)) ∧
    Number a v.major ∧ Number b v.minor ∧ Number c v.patch ∧ ReadsMark mark v.pre

/-! ### The letters in front -/

theorem exists_replicate_append (c : Char) (text : List Char) :
    ∃ count, text = List.replicate count c ++ text.dropWhile (· == c) := by
  refine ⟨(text.takeWhile (· == c)).length, ?_⟩
  have marks : text.takeWhile (· == c) = List.replicate (text.takeWhile (· == c)).length c := by
    refine List.eq_replicate_of_mem fun d hd => ?_
    have same := List.mem_takeWhile_imp hd
    exact beq_iff_eq.mp same
  rw [← marks, List.takeWhile_append_dropWhile]

theorem exists_marks (text : List Char) :
    ∃ small large, text = List.replicate small 'v' ++
      (List.replicate large 'V' ++ dropMarks text) := by
  obtain ⟨small, hsmall⟩ := exists_replicate_append 'v' text
  obtain ⟨large, hlarge⟩ := exists_replicate_append 'V' (text.dropWhile (· == 'v'))
  exact ⟨small, large, by rw [dropMarks, ← hlarge, ← hsmall]⟩

theorem dropMarks_append (small large : Nat)
    (other : ∀ c, text.head? = some c → c ≠ 'v' ∧ c ≠ 'V') :
    dropMarks (List.replicate small 'v' ++ (List.replicate large 'V' ++ text)) = text := by
  have behind : ∀ c, (List.replicate large 'V' ++ text).head? = some c → (c == 'v') = false := by
    intro c hc
    cases large with
    | zero => simpa using (other c hc).1
    | succ large =>
        cases hc
        decide
  have all : ∀ {count : Nat} {c d : Char}, d ∈ List.replicate count c → (d == c) = true :=
    fun h => beq_iff_eq.mpr (List.eq_of_mem_replicate h)
  rw [dropMarks, Text.dropWhile_run (fun _ => all) behind]
  exact Text.dropWhile_run (fun _ => all) fun c hc => by simpa using (other c hc).2

/-! ### The numbers and the pre-release -/

theorem parsePart_eq_ok {part : VersionPart} {cs : List Char} {n : Nat} :
    parsePart part cs = .ok n ↔ Number cs n := by
  rw [← Text.number?_eq_some_iff, parsePart]
  cases Text.number? cs with
  | none => simp
  | some m => simp

theorem parsePre_eq_ok :
    parsePre (some text) = .ok pre ↔ ∃ p, pre = some p ∧ p.Reads text := by
  rw [parsePre]
  cases found : PreRelease.parseChars text with
  | error e =>
      constructor
      · intro h
        cases h
      · rintro ⟨p, -, reads⟩
        rw [PreRelease.parseChars_eq_ok_iff.mpr reads] at found
        cases found
  | ok q =>
      have reads := PreRelease.parseChars_eq_ok_iff.mp found
      constructor
      · rintro ⟨⟩
        exact ⟨q, rfl, reads⟩
      · rintro ⟨p, rfl, others⟩
        rw [← PreRelease.parseChars_eq_ok_iff, found] at others
        cases others
        rfl

/-- The part before the first hyphen and what follows it make up the text. -/
theorem exists_mark_of_parsePre (h : parsePre (splitPre text).2 = .ok pre) :
    ∃ mark, text = (splitPre text).1 ++ mark ∧ ReadsMark mark pre := by
  rw [splitPre] at h ⊢
  cases found : Text.splitAtFirst? '-' text with
  | none =>
      rw [found] at h
      cases h
      exact ⟨[], (List.append_nil text).symm, rfl⟩
  | some parts =>
      obtain ⟨core, rest⟩ := parts
      rw [found] at h
      obtain ⟨p, rfl, reads⟩ := parsePre_eq_ok.mp h
      exact ⟨'-' :: rest, (Text.splitAtFirst?_eq_some found).1, rest, rfl, reads⟩

/-- A text without a hyphen ends before the first hyphen, if one follows. -/
theorem ReadsMark.exists_split (h : ReadsMark mark pre) (absent : '-' ∉ core) :
    ∃ part, splitPre (core ++ mark) = (core, part) ∧ parsePre part = .ok pre := by
  cases pre with
  | none =>
      obtain rfl : mark = [] := h
      refine ⟨none, ?_, rfl⟩
      rw [List.append_nil, splitPre, Text.splitAtFirst?_eq_none absent]
  | some p =>
      obtain ⟨text, rfl, reads⟩ := h
      refine ⟨some text, ?_, parsePre_eq_ok.mpr ⟨p, rfl, reads⟩⟩
      rw [splitPre, Text.splitAtFirst?_append absent]

/-- A version is read from exactly the texts that read as it. -/
theorem parseChars_eq_ok_iff : parseChars text = .ok v ↔ Reads text v := by
  simp only [parseChars, Result.bind_eq_ok]
  constructor
  · rintro ⟨pre, hpre, h⟩
    split at h
    next a b c pieces =>
      simp only [Result.bind_eq_ok, parsePart_eq_ok] at h
      obtain ⟨major, ha, minor, hb, patch, hc, h⟩ := h
      cases h
      obtain ⟨small, large, marks⟩ := exists_marks text
      obtain ⟨mark, whole, hmark⟩ := exists_mark_of_parsePre hpre
      rw [(Text.splitOn_eq_three_iff.mp pieces).1] at whole
      exact ⟨small, large, a, b, c, mark, by rw [← whole, ← marks], ha, hb, hc, hmark⟩
    next => cases h
  · rintro ⟨small, large, a, b, c, mark, rfl, ha, hb, hc, hmark⟩
    have front : ∀ d, (a ++ '.' :: (b ++ '.' :: c) ++ mark).head? = some d →
        d ≠ 'v' ∧ d ≠ 'V' := by
      intro d hd
      obtain ⟨e, a, rfl⟩ := List.exists_cons_of_ne_nil ha.ne_nil
      cases hd
      have absent : ∀ {c : Char}, c.isDigit = false → c ≠ '+' → d ≠ c := fun digit plus same =>
        ha.notMem digit plus (same ▸ List.mem_cons_self)
      exact ⟨absent (by decide) (by decide), absent (by decide) (by decide)⟩
    have point : ∀ {cs n}, Number cs n → '.' ∉ cs := fun h => h.notMem (by decide) (by decide)
    have hyphen : ∀ {cs n}, Number cs n → '-' ∉ cs := fun h => h.notMem (by decide) (by decide)
    have pieces : Text.splitOn '.' (a ++ '.' :: (b ++ '.' :: c)) = [a, b, c] :=
      Text.splitOn_eq_three_iff.mpr ⟨rfl, point ha, point hb, point hc⟩
    have absent : '-' ∉ a ++ '.' :: (b ++ '.' :: c) := by
      simp [hyphen ha, hyphen hb, hyphen hc]
    obtain ⟨part, split, hpre⟩ := hmark.exists_split absent
    rw [dropMarks_append small large front, split]
    refine ⟨v.pre, hpre, ?_⟩
    simp only [pieces, Result.bind_eq_ok, parsePart_eq_ok]
    exact ⟨_, ha, _, hb, _, hc, rfl⟩

/-! ### The normal form -/

theorem Reads.fits (h : Reads text v) : v.Fits := by
  obtain ⟨small, large, a, b, c, mark, -, ha, hb, hc, hmark⟩ := h
  refine ⟨ha.le_maxNumber, hb.le_maxNumber, hc.le_maxNumber, fun p hp => ?_⟩
  rw [hp] at hmark
  obtain ⟨_, -, _, -, -, -, number⟩ := hmark
  exact number.le_maxNumber

/-- The text of a version reads as this version. -/
theorem reads_chars (fits : v.Fits) (named : v.WellNamed) : Reads v.chars v := by
  have numbers := And.intro (Text.number_decimal fits.major_le)
    (And.intro (Text.number_decimal fits.minor_le) (Text.number_decimal fits.patch_le))
  cases hp : v.pre with
  | none =>
      refine ⟨0, 0, _, _, _, [], ?_, numbers.1, numbers.2.1, numbers.2.2, ?_⟩
      · simp [chars, hp, coreChars]
      · rw [hp]
        rfl
  | some p =>
      have reads := PreRelease.reads_chars (named p hp) (fits.iteration_le p hp)
      refine ⟨0, 0, _, _, _, '-' :: p.chars, ?_, numbers.1, numbers.2.1, numbers.2.2, ?_⟩
      · simp [chars, hp, coreChars]
      · rw [hp]
        exact ⟨_, rfl, reads⟩

theorem parse_text (fits : v.Fits) (named : v.WellNamed) : parse v.text = .ok v := by
  rw [parse, text, String.toList_ofList]
  exact parseChars_eq_ok_iff.mpr (reads_chars fits named)

/-- A text is read exactly if it is of the grammar, and then as the version with the values in it.
A version whose numbers fit and whose identifier is valid is read back from its text unchanged, and
so is every version that was read. -/
theorem parse_normal_form :
    (∀ text v, parse text = .ok v ↔ Reads text.toList v) ∧
      (∀ v : Version, v.Fits → v.WellNamed → parse v.text = .ok v) ∧
      ∀ text v, parse text = .ok v → parse v.text = .ok v := by
  refine ⟨fun text v => parseChars_eq_ok_iff, fun v => parse_text, fun text v h => ?_⟩
  exact parse_text (parseChars_eq_ok_iff.mp h).fits (parse_wellNamed h)

/-- Letters, plus signs, zeros and hyphens in one text. -/
theorem normal_form_signed :
    ∃ v, parse "vvV+1.02.3-rc-1.+4" = .ok v ∧ v.text = "1.2.3-rc-1.4" ∧ v.Fits ∧ v.WellNamed ∧
      Reads "vvV+1.02.3-rc-1.+4".toList v ∧ parse v.text = .ok v := by
  have read : parse "vvV+1.02.3-rc-1.+4" = .ok ⟨1, 2, 3, some ⟨"rc-1", 4⟩⟩ := by rfl
  have fits : Version.Fits ⟨1, 2, 3, some ⟨"rc-1", 4⟩⟩ :=
    fits_digits (by decide) (by decide) (by decide) (by decide)
  have named : Version.WellNamed ⟨1, 2, 3, some ⟨"rc-1", 4⟩⟩ := parse_wellNamed read
  obtain ⟨grammar, written, -⟩ := parse_normal_form
  exact ⟨_, read, by decide, fits, named, (grammar _ _).mp read, written _ fits named⟩

end Version

end ReleasePlanner
