import ReleasePlanner.Proofs.Regex.Items
import ReleasePlanner.Proofs.Regex.Takes
import ReleasePlanner.Proofs.Step
import ReleasePlanner.Proofs.Version.Spelling

/-!
# The expression for versions

Tags are searched with an expression that takes three runs of digits, points
between them, and at most one mark of a pre-release (`Version.takes_shapeRe_iff`).
Its digits are those of every script, so it takes more than the texts that spell
a version (`Version.Shaped`).

The reader of versions then decides.  It also allows letters in front and plus
signs, but neither stands in what was taken, and there it reads exactly the
texts that spell a version whose numbers fit (`Version.Shaped.parse_eq_ok_iff`).
-/

namespace ReleasePlanner

/-! ## Texts of the shape of a version -/

namespace Text

variable {cs : List Char} {n : Nat}

theorem Numeral.run (h : Numeral cs n) : DigitRun cs :=
  ⟨h.nonempty, fun c hc => isDecimalDigit_of_isDigit (h.digits c hc)⟩

theorem DigitRun.notMem (h : DigitRun cs) {c : Char} (other : isDecimalDigit c = false) :
    c ∉ cs := by
  intro hc
  rw [h.digits c hc] at other
  cases other

/-- Where no plus sign stands, the two readers of numbers agree. -/
theorem DigitRun.number?_eq (h : DigitRun cs) : number? cs = digits? cs := by
  unfold number?
  split
  next cs => exact absurd List.mem_cons_self (h.notMem (c := '+') (by decide))
  next => rfl

end Text

open Regex Regex.Re
open Text (DigitRun)

variable {before taken after : List Char}

namespace PreRelease

/-- The text has the shape of a pre-release. -/
def Shaped (text : List Char) : Prop :=
  ∃ identifier number, text = identifier ++ '.' :: number ∧ identifier ≠ [] ∧
    (∀ c ∈ identifier, Identifier.allows c = true) ∧ DigitRun number

theorem Spelled.shaped {text : List Char} {p : PreRelease} (h : p.Spelled text) : Shaped text := by
  have named := checkIdentifier_eq_ok.mp h.named
  obtain ⟨number, rfl, -, -, numeral⟩ := h
  exact ⟨_, number, rfl, named.1, List.all_eq_true.mp named.2, numeral.run⟩

/-- A pre-release is read alike by both readers. -/
theorem Shaped.parsePre_eq_ok_iff {text : List Char} {pre : Option PreRelease}
    (h : Shaped text) :
    Version.parsePre (some text) = .ok pre ↔ Version.strictPre? (some text) = some pre := by
  obtain ⟨identifier, number, rfl, nonempty, allowed, run⟩ := h
  have all : identifier.all Identifier.allows = true := List.all_eq_true.mpr allowed
  have split : Text.splitAtFirst? '.' (identifier ++ '.' :: number) = some (identifier, number) :=
    Text.splitAtFirst?_append (Identifier.point_notMem all)
  have named : checkIdentifier identifier = .ok () := checkIdentifier_eq_ok.mpr ⟨nonempty, all⟩
  have same : (!identifier.isEmpty && identifier.all Identifier.allows) = true := by
    simp [nonempty, all]
  simp only [Version.parsePre, Version.strictPre?, parseChars, split, named, run.number?_eq,
    Option.bind_eq_bind, Option.bind_some, same, if_true]
  cases Text.digits? number with
  | none => simp [Except.map, bind, Except.bind]
  | some n => simp [Except.map, bind, Except.bind]

/-! ### The expression for the mark -/

/-- The characters of identifiers. -/
def identifierSet : CharSet :=
  .union (.union (.union (.union .none (.range 48 57)) (.range 65 90)) (.range 97 122))
    (.single '-')

/-- What the expression for the mark of a pre-release is read as. -/
def shapeRe : Re :=
  seq [set (.single '-'), rep 1 none (set identifierSet), set (.single '.'), number]

theorem contains_identifierSet_iff {c : Char} :
    identifierSet.contains c.toNat = true ↔ Identifier.allows c = true := by
  have upper : c.isUpper = true ↔ 65 ≤ c.toNat ∧ c.toNat ≤ 90 :=
    decide_eq_true_iff.trans (and_congr UInt32.le_iff_toNat_le UInt32.le_iff_toNat_le)
  have lower : c.isLower = true ↔ 97 ≤ c.toNat ∧ c.toNat ≤ 122 :=
    (Bool.and_eq_true_iff.trans (and_congr decide_eq_true_iff decide_eq_true_iff)).trans
      (and_congr UInt32.le_iff_toNat_le UInt32.le_iff_toNat_le)
  have alpha : c.isAlpha = (c.isUpper || c.isLower) := rfl
  have digit : c.isDigit = true ↔ 48 ≤ c.toNat ∧ c.toNat ≤ 57 := Char.isDigit_iff_toNat
  simp only [identifierSet, CharSet.contains, Bool.or_eq_true, Bool.false_eq_true, false_or,
    CharSet.contains_single_iff, Bool.and_eq_true, decide_eq_true_iff, Identifier.allows,
    Char.isAlphanum, alpha, upper, lower, digit, beq_iff_eq]
  simp only [or_assoc, or_comm]

theorem takes_shapeRe_iff :
    shapeRe.Takes before taken after ↔ ∃ text, taken = '-' :: text ∧ Shaped text := by
  simp only [shapeRe, takes_seq_cons_iff (List.cons_ne_nil _ _), takes_seq_single_iff,
    takes_single_iff, takes_run_iff, takes_number_iff, contains_identifierSet_iff, Shaped]
  constructor
  · rintro ⟨_, _, rfl, rfl, identifier, _, rfl, ⟨long, allowed⟩, _, number, rfl, rfl, run⟩
    exact ⟨_, rfl, identifier, number, rfl, List.length_pos_iff.mp long, allowed, run⟩
  · rintro ⟨_, rfl, identifier, number, rfl, nonempty, allowed, run⟩
    exact ⟨_, _, rfl, rfl, identifier, _, rfl, ⟨List.length_pos_iff.mpr nonempty, allowed⟩,
      _, number, rfl, rfl, run⟩

end PreRelease

namespace Version

/-- The text has the shape of a version. -/
def Shaped (text : List Char) : Prop :=
  ∃ a b c mark, text = a ++ '.' :: (b ++ '.' :: (c ++ mark)) ∧ DigitRun a ∧ DigitRun b ∧
    DigitRun c ∧ (mark = [] ∨ ∃ pre, mark = '-' :: pre ∧ PreRelease.Shaped pre)

variable {text : List Char} {v : Version}

/-- What spells a version has its shape. -/
theorem Spelled.shaped (h : Spelled text v) : Shaped text := by
  cases h with
  | stable numbers =>
      obtain ⟨a, b, c, rfl, ha, hb, hc⟩ := numbers
      exact ⟨a, b, c, [], by simp, ha.run, hb.run, hc.run, Or.inl rfl⟩
  | @step core mark _ p numbers pre_eq pre =>
      obtain ⟨a, b, c, rfl, ha, hb, hc⟩ := numbers
      exact ⟨a, b, c, '-' :: mark, by simp, ha.run, hb.run, hc.run, Or.inr ⟨mark, rfl, pre.shaped⟩⟩

/-- A digit stands in front, where the reader of versions looks for letters. -/
theorem Shaped.dropMarks_eq (h : Shaped text) : dropMarks text = text := by
  obtain ⟨a, b, c, mark, rfl, ha, -⟩ := h
  cases a with
  | nil => exact absurd rfl ha.nonempty
  | cons d a =>
      have digit := ha.digits d List.mem_cons_self
      have small : d ≠ 'v' := by
        rintro rfl
        exact absurd digit (by decide)
      have large : d ≠ 'V' := by
        rintro rfl
        exact absurd digit (by decide)
      simp [dropMarks, small, large]

/-! ### Reading them -/

theorem parsePart_eq_ok_iff {part : VersionPart} {cs : List Char} {n : Nat}
    (run : DigitRun cs) : parsePart part cs = .ok n ↔ Text.digits? cs = some n := by
  rw [parsePart, run.number?_eq]
  cases Text.digits? cs with
  | none => simp
  | some m => simp

/-- Both readers find the same three numbers and the same pre-release in a text of this shape. -/
theorem Shaped.exists_split (h : Shaped text) :
    ∃ core part a b c, splitPre text = (core, part) ∧ Text.splitOn '.' core = [a, b, c] ∧
      DigitRun a ∧ DigitRun b ∧ DigitRun c ∧
      ∀ pre, parsePre part = .ok pre ↔ strictPre? part = some pre := by
  obtain ⟨a, b, c, mark, rfl, ha, hb, hc, hmark⟩ := h
  have point : Text.isDecimalDigit '.' = false := by decide
  have hyphen : Text.isDecimalDigit '-' = false := by decide
  have pieces : Text.splitOn '.' (a ++ '.' :: (b ++ '.' :: c)) = [a, b, c] :=
    Text.splitOn_eq_three_iff.mpr ⟨rfl, ha.notMem point, hb.notMem point, hc.notMem point⟩
  have absent : '-' ∉ a ++ '.' :: (b ++ '.' :: c) := by
    simp [ha.notMem hyphen, hb.notMem hyphen, hc.notMem hyphen]
  rcases hmark with rfl | ⟨rest, rfl, shaped⟩
  · have split : splitPre (a ++ '.' :: (b ++ '.' :: c)) = (a ++ '.' :: (b ++ '.' :: c), none) := by
      rw [splitPre, Text.splitAtFirst?_eq_none absent]
    rw [List.append_nil]
    exact ⟨_, none, a, b, c, split, pieces, ha, hb, hc, fun pre => by simp [parsePre, strictPre?]⟩
  · have split : splitPre (a ++ '.' :: (b ++ '.' :: c) ++ '-' :: rest)
        = (a ++ '.' :: (b ++ '.' :: c), some rest) := by
      rw [splitPre, Text.splitAtFirst?_append absent]
    simp only [List.append_assoc, List.cons_append] at split
    exact ⟨_, some rest, a, b, c, split, pieces, ha, hb, hc, fun pre => shaped.parsePre_eq_ok_iff⟩

/-- Of the texts of this shape, those that spell a version are read. -/
theorem Shaped.parse_eq_ok_iff (h : Shaped text) :
    parseChars text = .ok v ↔ Spelled text v ∧ v.Fits := by
  obtain ⟨core, part, a, b, c, split, pieces, ha, hb, hc, pre_iff⟩ := h.exists_split
  rw [← strict?_eq_some_iff]
  simp only [parseChars, strict?, h.dropMarks_eq, split, pieces, Result.bind_eq_ok, pre_iff,
    parsePart_eq_ok_iff ha, parsePart_eq_ok_iff hb, parsePart_eq_ok_iff hc, Option.bind_eq_bind,
    Option.bind_eq_some_iff]
  constructor
  · rintro ⟨pre, hpre, major, hmajor, minor, hminor, patch, hpatch, h⟩
    cases h
    exact ⟨major, hmajor, minor, hminor, patch, hpatch, pre, hpre, rfl⟩
  · rintro ⟨major, hmajor, minor, hminor, patch, hpatch, pre, hpre, h⟩
    cases h
    exact ⟨pre, hpre, major, hmajor, minor, hminor, patch, hpatch, rfl⟩

/-! ### The expression for versions -/

/-- The expression for a version in a tag. -/
def shapeText : List Char :=
  ['(', '\\', 'd', '+', '\\', '.', '\\', 'd', '+', '\\', '.', '\\', 'd', '+', '(', '?', ':', '-',
    '[', '0', '-', '9', 'A', '-', 'Z', 'a', '-', 'z', '-', ']', '+', '\\', '.', '\\', 'd', '+', ')',
    '?', ')']

/-- What the expression for a version is read as. -/
def shapeRe : Re :=
  seq [number, set (.single '.'), number, set (.single '.'), number,
    rep 0 (some 1) PreRelease.shapeRe]

theorem item_shapeText : Item shapeText ⟨shapeRe, 7⟩ where
  nonempty := List.cons_ne_nil _ _
  step fuel enough branches items text := by
    obtain ⟨fuel, rfl⟩ := Nat.exists_eq_add_of_le' enough
    rfl

theorem takes_shapeRe_iff : shapeRe.Takes before taken after ↔ Shaped taken := by
  simp only [shapeRe, takes_seq_cons_iff (List.cons_ne_nil _ _), takes_seq_single_iff,
    takes_single_iff, takes_number_iff, takes_optional_iff, PreRelease.takes_shapeRe_iff, Shaped]
  constructor
  · rintro ⟨a, _, rfl, ha, _, _, rfl, rfl, b, _, rfl, hb, _, _, rfl, rfl, c, mark, rfl, hc, hmark⟩
    exact ⟨a, b, c, mark, rfl, ha, hb, hc, hmark⟩
  · rintro ⟨a, b, c, mark, rfl, ha, hb, hc, hmark⟩
    exact ⟨a, _, rfl, ha, _, _, rfl, rfl, b, _, rfl, hb, _, _, rfl, rfl, c, mark, rfl, hc, hmark⟩

end Version

end ReleasePlanner
