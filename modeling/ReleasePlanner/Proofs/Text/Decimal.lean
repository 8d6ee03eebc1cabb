import ReleasePlanner.Text.Decimal
import ReleasePlanner.Version.Order

/-!
# Writing and reading numbers

`Text.decimal` is the normal form of a number.  It holds ASCII digits only
(`isDigit_of_mem_decimal`), it is read back as the number it was written for
(`digits?_decimal`), and it has no superfluous zero in front, so it is a legal
identifier of a pre-release (`legal_decimal`).

Digits without a superfluous zero are the normal form of their value, so they
can be told from it (`decimal_digitsValue`).
-/

namespace ReleasePlanner

namespace Text

/-! ## Digits -/

theorem decimal_ne_nil (n : Nat) : decimal n ≠ [] :=
  Nat.toDigits_ne_nil

theorem isDigit_of_mem_decimal {n : Nat} {c : Char} (h : c ∈ decimal n) : c.isDigit = true :=
  Nat.isDigit_of_mem_toDigits (by decide) (by decide) h

theorem all_isDigit_decimal (n : Nat) : (decimal n).all Char.isDigit = true := by
  rw [List.all_eq_true]
  intro c hc
  exact isDigit_of_mem_decimal hc

/-- A number below ten is one digit, and every other number ends in its last digit. -/
theorem decimal_eq (n : Nat) :
    decimal n = if n < 10 then [n.digitChar] else decimal (n / 10) ++ [(n % 10).digitChar] :=
  Nat.toDigits_eq_if (by decide)

/-- No character that is not a digit occurs in a number. -/
theorem notMem_decimal {n : Nat} {c : Char} (h : c.isDigit = false) : c ∉ decimal n := by
  intro hc
  rw [isDigit_of_mem_decimal hc] at h
  cases h

/-! ## Reading what was written -/

theorem digitsValue_nil (acc : Nat) : digitsValue acc [] = acc := by rfl

theorem digitsValue_cons (acc : Nat) (c : Char) (cs : List Char) :
    digitsValue acc (c :: cs) = digitsValue (acc * 10 + digitValue c) cs := by rfl

theorem digitsValue_append (acc : Nat) (as bs : List Char) :
    digitsValue acc (as ++ bs) = digitsValue (digitsValue acc as) bs := by
  induction as generalizing acc with
  | nil => rfl
  | cons c as ih => exact ih _

theorem digitsValue_singleton (acc : Nat) (c : Char) :
    digitsValue acc [c] = acc * 10 + digitValue c := rfl

theorem digitValue_digitChar {d : Nat} (h : d < 10) : digitValue d.digitChar = d :=
  Nat.toNat_digitChar_sub_48_of_lt_ten h

@[simp] theorem digitsValue_decimal (n : Nat) : digitsValue 0 (decimal n) = n := by
  induction n using Nat.strongRecOn with
  | ind n ih =>
      rw [decimal_eq]
      split
      next hn => rw [digitsValue_singleton, digitValue_digitChar hn, Nat.zero_mul, Nat.zero_add]
      next hn =>
        have hlast : digitValue (n % 10).digitChar = n % 10 :=
          digitValue_digitChar (Nat.mod_lt n (by decide))
        rw [digitsValue_append, ih (n / 10) (by omega), digitsValue_singleton, hlast]
        omega

/-- A number that fits is read back from its digits. -/
theorem digits?_decimal {n : Nat} (h : n ≤ maxNumber) : digits? (decimal n) = some n := by
  have hshape : ¬((decimal n).isEmpty || !(decimal n).all Char.isDigit) = true := by
    simp [decimal_ne_nil, all_isDigit_decimal]
  rw [digits?, if_neg hshape]
  simp only [digitsValue_decimal]
  exact if_pos h

theorem le_maxNumber {cs : List Char} {n : Nat} (h : digits? cs = some n) : n ≤ maxNumber := by
  simp only [digits?] at h
  split at h
  next => cases h
  next =>
    split at h
    next hle =>
      cases h
      exact hle
    next => cases h

/-! ## Writing what was read -/

theorem digitValue_lt {c : Char} (h : c.isDigit = true) : digitValue c < 10 := by
  have hle : c.toNat ≤ 57 := (Char.isDigit_iff_toNat.mp h).2
  rw [digitValue]
  omega

/-- A digit is what is written for its value. -/
theorem decimal_digitValue {c : Char} (h : c.isDigit = true) : decimal (digitValue c) = [c] := by
  have hge : 48 ≤ c.toNat := (Char.isDigit_iff_toNat.mp h).1
  have hdigit : (digitValue c).digitChar = c := by
    rw [← Char.toNat_inj, Nat.toNat_digitChar_of_lt_ten (digitValue_lt h), digitValue]
    omega
  rw [decimal, Nat.toDigits_of_lt_base (digitValue_lt h), hdigit]

/-- Digits behind a number other than zero are written as they are. -/
theorem decimal_append {n : Nat} {cs : List Char} (hn : 0 < n) (h : cs.all Char.isDigit = true) :
    decimal n ++ cs = decimal (digitsValue n cs) := by
  induction cs generalizing n with
  | nil => rw [digitsValue_nil, List.append_nil]
  | cons c cs ih =>
      rw [List.all_cons, Bool.and_eq_true] at h
      have hstep : decimal n ++ [c] = decimal (n * 10 + digitValue c) := by
        have happend : decimal n ++ decimal (digitValue c) = decimal (10 * n + digitValue c) :=
          Nat.toDigits_append_toDigits (by decide) hn (digitValue_lt h.1)
        rwa [decimal_digitValue h.1, Nat.mul_comm] at happend
      have hpos : 0 < n * 10 + digitValue c := by omega
      rw [digitsValue_cons, ← ih hpos h.2, ← hstep, List.append_assoc, List.singleton_append]

/-! ## No superfluous zeros -/

/-- Digits without a superfluous zero in front are what is written for their value. -/
theorem decimal_digitsValue {c : Char} {cs : List Char} (h : (c :: cs).all Char.isDigit = true)
    (hzero : c ≠ '0' ∨ cs = []) : decimal (digitsValue 0 (c :: cs)) = c :: cs := by
  rw [List.all_cons, Bool.and_eq_true] at h
  rw [digitsValue_cons, Nat.zero_mul, Nat.zero_add]
  rcases hzero with hne | rfl
  · have hge : 48 ≤ c.toNat := (Char.isDigit_iff_toNat.mp h.1).1
    have hnot : c.toNat ≠ 48 := fun heq => hne (Char.toNat_inj.mp heq)
    have hpos : 0 < digitValue c := by
      rw [digitValue]
      omega
    rw [← decimal_append hpos h.2, decimal_digitValue h.1, List.singleton_append]
  · rw [digitsValue_nil, decimal_digitValue h.1]

theorem head?_decimal_ne_zero {n : Nat} (h : 0 < n) : (decimal n).head? ≠ some '0' := by
  induction n using Nat.strongRecOn with
  | ind n ih =>
      rw [decimal_eq]
      split
      next hn =>
        intro hz
        have : n = 0 := by simpa using hz
        omega
      next hn =>
        have hrest := ih (n / 10) (by omega) (by omega)
        cases hd : decimal (n / 10) with
        | nil => exact absurd hd (decimal_ne_nil _)
        | cons c cs =>
            rw [hd] at hrest
            simpa using hrest

theorem isAlphanum_of_isDigit {c : Char} (h : c.isDigit = true) : c.isAlphanum = true := by
  simp [Char.isAlphanum, h]

end Text

/-- The digits of a number are a legal identifier. -/
theorem Identifier.legal_decimal (n : Nat) : legal (Text.decimal n) = true := by
  have hallowed : (Text.decimal n).all allows = true := by
    rw [List.all_eq_true]
    intro c hc
    simp [allows, Text.isAlphanum_of_isDigit (Text.isDigit_of_mem_decimal hc)]
  have hzeros : ((Text.decimal n).all Char.isDigit && decide (1 < (Text.decimal n).length)
      && (Text.decimal n).head? == some '0') = false := by
    cases n with
    | zero => decide
    | succ n =>
        have hhead := Text.head?_decimal_ne_zero (Nat.succ_pos n)
        simp [hhead]
  simp [legal, hallowed, hzeros, Text.decimal_ne_nil]

/-- The digits of a number are a numeric identifier. -/
theorem Identifier.ofChars_decimal (n : Nat) : ofChars (Text.decimal n) = .number n := by
  simp [ofChars, Text.all_isDigit_decimal]

end ReleasePlanner
