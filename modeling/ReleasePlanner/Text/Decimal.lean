/-!
# Decimal numbers

Reading and writing natural numbers in base ten.  A number that is read must
fit into sixty-four bits and may carry a plus sign.  Only the ten ASCII digits
count.  Writing never produces a leading zero, except when padding asks for it.
-/

namespace ReleasePlanner.Text

/-- The largest number that is read. -/
def maxNumber : Nat := 18446744073709551615

/-- The value of a digit. -/
def digitValue (c : Char) : Nat :=
  c.toNat - 48

/-- The value of digits read after `acc`. -/
def digitsValue (acc : Nat) : List Char → Nat
  | [] => acc
  | c :: cs => digitsValue (acc * 10 + digitValue c) cs

/-- The value of one or more digits, if it fits. -/
def digits? (cs : List Char) : Option Nat :=
  if cs.isEmpty || !cs.all Char.isDigit then none
  else
    let n := digitsValue 0 cs
    if n ≤ maxNumber then some n else none

/-- The value of a number: an optional plus sign, then digits. -/
def number? : List Char → Option Nat
  | '+' :: cs => digits? cs
  | cs => digits? cs

/-- The digits of a number. -/
def decimal (n : Nat) : List Char :=
  Nat.toDigits 10 n

/-- The digits of a number, as a string. -/
def decimalString (n : Nat) : String :=
  String.ofList (decimal n)

/-- Zeros in front of `cs` up to `width` characters. -/
def padZeros (width : Nat) (cs : List Char) : List Char :=
  List.replicate (width - cs.length) '0' ++ cs

example : number? ['+', '0', '7'] = some 7 ∧ number? ['+'] = none ∧ number? ['-', '0'] = none := by
  decide

example : padZeros 4 (decimal 27) = ['0', '0', '2', '7'] := by decide

end ReleasePlanner.Text
