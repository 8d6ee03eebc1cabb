import ReleasePlanner.Text.Decimal

/-!
# Dates

A day of the calendar and its text, `2026-10-18`.  Years from 0 to 9999 have
four digits.  Other years have a sign and at least four digits.
-/

namespace ReleasePlanner

/-- A day of the calendar. -/
structure Date where
  /-- The year, negative before year zero. -/
  year : Int
  /-- The month, from one. -/
  month : Nat
  /-- The day of the month, from one. -/
  day : Nat
  deriving DecidableEq, Repr

namespace Date

/-- The text of a year. -/
def yearChars (y : Int) : List Char :=
  let digits := Text.padZeros 4 (Text.decimal y.natAbs)
  if y < 0 then '-' :: digits
  else if 9999 < y then '+' :: digits
  else digits

/-- The text of a date. -/
def chars (d : Date) : List Char :=
  yearChars d.year ++ '-' :: (Text.padZeros 2 (Text.decimal d.month)
    ++ '-' :: Text.padZeros 2 (Text.decimal d.day))

/-- The text of a date, as a string. -/
def text (d : Date) : String :=
  String.ofList d.chars

example : (Date.mk 2026 1 9).chars = ['2', '0', '2', '6', '-', '0', '1', '-', '0', '9'] := by
  decide

end Date

end ReleasePlanner
