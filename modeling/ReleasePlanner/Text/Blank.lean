/-!
# Blank characters

A character is *blank* when it has the Unicode property `White_Space`.  The
property has twenty-five members, few enough to write down, so `isBlank` needs
no table.  Trimming removes blanks from the ends of a text and nowhere else.

Texts are handled as lists of characters.  `String` versions stand at the end.
-/

namespace ReleasePlanner.Text

/-- Has the Unicode property `White_Space`. -/
def isBlank (c : Char) : Bool :=
  let n := c.toNat
  (9 ≤ n && n ≤ 13) || n == 0x20 || n == 0x85 || n == 0xA0 || n == 0x1680
    || (0x2000 ≤ n && n ≤ 0x200A) || n == 0x2028 || n == 0x2029 || n == 0x202F
    || n == 0x205F || n == 0x3000

/-- Holds blanks only.  The empty text does. -/
def allBlank (cs : List Char) : Bool :=
  cs.all isBlank

/-! ## Trimming -/

/-- Without the blanks at the start. -/
def trimStart (cs : List Char) : List Char :=
  cs.dropWhile isBlank

/-- Without the blanks at the end. -/
def trimEnd (cs : List Char) : List Char :=
  (cs.reverse.dropWhile isBlank).reverse

/-- Without the blanks at either end. -/
def trim (cs : List Char) : List Char :=
  trimEnd (trimStart cs)

/-- Without the blanks at either end, as a string. -/
def trimmed (s : String) : String :=
  String.ofList (trim s.toList)

/-- Without the blanks at the end, as a string. -/
def trimmedEnd (s : String) : String :=
  String.ofList (trimEnd s.toList)

example : trim [' ', 'a', ' ', 'b', '\t', '\n'] = ['a', ' ', 'b'] := by decide

example : trimEnd ['a', '\u00a0'] = ['a'] := by decide

end ReleasePlanner.Text
