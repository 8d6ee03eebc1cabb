import ReleasePlanner.Text.Bytes
import ReleasePlanner.Text.CodeRange
import ReleasePlanner.Text.Decimal

/-!
# Formatted output

The texts that `echo` and `printf` write.  Both know escapes with a
backslash, and `printf` fills a format with its arguments as often as it takes
to use them up.  What is written is a row of bytes, since an escape can stand
for any byte.
-/

namespace ReleasePlanner.Shell

/-- What was written, and whether more may follow. -/
structure Written where
  /-- The bytes. -/
  bytes : List Nat
  /-- Whether an escape has ended the output. -/
  isCut : Bool
  deriving DecidableEq, Repr

namespace Written

/-- Bytes with what follows. -/
def before (bs : List Nat) (w : Written) : Written :=
  { w with bytes := bs ++ w.bytes }

/-- Nothing, and nothing follows. -/
def cut : Written :=
  ⟨[], true⟩

/-- Nothing, and something may follow. -/
def empty : Written :=
  ⟨[], false⟩

/-- The text of the bytes. -/
def text (w : Written) : String :=
  String.ofList (Text.ofBytes w.bytes)

end Written

/-! ## Escapes -/

/-- Whether a character is an octal digit. -/
def isOctal (c : Char) : Bool :=
  '0' ≤ c && c ≤ '7'

/-- The byte of at most `n` octal digits, and what follows them. -/
def octal (n : Nat) (cs : List Char) : Nat × List Char :=
  let digits := (cs.take n).takeWhile isOctal
  (digits.foldl (fun v c => v * 8 + (c.toNat - 48)) 0 % 256, cs.drop digits.length)

/-- The byte of a letter after a backslash. -/
def letterEscape? : Char → Option Nat
  | 'a' => some 7
  | 'b' => some 8
  | 'f' => some 12
  | 'n' => some 10
  | 'r' => some 13
  | 't' => some 9
  | 'v' => some 11
  | '\\' => some 92
  | _ => none

/-- The escape after a backslash, and what follows it.  An unknown one is no escape. -/
def escape (cs : List Char) : List Nat × List Char :=
  match cs with
  | [] => ([92], [])
  | c :: rest =>
    match letterEscape? c with
    | some b => ([b], rest)
    | none => if isOctal c then let (b, after) := octal 3 cs; ([b], after) else ([92], cs)

/-- A text with its escapes, as `echo` writes it. -/
def unescape : Nat → List Char → Written
  | 0, _ => .empty
  | _ + 1, [] => .empty
  | _ + 1, '\\' :: 'c' :: _ => .cut
  | n + 1, '\\' :: '0' :: cs =>
    let (b, rest) := octal 3 cs
    (unescape n rest).before [b]
  | n + 1, '\\' :: cs =>
    let (bs, rest) := escape cs
    (unescape n rest).before bs
  | n + 1, c :: cs => (unescape n cs).before (Text.toBytes [c])

/-- What `echo` writes. -/
def echo (arguments : List String) : Written :=
  let (line, isOpen) := match arguments with
    | "-n" :: rest => (rest, true)
    | _ => (arguments, false)
  let text := (" ".intercalate line).toList
  let w := unescape (text.length + 1) text
  if w.isCut || isOpen then w else { w with bytes := w.bytes ++ [10] }

/-! ## Formats -/

/-- How a value is written. -/
structure Directive where
  /-- The flags. -/
  flags : List Char
  /-- The least width. -/
  width : Nat
  /-- The precision. -/
  precision : Option Nat
  /-- The letter of the conversion. -/
  conversion : Char
  deriving DecidableEq, Repr

/-- The number at the start of a text, zero if there is none, and what follows it. -/
def leadingNumber (cs : List Char) : Nat × List Char :=
  let digits := cs.takeWhile Char.isDigit
  (Text.digitsValue 0 digits, cs.drop digits.length)

/-- The directive after a percent sign, and what follows it. -/
def directive? (cs : List Char) : Option (Directive × List Char) :=
  let isFlag (c : Char) : Bool := "-+ #0".toList.contains c
  let (width, afterWidth) := leadingNumber (cs.dropWhile isFlag)
  let (precision, rest) := match afterWidth with
    | '.' :: more => let (p, after) := leadingNumber more; (some p, after)
    | _ => (none, afterWidth)
  match rest with
  | c :: after => some (⟨cs.takeWhile isFlag, width, precision, c⟩, after)
  | [] => none

/-- A text filled up to the width of a directive. -/
def Directive.pad (d : Directive) (bs : List Nat) : List Nat :=
  let fill := List.replicate (d.width - bs.length) 32
  if d.flags.contains '-' then bs ++ fill else fill ++ bs

/-- A number with its sign, filled up to the width of a directive. -/
def Directive.padNumber (d : Directive) (sign digits : List Char) : List Nat :=
  let digits := match d.precision with
    | some p => Text.padZeros p digits
    | none => digits
  if d.flags.contains '0' && !d.flags.contains '-' && d.precision.isNone then
    Text.toBytes (sign ++ Text.padZeros (d.width - sign.length) digits)
  else d.pad (Text.toBytes (sign ++ digits))

/-- The integer at the start of an argument, and whether it is all of the argument. -/
def integer (cs : List Char) : Int × Bool :=
  let (sign, unsigned) := match cs with
    | '-' :: rest => (-1, rest)
    | '+' :: rest => (1, rest)
    | _ => ((1 : Int), cs)
  let hexDigits (ds : List Char) : List Char := ds.takeWhile fun c => (Text.hexValue? c).isSome
  let hexNumber (ds : List Char) : Nat :=
    ds.foldl (fun v c => v * 16 + (Text.hexValue? c).getD 0) 0
  match unsigned with
  | '\x27' :: c :: _ => (c.toNat, true)
  | '"' :: c :: _ => (c.toNat, true)
  | '0' :: x :: ds =>
    if x = 'x' || x = 'X' then (sign * hexNumber (hexDigits ds), (hexDigits ds).length = ds.length)
    else
      let octals := (x :: ds).takeWhile isOctal
      (sign * (octals.foldl (fun v c => v * 8 + (c.toNat - 48)) 0 : Nat),
        octals.length = ds.length + 1)
  | _ =>
    let digits := unsigned.takeWhile Char.isDigit
    (sign * Text.digitsValue 0 digits, digits.length = unsigned.length && !digits.isEmpty)

/-- The digits of a number in a base. -/
def digitsIn (base : Nat) (isUpper : Bool) (n : Nat) : List Char :=
  let ds := Nat.toDigits base n
  if isUpper then ds.map Char.toUpper else ds

/-- A number as an unsigned one of 64 bits. -/
def unsigned (i : Int) : Nat :=
  (i % (Nat.pow 2 64 : Nat)).toNat

/-- What `printf` has written, the complaints it made, and the arguments it has not used. -/
structure Printed where
  /-- What was written. -/
  written : Written
  /-- The complaints. -/
  complaints : List String
  /-- Whether the format itself is wrong. -/
  isRefused : Bool
  /-- The arguments that are left. -/
  rest : List String
  deriving DecidableEq, Repr

namespace Printed

/-- Bytes in front. -/
def before (bs : List Nat) (p : Printed) : Printed :=
  { p with written := p.written.before bs }

/-- A complaint in front. -/
def complaining (text : Option String) (p : Printed) : Printed :=
  { p with complaints := text.toList ++ p.complaints }

end Printed

/-- The bytes of an argument by a directive, with the complaint about it. -/
def Directive.apply (d : Directive) (argument : String) : List Nat × Option String :=
  let cs := argument.toList
  let (i, isWhole) := integer cs
  let complaint :=
    if cs.isEmpty || isWhole then none
    else if cs.head?.any Char.isDigit then some (argument ++ ": not completely converted")
    else some (argument ++ ": expected numeric value")
  let sign : List Char :=
    if i < 0 then ['-'] else if d.flags.contains '+' then ['+']
    else if d.flags.contains ' ' then [' '] else []
  match d.conversion with
  | 's' =>
    let bs := Text.toBytes cs
    (d.pad (match d.precision with | some p => bs.take p | none => bs), none)
  | 'c' => (d.pad ((Text.toBytes cs).take 1), none)
  | 'o' => (d.padNumber [] (digitsIn 8 false (unsigned i)), complaint)
  | 'u' => (d.padNumber [] (digitsIn 10 false (unsigned i)), complaint)
  | 'x' => (d.padNumber [] (digitsIn 16 false (unsigned i)), complaint)
  | 'X' => (d.padNumber [] (digitsIn 16 true (unsigned i)), complaint)
  | _ => (d.padNumber sign (digitsIn 10 false i.natAbs), complaint)

/-- Fills a format once. -/
def fillFormat : Nat → List Char → List String → Printed
  | 0, _, arguments => ⟨.empty, [], false, arguments⟩
  | _ + 1, [], arguments => ⟨.empty, [], false, arguments⟩
  | n + 1, '\\' :: cs, arguments =>
    let (bs, rest) := escape cs
    (fillFormat n rest arguments).before bs
  | n + 1, '%' :: '%' :: cs, arguments => (fillFormat n cs arguments).before [37]
  | n + 1, '%' :: cs, arguments =>
    match directive? cs with
    | none => ⟨.empty, ["%: missing format character"], true, []⟩
    | some (d, rest) =>
      let argument := arguments.headD ""
      if d.conversion = 'b' then
        let w := unescape (argument.length + 1) argument.toList
        if w.isCut then ⟨w, [], false, []⟩
        else (fillFormat n rest (arguments.drop 1)).before (d.pad w.bytes)
      else if "scdiouxX".toList.contains d.conversion then
        let (bs, complaint) := d.apply argument
        ((fillFormat n rest (arguments.drop 1)).before bs).complaining complaint
      else
        let read := cs.take (cs.length - rest.length)
        ⟨.empty, ["%" ++ String.ofList read ++ ": invalid directive"], true, []⟩
  | n + 1, c :: cs, arguments => (fillFormat n cs arguments).before (Text.toBytes [c])

/-- Fills a format until the arguments are used up. -/
def fillFormats : Nat → List Char → List String → Printed
  | 0, _, arguments => ⟨.empty, [], false, arguments⟩
  | n + 1, format, arguments =>
    let p := fillFormat (format.length + 1) format arguments
    if p.written.isCut || p.rest.isEmpty || p.rest.length = arguments.length then p
    else
      let q := fillFormats n format p.rest
      ⟨q.written.before p.written.bytes, p.complaints ++ q.complaints, q.isRefused, q.rest⟩

/-- What `printf` writes. -/
def printf (format : String) (arguments : List String) : Printed :=
  fillFormats (arguments.length + 1) format.toList arguments

example : (printf "%s|" ["a", "b"]).written.bytes = [97, 124, 98, 124] := by decide +kernel

end ReleasePlanner.Shell
