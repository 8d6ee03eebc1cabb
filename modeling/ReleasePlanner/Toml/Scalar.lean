import ReleasePlanner.Text.CodeRange
import ReleasePlanner.Text.Decimal
import ReleasePlanner.Toml.Value

/-!
# Reading TOML scalars

Strings in their four forms, integers, floating-point numbers, and dates with
or without a time.  A reader takes the text that is left and fails or returns
a value with the text after it.  Which fault a document has is not told.
-/

namespace ReleasePlanner.Toml

/-- A reader of a part of a document. -/
abbrev Reader := StateT (List Char) Option

/-- What is still to be read. -/
def rest : Reader (List Char) := get

/-- Consumes the character `c`, and fails at any other. -/
def expect (c : Char) : Reader Unit := do
  match ← get with
  | d :: text => if d == c then set text else failure
  | [] => failure

/-- Consumes the word `w`, and fails at any other text. -/
def expectWord (w : List Char) : Reader Unit := do
  let text ← get
  if w.isPrefixOf text then set (text.drop w.length) else failure

/-- Consumes the character `c` where it is the next one, and tells whether it was. -/
def skip? (c : Char) : Reader Bool := do
  match ← get with
  | d :: text =>
    if d == c then
      set text
      return true
    else return false
  | [] => return false

/-- Consumes the next character. -/
def next : Reader Char := do
  match ← get with
  | c :: text =>
    set text
    return c
  | [] => failure

/-- Consumes the characters that satisfy `p`. -/
def takeWhile (p : Char → Bool) : Reader (List Char) := do
  let text ← get
  set (text.dropWhile p)
  return text.takeWhile p

/-- Consumes exactly `n` characters, all of which satisfy `p`. -/
def takeExactly (p : Char → Bool) (n : Nat) : Reader (List Char) := do
  let text ← get
  let taken := text.take n
  guard (taken.length == n && taken.all p)
  set (text.drop n)
  return taken

/-! ## Blanks and line ends -/

/-- Separates words on a line. -/
def isSpace (c : Char) : Bool :=
  c == ' ' || c == '\t'

/-- Can stand in a comment. -/
def inComment (c : Char) : Bool :=
  c == '\t' || (0x20 ≤ c.toNat && c.toNat != 0x7F)

/-- The text after a line end, if it starts with one. -/
def afterNewline? : List Char → Option (List Char)
  | '\n' :: text => some text
  | '\r' :: '\n' :: text => some text
  | _ => none

/-- Consumes the spaces of a line. -/
def spaces : Reader Unit := do
  let _ ← takeWhile isSpace

/-- Consumes a comment, if there is one. -/
def comment : Reader Unit := do
  if ← skip? '#' then
    let _ ← takeWhile inComment

/-- Consumes a line end or the end of the text. -/
def lineEnd : Reader Unit := do
  let text ← get
  match afterNewline? text with
  | some after => set after
  | none => guard text.isEmpty

/-- Consumes spaces, comments and line ends. -/
def gaps : Nat → Reader Unit
  | 0 => return
  | fuel + 1 => do
    spaces
    comment
    match afterNewline? (← get) with
    | some after =>
      set after
      gaps fuel
    | none => return

/-! ## Strings -/

/-- Can stand unescaped in a basic string. -/
def inBasic (c : Char) : Bool :=
  inComment c && c != '"' && c != '\\'

/-- Can stand in a literal string. -/
def inLiteral (c : Char) : Bool :=
  inComment c && c != '\x27'

/-- Reads hexadecimal digits as the code point of a character. -/
def codePoint (digits : Nat) : Reader Char := do
  let cs ← takeExactly (fun c => (Text.hexValue? c).isSome) digits
  let n := cs.foldl (fun n c => n * 16 + (Text.hexValue? c).getD 0) 0
  guard (n < 0xD800 || (0xDFFF < n && n < 0x110000))
  return Char.ofNat n

/-- Reads an escape after its backslash. -/
def escape : Reader Char := do
  match ← next with
  | 'b' => return '\x08'
  | 'f' => return '\x0c'
  | 'n' => return '\n'
  | 'r' => return '\r'
  | 't' => return '\t'
  | '"' => return '"'
  | '\\' => return '\\'
  | 'u' => codePoint 4
  | 'U' => codePoint 8
  | _ => failure

/-- Reads a basic string after its opening quote.  What has been read is given last first. -/
def basicBody : Nat → List Char → Reader (List Char)
  | 0, _ => failure
  | fuel + 1, done => do
    let c ← next
    if c == '"' then return done.reverse
    else if c == '\\' then basicBody fuel ((← escape) :: done)
    else
      guard (inBasic c)
      basicBody fuel (c :: done)

/-- Reads a literal string after its opening quote. -/
def literalBody : Reader (List Char) := do
  let cs ← takeWhile inLiteral
  expect '\x27'
  return cs

/-- The text after spaces and a line end, and then after all spaces and line ends; nothing when
only other text follows the spaces. -/
def afterContinuation? (text : List Char) : Option (List Char) :=
  (afterNewline? (text.dropWhile isSpace)).map fun after => dropGaps after.length after
where
  /-- The text after all spaces and line ends. -/
  dropGaps : Nat → List Char → List Char
    | 0, text => text
    | fuel + 1, text =>
      match afterNewline? (text.dropWhile isSpace) with
      | some after => dropGaps fuel after
      | none => text.dropWhile isSpace

/-- What quotes inside a string of several lines mean: up to two stand for themselves, and three
close it, with up to two more of them in front. -/
def quotesOrEnd (quote : Char) (text : List Char) : List Char × List Char × Bool :=
  let run := (text.takeWhile (· == quote)).length
  if run < 3 then (List.replicate run quote, text.drop run, false)
  else
    let n := min run 5
    (List.replicate (n - 3) quote, text.drop n, true)

/-- Reads a basic string of several lines after its opening quotes.  What has been read is given
last first. -/
def longBasicBody : Nat → List Char → Reader (List Char)
  | 0, _ => failure
  | fuel + 1, done => do
    let text ← get
    match text with
    | [] => failure
    | '"' :: _ =>
      let (quotes, after, closed) := quotesOrEnd '"' text
      set after
      if closed then return (quotes ++ done).reverse
      longBasicBody fuel (quotes ++ done)
    | '\\' :: after =>
      match afterContinuation? after with
      | some later =>
        set later
        longBasicBody fuel done
      | none =>
        set after
        longBasicBody fuel ((← escape) :: done)
    | c :: after =>
      match afterNewline? text with
      | some later =>
        set later
        longBasicBody fuel ('\n' :: done)
      | none =>
        guard (inBasic c)
        set after
        longBasicBody fuel (c :: done)

/-- Reads a literal string of several lines after its opening quotes.  What has been read is given
last first. -/
def longLiteralBody : Nat → List Char → Reader (List Char)
  | 0, _ => failure
  | fuel + 1, done => do
    let text ← get
    match text with
    | [] => failure
    | '\x27' :: _ =>
      let (quotes, after, closed) := quotesOrEnd '\x27' text
      set after
      if closed then return (quotes ++ done).reverse
      longLiteralBody fuel (quotes ++ done)
    | c :: after =>
      match afterNewline? text with
      | some later =>
        set later
        longLiteralBody fuel ('\n' :: done)
      | none =>
        guard (inLiteral c)
        set after
        longLiteralBody fuel (c :: done)

/-- Consumes a line end right after the opening quotes of a string of several lines. -/
def firstNewline : Reader Unit := do
  if let some after := afterNewline? (← get) then set after

/-- Reads a string that fits on a line. -/
def shortString : Reader String := do
  match ← next with
  | '"' => return String.ofList (← basicBody ((← rest).length + 1) [])
  | '\x27' => return String.ofList (← literalBody)
  | _ => failure

/-- Reads a string of any form. -/
def string : Reader String := do
  match ← get with
  | '"' :: '"' :: '"' :: text =>
    set text
    firstNewline
    return String.ofList (← longBasicBody (text.length + 1) [])
  | '\x27' :: '\x27' :: '\x27' :: text =>
    set text
    firstNewline
    return String.ofList (← longLiteralBody (text.length + 1) [])
  | _ => shortString

/-! ## Numbers -/

/-- The digits at the start of a text, where single underscores may stand between digits, and the
text after them. -/
def digitRun (isDigit : Char → Bool) : List Char → List Char × List Char
  | [] => ([], [])
  | c :: text =>
    if isDigit c then
      let (more, after) := digitRun isDigit text
      (c :: more, after)
    else if c == '_' then
      match text with
      | d :: _ =>
        if isDigit d then digitRun isDigit text else ([], c :: text)
      | [] => ([], c :: text)
    else ([], c :: text)

/-- Reads one or more digits, where single underscores may stand between them. -/
def digits (isDigit : Char → Bool) : Reader (List Char) := do
  let text ← get
  guard (text.head?.any isDigit)
  let (ds, after) := digitRun isDigit text
  set after
  return ds

/-- The value of digits in a base. -/
def valueInBase (base : Nat) (ds : List Char) : Nat :=
  ds.foldl (fun n c => n * base + (Text.hexValue? c).getD 0) 0

/-- Whether an integer fits into 64 bits with a sign. -/
def fits (n : Int) : Bool :=
  -9223372036854775808 ≤ n && n ≤ 9223372036854775807

/-- The smallest number that no floating-point number is near to: half a step above the greatest. -/
def floatLimit : Nat := Nat.pow 2 1024 - Nat.pow 2 970

/-- Whether `m * 10 ^ e` is too large for a floating-point number. -/
def overflows (m : Nat) (e : Int) : Bool :=
  let size := (Nat.toDigits 10 m).length
  if m == 0 || e + size < 300 then false
  else if 400 < e + size then true
  else if 0 ≤ e then floatLimit ≤ m * Nat.pow 10 e.toNat
  else floatLimit * Nat.pow 10 (-e).toNat ≤ m

/-- Reads the digits after the point, if there is one. -/
def fraction? : Reader (Option (List Char)) := do
  if ← skip? '.' then return some (← digits Char.isDigit) else return none

/-- Reads a sign: whether there is a minus. -/
def minus : Reader Bool := do
  if ← skip? '-' then return true
  let _ ← skip? '+'
  return false

/-- Reads the exponent, if there is one. -/
def exponent? : Reader (Option Int) := do
  let small ← skip? 'e'
  let large ← if small then pure false else skip? 'E'
  if small || large then
    let negative ← minus
    let ds ← digits Char.isDigit
    let n : Int := Text.digitsValue 0 ds
    return some (if negative then -n else n)
  else return none

/-- Reads the decimal digits of a number before its point, without needless zeros. -/
def leadingDigits : Reader (List Char) := do
  let ds ← digits Char.isDigit
  guard (ds.length == 1 || ds.head? != some '0')
  return ds

/-- Reads a decimal number after its sign. -/
def decimalNumber (negative : Bool) : Reader Value := do
  let whole ← leadingDigits
  let fraction ← fraction?
  let exponent ← exponent?
  if fraction.isNone && exponent.isNone then
    let n : Int := Text.digitsValue 0 whole
    let n := if negative then -n else n
    guard (fits n)
    return .integer n
  else
    let after := fraction.getD []
    let e := exponent.getD 0
    let m := Text.digitsValue 0 (whole ++ after)
    guard (negative || !overflows m (e - after.length))
    let sign := if negative then ['-'] else []
    let power := 'e' :: (toString e).toList
    return .float (String.ofList (sign ++ whole ++ '.' :: (after ++ power)))

/-- Reads an integer in a base after its mark. -/
def basedInteger (base : Nat) (isDigit : Char → Bool) : Reader Value := do
  let n : Int := valueInBase base (← digits isDigit)
  guard (fits n)
  return .integer n

/-- Reads a number. -/
def number : Reader Value := do
  match ← get with
  | '0' :: 'x' :: text =>
    set text
    basedInteger 16 fun c => (Text.hexValue? c).isSome
  | '0' :: 'o' :: text =>
    set text
    basedInteger 8 fun c => '0' ≤ c && c ≤ '7'
  | '0' :: 'b' :: text =>
    set text
    basedInteger 2 fun c => c == '0' || c == '1'
  | _ =>
    let negative ← minus
    let sign := if negative then "-" else ""
    match ← get with
    | 'i' :: 'n' :: 'f' :: text =>
      set text
      return .float (sign ++ "inf")
    | 'n' :: 'a' :: 'n' :: text =>
      set text
      return .float (sign ++ "nan")
    | _ => decimalNumber negative

/-! ## Dates and times -/

/-- Reads a number of `n` digits between two bounds. -/
def fixedNumber (n low high : Nat) : Reader (List Char) := do
  let ds ← takeExactly Char.isDigit n
  let v := Text.digitsValue 0 ds
  guard (low ≤ v && v ≤ high)
  return ds

/-- Is a leap year. -/
def isLeap (year : Nat) : Bool :=
  year % 4 == 0 && (year % 100 != 0 || year % 400 == 0)

/-- The number of days of a month. -/
def daysIn (year month : Nat) : Nat :=
  if month == 2 then (if isLeap year then 29 else 28)
  else if month == 4 || month == 6 || month == 9 || month == 11 then 30
  else 31

/-- Reads a date. -/
def dateText : Reader (List Char) := do
  let year ← fixedNumber 4 0 9999
  expect '-'
  let month ← fixedNumber 2 1 12
  expect '-'
  let day ← fixedNumber 2 1 31
  guard (Text.digitsValue 0 day ≤ daysIn (Text.digitsValue 0 year) (Text.digitsValue 0 month))
  return year ++ '-' :: (month ++ '-' :: day)

/-- Reads the fraction of a second, if there is one. -/
def secondFraction : Reader (List Char) := do
  if ← skip? '.' then
    let ds ← takeWhile Char.isDigit
    guard !ds.isEmpty
    return '.' :: ds
  else return []

/-- Reads a time. -/
def timeText : Reader (List Char) := do
  let hour ← fixedNumber 2 0 23
  expect ':'
  let minute ← fixedNumber 2 0 59
  expect ':'
  let second ← fixedNumber 2 0 60
  return hour ++ ':' :: (minute ++ ':' :: (second ++ (← secondFraction)))

/-- Reads the offset of a time, if there is one. -/
def offsetText : Reader (List Char) := do
  match ← get with
  | 'Z' :: text | 'z' :: text =>
    set text
    return ['Z']
  | sign :: text =>
    if sign == '+' || sign == '-' then
      set text
      let hour ← fixedNumber 2 0 23
      expect ':'
      let minute ← fixedNumber 2 0 59
      return sign :: (hour ++ ':' :: minute)
    else return []
  | [] => return []

/-- Whether a time follows a date: a separator, an hour and a colon. -/
def timeFollows : List Char → Bool
  | sep :: h₁ :: h₂ :: ':' :: _ =>
    (sep == 'T' || sep == 't' || sep == ' ') && h₁.isDigit && h₂.isDigit
  | _ => false

/-- Reads a date, and the time after it if there is one. -/
def dateAndTime : Reader Value := do
  let d ← dateText
  if timeFollows (← get) then
    let _ ← next
    let t ← timeText
    let o ← offsetText
    return .datetime (String.ofList (d ++ 'T' :: (t ++ o)))
  else return .datetime (String.ofList d)

/-- Whether a text starts with `n` digits and then `mark`. -/
def startsWithDigits (n : Nat) (mark : Char) (text : List Char) : Bool :=
  (text.take n).length == n && (text.take n).all Char.isDigit && (text.drop n).head? == some mark

/-- Reads a date, a time or a number. -/
def dateOrNumber : Reader Value := do
  let text ← get
  if startsWithDigits 4 '-' text then dateAndTime
  else if startsWithDigits 2 ':' text then return .datetime (String.ofList (← timeText))
  else number

end ReleasePlanner.Toml
