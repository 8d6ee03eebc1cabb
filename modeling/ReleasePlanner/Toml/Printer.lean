import ReleasePlanner.Toml.Document

/-!
# Writing TOML documents

Every table gets a header, except one whose entries are all tables.  The plain
entries of a table stand before its tables.  An array with more than one item
has one line per item.

A string is written in the form that needs the fewest escapes: in double
quotes, in single quotes, in three double quotes, in three single quotes, or
with escapes.
-/

namespace ReleasePlanner.Toml

/-! ## Strings -/

/-- Has to be escaped in every form of a string. -/
def isControl (c : Char) : Bool :=
  (c.toNat < 0x20 && c != '\t' && c != '\n') || c.toNat == 0x7F

/-- The length of the longest run of `q`, when `run` of them came just before the text. -/
def longestRun (q : Char) (run : Nat) : List Char → Nat
  | [] => run
  | c :: text => if c == q then longestRun q (run + 1) text else max run (longestRun q 0 text)

/-- Four hexadecimal digits. -/
def hexDigits4 (n : Nat) : List Char :=
  let digits := (Nat.toDigits 16 n).map Char.toUpper
  Text.padZeros 4 digits

/-- A character in a basic string. -/
def escapeChar (c : Char) : List Char :=
  if c == '\x08' then ['\\', 'b']
  else if c == '\t' then ['\\', 't']
  else if c == '\n' then ['\\', 'n']
  else if c == '\x0c' then ['\\', 'f']
  else if c == '\r' then ['\\', 'r']
  else if c == '"' then ['\\', '"']
  else if c == '\\' then ['\\', '\\']
  else if isControl c then '\\' :: 'u' :: hexDigits4 c.toNat
  else [c]

/-- The characters of a basic string of several lines, when `run` quotes came just before.  Line
feeds stand for themselves, and so do quotes, but for every third of a run. -/
def escapeLines (run : Nat) : List Char → List Char
  | [] => []
  | '\n' :: text => '\n' :: escapeLines 0 text
  | '"' :: text =>
    if run < 2 then '"' :: escapeLines (run + 1) text else '\\' :: '"' :: escapeLines 0 text
  | c :: text => escapeChar c ++ escapeLines 0 text

/-- The line end after the opening quotes of a string of several lines, where one is needed. -/
def opening (text : List Char) : List Char :=
  if text.contains '\n' then ['\n'] else []

/-- Three of the same quote. -/
def three (q : Char) : List Char :=
  [q, q, q]

/-- A string of several lines in single quotes. -/
def longLiteral (text : List Char) : List Char :=
  three '\x27' ++ opening text ++ text ++ three '\x27'

/-- A string of several lines in double quotes. -/
def longBasic (text : List Char) : List Char :=
  three '"' ++ opening text ++ escapeLines 0 text ++ three '"'

/-- A string on one line in double quotes. -/
def shortBasic (text : List Char) : List Char :=
  '"' :: (text.flatMap escapeChar ++ ['"'])

/-- A string in the form that suits it. -/
def renderString (text : List Char) : List Char :=
  let codes := text.any isControl
  let breaks := text.contains '\n'
  let slashes := text.contains '\\'
  if !codes && !slashes && !breaks && !text.contains '"' then shortBasic text
  else if !codes && !breaks && !text.contains '\x27' then '\x27' :: (text ++ ['\x27'])
  else if !codes && !slashes && longestRun '"' 0 text ≤ 2 then longBasic text
  else if !codes && longestRun '\x27' 0 text ≤ 2 then longLiteral text
  else if breaks then longBasic text
  else shortBasic text

/-- A key, in quotes where it needs them. -/
def renderKey (key : List Char) : List Char :=
  if !key.isEmpty && key.all inBareKey then key
  else if !key.any isControl && !key.contains '\n' && !key.contains '\x27'
      && (key.contains '"' || key.contains '\\') then
    '\x27' :: (key ++ ['\x27'])
  else shortBasic key

/-! ## Values -/

/-- Whether a value is a table. -/
def Value.isTable : Value → Bool
  | .table _ => true
  | _ => false

/-- Whether a value is written as tables with headers: a table, or an array of nothing but tables
and at least one. -/
def Value.hasHeader : Value → Bool
  | .table _ => true
  | .array items => !items.isEmpty && items.all Value.isTable
  | _ => false

/-- Texts with a text between them. -/
def between (sep : List Char) (parts : List (List Char)) : List Char :=
  List.intercalate sep parts

/-- The items of an array in brackets. -/
def bracketed (items : List (List Char)) : List Char :=
  match items with
  | [] => ['[', ']']
  | [item] => '[' :: (item ++ [']'])
  | _ =>
    '[' :: '\n' :: (items.flatMap fun item => ' ' :: ' ' :: ' ' :: ' ' :: (item ++ [',', '\n']))
      ++ [']']

mutual

/-- A value on its own. -/
def Value.render : Value → List Char
  | .string s => renderString s.toList
  | .integer n => (toString n).toList
  | .float s => s.toList
  | .boolean b => if b then ['t', 'r', 'u', 'e'] else ['f', 'a', 'l', 's', 'e']
  | .datetime s => s.toList
  | .array items => bracketed (renderAll items)
  | .table [] => ['\x7b', '\x7d']
  | .table (e :: es) =>
    '\x7b' :: ' ' :: (between [',', ' '] (renderInline (e :: es)) ++ [' ', '\x7d'])

/-- Values on their own. -/
def renderAll : List Value → List (List Char)
  | [] => []
  | v :: vs => v.render :: renderAll vs

/-- The entries of a table on one line. -/
def renderInline : List (String × Value) → List (List Char)
  | [] => []
  | (key, v) :: es => (renderKey key.toList ++ ' ' :: '=' :: ' ' :: v.render) :: renderInline es

end

/-! ## Documents -/

/-- An entry on a line of its own. -/
def entryLine (key : String) (v : Value) : List Char :=
  renderKey key.toList ++ ' ' :: '=' :: ' ' :: (v.render ++ ['\n'])

/-- The lines of the plain entries of a table. -/
def plainLines (es : Entries) : List Char :=
  (es.filter fun e => !e.2.hasHeader).flatMap fun e => entryLine e.1 e.2

/-- The line of a header, where `bracket` says how often each bracket stands. -/
def headerLine (brackets : Nat) (path : List String) : List Char :=
  List.replicate brackets '['
    ++ between ['.'] (path.map fun key => renderKey key.toList)
    ++ List.replicate brackets ']' ++ ['\n']

/-- Whether a table gets a header: it has a plain entry, or no entries at all. -/
def showsHeader (es : Entries) : Bool :=
  es.isEmpty || es.any fun e => !e.2.hasHeader

mutual

/-- The blocks of a table with a header, and of the tables in it. -/
def tableBlocks (path : List String) (brackets : Nat) : Value → List (List Char)
  | .table es =>
    let inner := entryBlocks path es
    if brackets == 2 || showsHeader es then (headerLine brackets path ++ plainLines es) :: inner
    else inner
  | .array items => itemBlocks path items
  | _ => []

/-- The blocks of the tables among some entries. -/
def entryBlocks (path : List String) : List (String × Value) → List (List Char)
  | [] => []
  | (key, v) :: es =>
    (if v.hasHeader then tableBlocks (path ++ [key]) 1 v else []) ++ entryBlocks path es

/-- The blocks of the tables of an array. -/
def itemBlocks (path : List String) : List Value → List (List Char)
  | [] => []
  | v :: vs => tableBlocks path 2 v ++ itemBlocks path vs

end

/-- The text of a document.  A blank line stands between blocks. -/
def render (es : Entries) : String :=
  let top := plainLines es
  let blocks := if top.isEmpty then entryBlocks [] es else top :: entryBlocks [] es
  String.ofList (between ['\n'] blocks)

end ReleasePlanner.Toml
