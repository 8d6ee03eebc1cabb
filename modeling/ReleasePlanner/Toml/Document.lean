import ReleasePlanner.Toml.Scalar

/-!
# Reading TOML documents

A document is a sequence of lines: table headers, headers of arrays of tables,
and keys with values.  While it is read, tables remember how they came about,
for a table may be defined only once.  A header defines one, and so do the
dotted keys that lead to it.  A table that only lies on the way of a header may
still be defined later.
-/

namespace ReleasePlanner.Toml

/-! ## Tables while they are read -/

/-- How a table came about. -/
inductive Origin where
  /-- By a header of its own. -/
  | header
  /-- On the way of the header of another table. -/
  | passed
  /-- By a dotted key. -/
  | dotted
  deriving DecidableEq

/-- What a key stands for while a document is read. -/
inductive Item where
  /-- A finished value. -/
  | value (v : Value)
  /-- A table. -/
  | table (origin : Origin) (keys : List String) (items : List Item)
  /-- An array of tables, of which the last may still grow.  A table is its keys and its items. -/
  | tables (keys : List (List String)) (items : List (List Item))

/-- A table while it is read: its keys and what they stand for. -/
structure Draft where
  /-- The keys. -/
  keys : List String
  /-- What they stand for. -/
  items : List Item

namespace Draft

/-- The table without entries. -/
def empty : Draft :=
  ⟨[], []⟩

/-- What a key stands for. -/
def get? (d : Draft) (key : String) : Option Item :=
  ((d.keys.zip d.items).find? fun e => e.1 == key).map Prod.snd

/-- Lets a key stand for something else, or for something at all. -/
def put (d : Draft) (key : String) (item : Item) : Draft :=
  if d.keys.contains key then
    ⟨d.keys, List.zipWith (fun k old => if k == key then item else old) d.keys d.items⟩
  else ⟨d.keys ++ [key], d.items ++ [item]⟩

/-- The last table of an array of tables. -/
def lastOf (keys : List (List String)) (items : List (List Item)) : Draft :=
  ⟨keys.getLastD [], items.getLastD []⟩

/-- An array of tables whose last table is replaced. -/
def replaceLast (keys : List (List String)) (items : List (List Item)) (d : Draft) : Item :=
  .tables (keys.dropLast ++ [d.keys]) (items.dropLast ++ [d.items])

/-- Changes the table at the end of a path with `f`, which also gets to know how the table came
about.  Tables that are missing on the way are made, and `dotted` says whether the path is that of
a dotted key.  A dotted key must not lead through a table with a header of its own. -/
def change (dotted : Bool) (f : Origin → Draft → Option Draft) :
    List String → Origin → Draft → Option Draft
  | [], origin, d => f origin d
  | key :: path, _, d =>
    match d.get? key with
    | none => do
      let origin := if dotted then .dotted else .passed
      let inner ← change dotted f path origin .empty
      some (d.put key (.table origin inner.keys inner.items))
    | some (.value _) => none
    | some (.table origin keys items) =>
      if dotted && origin == .header then none
      else do
        let inner ← change dotted f path origin ⟨keys, items⟩
        some (d.put key (.table origin inner.keys inner.items))
    | some (.tables keys items) => do
      let inner ← change dotted f path .header (lastOf keys items)
      some (d.put key (replaceLast keys items inner))

/-- Adds an entry with a dotted key.  The table it goes into must have come about by dotted keys
if the key leads to it, and by anything else if not. -/
def define (path : List String) (key : String) (v : Value) : Origin → Draft → Option Draft :=
  change true (fun origin d =>
    if (origin == .dotted) == path.isEmpty then none
    else if d.keys.contains key then none
    else some (d.put key (.value v))) path

/-- Opens the table of a header. -/
def openTable (key : String) (d : Draft) : Option Draft :=
  match d.get? key with
  | none => some (d.put key (.table .header [] []))
  | some (.table .passed keys items) => some (d.put key (.table .header keys items))
  | _ => none

/-- Adds a table to the array of a header. -/
def addTable (key : String) (d : Draft) : Option Draft :=
  match d.get? key with
  | none => some (d.put key (.tables [[]] [[]]))
  | some (.tables keys items) => some (d.put key (.tables (keys ++ [[]]) (items ++ [[]])))
  | _ => none

end Draft

mutual

/-- The value of an item. -/
def Item.toValue : Item → Value
  | .value v => v
  | .table _ keys items => .table (keys.zip (valuesOf items))
  | .tables keys items => .array (tablesOf keys items)

/-- The values of items. -/
def valuesOf : List Item → List Value
  | [] => []
  | i :: is => i.toValue :: valuesOf is

/-- The tables of an array of tables. -/
def tablesOf : List (List String) → List (List Item) → List Value
  | keys :: more, items :: rest => .table (keys.zip (valuesOf items)) :: tablesOf more rest
  | _, _ => []

end

/-- The entries of a finished table. -/
def Draft.entries (d : Draft) : Entries :=
  d.keys.zip (valuesOf d.items)

/-! ## Keys and values -/

/-- Can stand in a bare key. -/
def inBareKey (c : Char) : Bool :=
  c.isAlphanum || c == '-' || c == '_'

/-- Reads one part of a key. -/
def simpleKey : Reader String := do
  match ← get with
  | c :: _ =>
    if c == '"' || c == '\x27' then shortString
    else
      let cs ← takeWhile inBareKey
      guard !cs.isEmpty
      return String.ofList cs
  | [] => failure

/-- Reads the parts of a dotted key, with spaces around each. -/
def dottedKey : Nat → Reader (List String)
  | 0 => failure
  | fuel + 1 => do
    spaces
    let key ← simpleKey
    spaces
    if ← skip? '.' then return key :: (← dottedKey fuel) else return [key]

/-- Values must not be nested deeper than this, and keys must not have more parts. -/
def maxDepth : Nat := 79

/-- Reads a key: the path before its last part, and that part. -/
def key : Reader (List String × String) := do
  let parts ← dottedKey maxDepth
  return (parts.dropLast, parts.getLastD "")

/-- Reads the items of an array after its bracket, up to and with the closing bracket. -/
def arrayItems (item : Reader Value) : Nat → Reader (List Value)
  | 0 => failure
  | fuel + 1 => do
    gaps ((← rest).length + 1)
    if ← skip? ']' then return []
    let v ← item
    gaps ((← rest).length + 1)
    if ← skip? ',' then return v :: (← arrayItems item fuel)
    expect ']'
    return [v]

/-- Reads the entries of an inline table after its brace, up to and with the closing brace. -/
def inlineEntries (item : Reader Value) : Nat → Draft → Reader Draft
  | 0, _ => failure
  | fuel + 1, d => do
    let (path, last) ← key
    expect '='
    spaces
    let v ← item
    match d.define path last v .header with
    | none => failure
    | some more =>
      spaces
      if ← skip? ',' then inlineEntries item fuel more
      else
        expect '\x7d'
        return more

/-- Reads an inline table after its brace. -/
def inlineTable (item : Reader Value) : Reader Value := do
  spaces
  if ← skip? '\x7d' then return .table []
  let d ← inlineEntries item ((← rest).length + 1) .empty
  return .table d.entries

/-- Reads a value that holds no other values. -/
def flatValue : Reader Value := do
  match ← get with
  | '"' :: _ | '\x27' :: _ => return .string (← string)
  | 't' :: _ =>
    expectWord ['t', 'r', 'u', 'e']
    return .boolean true
  | 'f' :: _ =>
    expectWord ['f', 'a', 'l', 's', 'e']
    return .boolean false
  | _ => dateOrNumber

/-- Reads a value in which others are nested at most so deep. -/
def value : Nat → Reader Value
  | 0 => flatValue
  | depth + 1 => do
    match ← get with
    | '[' :: text =>
      set text
      return .array (← arrayItems (value depth) (text.length + 1))
    | '\x7b' :: text =>
      set text
      inlineTable (value depth)
    | _ => flatValue

/-! ## Documents -/

/-- A document while it is read. -/
structure Reading where
  /-- The table that holds everything. -/
  root : Draft
  /-- The path of the table of the last header. -/
  current : List String

/-- Reads the rest of a line, which holds at most a comment. -/
def restOfLine : Reader Unit := do
  spaces
  comment
  lineEnd

/-- Changes the table that lies above the last part of a header. -/
def header (path : List String) (last : String) (f : String → Draft → Option Draft) (r : Reading) :
    Option Reading := do
  let root ← r.root.change false (fun _ d => f last d) path .header
  some ⟨root, path ++ [last]⟩

/-- Reads the header of a table after its bracket. -/
def tableHeader (r : Reading) : Reader Reading := do
  let (path, last) ← key
  expect ']'
  match header path last Draft.openTable r with
  | some r => return r
  | none => failure

/-- Reads the header of an array of tables after its brackets. -/
def tablesHeader (r : Reading) : Reader Reading := do
  let (path, last) ← key
  expect ']'
  expect ']'
  match header path last Draft.addTable r with
  | some r => return r
  | none => failure

/-- Reads a key with its value. -/
def entry (r : Reading) : Reader Reading := do
  let (path, last) ← key
  expect '='
  spaces
  let v ← value maxDepth
  match Draft.change false (fun origin d => d.define path last v origin) r.current .header
      r.root with
  | some root => return { r with root := root }
  | none => failure

/-- Reads the lines of a document. -/
def documentLines : Nat → Reading → Reader Reading
  | 0, _ => failure
  | fuel + 1, r => do
    spaces
    match ← get with
    | [] => return r
    | '#' :: _ | '\n' :: _ | '\r' :: _ =>
      restOfLine
      documentLines fuel r
    | '[' :: '[' :: text =>
      set text
      let r ← tablesHeader r
      restOfLine
      documentLines fuel r
    | '[' :: text =>
      set text
      let r ← tableHeader r
      restOfLine
      documentLines fuel r
    | _ =>
      let r ← entry r
      restOfLine
      documentLines fuel r

/-- A text without the mark that may stand in front of it. -/
def dropMark : List Char → List Char
  | '\ufeff' :: text => text
  | text => text

/-- The entries of a document, if it is well formed. -/
def parse? (text : String) : Option Entries :=
  let cs := dropMark text.toList
  ((documentLines (cs.length + 1) ⟨.empty, []⟩).run cs).map fun result => result.1.root.entries

end ReleasePlanner.Toml
