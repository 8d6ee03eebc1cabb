import ReleasePlanner.Text.Decimal

/-!
# Words of a shell command

A word is a row of parts: text, the value of a variable, or the output of a
command.  Each part knows whether it was quoted, for quoted parts are never
split and hold no wildcards.

`Word.read` reads a word from the text of a command, up to the first unquoted
character that ends it.
-/

namespace ReleasePlanner.Shell

/-- Why the text of a command cannot be read. -/
inductive Fault where
  | unterminatedQuote
  | missingBrace
  | badSubstitution
  | unterminatedOutput
  /-- Something stands where it cannot stand. -/
  | unexpected (what : String) (expected : Option String)
  /-- The text ends where something else is needed. -/
  | unfinished (expected : Option String)
  deriving DecidableEq, Repr

/-- The words for what was expected. -/
def Fault.expecting : Option String → String
  | some e => " (expecting \"" ++ e ++ "\")"
  | none => ""

/-- The words for a fault. -/
def Fault.message : Fault → String
  | unterminatedQuote => "Syntax error: Unterminated quoted string"
  | missingBrace => "Syntax error: Missing '\x7d'"
  | badSubstitution => "Bad substitution"
  | unterminatedOutput => "Syntax error: end of file unexpected" ++ expecting (some ")")
  | unexpected what expected => "Syntax error: " ++ what ++ " unexpected" ++ expecting expected
  | unfinished expected => "Syntax error: end of file unexpected" ++ expecting expected

/-- What is done with the value of a variable.  Where there is a choice, `orEmpty` treats an empty
value like none, and `longest` cuts as much as possible. -/
inductive Modifier where
  | value
  | length
  | fallback (orEmpty : Bool)
  | assign (orEmpty : Bool)
  | demand (orEmpty : Bool)
  | replace (orEmpty : Bool)
  | cutStart (longest : Bool)
  | cutEnd (longest : Bool)
  deriving DecidableEq, Repr

/-- A word. -/
inductive Word where
  | done
  | text (quoted : Bool) (cs : List Char) (rest : Word)
  | parameter (quoted : Bool) (name : List Char) (modifier : Modifier) (inner : Word) (rest : Word)
  | output (quoted : Bool) (script : List Char) (rest : Word)
  deriving DecidableEq, Repr

namespace Word

/-- A word with text in front. -/
def addText (quoted : Bool) (cs : List Char) : Word → Word
  | text q ds rest => if q = quoted then text q (cs ++ ds) rest else text quoted cs (text q ds rest)
  | w => text quoted cs w

/-- One word after another. -/
def append : Word → Word → Word
  | done, w => w
  | text q cs rest, w => addText q cs (append rest w)
  | parameter q name m inner rest, w => parameter q name m inner (append rest w)
  | output q script rest, w => output q script (append rest w)

/-- The text of a word that is unquoted text only. -/
def literal? : Word → Option (List Char)
  | done => some []
  | text false cs rest => (literal? rest).map fun ds => cs ++ ds
  | _ => none

/-- Whether a character may begin the name of a variable. -/
def beginsName (c : Char) : Bool :=
  c.isAlpha || c = '_'

/-- Whether a character may stand in the name of a variable. -/
def isNameChar (c : Char) : Bool :=
  c.isAlphanum || c = '_'

/-- The characters of a name at the start of a text, and what follows. -/
def splitName (cs : List Char) : List Char × List Char :=
  match cs with
  | c :: rest =>
    if beginsName c then (c :: rest.takeWhile isNameChar, rest.dropWhile isNameChar)
    else if c.isDigit || "?#$!@*-".toList.contains c then ([c], rest)
    else ([], cs)
  | [] => ([], [])

/-- Splits an assignment into its name and the word of its value. -/
def assignment? : Word → Option (List Char × Word)
  | text false cs rest =>
    let (name, after) := (cs.takeWhile isNameChar, cs.dropWhile isNameChar)
    match name, after with
    | c :: _, '=' :: value => if beginsName c then some (name, addText false value rest) else none
    | _, _ => none
  | _ => none

/-! ## Reading -/

/-- The text up to an ending quote, and what follows it. -/
def upTo (stop : Char) : List Char → Option (List Char × List Char)
  | [] => none
  | c :: cs =>
    if c = stop then some ([], cs) else (upTo stop cs).map fun r => (c :: r.1, r.2)

/-- The text up to the parenthesis that closes an open one, and what follows it.  Quoted
parentheses do not count. -/
def upToClosing : Nat → (depth : Nat) → List Char → Option (List Char × List Char)
  | 0, _, _ => none
  | _, _, [] => none
  | n + 1, depth, '\\' :: c :: cs =>
    (upToClosing n depth cs).map fun r => ('\\' :: c :: r.1, r.2)
  | n + 1, depth, '\x27' :: cs =>
    match upTo '\x27' cs with
    | some (quoted, rest) =>
      (upToClosing n depth rest).map fun r => ('\x27' :: quoted ++ '\x27' :: r.1, r.2)
    | none => none
  | n + 1, depth, '(' :: cs => (upToClosing n (depth + 1) cs).map fun r => ('(' :: r.1, r.2)
  | n + 1, depth, ')' :: cs =>
    if depth = 0 then some ([], cs)
    else (upToClosing n (depth - 1) cs).map fun r => (')' :: r.1, r.2)
  | n + 1, depth, c :: cs => (upToClosing n depth cs).map fun r => (c :: r.1, r.2)

/-- The modifier at the start of a text, and what follows. -/
def splitModifier (cs : List Char) : Option (Modifier × List Char) :=
  match cs with
  | '\x7d' :: _ => some (.value, cs)
  | ':' :: '-' :: rest => some (.fallback true, rest)
  | ':' :: '=' :: rest => some (.assign true, rest)
  | ':' :: '?' :: rest => some (.demand true, rest)
  | ':' :: '+' :: rest => some (.replace true, rest)
  | '-' :: rest => some (.fallback false, rest)
  | '=' :: rest => some (.assign false, rest)
  | '?' :: rest => some (.demand false, rest)
  | '+' :: rest => some (.replace false, rest)
  | '#' :: '#' :: rest => some (.cutStart true, rest)
  | '#' :: rest => some (.cutStart false, rest)
  | '%' :: '%' :: rest => some (.cutEnd true, rest)
  | '%' :: rest => some (.cutEnd false, rest)
  | _ => none

/-- Whether a backslash between double quotes takes the meaning from a character. -/
def isEscapedInQuotes (c : Char) : Bool :=
  c = '$' || c = '"' || c = '\\' || c.toNat = 0x60

/-- Reads a word up to the first character that ends it and is not quoted.  `n` bounds the number
of parts, and `quoted` says whether the word stands between double quotes. -/
def readWithin : Nat → (quoted : Bool) → (ends : Char → Bool) → List Char →
    Except Fault (Word × List Char)
  | 0, _, _, cs => .ok (done, cs)
  | _ + 1, _, _, [] => .ok (done, [])
  | n + 1, quoted, ends, c :: cs =>
    if ends c then .ok (done, c :: cs)
    else if c = '\\' then
      match cs with
      | '\n' :: rest => readWithin n quoted ends rest
      | d :: rest =>
        if quoted && !isEscapedInQuotes d then
          first (addText true ['\\']) (readWithin n quoted ends (d :: rest))
        else first (addText true [d]) (readWithin n quoted ends rest)
      | [] => .ok (text true ['\\'] done, [])
    else if c = '\x27' && !quoted then
      match upTo '\x27' cs with
      | some (inside, rest) => first (addText true inside) (readWithin n quoted ends rest)
      | none => .error .unterminatedQuote
    else if c = '"' then do
      let (inside, rest) ← readWithin n true (fun d => d = '"') cs
      if rest.isEmpty then throw .unterminatedQuote
      first (fun w => (addText true [] inside).append w) (readWithin n quoted ends (rest.drop 1))
    else if c.toNat = 0x60 then
      match upTo c cs with
      | some (script, rest) => first (output quoted script) (readWithin n quoted ends rest)
      | none => .error .unterminatedQuote
    else if c = '$' then
      match cs with
      | '(' :: inside =>
        match upToClosing inside.length.succ 0 inside with
        | some (script, rest) => first (output quoted script) (readWithin n quoted ends rest)
        | none => .error .unterminatedOutput
      | '\x7b' :: '#' :: inside =>
        let (name, after) := splitName inside
        match after with
        | '\x7d' :: rest =>
          first (parameter quoted (if name.isEmpty then ['#'] else name)
            (if name.isEmpty then .value else .length) done) (readWithin n quoted ends rest)
        | _ => .error .badSubstitution
      | '\x7b' :: inside =>
        let (name, after) := splitName inside
        match splitModifier after with
        | some (modifier, more) =>
          if name.isEmpty then .error .badSubstitution
          else do
            let (inner, rest) ← readWithin n quoted (fun d => d = '\x7d') more
            if rest.isEmpty then throw .missingBrace
            first (parameter quoted name modifier inner) (readWithin n quoted ends (rest.drop 1))
        | none => if after.isEmpty then .error .missingBrace else .error .badSubstitution
      | _ =>
        let (name, rest) := splitName cs
        if name.isEmpty then first (addText quoted ['$']) (readWithin n quoted ends cs)
        else first (parameter quoted name .value done) (readWithin n quoted ends rest)
    else first (addText quoted [c]) (readWithin n quoted ends cs)
where
  /-- Does something to the word that was read. -/
  first (f : Word → Word) (r : Except Fault (Word × List Char)) :
      Except Fault (Word × List Char) :=
    r.map fun (w, rest) => (f w, rest)

/-- Reads a word up to the first unquoted character that ends it. -/
def read (ends : Char → Bool) (cs : List Char) : Except Fault (Word × List Char) :=
  readWithin cs.length.succ false ends cs

end Word

end ReleasePlanner.Shell
