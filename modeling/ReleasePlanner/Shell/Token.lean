import ReleasePlanner.Shell.Word

/-!
# Tokens of a script

A script is a row of words, operators and ends of lines.  The number in front
of a redirection is a token of its own.
-/

namespace ReleasePlanner.Shell

/-- A token. -/
inductive Token where
  | word (w : Word)
  | number (n : Nat)
  | operator (text : String)
  | newline
  deriving DecidableEq, Repr

namespace Token

/-- The operators, longer ones before those they begin with. -/
def operators : List String :=
  ["&&", "||", ";;", "<<", ">>", "<&", ">&", ">|", "<>", "&", "|", ";", "<", ">", "(", ")"]

/-- Whether a character ends a word. -/
def endsWord (c : Char) : Bool :=
  " \t\n;&|<>()".toList.contains c

/-- The operator at the start of a text, and what follows it. -/
def splitOperator (cs : List Char) : Option (String × List Char) :=
  (operators.find? fun o => o.toList.isPrefixOf cs).map fun o => (o, cs.drop o.length)

/-- The tokens of a text with their lines, and the fault where reading stops. -/
def scan : Nat → (line : Nat) → List Char → List (Nat × Token) × Option (Nat × Fault)
  | 0, _, _ => ([], none)
  | _ + 1, _, [] => ([], none)
  | n + 1, line, c :: cs =>
    if c = '\n' then more (line, newline) (scan n (line + 1) cs)
    else if c = ' ' || c = '\t' then scan n line cs
    else if c = '#' then scan n line (cs.dropWhile fun d => d ≠ '\n')
    else
      match c, cs, splitOperator (c :: cs) with
      | '\\', '\n' :: rest, _ => scan n (line + 1) rest
      | _, _, some (o, rest) => more (line, operator o) (scan n line rest)
      | _, _, none =>
        match Word.read endsWord (c :: cs) with
        | .error f => ([], some (line, f))
        | .ok (w, rest) => more (line, ofWord w rest) (scan n line rest)
where
  /-- A token in front of others. -/
  more (t : Nat × Token) (r : List (Nat × Token) × Option (Nat × Fault)) :
      List (Nat × Token) × Option (Nat × Fault) :=
    (t :: r.1, r.2)
  /-- The token of a word, which is a number if it is one and a redirection follows. -/
  ofWord (w : Word) (rest : List Char) : Token :=
    match w.literal?, rest.head? with
    | some [d], some c =>
      if d.isDigit && (c = '<' || c = '>') then number (d.toNat - 48) else word w
    | _, _ => word w

/-- The words with which an unexpected token is named. -/
def describe : Token → String
  | word w =>
    match w.literal? with
    | some cs =>
      if reserved.contains (String.ofList cs) then "\"" ++ String.ofList cs ++ "\"" else "word"
    | none => "word"
  | number _ => "word"
  | operator o => "\"" ++ o ++ "\""
  | newline => "newline"
where
  /-- The words with a meaning of their own. -/
  reserved : List String :=
    ["if", "then", "elif", "else", "fi", "for", "do", "done", "in", "!", "\x7b", "\x7d"]

/-- The word that a token is, as text. -/
def literal? : Token → Option String
  | word w => w.literal?.map String.ofList
  | _ => none

end Token

end ReleasePlanner.Shell
