import ReleasePlanner.Shell.Session

/-!
# Conditions

What `test` asks: about texts, numbers and files.  Conditions are joined by
`-a` and `-o`, negated by an exclamation mark, and grouped by parentheses.
-/

namespace ReleasePlanner.Shell.Condition

/-- A question about one text or file. -/
def unary? (s : Session) : String → Option (String → Bool)
  | "-n" => some fun a => a ≠ ""
  | "-z" => some fun a => a = ""
  | "-e" => some fun a => (node? a).isSome
  | "-r" => some fun a => (node? a).isSome
  | "-w" => some fun a => (node? a).isSome
  | "-f" => some fun a => match node? a with | some (.file _) => true | _ => false
  | "-d" => some fun a => node? a == some .directory
  | "-x" => some fun a => node? a == some .directory
  | "-s" => some fun a => match node? a with
    | some (.file text) => text ≠ ""
    | some .directory => true
    | none => false
  | "-h" => some fun _ => false
  | "-L" => some fun _ => false
  | "-p" => some fun _ => false
  | "-S" => some fun _ => false
  | "-b" => some fun _ => false
  | "-c" => some fun a => a = "/dev/null"
  | "-t" => some fun _ => false
  | _ => none
where
  /-- What is at a path. -/
  node? (path : String) : Option Node :=
    (s.locate path).toOption.bind s.files.node?

/-- The integer that a text is, with blanks around it. -/
def integer? (text : String) : Except String Int :=
  let isBlank (c : Char) : Bool := c = ' ' || (9 ≤ c.toNat && c.toNat ≤ 13)
  let cs := ((text.toList.dropWhile isBlank).reverse.dropWhile isBlank).reverse
  let (sign, digits) := match cs with
    | '-' :: rest => (-1, rest)
    | '+' :: rest => (1, rest)
    | _ => ((1 : Int), cs)
  match Text.digits? digits with
  | some n => if digits.isEmpty then illegal else .ok (sign * n)
  | none => illegal
where
  /-- The complaint about a text that is no number. -/
  illegal : Except String Int := .error ("Illegal number: " ++ text)

/-- Compares two numbers. -/
def comparing (p : Int → Int → Bool) (a b : String) : Except String Bool := do
  return p (← integer? a) (← integer? b)

/-- A question about two texts. -/
def binary? : String → Option (String → String → Except String Bool)
  | "=" => some fun a b => .ok (a = b)
  | "!=" => some fun a b => .ok (a ≠ b)
  | "<" => some fun a b => .ok (a < b)
  | ">" => some fun a b => .ok (b < a)
  | "-eq" => some (comparing fun a b => a = b)
  | "-ne" => some (comparing fun a b => a ≠ b)
  | "-gt" => some (comparing fun a b => b < a)
  | "-ge" => some (comparing fun a b => b ≤ a)
  | "-lt" => some (comparing fun a b => a < b)
  | "-le" => some (comparing fun a b => a ≤ b)
  | _ => none

/-- The truth of what stands in front, and what follows it. -/
abbrev Reading := List String → Except String (Bool × List String)

mutual

/-- Alternatives. -/
def any (s : Session) : Nat → Reading
  | 0, ts => .ok (false, ts)
  | n + 1, ts => do
    let (a, rest) ← all s n ts
    match rest with
    | "-o" :: more => do
      let (b, after) ← any s n more
      return (a || b, after)
    | _ => return (a, rest)

/-- Conditions that are needed together. -/
def all (s : Session) : Nat → Reading
  | 0, ts => .ok (false, ts)
  | n + 1, ts => do
    let (a, rest) ← negated s n ts
    match rest with
    | "-a" :: more => do
      let (b, after) ← all s n more
      return (a && b, after)
    | _ => return (a, rest)

/-- A condition, or the opposite of one. -/
def negated (s : Session) : Nat → Reading
  | 0, ts => .ok (false, ts)
  | n + 1, ts =>
    match ts with
    | ["!"] => .ok (true, [])
    | "!" :: rest => do
      let (a, after) ← negated s n rest
      return (!a, after)
    | _ => primary s n ts

/-- A single condition. -/
def primary (s : Session) : Nat → Reading
  | 0, ts => .ok (false, ts)
  | n + 1, ts =>
    match ts with
    | [] => .ok (false, [])
    | [a] => .ok (a ≠ "", [])
    | a :: b :: rest =>
      match binary? b, unary? s a, rest with
      | some ask, _, c :: more => do return (← ask a c, more)
      | _, some ask, _ => .ok (ask b, rest)
      | _, none, _ =>
        if a = "(" then do
          let (value, after) ← any s n (b :: rest)
          match after with
          | ")" :: more => return (value, more)
          | _ => throw "closing paren expected"
        else if (binary? b).isSome then throw (b ++ ": argument expected")
        else .ok (a ≠ "", b :: rest)

end

/-- The truth of a whole condition. -/
def truth (s : Session) (ts : List String) : Except String Bool := do
  let (value, rest) ← any s (4 * ts.length + 4) ts
  if rest.isEmpty then return value
  else throw ((ts[ts.length - rest.length - 1]?).getD "" ++ ": unexpected operator")

end ReleasePlanner.Shell.Condition
