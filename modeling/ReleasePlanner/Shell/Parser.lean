import ReleasePlanner.Shell.Command
import ReleasePlanner.Shell.Token

/-!
# Reading scripts

The grammar of scripts over tokens.  A script is read a line at a time, and
what stands before a fault is still run, so `Script.parse` never fails.
-/

namespace ReleasePlanner.Shell

/-- Tokens with their lines. -/
abbrev Tokens := List (Nat × Token)

/-- Reads something from the front of some tokens. -/
abbrev Reader (α : Type) := Tokens → Except (Nat × Fault) (α × Tokens)

namespace Reader

/-- The fault of the token in front. -/
def unexpected {α : Type} (expected : Option String) : Reader α
  | [] => .error (1, .unfinished expected)
  | (line, t) :: _ => .error (line, .unexpected t.describe expected)

/-- The word in front, as text. -/
def literal? : Tokens → Option String
  | (_, t) :: _ => t.literal?
  | [] => none

/-- Whether an operator is in front. -/
def isOperator (o : String) : Tokens → Bool
  | (_, .operator p) :: _ => p == o
  | _ => false

/-- The line of the token in front. -/
def lineOf : Tokens → Nat
  | (line, _) :: _ => line
  | [] => 1

/-- The tokens without the ends of lines in front. -/
def skipNewlines (ts : Tokens) : Tokens :=
  ts.dropWhile fun t => t.2 = .newline

/-- Reads a certain word. -/
def expect (w : String) : Reader Unit := fun ts =>
  if literal? ts = some w then .ok ((), ts.drop 1) else unexpected (some w) ts

/-- What a redirection operator does, with the stream it is for unless one is named. -/
def redirectKind? : String → Option (RedirectKind × Nat)
  | ">" => some (.write, 1)
  | ">|" => some (.write, 1)
  | ">>" => some (.append, 1)
  | "<" => some (.read, 0)
  | ">&" => some (.copy, 1)
  | "<&" => some (.copy, 0)
  | _ => none

/-- Reads a redirection, if there is one in front. -/
def redirect? (ts : Tokens) : Option (Except (Nat × Fault) (Redirect × Tokens)) :=
  match ts with
  | (_, .number n) :: (_, .operator o) :: rest =>
    (redirectKind? o).map fun (kind, _) => target n kind rest
  | (_, .operator o) :: rest => (redirectKind? o).map fun (kind, n) => target n kind rest
  | _ => none
where
  /-- Reads the target of a redirection. -/
  target (n : Nat) (kind : RedirectKind) : Reader Redirect
    | (_, .word w) :: rest => .ok (⟨n, kind, w⟩, rest)
    | (_, .number m) :: rest => .ok (⟨n, kind, .text false (Text.decimal m) .done⟩, rest)
    | ts => unexpected none ts

/-- Reads the redirections in front. -/
def redirects : Nat → Reader (List Redirect)
  | 0, ts => .ok ([], ts)
  | n + 1, ts =>
    match redirect? ts with
    | none => .ok ([], ts)
    | some r => do
      let (redirect, rest) ← r
      let (others, after) ← redirects n rest
      return (redirect :: others, after)

/-- What a simple command is made of. -/
structure Pieces where
  /-- The assignments. -/
  assignments : List (List Char × Word)
  /-- The words. -/
  words : List Word
  /-- The redirections. -/
  redirects : List Redirect

/-- Reads the pieces of a simple command.  An assignment stands before all words. -/
def pieces : Nat → (inWords : Bool) → Reader Pieces
  | 0, _, ts => .ok (⟨[], [], []⟩, ts)
  | n + 1, inWords, ts =>
    match redirect? ts, ts with
    | some r, _ => do
      let (redirect, rest) ← r
      let (p, after) ← pieces n inWords rest
      return ({ p with redirects := redirect :: p.redirects }, after)
    | none, (_, .word w) :: rest =>
      match (if inWords then none else w.assignment?) with
      | some a => do
        let (p, after) ← pieces n false rest
        return ({ p with assignments := a :: p.assignments }, after)
      | none => do
        let (p, after) ← pieces n true rest
        return ({ p with words := w :: p.words }, after)
    | none, _ => .ok (⟨[], [], []⟩, ts)

/-- Reads a simple command, which is not empty. -/
def simple : Reader Command := fun ts => do
  let (p, rest) ← pieces ts.length false ts
  if p.assignments.isEmpty && p.words.isEmpty && p.redirects.isEmpty then unexpected none ts
  else return (.simple (lineOf ts) p.assignments p.words p.redirects, rest)

/-- Reads the words of a loop up to the end of the list. -/
def loopWords : Reader (List Word)
  | (_, .word w) :: rest => do
    let (ws, after) ← loopWords rest
    return (w :: ws, after)
  | (_, .newline) :: rest => .ok ([], rest)
  | (_, .operator ";") :: rest => .ok ([], rest)
  | ts => unexpected none ts

/-- The words that end a list of commands. -/
def isCloser (ts : Tokens) : Bool :=
  ts.isEmpty || isOperator ")" ts ||
    match literal? ts with
    | some w => ["then", "elif", "else", "fi", "do", "done", "\x7d"].contains w
    | none => false

/-- A command with redirections, if there are any. -/
def withRedirects (line : Nat) (c : Command) : Reader Command := fun ts => do
  let (rs, rest) ← redirects ts.length ts
  return (if rs.isEmpty then c else .redirected line c rs, rest)

mutual

/-- Reads commands up to a word that ends them, over any number of lines. -/
def commands : Nat → Reader Command
  | 0, ts => unexpected none ts
  | n + 1, ts => do
    let (first, rest) ← conditional n (skipNewlines ts)
    let separated := match rest with
      | (_, .newline) :: after => skipNewlines after
      | (_, .operator ";") :: after => skipNewlines after
      | (_, .operator "&") :: after => skipNewlines after
      | _ => rest
    if isCloser separated then return (first, separated)
    else if separated.length = rest.length then unexpected none rest
    else
      let (second, after) ← commands n separated
      return (.sequence first second, after)

/-- Reads commands that depend on the success of one another. -/
def conditional : Nat → Reader Command
  | 0, ts => unexpected none ts
  | n + 1, ts => do
    let (first, rest) ← pipeline n ts
    conditionalFrom n first rest

/-- Reads what depends on the success of a command. -/
def conditionalFrom : Nat → Command → Reader Command
  | 0, c, ts => .ok (c, ts)
  | n + 1, c, ts =>
    match ts with
    | (_, .operator "&&") :: rest => do
      let (second, after) ← pipeline n (skipNewlines rest)
      conditionalFrom n (.both c second) after
    | (_, .operator "||") :: rest => do
      let (second, after) ← pipeline n (skipNewlines rest)
      conditionalFrom n (.either c second) after
    | _ => .ok (c, ts)

/-- Reads commands that are connected by pipes. -/
def pipeline : Nat → Reader Command
  | 0, ts => unexpected none ts
  | n + 1, ts =>
    if literal? ts = some "!" then do
      let (c, rest) ← pipeline n (ts.drop 1)
      return (.invert c, rest)
    else do
      let (first, rest) ← command n ts
      pipelineFrom n first rest

/-- Reads what a command is piped into. -/
def pipelineFrom : Nat → Command → Reader Command
  | 0, c, ts => .ok (c, ts)
  | n + 1, c, ts =>
    match ts with
    | (_, .operator "|") :: rest => do
      let (second, after) ← command n (skipNewlines rest)
      pipelineFrom n (.pipe c second) after
    | _ => .ok (c, ts)

/-- Reads one command. -/
def command : Nat → Reader Command
  | 0, ts => unexpected none ts
  | n + 1, ts =>
    let line := lineOf ts
    if isOperator "(" ts then do
      let (body, rest) ← commands n (ts.drop 1)
      if isOperator ")" rest then withRedirects line (.subshell body) (rest.drop 1)
      else unexpected (some ")") rest
    else
      match literal? ts with
      | some "\x7b" => do
        let (body, rest) ← commands n (ts.drop 1)
        let (_, rest) ← expect "\x7d" rest
        withRedirects line body rest
      | some "if" => do
        let (body, rest) ← choice n (ts.drop 1)
        withRedirects line body rest
      | some "for" => do
        let (body, rest) ← loop n line (ts.drop 1)
        withRedirects line body rest
      | some w =>
        if ["then", "elif", "else", "fi", "do", "done", "\x7d"].contains w then unexpected none ts
        else simple ts
      | none => simple ts

/-- Reads a choice after its first word. -/
def choice : Nat → Reader Command
  | 0, ts => unexpected none ts
  | n + 1, ts => do
    let (condition, rest) ← commands n ts
    let (_, rest) ← expect "then" rest
    let (yes, rest) ← commands n rest
    match literal? rest with
    | some "elif" => do
      let (no, rest) ← choice n (rest.drop 1)
      return (.choice condition yes no, rest)
    | some "else" => do
      let (no, rest) ← commands n (rest.drop 1)
      let (_, rest) ← expect "fi" rest
      return (.choice condition yes no, rest)
    | _ => do
      let (_, rest) ← expect "fi" rest
      return (.choice condition yes .skip, rest)

/-- Reads a loop after its first word. -/
def loop : Nat → Nat → Reader Command
  | 0, _, ts => unexpected none ts
  | n + 1, line, ts =>
    match literal? ts with
    | none => unexpected none ts
    | some name => do
      let (_, rest) ← expect "in" (skipNewlines (ts.drop 1))
      let (words, rest) ← loopWords rest
      let (_, rest) ← expect "do" (skipNewlines rest)
      let (body, rest) ← commands n rest
      let (_, rest) ← expect "done" rest
      return (.loop line name.toList words body, rest)

end

/-- Reads the commands of one line. -/
def lineCommands : Nat → Reader Command
  | 0, ts => unexpected none ts
  | n + 1, ts => do
    let (first, rest) ← conditional (8 * ts.length + 8) ts
    match rest with
    | [] => return (first, [])
    | (_, .newline) :: after => return (first, after)
    | (_, .operator o) :: after =>
      if o = ";" || o = "&" then
        match after with
        | [] => return (first, [])
        | (_, .newline) :: more => return (first, more)
        | _ =>
          let (second, more) ← lineCommands n after
          return (.sequence first second, more)
      else unexpected none rest
    | _ => unexpected none rest

end Reader

namespace Script

/-- The script of some tokens, with the fault that comes after them. -/
def ofTokens : Nat → Tokens → Option (Nat × Fault) → Script
  | 0, _, fault => ⟨[], fault⟩
  | n + 1, ts, fault =>
    match Reader.skipNewlines ts with
    | [] => ⟨[], fault⟩
    | ts =>
      match Reader.lineCommands ts.length ts with
      | .ok (c, rest) =>
        let more := ofTokens n rest fault
        let isCut := rest.isEmpty && fault.isSome && ts.getLast?.map Prod.snd ≠ some .newline
        if isCut then ⟨[], fault⟩ else ⟨c :: more.commands, more.fault⟩
      | .error f => ⟨[], fault.or (some f)⟩

/-- Reads a script. -/
def parse (cs : List Char) : Script :=
  let (ts, fault) := Token.scan cs.length.succ 1 cs
  ofTokens ts.length.succ ts fault

end Script

end ReleasePlanner.Shell
