import ReleasePlanner.Hook.Run
import ReleasePlanner.Shell.Expansion
import ReleasePlanner.Shell.Parser
import ReleasePlanner.Shell.Utility

/-!
# Running scripts

The meaning of commands as changes of a session.  `runCommand` follows the
structure of a command.  Scripts inside of words are run by a parameter of it,
and `runScript` ties the knot with a bound on their depth.

`Shell.runner` runs a script from outside, with an environment and in a
directory.
-/

namespace ReleasePlanner.Shell

/-- How scripts inside of words are run. -/
abbrev Inner := List Char → Session → Session

/-- The output of a script inside of a word. -/
def substitute (inner : Inner) (script : List Char) : Expand String := fun s =>
  s.captured (inner script)

/-! ## Redirections -/

/-- The complaint about a file that cannot be opened. -/
def openFault (creates : Bool) : FileError → String
  | .missing => if creates then "Directory nonexistent" else "No such file"
  | .notDirectory => if creates then "Directory nonexistent" else "No such file"
  | e => e.message

/-- A session with a stream of commands leading elsewhere. -/
def redirectTo (s : Session) (stream : Nat) (sink : Sink) : Session :=
  if stream = 1 then { s with output := sink }
  else if stream = 2 then { s with errors := sink }
  else s

/-- Opens a file for writing. -/
def openForWriting (s : Session) (keep : Bool) (path : String) :
    Except FileError (Sink × Session) :=
  if path = "/dev/null" then .ok (.nowhere, s)
  else do
    let place ← s.locate path
    let old := match s.files.read place with
      | .ok text => if keep then text else ""
      | .error _ => ""
    let files ← s.files.write place old
    return (.file place, { s with files := files })

/-- Applies one redirection.  The result tells whether it succeeded. -/
def redirect (line : Nat) (inner : Inner) (r : Redirect) (s : Session) : Bool × Session :=
  let (cs, s) := wholeText line (substitute inner) r.target s
  let path := String.ofList cs
  match r.kind with
  | .copy =>
    if path = "1" then (true, redirectTo s r.stream s.output)
    else if path = "2" then (true, redirectTo s r.stream s.errors)
    else if path = "-" then (true, redirectTo s r.stream .nowhere)
    else (false, (s.report line (path ++ ": Bad file descriptor")).finish 2)
  | .read =>
    if path = "/dev/null" then (true, { s with input := "" })
    else
      match (s.locate path).bind s.files.read with
      | .ok text => (true, { s with input := text })
      | .error e =>
        (false, (s.report line ("cannot open " ++ path ++ ": " ++ openFault false e)).finish 2)
  | kind =>
    match openForWriting s (kind = .append) path with
    | .ok (sink, s) => (true, redirectTo s r.stream sink)
    | .error e =>
      (false, (s.report line ("cannot create " ++ path ++ ": " ++ openFault true e)).finish 2)

/-- Applies redirections from the left, up to one that fails. -/
def redirectAll (line : Nat) (inner : Inner) : List Redirect → Session → Bool × Session
  | [], s => (true, s)
  | r :: rs, s =>
    match redirect line inner r s with
    | (true, t) => redirectAll line inner rs t
    | failed => failed

/-- Runs something with redirections.  Afterwards the streams lead where they led before. -/
def withRedirects (line : Nat) (inner : Inner) (rs : List Redirect) (fails : Session → Session)
    (run : Session → Session) (s : Session) : Session :=
  let (ok, t) := redirectAll line inner rs s
  let after := if ok then run t else fails t
  { after with
    output := s.output
    errors := s.errors
    input := if rs.any fun r => r.kind = .read then s.input else after.input }

/-! ## Commands -/

/-- The fields of some words. -/
def allFields (line : Nat) (inner : Inner) : List Word → Expand (List String)
  | [] => return []
  | w :: ws => do
    let here ← fields line (substitute inner) w
    let more ← allFields line inner ws
    return here ++ more

/-- Makes some assignments. -/
def assignAll (line : Nat) (inner : Inner) : List (List Char × Word) → Session → Session
  | [], s => s
  | (name, w) :: rest, s =>
    let (value, t) := wholeText line (substitute inner) w s
    assignAll line inner rest (t.assign name value)

/-- Ends a strict script when a command has failed and nothing looks at the failure. -/
def checkStrict (s : Session) : Session :=
  if s.isStrict && !s.isTested && s.status ≠ 0 then s.stop s.status else s

/-- Runs something whose failure is looked at. -/
def tested (run : Session → Session) (s : Session) : Session :=
  { run { s with isTested := true } with isTested := s.isTested }

/-- Runs a simple command. -/
def runSimple (inner : Inner) (line : Nat) (assignments : List (List Char × Word))
    (words : List Word) (rs : List Redirect) (s : Session) : Session :=
  let (names, expanded) := allFields line inner words s
  if expanded.hasEnded then expanded
  else
    match names with
    | [] =>
      let plain := if words.isEmpty then expanded.finish 0 else expanded
      checkStrict (withRedirects line inner rs id (assignAll line inner assignments) plain)
    | name :: arguments =>
      let isSpecial := Utility.isSpecial name
      let fails (t : Session) : Session := if isSpecial then t.stop 2 else t
      let run (t : Session) : Session :=
        let after := Utility.run line name arguments (assignAll line inner assignments t)
        if isSpecial || assignments.isEmpty then after else { after with assigned := t.assigned }
      checkStrict (withRedirects line inner rs fails run expanded)

/-- Runs something for each value of a variable. -/
def runLoop (body : Session → Session) (name : List Char) : List String → Session → Session
  | [], s => s
  | v :: vs, s =>
    let after := body (s.assign name v.toList)
    if after.hasEnded then after else runLoop body name vs after

/-- Runs a command. -/
def runCommand (inner : Inner) : Command → Session → Session
  | .skip, s => s.finish 0
  | .simple line assignments words rs, s => runSimple inner line assignments words rs s
  | .redirected line body rs, s => withRedirects line inner rs id (runCommand inner body) s
  | .pipe first second, s =>
    let (text, middle) := s.captured (runCommand inner first)
    let after := middle.enclosed fun t => runCommand inner second { t with input := text }
    checkStrict after
  | .invert body, s =>
    let after := tested (runCommand inner body) s
    if after.hasEnded then after else after.finish (if after.status = 0 then 1 else 0)
  | .both first second, s =>
    let after := tested (runCommand inner first) s
    if after.hasEnded || after.status ≠ 0 then after else runCommand inner second after
  | .either first second, s =>
    let after := tested (runCommand inner first) s
    if after.hasEnded || after.status = 0 then after else runCommand inner second after
  | .sequence first second, s =>
    let after := runCommand inner first s
    if after.hasEnded then after else runCommand inner second after
  | .subshell body, s => checkStrict (s.enclosed (runCommand inner body))
  | .choice condition yes no, s =>
    let after := tested (runCommand inner condition) s
    if after.hasEnded then after
    else if after.status = 0 then runCommand inner yes after
    else runCommand inner no after
  | .loop line name words body, s =>
    let (values, expanded) := allFields line inner words s
    if expanded.hasEnded then expanded
    else runLoop (runCommand inner body) name values (expanded.finish 0)

/-- Runs commands up to one that ends the script. -/
def runCommands (inner : Inner) : List Command → Session → Session
  | [], s => s
  | c :: cs, s =>
    let after := runCommand inner c s
    if after.hasEnded then after else runCommands inner cs after

/-- Runs a script.  `n` bounds the depth of scripts inside of words. -/
def runScript : Nat → List Char → Session → Session
  | 0, _, s => s
  | n + 1, text, s =>
    let script := Script.parse text
    let after := runCommands (runScript n) script.commands s
    match script.fault with
    | some (line, f) => if after.hasEnded then after else (after.report line f.message).stop 2
    | none => after

/-- Runs a command line as a script. -/
def runner : CommandRunner := fun command environment dir files =>
  let assigned := environment.map fun v => (v.1.toList, v.2.toList)
  let s := runScript (command.length + 1) command.toList (.start files dir assigned)
  (⟨s.status, s.written 1, s.written 2⟩, s.files)

end ReleasePlanner.Shell
