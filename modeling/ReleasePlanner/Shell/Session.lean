import ReleasePlanner.FileTree
import ReleasePlanner.Text.Decimal

/-!
# Sessions of a shell

What a running script sees and changes.  Output is kept as a log of texts,
each with the number of the stream it was written to.  Stream 1 is the
standard output and stream 2 the standard error output of the whole script.
Streams with higher numbers are made for pipes and for output that is read
back.
-/

namespace ReleasePlanner.Shell

/-- Where a stream of a command leads. -/
inductive Sink where
  | stream (n : Nat)
  | file (place : Place)
  | nowhere
  deriving DecidableEq, Repr

/-- The state of a running script. -/
structure Session where
  /-- The files. -/
  files : FileTree
  /-- The directory the script is in. -/
  dir : Place
  /-- The variables. -/
  assigned : List (List Char × List Char)
  /-- The exit code of the last command. -/
  status : Nat
  /-- What can still be read from the standard input. -/
  input : String
  /-- Where the standard output leads. -/
  output : Sink
  /-- Where the standard error output leads. -/
  errors : Sink
  /-- What was written, newest first. -/
  log : List (Nat × String)
  /-- The number of the next stream. -/
  next : Nat
  /-- Whether the script has ended. -/
  hasEnded : Bool
  /-- Whether a failing command ends the script. -/
  isStrict : Bool
  /-- Whether a failure is looked at by another command. -/
  isTested : Bool
  deriving Repr

namespace Session

/-- A session at its start. -/
def start (files : FileTree) (dir : Place) (assigned : List (List Char × List Char)) : Session where
  files := files
  dir := dir
  assigned := assigned
  status := 0
  input := ""
  output := .stream 1
  errors := .stream 2
  log := []
  next := 3
  hasEnded := false
  isStrict := false
  isTested := false

/-- What was written to a stream. -/
def written (s : Session) (n : Nat) : String :=
  String.join ((s.log.filter fun e => e.1 == n).reverse.map Prod.snd)

/-- Writes text to a sink.  Files are appended to, for they are made empty when they are opened. -/
def send (s : Session) (sink : Sink) (text : String) : Session :=
  match sink with
  | .stream n => if text = "" then s else { s with log := (n, text) :: s.log }
  | .nowhere => s
  | .file place =>
    match s.files.read place with
    | .ok old => { s with files := s.files.put place (.file (old ++ text)) }
    | .error _ => s

/-- Writes to the standard output. -/
def print (s : Session) (text : String) : Session :=
  s.send s.output text

/-- Writes a line to the standard error output. -/
def complain (s : Session) (text : String) : Session :=
  s.send s.errors (text ++ "\n")

/-- Writes a complaint of the shell itself. -/
def report (s : Session) (line : Nat) (text : String) : Session :=
  s.complain ("sh: " ++ Text.decimalString line ++ ": " ++ text)

/-- Sets the exit code. -/
def finish (s : Session) (status : Nat) : Session :=
  { s with status := status }

/-- Ends the script. -/
def stop (s : Session) (status : Nat) : Session :=
  { s with status := status, hasEnded := true }

/-- The value of a variable. -/
def value? (s : Session) (name : List Char) : Option (List Char) :=
  if name = ['?'] then some (Text.decimal s.status)
  else if name = ['#'] then some ['0']
  else if name = ['0'] then some ['s', 'h']
  else s.assigned.lookup name

/-- Sets a variable. -/
def assign (s : Session) (name value : List Char) : Session :=
  { s with assigned := (name, value) :: s.assigned.filter fun v => v.1 ≠ name }

/-- The place of a path. -/
def locate (s : Session) (path : String) : Except FileError Place :=
  s.files.locate s.dir path

/-- Runs something of which only the files, the output and the exit code stay. -/
def enclosed (s : Session) (run : Session → Session) : Session :=
  let after := run s
  { s with files := after.files, log := after.log, next := after.next, status := after.status }

/-- Runs something and takes what it writes to the standard output. -/
def captured (s : Session) (run : Session → Session) : String × Session :=
  let after := s.enclosed fun t => run { t with output := .stream s.next, next := s.next + 1 }
  (after.written s.next, { after with log := after.log.filter fun e => e.1 ≠ s.next })

end Session

end ReleasePlanner.Shell
