import Mathlib.Init
import ReleasePlanner.CommandLine.Program
import ReleasePlanner.CommandLine.Usage
import ReleasePlanner.Repository.InMemory
import ReleasePlanner.Shell.Run

/-!
# The command line

Reads the arguments, the files, the standard input and the local date, runs the
program and prints what it printed.  Repositories are states in memory, and none
is found from here, so the commands that need one say so.
-/

namespace ReleasePlanner.CommandLine

/-- The text of a file, or why it cannot be read. -/
def readText (path : String) : IO (Except FileError String) := do
  try
    return .ok (← IO.FS.readFile path)
  catch
    | .noFileOrDirectory _ _ _ => return .error .missing
    | .permissionDenied _ _ _ => return .error .denied
    | .inappropriateType _ _ _ => return .error .isDirectory
    | _ => return .error .notText

/-- The configuration of the user. -/
def readUserConfig : IO (Except FileError String) := do
  match ← IO.getEnv "XDG_CONFIG_HOME", ← IO.getEnv "HOME" with
  | some dir, _ => readText (dir ++ "/.releasegate.toml")
  | none, some home => readText (home ++ "/.config/.releasegate.toml")
  | none, none => return .error .missing

/-- Everything on the standard input. -/
partial def readInput (stream : IO.FS.Stream) : IO String := do
  let line ← stream.getLine
  if line.isEmpty then return ""
  return line ++ (← readInput stream)

/-- The offset of the local time from universal time.  Where no rules for it are found it is
universal time. -/
def readOffset (now : Std.Time.Timestamp) : IO Std.Time.TimeZone.Offset := do
  try
    let rules ← Std.Time.Database.defaultGetLocalZoneRules
    return (rules.findLocalTimeTypeForTimestamp now).getTimeZone.offset
  catch _ => return .zero

/-- The day by the local time. -/
def readToday : IO Date := do
  let now ← Std.Time.Timestamp.now
  let offset ← readOffset now
  let day := (Std.Time.PlainDateTime.ofWallTime (.ofTimestamp now offset)).date
  return ⟨day.year.toInt, day.month.toNat, day.day.toNat⟩

/-- Gathers what a run sees. -/
def gather (i : Invocation) : IO Surroundings := do
  let texts ← (Program.paths i).mapM fun path => return (path, ← readText path)
  let userConfig ← readUserConfig
  let input ← if Program.readsInput i.command then readInput (← IO.getStdin) else pure ""
  return {
    read := fun path => (texts.lookup path).getD (.error .missing)
    userConfig := userConfig
    input := input
    today := ← readToday
    runner := Shell.runner
    palette := if ← (← IO.getStdout).isTty then .coloured else .plain
    isAttended := false }

/-- A world without a repository. -/
def noRepository : World MemoryRepository where
  repository := .error (.git "could not find a repository")
  printed := ""
  complained := ""

end ReleasePlanner.CommandLine

open ReleasePlanner.CommandLine in
/-- Runs the program with the arguments of the process. -/
def main (arguments : List String) : IO UInt32 := do
  match Invocation.parse arguments with
  | .error e =>
    if e.isRequest then IO.print e.message else IO.eprint e.message
    return e.code.toUInt32
  | .ok i =>
    let (code, w) := Program.finish (← gather i) i noRepository
    IO.eprint w.complained
    IO.print w.printed
    return code.toUInt32
