import ReleasePlanner.CommandLine.Invocation
import ReleasePlanner.Config.Document
import ReleasePlanner.Display
import ReleasePlanner.Prompt
import ReleasePlanner.Workflow.Run

/-!
# The program

What each command reads, does and prints.  The surroundings of a run are a
value: the texts of files, the standard input and the date.  The repository is
a state of any type with the operations of repositories, and it may be
missing.
-/

namespace ReleasePlanner.CommandLine

/-- What a run sees around it. -/
structure Surroundings where
  /-- The text of the file at a path. -/
  read : String → Except FileError String
  /-- The configuration of the user. -/
  userConfig : Except FileError String
  /-- The standard input. -/
  input : String
  /-- The date. -/
  today : Date
  /-- How hooks are run. -/
  runner : CommandRunner
  /-- How output is styled. -/
  palette : Text.Palette
  /-- Whether someone can answer questions. -/
  isAttended : Bool

/-- Why a run fails. -/
inductive Failure where
  | plain (e : Error)
  /-- An error of something that was tried. -/
  | within (attempt : String) (e : Error)
  /-- A file that was to be linted cannot be read. -/
  | unreadable (path : String) (e : FileError)
  deriving DecidableEq, Repr

namespace Failure

/-- The words for a failure. -/
def message : Failure → String
  | plain e => e.message
  | within attempt _ => attempt
  | unreadable path _ => "Cannot read " ++ path

/-- The words for what caused a failure, if there are any. -/
def cause? : Failure → Option String
  | plain _ => none
  | within _ e => some e.message
  | unreadable _ e => some e.message

end Failure

/-- What a run changes. -/
structure World (σ : Type) where
  /-- The repository, or why there is none. -/
  repository : Except Error σ
  /-- What was printed. -/
  printed : String
  /-- What was printed as errors and warnings. -/
  complained : String

/-- A run, or a part of one. -/
abbrev Run (σ : Type) (α : Type) := ExceptT Failure (StateM (World σ)) α

namespace Program

variable {σ : Type}

/-- The exit code of a run that found nothing wrong. -/
def accepted : Nat := 0

/-- The exit code of a run that rejected a commit. -/
def rejected : Nat := 1

/-- The exit code of a run that failed. -/
def failed : Nat := 2

/-- The path of the configuration of a project. -/
def projectConfig : String := "./releasegate.toml"

/-! ## Parts of runs -/

/-- Prints a line. -/
def printLine (text : String) : Run σ Unit :=
  modify fun w => { w with printed := w.printed ++ text ++ "\n" }

/-- Prints a warning. -/
def warn (p : Text.Palette) (warning : Warning) : Run σ Unit :=
  modify fun w => { w with complained := w.complained ++ Display.warning p warning }

/-- A result that may be an error. -/
def ofExcept {α : Type} : Except Error α → Run σ α
  | .ok a => return a
  | .error e => throw (.plain e)

/-- Takes a step in the repository. -/
def inRepository {α : Type} (s : Step σ α) : Run σ α := do
  match (← get).repository with
  | .error e => throw (.within "Not inside a git repository" e)
  | .ok r =>
    let (result, after) := s.apply r
    modify fun w => { w with repository := .ok after }
    ofExcept result

/-- The text of the configuration: the file that was asked for, else that of the project, else
that of the user.  There may be none. -/
def configText? (s : Surroundings) : Option String → Except FileError (Option String)
  | some path => (s.read path).map some
  | none =>
    match s.read projectConfig with
    | .ok text => .ok (some text)
    | .error .missing =>
      match s.userConfig with
      | .ok text => .ok (some text)
      | .error .missing => .ok none
      | .error e => .error e
    | .error e => .error e

/-- The configuration, which is valid. -/
def effectiveConfig (s : Surroundings) (path : Option String) : Except Error Config :=
  match configText? s path with
  | .error e => .error (.io e.message)
  | .ok none => .ok Config.standard
  | .ok (some text) => Config.load text

/-- The exit code that a report leads to. -/
def reportCode (r : LintReport) : Nat :=
  if r.passed then accepted else rejected

/-! ## What a command reads -/

/-- The files that a run may read besides the configuration of the user. -/
def paths (i : Invocation) : List String :=
  let configs := [i.config.getD projectConfig]
  match i.command with
  | .lint (some path) _ _ => configs ++ [path]
  | _ => configs

/-- Whether a run reads the standard input. -/
def readsInput : Command → Bool
  | .lint none none none => true
  | _ => false

/-! ## Commands -/

variable [Repository σ]

/-- Lints and prints the report. -/
def lint (s : Surroundings) (c : Config) (edit since upTo : Option String) : Run σ Nat := do
  let report ← match edit with
    | some path =>
      match s.read path with
      | .ok text => ofExcept (lintEdited c path text)
      | .error e => throw (.unreadable path e)
    | none =>
      if since.isSome || upTo.isSome then inRepository (lintRevisions c since (upTo.getD "HEAD"))
      else ofExcept (lintEdited c "stdin" s.input)
  printLine (Display.lintReport s.palette report)
  return reportCode report

/-- The message on a branch with nothing to release. -/
def nothingPlanned (branch : String) (lastTag : Option String) : String :=
  "No release: commits on '" ++ branch ++ "' since " ++ lastTag.getD "the beginning"
    ++ " do not warrant one"

/-- Prints the plan of the next release. -/
def plan (s : Surroundings) (c : Config) (branch : Option String) : Run σ Nat := do
  let branch ← match branch with
    | some b => inRepository (pure b)
    | none => inRepository Repository.currentBranch
  let prepared ← inRepository (Prepared.ofBranch c branch s.today)
  if !prepared.report.passed then
    printLine (Display.lintReport s.palette prepared.report)
    if c.release.blockOnRejected then return rejected
  match prepared.plan with
  | some x => printLine (Display.plan s.palette x)
  | none => printLine (Display.status s.palette (nothingPlanned branch prepared.lastTag))
  return accepted

/-- Shows what would be released and asks whether to go on. -/
def confirm (s : Surroundings) (c : Config) (branch : Option String) : Run σ Bool := do
  let preview ← inRepository (runRequest s.runner c ⟨branch, true, false⟩ s.today)
  match preview.prepared.plan with
  | none => return true
  | some x =>
    printLine (Display.plan s.palette x)
    let question := Prompt.question ("Publish " ++ x.tag ++ "?")
    modify fun w => { w with printed := w.printed ++ question }
    if Prompt.confirmedBy s.input then return true
    printLine "Operation cancelled by user."
    return false

/-- Prints what became of a release. -/
def printRun (s : Surroundings) (run : RunResult) : Run σ Unit :=
  match run.outcome, run.prepared.plan with
  | some o, _ => printLine (Display.outcome s.palette o)
  | none, some x => do
    printLine (Display.status s.palette "Dry run, nothing was changed:")
    printLine (Display.plan s.palette x)
  | none, none => printLine (Display.status s.palette "Nothing to release.")

/-- Releases and prints what was done. -/
def release (s : Surroundings) (c : Config) (branch : Option String)
    (rehearsal offline confirmed : Bool) : Run σ Nat := do
  inRepository (pure ())
  if !rehearsal && !confirmed && s.isAttended then
    if !(← confirm s c branch) then return accepted
  let run ← inRepository (runRequest s.runner c ⟨branch, rehearsal, !offline⟩ s.today)
  run.warnings.forM (warn s.palette)
  if run.rejected then
    printLine (Display.lintReport s.palette run.prepared.report)
    if c.release.blockOnRejected then return rejected
  printRun s run
  return accepted

/-- Runs a command. -/
def runCommand (s : Surroundings) (c : Config) : Command → Run σ Nat
  | .lint edit since upTo => lint s c edit since upTo
  | .plan branch => plan s c branch
  | .release branch rehearsal offline confirmed => release s c branch rehearsal offline confirmed
  | .config => do
    modify fun w => { w with printed := w.printed ++ c.render }
    return accepted

/-- Runs the program. -/
def run (s : Surroundings) (i : Invocation) : Run σ Nat := do
  match effectiveConfig s i.config with
  | .error e => throw (.within "Error loading config" e)
  | .ok c => runCommand s c i.command

/-- The exit code, and what was printed, of a run from outside. -/
def finish (s : Surroundings) (i : Invocation) (w : World σ) : Nat × World σ :=
  match (run s i).run w with
  | (.ok code, after) => (code, after)
  | (.error f, after) =>
    let cause := (f.cause?.map fun c => "  Caused by: " ++ c ++ "\n").getD ""
    (failed, { after with
      complained := after.complained ++ Display.error s.palette f.message ++ "\n" ++ cause })

end Program

end ReleasePlanner.CommandLine
