import ReleasePlanner.CommandLine.Options

/-!
# Invocations

The commands of the program with their options.  The option for the
configuration stands before or after the command, and the one after it wins.
-/

namespace ReleasePlanner.CommandLine

/-- What the program is asked to do. -/
inductive Command where
  /-- Lint a message in a file, the commits of a range, or the message on the standard input. -/
  | lint (edit since upTo : Option String)
  /-- Show the plan of a release. -/
  | plan (branch : Option String)
  /-- Release. -/
  | release (branch : Option String) (rehearsal offline confirmed : Bool)
  /-- Show the configuration. -/
  | config
  deriving DecidableEq, Repr

/-- A command with the configuration that was asked for. -/
structure Invocation where
  /-- The path of the configuration. -/
  config : Option String
  /-- The command. -/
  command : Command
  deriving DecidableEq, Repr

namespace Invocation

/-- The option for help. -/
def helpOption : OptionSpec := ⟨"help", some 'h', .help⟩

/-- The option for the configuration. -/
def configOption : OptionSpec := ⟨"config", some 'c', .value true⟩

/-- The option for a branch. -/
def branchOption : OptionSpec := ⟨"branch", some 'b', .value true⟩

/-- The options before a command. -/
def commonOptions : List OptionSpec :=
  [configOption, helpOption, ⟨"version", some 'V', .version⟩]

/-- The options of a command. -/
def optionsOf : String → List OptionSpec
  | "lint" =>
    [⟨"edit", none, .value false⟩, ⟨"from", none, .value true⟩, ⟨"to", none, .value true⟩]
  | "plan" => [branchOption]
  | "release" =>
    [branchOption, ⟨"dry-run", none, .flag⟩, ⟨"no-push", none, .flag⟩, ⟨"yes", some 'y', .flag⟩]
  | _ => []

/-- The names of the commands. -/
def commandNames : List String :=
  ["lint", "plan", "release", "config", "help"]

/-- The command of a name with the options that were found. -/
def commandOf (name : String) (s : Scan) : Except UsageError Command :=
  match name with
  | "lint" =>
    if s.has "edit" && (s.has "from" || s.has "to") then .error .conflict
    else .ok (.lint (s.value? "edit") (s.value? "from") (s.value? "to"))
  | "plan" => .ok (.plan (s.value? "branch"))
  | "release" =>
    .ok (.release (s.value? "branch") (s.has "dry-run") (s.has "no-push") (s.has "yes"))
  | _ => .ok .config

/-- The error that shows help, on the program or on a command. -/
def helpOn : List String → UsageError
  | [] => .helpAsked
  | [name] => if commandNames.contains name then .helpAsked else .commandUnknown
  | _ => .commandUnknown

/-- Reads a command after its name. -/
def parseCommand (outer : Scan) (name : String) (arguments : List String) :
    Except UsageError Invocation := do
  let specs := optionsOf name ++ [configOption, helpOption]
  let (inner, _) ← scan specs [] arguments .start
  let inner ← inner.settle
  let command ← commandOf name inner
  let outer ← outer.settle
  return ⟨(inner.value? "config").or (outer.value? "config"), command⟩

/-- Reads the arguments of the program. -/
def parse (arguments : List String) : Except UsageError Invocation := do
  match ← scan commonOptions commandNames arguments .start with
  | (_, some ("help", rest)) => throw (helpOn rest)
  | (s, some (name, rest)) => parseCommand s name rest
  | (s, none) =>
    let s ← s.settle
    throw (if s.found.isEmpty then .nothingGiven else .commandMissing)

example : parse ["-cx", "lint", "--to", "y"] = .ok ⟨some "x", .lint none none (some "y")⟩ := by
  rfl

end Invocation

end ReleasePlanner.CommandLine
