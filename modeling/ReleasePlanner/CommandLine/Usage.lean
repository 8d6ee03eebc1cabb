import ReleasePlanner.CommandLine.Options

/-!
# Usage

The texts that answer a request for help and arguments that cannot be
followed, with their exit codes.
-/

namespace ReleasePlanner.CommandLine

/-- How the program is called. -/
def usage : String := "\n".intercalate
  ["Lint commit messages and cut releases from conventional commits",
   "",
   "Usage: release-gate [OPTIONS] <COMMAND>",
   "",
   "Commands:",
   "  lint     Check commit messages against the commit policy",
   "           [--edit FILE | --from REVISION --to REVISION]",
   "  plan     Show what the next release would be, without changing anything",
   "           [-b, --branch BRANCH]",
   "  release  Cut a release from the current branch",
   "           [-b, --branch BRANCH] [--dry-run] [--no-push] [-y, --yes]",
   "  config   Print the effective configuration",
   "  help     Print this message",
   "",
   "Options:",
   "  -c, --config FILE  Custom configuration file path",
   "  -h, --help         Print help",
   "  -V, --version      Print version",
   ""]

namespace UsageError

/-- Whether something was asked for that is answered, so that nothing is wrong. -/
def isRequest : UsageError → Bool
  | helpAsked | versionAsked => true
  | _ => false

/-- The exit code. -/
def code (e : UsageError) : Nat :=
  if e.isRequest then 0 else 2

/-- The answer to arguments that do not lead to a run. -/
def message : UsageError → String
  | helpAsked => usage
  | nothingGiven => usage
  | versionAsked => "release-gate 0.1.0\n"
  | commandMissing => complaint "a command is required"
  | commandUnknown => complaint "unrecognized command"
  | argumentUnknown => complaint "unexpected argument"
  | valueMissing => complaint "a value is required"
  | valueUnwanted => complaint "unexpected value"
  | conflict => complaint "arguments cannot be used together"
where
  /-- A complaint and a hint. -/
  complaint (text : String) : String :=
    "error: " ++ text ++ "\n\nFor more information, try '--help'.\n"

end UsageError

end ReleasePlanner.CommandLine
