import ReleasePlanner.FileTree
import ReleasePlanner.Release.Plan
import ReleasePlanner.Step
import ReleasePlanner.Text.Blank

/-!
# Running hooks

A hook is a command of the user that is run at a point of a release.  The
command sees the release in its environment, and the word for the version in
it is filled in.  Any exit code but zero is a failure.

How commands are run is a parameter, a `CommandRunner`.
-/

namespace ReleasePlanner

/-- What a command leaves besides its files. -/
structure CommandResult where
  /-- The exit code. -/
  code : Nat
  /-- What was written to the standard output. -/
  stdout : String
  /-- What was written to the standard error output. -/
  stderr : String
  deriving DecidableEq, Repr

/-- Variables with their values. -/
abbrev Environment := List (String × String)

/-- Runs a command in a directory of a tree. -/
abbrev CommandRunner :=
  (command : String) → Environment → (dir : Place) → FileTree → CommandResult × FileTree

/-- What a command gets to know of a release. -/
structure HookInput where
  /-- The point of the release. -/
  point : HookPoint
  /-- The branch. -/
  branch : String
  /-- The version. -/
  version : String
  /-- The tag. -/
  tag : String
  /-- The channel; the default channel has no name. -/
  channel : Option String
  /-- The remote. -/
  remote : String
  /-- The level. -/
  level : String
  deriving DecidableEq, Repr

namespace HookInput

/-- What a command gets to know of a plan. -/
def ofPlan (point : HookPoint) (plan : Plan) (remote : String) : HookInput where
  point := point
  branch := plan.branch
  version := plan.version.text
  tag := plan.tag
  channel := plan.channel
  remote := remote
  level := plan.level.name

/-- The variables of a context. -/
def environment (c : HookInput) : Environment :=
  [("RELEASE_GATE_HOOK", c.point.name),
   ("RELEASE_GATE_BRANCH", c.branch),
   ("RELEASE_GATE_VERSION", c.version),
   ("RELEASE_GATE_TAG", c.tag),
   ("RELEASE_GATE_REMOTE", c.remote),
   ("RELEASE_GATE_LEVEL", c.level)]
    ++ (c.channel.map fun channel => ("RELEASE_GATE_CHANNEL", channel)).toList

/-- The command with the version filled in. -/
def fillCommand (c : HookInput) (command : List Char) : List Char :=
  Text.fill Text.versionWord c.version.toList command

/-- Whether texts can be handed to a command: none holds the character that ends texts there. -/
def canStart (c : HookInput) (command : List Char) : Bool :=
  !command.contains '\x00'
    && c.environment.all fun v => !v.2.toList.contains '\x00'

end HookInput

namespace Hook

/-- The error of a command that failed, if it did. -/
def judge (point : HookPoint) (r : CommandResult) : Except Error Unit :=
  if r.code = 0 then .ok ()
  else
    .error (.hook (.failed point r.code (Text.trimmedEnd r.stdout) (Text.trimmedEnd r.stderr)))

/-- Runs a command in a directory. -/
def run (runner : CommandRunner) (dir : Place) (c : HookInput) (command : String) :
    Step FileTree Unit :=
  .make fun tree =>
    let trimmed := Text.trim command.toList
    if trimmed.isEmpty then (.error (.hook (.noCommand c.point)), tree)
    else
      let filled := c.fillCommand trimmed
      if c.canStart filled && tree.isDirectory dir then
        let (result, after) := runner (String.ofList filled) c.environment dir tree
        (judge c.point result, after)
      else (.error (.hook (.notStarted c.point)), tree)

/-- Runs a command, if there is one. -/
def runIfSet (runner : CommandRunner) (dir : Place) (c : HookInput) :
    Option String → Step FileTree Unit
  | some command => run runner dir c command
  | none => return

end Hook

end ReleasePlanner
