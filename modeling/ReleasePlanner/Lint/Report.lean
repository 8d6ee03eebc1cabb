import ReleasePlanner.Lint.Linter

/-!
# Lint reports

The verdicts on a batch of commit messages, in the order of the messages.  A
rejected message never keeps the others from being looked at.
-/

namespace ReleasePlanner

/-- A commit message with what linting says about it. -/
structure Judgement where
  /-- Where the message comes from: a short commit id or a file. -/
  label : String
  /-- The message. -/
  message : String
  /-- Its parts. -/
  parsed : ParsedCommit
  /-- What linting says. -/
  verdict : Verdict
  deriving DecidableEq, Repr

/-- The verdicts on a batch of messages. -/
structure LintReport where
  /-- The messages with their verdicts. -/
  commits : List Judgement
  deriving DecidableEq, Repr

namespace LintReport

/-- The messages that were rejected. -/
def rejected (r : LintReport) : List Judgement :=
  r.commits.filter fun c => !c.verdict.accepted

/-- Whether every message was accepted. -/
def passed (r : LintReport) : Bool :=
  r.commits.all fun c => c.verdict.accepted

/-- The parts of the accepted messages. -/
def accepted (r : LintReport) : List ParsedCommit :=
  (r.commits.filter fun c => c.verdict.accepted).map Judgement.parsed

end LintReport

namespace Linter

/-- Reads and judges one message. -/
def lintOne (c : Linter) (label message : String) : Judgement :=
  let parsed := Message.parse message
  ⟨label, message, parsed, c.judge parsed⟩

/-- Reads and judges messages with their labels. -/
def lint (c : Linter) (messages : List (String × String)) : LintReport :=
  ⟨messages.map fun m => c.lintOne m.1 m.2⟩

end Linter

/-- Lints one message as an editor leaves it, without its comment lines. -/
def lintEdited (c : Config) (label message : String) : Except Error LintReport := do
  let linter ← Linter.ofPolicy c.lint
  return linter.lint [(label, Message.stripComments message)]

end ReleasePlanner
