import ReleasePlanner.Shell.Word

/-!
# Shell commands

The commands of a script as a plain inductive type, so that running them is a
structural recursion.  There is no loop without a bound: a loop passes the
fields of its words.
-/

namespace ReleasePlanner.Shell

/-- What a redirection does with its target. -/
inductive RedirectKind where
  | read
  | write
  | append
  | copy
  deriving DecidableEq, Repr

/-- A redirection of a stream, by number. -/
structure Redirect where
  /-- The stream. -/
  stream : Nat
  /-- What is done. -/
  kind : RedirectKind
  /-- The file, or the number of the other stream. -/
  target : Word
  deriving DecidableEq, Repr

/-- A command. -/
inductive Command where
  /-- Nothing. -/
  | skip
  /-- Assignments and words, with redirections. -/
  | simple (line : Nat) (assignments : List (List Char × Word)) (words : List Word)
      (redirects : List Redirect)
  /-- A command with redirections. -/
  | redirected (line : Nat) (body : Command) (redirects : List Redirect)
  /-- The output of the first command is the input of the second. -/
  | pipe (first second : Command)
  /-- Succeeds when the command fails. -/
  | invert (body : Command)
  /-- The second command is run when the first succeeds. -/
  | both (first second : Command)
  /-- The second command is run when the first fails. -/
  | either (first second : Command)
  /-- One command after another. -/
  | sequence (first second : Command)
  /-- A command that only its files and output outlive. -/
  | subshell (body : Command)
  /-- A command that is chosen by another. -/
  | choice (condition yes no : Command)
  /-- A command that is run for each field of some words. -/
  | loop (line : Nat) (name : List Char) (words : List Word) (body : Command)
  deriving DecidableEq, Repr

/-- A script: what is run, and what then cannot be read. -/
structure Script where
  /-- The commands, one for each line that could be read. -/
  commands : List Command
  /-- The fault that ends the script early, with its line. -/
  fault : Option (Nat × Fault)
  deriving DecidableEq, Repr

end ReleasePlanner.Shell
