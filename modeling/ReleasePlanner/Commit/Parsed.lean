import ReleasePlanner.Commit.Kind
import ReleasePlanner.Text.Blank
import ReleasePlanner.Text.Lines
import ReleasePlanner.Text.Placeholder

/-!
# Parsed commits

A commit message in parts: type, scope, subject, body and footer, and what the
layout of the message was.  The type is kept as it was written, so that case
and vocabulary can be judged later.
-/

namespace ReleasePlanner

/-- The parts of a commit message. -/
structure ParsedCommit where
  /-- The type as written, empty when the header has none. -/
  type : String
  /-- The scope as written. -/
  scope : Option String
  /-- The subject, or the whole header when it has no type. -/
  subject : String
  /-- The text between header and footer. -/
  body : Option String
  /-- The last paragraph, when it is made of trailers. -/
  footer : Option String
  /-- Announces a breaking change. -/
  breaking : Bool
  /-- Blank lines in front of the body. -/
  bodyBlanks : Nat
  /-- Blank lines in front of the footer. -/
  footerBlanks : Nat
  /-- The first line as written; absent when the parts were not read from a message. -/
  rawHeader : Option String
  deriving DecidableEq, Repr

/-- The two spellings of the token that announces a breaking change. -/
def breakingTokens : List (List Char) :=
  ["BREAKING CHANGE:".toList, "BREAKING-CHANGE:".toList]

/-- What follows the token of a breaking change at the start of a line. -/
def afterBreakingToken? (line : List Char) : Option (List Char) :=
  breakingTokens.findSome? fun token => Text.dropWord? token line

/-- The first note of a breaking change in a footer. -/
def footerNote? (footer : String) : Option String :=
  ((Text.lines footer.toList).findSome? afterBreakingToken?).map fun note =>
    String.ofList (Text.trim note)

namespace ParsedCommit

/-- A commit with a type and a subject only. -/
def simple (type subject : String) : ParsedCommit :=
  ⟨type, none, subject, none, none, false, 1, 1, none⟩

/-- The kind of a commit, if its type is in the vocabulary. -/
def kind? (r : ParsedCommit) : Option CommitKind :=
  CommitKind.ofName? r.type

/-- The scope of a commit.  Empty parentheses mean no scope. -/
def scope? (r : ParsedCommit) : Option String :=
  r.scope.filter fun s => s != ""

/-- The header as written, or put together from the parts. -/
def header (r : ParsedCommit) : String :=
  match r.rawHeader with
  | some raw => raw
  | none =>
    if r.type = "" then r.subject
    else
      match r.scope? with
      | some scope => r.type ++ "(" ++ scope ++ "): " ++ r.subject
      | none => r.type ++ ": " ++ r.subject

/-- What a breaking commit says about its change: the note in the footer, else the subject. -/
def breakingNote? (r : ParsedCommit) : Option String :=
  if r.breaking then some ((r.footer.bind footerNote?).getD r.subject) else none

end ParsedCommit

end ReleasePlanner
