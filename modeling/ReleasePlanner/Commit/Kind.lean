/-!
# Commit types

The closed vocabulary of commit types.  A type is written exactly like its
name; case counts.
-/

namespace ReleasePlanner

/-- What a commit says it does. -/
inductive CommitKind where
  | chore
  | ci
  | doc
  | feat
  | fix
  | noRelease
  | refactor
  | release
  | security
  | test
  | update
  | wip
  deriving DecidableEq, Repr

namespace CommitKind

/-- The vocabulary, in alphabetical order. -/
def all : List CommitKind :=
  [chore, ci, doc, feat, fix, noRelease, refactor, release, security, test, update, wip]

/-- How a type is written. -/
def name : CommitKind → String
  | chore => "chore"
  | ci => "ci"
  | doc => "doc"
  | feat => "feat"
  | fix => "fix"
  | noRelease => "no-release"
  | refactor => "refactor"
  | release => "release"
  | security => "security"
  | test => "test"
  | update => "update"
  | wip => "wip"

/-- The type that is written `s`. -/
def ofName? (s : String) : Option CommitKind :=
  all.find? fun t => t.name == s

/-- The position in the vocabulary. -/
def index (t : CommitKind) : Nat :=
  all.idxOf t

theorem ofName?_name (t : CommitKind) : ofName? t.name = some t := by
  cases t <;> decide

end CommitKind

end ReleasePlanner
