import ReleasePlanner.FileTree
import ReleasePlanner.Step

/-!
# Repositories

What a release needs of a repository.  A repository is a state of some type
with the operations below.  Commits are numbered in the order in which they
were made, so a parent has a smaller number than its child.

`ancestors` is the one walk over history that everything else rests on.  It
passes the numbers downwards once and collects those that are asked for.
-/

namespace ReleasePlanner

/-- The number of a commit. -/
abbrev CommitId := Nat

/-- What linting needs to know of a commit. -/
structure LoggedCommit where
  /-- Its number. -/
  id : CommitId
  /-- Its message. -/
  message : String
  /-- The name of its author. -/
  author : String
  deriving DecidableEq, Repr

/-- The operations of a repository with states of type `σ`. -/
class Repository (σ : Type) where
  /-- How a commit is written. -/
  idText : σ → CommitId → String
  /-- The branch that is checked out. -/
  currentBranch : Step σ String
  /-- The newest commit of a branch. -/
  branchHead : String → Step σ CommitId
  /-- The commit that a revision names. -/
  resolve : String → Step σ CommitId
  /-- The commits that are reachable from the second commit and not from the first, parents
  before children. -/
  commitsBetween : Option CommitId → CommitId → Step σ (List LoggedCommit)
  /-- The commit of a tag, if there is such a tag. -/
  findTag : String → Step σ (Option CommitId)
  /-- The names of all tags. -/
  tagNames : Step σ (List String)
  /-- Whether the first commit is the second or reachable from it. -/
  isAncestor : CommitId → CommitId → Step σ Bool
  /-- Commits what changed at some paths on the branch that is checked out. -/
  commitPaths : List String → String → Step σ CommitId
  /-- Makes a tag at a commit. -/
  createTag : String → CommitId → Step σ Unit
  /-- Merges the first branch into the second. -/
  mergeBranch : String → String → Step σ CommitId
  /-- Pushes to a remote by refspecs. -/
  push : String → List String → Step σ Unit
  /-- Fetches branches and tags from a remote. -/
  fetch : String → Step σ Unit
  /-- The files of the working tree. -/
  workTree : Step σ FileTree
  /-- Replaces the files of the working tree. -/
  setWorkTree : FileTree → Step σ Unit

/-! ## Reachability -/

/-- Passes the numbers from `n` down to one.  A wanted number is collected, and its parents are
wanted as well. -/
def sweep (parents : CommitId → List CommitId) : Nat → List CommitId → List CommitId
  | 0, _ => []
  | n + 1, wanted =>
    if wanted.contains (n + 1) then (n + 1) :: sweep parents n (parents (n + 1) ++ wanted)
    else sweep parents n wanted

/-- A commit and all commits reachable from it, newest first. -/
def ancestors (parents : CommitId → List CommitId) (id : CommitId) : List CommitId :=
  sweep parents id [id]

example : ancestors (fun id => if id = 4 then [2, 3] else if id = 3 then [1] else []) 4
    = [4, 3, 2, 1] := by decide

/-- The commits of the second list that are not in the first. -/
def withoutAll (hidden ids : List CommitId) : List CommitId :=
  ids.filter fun id => !hidden.contains id

end ReleasePlanner
