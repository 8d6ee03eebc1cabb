import ReleasePlanner.Git.Store
import ReleasePlanner.Text.ThreeWay

/-!
# Merging snapshots

Two snapshots that come from one are merged file by file, and files that both
sides changed line by line.  A file that one side changed and the other removed
is a conflict, and so is a path that leads through a file.
-/

namespace ReleasePlanner.Git

/-- Whether a text is not made of lines. -/
def isBinary (text : String) : Bool :=
  text.toList.contains '\x00'

/-- Merges the contents of a file that both sides have. -/
def mergeContents? (base ours theirs : String) : Option String :=
  if isBinary base || isBinary ours || isBinary theirs then none
  else Text.ThreeWay.mergeTexts? base ours theirs

/-- What becomes of a file, which may be missing in each snapshot.  Nothing is a conflict. -/
def mergeFile? (base ours theirs : Option String) : Option (Option String) :=
  if ours = theirs then some ours
  else if ours = base then some theirs
  else if theirs = base then some ours
  else
    match ours, theirs with
    | some a, some b => (mergeContents? (base.getD "") a b).map some
    | _, _ => none

/-- Merges the files with some names. -/
def mergeNamed? (base ours theirs : Snapshot) : List String → Option Snapshot
  | [] => some []
  | name :: names => do
    let rest ← mergeNamed? base ours theirs names
    match ← mergeFile? (Catalog.get? base name) (Catalog.get? ours name)
        (Catalog.get? theirs name) with
    | some text => return Catalog.put name text rest
    | none => return rest

/-- Whether no path leads through a file. -/
def isPlain (s : Snapshot) : Bool :=
  s.all fun e => !s.any fun f => RefName.clashes e.1 f.1

/-- Merges two snapshots that come from one, unless they are in conflict. -/
def mergeSnapshots? (base ours theirs : Snapshot) : Option Snapshot :=
  (mergeNamed? base ours theirs
    ((Catalog.names ours ++ Catalog.names theirs).eraseDups)).filter isPlain

example : mergeSnapshots? [("a", "1")] [("a", "2")] [("a", "1"), ("b", "3")]
    = some [("a", "2"), ("b", "3")] := by decide +kernel

/-- The newest commit that two commits have in common. -/
def mergeBase? (r : GitRepository) (a b : CommitId) : Option CommitId :=
  (r.history a).find? fun id => (r.history b).contains id

/-- The merged files of two commits, unless they are in conflict. -/
def mergeCommits? (r : GitRepository) (ours theirs : CommitId) : Option Snapshot :=
  mergeSnapshots? (((mergeBase? r ours theirs).map r.files).getD []) (r.files ours)
    (r.files theirs)

end ReleasePlanner.Git
