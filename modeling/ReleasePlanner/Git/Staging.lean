import ReleasePlanner.Git.Ignore
import ReleasePlanner.Git.Store

/-!
# Staging

Takes what changed in the working tree over into the index, for the paths that
some patterns choose.  Files that are tracked are taken over also when they
are gone, and others only if they are not ignored.
-/

namespace ReleasePlanner.Git.Staging

/-- The index with one more file.  Files that its path leads through, or that lead through it, are
gone. -/
def add (index : Snapshot) (path text : String) : Snapshot :=
  Catalog.put path text (index.filter fun e => !RefName.clashes path e.1)

/-- The index with what became of the tracked files that are chosen. -/
def refresh (chosen : String → Bool) (t : FileTree) (index : Snapshot) : Snapshot :=
  index.filterMap fun (path, text) =>
    if chosen path then
      match t.node? (FileTree.pathNames path) with
      | some (.file now) => some (path, now)
      | _ => none
    else some (path, text)

/-- Whether something tracked lies in a directory. -/
def holdsTracked (index : Snapshot) (dir : Place) : Bool :=
  index.any fun e => FileTree.isBelow dir (FileTree.pathNames e.1)

/-- The files of a tree that are not tracked and may be added. -/
def candidates (t : FileTree) (index : Snapshot) : List (String × String) :=
  (t.files.map fun f => (f, FileTree.pathText f.1)).filterMap fun (f, path) =>
    if (Catalog.get? index path).isSome || Ignore.hides t (holdsTracked index) f.1 then none
    else some (path, f.2)

/-- The index after staging the paths that patterns choose. -/
def stage (patterns : List PathPattern) (t : FileTree) (index : Snapshot) : Snapshot :=
  let chosen := PathPattern.choose patterns
  let added := (candidates t index).filter fun f => chosen f.1
  added.foldl (fun i f => add i f.1 f.2) (refresh chosen t index)

end ReleasePlanner.Git.Staging
