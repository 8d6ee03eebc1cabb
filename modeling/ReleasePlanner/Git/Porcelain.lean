import ReleasePlanner.Git.Revision
import ReleasePlanner.Git.Staging

/-!
# Working in a repository

What people do in a repository between releases: they commit files, make
branches and tags, check them out, and work in the remote.  The commits are
theirs and are older than those of the program, one minute apart.
-/

namespace ReleasePlanner

namespace FileTree

/-- The tree with a file at a place, and without files on the way there or a directory in its
place. -/
def force (t : FileTree) (place : Place) (text : String) : FileTree :=
  let isOnTheWay (n : Place × Node) : Bool := n.2 != .directory && isBelow n.1 place
  put (erase ⟨t.nodes.filter fun n => !isOnTheWay n⟩ place) place (.file text)

end FileTree

namespace GitRepository

open Git

/-- The next minute in which someone commits. -/
def nextMinute (r : GitRepository) : Nat :=
  r.commits.length

/-- Does something to the working tree, if there is one. -/
def editTree (r : GitRepository) (f : FileTree → FileTree) : GitRepository :=
  { r with workTree := r.workTree.map f }

/-- The path of a file, without slashes too many. -/
def cleanPath (path : String) : String :=
  FileTree.pathText (FileTree.pathNames path)

/-! ## Files -/

/-- Writes a file into the working tree. -/
def writeFile (path text : String) (r : GitRepository) : GitRepository :=
  r.editTree fun t => t.force (FileTree.pathNames path) text

/-- Deletes a file from the working tree. -/
def deleteFile (path : String) (r : GitRepository) : GitRepository :=
  r.editTree fun t => (t.removeFile (FileTree.pathNames path)).toOption.getD t

/-! ## Commits -/

/-- Files with one more or a changed one, if there is anything to change. -/
def withFile (files : Snapshot) : Option (String × String) → Snapshot
  | none => files
  | some (path, text) => Staging.add files (cleanPath path) text

/-- What someone commits: a message, and maybe a file with its text. -/
structure Contribution where
  /-- The name of who commits. -/
  author : String
  /-- The message. -/
  message : String
  /-- The path and the text of the file. -/
  file : Option (String × String)
  deriving DecidableEq, Repr

/-- Adds a commit of someone on top of another, if there is one. -/
def insertOther (r : GitRepository) (parent? : Option CommitId) (c : Contribution) :
    GitRepository :=
  r.insert ⟨c.message, c.author, r.nextMinute, parent?.toList,
    withFile ((parent?.map r.files).getD []) c.file⟩

/-- Commits to what is checked out.  The file is written into the working tree and staged. -/
def commitHere (c : Contribution) (r : GitRepository) : GitRepository :=
  let committed := (r.insertOther r.headCommit? c).moveHead r.nextId
  match c.file, r.workTree with
  | some (path, text), some _ =>
    { committed.writeFile path text with index := Staging.add r.index (cleanPath path) text }
  | _, _ => committed

/-- Commits to another branch, which is made if it is missing. -/
def commitElsewhere (branch : String) (c : Contribution) (r : GitRepository) : GitRepository :=
  let ref := RefName.branch branch
  let committed := r.insertOther (Refs.commit? r.refs ref) c
  { committed with refs := Refs.moveTo r.refs ref r.nextId }

/-- Commits to a branch, or to what is checked out. -/
def commitTo (branch? : Option String) (c : Contribution) (r : GitRepository) : GitRepository :=
  match branch? with
  | none => r.commitHere c
  | some b =>
    if r.head = .branch (RefName.branch b) then r.commitHere c else r.commitElsewhere b c

/-! ## References -/

/-- Lets a reference hold something. -/
def setRef (name : String) (v : RefValue) (r : GitRepository) : GitRepository :=
  { r with refs := Catalog.put name v r.refs }

/-- Lets a branch be at a commit. -/
def setBranch (branch : String) (id : CommitId) (r : GitRepository) : GitRepository :=
  r.setRef (RefName.branch branch) (.object (.commit id))

/-- Lets a branch be another name of a branch. -/
def aliasBranch (branch target : String) (r : GitRepository) : GitRepository :=
  r.setRef (RefName.branch branch) (.symbolic (RefName.branch target))

/-- Makes an annotated tag of a commit. -/
def annotate (name : String) (id : CommitId) (r : GitRepository) : GitRepository :=
  { r.setRef (RefName.tag name) (.object (.tag r.tagCount id)) with tagCount := r.tagCount + 1 }

/-- Makes a tag of the content of a file. -/
def tagContent (name : String) (r : GitRepository) : GitRepository :=
  r.setRef (RefName.tag name) (.object .blob)

/-! ## Checking out -/

/-- A working tree with the files of a snapshot, and without other files that were tracked. -/
def checkoutTree (tracked : List String) (files : Snapshot) (t : FileTree) : FileTree :=
  let gone := tracked.filter fun path => (Catalog.get? files path).isNone
  let kept := gone.foldl (fun t path => t.erase (FileTree.pathNames path)) t
  files.foldl (fun t f => t.force (FileTree.pathNames f.1) f.2) kept

/-- Checks a branch out, whatever was changed. -/
def checkout (branch : String) (r : GitRepository) : GitRepository :=
  let ref := RefName.branch branch
  let files := ((Refs.commit? r.refs ref).map r.files).getD []
  let tracked := Catalog.names r.index ++ Catalog.names ((r.headCommit?.map r.files).getD [])
  { r.editTree (checkoutTree tracked files) with head := .branch ref, index := files }

/-- Checks a commit out without a branch.  The files stay as they are. -/
def detach (id : CommitId) (r : GitRepository) : GitRepository :=
  { r with head := .detached id }

/-! ## Remotes -/

/-- Makes a remote known. -/
def addRemote (name : String) (isReachable : Bool) (r : GitRepository) : GitRepository :=
  { r with remotes := r.remotes.filter (fun m => m.name != name) ++ [⟨name, isReachable⟩] }

/-- Commits to a branch of the remote, which is made if it is missing. -/
def commitRemotely (branch : String) (c : Contribution) (r : GitRepository) : GitRepository :=
  let ref := RefName.branch branch
  let committed := r.insertOther (Refs.commit? r.shared ref) c
  { committed with shared := Refs.moveTo r.shared ref r.nextId }

/-- Makes a tag of a branch of the remote. -/
def tagRemotely (name branch : String) (r : GitRepository) : GitRepository :=
  match Refs.commit? r.shared (RefName.branch branch) with
  | some id =>
    { r with shared := Catalog.put (RefName.tag name) (.object (.commit id)) r.shared }
  | none => r

end GitRepository

end ReleasePlanner
