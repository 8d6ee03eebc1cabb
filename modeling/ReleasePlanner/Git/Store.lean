import ReleasePlanner.Catalog
import ReleasePlanner.Git.RefName
import ReleasePlanner.Repository.Interface

/-!
# What a repository holds

Commits with the files they record, references by name, what is checked out,
the index and the working tree.  A remote is another store of references that
shares the commits, so only references move between the two.

A reference leads to an object or, as a symbolic reference, to another
reference.  The object is a commit, an annotated tag of a commit, or the
content of a file.
-/

namespace ReleasePlanner

namespace Git

/-- Files with their paths. -/
abbrev Snapshot := Catalog String

/-- A commit. -/
structure Commit where
  /-- Its message. -/
  message : String
  /-- The name of its author. -/
  author : String
  /-- The minute it was made in. -/
  time : Nat
  /-- Its parents. -/
  parents : List CommitId
  /-- The files it records. -/
  files : Snapshot
  deriving DecidableEq, Repr

/-- What a reference can lead to. -/
inductive Object where
  | commit (id : CommitId)
  /-- An annotated tag.  The number tells tags of one commit apart. -/
  | tag (number : Nat) (id : CommitId)
  /-- The content of a file. -/
  | blob
  deriving DecidableEq, Repr

/-- The commit that an object is or is a tag of. -/
def Object.commit? : Object → Option CommitId
  | commit id => some id
  | tag _ id => some id
  | blob => none

/-- What a reference holds. -/
inductive RefValue where
  | object (o : Object)
  | symbolic (name : String)
  deriving DecidableEq, Repr

/-- References by name. -/
abbrev Refs := Catalog RefValue

namespace Refs

/-- How many symbolic references may lead to each other. -/
def maxLinks : Nat := 10

/-- The last reference in a chain of symbolic references, which may be missing. -/
def terminal (refs : Refs) : Nat → String → String
  | 0, name => name
  | n + 1, name =>
    match Catalog.get? refs name with
    | some (.symbolic next) => terminal refs n next
    | _ => name

/-- The reference at the end of the chain that starts at a name, and what it leads to. -/
def resolve? (refs : Refs) (name : String) : Option (String × Object) :=
  let last := refs.terminal maxLinks name
  match Catalog.get? refs last with
  | some (.object o) => some (last, o)
  | _ => none

/-- The commit that a name leads to. -/
def commit? (refs : Refs) (name : String) : Option CommitId :=
  (resolve? refs name).bind fun r => r.2.commit?

/-- The references with one more or a changed one, if its name is allowed beside the others. -/
def place? (refs : Refs) (name : String) (v : RefValue) : Option Refs :=
  if RefName.allows name && !refs.any (fun r => RefName.clashes name r.1) then
    some (Catalog.put name v refs)
  else none

/-- Lets a name lead to a commit, through the symbolic references on the way. -/
def moveTo (refs : Refs) (name : String) (id : CommitId) : Refs :=
  Catalog.put (refs.terminal maxLinks name) (.object (.commit id)) refs

end Refs

/-- What is checked out: a branch, by its full name, or a commit. -/
inductive Head where
  | branch (ref : String)
  | detached (id : CommitId)
  deriving DecidableEq, Repr

/-- Another repository that is known by name. -/
structure Remote where
  /-- The name. -/
  name : String
  /-- Whether there is a repository where it should be. -/
  isReachable : Bool
  deriving DecidableEq, Repr

/-- Stands for the details of a failure, which are not worded by the program. -/
def details : String := "<git>"

end Git

open Git

/-- A repository with files, references and remotes. -/
structure GitRepository where
  /-- The commits, oldest first. -/
  commits : List Git.Commit
  /-- What is checked out. -/
  head : Head
  /-- The references. -/
  refs : Refs
  /-- The files that the next commit will record. -/
  index : Snapshot
  /-- The working tree.  A bare repository has none. -/
  workTree : Option FileTree
  /-- The name of the user, who is the author of new commits. -/
  user : Option String
  /-- The remotes. -/
  remotes : List Remote
  /-- The references of the repository that all remotes lead to. -/
  shared : Refs
  /-- How many annotated tags were made. -/
  tagCount : Nat
  deriving DecidableEq, Repr

namespace GitRepository

/-- A repository without commits, where a branch is checked out that does not exist yet. -/
def empty (branch : String) (workTree : Option FileTree) (user : Option String) :
    GitRepository where
  commits := []
  head := .branch (RefName.branch branch)
  refs := []
  index := []
  workTree := workTree
  user := user
  remotes := []
  shared := []
  tagCount := 0

/-- How a commit is written. -/
def idText (id : CommitId) : String :=
  "c" ++ toString id

/-- The commit with a number. -/
def commit? (r : GitRepository) (id : CommitId) : Option Git.Commit :=
  if id = 0 then none else r.commits[id - 1]?

/-- The parents of a commit. -/
def parents (r : GitRepository) (id : CommitId) : List CommitId :=
  ((r.commit? id).map Git.Commit.parents).getD []

/-- The files that a commit records. -/
def files (r : GitRepository) (id : CommitId) : Snapshot :=
  ((r.commit? id).map Git.Commit.files).getD []

/-- The minute a commit was made in. -/
def time (r : GitRepository) (id : CommitId) : Nat :=
  ((r.commit? id).map Git.Commit.time).getD 0

/-- A commit and all commits reachable from it, newest first. -/
def history (r : GitRepository) (id : CommitId) : List CommitId :=
  ancestors r.parents id

/-- Whether the first commit is the second or reachable from it. -/
def isAncestor (r : GitRepository) (a b : CommitId) : Bool :=
  (r.history b).contains a

/-- The branch that is checked out, by its full name and with symbolic references followed, and
what it leads to. -/
def headRef? (r : GitRepository) : Option (String × Object) :=
  match r.head with
  | .branch ref => Refs.resolve? r.refs ref
  | .detached _ => none

/-- The object that is checked out. -/
def headObject? (r : GitRepository) : Option Object :=
  match r.head with
  | .branch ref => (Refs.resolve? r.refs ref).map Prod.snd
  | .detached id => some (.commit id)

/-- The commit that is checked out. -/
def headCommit? (r : GitRepository) : Option CommitId :=
  r.headObject?.bind Object.commit?

/-- The number of the next commit. -/
def nextId (r : GitRepository) : CommitId :=
  r.commits.length + 1

/-- Adds a commit that no reference leads to. -/
def insert (r : GitRepository) (c : Git.Commit) : GitRepository :=
  { r with commits := r.commits ++ [c] }

/-- Lets what is checked out be a commit: the branch moves, if there is one. -/
def moveHead (r : GitRepository) (id : CommitId) : GitRepository :=
  match r.head with
  | .branch ref => { r with refs := Refs.moveTo r.refs ref id }
  | .detached _ => { r with head := .detached id }

/-- The minute in which the program makes its commits, later than all other minutes. -/
def present : Nat := 1000000000

/-- Adds a commit of the user. -/
def insertOwn (r : GitRepository) (author message : String) (parents : List CommitId)
    (files : Snapshot) : GitRepository :=
  r.insert ⟨message, author, present, parents, files⟩

end GitRepository

end ReleasePlanner
