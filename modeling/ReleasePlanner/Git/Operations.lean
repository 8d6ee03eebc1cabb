import ReleasePlanner.Git.Merge
import ReleasePlanner.Git.Remote
import ReleasePlanner.Git.Staging
import ReleasePlanner.Git.Walk

/-!
# The repository with files

The operations that releases need, on a repository with files, references and
remotes.  Commits, tags and merges that the program makes are those of its
user, and without a user none is made.
-/

namespace ReleasePlanner.GitRepository

open Git

/-! ## Looking at it -/

/-- The branch that is checked out. -/
def currentBranch (r : GitRepository) : Except Error String :=
  match r.head with
  | .detached _ => .error (.branch .detached)
  | .branch _ =>
    match r.headRef? with
    | none => .error (.branch (.unreadableHead details))
    | some (ref, _) =>
      match RefName.branchOf? ref with
      | some b => .ok b
      | none => .error (.branch .detached)

/-- The newest commit of a branch.  A branch that is another name of a branch has none of its
own. -/
def branchHead (r : GitRepository) (branch : String) : Except Error CommitId :=
  match Catalog.get? r.refs (RefName.branch branch) with
  | some (.object (.commit id)) => .ok id
  | some (.symbolic _) => .error (.branch (.noTarget branch))
  | _ => .error (.branch (.notFound branch details))

/-- The commit that a revision names. -/
def resolve (r : GitRepository) (revision : String) : Except Error CommitId :=
  match commitOf? r revision with
  | some id => .ok id
  | none => .error (.branch (.unresolved revision details))

/-- The commit of a tag, if there is such a tag. -/
def findTag (r : GitRepository) (name : String) : Except Error (Option CommitId) :=
  if !RefName.allows (RefName.tag name) then .error (.tag (.unreadable name details))
  else
    match Catalog.get? r.refs (RefName.tag name) with
    | none => .ok none
    | some _ =>
      match Refs.commit? r.refs (RefName.tag name) with
      | some id => .ok (some id)
      | none => .error (.tag (.notCommit details))

/-- The names of all tags. -/
def tagNames (r : GitRepository) : List String :=
  r.refs.filterMap fun e => RefName.tagOf? e.1

/-! ## Tags and commits -/

/-- The tag at a commit, if it can be made. -/
def withTag? (r : GitRepository) (name : String) (id : CommitId) : Option GitRepository :=
  let ref := RefName.tag name
  if name.toList.head? = some '-' || (Catalog.get? r.refs ref).isSome then none
  else (Refs.place? r.refs ref (.object (.commit id))).map fun refs => { r with refs := refs }

/-- Makes a tag, which must not be there. -/
def createTag (name : String) (id : CommitId) : Step GitRepository Unit :=
  .make fun r =>
    if (r.commit? id).isNone then (.error (.tag (.noObject details)), r)
    else
      match r.withTag? name id with
      | some after => (.ok (), after)
      | none => (.error (.tag (.notCreated details)), r)

/-- Commits the index on top of a commit that is checked out, unless nothing would change. -/
def commitIndex (message : String) (parent : CommitId) (r : GitRepository) :
    Except Error CommitId × GitRepository :=
  if r.files parent = r.index then (.ok parent, r)
  else
    match r.user with
    | none => (.error (.git details), r)
    | some author =>
      (.ok r.nextId, (r.insertOwn author message [parent] r.index).moveHead r.nextId)

/-- Stages what changed at some paths and commits it.  What was staged stays so, also when there is
nothing to commit it on or nobody to commit it. -/
def commitPaths (paths : List String) (message : String) : Step GitRepository CommitId :=
  .make fun r =>
    match r.workTree with
    | none => (.error (.git details), r)
    | some t =>
      let staged := { r with index := Staging.stage (PathPattern.ofTexts paths) t r.index }
      match r.headCommit? with
      | none => (.error (.git details), staged)
      | some parent => staged.commitIndex message parent

/-! ## Merging -/

/-- The message of a merge commit. -/
def mergeMessage (source target : String) : String :=
  "Merge branch '" ++ source ++ "' into " ++ target

/-- Joins two histories that went apart, on the branch `target`. -/
def joinApart (source target : String) (a b : CommitId) (r : GitRepository) :
    Except Error CommitId × GitRepository :=
  match mergeCommits? r b a with
  | none => (.error (.sync (.conflicts source target)), r)
  | some files =>
    match r.user with
    | none => (.error (.git details), r)
    | some author =>
      let merged := r.insertOwn author (mergeMessage source target) [b, a] files
      (.ok r.nextId, { merged with refs := Refs.moveTo r.refs (RefName.branch target) r.nextId })

/-- Joins the histories of two heads on the branch `target`: nothing where the first is part of the
second, the first where the second is part of it, else a new commit. -/
def join (source target : String) (a b : CommitId) (r : GitRepository) :
    Except Error CommitId × GitRepository :=
  if r.isAncestor a b then (.ok b, r)
  else if r.isAncestor b a then
    (.ok a, { r with refs := Refs.moveTo r.refs (RefName.branch target) a })
  else r.joinApart source target a b

/-- Whether a branch is checked out. -/
def isCheckedOut (r : GitRepository) (branch : String) : Bool :=
  (r.headRef?.map Prod.fst) == some (RefName.branch branch)

/-- Merges one branch into another, which must not be checked out. -/
def mergeBranch (source target : String) : Step GitRepository CommitId :=
  .make fun r =>
    if r.isCheckedOut target then (.error (.sync (.checkedOut target)), r)
    else
      match r.branchHead source, r.branchHead target with
      | .error e, _ => (.error e, r)
      | .ok _, .error e => (.error e, r)
      | .ok a, .ok b => r.join source target a b

/-! ## Finding it -/

/-- Looks for the repository from a place in its working tree.  It is found from every place that
is there. -/
def openAt (place : Place) : Step GitRepository Unit :=
  .read fun r =>
    match (r.workTree.getD .empty).node? place with
    | some _ => .ok ()
    | none => .error (.git details)

/-! ## As a repository -/

instance : Repository GitRepository where
  idText _ id := idText id
  currentBranch := .read currentBranch
  branchHead branch := .read fun r => r.branchHead branch
  resolve revision := .read fun r => r.resolve revision
  commitsBetween since? upTo := .read fun r => .ok (r.between since? upTo)
  findTag name := .read fun r => r.findTag name
  tagNames := .read fun r => .ok r.tagNames
  isAncestor a b := .read fun r => .ok (r.isAncestor a b)
  commitPaths := commitPaths
  createTag := createTag
  mergeBranch := mergeBranch
  push := push
  fetch := fetch
  workTree := .read fun r =>
    match r.workTree with
    | some t => .ok t
    | none => .error (.branch .noWorkTree)
  setWorkTree t := .change fun r => { r with workTree := some t }

end ReleasePlanner.GitRepository
