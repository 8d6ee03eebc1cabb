import ReleasePlanner.Catalog
import ReleasePlanner.Repository.Interface
import ReleasePlanner.Text.CodeRange
import ReleasePlanner.Text.Decimal

/-!
# The in-memory repository

A commit graph with branch heads and tags, kept in lists.  It records what is
done to it: pushes, merges, release commits and fetches.  Merges, pushes and
fetches can be made to fail.

Commit `n` is at position `n - 1` of the list of commits, and its parents were
there before it.
-/

namespace ReleasePlanner

/-- A commit. -/
structure MemoryCommit where
  /-- Its message. -/
  message : String
  /-- Its parents. -/
  parents : List CommitId
  deriving DecidableEq, Repr

/-- A repository in memory. -/
structure MemoryRepository where
  /-- The branch that is checked out. -/
  current : Option String
  /-- The commits, oldest first. -/
  commits : List MemoryCommit
  /-- The newest commit of each branch. -/
  heads : List (String × CommitId)
  /-- The commit of each tag, in order of the names. -/
  tags : Catalog CommitId
  /-- The refspecs that were pushed. -/
  pushed : List String
  /-- The branches that were merged, each with the one it was merged into. -/
  merges : List (String × String)
  /-- The paths and messages of the release commits. -/
  committed : List (List String × String)
  /-- How often a fetch was tried. -/
  fetches : Nat
  /-- The working tree, if there is one. -/
  files : Option FileTree
  /-- Whether merges fail. -/
  mergesFail : Bool
  /-- Whether pushes fail. -/
  pushesFail : Bool
  /-- Whether fetches fail. -/
  fetchesFail : Bool
  deriving DecidableEq, Repr

namespace MemoryRepository

/-- A repository without commits. -/
def empty : MemoryRepository where
  current := none
  commits := []
  heads := []
  tags := []
  pushed := []
  merges := []
  committed := []
  fetches := 0
  files := none
  mergesFail := false
  pushesFail := false
  fetchesFail := false

/-! ## Looking at it -/

/-- The author of every commit. -/
def author : String := "Mock Author"

/-- Forty hexadecimal digits. -/
def idText (id : CommitId) : String :=
  String.ofList (Text.padZeros 40 (Nat.toDigits 16 id))

/-- The commit with a number. -/
def commit? (r : MemoryRepository) (id : CommitId) : Option MemoryCommit :=
  if id = 0 then none else r.commits[id - 1]?

/-- The parents of a commit. -/
def parents (r : MemoryRepository) (id : CommitId) : List CommitId :=
  ((r.commit? id).map MemoryCommit.parents).getD []

/-- A commit and all commits reachable from it. -/
def history (r : MemoryRepository) (id : CommitId) : List CommitId :=
  ancestors r.parents id

/-- What linting needs to know of a commit. -/
def info? (r : MemoryRepository) (id : CommitId) : Option LoggedCommit :=
  (r.commit? id).map fun c => ⟨id, c.message, author⟩

/-- The newest commit of a branch. -/
def head? (r : MemoryRepository) (branch : String) : Option CommitId :=
  r.heads.lookup branch

/-- The commit of a tag. -/
def tag? (r : MemoryRepository) (name : String) : Option CommitId :=
  r.tags.lookup name

/-- The number written as hexadecimal digits.  Up to forty are read, and missing ones count as
zeros at the end. -/
def readId? (text : List Char) : Option CommitId :=
  if text.isEmpty || 40 < text.length then none
  else
    (text.mapM Text.hexValue?).map fun digits =>
      (digits ++ List.replicate (40 - digits.length) 0).foldl (fun n d => n * 16 + d) 0

/-- The commit that a revision names: a branch, a tag or a number. -/
def resolve? (r : MemoryRepository) (revision : String) : Option CommitId :=
  (r.head? revision).orElse fun _ => (r.tag? revision).orElse fun _ =>
    (readId? revision.toList).filter fun id => (r.commit? id).isSome

/-- The commits reachable from `upTo` and not from `since?`, oldest first. -/
def between (r : MemoryRepository) (since? : Option CommitId) (upTo : CommitId) :
    List LoggedCommit :=
  let hidden := (since?.map r.history).getD []
  ((withoutAll hidden (r.history upTo)).reverse).filterMap r.info?

/-- Whether the first commit is the second or reachable from it. -/
def isAncestor (r : MemoryRepository) (a b : CommitId) : Bool :=
  (r.history b).contains a

/-! ## Changing it -/

/-- The pairs with a pair put at its key. -/
def assign (key : String) (id : CommitId) : List (String × CommitId) → List (String × CommitId)
  | [] => [(key, id)]
  | e :: es => if e.1 = key then (key, id) :: es else e :: assign key id es

/-- The number of the next commit. -/
def nextId (r : MemoryRepository) : CommitId :=
  r.commits.length + 1

/-- Adds a commit to no branch. -/
def insert (r : MemoryRepository) (message : String) (parents : List CommitId) :
    MemoryRepository :=
  { r with commits := r.commits ++ [⟨message, parents⟩] }

/-- Lets a branch point at a commit. -/
def setHead (r : MemoryRepository) (branch : String) (id : CommitId) : MemoryRepository :=
  { r with heads := assign branch id r.heads }

/-- Adds a commit on top of a branch, which is made if it is missing. -/
def addCommit (r : MemoryRepository) (branch message : String) : MemoryRepository :=
  (r.insert message (r.head? branch).toList).setHead branch r.nextId

/-- Lets a tag point at a commit, whether it was there or not. -/
def addTag (r : MemoryRepository) (name : String) (id : CommitId) : MemoryRepository :=
  { r with tags := Catalog.put name id r.tags }

/-- Checks a branch out. -/
def checkout (r : MemoryRepository) (branch : String) : MemoryRepository :=
  { r with current := some branch }

/-- The newest commit of a branch, or an error. -/
def head (r : MemoryRepository) (branch : String) : Except Error CommitId :=
  match r.head? branch with
  | some id => .ok id
  | none => .error (.branch (.missing branch))

/-- Lets a branch point at the head of another. -/
def createBranch (branch source : String) : Step MemoryRepository CommitId :=
  .make fun r =>
    match r.head source with
    | .ok id => (.ok id, r.setHead branch id)
    | .error e => (.error e, r)

/-- The message of a merge commit. -/
def mergeMessage (source target : String) : String :=
  "Merge branch '" ++ source ++ "' into " ++ target

/-- Joins the histories of two heads on the branch `target`: nothing where the first is part of the
second, the first where the second is part of it, else a new commit. -/
def join (r : MemoryRepository) (source target : String) (a b : CommitId) :
    CommitId × MemoryRepository :=
  if r.isAncestor a b then (b, r)
  else if r.isAncestor b a then (a, r.setHead target a)
  else (r.nextId, (r.insert (mergeMessage source target) [b, a]).setHead target r.nextId)

/-- Merges one branch into another. -/
def mergeBranch (source target : String) : Step MemoryRepository CommitId :=
  .make fun r =>
    if r.mergesFail then (.error (.sync (.conflicts source target)), r)
    else
      match r.head source, r.head target with
      | .error e, _ => (.error e, r)
      | .ok _, .error e => (.error e, r)
      | .ok a, .ok b =>
        let result := { r with merges := r.merges ++ [(source, target)] }.join source target a b
        (.ok result.1, result.2)

/-- Makes a tag, which must not be there. -/
def createTag (name : String) (id : CommitId) : Step MemoryRepository Unit :=
  .make fun r =>
    match r.tag? name with
    | some _ => (.error (.tag (.alreadyExists name)), r)
    | none => (.ok (), r.addTag name id)

/-- Adds a release commit on top of the branch that is checked out. -/
def commitPaths (paths : List String) (message : String) : Step MemoryRepository CommitId :=
  .make fun r =>
    match r.current with
    | none => (.error (.branch .noCurrent), r)
    | some branch =>
      (.ok r.nextId,
        { r.addCommit branch message with committed := r.committed ++ [(paths, message)] })

/-- Records a push. -/
def push (remote : String) (refspecs : List String) : Step MemoryRepository Unit :=
  .make fun r =>
    if r.pushesFail then (.error (.remote (.rejected remote)), r)
    else (.ok (), { r with pushed := r.pushed ++ refspecs })

/-- Records that a fetch was tried. -/
def fetch (remote : String) : Step MemoryRepository Unit :=
  .make fun r =>
    let tried := { r with fetches := r.fetches + 1 }
    if r.fetchesFail then (.error (.remote (.unreachable remote)), tried) else (.ok (), tried)

/-! ## As a repository -/

instance : Repository MemoryRepository where
  idText _ id := idText id
  currentBranch := .read fun r =>
    match r.current with
    | some b => .ok b
    | none => .error (.branch .noCurrent)
  branchHead branch := .read fun r => r.head branch
  resolve revision := .read fun r =>
    match r.resolve? revision with
    | some id => .ok id
    | none => .error (.branch (.unknownRevision revision))
  commitsBetween since? upTo := .read fun r => .ok (r.between since? upTo)
  findTag name := .read fun r => .ok (r.tag? name)
  tagNames := .read fun r => .ok (r.tags.map Prod.fst)
  isAncestor a b := .read fun r => .ok (r.isAncestor a b)
  commitPaths := commitPaths
  createTag := createTag
  mergeBranch := mergeBranch
  push := push
  fetch := fetch
  workTree := .read fun r =>
    match r.files with
    | some t => .ok t
    | none => .error (.branch .noWorkTreeInMemory)
  setWorkTree t := .change fun r => { r with files := some t }

end MemoryRepository

end ReleasePlanner
