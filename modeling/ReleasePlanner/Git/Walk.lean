import ReleasePlanner.Git.Store

/-!
# Walking through history

The commits that one commit reaches and another does not, children before
parents.  Of the commits whose children all came before, the newest comes next,
and of those of one minute the one that could come first.
-/

namespace ReleasePlanner.Git.Walk

/-- Puts a commit into a queue, behind all that are not older. -/
def enqueue (time : CommitId → Nat) (id : CommitId) : List CommitId → List CommitId
  | [] => [id]
  | q :: qs => if time q < time id then id :: q :: qs else q :: enqueue time id qs

/-- Whether all children of a commit that are listed were taken. -/
def isReady (parents : CommitId → List CommitId) (listed taken : List CommitId) (id : CommitId) :
    Bool :=
  listed.all fun c => !(parents c).contains id || taken.contains c

/-- Takes commits from a queue, and puts a parent into it when its last child was taken. -/
def drain (parents : CommitId → List CommitId) (time : CommitId → Nat) (listed : List CommitId) :
    Nat → List CommitId → List CommitId → List CommitId
  | 0, _, _ => []
  | _ + 1, [], _ => []
  | n + 1, id :: queue, taken =>
    let ready := (parents id).filter fun p =>
      listed.contains p && isReady parents listed (id :: taken) p
    id :: drain parents time listed n (ready.foldl (fun q p => enqueue time p q) queue)
      (id :: taken)

/-- Commits that all are reachable from the first of them, children before parents. -/
def order (parents : CommitId → List CommitId) (time : CommitId → Nat) (listed : List CommitId) :
    List CommitId :=
  drain parents time listed listed.length (listed.take 1) []

/-- Six commits: two lines of history that were merged twice.  The merges are the newest. -/
example :
    let parents := fun id =>
      if id = 2 then [1] else if id = 3 then [1] else if id = 4 then [2, 3]
      else if id = 5 then [3] else if id = 6 then [4, 5] else []
    let time := fun id => if id = 4 || id = 6 then 100 else id
    order parents time [6, 5, 4, 3, 2, 1] = [6, 4, 5, 3, 2, 1] := by decide

end ReleasePlanner.Git.Walk

namespace ReleasePlanner.GitRepository

/-- What linting needs to know of a commit.  Line ends in front of a message do not count. -/
def info? (r : GitRepository) (id : CommitId) : Option LoggedCommit :=
  (r.commit? id).map fun c =>
    ⟨id, String.ofList (c.message.toList.dropWhile fun x => x == '\n'), c.author⟩

/-- The commits reachable from `upTo` and not from `since?`, parents before children. -/
def between (r : GitRepository) (since? : Option CommitId) (upTo : CommitId) : List LoggedCommit :=
  let hidden := (since?.map r.history).getD []
  let listed := withoutAll hidden (r.history upTo)
  ((Git.Walk.order r.parents r.time listed).reverse).filterMap r.info?

end ReleasePlanner.GitRepository
