import ReleasePlanner.Git.Refspec
import ReleasePlanner.Git.Revision

/-!
# Pushing and fetching

A push moves references of the remote.  Every refspec is checked before
anything moves: what is pushed must exist, and a reference that is there must
be moved forward unless that is forced.  A fetch takes over all branches, as
what is known of the remote, and all tags.
-/

namespace ReleasePlanner.GitRepository

open Git

/-- The remote with a name. -/
def remote? (r : GitRepository) (name : String) : Option Remote :=
  r.remotes.find? fun m => m.name == name

/-- Does something with a remote that is known.  What fails when nothing is where it should be is
given. -/
def withRemote (name : String) (unreachable : RemoteError)
    (act : GitRepository → Except Error Unit × GitRepository) : Step GitRepository Unit :=
  .make fun r =>
    match r.remote? name with
    | none => (.error (.remote (.unknown details)), r)
    | some m => if m.isReachable then act r else (.error (.remote unreachable), r)

/-! ## Pushing -/

/-- Whether a reference of the remote may move to an object: it is new, it stays, or its commit
comes before that of the object. -/
def mayMove (r : GitRepository) (name : String) (o : Object) : Bool :=
  match Catalog.get? r.shared name with
  | none => true
  | some (.object old) =>
    match old, o with
    | .commit a, .commit b => r.isAncestor a b
    | .commit a, .tag _ b => r.isAncestor a b
    | _, _ => old == o
  | some (.symbolic _) => true

/-- Whether an object is new to a reference of the remote and can be pushed there. -/
def canPush (r : GitRepository) (spec : Refspec) (o : Object) : Bool :=
  Catalog.get? r.shared spec.target == some (.object o)
    || (o.commit?.isSome && (spec.isForced || r.mayMove spec.target o))

/-- A change of a reference: what it shall hold, or that it shall go. -/
abbrev RefChange := String × Option Object

/-- The change that a refspec asks for, if it can be made. -/
def change? (r : GitRepository) (text : String) : Option RefChange := do
  let spec ← Refspec.parse? text
  match spec.source with
  | none => some (spec.target, none)
  | some revision =>
    let o ← objectOf? r revision
    if r.canPush spec o then some (spec.target, some o) else none

/-- The references after a change, unless the name of a new one is not allowed. -/
def applyChange? (refs : Refs) : RefChange → Option Refs
  | (name, none) => some (Catalog.erase refs name)
  | (name, some o) => Refs.place? refs name (.object o)

/-- The change of what is known of a remote that goes with a change there. -/
def trackingChange? (remote : String) (c : RefChange) : Option RefChange :=
  (RefName.branchOf? c.1).map fun b => (RefName.tracking remote b, c.2)

/-- Moves references of the remote, and what is known of them. -/
def pushTo (remote : String) (refspecs : List String) (r : GitRepository) :
    Except Error Unit × GitRepository :=
  let moved := do
    let changes ← refspecs.mapM r.change?
    let shared ← changes.foldlM applyChange? r.shared
    let refs ← (changes.filterMap (trackingChange? remote)).foldlM applyChange? r.refs
    return { r with shared := shared, refs := refs }
  match moved with
  | some after => (.ok (), after)
  | none => (.error (.remote (.pushFailed details)), r)

/-- Pushes to a remote by refspecs. -/
def push (remote : String) (refspecs : List String) : Step GitRepository Unit :=
  withRemote remote (.network details) (pushTo remote refspecs)

/-! ## Fetching -/

/-- Where a reference of a remote is taken over to, if it is. -/
def fetchedName? (remote name : String) : Option String :=
  match RefName.branchOf? name with
  | some b => some (RefName.tracking remote b)
  | none => (RefName.tagOf? name).map fun _ => name

/-- Takes over one reference of a remote. -/
def fetchOne? (remote : String) (refs : Refs) (e : String × RefValue) : Option Refs :=
  match fetchedName? remote e.1 with
  | none => some refs
  | some name => Refs.place? refs name e.2

/-- Takes over the references of a remote. -/
def fetchFrom (remote : String) (r : GitRepository) : Except Error Unit × GitRepository :=
  match r.shared.foldlM (fetchOne? remote) r.refs with
  | some refs => (.ok (), { r with refs := refs })
  | none => (.error (.remote (.fetchFailed details)), r)

/-- Fetches branches and tags from a remote. -/
def fetch (remote : String) : Step GitRepository Unit :=
  withRemote remote (.fetchFailed details) (fetchFrom remote)

end ReleasePlanner.GitRepository
