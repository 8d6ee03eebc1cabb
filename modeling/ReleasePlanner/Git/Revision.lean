import ReleasePlanner.Git.Store
import ReleasePlanner.Regex.Parser
import ReleasePlanner.Text.Decimal

/-!
# Revisions

Texts that name objects of a repository.  A revision is a name and moves from
there: `^2` goes to the second parent, `~3` three commits back along first
parents, and `^{commit}` to the commit of an annotated tag.

A name is looked for as it is, then as a reference, a tag, a branch, a branch
of a remote and the main branch of a remote.  `HEAD`, also written `@`, is what
is checked out.  `:/text` is the newest commit with a matching message.

Directories are no objects here, so a revision that leads to one leads
nowhere.  Neither does one that asks for former values of a reference, except
`@{0}`, the value it has.
-/

namespace ReleasePlanner.Git

/-- A move from one object to another. -/
inductive Move where
  /-- To a parent, counted from one.  Zero is the commit itself. -/
  | parent (n : Nat)
  /-- Back along first parents. -/
  | back (n : Nat)
  /-- To the object of a kind that an annotated tag leads to. -/
  | peel (kind : String)
  deriving DecidableEq, Repr

/-- Where a revision starts. -/
inductive Origin where
  | named (name : String)
  /-- The newest commit whose message matches a pattern. -/
  | search (pattern : String)
  deriving DecidableEq, Repr

/-- A revision. -/
structure Revision where
  /-- Where it starts. -/
  origin : Origin
  /-- The moves from there. -/
  moves : List Move
  deriving DecidableEq, Repr

namespace Revision

/-! ## Reading -/

/-- The number at the start of a text and what is left, with a value for no digits. -/
def readNumber (missing : Nat) (cs : List Char) : Nat × List Char :=
  let digits := cs.takeWhile Char.isDigit
  (if digits.isEmpty then missing else Text.digitsValue 0 digits, cs.drop digits.length)

/-- Reads what stands in braces after the opening one. -/
def readBraces? (cs : List Char) : Option (String × List Char) :=
  (Text.splitAtFirst? '\x7d' cs).map fun (inside, rest) => (String.ofList inside, rest)

/-- Reads moves.  Tildes in a row add up. -/
def readMoves? : Nat → List Char → Option (List Move)
  | 0, _ => none
  | _ + 1, [] => some []
  | n + 1, '^' :: '\x7b' :: cs => do
    let (kind, rest) ← readBraces? cs
    return .peel kind :: (← readMoves? n rest)
  | n + 1, '^' :: cs =>
    let (count, rest) := readNumber 1 cs
    (readMoves? n rest).map (.parent count :: ·)
  | n + 1, '~' :: cs =>
    let (count, rest) := readNumber 1 cs
    (readMoves? n rest).map (.back count :: ·)
  | _ + 1, _ :: _ => none

/-- The part of a text that is a name: all up to the first move or braces after an at sign. -/
def nameOf : List Char → List Char
  | '@' :: '\x7b' :: _ => []
  | c :: cs => if ['^', '~', ':'].contains c then [] else c :: nameOf cs
  | [] => []

/-- What is left after a current value is asked for. -/
def dropCurrent : List Char → List Char
  | '@' :: '\x7b' :: '0' :: '\x7d' :: cs => cs
  | cs => cs

/-- Reads a revision. -/
def parse? (text : String) : Option Revision :=
  match text.toList with
  | ':' :: '/' :: pattern => some ⟨.search (String.ofList pattern), []⟩
  | ['@'] => some ⟨.named "HEAD", []⟩
  | cs =>
    let name := nameOf cs
    let rest := cs.drop name.length
    let moves := dropCurrent rest
    if name.isEmpty && moves.length = rest.length then none
    else
      let name := if name.isEmpty then "HEAD" else String.ofList name
      (readMoves? (moves.length + 1) moves).map (⟨.named name, ·⟩)

example : parse? "v1^2~3~" = some ⟨.named "v1", [.parent 2, .back 3, .back 1]⟩ := by
  decide +kernel

/-! ## Looking up -/

/-- The full names that a name may stand for, in the order in which they are tried. -/
def candidates (name : String) : List String :=
  [name, "refs/" ++ name, RefName.tag name, RefName.branch name, "refs/remotes/" ++ name,
    "refs/remotes/" ++ name ++ "/HEAD"]

/-- The object that a name stands for. -/
def named? (r : GitRepository) (name : String) : Option Object :=
  if name = "HEAD" then r.headObject?
  else (candidates name).findSome? fun n => (Refs.resolve? r.refs n).map Prod.snd

/-- Whether a commit comes before another in a search: it is newer. -/
def isNewer (r : GitRepository) (a b : CommitId) : Bool :=
  r.time b < r.time a || (r.time b = r.time a && b ≤ a)

/-- The newest of some commits with a message that matches a pattern. -/
def search? (r : GitRepository) (pattern : String) (ids : List CommitId) : Option Object := do
  let p ← Pattern.ofText? pattern
  let matching := ids.filter fun id =>
    ((r.commit? id).map fun c => p.isMatch c.message).getD false
  let newest ← (matching.mergeSort (isNewer r)).head?
  return .commit newest

/-- All commits that references lead to or reach. -/
def referenced (r : GitRepository) : List CommitId :=
  ((r.refs.filterMap fun e => Refs.commit? r.refs e.1).flatMap r.history).eraseDups

/-- The commit some steps back along first parents. -/
def back? (r : GitRepository) : Nat → CommitId → Option CommitId
  | 0, id => some id
  | n + 1, id => (r.parents id).head?.bind (back? r n)

/-- Follows a move. -/
def follow? (r : GitRepository) (o : Object) : Move → Option Object
  | .parent n => do
    let id ← o.commit?
    if n = 0 then some (.commit id) else ((r.parents id)[n - 1]?).map .commit
  | .back n => do
    let id ← o.commit?
    (back? r n id).map .commit
  | .peel kind =>
    match kind.toList, o with
    | '/' :: pattern, _ => do
      let id ← o.commit?
      search? r (String.ofList pattern) (r.history id)
    | _, .tag n id => if kind = "tag" then some (.tag n id)
      else if kind = "" || kind = "commit" then some (.commit id) else none
    | _, .commit id => if kind = "" || kind = "commit" then some (.commit id) else none
    | _, .blob => if kind = "" || kind = "blob" then some .blob else none

/-- The object that a revision leads to. -/
def object? (r : GitRepository) (v : Revision) : Option Object := do
  let start ← match v.origin with
    | .named name => named? r name
    | .search pattern => search? r pattern (referenced r)
  v.moves.foldlM (follow? r) start

end Revision

/-- The object that a text names. -/
def objectOf? (r : GitRepository) (text : String) : Option Object :=
  (Revision.parse? text).bind (Revision.object? r)

/-- The commit that a text names, also by an annotated tag of it. -/
def commitOf? (r : GitRepository) (text : String) : Option CommitId :=
  (objectOf? r text).bind Object.commit?

end ReleasePlanner.Git
