import ReleasePlanner.Lint.Report
import ReleasePlanner.Release.Plan
import ReleasePlanner.Repository.Interface
import ReleasePlanner.Warning

/-!
# Preparing a release

What is known about a branch before anything is changed.  Only the tags that
are reachable from the branch count as its releases.  The commits since the
last release are linted.  The accepted ones decide on the release, and the
rejected ones are only reported, unless the policy lets them stop it.
-/

namespace ReleasePlanner

open Repository

variable {σ : Type} [Repository σ]

/-- Everything known about a branch before anything is changed. -/
structure Prepared where
  /-- The branch. -/
  branch : String
  /-- Its track. -/
  track : Track
  /-- Its newest commit. -/
  head : CommitId
  /-- Its latest releases. -/
  history : History
  /-- The tag of the release after which commits count. -/
  lastTag : Option String
  /-- The verdicts on these commits. -/
  report : LintReport
  /-- What the accepted ones add up to. -/
  decision : Decision
  /-- The plan of the release, if there is to be one. -/
  plan : Option Plan
  deriving DecidableEq, Repr

/-- Messages of commits with short commit ids as labels. -/
def labelled (s : σ) (commits : List LoggedCommit) : List (String × String) :=
  commits.map fun c => (shortId (idText s c.id), c.message)

/-- Lints the commits that are reachable from `upTo` and not from `since?`. -/
def lintBetween (linter : Linter) (since? : Option CommitId) (upTo : CommitId) :
    Step σ LintReport := do
  let commits ← commitsBetween since? upTo
  return linter.lint (labelled (← get) commits)

/-- Resolves a revision, if there is one. -/
def resolveOptional : Option String → Step σ (Option CommitId)
  | none => return none
  | some revision => return some (← resolve revision)

/-- Lints the commits that are reachable from the revision `upTo` and not from `since?`. -/
def lintRevisions (c : Config) (since? : Option String) (upTo : String) : Step σ LintReport := do
  let linter ← Step.ofExcept (Linter.ofPolicy c.lint)
  let first ← resolveOptional since?
  let last ← resolve upTo
  lintBetween linter first last

/-- Whether a tag lies on the way to a commit. -/
def tagReaches (head : CommitId) (tag : String) : Step σ Bool := do
  match ← findTag tag with
  | some id => isAncestor id head
  | none => return false

/-- The tags that follow a pattern and are reachable from a commit. -/
def reachableTags (pattern : TagPattern) (head : CommitId) : List String → Step σ (List String)
  | [] => return []
  | tag :: tags => do
    let kept ← if pattern.accepts tag then tagReaches head tag else pure false
    let more ← reachableTags pattern head tags
    return if kept then tag :: more else more

/-- The commit of a tag, if there is a tag to look for and it is there. -/
def findOptional : Option String → Step σ (Option CommitId)
  | none => return none
  | some tag => findTag tag

/-- The plan of a release, unless rejected commits stop it. -/
def planUnlessBlocked (p : ReleasePolicy) (branch : String) (report : LintReport) (d : Decision)
    (h : History) (date : Date) : Except Error (Option Plan) :=
  if p.blockOnRejected && !report.passed then .ok none else p.plan branch d h date

/-- Prepares the release of a branch. -/
def Prepared.ofBranch (c : Config) (branch : String) (date : Date) : Step σ Prepared := do
  let pattern ← Step.ofExcept (c.release.tagPattern.mapError .tag)
  let track ← Step.ofExcept (c.release.branches.trackOf branch)
  let head ← branchHead branch
  let tags ← reachableTags pattern head (← tagNames)
  let history := History.ofTags pattern c.release.branches.prereleaseId tags
  let lastTag := (history.last? track).map pattern.format
  let since? ← findOptional lastTag
  let commits ← commitsBetween since? head
  let linter ← Step.ofExcept (Linter.ofPolicy c.lint)
  let report := linter.lint (labelled (← get) commits)
  let decision := Decision.ofCommits c.release report.accepted
  let plan ← Step.ofExcept (planUnlessBlocked c.release branch report decision history date)
  return ⟨branch, track, head, history, lastTag, report, decision, plan⟩

end ReleasePlanner
