import ReleasePlanner.Workflow.Prepare
import ReleasePlanner.Workflow.Publish

/-!
# Release runs

A whole run: the branch must be a release branch, and to release it, it must
be checked out.  News is fetched when the release is to be pushed, and a
failure to do so is only a warning.  Then the release is prepared and, unless
it is only a rehearsal or there is nothing to release, published.
-/

namespace ReleasePlanner

open Repository

variable {σ : Type} [Repository σ]

/-- What a run is asked to do. -/
structure RunRequest where
  /-- The branch to release, the one that is checked out when absent. -/
  branch : Option String
  /-- Plan only and change nothing. -/
  rehearsal : Bool
  /-- Fetch before planning, and push the release. -/
  pushes : Bool
  deriving DecidableEq, Repr

/-- What a run did. -/
structure RunResult where
  /-- What was known before. -/
  prepared : Prepared
  /-- What became of the plan, if it was published. -/
  outcome : Option Outcome
  /-- What the user is told. -/
  warnings : List Warning
  deriving DecidableEq, Repr

/-- Whether a commit was rejected. -/
def RunResult.rejected (r : RunResult) : Bool :=
  !r.prepared.report.passed

/-- The branch of a request. -/
def requestedBranch (request : RunRequest) : Step σ String :=
  match request.branch with
  | some branch => return branch
  | none => currentBranch

/-- Fetches news, and warns when that fails. -/
def fetchNews (remote : String) : Step σ (List Warning) := do
  match ← (fetch remote).attempt with
  | .ok _ => return []
  | .error e => return [.fetchFailed remote e.message]

/-- Checks that a branch is checked out. -/
def requireCurrent (branch : String) : Step σ Unit := do
  let current ← currentBranch
  if current = branch then return
  throw (.branch (.notCheckedOut branch current))

/-- What the user is told about what is known. -/
def preparedWarnings (head : String) (p : Prepared) : List Warning :=
  (if p.report.commits.isEmpty then [.noNewCommits p.lastTag head] else [])
    ++ (if p.report.passed then [] else [.rejectedCommits p.report.rejected.length])

/-- What the user is told about what became of the plan. -/
def outcomeWarnings (o : Outcome) : List Warning :=
  match o.sync, o.plan.sync with
  | .failed reason, some m => [.syncFailed m.source m.target reason]
  | _, _ => []

/-- Publishes a plan after the hook that may stop it. -/
def publishPlan (runner : CommandRunner) (c : Config) (pushes : Bool) (plan : Plan) :
    Step σ Outcome := do
  runHook runner c .verifyConditions plan
  execute (collaborator runner c pushes) plan

/-- Runs a release. -/
def runRequest (runner : CommandRunner) (c : Config) (request : RunRequest) (date : Date) :
    Step σ RunResult := do
  let branch ← requestedBranch request
  let _ ← Step.ofExcept (c.release.tagPattern.mapError .tag)
  let _ ← Step.ofExcept (c.release.branches.trackOf branch)
  let news ← if request.pushes then fetchNews c.release.remote else pure []
  if !request.rehearsal then requireCurrent branch
  let prepared ← Prepared.ofBranch c branch date
  let warnings := news ++ preparedWarnings (idText (← get) prepared.head) prepared
  match prepared.plan, request.rehearsal with
  | some plan, false =>
    let outcome ← publishPlan runner c request.pushes plan
    return ⟨prepared, some outcome, warnings ++ outcomeWarnings outcome⟩
  | _, _ => return ⟨prepared, none, warnings⟩

end ReleasePlanner
