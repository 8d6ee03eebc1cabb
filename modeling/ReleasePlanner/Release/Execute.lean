import ReleasePlanner.Release.Plan
import ReleasePlanner.Step

/-!
# Executing plans

A plan is published, and then the branches are brought together if the plan
asks for it.  A failure to publish is a failure of the whole.  A failure to
bring the branches together is only reported, since the release stands.
-/

namespace ReleasePlanner

/-- What became of the merge that follows a release. -/
inductive MergeStatus where
  | notRequired
  | completed
  | failed (reason : String)
  deriving DecidableEq, Repr

/-- What became of a plan. -/
structure Outcome where
  /-- The plan. -/
  plan : Plan
  /-- What became of its merge. -/
  sync : MergeStatus
  deriving DecidableEq, Repr

/-- Whether no merge is left to do by hand. -/
def Outcome.fullySynced (o : Outcome) : Bool :=
  match o.sync with
  | .failed _ => false
  | _ => true

/-- The effects of a release. -/
structure Collaborator (σ : Type) where
  /-- Commits, tags and publishes. -/
  publish : Plan → Step σ Unit
  /-- Merges one branch into another. -/
  mergeBack : Backmerge → Step σ Unit

/-- Does the merge that a plan asks for. -/
def mergeAfter {σ : Type} (c : Collaborator σ) : Option Backmerge → Step σ MergeStatus
  | none => return .notRequired
  | some request => do
    match ← (c.mergeBack request).attempt with
    | .ok _ => return .completed
    | .error e => return .failed e.message

/-- Publishes a plan, then does the merge it asks for. -/
def execute {σ : Type} (c : Collaborator σ) (plan : Plan) : Step σ Outcome := do
  c.publish plan
  let sync ← mergeAfter c plan.sync
  return ⟨plan, sync⟩

end ReleasePlanner
