import ReleasePlanner.Config.Basic
import ReleasePlanner.Hook.Run
import ReleasePlanner.Release.Execute
import ReleasePlanner.Repository.Interface

/-!
# Publishing a release

A release is published by a fixed sequence of effects: the changelog is
written, the prepare hook is run, the release commit and the tag are made, both
are pushed if anything is to be pushed, and the publish hook is run.  The first
effect that fails ends the sequence, and those before it stay.
-/

namespace ReleasePlanner

open Repository

namespace Changelog

/-- The text of the changelog at a place, empty when there is none. -/
def existingAt (t : FileTree) (place : Place) : Except FileError String :=
  match t.node? place with
  | none => .ok ""
  | some _ => t.read place

/-- The working tree with a fragment put on top of the changelog.  An empty path is that of the
working tree itself, which cannot be a changelog. -/
def update (t : FileTree) (path fragment : String) : Except FileError FileTree := do
  let place ← if path = "" then pure [] else t.locate [] path
  let existing ← existingAt t place
  t.write place (prepend existing fragment)

end Changelog

variable {σ : Type} [Repository σ]

/-- Does something to the files of the working tree.  What was done stays, also when it fails. -/
def onWorkTree {α : Type} (s : Step FileTree α) : Step σ α := do
  let tree ← workTree
  let (result, after) := s.apply tree
  setWorkTree after
  Step.ofExcept result

/-- Puts the fragment of a plan on top of the changelog. -/
def writeChangelog (p : ReleasePolicy) (plan : Plan) : Step FileTree Unit :=
  .make fun tree =>
    match Changelog.update tree p.changelogFile plan.changelog with
    | .ok after => (.ok (), after)
    | .error e => (.error (.io e.message), tree)

/-- Runs the hook of a point, if there is one. -/
def runHook (runner : CommandRunner) (c : Config) (point : HookPoint) (plan : Plan) : Step σ Unit :=
  onWorkTree <|
    Hook.runIfSet runner [] (.ofPlan point plan c.release.remote) (c.hooks.at? point)

/-- Pushes some refspecs, if anything is to be pushed. -/
def pushIf (wanted : Bool) (remote : String) (refspecs : List String) : Step σ Unit :=
  if wanted then push remote refspecs else return

/-- Publishes a plan. -/
def publish (runner : CommandRunner) (c : Config) (pushes : Bool) (plan : Plan) : Step σ Unit := do
  onWorkTree (writeChangelog c.release plan)
  runHook runner c .prepare plan
  let commit ← commitPaths c.release.assets plan.message
  createTag plan.tag commit
  pushIf pushes c.release.remote [branchRefspec plan.branch, tagRefspec plan.tag]
  runHook runner c .publish plan

/-- Merges one branch into another and pushes the result. -/
def mergeBack (c : Config) (pushes : Bool) (m : Backmerge) : Step σ Unit := do
  let _ ← mergeBranch m.source m.target
  pushIf pushes c.release.remote [branchRefspec m.target]

/-- Publishes plans in a repository. -/
def collaborator (runner : CommandRunner) (c : Config) (pushes : Bool) : Collaborator σ where
  publish := publish runner c pushes
  mergeBack := mergeBack c pushes

end ReleasePlanner
