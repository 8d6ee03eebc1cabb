import ReleasePlanner.Proofs.Changelog.Title
import ReleasePlanner.Proofs.Repository.Merges
import ReleasePlanner.Proofs.Workflow.Publishing

/-!
# Effects of a release

What is done to a repository in a release: the changelog is written, a hook is
run, the release commit is made, or the tag, and something is pushed or merged
(`Effect`).

An effect either works or it fails with an error.  `Effect.Leaves` lists when
each of this happens and what is left of the repository, down to the text of the
changelog, the commit and its entry among the release commits.  Of what an
effect is not about, nothing changes.  There are no other ways
(`Effect.leaves`).
-/

namespace ReleasePlanner

open MemoryRepository

/-! ## Effects -/

/-- An effect of a release. -/
inductive Effect where
  /-- The fragment of the plan is put on top of the changelog. -/
  | changelog
  /-- The hook of a point is run. -/
  | hook (point : HookPoint)
  /-- The release commit is made. -/
  | commit
  /-- The tag of the plan is put on a commit. -/
  | tag (id : CommitId)
  /-- Refspecs are pushed. -/
  | push (refspecs : List String)
  /-- A branch is merged into another. -/
  | merge (m : Backmerge)
  deriving DecidableEq, Repr

/-- What an effect does. -/
def Effect.step (runner : CommandRunner) (c : Config) (plan : Plan) :
    Effect → Step MemoryRepository Unit
  | changelog => onWorkTree (writeChangelog c.release plan)
  | hook point => runHook runner c point plan
  | commit => do
    let _ ← Repository.commitPaths c.release.assets plan.message
    return
  | tag id => Repository.createTag plan.tag id
  | push refspecs => Repository.push c.release.remote refspecs
  | merge m => do
    let _ ← Repository.mergeBranch m.source m.target
    return

/-- Whether an effect is one on the files of the working tree. -/
def Effect.onFiles : Effect → Bool
  | changelog => true
  | hook _ => true
  | _ => false

/-! ## What effects leave -/

/-- The release commit was made on a branch: one commit more, on top of the old head and with the
message of the plan, which is listed with the paths that it was made of. -/
structure Released (c : Config) (plan : Plan) (branch : String) (r s : MemoryRepository) :
    Prop where
  head_eq : s.head? branch = some r.nextId
  others_eq : ∀ other, other ≠ branch → s.head? other = r.head? other
  rest_eq : s = { r with
    commits := r.commits ++ [⟨plan.message, (r.head? branch).toList⟩]
    heads := s.heads
    committed := r.committed ++ [(c.release.assets, plan.message)] }

/-- A tag was put on a commit. -/
structure Labelled (name : String) (id : CommitId) (r s : MemoryRepository) : Prop where
  tag_eq : s.tag? name = some id
  others_eq : ∀ other, other ≠ name → s.tag? other = r.tag? other
  rest_eq : s = { r with tags := s.tags }

/-- Two heads were joined on the target: its head stays when the source is part of it, it moves on
to the source when it is part of that, and otherwise a commit on top of both is made. -/
structure Joined (m : Backmerge) (a b : CommitId) (r s : MemoryRepository) : Prop where
  head_eq : s.head? m.target
    = some (if r.isAncestor a b then b else if r.isAncestor b a then a else r.nextId)
  others_eq : ∀ other, other ≠ m.target → s.head? other = r.head? other
  commits_eq : s.commits = r.commits ++
    if r.isAncestor a b || r.isAncestor b a then [] else [⟨mergeMessage m.source m.target, [b, a]⟩]
  rest_eq : s = { r with
    commits := s.commits
    heads := s.heads
    merges := r.merges ++ [(m.source, m.target)] }

/-- What comes of an effect, and the repository that it leaves. -/
inductive Effect.Leaves (runner : CommandRunner) (c : Config) (plan : Plan) (r : MemoryRepository) :
    Effect → Except Error Unit → MemoryRepository → Prop where
  | noWorkTree {effect : Effect} :
      effect.onFiles = true →
      r.files = none →
      Leaves runner c plan r effect (.error (.branch .noWorkTreeInMemory)) r
  | written {tree after : FileTree} {place : Place} {text : Option String} :
      r.files = some tree →
      Changelog.Topped c.release.changelogFile plan.changelog place text tree after →
      Leaves runner c plan r .changelog (.ok ()) { r with files := some after }
  | unwritten {tree : FileTree} {e : FileError} :
      r.files = some tree →
      (∀ place text, ¬Changelog.Holds tree c.release.changelogFile place text) →
      Changelog.update tree c.release.changelogFile plan.changelog = .error e →
      Leaves runner c plan r .changelog (.error (.io e.message)) r
  | hook {tree after : FileTree} {point : HookPoint} {result : Except Error Unit} :
      r.files = some tree →
      Hook.Ends runner (.ofPlan point plan c.release.remote) tree (c.hooks.at? point) result after →
      Leaves runner c plan r (.hook point) result { r with files := some after }
  | committed {s : MemoryRepository} {branch : String} :
      r.current = some branch →
      Released c plan branch r s →
      Leaves runner c plan r .commit (.ok ()) s
  | detached :
      r.current = none →
      Leaves runner c plan r .commit (.error (.branch .noCurrent)) r
  | tagged {s : MemoryRepository} {id : CommitId} :
      r.tag? plan.tag = none →
      Labelled plan.tag id r s →
      Leaves runner c plan r (.tag id) (.ok ()) s
  | taken {id other : CommitId} :
      r.tag? plan.tag = some other →
      Leaves runner c plan r (.tag id) (.error (.tag (.alreadyExists plan.tag))) r
  | pushed {refspecs : List String} :
      r.pushesFail = false →
      Leaves runner c plan r (.push refspecs) (.ok ()) { r with pushed := r.pushed ++ refspecs }
  | rejected {refspecs : List String} :
      r.pushesFail = true →
      Leaves runner c plan r (.push refspecs) (.error (.remote (.rejected c.release.remote))) r
  | merged {s : MemoryRepository} {m : Backmerge} {a b : CommitId} :
      r.mergesFail = false →
      r.head? m.source = some a →
      r.head? m.target = some b →
      Joined m a b r s →
      Leaves runner c plan r (.merge m) (.ok ()) s
  | conflicting {m : Backmerge} :
      r.mergesFail = true →
      Leaves runner c plan r (.merge m) (.error (.sync (.conflicts m.source m.target))) r
  | noSource {m : Backmerge} :
      r.mergesFail = false →
      r.head? m.source = none →
      Leaves runner c plan r (.merge m) (.error (.branch (.missing m.source))) r
  | noTarget {m : Backmerge} {a : CommitId} :
      r.mergesFail = false →
      r.head? m.source = some a →
      r.head? m.target = none →
      Leaves runner c plan r (.merge m) (.error (.branch (.missing m.target))) r

variable {r s : MemoryRepository} {a b : CommitId} {name branch : String} {m : Backmerge}

/-! ## What the effects of a repository leave -/

theorem released_withRelease (c : Config) (plan : Plan) (r : MemoryRepository) (branch : String) :
    Released c plan branch r (r.withRelease branch c.release.assets plan.message) where
  head_eq := (head?_addCommit r branch plan.message branch).trans (if_pos rfl)
  others_eq other hne := (head?_addCommit r branch plan.message other).trans (if_neg hne)
  rest_eq := rfl

theorem labelled_addTag (name : String) (id : CommitId) (r : MemoryRepository) :
    Labelled name id r (r.addTag name id) where
  tag_eq := (tag?_addTag r name id name).trans (if_pos rfl)
  others_eq other hne := (tag?_addTag r name id other).trans (if_neg hne)
  rest_eq := rfl

theorem joined_join (hb : r.head? m.target = some b) :
    Joined m a b r ((r.withMerge m.source m.target).join m.source m.target a b).2 := by
  have same : ∀ x y, (r.withMerge m.source m.target).isAncestor x y = r.isAncestor x y :=
    fun _ _ => rfl
  rw [join, same, same]
  split
  next part =>
    exact {
      head_eq := by rwa [if_pos part]
      others_eq := fun _ _ => rfl
      commits_eq := by
        rw [if_pos (by simp [part]), List.append_nil]
        rfl
      rest_eq := rfl }
  next apart =>
    split
    next part =>
      exact {
        head_eq := by
          rw [if_neg apart, if_pos part]
          exact (head?_setHead _ _ _ _).trans (if_pos rfl)
        others_eq := fun other hne => (head?_setHead _ _ _ other).trans (if_neg hne)
        commits_eq := by
          rw [if_pos (by simp [part]), List.append_nil]
          rfl
        rest_eq := rfl }
    next apart' =>
      exact {
        head_eq := by
          rw [if_neg apart, if_neg apart']
          exact (head?_setHead _ _ _ _).trans (if_pos rfl)
        others_eq := fun other hne => (head?_setHead _ _ _ other).trans (if_neg hne)
        commits_eq := by
          rw [if_neg (by simp [apart, apart'])]
          rfl
        rest_eq := rfl }

namespace Effect

variable (runner : CommandRunner) (c : Config) (plan : Plan) (r : MemoryRepository)

theorem leaves_changelog :
    Leaves runner c plan r .changelog ((step runner c plan .changelog).apply r).1
      ((step runner c plan .changelog).apply r).2 := by
  rw [step]
  cases found : r.files with
  | none =>
      rw [onWorkTree_apply_of_none _ found]
      exact .noWorkTree rfl found
  | some tree =>
      rw [onWorkTree_apply _ found, writeChangelog, Step.apply_make]
      cases updated : Changelog.update tree c.release.changelogFile plan.changelog with
      | ok after =>
          obtain ⟨place, text, topped⟩ := Changelog.exists_topped updated
          exact .written found topped
      | error e =>
          have same : r.withFiles tree = r := by rw [withFiles, ← found]
          simp only [same]
          exact .unwritten found (fun _ _ => Changelog.not_holds_of_error updated) updated

theorem leaves_hook (point : HookPoint) :
    Leaves runner c plan r (.hook point) ((step runner c plan (.hook point)).apply r).1
      ((step runner c plan (.hook point)).apply r).2 := by
  rw [step]
  cases found : r.files with
  | none =>
      rw [runHook, onWorkTree_apply_of_none _ found]
      exact .noWorkTree rfl found
  | some tree =>
      rw [runHook_apply found]
      exact .hook found (ends_hookEnd runner c point plan tree)

theorem leaves_commit :
    Leaves runner c plan r .commit ((step runner c plan .commit).apply r).1
      ((step runner c plan .commit).apply r).2 := by
  simp only [step, Step.apply_bind, apply_commitPaths]
  cases current : r.current with
  | none => exact .detached current
  | some branch => exact .committed current (released_withRelease c plan r branch)

theorem leaves_tag (id : CommitId) :
    Leaves runner c plan r (.tag id) ((step runner c plan (.tag id)).apply r).1
      ((step runner c plan (.tag id)).apply r).2 := by
  simp only [step, apply_createTag]
  cases there : r.tag? plan.tag with
  | some other => exact .taken there
  | none => exact .tagged there (labelled_addTag plan.tag id r)

theorem leaves_push (refspecs : List String) :
    Leaves runner c plan r (.push refspecs) ((step runner c plan (.push refspecs)).apply r).1
      ((step runner c plan (.push refspecs)).apply r).2 := by
  simp only [step, apply_push]
  cases failing : r.pushesFail with
  | true => exact .rejected failing
  | false => exact .pushed failing

theorem leaves_merge (m : Backmerge) :
    Leaves runner c plan r (.merge m) ((step runner c plan (.merge m)).apply r).1
      ((step runner c plan (.merge m)).apply r).2 := by
  simp only [step, Step.apply_bind, apply_mergeBranch]
  by_cases failing : r.mergesFail = true
  · rw [mergeBranch, Step.apply_make, if_pos failing]
    exact .conflicting failing
  have working : r.mergesFail = false := by simpa using failing
  cases ha : r.head? m.source with
  | none =>
      rw [mergeBranch, Step.apply_make, if_neg failing, head, head, ha]
      exact .noSource working ha
  | some a =>
      cases hb : r.head? m.target with
      | none =>
          rw [mergeBranch, Step.apply_make, if_neg failing, head, head, ha, hb]
          exact .noTarget working ha hb
      | some b =>
          rw [mergeBranch_apply working ha hb]
          exact .merged working ha hb (joined_join hb)

/-- There is no other way for an effect to end. -/
theorem leaves (effect : Effect) :
    Leaves runner c plan r effect ((step runner c plan effect).apply r).1
      ((step runner c plan effect).apply r).2 := by
  cases effect with
  | changelog => exact leaves_changelog runner c plan r
  | hook point => exact leaves_hook runner c plan r point
  | commit => exact leaves_commit runner c plan r
  | tag id => exact leaves_tag runner c plan r id
  | push refspecs => exact leaves_push runner c plan r refspecs
  | merge m => exact leaves_merge runner c plan r m

end Effect

end ReleasePlanner
