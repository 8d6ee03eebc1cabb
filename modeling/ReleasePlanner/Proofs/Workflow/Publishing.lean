import ReleasePlanner.Proofs.Hook
import ReleasePlanner.Proofs.Repository.Operations
import ReleasePlanner.Proofs.Workflow.Preparation
import ReleasePlanner.Workflow.Publish

/-!
# How publishing ends

`Publishing` lists the ways in which publishing a plan in memory may end: at
each effect that may fail, and at the end.  It says which error comes out and
which repository is left, and `publishing_publish` shows that there are no
other ways.

A failure leaves everything that was done before it.  So publishing is not all
or nothing: `publish_atomic_iff` tells exactly when a failure leaves commits,
branches, tags and files as they were.
-/

namespace ReleasePlanner

open MemoryRepository

variable {r s : MemoryRepository} {runner : CommandRunner} {c : Config} {pushes : Bool}
  {plan : Plan} {tree written prepared after : FileTree} {e : Error} {branch : String}

/-! ## What single effects leave -/

theorem onWorkTree_apply {α : Type} (step : Step FileTree α) (found : r.files = some tree) :
    (onWorkTree step).apply r = ((step.apply tree).1, r.withFiles (step.apply tree).2) := by
  simp only [onWorkTree, Step.apply_bind, apply_workTree, found, apply_setWorkTree,
    Step.apply_ofExcept]

theorem onWorkTree_apply_of_none {α : Type} (step : Step FileTree α) (missing : r.files = none) :
    (onWorkTree step).apply r = (.error (.branch .noWorkTreeInMemory), r) := by
  simp only [onWorkTree, Step.apply_bind, apply_workTree, missing]

/-- What the hook of a point comes to, and the files it leaves. -/
def hookEnd (runner : CommandRunner) (c : Config) (point : HookPoint) (plan : Plan)
    (tree : FileTree) : Except Error Unit × FileTree :=
  (Hook.runIfSet runner [] (.ofPlan point plan c.release.remote) (c.hooks.at? point)).apply tree

theorem ends_hookEnd (runner : CommandRunner) (c : Config) (point : HookPoint) (plan : Plan)
    (tree : FileTree) :
    Hook.Ends runner (.ofPlan point plan c.release.remote) tree (c.hooks.at? point)
      (hookEnd runner c point plan tree).1 (hookEnd runner c point plan tree).2 :=
  Hook.ends runner _ tree _

theorem hookEnd_of_unset {point : HookPoint} (unset : c.hooks = .standard) :
    hookEnd runner c point plan tree = (.ok (), tree) := by
  rw [hookEnd, unset]
  cases point <;> rfl

theorem runHook_apply {point : HookPoint} (found : r.files = some tree) :
    (runHook runner c point plan).apply r
      = ((hookEnd runner c point plan tree).1,
        r.withFiles (hookEnd runner c point plan tree).2) :=
  onWorkTree_apply _ found

/-- A hook that is not set does nothing. -/
theorem runHook_apply_of_unset {point : HookPoint} (unset : c.hooks = .standard)
    (found : r.files = some tree) : (runHook runner c point plan).apply r = (.ok (), r) := by
  have same : r.withFiles tree = r := by rw [withFiles, ← found]
  rw [runHook_apply found, hookEnd_of_unset unset, same]

theorem pushIf_apply_of_failing {wanted : Bool} (failing : (wanted && r.pushesFail) = true)
    (remote : String) (refspecs : List String) :
    (pushIf wanted remote refspecs).apply r = (.error (.remote (.rejected remote)), r) := by
  rw [Bool.and_eq_true] at failing
  rw [pushIf, if_pos failing.1, apply_push, if_pos failing.2]

theorem pushIf_apply {wanted : Bool} (working : (wanted && r.pushesFail) = false)
    (remote : String) (refspecs : List String) :
    (pushIf wanted remote refspecs).apply r = (.ok (), r.withPush wanted refspecs) := by
  cases wanted with
  | false => rfl
  | true =>
      rw [Bool.true_and] at working
      simp [pushIf, working]

/-! ## The ways to end -/

/-- The changelog can be written and the prepare hook does not fail, which leaves these files. -/
def Ready (runner : CommandRunner) (c : Config) (plan : Plan) (r : MemoryRepository)
    (prepared : FileTree) : Prop :=
  ∃ tree written, r.files = some tree ∧
    Changelog.update tree c.release.changelogFile plan.changelog = .ok written ∧
    hookEnd runner c .prepare plan written = (.ok (), prepared)

/-- The repository with the release commit on a branch. -/
def committedOn (c : Config) (plan : Plan) (r : MemoryRepository) (prepared : FileTree)
    (branch : String) : MemoryRepository :=
  (r.withFiles prepared).withRelease branch c.release.assets plan.message

/-- The repository with the release commit on a branch and the tag on the commit. -/
def taggedOn (c : Config) (plan : Plan) (r : MemoryRepository) (prepared : FileTree)
    (branch : String) : MemoryRepository :=
  (committedOn c plan r prepared branch).addTag plan.tag r.nextId

/-- The refspecs that a plan pushes. -/
def Plan.refspecs (plan : Plan) : List String :=
  [branchRefspec plan.branch, tagRefspec plan.tag]

/-- How publishing a plan may end. -/
inductive Publishing (runner : CommandRunner) (c : Config) (pushes : Bool) (plan : Plan)
    (r : MemoryRepository) : Except Error Unit → MemoryRepository → Prop where
  | noWorkTree :
      r.files = none →
      Publishing runner c pushes plan r (.error (.branch .noWorkTreeInMemory)) r
  | unwritten {tree : FileTree} {e : FileError} :
      r.files = some tree →
      Changelog.update tree c.release.changelogFile plan.changelog = .error e →
      Publishing runner c pushes plan r (.error (.io e.message)) r
  | unprepared {tree written after : FileTree} {e : Error} :
      r.files = some tree →
      Changelog.update tree c.release.changelogFile plan.changelog = .ok written →
      hookEnd runner c .prepare plan written = (.error e, after) →
      Publishing runner c pushes plan r (.error e) (r.withFiles after)
  | detached {prepared : FileTree} :
      Ready runner c plan r prepared →
      r.current = none →
      Publishing runner c pushes plan r (.error (.branch .noCurrent)) (r.withFiles prepared)
  | taken {prepared : FileTree} {branch : String} {id : CommitId} :
      Ready runner c plan r prepared →
      r.current = some branch →
      r.tag? plan.tag = some id →
      Publishing runner c pushes plan r (.error (.tag (.alreadyExists plan.tag)))
        (committedOn c plan r prepared branch)
  | unpushed {prepared : FileTree} {branch : String} :
      Ready runner c plan r prepared →
      r.current = some branch →
      r.tag? plan.tag = none →
      (pushes && r.pushesFail) = true →
      Publishing runner c pushes plan r (.error (.remote (.rejected c.release.remote)))
        (taggedOn c plan r prepared branch)
  | unannounced {prepared after : FileTree} {branch : String} {e : Error} :
      Ready runner c plan r prepared →
      r.current = some branch →
      r.tag? plan.tag = none →
      (pushes && r.pushesFail) = false →
      hookEnd runner c .publish plan prepared = (.error e, after) →
      Publishing runner c pushes plan r (.error e)
        (((taggedOn c plan r prepared branch).withPush pushes plan.refspecs).withFiles after)
  | published {prepared after : FileTree} {branch : String} :
      Ready runner c plan r prepared →
      r.current = some branch →
      r.tag? plan.tag = none →
      (pushes && r.pushesFail) = false →
      hookEnd runner c .publish plan prepared = (.ok (), after) →
      Publishing runner c pushes plan r (.ok ())
        (((taggedOn c plan r prepared branch).withPush pushes plan.refspecs).withFiles after)

/-- What follows the prepare hook. -/
def publishPrepared (runner : CommandRunner) (c : Config) (pushes : Bool) (plan : Plan) :
    Step MemoryRepository Unit := do
  let commit ← Repository.commitPaths c.release.assets plan.message
  Repository.createTag plan.tag commit
  pushIf pushes c.release.remote plan.refspecs
  runHook runner c .publish plan

theorem publish_eq (runner : CommandRunner) (c : Config) (pushes : Bool) (plan : Plan) :
    (publish runner c pushes plan : Step MemoryRepository Unit) = (do
      onWorkTree (writeChangelog c.release plan)
      runHook runner c .prepare plan
      publishPrepared runner c pushes plan) := rfl

theorem publishing_publishPrepared (ready : Ready runner c plan r prepared) :
    Publishing runner c pushes plan r
      ((publishPrepared runner c pushes plan).apply (r.withFiles prepared)).1
      ((publishPrepared runner c pushes plan).apply (r.withFiles prepared)).2 := by
  rw [publishPrepared, Step.apply_bind, apply_commitPaths, current_withFiles]
  cases current : r.current with
  | none => exact .detached ready current
  | some branch =>
      simp only [Step.apply_bind, apply_createTag, tag?_withRelease, tag?_withFiles]
      cases free : r.tag? plan.tag with
      | some id => exact .taken ready current free
      | none =>
          have tagged : ((r.withFiles prepared).withRelease branch c.release.assets
              plan.message).addTag plan.tag (r.withFiles prepared).nextId
                = taggedOn c plan r prepared branch := rfl
          simp only [tagged]
          cases failing : pushes && (taggedOn c plan r prepared branch).pushesFail with
          | true =>
              rw [pushIf_apply_of_failing failing]
              exact .unpushed ready current free failing
          | false =>
              rw [pushIf_apply failing]
              have files : ((taggedOn c plan r prepared branch).withPush pushes
                  plan.refspecs).files = some prepared := by
                cases pushes with
                | false => rfl
                | true => rfl
              simp only
              rw [runHook_apply files]
              cases hhook : hookEnd runner c .publish plan prepared with
              | mk result after =>
                  cases result with
                  | error e => exact .unannounced ready current free failing hhook
                  | ok _ => exact .published ready current free failing hhook

theorem publishing_publish (runner : CommandRunner) (c : Config) (pushes : Bool) (plan : Plan)
    (r : MemoryRepository) :
    Publishing runner c pushes plan r ((publish runner c pushes plan).apply r).1
      ((publish runner c pushes plan).apply r).2 := by
  cases found : r.files with
  | none =>
      rw [publish_eq, Step.apply_bind, onWorkTree_apply_of_none _ found]
      exact .noWorkTree found
  | some tree =>
      rw [publish_eq, Step.apply_bind, onWorkTree_apply _ found, writeChangelog, Step.apply_make]
      cases hupdate : Changelog.update tree c.release.changelogFile plan.changelog with
      | error e =>
          have same : r.withFiles tree = r := by rw [withFiles, ← found]
          simp only [same]
          exact .unwritten found hupdate
      | ok written =>
          simp only
          rw [Step.apply_bind, runHook_apply rfl]
          cases hhook : hookEnd runner c .prepare plan written with
          | mk result prepared =>
              cases result with
              | error e => exact .unprepared found hupdate hhook
              | ok _ => exact publishing_publishPrepared ⟨tree, written, found, hupdate, hhook⟩

/-! ## All or nothing -/

/-- The same commits, branch heads, tags and files. -/
structure MemoryRepository.SameContent (r s : MemoryRepository) : Prop where
  commits : s.commits = r.commits
  heads : s.heads = r.heads
  tags : s.tags = r.tags
  files : s.files = r.files

/-- No effect fails once the changelog is written, or the one that fails finds nothing done: a
branch is checked out, the tag is free and the push works, or no branch is checked out and writing
the changelog changes no file. -/
def Unhindered (pushes : Bool) (plan : Plan) (r : MemoryRepository) (tree written : FileTree) :
    Prop :=
  match r.current with
  | none => written = tree
  | some _ => r.tag? plan.tag = none ∧ (pushes && r.pushesFail) = false

theorem ready_iff_of_unset (unset : c.hooks = .standard) :
    Ready runner c plan r prepared ↔
      ∃ tree, r.files = some tree ∧
        Changelog.update tree c.release.changelogFile plan.changelog = .ok prepared := by
  constructor
  · rintro ⟨tree, written, found, hupdate, hhook⟩
    rw [hookEnd_of_unset unset] at hhook
    cases hhook
    exact ⟨tree, found, hupdate⟩
  · rintro ⟨tree, found, hupdate⟩
    exact ⟨tree, prepared, found, hupdate, hookEnd_of_unset unset⟩

/-- A release commit is one commit more. -/
theorem commits_committedOn_ne (c : Config) (plan : Plan) (r : MemoryRepository)
    (prepared : FileTree) (branch : String) :
    (committedOn c plan r prepared branch).commits ≠ r.commits := by
  intro same
  have hlength : (committedOn c plan r prepared branch).commits.length = r.commits.length + 1 :=
    List.length_append
  rw [same] at hlength
  exact Nat.succ_ne_self _ hlength.symm

namespace Publishing

variable {result : Except Error Unit}

/-- What fails before the changelog is written leaves everything as it was. -/
theorem sameContent_of_unwritten (unset : c.hooks = .standard)
    (unwritten : ∀ tree written, r.files = some tree →
      Changelog.update tree c.release.changelogFile plan.changelog ≠ .ok written)
    (ends : Publishing runner c pushes plan r result s) : r.SameContent s := by
  have unready : ∀ prepared, ¬Ready runner c plan r prepared := by
    intro prepared ready
    obtain ⟨tree, found, hupdate⟩ := (ready_iff_of_unset unset).mp ready
    exact unwritten tree prepared found hupdate
  cases ends with
  | noWorkTree => exact ⟨rfl, rfl, rfl, rfl⟩
  | unwritten => exact ⟨rfl, rfl, rfl, rfl⟩
  | unprepared found hupdate => exact absurd hupdate (unwritten _ _ found)
  | detached ready => exact absurd ready (unready _)
  | taken ready => exact absurd ready (unready _)
  | unpushed ready => exact absurd ready (unready _)
  | unannounced ready => exact absurd ready (unready _)
  | published ready => exact absurd ready (unready _)

/-- How publishing ends without hooks, once the changelog is written. -/
theorem cases_of_updated (unset : c.hooks = .standard) (found : r.files = some tree)
    (hupdate : Changelog.update tree c.release.changelogFile plan.changelog = .ok written)
    (ends : Publishing runner c pushes plan r result s) :
    (r.current = none ∧ result = .error (.branch .noCurrent) ∧ s = r.withFiles written) ∨
      ∃ branch, r.current = some branch ∧
        ((r.tag? plan.tag ≠ none ∧ result = .error (.tag (.alreadyExists plan.tag)) ∧
            s = committedOn c plan r written branch) ∨
          (r.tag? plan.tag = none ∧ (pushes && r.pushesFail) = true ∧
            result = .error (.remote (.rejected c.release.remote)) ∧
            s = taggedOn c plan r written branch) ∨
          (r.tag? plan.tag = none ∧ (pushes && r.pushesFail) = false ∧ result = .ok ())) := by
  have files : ∀ prepared, Ready runner c plan r prepared → prepared = written := by
    intro prepared ready
    obtain ⟨tree', found', hupdate'⟩ := (ready_iff_of_unset unset).mp ready
    rw [found] at found'
    cases found'
    rw [hupdate] at hupdate'
    exact (Except.ok.inj hupdate').symm
  cases ends with
  | noWorkTree missing =>
      rw [found] at missing
      cases missing
  | unwritten found' hfailed =>
      rw [found] at found'
      cases found'
      rw [hupdate] at hfailed
      cases hfailed
  | unprepared _ _ hhook =>
      rw [hookEnd_of_unset unset] at hhook
      cases hhook
  | detached ready current =>
      rw [files _ ready]
      exact Or.inl ⟨current, rfl, rfl⟩
  | taken ready current there =>
      rw [files _ ready]
      refine Or.inr ⟨_, current, Or.inl ⟨?_, rfl, rfl⟩⟩
      rw [there]
      exact Option.some_ne_none _
  | unpushed ready current free failing =>
      rw [files _ ready]
      exact Or.inr ⟨_, current, Or.inr (Or.inl ⟨free, failing, rfl, rfl⟩)⟩
  | unannounced _ _ _ _ hhook =>
      rw [hookEnd_of_unset unset] at hhook
      cases hhook
  | published _ current free working =>
      exact Or.inr ⟨_, current, Or.inr (Or.inr ⟨free, working, rfl⟩)⟩

/-- Publishing that works found a branch, a free tag and a push that works. -/
theorem unhindered_of_ok (unset : c.hooks = .standard) (found : r.files = some tree)
    (hupdate : Changelog.update tree c.release.changelogFile plan.changelog = .ok written)
    (ends : Publishing runner c pushes plan r (.ok ()) s) :
    Unhindered pushes plan r tree written := by
  rcases ends.cases_of_updated unset found hupdate with
    ⟨-, failed, -⟩ | ⟨branch, current, ⟨-, failed, -⟩ | ⟨-, -, failed, -⟩ | ⟨free, working, -⟩⟩
  · cases failed
  · cases failed
  · cases failed
  · rw [Unhindered, current]
    exact ⟨free, working⟩

/-- A failure after the changelog is written leaves everything as it was exactly when nothing could
fail after it. -/
theorem sameContent_iff (unset : c.hooks = .standard) (found : r.files = some tree)
    (hupdate : Changelog.update tree c.release.changelogFile plan.changelog = .ok written)
    (ends : Publishing runner c pushes plan r (.error e) s) :
    r.SameContent s ↔ Unhindered pushes plan r tree written := by
  rcases ends.cases_of_updated unset found hupdate with
    ⟨current, -, rfl⟩ |
      ⟨branch, current, ⟨taken, -, rfl⟩ | ⟨-, failing, -, rfl⟩ | ⟨-, -, worked⟩⟩
  · rw [Unhindered, current]
    constructor
    · intro same
      have files : some written = r.files := same.files
      rw [found] at files
      exact Option.some.inj files
    · rintro rfl
      exact ⟨rfl, rfl, rfl, found.symm⟩
  · rw [Unhindered, current]
    constructor
    · intro same
      exact absurd same.commits (commits_committedOn_ne c plan r written branch)
    · rintro ⟨free, -⟩
      exact absurd free taken
  · rw [Unhindered, current]
    constructor
    · intro same
      exact absurd same.commits (commits_committedOn_ne c plan r written branch)
    · rintro ⟨-, working⟩
      rw [failing] at working
      cases working
  · cases worked

end Publishing

/-- Without hooks, a failure leaves everything as it was exactly when nothing can fail after the
changelog is written. -/
theorem publish_atomic_iff (unset : c.hooks = .standard) :
    (∀ e after, (publish runner c pushes plan).apply r = (.error e, after) →
        r.SameContent after) ↔
      ∀ tree written, r.files = some tree →
        Changelog.update tree c.release.changelogFile plan.changelog = .ok written →
        Unhindered pushes plan r tree written := by
  have ends := publishing_publish runner c pushes plan r
  cases hpublish : (publish runner c pushes plan).apply r with
  | mk result after =>
  rw [hpublish] at ends
  constructor
  · intro atomic tree written found hupdate
    cases result with
    | ok _ => exact ends.unhindered_of_ok unset found hupdate
    | error e => exact (ends.sameContent_iff unset found hupdate).mp (atomic e after rfl)
  · intro unhindered e after' heq
    cases heq
    by_cases updated : ∃ tree written, r.files = some tree ∧
        Changelog.update tree c.release.changelogFile plan.changelog = .ok written
    · obtain ⟨tree, written, found, hupdate⟩ := updated
      exact (ends.sameContent_iff unset found hupdate).mpr (unhindered tree written found hupdate)
    · refine ends.sameContent_of_unwritten unset ?_
      intro tree written found hupdate
      exact updated ⟨tree, written, found, hupdate⟩

/-- A branch that is checked out and has nothing but a first commit. -/
def MemoryRepository.unreleased (pushesFail : Bool) : MemoryRepository :=
  { empty.addCommit "release" "feat: Add search." with
    current := some "release"
    files := some .empty
    pushesFail := pushesFail }

theorem built_unreleased (pushesFail : Bool) : Built (unreleased pushesFail) :=
  .step (.setFailing false pushesFail false)
    (.step (.setFiles (some .empty))
      (.step (.checkout "release")
        (.step (.addCommit "release" "feat: Add search.") .empty True.intro)
        True.intro)
      True.intro)
    True.intro

/-- The plan of the first release. -/
def firstPlan? (pushesFail : Bool) : Option Plan :=
  ((unreleased pushesFail).prepared .standard "release" ⟨2026, 1, 9⟩).toOption.bind Prepared.plan

/-- Runs no command. -/
def idleRunner : CommandRunner :=
  fun _ _ _ tree => (⟨0, "", ""⟩, tree)

/-- Where the push works, the first release is all or nothing. -/
theorem publish_atomic_working_push :
    ∃ plan, firstPlan? false = some plan ∧
      ∀ e after, (publish idleRunner .standard true plan).apply (unreleased false)
        = (.error e, after) → (unreleased false).SameContent after := by
  have planned : (firstPlan? false).isSome = true := by decide +kernel
  obtain ⟨plan, hplan⟩ := Option.isSome_iff_exists.mp planned
  refine ⟨plan, hplan, (publish_atomic_iff rfl).mpr ?_⟩
  intro tree written _ _
  exact ⟨rfl, rfl⟩

/-- Where the push fails, the release commit and the tag of the first release stay. -/
theorem not_publish_atomic_failing_push :
    Config.standard.validate = .ok () ∧
      ∃ plan e after, firstPlan? true = some plan ∧
        (publish idleRunner .standard true plan).apply (unreleased true) = (.error e, after) ∧
        after.commits.length = 2 ∧ after.tag? "v1.0.0" = some 2 ∧
        ¬(unreleased true).SameContent after := by
  have known : ((firstPlan? true).map fun plan =>
      let done := (publish idleRunner .standard true plan).apply (unreleased true)
      (done.1.toOption.isNone, done.2.commits.length, done.2.tag? "v1.0.0"))
        = some (true, 2, some 2) := by decide +kernel
  obtain ⟨plan, hplan, hdone⟩ := Option.map_eq_some_iff.mp known
  simp only [Prod.mk.injEq] at hdone
  obtain ⟨hfailed, hlength, htag⟩ := hdone
  cases hpublish : (publish idleRunner .standard true plan).apply (unreleased true) with
  | mk result after =>
      rw [hpublish] at hfailed hlength htag
      cases result with
      | ok _ => cases hfailed
      | error e =>
          refine ⟨Config.validate_standard, plan, e, after, hplan, hpublish, hlength, htag, ?_⟩
          intro same
          rw [same.commits] at hlength
          exact absurd hlength (by decide)

end ReleasePlanner
