import ReleasePlanner.Proofs.Workflow.Runs
import ReleasePlanner.Proofs.Workflow.Sequence

/-!
# The order of a release

A run that has a plan to publish performs the effects of the release, one after
the other, and then the merge (`release_in_order`).  An effect of the release
that fails is the error of the run, and what it leaves is what the effects before
it did.  A merge that fails is only reported.

So there are things that cannot be without the effects before them: a push
without the tag, a publish hook without the push, or a merge without the whole
release.
-/

namespace ReleasePlanner

open MemoryRepository

variable {r s start before published : MemoryRepository} {runner : CommandRunner} {c : Config}
  {pushes : Bool} {request : RunRequest} {date : Date} {branch : String} {p : Prepared}
  {plan : Plan} {effect : Effect}

/-! ## A release as its effects -/

theorem pushIf_eq_performAll (runner : CommandRunner) (c : Config) (plan : Plan) (pushes : Bool)
    (refspecs : List String) :
    pushIf pushes c.release.remote refspecs
      = performAll runner c plan (pushEffects pushes refspecs) := by
  cases pushes with
  | false => rfl
  | true => exact (bind_pure _).symm

/-- What follows the prepare hook, where the number of the release commit is known. -/
theorem publishPrepared_apply (r : MemoryRepository) :
    (publishPrepared runner c pushes plan).apply r
      = (performAll runner c plan (committingEffects pushes plan r.nextId)).apply r := by
  rw [publishPrepared, committingEffects, apply_performAll_cons, Effect.step, Step.apply_bind,
    Step.apply_bind, apply_commitPaths]
  cases r.current with
  | none => rfl
  | some branch =>
      simp only [Step.apply_pure, performAll, performAll_append, bind_pure_unit,
        pushIf_eq_performAll runner c plan]
      rfl

/-- An effect on the files leaves the number of the next commit as it is, on which the effects after
it depend. -/
theorem onFiles_bind_apply (onFiles : effect.onFiles = true)
    {next : Step MemoryRepository Unit} (rest : CommitId → List Effect)
    (follow : ∀ s, next.apply s = (performAll runner c plan (rest s.nextId)).apply s)
    (r : MemoryRepository) :
    (do effect.step runner c plan; next).apply r
      = (performAll runner c plan (effect :: rest r.nextId)).apply r := by
  rw [apply_performAll_cons, Step.apply_bind]
  cases worked : (effect.step runner c plan).apply r with
  | mk result s =>
  cases result with
  | error e => rfl
  | ok _ =>
      have leaves := effect.leaves runner c plan r
      simp only [worked] at leaves
      have same : s.nextId = r.nextId := by
        rw [leaves.adds.files_only (by simp [onFiles])]
        rfl
      simp only [follow s, same]

/-- Publishing is its effects, one after the other. -/
theorem publish_apply (r : MemoryRepository) :
    (publish runner c pushes plan).apply r
      = (performAll runner c plan (publishingEffects pushes plan r.nextId)).apply r := by
  have write : Effect.changelog.onFiles = true := rfl
  have prepare : (Effect.hook .prepare).onFiles = true := rfl
  rw [publish_eq]
  exact onFiles_bind_apply write
    (fun commit => .hook .prepare :: committingEffects pushes plan commit)
    (onFiles_bind_apply prepare (committingEffects pushes plan) publishPrepared_apply) r

/-- A release is its effects, one after the other. -/
theorem release_apply (r : MemoryRepository) :
    (do runHook runner c .verifyConditions plan; publish runner c pushes plan).apply r
      = (performAll runner c plan (releaseEffects pushes plan r.nextId)).apply r := by
  have verify : (Effect.hook .verifyConditions).onFiles = true := rfl
  exact onFiles_bind_apply verify (publishingEffects pushes plan) publish_apply r

theorem mergeBack_eq_performAll (runner : CommandRunner) (c : Config) (plan : Plan) (pushes : Bool)
    (m : Backmerge) :
    mergeBack c pushes m = performAll runner c plan (mergingEffects pushes m) := by
  simp only [mergeBack, mergingEffects, performAll, Effect.step, bind_assoc, pure_bind,
    pushIf_eq_performAll runner c plan]

/-! ## The merge -/

/-- What came of the merge after a release, and what it left. -/
inductive MergesBack (runner : CommandRunner) (c : Config) (pushes : Bool) (plan : Plan)
    (published : MemoryRepository) : MergeStatus → MemoryRepository → Prop where
  | notRequired :
      plan.sync = none →
      MergesBack runner c pushes plan published .notRequired published
  | completed {m : Backmerge} {s : MemoryRepository} :
      plan.sync = some m →
      Performed runner c plan (mergingEffects pushes m) published s →
      MergesBack runner c pushes plan published .completed s
  | failed {m : Backmerge} {effect : Effect} {e : Error} {before s : MemoryRepository} :
      plan.sync = some m →
      StopsAt runner c plan (mergingEffects pushes m) published effect e before s →
      MergesBack runner c pushes plan published (.failed e.message) s

theorem exists_mergesBack (runner : CommandRunner) (c : Config) (pushes : Bool) (plan : Plan)
    (published : MemoryRepository) :
    ∃ sync s,
      (mergeAfter (collaborator runner c pushes) plan.sync).apply published = (.ok sync, s) ∧
      MergesBack runner c pushes plan published sync s := by
  cases asked : plan.sync with
  | none => exact ⟨.notRequired, published, rfl, .notRequired asked⟩
  | some m =>
      have ends := ends_performAll runner c plan (mergingEffects pushes m) published
      have merging : (collaborator runner c pushes).mergeBack m
          = performAll runner c plan (mergingEffects pushes m) :=
        mergeBack_eq_performAll runner c plan pushes m
      rw [mergeAfter, Step.apply_bind, Step.apply_attempt, merging]
      cases ended : (performAll runner c plan (mergingEffects pushes m)).apply published with
      | mk result s =>
      rw [ended] at ends
      cases ends with
      | performed performed => exact ⟨.completed, s, rfl, .completed asked performed⟩
      | stopped stops => exact ⟨.failed _, s, rfl, .failed asked stops⟩

/-! ## A whole run -/

/-- A run that has a plan to publish does nothing before that but to look for news. -/
theorem Due.run_apply (due : Due c request date r branch p plan) :
    (runRequest runner c request date).apply r
      = ((fun outcome => ⟨p, some outcome, runWarnings c r request p ++ outcomeWarnings outcome⟩)
          <$> publishPlan runner c request.pushes plan).apply (r.withFetch request.pushes) := by
  obtain ⟨pattern, linter, known⟩ := Prepared.exists_describes due.prepared_ok
  have opened : request.opened c r = .ok branch := by
    rw [RunRequest.opened, due.branch_eq]
    simp only [known.pattern_ok, known.track_ok]
    rfl
  have prepared : request.preparation c date branch r = .ok p := by
    rw [RunRequest.preparation, due.earnest, due.current_eq]
    simp only [if_true, due.prepared_ok]
  rw [runRequest_eq, opening_apply, opened]
  simp only
  rw [runFetched_eq, preparing_apply, preparation_withFetch, prepared]
  simp only
  rw [runPrepared, Step.apply_bind, Step.apply_get]
  simp only [due.plan_eq, due.earnest, ← bind_pure_comp]
  rfl

/-- A run that has a plan to publish fails as its effects do, or it goes on to the merge. -/
theorem Due.ends (due : Due c request date r branch p plan) {known : Except Error RunResult}
    (ran : (runRequest runner c request date).apply r = (known, s)) :
    let start := r.withFetch request.pushes
    let effects := releaseEffects request.pushes plan start.nextId
    (∃ e, known = .error e ∧ Ends runner c plan effects start (.error e) s) ∨
      ∃ published sync,
        known = .ok ⟨p, some ⟨plan, sync⟩,
          runWarnings c r request p ++ outcomeWarnings ⟨plan, sync⟩⟩ ∧
        Ends runner c plan effects start (.ok ()) published ∧
        MergesBack runner c request.pushes plan published sync s := by
  intro start effects
  have split : (publishPlan runner c request.pushes plan : Step MemoryRepository Outcome) = (do
      (do runHook runner c .verifyConditions plan; publish runner c request.pushes plan)
      let sync ← mergeAfter (collaborator runner c request.pushes) plan.sync
      return ⟨plan, sync⟩) := by
    simp only [publishPlan, execute, bind_assoc]
    rfl
  have ends := ends_performAll runner c plan effects start
  rw [due.run_apply, Step.apply_map, split, Step.apply_bind, release_apply] at ran
  cases ended : (performAll runner c plan effects).apply start with
  | mk result t =>
  rw [ended] at ends ran
  cases result with
  | error e =>
      cases ran
      exact Or.inl ⟨e, rfl, ends⟩
  | ok _ =>
      obtain ⟨sync, after, merging, merges⟩ := exists_mergesBack runner c request.pushes plan t
      simp only [Step.apply_bind, merging] at ran
      cases ran
      exact Or.inr ⟨t, sync, rfl, ends, merges⟩

/-- How a run ends that has a plan to publish: at the first effect that fails, or with all effects
performed and the merge after them.  It follows what is there when the release comes to the prepare
hook and to the tag, and what a hook, a push and a merge must wait for. -/
structure InOrder (runner : CommandRunner) (c : Config) (pushes : Bool) (p : Prepared)
    (plan : Plan) (warnings : List Warning) (start : MemoryRepository)
    (result : Except Error RunResult) (s : MemoryRepository) : Prop where
  ends :
    (∃ effect e before, result = .error e ∧
      StopsAt runner c plan (releaseEffects pushes plan start.nextId) start effect e before s) ∨
    ∃ published sync,
      result = .ok ⟨p, some ⟨plan, sync⟩, warnings ++ outcomeWarnings ⟨plan, sync⟩⟩ ∧
      Performed runner c plan (releaseEffects pushes plan start.nextId) start published ∧
      MergesBack runner c pushes plan published sync s
  topped : ∀ before,
    ComesTo runner c plan (releaseEffects pushes plan start.nextId) start (.hook .prepare) before →
    ∃ tree verified after place text, start.files = some tree ∧
      Hook.Ends runner (.ofPlan .verifyConditions plan c.release.remote) tree
        (c.hooks.at? .verifyConditions) (.ok ()) verified ∧
      Changelog.Topped c.release.changelogFile plan.changelog place text verified after ∧
      before = { start with files := some after }
  unprepared : ∀ e before,
    StopsAt runner c plan (releaseEffects pushes plan start.nextId) start (.hook .prepare) e
      before s →
    s.commits = start.commits ∧ s.heads = start.heads ∧ s.tags = start.tags
  released : ∀ before,
    ComesTo runner c plan (releaseEffects pushes plan start.nextId) start (.tag start.nextId)
      before →
    ∃ branch files, start.current = some branch ∧
      Released c plan branch { start with files := files } before
  pushed_after_tag : s.pushed ≠ start.pushed → s.tag? plan.tag = some start.nextId
  announced_after_push : ∀ before,
    ComesTo runner c plan (releaseEffects pushes plan start.nextId) start (.hook .publish) before →
    before.pushed = start.pushed ++ if pushes then plan.refspecs else []
  merged_after_release : s.merges ≠ start.merges →
    ∃ published, Performed runner c plan (releaseEffects pushes plan start.nextId) start published

section Consequences

variable {sync : MergeStatus} {id : CommitId}

/-- Where nothing is merged, no merge is recorded. -/
theorem merges_releaseEffects (pushes : Bool) (plan : Plan) (id : CommitId) :
    ∀ effect ∈ releaseEffects pushes plan id, effect.merges = [] := by
  cases pushes <;>
    simp [releaseEffects, publishingEffects, committingEffects, pushEffects, Effect.merges]

theorem tag_mem_releaseEffects (pushes : Bool) (plan : Plan) (id : CommitId) :
    .tag id ∈ releaseEffects pushes plan id := by
  simp [releaseEffects, publishingEffects, committingEffects]

/-- Only the changelog was written when a release comes to the prepare hook, after the hook that may
stop it. -/
theorem ComesTo.topped_of_prepare
    (comes : ComesTo runner c plan (releaseEffects pushes plan id) start (.hook .prepare) before) :
    ∃ tree verified after place text, start.files = some tree ∧
      Hook.Ends runner (.ofPlan .verifyConditions plan c.release.remote) tree
        (c.hooks.at? .verifyConditions) (.ok ()) verified ∧
      Changelog.Topped c.release.changelogFile plan.changelog place text verified after ∧
      before = { start with files := some after } := by
  obtain ⟨done, rest, split, performed⟩ := comes
  have front : releaseEffects pushes plan id = [.hook .verifyConditions, .changelog]
      ++ .hook .prepare :: ([.commit, .tag id] ++ (pushEffects pushes plan.refspecs
        ++ [.hook .publish])) := rfl
  rw [front, List.append_cons_inj_of_notMem (by simp) (by cases pushes <;> simp [pushEffects])]
    at split
  obtain ⟨rfl, -⟩ := split
  cases performed with
  | cons verified performed =>
  cases performed with
  | cons written performed =>
  cases performed with
  | nil =>
  cases verified with
  | hook found ends =>
  cases written with
  | written found' topped =>
  cases found'
  exact ⟨_, _, _, _, _, found, ends, topped, rfl⟩

/-- Only the release commit was added to the commits when a release comes to the tag. -/
theorem ComesTo.released_of_tag
    (comes : ComesTo runner c plan (releaseEffects pushes plan id) start (.tag id) before) :
    ∃ branch files, start.current = some branch ∧
      Released c plan branch { start with files := files } before := by
  obtain ⟨done, rest, split, performed⟩ := comes
  have front : releaseEffects pushes plan id
      = ([.hook .verifyConditions, .changelog, .hook .prepare] ++ [.commit])
        ++ .tag id :: (pushEffects pushes plan.refspecs ++ [.hook .publish]) := rfl
  rw [front, List.append_cons_inj_of_notMem (by simp) (by cases pushes <;> simp [pushEffects])]
    at split
  obtain ⟨rfl, -⟩ := split
  obtain ⟨prepared, first, second⟩ := performed.append_inv
  have files := first.adds.files_only (by simp [Effect.onFiles])
  cases second with
  | cons committed second =>
  cases second with
  | nil =>
  cases committed with
  | committed current released =>
  rw [files] at current released
  exact ⟨_, _, current, released⟩

/-- What is to be pushed is pushed when a release comes to the publish hook. -/
theorem ComesTo.pushed_of_publish
    (comes : ComesTo runner c plan (releaseEffects pushes plan id) start (.hook .publish) before) :
    before.pushed = start.pushed ++ if pushes then plan.refspecs else [] := by
  obtain ⟨done, rest, split, performed⟩ := comes
  have front : releaseEffects pushes plan id
      = ([.hook .verifyConditions, .changelog, .hook .prepare, .commit, .tag id]
        ++ pushEffects pushes plan.refspecs) ++ .hook .publish :: [] := by
    simp [releaseEffects, publishingEffects, committingEffects]
  rw [front, List.append_cons_inj_of_notMem (by cases pushes <;> simp [pushEffects]) (by simp)]
    at split
  obtain ⟨rfl, -⟩ := split
  rw [performed.adds.pushed_eq]
  cases pushes <;> simp [pushEffects, Effect.refspecs]

/-- As far as a release goes, it makes the tag before it pushes anything. -/
theorem ComesTo.tag_of_pushed
    (comes : ComesTo runner c plan (releaseEffects pushes plan id) start effect before)
    (pushed : before.pushed ≠ start.pushed) : before.tag? plan.tag = some id := by
  obtain ⟨done, rest, split, performed⟩ := comes
  have through : done <+: releaseEffects pushes plan id := ⟨effect :: rest, split.symm⟩
  have front : [.hook .verifyConditions, .changelog, .hook .prepare, .commit, .tag id]
      <+: releaseEffects pushes plan id := by
    simp [releaseEffects, publishingEffects, committingEffects]
  rcases List.prefix_or_prefix_of_prefix through front with early | late
  · -- Up to the tag nothing is pushed.
    have silent : done.flatMap Effect.refspecs = [] := by
      rw [List.flatMap_eq_nil_iff]
      intro other listed
      have := early.subset listed
      simp only [List.mem_cons, List.not_mem_nil, or_false] at this
      rcases this with rfl | rfl | rfl | rfl | rfl <;> rfl
    rw [performed.adds.pushed_eq, silent, List.append_nil] at pushed
    exact absurd rfl pushed
  · exact performed.adds.tag_eq id (late.subset (by simp))

/-- Up to the publish hook nothing is merged. -/
theorem ComesTo.merges_eq
    (comes : ComesTo runner c plan (releaseEffects pushes plan id) start effect before) :
    before.merges = start.merges := by
  obtain ⟨done, rest, split, performed⟩ := comes
  have silent : done.flatMap Effect.merges = [] := by
    rw [List.flatMap_eq_nil_iff]
    intro other listed
    refine merges_releaseEffects pushes plan id other ?_
    rw [split]
    exact List.mem_append_left _ listed
  rw [performed.adds.merges_eq, silent, List.append_nil]

/-- The merge leaves tags as they are. -/
theorem MergesBack.tag_kept (merges : MergesBack runner c pushes plan published sync s)
    {name : String} (there : published.tag? name = some id) : s.tag? name = some id := by
  cases merges with
  | notRequired => exact there
  | completed _ performed => exact performed.adds.tag_kept name id there
  | failed _ stops =>
      obtain ⟨done, rest, -, performed⟩ := stops.comes
      rw [stops.files_only]
      exact performed.adds.tag_kept name id there

end Consequences

/-- A run that has a plan to publish ends with its effects in order. -/
theorem release_in_order (due : Due c request date r branch p plan) {known : Except Error RunResult}
    (ran : (runRequest runner c request date).apply r = (known, s)) :
    InOrder runner c request.pushes p plan (runWarnings c r request p)
      (r.withFetch request.pushes) known s := by
  have unprepared : ∀ e before, StopsAt runner c plan
      (releaseEffects request.pushes plan (r.withFetch request.pushes).nextId)
      (r.withFetch request.pushes) (.hook .prepare) e before s →
      s.commits = (r.withFetch request.pushes).commits ∧
        s.heads = (r.withFetch request.pushes).heads ∧
        s.tags = (r.withFetch request.pushes).tags := by
    intro e before stops
    obtain ⟨_, _, _, _, _, -, -, -, same⟩ := stops.comes.topped_of_prepare
    rw [stops.files_only, same]
    exact ⟨rfl, rfl, rfl⟩
  rcases due.ends ran with ⟨e, rfl, ends⟩ | ⟨published, sync, rfl, ends, merges⟩
  · cases ends with
    | @stopped effect _ before _ stops =>
    exact {
      ends := Or.inl ⟨effect, e, before, rfl, stops⟩
      topped := fun _ comes => comes.topped_of_prepare
      unprepared := unprepared
      released := fun _ comes => comes.released_of_tag
      pushed_after_tag := by
        rw [stops.files_only]
        exact stops.comes.tag_of_pushed
      announced_after_push := fun _ comes => comes.pushed_of_publish
      merged_after_release := by
        intro merged
        rw [stops.files_only] at merged
        exact absurd stops.comes.merges_eq merged }
  · cases ends with
    | performed performed =>
    exact {
      ends := Or.inr ⟨published, sync, rfl, performed, merges⟩
      topped := fun _ comes => comes.topped_of_prepare
      unprepared := unprepared
      released := fun _ comes => comes.released_of_tag
      pushed_after_tag := fun _ =>
        merges.tag_kept (performed.adds.tag_eq _ (tag_mem_releaseEffects _ _ _))
      announced_after_push := fun _ comes => comes.pushed_of_publish
      merged_after_release := fun _ => ⟨published, performed⟩ }

/-- The fragment of the first release. -/
def firstFragment : String :=
  "## 1.0.0 (2026-01-09)\n\n### :sparkles: FEATURE\n\n* Add search.\n"

/-- Where the push fails, the first release stops there: the changelog is written, the release
commit and the tag are made, and nothing is pushed. -/
theorem first_release_in_order :
    ∃ p plan e s,
      Due .standard ⟨none, false, true⟩ ⟨2026, 1, 9⟩ (unreleased true) "release" p plan ∧
      (runRequest idleRunner .standard ⟨none, false, true⟩ ⟨2026, 1, 9⟩).apply (unreleased true)
        = (.error e, s) ∧
      (∃ effect, StopsAt idleRunner .standard plan (releaseEffects true plan 2)
        ((unreleased true).withFetch true) effect e s s) ∧
      s.files.bind (FileTree.node? · ["CHANGELOG.md"])
        = some (.file ("# Changelog\n\n" ++ firstFragment)) ∧
      s.commit? 2 = some ⟨"release: 1.0.0.\n\n" ++ firstFragment, [1]⟩ ∧
      s.head? "release" = some 2 ∧ s.tag? "v1.0.0" = some 2 ∧
      s.committed = [(ReleasePolicy.standard.assets, "release: 1.0.0.\n\n" ++ firstFragment)] ∧
      s.pushed = [] := by
  have planned : (firstPlan? true).isSome = true := by decide +kernel
  obtain ⟨plan, hplan⟩ := Option.isSome_iff_exists.mp planned
  obtain ⟨p, prepared, hplan⟩ := Option.bind_eq_some_iff.mp hplan
  have due : Due .standard ⟨none, false, true⟩ ⟨2026, 1, 9⟩ (unreleased true) "release" p plan :=
    ⟨rfl, rfl, rfl, Result.toOption_eq_some.mp prepared, hplan⟩
  have known : (let done := (runRequest idleRunner .standard ⟨none, false, true⟩
        ⟨2026, 1, 9⟩).apply (unreleased true)
      (done.1.toOption.isNone, done.2.head? "release", done.2.tag? "v1.0.0", done.2.pushed))
        = (true, some 2, some 2, []) := by decide +kernel
  have texts : (let done := (runRequest idleRunner .standard ⟨none, false, true⟩
        ⟨2026, 1, 9⟩).apply (unreleased true)
      (done.2.files.bind (FileTree.node? · ["CHANGELOG.md"]), done.2.commit? 2,
        done.2.committed))
        = (some (.file ("# Changelog\n\n" ++ firstFragment)),
          some ⟨"release: 1.0.0.\n\n" ++ firstFragment, [1]⟩,
          [(ReleasePolicy.standard.assets, "release: 1.0.0.\n\n" ++ firstFragment)]) := by
    decide +kernel
  cases ran : (runRequest idleRunner .standard ⟨none, false, true⟩ ⟨2026, 1, 9⟩).apply
      (unreleased true) with
  | mk result s =>
  simp only [ran, Prod.mk.injEq] at known texts
  obtain ⟨failed, head, tag, pushed⟩ := known
  obtain ⟨changelog, commit, listed⟩ := texts
  rcases (release_in_order due ran).ends with ⟨effect, e, before, rfl, stops⟩ | ⟨_, _, rfl, -⟩
  · obtain rfl := stops.eq_before fun _ _ _ _ => rfl
    exact ⟨p, plan, e, s, due, rfl, ⟨effect, stops⟩, changelog, commit, head, tag, listed, pushed⟩
  · cases failed

end ReleasePlanner
