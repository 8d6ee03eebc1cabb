import ReleasePlanner.Proofs.Workflow.Isolation
import ReleasePlanner.Proofs.Workflow.Unpublished

/-!
# Fetches and merges that fail

A fetch that fails, and a merge after a release that fails, are only reported.
So two runs on repositories that differ in nothing but whether fetches and
merges fail publish the same (`release_tolerates_failures`).

Most of a run is blind to such failures: a blind step comes to the same result
and does the same to the repository (`Blind`), and sequences of blind steps are
blind.  Only the look for news, which comes first, and the merge, which comes
last, can tell.  The first leaves a warning and the count of fetches.  What the
second leaves is the published repository up to the merge (`UpToMerge`).
-/

namespace ReleasePlanner

open MemoryRepository

variable {r s t base : MemoryRepository} {runner : CommandRunner} {c : Config} {pushes : Bool}
  {request : RunRequest} {date : Date} {branch : String} {p : Prepared} {plan : Plan}
  {merges fetches : Bool}

/-- The repository, where merges and fetches fail or work. -/
def MemoryRepository.failing (r : MemoryRepository) (merges fetches : Bool) : MemoryRepository :=
  { r with mergesFail := merges, fetchesFail := fetches }

/-! ## Blind steps -/

/-- The step does the same whether merges and fetches fail or work. -/
def Blind {α : Type} (step : Step MemoryRepository α) : Prop :=
  ∀ r merges fetches,
    step.apply (r.failing merges fetches)
      = ((step.apply r).1, (step.apply r).2.failing merges fetches)

namespace Blind

variable {α β : Type}

theorem bind {step : Step MemoryRepository α} {f : α → Step MemoryRepository β}
    (first : Blind step) (rest : ∀ a, Blind (f a)) : Blind (step >>= f) := by
  intro r merges fetches
  rw [Step.apply_bind, Step.apply_bind, first]
  cases step.apply r with
  | mk result middle =>
      cases result with
      | ok a => exact rest a middle merges fetches
      | error e => rfl

theorem pure (a : α) : Blind (Pure.pure a) := fun _ _ _ => rfl

theorem onWorkTree (step : Step FileTree α) : Blind (onWorkTree step) := by
  intro r merges fetches
  cases found : r.files with
  | none =>
      rw [onWorkTree_apply_of_none step found,
        onWorkTree_apply_of_none (r := r.failing merges fetches) step found]
  | some tree =>
      rw [onWorkTree_apply step found, onWorkTree_apply (r := r.failing merges fetches) step found]
      rfl

theorem commitPaths (paths : List String) (message : String) :
    Blind (Repository.commitPaths paths message) := by
  intro r merges fetches
  have same : (r.failing merges fetches).current = r.current := rfl
  rw [apply_commitPaths, apply_commitPaths, same]
  cases r.current with
  | none => rfl
  | some branch => rfl

theorem createTag (name : String) (id : CommitId) : Blind (Repository.createTag name id) := by
  intro r merges fetches
  have same : (r.failing merges fetches).tag? name = r.tag? name := rfl
  rw [apply_createTag, apply_createTag, same]
  cases r.tag? name with
  | none => rfl
  | some id => rfl

theorem pushIf (wanted : Bool) (remote : String) (refspecs : List String) :
    Blind (pushIf wanted remote refspecs) := by
  intro r merges fetches
  cases working : wanted && r.pushesFail with
  | true =>
      rw [pushIf_apply_of_failing working,
        pushIf_apply_of_failing (r := r.failing merges fetches) working]
  | false =>
      rw [pushIf_apply working, pushIf_apply (r := r.failing merges fetches) working]
      cases wanted with
      | false => rfl
      | true => rfl

theorem publish (runner : CommandRunner) (c : Config) (pushes : Bool) (plan : Plan) :
    Blind (publish runner c pushes plan) :=
  .bind (.onWorkTree _) fun _ => .bind (.onWorkTree _) fun _ =>
    .bind (.commitPaths _ _) fun _ => .bind (.createTag _ _) fun _ =>
      .bind (.pushIf _ _ _) fun _ => .onWorkTree _

theorem approachPrepared (runner : CommandRunner) (c : Config) (request : RunRequest)
    (news : List Warning) (p : Prepared) : Blind (approachPrepared runner c request news p) := by
  rw [ReleasePlanner.approachPrepared]
  intro r merges fetches
  rw [Step.apply_bind, Step.apply_bind, Step.apply_get, Step.apply_get]
  simp only
  split
  next plan _ _ =>
    have verify : Blind (runHook runner c .verifyConditions plan) := .onWorkTree _
    exact (verify.bind fun _ => .pure _) r merges fetches
  next => rfl

theorem approachFetched (runner : CommandRunner) (c : Config) (request : RunRequest) (date : Date)
    (branch : String) (news : List Warning) :
    Blind (approachFetched runner c request date branch news) := by
  intro r merges fetches
  have same : request.preparation c date branch (r.failing merges fetches)
      = request.preparation c date branch r := rfl
  rw [approachFetched_eq, preparing_apply, preparing_apply, same]
  cases request.preparation c date branch r with
  | error e => rfl
  | ok p => exact approachPrepared runner c request news p r merges fetches

end Blind

/-! ## Up to the merge -/

/-- Publishes the plan that an approach came to, if it came to one. -/
def publishApproached (runner : CommandRunner) (c : Config) (pushes : Bool) :
    Approach → Step MemoryRepository Approach
  | .idle result => return .idle result
  | .ready prepared plan warnings => do
    publish runner c pushes plan
    return .ready prepared plan warnings

/-- What follows publishing: the merge that the plan asks for. -/
def Approach.close (runner : CommandRunner) (c : Config) (pushes : Bool) :
    Approach → Step MemoryRepository RunResult
  | idle result => return result
  | ready prepared plan warnings => do
    let sync ← mergeAfter (collaborator runner c pushes) plan.sync
    return ⟨prepared, some ⟨plan, sync⟩, warnings ++ outcomeWarnings ⟨plan, sync⟩⟩

/-- Whether an approach came to a plan. -/
def Approach.isReady : Approach → Bool
  | idle _ => false
  | ready _ _ _ => true

/-- The result with some warnings in front. -/
def RunResult.announce (news : List Warning) (known : RunResult) : RunResult :=
  { known with warnings := news ++ known.warnings }

/-- The part of a run between the look for news and the merge. -/
def runUnmerged (runner : CommandRunner) (c : Config) (request : RunRequest) (date : Date)
    (branch : String) : Step MemoryRepository Approach := do
  let came ← approachFetched runner c request date branch []
  publishApproached runner c request.pushes came

theorem Approach.goOn_eq (came : Approach) :
    came.goOn runner c pushes
      = publishApproached runner c pushes came >>= Approach.close runner c pushes := by
  cases came with
  | idle result => rfl
  | ready prepared plan warnings =>
      simp only [goOn, execute, publishApproached, close, bind_assoc, pure_bind]
      rfl

theorem Blind.runUnmerged (runner : CommandRunner) (c : Config) (request : RunRequest) (date : Date)
    (branch : String) : Blind (runUnmerged runner c request date branch) := by
  refine .bind (.approachFetched runner c request date branch []) fun came => ?_
  cases came with
  | idle result => exact .pure _
  | ready prepared plan warnings =>
      exact .bind (.publish runner c request.pushes plan) fun _ => .pure _

theorem runPrepared_announce (news : List Warning) :
    runPrepared runner c request news p
      = RunResult.announce news <$> runPrepared runner c request [] p := by
  rw [runPrepared, runPrepared, map_bind]
  congr 1
  funext state
  split
  · simp only [map_bind, map_pure, RunResult.announce, List.nil_append, List.append_assoc]
  · simp only [map_pure, RunResult.announce, List.nil_append]

theorem runFetched_announce (news : List Warning) :
    runFetched runner c request date branch news
      = RunResult.announce news <$> runFetched runner c request date branch [] := by
  rw [runFetched, runFetched]
  simp only [runPrepared_announce news]
  split
  all_goals simp only [map_bind]

/-- A run on a known branch is its blind part, between the news and the merge. -/
theorem runFetched_eq_unmerged (news : List Warning) :
    runFetched runner c request date branch news
      = RunResult.announce news <$>
        (runUnmerged runner c request date branch >>= Approach.close runner c request.pushes) := by
  have split : Approach.goOn runner c request.pushes = fun came =>
      publishApproached runner c request.pushes came >>= Approach.close runner c request.pushes :=
    funext Approach.goOn_eq
  rw [runFetched_announce, runFetched_eq_approach, split, runUnmerged, bind_assoc]

/-! ## What the merge leaves -/

/-- The list with one more entry at most, of some kind. -/
def GrownBy {α : Type} (kind : α → Prop) (as bs : List α) : Prop :=
  bs = as ∨ ∃ a, kind a ∧ bs = as ++ [a]

/-- What a merge may leave: the target has moved, and there may be a merge commit, a record of the
merge and a push of the target. -/
structure UpToMerge (m : Backmerge) (r s : MemoryRepository) : Prop where
  current_eq : s.current = r.current
  head?_eq : ∀ branch, branch ≠ m.target → s.head? branch = r.head? branch
  commits : GrownBy (fun commit => commit.message = mergeMessage m.source m.target)
    r.commits s.commits
  pushed : GrownBy (· = branchRefspec m.target) r.pushed s.pushed
  merges : GrownBy (· = (m.source, m.target)) r.merges s.merges
  tags_eq : s.tags = r.tags
  committed_eq : s.committed = r.committed
  files_eq : s.files = r.files
  fetches_eq : s.fetches = r.fetches
  pushesFail_eq : s.pushesFail = r.pushesFail

namespace UpToMerge

variable {m : Backmerge}

/-- Nothing was merged. -/
theorem refl (m : Backmerge) (r : MemoryRepository) : UpToMerge m r r :=
  ⟨rfl, fun _ _ => rfl, .inl rfl, .inl rfl, .inl rfl, rfl, rfl, rfl, rfl, rfl⟩

/-- Two heads are joined, which is recorded. -/
theorem join (m : Backmerge) (r : MemoryRepository) (a b : CommitId) :
    UpToMerge m r
      ({ r with merges := r.merges ++ [(m.source, m.target)] }.join m.source m.target a b).2 := by
  have recorded : GrownBy (· = (m.source, m.target)) r.merges
      (r.merges ++ [(m.source, m.target)]) := .inr ⟨_, rfl, rfl⟩
  have moved : ∀ (s : MemoryRepository) (id : CommitId) (branch : String), branch ≠ m.target →
      (s.setHead m.target id).head? branch = s.head? branch :=
    fun s id branch different => (head?_setHead s m.target id branch).trans (if_neg different)
  rw [MemoryRepository.join]
  split
  next => exact ⟨rfl, fun _ _ => rfl, .inl rfl, .inl rfl, recorded, rfl, rfl, rfl, rfl, rfl⟩
  next =>
    split
    next => exact ⟨rfl, moved _ _, .inl rfl, .inl rfl, recorded, rfl, rfl, rfl, rfl, rfl⟩
    next =>
      exact ⟨rfl, moved _ _, .inr ⟨_, rfl, rfl⟩, .inl rfl, recorded, rfl, rfl, rfl, rfl, rfl⟩

theorem mergeBranch (m : Backmerge) (r : MemoryRepository) :
    UpToMerge m r ((MemoryRepository.mergeBranch m.source m.target).apply r).2 := by
  rcases mergeBranch_cases r m.source m.target with ⟨e, failed⟩ | ⟨a, b, -, -, _, rfl, merged⟩
  · rw [failed]
    exact refl m r
  · rw [merged]
    exact join m r a b

/-- A merge does not push. -/
theorem pushed_mergeBranch (r : MemoryRepository) (source target : String) :
    ((MemoryRepository.mergeBranch source target).apply r).2.pushed = r.pushed := by
  rcases mergeBranch_cases r source target with ⟨e, failed⟩ | ⟨a, b, -, -, _, rfl, merged⟩
  · rw [failed]
  · rw [merged, MemoryRepository.join]
    split
    next => rfl
    next => split <;> rfl

/-- The target is pushed after the merge. -/
theorem withPush (merged : UpToMerge m r s) (unpushed : s.pushed = r.pushed) (wanted : Bool) :
    UpToMerge m r (s.withPush wanted [branchRefspec m.target]) := by
  cases wanted with
  | false => exact merged
  | true => exact { merged with pushed := .inr ⟨_, rfl, by rw [← unpushed]; rfl⟩ }

theorem mergeBack (m : Backmerge) (r : MemoryRepository) :
    UpToMerge m r ((mergeBack c pushes m).apply r).2 := by
  have merged := mergeBranch m r
  have unpushed := pushed_mergeBranch r m.source m.target
  rw [ReleasePlanner.mergeBack, Step.apply_bind, apply_mergeBranch]
  split
  next a middle h =>
    rw [h] at merged unpushed
    cases failing : pushes && middle.pushesFail with
    | true =>
        rw [pushIf_apply_of_failing failing]
        exact merged
    | false =>
        rw [pushIf_apply failing]
        exact merged.withPush unpushed pushes
  next e middle h =>
    rw [h] at merged
    exact merged

/-- The merge after a release does not fail, whatever comes of it. -/
theorem exists_mergeAfter (runner : CommandRunner) (c : Config) (pushes : Bool) (m : Backmerge)
    (r : MemoryRepository) :
    ∃ sync s, (mergeAfter (collaborator runner c pushes) (some m)).apply r = (.ok sync, s) ∧
      UpToMerge m r s := by
  have merged : UpToMerge m r ((ReleasePlanner.mergeBack c pushes m).apply r).2 := mergeBack m r
  rw [mergeAfter, Step.apply_bind, Step.apply_attempt]
  simp only
  split
  · exact ⟨.completed, _, rfl, merged⟩
  · exact ⟨.failed _, _, rfl, merged⟩

end UpToMerge

/-! ## The released branch -/

/-- Two repositories hold the same release: up to the merge both are the same, and the branch that
is merged has the same commits. -/
structure SameRelease (m : Backmerge) (s t : MemoryRepository) : Prop where
  up_to_merge : ∃ base, UpToMerge m base s ∧ UpToMerge m base t
  released : ∃ head, s.head? m.source = some head ∧ t.head? m.source = some head ∧
    t.history head = s.history head ∧ ∀ id ∈ s.history head, t.commit? id = s.commit? id

theorem GrownBy.isPrefix {α : Type} {kind : α → Prop} {as bs : List α} (h : GrownBy kind as bs) :
    as <+: bs := by
  rcases h with rfl | ⟨a, -, rfl⟩
  · exact List.prefix_rfl
  · exact List.prefix_append as [a]

/-- The merge leaves the branch that is merged as it was. -/
theorem UpToMerge.branch_kept {m : Backmerge} {head : CommitId} (merged : UpToMerge m base s)
    (different : m.source ≠ m.target) (found : base.head? m.source = some head)
    (held : base.Holds head) :
    s.head? m.source = some head ∧ s.history head = base.history head ∧
      ∀ id ∈ base.history head, s.commit? id = base.commit? id := by
  have kept := merged.commits.isPrefix
  refine ⟨(merged.head?_eq m.source different).trans found, history_eq_of_prefix kept held.2, ?_⟩
  intro id reached
  exact commit?_eq_of_prefix kept (Nat.le_trans (le_of_mem_sweep reached) held.2)

theorem SameRelease.of_merged {m : Backmerge} {head : CommitId} (different : m.source ≠ m.target)
    (found : base.head? m.source = some head) (held : base.Holds head)
    (merged : UpToMerge m base s) (merged' : UpToMerge m base t) : SameRelease m s t := by
  obtain ⟨hs, history, commits⟩ := merged.branch_kept different found held
  obtain ⟨ht, history', commits'⟩ := merged'.branch_kept different found held
  refine ⟨⟨base, merged, merged'⟩, head, hs, ht, history'.trans history.symm, ?_⟩
  intro id reached
  rw [history] at reached
  rw [commits id reached, commits' id reached]

/-- Whether merges and fetches fail does not matter for what a merge leaves. -/
theorem UpToMerge.of_failing {m : Backmerge} (merged : UpToMerge m (r.failing merges fetches) s) :
    UpToMerge m r s :=
  ⟨merged.current_eq, merged.head?_eq, merged.commits, merged.pushed, merged.merges,
    merged.tags_eq, merged.committed_eq, merged.files_eq, merged.fetches_eq, merged.pushesFail_eq⟩

/-! ## Where publishing begins -/

section Ready

variable {news warnings : List Warning}

theorem ready_of_approachPrepared {known : Prepared}
    (h : (approachPrepared runner c request news known).apply r
      = (.ok (.ready p plan warnings), s)) :
    known = p ∧ request.rehearsal = false ∧ p.plan = some plan ∧
      (runHook runner c .verifyConditions plan).apply r = (.ok (), s) := by
  rw [approachPrepared, Step.apply_bind, Step.apply_get] at h
  simp only at h
  split at h
  next found hplan earnest =>
    rw [Step.apply_bind] at h
    cases hverify : (runHook runner c .verifyConditions found).apply r with
    | mk verdict verified =>
        rw [hverify] at h
        cases verdict with
        | error e => cases h
        | ok _ =>
            cases h
            exact ⟨rfl, earnest, hplan, hverify⟩
  next => cases h

/-- An approach comes to a plan that is due, and the hook before publishing does not stop it. -/
theorem Due.of_approachFetched (hbranch : request.branchIn r = some branch)
    (h : (approachFetched runner c request date branch news).apply (r.withFetch request.pushes)
      = (.ok (.ready p plan warnings), s)) :
    Due c request date r branch p plan ∧
      (runHook runner c .verifyConditions plan).apply (r.withFetch request.pushes)
        = (.ok (), s) := by
  rw [approachFetched_eq, preparing_apply, preparation_withFetch] at h
  cases hprepared : request.preparation c date branch r with
  | error e =>
      rw [hprepared] at h
      cases h
  | ok known =>
      rw [hprepared] at h
      obtain ⟨rfl, earnest, hplan, hverify⟩ := ready_of_approachPrepared h
      obtain ⟨prepared, current⟩ := RunRequest.prepared_of_preparation hprepared
      exact ⟨⟨hbranch, earnest, current earnest, prepared, hplan⟩, hverify⟩

/-- An approach to a plan is about a known branch. -/
theorem exists_approachFetched
    (h : (approach runner c request date).apply r = (.ok (.ready p plan warnings), s)) :
    ∃ branch news, request.branchIn r = some branch ∧
      (approachFetched runner c request date branch news).apply (r.withFetch request.pushes)
        = (.ok (.ready p plan warnings), s) := by
  rw [approach_eq, opening_apply] at h
  cases opened : request.opened c r with
  | error e =>
      rw [opened] at h
      cases h
  | ok branch =>
      rw [opened] at h
      exact ⟨branch, _, RunRequest.branchIn_of_opened opened, h⟩

end Ready

/-- What is published has a commit at the head of the branch that is checked out. -/
theorem exists_head_of_publish (current : r.current = some branch)
    (h : (publish runner c pushes plan).apply r = (.ok (), s)) :
    ∃ head, s.head? branch = some head ∧ s.Holds head := by
  have ends := publishing_publish runner c pushes plan r
  rw [h] at ends
  cases ends with
  | @published prepared after other _ hother free =>
      rw [current, Option.some.injEq] at hother
      subst hother
      have crowned : Crowned r (((taggedOn c plan r prepared branch).withPush pushes
          plan.refspecs).withFiles after) branch plan.tag plan.message r.nextId :=
        crowned_pushed c plan prepared after branch
      exact ⟨r.nextId, crowned.head_eq, holds_iff.mpr ⟨_, crowned.commit_eq⟩⟩

/-- The hook before publishing leaves the branch checked out. -/
theorem Due.current_verified {verdict : Except Error Unit}
    (due : Due c request date r branch p plan)
    (hverify : (runHook runner c .verifyConditions plan).apply (r.withFetch request.pushes)
      = (verdict, s)) : s.current = some branch := by
  have confined : Confined (fun _ => False) (fun _ => False) (r.withFetch request.pushes) s :=
    confined_runHook hverify
  rw [confined.current_eq, current_withFetch, due.current_eq]

/-- Up to the merge a run comes to a plan when the plan is due and was published. -/
theorem ready_of_runUnmerged {warnings : List Warning} (hbranch : request.branchIn r = some branch)
    (h : (runUnmerged runner c request date branch).apply (r.withFetch request.pushes)
      = (.ok (.ready p plan warnings), s)) :
    Due c request date r branch p plan ∧ ∃ verified, verified.current = some branch ∧
      (publish runner c request.pushes plan).apply verified = (.ok (), s) := by
  rw [runUnmerged, Step.apply_bind] at h
  split at h
  next came verified happroach =>
    cases came with
    | idle known => cases h
    | ready p' plan' warnings' =>
        rw [publishApproached, Step.apply_bind] at h
        split at h
        next published hpublish =>
          cases h
          obtain ⟨due, hverify⟩ := Due.of_approachFetched hbranch happroach
          exact ⟨due, verified, due.current_verified hverify, hpublish⟩
        next => cases h
  next => cases h

/-! ## Two runs -/

/-- The warning is about the commits of a release, and not about a fetch or a merge. -/
def Warning.aboutCommits : Warning → Bool
  | noNewCommits _ _ => true
  | rejectedCommits _ => true
  | fetchFailed _ _ => false
  | syncFailed _ _ _ => false

/-- Two results tell the same of a release: they know the same, they published the same plan, and
they give the same warnings on the commits. -/
structure RunResult.Agrees (known other : RunResult) : Prop where
  prepared_eq : other.prepared = known.prepared
  plan_eq : other.outcome.map Outcome.plan = known.outcome.map Outcome.plan
  warnings_eq : other.warnings.filter Warning.aboutCommits
    = known.warnings.filter Warning.aboutCommits

/-- How two runs compare, where merges and fetches may fail in the second as they did not in the
first, or the other way round.  Both fail with the same error, or both have a result and the
results agree.  What they leave is the same up to the failures, but for a merge where a stable
release was published. -/
inductive Alike (c : Config) (branch : Option String) (merges fetches : Bool) :
    Except Error RunResult × MemoryRepository → Except Error RunResult × MemoryRepository →
      Prop where
  | failed (e : Error) (s : MemoryRepository) :
      Alike c branch merges fetches (.error e, s) (.error e, s.failing merges fetches)
  | unmerged {known other : RunResult} (s : MemoryRepository) :
      known.Agrees other →
      Alike c branch merges fetches (.ok known, s) (.ok other, s.failing merges fetches)
  | merged {known other : RunResult} {s t : MemoryRepository} :
      branch = some c.release.branches.release →
      known.outcome ≠ none →
      known.Agrees other →
      SameRelease ⟨c.release.branches.release, c.release.branches.prerelease⟩ s t →
      Alike c branch merges fetches (.ok known, s) (.ok other, t)

/-- Other news change nothing but the warnings on fetches. -/
theorem RunResult.Agrees.announce {known other : RunResult} {news others : List Warning}
    (agrees : known.Agrees other) (hnews : news.filter Warning.aboutCommits = [])
    (hothers : others.filter Warning.aboutCommits = []) :
    (known.announce news).Agrees (other.announce others) where
  prepared_eq := agrees.prepared_eq
  plan_eq := agrees.plan_eq
  warnings_eq := by
    rw [RunResult.announce, RunResult.announce, List.filter_append, List.filter_append, hnews,
      hothers, agrees.warnings_eq]

theorem filter_fetchWarnings (c : Config) (r : MemoryRepository) (wanted : Bool) :
    (fetchWarnings c r wanted).filter Warning.aboutCommits = [] := by
  rw [fetchWarnings]
  split <;> rfl

theorem filter_outcomeWarnings (o : Outcome) :
    (outcomeWarnings o).filter Warning.aboutCommits = [] := by
  rw [outcomeWarnings]
  split <;> rfl

/-- Whatever comes of the merge, the results agree. -/
theorem RunResult.Agrees.outcome (p : Prepared) (plan : Plan) (warnings : List Warning)
    (sync sync' : MergeStatus) :
    RunResult.Agrees ⟨p, some ⟨plan, sync⟩, warnings ++ outcomeWarnings ⟨plan, sync⟩⟩
      ⟨p, some ⟨plan, sync'⟩, warnings ++ outcomeWarnings ⟨plan, sync'⟩⟩ where
  prepared_eq := rfl
  plan_eq := rfl
  warnings_eq := by
    rw [List.filter_append, List.filter_append, filter_outcomeWarnings, filter_outcomeWarnings]

/-- News in front of the results leave two runs alike. -/
theorem Alike.announce {known : Option String} {news others : List Warning}
    {ended other : Except Error RunResult × MemoryRepository}
    (alike : Alike c known merges fetches ended other)
    (hnews : news.filter Warning.aboutCommits = [])
    (hothers : others.filter Warning.aboutCommits = []) :
    Alike c known merges fetches (ended.1.map (RunResult.announce news), ended.2)
      (other.1.map (RunResult.announce others), other.2) := by
  cases alike with
  | failed e s => exact .failed e s
  | unmerged s agrees => exact .unmerged s (agrees.announce hnews hothers)
  | merged released published agrees same =>
      exact .merged released published (agrees.announce hnews hothers) same

/-- Only the merge can tell, after publishing, whether merges fail. -/
theorem Due.alike_close {warnings : List Warning} {head : CommitId}
    (different : c.release.branches.release ≠ c.release.branches.prerelease)
    (due : Due c request date r branch p plan) (found : base.head? branch = some head)
    (held : base.Holds head) :
    Alike c (request.branchIn r) merges fetches
      (((Approach.ready p plan warnings).close runner c request.pushes).apply base)
      (((Approach.ready p plan warnings).close runner c request.pushes).apply
        (base.failing merges fetches)) := by
  simp only [Approach.close, Step.apply_bind]
  cases hsync : plan.sync with
  | none => exact .unmerged base (.outcome p plan warnings _ _)
  | some m =>
      obtain ⟨released, rfl⟩ := due.sync_eq_some hsync
      obtain ⟨sync, s, hs, merged⟩ := UpToMerge.exists_mergeAfter runner c request.pushes
        ⟨c.release.branches.release, c.release.branches.prerelease⟩ base
      obtain ⟨sync', t, ht, merged'⟩ := UpToMerge.exists_mergeAfter runner c request.pushes
        ⟨c.release.branches.release, c.release.branches.prerelease⟩ (base.failing merges fetches)
      rw [hs, ht]
      rw [released] at found
      exact .merged (due.branch_eq.trans (congrArg some released)) (Option.some_ne_none _)
        (.outcome p plan warnings sync sync')
        (.of_merged different found held merged merged'.of_failing)

/-- Two runs on a branch that is on a track are alike. -/
theorem alike_runFetched
    (different : c.release.branches.release ≠ c.release.branches.prerelease)
    (hbranch : request.branchIn r = some branch) {news others : List Warning}
    (hnews : news.filter Warning.aboutCommits = [])
    (hothers : others.filter Warning.aboutCommits = []) :
    Alike c (request.branchIn r) merges fetches
      ((runFetched runner c request date branch news).apply (r.withFetch request.pushes))
      ((runFetched runner c request date branch others).apply
        ((r.withFetch request.pushes).failing merges fetches)) := by
  rw [runFetched_eq_unmerged, runFetched_eq_unmerged, Step.apply_map, Step.apply_map]
  refine Alike.announce ?_ hnews hothers
  rw [Step.apply_bind, Step.apply_bind, Blind.runUnmerged runner c request date branch]
  cases hcame : (runUnmerged runner c request date branch).apply (r.withFetch request.pushes) with
  | mk result base =>
      cases result with
      | error e => exact .failed e base
      | ok came =>
          cases came with
          | idle known => exact .unmerged base ⟨rfl, rfl, rfl⟩
          | ready p plan warnings =>
              obtain ⟨due, verified, current, hpublish⟩ := ready_of_runUnmerged hbranch hcame
              obtain ⟨head, found, held⟩ := exists_head_of_publish current hpublish
              exact due.alike_close different found held

theorem withFetch_failing (r : MemoryRepository) (merges fetches wanted : Bool) :
    (r.failing merges fetches).withFetch wanted = (r.withFetch wanted).failing merges fetches := by
  cases wanted with
  | false => rfl
  | true => rfl

/-- Two runs are alike. -/
theorem alike_runRequest (runner : CommandRunner) (request : RunRequest) (date : Date)
    (different : c.release.branches.release ≠ c.release.branches.prerelease)
    (r : MemoryRepository) (merges fetches : Bool) :
    Alike c (request.branchIn r) merges fetches ((runRequest runner c request date).apply r)
      ((runRequest runner c request date).apply (r.failing merges fetches)) := by
  have same : request.opened c (r.failing merges fetches) = request.opened c r := rfl
  rw [runRequest_eq, opening_apply, opening_apply, same]
  cases opened : request.opened c r with
  | error e => exact .failed e r
  | ok branch =>
      simp only
      rw [withFetch_failing]
      exact alike_runFetched different (RunRequest.branchIn_of_opened opened)
        (filter_fetchWarnings c r request.pushes)
        (filter_fetchWarnings c (r.failing merges fetches) request.pushes)

/-- A step that is blind to failures does not change whether merges fail. -/
theorem Blind.mergesFail_eq {α : Type} {step : Step MemoryRepository α} (blind : Blind step)
    (r : MemoryRepository) : (step.apply r).2.mergesFail = r.mergesFail := by
  have same := blind r r.mergesFail r.fetchesFail
  have kept : step.apply (r.failing r.mergesFail r.fetchesFail) = step.apply r := rfl
  rw [← kept, same]
  rfl

/-- A stable release asks for the merge into the prerelease branch. -/
theorem Due.sync_of_release
    (different : c.release.branches.release ≠ c.release.branches.prerelease)
    (due : Due c request date r c.release.branches.release p plan) :
    plan.sync = some ⟨c.release.branches.release, c.release.branches.prerelease⟩ := by
  obtain ⟨pattern, planned⟩ := due.exists_planned
  have released : plan.track = .release :=
    Except.ok.inj (planned.track_ok.symm.trans (BranchLayout.trackOf_branchOf different .release))
  rw [planned.plan_eq, released]
  rfl

/-- A merge that fails is told in the result, and leaves everything as it was. -/
theorem mergeAfter_apply_of_failing {m : Backmerge} (failing : r.mergesFail = true) :
    (mergeAfter (collaborator runner c pushes) (some m)).apply r
      = (.ok (.failed (Error.sync (.conflicts m.source m.target)).message), r) := by
  have conflict : (mergeBranch m.source m.target).apply r
      = (.error (.sync (.conflicts m.source m.target)), r) := by
    rw [mergeBranch, Step.apply_make, if_pos failing]
  have failed : ((collaborator runner c pushes).mergeBack m).apply r
      = (.error (.sync (.conflicts m.source m.target)), r) := by
    show (mergeBack c pushes m).apply r = _
    rw [mergeBack, Step.apply_bind, apply_mergeBranch, conflict]
  rw [mergeAfter, Step.apply_bind, Step.apply_attempt, failed]
  rfl

/-- Whether fetches and merges fail does not change what a run publishes.  Where merges fail, a
stable release that was published stands all the same: the result tells why its merge failed, and
the prerelease branch stays where it was. -/
theorem release_tolerates_failures (valid : c.validate = .ok ()) (merges fetches : Bool) :
    Alike c (request.branchIn r) merges fetches ((runRequest runner c request date).apply r)
        ((runRequest runner c request date).apply (r.failing merges fetches)) ∧
      ∀ p plan warnings verified published,
        r.mergesFail = true → request.branchIn r = some c.release.branches.release →
        (approach runner c request date).apply r = (.ok (.ready p plan warnings), verified) →
        (publish runner c request.pushes plan).apply verified = (.ok (), published) →
        let reason := (Error.sync (.conflicts c.release.branches.release
          c.release.branches.prerelease)).message
        (runRequest runner c request date).apply r
            = (.ok ⟨p, some ⟨plan, .failed reason⟩, warnings ++ [.syncFailed
                c.release.branches.release c.release.branches.prerelease reason]⟩, published) ∧
          published.head? c.release.branches.prerelease
            = r.head? c.release.branches.prerelease := by
  obtain ⟨pattern, first, bypass, promises⟩ := Config.exists_promises valid
  refine ⟨alike_runRequest runner request date promises.branches_ne r merges fetches, ?_⟩
  intro p plan warnings verified published failing released happroach hpublish reason
  obtain ⟨branch, news, hbranch, hfetched⟩ := exists_approachFetched happroach
  rw [released, Option.some.injEq] at hbranch
  subst hbranch
  obtain ⟨due, hverify⟩ := Due.of_approachFetched released hfetched
  have merging : published.mergesFail = true := by
    have hverified := (Blind.approachFetched runner c request date
      c.release.branches.release news).mergesFail_eq (r.withFetch request.pushes)
    have hpublished := (Blind.publish runner c request.pushes plan).mergesFail_eq verified
    have hfetch : (r.withFetch request.pushes).mergesFail = r.mergesFail := by
      cases request.pushes <;> rfl
    rw [hfetched] at hverified
    rw [hpublish] at hpublished
    rw [hpublished, hverified, hfetch, failing]
  constructor
  · rw [runRequest_eq_approach, Step.apply_bind, happroach]
    simp only [Approach.goOn_eq, publishApproached, Approach.close, Step.apply_bind, hpublish,
      Step.apply_pure, due.sync_of_release promises.branches_ne,
      mergeAfter_apply_of_failing merging, outcomeWarnings]
    rfl
  · have ends := publishing_publish runner c request.pushes plan verified
    rw [hpublish] at ends
    have verifying : Confined (· = c.release.branches.release) (fun _ => False) r verified :=
      (confined_withFetch request.pushes).trans (confined_runHook hverify)
    have publishing : Confined (· = c.release.branches.release) (fun _ => False) verified
        published := ends.confined (due.current_verified hverify) rfl
    exact (verifying.trans publishing).head?_eq _ promises.branches_ne.symm

/-- A first release, where neither the fetch nor the merge works. -/
theorem first_release_unmerged :
    ∃ known outcome s, (runRequest idleRunner .standard ⟨none, false, true⟩ ⟨2026, 1, 9⟩).apply
          (branchedOff.failing true true) = (.ok known, s) ∧
        known.outcome = some outcome ∧
        outcome.sync = .failed (Error.sync (.conflicts "release" "release-candidate")).message ∧
        s.tag? "v1.0.0" = some 2 ∧
        s.head? "release-candidate" = branchedOff.head? "release-candidate" ∧
        Alike .standard (some "release") false false (.ok known, s)
          ((runRequest idleRunner .standard ⟨none, false, true⟩ ⟨2026, 1, 9⟩).apply
            branchedOff) := by
  have requested : RunRequest.branchIn ⟨none, false, true⟩ (branchedOff.failing true true)
      = some "release" := by decide +kernel
  have computed : ((((approach idleRunner .standard ⟨none, false, true⟩ ⟨2026, 1, 9⟩
      >>= publishApproached idleRunner .standard true).apply
        (branchedOff.failing true true)).1.toOption.any Approach.isReady),
      ((approach idleRunner .standard ⟨none, false, true⟩ ⟨2026, 1, 9⟩
        >>= publishApproached idleRunner .standard true).apply
          (branchedOff.failing true true)).2.tag? "v1.0.0") = (true, some 2) := by
    decide +kernel
  obtain ⟨alike, unmerged⟩ := @release_tolerates_failures (branchedOff.failing true true)
    idleRunner .standard ⟨none, false, true⟩ ⟨2026, 1, 9⟩ Config.validate_standard false false
  simp only [Step.apply_bind, Prod.mk.injEq] at computed
  cases happroach : (approach idleRunner .standard ⟨none, false, true⟩ ⟨2026, 1, 9⟩).apply
      (branchedOff.failing true true) with
  | mk came verified =>
  rw [happroach] at computed
  cases came with
  | error e => exact absurd computed.1 Bool.false_ne_true
  | ok came =>
  cases came with
  | idle known => exact absurd computed.1 Bool.false_ne_true
  | ready p plan warnings =>
  simp only [publishApproached, Step.apply_bind] at computed
  cases hpublish : (publish idleRunner .standard true plan).apply verified with
  | mk result published =>
  rw [hpublish] at computed
  cases result with
  | error e => exact absurd computed.1 Bool.false_ne_true
  | ok _ =>
  obtain ⟨ran, unmoved⟩ := unmerged p plan warnings verified published rfl requested happroach
    hpublish
  rw [ran, requested] at alike
  exact ⟨_, _, published, ran, rfl, rfl, computed.2, unmoved, alike⟩

end ReleasePlanner
