import ReleasePlanner.Proofs.Repository.Merges
import ReleasePlanner.Proofs.Workflow.Isolation

/-!
# The merge after a stable release

A stable release that was merged back stays visible on the prerelease branch
(`backmerge_visible`).  However the merge comes about, the prerelease branch
reaches the release commit after it (`Running.exists_merged`).  Whatever is done
then only extends the repository, so this stays (`Leads.extension`).  The
planner sees the tag, and every candidate that it plans leads to a version above
the release.

Tags may be on commits that are not there, since only branches are looked at.
-/

namespace ReleasePlanner

open MemoryRepository

variable {r s t : MemoryRepository} {runner : CommandRunner} {c : Config} {pushes : Bool}
  {request : RunRequest} {date : Date} {p : Prepared} {plan : Plan} {branch : String}
  {pattern : TagPattern} {first v : Version} {bypass : Pattern} {linter : Linter} {id : CommitId}

/-! ## What a completed merge leaves -/

/-- A merge that was completed was asked for, and it worked. -/
theorem mergeBack_of_completed {m : Option Backmerge}
    (h : (mergeAfter (collaborator runner c pushes) m).apply r = (.ok .completed, s)) :
    ∃ back, m = some back ∧ (mergeBack c pushes back).apply r = (.ok (), s) := by
  cases m with
  | none => cases h
  | some back =>
      refine ⟨back, rfl, ?_⟩
      rw [mergeAfter, Step.apply_bind, Step.apply_attempt] at h
      cases hback : (mergeBack c pushes back).apply r with
      | mk result after =>
          simp only [collaborator, hback] at h
          cases result with
          | ok _ =>
              cases h
              rfl
          | error e => cases h

/-- After the merge the target reaches what the source points at. -/
theorem exists_head_of_mergeBack {back : Backmerge} (rooted : r.Rooted)
    (h : (mergeBack c pushes back).apply r = (.ok (), s)) (hhead : r.head? back.source = some id) :
    ∃ new, s.head? back.target = some new ∧ Reaches s.parents new id := by
  have merging := Steady.mergeBranch rooted back.source back.target
  rw [mergeBack, Step.apply_bind, apply_mergeBranch] at h
  split at h
  next joined middle merged =>
    rw [merged] at merging
    obtain ⟨new, hnew, hreach⟩ := exists_head_of_mergeBranch rooted merged hhead
    have pushed := steady_pushIf merging.rooted pushes c.release.remote [branchRefspec back.target]
    rw [h] at pushed
    exact pushed.exists_head hnew hreach
  next => cases h

/-- What was published is the head of the branch that was checked out. -/
theorem Publishing.crowned (current : r.current = some branch)
    (ends : Publishing runner c pushes plan r (.ok ()) s) :
    ∃ id, Crowned r s branch plan.tag plan.message id := by
  cases ends with
  | published _ hbranch =>
      rw [current, Option.some.injEq] at hbranch
      subst hbranch
      exact ⟨r.nextId, crowned_pushed c plan _ _ branch⟩

/-- A run whose merge was completed leaves the tag of its plan reachable from the prerelease
branch. -/
theorem Running.exists_merged {result : RunResult} {outcome : Outcome} (rooted : r.Rooted)
    (running : Running runner c request date r (.ok result) t)
    (published : result.outcome = some outcome) (completed : outcome.sync = .completed) :
    ∃ id head, Due c request date r c.release.branches.release result.prepared outcome.plan ∧
      t.tag? outcome.plan.tag = some id ∧ t.head? c.release.branches.prerelease = some head ∧
      Reaches t.parents head id := by
  cases running with
  | idle => cases published
  | released due hverify ends hmerge =>
      cases published
      cases completed
      obtain ⟨verified, current, -⟩ := due.verified rooted hverify
      have after := (ends.extension verified.rooted).rooted
      obtain ⟨id, crowned⟩ := ends.crowned current
      obtain ⟨back, hsync, hback⟩ := mergeBack_of_completed hmerge
      obtain ⟨rfl, rfl⟩ := due.sync_eq_some hsync
      obtain ⟨head, hnew, hreach⟩ := exists_head_of_mergeBack after hback crowned.head_eq
      have kept := (steady_mergeAfter after hmerge).grows.tags_kept
      exact ⟨id, head, due, kept _ id crowned.tag_eq, hnew, hreach⟩

/-! ## What is seen from the prerelease branch -/

/-- Whatever was tagged before, a decision about a branch of a track leads to a plan or to none. -/
theorem exists_plan_branchOf (promises : c.Promises pattern first bypass)
    (hlegal : Identifier.legal c.release.branches.prereleaseId.toList = true) (track : Track)
    {h : History} (kinds : h.OnTracks c.release.branches.prereleaseId) (d : Decision)
    (date : Date) :
    ∃ plan, c.release.plan (c.release.branches.branchOf track) d h date = .ok plan := by
  have htrack := BranchLayout.trackOf_branchOf promises.branches_ne track
  cases fires : d.level.fires with
  | false => exact ⟨none, ReleasePolicy.plan_eq_none promises.pattern_ok htrack fires date⟩
  | true =>
      obtain ⟨v, -, planned⟩ :=
        ReleasePolicy.exists_plan_of_fires promises hlegal track kinds fires date
      exact ⟨_, planned⟩

theorem exists_planUnlessBlocked (promises : c.Promises pattern first bypass)
    (hlegal : Identifier.legal c.release.branches.prereleaseId.toList = true) (track : Track)
    {h : History} (kinds : h.OnTracks c.release.branches.prereleaseId) (report : LintReport)
    (d : Decision) (date : Date) :
    ∃ plan, planUnlessBlocked c.release (c.release.branches.branchOf track) report d h date
      = .ok plan := by
  rw [planUnlessBlocked]
  split
  · exact ⟨none, rfl⟩
  · exact exists_plan_branchOf promises hlegal track kinds d date

/-- Under a valid configuration a branch of a track can be prepared. -/
theorem exists_prepared_branchOf (promises : c.Promises pattern first bypass)
    (hlegal : Identifier.legal c.release.branches.prereleaseId.toList = true) (track : Track)
    {head : CommitId} (hhead : r.head? (c.release.branches.branchOf track) = some head)
    (date : Date) : ∃ p, r.prepared c (c.release.branches.branchOf track) date = .ok p := by
  have htrack := BranchLayout.trackOf_branchOf promises.branches_ne track
  obtain ⟨plan, hplan⟩ := exists_planUnlessBlocked promises hlegal track
    (History.onTracks_ofTags _ _ _) _ _ date
  exact ⟨_, prepared_eq_ok promises.pattern_ok promises.linter_ok htrack hhead rfl rfl rfl hplan⟩

/-- A stable release that can be reached is not above the latest one. -/
theorem Prepared.Describes.exists_stable (known : p.Describes r c branch date pattern linter)
    (rooted : r.Rooted) (stable : v.pre = none) (fits : v.Fits)
    (htag : r.tag? (pattern.format v) = some id) (hreach : Reaches r.parents p.head id) :
    ∃ latest, p.history.stable = some latest ∧ latest.below v = false := by
  have held := rooted.head_held branch p.head known.head_eq
  have named : History.Names pattern (r.releaseTags pattern p.head) v :=
    (names_releaseTags_iff_of_rooted rooted held).mpr
      ⟨_, id, TagPattern.parse?_format fits (Version.wellNamed_of_stable stable), htag, hreach⟩
  have latest := History.isLatest_stable pattern c.release.branches.prereleaseId
    (r.releaseTags pattern p.head)
  rw [← known.history_eq] at latest
  cases hstable : p.history.stable with
  | none =>
      rw [hstable] at latest
      exact absurd ⟨stable, named⟩ (latest v)
  | some l =>
      rw [hstable] at latest
      exact ⟨l, rfl, latest.2 v ⟨stable, named⟩⟩

/-- A candidate that is planned leads to a version above the latest stable one. -/
theorem Prepared.Describes.below_base {stable : Version}
    (known : p.Describes r c c.release.branches.prerelease date pattern linter)
    (promises : c.Promises pattern first bypass)
    (hlegal : Identifier.legal c.release.branches.prereleaseId.toList = true)
    (hstable : p.history.stable = some stable) (hplan : p.plan = some plan) :
    stable.below plan.version.base = true := by
  have planned := known.planned hplan
  have kinds : p.history.OnTracks c.release.branches.prereleaseId := by
    rw [known.history_eq]
    exact History.onTracks_ofTags _ _ _
  have onBranch : plan.track = .prerelease :=
    (known.planTrack_eq hplan).trans (known.track_eq promises.branches_ne)
  obtain ⟨v, hnext, leads, -⟩ := ReleasePolicy.exists_next_prerelease promises.first_ok
    promises.first_stable hlegal kinds planned.fires
  have next := planned.version_ok
  rw [onBranch, hnext, Except.ok.injEq] at next
  rw [← next]
  exact leads stable hstable

/-! ## Releases that were merged back -/

/-- A stable release whose merge into the prerelease branch was completed stays visible there,
whatever is committed, merged, run or checked out afterwards.  Its tag can be reached from the
branch, no earlier version is taken for the latest stable one, and every plan leads to a version
above it.  The numbers of the released version are ones that can be read. -/
theorem backmerge_visible (valid : c.validate = .ok ())
    (hlegal : Identifier.legal c.release.branches.prereleaseId.toList = true)
    (assembled : Assembled r) {result : RunResult} {outcome : Outcome}
    (ran : (runRequest runner c request date).apply r = (.ok result, t))
    (published : result.outcome = some outcome) (completed : outcome.sync = .completed)
    (fits : outcome.plan.version.Fits) (later : Leads runner c (fun _ _ => True) t s) :
    ∃ id head, s.tag? outcome.plan.tag = some id ∧
      s.head? c.release.branches.prerelease = some head ∧ Reaches s.parents head id ∧
      ∀ date, ∃ p, ((Prepared.ofBranch c c.release.branches.prerelease date).apply s).1 = .ok p ∧
        (∃ stable, p.history.stable = some stable ∧
          stable.below outcome.plan.version = false) ∧
        ∀ plan, p.plan = some plan → outcome.plan.version.below plan.version.base = true := by
  obtain ⟨pattern, first, bypass, promises⟩ := Config.exists_promises valid
  have running := running_runRequest runner c request date r
  simp only [ran] at running
  obtain ⟨id, old, due, htag, hold, hreached⟩ :=
    running.exists_merged assembled.rooted published completed
  have extension := later.extension (running.extension assembled.rooted).rooted
  obtain ⟨head, hhead, hreach⟩ := extension.exists_head hold hreached
  have there := extension.grows.tags_kept _ id htag
  refine ⟨id, head, there, hhead, hreach, ?_⟩
  intro date
  have released := Prepared.describes promises due.prepared_ok
  have stable : outcome.plan.version.pre = none := by
    have onRelease : result.prepared.track = .release := released.track_eq promises.branches_ne
    have onTrack := released.onTrack promises due.plan_eq
    rwa [released.planTrack_eq due.plan_eq, onRelease] at onTrack
  obtain ⟨p, prepared⟩ : ∃ p, s.prepared c c.release.branches.prerelease date = .ok p :=
    exists_prepared_branchOf promises hlegal .prerelease hhead date
  have known := Prepared.describes promises prepared
  have same : p.head = head := Option.some.inj (known.head_eq.symm.trans hhead)
  rw [(released.planned due.plan_eq).tag_eq] at there
  obtain ⟨latest, hlatest, notAbove⟩ :=
    known.exists_stable extension.rooted stable fits there (same ▸ hreach)
  refine ⟨p, by rw [ofBranch_apply, prepared], ⟨latest, hlatest, notAbove⟩, ?_⟩
  intro plan hplan
  exact Version.below_of_notBelow_of_below notAbove
    (known.below_base promises hlegal hlatest hplan)

/-- A release branch that is checked out, a prerelease branch that has moved on from it, and a tag
on no commit. -/
def MemoryRepository.divided : MemoryRepository :=
  Operation.perform
    (Operation.perform branchedOff (.addCommit "release-candidate" "feat: Add filters."))
    (.addTag "v0.9.0" 40)

theorem assembled_divided : Assembled divided :=
  .step _ (.step _ (.step _ (built_unreleased false).assembled))

/-- The run that makes the first release. -/
def firstRun : Except Error RunResult × MemoryRepository :=
  (runRequest idleRunner .standard ⟨none, false, false⟩ ⟨2026, 1, 9⟩).apply divided

/-- A correction on the prerelease branch after it. -/
def MemoryRepository.resumed : MemoryRepository :=
  Action.perform idleRunner .standard firstRun.2 (.commit .prerelease "fix: Handle nulls.")

/-- The plan of the candidate after the correction. -/
def nextCandidate? : Option Plan :=
  (resumed.prepared .standard Config.standard.release.branches.prerelease
    ⟨2026, 1, 9⟩).toOption.bind Prepared.plan

/-- The first release is merged into a branch with other work.  The candidate that is planned after
a correction there leads to a version above it. -/
theorem first_release_visible :
    ∃ outcome plan, firstRun.1.toOption.bind RunResult.outcome = some outcome ∧
      outcome.plan.version = .stable 1 0 0 ∧ nextCandidate? = some plan ∧
      outcome.plan.version.below plan.version.base = true := by
  have known : ((firstRun.1.toOption.bind RunResult.outcome).map
      fun outcome => (outcome.plan.version, outcome.sync)) = some (.stable 1 0 0, .completed) := by
    decide +kernel
  have planned : nextCandidate?.isSome = true := by decide +kernel
  obtain ⟨outcome, hreleased, hknown⟩ := Option.map_eq_some_iff.mp known
  simp only [Prod.mk.injEq] at hknown
  obtain ⟨hversion, completed⟩ := hknown
  obtain ⟨result, hresult, published⟩ := Option.bind_eq_some_iff.mp hreleased
  have ran : (runRequest idleRunner .standard ⟨none, false, false⟩ ⟨2026, 1, 9⟩).apply divided
      = (.ok result, firstRun.2) := Result.eq_ok_of_toOption_fst hresult
  have fits : outcome.plan.version.Fits := by
    rw [hversion]
    exact fits_stable (by decide) (by decide) (by decide)
  have later : Leads idleRunner .standard (fun _ _ => True) firstRun.2 resumed :=
    .step (.commit .prerelease "fix: Handle nulls.") .refl True.intro
  obtain ⟨id, head, -, -, -, visible⟩ :=
    backmerge_visible Config.validate_standard (by decide) assembled_divided ran published
      completed fits later
  obtain ⟨p, prepared, -, above⟩ := visible ⟨2026, 1, 9⟩
  obtain ⟨plan, hplan⟩ := Option.isSome_iff_exists.mp planned
  refine ⟨outcome, plan, hreleased, hversion, hplan, above plan ?_⟩
  rw [ofBranch_apply] at prepared
  obtain ⟨p', hp', hplan⟩ := Option.bind_eq_some_iff.mp hplan
  have same : p' = p := Except.ok.inj ((Result.toOption_eq_some.mp hp').symm.trans prepared)
  rwa [← same]

end ReleasePlanner
