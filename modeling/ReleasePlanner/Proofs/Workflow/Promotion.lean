import ReleasePlanner.Proofs.Changelog
import ReleasePlanner.Proofs.Repository.Merges
import ReleasePlanner.Proofs.Workflow.Candidates

/-!
# Releasing what was tried

The release that follows a series of candidates has the version that the last
candidate led to (`promotion_agrees`).  The version of the candidate came about
step by step, from what each range asked for, while that of the release is
computed in one go from the whole range, in which the release commits of the
candidates stand as well.  Both agree since every candidate leads to what all
commits before it ask for together (`Candidates`).

The merge before the release only moves the release branch forward
(`mergeBranch_forward`), the tag of the release is free, and the changelog can
be written as it was for the candidate.  So nothing can keep the release from
being made but a push that fails, and this fails when it is made.
-/

namespace ReleasePlanner

open MemoryRepository

variable {r t u w : MemoryRepository} {runner : CommandRunner} {c : Config} {request : RunRequest}
  {date : Date} {branch : String} {p : Prepared} {plan : Plan} {tree written : FileTree}
  {result : Except Error RunResult} {s : Version} {start : CommitId} {pushes : Bool}

/-! ## The merge before the release -/

/-- A merge into a branch that is behind moves it forward and touches no files. -/
theorem mergeBranch_forward {source target : String} {a b merged : CommitId} (sound : r.Sound)
    (hsource : r.head? source = some a) (htarget : r.head? target = some b)
    (behind : Reaches r.parents a b)
    (h : (mergeBranch source target).apply r = (.ok merged, t)) :
    t.head? target = some a ∧ t.files = r.files := by
  have joins := Joins.of_mergeBranch sound.rooted hsource htarget h
  obtain ⟨-, either, ahead, -⟩ := joins.forward (Or.inr behind)
  have reached : Reaches r.parents a merged := by
    rcases either with same | same
    · rw [same]
      exact .refl a
    · rw [same]
      exact behind
  have same : merged = a := ahead.antisymm sound.descending reached
  refine ⟨joins.head_eq.trans (congrArg some same), ?_⟩
  rw [joins.rest_eq]
  rfl

/-! ## Publishing without hooks -/

/-- What was published without hooks left the files with the changelog. -/
theorem Publishing.exists_written (unset : c.hooks = .standard)
    (ends : Publishing runner c pushes plan r (.ok ()) t) :
    ∃ tree written, t.files = some written ∧
      Changelog.update tree c.release.changelogFile plan.changelog = .ok written := by
  cases ends with
  | published ready _ _ _ hhook =>
      obtain ⟨tree, -, hupdate⟩ := (ready_iff_of_unset unset).mp ready
      rw [hookEnd_of_unset unset] at hhook
      cases hhook
      exact ⟨tree, _, rfl, hupdate⟩

/-- No merge follows a pre-release. -/
theorem Due.sync_eq_none (different : c.release.branches.release ≠ c.release.branches.prerelease)
    (due : Due c request date r c.release.branches.prerelease p plan) : plan.sync = none := by
  cases hsync : plan.sync with
  | none => rfl
  | some back => exact absurd (due.sync_eq_some hsync).1.symm different

/-- A run on the prerelease branch that published something left the files with the changelog. -/
theorem Running.exists_written {ended : RunResult} {outcome : Outcome}
    (unset : c.hooks = .standard)
    (different : c.release.branches.release ≠ c.release.branches.prerelease)
    (hbranch : request.branchIn r = some c.release.branches.prerelease)
    (running : Running runner c request date r (.ok ended) t)
    (published : ended.outcome = some outcome) :
    ∃ tree written, t.files = some written ∧
      Changelog.update tree c.release.changelogFile outcome.plan.changelog = .ok written := by
  cases running with
  | idle => cases published
  | released due _ ends hmerge =>
      cases published
      obtain rfl := due.eq_branch hbranch
      rw [due.sync_eq_none different] at hmerge
      cases hmerge
      exact ends.exists_written unset

/-- Nothing can keep a plan from being published but a push that fails, and the release is made
even then. -/
theorem Publishing.exists_made (sound : r.Sound) (unset : c.hooks = .standard)
    (found : r.files = some tree)
    (hupdate : Changelog.update tree c.release.changelogFile plan.changelog = .ok written)
    (current : r.current = some branch) (free : r.tag? plan.tag = none)
    {result : Except Error Unit} (ends : Publishing runner c pushes plan r result t) :
    ∃ id, Tagged r t branch plan.tag ∧ Crowned r t branch plan.tag plan.message id ∧
      result = if pushes && r.pushesFail then .error (.remote (.rejected c.release.remote))
        else .ok () := by
  rcases ends.cases_of_updated unset found hupdate with
    ⟨missing, -⟩ | ⟨other, hother, ⟨taken, -⟩ | ⟨-, failing, hresult, rfl⟩ | ⟨-, working, rfl⟩⟩
  · rw [current] at missing
    cases missing
  · exact absurd free taken
  · rw [current, Option.some.injEq] at hother
    subst hother
    rw [if_pos failing]
    exact ⟨_, tagged_taggedOn sound free _ _, crowned_taggedOn c plan _ _, hresult⟩
  · obtain ⟨_, id, hbranch, tagged, crowned⟩ := ends.exists_crowned sound
    rw [current, Option.some.injEq] at hbranch
    subst hbranch
    rw [working, if_neg Bool.false_ne_true]
    exact ⟨id, tagged, crowned, rfl⟩

/-- So a run with a plan that is due makes the release, whatever becomes of the push. -/
theorem Due.exists_made (sound : r.Sound) (unset : c.hooks = .standard)
    (different : c.release.branches.release ≠ c.release.branches.prerelease)
    (due : Due c request date r branch p plan) (found : r.files = some tree)
    (hupdate : Changelog.update tree c.release.changelogFile plan.changelog = .ok written)
    (free : r.tag? plan.tag = none) (running : Running runner c request date r result t) :
    ∃ id, Tagged r t branch plan.tag ∧ Crowned r t branch plan.tag plan.message id ∧
      ((request.pushes && r.pushesFail) = true ∧
          result = .error (.remote (.rejected c.release.remote)) ∨
        (request.pushes && r.pushesFail) = false ∧
          ∃ sync warnings, result = .ok ⟨p, some ⟨plan, sync⟩, warnings⟩) := by
  have fetched : (r.withFetch request.pushes).files = some tree ∧
      (r.withFetch request.pushes).pushesFail = r.pushesFail := by
    cases request.pushes with
    | false => exact ⟨found, rfl⟩
    | true => exact ⟨found, rfl⟩
  have unhooked : (runHook runner c .verifyConditions plan).apply (r.withFetch request.pushes)
      = (.ok (), r.withFetch request.pushes) := runHook_apply_of_unset unset fetched.1
  obtain ⟨steady, current, heads⟩ := due.verified sound.rooted unhooked
  have kept := steady.kept sound
  have made : ∀ {ended s}, Publishing runner c request.pushes plan (r.withFetch request.pushes)
      ended s → ∃ id, Tagged (r.withFetch request.pushes) s branch plan.tag ∧
        Crowned (r.withFetch request.pushes) s branch plan.tag plan.message id ∧
        ended = if request.pushes && r.pushesFail then
          .error (.remote (.rejected c.release.remote)) else .ok () := by
    intro ended s ends
    rw [← fetched.2]
    exact ends.exists_made kept.sound unset fetched.1 hupdate current
      ((kept.tag?_eq plan.tag).trans free)
  rcases running.cases_of_prepared due.branch_eq due.current_eq due.prepared_ok with
    ⟨idle, -⟩ | ⟨plan', due', ends⟩
  · rcases idle with rehearsal | unplanned
    · rw [due.earnest] at rehearsal
      cases rehearsal
    · rw [due.plan_eq] at unplanned
      cases unplanned
  · have same : plan' = plan := Option.some.inj (due'.plan_eq.symm.trans due.plan_eq)
    subst same
    rw [unhooked] at ends
    rcases ends with
      ⟨e, failed, -⟩ | ⟨verified, passed, ⟨e, ends, rfl⟩ | ⟨s, sync, ends, hmerge, rfl⟩⟩
    · cases failed
    · cases passed
      obtain ⟨id, tagged, crowned, hended⟩ := made ends
      refine ⟨id, .of_kept kept heads tagged, crowned.of_heads_eq heads, ?_⟩
      split at hended
      next failing => exact Or.inl ⟨failing, congrArg _ (Except.error.inj hended)⟩
      next => cases hended
    · cases passed
      obtain ⟨id, tagged, crowned, hended⟩ := made ends
      have after := kept_mergeAfter tagged.sound hmerge
      refine ⟨id, (Tagged.of_kept kept heads tagged).trans_kept after,
        due.crowned_mergeAfter different tagged.sound hmerge (crowned.of_heads_eq heads), ?_⟩
      split at hended
      next => cases hended
      next working => exact Or.inr ⟨Bool.eq_false_iff.mpr working, sync, _, rfl⟩

/-! ## The release after the candidates -/

namespace Candidates

variable {pattern : TagPattern} {first last : Version} {bypass : Pattern} {linter : Linter}
  {tip : CommitId}

/-- A candidate is only made when something is asked for. -/
theorem fires_of_pre (cand : Candidates c pattern linter s start r last tip)
    (stable : s.pre = none) {step : PreRelease} (hpre : last.pre = some step) :
    (r.demand c.release linter (some start) tip).fires = true := by
  rcases cand.stage with same | ⟨-, fires⟩
  · rw [same, stable] at hpre
    cases hpre
  · exact fires

/-- The merge before the release brings the release branch to the last candidate. -/
theorem merged (cand : Candidates c pattern linter s start r last tip) {joined : CommitId}
    (hhead : r.head? c.release.branches.prerelease = some tip)
    (behind : r.head? c.release.branches.release = some start)
    (merges : (mergeBranch c.release.branches.prerelease c.release.branches.release).apply r
      = (.ok joined, w)) :
    Candidates c pattern linter s start w last tip ∧
      w.head? c.release.branches.release = some tip ∧ w.files = r.files := by
  have steady := Steady.mergeBranch cand.sound.rooted c.release.branches.prerelease
    c.release.branches.release
  rw [merges] at steady
  exact ⟨cand.kept (steady.kept cand.sound),
    mergeBranch_forward cand.sound hhead behind cand.tip_reaches merges⟩

/-- Where the release branch stands at the last candidate and the changelog can be written, a run
makes the release that the candidates led to. -/
theorem exists_made (cand : Candidates c pattern ⟨c.lint, bypass⟩ s start r last tip)
    (promises : c.Promises pattern first bypass) (lenient : c.release.blockOnRejected = false)
    (unset : c.hooks = .standard) (stable : s.pre = none) (fits : s.Fits)
    (fires : (r.demand c.release ⟨c.lint, bypass⟩ (some start) tip).fires = true)
    (hhead : r.head? c.release.branches.release = some tip) (found : r.files = some tree)
    (writable : ∀ fragment, ∃ written,
      Changelog.update tree c.release.changelogFile fragment = .ok written)
    (hbranch : request.branchIn r = some c.release.branches.release)
    (current : r.current = some c.release.branches.release) (earnest : request.rehearsal = false)
    (running : Running runner c request date r result t) :
    ∃ id p plan, plan.version = last.base ∧
      Tagged r t c.release.branches.release (pattern.format last.base) ∧
      t.head? c.release.branches.release = some id ∧
      t.tag? (pattern.format last.base) = some id ∧
      ((request.pushes && r.pushesFail) = true ∧
          result = .error (.remote (.rejected c.release.remote)) ∨
        (request.pushes && r.pushesFail) = false ∧
          ∃ sync warnings, result = .ok ⟨p, some ⟨plan, sync⟩, warnings⟩) := by
  obtain ⟨p, plan, prepared, hplan, hversion⟩ :=
    cand.exists_prepared promises lenient stable fits fires hhead date
  have due : Due c request date r c.release.branches.release p plan :=
    ⟨hbranch, earnest, current, prepared, hplan⟩
  have htag : plan.tag = pattern.format last.base := by
    rw [← hversion]
    exact ((Prepared.describes promises prepared).planned hplan).tag_eq
  obtain ⟨written, hupdate⟩ := writable plan.changelog
  have free := cand.free stable fits fires
  rw [← htag] at free
  obtain ⟨id, tagged, crowned, hresult⟩ :=
    due.exists_made cand.sound unset promises.branches_ne found hupdate free running
  rw [← htag]
  exact ⟨id, p, plan, hversion, tagged, crowned.head_eq, crowned.tag_eq, hresult⟩

end Candidates

/-! ## From the candidates to the release -/

theorem format_standard (v : Version) : TagPattern.format ⟨['v'], []⟩ v = "v" ++ v.text := by
  rw [TagPattern.format, Version.text, List.append_nil]
  exact String.ofList_append

/-- Releasing what was tried agrees with the trial.  Let both branches stand at a stable release
whose tag is the only one.  Let any commits on the prerelease branch and runs on it that work be
followed by a run that published a candidate, and let the prerelease branch be merged into the
release branch.  Then a run on the release branch makes exactly the release that the candidate led
to.  A push that fails is reported, but it fails after the release is made.  All numbers of the
versions are ones that can be read. -/
theorem promotion_agrees (built : Built r) (stable : s.pre = none) (fits : s.Fits)
    (hrelease : r.head? "release" = some start)
    (hcandidate : r.head? "release-candidate" = some start)
    (tags : r.tags = [("v" ++ s.text, start)])
    (series : Leads runner .standard (Action.GoesOn runner .standard) r u)
    {last : RunResult} {outcome : Outcome}
    (ran : (runRequest runner .standard request date).apply u = (.ok last, t))
    (onCandidate : request.branchIn u = some "release-candidate")
    (published : last.outcome = some outcome) (small : outcome.plan.version.Fits)
    {merged : CommitId}
    (merges : (mergeBranch "release-candidate" "release").apply t = (.ok merged, w))
    (final : RunRequest) (onRelease : final.branchIn (w.checkout "release") = some "release")
    (earnest : final.rehearsal = false) (later : Date) :
    ∃ n new result after, outcome.plan.version.pre = some ⟨"rc", n⟩ ∧
      (runRequest runner .standard final later).apply (w.checkout "release") = (result, after) ∧
      w.tag? ("v" ++ outcome.plan.version.base.text) = none ∧ ¬w.Holds new ∧
      after.head? "release" = some new ∧
      (∀ name, after.tag? name
        = if name = "v" ++ outcome.plan.version.base.text then some new else w.tag? name) ∧
      ((final.pushes && w.pushesFail) = true ∧
          result = .error (.remote (.rejected "origin")) ∨
        (final.pushes && w.pushesFail) = false ∧ ∃ second released, result = .ok second ∧
          second.outcome = some released ∧
          released.plan.version = outcome.plan.version.base) := by
  obtain ⟨pattern, first, bypass, promises⟩ := Config.exists_promises Config.validate_standard
  have hpattern : pattern = ⟨['v'], []⟩ :=
    Except.ok.inj (promises.pattern_ok.symm.trans Config.tagPattern_standard)
  subst hpattern
  have begun : Candidates .standard ⟨['v'], []⟩ ⟨Config.standard.lint, bypass⟩ s start r s
      start := by
    refine .initial built.sound fits hcandidate ?_
    intro name
    rw [tag?, tags, format_standard]
    exact Catalog.lookup_cons_eq_ite name _ []
  -- The candidates up to the last run, and then the one that it publishes.
  have quiet := quiet_standard ⟨Config.standard.lint, bypass⟩
  obtain ⟨_, _, earlier⟩ := series.exists_candidates promises quiet stable fits begun
  have running := running_runRequest runner .standard request date u
  simp only [ran] at running
  obtain ⟨tip, cand, hhead, n, hpre⟩ :=
    earlier.exists_published promises quiet stable fits onCandidate running published small
  obtain ⟨tree, written, files, hupdate⟩ :=
    running.exists_written rfl promises.branches_ne onCandidate published
  -- The release branch is where it was, so the merge moves it forward.
  have aside := (series.mono fun _ _ goesOn => goesOn.1).untouched promises built.sound.rooted
  have ending : Untouched .standard u t := by
    have untouched : Untouched .standard u ((runRequest runner .standard request date).apply u).2 :=
      Untouched.run aside.rooted promises onCandidate date
    rwa [ran] at untouched
  have behind := (ending.head?_eq.trans aside.head?_eq).trans hrelease
  obtain ⟨there, moved, same_files⟩ := cand.merged hhead behind merges
  have checkedOut : Kept w (w.checkout "release") := Kept.of_eq there.sound rfl rfl rfl
  have after := there.kept checkedOut
  have released := running_runRequest runner .standard final later (w.checkout "release")
  obtain ⟨new, p, plan, hversion, tagged, head, tag, hresult⟩ :=
    after.exists_made promises rfl rfl stable fits (after.fires_of_pre stable hpre) moved
      (same_files.trans files) (Changelog.exists_update_again hupdate) onRelease rfl earnest
      released
  rw [format_standard] at tagged tag
  refine ⟨n, new, _, _, hpre, rfl, tagged.free, (tagged.on_top new tag).1, head,
    tagged.tag?_eq tag, ?_⟩
  rcases hresult with failed | ⟨working, sync, warnings, hok⟩
  · exact Or.inl failed
  · exact Or.inr ⟨working, _, _, hok, rfl, hversion⟩

/-- Both branches at a release with a tag. -/
def MemoryRepository.inStep : MemoryRepository :=
  Operation.perform branchedOff (.createTag "v1.2.0" 1)

theorem built_inStep : Built inStep :=
  .step (.createTag "v1.2.0" 1) (.step _ (built_unreleased false) True.intro)
    ⟨by decide, by decide⟩

/-- The same after a correction, with the prerelease branch checked out. -/
def MemoryRepository.corrected : MemoryRepository :=
  Action.perform idleRunner .standard
    (Action.perform idleRunner .standard inStep (.commit .prerelease "fix: Handle nulls."))
    (.checkout "release-candidate")

/-- The same after a candidate with the correction, and a new feature on top of it. -/
def MemoryRepository.tried : MemoryRepository :=
  Action.perform idleRunner .standard
    (Action.perform idleRunner .standard corrected (.run ⟨none, false, true⟩ ⟨2026, 1, 9⟩))
    (.commit .prerelease "feat: Add filters.")

theorem runWorks_of_version {v : Version}
    (hversion : (((runRequest runner c request date).apply r).1.toOption.bind
      RunResult.outcome).map (fun o => o.plan.version) = some v) (fits : v.Fits) :
    RunWorks runner c request date r := by
  obtain ⟨outcome, houtcome, rfl⟩ := Option.map_eq_some_iff.mp hversion
  obtain ⟨result, hresult, published⟩ := Option.bind_eq_some_iff.mp houtcome
  refine ⟨result, Result.toOption_eq_some.mp hresult, ?_⟩
  intro other hother
  rw [published, Option.some.injEq] at hother
  rwa [← hother]

theorem leads_tried :
    Leads idleRunner .standard (Action.GoesOn idleRunner .standard) inStep tried := by
  have version : (((runRequest idleRunner .standard ⟨none, false, true⟩ ⟨2026, 1, 9⟩).apply
      corrected).1.toOption.bind RunResult.outcome).map (fun o => o.plan.version)
        = some ⟨1, 2, 1, some ⟨"rc", 1⟩⟩ := by decide +kernel
  have works : RunWorks idleRunner .standard ⟨none, false, true⟩ ⟨2026, 1, 9⟩ corrected :=
    runWorks_of_version version (fits_digits (by decide) (by decide) (by decide) (by simp))
  have begun : Leads idleRunner .standard (Action.GoesOn idleRunner .standard) inStep corrected :=
    .step _ (.step _ .refl ⟨rfl, nofun⟩) ⟨True.intro, nofun⟩
  refine .step (.commit .prerelease "feat: Add filters.")
    (.step (.run ⟨none, false, true⟩ ⟨2026, 1, 9⟩) begun ⟨rfl, ?_⟩) ⟨rfl, nofun⟩
  rintro _ _ ⟨⟩
  exact works

/-- A correction and then a feature were tried, and a new minor version is released. -/
theorem feature_promoted :
    ∃ t w new result after,
      ((runRequest idleRunner .standard ⟨none, false, true⟩ ⟨2026, 1, 9⟩).apply tried).2 = t ∧
      t.tag? "v1.2.1-rc.1" = some 3 ∧ t.tag? "v1.3.0-rc.1" = some 5 ∧
      ((mergeBranch "release-candidate" "release").apply t).2 = w ∧
      (runRequest idleRunner .standard ⟨none, false, true⟩ ⟨2026, 1, 12⟩).apply
        (w.checkout "release") = (result, after) ∧
      after.head? "release" = some new ∧ after.tag? "v1.3.0" = some new ∧
      ∃ second released, result = .ok second ∧ second.outcome = some released ∧
        released.plan.version = .stable 1 3 0 := by
  cases ran : (runRequest idleRunner .standard ⟨none, false, true⟩ ⟨2026, 1, 9⟩).apply tried with
  | mk ended t =>
  cases merges : (mergeBranch "release-candidate" "release").apply t with
  | mk joined w =>
  have known : (let done := (runRequest idleRunner .standard ⟨none, false, true⟩
        ⟨2026, 1, 9⟩).apply tried
      let forward := (mergeBranch "release-candidate" "release").apply done.2
      (tried.current, (done.1.toOption.bind RunResult.outcome).map fun o => o.plan.version,
        done.2.tag? "v1.2.1-rc.1", done.2.tag? "v1.3.0-rc.1", forward.1.toOption,
        forward.2.pushesFail))
        = (some "release-candidate", some ⟨1, 3, 0, some ⟨"rc", 1⟩⟩, some 3, some 5, some 5,
          false) := by decide +kernel
  simp only [ran, merges, Prod.mk.injEq] at known
  obtain ⟨current, candidate, correction, feature, forward, working⟩ := known
  obtain ⟨outcome, houtcome, hversion⟩ := Option.map_eq_some_iff.mp candidate
  obtain ⟨last, hlast, published⟩ := Option.bind_eq_some_iff.mp houtcome
  obtain rfl := Result.toOption_eq_some.mp hlast
  obtain rfl := Result.toOption_eq_some.mp forward
  have small : outcome.plan.version.Fits := by
    rw [hversion]
    exact fits_digits (by decide) (by decide) (by decide) (by simp)
  have state : inStep.head? "release" = some 1 ∧ inStep.head? "release-candidate" = some 1 ∧
      inStep.tags = [("v" ++ (Version.stable 1 2 0).text, 1)] := by decide +kernel
  obtain ⟨n, new, result, after, -, final, -, -, head, tags, made⟩ :=
    promotion_agrees built_inStep rfl (fits_stable (by decide) (by decide) (by decide)) state.1
      state.2.1 state.2.2 leads_tried ran current published small merges ⟨none, false, true⟩ rfl rfl
      ⟨2026, 1, 12⟩
  have hbase : outcome.plan.version.base = .stable 1 3 0 := by
    rw [hversion]
    rfl
  rw [hbase] at tags made
  refine ⟨t, w, new, result, after, rfl, correction, feature, by rw [merges], final, head, ?_, ?_⟩
  · rw [tags]
    exact if_pos (by decide +kernel)
  · rcases made with ⟨failing, -⟩ | ⟨-, second, released, hresult, houtcome, hreleased⟩
    · rw [working] at failing
      cases failing
    · exact ⟨second, released, hresult, houtcome, hreleased⟩

end ReleasePlanner
