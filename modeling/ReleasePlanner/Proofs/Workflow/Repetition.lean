import ReleasePlanner.Proofs.Release.Progress
import ReleasePlanner.Proofs.Repository.Ranges
import ReleasePlanner.Proofs.Workflow.Footprint

/-!
# Releasing again

After a release there is nothing left to release on its branch.  A second run
finds the tag of the first as the last one, no commits after it, and publishes
nothing (`release_idempotent`).

The planned version is above every version that counts on its track, however
the tags of these are written.  So the new tag, which is read back as this
version, names the one and only latest release (`Due.last?_published`), and the
tag stands at the head of the branch, with nothing after it.
-/

namespace ReleasePlanner

open MemoryRepository

variable {r t : MemoryRepository} {runner : CommandRunner} {c : Config} {pattern : TagPattern}
  {first : Version} {bypass : Pattern} {linter : Linter} {request : RunRequest} {date : Date}
  {p : Prepared} {plan : Plan} {branch : String} {id : CommitId}

/-! ## The tags that are seen after a release -/

/-- What can be reached from a release commit is the commit itself and what its branch reached
before. -/
theorem Crowned.reaches_iff (sound : r.Sound) (known : p.Describes r c branch date pattern linter)
    (tagged : Tagged r t branch plan.tag) (crowned : Crowned r t branch plan.tag plan.message id)
    {other : CommitId} :
    Reaches t.parents id other ↔ other = id ∨ Reaches r.parents p.head other := by
  have only : t.parents id = [p.head] := by
    rw [parents, crowned.commit_eq, known.head_eq]
    rfl
  have held := sound.head_held branch p.head known.head_eq
  rw [Reaches.iff_of_parents_eq only, tagged.grows.reaches_iff sound.rooted held]

/-- A version that is seen after a release was seen before, or it is the one that was released. -/
theorem Due.names_published (sound : r.Sound) (known : p.Describes r c branch date pattern linter)
    (fits : plan.version.Fits) (wellNamed : plan.version.WellNamed)
    (htag : plan.tag = pattern.format plan.version) (tagged : Tagged r t branch plan.tag)
    (crowned : Crowned r t branch plan.tag plan.message id) {w : Version}
    (named : History.Names pattern (t.releaseTags pattern id) w) :
    w = plan.version ∨ History.Names pattern (r.releaseTags pattern p.head) w := by
  have held := tagged.sound.head_held branch id crowned.head_eq
  obtain ⟨tag, other, hparse, hother, hreach⟩ := (names_releaseTags_iff tagged.sound held).mp named
  obtain ⟨new, -, htags, -⟩ := tagged.added
  rw [htags] at hother
  split at hother
  next same =>
    rw [same, htag, TagPattern.parse?_format fits wellNamed, Option.some.injEq] at hparse
    exact Or.inl hparse.symm
  next =>
    -- An old tag is not on the new commit.
    rcases (crowned.reaches_iff sound known tagged).mp hreach with same | old
    · subst same
      exact absurd (sound.tag_held tag other hother) (tagged.on_top other crowned.tag_eq).1
    · exact Or.inr ((names_releaseTags_iff sound (sound.head_held branch p.head known.head_eq)).mpr
        ⟨tag, other, hparse, hother, old⟩)

/-- What was released is the last release. -/
theorem Due.last?_published (sound : r.Sound) (promises : c.Promises pattern first bypass)
    (due : Due c request date r branch p plan)
    (known : p.Describes r c branch date pattern linter) (fits : plan.version.Fits)
    (tagged : Tagged r t branch plan.tag)
    (crowned : Crowned r t branch plan.tag plan.message id) :
    plan.tag = pattern.format plan.version ∧
      (History.ofTags pattern c.release.branches.prereleaseId (t.releaseTags pattern id)).last?
        plan.track = some plan.version := by
  have htag := (known.planned due.plan_eq).tag_eq
  have onTrack := known.onTrack promises due.plan_eq
  have wellNamed := onTrack.wellNamed promises.identifier_ok
  have parsed : pattern.parse? plan.tag = some plan.version := by
    rw [htag]
    exact TagPattern.parse?_format fits wellNamed
  have held := tagged.sound.head_held branch id crowned.head_eq
  refine ⟨htag, (History.isLatest_last? _ _ _ _).eq_of_above ⟨Or.inr onTrack, ?_⟩ ?_⟩
  · exact (names_releaseTags_iff tagged.sound held).mpr
      ⟨plan.tag, id, parsed, crowned.tag_eq, Reaches.refl id⟩
  · rintro w ⟨counts, named⟩
    rcases Due.names_published sound known fits wellNamed htag tagged crowned named with same | old
    · exact Or.inl same
    · exact Or.inr (known.below_planned due.plan_eq counts old)

/-! ## Preparing again -/

/-- After a release there is nothing to release on its branch. -/
theorem Due.prepared_again (sound : r.Sound) (promises : c.Promises pattern first bypass)
    (due : Due c request date r branch p plan) (fits : plan.version.Fits)
    (tagged : Tagged r t branch plan.tag)
    (crowned : Crowned r t branch plan.tag plan.message id) (later : Date) :
    ∃ again, t.prepared c branch later = .ok again ∧ again.plan = none ∧ again.head = id ∧
      again.lastTag = some plan.tag ∧ again.report.commits = [] := by
  have known := Prepared.describes promises due.prepared_ok
  obtain ⟨htag, hlast⟩ := due.last?_published sound promises known fits tagged crowned
  have htrack := (known.planned due.plan_eq).track_ok
  have lastTag : ((History.ofTags pattern c.release.branches.prereleaseId
      (t.releaseTags pattern id)).last? plan.track).map pattern.format = some plan.tag := by
    rw [hlast, htag]
    rfl
  have report : Linter.lint ⟨c.lint, bypass⟩
      (labelled t (t.between ((some plan.tag).bind t.tag?) id)) = ⟨[]⟩ := by
    rw [Option.bind_some, crowned.tag_eq, between_self]
    rfl
  have nothing : ∀ h, planUnlessBlocked c.release branch ⟨[]⟩
      (Decision.ofCommits c.release (LintReport.mk []).accepted) h later = .ok none := by
    intro h
    have passed : (c.release.blockOnRejected && !(LintReport.mk []).passed) = false :=
      Bool.and_false _
    rw [planUnlessBlocked, passed, if_neg Bool.false_ne_true]
    exact ReleasePolicy.plan_eq_none promises.pattern_ok htrack rfl later
  have prepared := prepared_eq_ok promises.pattern_ok known.linter_ok htrack crowned.head_eq rfl
    lastTag report (nothing _)
  exact ⟨_, prepared, rfl, rfl, rfl, rfl⟩

/-- A run without a plan publishes nothing and changes nothing but the count of fetches. -/
theorem Running.idle_of_plan {result : Except Error RunResult}
    (hbranch : request.branchIn r = some branch)
    (current : r.current = some branch) (prepared : r.prepared c branch date = .ok p)
    (unplanned : p.plan = none) (running : Running runner c request date r result t) :
    (∃ warnings, result = .ok ⟨p, none, warnings⟩) ∧ t = r.withFetch request.pushes := by
  rcases running.cases_of_prepared hbranch current prepared with ⟨-, hresult, hafter⟩ | ⟨_, due, -⟩
  · exact ⟨⟨_, hresult⟩, hafter⟩
  · have hplan := due.plan_eq
    rw [unplanned] at hplan
    cases hplan

/-! ## Releasing again -/

/-- Releasing is idempotent.  After a run that released something, a second run on the same branch
finds the new tag as the last one and no commits after it, and it publishes nothing and leaves
commits, branches, tags, pushes, merges and files as they are.  The numbers of the version that was
released are ones that can be read. -/
theorem release_idempotent (valid : c.validate = .ok ()) (built : Built r) {result : RunResult}
    {outcome : Outcome} (ran : (runRequest runner c request date).apply r = (.ok result, t))
    (published : result.outcome = some outcome) (fits : outcome.plan.version.Fits)
    (again : RunRequest) (same : again.branchIn t = request.branchIn r) (later : Date) :
    ∃ second after, (runRequest runner c again later).apply t = (.ok second, after) ∧
      second.outcome = none ∧ second.prepared.plan = none ∧
      second.prepared.lastTag = some outcome.plan.tag ∧ r.tag? outcome.plan.tag = none ∧
      t.tag? outcome.plan.tag = some second.prepared.head ∧
      second.prepared.report.commits = [] ∧
      after.commits = t.commits ∧ after.heads = t.heads ∧ after.tags = t.tags ∧
      after.pushed = t.pushed ∧ after.merges = t.merges ∧ after.committed = t.committed ∧
      after.files = t.files := by
  obtain ⟨pattern, first, bypass, promises⟩ := Config.exists_promises valid
  have running := running_runRequest runner c request date r
  rw [ran] at running
  obtain ⟨branch, id, due, tagged, crowned⟩ :=
    running.exists_published built.sound promises.branches_ne published
  have hbranch := same.trans due.branch_eq
  have current : t.current = some branch :=
    running.confined.current_eq.trans due.current_eq
  obtain ⟨p, prepared, unplanned, hhead, hlast, hreport⟩ :=
    due.prepared_again built.sound promises fits tagged crowned later
  obtain ⟨⟨warnings, hresult⟩, hafter⟩ :=
    (running_runRequest runner c again later t).idle_of_plan hbranch current prepared unplanned
  refine ⟨_, _, Prod.ext hresult hafter, rfl, unplanned, hlast, tagged.free, ?_, hreport, ?_⟩
  · rw [crowned.tag_eq, ← hhead]
  · cases again.pushes with
    | false => exact ⟨rfl, rfl, rfl, rfl, rfl, rfl, rfl⟩
    | true => exact ⟨rfl, rfl, rfl, rfl, rfl, rfl, rfl⟩

/-- The first release is not made once more, although a push is asked for. -/
theorem first_release_once :
    ∃ t second after,
      ((runRequest idleRunner .standard ⟨none, false, true⟩ ⟨2026, 1, 9⟩).apply
        (unreleased false)).2 = t ∧ t.tag? "v1.0.0" = some 2 ∧
      (runRequest idleRunner .standard ⟨some "release", false, true⟩ ⟨2026, 1, 10⟩).apply t
        = (.ok second, after) ∧
      second.outcome = none ∧ second.prepared.lastTag = some "v1.0.0" ∧
      after.commits = t.commits ∧ after.tags = t.tags := by
  cases ran : (runRequest idleRunner .standard ⟨none, false, true⟩ ⟨2026, 1, 9⟩).apply
      (unreleased false) with
  | mk ended t =>
  have known : (let done := (runRequest idleRunner .standard ⟨none, false, true⟩
        ⟨2026, 1, 9⟩).apply (unreleased false)
      ((done.1.toOption.bind RunResult.outcome).map fun o => (o.plan.version, o.plan.tag),
        done.2.tag? "v1.0.0", done.2.current))
        = (some (.stable 1 0 0, "v1.0.0"), some 2, some "release") := by decide +kernel
  simp only [ran, Prod.mk.injEq] at known
  obtain ⟨released, tag, current⟩ := known
  obtain ⟨outcome, houtcome, hknown⟩ := Option.map_eq_some_iff.mp released
  obtain ⟨result, hresult, published⟩ := Option.bind_eq_some_iff.mp houtcome
  obtain ⟨hversion, htag⟩ := Prod.mk.inj hknown
  have fits : outcome.plan.version.Fits := by
    rw [hversion]
    exact fits_stable (by decide) (by decide) (by decide)
  obtain rfl := Result.toOption_eq_some.mp hresult
  obtain ⟨second, after, again, unpublished, -, hlast, -, -, -, commits, -, tags, -⟩ :=
    release_idempotent Config.validate_standard (built_unreleased false) ran published fits
      ⟨some "release", false, true⟩ rfl ⟨2026, 1, 10⟩
  rw [htag] at hlast
  exact ⟨t, second, after, rfl, tag, again, unpublished, hlast, commits, tags⟩

end ReleasePlanner
