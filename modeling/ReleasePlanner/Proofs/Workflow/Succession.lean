import ReleasePlanner.Proofs.Release.Plan
import ReleasePlanner.Proofs.Workflow.Growth

/-!
# Releases succeed one another

Two branches are worked on from an empty repository: by commits, by making the
missing branch from the other one, by merges in either direction, and by runs
(`Action`).  However this goes on, the releases of a track succeed one another:
every new tag names a version above all versions of its track that were tagged
before, and no run finds its tag taken (`releases_succeed`).

What carries this is that the tags of a track stay reachable from its branch
(`Orderly`).  So the planner, which only looks at the tags that are reachable
from one branch, sees all tags of the track.
-/

namespace ReleasePlanner

open MemoryRepository

/-! ## Working on two branches -/

/-- The other track. -/
def Track.other : Track → Track
  | .release => .prerelease
  | .prerelease => .release

/-- What may be done to a repository. -/
inductive Action where
  /-- A commit on a branch. -/
  | commit (track : Track) (message : String)
  /-- Makes a branch from the other one, if it is missing. -/
  | branchOff (track : Track)
  /-- Checks a branch out. -/
  | checkout (branch : String)
  /-- Merges a branch into the other one. -/
  | merge (source : Track)
  /-- Lets merges, pushes and fetches fail or work. -/
  | sabotage (merges pushes fetches : Bool)
  /-- A run. -/
  | run (request : RunRequest) (date : Date)

/-- The repository after an action. -/
def Action.perform (runner : CommandRunner) (c : Config) (r : MemoryRepository) :
    Action → MemoryRepository
  | .commit track message => r.addCommit (c.release.branches.branchOf track) message
  | .branchOff track =>
    match r.head? (c.release.branches.branchOf track) with
    | some _ => r
    | none =>
      ((createBranch (c.release.branches.branchOf track)
        (c.release.branches.branchOf track.other)).apply r).2
  | .checkout branch => r.checkout branch
  | .merge source =>
    ((mergeBranch (c.release.branches.branchOf source)
      (c.release.branches.branchOf source.other)).apply r).2
  | .sabotage merges pushes fetches =>
    { r with mergesFail := merges, pushesFail := pushes, fetchesFail := fetches }
  | .run request date => ((runRequest runner c request date).apply r).2

/-- The numbers of the version that a run plans fit. -/
def RunFits (c : Config) (request : RunRequest) (date : Date) (r : MemoryRepository) : Prop :=
  ∀ branch p plan, request.branchIn r = some branch →
    ((Prepared.ofBranch c branch date).apply r).1 = .ok p → p.plan = some plan →
      plan.version.Fits

/-- The numbers of the version that an action plans fit. -/
def Action.Fits (c : Config) (r : MemoryRepository) : Action → Prop
  | .run request date => RunFits c request date r
  | _ => True

/-- What can be reached from a repository without commits, branches and tags. -/
inductive Reachable (runner : CommandRunner) (c : Config) : MemoryRepository → Prop where
  | start {r : MemoryRepository} :
      r.commits = [] → r.heads = [] → r.tags = [] →
      Reachable runner c r
  | step {r : MemoryRepository} (action : Action) :
      Reachable runner c r → action.Fits c r →
      Reachable runner c (action.perform runner c r)

/-! ## The invariant -/

variable {r s : MemoryRepository} {runner : CommandRunner} {c : Config} {pattern : TagPattern}
  {first : Version} {bypass : Pattern} {request : RunRequest} {date : Date} {p : Prepared}
  {plan : Plan} {branch name : String}

/-- A tag names a version of a track, and its commit can be reached from the branch of the
track. -/
def NamesRelease (c : Config) (pattern : TagPattern) (r : MemoryRepository) (name : String)
    (id : CommitId) (v : Version) (track : Track) : Prop :=
  v.OnTrack c.release.branches.prereleaseId track ∧ v.Fits ∧ name = pattern.format v ∧
    ∃ head, r.head? (c.release.branches.branchOf track) = some head ∧ Reaches r.parents head id

/-- Every tag names a version of a track and can be reached from the branch of the track. -/
structure Orderly (c : Config) (pattern : TagPattern) (r : MemoryRepository) : Prop where
  sound : r.Sound
  named : ∀ name id, r.tag? name = some id → ∃ v track, NamesRelease c pattern r name id v track

namespace Orderly

theorem blank (commits : r.commits = []) (heads : r.heads = []) (tags : r.tags = []) :
    Orderly c pattern r where
  sound := .blank commits heads tags
  named name id htag := by
    rw [tag?, tags] at htag
    cases htag

/-- A branch that moves on still reaches the tags of its track. -/
theorem namesRelease_grows {id : CommitId} {v : Version} {track : Track} (grows : Grows r s)
    (names : NamesRelease c pattern r name id v track) :
    NamesRelease c pattern s name id v track := by
  obtain ⟨onTrack, fits, hname, head, hhead, hreach⟩ := names
  obtain ⟨new, hnew, hmoved⟩ := grows.head_moves _ head hhead
  exact ⟨onTrack, fits, hname, new, hnew, hmoved.trans (grows.reaches hreach)⟩

theorem kept (orderly : Orderly c pattern r) (kept : Kept r s) : Orderly c pattern s where
  sound := kept.sound
  named name id htag := by
    rw [kept.tag?_eq] at htag
    obtain ⟨v, track, names⟩ := orderly.named name id htag
    exact ⟨v, track, namesRelease_grows kept.grows names⟩

theorem tagged (orderly : Orderly c pattern r) {v : Version} {track : Track}
    (onTrack : v.OnTrack c.release.branches.prereleaseId track) (fits : v.Fits)
    (tagged : Tagged r s (c.release.branches.branchOf track) (pattern.format v)) :
    Orderly c pattern s where
  sound := tagged.sound
  named name id htag := by
    obtain ⟨new, head, htags, hhead, hreach⟩ := tagged.added
    rw [htags] at htag
    split at htag
    next same =>
      cases htag
      exact ⟨v, track, onTrack, fits, same, head, hhead, hreach⟩
    next =>
      obtain ⟨w, other, names⟩ := orderly.named name id htag
      exact ⟨w, other, namesRelease_grows tagged.grows names⟩

/-- The version of a tag. -/
theorem parse?_eq {id : CommitId} {v : Version} {track : Track}
    (hid : PreRelease.checkIdentifier c.release.branches.prereleaseId.toList = .ok ())
    (names : NamesRelease c pattern r name id v track) : pattern.parse? name = some v := by
  obtain ⟨onTrack, fits, rfl, -⟩ := names
  exact TagPattern.parse?_format fits (onTrack.wellNamed hid)

end Orderly

/-! ## What is planned is new -/

/-- A planned version belongs to the track of the branch, and every version of the track that was
tagged before is below it. -/
theorem Orderly.below_planned (orderly : Orderly c pattern r)
    (promises : c.Promises pattern first bypass)
    (hlegal : Identifier.legal c.release.branches.prereleaseId.toList = true)
    (prepared : r.prepared c branch date = .ok p) (hplan : p.plan = some plan) :
    plan.tag = pattern.format plan.version ∧
      plan.version.OnTrack c.release.branches.prereleaseId plan.track ∧
      c.release.branches.branchOf plan.track = branch ∧
      ∀ name id v, r.tag? name = some id → NamesRelease c pattern r name id v plan.track →
        v.below plan.version = true := by
  have known := Prepared.describes promises prepared
  have planned := known.planned hplan
  have hbranch := BranchLayout.branchOf_of_trackOf planned.track_ok
  have next := planned.version_ok
  rw [known.history_eq] at next
  obtain ⟨onTrack, habove⟩ := ReleasePolicy.below_nextVersion promises.first_ok
    promises.first_stable hlegal planned.fires next
  refine ⟨planned.tag_eq, onTrack, hbranch, ?_⟩
  intro name id v tagged names
  have hparse := Orderly.parse?_eq promises.identifier_ok names
  obtain ⟨hv, -, -, head, hhead, hreach⟩ := names
  -- The branch of the track is the one that is released, so the planner sees the tag.
  rw [hbranch, known.head_eq] at hhead
  cases hhead
  have held := orderly.sound.head_held branch p.head known.head_eq
  exact habove v hv
    ((names_releaseTags_iff orderly.sound held).mpr ⟨name, id, hparse, tagged, hreach⟩)

theorem RunFits.due (fits : RunFits c request date r) (due : Due c request date r branch p plan) :
    plan.version.Fits := by
  refine fits branch p plan due.branch_eq ?_ due.plan_eq
  rw [ofBranch_apply]
  exact due.prepared_ok

/-- The tag of a plan is not there yet. -/
theorem Orderly.not_taken (orderly : Orderly c pattern r)
    (promises : c.Promises pattern first bypass)
    (hlegal : Identifier.legal c.release.branches.prereleaseId.toList = true)
    (fits : RunFits c request date r) (due : Due c request date r branch p plan) {id : CommitId} :
    r.tag? plan.tag ≠ some id := by
  intro there
  obtain ⟨htag, onTrack, -, habove⟩ :=
    orderly.below_planned promises hlegal due.prepared_ok due.plan_eq
  obtain ⟨v, track, names⟩ := orderly.named plan.tag id there
  have hparse := Orderly.parse?_eq promises.identifier_ok names
  rw [htag, TagPattern.parse?_format (fits.due due) (onTrack.wellNamed promises.identifier_ok),
    Option.some.injEq] at hparse
  subst hparse
  have same : track = plan.track := names.1.unique onTrack rfl
  subst same
  -- The version of the tag would have to be below itself.
  have hbelow := habove plan.tag id plan.version there names
  rw [Version.not_below_self] at hbelow
  cases hbelow

/-! ## The invariant is kept -/

/-- An action keeps the tags, or it is a run that makes the tag of its plan. -/
theorem Action.adds (runner : CommandRunner) (c : Config) (sound : r.Sound) (action : Action) :
    Kept r (action.perform runner c r) ∨
      ∃ request date branch p plan, action = .run request date ∧
        Due c request date r branch p plan ∧
        Tagged r (action.perform runner c r) branch plan.tag := by
  cases action with
  | commit track message => exact Or.inl (Kept.addCommit sound _ _)
  | branchOff track =>
      refine Or.inl ?_
      rw [perform]
      split
      next => exact Kept.refl sound
      next missing => exact (Steady.createBranch sound.rooted missing _).kept sound
  | checkout branch => exact Or.inl (Kept.of_eq sound rfl rfl rfl)
  | merge source => exact Or.inl ((Steady.mergeBranch sound.rooted _ _).kept sound)
  | sabotage merges pushes fetches => exact Or.inl (Kept.of_eq sound rfl rfl rfl)
  | run request date =>
      rcases (running_runRequest runner c request date r).adds sound with
        kept | ⟨branch, p, plan, due, tagged⟩
      · exact Or.inl kept
      · exact Or.inr ⟨request, date, branch, p, plan, rfl, due, tagged⟩

/-- Whatever is done extends the repository. -/
theorem Action.extension (runner : CommandRunner) (c : Config) (rooted : r.Rooted)
    (action : Action) : Extends r (action.perform runner c r) := by
  cases action with
  | commit track message => exact (Steady.addCommit rooted _ _).toExtends
  | branchOff track =>
      rw [perform]
      split
      next => exact .refl rooted
      next missing => exact (Steady.createBranch rooted missing _).toExtends
  | checkout branch => exact .of_eq rooted rfl rfl rfl
  | merge source => exact (Steady.mergeBranch rooted _ _).toExtends
  | sabotage merges pushes fetches => exact .of_eq rooted rfl rfl rfl
  | run request date => exact (running_runRequest runner c request date r).extension rooted

theorem Orderly.perform (orderly : Orderly c pattern r) (promises : c.Promises pattern first bypass)
    (hlegal : Identifier.legal c.release.branches.prereleaseId.toList = true) (action : Action)
    (fits : action.Fits c r) : Orderly c pattern (action.perform runner c r) := by
  rcases action.adds runner c orderly.sound with
    kept | ⟨request, date, branch, p, plan, rfl, due, tagged⟩
  · exact orderly.kept kept
  · obtain ⟨htag, onTrack, hbranch, -⟩ :=
      orderly.below_planned promises hlegal due.prepared_ok due.plan_eq
    rw [htag, ← hbranch] at tagged
    exact orderly.tagged onTrack (RunFits.due fits due) tagged

/-- The invariant holds of everything that can be reached. -/
theorem Reachable.orderly (reachable : Reachable runner c r)
    (promises : c.Promises pattern first bypass)
    (hlegal : Identifier.legal c.release.branches.prereleaseId.toList = true) :
    Orderly c pattern r := by
  induction reachable with
  | start commits heads tags => exact .blank commits heads tags
  | step action _ fits ih => exact ih.perform promises hlegal action fits

/-! ## The succession of releases -/

/-- Tags stay, and no run finds its tag taken.  A new tag is made on the branch of its track, and
the version it names is above all versions of its kind that were tagged before. -/
theorem releases_succeed (valid : c.validate = .ok ())
    (hlegal : Identifier.legal c.release.branches.prereleaseId.toList = true)
    (reachable : Reachable runner c r) (action : Action) (fits : action.Fits c r) :
    (∀ name id, r.tag? name = some id → (action.perform runner c r).tag? name = some id) ∧
      (∀ request date name, action = .run request date →
        ((runRequest runner c request date).apply r).1
          ≠ .error (.tag (.alreadyExists name))) ∧
      ∃ pattern, c.release.tagPattern = .ok pattern ∧
        ∀ name id, r.tag? name = none → (action.perform runner c r).tag? name = some id →
          ∃ track v, r.current = some (c.release.branches.branchOf track) ∧
            pattern.parse? name = some v ∧ (v.isPreRelease = true ↔ track = .prerelease) ∧
            ∀ old id w, r.tag? old = some id → pattern.parse? old = some w →
              w.isPreRelease = v.isPreRelease → w.below v = true := by
  obtain ⟨pattern, first, bypass, promises⟩ := Config.exists_promises valid
  have orderly := reachable.orderly promises hlegal
  have adds := action.adds runner c orderly.sound
  refine ⟨?_, ?_, pattern, promises.pattern_ok, ?_⟩
  · intro name id there
    rcases adds with kept | ⟨request, date, branch, p, plan, -, -, tagged⟩
    · exact kept.grows.tags_kept name id there
    · exact tagged.grows.tags_kept name id there
  · rintro request date name rfl failed
    have running := running_runRequest runner c request date r
    simp only [failed] at running
    obtain ⟨branch, p, plan, id, due, -, there⟩ := running.taken_inv orderly.sound
    exact orderly.not_taken promises hlegal fits due there
  · intro name id free there
    rcases adds with kept | ⟨request, date, branch, p, plan, rfl, due, tagged⟩
    · rw [kept.tag?_eq, free] at there
      cases there
    have hname := tagged.eq_of_new free there
    obtain ⟨htag, onTrack, hbranch, habove⟩ :=
      orderly.below_planned promises hlegal due.prepared_ok due.plan_eq
    refine ⟨plan.track, plan.version, ?_, ?_, onTrack.isPreRelease_iff, ?_⟩
    · rw [hbranch]
      exact due.current_eq
    · rw [hname, htag]
      exact TagPattern.parse?_format (RunFits.due fits due)
        (onTrack.wellNamed promises.identifier_ok)
    · intro old id w hold hparse hkind
      obtain ⟨v, track, names⟩ := orderly.named old id hold
      have hparse' := Orderly.parse?_eq promises.identifier_ok names
      rw [hparse, Option.some.injEq] at hparse'
      subst hparse'
      have same : track = plan.track := names.1.unique onTrack hkind
      subst same
      exact habove old id w hold names

theorem runFits_of_version {v : Version} (hbranch : request.branchIn r = some branch)
    (hversion : (((r.prepared c branch date).toOption.bind Prepared.plan).map Plan.version)
      = some v) (fits : v.Fits) : RunFits c request date r := by
  intro other p plan hother prepared hplan
  rw [hbranch] at hother
  cases hother
  rw [ofBranch_apply] at prepared
  simp only at prepared
  rw [prepared] at hversion
  simp only [Except.toOption, Option.bind_some, hplan, Option.map_some, Option.some.injEq]
    at hversion
  rwa [hversion]

/-- A release branch that is checked out and has a first commit. -/
def workedOn : MemoryRepository :=
  Action.perform idleRunner .standard
    (Action.perform idleRunner .standard { empty with files := some .empty }
      (.commit .release "feat: Add search."))
    (.checkout "release")

/-- The same after its first release and a correction. -/
def mended : MemoryRepository :=
  Action.perform idleRunner .standard
    (Action.perform idleRunner .standard workedOn (.run ⟨none, false, false⟩ ⟨2026, 1, 9⟩))
    (.commit .release "fix: Handle nulls.")

theorem runFits_workedOn : RunFits .standard ⟨none, false, false⟩ ⟨2026, 1, 9⟩ workedOn := by
  have version : (((workedOn.prepared .standard "release" ⟨2026, 1, 9⟩).toOption.bind
      Prepared.plan).map Plan.version) = some (.stable 1 0 0) := by decide +kernel
  exact runFits_of_version rfl version (fits_stable (by decide) (by decide) (by decide))

theorem reachable_mended : Reachable idleRunner .standard mended := by
  have worked : Reachable idleRunner .standard workedOn :=
    .step _ (.step _ (.start rfl rfl rfl) True.intro) True.intro
  exact .step (.commit .release "fix: Handle nulls.")
    (.step (.run ⟨none, false, false⟩ ⟨2026, 1, 9⟩) worked runFits_workedOn) True.intro

/-- The second release is made, and it is above the first. -/
theorem second_release_succeeds :
    ∃ pattern v w, Config.standard.release.tagPattern = .ok pattern ∧
      mended.tag? "v1.0.0" = some 2 ∧ pattern.parse? "v1.0.0" = some w ∧
      ((runRequest idleRunner .standard ⟨none, false, false⟩ ⟨2026, 1, 9⟩).apply mended).2.tag?
        "v1.0.1" = some 4 ∧ pattern.parse? "v1.0.1" = some v ∧
      w.below v = true := by
  have known : (mended.current, mended.tag? "v1.0.0", mended.tag? "v1.0.1",
      (((mended.prepared .standard "release" ⟨2026, 1, 9⟩).toOption.bind Prepared.plan).map
        Plan.version),
      ((runRequest idleRunner .standard ⟨none, false, false⟩ ⟨2026, 1, 9⟩).apply mended).2.tag?
        "v1.0.1") = (some "release", some 2, none, some (.stable 1 0 1), some 4) := by
    decide +kernel
  simp only [Prod.mk.injEq] at known
  obtain ⟨current, before, free, version, made⟩ := known
  have fits : RunFits .standard ⟨none, false, false⟩ ⟨2026, 1, 9⟩ mended :=
    runFits_of_version current version (fits_stable (by decide) (by decide) (by decide))
  obtain ⟨-, -, pattern, hpattern, succeeds⟩ :=
    releases_succeed Config.validate_standard (by decide) reachable_mended
      (.run ⟨none, false, false⟩ ⟨2026, 1, 9⟩) fits
  obtain ⟨track, v, -, hparse, -, habove⟩ := succeeds "v1.0.1" 4 free made
  have marked : Config.standard.release.tagPattern.toOption = some ⟨['v'], []⟩ := by decide
  rw [hpattern, Except.toOption, Option.some.injEq] at marked
  subst marked
  have first : TagPattern.parse? ⟨['v'], []⟩ "v1.0.0" = some (.stable 1 0 0) := by decide
  have second : TagPattern.parse? ⟨['v'], []⟩ "v1.0.1" = some (.stable 1 0 1) := by decide
  rw [second] at hparse
  cases hparse
  exact ⟨_, _, _, hpattern, before, first, made, second,
    habove "v1.0.0" 2 _ before first rfl⟩

end ReleasePlanner
