import ReleasePlanner.Proofs.Workflow.Demand
import ReleasePlanner.Proofs.Workflow.Isolation
import ReleasePlanner.Proofs.Workflow.Repetition

/-!
# Series of release candidates

From a stable release on, commits and runs on the prerelease branch make a
series of candidates.  Each run looks only at the commits since the last
candidate, and it raises the version that the series leads to when they ask for
more than what came before.

So the series leads at any time to the version that all commits up to the last
candidate ask for together (`Candidates`).  One step keeps this
(`Candidates.perform`), and so does every sequence of steps
(`Leads.exists_candidates`).
-/

namespace ReleasePlanner

open MemoryRepository

variable {r t : MemoryRepository} {runner : CommandRunner} {c : Config} {pattern : TagPattern}
  {first : Version} {bypass : Pattern} {linter : Linter} {request : RunRequest} {date : Date}
  {p : Prepared} {plan : Plan} {s last w : Version} {start tip id head : CommitId}

/-! ## The next step -/

/-- The next step leads to what all commits ask for together, if the last one led to what those
before it ask for. -/
theorem ReleasePolicy.base_nextStep {prereleaseId : String} {latest : Option Version}
    {before level : Level} (stable : s.pre = none)
    (hlatest : (latest = none ∧ before = .none) ∨
      ∃ l, latest = some l ∧ l.base = s.bump before) :
    (nextStep prereleaseId (s.bump level) latest).base = s.bump (before.join level) := by
  have aimed : ∀ pre, ((s.bump level).withPre pre).base = s.bump level := fun pre => by
    rw [Version.base_withPre, Version.base_eq_self (Version.pre_bump s level)]
  rcases hlatest with ⟨rfl, rfl⟩ | ⟨l, rfl, hbase⟩
  · rw [nextStep, aimed, Level.join_eq_right (Nat.zero_le _)]
  · rw [nextStep]
    split
    next goesOn =>
      rw [Version.upTo_eq_not_below, hbase, Bool.not_eq_true', ← Bool.not_eq_true,
        Version.bump_below_iff stable, Nat.not_lt] at goesOn
      rw [Version.base_withPre, hbase, Version.base_eq_self (Version.pre_bump s before),
        Level.join_eq_left goesOn]
    next restarts =>
      rw [Version.upTo_eq_not_below, hbase, Bool.not_eq_true', Bool.not_eq_false,
        Version.bump_below_iff stable] at restarts
      rw [aimed, Level.join_eq_right (Nat.le_of_lt restarts)]

/-! ## The invariant -/

/-- What candidates have come to after the stable version `s`, which was released at `start`.  The
last version, at `tip`, is the stable one as long as there is no candidate.  It leads to the version
that the commits up to there ask for, and no other tags are there than those of the stable version
and of candidates up to the last. -/
structure Candidates (c : Config) (pattern : TagPattern) (linter : Linter) (s : Version)
    (start : CommitId) (r : MemoryRepository) (last : Version) (tip : CommitId) : Prop where
  sound : r.Sound
  stable_tag : r.tag? (pattern.format s) = some start
  last_tag : r.tag? (pattern.format last) = some tip
  tip_reaches : Reaches r.parents tip start
  on_branch : ∃ head, r.head? c.release.branches.prerelease = some head ∧ Reaches r.parents head tip
  named : ∀ name id, r.tag? name = some id → name = pattern.format s ∨
    ∃ w, name = pattern.format w ∧ w.Fits ∧ w.OnTrack c.release.branches.prereleaseId .prerelease ∧
      last.OnTrack c.release.branches.prereleaseId .prerelease ∧
      (w = last ∨ w.below last = true)
  fits : last.Fits
  stage : last = s ∨ last.OnTrack c.release.branches.prereleaseId .prerelease ∧
    (r.demand c.release linter (some start) tip).fires = true
  base_eq : last.base = s.bump (r.demand c.release linter (some start) tip)

namespace Candidates

/-- Nothing else counts than commits, tags and the prerelease branch. -/
theorem kept (cand : Candidates c pattern linter s start r last tip) (kept : Kept r t) :
    Candidates c pattern linter s start t last tip := by
  have hsince : ∀ id ∈ some start, r.Holds id := by
    rintro _ ⟨⟩
    exact cand.sound.tag_held _ start cand.stable_tag
  have same : t.demand c.release linter (some start) tip
      = r.demand c.release linter (some start) tip :=
    kept.grows.demand_eq hsince (cand.sound.tag_held _ tip cand.last_tag)
  obtain ⟨head, hhead, hreach⟩ := cand.on_branch
  obtain ⟨new, hnew, hmoved⟩ := kept.grows.head_moves _ head hhead
  refine ⟨kept.sound, ?_, ?_, kept.grows.reaches cand.tip_reaches,
    ⟨new, hnew, hmoved.trans (kept.grows.reaches hreach)⟩, ?_, cand.fits, ?_, ?_⟩
  · rw [kept.tag?_eq, cand.stable_tag]
  · rw [kept.tag?_eq, cand.last_tag]
  · intro name id there
    rw [kept.tag?_eq] at there
    exact cand.named name id there
  · rw [same]
    exact cand.stage
  · rw [same]
    exact cand.base_eq

/-- Before the first candidate the release is the last version. -/
theorem initial (sound : r.Sound) (fits : s.Fits)
    (hhead : r.head? c.release.branches.prerelease = some id)
    (htags : ∀ name, r.tag? name = if name = pattern.format s then some id else none) :
    Candidates c pattern linter s id r s id where
  sound := sound
  stable_tag := by rw [htags, if_pos rfl]
  last_tag := by rw [htags, if_pos rfl]
  tip_reaches := Reaches.refl id
  on_branch := ⟨id, hhead, Reaches.refl id⟩
  named name other there := by
    rw [htags] at there
    split at there
    next same => exact Or.inl same
    next => cases there
  fits := fits
  stage := Or.inl rfl
  base_eq := by
    rw [demand_self]
    rfl

/-! ## What the planner sees -/

theorem counts (cand : Candidates c pattern linter s start r last tip) (stable : s.pre = none) :
    last.CountsOn c.release.branches.prereleaseId .prerelease := by
  rcases cand.stage with rfl | ⟨onTrack, -⟩
  · exact Or.inl stable
  · exact Or.inr onTrack

/-- After the first candidate, the stable version is below the last one. -/
theorem below_last (cand : Candidates c pattern linter s start r last tip) (stable : s.pre = none)
    (fires : (r.demand c.release linter (some start) tip).fires = true) :
    s.below last = true := by
  refine Version.below_of_below_base stable ?_
  rw [cand.base_eq]
  exact Version.below_bump stable fires

/-- The version of every tag is the stable one or that of a candidate. -/
theorem of_names (cand : Candidates c pattern linter s start r last tip)
    (promises : c.Promises pattern first bypass) (stable : s.pre = none) (fits : s.Fits)
    (held : r.Holds head) (named : History.Names pattern (r.releaseTags pattern head) w) :
    w = s ∨ w.OnTrack c.release.branches.prereleaseId .prerelease ∧
      last.OnTrack c.release.branches.prereleaseId .prerelease ∧
      (w = last ∨ w.below last = true) := by
  obtain ⟨tag, id, hparse, htag, -⟩ := (names_releaseTags_iff cand.sound held).mp named
  rcases cand.named tag id htag with rfl | ⟨v, rfl, hfits, onTrack, candidate, order⟩
  · rw [TagPattern.parse?_format fits (Version.wellNamed_of_stable stable),
      Option.some.injEq] at hparse
    exact Or.inl hparse.symm
  · rw [TagPattern.parse?_format hfits (onTrack.wellNamed promises.identifier_ok),
      Option.some.injEq] at hparse
    subst hparse
    exact Or.inr ⟨onTrack, candidate, order⟩

/-- The stable version is the latest one. -/
theorem stable_eq (cand : Candidates c pattern linter s start r last tip)
    (promises : c.Promises pattern first bypass) (stable : s.pre = none) (fits : s.Fits)
    (held : r.Holds head) (hreach : Reaches r.parents head start) :
    (History.ofTags pattern c.release.branches.prereleaseId (r.releaseTags pattern head)).stable
      = some s := by
  refine (History.isLatest_stable _ _ _).eq_of_above ⟨stable, ?_⟩ ?_
  · exact (names_releaseTags_iff cand.sound held).mpr ⟨_, start,
      TagPattern.parse?_format fits (Version.wellNamed_of_stable stable), cand.stable_tag, hreach⟩
  · rintro w ⟨hw, named⟩
    rcases cand.of_names promises stable fits held named with same | ⟨⟨n, hpre⟩, -, -⟩
    · exact Or.inl same
    · rw [show w.pre = none from hw] at hpre
      cases hpre

theorem names_last (cand : Candidates c pattern linter s start r last tip)
    (promises : c.Promises pattern first bypass) (stable : s.pre = none)
    (held : r.Holds head) (hreach : Reaches r.parents head tip) :
    History.Names pattern (r.releaseTags pattern head) last := by
  have wellNamed : last.WellNamed := by
    rcases cand.stage with rfl | ⟨onTrack, -⟩
    · exact Version.wellNamed_of_stable stable
    · exact onTrack.wellNamed promises.identifier_ok
  exact (names_releaseTags_iff cand.sound held).mpr
    ⟨_, tip, TagPattern.parse?_format cand.fits wellNamed, cand.last_tag, hreach⟩

/-- The last candidate is the latest pre-release, and without one there is none. -/
theorem prerelease_eq (cand : Candidates c pattern linter s start r last tip)
    (promises : c.Promises pattern first bypass) (stable : s.pre = none) (fits : s.Fits)
    (held : r.Holds head) (hreach : Reaches r.parents head tip) :
    (History.ofTags pattern c.release.branches.prereleaseId
        (r.releaseTags pattern head)).prerelease
      = if last = s then none else some last := by
  have latest := History.isLatest_prerelease pattern c.release.branches.prereleaseId
    (r.releaseTags pattern head)
  have step : ∀ w, w.OnTrack c.release.branches.prereleaseId .prerelease →
      History.Names pattern (r.releaseTags pattern head) w →
      last.OnTrack c.release.branches.prereleaseId .prerelease ∧
        (w = last ∨ w.below last = true) := by
    rintro w ⟨n, hpre⟩ named
    rcases cand.of_names promises stable fits held named with rfl | ⟨-, candidate, order⟩
    · rw [stable] at hpre
      cases hpre
    · exact ⟨candidate, order⟩
  split
  next same =>
    cases found : (History.ofTags pattern c.release.branches.prereleaseId
        (r.releaseTags pattern head)).prerelease with
    | none => rfl
    | some l =>
        rw [found] at latest
        obtain ⟨⟨n, hpre⟩, -⟩ := step l latest.mem.1 latest.mem.2
        rw [same, stable] at hpre
        cases hpre
  next different =>
    obtain ⟨onTrack, -⟩ := cand.stage.resolve_left different
    exact latest.eq_of_above ⟨onTrack, cand.names_last promises stable held hreach⟩
      fun w hw => (step w hw.1 hw.2).2

/-- The last version is what the next candidate is measured against. -/
theorem last?_eq (cand : Candidates c pattern linter s start r last tip)
    (promises : c.Promises pattern first bypass) (stable : s.pre = none) (fits : s.Fits)
    (held : r.Holds head) (hreach : Reaches r.parents head tip) :
    (History.ofTags pattern c.release.branches.prereleaseId
      (r.releaseTags pattern head)).last? .prerelease = some last := by
  refine (History.isLatest_last? _ _ _ _).eq_of_above
    ⟨cand.counts stable, cand.names_last promises stable held hreach⟩ ?_
  rintro w ⟨-, named⟩
  rcases cand.of_names promises stable fits held named with rfl | ⟨-, -, order⟩
  · rcases cand.stage with same | ⟨-, fires⟩
    · exact Or.inl same.symm
    · exact Or.inr (cand.below_last stable fires)
  · exact order

/-! ## Publishing a candidate -/

/-- Before the first candidate nothing is asked for. -/
theorem demand_eq_none (cand : Candidates c pattern linter s start r last tip)
    (stable : s.pre = none) (same : last = s) :
    r.demand c.release linter (some start) tip = .none := by
  cases fires : (r.demand c.release linter (some start) tip).fires with
  | false => simpa [Level.fires] using fires
  | true =>
      have raised := cand.below_last stable fires
      rw [same, Version.not_below_self] at raised
      cases raised

/-- A run on the prerelease branch goes by what was committed since the last candidate, and it
raises the version that the candidates lead to if this asks for more. -/
theorem base_planned (cand : Candidates c pattern ⟨c.lint, bypass⟩ s start r last tip)
    (promises : c.Promises pattern first bypass) (stable : s.pre = none) (fits : s.Fits)
    (due : Due c request date r c.release.branches.prerelease p plan) :
    Reaches r.parents p.head tip ∧
      (r.demand c.release ⟨c.lint, bypass⟩ (some tip) p.head).fires = true ∧
      plan.version.base = s.bump
        ((r.demand c.release ⟨c.lint, bypass⟩ (some start) tip).join
          (r.demand c.release ⟨c.lint, bypass⟩ (some tip) p.head)) := by
  have known := Prepared.describes promises due.prepared_ok
  have planned := known.planned due.plan_eq
  have onBranch : p.track = .prerelease := known.track_eq promises.branches_ne
  have held := cand.sound.head_held _ p.head known.head_eq
  obtain ⟨head, hhead, hreach⟩ := cand.on_branch
  rw [known.head_eq, Option.some.injEq] at hhead
  subst hhead
  have hlevel := known.level_eq
  rw [known.lastTag_eq, onBranch, known.history_eq,
    cand.last?_eq promises stable fits held hreach, Option.map_some, Option.bind_some,
    cand.last_tag] at hlevel
  have next := planned.version_ok
  rw [known.planTrack_eq due.plan_eq, onBranch, known.history_eq, ReleasePolicy.nextVersion,
    ReleasePolicy.target, cand.stable_eq promises stable fits held (hreach.trans cand.tip_reaches),
    cand.prerelease_eq promises stable fits held hreach, hlevel] at next
  have fires := planned.fires
  rw [hlevel] at fires
  refine ⟨hreach, fires, ?_⟩
  rw [← Except.ok.inj next]
  refine ReleasePolicy.base_nextStep stable ?_
  split
  next same => exact Or.inl ⟨rfl, cand.demand_eq_none stable same⟩
  next => exact Or.inr ⟨last, rfl, cand.base_eq⟩

/-- A run that publishes a candidate puts it at the end of the series. -/
theorem published (cand : Candidates c pattern ⟨c.lint, bypass⟩ s start r last tip)
    (promises : c.Promises pattern first bypass) (quiet : c.Quiet ⟨c.lint, bypass⟩)
    (stable : s.pre = none) (fits : s.Fits)
    (due : Due c request date r c.release.branches.prerelease p plan)
    (tagged : Tagged r t c.release.branches.prerelease plan.tag)
    (crowned : Crowned r t c.release.branches.prerelease plan.tag plan.message id)
    (hfits : plan.version.Fits) :
    Candidates c pattern ⟨c.lint, bypass⟩ s start t plan.version id := by
  have known := Prepared.describes promises due.prepared_ok
  have htag := (known.planned due.plan_eq).tag_eq
  obtain ⟨htrack, onTrack⟩ := due.onPrerelease promises
  obtain ⟨hreach, fires, hbase⟩ := cand.base_planned promises stable fits due
  have held := cand.sound.head_held _ p.head known.head_eq
  have counts : last.CountsOn c.release.branches.prereleaseId plan.track := by
    rw [htrack]
    exact cand.counts stable
  have raised : last.below plan.version = true :=
    known.below_planned due.plan_eq counts (cand.names_last promises stable held hreach)
  have whole : t.demand c.release ⟨c.lint, bypass⟩ (some start) id
      = (r.demand c.release ⟨c.lint, bypass⟩ (some start) tip).join
          (r.demand c.release ⟨c.lint, bypass⟩ (some tip) p.head) := by
    rw [crowned.demand_eq cand.sound tagged.sound tagged.grows known.head_eq
      (hreach.trans cand.tip_reaches) (quiet _ _ _ _ _ _ due),
      demand_cut cand.sound held hreach cand.tip_reaches]
  refine ⟨tagged.sound, tagged.grows.tags_kept _ _ cand.stable_tag, ?_, ?_,
    ⟨id, crowned.head_eq, Reaches.refl id⟩, ?_, hfits, Or.inr ⟨onTrack, ?_⟩, ?_⟩
  · rw [← htag, crowned.tag_eq]
  · exact (crowned.reaches_iff cand.sound known tagged).mpr
      (Or.inr (hreach.trans cand.tip_reaches))
  · intro name other there
    obtain ⟨_, _, htags, -, -⟩ := tagged.added
    rw [htags] at there
    split at there
    next same => exact Or.inr ⟨plan.version, same.trans htag, hfits, onTrack, onTrack, Or.inl rfl⟩
    next =>
      refine (cand.named name other there).imp_right ?_
      rintro ⟨w, hname, hw, candidate, -, order⟩
      refine ⟨w, hname, hw, candidate, onTrack, Or.inr ?_⟩
      rcases order with rfl | order
      · exact raised
      · exact Version.below_trans order raised
  · rw [whole]
    exact Level.fires_join fires
  · rw [hbase, whole]

/-- A run on the prerelease branch that publishes leaves its candidate as the last one. -/
theorem exists_published (cand : Candidates c pattern ⟨c.lint, bypass⟩ s start r last tip)
    (promises : c.Promises pattern first bypass) (quiet : c.Quiet ⟨c.lint, bypass⟩)
    (stable : s.pre = none) (fits : s.Fits)
    (hbranch : request.branchIn r = some c.release.branches.prerelease) {result : RunResult}
    {outcome : Outcome} (running : Running runner c request date r (.ok result) t)
    (published : result.outcome = some outcome) (hfits : outcome.plan.version.Fits) :
    ∃ id, Candidates c pattern ⟨c.lint, bypass⟩ s start t outcome.plan.version id ∧
      t.head? c.release.branches.prerelease = some id ∧
      outcome.plan.version.OnTrack c.release.branches.prereleaseId .prerelease := by
  obtain ⟨branch, id, due, tagged, crowned⟩ :=
    running.exists_published cand.sound promises.branches_ne published
  obtain rfl := due.eq_branch hbranch
  exact ⟨id, cand.published promises quiet stable fits due tagged crowned hfits, crowned.head_eq,
    (due.onPrerelease promises).2⟩

end Candidates

/-! ## The release after the candidates -/

namespace Candidates

/-- The tag of the version that the candidates lead to is not there yet. -/
theorem free (cand : Candidates c pattern linter s start r last tip) (stable : s.pre = none)
    (fits : s.Fits) (fires : (r.demand c.release linter (some start) tip).fires = true) :
    r.tag? (pattern.format last.base) = none := by
  have hbase : last.base.pre = none := rfl
  have hfits : last.base.Fits := ⟨cand.fits.major_le, cand.fits.minor_le, cand.fits.patch_le,
    fun p hp => by cases hp⟩
  cases there : r.tag? (pattern.format last.base) with
  | none => rfl
  | some id =>
      rcases cand.named _ id there with same | ⟨w, same, -, ⟨n, hpre⟩, -⟩
      · have hsame := TagPattern.format_injective hfits (Version.wellNamed_of_stable hbase) fits
          (Version.wellNamed_of_stable stable) same
        have raised := Version.below_bump stable fires
        rw [← cand.base_eq, hsame, Version.not_below_self] at raised
        cases raised
      · exact absurd same (TagPattern.format_ne hbase (by rw [Version.isPreRelease, hpre]; rfl))

/-- Where the release branch stands at the last candidate, the version that the candidates lead to
is released next. -/
theorem exists_prepared (cand : Candidates c pattern ⟨c.lint, bypass⟩ s start r last tip)
    (promises : c.Promises pattern first bypass) (lenient : c.release.blockOnRejected = false)
    (stable : s.pre = none) (fits : s.Fits)
    (fires : (r.demand c.release ⟨c.lint, bypass⟩ (some start) tip).fires = true)
    (hhead : r.head? c.release.branches.release = some tip) (date : Date) :
    ∃ p plan, r.prepared c c.release.branches.release date = .ok p ∧ p.plan = some plan ∧
      plan.version = last.base := by
  have held := cand.sound.head_held _ tip hhead
  have hstable := cand.stable_eq promises stable fits held cand.tip_reaches
  have htrack : c.release.branches.trackOf c.release.branches.release = .ok .release :=
    BranchLayout.trackOf_branchOf promises.branches_ne .release
  generalize hhistory : History.ofTags pattern c.release.branches.prereleaseId
    (r.releaseTags pattern tip) = h at hstable
  have hlast : (h.last? .release).map pattern.format = some (pattern.format s) := by
    rw [History.last?, hstable, Option.map_some]
  generalize hreport : Linter.lint ⟨c.lint, bypass⟩
    (labelled r (r.between ((some (pattern.format s)).bind r.tag?) tip)) = report
  have hlevel : (Decision.ofCommits c.release report.accepted).level
      = r.demand c.release ⟨c.lint, bypass⟩ (some start) tip := by
    rw [← hreport, level_ofCommits_between, Option.bind_some, cand.stable_tag]
  have hversion : c.release.nextVersion .release
      (Decision.ofCommits c.release report.accepted).level h = .ok last.base := by
    rw [ReleasePolicy.nextVersion, ReleasePolicy.target, hstable, hlevel, cand.base_eq]
    rfl
  have above : ∀ w, h.last? .release = some w → w.below last.base = true := by
    intro w hw
    rw [History.last?, hstable, Option.some.injEq] at hw
    rw [← hw, cand.base_eq]
    exact Version.below_bump stable fires
  have planned := ReleasePolicy.plan_eq_ok promises.pattern_ok htrack (hlevel ▸ fires) hversion
    above date
  have unblocked := (planUnlessBlocked_of_lenient lenient _ report _ _ _).trans planned
  exact ⟨_, _, prepared_eq_ok promises.pattern_ok promises.linter_ok htrack hhead hhistory hlast
    hreport unblocked, rfl, rfl⟩

end Candidates

/-! ## Making a series -/

/-- A run works, and the numbers of the version that it releases can be read. -/
def RunWorks (runner : CommandRunner) (c : Config) (request : RunRequest) (date : Date)
    (r : MemoryRepository) : Prop :=
  ∃ result, ((runRequest runner c request date).apply r).1 = .ok result ∧
    ∀ outcome, result.outcome = some outcome → outcome.plan.version.Fits

/-- The action goes on with a series of candidates: a commit on the prerelease branch, checking a
branch out, or a run on the prerelease branch that works. -/
def Action.GoesOn (runner : CommandRunner) (c : Config) (r : MemoryRepository) (action : Action) :
    Prop :=
  action.Aside c r ∧ ∀ request date, action = .run request date → RunWorks runner c request date r

theorem Candidates.perform (cand : Candidates c pattern ⟨c.lint, bypass⟩ s start r last tip)
    (promises : c.Promises pattern first bypass) (quiet : c.Quiet ⟨c.lint, bypass⟩)
    (stable : s.pre = none) (fits : s.Fits) {action : Action} (goesOn : action.GoesOn runner c r) :
    ∃ last tip, Candidates c pattern ⟨c.lint, bypass⟩ s start (action.perform runner c r)
      last tip := by
  obtain ⟨aside, works⟩ := goesOn
  cases action with
  | commit track message => exact ⟨last, tip, cand.kept (Kept.addCommit cand.sound _ message)⟩
  | checkout branch => exact ⟨last, tip, cand.kept (Kept.of_eq cand.sound rfl rfl rfl)⟩
  | run request date =>
      obtain ⟨result, worked, hfits⟩ := works request date rfl
      have running := running_runRequest runner c request date r
      simp only [worked] at running
      cases published : result.outcome with
      | some outcome =>
          obtain ⟨id, after, -, -⟩ := cand.exists_published promises quiet stable fits aside running
            published (hfits outcome published)
          exact ⟨_, id, after⟩
      | none =>
          refine ⟨last, tip, cand.kept ?_⟩
          rw [Action.perform]
          generalize ((runRequest runner c request date).apply r).2 = t at running
          cases running with
          | idle => exact (steady_withFetch cand.sound.rooted request.pushes).kept cand.sound
          | released => cases published
  | branchOff track => cases aside
  | merge source => cases aside
  | sabotage merges pushes fetches => cases aside

/-- Every series of candidates leads to what all its commits ask for together. -/
theorem Leads.exists_candidates (promises : c.Promises pattern first bypass)
    (quiet : c.Quiet ⟨c.lint, bypass⟩) (stable : s.pre = none) (fits : s.Fits)
    (leads : Leads runner c (Action.GoesOn runner c) r t)
    (cand : Candidates c pattern ⟨c.lint, bypass⟩ s start r last tip) :
    ∃ last tip, Candidates c pattern ⟨c.lint, bypass⟩ s start t last tip := by
  induction leads with
  | refl => exact ⟨last, tip, cand⟩
  | step action _ goesOn ih =>
      obtain ⟨_, _, before⟩ := ih
      exact before.perform promises quiet stable fits goesOn

end ReleasePlanner
