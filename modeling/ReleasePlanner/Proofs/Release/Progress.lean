import ReleasePlanner.Proofs.Release.Plan

/-!
# Plans move forward

Under a valid configuration every decision that asks for a release gets a plan,
and the planned version is above the releases that it follows
(`plan_advances`).  The two latest releases of a history come from tags of
different kinds, and nothing ties one to the other.

On the prerelease branch the next step is at or above the stable version that
is aimed at (`nextStep_notBelow`), and this version is above the latest stable
one.  So the check against the release before never fails.
-/

namespace ReleasePlanner

theorem BranchLayout.trackOf_branchOf {b : BranchLayout} (different : b.release ≠ b.prerelease)
    (track : Track) : b.trackOf (b.branchOf track) = .ok track := by
  cases track with
  | release => simp [trackOf, track?, branchOf]
  | prerelease => simp [trackOf, track?, branchOf, Ne.symm different]

namespace Version

variable {u v w : Version}

theorem below_of_below_of_notBelow (hv : u.below v = true) (hw : w.below v = false) :
    u.below w = true := by
  rw [notBelow_iff] at hw
  rw [below_iff] at *
  exact Std.TransCmp.lt_of_lt_of_isLE hv hw

/-- A stable version is below every version whose base is above it. -/
theorem below_of_below_base (hu : u.pre = none) (h : u.below v.base = true) :
    u.below v = true := by
  rw [← base_eq_self hu] at h
  exact below_of_base_below h

end Version

/-- The latest releases are of the kinds that they are kept as. -/
structure History.OnTracks (prereleaseId : String) (h : History) : Prop where
  stable : ∀ s, h.stable = some s → s.OnTrack prereleaseId .release
  prerelease : ∀ l, h.prerelease = some l → l.OnTrack prereleaseId .prerelease

theorem History.onTracks_ofTags (pattern : TagPattern) (prereleaseId : String)
    (tags : List String) : (ofTags pattern prereleaseId tags).OnTracks prereleaseId where
  stable s hs := by
    have latest := isLatest_stable pattern prereleaseId tags
    rw [hs] at latest
    exact latest.mem.1
  prerelease l hl := by
    have latest := isLatest_prerelease pattern prereleaseId tags
    rw [hl] at latest
    exact latest.mem.1

namespace ReleasePolicy

variable {p : ReleasePolicy} {pattern : TagPattern} {first v target : Version} {level : Level}
  {h : History} {track : Track} {branch prereleaseId : String} {latest : Option Version}
  {d : Decision}

/-! ## The version that is aimed at -/

/-- There is a version to aim at.  It is the bump of the latest stable version, or the first
version. -/
theorem exists_target (hfirst : p.firstVersion = .ok first) (hstable : first.pre = none)
    (level : Level) (h : History) :
    ∃ target, p.target level h = .ok target ∧ target.pre = none ∧
      (∀ s, h.stable = some s → target = s.bump level) ∧ (h.stable = none → target = first) := by
  rw [ReleasePolicy.target]
  cases h.stable with
  | none =>
      refine ⟨first, by rw [hfirst]; rfl, hstable, ?_, fun _ => rfl⟩
      rintro s ⟨⟩
  | some s =>
      refine ⟨s.bump level, rfl, Version.pre_bump s level, ?_, ?_⟩
      · rintro _ ⟨⟩
        rfl
      · rintro ⟨⟩

/-- The version that is aimed at is above the latest stable one. -/
theorem below_of_bump {s : Version} (kinds : h.OnTracks prereleaseId) (fires : level.fires = true)
    (hbump : ∀ s, h.stable = some s → target = s.bump level) (hs : h.stable = some s) :
    s.below target = true := by
  rw [hbump s hs]
  exact Version.below_bump (kinds.stable s hs) fires

/-- The next version on the release branch is the one that is aimed at. -/
theorem exists_next_release (hfirst : p.firstVersion = .ok first) (hstable : first.pre = none)
    (kinds : h.OnTracks prereleaseId) (fires : level.fires = true) :
    ∃ v, p.nextVersion .release level h = .ok v ∧
      (∀ s, h.stable = some s → s.below v = true) ∧
      (∀ s, h.stable = some s → v = s.bump level) ∧
      (h.stable = none → p.firstVersion = .ok v) := by
  obtain ⟨target, htarget, -, hbump, hnone⟩ := exists_target hfirst hstable level h
  refine ⟨target, ?_, fun s hs => below_of_bump kinds fires hbump hs, hbump, ?_⟩
  · rw [nextVersion, htarget]
    rfl
  · intro missing
    rw [hfirst, hnone missing]

/-! ## The next step -/

/-- The next step is the first one towards the version that is aimed at, or the one after the
latest. -/
theorem nextStep_eq (target : Version)
    (hlatest : ∀ l, latest = some l → l.OnTrack prereleaseId .prerelease) :
    nextStep prereleaseId target latest = target.withPre ⟨prereleaseId, 1⟩ ∨
      ∃ l n, latest = some l ∧ l.pre = some ⟨prereleaseId, n⟩ ∧
        nextStep prereleaseId target latest = l.base.withPre ⟨prereleaseId, n + 1⟩ := by
  cases latest with
  | none => exact Or.inl rfl
  | some l =>
      obtain ⟨n, hpre⟩ := hlatest l rfl
      rw [nextStep]
      split
      next => exact Or.inr ⟨l, n, rfl, hpre, by rw [hpre]; rfl⟩
      next => exact Or.inl rfl

/-- The next step leads to the version that is aimed at or to one above it. -/
theorem nextStep_notBelow (htarget : target.pre = none) :
    (nextStep prereleaseId target latest).base.below target = false := by
  have hself : target.base.below target = false := by
    rw [Version.base_eq_self htarget, Version.not_below_self]
  cases latest with
  | none => exact hself
  | some l =>
      rw [nextStep]
      split
      next goesOn =>
        rw [Version.upTo_eq_not_below, Bool.not_eq_true'] at goesOn
        exact goesOn
      next => exact hself

/-- The next version on the prerelease branch is a step towards a version above the latest stable
one. -/
theorem exists_next_prerelease (hfirst : p.firstVersion = .ok first) (hstable : first.pre = none)
    (hlegal : Identifier.legal p.branches.prereleaseId.toList = true)
    (kinds : h.OnTracks p.branches.prereleaseId) (fires : level.fires = true) :
    ∃ v, p.nextVersion .prerelease level h = .ok v ∧
      (∀ s, h.stable = some s → s.below v.base = true) ∧
      (∀ l, h.prerelease = some l → l.below v = true) ∧
      ∃ n, v.pre = some ⟨p.branches.prereleaseId, n⟩ ∧
        (n = 1 ∨ ∃ l m, h.prerelease = some l ∧ l.pre = some ⟨p.branches.prereleaseId, m⟩ ∧
          n = m + 1 ∧ v.base = l.base) := by
  obtain ⟨target, htarget, hpre, hbump, -⟩ := exists_target hfirst hstable level h
  obtain ⟨-, hbelow⟩ := nextStep_above hlegal hpre kinds.prerelease
  refine ⟨nextStep p.branches.prereleaseId target h.prerelease, ?_, ?_, hbelow, ?_⟩
  · rw [nextVersion, htarget]
    rfl
  · intro s hs
    exact Version.below_of_below_of_notBelow (below_of_bump kinds fires hbump hs)
      (nextStep_notBelow hpre)
  · rcases nextStep_eq target kinds.prerelease with heq | ⟨l, m, hl, hm, heq⟩
    · exact ⟨1, by rw [heq]; rfl, Or.inl rfl⟩
    · exact ⟨m + 1, by rw [heq]; rfl, Or.inr ⟨l, m, hl, hm, rfl, by rw [heq]; rfl⟩⟩

/-- The next version belongs to its track. -/
theorem onTrack_nextVersion (hfirst : p.firstVersion = .ok first) (hstable : first.pre = none)
    (kinds : h.OnTracks p.branches.prereleaseId) {v : Version}
    (next : p.nextVersion track level h = .ok v) : v.OnTrack p.branches.prereleaseId track := by
  obtain ⟨target, htarget, hpre, -, -⟩ := exists_target hfirst hstable level h
  rw [nextVersion, htarget] at next
  cases track with
  | release =>
      cases next
      exact hpre
  | prerelease =>
      cases next
      rcases nextStep_eq target kinds.prerelease with heq | ⟨l, n, -, -, heq⟩
      · exact ⟨1, congrArg Version.pre heq⟩
      · exact ⟨n + 1, congrArg Version.pre heq⟩

/-! ## The plan -/

theorem checkAbove_eq_ok {previous : Option Version}
    (above : ∀ w, previous = some w → w.below v = true) : checkAbove previous v = .ok () := by
  cases previous with
  | none => rfl
  | some w =>
      rw [checkAbove, Version.upTo_eq_not_below, above w rfl]
      rfl

/-- A version above the release before it gets a plan. -/
theorem plan_eq_ok (hpattern : p.tagPattern = .ok pattern)
    (htrack : p.branches.trackOf branch = .ok track) (fires : d.level.fires = true)
    (hversion : p.nextVersion track d.level h = .ok v)
    (above : ∀ w, h.last? track = some w → w.below v = true) (date : Date) :
    p.plan branch d h date
      = .ok (some (p.planOf pattern track branch d (h.last? track) v date)) := by
  have hfires : d.fires = true := fires
  simp only [ReleasePolicy.plan, hpattern, htrack, hfires, hversion, checkAbove_eq_ok above,
    Result.mapError_ok, bind, Except.bind, if_true]
  rfl

/-- Where the decision does not ask for a release there is nothing to plan. -/
theorem plan_eq_none (hpattern : p.tagPattern = .ok pattern)
    (htrack : p.branches.trackOf branch = .ok track) (quiet : d.fires = false) (date : Date) :
    p.plan branch d h date = .ok none := by
  simp only [ReleasePolicy.plan, hpattern, htrack, quiet, Result.mapError_ok, bind,
    Except.bind]
  rfl

/-- Under a valid configuration a decision that asks for a release gets a plan of the next version,
whatever the latest releases are. -/
theorem exists_plan_of_fires {c : Config} {bypass : Pattern}
    (promises : c.Promises pattern first bypass)
    (hlegal : Identifier.legal c.release.branches.prereleaseId.toList = true) (track : Track)
    (kinds : h.OnTracks c.release.branches.prereleaseId) (fires : d.level.fires = true)
    (date : Date) :
    ∃ v, c.release.nextVersion track d.level h = .ok v ∧
      c.release.plan (c.release.branches.branchOf track) d h date
        = .ok (some (c.release.planOf pattern track (c.release.branches.branchOf track) d
            (h.last? track) v date)) := by
  have htrack := BranchLayout.trackOf_branchOf promises.branches_ne track
  obtain ⟨v, hnext, above⟩ : ∃ v, c.release.nextVersion track d.level h = .ok v ∧
      ∀ w, h.last? track = some w → w.below v = true := by
    cases track with
    | release =>
        obtain ⟨v, hnext, above, -⟩ :=
          exists_next_release promises.first_ok promises.first_stable kinds fires
        exact ⟨v, hnext, above⟩
    | prerelease =>
        obtain ⟨v, hnext, leads, passes, -⟩ :=
          exists_next_prerelease promises.first_ok promises.first_stable hlegal kinds fires
        refine ⟨v, hnext, fun w hw => ?_⟩
        rcases History.last?_eq_some hw with hw | hw
        · exact Version.below_of_below_base (kinds.stable w hw) (leads w hw)
        · exact passes w hw
  exact ⟨v, hnext, plan_eq_ok promises.pattern_ok htrack fires hnext above date⟩

end ReleasePolicy

/-- Under a valid configuration a decision that asks for a release gets a plan, whatever was tagged
before.  Its version is above the latest stable one.  On the release branch it is the bump of that
one, or the first version.  On the prerelease branch it is above the latest pre-release as well, it
leads to a version above the latest stable one, and it starts a series or goes on with one. -/
theorem plan_advances {c : Config} {d : Decision} {h : History} {pattern : TagPattern}
    {tags : List String} (valid : c.validate = .ok ())
    (hlegal : Identifier.legal c.release.branches.prereleaseId.toList = true) (track : Track)
    (fires : d.level ≠ .none)
    (collected : h = History.ofTags pattern c.release.branches.prereleaseId tags) (date : Date) :
    ∃ plan, c.release.plan (c.release.branches.branchOf track) d h date = .ok (some plan) ∧
      plan.track = track ∧
      (∀ s, h.stable = some s → s.below plan.version = true) ∧
      match track with
      | .release =>
        (∀ s, h.stable = some s → plan.version = s.bump d.level) ∧
          (h.stable = none → c.release.firstVersion = .ok plan.version)
      | .prerelease =>
        (∀ l, h.prerelease = some l → l.below plan.version = true) ∧
          (∀ s, h.stable = some s → s.below plan.version.base = true) ∧
          ∃ n, plan.version.pre = some ⟨c.release.branches.prereleaseId, n⟩ ∧
            (n = 1 ∨ ∃ l m, h.prerelease = some l ∧
              l.pre = some ⟨c.release.branches.prereleaseId, m⟩ ∧ n = m + 1 ∧
              plan.version.base = l.base) := by
  obtain ⟨configured, first, bypass, promises⟩ := Config.exists_promises valid
  have hfires : d.level.fires = true := bne_iff_ne.mpr fires
  have kinds := History.onTracks_ofTags pattern c.release.branches.prereleaseId tags
  rw [← collected] at kinds
  have htrack := BranchLayout.trackOf_branchOf promises.branches_ne track
  cases track with
  | release =>
      obtain ⟨v, hnext, above, bumped, initial⟩ :=
        ReleasePolicy.exists_next_release promises.first_ok promises.first_stable kinds hfires
      have planned := ReleasePolicy.plan_eq_ok promises.pattern_ok htrack hfires hnext above
        date
      exact ⟨_, planned, rfl, above, bumped, initial⟩
  | prerelease =>
      obtain ⟨v, hnext, leads, passes, series⟩ :=
        ReleasePolicy.exists_next_prerelease promises.first_ok promises.first_stable hlegal kinds
          hfires
      have above : ∀ s, h.stable = some s → s.below v = true :=
        fun s hs => Version.below_of_below_base (kinds.stable s hs) (leads s hs)
      have last : ∀ w, h.last? .prerelease = some w → w.below v = true := by
        intro w hw
        rcases History.last?_eq_some hw with hw | hw
        · exact above w hw
        · exact passes w hw
      have planned := ReleasePolicy.plan_eq_ok promises.pattern_ok htrack hfires hnext last
        date
      exact ⟨_, planned, rfl, above, passes, leads, series⟩

/-- After the candidates of a version that is out, a correction starts the next series. -/
theorem plan_advances_restarted :
    ∃ plan, Config.standard.release.plan "release-candidate" ⟨.patch, ⟨[], []⟩⟩
        ⟨some (.stable 1 3 0), some ⟨1, 3, 0, some ⟨"rc", 4⟩⟩⟩ ⟨2026, 1, 9⟩ = .ok (some plan) ∧
      (Version.stable 1 3 0).below plan.version.base = true ∧
      Version.below ⟨1, 3, 0, some ⟨"rc", 4⟩⟩ plan.version = true := by
  have collected : (⟨some (.stable 1 3 0), some ⟨1, 3, 0, some ⟨"rc", 4⟩⟩⟩ : History)
      = History.ofTags ⟨['v'], []⟩ "rc" ["v1.3.0-rc.4", "v1.2.0", "v1.3.0", "v1.3.0-rc.3"] := by
    decide
  obtain ⟨plan, planned, -, -, passes, leads, -⟩ :=
    plan_advances (d := ⟨.patch, ⟨[], []⟩⟩) Config.validate_standard (by decide) .prerelease
      (by decide) collected ⟨2026, 1, 9⟩
  exact ⟨plan, planned, leads _ rfl, passes _ rfl⟩

end ReleasePlanner
