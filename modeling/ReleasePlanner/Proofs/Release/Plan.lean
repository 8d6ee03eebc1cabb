import ReleasePlanner.Proofs.Config.Valid
import ReleasePlanner.Proofs.Release.History
import ReleasePlanner.Proofs.Version.Written
import ReleasePlanner.Release.Plan

/-!
# Plans and the versions before them

What a plan is made of (`Planned`), and why it moves forward: the next version
of a track belongs to the track, and every version of the track among the tags
is below it (`below_nextVersion`).
-/

namespace ReleasePlanner

/-! ## Tracks -/

/-- The branch of a track. -/
def BranchLayout.branchOf (b : BranchLayout) : Track → String
  | .release => b.release
  | .prerelease => b.prerelease

theorem BranchLayout.branchOf_of_trackOf {b : BranchLayout} {branch : String} {track : Track}
    (h : b.trackOf branch = .ok track) : b.branchOf track = branch := by
  rw [trackOf] at h
  split at h
  next found =>
    cases h
    rw [track?] at found
    split at found
    next same =>
      cases found
      exact same.symm
    next =>
      split at found
      next same =>
        cases found
        exact same.symm
      next => cases found
  next => cases h

namespace Version.OnTrack

variable {prereleaseId : String} {v w : Version} {track other : Track}

theorem isPreRelease_iff (h : v.OnTrack prereleaseId track) :
    v.isPreRelease = true ↔ track = .prerelease := by
  cases track with
  | release =>
      have hpre : v.pre = none := h
      simp [isPreRelease, hpre]
  | prerelease =>
      obtain ⟨n, hpre⟩ := h
      simp [isPreRelease, hpre]

/-- Versions of one kind belong to one track. -/
theorem unique (h : v.OnTrack prereleaseId track) (h' : w.OnTrack prereleaseId other)
    (kind : v.isPreRelease = w.isPreRelease) : track = other := by
  have same := h.isPreRelease_iff
  rw [kind, h'.isPreRelease_iff] at same
  cases track with
  | release =>
      cases other with
      | release => rfl
      | prerelease => cases same.mp rfl
  | prerelease => exact (same.mpr rfl).symm

theorem wellNamed (h : v.OnTrack prereleaseId track)
    (hid : PreRelease.checkIdentifier prereleaseId.toList = .ok ()) : v.WellNamed := by
  cases track with
  | release => exact wellNamed_of_stable h
  | prerelease =>
      obtain ⟨n, hpre⟩ := h
      intro p hp
      rw [hpre] at hp
      cases hp
      exact hid

end Version.OnTrack

/-! ## The next version -/

namespace ReleasePolicy

open Version (IsLatest)

variable {p : ReleasePolicy} {level : Level} {track : Track} {first v w target : Version}
  {prereleaseId : String} {pattern : TagPattern} {tags : List String}

/-- The version that is aimed at is stable, and every stable version among the tags is below it. -/
theorem target_above {h : History} {among : Version → Prop}
    (hfirst : p.firstVersion = .ok first) (hstable : first.pre = none)
    (fires : level.fires = true)
    (latest : IsLatest (fun w => w.OnTrack prereleaseId .release ∧ among w) h.stable)
    (htarget : p.target level h = .ok target) :
    target.pre = none ∧
      ∀ w, w.OnTrack prereleaseId .release → among w → w.below target = true := by
  rw [ReleasePolicy.target] at htarget
  cases hlatest : h.stable with
  | none =>
      rw [hlatest] at htarget latest
      rw [hfirst] at htarget
      cases htarget
      exact ⟨hstable, fun w hw hamong => absurd ⟨hw, hamong⟩ (latest w)⟩
  | some stable =>
      rw [hlatest] at htarget latest
      cases htarget
      obtain ⟨hmem, hmax⟩ := latest
      refine ⟨Version.pre_bump stable level, ?_⟩
      intro w hw hamong
      exact Version.below_of_notBelow_of_below (hmax w ⟨hw, hamong⟩)
        (Version.below_bump hmem.1 fires)

/-- The next step towards a version is a step with the identifier in use, and it comes after the
latest one. -/
theorem nextStep_above (hid : Identifier.legal prereleaseId.toList = true)
    (htarget : target.pre = none) {latest : Option Version}
    (hlatest : ∀ l ∈ latest, l.OnTrack prereleaseId .prerelease) :
    (nextStep prereleaseId target latest).OnTrack prereleaseId .prerelease ∧
      ∀ l ∈ latest, l.below (nextStep prereleaseId target latest) = true := by
  cases latest with
  | none =>
      refine ⟨⟨1, rfl⟩, ?_⟩
      intro l hl
      cases hl
  | some latest =>
      obtain ⟨n, hpre⟩ := hlatest latest rfl
      have hwith : latest.base.withPre ⟨prereleaseId, n⟩ = latest := by
        cases latest
        cases hpre
        rfl
      rw [nextStep]
      split
      next =>
        rw [hpre]
        refine ⟨⟨n + 1, rfl⟩, ?_⟩
        intro l hl
        cases hl
        have step := Version.below_withPre (v := latest.base) hid (Nat.lt_succ_self n)
        rwa [hwith] at step
      next hnot =>
        refine ⟨⟨1, rfl⟩, ?_⟩
        intro l hl
        cases hl
        -- The series starts again, since the old one was below the version that is aimed at.
        have hbase : latest.base.below target = true := by
          rwa [Version.upTo_eq_not_below, Bool.not_eq_true', Bool.not_eq_false] at hnot
        refine Version.below_of_base_below ?_
        rwa [Version.base_withPre, Version.base_eq_self htarget]

/-- The next version belongs to its track, and every version of the track among the tags is below
it. -/
theorem below_nextVersion (hfirst : p.firstVersion = .ok first) (hstable : first.pre = none)
    (hid : Identifier.legal p.branches.prereleaseId.toList = true) (fires : level.fires = true)
    (next : p.nextVersion track level (History.ofTags pattern p.branches.prereleaseId tags)
      = .ok v) :
    v.OnTrack p.branches.prereleaseId track ∧
      ∀ w, w.OnTrack p.branches.prereleaseId track → History.Names pattern tags w →
        w.below v = true := by
  have latestStable := History.isLatest_stable pattern p.branches.prereleaseId tags
  have latestStep := History.isLatest_prerelease pattern p.branches.prereleaseId tags
  simp only [nextVersion, Result.bind_eq_ok] at next
  obtain ⟨target, htarget, next⟩ := next
  obtain ⟨hpre, habove⟩ := target_above hfirst hstable fires latestStable htarget
  cases track with
  | release =>
      cases next
      exact ⟨hpre, habove⟩
  | prerelease =>
      cases next
      generalize (History.ofTags pattern p.branches.prereleaseId tags).prerelease = latest at *
      have hlatest : ∀ l ∈ latest, l.OnTrack p.branches.prereleaseId .prerelease := by
        intro l hl
        cases hl
        exact latestStep.mem.1
      obtain ⟨onTrack, hstep⟩ := nextStep_above hid hpre hlatest
      refine ⟨onTrack, ?_⟩
      intro w hw hnamed
      cases latest with
      | none => exact absurd ⟨hw, hnamed⟩ (latestStep w)
      | some l =>
          exact Version.below_of_notBelow_of_below (latestStep.2 w ⟨hw, hnamed⟩) (hstep l rfl)

end ReleasePolicy

/-! ## What a plan is made of -/

/-- How a plan came about. -/
structure Planned (p : ReleasePolicy) (branch : String) (d : Decision) (h : History) (date : Date)
    (plan : Plan) (pattern : TagPattern) : Prop where
  pattern_ok : p.tagPattern = .ok pattern
  track_ok : p.branches.trackOf branch = .ok plan.track
  fires : d.level.fires = true
  version_ok : p.nextVersion plan.track d.level h = .ok plan.version
  plan_eq : plan =
    p.planOf pattern plan.track branch d (h.last? plan.track) plan.version date

theorem exists_planned {p : ReleasePolicy} {branch : String} {d : Decision} {h : History}
    {date : Date} {plan : Plan} (planned : p.plan branch d h date = .ok (some plan)) :
    ∃ pattern, Planned p branch d h date plan pattern := by
  simp only [ReleasePolicy.plan, Result.bind_eq_ok, Result.mapError_eq_ok] at planned
  obtain ⟨pattern, hpattern, track, htrack, planned⟩ := planned
  split at planned
  next fires =>
    simp only [Result.bind_eq_ok] at planned
    obtain ⟨v, hversion, _, _, planned⟩ := planned
    cases planned
    exact ⟨pattern, hpattern, htrack, fires, hversion, rfl⟩
  next => cases planned

theorem Planned.tag_eq {p : ReleasePolicy} {branch : String} {d : Decision} {h : History}
    {date : Date} {plan : Plan} {pattern : TagPattern}
    (planned : Planned p branch d h date plan pattern) :
    plan.tag = pattern.format plan.version := by
  rw [planned.plan_eq]
  rfl

theorem ReleasePolicy.below_of_checkAbove {previous : Option Version} {v : Version}
    (passed : checkAbove previous v = .ok ()) : ∀ w, previous = some w → w.below v = true := by
  rintro w rfl
  rw [checkAbove, Version.upTo_eq_not_below] at passed
  cases hbelow : w.below v with
  | true => rfl
  | false =>
      rw [hbelow] at passed
      cases passed

/-- A planned version is above the release before it. -/
theorem below_of_plan {p : ReleasePolicy} {branch : String} {d : Decision} {h : History}
    {date : Date} {plan : Plan} (planned : p.plan branch d h date = .ok (some plan)) :
    ∀ w, h.last? plan.track = some w → w.below plan.version = true := by
  simp only [ReleasePolicy.plan, Result.bind_eq_ok, Result.mapError_eq_ok] at planned
  obtain ⟨pattern, -, track, -, planned⟩ := planned
  split at planned
  next =>
    simp only [Result.bind_eq_ok] at planned
    obtain ⟨v, -, _, passed, planned⟩ := planned
    cases planned
    exact ReleasePolicy.below_of_checkAbove passed
  next => cases planned

end ReleasePlanner
