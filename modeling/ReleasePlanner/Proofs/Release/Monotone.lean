import ReleasePlanner.Proofs.Release.Progress
import ReleasePlanner.Proofs.Version.Levels

/-!
# More commits never mean a lower release

The level of a batch of commits is the greatest of theirs, so it does not
depend on their order and cannot fall when commits are added
(`Decision.rank_level_mono`).

The next version follows the level.  A bump at a higher level is a higher
version (`Version.bump_upTo_iff`), and so is what a series goes on with when it
aims at a higher version, whether it counts on or starts again
(`ReleasePolicy.nextStep_mono`).  So a batch that holds all commits of another
one gets a version that is not lower (`plan_mono`).
-/

namespace ReleasePlanner

/-! ## Levels of batches -/

namespace Decision

variable {p : ReleasePolicy} {xs ys : List ParsedCommit}

theorem rank_level_append (p : ReleasePolicy) (xs ys : List ParsedCommit) :
    (ofCommits p (xs ++ ys)).level.rank
      = max (ofCommits p xs).level.rank (ofCommits p ys).level.rank := by
  simp only [ofCommits, List.map_append, Level.greatest_append, Level.rank_join]

theorem level_perm (p : ReleasePolicy) (same : xs.Perm ys) :
    (ofCommits p xs).level = (ofCommits p ys).level :=
  Level.greatest_perm (same.map p.levelOf)

/-- Commits that are added do not lower the level. -/
theorem rank_level_mono (p : ReleasePolicy) (within : ∀ r ∈ xs, r ∈ ys) :
    (ofCommits p xs).level.rank ≤ (ofCommits p ys).level.rank := by
  have bounded := Level.greatest_le_iff.mp (Nat.le_refl (ofCommits p ys).level.rank)
  refine Level.greatest_le_iff.mpr ?_
  rw [List.forall_mem_map] at bounded ⊢
  intro r hr
  exact bounded r (within r hr)

end Decision

/-! ## Versions that are not lower -/

namespace Version

variable {u v w : Version} {a b : Level}

theorem upTo_self (v : Version) : v.upTo v = true := by
  rw [upTo_eq_not_below, not_below_self]
  rfl

theorem upTo_of_below (h : v.below w = true) : v.upTo w = true := by
  rw [upTo_eq_not_below, Bool.not_eq_true']
  cases back : w.below v with
  | false => rfl
  | true => rw [← not_below_self v, below_trans h back]

theorem not_upTo_iff : ¬v.upTo w = true ↔ w.below v = true := by
  rw [upTo_eq_not_below, Bool.not_eq_true', Bool.not_eq_false]

/-- Of two stable versions one is below the other, or they are the same. -/
theorem below_or_eq (hv : v.pre = none) (hw : w.pre = none) (h : v.upTo w = true) :
    v.below w = true ∨ v = w := by
  rw [upTo_eq_not_below, Bool.not_eq_true'] at h
  cases hbelow : v.below w with
  | true => exact Or.inl rfl
  | false => exact Or.inr (eq_of_notBelow hv hw hbelow h)

/-- A higher level does not bump to a lower version. -/
theorem bump_upTo_iff (hv : v.pre = none) :
    (v.bump a).upTo (v.bump b) = true ↔ a.rank ≤ b.rank := by
  rw [upTo_eq_not_below, Bool.not_eq_true', ← Bool.not_eq_true, bump_below_iff hv, Nat.not_lt]

/-- The same step towards a version that is not lower is not lower. -/
theorem withPre_upTo_withPre (hv : v.pre = none) (hw : w.pre = none) (h : v.upTo w = true)
    (p : PreRelease) : (v.withPre p).upTo (w.withPre p) = true := by
  rcases below_or_eq hv hw h with hbelow | rfl
  · refine upTo_of_below (below_of_base_below ?_)
    rwa [base_withPre, base_withPre, base_eq_self hv, base_eq_self hw]
  · exact upTo_self _

end Version

/-! ## The next version -/

namespace ReleasePolicy

variable {p : ReleasePolicy} {target other v w : Version} {a b : Level} {h : History}
  {prereleaseId : String} {track : Track}

/-- A series that aims at a version that is not lower goes on with one that is not lower. -/
theorem nextStep_mono (htarget : target.pre = none) (hother : other.pre = none)
    (le : target.upTo other = true) (latest : Option Version) :
    (nextStep prereleaseId target latest).upTo (nextStep prereleaseId other latest) = true := by
  have starts := Version.withPre_upTo_withPre htarget hother le (.first prereleaseId)
  cases latest with
  | none => exact starts
  | some l =>
      rw [nextStep, nextStep]
      split
      next goesOn =>
        split
        next => exact Version.upTo_self _
        next restarts =>
          -- Only the higher version is above what the series led to.
          have raised := Version.not_upTo_iff.mp restarts
          refine Version.upTo_of_below (Version.below_of_base_below ?_)
          rwa [Version.base_withPre, Version.base_withPre, Version.base_eq_self hother,
            Version.base_eq_self rfl]
      next restarts =>
        have raised := Version.below_of_below_of_notBelow (Version.not_upTo_iff.mp restarts)
          (by rwa [Version.upTo_eq_not_below, Bool.not_eq_true'] at le)
        rw [if_neg (Version.not_upTo_iff.mpr raised)]
        exact starts

theorem target_mono {first : Version} (hfirst : p.firstVersion = .ok first)
    (hstable : first.pre = none) (kinds : h.OnTracks prereleaseId) (le : a.rank ≤ b.rank)
    (htarget : p.target a h = .ok target) (hother : p.target b h = .ok other) :
    target.pre = none ∧ other.pre = none ∧ target.upTo other = true := by
  rw [ReleasePolicy.target] at htarget hother
  cases latest : h.stable with
  | none =>
      rw [latest, hfirst] at htarget hother
      cases htarget
      cases hother
      exact ⟨hstable, hstable, Version.upTo_self _⟩
  | some s =>
      rw [latest] at htarget hother
      cases htarget
      cases hother
      exact ⟨Version.pre_bump s a, Version.pre_bump s b,
        (Version.bump_upTo_iff (kinds.stable s latest)).mpr le⟩

/-- The next version at a higher level is not lower. -/
theorem nextVersion_mono {first : Version} (hfirst : p.firstVersion = .ok first)
    (hstable : first.pre = none) (kinds : h.OnTracks prereleaseId) (le : a.rank ≤ b.rank)
    (hv : p.nextVersion track a h = .ok v) (hw : p.nextVersion track b h = .ok w) :
    v.upTo w = true := by
  simp only [nextVersion, Result.bind_eq_ok] at hv hw
  obtain ⟨target, htarget, hv⟩ := hv
  obtain ⟨other, hother, hw⟩ := hw
  obtain ⟨targetStable, otherStable, hle⟩ :=
    target_mono hfirst hstable kinds le htarget hother
  cases track with
  | release =>
      cases hv
      cases hw
      exact hle
  | prerelease =>
      cases hv
      cases hw
      exact nextStep_mono targetStable otherStable hle h.prerelease

end ReleasePolicy

/-! ## The plan -/

/-- Under any rules the level of two batches together is the greater of theirs, and it does not
depend on the order of the commits.  Under a valid configuration, whatever was tagged before, a
batch that holds all commits of another one gets a plan when the other one does, and its version is
not lower. -/
theorem plan_mono {c : Config} {h : History} {pattern : TagPattern} {tags : List String}
    (valid : c.validate = .ok ())
    (hlegal : Identifier.legal c.release.branches.prereleaseId.toList = true)
    (collected : h = History.ofTags pattern c.release.branches.prereleaseId tags) :
    (∀ (p : ReleasePolicy) (xs ys : List ParsedCommit),
      (Decision.ofCommits p (xs ++ ys)).level.rank
          = max (Decision.ofCommits p xs).level.rank (Decision.ofCommits p ys).level.rank ∧
        (xs.Perm ys → (Decision.ofCommits p xs).level = (Decision.ofCommits p ys).level)) ∧
      ∀ (branch : String) (xs ys : List ParsedCommit) (date later : Date) (plan : Plan),
        c.release.plan branch (Decision.ofCommits c.release xs) h date = .ok (some plan) →
        (∀ r ∈ xs, r ∈ ys) →
        ∃ other, c.release.plan branch (Decision.ofCommits c.release ys) h later
            = .ok (some other) ∧ plan.version.upTo other.version = true := by
  refine ⟨fun p xs ys => ⟨Decision.rank_level_append p xs ys, Decision.level_perm p⟩, ?_⟩
  intro branch xs ys date later plan planned within
  obtain ⟨configured, first, bypass, promises⟩ := Config.exists_promises valid
  have kinds := History.onTracks_ofTags pattern c.release.branches.prereleaseId tags
  rw [← collected] at kinds
  obtain ⟨_, before⟩ := exists_planned planned
  have le := Decision.rank_level_mono c.release within
  have fires : (Decision.ofCommits c.release ys).level.fires = true :=
    Level.fires_iff.mpr (Nat.lt_of_lt_of_le (Level.fires_iff.mp before.fires) le)
  obtain ⟨w, next, replanned⟩ :=
    ReleasePolicy.exists_plan_of_fires promises hlegal plan.track kinds fires later
  rw [BranchLayout.branchOf_of_trackOf before.track_ok] at replanned
  exact ⟨_, replanned, ReleasePolicy.nextVersion_mono promises.first_ok promises.first_stable kinds
    le before.version_ok next⟩

/-- What is planned for some commits after the second candidate of version 1.3.0. -/
def planThirdCandidate (commits : List ParsedCommit) : Except Error (Option Plan) :=
  Config.standard.release.plan "release-candidate" (.ofCommits Config.standard.release commits)
    ⟨some (.stable 1 2 0), some ⟨1, 3, 0, some ⟨"rc", 2⟩⟩⟩ ⟨2026, 1, 9⟩

/-- A correction makes the third candidate, and with a breaking commit added to it the version is
not lower. -/
theorem plan_mono_third_candidate :
    ∃ plan other,
      planThirdCandidate [.simple "fix" "Handle nulls."] = .ok (some plan) ∧
        planThirdCandidate [.simple "update" "Bump it.",
          { ParsedCommit.simple "feat" "Drop it." with breaking := true },
          .simple "fix" "Handle nulls."] = .ok (some other) ∧
        plan.version = ⟨1, 3, 0, some ⟨"rc", 3⟩⟩ ∧ plan.version.upTo other.version = true := by
  have collected : (⟨some (.stable 1 2 0), some ⟨1, 3, 0, some ⟨"rc", 2⟩⟩⟩ : History)
      = History.ofTags ⟨['v'], []⟩ "rc" ["v1.3.0-rc.2", "v1.2.0", "v1.3.0-rc.1"] := by
    decide
  have known : ((planThirdCandidate [.simple "fix" "Handle nulls."]).toOption.bind id).map
      Plan.version = some ⟨1, 3, 0, some ⟨"rc", 3⟩⟩ := by
    decide +kernel
  obtain ⟨plan, found, hversion⟩ := Option.map_eq_some_iff.mp known
  obtain ⟨_, planned, rfl⟩ := Option.bind_eq_some_iff.mp found
  obtain ⟨-, grows⟩ := plan_mono Config.validate_standard (by decide) collected
  obtain ⟨other, replanned, le⟩ := grows _ [.simple "fix" "Handle nulls."]
    [.simple "update" "Bump it.",
      { ParsedCommit.simple "feat" "Drop it." with breaking := true },
      .simple "fix" "Handle nulls."] _ ⟨2026, 1, 9⟩ plan (Result.toOption_eq_some.mp planned)
    fun r hr => List.mem_cons_of_mem _ (List.mem_cons_of_mem _ hr)
  exact ⟨plan, other, Result.toOption_eq_some.mp planned, replanned, hversion, le⟩

end ReleasePlanner
