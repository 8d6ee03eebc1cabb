import Mathlib.Data.List.Induction
import Mathlib.Data.List.TakeWhile
import ReleasePlanner.Proofs.Release.Progress
import ReleasePlanner.Proofs.Version.Levels

/-!
# Plans of one cycle

Between two stable releases the prerelease branch is planned again and again,
and each plan goes on from the version of the one before
(`ReleasePolicy.planSeries`).  The versions are told by the levels alone
(`Version.candidate`): each leads to what the greatest level so far asks for,
and its number counts the plans since that level was first reached.

One more level either counts on or starts again (`Version.candidate_concat`),
which is how the next step is chosen (`ReleasePolicy.nextStep_candidate`).  So
the induction over the plans carries the levels of those that were made
(`planSeries_eq`).  It makes no difference how commits are divided between
candidates, since their level is that of all of them together
(`Decision.level_flatten`).
-/

namespace ReleasePlanner

/-! ## Levels so far -/

namespace Level

variable {l : Level} {ls : List Level}

/-- How many of some levels there are from the first one on that is the greatest. -/
def sinceGreatest (ls : List Level) : Nat :=
  (ls.dropWhile fun l => l != greatest ls).length

example : sinceGreatest [patch, minor, patch, minor] = 3 := by decide

theorem greatest_concat (ls : List Level) (l : Level) :
    greatest (ls ++ [l]) = (greatest ls).join l := by
  rw [greatest, List.foldl_append]
  rfl

theorem greatest_mem (nonempty : ls ≠ []) : greatest ls ∈ ls := by
  induction ls using List.reverseRecOn with
  | nil => exact absurd rfl nonempty
  | append_singleton ls l ih =>
      rw [greatest_concat, join]
      split
      next => exact List.mem_append_right ls List.mem_cons_self
      next higher =>
        refine List.mem_append_left [l] (ih ?_)
        rintro rfl
        exact higher (Nat.zero_le _)

/-- A level that is not higher counts on. -/
theorem sinceGreatest_concat_of_le (nonempty : ls ≠ []) (le : l.rank ≤ (greatest ls).rank) :
    sinceGreatest (ls ++ [l]) = sinceGreatest ls + 1 := by
  have reached : ls.dropWhile (fun k => k != greatest ls) ≠ [] := by
    intro missing
    have different := List.dropWhile_eq_nil_iff.mp missing _ (greatest_mem nonempty)
    rw [bne_self_eq_false] at different
    cases different
  rw [sinceGreatest, greatest_concat, join_eq_left le, List.dropWhile_append,
    List.isEmpty_eq_false_iff.mpr reached]
  exact List.length_append

/-- A higher level is the first of its kind. -/
theorem sinceGreatest_concat_of_lt (lt : (greatest ls).rank < l.rank) :
    sinceGreatest (ls ++ [l]) = 1 := by
  have below : ∀ k ∈ ls, (k != l) = true := by
    intro k hk
    have hle := greatest_le_iff.mp (Nat.le_refl (greatest ls).rank) k hk
    rw [bne_iff_ne]
    rintro rfl
    exact absurd hle (Nat.not_le_of_lt lt)
  rw [sinceGreatest, greatest_concat, join_eq_right (Nat.le_of_lt lt),
    List.dropWhile_append_of_pos below]
  simp

end Level

/-- The level of all commits of some batches is the greatest level of the batches. -/
theorem Decision.level_flatten (p : ReleasePolicy) (batches : List (List ParsedCommit)) :
    (ofCommits p batches.flatten).level
      = Level.greatest ((batches.map (ofCommits p)).map Decision.level) := by
  induction batches with
  | nil => rfl
  | cons batch batches ih =>
      rw [List.flatten_cons, ofCommits, List.map_append, Level.greatest_append, List.map_cons,
        List.map_cons, Level.greatest_cons, ← ih]
      rfl

/-! ## The version that levels lead to -/

/-- The candidate that some levels, one after the other, lead to after the stable version `s`. -/
def Version.candidate (prereleaseId : String) (s : Version) (ls : List Level) : Version :=
  (s.bump (Level.greatest ls)).withPre ⟨prereleaseId, Level.sinceGreatest ls⟩

namespace Version

variable {prereleaseId : String} {s : Version} {l : Level} {ls : List Level}

theorem candidate_onTrack : (candidate prereleaseId s ls).OnTrack prereleaseId .prerelease :=
  ⟨_, rfl⟩

theorem base_candidate : (candidate prereleaseId s ls).base = s.bump (Level.greatest ls) := by
  rw [candidate, base_withPre, base_eq_self (pre_bump s _)]

/-- One more level counts on, or it starts a series towards a higher version. -/
theorem candidate_concat (nonempty : ls ≠ []) :
    candidate prereleaseId s (ls ++ [l])
      = if l.rank ≤ (Level.greatest ls).rank then
          (s.bump (Level.greatest ls)).withPre ⟨prereleaseId, Level.sinceGreatest ls + 1⟩
        else (s.bump l).withPre (.first prereleaseId) := by
  rw [candidate, Level.greatest_concat]
  split
  next le => rw [Level.sinceGreatest_concat_of_le nonempty le, Level.join_eq_left le]
  next higher =>
    have lt := Nat.lt_of_not_le higher
    rw [Level.sinceGreatest_concat_of_lt lt, Level.join_eq_right (Nat.le_of_lt lt)]
    rfl

end Version

/-! ## The next step -/

namespace ReleasePolicy

variable {prereleaseId : String} {s : Version} {l : Level} {ls : List Level}

/-- After a candidate the next step is the candidate of one more level. -/
theorem nextStep_candidate (stable : s.pre = none) (nonempty : ls ≠ []) :
    nextStep prereleaseId (s.bump l) (some (Version.candidate prereleaseId s ls))
      = Version.candidate prereleaseId s (ls ++ [l]) := by
  have goesOn : (s.bump l).upTo (s.bump (Level.greatest ls)) = true
      ↔ l.rank ≤ (Level.greatest ls).rank := by
    rw [Version.upTo_eq_not_below, Bool.not_eq_true', ← Bool.not_eq_true,
      Version.bump_below_iff stable, Nat.not_lt]
  rw [nextStep, Version.base_candidate, Version.candidate_concat nonempty]
  simp only [goesOn]
  rfl

/-- What leads to no version above the stable one is not gone on with. -/
theorem nextStep_first (stable : s.pre = none) (fires : l.fires = true) {latest : Option Version}
    (old : ∀ v, latest = some v → s.below v.base = false) :
    nextStep prereleaseId (s.bump l) latest = Version.candidate prereleaseId s [l] := by
  have starts : Version.candidate prereleaseId s [l] = (s.bump l).withPre (.first prereleaseId) := by
    cases l <;> rfl
  rw [starts]
  cases latest with
  | none => rfl
  | some v =>
      have raised : v.base.below (s.bump l) = true :=
        Version.below_of_notBelow_of_below (old v rfl) (Version.below_bump stable fires)
      rw [nextStep, Version.upTo_eq_not_below, raised]
      rfl

/-! ## A series of plans -/

/-- The plans that are made on the prerelease branch one after the other while `s` is the latest
stable version.  Each of them goes on from the version of the one before. -/
def planSeries (p : ReleasePolicy) (s : Version) (latest : Option Version) :
    List (Decision × Date) → Except Error (List Plan)
  | [] => .ok []
  | (d, date) :: batches => do
    match ← p.plan p.branches.prerelease d ⟨some s, latest⟩ date with
    | none => p.planSeries s latest batches
    | some plan => return plan :: (← p.planSeries s (some plan.version) batches)

end ReleasePolicy

variable {c : Config} {s : Version} {latest : Option Version} {pattern : TagPattern}
  {first : Version} {bypass : Pattern}

/-- Every plan of the prerelease branch has the next step as its version. -/
theorem ReleasePolicy.exists_plan_prerelease (promises : c.Promises pattern first bypass)
    (hlegal : Identifier.legal c.release.branches.prereleaseId.toList = true)
    (stable : s.pre = none)
    (known : ∀ v, latest = some v → v.OnTrack c.release.branches.prereleaseId .prerelease)
    {d : Decision} (fires : d.level.fires = true) (date : Date) :
    ∃ plan, c.release.plan c.release.branches.prerelease d ⟨some s, latest⟩ date
        = .ok (some plan) ∧
      plan.version = nextStep c.release.branches.prereleaseId (s.bump d.level) latest := by
  have kinds : History.OnTracks c.release.branches.prereleaseId ⟨some s, latest⟩ := by
    refine ⟨?_, known⟩
    rintro _ ⟨⟩
    exact stable
  obtain ⟨v, next, planned⟩ :=
    exists_plan_of_fires promises hlegal .prerelease kinds fires date
  cases next
  exact ⟨_, planned, rfl⟩

/-- After plans at the levels `before`, every further plan is the candidate of the levels up to
its own. -/
theorem planSeries_eq (promises : c.Promises pattern first bypass)
    (hlegal : Identifier.legal c.release.branches.prereleaseId.toList = true)
    (stable : s.pre = none) {batches : List (Decision × Date)}
    (fire : ∀ b ∈ batches, b.1.level.fires = true) (before : List Level)
    (known : ∀ v, latest = some v → v.OnTrack c.release.branches.prereleaseId .prerelease)
    (next : ∀ l : Level, l.fires = true →
      ReleasePolicy.nextStep c.release.branches.prereleaseId (s.bump l) latest
        = Version.candidate c.release.branches.prereleaseId s (before ++ [l])) :
    ∃ plans, c.release.planSeries s latest batches = .ok plans ∧
      plans.length = batches.length ∧
      ∀ k plan, plans[k]? = some plan →
        plan.version = Version.candidate c.release.branches.prereleaseId s
          (before ++ (batches.take (k + 1)).map fun b => b.1.level) := by
  induction batches generalizing latest before with
  | nil => exact ⟨[], rfl, rfl, by simp⟩
  | cons batch batches ih =>
      obtain ⟨d, date⟩ := batch
      have fires : d.level.fires = true := fire _ List.mem_cons_self
      obtain ⟨plan, planned, version⟩ :=
        ReleasePolicy.exists_plan_prerelease promises hlegal stable known fires date
      rw [next d.level fires] at version
      have onTrack : ∀ v, some plan.version = some v →
          v.OnTrack c.release.branches.prereleaseId .prerelease := by
        rintro _ ⟨⟩
        rw [version]
        exact Version.candidate_onTrack
      have goesOn : ∀ l : Level, l.fires = true →
          ReleasePolicy.nextStep c.release.branches.prereleaseId (s.bump l) (some plan.version)
            = Version.candidate c.release.branches.prereleaseId s (before ++ [d.level] ++ [l]) := by
        intro l _
        rw [version, ReleasePolicy.nextStep_candidate stable (by simp)]
      obtain ⟨plans, series, length, candidates⟩ :=
        ih (fun b hb => fire b (List.mem_cons_of_mem _ hb)) _ onTrack goesOn
      refine ⟨plan :: plans, ?_, by rw [List.length_cons, length, List.length_cons], ?_⟩
      · rw [ReleasePolicy.planSeries, planned]
        simp only [bind, Except.bind, series]
        rfl
      · intro k other found
        cases k with
        | zero =>
            rw [List.getElem?_cons_zero, Option.some.injEq] at found
            rw [← found, version]
            rfl
        | succ k =>
            rw [candidates k other found, List.take_succ_cons, List.map_cons, List.append_assoc]
            rfl

/-- Under a valid configuration, every plan of a series on the prerelease branch is made, and it
leads to what the greatest level so far asks for after the stable version, whatever there was
before.  Its number counts the plans since that level was first reached.  How the commits are
divided between the plans makes no difference to what they lead to. -/
theorem planSeries_accumulates (valid : c.validate = .ok ())
    (hlegal : Identifier.legal c.release.branches.prereleaseId.toList = true)
    (stable : s.pre = none)
    (start : ∀ v, latest = some v →
      (∃ n, v.pre = some ⟨c.release.branches.prereleaseId, n⟩) ∧ s.below v.base = false)
    {batches : List (Decision × Date)} (fire : ∀ b ∈ batches, b.1.level ≠ .none) :
    ∃ plans, c.release.planSeries s latest batches = .ok plans ∧
      plans.length = batches.length ∧
      ∀ k plan, plans[k]? = some plan →
        let levels := (batches.take (k + 1)).map fun b => b.1.level
        plan.version.base = s.bump (Level.greatest levels) ∧
          plan.version.pre
            = some ⟨c.release.branches.prereleaseId, Level.sinceGreatest levels⟩ ∧
          ∀ commits : List (List ParsedCommit),
            (batches.take (k + 1)).map Prod.fst = commits.map (Decision.ofCommits c.release) →
            plan.version.base = s.bump (Decision.ofCommits c.release commits.flatten).level := by
  obtain ⟨configured, first, bypass, promises⟩ := Config.exists_promises valid
  obtain ⟨plans, series, length, candidates⟩ :=
    planSeries_eq promises hlegal stable (fun b hb => bne_iff_ne.mpr (fire b hb)) []
      (fun v hv => (start v hv).1)
      (fun l fires => ReleasePolicy.nextStep_first stable fires fun v hv => (start v hv).2)
  refine ⟨plans, series, length, fun k plan found => ?_⟩
  have version := candidates k plan found
  rw [List.nil_append] at version
  have base := (congrArg Version.base version).trans Version.base_candidate
  refine ⟨base, congrArg Version.pre version, fun commits divided => ?_⟩
  have levels : (batches.take (k + 1)).map (fun b => b.1.level)
      = (commits.map (Decision.ofCommits c.release)).map Decision.level := by
    rw [← divided, List.map_map]
    rfl
  rw [base, levels, ← Decision.level_flatten]

/-- Candidates for a correction, an addition and two corrections after that. -/
def sampleSeries : List (Decision × Date) :=
  [(⟨.patch, ⟨[], []⟩⟩, ⟨2026, 1, 9⟩), (⟨.minor, ⟨[], []⟩⟩, ⟨2026, 1, 12⟩),
    (⟨.patch, ⟨[], []⟩⟩, ⟨2026, 1, 13⟩), (⟨.patch, ⟨[], []⟩⟩, ⟨2026, 1, 16⟩)]

/-- The corrections go on with what the addition started, whatever became of the candidates before
the stable version. -/
theorem accumulates_addition :
    ∃ plans plan,
      Config.standard.release.planSeries (.stable 1 2 3) (some ⟨1, 2, 0, some ⟨"rc", 7⟩⟩)
          sampleSeries = .ok plans ∧
        plans.length = 4 ∧ plans[3]? = some plan ∧
        plan.version.base = .stable 1 3 0 ∧ plan.version.pre = some ⟨"rc", 3⟩ := by
  have start : ∀ v, some (⟨1, 2, 0, some ⟨"rc", 7⟩⟩ : Version) = some v →
      (∃ n, v.pre = some ⟨Config.standard.release.branches.prereleaseId, n⟩) ∧
        (Version.stable 1 2 3).below v.base = false := by
    rintro _ ⟨⟩
    exact ⟨⟨7, rfl⟩, by decide⟩
  have fire : ∀ b ∈ sampleSeries, b.1.level ≠ .none := by decide
  obtain ⟨plans, series, length, candidates⟩ :=
    planSeries_accumulates Config.validate_standard (by decide) rfl start fire
  have last : 3 < plans.length := by
    rw [length]
    decide
  obtain ⟨base, number, -⟩ := candidates 3 plans[3] (List.getElem?_eq_getElem last)
  exact ⟨plans, plans[3], series, length, List.getElem?_eq_getElem last, base, number⟩

end ReleasePlanner
