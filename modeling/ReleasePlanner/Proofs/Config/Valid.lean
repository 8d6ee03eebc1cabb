import ReleasePlanner.Lint.Linter
import ReleasePlanner.Proofs.Step

/-!
# What a valid configuration promises

A configuration that passes `Config.validate` has a tag pattern, a stable first
version and an expression for its own release commits, and its branches differ
(`Config.Promises`).  The configuration when nothing is written down is valid
(`validate_standard`).
-/

namespace ReleasePlanner.Config

variable {c : Config} {pattern : TagPattern} {first : Version} {bypass : Pattern}

/-- What can be relied on in a valid configuration. -/
structure Promises (c : Config) (pattern : TagPattern) (first : Version) (bypass : Pattern) :
    Prop where
  pattern_ok : c.release.tagPattern = .ok pattern
  first_ok : c.release.firstVersion = .ok first
  first_stable : first.pre = none
  bypass_ok : c.lint.bypass = .ok bypass
  branches_ne : c.release.branches.release ≠ c.release.branches.prerelease
  identifier_ok : PreRelease.checkIdentifier c.release.branches.prereleaseId.toList = .ok ()
  own_accepted : ∀ v ∈ samples c.release.branches,
    bypass.isMatch (sampleHeader c.release v) = true

theorem validateBranches_eq_ok {b : BranchLayout} (h : validateBranches b = .ok ()) :
    b.release ≠ b.prerelease ∧ PreRelease.checkIdentifier b.prereleaseId.toList = .ok () := by
  rw [validateBranches] at h
  split at h
  next => cases h
  next =>
    split at h
    next => cases h
    next different =>
      split at h
      next => cases h
      next => exact ⟨different, Result.mapError_eq_ok.mp h⟩

theorem validateVersions_eq_ok {p : ReleasePolicy} (h : validateVersions p = .ok ()) :
    ∃ pattern first, p.tagPattern = .ok pattern ∧ p.firstVersion = .ok first ∧
      first.pre = none := by
  simp only [validateVersions, Result.bind_eq_ok, Result.mapError_eq_ok] at h
  obtain ⟨pattern, hpattern, first, hfirst, h⟩ := h
  split at h
  next => cases h
  next stable =>
    refine ⟨pattern, first, hpattern, hfirst, ?_⟩
    simpa [Version.isPreRelease] using stable

theorem validateMessage_eq_ok {p : ReleasePolicy} (h : validateMessage bypass p = .ok ()) :
    ∀ v ∈ samples p.branches, bypass.isMatch (sampleHeader p v) = true := by
  intro v hv
  rw [validateMessage] at h
  split at h
  next => cases h
  next none_found =>
    have := List.find?_eq_none.mp none_found v hv
    simpa using this

/-- A valid configuration keeps its promises. -/
theorem exists_promises (h : c.validate = .ok ()) :
    ∃ pattern first bypass, c.Promises pattern first bypass := by
  rw [validate, Result.mapError_eq_ok] at h
  simp only [check, Result.bind_eq_ok] at h
  obtain ⟨_, _, bypass, hbypass, _, _, _, _, _, hbranches, _, hversions, hmessage⟩ := h
  obtain ⟨hne, hid⟩ := validateBranches_eq_ok hbranches
  obtain ⟨pattern, first, hpattern, hfirst, hstable⟩ := validateVersions_eq_ok hversions
  exact ⟨pattern, first, bypass, hpattern, hfirst, hstable, hbypass, hne, hid,
    validateMessage_eq_ok hmessage⟩

/-- There is a linter. -/
theorem Promises.linter_ok (promises : c.Promises pattern first bypass) :
    Linter.ofPolicy c.lint = .ok ⟨c.lint, bypass⟩ := by
  rw [Linter.ofPolicy, promises.bypass_ok]
  rfl

/-- Nothing needs to be configured. -/
theorem validate_standard : standard.validate = .ok () := by
  have passed : standard.validate.toOption = some () := by decide +kernel
  exact Result.toOption_eq_some.mp passed

/-- When nothing is configured, a tag is a version after the letter v. -/
theorem tagPattern_standard : standard.release.tagPattern = .ok ⟨['v'], []⟩ := by
  have marked : standard.release.tagPattern.toOption = some ⟨['v'], []⟩ := by decide
  exact Result.toOption_eq_some.mp marked

end ReleasePlanner.Config
