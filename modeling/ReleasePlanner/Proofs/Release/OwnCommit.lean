import ReleasePlanner.Lint.Report
import ReleasePlanner.Proofs.Config.Valid
import ReleasePlanner.Proofs.Release.Plan
import ReleasePlanner.Proofs.Text.Line

/-!
# Linting release commits

The linter looks at the header of a release commit, and the header comes from
the first line of the message template: with the version filled in, and from
the place of the notes on with the heading of the release (`headline`).

A valid configuration accepts the headers of two samples as they are.  That a
release commit is accepted as it is depends on its own header
(`own_commit_bypassed_iff`), which may be another one.
-/

namespace ReleasePlanner

/-! ## The header of a message -/

/-- The header of a message is its first line without blanks at the end. -/
theorem Message.header_parse (message : String) :
    (Message.parse message).header
      = String.ofList (Text.trimEnd (Text.firstLine message.toList)) := by
  rw [parse, parseChars, lines, Text.firstLine]
  cases Text.lines message.toList with
  | nil => rfl
  | cons first rest => rfl

theorem Linter.judge_eq_bypassed_iff (linter : Linter) (commit : ParsedCommit) :
    linter.judge commit = .bypassed ↔
      linter.bypass.isMatch commit.header = true ∨
        (linter.policy.ignoreGitGenerated = true ∧
          Header.isGenerated commit.header.toList = true) := by
  rw [judge, bypasses]
  split
  next h => simpa using h
  next h => simpa using h

/-! ## The header of a release commit -/

namespace ReleasePolicy

variable {p : ReleasePolicy} {v : Version} {date : Date}

/-- The first line of the message template with a version filled in. -/
def openingLine (p : ReleasePolicy) (v : Version) : List Char :=
  Text.line (Text.fill Text.versionWord v.chars (Text.line p.message.toList))

/-- The header of the release commit of a version. -/
def headline (p : ReleasePolicy) (v : Version) (date : Date) : List Char :=
  Text.trimEnd <|
    match Text.around? Text.notesWord (p.openingLine v) with
    | none => p.openingLine v
    | some (before, _) => before ++ Text.line (Changelog.releaseHeading v date).toList

theorem exists_render_eq (n : ReleaseNotes) (v : Version) (date : Date) :
    ∃ more, (Changelog.render n v date).toList
      = (Changelog.releaseHeading v date).toList ++ '\n' :: more :=
  ⟨_, Changelog.toList_render n v date⟩

/-- The message starts with what the template starts with. -/
theorem line_commitMessage (n : ReleaseNotes) :
    Text.trimEnd (Text.line (p.commitMessage v (Changelog.render n v date)).toList)
      = p.headline v date := by
  have hnotes : '\n' ∉ Text.notesWord := by decide
  have hversion : '\n' ∉ Text.versionWord := by decide
  rw [commitMessage, String.toList_ofList, Text.line_fill (by decide) hnotes,
    Text.line_fill (by decide) hversion, ← openingLine, headline]
  cases occurs : Text.around? Text.notesWord (p.openingLine v) with
  | none =>
      rw [Text.fill_eq_self occurs, openingLine, Text.line_eq_self (Text.newline_notMem_line _)]
  | some parts =>
      obtain ⟨before, after⟩ := parts
      obtain ⟨more, hrender⟩ := exists_render_eq n v date
      have hbefore : '\n' ∉ before := by
        intro h
        have hopening := Text.eq_of_around? occurs
        have hnone := Text.newline_notMem_line
          (Text.fill Text.versionWord v.chars (Text.line p.message.toList))
        rw [← openingLine, hopening] at hnone
        exact hnone (List.mem_append_left _ h)
      rw [Text.fill_of_around? (by decide) occurs, Text.line_append hbefore, hrender,
        List.append_assoc, List.cons_append, Text.line_append_newline]

end ReleasePolicy

/-! ## Accepting release commits -/

variable {c : Config}

theorem Planned.header_message {p : ReleasePolicy} {branch : String} {d : Decision} {h : History}
    {date : Date} {plan : Plan} {pattern : TagPattern}
    (planned : Planned p branch d h date plan pattern) :
    (Message.parse plan.message).header = String.ofList (p.headline plan.version date) := by
  have hmessage : plan.message =
      p.commitMessage plan.version (Changelog.render d.notes plan.version date) := by
    rw [planned.plan_eq]
    rfl
  rw [Message.header_parse, hmessage, Text.trimEnd_firstLine, ReleasePolicy.line_commitMessage]

/-- A valid configuration has a linter, which accepts the headers of the two samples as they are.
It accepts a release commit as it is exactly if its own header matches the ignore pattern, or looks
like a header of git and these are accepted. -/
theorem own_commit_bypassed_iff (valid : c.validate = .ok ()) :
    ∃ linter, Linter.ofPolicy c.lint = .ok linter ∧
      (∀ v ∈ Config.samples c.release.branches,
        linter.bypass.isMatch (Config.sampleHeader c.release v) = true) ∧
      ∀ branch d h date plan, c.release.plan branch d h date = .ok (some plan) →
        (linter.judge (Message.parse plan.message) = .bypassed ↔
          linter.bypass.isMatch (String.ofList (c.release.headline plan.version date)) = true ∨
            (c.lint.ignoreGitGenerated = true ∧
              Header.isGenerated (c.release.headline plan.version date) = true)) := by
  obtain ⟨pattern, first, bypass, promises⟩ := Config.exists_promises valid
  refine ⟨⟨c.lint, bypass⟩, ?_, promises.own_accepted, ?_⟩
  · rw [Linter.ofPolicy, promises.bypass_ok]
    rfl
  · intro branch d h date plan hplan
    obtain ⟨pattern, planned⟩ := exists_planned hplan
    rw [Linter.judge_eq_bypassed_iff, planned.header_message, String.toList_ofList]

/-- What is planned for a correction after version 1.0.0. -/
def planCorrection (c : Config) : Except Error (Option Plan) :=
  c.release.plan "release" (.ofCommits c.release [Message.parse "fix: Handle nulls."])
    ⟨some (.stable 1 0 0), none⟩ ⟨2026, 1, 9⟩

theorem exists_planCorrection {v : Version}
    (known : ((planCorrection c).toOption.bind id).map Plan.version = some v) :
    ∃ plan, planCorrection c = .ok (some plan) ∧ plan.version = v := by
  obtain ⟨plan, hplan, hversion⟩ := Option.map_eq_some_iff.mp known
  obtain ⟨planned, hplanned, rfl⟩ := Option.bind_eq_some_iff.mp hplan
  exact ⟨plan, Result.toOption_eq_some.mp hplanned, hversion⟩

/-- When nothing is configured, the release commit of the correction is accepted as it is. -/
theorem own_commit_bypassed_standard :
    ∃ linter plan, Linter.ofPolicy Config.standard.lint = .ok linter ∧
      planCorrection .standard = .ok (some plan) ∧
      linter.judge (Message.parse plan.message) = .bypassed := by
  obtain ⟨plan, hplan, hversion⟩ :=
    exists_planCorrection (c := .standard) (v := .stable 1 0 1) (by decide +kernel)
  obtain ⟨linter, hlinter, -, hown⟩ := own_commit_bypassed_iff Config.validate_standard
  have known : ((Linter.ofPolicy Config.standard.lint).toOption.map fun linter =>
      linter.bypass.isMatch (String.ofList
        (Config.standard.release.headline (.stable 1 0 1) ⟨2026, 1, 9⟩))) = some true := by
    decide +kernel
  rw [hlinter] at known
  refine ⟨linter, plan, hlinter, hplan, (hown _ _ _ _ plan hplan).mpr (Or.inl ?_)⟩
  rw [hversion]
  exact Option.some.inj known

/-- The configuration that accepts the headers of both samples as they are, and no headers of other
versions. -/
def Config.narrow : Config :=
  { Config.standard with
    lint := { LintPolicy.standard with ignorePattern := "^release: 1\\.0\\.0" } }

/-- Under a valid configuration the release commit of the correction may be rejected. -/
theorem own_commit_rejected_narrow :
    Config.narrow.validate = .ok () ∧
      ∃ linter plan, Linter.ofPolicy Config.narrow.lint = .ok linter ∧
        planCorrection .narrow = .ok (some plan) ∧
        (linter.judge (Message.parse plan.message)).accepted = false := by
  have valid : Config.narrow.validate.toOption = some () := by decide +kernel
  have known : ((Linter.ofPolicy Config.narrow.lint).toOption.bind fun linter =>
      ((planCorrection .narrow).toOption.bind id).map fun plan =>
        (linter.judge (Message.parse plan.message)).accepted) = some false := by decide +kernel
  obtain ⟨linter, hlinter, known⟩ := Option.bind_eq_some_iff.mp known
  obtain ⟨plan, hplan, hrejected⟩ := Option.map_eq_some_iff.mp known
  obtain ⟨planned, hplanned, rfl⟩ := Option.bind_eq_some_iff.mp hplan
  exact ⟨Result.toOption_eq_some.mp valid, linter, plan, Result.toOption_eq_some.mp hlinter,
    Result.toOption_eq_some.mp hplanned, hrejected⟩

end ReleasePlanner
