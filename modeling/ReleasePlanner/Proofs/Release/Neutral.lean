import ReleasePlanner.Proofs.Regex.Takes
import ReleasePlanner.Proofs.Release.OwnCommit
import ReleasePlanner.Proofs.Release.OwnLevel
import ReleasePlanner.Proofs.Version.Levels

/-!
# Release commits are neutral

As long as the template of the message, the ignore pattern and the rule of the
release type say what they say when nothing is configured, the releases that
were made do not count for those to come (`release_commit_neutral`): their
commits are accepted as they are, and it makes no difference to a decision
whether they are among the commits.

The ignore pattern matches their headers, those of stable versions and of
release candidates (`takes_ownExpression`).  What their notes quote cannot make
them breaking, since they read as releases whatever the notes are
(`readsAsRelease_commitMessage`).
-/

namespace ReleasePlanner

open Regex Regex.Re

variable {v : Version}

/-! ## The ignore pattern -/

namespace Regex

variable {before after : List Char}

namespace Re

theorem takes_number (n : Nat) : number.Takes before (Text.decimal n) after :=
  takes_number_iff.mpr ⟨Text.decimal_ne_nil n,
    fun _ hc => Text.isDecimalDigit_of_isDigit (Text.isDigit_of_mem_decimal hc)⟩

/-- The mark of a release candidate. -/
def candidate : Re :=
  seq (spell ['-', 'r', 'c', '.'] ++ [number])

end Re

end Regex

/-- What the expression for the headers of release commits is read as. -/
def ownExpression : Re :=
  seq (look false .textStart :: (spell ReleasePolicy.ownLead
    ++ [number, set (.single '.'), number, set (.single '.'), number, rep 0 (some 1) candidate,
      set (.single '.')]))

theorem ofText?_standardIgnorePattern :
    Pattern.ofText? standardIgnorePattern = some ⟨standardIgnorePattern, ownExpression⟩ := by
  decide +kernel

/-- What follows the numbers of a version is the mark of a release candidate, if there is one. -/
theorem exists_takes_candidate (hpre : ∀ p, v.pre = some p → p.identifier = "rc") :
    ∃ mark, v.chars = v.coreChars ++ mark ∧
      ∀ before after, (rep 0 (some 1) candidate).Takes before mark after := by
  cases stable : v.pre with
  | none =>
      refine ⟨[], ?_, fun _ _ => .absent⟩
      rw [Version.chars, stable, List.append_nil]
  | some p =>
      have hmark : '-' :: p.chars = ['-', 'r', 'c', '.'] ++ Text.decimal p.iteration := by
        rw [PreRelease.chars, hpre p stable]
        rfl
      refine ⟨['-', 'r', 'c', '.'] ++ Text.decimal p.iteration, ?_, fun _ _ => ?_⟩
      · rw [Version.chars, stable, ← hmark]
      · exact .present (.seq_spell (List.cons_ne_nil _ _) (takes_number _))

theorem takes_ownExpression (hpre : ∀ p, v.pre = some p → p.identifier = "rc") :
    ownExpression.Takes [] (ReleasePolicy.ownParts v).chars [] := by
  obtain ⟨mark, hchars, hmark⟩ := exists_takes_candidate hpre
  have hparts : (ReleasePolicy.ownParts v).chars
      = [] ++ (ReleasePolicy.ownLead ++ (Text.decimal v.major ++ (['.'] ++ (Text.decimal v.minor
        ++ (['.'] ++ (Text.decimal v.patch ++ (mark ++ ['.']))))))) := by
    simp [ReleasePolicy.chars_ownParts, hchars, Version.coreChars]
  have filled : ∀ (a : Re) (as : List Re), a :: as ≠ [] := List.cons_ne_nil
  rw [hparts]
  refine .seq_cons (by simp) .textStart (.seq_spell (filled _ _) ?_)
  refine .seq_cons (filled _ _) (takes_number _) (.seq_cons (filled _ _) .single ?_)
  refine .seq_cons (filled _ _) (takes_number _) (.seq_cons (filled _ _) .single ?_)
  exact .seq_cons (filled _ _) (takes_number _) (.seq_cons (filled _ _) (hmark _ _) .single)

theorem Linter.ofPolicy_of_standardIgnorePattern {p : LintPolicy}
    (same : p.ignorePattern = standardIgnorePattern) :
    ofPolicy p = .ok ⟨p, standardIgnorePattern, ownExpression⟩ := by
  rw [ofPolicy, LintPolicy.bypass, same, ofText?_standardIgnorePattern]
  rfl

/-- The ignore pattern that is there when nothing is configured matches the header. -/
theorem Linter.exists_of_standardIgnorePattern {p : LintPolicy}
    (same : p.ignorePattern = standardIgnorePattern) :
    ∃ linter, Linter.ofPolicy p = .ok linter ∧
      ∀ v : Version, (∀ pre, v.pre = some pre → pre.identifier = "rc") →
        linter.bypass.isMatch (String.ofList (ReleasePolicy.ownParts v).chars) = true := by
  refine ⟨_, ofPolicy_of_standardIgnorePattern same, fun v hpre => ?_⟩
  have found := matchesIn_of_takes (takes_ownExpression hpre)
  rw [List.nil_append, List.append_nil] at found
  rwa [Pattern.isMatch, String.toList_ofList]

/-! ## Commits that do not count -/

/-- A commit that is not breaking, asks for no release and has no title makes no difference. -/
theorem Decision.ofCommits_insert {p : ReleasePolicy} {r : ParsedCommit}
    (plain : r.breaking = false) (level : p.levelOf r = .none) (untitled : p.titleOf? r = none)
    (before after : List ParsedCommit) :
    ofCommits p (before ++ r :: after) = ofCommits p (before ++ after) := by
  have dropped : ∀ keep : ParsedCommit → Bool, keep r = false →
      (before ++ r :: after).filter keep = (before ++ after).filter keep := by
    intro keep out
    rw [List.filter_append, List.filter_append, List.filter_cons_of_neg (by simp [out])]
  have hlevel : Level.greatest ((before ++ r :: after).map p.levelOf)
      = Level.greatest ((before ++ after).map p.levelOf) := by
    rw [List.map_append, List.map_append, List.map_cons, Level.greatest_append,
      Level.greatest_append, Level.greatest_cons, level]
    rfl
  have hsection : ReleaseNotes.sectionOf p (before ++ r :: after)
      = ReleaseNotes.sectionOf p (before ++ after) := by
    funext heading
    rw [ReleaseNotes.sectionOf, ReleaseNotes.sectionOf, dropped _ (by rw [untitled]; rfl)]
  rw [ofCommits, ofCommits, ReleaseNotes.compose, ReleaseNotes.compose, hlevel, hsection,
    dropped _ plain]

/-- A commit of a type that is hidden and has no level makes no difference unless it is breaking. -/
theorem ReleasePolicy.ofCommits_insert_of_hidden {p : ReleasePolicy} {r : ParsedCommit}
    {kind : CommitKind} (hkind : r.kind? = some kind) (plain : r.breaking = false)
    (hidden : ∀ rule, p.rule? kind = some rule → rule.hidden = true ∧ rule.level = .none)
    (before after : List ParsedCommit) :
    Decision.ofCommits p (before ++ r :: after) = Decision.ofCommits p (before ++ after) := by
  have level : p.levelOf r = .none := by
    rw [levelOf, plain, hkind]
    cases hrule : p.rule? kind with
    | none => simp [hrule]
    | some rule => simp [hrule, (hidden rule hrule).2]
  have untitled : p.titleOf? r = none := by
    rw [titleOf?, hkind]
    cases hrule : p.rule? kind with
    | none => simp [hrule]
    | some rule => simp [hrule, TypePolicy.shownTitle?, (hidden rule hrule).1]
  exact Decision.ofCommits_insert plain level untitled before after

/-! ## Release commits -/

variable {c : Config}

/-- Where the template of the message and the ignore pattern are those that are there when nothing
is configured, and commits of the release type are hidden and ask for no release, the commit of a
release is of that type, has no footer and is not breaking, and it is accepted as it is.  Wherever
it stands among other commits, the decision on them is the same without it.  This holds whatever
commits its notes list, for stable versions and for release candidates. -/
theorem release_commit_neutral (template : c.release.message = ReleasePolicy.standard.message)
    (pattern : c.lint.ignorePattern = standardIgnorePattern)
    (hidden : ∀ rule, c.release.rule? .release = some rule →
      rule.hidden = true ∧ rule.level = .none)
    (hpre : ∀ pre, v.pre = some pre → pre.identifier = "rc")
    (messages : List (String × String)) (date : Date) :
    ∃ linter, Linter.ofPolicy c.lint = .ok linter ∧
      let notes := ReleaseNotes.compose c.release (linter.lint messages).accepted
      let commit := Message.parse (c.release.commitMessage v (Changelog.render notes v date))
      commit.type = "release" ∧ commit.footer = none ∧ commit.breaking = false ∧
        linter.judge commit = .bypassed ∧
        ∀ before after, Decision.ofCommits c.release (before ++ commit :: after)
          = Decision.ofCommits c.release (before ++ after) := by
  obtain ⟨linter, made, accepts⟩ := Linter.exists_of_standardIgnorePattern pattern
  have wellNamed : v.WellNamed := by
    intro pre found
    rw [hpre pre found]
    decide
  have quoted : ∀ r ∈ (linter.lint messages).accepted, r.OneLine := by
    intro r hr
    obtain ⟨j, hj, rfl⟩ := List.mem_map.mp (Linter.mem_accepted_iff.mp hr).1
    obtain ⟨message, -, rfl⟩ := List.mem_map.mp hj
    exact Message.oneLine_parse _
  have reads := ReleasePolicy.readsAsRelease_commitMessage template wellNamed quoted date
  have hkind : CommitKind.ofName? "release" = some .release := by decide
  refine ⟨linter, made, reads.type_eq, reads.footer_eq, reads.breaking_eq, ?_, ?_⟩
  · rw [Linter.judge_eq_bypassed_iff, reads.header_eq]
    exact Or.inl (accepts v hpre)
  · rw [← reads.type_eq] at hkind
    exact ReleasePolicy.ofCommits_insert_of_hidden hkind reads.breaking_eq hidden

/-- Additions are listed under a title that holds a paragraph of its own, which starts like a note
on a breaking change. -/
def Config.loud : Config :=
  { Config.standard with
    release := { ReleasePolicy.standard with
      rules := [.shown .feat .minor "NEWS\n\nBREAKING CHANGE: None." ":sparkles:",
        .silent .release] } }

/-- A breaking addition. -/
def Config.addition : String :=
  "feat(lib/hkt_macro)!: Add it.\n\nBREAKING CHANGE: Not the old one."

/-- The title does not make the commit of a release candidate breaking, nor does the footer of the
addition that is listed. -/
theorem loud_candidate_neutral :
    ∃ linter, Linter.ofPolicy Config.loud.lint = .ok linter ∧
      let listed := (linter.lint [("0a1b2c3", Config.addition)]).accepted
      let version : Version := ⟨2, 0, 0, some ⟨"rc", 1⟩⟩
      let commit := Message.parse (Config.loud.release.commitMessage version
        (Changelog.render (ReleaseNotes.compose Config.loud.release listed) version ⟨2026, 1, 9⟩))
      commit.breaking = false ∧ linter.judge commit = .bypassed ∧
        Decision.ofCommits Config.loud.release [commit] = ⟨.none, ⟨[], []⟩⟩ := by
  have hidden : ∀ rule, Config.loud.release.rule? .release = some rule →
      rule.hidden = true ∧ rule.level = .none := by
    rintro _ ⟨⟩
    exact ⟨rfl, rfl⟩
  have hpre : ∀ pre, (⟨2, 0, 0, some ⟨"rc", 1⟩⟩ : Version).pre = some pre →
      pre.identifier = "rc" := by
    rintro _ ⟨⟩
    rfl
  obtain ⟨linter, made, -, -, plain, bypassed, neutral⟩ :=
    release_commit_neutral rfl rfl hidden hpre [("0a1b2c3", Config.addition)] ⟨2026, 1, 9⟩
  exact ⟨linter, made, plain, bypassed, neutral [] []⟩

end ReleasePlanner
