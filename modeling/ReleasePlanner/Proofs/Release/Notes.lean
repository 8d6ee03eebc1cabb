import Mathlib.Algebra.Ring.Nat
import Mathlib.Data.List.Count
import ReleasePlanner.Lint.Report
import ReleasePlanner.Proofs.Config.Rules
import ReleasePlanner.Proofs.Lint.Acceptance
import ReleasePlanner.Release.Notes

/-!
# What the notes list

The sections of notes have different titles, and together they list exactly the
commits that have a title, each as often as it was given (`perm_listed`).

A commit that was held against the rules and accepted has a type that the
configuration lists, and so exactly one rule.  If the rule shows it, one section
lists it, and no commit that was rejected is listed anywhere
(`accepted_listed`).
-/

namespace ReleasePlanner

/-! ## Grouping -/

/-- Groups with different keys hold what has one of the keys. -/
theorem perm_flatMap_filter_key {α κ : Type} [BEq κ] [LawfulBEq κ] (key? : α → Option κ)
    (l : List α) {keys : List κ} (distinct : keys.Nodup) :
    (keys.flatMap fun k => l.filter fun a => key? a == some k).Perm
      (l.filter fun a => (key? a).any fun k => keys.contains k) := by
  induction keys with
  | nil => simp
  | cons k keys ih =>
      rw [List.nodup_cons] at distinct
      have first : (l.filter fun a => (key? a).any fun k' => (k :: keys).contains k').filter
          (fun a => key? a == some k) = l.filter fun a => key? a == some k := by
        rw [List.filter_filter]
        refine List.filter_congr fun a _ => ?_
        cases key? a with
        | none => rfl
        | some k' =>
            by_cases same : k' = k
            · simp [same]
            · simp [beq_eq_false_iff_ne.mpr same]
      have others : (l.filter fun a => (key? a).any fun k' => (k :: keys).contains k').filter
          (fun a => !(key? a == some k)) = l.filter fun a => (key? a).any fun k' =>
            keys.contains k' := by
        rw [List.filter_filter]
        refine List.filter_congr fun a _ => ?_
        cases key? a with
        | none => rfl
        | some k' =>
            by_cases same : k' = k
            · simp [same, distinct.1]
            · simp [beq_eq_false_iff_ne.mpr same]
      rw [List.flatMap_cons]
      refine List.Perm.trans ?_ (List.filter_append_perm (fun a => key? a == some k) _)
      rw [first, others]
      exact (ih distinct.2).append_left _

/-! ## Sections -/

namespace ReleaseNotes

variable {p : ReleasePolicy} {commits : List ParsedCommit} {r : ParsedCommit} {s : Section}
  {rules : List TypePolicy} {seen : List String} {title : String}

/-- The commits that the sections list, section by section. -/
def listed (n : ReleaseNotes) : List ParsedCommit :=
  n.sections.flatMap Section.commits

/-- There is a heading for each title of a rule, unless it came before. -/
theorem mem_headings_iff :
    title ∈ (headings seen rules).map Prod.fst ↔
      title ∉ seen ∧ ∃ rule ∈ rules, rule.shownTitle? = some title := by
  induction rules generalizing seen with
  | nil => simp [headings]
  | cons rule rules ih =>
      rw [headings, List.exists_mem_cons_iff]
      split
      next untitled =>
        rw [ih, untitled]
        simp
      next first shown =>
        rw [shown, Option.some.injEq]
        split
        next known =>
          rw [ih]
          refine and_congr_right fun new => ?_
          have different : first ≠ title := by
            rintro rfl
            exact new (List.contains_iff_mem.mp known)
          simp [different]
        next unknown =>
          have hunknown : first ∉ seen := fun known => unknown (List.contains_iff_mem.mpr known)
          rw [List.map_cons, List.mem_cons, ih, List.mem_cons, not_or]
          by_cases same : title = first
          · simp [same, hunknown]
          · simp [same, Ne.symm same]

theorem nodup_headings : ((headings seen rules).map Prod.fst).Nodup := by
  induction rules generalizing seen with
  | nil => exact List.nodup_nil
  | cons rule rules ih =>
      rw [headings]
      split
      next => exact ih
      next title _ =>
        split
        next => exact ih
        next =>
          refine List.nodup_cons.mpr ⟨?_, ih⟩
          rw [mem_headings_iff]
          exact fun again => again.1 List.mem_cons_self

/-- A commit that has a title has one of the headings. -/
theorem mem_headings_of_titleOf? (titled : p.titleOf? r = some title) :
    title ∈ (headings [] p.rules).map Prod.fst := by
  obtain ⟨rule, hrule, shown⟩ := Option.bind_eq_some_iff.mp titled
  obtain ⟨kind, -, hrule⟩ := Option.bind_eq_some_iff.mp hrule
  rw [mem_headings_iff]
  exact ⟨List.not_mem_nil, rule, (Config.mem_of_rule? hrule).1, shown⟩

/-- The sections have different titles. -/
theorem nodup_titles (p : ReleasePolicy) (commits : List ParsedCommit) :
    ((compose p commits).sections.map Section.title).Nodup := by
  have titles : ((headings [] p.rules).map (sectionOf p commits)).map Section.title
      = (headings [] p.rules).map Prod.fst := by
    rw [List.map_map]
    rfl
  refine (List.Sublist.map _ List.filter_sublist).nodup ?_
  rw [titles]
  exact nodup_headings

/-- A section lists the commits with its title. -/
theorem commits_of_mem_sections (mem : s ∈ (compose p commits).sections) :
    s.commits = commits.filter fun r => p.titleOf? r == some s.title := by
  obtain ⟨heading, -, rfl⟩ := List.mem_map.mp (List.mem_filter.mp mem).1
  rfl

/-- A commit with a title has a section. -/
theorem exists_section (mem : r ∈ commits) (titled : p.titleOf? r = some title) :
    ∃ s ∈ (compose p commits).sections, s.title = title ∧ r ∈ s.commits := by
  obtain ⟨heading, hheading, rfl⟩ := List.mem_map.mp (mem_headings_of_titleOf? titled)
  have listed : r ∈ (sectionOf p commits heading).commits := by
    rw [sectionOf, List.mem_filter, titled]
    exact ⟨mem, beq_self_eq_true _⟩
  refine ⟨sectionOf p commits heading, List.mem_filter.mpr ⟨?_, ?_⟩, rfl, listed⟩
  · exact List.mem_map.mpr ⟨heading, hheading, rfl⟩
  · simpa using List.ne_nil_of_mem listed

/-- A commit with a title is listed in one section, as often as it was given. -/
theorem exists_only_section (mem : r ∈ commits) (titled : p.titleOf? r = some title) :
    ∃ s, (compose p commits).sections.filter (fun s => s.commits.contains r) = [s] ∧
      s.title = title ∧ s.commits.count r = commits.count r := by
  obtain ⟨s, hs, rfl, -⟩ := exists_section mem titled
  refine ⟨s, ?_, rfl, ?_⟩
  · rw [← filter_key_eq_singleton (nodup_titles p commits) hs]
    refine List.filter_congr fun other hother => ?_
    rw [commits_of_mem_sections hother, Bool.eq_iff_iff, List.contains_iff_mem, List.mem_filter,
      titled, beq_iff_eq, beq_iff_eq, Option.some.injEq]
    exact ⟨fun h => h.2.symm, fun h => ⟨mem, h.symm⟩⟩
  · rw [commits_of_mem_sections hs, List.count_filter]
    rw [titled]
    exact beq_self_eq_true _

/-- The sections list the commits that have a title, each as often as it was given. -/
theorem perm_listed (p : ReleasePolicy) (commits : List ParsedCommit) :
    (compose p commits).listed.Perm (commits.filter fun r => (p.titleOf? r).isSome) := by
  have dropped : ∀ sections : List Section,
      (sections.filter fun s => !s.commits.isEmpty).flatMap Section.commits
        = sections.flatMap Section.commits := by
    intro sections
    induction sections with
    | nil => rfl
    | cons s sections ih =>
        rw [List.filter_cons]
        split
        next => rw [List.flatMap_cons, List.flatMap_cons, ih]
        next empty =>
          have hempty : s.commits = [] := by simpa using empty
          rw [List.flatMap_cons, hempty, ih, List.nil_append]
  have grouped : (compose p commits).listed
      = ((headings [] p.rules).map Prod.fst).flatMap fun title =>
          commits.filter fun r => p.titleOf? r == some title := by
    rw [listed, compose, dropped, List.flatMap_map, List.flatMap_map]
    rfl
  have titled : (commits.filter fun r => (p.titleOf? r).any fun title =>
      ((headings [] p.rules).map Prod.fst).contains title)
        = commits.filter fun r => (p.titleOf? r).isSome := by
    refine List.filter_congr fun r _ => ?_
    cases htitle : p.titleOf? r with
    | none => rfl
    | some title =>
        rw [Option.any_some, List.contains_iff_mem.mpr (mem_headings_of_titleOf? htitle)]
        rfl
  rw [grouped, ← titled]
  exact perm_flatMap_filter_key _ _ nodup_headings

theorem mem_listed_iff :
    r ∈ (compose p commits).listed ↔ r ∈ commits ∧ (p.titleOf? r).isSome = true := by
  rw [(perm_listed p commits).mem_iff, List.mem_filter]

end ReleaseNotes

/-! ## Between the verdicts and the notes -/

variable {c : Config} {linter : Linter} {messages : List (String × String)} {j : Judgement}
  {r : ParsedCommit} {rule : TypePolicy}

/-- The rule of the type of a commit shows it. -/
def ReleasePolicy.shows (p : ReleasePolicy) (r : ParsedCommit) : Bool :=
  (r.kind?.bind p.rule?).any fun rule => !rule.hidden

theorem titleOf?_eq_shownTitle? {p : ReleasePolicy} {kind : CommitKind}
    (hkind : r.kind? = some kind) (hrule : p.rule? kind = some rule) :
    p.titleOf? r = rule.shownTitle? := by
  rw [ReleasePolicy.titleOf?, hkind, Option.bind_some, hrule, Option.bind_some]

theorem shownTitle?_eq_some_iff {title : String} :
    rule.shownTitle? = some title ↔ rule.hidden = false ∧ rule.title = some title := by
  rw [TypePolicy.shownTitle?]
  cases rule.hidden with
  | false => simp
  | true => simp

/-- Under a valid configuration the commits with a title are those that are shown. -/
theorem isSome_titleOf? (table : Config.RuleTable c.lint.types c.release.rules)
    (r : ParsedCommit) : (c.release.titleOf? r).isSome = c.release.shows r := by
  rw [ReleasePolicy.titleOf?, ReleasePolicy.shows]
  cases hrule : r.kind?.bind c.release.rule? with
  | none => rfl
  | some rule =>
      obtain ⟨kind, -, hkind⟩ := Option.bind_eq_some_iff.mp hrule
      rw [Option.bind_some, Option.any_some, Bool.eq_iff_iff, Option.isSome_iff_exists,
        Bool.not_eq_true']
      constructor
      · rintro ⟨title, shown⟩
        exact (shownTitle?_eq_some_iff.mp shown).1
      · intro shown
        obtain ⟨title, htitle⟩ := table.titled rule (Config.mem_of_rule? hkind).1 shown
        exact ⟨title, shownTitle?_eq_some_iff.mpr ⟨shown, htitle⟩⟩

theorem Linter.verdict_of_mem_lint (mem : j ∈ (linter.lint messages).commits) :
    j.verdict = linter.judge j.parsed := by
  obtain ⟨message, -, rfl⟩ := List.mem_map.mp mem
  rfl

/-- The accepted commits of a batch are told by what was read. -/
theorem Linter.accepted_lint (linter : Linter) (messages : List (String × String)) :
    (linter.lint messages).accepted
      = ((linter.lint messages).commits.map Judgement.parsed).filter fun r =>
          (linter.judge r).accepted := by
  rw [LintReport.accepted, List.filter_map]
  congr 1
  refine List.filter_congr fun j hj => ?_
  rw [verdict_of_mem_lint hj]
  rfl

theorem Linter.mem_accepted_iff :
    r ∈ (linter.lint messages).accepted ↔
      r ∈ (linter.lint messages).commits.map Judgement.parsed ∧
        (linter.judge r).accepted = true := by
  rw [accepted_lint, List.mem_filter]

/-- An accepted commit was accepted as often as it occurs in the batch. -/
theorem Linter.count_accepted (accepted : (linter.judge r).accepted = true) :
    (linter.lint messages).accepted.count r
      = ((linter.lint messages).commits.map Judgement.parsed).count r := by
  rw [accepted_lint]
  exact List.count_filter (p := fun r => (linter.judge r).accepted) accepted

/-- A commit that was held against the rules and accepted has a listed type. -/
theorem Linter.exists_kind_of_accepted (accepted : (linter.judge r).accepted = true)
    (judged : (linter.judge r).isBypass = false) :
    ∃ kind ∈ linter.policy.types, r.kind? = some kind := by
  rw [judge] at accepted judged
  split at accepted
  next bypassed =>
    rw [if_pos bypassed] at judged
    cases judged
  next =>
    rw [Verdict.accepted, List.isEmpty_iff] at accepted
    simp only [Verdict.violations, Lint.violations, List.append_eq_nil_iff] at accepted
    obtain ⟨kind, hkind, htype⟩ := Lint.typeViolations_eq_nil_iff.mp accepted.1.1.1.1.1
    refine ⟨kind, hkind, ?_⟩
    rw [ParsedCommit.kind?, htype, CommitKind.ofName?_name]

/-- Nothing accepted is lost.  A commit that was held against the rules and accepted has exactly one
rule.  If the rule shows it, exactly one section lists it, the one with the title of the rule, as
often as it occurs in the batch, and otherwise no section lists it.  No rejected commit is listed,
and there are as many entries as there are accepted commits that are shown. -/
theorem accepted_listed (valid : c.validate = .ok ()) (messages : List (String × String)) :
    ∃ linter, Linter.ofPolicy c.lint = .ok linter ∧
      let report := linter.lint messages
      let notes := ReleaseNotes.compose c.release report.accepted
      (∀ j ∈ report.commits, j.verdict.accepted = true → j.verdict.isBypass = false →
        ∃ kind rule, j.parsed.kind? = some kind ∧
          c.release.rules.filter (fun rule => rule.type == kind) = [rule] ∧
          (rule.hidden = false → ∃ s,
            notes.sections.filter (fun s => s.commits.contains j.parsed) = [s] ∧
              rule.title = some s.title ∧
              s.commits.count j.parsed = (report.commits.map Judgement.parsed).count j.parsed) ∧
          (rule.hidden = true → ∀ s ∈ notes.sections, j.parsed ∉ s.commits)) ∧
      (∀ j ∈ report.commits, j.verdict.accepted = false →
        (∀ s ∈ notes.sections, j.parsed ∉ s.commits) ∧ j.parsed ∉ notes.breaking) ∧
      (notes.sections.map fun s => s.commits.length).sum
        = (report.accepted.filter c.release.shows).length := by
  obtain ⟨pattern, first, bypass, promises⟩ := Config.exists_promises valid
  have table := Config.ruleTable_of_valid valid
  refine ⟨_, promises.linter_ok, ?_, ?_, ?_⟩
  · intro j hj accepted judged
    rw [Linter.verdict_of_mem_lint hj] at accepted judged
    obtain ⟨kind, listed, hkind⟩ := Linter.exists_kind_of_accepted accepted judged
    obtain ⟨rule, only⟩ := table.exists_only_rule listed
    have hrule := Config.rule?_of_filter_eq only
    have htitle := titleOf?_eq_shownTitle? hkind hrule
    have mem := Linter.mem_accepted_iff.mpr ⟨List.mem_map_of_mem hj, accepted⟩
    refine ⟨kind, rule, hkind, only, fun shown => ?_, fun hidden s hs hlisted => ?_⟩
    · obtain ⟨title, titled⟩ := table.titled rule (Config.mem_of_rule? hrule).1 shown
      rw [shownTitle?_eq_some_iff.mpr ⟨shown, titled⟩] at htitle
      obtain ⟨s, hs, rfl, hcount⟩ := ReleaseNotes.exists_only_section mem htitle
      exact ⟨s, hs, titled, hcount.trans (Linter.count_accepted accepted)⟩
    · obtain ⟨-, shown⟩ :=
        ReleaseNotes.mem_listed_iff.mp (List.mem_flatMap.mpr ⟨s, hs, hlisted⟩)
      rw [htitle, TypePolicy.shownTitle?, hidden] at shown
      cases shown
  · intro j hj rejected
    rw [Linter.verdict_of_mem_lint hj] at rejected
    have missing : j.parsed ∉ (Linter.lint ⟨c.lint, bypass⟩ messages).accepted := by
      intro mem
      rw [Linter.mem_accepted_iff, rejected] at mem
      cases mem.2
    refine ⟨fun s hs hlisted => missing ?_, fun hbreaking => missing ?_⟩
    · exact (ReleaseNotes.mem_listed_iff.mp (List.mem_flatMap.mpr ⟨s, hs, hlisted⟩)).1
    · exact (List.mem_filter.mp hbreaking).1
  · have entries := (ReleaseNotes.perm_listed c.release
      (Linter.lint ⟨c.lint, bypass⟩ messages).accepted).length_eq
    simp only [isSome_titleOf? table] at entries
    rw [← entries, ReleaseNotes.listed, List.length_flatMap]

/-- A batch with the same correction twice, a commit of a hidden type and one without a type. -/
def sampleBatch : List (String × String) :=
  [("c0", "fix: Handle nulls."), ("c1", "wip: Half done."), ("c2", "oops"),
    ("c3", "fix: Handle nulls.")]

/-- The section of corrections lists the correction twice. -/
theorem correction_listed_twice :
    ∃ linter s, Linter.ofPolicy Config.standard.lint = .ok linter ∧
      (ReleaseNotes.compose Config.standard.release
        (linter.lint sampleBatch).accepted).sections.filter
          (fun s => s.commits.contains (Message.parse "fix: Handle nulls.")) = [s] ∧
      s.title = "FIX" ∧ s.commits.count (Message.parse "fix: Handle nulls.") = 2 := by
  obtain ⟨linter, hlinter, listed, -⟩ := accepted_listed Config.validate_standard sampleBatch
  have known : ((Linter.ofPolicy Config.standard.lint).toOption.map fun linter =>
      let first := linter.lintOne "c0" "fix: Handle nulls."
      (first.verdict.accepted, first.verdict.isBypass)) = some (true, false) := by
    decide +kernel
  rw [hlinter] at known
  obtain ⟨accepted, judged⟩ := Prod.mk.inj (Option.some.inj known)
  obtain ⟨kind, rule, hkind, only, shown, -⟩ :=
    listed (linter.lintOne "c0" "fix: Handle nulls.") List.mem_cons_self accepted judged
  have parsed : (Message.parse "fix: Handle nulls.").kind? = some .fix := by decide +kernel
  obtain rfl : CommitKind.fix = kind := Option.some.inj (parsed.symm.trans hkind)
  obtain rfl : TypePolicy.shown .fix .patch "FIX" ":bug:" = rule := List.head_eq_of_cons_eq only
  obtain ⟨s, hs, htitle, hcount⟩ := shown rfl
  have twice : (sampleBatch.map fun message => Message.parse message.2).count
      (Message.parse "fix: Handle nulls.") = 2 := by
    decide +kernel
  exact ⟨linter, s, hlinter, hs, (Option.some.inj htitle).symm, hcount.trans twice⟩

end ReleasePlanner
