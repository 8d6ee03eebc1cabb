import ReleasePlanner.Proofs.Lint.Acceptance

/-!
# Broken rules

Each rule has a condition of its own (`Rule.Broken`), which looks at the commit
and the policy and at no other rule.  Linting reports the rules whose
conditions are broken, in the order in which they are looked at
(`Lint.rules_violations`).  So no rule is reported twice, and no rule keeps
another from being reported (`reported_iff_broken`).
-/

namespace ReleasePlanner

/-! ## The conditions -/

namespace Lint

/-- The first letter of the text is a lower-case one. -/
def StartsLower (text : List Char) : Prop :=
  ∃ c ∈ text.find? Text.isAlphabetic, Text.isLowercase c = true

/-- The text does not end with a full stop.  Blanks at its end do not count. -/
def Unstopped (text : List Char) : Prop :=
  (Text.trimEnd text).getLast? ≠ some '.'

-- The characters of the text are searched, not all there are.
instance (text : List Char) : Decidable (StartsLower text) :=
  decidable_of_iff _ (Option.any_eq_true Text.isLowercase (text.find? Text.isAlphabetic))

instance (text : List Char) : Decidable (Unstopped text) :=
  inferInstanceAs (Decidable ((Text.trimEnd text).getLast? ≠ some '.'))

end Lint

namespace Rule

/-- The rules in the order in which they are looked at. -/
def inOrder : List Rule :=
  [typeEmpty, typeCase, typeEnum, scopeEnum, subjectEmpty, subjectCase, subjectFullStop,
    bodyLeadingBlank, bodyCase, bodyFullStop, footerLeadingBlank, headerMaxLength]

/-- The commit breaks the condition of a rule. -/
def Broken (p : LintPolicy) (r : ParsedCommit) : Rule → Prop
  | typeEmpty => r.type = ""
  | typeCase => r.type ≠ "" ∧ ∃ c ∈ r.type.toList, Text.changesInLowercase c = true
  | typeEnum => r.type ≠ "" ∧ ∀ kind ∈ p.types, kind.name ≠ r.type
  | scopeEnum => p.enforceScopes = true ∧ ∃ scope ∈ r.scope, scope ≠ "" ∧ scope ∉ p.scopes
  | subjectEmpty => Text.trim r.subject.toList = []
  | subjectCase =>
    Text.trim r.subject.toList ≠ [] ∧ Lint.StartsLower (Text.trim r.subject.toList)
  | subjectFullStop =>
    Text.trim r.subject.toList ≠ [] ∧ Lint.Unstopped (Text.trim r.subject.toList)
  | bodyLeadingBlank => r.body ≠ none ∧ r.bodyBlanks ≠ 1
  | bodyCase => ∃ body ∈ r.body, Lint.StartsLower body.toList
  | bodyFullStop => ∃ body ∈ r.body, Lint.Unstopped body.toList
  | footerLeadingBlank => r.footer ≠ none ∧ r.footerBlanks ≠ 1
  | headerMaxLength => p.headerMaxLength < r.header.toList.length

instance (p : LintPolicy) (r : ParsedCommit) : DecidablePred (Broken p r)
  | typeEmpty => inferInstanceAs (Decidable (r.type = ""))
  | typeCase =>
    decidable_of_iff (r.type ≠ "" ∧ r.type.toList.any Text.changesInLowercase = true)
      (and_congr_right' List.any_eq_true)
  | typeEnum => inferInstanceAs (Decidable (_ ∧ _))
  | scopeEnum => inferInstanceAs (Decidable (_ ∧ _))
  | subjectEmpty => inferInstanceAs (Decidable (_ = _))
  | subjectCase => inferInstanceAs (Decidable (_ ∧ _))
  | subjectFullStop => inferInstanceAs (Decidable (_ ∧ _))
  | bodyLeadingBlank => inferInstanceAs (Decidable (_ ∧ _))
  | bodyCase => inferInstanceAs (Decidable (∃ body ∈ r.body, _))
  | bodyFullStop => inferInstanceAs (Decidable (∃ body ∈ r.body, _))
  | footerLeadingBlank => inferInstanceAs (Decidable (_ ∧ _))
  | headerMaxLength => inferInstanceAs (Decidable (_ < _))

theorem mem_inOrder (rule : Rule) : rule ∈ inOrder := by
  cases rule <;> decide

theorem nodup_inOrder : inOrder.Nodup := by decide

end Rule

/-! ## What is reported -/

namespace Lint

variable {p : LintPolicy} {r : ParsedCommit}

theorem startsUpper_eq_false_iff {text : List Char} :
    startsUpper text = false ↔ StartsLower text := by
  rw [startsUpper, Bool.not_eq_false', Option.any_eq_true]
  rfl

theorem endsWithStop_eq_false_iff {text : List Char} :
    endsWithStop text = false ↔ Unstopped text := by
  rw [endsWithStop, beq_eq_false_iff_ne]
  rfl

/-- What one check reports: its own rule, if the check fails. -/
theorem rules_require {ok : Bool} {v : Violation} {broken : Rule → Prop} [DecidablePred broken]
    (h : ok = false ↔ broken v.rule) :
    (require ok v).map Violation.rule = [v.rule].filter broken := by
  cases ok with
  | true =>
      have kept : ¬broken v.rule := fun hbroken => Bool.noConfusion (h.mpr hbroken)
      rw [List.filter_singleton, decide_eq_false kept]
      rfl
  | false =>
      rw [List.filter_singleton, decide_eq_true (h.mp rfl)]
      rfl

theorem any_kind?_eq_false_iff :
    (r.kind?.any fun kind => p.types.contains kind) = false ↔
      ∀ kind ∈ p.types, kind.name ≠ r.type := by
  rw [← Bool.not_eq_true, Option.any_eq_true]
  constructor
  · intro unlisted kind listed same
    refine unlisted ⟨kind, ?_, List.contains_iff_mem.mpr listed⟩
    rw [ParsedCommit.kind?, ← same, CommitKind.ofName?_name]
  · rintro unlisted ⟨kind, hkind, listed⟩
    exact unlisted kind (List.contains_iff_mem.mp listed) (CommitKind.ofName?_eq_some hkind)

theorem rules_typeViolations :
    (typeViolations p r).map Violation.rule
      = [Rule.typeEmpty, .typeCase, .typeEnum].filter (Rule.Broken p r) := by
  rw [typeViolations]
  split
  next untyped => simp [Rule.Broken, untyped, Violation.rule]
  next typed =>
    have named : ¬Rule.Broken p r .typeEmpty := typed
    have lower : (require (!r.type.toList.any Text.changesInLowercase)
        (.typeNotLower r.type)).map Violation.rule = [Rule.typeCase].filter (Rule.Broken p r) := by
      refine rules_require ?_
      rw [Bool.not_eq_false', List.any_eq_true]
      exact (and_iff_right typed).symm
    have listed : (require (r.kind?.any fun kind => p.types.contains kind)
        (.typeNotAllowed r.type p.types)).map Violation.rule
          = [Rule.typeEnum].filter (Rule.Broken p r) :=
      rules_require (any_kind?_eq_false_iff.trans (and_iff_right typed).symm)
    rw [List.filter_cons_of_neg (by simpa using named), List.map_append, lower, listed,
      ← List.filter_append]
    rfl

theorem rules_scopeViolations :
    (scopeViolations p r).map Violation.rule = [Rule.scopeEnum].filter (Rule.Broken p r) := by
  rw [scopeViolations]
  split
  next enforced =>
    rw [ParsedCommit.scope?]
    cases hscope : r.scope with
    | none => simp [Rule.Broken, hscope]
    | some scope =>
        by_cases hempty : scope = ""
        · simp [Rule.Broken, hscope, hempty, Option.filter_some]
        · rw [Option.filter_some, if_pos (by simpa using hempty)]
          refine rules_require ?_
          simp [Violation.rule, Rule.Broken, hscope, hempty, enforced]
  next free => simp [Rule.Broken, free]

theorem rules_subjectViolations :
    (subjectViolations r).map Violation.rule
      = [Rule.subjectEmpty, .subjectCase, .subjectFullStop].filter (Rule.Broken p r) := by
  rw [subjectViolations]
  split
  next empty =>
    rw [List.isEmpty_iff] at empty
    simp [Rule.Broken, empty, Violation.rule]
  next filled =>
    rw [List.isEmpty_iff] at filled
    have worded : ¬Rule.Broken p r .subjectEmpty := filled
    have upper : (require (startsUpper (Text.trim r.subject.toList)) .subjectNotUpper).map
        Violation.rule = [Rule.subjectCase].filter (Rule.Broken p r) :=
      rules_require (startsUpper_eq_false_iff.trans (and_iff_right filled).symm)
    have stopped : (require (endsWithStop (Text.trim r.subject.toList)) .subjectNoFullStop).map
        Violation.rule = [Rule.subjectFullStop].filter (Rule.Broken p r) :=
      rules_require (endsWithStop_eq_false_iff.trans (and_iff_right filled).symm)
    rw [List.filter_cons_of_neg (by simpa using worded), List.map_append, upper, stopped,
      ← List.filter_append]
    rfl

theorem rules_bodyViolations :
    (bodyViolations r).map Violation.rule
      = [Rule.bodyLeadingBlank, .bodyCase, .bodyFullStop].filter (Rule.Broken p r) := by
  rw [bodyViolations]
  split
  next absent => simp [Rule.Broken, absent]
  next body present =>
    have apart : (require (r.bodyBlanks == 1) (.bodyBlanks r.bodyBlanks)).map Violation.rule
        = [Rule.bodyLeadingBlank].filter (Rule.Broken p r) :=
      rules_require (by simp [Rule.Broken, Violation.rule, present])
    have upper : (require (startsUpper body.toList) .bodyNotUpper).map Violation.rule
        = [Rule.bodyCase].filter (Rule.Broken p r) :=
      rules_require (by simp [Rule.Broken, Violation.rule, present, startsUpper_eq_false_iff])
    have stopped : (require (endsWithStop body.toList) .bodyNoFullStop).map Violation.rule
        = [Rule.bodyFullStop].filter (Rule.Broken p r) :=
      rules_require (by simp [Rule.Broken, Violation.rule, present, endsWithStop_eq_false_iff])
    rw [List.map_append, List.map_append, apart, upper, stopped, ← List.filter_append,
      ← List.filter_append]
    rfl

theorem rules_footerViolations :
    (footerViolations r).map Violation.rule
      = [Rule.footerLeadingBlank].filter (Rule.Broken p r) := by
  rw [footerViolations]
  split
  next absent => simp [Rule.Broken, absent]
  next present => exact rules_require (by simp [Rule.Broken, Violation.rule, present])

theorem rules_headerViolations :
    (headerViolations p r).map Violation.rule
      = [Rule.headerMaxLength].filter (Rule.Broken p r) :=
  rules_require (by simp [Rule.Broken, Violation.rule])

/-- Linting reports the rules whose conditions are broken, in their order. -/
theorem rules_violations :
    (violations p r).map Violation.rule = Rule.inOrder.filter (Rule.Broken p r) := by
  simp only [violations, List.map_append, rules_typeViolations, rules_scopeViolations,
    rules_subjectViolations (p := p), rules_bodyViolations (p := p),
    rules_footerViolations (p := p), rules_headerViolations, ← List.filter_append]
  rfl

end Lint

/-- The rules that a verdict finds broken. -/
def Verdict.rules (v : Verdict) : List Rule :=
  v.violations.map Violation.rule

variable {p : LintPolicy} {linter : Linter}

/-- A commit that is held against the rules breaks a rule in the eyes of the linter exactly if it
breaks the condition of the rule, whatever other rules it breaks.  The broken rules are reported in
their order and once each, and the commit is accepted if and only if there is none. -/
theorem reported_iff_broken (made : Linter.ofPolicy p = .ok linter) (r : ParsedCommit)
    (plain : linter.bypasses r = false) :
    (linter.judge r).isBypass = false ∧
      (linter.judge r).rules.Sublist Rule.inOrder ∧ (linter.judge r).rules.Nodup ∧
      (∀ rule, rule ∈ (linter.judge r).rules ↔ rule.Broken p r) ∧
      ((linter.judge r).accepted = true ↔ (linter.judge r).rules = []) := by
  have judged : linter.judge r = .checked (Lint.violations p r) := by
    rw [Linter.judge, plain, if_neg Bool.false_ne_true, Linter.policy_of_ofPolicy made]
  have reported : (linter.judge r).rules = Rule.inOrder.filter (Rule.Broken p r) := by
    rw [judged]
    exact Lint.rules_violations
  refine ⟨by rw [judged]; rfl, ?_, ?_, fun rule => ?_, ?_⟩
  · rw [reported]
    exact List.filter_sublist
  · rw [reported]
    exact Rule.nodup_inOrder.filter _
  · rw [reported, List.mem_filter, decide_eq_true_iff]
    exact and_iff_right rule.mem_inOrder
  · rw [Verdict.accepted, Verdict.rules, List.isEmpty_iff, List.map_eq_nil_iff]

/-- A commit put together from parts that break nine rules at once. -/
def ParsedCommit.sloppy : ParsedCommit :=
  ⟨"Fix", some "db", " mend it ", some "because", some "Closes #1", false, 0, 2, none⟩

/-- Of the commit that breaks nine rules all nine are reported, and of the three others none. -/
theorem sloppy_reported :
    ∃ linter, Linter.ofPolicy .standard = .ok linter ∧
      linter.bypasses .sloppy = false ∧ (linter.judge .sloppy).accepted = false ∧
      ∀ rule, rule ∈ (linter.judge .sloppy).rules ↔
        rule ∉ [Rule.typeEmpty, .subjectEmpty, .headerMaxLength] := by
  have known : (Linter.ofPolicy .standard).toOption.map (fun linter =>
      linter.bypasses .sloppy) = some false := by
    decide +kernel
  obtain ⟨linter, made, plain⟩ := Option.map_eq_some_iff.mp known
  have made : Linter.ofPolicy .standard = .ok linter := Result.toOption_eq_some.mp made
  obtain ⟨-, -, -, reported, accepted⟩ := reported_iff_broken made .sloppy plain
  have broken : ∀ rule, rule.Broken .standard .sloppy ↔
      rule ∉ [Rule.typeEmpty, .subjectEmpty, .headerMaxLength] := by
    intro rule
    cases rule <;> decide +kernel
  refine ⟨linter, made, plain, ?_, fun rule => (reported rule).trans (broken rule)⟩
  rw [← Bool.not_eq_true, accepted]
  have mem := (reported .typeCase).mpr (by decide +kernel)
  exact List.ne_nil_of_mem mem

end ReleasePlanner
