import Mathlib.Data.List.Nodup
import ReleasePlanner.Proofs.Config.Valid

/-!
# The rules of a valid configuration

In a valid configuration every allowed commit type has exactly one rule
(`exists_only_rule`), no other type has one, and a rule that is not hidden has
a title (`RuleTable`).  So the first rule of a type, which is the one that
counts, is the only one (`Config.rule?_of_filter_eq`).
-/

namespace ReleasePlanner

/-- Where keys tell the members of a list apart, one member has a given key. -/
theorem filter_key_eq_singleton {α κ : Type} [BEq κ] [LawfulBEq κ] {key : α → κ} {l : List α}
    (distinct : (l.map key).Nodup) {a : α} (mem : a ∈ l) :
    l.filter (fun b => key b == key a) = [a] := by
  induction l with
  | nil => cases mem
  | cons b l ih =>
      rw [List.map_cons, List.nodup_cons] at distinct
      rcases List.mem_cons.mp mem with rfl | mem
      · have others : l.filter (fun b => key b == key a) = [] := by
          rw [List.filter_eq_nil_iff]
          intro b hb same
          exact distinct.1 (List.mem_map.mpr ⟨b, hb, beq_iff_eq.mp same⟩)
        rw [List.filter_cons, beq_self_eq_true, if_pos rfl, others]
      · have different : (key b == key a) = false := by
          rw [beq_eq_false_iff_ne]
          intro same
          exact distinct.1 (List.mem_map.mpr ⟨a, mem, same.symm⟩)
        rw [List.filter_cons, different, if_neg Bool.false_ne_true, ih distinct.2 mem]

namespace Config

variable {c : Config} {types ruled : List CommitKind} {rules : List TypePolicy}
  {rule : TypePolicy} {kind : CommitKind}

/-- What can be relied on in the rules of a valid configuration. -/
structure RuleTable (types : List CommitKind) (rules : List TypePolicy) : Prop where
  distinct : (rules.map TypePolicy.type).Nodup
  listed : ∀ rule ∈ rules, rule.type ∈ types
  titled : ∀ rule ∈ rules, rule.hidden = false → ∃ title, rule.title = some title
  covered : ∀ kind ∈ types, ∃ rule ∈ rules, rule.type = kind

/-! ## What the checks find -/

theorem validateRule_eq_ok (h : validateRule types ruled rule = .ok ()) :
    rule.type ∉ ruled ∧ rule.type ∈ types ∧
      (rule.hidden = false → ∃ title, rule.title = some title) := by
  rw [validateRule] at h
  split at h
  next => cases h
  next fresh =>
    split at h
    next => cases h
    next listed =>
      split at h
      next => cases h
      next titled =>
        refine ⟨by simpa using fresh, by simpa using listed, fun shown => ?_⟩
        cases htitle : rule.title with
        | none => simp [shown, htitle] at titled
        | some title => exact ⟨title, rfl⟩

theorem validateRules_eq_ok (h : validateRules types ruled rules = .ok ()) :
    (rules.map TypePolicy.type).Nodup ∧
      ∀ rule ∈ rules, rule.type ∉ ruled ∧ rule.type ∈ types ∧
        (rule.hidden = false → ∃ title, rule.title = some title) := by
  induction rules generalizing ruled with
  | nil =>
      refine ⟨List.nodup_nil, ?_⟩
      rintro _ ⟨⟩
  | cons first rules ih =>
      rw [validateRules, Result.bind_eq_ok] at h
      obtain ⟨_, hchecked, hrules⟩ := h
      obtain ⟨distinct, fine⟩ := ih hrules
      refine ⟨List.nodup_cons.mpr ⟨?_, distinct⟩, ?_⟩
      · intro again
        obtain ⟨rule, hrule, same⟩ := List.mem_map.mp again
        exact (fine rule hrule).1 (List.mem_cons.mpr (Or.inl same))
      · intro rule hrule
        rcases List.mem_cons.mp hrule with rfl | hrule
        · exact validateRule_eq_ok hchecked
        · obtain ⟨fresh, rest⟩ := fine rule hrule
          exact ⟨fun old => fresh (List.mem_cons_of_mem _ old), rest⟩

theorem validateCovered_eq_ok (h : validateCovered types rules = .ok ()) (listed : kind ∈ types) :
    ∃ rule ∈ rules, rule.type = kind := by
  rw [validateCovered] at h
  split at h
  next => cases h
  next none_found =>
    have ruled := List.find?_eq_none.mp none_found kind listed
    simpa [List.mem_map] using ruled

theorem ruleTable_of_valid (valid : c.validate = .ok ()) :
    RuleTable c.lint.types c.release.rules := by
  rw [validate, Result.mapError_eq_ok] at valid
  simp only [check, Result.bind_eq_ok] at valid
  obtain ⟨_, _, _, _, _, hrules, _, hcovered, -⟩ := valid
  obtain ⟨distinct, fine⟩ := validateRules_eq_ok hrules
  exact ⟨distinct, fun rule hrule => (fine rule hrule).2.1,
    fun rule hrule => (fine rule hrule).2.2, fun _ listed => validateCovered_eq_ok hcovered listed⟩

/-! ## One rule for each type -/

namespace RuleTable

/-- An allowed type has exactly one rule. -/
theorem exists_only_rule (table : RuleTable types rules) (listed : kind ∈ types) :
    ∃ rule, rules.filter (fun rule => rule.type == kind) = [rule] := by
  obtain ⟨rule, hrule, rfl⟩ := table.covered kind listed
  exact ⟨rule, filter_key_eq_singleton table.distinct hrule⟩

end RuleTable

/-- The rule of a type that counts is one of the rules. -/
theorem mem_of_rule? {p : ReleasePolicy} (h : p.rule? kind = some rule) :
    rule ∈ p.rules ∧ rule.type = kind := by
  rw [ReleasePolicy.rule?] at h
  have found := List.find?_some h
  exact ⟨List.mem_of_find?_eq_some h, beq_iff_eq.mp found⟩

/-- The only rule of a type is the one that counts. -/
theorem rule?_of_filter_eq {p : ReleasePolicy}
    (only : p.rules.filter (fun rule => rule.type == kind) = [rule]) :
    p.rule? kind = some rule := by
  rw [ReleasePolicy.rule?, ← List.head?_filter, only, List.head?_cons]

end Config

end ReleasePlanner
