import Mathlib.Data.List.Nodup
import ReleasePlanner.Proofs.Release.Notes

/-!
# How notes group commits

A commit belongs under a title when the first rule of its type is not hidden and
has this title (`ReleasePolicy.Lists`).  The titles of the sections are those of
the rules that are not hidden, in the order of their first appearance, as far as
a commit belongs under them.  Rules with one type, one title or none make no
exception, and no other notes than those that are composed have these sections
and all breaking commits (`groups_compose`).

The sections also come about step by step: each title has a section from the
start, and one commit after another is filed in the first section with its title
(`ReleaseNotes.sections_eq_foldl_file`).
-/

namespace ReleasePlanner

variable {p : ReleasePolicy} {rules : List TypePolicy} {rule : TypePolicy} {title : String}
  {r : ParsedCommit} {commits : List ParsedCommit}

/-! ## The rule that counts -/

namespace TypePolicy

/-- The rule is the first of the rules with the property. -/
def IsFirst (P : TypePolicy → Prop) (rules : List TypePolicy) (rule : TypePolicy) : Prop :=
  ∃ before after, rules = before ++ rule :: after ∧ P rule ∧ ∀ other ∈ before, ¬P other

namespace IsFirst

variable {P : TypePolicy → Prop} {first : TypePolicy}

theorem head (holds : P rule) : IsFirst P (rule :: rules) rule :=
  ⟨[], rules, rfl, holds, fun _ hother => nomatch hother⟩

theorem cons (skipped : ¬P first) (h : IsFirst P rules rule) : IsFirst P (first :: rules) rule := by
  obtain ⟨before, after, rfl, holds, others⟩ := h
  exact ⟨first :: before, after, rfl, holds, List.forall_mem_cons.mpr ⟨skipped, others⟩⟩

end IsFirst

theorem find?_eq_some_iff_isFirst {P : TypePolicy → Prop} {test : TypePolicy → Bool}
    (tested : ∀ rule, test rule = true ↔ P rule) :
    rules.find? test = some rule ↔ IsFirst P rules rule := by
  have failed : ∀ other, (!test other) = true ↔ ¬P other := by
    intro other
    rw [Bool.not_eq_true', ← Bool.not_eq_true, tested]
  simp only [List.find?_eq_some_iff_append, tested, failed]
  constructor
  · rintro ⟨holds, before, after, split, others⟩
    exact ⟨before, after, split, holds, others⟩
  · rintro ⟨before, after, split, holds, others⟩
    exact ⟨holds, before, after, split, others⟩

/-- The rule is not hidden and has this title. -/
def ShownUnder (title : String) (rule : TypePolicy) : Prop :=
  rule.hidden = false ∧ rule.title = some title

theorem shownTitle?_beq_iff (title : String) (rule : TypePolicy) :
    (rule.shownTitle? == some title) = true ↔ rule.ShownUnder title := by
  rw [beq_iff_eq, shownTitle?_eq_some_iff]
  rfl

end TypePolicy

open TypePolicy

/-- A commit belongs under a title: the first rule of its type is shown under it. -/
def ReleasePolicy.Lists (p : ReleasePolicy) (title : String) (r : ParsedCommit) : Prop :=
  ∃ kind rule, r.kind? = some kind ∧ IsFirst (fun rule => rule.type = kind) p.rules rule ∧
    rule.ShownUnder title

theorem ReleasePolicy.titleOf?_beq_iff (p : ReleasePolicy) (title : String) (r : ParsedCommit) :
    (p.titleOf? r == some title) = true ↔ p.Lists title r := by
  have hrule : ∀ kind rule, p.rule? kind = some rule ↔
      IsFirst (fun rule => rule.type = kind) p.rules rule := fun kind rule =>
    find?_eq_some_iff_isFirst fun _ => beq_iff_eq
  simp only [titleOf?, beq_iff_eq, Option.bind_eq_some_iff, shownTitle?_eq_some_iff, hrule, Lists,
    ShownUnder]
  constructor
  · rintro ⟨rule, ⟨kind, hkind, first⟩, shown⟩
    exact ⟨kind, rule, hkind, first, shown⟩
  · rintro ⟨kind, rule, hkind, first, shown⟩
    exact ⟨rule, ⟨kind, hkind, first⟩, shown⟩

instance (p : ReleasePolicy) (title : String) : DecidablePred (p.Lists title) := fun r =>
  decidable_of_iff _ (p.titleOf?_beq_iff title r)

theorem ReleasePolicy.filter_lists (p : ReleasePolicy) (title : String)
    (commits : List ParsedCommit) :
    (commits.filter fun r => p.titleOf? r == some title)
      = commits.filter fun r => p.Lists title r := by
  refine List.filter_congr fun r _ => ?_
  rw [Bool.eq_iff_iff, decide_eq_true_iff]
  exact p.titleOf?_beq_iff title r

/-! ## Headings -/

namespace ReleaseNotes

variable {seen : List String} {heading : String × Option String}

/-- The titles that did not come before, each where it appears first. -/
theorem titles_headings (seen : List String) (rules : List TypePolicy) :
    (headings seen rules).map Prod.fst
      = ((rules.filterMap shownTitle?).filter fun title => !seen.contains title).eraseDups := by
  induction rules generalizing seen with
  | nil => rfl
  | cons rule rules ih =>
      rw [headings, List.filterMap_cons]
      cases rule.shownTitle? with
      | none => exact ih seen
      | some title =>
          simp only [List.filter_cons]
          by_cases known : seen.contains title = true
          · rw [if_pos known, known]
            exact ih seen
          · rw [if_neg known, (Bool.not_eq_true _).mp known, Bool.not_false, if_pos rfl,
              List.map_cons, ih, List.eraseDups_cons, List.filter_filter]
            congr 3
            funext other
            rw [List.contains_cons, Bool.not_or]

/-- A heading has the shortcode of the first rule that is shown under its title. -/
theorem isFirst_of_mem_headings (mem : heading ∈ headings seen rules) :
    ∃ rule, IsFirst (ShownUnder heading.1) rules rule ∧ heading.2 = rule.emoji := by
  induction rules generalizing seen with
  | nil => cases mem
  | cons rule rules ih =>
      have new : ∀ {seen}, heading ∈ headings seen rules → heading.1 ∉ seen := fun mem =>
        (mem_headings_iff.mp (List.mem_map_of_mem mem)).1
      have skip : rule.shownTitle? ≠ some heading.1 →
          (∃ first, IsFirst (ShownUnder heading.1) rules first ∧ heading.2 = first.emoji) →
          ∃ first, IsFirst (ShownUnder heading.1) (rule :: rules) first ∧
            heading.2 = first.emoji := by
        rintro other ⟨first, hfirst, hemoji⟩
        exact ⟨first, hfirst.cons fun shown => other (shownTitle?_eq_some_iff.mpr shown), hemoji⟩
      rw [headings] at mem
      split at mem
      next untitled => exact skip (by rw [untitled]; exact (Option.some_ne_none _).symm) (ih mem)
      next title shown =>
        split at mem
        next known =>
          refine skip (fun same => ?_) (ih mem)
          rw [shown, Option.some.injEq] at same
          rw [same] at known
          exact new mem (List.contains_iff_mem.mp known)
        next =>
          rcases List.mem_cons.mp mem with rfl | mem
          · exact ⟨rule, .head (shownTitle?_eq_some_iff.mp shown), rfl⟩
          · refine skip (fun same => ?_) (ih mem)
            rw [shown, Option.some.injEq] at same
            exact new mem (same ▸ List.mem_cons_self)

/-! ## Sections -/

/-- The notes group the commits by the titles of their rules. -/
structure Groups (p : ReleasePolicy) (commits : List ParsedCommit) (n : ReleaseNotes) : Prop where
  /-- The titles are those of the rules that are not hidden, in the order of their first appearance,
  as far as a commit belongs under them. -/
  titles : n.titles = (p.rules.filterMap shownTitle?).eraseDups.filter fun title =>
    ∃ r ∈ commits, p.Lists title r
  /-- No title stands twice. -/
  distinct : n.titles.Nodup
  /-- A section lists all commits that belong under its title, in their order. -/
  listed : ∀ s ∈ n.sections, s.commits = commits.filter fun r => p.Lists s.title r
  /-- A section has the shortcode of the first rule that is shown under its title. -/
  emoji : ∀ s ∈ n.sections, ∃ rule, IsFirst (ShownUnder s.title) p.rules rule ∧
    s.emoji = rule.emoji
  /-- The breaking commits are listed in their order. -/
  breaking : n.breaking = commits.filter ParsedCommit.breaking

theorem titles_compose (p : ReleasePolicy) (commits : List ParsedCommit) :
    (compose p commits).titles = (p.rules.filterMap shownTitle?).eraseDups.filter fun title =>
      ∃ r ∈ commits, p.Lists title r := by
  have all : (p.rules.filterMap shownTitle?).eraseDups = (headings [] p.rules).map Prod.fst := by
    rw [titles_headings]
    simp
  have filled : ∀ heading, (!(sectionOf p commits heading).commits.isEmpty)
      = decide (∃ r ∈ commits, p.Lists heading.1 r) := by
    intro heading
    rw [Bool.eq_iff_iff, decide_eq_true_iff, sectionOf, p.filter_lists]
    simp
  rw [titles, compose, List.filter_map, List.map_map, all, List.filter_map]
  exact congrArg _ (List.filter_congr fun heading _ => filled heading)

/-- Notes that group the commits are told by their titles. -/
theorem Groups.sections_eq {n : ReleaseNotes} (h : Groups p commits n) :
    n.sections = n.titles.map fun title =>
      ⟨title, (p.rules.find? fun rule => rule.shownTitle? == some title).bind TypePolicy.emoji,
        commits.filter fun r => p.Lists title r⟩ := by
  rw [ReleaseNotes.titles, List.map_map]
  refine (List.map_id _).symm.trans (List.map_congr_left fun s hs => ?_)
  obtain ⟨rule, first, hemoji⟩ := h.emoji s hs
  rw [Function.comp_apply, (find?_eq_some_iff_isFirst (shownTitle?_beq_iff _)).mpr first,
    ← h.listed s hs, Option.bind_some, ← hemoji]
  rfl

end ReleaseNotes

open ReleaseNotes

/-- The composed notes group the commits by the titles of their rules, and no other notes do. -/
theorem groups_compose (p : ReleasePolicy) (commits : List ParsedCommit) :
    Groups p commits (compose p commits) ∧
      ∀ n, Groups p commits n → n = compose p commits := by
  have groups : Groups p commits (compose p commits) := by
    refine ⟨titles_compose p commits, nodup_titles p commits, fun s hs => ?_, fun s hs => ?_, rfl⟩
    · rw [commits_of_mem_sections hs, p.filter_lists]
    · obtain ⟨heading, hheading, rfl⟩ := List.mem_map.mp (List.mem_filter.mp hs).1
      exact isFirst_of_mem_headings hheading
  refine ⟨groups, fun n other => ?_⟩
  have same : n.sections = (compose p commits).sections := by
    rw [other.sections_eq, groups.sections_eq, other.titles, groups.titles]
  calc n = ⟨n.sections, n.breaking⟩ := rfl
    _ = compose p commits := by rw [same, other.breaking]; rfl

-- Of the two rules for corrections the hidden one counts, and two types share a title.
example : (compose { ReleasePolicy.standard with
      rules := [.silent .fix, .shown .refactor .none "NEWS" ":wrench:",
        .shown .fix .patch "FIX" ":bug:", .shown .feat .minor "NEWS" ":sparkles:"] }
    [.simple "feat" "A.", .simple "fix" "B.", .simple "refactor" "C."]).sections
      = [⟨"NEWS", some ":wrench:", [.simple "feat" "A.", .simple "refactor" "C."]⟩] := by decide

/-! ## Filing -/

namespace ReleaseNotes

/-- Files a commit in the first section with a title. -/
def fileUnder (title : String) (r : ParsedCommit) : List Section → List Section
  | [] => []
  | s :: sections =>
    if s.title = title then { s with commits := s.commits ++ [r] } :: sections
    else s :: fileUnder title r sections

/-- Files a commit in the first section with its title, if it has one. -/
def file (p : ReleasePolicy) (sections : List Section) (r : ParsedCommit) : List Section :=
  match p.titleOf? r with
  | none => sections
  | some title => fileUnder title r sections

variable {heading : String × Option String} {keys : List (String × Option String)}

/-- A further commit stands last in the section of its title. -/
theorem sectionOf_concat (titled : p.titleOf? r = some heading.1) :
    sectionOf p (commits ++ [r]) heading
      = ⟨heading.1, heading.2, (sectionOf p commits heading).commits ++ [r]⟩ := by
  rw [sectionOf, List.filter_append, List.filter_cons_of_pos (by exact beq_iff_eq.mpr titled)]
  rfl

/-- The other sections stay as they are. -/
theorem sectionOf_concat_of_ne (other : p.titleOf? r ≠ some heading.1) :
    sectionOf p (commits ++ [r]) heading = sectionOf p commits heading := by
  rw [sectionOf, List.filter_append, List.filter_cons_of_neg (by simpa using other),
    List.filter_nil, List.append_nil]
  rfl

theorem fileUnder_sectionOf (titled : p.titleOf? r = some title)
    (distinct : (keys.map Prod.fst).Nodup) :
    fileUnder title r (keys.map (sectionOf p commits))
      = keys.map (sectionOf p (commits ++ [r])) := by
  induction keys with
  | nil => rfl
  | cons heading keys ih =>
      rw [List.map_cons, List.nodup_cons] at distinct
      have hfile : fileUnder title r ((heading :: keys).map (sectionOf p commits))
          = if heading.1 = title then
              ⟨heading.1, heading.2, (sectionOf p commits heading).commits ++ [r]⟩
                :: keys.map (sectionOf p commits)
            else sectionOf p commits heading :: fileUnder title r (keys.map (sectionOf p commits)) :=
        rfl
      rw [hfile, List.map_cons]
      by_cases same : heading.1 = title
      · subst same
        rw [if_pos rfl, sectionOf_concat titled]
        refine congrArg _ (List.map_congr_left fun other hother => ?_)
        refine (sectionOf_concat_of_ne fun again => distinct.1 ?_).symm
        rw [titled, Option.some.injEq] at again
        exact List.mem_map.mpr ⟨other, hother, again.symm⟩
      · have other : p.titleOf? r ≠ some heading.1 := by
          rw [titled, Ne, Option.some.injEq]
          exact Ne.symm same
        rw [if_neg same, ih distinct.2, sectionOf_concat_of_ne other]

/-- Filing a further commit gives the sections of the longer list. -/
theorem file_sectionOf (distinct : (keys.map Prod.fst).Nodup) (commits : List ParsedCommit)
    (r : ParsedCommit) :
    file p (keys.map (sectionOf p commits)) r = keys.map (sectionOf p (commits ++ [r])) := by
  rw [file]
  split
  next untitled =>
    refine List.map_congr_left fun heading _ => (sectionOf_concat_of_ne ?_).symm
    rw [untitled]
    exact (Option.some_ne_none _).symm
  next title titled => exact fileUnder_sectionOf titled distinct

/-- Each title has an empty section at the start, the commits are filed one after another, and the
sections that stay empty are left out. -/
theorem sections_eq_foldl_file (p : ReleasePolicy) (commits : List ParsedCommit) :
    (compose p commits).sections
      = (commits.foldl (file p)
          ((headings [] p.rules).map fun heading => ⟨heading.1, heading.2, []⟩)).filter
            fun s => !s.commits.isEmpty := by
  have filed : commits.foldl (file p)
      ((headings [] p.rules).map fun heading => ⟨heading.1, heading.2, []⟩)
        = (headings [] p.rules).map (sectionOf p commits) := by
    induction commits using List.reverseRecOn with
    | nil => rfl
    | append_singleton commits r ih =>
        rw [List.foldl_concat, ih, file_sectionOf nodup_headings]
  rw [filed, compose]

end ReleaseNotes

end ReleasePlanner
