import ReleasePlanner.Config.Document
import ReleasePlanner.Proofs.Toml.Blocks

/-!
# Configurations that are written

The document of a configuration is a list of lines (`Config.render_eq`), and
what they say is what was written, up to the order within the release policy:
rules have headers of their own, so they come after the plain settings
(`Config.parse?_render`).

Only an integer that fits can be written and read, so the greatest length of a
header has to fit.
-/

namespace ReleasePlanner.Config

open Toml

variable {c : Config} {l : LintPolicy} {name : String}

/-! ## Plain settings -/

theorem plain_strings {α : Type} (f : α → String) (xs : List α) :
    (Value.array (xs.map fun x => .string (f x))).Plain maxDepth := by
  refine .array ?_
  intro v listed
  obtain ⟨x, -, rfl⟩ := List.mem_map.mp listed
  exact .string (f x)

theorem plainEntries_lint (fit : fits l.headerMaxLength = true) :
    PlainEntries (lintEntries l) := by
  have types := plain_strings CommitKind.name l.types
  have scopes : (Value.array (l.scopes.map .string)).Plain maxDepth := plain_strings id l.scopes
  have length : (Value.integer l.headerMaxLength).Plain maxDepth := .integer fit
  simp +decide [PlainEntries, lintEntries, types, scopes, length, Value.Plain.string,
    Value.Plain.boolean]

theorem plainEntries_optional (bare : IsBare name) (v : Option String) :
    PlainEntries (optionalEntry name v) := by
  cases v with
  | none => simp [PlainEntries, optionalEntry]
  | some s => simp [PlainEntries, optionalEntry, bare, Value.Plain.string]

theorem plainEntries_rule (r : TypePolicy) : PlainEntries (ruleEntries r) := by
  have title : PlainEntries (optionalEntry "section" r.title) :=
    plainEntries_optional (by decide) r.title
  have emoji : PlainEntries (optionalEntry "emoji" r.emoji) :=
    plainEntries_optional (by decide) r.emoji
  rw [ruleEntries, plainEntries_append, plainEntries_append, plainEntries_append]
  refine ⟨⟨⟨?_, title⟩, emoji⟩, ?_⟩
  all_goals simp +decide [PlainEntries, Value.Plain.string, Value.Plain.boolean]

theorem plainEntries_branches (b : BranchLayout) : PlainEntries (branchEntries b) := by
  simp +decide [PlainEntries, branchEntries, Value.Plain.string]

theorem plainEntries_hooks (h : HookCommands) : PlainEntries (hookEntries h) := by
  rw [hookEntries, plainEntries_append, plainEntries_append]
  exact ⟨⟨plainEntries_optional (by decide) _, plainEntries_optional (by decide) _⟩,
    plainEntries_optional (by decide) _⟩

/-! ## The release policy -/

section Release

variable (p : ReleasePolicy)

/-- The tables of the rules. -/
def ruleTables : List Entries :=
  p.rules.map ruleEntries

/-- The settings of the release policy but for the rules and the branches. -/
def releaseSettings : Entries :=
  [("tag_format", .string p.tagFormat),
   ("initial_version", .string p.initialVersion),
   ("changelog_file", .string p.changelogFile),
   ("assets", .array (p.assets.map .string)),
   ("message", .string p.message),
   ("remote", .string p.remote),
   ("block_on_rejected", .boolean p.blockOnRejected)]

/-- The settings of the release policy without headers.  Rules are among them only when there are
none. -/
def plainRelease : Entries :=
  (if p.rules = [] then [("rules", .array [])] else []) ++ releaseSettings p

/-- The rules, when there are any. -/
def nestedRules : Entries :=
  if p.rules = [] then [] else [("rules", .array ((ruleTables p).map .table))]

/-- The settings of the release policy in the order of the document. -/
def writtenRelease : Entries :=
  plainRelease p ++ nestedRules p ++ [("branches", .table (branchEntries p.branches))]

theorem releaseEntries_eq :
    releaseEntries p = ("rules", .array ((ruleTables p).map .table))
      :: ("branches", .table (branchEntries p.branches)) :: releaseSettings p := by
  rw [releaseEntries, ruleTables, List.map_map]
  rfl

theorem writtenRelease_perm : (writtenRelease p).Perm (releaseEntries p) := by
  rw [releaseEntries_eq, writtenRelease, plainRelease, nestedRules, ruleTables]
  cases p.rules with
  | nil => simp
  | cons r rs =>
      rw [if_neg (List.cons_ne_nil r rs), if_neg (List.cons_ne_nil r rs), List.nil_append,
        List.append_assoc]
      exact List.perm_append_comm

theorem plainEntries_releaseSettings : PlainEntries (releaseSettings p) := by
  have assets : (Value.array (p.assets.map .string)).Plain maxDepth := plain_strings id p.assets
  simp +decide [PlainEntries, releaseSettings, assets, Value.Plain.string, Value.Plain.boolean]

theorem plainEntries_plainRelease : PlainEntries (plainRelease p) := by
  rw [plainRelease, plainEntries_append]
  refine ⟨?_, plainEntries_releaseSettings p⟩
  have empty : (Value.array []).Plain maxDepth := plain_strings id []
  split
  · simp +decide [PlainEntries, empty]
  · simp [PlainEntries]

theorem plainEntries_ruleTables : ∀ t ∈ ruleTables p, PlainEntries t := by
  intro t listed
  obtain ⟨r, -, rfl⟩ := List.mem_map.mp listed
  exact plainEntries_rule r

theorem plainLines_releaseEntries :
    plainLines (releaseEntries p) = (entryLines (plainRelease p)).flatMap Line.text := by
  have kept := filter_of_plain (plainEntries_releaseSettings p)
  simp only [plainLines_eq, releaseEntries_eq, List.filter_cons, hasHeader_tables,
    hasHeader_table, kept, plainRelease, ruleTables]
  cases p.rules with
  | nil => rfl
  | cons r rs => rfl

/-- The blocks of the release policy. -/
theorem tableBlocks_releaseEntries :
    tableBlocks ["release"] 1 (.table (releaseEntries p))
      = (tableLines [] "release" (plainRelease p)).flatMap Line.text
        :: ((ruleTables p).map fun t =>
            (.tables ["release"] "rules" :: entryLines t).flatMap Line.text)
        ++ [(tableLines ["release"] "branches" (branchEntries p.branches)).flatMap Line.text] := by
  have shown : showsHeader (releaseEntries p) = true := by
    simp [showsHeader, releaseEntries, Value.hasHeader]
  have inner : entryBlocks ["release"] (releaseEntries p)
      = ((ruleTables p).map fun t =>
          (.tables ["release"] "rules" :: entryLines t).flatMap Line.text)
        ++ [(tableLines ["release"] "branches" (branchEntries p.branches)).flatMap Line.text] := by
    rw [releaseEntries_eq, entryBlocks_tables (plainEntries_ruleTables p),
      entryBlocks_table (plainEntries_branches p.branches),
      entryBlocks_of_plain (plainEntries_releaseSettings p)]
  rw [tableBlocks, shown, inner, plainLines_releaseEntries]
  rfl

end Release

/-! ## Lines -/

/-- The document of a configuration, line by line. -/
def lines (c : Config) : List Line :=
  tableLines [] "lint" (lintEntries c.lint)
    ++ .blank :: tableLines [] "release" (plainRelease c.release)
    ++ tablesLines ["release"] "rules" (ruleTables c.release)
    ++ .blank :: tableLines ["release"] "branches" (branchEntries c.release.branches)
    ++ .blank :: tableLines [] "hooks" (hookEntries c.hooks)

theorem render_eq (fit : fits c.lint.headerMaxLength = true) :
    c.render = String.ofList (c.lines.flatMap Line.text) := by
  have top : plainLines c.toToml = [] := by simp [plainLines, toToml, Value.hasHeader]
  have release (es : Entries) :
      entryBlocks [] (("release", .table (releaseEntries c.release)) :: es)
        = tableBlocks ["release"] 1 (.table (releaseEntries c.release)) ++ entryBlocks [] es := by
    rw [entryBlocks]
    rfl
  have blocks : entryBlocks [] c.toToml
      = (tableLines [] "lint" (lintEntries c.lint)).flatMap Line.text
        :: (tableBlocks ["release"] 1 (.table (releaseEntries c.release))
          ++ [(tableLines [] "hooks" (hookEntries c.hooks)).flatMap Line.text]) := by
    rw [toToml, entryBlocks_table (plainEntries_lint fit), release,
      entryBlocks_table (plainEntries_hooks c.hooks)]
    rfl
  rw [render, Toml.render, top, blocks, tableBlocks_releaseEntries]
  simp [between_cons, lines, tablesLines, Line.text, List.flatMap_map, List.flatMap_assoc]

theorem wellFormed_lines (fit : fits c.lint.headerMaxLength = true) :
    ∀ line ∈ c.lines, line.WellFormed := by
  simp only [lines, List.forall_mem_append, List.forall_mem_cons]
  refine ⟨⟨⟨⟨?lint, trivial, ?release⟩, ?rules⟩, trivial, ?branches⟩, trivial, ?hooks⟩
  case lint => exact wellFormed_tableLines (by decide) (by decide) (plainEntries_lint fit)
  case release =>
    exact wellFormed_tableLines (by decide) (by decide) (plainEntries_plainRelease c.release)
  case rules =>
    exact wellFormed_tablesLines (by decide) (by decide) (plainEntries_ruleTables c.release)
  case branches =>
    exact wellFormed_tableLines (by decide) (by decide) (plainEntries_branches c.release.branches)
  case hooks => exact wellFormed_tableLines (by decide) (by decide) (plainEntries_hooks c.hooks)

/-! ## What the lines say -/

theorem nodup_lintEntries (l : LintPolicy) : ((lintEntries l).map Prod.fst).Nodup := by
  simp [lintEntries]

theorem nodup_ruleEntries (r : TypePolicy) : ((ruleEntries r).map Prod.fst).Nodup := by
  rcases r with ⟨type, level, _ | title, _ | emoji, hidden⟩ <;> simp [ruleEntries, optionalEntry]

theorem nodup_branchEntries (b : BranchLayout) : ((branchEntries b).map Prod.fst).Nodup := by
  simp [branchEntries]

theorem nodup_hookEntries (h : HookCommands) : ((hookEntries h).map Prod.fst).Nodup := by
  rcases h with ⟨_ | verify, _ | prepare, _ | publish⟩ <;> simp [hookEntries, optionalEntry]

theorem nodup_plainRelease (p : ReleasePolicy) : ((plainRelease p).map Prod.fst).Nodup := by
  rw [plainRelease]
  split
  · simp [releaseSettings]
  · simp [releaseSettings]

theorem nodup_releaseEntries (p : ReleasePolicy) : ((releaseEntries p).map Prod.fst).Nodup := by
  simp [releaseEntries]

/-- The rules as they are read. -/
def ruleItems (p : ReleasePolicy) : List (String × Item) :=
  if p.rules = [] then [] else [("rules", tablesItem (ruleTables p))]

/-- The release policy as it is read. -/
def releaseItems (p : ReleasePolicy) : List (String × Item) :=
  valueItems (plainRelease p) ++ ruleItems p
    ++ [("branches", tableItem (valueItems (branchEntries p.branches)))]

theorem map_releaseItems (p : ReleasePolicy) :
    (releaseItems p).map (fun e => (e.1, e.2.toValue)) = writtenRelease p := by
  have rules : (ruleItems p).map (fun e => (e.1, e.2.toValue)) = nestedRules p := by
    rw [ruleItems, nestedRules]
    split
    · rfl
    · simp [toValue_tablesItem]
  rw [releaseItems, writtenRelease, List.map_append, List.map_append, toValue_valueItems, rules]
  simp [toValue_tableItem, toValue_valueItems]

theorem branches_new (p : ReleasePolicy) :
    "branches" ∉ (valueItems (plainRelease p) ++ ruleItems p).map Prod.fst := by
  rw [plainRelease, ruleItems]
  split
  · simp [valueItems, releaseSettings]
  · simp [valueItems, releaseSettings]

/-- The lines of the rules are read into the release policy.  A header comes after them, so it does
not matter which table is the current one. -/
theorem foldlM_rules {whole : Draft → Draft} (focus : Focus ["release"] .header whole)
    (p : ReleasePolicy) :
    ∃ current, (tablesLines ["release"] "rules" (ruleTables p)).foldlM Reading.act
        ⟨whole (.ofItems (valueItems (plainRelease p))), ["release"]⟩
      = some ⟨whole (.ofItems (valueItems (plainRelease p) ++ ruleItems p)), current⟩ := by
  by_cases rules : p.rules = []
  · refine ⟨["release"], ?_⟩
    simp [ruleTables, ruleItems, rules, tablesLines]
  · have new : "rules" ∉ (valueItems (plainRelease p)).map Prod.fst := by
      simp [valueItems, plainRelease, rules, releaseSettings]
    have some_table : ruleTables p ≠ [] := by simpa [ruleTables] using rules
    have distinct : ∀ t ∈ ruleTables p, (t.map Prod.fst).Nodup := by
      intro t listed
      obtain ⟨r, -, rfl⟩ := List.mem_map.mp listed
      exact nodup_ruleEntries r
    refine ⟨["release", "rules"], ?_⟩
    rw [ruleItems, if_neg rules]
    exact foldlM_tables focus new some_table distinct

/-- The lint policy as it is read. -/
def lintItem (l : LintPolicy) : String × Item :=
  ("lint", tableItem (valueItems (lintEntries l)))

/-- The lint policy, and a table of the release policy after it. -/
def afterLint (l : LintPolicy) (release : Draft) : Draft :=
  .ofItems [lintItem l, ("release", .table .header release.keys release.items)]

theorem focus_release (l : LintPolicy) : Focus ["release"] .header (afterLint l) := by
  have new : "release" ∉ [lintItem l].map Prod.fst := by simp [lintItem]
  exact Focus.root.table new .header

/-- What the lines of a configuration come to. -/
def items (c : Config) : List (String × Item) :=
  [lintItem c.lint, ("release", tableItem (releaseItems c.release)),
    ("hooks", tableItem (valueItems (hookEntries c.hooks)))]

theorem foldlM_lines (c : Config) :
    c.lines.foldlM Reading.act ⟨.empty, []⟩ = some ⟨.ofItems c.items, ["hooks"]⟩ := by
  have lint : (tableLines [] "lint" (lintEntries c.lint)).foldlM Reading.act ⟨.empty, []⟩
      = some ⟨.ofItems [lintItem c.lint], ["lint"]⟩ := by
    have new : "lint" ∉ ([] : List (String × Item)).map Prod.fst := List.not_mem_nil
    exact foldlM_table .root new (nodup_lintEntries c.lint)
  have release : (.blank :: tableLines [] "release" (plainRelease c.release)).foldlM Reading.act
        ⟨.ofItems [lintItem c.lint], ["lint"]⟩
      = some ⟨afterLint c.lint (.ofItems (valueItems (plainRelease c.release))), ["release"]⟩ := by
    have new : "release" ∉ [lintItem c.lint].map Prod.fst := by simp [lintItem]
    exact foldlM_table .root new (nodup_plainRelease c.release)
  obtain ⟨current, rules⟩ := foldlM_rules (focus_release c.lint) c.release
  have branches : (.blank :: tableLines ["release"] "branches"
          (branchEntries c.release.branches)).foldlM Reading.act
        ⟨afterLint c.lint (.ofItems (valueItems (plainRelease c.release) ++ ruleItems c.release)),
          current⟩
      = some ⟨afterLint c.lint (.ofItems (releaseItems c.release)), ["release", "branches"]⟩ :=
    foldlM_table (focus_release c.lint) (branches_new c.release)
      (nodup_branchEntries c.release.branches)
  have hooks : (.blank :: tableLines [] "hooks" (hookEntries c.hooks)).foldlM Reading.act
        ⟨afterLint c.lint (.ofItems (releaseItems c.release)), ["release", "branches"]⟩
      = some ⟨.ofItems c.items, ["hooks"]⟩ := by
    have new : "hooks" ∉
        [lintItem c.lint, ("release", tableItem (releaseItems c.release))].map Prod.fst := by
      simp [lintItem]
    exact foldlM_table .root new (nodup_hookEntries c.hooks)
  exact foldlM_act_append (foldlM_act_append (foldlM_act_append (foldlM_act_append
    lint release) rules) branches) hooks

/-- The settings of a configuration in the order of the document. -/
def written (c : Config) : Entries :=
  [("lint", .table (lintEntries c.lint)), ("release", .table (writtenRelease c.release)),
    ("hooks", .table (hookEntries c.hooks))]

theorem entries_items (c : Config) : (Draft.ofItems c.items).entries = c.written := by
  rw [entries_ofItems, items, written, lintItem]
  simp [toValue_tableItem, toValue_valueItems, map_releaseItems]

/-- What was written is read. -/
theorem parse?_render (fit : fits c.lint.headerMaxLength = true) :
    parse? c.render = some c.written := by
  rw [render_eq fit, parse?_lines (wellFormed_lines fit) (foldlM_lines c)]
  exact congrArg some (entries_items c)

end ReleasePlanner.Config
