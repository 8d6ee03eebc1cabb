import ReleasePlanner.CommandLine.Program
import ReleasePlanner.Proofs.Config.Document
import ReleasePlanner.Proofs.Step
import ReleasePlanner.Proofs.Toml.Integers
import ReleasePlanner.Repository.InMemory
import ReleasePlanner.Shell.Run

/-!
# Configurations that are read again

The configuration that a command prints can be read again, and comes out the
same (`printed_config_reloads`).  Every setting is printed, so no standard value
takes the place of one that was read (`ofToml?_written`), and what is read is
valid because it was valid before.

The greatest length of a header is an integer of the document, or the standard
one, so it can be written (`fits_of_load`).
-/

namespace ReleasePlanner

/-! ## Settings by their keys -/

namespace Toml.Entries

variable {es fs : Entries} {key : String} {v : Value}

/-- When keys are distinct, a key stands for the value of its entry. -/
theorem get?_eq_some_iff (distinct : (es.map Prod.fst).Nodup) :
    es.get? key = some v ↔ (key, v) ∈ es := by
  induction es with
  | nil => simp [Entries.get?]
  | cons e es ih =>
      rw [List.map_cons, List.nodup_cons] at distinct
      have later := ih distinct.2
      rw [Entries.get?, List.find?_cons]
      split
      next same =>
        obtain rfl := beq_iff_eq.mp same
        have other : (e.1, v) ∉ es := fun listed => distinct.1 (List.mem_map.mpr ⟨_, listed, rfl⟩)
        simp [other, Prod.ext_iff, eq_comm]
      next different =>
        have other : (key, v) ≠ e := by
          rintro rfl
          simp at different
        simpa [other, Entries.get?] using later

/-- The order of settings does not matter to who asks by keys. -/
theorem get?_of_perm (perm : es.Perm fs) (distinct : (fs.map Prod.fst).Nodup) (key : String) :
    es.get? key = fs.get? key := by
  refine Option.ext ?_
  intro v
  rw [get?_eq_some_iff ((perm.map Prod.fst).nodup_iff.mpr distinct), get?_eq_some_iff distinct,
    perm.mem_iff]

end Toml.Entries

namespace Config

open Toml

variable {c : Config} {text : String} {v : Value} {s : Settings} {n : Nat}

/-! ## What was written is read -/

theorem readList?_map {α : Type} {read : Value → Option α} {f : α → Value}
    (back : ∀ x, read (f x) = some x) (xs : List α) :
    readList? read (.array (xs.map f)) = some xs := by
  rw [readList?]
  induction xs with
  | nil => rfl
  | cons x xs ih => simp [back, ih]

theorem readList?_strings (xs : List String) :
    readList? readString? (.array (xs.map .string)) = some xs :=
  readList?_map (f := .string) (fun _ => rfl) xs

theorem readLint?_lintEntries (l : LintPolicy) : readLint? (.table (lintEntries l)) = some l := by
  have types : readList? (readName? CommitKind.ofName?)
      (.array (l.types.map fun t => .string t.name)) = some l.types :=
    readList?_map CommitKind.ofName?_name l.types
  simp [readLint?, lintEntries, settings?, Settings.read?, Settings.get?, Entries.get?, types,
    readList?_strings, readBool?, readNat?, readString?]

theorem readRule?_ruleEntries (r : TypePolicy) : readRule? (.table (ruleEntries r)) = some r := by
  rcases r with ⟨type, level, _ | title, _ | emoji, hidden⟩ <;>
    simp [readRule?, ruleEntries, optionalEntry, settings?, Settings.readOptional?, Settings.read?,
      Settings.get?, Entries.get?, readName?, CommitKind.ofName?_name, Level.ofName?_name,
      readString?, readBool?]

theorem readBranches?_branchEntries (b : BranchLayout) :
    readBranches? (.table (branchEntries b)) = some b := by
  simp [readBranches?, branchEntries, settings?, Settings.read?, Settings.get?, Entries.get?,
    readString?]

theorem readHooks?_hookEntries (h : HookCommands) :
    readHooks? (.table (hookEntries h)) = some h := by
  rcases h with ⟨_ | verify, _ | prepare, _ | publish⟩ <;>
    simp [readHooks?, hookEntries, optionalEntry, settings?, Settings.readOptional?,
      Settings.read?, Settings.get?, Entries.get?, readString?]

/-- The settings of the release policy may come in any order. -/
theorem readRelease?_of_perm {es : Entries} {p : ReleasePolicy}
    (perm : es.Perm (releaseEntries p)) : readRelease? (.table es) = some p := by
  have same := Entries.get?_of_perm perm (nodup_releaseEntries p)
  have rules : readList? readRule? (.array (p.rules.map fun r => .table (ruleEntries r)))
      = some p.rules :=
    readList?_map readRule?_ruleEntries p.rules
  simp only [readRelease?, settings?, Settings.read?, Settings.get?, same, Option.bind_eq_bind,
    Option.bind_some]
  simp [releaseEntries, Entries.get?, rules, readBranches?_branchEntries, readList?_strings,
    readString?, readBool?]

/-- Every setting that is written is read. -/
theorem ofToml?_written (c : Config) : ofToml? c.written = some c := by
  have release := readRelease?_of_perm (writtenRelease_perm c.release)
  simp [ofToml?, written, Settings.read?, Settings.get?, Entries.get?, readLint?_lintEntries,
    release, readHooks?_hookEntries]

/-! ## Lengths that are read -/

/-- All integers in the settings fit. -/
def Settings.Fits : Settings → Prop
  | .keyed es => ∀ e ∈ es, e.2.Fits
  | .listed items => ∀ v ∈ items, v.Fits

theorem Settings.Fits.of_get? {index : Nat} {key : String} (h : s.Fits)
    (found : s.get? index key = some v) : v.Fits := by
  cases s with
  | keyed es =>
      obtain ⟨e, first, rfl⟩ := Option.map_eq_some_iff.mp found
      exact h e (List.mem_of_find?_eq_some first)
  | listed items => exact h v (List.mem_of_getElem? found)

theorem fits_settings? (h : v.Fits) (read : settings? v = some s) : s.Fits := by
  cases h with
  | array inner =>
      obtain rfl := Option.some.inj read
      exact inner
  | table inner =>
      obtain rfl := Option.some.inj read
      exact inner
  | datetime text =>
      obtain rfl := Option.some.inj read
      exact List.forall_mem_nil _
  | string text => cases read
  | integer fit => cases read
  | float text => cases read
  | boolean b => cases read

theorem fits_readNat? (h : v.Fits) (read : readNat? v = some n) : fits n = true := by
  cases h with
  | @integer m fit =>
      rw [readNat?] at read
      split at read
      next natural =>
        obtain rfl := Option.some.inj read
        rwa [Int.toNat_of_nonneg natural]
      next => cases read
  | _ => cases read

theorem fits_read? {index : Nat} {key : String} {standard : Nat} (h : s.Fits)
    (small : fits standard = true) (read : s.read? index key readNat? standard = some n) :
    fits n = true := by
  rw [Settings.read?] at read
  split at read
  next v found => exact fits_readNat? (h.of_get? found) read
  next =>
    obtain rfl := Option.some.inj read
    exact small

theorem fits_standard : fits LintPolicy.standard.headerMaxLength = true := by decide

theorem fits_readLint? {l : LintPolicy} (h : v.Fits) (read : readLint? v = some l) :
    fits l.headerMaxLength = true := by
  simp only [readLint?, Option.bind_eq_bind, Option.bind_eq_some_iff, Option.some.injEq] at read
  obtain ⟨s, settings, _, -, _, -, _, -, length, found, _, -, _, -, rfl⟩ := read
  exact fits_read? (fits_settings? h settings) fits_standard found

theorem fits_ofToml? {es : Entries} (h : ∀ e ∈ es, e.2.Fits) (read : ofToml? es = some c) :
    fits c.lint.headerMaxLength = true := by
  simp only [ofToml?, Option.bind_eq_bind, Option.bind_eq_some_iff, Option.some.injEq] at read
  obtain ⟨lint, found, _, -, _, -, rfl⟩ := read
  rw [Settings.read?] at found
  split at found
  next v listed => exact fits_readLint? (Settings.Fits.of_get? (s := .keyed es) h listed) found
  next =>
    obtain rfl := Option.some.inj found
    exact fits_standard

/-! ## Documents -/

theorem read_eq_ok : read text = .ok c ↔ ∃ es, parse? text = some es ∧ ofToml? es = some c := by
  rw [← Option.bind_eq_some_iff, read]
  split
  next found => simp [found]
  next missing => simp [missing]

theorem load_eq_ok : load text = .ok c ↔ read text = .ok c ∧ c.validate = .ok () := by
  simp only [load, Result.bind_eq_ok]
  constructor
  · intro h
    obtain ⟨other, found, ⟨⟩, valid, same⟩ := h
    obtain rfl := Except.ok.inj same
    exact ⟨found, valid⟩
  · intro h
    exact ⟨c, h.1, (), h.2, rfl⟩

/-- The document of a configuration that can be written is read as it was. -/
theorem read_render (fit : fits c.lint.headerMaxLength = true) : read c.render = .ok c :=
  read_eq_ok.mpr ⟨c.written, parse?_render fit, ofToml?_written c⟩

/-- A configuration that was loaded can be written. -/
theorem fits_of_load (loaded : load text = .ok c) : fits c.lint.headerMaxLength = true := by
  obtain ⟨es, parsed, made⟩ := read_eq_ok.mp (load_eq_ok.mp loaded).1
  exact fits_ofToml? (parse?_fits parsed) made

end Config

namespace CommandLine.Program

variable {σ : Type} [Repository σ] {text : String} {c : Config}

/-- What is printed for a configuration that was loaded is loaded as the same configuration. -/
theorem printed_config_reloads (loaded : Config.load text = .ok c) (s : Surroundings)
    (w : World σ) :
    ∃ printed, (runCommand s c .config).run w
        = (.ok accepted, { w with printed := w.printed ++ printed })
      ∧ Config.load printed = .ok c := by
  have reread := Config.read_render (Config.fits_of_load loaded)
  have valid := (Config.load_eq_ok.mp loaded).2
  exact ⟨c.render, rfl, Config.load_eq_ok.mpr ⟨reread, valid⟩⟩

/-- A document with a rule of its own and a command on two lines. -/
def oneRule : String :=
  "[lint]\ntypes = [\"feat\"]\n\n[[release.rules]]\ntype = \"feat\"\nsection = 'THE \"NEW\"'\n\n"
    ++ "[hooks]\nprepare = \"make\\nmake check\"\n"

/-- What the document says. -/
def oneRuleConfig : Config where
  lint := { LintPolicy.standard with types := [.feat] }
  release := { ReleasePolicy.standard with
    rules := [⟨.feat, .none, some "THE \"NEW\"", none, false⟩] }
  hooks := { HookCommands.standard with prepare := some "make\nmake check" }

/-- What is around a directory with the document and nothing else. -/
def bareDirectory : Surroundings where
  read path := if path = projectConfig then .ok oneRule else .error .missing
  userConfig := .error .missing
  input := ""
  today := ⟨1970, 1, 1⟩
  runner := Shell.runner
  palette := .plain
  isAttended := false

theorem one_rule_reloads :
    Config.load oneRule = .ok oneRuleConfig ∧
      ∃ printed, (runCommand bareDirectory oneRuleConfig .config).run
            (⟨.error (.git ""), "", ""⟩ : World MemoryRepository)
          = (.ok accepted, ⟨.error (.git ""), "" ++ printed, ""⟩)
        ∧ Config.load printed = .ok oneRuleConfig := by
  have found : (Config.load oneRule).toOption = some oneRuleConfig := by decide +kernel
  have loaded := Result.toOption_eq_some.mp found
  exact ⟨loaded, printed_config_reloads loaded bareDirectory _⟩

end CommandLine.Program

end ReleasePlanner
