import ReleasePlanner.Config.Validate
import ReleasePlanner.Toml.Printer

/-!
# Configurations as documents

`Config.toToml` writes every setting of a configuration, and `Config.ofToml?`
reads one back.  Settings that are left out have their standard values, and
keys that are not known are passed over.

Where a table is expected, an array with the settings in their order will do
as well, and a date counts as a table without known keys.  Where the name of a
type or a level is expected, a table whose only key is the name and whose value
is empty will do as well.
-/

namespace ReleasePlanner

open Toml (Value Entries)

namespace Config

/-! ## Reading parts -/

/-- Reads a text. -/
def readString? : Value → Option String
  | .string s => some s
  | _ => none

/-- Reads a truth value. -/
def readBool? : Value → Option Bool
  | .boolean b => some b
  | _ => none

/-- Reads a natural number. -/
def readNat? : Value → Option Nat
  | .integer n => if 0 ≤ n then some n.toNat else none
  | _ => none

/-- Reads a list. -/
def readList? {α : Type} (item : Value → Option α) : Value → Option (List α)
  | .array items => items.mapM item
  | _ => none

/-- Whether a value is an empty table or array. -/
def isEmptyValue : Value → Bool
  | .table es => es.isEmpty
  | .array items => items.isEmpty
  | _ => false

/-- Reads a name out of a closed list of names. -/
def readName? {α : Type} (named? : String → Option α) : Value → Option α
  | .string s => named? s
  | .table [(key, v)] => if isEmptyValue v then named? key else none
  | _ => none

/-- The settings of a table, each by its key and its position. -/
inductive Settings where
  /-- Settings with keys. -/
  | keyed (entries : Entries)
  /-- Settings in their order. -/
  | listed (items : List Value)

/-- The settings of a value. -/
def settings? : Value → Option Settings
  | .table es => some (.keyed es)
  | .array items => some (.listed items)
  | .datetime _ => some (.keyed [])
  | _ => none

/-- The value of a setting. -/
def Settings.get? (s : Settings) (index : Nat) (key : String) : Option Value :=
  match s with
  | .keyed es => es.get? key
  | .listed items => items[index]?

/-- Reads a setting, which has the value `standard` when it is left out. -/
def Settings.read? {α : Type} (s : Settings) (index : Nat) (key : String)
    (read : Value → Option α) (standard : α) : Option α :=
  match s.get? index key with
  | some v => read v
  | none => some standard

/-- Reads a setting that may be left out. -/
def Settings.readOptional? {α : Type} (s : Settings) (index : Nat) (key : String)
    (read : Value → Option α) : Option (Option α) :=
  s.read? index key (fun v => (read v).map some) none

/-! ## Reading tables -/

/-- Reads the lint policy. -/
def readLint? (v : Value) : Option LintPolicy := do
  let s ← settings? v
  some
    { types := ← s.read? 0 "types" (readList? (readName? CommitKind.ofName?))
        LintPolicy.standard.types
      scopes := ← s.read? 1 "scopes" (readList? readString?) LintPolicy.standard.scopes
      enforceScopes := ← s.read? 2 "enforce_scopes" readBool? true
      headerMaxLength := ← s.read? 3 "header_max_length" readNat?
        LintPolicy.standard.headerMaxLength
      ignorePattern := ← s.read? 4 "ignore_pattern" readString? LintPolicy.standard.ignorePattern
      ignoreGitGenerated := ← s.read? 5 "ignore_git_generated" readBool? true }

/-- Reads the rule of a commit type, which must name the type. -/
def readRule? (v : Value) : Option TypePolicy := do
  let s ← settings? v
  let type ← s.get? 0 "type"
  some
    { type := ← readName? CommitKind.ofName? type
      level := ← s.read? 1 "release" (readName? Level.ofName?) .none
      title := ← s.readOptional? 2 "section" readString?
      emoji := ← s.readOptional? 3 "emoji" readString?
      hidden := ← s.read? 4 "hidden" readBool? false }

/-- Reads the branches. -/
def readBranches? (v : Value) : Option BranchLayout := do
  let s ← settings? v
  some
    { release := ← s.read? 0 "release" readString? BranchLayout.standard.release
      prerelease := ← s.read? 1 "prerelease" readString? BranchLayout.standard.prerelease
      channel := ← s.read? 2 "channel" readString? BranchLayout.standard.channel
      prereleaseId := ← s.read? 3 "prerelease_id" readString?
        BranchLayout.standard.prereleaseId }

/-- Reads the release policy. -/
def readRelease? (v : Value) : Option ReleasePolicy := do
  let s ← settings? v
  let d := ReleasePolicy.standard
  some
    { rules := ← s.read? 0 "rules" (readList? readRule?) d.rules
      branches := ← s.read? 1 "branches" readBranches? d.branches
      tagFormat := ← s.read? 2 "tag_format" readString? d.tagFormat
      initialVersion := ← s.read? 3 "initial_version" readString? d.initialVersion
      changelogFile := ← s.read? 4 "changelog_file" readString? d.changelogFile
      assets := ← s.read? 5 "assets" (readList? readString?) d.assets
      message := ← s.read? 6 "message" readString? d.message
      remote := ← s.read? 7 "remote" readString? d.remote
      blockOnRejected := ← s.read? 8 "block_on_rejected" readBool? false }

/-- Reads the hook commands. -/
def readHooks? (v : Value) : Option HookCommands := do
  let s ← settings? v
  some
    { verifyConditions := ← s.readOptional? 0 "verify_conditions" readString?
      prepare := ← s.readOptional? 1 "prepare" readString?
      publish := ← s.readOptional? 2 "publish" readString? }

/-- Reads a configuration. -/
def ofToml? (es : Entries) : Option Config := do
  let s := Settings.keyed es
  some
    { lint := ← s.read? 0 "lint" readLint? LintPolicy.standard
      release := ← s.read? 1 "release" readRelease? ReleasePolicy.standard
      hooks := ← s.read? 2 "hooks" readHooks? HookCommands.standard }

/-! ## Writing tables -/

/-- A setting that may be missing. -/
def optionalEntry (key : String) (v : Option String) : Entries :=
  match v with
  | some s => [(key, .string s)]
  | none => []

/-- The settings of the lint policy. -/
def lintEntries (p : LintPolicy) : Entries :=
  [("types", .array (p.types.map fun t => .string t.name)),
   ("scopes", .array (p.scopes.map .string)),
   ("enforce_scopes", .boolean p.enforceScopes),
   ("header_max_length", .integer p.headerMaxLength),
   ("ignore_pattern", .string p.ignorePattern),
   ("ignore_git_generated", .boolean p.ignoreGitGenerated)]

/-- The settings of a rule. -/
def ruleEntries (r : TypePolicy) : Entries :=
  [("type", .string r.type.name), ("release", .string r.level.name)]
    ++ optionalEntry "section" r.title ++ optionalEntry "emoji" r.emoji
    ++ [("hidden", .boolean r.hidden)]

/-- The settings of the branches. -/
def branchEntries (b : BranchLayout) : Entries :=
  [("release", .string b.release), ("prerelease", .string b.prerelease),
   ("channel", .string b.channel), ("prerelease_id", .string b.prereleaseId)]

/-- The settings of the release policy. -/
def releaseEntries (p : ReleasePolicy) : Entries :=
  [("rules", .array (p.rules.map fun r => .table (ruleEntries r))),
   ("branches", .table (branchEntries p.branches)),
   ("tag_format", .string p.tagFormat),
   ("initial_version", .string p.initialVersion),
   ("changelog_file", .string p.changelogFile),
   ("assets", .array (p.assets.map .string)),
   ("message", .string p.message),
   ("remote", .string p.remote),
   ("block_on_rejected", .boolean p.blockOnRejected)]

/-- The hook commands. -/
def hookEntries (h : HookCommands) : Entries :=
  optionalEntry "verify_conditions" h.verifyConditions ++ optionalEntry "prepare" h.prepare
    ++ optionalEntry "publish" h.publish

/-- Every setting of a configuration. -/
def toToml (c : Config) : Entries :=
  [("lint", .table (lintEntries c.lint)), ("release", .table (releaseEntries c.release)),
   ("hooks", .table (hookEntries c.hooks))]

/-! ## Texts -/

/-- The words of the document reader, which are not the program's. -/
def documentWords : String := ""

/-- The configuration that a document holds, not yet checked. -/
def read (text : String) : Except Error Config :=
  match (Toml.parse? text).bind ofToml? with
  | some c => .ok c
  | none => .error (.toml documentWords)

/-- The valid configuration that a document holds. -/
def load (text : String) : Except Error Config := do
  let c ← read text
  c.validate
  return c

/-- The document of a configuration. -/
def render (c : Config) : String :=
  Toml.render c.toToml

end Config

end ReleasePlanner
