import ReleasePlanner.Branch
import ReleasePlanner.Commit.Kind
import ReleasePlanner.Tag
import ReleasePlanner.Text.Placeholder
import ReleasePlanner.Version.Parse

/-!
# Configuration

A configuration has three parts.  The lint policy says which commit messages
are accepted.  The release policy says what the accepted ones add up to, from
which branches releases are cut and how a release is written down.  The hook
commands are run around publishing.

`Config.standard` is the configuration when nothing is written down.  Every
key that is left out has its value there.
-/

namespace ReleasePlanner

/-! ## Lint policy -/

/-- Which commit messages are accepted. -/
structure LintPolicy where
  /-- The allowed commit types. -/
  types : List CommitKind
  /-- The allowed scopes.  When there are none, no scope is allowed. -/
  scopes : List String
  /-- Whether scopes are judged at all. -/
  enforceScopes : Bool
  /-- The greatest number of characters of a header. -/
  headerMaxLength : Nat
  /-- Headers that match this expression are accepted as they are. -/
  ignorePattern : String
  /-- Whether headers that git writes on its own are accepted as they are. -/
  ignoreGitGenerated : Bool
  deriving DecidableEq, Repr

/-- The expression for the headers of release commits. -/
def standardIgnorePattern : String :=
  "^release: \\d+\\.\\d+\\.\\d+(-rc\\.\\d+)?\\."

/-- The lint policy when nothing is configured. -/
def LintPolicy.standard : LintPolicy where
  types := CommitKind.all
  scopes := ["lib/hkt_macro"]
  enforceScopes := true
  headerMaxLength := 100
  ignorePattern := standardIgnorePattern
  ignoreGitGenerated := true

/-! ## Release policy -/

/-- What a commit type means for a release. -/
structure TypePolicy where
  /-- The commit type. -/
  type : CommitKind
  /-- The level a commit of the type asks for. -/
  level : Level
  /-- The title of the section of the notes that lists the commits. -/
  title : Option String
  /-- A shortcode in front of the title. -/
  emoji : Option String
  /-- Keeps the commits out of the notes. -/
  hidden : Bool
  deriving DecidableEq, Repr

namespace TypePolicy

/-- A rule with a section. -/
def shown (type : CommitKind) (level : Level) (title emoji : String) : TypePolicy :=
  ⟨type, level, some title, some emoji, false⟩

/-- A rule without a section and without a level. -/
def silent (type : CommitKind) : TypePolicy :=
  ⟨type, .none, none, none, true⟩

/-- The rules when nothing is configured. -/
def standard : List TypePolicy :=
  [shown .chore .none "CHORE" ":water_buffalo:",
   shown .update .patch "UPDATES" ":water_buffalo:",
   shown .ci .none "CONTINUOUS INTEGRATION" ":vertical_traffic_light:",
   shown .doc .none "DOCUMENTATION" ":books:",
   shown .feat .minor "FEATURE" ":sparkles:",
   shown .fix .patch "FIX" ":bug:",
   shown .refactor .minor "REFACTOR" ":wrench:",
   shown .security .minor "SECURITY" ":shield:",
   shown .test .none "TEST" ":dart:",
   silent .noRelease,
   silent .release,
   silent .wip]

/-- The title under which commits of the type are listed, if they are. -/
def shownTitle? (r : TypePolicy) : Option String :=
  if r.hidden then none else r.title

end TypePolicy

/-- What accepted commits add up to, and how a release is written down. -/
structure ReleasePolicy where
  /-- The rules of the commit types.  Their order is that of the notes. -/
  rules : List TypePolicy
  /-- The branches releases are cut from. -/
  branches : BranchLayout
  /-- How tags are named. -/
  tagFormat : String
  /-- The version of the first release. -/
  initialVersion : String
  /-- The file that keeps the notes of all releases. -/
  changelogFile : String
  /-- The paths that go into the release commit. -/
  assets : List String
  /-- The message of the release commit, with places for the version and the notes. -/
  message : String
  /-- The remote that releases are pushed to. -/
  remote : String
  /-- Whether a rejected commit stops the release. -/
  blockOnRejected : Bool
  deriving DecidableEq, Repr

namespace ReleasePolicy

/-- The release policy when nothing is configured. -/
def standard : ReleasePolicy where
  rules := TypePolicy.standard
  branches := .standard
  tagFormat := "v\x7bversion\x7d"
  initialVersion := "1.0.0"
  changelogFile := "CHANGELOG.md"
  assets := ["CHANGELOG.md", "README.md", "doc/**", "Cargo.toml", "Cargo.lock"]
  message := "release: \x7bversion\x7d.\n\n\x7bnotes\x7d"
  remote := "origin"
  blockOnRejected := false

/-- The rule of a commit type. -/
def rule? (p : ReleasePolicy) (type : CommitKind) : Option TypePolicy :=
  p.rules.find? fun r => r.type == type

/-- The message of the release commit. -/
def commitMessage (p : ReleasePolicy) (v : Version) (notes : String) : String :=
  String.ofList <|
    Text.fill Text.notesWord notes.toList (Text.fill Text.versionWord v.chars p.message.toList)

/-- How tags are named. -/
def tagPattern (p : ReleasePolicy) : Except TagError TagPattern :=
  TagPattern.ofText p.tagFormat

/-- The version of the first release. -/
def firstVersion (p : ReleasePolicy) : Except VersionError Version :=
  Version.parse p.initialVersion

end ReleasePolicy

/-! ## Hook commands and the whole -/

/-- The commands at the points of a release. -/
structure HookCommands where
  /-- Run before anything changes. -/
  verifyConditions : Option String
  /-- Run between the changelog and the release commit. -/
  prepare : Option String
  /-- Run after the tag is pushed. -/
  publish : Option String
  deriving DecidableEq, Repr

namespace HookCommands

/-- No commands. -/
def standard : HookCommands :=
  ⟨none, none, none⟩

/-- The command at a point. -/
def at? (h : HookCommands) : HookPoint → Option String
  | .verifyConditions => h.verifyConditions
  | .prepare => h.prepare
  | .publish => h.publish

end HookCommands

/-- A whole configuration. -/
structure Config where
  /-- Which commit messages are accepted. -/
  lint : LintPolicy
  /-- What they add up to. -/
  release : ReleasePolicy
  /-- What is run around publishing. -/
  hooks : HookCommands
  deriving DecidableEq, Repr

/-- The configuration when nothing is written down. -/
def Config.standard : Config :=
  ⟨.standard, .standard, .standard⟩

end ReleasePlanner
