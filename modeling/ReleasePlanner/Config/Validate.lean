import ReleasePlanner.Config.Basic
import ReleasePlanner.Regex.Parser
import ReleasePlanner.Text.Blank
import ReleasePlanner.Text.Lines

/-!
# Valid configurations

`Config.validate` checks that the parts of a configuration fit together and
reports the first fault.  Every allowed commit type has exactly one rule, and
no other type has one.  The release commits of the program must pass its own
lint policy, which is tried with a stable version and with a first pre-release.
-/

namespace ReleasePlanner

/-- The words of the expression reader, which are not the program's. -/
def expressionWords : String := ""

namespace LintPolicy

/-- The first type that is listed again after it, looking at the types in order. -/
def firstRepeated? (seen : List CommitKind) : List CommitKind → Option CommitKind
  | [] => none
  | t :: ts => if seen.contains t then some t else firstRepeated? (t :: seen) ts

/-- The expression for headers that are accepted as they are. -/
def bypass (p : LintPolicy) : Except ConfigError Pattern :=
  match Pattern.ofText? p.ignorePattern with
  | some pattern => .ok pattern
  | none => .error (.badIgnorePattern expressionWords)

end LintPolicy

namespace Config

/-- Checks the commit types and the header length. -/
def validateTypes (p : LintPolicy) : Except ConfigError Unit :=
  match LintPolicy.firstRepeated? [] p.types with
  | some t => .error (.typeListedTwice t)
  | none => if p.headerMaxLength = 0 then .error .noHeaderLength else .ok ()

/-- Checks one rule, where `ruled` are the types of the rules before it. -/
def validateRule (types ruled : List CommitKind) (r : TypePolicy) : Except ConfigError Unit :=
  if ruled.contains r.type then .error (.ruledTwice r.type)
  else if !types.contains r.type then .error (.ruleWithoutType r.type)
  else if !r.hidden && !(r.title.any fun t => !Text.allBlank t.toList) then
    .error (.noSection r.type)
  else .ok ()

/-- Checks the rules in order. -/
def validateRules (types : List CommitKind) : List CommitKind → List TypePolicy →
    Except ConfigError Unit
  | _, [] => .ok ()
  | ruled, r :: rs => do
    validateRule types ruled r
    validateRules types (r.type :: ruled) rs

/-- Checks that every type has a rule. -/
def validateCovered (types : List CommitKind) (rules : List TypePolicy) : Except ConfigError Unit :=
  match types.find? fun t => !(rules.map TypePolicy.type).contains t with
  | some t => .error (.noRule t)
  | none => .ok ()

/-- Checks the names of branches and of the channel. -/
def validateBranches (b : BranchLayout) : Except ConfigError Unit :=
  if b.release = "" || b.prerelease = "" then .error .emptyBranch
  else if b.release = b.prerelease then .error (.sameBranch b.release)
  else if b.channel = "" then .error .emptyChannel
  else (PreRelease.checkIdentifier b.prereleaseId.toList).mapError .badIdentifier

/-- Checks the tag format and the first version. -/
def validateVersions (p : ReleasePolicy) : Except ConfigError Unit := do
  let _ ← p.tagPattern.mapError .badTagFormat
  let first ← p.firstVersion.mapError .badInitialVersion
  if first.isPreRelease then .error .initialPreRelease else .ok ()

/-- The versions the message of release commits is tried with. -/
def samples (b : BranchLayout) : List Version :=
  [.stable 1 0 0, (Version.stable 1 0 0).withPre (.first b.prereleaseId)]

/-- The header of the release commit of a version without notes. -/
def sampleHeader (p : ReleasePolicy) (v : Version) : String :=
  String.ofList (Text.firstLine (p.commitMessage v "").toList)

/-- Checks that the release commits of the samples are accepted as they are. -/
def validateMessage (bypass : Pattern) (p : ReleasePolicy) : Except ConfigError Unit :=
  match (samples p.branches).find? fun v => !bypass.isMatch (sampleHeader p v) with
  | some v => .error (.ownCommitLinted (sampleHeader p v))
  | none => .ok ()

/-- Checks a configuration and tells the first fault. -/
def check (c : Config) : Except ConfigError Unit := do
  validateTypes c.lint
  let bypass ← c.lint.bypass
  validateRules c.lint.types [] c.release.rules
  validateCovered c.lint.types c.release.rules
  validateBranches c.release.branches
  validateVersions c.release
  validateMessage bypass c.release

/-- Checks a configuration and tells the first fault. -/
def validate (c : Config) : Except Error Unit :=
  c.check.mapError .config

end Config

end ReleasePlanner
