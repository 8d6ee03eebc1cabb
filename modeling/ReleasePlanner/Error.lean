import ReleasePlanner.Commit.Kind
import ReleasePlanner.Hook.Point
import ReleasePlanner.Version.Basic

/-!
# Errors

Everything that can stop an operation.  Each area has its own causes, and each
cause carries the texts its message names.  `Error.message` puts the area in
front.  The words of a library or of the operating system are not part of the
model.  Where a message ends in such words, the cause carries them as a text.
-/

namespace ReleasePlanner

/-! ## Causes -/

/-- The three numbers of a version. -/
inductive VersionPart where
  | major
  | minor
  | patch
  deriving DecidableEq, Repr

/-- The name of a number. -/
def VersionPart.name : VersionPart → String
  | .major => "major"
  | .minor => "minor"
  | .patch => "patch"

/-- Why a text is not a version, or a version not usable. -/
inductive VersionError where
  | emptyIdentifier
  | badIdentifier (identifier : String)
  | noIteration (pre : String)
  | badIteration (iteration : String)
  | badShape (text : String)
  | badNumber (part : VersionPart) (text : String)
  | notAbove (next last : Version)
  | stated (text : String)
  deriving DecidableEq, Repr

/-- The words for a version error. -/
def VersionError.message : VersionError → String
  | emptyIdentifier => "Empty pre-release identifier"
  | badIdentifier i => "Invalid pre-release identifier: '" ++ i ++ "'"
  | noIteration p => "Pre-release '" ++ p ++ "' must have the form <id>.<n>"
  | badIteration n => "Invalid iteration number: '" ++ n ++ "'"
  | badShape t => "Invalid version format: '" ++ t ++ "' - expected X.Y.Z"
  | badNumber p t => "Invalid " ++ p.name ++ " version: " ++ t
  | notAbove next last =>
    "Next version " ++ next.text ++ " is not above the last release " ++ last.text
  | stated t => t

/-- What is wrong with a tag or a tag pattern. -/
inductive TagError where
  | placeholders (pattern : String)
  | alreadyExists (name : String)
  | unreadable (name : String) (reason : String)
  | notCommit (reason : String)
  | noObject (reason : String)
  | notCreated (reason : String)
  | stated (text : String)
  deriving DecidableEq, Repr

/-- The words for a tag error. -/
def TagError.message : TagError → String
  | placeholders p =>
    "Pattern '" ++ p ++ "' must contain exactly one \x7bversion\x7d placeholder"
  | alreadyExists n => "Tag '" ++ n ++ "' already exists"
  | unreadable n r => "Cannot find tag '" ++ n ++ "': " ++ r
  | notCommit r => "Cannot peel tag: " ++ r
  | noObject r => "Cannot find object: " ++ r
  | notCreated r => "Cannot create tag: " ++ r
  | stated t => t

/-- What is wrong with a commit. -/
inductive CommitError where
  | unknownType (text : String)
  | stated (text : String)
  deriving DecidableEq, Repr

/-- The words for a commit error. -/
def CommitError.message : CommitError → String
  | unknownType t => "Unknown commit type: '" ++ t ++ "'"
  | stated t => t

/-- What is wrong with a branch or a revision. -/
inductive BranchError where
  | notRelease (branch release prerelease : String)
  | notCheckedOut (branch current : String)
  | noCurrent
  | detached
  | unreadableHead (reason : String)
  | missing (branch : String)
  | notFound (branch reason : String)
  | noTarget (branch : String)
  | unknownRevision (revision : String)
  | unresolved (revision reason : String)
  | noWorkTree
  | noWorkTreeInMemory
  | stated (text : String)
  deriving DecidableEq, Repr

/-- The words for a branch error. -/
def BranchError.message : BranchError → String
  | notRelease b r p =>
    "'" ++ b ++ "' is not a release branch (expected '" ++ r ++ "' or '" ++ p ++ "')"
  | notCheckedOut b c =>
    "Releasing '" ++ b ++ "' requires it to be checked out (current: '" ++ c ++ "')"
  | noCurrent => "HEAD is detached"
  | detached => "HEAD is detached; pass --branch explicitly"
  | unreadableHead r => "Cannot read HEAD: " ++ r
  | missing b => "Branch not found: " ++ b
  | notFound b r => "Cannot find branch '" ++ b ++ "': " ++ r
  | noTarget b => "Branch '" ++ b ++ "' has no target"
  | unknownRevision r => "Cannot resolve '" ++ r ++ "'"
  | unresolved r why => "Cannot resolve '" ++ r ++ "': " ++ why
  | noWorkTree => "Repository has no working tree"
  | noWorkTreeInMemory => "Mock repository has no working tree"
  | stated t => t

/-- What is wrong with a remote. -/
inductive RemoteError where
  | rejected (remote : String)
  | unreachable (remote : String)
  | unknown (reason : String)
  | network (reason : String)
  | pushFailed (reason : String)
  | fetchFailed (reason : String)
  | stated (text : String)
  deriving DecidableEq, Repr

/-- The words for a remote error. -/
def RemoteError.message : RemoteError → String
  | rejected r => "Push to '" ++ r ++ "' rejected"
  | unreachable r => "Cannot reach remote '" ++ r ++ "'"
  | unknown r => "Cannot find remote: " ++ r
  | network r => "Network error during push: " ++ r
  | pushFailed r => "Push failed: " ++ r
  | fetchFailed r => "Fetch failed: " ++ r
  | stated t => t

/-- What went wrong with a hook. -/
inductive HookError where
  | noCommand (point : HookPoint)
  | notStarted (point : HookPoint)
  | failed (point : HookPoint) (code : Int) (stdout stderr : String)
  | stated (text : String)
  deriving DecidableEq, Repr

/-- The words for a hook error. -/
def HookError.message : HookError → String
  | noCommand p => "Empty command for hook '" ++ p.name ++ "'"
  | notStarted p => "Failed to run hook '" ++ p.name ++ "'"
  | failed p code out err =>
    "Hook '" ++ p.name ++ "' failed with exit code " ++ toString code ++ "\nStdout: " ++ out
      ++ "\nStderr: " ++ err
  | stated t => t

/-- Why two branches could not be brought together. -/
inductive SyncError where
  | conflicts (source target : String)
  | checkedOut (branch : String)
  | notForwarded (reason : String)
  | stated (text : String)
  deriving DecidableEq, Repr

/-- The words for a synchronization error. -/
def SyncError.message : SyncError → String
  | conflicts a b => "Merging '" ++ a ++ "' into '" ++ b ++ "' has conflicts"
  | checkedOut b => "'" ++ b ++ "' is checked out; merge it manually"
  | notForwarded r => "Fast-forward failed: " ++ r
  | stated t => t

/-- What is wrong with a configuration. -/
inductive ConfigError where
  | typeListedTwice (type : CommitKind)
  | noHeaderLength
  | badIgnorePattern (reason : String)
  | ruledTwice (type : CommitKind)
  | ruleWithoutType (type : CommitKind)
  | noSection (type : CommitKind)
  | noRule (type : CommitKind)
  | emptyBranch
  | sameBranch (branch : String)
  | emptyChannel
  | badIdentifier (cause : VersionError)
  | badTagFormat (cause : TagError)
  | badInitialVersion (cause : VersionError)
  | initialPreRelease
  | ownCommitLinted (header : String)
  | stated (text : String)
  deriving DecidableEq, Repr

/-- What stands in front of the words for a version error. -/
def versionArea : String := "Version parsing error: "

/-- What stands in front of the words for a tag error. -/
def tagArea : String := "Tag error: "

/-- The words for a configuration error. -/
def ConfigError.message : ConfigError → String
  | typeListedTwice t => "Commit type '" ++ t.name ++ "' is listed twice in lint.types"
  | noHeaderLength => "lint.header_max_length must be greater than zero"
  | badIgnorePattern r => "Invalid lint.ignore_pattern: " ++ r
  | ruledTwice t => "Release rule for '" ++ t.name ++ "' is defined more than once"
  | ruleWithoutType t => "Release rule references '" ++ t.name ++ "' which is not in lint.types"
  | noSection t => "Release rule for '" ++ t.name ++ "' is visible but has no section title"
  | noRule t => "Commit type '" ++ t.name ++ "' has no release rule"
  | emptyBranch => "Branch names must not be empty"
  | sameBranch b => "Release and prerelease branch are both '" ++ b ++ "'"
  | emptyChannel => "Prerelease channel must not be empty"
  | badIdentifier e => versionArea ++ e.message
  | badTagFormat e => tagArea ++ e.message
  | badInitialVersion e => "Invalid initial_version: " ++ versionArea ++ e.message
  | initialPreRelease => "initial_version must not be a prerelease"
  | ownCommitLinted h =>
    "Release message header '" ++ h ++ "' does not match lint.ignore_pattern"
  | stated t => t

/-! ## Errors -/

/-- An error of any area.  `io`, `toml` and `git` are failures whose words are not the program's. -/
inductive Error where
  | config (cause : ConfigError)
  | commit (cause : CommitError)
  | version (cause : VersionError)
  | tag (cause : TagError)
  | branch (cause : BranchError)
  | remote (cause : RemoteError)
  | hook (cause : HookError)
  | sync (cause : SyncError)
  | io (reason : String)
  | toml (reason : String)
  | git (reason : String)
  deriving DecidableEq, Repr

namespace Error

/-- The full text of an error. -/
def message : Error → String
  | config c => "Configuration error: " ++ c.message
  | commit c => "Invalid commit: " ++ c.message
  | version c => versionArea ++ c.message
  | tag c => tagArea ++ c.message
  | branch c => "Branch error: " ++ c.message
  | remote c => "Remote operation failed: " ++ c.message
  | hook c => "Hook failed: " ++ c.message
  | sync c => "Branch synchronization failed: " ++ c.message
  | io r => "I/O error: " ++ r
  | toml r => "Invalid configuration file: " ++ r
  | git r => "Git operation failed: " ++ r

/-- Whether the release stands although the error happened.  Only bringing the branches together
comes after it. -/
def releaseStands : Error → Bool
  | sync _ => true
  | _ => false

end Error

end ReleasePlanner
