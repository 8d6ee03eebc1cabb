import ReleasePlanner.Error

/-!
# Branches

Releases are cut from two branches.  The release branch gives stable versions
on the default channel.  The prerelease branch gives pre-releases on a channel
of its own.  After a stable release, and only then, the release branch is
merged into the prerelease branch.
-/

namespace ReleasePlanner

/-- What a release branch is for. -/
inductive Track where
  | release
  | prerelease
  deriving DecidableEq, Repr

/-- The name of a track. -/
def Track.name : Track → String
  | .release => "release"
  | .prerelease => "prerelease"

/-- A merge of one branch into another. -/
structure Backmerge where
  /-- The branch that is merged. -/
  source : String
  /-- The branch it is merged into. -/
  target : String
  deriving DecidableEq, Repr

/-- The two branches releases are cut from. -/
structure BranchLayout where
  /-- The branch of stable versions. -/
  release : String
  /-- The branch of pre-releases. -/
  prerelease : String
  /-- The channel of pre-releases. -/
  channel : String
  /-- The identifier of pre-releases. -/
  prereleaseId : String
  deriving DecidableEq, Repr

namespace BranchLayout

/-- The branches when nothing is configured. -/
def standard : BranchLayout :=
  ⟨"release", "release-candidate", "release-candidate", "rc"⟩

/-- The track of a branch, if it has one. -/
def track? (t : BranchLayout) (branch : String) : Option Track :=
  if branch = t.release then some .release
  else if branch = t.prerelease then some .prerelease
  else none

/-- The track of a branch, or an error when it has none. -/
def trackOf (t : BranchLayout) (branch : String) : Except Error Track :=
  match t.track? branch with
  | some track => .ok track
  | none => .error (.branch (.notRelease branch t.release t.prerelease))

/-- The channel of a track.  The default channel has no name. -/
def channel? (t : BranchLayout) : Track → Option String
  | .release => none
  | .prerelease => some t.channel

/-- The merge that follows a release. -/
def backmerge? (t : BranchLayout) : Track → Option Backmerge
  | .release => some ⟨t.release, t.prerelease⟩
  | .prerelease => none

end BranchLayout

/-! ## Refspecs -/

/-- The refspec that pushes a branch to its own name. -/
def branchRefspec (branch : String) : String :=
  "refs/heads/" ++ branch ++ ":refs/heads/" ++ branch

/-- The refspec that pushes a tag to its own name. -/
def tagRefspec (tag : String) : String :=
  "refs/tags/" ++ tag ++ ":refs/tags/" ++ tag

end ReleasePlanner
