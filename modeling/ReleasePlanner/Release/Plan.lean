import ReleasePlanner.Changelog
import ReleasePlanner.Release.History

/-!
# Release plans

A plan fixes everything about a release before anything is changed: version,
tag, channel, notes, the message of the release commit, and the merge that
follows.

On the release branch the next version is the latest stable one increased by
the level of the release, or the first version when there is none.  On the
prerelease branch it is a step towards that version.  A series of steps goes
on as long as its version is not below the one that is aimed at.
-/

namespace ReleasePlanner

/-- Everything needed to publish a release. -/
structure Plan where
  /-- The track of the branch. -/
  track : Track
  /-- The branch. -/
  branch : String
  /-- The channel; the default channel has no name. -/
  channel : Option String
  /-- The release before this one. -/
  previous : Option Version
  /-- The version. -/
  version : Version
  /-- The tag. -/
  tag : String
  /-- The level of the release. -/
  level : Level
  /-- The notes. -/
  notes : ReleaseNotes
  /-- The notes as a fragment of the changelog. -/
  changelog : String
  /-- The message of the release commit. -/
  message : String
  /-- The merge that follows. -/
  sync : Option Backmerge
  deriving DecidableEq, Repr

namespace ReleasePolicy

/-- The stable version that is aimed at. -/
def target (p : ReleasePolicy) (level : Level) (h : History) : Except Error Version :=
  match h.stable with
  | some v => .ok (v.bump level)
  | none => p.firstVersion.mapError .version

/-- The step towards a stable version, after the latest pre-release. -/
def nextStep (prereleaseId : String) (target : Version) (latest : Option Version) : Version :=
  match latest with
  | some v =>
    if target.upTo v.base then
      v.base.withPre ((v.pre.map PreRelease.next).getD (.first prereleaseId))
    else target.withPre (.first prereleaseId)
  | none => target.withPre (.first prereleaseId)

/-- The version of the next release on a branch. -/
def nextVersion (p : ReleasePolicy) (track : Track) (level : Level) (h : History) :
    Except Error Version := do
  let target ← p.target level h
  match track with
  | .release => return target
  | .prerelease => return nextStep p.branches.prereleaseId target h.prerelease

/-- Checks that a version is above the release before it. -/
def checkAbove (previous : Option Version) (v : Version) : Except Error Unit :=
  match previous with
  | none => .ok ()
  | some w => if v.upTo w then .error (.version (.notAbove v w)) else .ok ()

/-- The plan of a version. -/
def planOf (p : ReleasePolicy) (pattern : TagPattern) (track : Track) (branch : String)
    (d : Decision) (previous : Option Version) (v : Version) (date : Date) : Plan :=
  let fragment := Changelog.render d.notes v date
  { track
    branch
    channel := p.branches.channel? track
    previous
    version := v
    tag := pattern.format v
    level := d.level
    notes := d.notes
    changelog := fragment
    message := p.commitMessage v fragment
    sync := p.branches.backmerge? track }

/-- Plans the next release of a branch.  There is none when the decision does not ask for one. -/
def plan (p : ReleasePolicy) (branch : String) (d : Decision) (h : History) (date : Date) :
    Except Error (Option Plan) := do
  let pattern ← p.tagPattern.mapError .tag
  let track ← p.branches.trackOf branch
  if d.fires then
    let v ← p.nextVersion track d.level h
    let previous := h.last? track
    checkAbove previous v
    return some (p.planOf pattern track branch d previous v date)
  else return none

end ReleasePolicy

end ReleasePlanner
