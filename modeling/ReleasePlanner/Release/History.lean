import ReleasePlanner.Branch
import ReleasePlanner.Tag

/-!
# Release history

The latest releases among some tags: the greatest stable version, and the
greatest pre-release with the identifier that is in use.  Tags that do not
follow the pattern, and pre-releases with other identifiers, do not count.
Of equal versions the first is kept.
-/

namespace ReleasePlanner

/-- The latest releases of a branch. -/
structure History where
  /-- The greatest stable version. -/
  stable : Option Version
  /-- The greatest pre-release. -/
  prerelease : Option Version
  deriving DecidableEq, Repr

namespace History

/-- No releases. -/
def empty : History :=
  ⟨none, none⟩

/-- The greater of a version and the greatest so far.  The version must be above to replace it. -/
def raise (latest : Option Version) (v : Version) : Option Version :=
  match latest with
  | none => some v
  | some w => if w.below v then some v else some w

/-- The history with one more version. -/
def record (prereleaseId : String) (h : History) (v : Version) : History :=
  match v.pre with
  | none => { h with stable := raise h.stable v }
  | some p =>
    if p.identifier = prereleaseId then { h with prerelease := raise h.prerelease v } else h

/-- The history of some tags. -/
def ofTags (pattern : TagPattern) (prereleaseId : String) (tags : List String) : History :=
  (tags.filterMap pattern.parse?).foldl (record prereleaseId) empty

/-- The release that the next one on a branch is measured against. -/
def last? (h : History) : Track → Option Version
  | .release => h.stable
  | .prerelease =>
    match h.stable, h.prerelease with
    | some s, some p => if s.below p then some p else some s
    | some s, none => some s
    | none, p => p

end History

end ReleasePlanner
