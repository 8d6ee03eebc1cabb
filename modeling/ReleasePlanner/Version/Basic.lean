import ReleasePlanner.Text.Decimal
import ReleasePlanner.Version.Level

/-!
# Versions

A version is three numbers and, on the way to a release, a pre-release: an
identifier with an iteration, as in `1.3.0-rc.2`.  Its text is the one normal
form, without leading zeros and without signs.
-/

namespace ReleasePlanner

/-- A step towards a release, `rc.2`. -/
structure PreRelease where
  /-- What kind of step it is. -/
  identifier : String
  /-- Which step of the kind it is, counted from one. -/
  iteration : Nat
  deriving DecidableEq, Repr

namespace PreRelease

/-- The first step of a kind. -/
def first (identifier : String) : PreRelease :=
  ⟨identifier, 1⟩

/-- The step after this one. -/
def next (p : PreRelease) : PreRelease :=
  { p with iteration := p.iteration + 1 }

/-- The text of a pre-release, `rc.2`. -/
def chars (p : PreRelease) : List Char :=
  p.identifier.toList ++ '.' :: Text.decimal p.iteration

/-- The text of a pre-release, as a string. -/
def text (p : PreRelease) : String :=
  String.ofList p.chars

end PreRelease

/-- A version, stable or on the way to a release. -/
structure Version where
  /-- Increased by breaking changes. -/
  major : Nat
  /-- Increased by additions. -/
  minor : Nat
  /-- Increased by corrections. -/
  patch : Nat
  /-- The step towards the release; absent in a stable version. -/
  pre : Option PreRelease
  deriving DecidableEq, Repr

namespace Version

/-- The stable version with these numbers. -/
def stable (major minor patch : Nat) : Version :=
  ⟨major, minor, patch, none⟩

/-- The stable version a version leads to: its numbers alone. -/
def base (v : Version) : Version :=
  { v with pre := none }

/-- Is a step towards a release. -/
def isPreRelease (v : Version) : Bool :=
  v.pre.isSome

/-- The same numbers with another pre-release. -/
def withPre (v : Version) (p : PreRelease) : Version :=
  { v with pre := some p }

/-- The next stable version at a level.  At `none` it is the base. -/
def bump (v : Version) : Level → Version
  | .none => v.base
  | .patch => stable v.major v.minor (v.patch + 1)
  | .minor => stable v.major (v.minor + 1) 0
  | .major => stable (v.major + 1) 0 0

/-- The three numbers with points between them. -/
def coreChars (v : Version) : List Char :=
  Text.decimal v.major ++ '.' :: (Text.decimal v.minor ++ '.' :: Text.decimal v.patch)

/-- The text of a version, `1.3.0` or `1.3.0-rc.2`. -/
def chars (v : Version) : List Char :=
  match v.pre with
  | none => v.coreChars
  | some p => v.coreChars ++ '-' :: p.chars

/-- The text of a version, as a string. -/
def text (v : Version) : String :=
  String.ofList v.chars

example : (Version.stable 1 3 0).chars = ['1', '.', '3', '.', '0'] := by decide

end Version

end ReleasePlanner
