/-!
# Release levels

A level says which number of a version a release increases.  Levels are
ordered `none < patch < minor < major`, so the level of several commits is the
greatest of theirs, and `none` when there are no commits.
-/

namespace ReleasePlanner

/-- The number of a version that a release increases, `none` for no release. -/
inductive Level where
  | none
  | patch
  | minor
  | major
  deriving DecidableEq, Repr

namespace Level

/-- The position in the order of levels. -/
def rank : Level → Nat
  | none => 0
  | patch => 1
  | minor => 2
  | major => 3

/-- The greater of two levels. -/
def join (a b : Level) : Level :=
  if a.rank ≤ b.rank then b else a

/-- The greatest of some levels, `none` when there are none. -/
def greatest (levels : List Level) : Level :=
  levels.foldl join none

/-- Whether a release happens at this level. -/
def fires (l : Level) : Bool :=
  l != none

/-- The name of a level. -/
def name : Level → String
  | none => "none"
  | patch => "patch"
  | minor => "minor"
  | major => "major"

/-- All levels, lowest first. -/
def all : List Level := [none, patch, minor, major]

/-- The level of a name. -/
def ofName? (s : String) : Option Level :=
  all.find? fun l => l.name == s

theorem ofName?_name (l : Level) : ofName? l.name = some l := by
  cases l <;> decide

example : greatest [patch, minor, none] = minor := by decide

end Level

end ReleasePlanner
