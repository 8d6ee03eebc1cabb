/-!
# Hook points

A release runs commands of the user at three points: before anything changes,
between the changelog and the release commit, and after the tag is pushed.
-/

namespace ReleasePlanner

/-- A point of a release where a command of the user may run. -/
inductive HookPoint where
  | verifyConditions
  | prepare
  | publish
  deriving DecidableEq, Repr

namespace HookPoint

/-- The name of a point. -/
def name : HookPoint → String
  | verifyConditions => "verify-conditions"
  | prepare => "prepare"
  | publish => "publish"

/-- All points, in the order a release reaches them. -/
def all : List HookPoint := [verifyConditions, prepare, publish]

/-- The point of a name. -/
def ofName? (s : String) : Option HookPoint :=
  all.find? fun p => p.name == s

end HookPoint

end ReleasePlanner
