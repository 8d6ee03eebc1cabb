import ReleasePlanner.Git.RefName

/-!
# Refspecs

What to push, and to which reference of the remote: `refs/heads/a:refs/heads/b`.
Without a colon the reference has the same name on both sides.  Nothing in
front of the colon removes the reference.  A plus sign in front lets it move to
a commit that does not follow the one it had.
-/

namespace ReleasePlanner.Git

/-- What to push where. -/
structure Refspec where
  /-- The revision to push.  Without one, the reference is removed. -/
  source : Option String
  /-- The reference of the remote. -/
  target : String
  /-- Whether the reference may move to any commit. -/
  isForced : Bool
  deriving DecidableEq, Repr

namespace Refspec

/-- The parts before and after the last colon, if there is one. -/
def splitAtLastColon? (cs : List Char) : Option (List Char × List Char) :=
  (Text.splitAtFirst? ':' cs.reverse).map fun (after, before) => (before.reverse, after.reverse)

/-- Reads a refspec.  The reference must have a full name without wildcards. -/
def parse? (text : String) : Option Refspec :=
  let isForced := text.toList.head? = some '+'
  let cs := if isForced then text.toList.drop 1 else text.toList
  let (source, target) := (splitAtLastColon? cs).getD (cs, cs)
  let target := String.ofList target
  if (RefName.after? "refs/" target).isSome && RefName.allows target then
    some ⟨if source.isEmpty then none else some (String.ofList source), target, isForced⟩
  else none

example : parse? "+refs/heads/a:refs/heads/b" = some ⟨some "refs/heads/a", "refs/heads/b", true⟩
    ∧ parse? ":refs/heads/b" = some ⟨none, "refs/heads/b", false⟩ ∧ parse? "garbage" = none := by
  decide +kernel

end Refspec

end ReleasePlanner.Git
