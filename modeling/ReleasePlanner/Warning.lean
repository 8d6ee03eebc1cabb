import ReleasePlanner.Text.Decimal

/-!
# Warnings

What a release run tells the user without stopping.
-/

namespace ReleasePlanner

/-- A condition that is reported and does not stop a run. -/
inductive Warning where
  /-- Nothing was committed since the last release. -/
  | noNewCommits (lastTag : Option String) (head : String)
  /-- Some commits do not follow the lint policy. -/
  | rejectedCommits (count : Nat)
  /-- The remote could not be asked for news. -/
  | fetchFailed (remote reason : String)
  /-- The release stands, and its merge does not. -/
  | syncFailed (source target reason : String)
  deriving DecidableEq, Repr

/-- The first seven bytes of a commit id. -/
def shortId (id : String) : String :=
  if 7 < id.utf8ByteSize then String.ofList (firstBytes 7 id.toList) else id
where
  /-- The characters that lie within the first `n` bytes. -/
  firstBytes : Nat → List Char → List Char
    | _, [] => []
    | n, c :: cs => if c.utf8Size ≤ n then c :: firstBytes (n - c.utf8Size) cs else []

namespace Warning

/-- The words for a warning. -/
def message : Warning → String
  | noNewCommits (some tag) head =>
    "No new commits since tag '" ++ tag ++ "' (current: " ++ shortId head ++ ")"
  | noNewCommits none head => "No commits found (current: " ++ shortId head ++ ")"
  | rejectedCommits n =>
    Text.decimalString n
      ++ " commit(s) do not follow the commit convention and are left out of the release"
  | fetchFailed remote reason =>
    "Could not fetch from remote '" ++ remote ++ "': " ++ reason ++ ". Using local data"
  | syncFailed source target reason =>
    "Release published, but merging '" ++ source ++ "' into '" ++ target ++ "' failed: " ++ reason

/-- The command that mends the condition, if there is one. -/
def advice? : Warning → Option String
  | syncFailed source target _ =>
    some ("git checkout " ++ target ++ " && git merge " ++ source ++ " && git push")
  | _ => none

end Warning

end ReleasePlanner
