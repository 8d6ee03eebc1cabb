import ReleasePlanner.Text.Lines

/-!
# Names of references

A reference has a full name with parts between slashes, `refs/heads/release`.
Branches, tags and the branches that are known of a remote have their own
leads.

Not every text can be a name.  A part must not be empty, start with a full
stop or end in `.lock`, and some characters and pairs of characters must not
occur.  A name must also not lead through another name, as a file cannot be in
a file.
-/

namespace ReleasePlanner.Git.RefName

/-- The reference of a branch. -/
def branch (name : String) : String :=
  "refs/heads/" ++ name

/-- The reference of a tag. -/
def tag (name : String) : String :=
  "refs/tags/" ++ name

/-- The reference of what is known of a branch of a remote. -/
def tracking (remote branch : String) : String :=
  "refs/remotes/" ++ remote ++ "/" ++ branch

/-- The rest of a name after a lead, if it starts with it. -/
def after? (lead name : String) : Option String :=
  if lead.toList.isPrefixOf name.toList then some (String.ofList (name.toList.drop lead.length))
  else none

/-- The branch of a reference, if it is one of a branch. -/
def branchOf? (name : String) : Option String :=
  after? "refs/heads/" name

/-- The tag of a reference, if it is one of a tag. -/
def tagOf? (name : String) : Option String :=
  after? "refs/tags/" name

/-! ## Which names are allowed -/

/-- Whether a character must not occur in a name. -/
def forbids (c : Char) : Bool :=
  c.toNat ≤ 32 || ['~', '^', ':', '?', '[', '*', '\\'].contains c

/-- Whether two characters occur one after the other. -/
def hasPair (a b : Char) : List Char → Bool
  | c :: d :: cs => (c == a && d == b) || hasPair a b (d :: cs)
  | _ => false

/-- Whether a text can be a part of a name. -/
def allowsPart (part : List Char) : Bool :=
  !part.isEmpty && part.head? != some '.' && !part.any forbids && !hasPair '.' '.' part
    && !hasPair '@' '\x7b' part && !List.isSuffixOf ['.', 'l', 'o', 'c', 'k'] part

/-- Whether a text can be the full name of a reference. -/
def allows (name : String) : Bool :=
  let parts := Text.splitOn '/' name.toList
  2 ≤ parts.length && parts.all allowsPart && name.toList.getLast? != some '.'

/-- Whether one name leads through the other. -/
def clashes (a b : String) : Bool :=
  (a.toList ++ ['/']).isPrefixOf b.toList || (b.toList ++ ['/']).isPrefixOf a.toList

example : allows "refs/tags/v1.0.0" = true ∧ allows "refs/tags/a..b" = false
    ∧ allows "refs/tags/" = false ∧ allows "refs/tags/x.lock" = false := by decide +kernel

end ReleasePlanner.Git.RefName
