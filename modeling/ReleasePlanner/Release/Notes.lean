import ReleasePlanner.Commit.Parsed
import ReleasePlanner.Config.Basic

/-!
# Release notes

Notes list accepted commits in sections.  A section has a title, and its
commits are those whose type has a rule with that title.  Sections stand in
the order in which titles appear in the rules, and none is empty.  Breaking
commits are listed once more on their own, those of hidden types as well.
-/

namespace ReleasePlanner

/-- A titled group of commits. -/
structure Section where
  /-- The title. -/
  title : String
  /-- A shortcode in front of the title. -/
  emoji : Option String
  /-- The commits, oldest first. -/
  commits : List ParsedCommit
  deriving DecidableEq, Repr

/-- The title with the shortcode in front. -/
def Section.heading (s : Section) : String :=
  match s.emoji with
  | some e => e ++ " " ++ s.title
  | none => s.title

/-- The notes of a release. -/
structure ReleaseNotes where
  /-- The sections. -/
  sections : List Section
  /-- The breaking commits, oldest first. -/
  breaking : List ParsedCommit
  deriving DecidableEq, Repr

namespace ReleasePolicy

/-- The level a commit asks for.  A breaking commit asks for the highest whatever its type. -/
def levelOf (p : ReleasePolicy) (r : ParsedCommit) : Level :=
  if r.breaking then .major
  else ((r.kind?.bind p.rule?).map TypePolicy.level).getD .none

/-- The title under which a commit is listed, if it is. -/
def titleOf? (p : ReleasePolicy) (r : ParsedCommit) : Option String :=
  (r.kind?.bind p.rule?).bind TypePolicy.shownTitle?

end ReleasePolicy

namespace ReleaseNotes

/-- The titles of rules with their shortcodes, the first of each title.  `seen` are titles that
came before. -/
def headings (seen : List String) : List TypePolicy → List (String × Option String)
  | [] => []
  | r :: rs =>
    match r.shownTitle? with
    | none => headings seen rs
    | some title =>
      if seen.contains title then headings seen rs
      else (title, r.emoji) :: headings (title :: seen) rs

/-- The section of a title. -/
def sectionOf (p : ReleasePolicy) (commits : List ParsedCommit)
    (heading : String × Option String) : Section :=
  ⟨heading.1, heading.2, commits.filter fun r => p.titleOf? r == some heading.1⟩

/-- The notes of accepted commits. -/
def compose (p : ReleasePolicy) (commits : List ParsedCommit) : ReleaseNotes where
  sections := ((headings [] p.rules).map (sectionOf p commits)).filter fun s =>
    !s.commits.isEmpty
  breaking := commits.filter ParsedCommit.breaking

/-- Lists no commit. -/
def isEmpty (n : ReleaseNotes) : Bool :=
  n.sections.isEmpty && n.breaking.isEmpty

/-- The titles of the sections. -/
def titles (n : ReleaseNotes) : List String :=
  n.sections.map Section.title

/-- The section of a title. -/
def get? (n : ReleaseNotes) (title : String) : Option Section :=
  n.sections.find? fun s => s.title == title

end ReleaseNotes

/-! ## Decisions -/

/-- What a batch of accepted commits adds up to. -/
structure Decision where
  /-- The level of the release. -/
  level : Level
  /-- The notes of the release. -/
  notes : ReleaseNotes
  deriving DecidableEq, Repr

namespace Decision

/-- What accepted commits add up to. -/
def ofCommits (p : ReleasePolicy) (commits : List ParsedCommit) : Decision where
  level := Level.greatest (commits.map p.levelOf)
  notes := ReleaseNotes.compose p commits

/-- Whether there is a release at all. -/
def fires (d : Decision) : Bool :=
  d.level.fires

end Decision

end ReleasePlanner
