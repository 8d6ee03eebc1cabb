import ReleasePlanner.Date
import ReleasePlanner.Release.Notes
import ReleasePlanner.Text.Blank

/-!
# The changelog

Notes are written as a fragment of Markdown: a heading with version and date,
the sections, and the breaking changes.  The changelog is a title with the
fragments of all releases below it, newest first.
-/

namespace ReleasePlanner.Changelog

/-- The first line of a changelog. -/
def title : String := "# Changelog"

/-! ## Fragments -/

/-- A commit as an item of a list. -/
def entry (r : ParsedCommit) (text : String) : String :=
  match r.scope? with
  | some scope => "* **" ++ scope ++ ":** " ++ text ++ "\n"
  | none => "* " ++ text ++ "\n"

/-- A section of a fragment. -/
def renderSection (s : Section) : String :=
  "\n### " ++ s.heading ++ "\n\n" ++ String.join (s.commits.map fun r => entry r r.subject)

/-- The breaking changes of a fragment, nothing when there are none. -/
def renderBreaking (commits : List ParsedCommit) : String :=
  if commits.isEmpty then ""
  else
    "\n### BREAKING CHANGES\n\n"
      ++ String.join (commits.map fun r => entry r (r.breakingNote?.getD r.subject))

/-- The heading of a release. -/
def releaseHeading (v : Version) (d : Date) : String :=
  "## " ++ v.text ++ " (" ++ d.text ++ ")"

theorem toList_releaseHeading (v : Version) (d : Date) :
    (releaseHeading v d).toList
      = '#' :: '#' :: ' ' :: (v.chars ++ ' ' :: '(' :: (d.chars ++ [')'])) := by
  simp [releaseHeading, Version.text, Date.text]

/-- The fragment of a release. -/
def render (n : ReleaseNotes) (v : Version) (d : Date) : String :=
  releaseHeading v d ++ "\n" ++ String.join (n.sections.map renderSection)
    ++ renderBreaking n.breaking

/-- The heading is a line of its own. -/
theorem toList_render (n : ReleaseNotes) (v : Version) (d : Date) :
    (render n v d).toList = (releaseHeading v d).toList
      ++ '\n' :: ((n.sections.flatMap fun s => (renderSection s).toList)
        ++ (renderBreaking n.breaking).toList) := by
  simp [render, List.flatMap_map]

/-! ## The file -/

/-- What a changelog holds below its title.  A text that does not start with the title is kept as
a whole. -/
def body (existing : List Char) : List Char :=
  match Text.dropWord? title.toList existing with
  | some rest => rest.dropWhile (· == '\n')
  | none => existing

/-- The older fragments as they follow a new one. -/
def older (existing : List Char) : List Char :=
  if Text.allBlank (body existing) then []
  else '\n' :: '\n' :: Text.trimEnd (body existing)

/-- A changelog with a fragment put on top. -/
def prepend (existing fragment : String) : String :=
  String.ofList <|
    title.toList ++ '\n' :: '\n'
      :: (Text.trimEnd fragment.toList ++ older existing.toList ++ ['\n'])

end ReleasePlanner.Changelog
