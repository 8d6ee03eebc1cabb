import ReleasePlanner.Proofs.Changelog.Title
import ReleasePlanner.Proofs.Release.OwnLevel
import ReleasePlanner.Proofs.Release.Sections

/-!
# The changelog of successive releases

Releases that are written one after the other into a changelog that was not
there stand below its title, newest first, each as it was written up to blanks
at its end (`Changelog.tell`).  One more fragment keeps this form
(`Changelog.tells_putOnTop`).

A line that starts as the heading of a release is one.  The other lines of a
fragment are empty, or they are headings of a lower level, or entries behind a
mark, and what an entry quotes has no line feed (`Changelog.lined_below`).  So
the headings can be read off the file (`Changelog.releases_told`).
-/

namespace ReleasePlanner

open Text (Lined lines trimEnd isBlank)

/-! ## Notes of messages -/

/-- The notes list commits that were read from messages, under titles and shortcodes without line
feeds. -/
structure ReleaseNotes.OfMessages (n : ReleaseNotes) : Prop where
  listed : ∀ s ∈ n.sections, ∀ r ∈ s.commits, ∃ message, r = Message.parse message
  breaking : ∀ r ∈ n.breaking, ∃ message, r = Message.parse message
  titles : ∀ s ∈ n.sections, '\n' ∉ s.title.toList
  emojis : ∀ s ∈ n.sections, ∀ emoji ∈ s.emoji, '\n' ∉ emoji.toList

/-- Notes that are composed from messages are of this kind when the rules are. -/
theorem ReleaseNotes.ofMessages_compose {p : ReleasePolicy} {commits : List ParsedCommit}
    (parsed : ∀ r ∈ commits, ∃ message, r = Message.parse message)
    (titles : ∀ rule ∈ p.rules, ∀ title ∈ rule.title, '\n' ∉ title.toList)
    (emojis : ∀ rule ∈ p.rules, ∀ emoji ∈ rule.emoji, '\n' ∉ emoji.toList) :
    (compose p commits).OfMessages where
  listed s hs r hr := by
    rw [commits_of_mem_sections hs] at hr
    exact parsed r (List.mem_filter.mp hr).1
  breaking r hr := parsed r (List.mem_filter.mp hr).1
  titles s hs := by
    obtain ⟨heading, hheading, rfl⟩ := List.mem_map.mp (List.mem_filter.mp hs).1
    obtain ⟨rule, ⟨before, after, hrules, shown, -⟩, -⟩ := isFirst_of_mem_headings hheading
    exact titles rule (by simp [hrules]) _ shown.2
  emojis s hs emoji hemoji := by
    obtain ⟨heading, hheading, rfl⟩ := List.mem_map.mp (List.mem_filter.mp hs).1
    obtain ⟨rule, ⟨before, after, hrules, -, -⟩, same⟩ := isFirst_of_mem_headings hheading
    exact emojis rule (by simp [hrules]) emoji (same ▸ hemoji)

namespace Changelog

/-- A release as a changelog tells it. -/
structure Release where
  /-- What it lists. -/
  notes : ReleaseNotes
  /-- Its version. -/
  version : Version
  /-- Its date. -/
  date : Date

/-- The fragment of a release. -/
def Release.fragment (r : Release) : String :=
  render r.notes r.version r.date

/-- The heading of a release. -/
def Release.heading (r : Release) : String :=
  releaseHeading r.version r.date

/-! ## The form of the file -/

/-- The title and the fragments below it, each with an empty line above. -/
def tell (fragments : List (List Char)) : List Char :=
  title.toList ++ '\n' :: fragments.flatMap fun fragment => '\n' :: (trimEnd fragment ++ ['\n'])

/-- The fragment starts with something. -/
def Filled (fragment : List Char) : Prop :=
  ∃ c rest, trimEnd fragment = c :: rest ∧ isBlank c = false

/-- The file tells some fragments and nothing else.  A file that is not there tells none. -/
def Tells : Option String → List (List Char) → Prop
  | none, fragments => fragments = []
  | some text, fragments => text.toList = tell fragments

variable {fragments : List (List Char)} {text : Option String} {n : ReleaseNotes}
  {releases : List Release} {r : Release}

/-- Fragments one below the other start with something and do not end in a blank, but for the last
line feed. -/
theorem exists_trimmed (nonempty : fragments ≠ []) (filled : ∀ f ∈ fragments, Filled f) :
    ∃ block, Filled block ∧ trimEnd block = block ∧
      (fragments.flatMap fun f => '\n' :: (trimEnd f ++ ['\n'])) = '\n' :: (block ++ ['\n']) := by
  induction fragments with
  | nil => exact absurd rfl nonempty
  | cons f fragments ih =>
      obtain ⟨⟨c, rest, starts, nonblank⟩, others⟩ := List.forall_mem_cons.mp filled
      by_cases single : fragments = []
      · refine ⟨trimEnd f, ⟨c, rest, ?_, nonblank⟩, Text.trimEnd_trimEnd f, by simp [single]⟩
        rw [Text.trimEnd_trimEnd, starts]
      · obtain ⟨block, ⟨d, more, hblock, -⟩, trimmed, hrest⟩ := ih single others
        have hne : block ≠ [] := by
          rw [trimmed] at hblock
          rw [hblock]
          exact List.cons_ne_nil d more
        have whole : trimEnd (trimEnd f ++ '\n' :: '\n' :: block)
            = trimEnd f ++ '\n' :: '\n' :: block := by
          refine Text.trimEnd_eq_self fun last hlast => ?_
          have same : (trimEnd f ++ '\n' :: '\n' :: block).getLast? = block.getLast? := by
            rw [List.getLast?_append_of_ne_nil _ (List.cons_ne_nil _ _),
              List.getLast?_cons_of_ne_nil (List.cons_ne_nil _ _),
              List.getLast?_cons_of_ne_nil hne]
          rw [same, ← trimmed] at hlast
          exact Text.isBlank_of_getLast?_trimEnd hlast
        refine ⟨_, ⟨c, rest ++ '\n' :: '\n' :: block, ?_, nonblank⟩, whole, ?_⟩
        · rw [whole, starts]
          rfl
        · rw [List.flatMap_cons, hrest]
          simp

theorem body_tell (fragments : List (List Char)) :
    body (tell fragments)
      = (fragments.flatMap fun f => '\n' :: (trimEnd f ++ ['\n'])).dropWhile (· == '\n') := by
  rw [body, tell, Text.dropWord?_append]
  rfl

/-- A fragment that is put on top stands above the others. -/
theorem onTop_body_tell (filled : ∀ f ∈ fragments, Filled f) (fragment : List Char) :
    onTop fragment (body (tell fragments)) = tell (fragment :: fragments) := by
  rw [body_tell, tell, List.flatMap_cons]
  by_cases none_before : fragments = []
  · rw [none_before]
    simp [onTop, Text.allBlank]
  · obtain ⟨block, ⟨c, rest, starts, nonblank⟩, trimmed, hblock⟩ :=
      exists_trimmed none_before filled
    have first : c ≠ '\n' := by
      rintro rfl
      exact absurd nonblank (by decide)
    rw [trimmed] at starts
    have below : ('\n' :: (block ++ ['\n'])).dropWhile (· == '\n') = block ++ ['\n'] := by
      rw [starts]
      simp [first]
    have shown : Text.allBlank (block ++ ['\n']) = false := by
      simp [starts, Text.allBlank, nonblank]
    have kept : trimEnd (block ++ ['\n']) = block := by
      rw [Text.trimEnd_concat, if_pos (by decide), trimmed]
    rw [hblock, below, onTop, shown, kept]
    simp

/-- One more release in a file. -/
theorem tells_putOnTop (filled : ∀ f ∈ fragments, Filled f) (told : Tells text fragments)
    (fragment : String) : Tells (putOnTop text fragment) (fragment.toList :: fragments) := by
  have before : body (text.getD "").toList = body (tell fragments) := by
    cases text with
    | none =>
        obtain rfl : fragments = [] := told
        rfl
    | some text => exact congrArg body told
  show (prepend (text.getD "") fragment).toList = tell (fragment.toList :: fragments)
  rw [toList_prepend, before, onTop_body_tell filled]

/-- Any number of releases in a file. -/
theorem tells_foldl (filled : ∀ f ∈ fragments, Filled f) (told : Tells text fragments)
    {added : List String} (new : ∀ f ∈ added, Filled f.toList) :
    Tells (added.foldl putOnTop text) ((added.map String.toList).reverse ++ fragments) := by
  induction added generalizing text fragments with
  | nil => exact told
  | cons fragment added ih =>
      obtain ⟨hfragment, hadded⟩ := List.forall_mem_cons.mp new
      have next := ih (List.forall_mem_cons.mpr ⟨hfragment, filled⟩)
        (tells_putOnTop filled told fragment) hadded
      rwa [List.map_cons, List.reverse_cons, List.append_assoc, List.singleton_append]

/-! ## The lines of a fragment -/

/-- The line starts as the heading of a release does. -/
def opensRelease (line : List Char) : Bool :=
  ['#', '#', ' '].isPrefixOf line

/-- The line is no heading of a release. -/
def Quiet (line : List Char) : Prop :=
  opensRelease line = false

theorem Quiet.of_isPrefix {front line : List Char} (starts : front <+: line) (h : Quiet line) :
    Quiet front := by
  rw [Quiet, opensRelease, ← Bool.not_eq_true, List.isPrefixOf_iff_prefix] at h ⊢
  exact fun opens => h (opens.trans starts)

theorem filter_quiet {text : List Char} (h : Lined Quiet text) :
    (lines text).filter opensRelease = [] := by
  refine List.filter_eq_nil_iff.mpr fun line hline => ?_
  obtain ⟨raw, quiet, rfl⟩ := h.exists_of_mem_lines hline
  rw [quiet.of_isPrefix (Text.dropReturn_isPrefix raw)]
  exact Bool.false_ne_true

/-- A list of entries below its heading. -/
theorem lined_list {heading : List Char} (hheading : '\n' ∉ heading) {commits : List ParsedCommit}
    {text : ParsedCommit → String}
    (hcommits : ∀ r ∈ commits, r.OneLine ∧ '\n' ∉ (text r).toList) :
    Lined Quiet ('\n' :: ('#' :: '#' :: '#' :: ' ' :: heading)
      ++ '\n' :: '\n' :: commits.flatMap fun r => (entry r (text r)).toList) := by
  have empty : Quiet [] := rfl
  have entries : Lined Quiet (commits.flatMap fun r => (entry r (text r)).toList) :=
    .flatMap fun r hr => lined_entry (fun _ => rfl) (hcommits r hr).1 (hcommits r hr).2
  have line : '\n' ∉ '#' :: '#' :: '#' :: ' ' :: heading := by simpa using hheading
  show Lined Quiet ([] ++ '\n' :: (('#' :: '#' :: '#' :: ' ' :: heading)
    ++ '\n' :: ([] ++ '\n' :: commits.flatMap fun r => (entry r (text r)).toList)))
  exact .cons List.not_mem_nil empty (.cons line rfl (.cons List.not_mem_nil empty entries))

theorem newline_notMem_heading (h : n.OfMessages) {s : Section} (hs : s ∈ n.sections) :
    '\n' ∉ s.heading.toList := by
  rw [Section.heading]
  cases hemoji : s.emoji with
  | none => exact h.titles s hs
  | some emoji => simp [h.titles s hs, h.emojis s hs emoji hemoji]

/-- What stands below the heading of a release. -/
def belowHeading (n : ReleaseNotes) : List Char :=
  (n.sections.flatMap fun s => (renderSection s).toList) ++ (renderBreaking n.breaking).toList

/-- No line below the heading of a release is another one. -/
theorem lined_below (h : n.OfMessages) : Lined Quiet (belowHeading n) := by
  have single : ∀ {r : ParsedCommit}, (∃ message, r = Message.parse message) → r.OneLine := by
    rintro r ⟨message, rfl⟩
    exact Message.oneLine_parse message
  refine .append (.flatMap fun s hs => ?_) ?_
  · have hlist : (renderSection s).toList
        = '\n' :: ('#' :: '#' :: '#' :: ' ' :: s.heading.toList)
          ++ '\n' :: '\n' :: s.commits.flatMap fun r => (entry r r.subject).toList := by
      simp [renderSection, List.flatMap_map]
    rw [hlist]
    refine lined_list (newline_notMem_heading h hs) fun r hr => ?_
    have line := single (h.listed s hs r hr)
    exact ⟨line, line.subject⟩
  · rw [renderBreaking]
    split
    next => exact .nil
    next =>
      have hlist : ("\n### BREAKING CHANGES\n\n" ++ String.join
            (n.breaking.map fun r => entry r (r.breakingNote?.getD r.subject))).toList
          = '\n' :: ('#' :: '#' :: '#' :: ' ' :: "BREAKING CHANGES".toList)
            ++ '\n' :: '\n' :: n.breaking.flatMap fun r =>
              (entry r (r.breakingNote?.getD r.subject)).toList := by
        simp [List.flatMap_map]
      rw [hlist]
      refine lined_list (by decide) fun r hr => ?_
      have line := single (h.breaking r hr)
      exact ⟨line, line.shown⟩

/-! ## The lines of the file -/

namespace Release

theorem toList_fragment (r : Release) :
    r.fragment.toList = r.heading.toList ++ '\n' :: belowHeading r.notes :=
  toList_render r.notes r.version r.date

theorem trimEnd_heading (r : Release) : trimEnd r.heading.toList = r.heading.toList := by
  have ends : r.heading.toList
      = ('#' :: '#' :: ' ' :: (r.version.chars ++ ' ' :: '(' :: r.date.chars)) ++ [')'] := by
    rw [heading, toList_releaseHeading]
    simp
  refine Text.trimEnd_eq_self fun c hc => ?_
  rw [ends, List.getLast?_concat] at hc
  cases hc
  decide

theorem exists_heading_eq (r : Release) : ∃ rest, r.heading.toList = '#' :: '#' :: ' ' :: rest :=
  ⟨_, toList_releaseHeading r.version r.date⟩

theorem heading_ne_nil (r : Release) : r.heading.toList ≠ [] := by
  obtain ⟨rest, hheading⟩ := r.exists_heading_eq
  rw [hheading]
  exact List.cons_ne_nil _ _

theorem filled_fragment (r : Release) : Filled r.fragment.toList := by
  obtain ⟨rest, hheading⟩ := r.exists_heading_eq
  rw [Filled, toList_fragment, Text.trimEnd_append r.trimEnd_heading, hheading]
  exact ⟨'#', _, rfl, by decide⟩

/-- The lines of a trimmed fragment that are headings are those of the heading. -/
theorem filter_lines_fragment (told : r.notes.OfMessages) :
    (lines (trimEnd r.fragment.toList ++ ['\n'])).filter opensRelease
      = (lines r.heading.toList).filter opensRelease := by
  have ended := Text.lines_concat_newline r.heading_ne_nil r.trimEnd_heading
  have kept := Text.trimEnd_isPrefix ('\n' :: belowHeading r.notes)
  rw [toList_fragment, Text.trimEnd_append r.trimEnd_heading]
  cases hrest : trimEnd ('\n' :: belowHeading r.notes) with
  | nil => rw [List.append_nil, ended]
  | cons c rest =>
      rw [hrest, List.cons_prefix_cons] at kept
      obtain ⟨rfl, starts⟩ := kept
      have quiet := (lined_below told).of_isPrefix rfl Quiet.of_isPrefix starts
      have split : r.heading.toList ++ '\n' :: rest ++ ['\n']
          = (r.heading.toList ++ ['\n']) ++ (rest ++ ['\n']) := by simp
      rw [split, (Text.lined_concat _).lines_append, List.filter_append, filter_quiet quiet,
        List.append_nil, ended]

/-- The heading of a version is one line when its identifier is. -/
theorem filter_lines_heading (single : ∀ p ∈ r.version.pre, '\n' ∉ p.identifier.toList) :
    (lines r.heading.toList).filter opensRelease = [r.heading.toList] := by
  obtain ⟨rest, hheading⟩ := r.exists_heading_eq
  have version : '\n' ∉ r.version.chars :=
    Version.notMem_chars_of_identifier (by decide) (by decide) (by decide) single
  have unbroken : '\n' ∉ r.heading.toList := by
    simp [heading, toList_releaseHeading, version, r.date.newline_notMem_chars]
  have line : lines r.heading.toList = [r.heading.toList] := by
    rw [lines, Text.splitOn_eq_singleton unbroken, hheading]
    rfl
  have opens : opensRelease r.heading.toList = true := by
    rw [hheading]
    rfl
  rw [line, List.filter_cons_of_pos opens, List.filter_nil]

end Release

/-- The lines that start as headings of releases do stand in the headings of the fragments. -/
theorem filter_lines_tell (told : ∀ r ∈ releases, r.notes.OfMessages) :
    (lines (tell (releases.map fun r => r.fragment.toList))).filter opensRelease
      = releases.flatMap fun r => (lines r.heading.toList).filter opensRelease := by
  have quiet : opensRelease (Text.dropReturn title.toList) = false := by decide
  have blocks := Text.lines_flatMap (f := fun r : Release => '\n' :: trimEnd r.fragment.toList)
    releases
  simp only [List.cons_append] at blocks
  rw [tell, List.flatMap_map, Text.lines_append_newline newline_notMem_title,
    List.filter_cons_of_neg (by rw [quiet]; exact Bool.false_ne_true), blocks,
    List.filter_flatMap]
  refine List.flatMap_congr fun r hr => ?_
  have below : lines ('\n' :: (trimEnd r.fragment.toList ++ ['\n']))
      = [] :: lines (trimEnd r.fragment.toList ++ ['\n']) :=
    Text.lines_append_newline List.not_mem_nil _
  rw [below, List.filter_cons_of_neg (by decide), r.filter_lines_fragment (told r hr)]

/-- Releases are written one after the other into a changelog that is not there yet.  Every one can
be written.  The file holds the title and below it the fragments of all releases, newest first, up
to blanks at their ends.  The lines in it that start as headings of releases stand in the headings
of these releases, in this order, and they are the headings themselves when no identifier of a
version has a line feed. -/
theorem releases_told {t : FileTree} {path : String} {place : Place}
    (missing : Holds t path place none) (nonempty : releases ≠ [])
    (told : ∀ r ∈ releases, r.notes.OfMessages) :
    ∃ after text, (releases.map Release.fragment).foldlM (fun t fragment =>
        update t path fragment) t = .ok after ∧
      after.node? place = some (.file text) ∧
      text.toList = title.toList ++ '\n' :: (releases.reverse.flatMap fun r =>
        '\n' :: (trimEnd r.fragment.toList ++ ['\n'])) ∧
      (lines text.toList).filter opensRelease
        = releases.reverse.flatMap (fun r => (lines r.heading.toList).filter opensRelease) ∧
      ((∀ r ∈ releases, ∀ p ∈ r.version.pre, '\n' ∉ p.identifier.toList) →
        (lines text.toList).filter opensRelease
          = releases.reverse.map fun r => r.heading.toList) := by
  obtain ⟨after, run, hafter⟩ := missing.exists_updates (releases.map Release.fragment)
  have filled : ∀ f ∈ releases.map Release.fragment, Filled f.toList := by
    intro f hf
    obtain ⟨r, -, rfl⟩ := List.mem_map.mp hf
    exact r.filled_fragment
  have start : Tells none [] := rfl
  have tells := tells_foldl (fun _ hf => absurd hf List.not_mem_nil) start filled
  rw [List.append_nil, List.map_map, ← List.map_reverse] at tells
  cases hend : (releases.map Release.fragment).foldl putOnTop none with
  | none =>
      rw [hend] at tells
      exact absurd (by simpa [Tells] using tells) nonempty
  | some text =>
      rw [hend] at hafter tells
      have reversed : ∀ r ∈ releases.reverse, r.notes.OfMessages := fun r hr =>
        told r (List.mem_reverse.mp hr)
      have hlines := filter_lines_tell reversed
      have htext : text.toList = tell (releases.reverse.map fun r => r.fragment.toList) := tells
      refine ⟨after, text, run, hafter.node_eq, ?_, ?_, fun single => ?_⟩
      · rw [htext, tell, List.flatMap_map]
      · rw [htext, hlines]
      · rw [htext, hlines, List.map_eq_flatMap]
        refine List.flatMap_congr fun r hr => ?_
        exact Release.filter_lines_heading (single r (List.mem_reverse.mp hr))

/-- A first release with a breaking change, whose subject looks like a heading, and a correction. -/
def sampleReleases : List Release :=
  [⟨.compose .standard [Message.parse "feat(api)!: ## 9.9.9"], .stable 1 0 0, ⟨2026, 1, 9⟩⟩,
    ⟨.compose .standard [Message.parse "fix: Handle nulls."], ⟨1, 0, 1, some ⟨"rc", 1⟩⟩,
      ⟨2026, 1, 10⟩⟩]

/-- Two releases are told by two headings. -/
theorem sample_releases_told :
    Holds .empty "CHANGELOG.md" ["CHANGELOG.md"] none ∧
      ∃ after text, (sampleReleases.map Release.fragment).foldlM (fun t fragment =>
          update t "CHANGELOG.md" fragment) .empty = .ok after ∧
        after.node? ["CHANGELOG.md"] = some (.file text) ∧
        (lines text.toList).filter opensRelease
          = ["## 1.0.1-rc.1 (2026-01-10)".toList, "## 1.0.0 (2026-01-09)".toList] := by
  have missing : Holds .empty "CHANGELOG.md" ["CHANGELOG.md"] none :=
    ⟨locate_standard _, rfl, rfl⟩
  have composed : ∀ message, (ReleaseNotes.compose .standard [Message.parse message]).OfMessages :=
    fun message => ReleaseNotes.ofMessages_compose
      (fun r hr => ⟨message, List.mem_singleton.mp hr⟩) (by decide) (by decide)
  have told : ∀ r ∈ sampleReleases, r.notes.OfMessages :=
    List.forall_mem_cons.mpr ⟨composed _, List.forall_mem_cons.mpr ⟨composed _, by simp⟩⟩
  have single : ∀ r ∈ sampleReleases, ∀ p ∈ r.version.pre, '\n' ∉ p.identifier.toList :=
    List.forall_mem_cons.mpr ⟨by decide, List.forall_mem_cons.mpr ⟨by decide, by simp⟩⟩
  obtain ⟨after, text, run, there, -, -, headings⟩ :=
    releases_told missing (List.cons_ne_nil _ _) told
  exact ⟨missing, after, text, run, there, (headings single).trans (by decide +kernel)⟩

end Changelog

end ReleasePlanner
