import ReleasePlanner.Changelog
import ReleasePlanner.Proofs.Commit.Header
import ReleasePlanner.Proofs.Commit.Layout
import ReleasePlanner.Proofs.Release.Notes
import ReleasePlanner.Proofs.Text.Line
import ReleasePlanner.Proofs.Version.Written

/-!
# Release commits ask for nothing

As long as the template of the message is the one that is there when nothing is
configured, the message of a release commit reads as a commit of the release
type without a footer (`readsAsRelease_commitMessage`).  When nothing at all is
configured, it asks for no release (`levelOf_commitMessage`).

Its notes quote other commits, and a footer among them would count.  But the
last paragraph of the notes is made of entries, or it is the heading of the
release (`Changelog.closed_render`).  An entry quotes texts of one line only
(`OneLine`) behind a mark of Markdown, and no line that starts with such a mark
is a trailer.
-/

namespace ReleasePlanner

open Message (Unlettered)

/-! ## What notes quote -/

/-- The texts that notes quote from the commit stand on one line. -/
structure ParsedCommit.OneLine (r : ParsedCommit) : Prop where
  subject : '\n' ∉ r.subject.toList
  scope : ∀ s, r.scope? = some s → '\n' ∉ s.toList
  note : ∀ note, r.breakingNote? = some note → '\n' ∉ note.toList

theorem newline_notMem_footerNote? {footer note : String} (h : footerNote? footer = some note) :
    '\n' ∉ note.toList := by
  obtain ⟨behind, hfound, rfl⟩ := Option.map_eq_some_iff.mp h
  obtain ⟨line, hline, hbehind⟩ := List.exists_of_findSome?_eq_some hfound
  obtain ⟨token, -, hdrop⟩ := List.exists_of_findSome?_eq_some hbehind
  rw [String.toList_ofList]
  intro hc
  have inside : '\n' ∈ line := by
    rw [Text.dropWord?_eq_some.mp hdrop]
    exact List.mem_append_right _ (Text.trim_subset _ hc)
  exact Text.newline_notMem_of_mem_lines hline inside

namespace Message

/-- What is read from a header of one line stands on one line. -/
theorem oneLine_ofLines {header : List Char} {rest : List (List Char)} (h : '\n' ∉ header) :
    (ofLines header rest).OneLine := by
  have hparts : ∀ parts, (Header.read? header).getD ⟨[], none, false, header⟩ = parts →
      '\n' ∉ parts.subject ∧ ∀ s, parts.scope = some s → '\n' ∉ s := by
    rintro parts rfl
    cases hread : Header.read? header with
    | none =>
        refine ⟨h, ?_⟩
        rintro _ ⟨⟩
    | some parts =>
        obtain ⟨hsubject, hscope⟩ := Header.subset_of_read? hread
        exact ⟨fun hc => h (hsubject hc), fun s hs hc => h (hscope s hs hc)⟩
  obtain ⟨hsubject, hscope⟩ := hparts _ rfl
  have subject : '\n' ∉ (ofLines header rest).subject.toList := by
    rw [ofLines, String.toList_ofList]
    exact hsubject
  refine ⟨subject, ?_, ?_⟩
  · intro s hs
    obtain ⟨raw, hraw, rfl⟩ := Option.map_eq_some_iff.mp (Option.eq_some_of_filter_eq_some hs)
    rw [String.toList_ofList]
    exact hscope raw hraw
  · intro note hnote
    rw [ParsedCommit.breakingNote?] at hnote
    split at hnote
    next =>
      rw [Option.some.injEq] at hnote
      cases hfound : (ofLines header rest).footer.bind footerNote? with
      | none =>
          rw [hfound, Option.getD_none] at hnote
          rwa [← hnote]
      | some found =>
          rw [hfound, Option.getD_some] at hnote
          obtain ⟨footer, -, hfooter⟩ := Option.bind_eq_some_iff.mp hfound
          rw [← hnote]
          exact newline_notMem_footerNote? hfooter
    next => cases hnote

theorem oneLine_parse (message : String) : (parse message).OneLine := by
  rw [parse_eq_ofLines]
  exact oneLine_ofLines (newline_notMem_header _)

end Message

/-- What the notes say of a breaking change stands on one line. -/
theorem ParsedCommit.OneLine.shown {r : ParsedCommit} (h : r.OneLine) :
    '\n' ∉ (r.breakingNote?.getD r.subject).toList := by
  cases hnote : r.breakingNote? with
  | none => exact h.subject
  | some note => exact h.note note hnote

/-! ## How notes end -/

theorem Date.newline_notMem_chars (d : Date) : '\n' ∉ d.chars := by
  have hpadded : ∀ width n, '\n' ∉ Text.padZeros width (Text.decimal n) := by
    intro width n
    rw [Text.padZeros, List.mem_append, not_or]
    refine ⟨fun h => ?_, Text.notMem_decimal (by decide)⟩
    exact absurd (List.eq_of_mem_replicate h) (by decide)
  have hyear : '\n' ∉ yearChars d.year := by
    simp only [yearChars]
    split
    next => simp [hpadded]
    next =>
      split
      next => simp [hpadded]
      next => exact hpadded _ _
  simp [chars, hyear, hpadded]

namespace Message

open Text (Lined)

variable {text : List Char}

/-- A blank line and barred lines below it. -/
theorem closed_lines (h : Lined Barred text) (nonempty : text ≠ []) :
    Closed (lines ('\n' :: text)) := by
  have hlines : lines ('\n' :: text) = [] :: lines text :=
    congrArg (List.map Text.trimEnd) (Text.lines_append_newline List.not_mem_nil text)
  refine ⟨[], lines text, hlines, ?_, fun l hl => ?_⟩
  · exact mt List.map_eq_nil_iff.mp (h.lines_ne_nil nonempty)
  · obtain ⟨line, hline, rfl⟩ := List.mem_map.mp hl
    obtain ⟨raw, barred, rfl⟩ := h.exists_of_mem_lines hline
    rw [Text.trimEnd_dropReturn]
    exact barred.trimEnd

/-- Lines stay as they end whatever stands above them. -/
theorem closed_lines_below (h : Closed (lines text)) (above : List Char) :
    Closed (lines (above ++ '\n' :: text)) := by
  have hlines : lines (above ++ '\n' :: text) = lines (above ++ ['\n']) ++ lines text := by
    rw [lines, lines, lines, ← List.map_append, ← (Text.lined_concat above).lines_append,
      List.append_assoc]
    rfl
  rw [hlines]
  exact h.below _

end Message

namespace Changelog

open Message (Barred Closed)
open Text (Lined)

variable {r : ParsedCommit} {n : ReleaseNotes}

/-- An entry is one line behind a mark of Markdown. -/
theorem lined_entry {P : List Char → Prop} (marked : ∀ line, P ('*' :: line)) (hr : r.OneLine)
    {text : String} (htext : '\n' ∉ text.toList) : Lined P (entry r text).toList := by
  cases hscope : r.scope? with
  | none =>
      have hlist : (entry r text).toList = ('*' :: ' ' :: text.toList) ++ '\n' :: [] := by
        simp [entry, hscope]
      rw [hlist]
      exact .cons (by simpa using htext) (marked _) .nil
  | some scope =>
      have hlist : (entry r text).toList
          = ('*' :: ' ' :: '*' :: '*'
              :: (scope.toList ++ ':' :: '*' :: '*' :: ' ' :: text.toList)) ++ '\n' :: [] := by
        simp [entry, hscope]
      have hscope' : '\n' ∉ scope.toList := hr.scope scope hscope
      rw [hlist]
      exact .cons (by simp [hscope', htext]) (marked _) .nil

theorem toList_entry_ne_nil (r : ParsedCommit) (text : String) : (entry r text).toList ≠ [] := by
  cases hscope : r.scope? with
  | none => simp [entry, hscope]
  | some scope => simp [entry, hscope]

/-- Whatever the heading of a list and the lines above it are, the entries stand below a blank
line. -/
theorem closed_list {heading : String} {commits : List ParsedCommit} {text : ParsedCommit → String}
    (nonempty : commits ≠ []) (hcommits : ∀ r ∈ commits, r.OneLine ∧ '\n' ∉ (text r).toList)
    (above : List Char) :
    Closed (Message.lines (above
      ++ (heading ++ "\n\n" ++ String.join (commits.map fun r => entry r (text r))).toList)) := by
  have hlist : above
        ++ (heading ++ "\n\n" ++ String.join (commits.map fun r => entry r (text r))).toList
      = (above ++ heading.toList)
        ++ '\n' :: '\n' :: commits.flatMap fun r => (entry r (text r)).toList := by
    simp [List.flatMap_map]
  have hentries : Lined Barred (commits.flatMap fun r => (entry r (text r)).toList) :=
    .flatMap fun r hr => lined_entry (fun line => ⟨'*', rfl, by decide, by decide⟩)
      (hcommits r hr).1 (hcommits r hr).2
  have filled : (commits.flatMap fun r => (entry r (text r)).toList) ≠ [] := by
    obtain ⟨r, hr⟩ := List.exists_mem_of_ne_nil commits nonempty
    exact fun h => toList_entry_ne_nil r (text r) (List.flatMap_eq_nil_iff.mp h r hr)
  rw [hlist]
  exact Message.closed_lines_below (Message.closed_lines hentries filled) _

theorem closed_renderSection {s : Section} (nonempty : s.commits ≠ [])
    (hcommits : ∀ r ∈ s.commits, r.OneLine) (above : List Char) :
    Closed (Message.lines (above ++ (renderSection s).toList)) := by
  rw [renderSection]
  exact closed_list nonempty (fun r hr => ⟨hcommits r hr, (hcommits r hr).subject⟩) above

theorem closed_renderBreaking {commits : List ParsedCommit} (nonempty : commits ≠ [])
    (hcommits : ∀ r ∈ commits, r.OneLine) (above : List Char) :
    Closed (Message.lines (above ++ (renderBreaking commits).toList)) := by
  have htitle : "\n### BREAKING CHANGES\n\n" = "\n### BREAKING CHANGES" ++ "\n\n" := by decide
  rw [renderBreaking, if_neg (by simpa using nonempty), htitle]
  exact closed_list nonempty (fun r hr => ⟨hcommits r hr, (hcommits r hr).shown⟩) above

theorem lined_releaseHeading {v : Version} (hv : v.WellNamed) (date : Date) :
    Lined Barred ((releaseHeading v date).toList ++ ['\n']) := by
  have hversion : '\n' ∉ v.chars := Version.notMem_chars hv (by decide) (by decide)
  rw [toList_releaseHeading]
  refine .cons ?_ ⟨'#', rfl, by decide, by decide⟩ .nil
  simpa using ⟨hversion, date.newline_notMem_chars⟩

/-- Notes end in the entries of their last list, or are nothing but the heading of the release. -/
theorem closed_render {v : Version} (hv : v.WellNamed)
    (hsections : ∀ s ∈ n.sections, s.commits ≠ [] ∧ ∀ r ∈ s.commits, r.OneLine)
    (hbreaking : ∀ r ∈ n.breaking, r.OneLine) (date : Date) :
    Closed (Message.lines ('\n' :: (render n v date).toList)) := by
  have hlist : '\n' :: (render n v date).toList
      = '\n' :: ((releaseHeading v date).toList ++ ['\n'])
        ++ (n.sections.flatMap fun s => (renderSection s).toList)
        ++ (renderBreaking n.breaking).toList := by
    rw [toList_render]
    simp
  rw [hlist]
  by_cases broken : n.breaking = []
  · have hnone : (renderBreaking n.breaking).toList = [] := by simp [broken, renderBreaking]
    rw [hnone, List.append_nil]
    rcases List.eq_nil_or_concat n.sections with bare | ⟨others, s, hsplit⟩
    · rw [bare, List.flatMap_nil, List.append_nil]
      exact Message.closed_lines (lined_releaseHeading hv date) (by simp)
    · obtain ⟨nonempty, hcommits⟩ := hsections s (by simp [hsplit])
      rw [hsplit, List.concat_eq_append, List.flatMap_append, List.flatMap_singleton,
        ← List.append_assoc]
      exact closed_renderSection nonempty hcommits _
  · exact closed_renderBreaking broken hbreaking _

end Changelog

/-! ## The release commit -/

namespace ReleasePolicy

variable {p : ReleasePolicy} {v : Version} {commits : List ParsedCommit}

/-- The parts of the header of a release commit when nothing is configured. -/
def ownParts (v : Version) : Header.Parts :=
  ⟨['r', 'e', 'l', 'e', 'a', 's', 'e'], none, false, v.chars ++ ['.']⟩

/-- What the header of a release commit starts with when nothing is configured. -/
def ownLead : List Char :=
  ['r', 'e', 'l', 'e', 'a', 's', 'e', ':', ' ']

theorem chars_ownParts (v : Version) :
    (ownParts v).chars = ownLead ++ v.chars ++ ['.'] := by
  rw [ownParts, Header.Parts.chars, Header.scopeChars, Header.markChars, if_neg Bool.false_ne_true,
    ownLead]
  simp

/-- The header holds no other characters than those of versions and of its own. -/
theorem notMem_ownParts (hv : v.WellNamed) {c : Char} (barred : Identifier.allows c = false)
    (point : c ≠ '.') (own : c ∉ ownLead) : c ∉ (ownParts v).chars := by
  rw [chars_ownParts, List.mem_append, List.mem_append, List.mem_singleton, not_or, not_or]
  exact ⟨⟨own, Version.notMem_chars hv barred point⟩, point⟩

theorem read?_ownParts (v : Version) : Header.read? (ownParts v).chars = some (ownParts v) := by
  refine Header.read?_chars ⟨⟨'r', _, rfl, by decide, by decide⟩, ?_⟩
  rintro _ ⟨⟩

theorem trimEnd_ownParts (v : Version) : Text.trimEnd (ownParts v).chars = (ownParts v).chars := by
  refine Text.trimEnd_eq_self fun c hc => ?_
  rw [chars_ownParts, List.getLast?_concat] at hc
  cases hc
  decide

/-- The message has the header, a blank line and the notes. -/
theorem toList_commitMessage (same : p.message = standard.message) (hv : v.WellNamed)
    (notes : String) :
    (p.commitMessage v notes).toList = (ownParts v).chars ++ '\n' :: '\n' :: notes.toList := by
  have hversion : Text.around? Text.versionWord standard.message.toList
      = some (ownLead, ['.'] ++ '\n' :: ([] ++ '\n' :: (Text.notesWord ++ []))) := by
    decide
  have hrest : Text.around? Text.versionWord
      (['.'] ++ '\n' :: ([] ++ '\n' :: (Text.notesWord ++ []))) = none := by decide
  have hbrace : '\x7b' ∉ (ownParts v).chars :=
    notMem_ownParts hv (by decide) (by decide) (by decide)
  have hnewline : '\n' ∉ Text.notesWord := by decide
  have hnone : Text.around? Text.notesWord (ownParts v).chars = none :=
    Text.around?_eq_none (by decide) hbrace
  rw [commitMessage, String.toList_ofList, same, Text.fill_of_around? (by decide) hversion,
    Text.fill_eq_self hrest, ← List.append_assoc, ← List.append_assoc, ← chars_ownParts,
    Text.fill_append_cons (by decide) hnewline, Text.fill_append_cons (by decide) hnewline,
    Text.fill_append (by decide), Text.fill_eq_self hnone]
  simp [Text.fill, Text.fillFrom]

theorem lines_commitMessage (same : p.message = standard.message) (hv : v.WellNamed)
    (notes : String) :
    Message.lines (p.commitMessage v notes).toList
      = (ownParts v).chars :: Message.lines ('\n' :: notes.toList) := by
  have hnewline : '\n' ∉ (ownParts v).chars :=
    notMem_ownParts hv (by decide) (by decide) (by decide)
  rw [toList_commitMessage same hv, Message.lines, Text.lines_append_newline hnewline,
    List.map_cons, Text.trimEnd_dropReturn, trimEnd_ownParts]
  rfl

/-- A commit reads as a release: it has the type and the header of a release commit, and no footer
that would say that it is breaking. -/
structure ReadsAsRelease (v : Version) (r : ParsedCommit) : Prop where
  type_eq : r.type = "release"
  footer_eq : r.footer = none
  breaking_eq : r.breaking = false
  header_eq : r.header = String.ofList (ownParts v).chars

/-- Whatever commits the notes quote, and whatever titles its sections have, the release commit
reads as a release. -/
theorem readsAsRelease_commitMessage (same : p.message = standard.message) (hv : v.WellNamed)
    (hcommits : ∀ r ∈ commits, r.OneLine) (date : Date) :
    ReadsAsRelease v (Message.parse (p.commitMessage v
      (Changelog.render (ReleaseNotes.compose p commits) v date))) := by
  have hsections : ∀ s ∈ (ReleaseNotes.compose p commits).sections,
      s.commits ≠ [] ∧ ∀ r ∈ s.commits, r.OneLine := by
    intro s hs
    refine ⟨by simpa using (List.mem_filter.mp hs).2, fun r hr => ?_⟩
    rw [ReleaseNotes.commits_of_mem_sections hs] at hr
    exact hcommits r (List.mem_filter.mp hr).1
  have hbreaking : ∀ r ∈ (ReleaseNotes.compose p commits).breaking, r.OneLine :=
    fun r hr => hcommits r (List.mem_filter.mp hr).1
  have closed := Changelog.closed_render hv hsections hbreaking date
  rw [Message.parse_eq_ofLines, lines_commitMessage same hv, List.headD_cons, List.tail_cons,
    Message.ofLines, closed.splitFooter_eq_self (Message.trimmed_lines _), read?_ownParts]
  exact ⟨rfl, rfl, rfl, rfl⟩

/-- When nothing is configured, a release commit asks for no release, whatever commits its notes
quote. -/
theorem levelOf_commitMessage (hv : v.WellNamed) (hcommits : ∀ r ∈ commits, r.OneLine)
    (date : Date) :
    standard.levelOf (Message.parse (standard.commitMessage v
      (Changelog.render (ReleaseNotes.compose standard commits) v date))) = .none := by
  have reads := readsAsRelease_commitMessage rfl hv hcommits date
  have hkind : CommitKind.ofName? "release" = some .release := by decide
  rw [levelOf, reads.breaking_eq, ParsedCommit.kind?, reads.type_eq, hkind]
  rfl

end ReleasePolicy

end ReleasePlanner
