import ReleasePlanner.Proofs.Commit.Reading

/-!
# Messages written from their parts

A draft holds the parts of a message.  It is written as its header, and below
it the body and the footer, each below one blank line (`Message.Draft.text`).

A subject or a scope that goes on over a line feed would be cut, blanks at the
ends of lines get lost, and a body may end in a paragraph that reads as a
footer.  Nothing else goes wrong.  A draft without these faults is *sound*
(`Message.Draft.Sound`), and its parts are what is read from its text
(`Message.Draft.Sound.readsAs_parse`).  In the same way a commit that was put
together without a message is read back from its header, but for its mark
(`ParsedCommit.parse_header`).
-/

namespace ReleasePlanner

/-- The parts may stand in a header on one line, and the subject has no blank at its end. -/
structure Header.Parts.Sound (parts : Header.Parts) : Prop extends parts.Writable where
  scope_line : ∀ scope, parts.scope = some scope → '\n' ∉ scope
  subject_line : '\n' ∉ parts.subject
  subject_trimmed : Text.trimEnd parts.subject = parts.subject

theorem Header.Parts.Sound.newline_notMem_chars {parts : Header.Parts} (sound : parts.Sound) :
    '\n' ∉ parts.chars := by
  have htype : '\n' ∉ parts.type := by
    obtain ⟨c, text, hparts, halpha, hall⟩ := sound.type_word
    rw [hparts, List.mem_cons, not_or]
    refine ⟨fun hc => ?_, fun hc => ?_⟩
    · rw [← hc] at halpha
      exact absurd halpha (by decide)
    · exact absurd (List.all_eq_true.mp hall _ hc) (by decide)
  have hscope : '\n' ∉ scopeChars parts.scope := by
    cases hparts : parts.scope with
    | none => exact List.not_mem_nil
    | some scope => simpa [scopeChars] using sound.scope_line scope hparts
  have hmark : '\n' ∉ markChars parts.breaking := by
    cases parts.breaking <;> decide
  simpa [Parts.chars, htype, hscope, hmark] using sound.subject_line

namespace Message

/-- The parts that a message is written from, with the lines of body and footer. -/
structure Draft where
  /-- The parts of the header. -/
  header : Header.Parts
  /-- The lines of the body. -/
  body : Option (List (List Char))
  /-- The lines of the footer. -/
  footer : Option (List (List Char))

/-- A part of a message below a blank line. -/
def setApart (part : Option (List (List Char))) : List (List Char) :=
  match part with
  | none => []
  | some ls => [] :: ls

theorem getLast?_append_setApart {front : List (List Char)} {part : Option (List (List Char))}
    (hfront : front.getLast? ≠ some []) (hpart : ∀ ls, part = some ls → Block ls) :
    (front ++ setApart part).getLast? ≠ some [] := by
  cases part with
  | none => rwa [setApart, List.append_nil]
  | some ls =>
      have hblock := hpart ls rfl
      rw [setApart, ← List.singleton_append, ← List.append_assoc,
        List.getLast?_append_of_ne_nil _ hblock.nonempty]
      exact hblock.last

namespace Draft

/-- The lines below the header. -/
def below (d : Draft) : List (List Char) :=
  setApart d.body ++ setApart d.footer

/-- The message that is written from a draft. -/
def text (d : Draft) : String :=
  blockText (d.header.chars :: d.below)

/-- The parts can be told from the text. -/
structure Sound (d : Draft) : Prop where
  header : d.header.Sound
  single : ∀ l ∈ d.below, '\n' ∉ l
  trimmed : Trimmed d.below
  body : ∀ ls, d.body = some ls → Block ls
  footer : ∀ ls, d.footer = some ls → Paragraph ls ∧
    ∃ line more t, ls = line :: more ∧ Trailer.Starts t line ∧ (t = .token → d.body ≠ none)
  plain : d.footer = none → ∀ above paragraph,
    LastParagraph (d.body.getD []) above paragraph → ¬Selects above paragraph

/-- The parts of the draft are those of the commit.  One blank line stands in front of each block
that there is. -/
structure ReadsAs (d : Draft) (r : ParsedCommit) : Prop where
  type : r.type = String.ofList d.header.type
  scope : r.scope = d.header.scope.map String.ofList
  subject : r.subject = String.ofList d.header.subject
  body : r.body = d.body.map blockText
  footer : r.footer = d.footer.map blockText
  breaking : r.breaking = true ↔ d.header.breaking = true ∨ ∃ l ∈ d.footer.getD [], Announces l
  body_apart : d.body ≠ none → r.bodyBlanks = 1
  footer_apart : d.footer ≠ none → r.footerBlanks = 1

namespace Sound

variable {d : Draft}

/-- A message ends in a filled line. -/
theorem getLast?_ne_nil (sound : d.Sound) :
    (d.header.chars :: d.below).getLast? ≠ some [] := by
  have hheader : [d.header.chars].getLast? ≠ some [] := by
    simp [Header.Parts.chars]
  have hbody := getLast?_append_setApart hheader sound.body
  have hfooter := getLast?_append_setApart hbody fun ls hls => (sound.footer ls hls).1.block
  rwa [List.append_assoc, List.singleton_append] at hfooter

theorem lines_text (sound : d.Sound) : lines d.text.toList = d.header.line :: d.below := by
  have single : ∀ l ∈ d.header.chars :: d.below, '\n' ∉ l :=
    List.forall_mem_cons.mpr ⟨sound.header.newline_notMem_chars, sound.single⟩
  have hbelow : d.below.map Text.trimEnd = d.below :=
    (List.map_congr_left sound.trimmed).trans (List.map_id _)
  rw [lines, text, blockText, String.toList_ofList,
    Text.map_trimEnd_lines_joinLines (List.cons_ne_nil _ _) sound.getLast?_ne_nil single,
    List.map_cons, Header.Parts.trimEnd_chars sound.header.subject_trimmed, hbelow]

/-- The footer rule selects the footer below the body. -/
theorem selects (sound : d.Sound) {ls : List (List Char)} (hfooter : d.footer = some ls) :
    Selects (d.body.getD []) ls := by
  obtain ⟨-, line, more, t, rfl, starts, hbody⟩ := sound.footer ls hfooter
  refine ⟨line, more, t, rfl, starts, fun token => ?_⟩
  obtain ⟨body, hsome⟩ := Option.ne_none_iff_exists'.mp (hbody token)
  obtain ⟨front, l, hconcat, filled⟩ :=
    Text.exists_eq_concat (sound.body body hsome).nonempty (sound.body body hsome).last
  rw [hsome, Option.getD_some, hconcat]
  exact ⟨l, List.mem_concat_self, filled⟩

/-- The lines below the header are laid out as body and footer. -/
theorem laid (sound : d.Sound) :
    ∃ i j, Laid d.below d.body d.footer i j ∧ (d.body ≠ none → i = 1) ∧
      (d.footer ≠ none → j = 1) := by
  rw [below]
  cases hfooter : d.footer with
  | none =>
      cases hbody : d.body with
      | none => exact ⟨0, 0, .bare 0, by simp, by simp⟩
      | some body =>
          have hblock := sound.body body hbody
          obtain ⟨above, paragraph, last⟩ := hblock.exists_lastParagraph
          have skipped := sound.plain hfooter above paragraph (by rwa [hbody])
          have laid := Laid.body 1 0 hblock last skipped
          exact ⟨1, 0, by simpa [setApart] using laid, fun _ => rfl, by simp⟩
  | some footer =>
      have selects := sound.selects hfooter
      obtain ⟨filled, -⟩ := sound.footer footer hfooter
      cases hbody : d.body with
      | none =>
          rw [hbody] at selects
          have laid := Laid.footer 1 0 filled selects
          exact ⟨1, 1, by simpa [setApart] using laid, by simp, fun _ => rfl⟩
      | some body =>
          rw [hbody] at selects
          have laid := Laid.both 1 1 0 (sound.body body hbody) Nat.one_ne_zero filled selects
          exact ⟨1, 1, by simpa [setApart] using laid, fun _ => rfl, fun _ => rfl⟩

/-- The lines of the footer are those of its text. -/
theorem textLines_footer (sound : d.Sound) :
    textLines (d.footer.map blockText) = d.footer.getD [] := by
  cases hfooter : d.footer with
  | none => rfl
  | some footer =>
      have inside : ∀ l ∈ footer, l ∈ d.below := by
        intro l hl
        rw [below, hfooter]
        exact List.mem_append_right _ (List.mem_cons_of_mem _ hl)
      obtain ⟨filled, -⟩ := sound.footer footer hfooter
      exact filled.block.textLines_blockText (fun l hl => sound.trimmed l (inside l hl))
        fun l hl => sound.single l (inside l hl)

/-- What is read from the text of a sound draft are its parts. -/
theorem readsAs_parse (sound : d.Sound) : d.ReadsAs (parse d.text) := by
  obtain ⟨i, j, laid, hbody, hfooter⟩ := sound.laid
  have hread : Header.read? d.header.line = some d.header :=
    Header.read?_line sound.header.toWritable
  have hparse : parse d.text = ofLines d.header.line d.below := by
    rw [parse_eq_ofLines, sound.lines_text]
    rfl
  have breaking := breaking_ofLines d.header.line d.below
  rw [hparse]
  have heq := laid.ofLines_eq sound.trimmed d.header.line
  rw [hread] at heq breaking
  generalize ofLines d.header.line d.below = r at heq breaking
  have hfooterText : r.footer = d.footer.map blockText := by rw [heq]
  rw [hfooterText, sound.textLines_footer] at breaking
  refine ⟨by rw [heq]; rfl, by rw [heq]; rfl, by rw [heq]; rfl, by rw [heq], hfooterText, ?_,
    fun h => ?_, fun h => ?_⟩
  · simpa using breaking
  · rw [heq]
    exact hbody h
  · rw [heq]
    exact hfooter h

end Sound

end Draft

end Message

/-! ## Headers of commits -/

namespace ParsedCommit

variable {r : ParsedCommit}

/-- The parts that the header of a commit is put together from.  The mark is left out. -/
def headerParts (r : ParsedCommit) : Header.Parts :=
  ⟨r.type.toList, r.scope?.map String.toList, false, r.subject.toList⟩

/-- A header that is put together is the text of a draft with a header only. -/
theorem header_eq_text (built : r.rawHeader = none) (typed : r.type ≠ "") :
    r.header = Message.Draft.text ⟨r.headerParts, none, none⟩ := by
  have htext : (Message.Draft.text ⟨r.headerParts, none, none⟩).toList = r.headerParts.chars := by
    rw [Message.Draft.text, Message.blockText, String.toList_ofList]
    exact List.intercalate_singleton ..
  rw [← String.toList_inj, htext, header, built, if_neg typed]
  rw [headerParts, Header.Parts.chars]
  cases r.scope? with
  | none => simp [Header.scopeChars, Header.markChars]
  | some scope => simp [Header.scopeChars, Header.markChars]

theorem filter_scope? (r : ParsedCommit) : (r.scope?.filter fun s => s != "") = r.scope? := by
  rw [scope?, Option.filter_filter]
  simp only [Bool.and_self]

/-- What is read from the header that a commit is put together with are its parts. -/
theorem parse_header (built : r.rawHeader = none) (sound : r.headerParts.Sound) :
    (Message.parse r.header).type = r.type ∧ (Message.parse r.header).scope? = r.scope? ∧
      (Message.parse r.header).subject = r.subject := by
  have draft : Message.Draft.Sound ⟨r.headerParts, none, none⟩ := by
    refine ⟨sound, by rintro _ ⟨⟩, by rintro _ ⟨⟩, by rintro _ ⟨⟩, by rintro _ ⟨⟩, ?_⟩
    intro _ above paragraph last
    exact absurd (List.append_eq_nil_iff.mp last.eq.symm).2 last.paragraph.nonempty
  have typed : r.type ≠ "" := by
    intro hnil
    exact sound.type_ne_nil (String.toList_eq_nil_iff.mpr hnil)
  have hscope : (r.scope?.map String.toList).map String.ofList = r.scope? := by
    cases r.scope? with
    | none => rfl
    | some scope => exact congrArg some String.ofList_toList
  have reads := draft.readsAs_parse
  rw [← header_eq_text built typed] at reads
  refine ⟨reads.type.trans String.ofList_toList, ?_, reads.subject.trans String.ofList_toList⟩
  rw [scope?, reads.scope]
  exact (congrArg _ hscope).trans r.filter_scope?

end ParsedCommit

/-- Parsing undoes writing, for messages that are written from a sound draft and for headers that
are put together from the parts of a commit. -/
theorem parse_undoes_writing :
    (∀ d : Message.Draft, d.Sound → d.ReadsAs (Message.parse d.text)) ∧
      ∀ r : ParsedCommit, r.rawHeader = none → r.headerParts.Sound →
        (Message.parse r.header).type = r.type ∧ (Message.parse r.header).scope? = r.scope? ∧
          (Message.parse r.header).subject = r.subject :=
  ⟨fun _ sound => sound.readsAs_parse, fun _ built sound => ParsedCommit.parse_header built sound⟩

/-- A correction with a body of two paragraphs and a trailer below it is read back, and so is the
header of a commit. -/
theorem read_correction :
    ∃ d : Message.Draft, d.Sound ∧ d.ReadsAs (Message.parse d.text) ∧
      d.text = "fix(lib)!: Handle nulls.\n\nNulls were\n\nlost.\n\nRefs: #12" ∧
      (Message.parse (ParsedCommit.simple "fix" "Handle nulls.").header).subject
        = "Handle nulls." := by
  have starts : Message.Trailer.Starts .token
      ('R' :: (['e', 'f', 's'] ++ ':' :: ' ' :: ['#', '1', '2'])) :=
    .token (by decide) (List.all_eq_true.mp (by decide))
  have sound : Message.Draft.Sound
      ⟨⟨['f', 'i', 'x'], some ['l', 'i', 'b'], true, "Handle nulls.".toList⟩,
        some ["Nulls were".toList, [], "lost.".toList], some ["Refs: #12".toList]⟩ := by
    refine ⟨⟨⟨⟨'f', ['i', 'x'], rfl, by decide, by decide⟩, ?_⟩, ?_, by decide, by decide⟩,
      by decide, ?_, ?_, ?_, by rintro ⟨⟩⟩
    · rintro _ ⟨⟩
      decide
    · rintro _ ⟨⟩
      decide
    · rw [Message.Trimmed]
      decide
    · rintro _ ⟨⟩
      exact ⟨by decide, by decide, by decide⟩
    · rintro _ ⟨⟩
      exact ⟨⟨by decide, by decide⟩, _, _, _, rfl, starts, by simp⟩
  have simple : (ParsedCommit.simple "fix" "Handle nulls.").headerParts.Sound := by
    refine ⟨⟨⟨'f', ['i', 'x'], rfl, by decide, by decide⟩, ?_⟩, ?_, by decide, by decide⟩
    · rintro _ ⟨⟩
    · rintro _ ⟨⟩
  exact ⟨_, sound, parse_undoes_writing.1 _ sound, by decide,
    (parse_undoes_writing.2 _ rfl simple).2.2⟩

end ReleasePlanner
