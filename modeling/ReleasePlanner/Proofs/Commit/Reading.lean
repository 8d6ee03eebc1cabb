import ReleasePlanner.Proofs.Commit.Header
import ReleasePlanner.Proofs.Commit.Layout

/-!
# How messages are read

The lines below a header are all blank, or they hold a body, or a footer, or
both (`Message.Laid`, `Message.exists_laid`).  How they are laid out settles
what is read from them (`Message.Laid.ofLines_eq`).

Reading a message loses nothing but the blanks at the ends of its lines
(`Message.parse_keeps_lines`).  Where the footer starts and which commits are
breaking is told without going through the message: by the last run of filled
lines, the written form of the header, and the first lines of the footer that
announce a breaking change (`Message.parse_follows_footerRule`).
-/

namespace ReleasePlanner.Message

variable {header : List Char} {rest block above run : List (List Char)}
  {body footer : Option (List (List Char))} {r : ParsedCommit} {i j : Nat}

/-! ## Body and footer -/

/-- Lines below a header, with the lines of the body and of the footer among them, the number of
blank lines in front of the body and that of the blank lines behind it.  Where there is no body, the
two numbers count the same lines.  The footer is a last paragraph that the footer rule selects. -/
inductive Laid : List (List Char) → Option (List (List Char)) → Option (List (List Char)) →
    Nat → Nat → Prop where
  | bare (n : Nat) : Laid (List.replicate n []) none none n n
  | body {block above paragraph : List (List Char)} (m n : Nat) :
      Block block → LastParagraph block above paragraph → ¬Selects above paragraph →
      Laid (List.replicate m [] ++ (block ++ List.replicate n [])) (some block) none m n
  | footer {paragraph : List (List Char)} (m n : Nat) :
      Paragraph paragraph → Selects [] paragraph →
      Laid (List.replicate m [] ++ (paragraph ++ List.replicate n [])) none (some paragraph) m m
  | both {block paragraph : List (List Char)} (m k n : Nat) :
      Block block → k ≠ 0 → Paragraph paragraph → Selects block paragraph →
      Laid (List.replicate m [] ++ (block ++ (List.replicate k [] ++ (paragraph
        ++ List.replicate n [])))) (some block) (some paragraph) m k

/-- Any lines are laid out in one of these ways. -/
theorem exists_laid (ls : List (List Char)) : ∃ body footer m n, Laid ls body footer m n := by
  rcases exists_frame ls with ⟨n, rfl⟩ | ⟨m, block, n, rfl, hblock⟩
  · exact ⟨_, _, _, _, .bare n⟩
  obtain ⟨above, paragraph, last⟩ := hblock.exists_lastParagraph
  by_cases selects : Selects above paragraph
  · -- The block starts with no blank line, so only a body can stand above the footer.
    have hfirst := hblock
    rw [last.eq] at hfirst
    rcases exists_frame above with ⟨j, rfl⟩ | ⟨j, body, k, rfl, hbody⟩
    · obtain rfl := hfirst.eq_zero
      rw [last.eq]
      exact ⟨_, _, _, _, .footer m n last.paragraph selects⟩
    · simp only [List.append_assoc] at hfirst
      obtain rfl := hfirst.eq_zero
      have apart : k ≠ 0 := by
        rintro rfl
        obtain ⟨front, l, rfl, filled⟩ := Text.exists_eq_concat hbody.nonempty hbody.last
        exact filled (last.apart l (by simp))
      have hselects : Selects body paragraph := selects_append_replicate_iff.mp selects
      rw [last.eq]
      simp only [List.replicate_zero, List.nil_append, List.append_assoc]
      exact ⟨_, _, _, _, .both m k n hbody apart last.paragraph hselects⟩
  · exact ⟨_, _, _, _, .body m n hblock last selects⟩

theorem Laid.block_body (h : Laid rest (some block) footer i j) : Block block ∧ block ⊆ rest := by
  cases h with
  | body _ _ hblock => exact ⟨hblock, fun l hl => by simp [hl]⟩
  | both _ _ _ hblock => exact ⟨hblock, fun l hl => by simp [hl]⟩

/-- The footer rule takes the lines apart in the way that they are laid out. -/
theorem Laid.splitFooter (h : Laid rest body footer i j) (trimmed : Trimmed rest) :
    ∃ bodyLines footerLines, splitFooter rest = (bodyLines, footerLines) ∧
      block? bodyLines = body.map Text.joinLines ∧ block? footerLines = footer.map Text.joinLines ∧
      blanksBefore bodyLines = i ∧ blanksAfter bodyLines = j := by
  cases h with
  | bare =>
      exact ⟨_, _, splitFooter_replicate _, block?_replicate _, rfl, blanksBefore_replicate _,
        blanksAfter_replicate _⟩
  | body _ _ hblock last skipped =>
      obtain ⟨-, hrest⟩ := trimmed_append.mp trimmed
      obtain ⟨htrimmed, -⟩ := trimmed_append.mp hrest
      have hsplit := splitFooter_of_not_selects (n := j)
        (trimmed_append.mpr ⟨trimmed_replicate i, htrimmed⟩) (last.below_replicate i)
        (selects_replicate_append_iff.not.mpr skipped)
      rw [List.append_assoc] at hsplit
      exact ⟨_, _, hsplit, block?_eq_some hblock htrimmed, rfl,
        blanksBefore_replicate_append hblock htrimmed, blanksAfter_append_replicate hblock htrimmed⟩
  | footer _ n filled selects =>
      obtain ⟨-, hrest⟩ := trimmed_append.mp trimmed
      obtain ⟨htrimmed, -⟩ := trimmed_append.mp hrest
      have last : LastParagraph _ [] _ := ⟨rfl, filled, by rintro _ ⟨⟩⟩
      have hsplit := splitFooter_of_selects (n := n)
        (trimmed_append.mpr ⟨trimmed_replicate i, htrimmed⟩) (last.below_replicate i)
        (selects_replicate_append_iff.mpr selects)
      rw [List.append_assoc, List.append_nil] at hsplit
      exact ⟨_, _, hsplit, block?_replicate i, block?_eq_some (m := 0) filled.block htrimmed,
        blanksBefore_replicate i, blanksAfter_replicate i⟩
  | @both block paragraph _ _ n hblock apart filled selects =>
      simp only [trimmed_append] at trimmed
      obtain ⟨-, htrimmed, -, hparagraph, -⟩ := trimmed
      have last : LastParagraph (block ++ (List.replicate j [] ++ paragraph))
          (block ++ List.replicate j []) paragraph := by
        refine ⟨(List.append_assoc _ _ _).symm, filled, fun l hl => ?_⟩
        rw [List.getLast?_append_of_ne_nil _ (by simpa using apart)] at hl
        exact List.eq_of_mem_replicate (List.mem_of_getLast? hl)
      have hsplit := splitFooter_of_selects (n := n)
        (trimmed_append.mpr ⟨trimmed_replicate i, trimmed_append.mpr ⟨htrimmed,
          trimmed_append.mpr ⟨trimmed_replicate j, hparagraph⟩⟩⟩) (last.below_replicate i)
        (selects_replicate_append_iff.mpr (selects_append_replicate_iff.mpr selects))
      simp only [List.append_assoc] at hsplit
      exact ⟨_, _, hsplit, block?_eq_some hblock htrimmed,
        block?_eq_some (m := 0) filled.block hparagraph,
        blanksBefore_replicate_append hblock htrimmed, blanksAfter_append_replicate hblock htrimmed⟩

theorem body_ofLines (header : List Char) (rest : List (List Char)) :
    (ofLines header rest).body = (block? (Message.splitFooter rest).1).map String.ofList := rfl

theorem footer_ofLines (header : List Char) (rest : List (List Char)) :
    (ofLines header rest).footer = (block? (Message.splitFooter rest).2).map String.ofList := rfl

/-- The text of lines. -/
def blockText (ls : List (List Char)) : String :=
  String.ofList (Text.joinLines ls)

/-- What is read from a header and from the lines below it, by the way they are laid out. -/
theorem Laid.ofLines_eq (h : Laid rest body footer m n) (trimmed : Trimmed rest)
    (header : List Char) :
    ofLines header rest =
      let parts := (Header.read? header).getD ⟨[], none, false, header⟩
      { type := String.ofList parts.type
        scope := parts.scope.map String.ofList
        subject := String.ofList parts.subject
        body := body.map blockText
        footer := footer.map blockText
        breaking := parts.breaking || (footer.map Text.joinLines).any announcesBreaking
        bodyBlanks := m
        footerBlanks := n
        rawHeader := some (String.ofList header) } := by
  obtain ⟨bodyLines, footerLines, hsplit, hbody, hfooter, rfl, rfl⟩ := h.splitFooter trimmed
  rw [ofLines, hsplit]
  simp only [hbody, hfooter, Option.map_map]
  rfl

/-! ## Nothing is lost -/

/-- The lines of a text that may be missing. -/
def textLines (text? : Option String) : List (List Char) :=
  match text? with
  | none => []
  | some text => Text.lines text.toList

/-- Lines that a block of text is made of are the lines of the text. -/
theorem Block.textLines_blockText (h : Block block) (trimmed : Trimmed block)
    (single : ∀ l ∈ block, '\n' ∉ l) : textLines (some (blockText block)) = block := by
  rw [textLines, blockText, String.toList_ofList]
  exact Text.lines_joinLines_of_trimmed h.nonempty h.last single trimmed

/-- Body, footer and the blank lines that were counted make up these lines.  Behind the footer there
may be more blank lines. -/
inductive Accounts (r : ParsedCommit) : List (List Char) → Prop where
  | bare : r.body = none → r.footer = none → r.bodyBlanks = r.footerBlanks →
      Accounts r (List.replicate r.bodyBlanks [])
  | body : Block (textLines r.body) → r.footer = none →
      Accounts r (List.replicate r.bodyBlanks [] ++ (textLines r.body
        ++ List.replicate r.footerBlanks []))
  | footer (n : Nat) : r.body = none → Paragraph (textLines r.footer) →
      r.bodyBlanks = r.footerBlanks →
      Accounts r (List.replicate r.footerBlanks [] ++ (textLines r.footer ++ List.replicate n []))
  | both (n : Nat) : Block (textLines r.body) → Paragraph (textLines r.footer) →
      Accounts r (List.replicate r.bodyBlanks [] ++ (textLines r.body
        ++ (List.replicate r.footerBlanks [] ++ (textLines r.footer ++ List.replicate n []))))

theorem Laid.accounts (h : Laid rest body footer i j) (trimmed : Trimmed rest)
    (single : ∀ l ∈ rest, '\n' ∉ l) (header : List Char) :
    Accounts (ofLines header rest) rest := by
  have hr := h.ofLines_eq trimmed header
  generalize ofLines header rest = r at hr
  have hbody : r.body = body.map blockText := by rw [hr]
  have hfooter : r.footer = footer.map blockText := by rw [hr]
  have hbefore : r.bodyBlanks = i := by rw [hr]
  have hbehind : r.footerBlanks = j := by rw [hr]
  have hlines : ∀ {ls : List (List Char)}, Block ls → ls ⊆ rest →
      textLines (some (blockText ls)) = ls := fun hblock inside =>
    hblock.textLines_blockText (fun l hl => trimmed l (inside hl)) fun l hl => single l (inside hl)
  cases h with
  | bare =>
      have accounts := Accounts.bare hbody hfooter (hbefore.trans hbehind.symm)
      rwa [hbefore] at accounts
  | @body block _ _ _ _ hblock =>
      have htext : textLines r.body = block := by
        rw [hbody]
        exact hlines hblock (by simp)
      have accounts := Accounts.body (r := r) (by rwa [htext]) hfooter
      rwa [htext, hbefore, hbehind] at accounts
  | @footer paragraph _ n filled =>
      have htext : textLines r.footer = paragraph := by
        rw [hfooter]
        exact hlines filled.block (by simp)
      have accounts := Accounts.footer n hbody (by rwa [htext]) (hbefore.trans hbehind.symm)
      rwa [htext, hbehind] at accounts
  | @both block paragraph _ _ n hblock _ filled =>
      have htextBody : textLines r.body = block := by
        rw [hbody]
        exact hlines hblock (by simp)
      have htextFooter : textLines r.footer = paragraph := by
        rw [hfooter]
        exact hlines filled.block fun l hl => by simp [hl]
      have accounts := Accounts.both (r := r) n (by rwa [htextBody]) (by rwa [htextFooter])
      rwa [htextBody, htextFooter, hbefore, hbehind] at accounts

/-- Type, scope and subject are those of the header line.  Where there is no type, the header is all
subject. -/
structure SpellsHeader (r : ParsedCommit) (header : List Char) : Prop where
  typed : r.type ≠ "" → ∃ mark, header
    = Header.Parts.line ⟨r.type.toList, r.scope.map String.toList, mark, r.subject.toList⟩
  untyped : r.type = "" → r.scope = none ∧ r.subject = String.ofList header

theorem spellsHeader_ofLines (trimmed : Text.trimEnd header = header)
    (rest : List (List Char)) : SpellsHeader (ofLines header rest) header := by
  cases hread : Header.read? header with
  | none =>
      have hparts : (Header.read? header).getD ⟨[], none, false, header⟩
          = ⟨[], none, false, header⟩ := by rw [hread]; rfl
      refine ⟨fun typed => ?_, fun _ => ?_⟩
      · rw [ofLines, hparts] at typed
        exact absurd rfl typed
      · rw [ofLines, hparts]
        exact ⟨rfl, rfl⟩
  | some parts =>
      obtain ⟨writable, hline⟩ := (Header.read?_eq_some_iff trimmed).mp hread
      have hscope : (parts.scope.map String.ofList).map String.toList = parts.scope := by
        cases parts.scope with
        | none => rfl
        | some scope => exact congrArg some String.toList_ofList
      refine ⟨fun _ => ⟨parts.breaking, ?_⟩, fun untyped => ?_⟩
      · rw [ofLines, hread, Option.getD_some, String.toList_ofList, String.toList_ofList, hscope]
        exact hline
      · rw [ofLines, hread, Option.getD_some, String.ofList_eq_empty_iff] at untyped
        exact absurd untyped writable.type_ne_nil

/-- Reading a message loses nothing but the blanks at the ends of its lines. -/
theorem parse_keeps_lines (message : String) :
    (parse message).rawHeader = some (String.ofList ((lines message.toList).headD [])) ∧
      SpellsHeader (parse message) ((lines message.toList).headD []) ∧
      Accounts (parse message) (lines message.toList).tail := by
  obtain ⟨body, footer, i, j, laid⟩ := exists_laid (lines message.toList).tail
  rw [parse_eq_ofLines]
  exact ⟨rfl, spellsHeader_ofLines (trimEnd_header _) _,
    laid.accounts (trimmed_below _) (newline_notMem_below _) _⟩

/-! ## The last run of filled lines -/

/-- The last run of filled lines: only blank lines stand below it, and right above it stands a blank
line or none. -/
structure LastRun (ls above run : List (List Char)) : Prop where
  eq : ∃ n, ls = above ++ (run ++ List.replicate n [])
  filled : Paragraph run
  apart : ∀ l, above.getLast? = some l → l = []

theorem LastRun.lastParagraph {ls run : List (List Char)} (h : LastRun ls above run) :
    LastParagraph (above ++ run) above run :=
  ⟨rfl, h.filled, h.apart⟩

/-- There is a last run unless all lines are blank. -/
theorem exists_lastRun (ls : List (List Char)) :
    (∃ n, ls = List.replicate n []) ∨ ∃ above run, LastRun ls above run := by
  rcases exists_frame ls with blank | ⟨m, block, n, rfl, hblock⟩
  · exact Or.inl blank
  · obtain ⟨above, run, last⟩ := hblock.exists_lastParagraph
    obtain ⟨heq, filled, apart⟩ := last.below_replicate m
    refine Or.inr ⟨_, run, ⟨n, ?_⟩, filled, apart⟩
    rw [← List.append_assoc, heq, List.append_assoc]

theorem LastRun.splitFooter_of_selects (trimmed : Trimmed rest) (last : LastRun rest above run)
    (selects : Selects above run) :
    ∃ n, splitFooter rest = (above, run ++ List.replicate n []) := by
  obtain ⟨n, rfl⟩ := last.eq
  rw [← List.append_assoc] at trimmed ⊢
  obtain ⟨htrimmed, -⟩ := trimmed_append.mp trimmed
  exact ⟨n, Message.splitFooter_of_selects htrimmed last.lastParagraph selects⟩

theorem LastRun.splitFooter_of_not_selects (trimmed : Trimmed rest) (last : LastRun rest above run)
    (skipped : ¬Selects above run) : splitFooter rest = (rest, []) := by
  obtain ⟨n, rfl⟩ := last.eq
  rw [← List.append_assoc] at trimmed ⊢
  obtain ⟨htrimmed, -⟩ := trimmed_append.mp trimmed
  exact Message.splitFooter_of_not_selects htrimmed last.lastParagraph skipped

/-! ## Breaking changes -/

/-- The line starts with a token that announces a breaking change. -/
def Announces (line : List Char) : Prop :=
  ∃ token ∈ breakingTokens, token <+: line

theorem afterBreakingToken?_append {token : List Char} (h : token ∈ breakingTokens)
    (note : List Char) : afterBreakingToken? (token ++ note) = some note := by
  have htokens : breakingTokens = ["BREAKING CHANGE:".toList, "BREAKING-CHANGE:".toList] := rfl
  have hother : Text.dropWord? "BREAKING CHANGE:".toList ("BREAKING-CHANGE:".toList ++ note)
      = none := rfl
  rw [htokens, List.mem_pair] at h
  rw [afterBreakingToken?, htokens, List.findSome?_cons]
  rcases h with rfl | rfl
  · rw [Text.dropWord?_append]
  · rw [hother, List.findSome?_cons, Text.dropWord?_append]

theorem isSome_afterBreakingToken?_iff {line : List Char} :
    (afterBreakingToken? line).isSome = true ↔ Announces line := by
  rw [afterBreakingToken?, List.findSome?_isSome_iff]
  refine exists_congr fun token => and_congr_right fun _ => ?_
  rw [← Text.isPrefixOf_eq_isSome_dropWord?, List.isPrefixOf_iff_prefix]

theorem not_announces_iff {line : List Char} :
    ¬Announces line ↔ afterBreakingToken? line = none := by
  rw [← isSome_afterBreakingToken?_iff, Bool.not_eq_true, Option.isSome_eq_false_iff,
    Option.isNone_iff_eq_none]

/-- The note of a footer is found in its lines. -/
theorem bind_footerNote? (footer : Option String) :
    footer.bind footerNote? = ((textLines footer).findSome? afterBreakingToken?).map
      fun note => String.ofList (Text.trim note) := by
  cases footer with
  | none => rfl
  | some footer => rfl

theorem any_announcesBreaking (footer : Option (List Char)) :
    footer.any announcesBreaking
      = (textLines (footer.map String.ofList)).any fun l => (afterBreakingToken? l).isSome := by
  cases footer with
  | none => rfl
  | some footer =>
      rw [Option.map_some, textLines, String.toList_ofList]
      rfl

/-- A commit is breaking if its header or a line of its footer says so. -/
theorem breaking_ofLines (header : List Char) (rest : List (List Char)) :
    (ofLines header rest).breaking = true ↔
      (∃ parts, Header.read? header = some parts ∧ parts.breaking = true) ∨
        ∃ l ∈ textLines (ofLines header rest).footer, Announces l := by
  have hbreaking : (ofLines header rest).breaking
      = (((Header.read? header).getD ⟨[], none, false, header⟩).breaking
        || (block? (Message.splitFooter rest).2).any announcesBreaking) := rfl
  rw [hbreaking, Bool.or_eq_true, any_announcesBreaking, ← footer_ofLines, List.any_eq_true]
  refine or_congr ?_ (exists_congr fun l => and_congr_right fun _ =>
    isSome_afterBreakingToken?_iff)
  cases Header.read? header with
  | none => simp
  | some parts => simp

/-! ## The footer rule -/

/-- What the footer rule says of the commit that is read from a header and the lines below it. -/
structure FollowsFooterRule (r : ParsedCommit) (header : List Char) (rest : List (List Char)) :
    Prop where
  /-- There is a footer if the rule selects the last run of filled lines. -/
  present : r.footer.isSome = true ↔ ∃ above run, LastRun rest above run ∧ Selects above run
  /-- The footer is the whole run, and the body is what stands above it. -/
  divided : ∀ above run, LastRun rest above run → Selects above run →
    r.footer = some (blockText run) ∧
      ∃ m n, above = List.replicate m [] ++ (textLines r.body ++ List.replicate n [])
  /-- The mark in the header or a line of the footer make the commit a breaking one. -/
  breaking : r.breaking = true ↔
    (∃ parts : Header.Parts, parts.Writable ∧ header = parts.line ∧ parts.breaking = true) ∨
      ∃ l ∈ textLines r.footer, Announces l
  /-- The note is what follows the token in the first such line. -/
  note : ∀ before token note after, textLines r.footer = before ++ (token ++ note) :: after →
    token ∈ breakingTokens → (∀ l ∈ before, ¬Announces l) →
    r.breakingNote? = some (String.ofList (Text.trim note))
  /-- Without such a line the subject is the note. -/
  subject : r.breaking = true → (∀ l ∈ textLines r.footer, ¬Announces l) →
    r.breakingNote? = some r.subject

theorem LastRun.footer_ofLines (trimmed : Trimmed rest) (last : LastRun rest above run)
    (selects : Selects above run) (header : List Char) :
    (ofLines header rest).footer = some (blockText run) := by
  obtain ⟨n, hsplit⟩ := last.splitFooter_of_selects trimmed selects
  obtain ⟨_, rfl⟩ := last.eq
  have hrun : Trimmed run := (trimmed_append.mp (trimmed_append.mp trimmed).2).1
  have hblock : block? (run ++ List.replicate n []) = some (Text.joinLines run) :=
    block?_eq_some (m := 0) last.filled.block hrun
  rw [Message.footer_ofLines, hsplit, hblock]
  rfl

/-- The lines above the footer are those of the body between blank lines. -/
theorem LastRun.above_eq (trimmed : Trimmed rest) (single : ∀ l ∈ rest, '\n' ∉ l)
    (last : LastRun rest above run) (selects : Selects above run) (header : List Char) :
    ∃ m n, above = List.replicate m []
      ++ (textLines (ofLines header rest).body ++ List.replicate n []) := by
  obtain ⟨_, hsplit⟩ := last.splitFooter_of_selects trimmed selects
  obtain ⟨_, rfl⟩ := last.eq
  rw [body_ofLines, hsplit]
  obtain ⟨habove, -⟩ := trimmed_append.mp trimmed
  obtain ⟨hsingle, -⟩ := List.forall_mem_append.mp single
  rcases exists_frame above with ⟨n, rfl⟩ | ⟨m, block, n, rfl, hblock⟩
  · rw [block?_replicate]
    exact ⟨n, 0, (List.append_nil _).symm⟩
  · have htrimmed : Trimmed block := (trimmed_append.mp (trimmed_append.mp habove).2).1
    have htext : textLines (some (blockText block)) = block :=
      hblock.textLines_blockText htrimmed fun l hl => hsingle l (by simp [hl])
    rw [block?_eq_some hblock htrimmed]
    exact ⟨m, n, by rw [Option.map_some, ← blockText, htext]⟩

theorem isSome_footer_iff (trimmed : Trimmed rest) (header : List Char) :
    (ofLines header rest).footer.isSome = true ↔
      ∃ above run, LastRun rest above run ∧ Selects above run := by
  constructor
  · intro present
    rw [footer_ofLines, Option.isSome_map] at present
    rcases exists_lastRun rest with ⟨n, rfl⟩ | ⟨above, run, last⟩
    · rw [splitFooter_replicate] at present
      cases present
    · by_cases selects : Selects above run
      · exact ⟨above, run, last, selects⟩
      · rw [last.splitFooter_of_not_selects trimmed selects] at present
        cases present
  · rintro ⟨above, run, last, selects⟩
    rw [last.footer_ofLines trimmed selects]
    rfl

theorem breakingNote?_of_announces {before after : List (List Char)} {token note : List Char}
    (breaking : r.breaking = true)
    (hlines : textLines r.footer = before ++ (token ++ note) :: after)
    (htoken : token ∈ breakingTokens) (hbefore : ∀ l ∈ before, ¬Announces l) :
    r.breakingNote? = some (String.ofList (Text.trim note)) := by
  have hnone : before.findSome? afterBreakingToken? = none := by
    rw [List.findSome?_eq_none_iff]
    exact fun l hl => not_announces_iff.mp (hbefore l hl)
  rw [ParsedCommit.breakingNote?, if_pos breaking, bind_footerNote?, hlines, List.findSome?_append,
    hnone, Option.none_or, List.findSome?_cons, afterBreakingToken?_append htoken]
  rfl

theorem breakingNote?_of_not_announces (breaking : r.breaking = true)
    (plain : ∀ l ∈ textLines r.footer, ¬Announces l) : r.breakingNote? = some r.subject := by
  have hnone : (textLines r.footer).findSome? afterBreakingToken? = none := by
    rw [List.findSome?_eq_none_iff]
    exact fun l hl => not_announces_iff.mp (plain l hl)
  rw [ParsedCommit.breakingNote?, if_pos breaking, bind_footerNote?, hnone]
  rfl

theorem followsFooterRule_ofLines (hheader : Text.trimEnd header = header)
    (trimmed : Trimmed rest) (single : ∀ l ∈ rest, '\n' ∉ l) :
    FollowsFooterRule (ofLines header rest) header rest := by
  have breaking := breaking_ofLines header rest
  simp only [Header.read?_eq_some_iff hheader, and_assoc] at breaking
  refine ⟨isSome_footer_iff trimmed header, fun above run last selects => ?_, breaking, ?_,
    breakingNote?_of_not_announces⟩
  · exact ⟨last.footer_ofLines trimmed selects header,
      last.above_eq trimmed single selects header⟩
  · intro before token note after hlines htoken hbefore
    have inside : token ++ note ∈ textLines (ofLines header rest).footer := by
      rw [hlines]
      exact List.mem_append_right _ List.mem_cons_self
    have announced : Announces (token ++ note) := ⟨token, htoken, List.prefix_append _ _⟩
    exact breakingNote?_of_announces (breaking.mpr (Or.inr ⟨_, inside, announced⟩)) hlines htoken
      hbefore

/-- Footer, body and the announcement of a breaking change are read by the footer rule. -/
theorem parse_follows_footerRule (message : String) :
    FollowsFooterRule (parse message) ((lines message.toList).headD [])
      (lines message.toList).tail := by
  rw [parse_eq_ofLines]
  exact followsFooterRule_ofLines (trimEnd_header _) (trimmed_below _) (newline_notMem_below _)

example : (parse "fix: A.\n\nRefs: x").footer = none ∧ (parse "fix: A.\n\nRefs #1").footer.isSome ∧
    (parse "fix: A.\n\nWhy.\n\nRefs: x").footer.isSome := by decide

end ReleasePlanner.Message
