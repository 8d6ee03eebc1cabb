import ReleasePlanner.Commit.Message
import ReleasePlanner.Proofs.Text.Line

/-!
# The layout of messages

Below the header a message has lines, and the blank ones among them set blocks
apart.  Any lines are a block between blank lines, or all blank
(`exists_frame`), and a block ends in its last paragraph
(`Block.exists_lastParagraph`).

The last paragraph is split off as the footer exactly if the footer rule
selects it (`splitFooter_of_selects`, `splitFooter_of_not_selects`).  The rule
asks for a trailer in the first line, and trailers are told by their written
form (`Trailer.Starts`).  So there is no footer where the last paragraph starts
with a mark that trailers do not start with (`Closed.splitFooter_eq_self`).
-/

namespace ReleasePlanner.Message

/-- Reading a message takes its first line for the header, an empty one where there is none. -/
theorem parse_eq_ofLines (message : String) :
    parse message
      = ofLines ((lines message.toList).headD []) (lines message.toList).tail := by
  rw [parse, parseChars]
  cases lines message.toList with
  | nil => rfl
  | cons header rest => rfl

/-! ## The lines of a message -/

theorem newline_notMem_of_mem_lines {message line : List Char} (h : line ∈ lines message) :
    '\n' ∉ line := by
  obtain ⟨raw, hraw, rfl⟩ := List.mem_map.mp h
  exact fun hc =>
    Text.newline_notMem_of_mem_lines hraw ((Text.trimEnd_isPrefix raw).subset hc)

theorem newline_notMem_header (message : List Char) : '\n' ∉ (lines message).headD [] := by
  cases hlines : lines message with
  | nil => exact List.not_mem_nil
  | cons header rest =>
      exact newline_notMem_of_mem_lines (by rw [hlines]; exact List.mem_cons_self)

/-- No line has a blank at its end. -/
def Trimmed (ls : List (List Char)) : Prop :=
  ∀ l ∈ ls, Text.trimEnd l = l

theorem trimmed_lines (message : List Char) : Trimmed (lines message) := by
  intro l hl
  obtain ⟨raw, -, rfl⟩ := List.mem_map.mp hl
  exact Text.trimEnd_trimEnd raw

theorem trimmed_below (message : List Char) : Trimmed (lines message).tail :=
  fun l hl => trimmed_lines message l (List.mem_of_mem_tail hl)

theorem newline_notMem_below (message : List Char) : ∀ l ∈ (lines message).tail, '\n' ∉ l :=
  fun _ hl => newline_notMem_of_mem_lines (List.mem_of_mem_tail hl)

theorem trimEnd_header (message : List Char) :
    Text.trimEnd ((lines message).headD []) = (lines message).headD [] := by
  cases hlines : lines message with
  | nil => rfl
  | cons header rest =>
      exact trimmed_lines message header (by rw [hlines]; exact List.mem_cons_self)

/-! ## Trailers -/

/-- The line starts as a trailer of this kind is written. -/
inductive Trailer.Starts : Trailer → List Char → Prop where
  | breaking {token rest : List Char} :
      token ∈ breakingTokens → Starts .breaking (token ++ ' ' :: rest)
  | token {c : Char} {name rest : List Char} :
      c.isAlpha = true → (∀ d ∈ name, inToken d = true) →
      Starts .token (c :: (name ++ ':' :: ' ' :: rest))
  | reference {c : Char} {name rest : List Char} :
      c.isAlpha = true → (∀ d ∈ name, inToken d = true) →
      Starts .reference (c :: (name ++ ' ' :: '#' :: rest))

theorem Trailer.starts_of_trailer? {line : List Char} {t : Trailer} (h : trailer? line = some t) :
    t.Starts line := by
  rw [trailer?.eq_def] at h
  split at h
  next found =>
    cases h
    obtain ⟨token, hmem, hprefix⟩ := List.any_eq_true.mp found
    obtain ⟨rest, rfl⟩ := List.isPrefixOf_iff_prefix.mp hprefix
    rw [List.append_assoc]
    exact .breaking hmem
  next =>
    split at h
    next => cases h
    next c text _ =>
      split at h
      next halpha =>
        have hname : ∀ d ∈ text.takeWhile inToken, inToken d = true :=
          List.all_eq_true.mp List.all_takeWhile
        have hparts := List.takeWhile_append_dropWhile (p := inToken) (l := text)
        split at h
        next hrest =>
          cases h
          rw [← hparts, hrest]
          exact .token halpha hname
        next hrest =>
          cases h
          rw [← hparts, hrest]
          exact .reference halpha hname
        next => cases h
      next => cases h

/-- A line that starts as a trailer is taken for one of this kind, or for a breaking change. -/
theorem Trailer.Starts.trailer? {line : List Char} {t : Trailer} (h : t.Starts line) :
    Message.trailer? line = some t ∨ Message.trailer? line = some .breaking := by
  have hcolon : inToken ':' = false := by decide
  have hblank : inToken ' ' = false := by decide
  by_cases found : (breakingTokens.any fun token => (token ++ [' ']).isPrefixOf line) = true
  · exact Or.inr (by rw [Message.trailer?.eq_def, if_pos found])
  · left
    rw [Message.trailer?.eq_def, if_neg found]
    cases h with
    | breaking hmem =>
        refine absurd (List.any_eq_true.mpr ⟨_, hmem, ?_⟩) found
        rw [List.isPrefixOf_iff_prefix]
        exact ⟨_, List.append_assoc _ _ _⟩
    | token halpha hname =>
        simp only [halpha, if_true]
        rw [Text.dropWhile_run hname (by rintro _ ⟨⟩; exact hcolon)]
        rfl
    | reference halpha hname =>
        simp only [halpha, if_true]
        rw [Text.dropWhile_run hname (by rintro _ ⟨⟩; exact hblank)]
        rfl

/-- The line does not start with a letter. -/
def Unlettered (line : List Char) : Prop :=
  ∀ c, line.head? = some c → c.isAlpha = false

/-- A trailer starts with a letter. -/
theorem Unlettered.trailer?_eq_none {line : List Char} (h : Unlettered line) :
    Message.trailer? line = none := by
  cases htrailer : Message.trailer? line with
  | none => rfl
  | some t =>
      have hheads : ∀ token ∈ breakingTokens, token.head? = some 'B' := by decide
      have letter : ∃ c, line.head? = some c ∧ c.isAlpha = true := by
        cases Trailer.starts_of_trailer? htrailer with
        | @breaking token rest hmem =>
            have hhead : token.head? = some 'B' := hheads token hmem
            exact ⟨'B', by rw [List.head?_append, hhead]; rfl, by decide⟩
        | token halpha => exact ⟨_, rfl, halpha⟩
        | reference halpha => exact ⟨_, rfl, halpha⟩
      obtain ⟨c, hc, halpha⟩ := letter
      rw [h c hc] at halpha
      cases halpha

/-- The line starts with a character that is no letter and no blank. -/
def Barred (line : List Char) : Prop :=
  ∃ c, line.head? = some c ∧ c.isAlpha = false ∧ Text.isBlank c = false

namespace Barred

variable {line : List Char}

theorem unlettered (h : Barred line) : Unlettered line := by
  obtain ⟨c, hc, letter, -⟩ := h
  intro d hd
  rw [hc] at hd
  cases hd
  exact letter

theorem ne_nil (h : Barred line) : line ≠ [] := by
  rintro rfl
  obtain ⟨c, hc, -⟩ := h
  cases hc

/-- The mark stays when blanks at the end are left out. -/
theorem trimEnd (h : Barred line) : Barred (Text.trimEnd line) := by
  obtain ⟨c, hc, letter, filled⟩ := h
  refine ⟨c, ?_, letter, filled⟩
  obtain ⟨blanks, hblanks⟩ := Text.trimEnd_isPrefix line
  cases htrim : Text.trimEnd line with
  | nil =>
      have blank := Text.isBlank_of_trimEnd_eq_nil htrim (List.mem_of_head? hc)
      rw [filled] at blank
      cases blank
  | cons d rest =>
      rw [← hblanks, htrim] at hc
      exact hc

end Barred

/-! ## Blocks and paragraphs -/

/-- Lines that do not start and do not end with a blank line. -/
structure Block (ls : List (List Char)) : Prop where
  nonempty : ls ≠ []
  first : ls.head? ≠ some []
  last : ls.getLast? ≠ some []

/-- Lines without a blank line among them. -/
structure Paragraph (ls : List (List Char)) : Prop where
  nonempty : ls ≠ []
  filled : [] ∉ ls

/-- Lines end in a paragraph, and the lines above it end in a blank line. -/
structure LastParagraph (ls above paragraph : List (List Char)) : Prop where
  eq : ls = above ++ paragraph
  paragraph : Paragraph paragraph
  apart : ∀ l, above.getLast? = some l → l = []

theorem Paragraph.block {ls : List (List Char)} (h : Paragraph ls) : Block ls where
  nonempty := h.nonempty
  first hfirst := h.filled (List.mem_of_head? hfirst)
  last hlast := h.filled (List.mem_of_getLast? hlast)

/-- Lines are all blank, or a block between blank lines. -/
theorem exists_frame (ls : List (List Char)) :
    (∃ n, ls = List.replicate n []) ∨
      ∃ m block n, ls = List.replicate m [] ++ (block ++ List.replicate n []) ∧ Block block := by
  induction ls with
  | nil => exact Or.inl ⟨0, rfl⟩
  | cons l ls ih =>
      by_cases blank : l = []
      · subst blank
        rcases ih with ⟨n, rfl⟩ | ⟨m, block, n, rfl, hblock⟩
        · exact Or.inl ⟨n + 1, rfl⟩
        · exact Or.inr ⟨m + 1, block, n, rfl, hblock⟩
      · have first : ∀ rest : List (List Char), (l :: rest).head? ≠ some [] :=
          fun rest h => blank (Option.some.inj h)
        right
        rcases ih with ⟨n, rfl⟩ | ⟨m, block, n, rfl, hblock⟩
        · refine ⟨0, [l], n, rfl, List.cons_ne_nil _ _, first _, ?_⟩
          simpa using blank
        · refine ⟨0, l :: (List.replicate m [] ++ block), n, ?_, List.cons_ne_nil _ _, first _, ?_⟩
          · simp
          · rw [← List.cons_append, List.getLast?_append_of_ne_nil _ hblock.nonempty]
            exact hblock.last

theorem exists_lastParagraph {ls : List (List Char)} (nonempty : ls ≠ [])
    (last : ls.getLast? ≠ some []) : ∃ above paragraph, LastParagraph ls above paragraph := by
  induction ls with
  | nil => exact absurd rfl nonempty
  | cons l ls ih =>
      by_cases hls : ls = []
      · subst hls
        have filled : l ≠ [] := by simpa using last
        refine ⟨[], [l], rfl, ⟨List.cons_ne_nil _ _, by simpa using filled.symm⟩, ?_⟩
        rintro _ ⟨⟩
      · have hlast : ls.getLast? ≠ some [] := by
          rwa [← List.singleton_append, List.getLast?_append_of_ne_nil _ hls] at last
        obtain ⟨above, paragraph, rfl, hparagraph, apart⟩ := ih hls hlast
        -- A filled line right above the paragraph belongs to it.
        cases above with
        | cons a above =>
            refine ⟨l :: a :: above, paragraph, rfl, hparagraph, ?_⟩
            intro b hb
            exact apart b (by rwa [List.getLast?_cons_cons] at hb)
        | nil =>
            by_cases blank : l = []
            · refine ⟨[l], paragraph, rfl, hparagraph, ?_⟩
              rintro _ ⟨⟩
              exact blank
            · refine ⟨[], l :: paragraph, rfl, ⟨List.cons_ne_nil _ _, ?_⟩, ?_⟩
              · rw [List.mem_cons, not_or]
                exact ⟨Ne.symm blank, hparagraph.filled⟩
              · rintro _ ⟨⟩

theorem Block.exists_lastParagraph {ls : List (List Char)} (h : Block ls) :
    ∃ above paragraph, LastParagraph ls above paragraph :=
  Message.exists_lastParagraph h.nonempty h.last

theorem Block.reverse {ls : List (List Char)} (h : Block ls) : Block ls.reverse where
  nonempty hnil := h.nonempty (List.reverse_eq_nil_iff.mp hnil)
  first hfirst := h.last (by rwa [List.head?_reverse] at hfirst)
  last hlast := h.first (by rwa [List.getLast?_reverse] at hlast)

/-- Lines end in barred ones below a blank line. -/
def Closed (ls : List (List Char)) : Prop :=
  ∃ above block, ls = above ++ [] :: block ∧ block ≠ [] ∧ ∀ l ∈ block, Barred l

theorem Closed.below {ls : List (List Char)} (h : Closed ls) (front : List (List Char)) :
    Closed (front ++ ls) := by
  obtain ⟨above, block, rfl, nonempty, barred⟩ := h
  exact ⟨front ++ above, block, (List.append_assoc _ _ _).symm, nonempty, barred⟩

/-! ## Counting blank lines -/

theorem Trimmed.reverse {ls : List (List Char)} (h : Trimmed ls) : Trimmed ls.reverse :=
  fun l hl => h l (List.mem_reverse.mp hl)

theorem trimmed_replicate (n : Nat) : Trimmed (List.replicate n []) := by
  intro l hl
  rw [List.eq_of_mem_replicate hl]
  rfl

theorem trimmed_append {front back : List (List Char)} :
    Trimmed (front ++ back) ↔ Trimmed front ∧ Trimmed back :=
  List.forall_mem_append

theorem allBlank_of_mem_replicate {n : Nat} :
    ∀ l ∈ List.replicate n ([] : List Char), Text.allBlank l = true := by
  intro l hl
  rw [List.eq_of_mem_replicate hl]
  rfl

section Frame

variable {block above paragraph front back : List (List Char)} {m n : Nat}

theorem Block.eq_zero (h : Block (List.replicate m [] ++ back)) : m = 0 := by
  cases m with
  | zero => rfl
  | succ m => exact absurd rfl h.first

/-- Blank lines stop where a block starts. -/
theorem Block.allBlank_first (h : Block block) (trimmed : Trimmed block) :
    ∀ l, (block ++ back).head? = some l → Text.allBlank l = false := by
  intro l hl
  rw [List.head?_append_of_ne_nil _ h.nonempty] at hl
  refine Text.allBlank_eq_false (trimmed l (List.mem_of_head? hl)) ?_
  rintro rfl
  exact h.first hl

theorem blanksBefore_replicate_append (h : Block block) (trimmed : Trimmed block) :
    blanksBefore (List.replicate m [] ++ (block ++ back)) = m := by
  rw [blanksBefore, Text.takeWhile_run allBlank_of_mem_replicate (h.allBlank_first trimmed),
    List.length_replicate]

theorem blanksAfter_append_replicate (h : Block block) (trimmed : Trimmed block) :
    blanksAfter (front ++ (block ++ List.replicate n [])) = n := by
  rw [blanksAfter, List.reverse_append, List.reverse_append, List.reverse_replicate,
    List.append_assoc, blanksBefore_replicate_append h.reverse trimmed.reverse]

theorem blanksBefore_replicate (n : Nat) : blanksBefore (List.replicate n []) = n := by
  rw [blanksBefore, List.takeWhile_replicate, if_pos (by rfl), List.length_replicate]

theorem blanksAfter_replicate (n : Nat) : blanksAfter (List.replicate n []) = n := by
  rw [blanksAfter, List.reverse_replicate, blanksBefore_replicate]

theorem block?_replicate (n : Nat) : block? (List.replicate n []) = none := by
  rw [block?, if_pos (List.all_eq_true.mpr allBlank_of_mem_replicate)]

theorem block?_eq_some (h : Block block) (trimmed : Trimmed block) :
    block? (List.replicate m [] ++ (block ++ List.replicate n []))
      = some (Text.joinLines block) := by
  obtain ⟨l, hl⟩ : ∃ l, block.head? = some l := by
    rw [← Option.isSome_iff_exists, List.isSome_head?]
    exact h.nonempty
  have hfirst : (block ++ []).head? = some l := by rwa [List.append_nil]
  have filled : Text.allBlank l = false := h.allBlank_first trimmed l hfirst
  rw [block?, if_neg, Text.dropWhile_run allBlank_of_mem_replicate (h.allBlank_first trimmed),
    List.reverse_append, List.reverse_replicate,
    ← List.append_nil block.reverse,
    Text.dropWhile_run allBlank_of_mem_replicate (h.reverse.allBlank_first trimmed.reverse),
    List.append_nil, List.reverse_reverse]
  rw [List.all_eq_true]
  intro hall
  have hmem : l ∈ List.replicate m [] ++ (block ++ List.replicate n []) :=
    List.mem_append_right _ (List.mem_append_left _ (List.mem_of_head? hl))
  rw [hall l hmem] at filled
  cases filled

/-- The text of a block ends where its last line does. -/
theorem Block.trimEnd_joinLines (h : Block block) (trimmed : Trimmed block) :
    Text.trimEnd (Text.joinLines block) = Text.joinLines block := by
  have hlast : block.getLast? = some (block.getLast h.nonempty) :=
    List.getLast?_eq_some_getLast h.nonempty
  have filled : block.getLast h.nonempty ≠ [] := by
    intro hnil
    exact h.last (by rw [hlast, hnil])
  refine Text.trimEnd_eq_self fun c hc => ?_
  rw [Text.getLast?_joinLines hlast filled, ← trimmed _ (List.getLast_mem h.nonempty)] at hc
  exact Text.isBlank_of_getLast?_trimEnd hc

/-! ## The footer rule -/

/-- The footer rule selects a paragraph below these lines: it starts with a trailer, and where that
is a token with a text, some line above is filled. -/
def Selects (above paragraph : List (List Char)) : Prop :=
  ∃ line more t, paragraph = line :: more ∧ Trailer.Starts t line ∧
    (t = .token → ∃ l ∈ above, l ≠ [])

theorem all_allBlank_eq_false_iff (trimmed : Trimmed above) :
    above.all Text.allBlank = false ↔ ∃ l ∈ above, l ≠ [] := by
  rw [List.all_eq_false]
  refine exists_congr fun l => and_congr_right fun hl => ?_
  constructor
  · rintro blank rfl
    exact blank rfl
  · intro filled
    rw [Text.allBlank_eq_false (trimmed l hl) filled]
    exact Bool.false_ne_true

theorem selects_cons_iff (trimmed : Trimmed above) {line : List Char} {more : List (List Char)} :
    Selects above (line :: more) ↔ opensFooter above line = true := by
  have hfilled := all_allBlank_eq_false_iff trimmed
  constructor
  · rintro ⟨_, _, t, ⟨⟩, starts, hbody⟩
    rw [opensFooter]
    rcases starts.trailer? with htrailer | htrailer
    · rw [htrailer]
      cases t with
      | breaking => rfl
      | reference => rfl
      | token => simp [hfilled.mpr (hbody rfl)]
    · rw [htrailer]
  · intro opens
    rw [opensFooter] at opens
    split at opens
    next => cases opens
    next htrailer =>
      refine ⟨line, more, _, rfl, Trailer.starts_of_trailer? htrailer, fun _ => ?_⟩
      exact hfilled.mp (by simpa using opens)
    next t htrailer other =>
      exact ⟨line, more, t, rfl, Trailer.starts_of_trailer? other, fun same => absurd same htrailer⟩

/-- The last paragraph is found from the end. -/
theorem splitLast_reverse (trimmed : Trimmed paragraph) (filled : Paragraph paragraph)
    (apart : ∀ l, above.getLast? = some l → l = []) :
    splitLast (above ++ (paragraph ++ List.replicate n [])).reverse
      = (above, paragraph ++ List.replicate n []) := by
  have inside : ∀ l ∈ paragraph.reverse, (!Text.allBlank l) = true := by
    intro l hl
    rw [List.mem_reverse] at hl
    rw [Text.allBlank_eq_false (trimmed l hl) (ne_of_mem_of_not_mem hl filled.filled)]
    rfl
  have outside : ∀ l, above.reverse.head? = some l → (!Text.allBlank l) = false := by
    intro l hl
    rw [List.head?_reverse] at hl
    rw [apart l hl]
    rfl
  have start : ∀ l, (paragraph.reverse ++ above.reverse).head? = some l → Text.allBlank l = false :=
    filled.block.reverse.allBlank_first trimmed.reverse
  rw [List.reverse_append, List.reverse_append, List.reverse_replicate, List.append_assoc,
    splitLast, Text.takeWhile_run allBlank_of_mem_replicate start,
    Text.dropWhile_run allBlank_of_mem_replicate start]
  simp only [Text.takeWhile_run inside outside, Text.dropWhile_run inside outside,
    List.reverse_reverse, List.reverse_replicate]

theorem splitFooter_replicate (n : Nat) :
    splitFooter (List.replicate n []) = (List.replicate n [], []) := by
  have hsplit : splitLast (List.replicate n []) = ([], List.replicate n []) := by
    rw [splitLast, List.dropWhile_replicate, if_pos (by rfl), List.takeWhile_replicate,
      if_pos (by rfl), List.reverse_replicate]
    rfl
  rw [splitFooter, List.reverse_replicate, hsplit]
  cases n with
  | zero => rfl
  | succ n => rfl

theorem splitFooter_of_selects (trimmed : Trimmed block)
    (last : LastParagraph block above paragraph) (selects : Selects above paragraph) :
    splitFooter (block ++ List.replicate n []) = (above, paragraph ++ List.replicate n []) := by
  obtain ⟨rfl, filled, apart⟩ := last
  obtain ⟨habove, hparagraph⟩ := trimmed_append.mp trimmed
  rw [List.append_assoc, splitFooter, splitLast_reverse hparagraph filled apart]
  cases paragraph with
  | nil => exact absurd rfl filled.nonempty
  | cons line more => simp [(selects_cons_iff habove).mp selects]

theorem splitFooter_of_not_selects (trimmed : Trimmed block)
    (last : LastParagraph block above paragraph) (skipped : ¬Selects above paragraph) :
    splitFooter (block ++ List.replicate n []) = (block ++ List.replicate n [], []) := by
  obtain ⟨rfl, filled, apart⟩ := last
  obtain ⟨habove, hparagraph⟩ := trimmed_append.mp trimmed
  rw [List.append_assoc, splitFooter, splitLast_reverse hparagraph filled apart]
  cases paragraph with
  | nil => exact absurd rfl filled.nonempty
  | cons line more =>
      rw [selects_cons_iff habove] at skipped
      simp [skipped]

/-- Where barred lines stand below the last blank line, there is no footer. -/
theorem Closed.splitFooter_eq_self {rest : List (List Char)} (closed : Closed rest)
    (trimmed : Trimmed rest) : splitFooter rest = (rest, []) := by
  obtain ⟨above, block, rfl, nonempty, barred⟩ := closed
  have last : LastParagraph (above ++ [] :: block) (above ++ [[]]) block := by
    refine ⟨by simp, ⟨nonempty, fun blank => ?_⟩, fun l hl => by simpa using hl.symm⟩
    exact (barred [] blank).ne_nil rfl
  have skipped : ¬Selects (above ++ [[]]) block := by
    rintro ⟨line, more, t, rfl, starts, -⟩
    have plain := (barred line List.mem_cons_self).unlettered.trailer?_eq_none
    rcases starts.trailer? with htrailer | htrailer <;> simp [plain] at htrailer
  have hsplit := splitFooter_of_not_selects (n := 0) trimmed last skipped
  simpa using hsplit

/-! ## Blank lines in front -/

theorem LastParagraph.below_replicate (last : LastParagraph block above paragraph) (m : Nat) :
    LastParagraph (List.replicate m [] ++ block) (List.replicate m [] ++ above) paragraph where
  eq := by rw [last.eq, List.append_assoc]
  paragraph := last.paragraph
  apart l hl := by
    by_cases hnil : above = []
    · rw [hnil, List.append_nil] at hl
      exact List.eq_of_mem_replicate (List.mem_of_getLast? hl)
    · exact last.apart l (by rwa [List.getLast?_append_of_ne_nil _ hnil] at hl)

/-- Blank lines do not matter for the footer rule. -/
theorem selects_congr {other : List (List Char)} (same : ∀ l, l ≠ [] → (l ∈ above ↔ l ∈ other)) :
    Selects above paragraph ↔ Selects other paragraph := by
  have hfilled : (∃ l ∈ above, l ≠ []) ↔ ∃ l ∈ other, l ≠ [] := by
    constructor
    · rintro ⟨l, hl, filled⟩
      exact ⟨l, (same l filled).mp hl, filled⟩
    · rintro ⟨l, hl, filled⟩
      exact ⟨l, (same l filled).mpr hl, filled⟩
  simp only [Selects, hfilled]

theorem selects_replicate_append_iff :
    Selects (List.replicate m [] ++ above) paragraph ↔ Selects above paragraph := by
  refine selects_congr fun l filled => ?_
  rw [List.mem_append, List.mem_replicate]
  exact or_iff_right fun blank => filled blank.2

theorem selects_append_replicate_iff :
    Selects (above ++ List.replicate m []) paragraph ↔ Selects above paragraph := by
  refine selects_congr fun l filled => ?_
  rw [List.mem_append, List.mem_replicate]
  exact or_iff_left fun blank => filled blank.2

end Frame

end ReleasePlanner.Message
