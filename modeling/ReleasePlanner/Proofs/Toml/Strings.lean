import ReleasePlanner.Proofs.Toml.Reader
import ReleasePlanner.Toml.Printer
import Mathlib.Tactic.SplitIfs

/-!
# Strings that are written and read

Whatever form a string is written in, it is read back (`run_string_renderString`).
The text after it must not go on with a quote.

In the forms of several lines quotes may stand for themselves, so a run of them
is read at once.  What is read is therefore told of a run of quotes and the text
after it (`Body.Writes.run_eq`), and a quote of the text only makes the run
longer.
-/

namespace ReleasePlanner.Toml

variable {c q : Char} {text rest done : List Char} {fuel k : Nat}

/-! ## Single characters -/

theorem isControl_eq_false :
    isControl c = false ↔ c = '\t' ∨ c = '\n' ∨ (0x20 ≤ c.toNat ∧ c.toNat ≠ 0x7F) := by
  rw [isControl]
  by_cases tab : c = '\t'
  · subst tab
    decide
  · by_cases feed : c = '\n'
    · subst feed
      decide
    · simp [tab, feed]

theorem inComment_of_plain (plain : isControl c = false) (feed : c ≠ '\n') :
    inComment c = true := by
  rcases isControl_eq_false.mp plain with rfl | rfl | ⟨low, high⟩
  · rfl
  · exact absurd rfl feed
  · simp [inComment, low, high]

theorem inBasic_of_plain (plain : isControl c = false) (feed : c ≠ '\n') (quote : c ≠ '"')
    (slash : c ≠ '\\') : inBasic c = true := by
  simp [inBasic, inComment_of_plain plain feed, quote, slash]

theorem inLiteral_of_plain (plain : isControl c = false) (feed : c ≠ '\n') (quote : c ≠ '\x27') :
    inLiteral c = true := by
  simp [inLiteral, inComment_of_plain plain feed, quote]

/-- The code of a character that has to be escaped can be read from four digits. -/
theorem hexDigits4_ascii : ∀ n < 128, (hexDigits4 n).length = 4 ∧
    ((hexDigits4 n).all fun c => (Text.hexValue? c).isSome) = true ∧
    (hexDigits4 n).foldl (fun n c => n * 16 + (Text.hexValue? c).getD 0) 0 = n := by
  decide +kernel

theorem run_codePoint (control : isControl c = true) (text : List Char) :
    (codePoint 4).run (hexDigits4 c.toNat ++ text) = some (c, text) := by
  have small : c.toNat < 128 := by
    simp only [isControl, Bool.or_eq_true, Bool.and_eq_true, decide_eq_true_eq, beq_iff_eq]
      at control
    omega
  obtain ⟨length, all, value⟩ := hexDigits4_ascii c.toNat small
  have taken := run_takeExactly all text
  rw [length] at taken
  have valid : c.toNat < 0xD800 := by omega
  simp [codePoint, taken, value, valid, Char.ofNat_toNat]

/-- A character is written as an escape, or it stands for itself. -/
theorem escapeChar_cases (c : Char) :
    (∃ letter word, escapeChar c = '\\' :: letter :: word ∧
      (isSpace letter = false ∧ letter ≠ '\n' ∧ letter ≠ '\r') ∧
      ∀ text, escape.run (letter :: (word ++ text)) = some (c, text)) ∨
    escapeChar c = [c] ∧ inBasic c = true := by
  have simple : ∀ letter : Char, isSpace letter = false ∧ letter ≠ '\n' ∧ letter ≠ '\r' →
      (∀ text, escape.run (letter :: text) = some (c, text)) →
      ∃ other word, ['\\', letter] = '\\' :: other :: word ∧
        (isSpace other = false ∧ other ≠ '\n' ∧ other ≠ '\r') ∧
        ∀ text, escape.run (other :: (word ++ text)) = some (c, text) :=
    fun letter visible run => ⟨letter, [], rfl, visible, run⟩
  rw [escapeChar]
  split_ifs with back tab feed form ret quote slash control
  · rw [beq_iff_eq] at back
    exact Or.inl (simple 'b' (by decide) (by simp [escape, back]))
  · rw [beq_iff_eq] at tab
    exact Or.inl (simple 't' (by decide) (by simp [escape, tab]))
  · rw [beq_iff_eq] at feed
    exact Or.inl (simple 'n' (by decide) (by simp [escape, feed]))
  · rw [beq_iff_eq] at form
    exact Or.inl (simple 'f' (by decide) (by simp [escape, form]))
  · rw [beq_iff_eq] at ret
    exact Or.inl (simple 'r' (by decide) (by simp [escape, ret]))
  · rw [beq_iff_eq] at quote
    exact Or.inl (simple '"' (by decide) (by simp [escape, quote]))
  · rw [beq_iff_eq] at slash
    exact Or.inl (simple '\\' (by decide) (by simp [escape, slash]))
  · exact Or.inl ⟨'u', hexDigits4 c.toNat, rfl, by decide, by simp [escape, run_codePoint control]⟩
  · simp only [beq_iff_eq, Bool.not_eq_true] at feed quote slash control
    exact Or.inr ⟨rfl, inBasic_of_plain control feed quote slash⟩

theorem ne_of_inBasic (basic : inBasic c = true) : c ≠ '"' ∧ c ≠ '\\' ∧ c ≠ '\n' ∧ c ≠ '\r' := by
  refine ⟨?_, ?_, ?_, ?_⟩
  all_goals
    rintro rfl
    revert basic
    decide

/-! ## On one line -/

/-- An escaped character is read back. -/
theorem run_basicBody_escapeChar (fuel : Nat) (done : List Char) (c : Char) (text : List Char) :
    (basicBody (fuel + 1) done).run (escapeChar c ++ text)
      = (basicBody fuel (c :: done)).run text := by
  rcases escapeChar_cases c with ⟨letter, word, written, -, run⟩ | ⟨written, basic⟩
  · rw [written]
    simp [basicBody, run]
  · obtain ⟨quote, slash, -⟩ := ne_of_inBasic basic
    rw [written]
    simp [basicBody, quote, slash, basic]

theorem run_basicBody (enough : text.length < fuel) :
    (basicBody fuel done).run (text.flatMap escapeChar ++ '"' :: rest)
      = some (done.reverse ++ text, rest) := by
  induction text generalizing fuel done with
  | nil =>
      cases fuel with
      | zero => cases enough
      | succ fuel => simp [basicBody]
  | cons c text ih =>
      cases fuel with
      | zero => cases enough
      | succ fuel =>
          rw [List.flatMap_cons, List.append_assoc, run_basicBody_escapeChar,
            ih (Nat.lt_of_succ_lt_succ enough)]
          simp

theorem escapeChar_ne_nil (c : Char) : escapeChar c ≠ [] := by
  rcases escapeChar_cases c with ⟨letter, word, written, -⟩ | ⟨written, -⟩
  · simp [written]
  · simp [written]

theorem length_le_flatMap_escapeChar (text : List Char) :
    text.length ≤ (text.flatMap escapeChar).length := by
  induction text with
  | nil => exact Nat.le_refl 0
  | cons c text ih =>
      have := List.length_pos_iff.mpr (escapeChar_ne_nil c)
      simp only [List.flatMap_cons, List.length_append, List.length_cons]
      omega

theorem run_shortString_quote (text : List Char) :
    shortString.run ('"' :: text)
      = ((basicBody (text.length + 1) []).run text).map fun r => (String.ofList r.1, r.2) := by
  simp [shortString, Option.map_eq_bind]

theorem run_shortString_shortBasic (text rest : List Char) :
    shortString.run (shortBasic text ++ rest) = some (String.ofList text, rest) := by
  have enough : text.length < (text.flatMap escapeChar ++ '"' :: rest).length + 1 := by
    have := length_le_flatMap_escapeChar text
    simp only [List.length_append]
    omega
  have form : shortBasic text ++ rest = '"' :: (text.flatMap escapeChar ++ '"' :: rest) := by
    simp [shortBasic]
  rw [form, run_shortString_quote, run_basicBody enough]
  rfl

theorem run_shortString_literal (literal : text.all inLiteral = true) (rest : List Char) :
    shortString.run ('\x27' :: (text ++ ['\x27']) ++ rest) = some (String.ofList text, rest) := by
  have quote : inLiteral '\x27' = false := by decide
  have taken : (text ++ '\x27' :: rest).takeWhile inLiteral = text := by
    rw [List.takeWhile_append_of_pos (List.all_eq_true.mp literal)]
    simp [quote]
  have dropped : (text ++ '\x27' :: rest).dropWhile inLiteral = '\x27' :: rest := by
    rw [List.dropWhile_append_of_pos (List.all_eq_true.mp literal)]
    simp [quote]
  simp [shortString, literalBody, taken, dropped]

/-! ## Quotes on several lines -/

/-- Up to two quotes stand for themselves. -/
theorem quotesOrEnd_inside (few : k < 3) (ended : text.head? ≠ some q) :
    quotesOrEnd q (List.replicate k q ++ text) = (List.replicate k q, text, false) := by
  have tail : text.takeWhile (· == q) = [] := by
    cases text with
    | nil => rfl
    | cons c text => exact List.takeWhile_cons_of_neg (by simpa using ended)
  have run : (List.replicate k q ++ text).takeWhile (· == q) = List.replicate k q := by
    rw [List.takeWhile_append_of_pos (by simp), tail, List.append_nil]
  rw [quotesOrEnd, run, List.length_replicate, if_pos few, List.drop_left' List.length_replicate]

/-- Three quotes close a string, with up to two of its own in front. -/
theorem quotesOrEnd_end (few : k < 3) (ended : rest.head? ≠ some q) :
    quotesOrEnd q (List.replicate (k + 3) q ++ rest) = (List.replicate k q, rest, true) := by
  have tail : rest.takeWhile (· == q) = [] := by
    cases rest with
    | nil => rfl
    | cons c rest => exact List.takeWhile_cons_of_neg (by simpa using ended)
  have run : (List.replicate (k + 3) q ++ rest).takeWhile (· == q) = List.replicate (k + 3) q := by
    rw [List.takeWhile_append_of_pos (by simp), tail, List.append_nil]
  have most : min (k + 3) 5 = k + 3 := by omega
  rw [quotesOrEnd, run, List.length_replicate, if_neg (by omega)]
  simp only [most, Nat.add_sub_cancel, List.drop_left' List.length_replicate]

/-- A quote of the text makes the run before it longer. -/
theorem replicate_append_cons (k : Nat) (q : Char) (text : List Char) :
    List.replicate k q ++ q :: text = List.replicate (k + 1) q ++ text := by
  rw [List.replicate_succ', List.append_assoc, List.singleton_append]

/-! ## On several lines -/

/-- Reads the inside of a string of several lines, given what has been read before, last first. -/
abbrev Body := Nat → List Char → Reader (List Char)

/-- What the reader does with a run of its quotes. -/
structure Body.ReadsQuotes (q : Char) (body : Body) : Prop where
  inside : ∀ {k fuel done text}, k + 1 < 3 → text.head? ≠ some q →
    (body (fuel + 1) done).run (List.replicate (k + 1) q ++ text)
      = (body fuel (List.replicate (k + 1) q ++ done)).run text
  closing : ∀ {k fuel done rest}, k < 3 → rest.head? ≠ some q →
    (body (fuel + 1) done).run (List.replicate (k + 3) q ++ rest)
      = some ((List.replicate k q ++ done).reverse, rest)

/-- The reader reads `word`, which is not a quote, as a character. -/
structure Body.ReadsAs (q : Char) (body : Body) (word : List Char) (c : Char) : Prop where
  head_ne : ∀ text, (word ++ text).head? ≠ some q
  run_eq : ∀ fuel done text,
    (body (fuel + 1) done).run (word ++ text) = (body fuel (c :: done)).run text

/-- How a text may be written after `k` quotes: its quotes stand for themselves, no more than two in
a row, and every other character is a word that is read as this character. -/
inductive Body.Writes (q : Char) (body : Body) : Nat → List Char → List Char → Prop where
  | nil {k : Nat} : k < 3 → Writes q body k [] []
  | quote {k : Nat} {text written : List Char} :
      Writes q body (k + 1) text written →
      Writes q body k (q :: text) (q :: written)
  | char {k : Nat} {c : Char} {word text written : List Char} :
      k < 3 →
      body.ReadsAs q word c →
      Writes q body 0 text written →
      Writes q body k (c :: text) (word ++ written)

namespace Body

variable {body : Body} {written word : List Char}

/-- A run of quotes is read together with the character after it. -/
theorem ReadsQuotes.run_char (reads : body.ReadsQuotes q) (few : k < 3)
    (readsAs : body.ReadsAs q word c) (enough : k + 1 ≤ fuel) :
    ∃ left, fuel ≤ left + k + 1 ∧ ∀ done text,
      (body fuel done).run (List.replicate k q ++ (word ++ text))
        = (body left (c :: (List.replicate k q ++ done))).run text := by
  cases k with
  | zero =>
      obtain ⟨left, rfl⟩ := Nat.exists_eq_add_of_le' enough
      exact ⟨left, Nat.le_refl _, readsAs.run_eq left⟩
  | succ k =>
      obtain ⟨left, rfl⟩ := Nat.exists_eq_add_of_le' (Nat.le_trans (by omega : 2 ≤ _) enough)
      refine ⟨left, by omega, ?_⟩
      intro done text
      rw [reads.inside few (readsAs.head_ne text), readsAs.run_eq]

/-- What is written is read, up to the closing quotes and no further. -/
theorem Writes.run_eq (writes : body.Writes q k text written) (reads : body.ReadsQuotes q)
    (ended : rest.head? ≠ some q) (enough : k + text.length + 1 ≤ fuel) :
    (body fuel done).run (List.replicate k q ++ (written ++ (three q ++ rest)))
      = some (done.reverse ++ (List.replicate k q ++ text), rest) := by
  induction writes generalizing fuel done with
  | @nil k few =>
      have closing : List.replicate k q ++ ([] ++ (three q ++ rest))
          = List.replicate (k + 3) q ++ rest := by
        rw [List.replicate_add, List.nil_append, List.append_assoc]
        rfl
      obtain ⟨left, rfl⟩ := Nat.exists_eq_add_of_le' enough
      rw [closing, ← Nat.add_assoc, reads.closing few ended]
      simp
  | quote _ ih =>
      rw [List.length_cons] at enough
      rw [List.cons_append, replicate_append_cons, ih (by omega), replicate_append_cons]
  | @char k c word text written few readsAs _ ih =>
      rw [List.length_cons] at enough
      have pending : k + 1 ≤ fuel := by omega
      obtain ⟨left, most, run⟩ := reads.run_char few readsAs pending
      have later : 0 + text.length + 1 ≤ left := by omega
      have read := fun done => @ih done left later
      simp only [List.replicate_zero, List.nil_append] at read
      rw [List.append_assoc, run, read]
      simp

theorem ReadsAs.length_pos (readsAs : body.ReadsAs q word c) : 0 < word.length := by
  refine List.length_pos_iff.mpr ?_
  rintro rfl
  exact readsAs.head_ne [q] rfl

theorem Writes.length_le (writes : body.Writes q k text written) :
    text.length ≤ written.length := by
  induction writes with
  | nil => exact Nat.le_refl _
  | quote _ ih => exact Nat.succ_le_succ ih
  | char _ readsAs _ ih =>
      have := readsAs.length_pos
      rw [List.length_cons, List.length_append]
      omega

/-- What is written after the opening quotes is read. -/
theorem Writes.run_opened (writes : body.Writes q 0 text written) (reads : body.ReadsQuotes q)
    (ended : rest.head? ≠ some q) (before : List Char) :
    (body ((before ++ (written ++ (three q ++ rest))).length + 1) []).run
        (written ++ (three q ++ rest)) = some (text, rest) := by
  have length := writes.length_le
  have enough : 0 + text.length + 1
      ≤ (before ++ (written ++ (three q ++ rest))).length + 1 := by
    simp only [List.length_append]
    omega
  exact writes.run_eq reads ended enough

end Body

/-! ### Literally -/

theorem readsQuotes_longLiteralBody : Body.ReadsQuotes '\x27' longLiteralBody where
  inside := by
    intro k fuel done text few ended
    have inside := quotesOrEnd_inside few ended
    rw [List.replicate_succ, List.cons_append] at inside ⊢
    simp [longLiteralBody, inside]
  closing := by
    intro k fuel done rest few ended
    have closed := quotesOrEnd_end few ended
    rw [List.replicate_succ, List.cons_append] at closed ⊢
    simp [longLiteralBody, closed]

theorem readsAs_longLiteralBody (plain : isControl c = false) (quote : c ≠ '\x27') :
    Body.ReadsAs '\x27' longLiteralBody [c] c where
  head_ne text := by simpa using quote
  run_eq fuel done text := by
    by_cases feed : c = '\n'
    · subst feed
      simp [longLiteralBody, afterNewline?]
    · have literal := inLiteral_of_plain plain feed quote
      have ret : c ≠ '\r' := by
        rintro rfl
        cases plain
      simp [longLiteralBody, feed, ret, literal, afterNewline?]

theorem le_longestRun (q : Char) (k : Nat) (text : List Char) : k ≤ longestRun q k text := by
  induction text generalizing k with
  | nil => exact Nat.le_refl k
  | cons c text ih =>
      rw [longestRun]
      split
      next => exact Nat.le_of_succ_le (ih (k + 1))
      next => exact Nat.le_max_left _ _

/-- A text without long runs of the quote can be written as it is. -/
theorem writes_longLiteralBody (plain : ∀ c ∈ text, isControl c = false)
    (short : longestRun '\x27' k text ≤ 2) :
    Body.Writes '\x27' longLiteralBody k text text := by
  have few : k < 3 := Nat.lt_succ_of_le (Nat.le_trans (le_longestRun _ _ _) short)
  induction text generalizing k with
  | nil => exact .nil few
  | cons c text ih =>
      have plainText : ∀ d ∈ text, isControl d = false :=
        fun d listed => plain d (List.mem_cons_of_mem c listed)
      rw [longestRun] at short
      by_cases quote : c = '\x27'
      · subst quote
        rw [if_pos (beq_self_eq_true _)] at short
        have longer := le_longestRun '\x27' (k + 1) text
        exact .quote (ih plainText short (by omega))
      · rw [if_neg (by simpa using quote)] at short
        have readsAs := readsAs_longLiteralBody (plain c List.mem_cons_self) quote
        exact .char few readsAs (ih plainText (by omega) (by omega))

/-! ### With escapes -/

theorem readsQuotes_longBasicBody : Body.ReadsQuotes '"' longBasicBody where
  inside := by
    intro k fuel done text few ended
    have inside := quotesOrEnd_inside few ended
    rw [List.replicate_succ, List.cons_append] at inside ⊢
    simp [longBasicBody, inside]
  closing := by
    intro k fuel done rest few ended
    have closed := quotesOrEnd_end few ended
    rw [List.replicate_succ, List.cons_append] at closed ⊢
    simp [longBasicBody, closed]

theorem readsAs_longBasicBody_newline : Body.ReadsAs '"' longBasicBody ['\n'] '\n' where
  head_ne text := by simp
  run_eq fuel done text := by simp [longBasicBody, afterNewline?]

/-- A backslash goes on to the next line only before spaces and line ends. -/
theorem afterContinuation?_cons (space : isSpace c = false) (feed : c ≠ '\n') (ret : c ≠ '\r')
    (text : List Char) : afterContinuation? (c :: text) = none := by
  simp [afterContinuation?, space, afterNewline?, feed, ret]

theorem readsAs_longBasicBody_escapeChar (c : Char) :
    Body.ReadsAs '"' longBasicBody (escapeChar c) c := by
  rcases escapeChar_cases c with ⟨letter, word, written, ⟨space, feed, ret⟩, run⟩ | ⟨written, basic⟩
  · rw [written]
    refine ⟨by simp, ?_⟩
    intro fuel done text
    simp [longBasicBody, afterContinuation?_cons space feed ret, run]
  · obtain ⟨quote, slash, feed, ret⟩ := ne_of_inBasic basic
    rw [written]
    refine ⟨by simpa using quote, ?_⟩
    intro fuel done text
    simp [longBasicBody, feed, ret, basic, afterNewline?]

/-- Where every third quote is escaped, any text can be written. -/
theorem writes_longBasicBody (few : k < 3) (text : List Char) :
    Body.Writes '"' longBasicBody k text (escapeLines k text) := by
  induction text generalizing k with
  | nil => exact .nil few
  | cons c text ih =>
      by_cases feed : c = '\n'
      · subst feed
        exact .char few readsAs_longBasicBody_newline (ih (by decide))
      by_cases quote : c = '"'
      · subst quote
        rw [escapeLines]
        split
        next fewer => exact .quote (ih (by omega))
        next =>
          have escaped : escapeChar '"' = ['\\', '"'] := by decide
          have readsAs := readsAs_longBasicBody_escapeChar '"'
          rw [escaped] at readsAs
          exact .char few readsAs (ih (by decide))
      · rw [escapeLines]
        · exact .char few (readsAs_longBasicBody_escapeChar c) (ih (by decide))
        · exact feed
        · exact quote

/-! ## Every form -/

theorem afterNewline?_eq_none (feed : text.head? ≠ some '\n') (ret : text.head? ≠ some '\r') :
    afterNewline? text = none := by
  cases text with
  | nil => rfl
  | cons c text =>
      have hfeed : c ≠ '\n' := by simpa using feed
      have hret : c ≠ '\r' := by simpa using ret
      simp [afterNewline?, hfeed, hret]

/-- The line end after the opening quotes is no part of the text. -/
theorem run_firstNewline {written : List Char}
    (quiet : '\n' ∉ text → afterNewline? written = none) :
    firstNewline.run (opening text ++ written) = some ((), written) := by
  rw [opening]
  by_cases breaks : '\n' ∈ text
  · simp [firstNewline, breaks, afterNewline?]
  · simp [firstNewline, breaks, quiet breaks]

theorem escapeLines_quiet (feed : '\n' ∉ text) (rest : List Char) :
    afterNewline? (escapeLines 0 text ++ (three '"' ++ rest)) = none := by
  cases text with
  | nil => exact afterNewline?_eq_none (by simp [escapeLines, three]) (by simp [escapeLines, three])
  | cons c text =>
      have hfeed : c ≠ '\n' := fun same => feed (same ▸ List.mem_cons_self)
      by_cases quote : c = '"'
      · subst quote
        exact afterNewline?_eq_none (by simp [escapeLines]) (by simp [escapeLines])
      · have form : escapeLines 0 (c :: text) = escapeChar c ++ escapeLines 0 text := by
          rw [escapeLines]
          · exact hfeed
          · exact quote
        rcases escapeChar_cases c with ⟨letter, word, written, -⟩ | ⟨written, basic⟩
        · exact afterNewline?_eq_none (by simp [form, written]) (by simp [form, written])
        · obtain ⟨-, -, -, hret⟩ := ne_of_inBasic basic
          exact afterNewline?_eq_none (by simpa [form, written] using hfeed)
            (by simpa [form, written] using hret)

theorem run_string_longBasic (text : List Char) (ended : rest.head? ≠ some '"') :
    string.run (longBasic text ++ rest) = some (String.ofList text, rest) := by
  have form : longBasic text ++ rest
      = '"' :: '"' :: '"' :: (opening text ++ (escapeLines 0 text ++ (three '"' ++ rest))) := by
    simp [longBasic, three]
  have opened := run_firstNewline fun feed : '\n' ∉ text => escapeLines_quiet feed rest
  have body := (writes_longBasicBody (by decide) text).run_opened readsQuotes_longBasicBody ended
    (opening text)
  rw [form, string]
  simp only [run_bind, run_get, Option.bind_some, run_set, opened, body, run_pure]

theorem run_string_longLiteral (plain : ∀ c ∈ text, isControl c = false)
    (short : longestRun '\x27' 0 text ≤ 2) (ended : rest.head? ≠ some '\x27') :
    string.run (longLiteral text ++ rest) = some (String.ofList text, rest) := by
  have form : longLiteral text ++ rest
      = '\x27' :: '\x27' :: '\x27' :: (opening text ++ (text ++ (three '\x27' ++ rest))) := by
    simp [longLiteral, three]
  have quiet : '\n' ∉ text → afterNewline? (text ++ (three '\x27' ++ rest)) = none := by
    intro feed
    cases text with
    | nil => exact afterNewline?_eq_none (by simp [three]) (by simp [three])
    | cons c text =>
        have hfeed : c ≠ '\n' := fun same => feed (same ▸ List.mem_cons_self)
        have hret : c ≠ '\r' := by
          rintro rfl
          cases plain '\r' List.mem_cons_self
        exact afterNewline?_eq_none (by simpa using hfeed) (by simpa using hret)
  have opened := run_firstNewline quiet
  have body := (writes_longLiteralBody plain short).run_opened readsQuotes_longLiteralBody ended
    (opening text)
  rw [form, string]
  simp only [run_bind, run_get, Option.bind_some, run_set, opened, body, run_pure]

/-- A string on one line does not start with three quotes. -/
theorem run_string_of_short
    (double : ∀ more, text ≠ '"' :: '"' :: '"' :: more)
    (single : ∀ more, text ≠ '\x27' :: '\x27' :: '\x27' :: more) :
    string.run text = shortString.run text := by
  rw [string, run_bind, run_get, Option.bind_some]
  split
  next more same => exact absurd same (double more)
  next more same => exact absurd same (single more)
  next => rfl

theorem run_string_shortBasic (text : List Char) (ended : rest.head? ≠ some '"') :
    string.run (shortBasic text ++ rest) = some (String.ofList text, rest) := by
  have double : ∀ more, shortBasic text ++ rest ≠ '"' :: '"' :: '"' :: more := by
    intro more same
    cases text with
    | nil =>
        have : rest = '"' :: more := by simpa [shortBasic] using same
        exact ended (by rw [this]; rfl)
    | cons c text =>
        rcases escapeChar_cases c with ⟨letter, word, written, -⟩ | ⟨written, basic⟩
        · simp [shortBasic, written] at same
        · have quote := (ne_of_inBasic basic).1
          simp [shortBasic, written, quote] at same
  rw [run_string_of_short double (by simp [shortBasic]), run_shortString_shortBasic]

theorem run_string_literal (literal : text.all inLiteral = true) (some_text : text ≠ [])
    (rest : List Char) :
    string.run ('\x27' :: (text ++ ['\x27']) ++ rest) = some (String.ofList text, rest) := by
  obtain ⟨c, more, rfl⟩ := List.exists_cons_of_ne_nil some_text
  have first : inLiteral c = true := List.all_eq_true.mp literal c List.mem_cons_self
  have quote : c ≠ '\x27' := by
    rintro rfl
    cases first
  rw [run_string_of_short (by simp) (by simp [quote]), run_shortString_literal literal]

/-- A string is read back from the form it is written in. -/
theorem run_string_renderString (text rest : List Char) (double : rest.head? ≠ some '"')
    (single : rest.head? ≠ some '\x27') :
    string.run (renderString text ++ rest) = some (String.ofList text, rest) := by
  have plain : (!text.any isControl) = true → ∀ c ∈ text, isControl c = false := by
    intro none_controls c listed
    simpa using List.any_eq_false.mp (by simpa using none_controls) c listed
  rw [renderString]
  split_ifs with quiet literal lines long breaks
  · exact run_string_shortBasic text double
  · simp only [Bool.and_eq_true, Bool.not_eq_true', List.contains_eq_mem, decide_eq_false_iff_not]
      at literal
    obtain ⟨⟨codes, breaks⟩, quotes⟩ := literal
    have literal : text.all inLiteral = true := by
      rw [List.all_eq_true]
      intro c listed
      exact inLiteral_of_plain (plain (by rw [codes]; rfl) c listed)
        (fun same => breaks (same ▸ listed)) (fun same => quotes (same ▸ listed))
    have some_text : text ≠ [] := by
      rintro rfl
      exact quiet rfl
    exact run_string_literal literal some_text rest
  · exact run_string_longBasic text double
  · rw [Bool.and_eq_true, decide_eq_true_eq] at long
    exact run_string_longLiteral (plain long.1) long.2 single
  · exact run_string_longBasic text double
  · exact run_string_shortBasic text double

end ReleasePlanner.Toml
