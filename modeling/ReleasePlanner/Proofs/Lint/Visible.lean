import Mathlib.Data.List.DropRight
import ReleasePlanner.Lint.Report
import ReleasePlanner.Proofs.Commit.Reading

/-!
# Linting edited messages

An editor leaves more in a message than its writer sees: comment lines, line
ends of two kinds, blanks at the ends of lines and blank lines at the end.  The
lines that are read are the visible ones and blank lines behind them
(`Message.exists_lines_stripComments`).

Blank lines at the end reach the count in front of a body only where there is
no body, and the count in front of a footer only where there is no footer
(`Message.Laid.exists_append_replicate`).  No rule looks at those, so messages
with the same visible lines get the same verdict (`lintEdited_eq_of_visible`).
-/

namespace ReleasePlanner

variable {ls rest : List (List Char)} {body footer : Option (List (List Char))} {m n : Nat}
  {a b : ParsedCommit}

/-! ## Visible lines -/

namespace Text

/-- Closing lines only takes blanks at their ends away, and a blank line behind them. -/
theorem exists_map_trimEnd_closeLines (pieces : List (List Char)) :
    ∃ n, pieces.map trimEnd = (closeLines pieces).map trimEnd ++ List.replicate n [] := by
  induction pieces using closeLines.induct with
  | case1 => exact ⟨0, rfl⟩
  | case2 last blank =>
      rw [List.isEmpty_iff] at blank
      subst blank
      exact ⟨1, rfl⟩
  | case3 last filled => exact ⟨0, by rw [closeLines, if_neg filled]; rfl⟩
  | case4 piece pieces more ih =>
      obtain ⟨n, hn⟩ := ih
      refine ⟨n, ?_⟩
      rw [closeLines, List.map_cons, List.map_cons, trimEnd_dropReturn, hn, List.cons_append]
      exact more

/-- Joined lines are the lines of the text, up to blanks at their ends and blank lines behind
them. -/
theorem exists_map_trimEnd_lines_joinLines (single : ∀ l ∈ ls, '\n' ∉ l) :
    ∃ n, ls.map trimEnd = (lines (joinLines ls)).map trimEnd ++ List.replicate n [] := by
  by_cases nonempty : ls = []
  · subst nonempty
    exact ⟨0, rfl⟩
  · have closed := exists_map_trimEnd_closeLines (splitOn '\n' (joinLines ls))
    rwa [← lines, splitOn_joinLines nonempty single] at closed

end Text

namespace Message

/-- Lines without the blank ones at the end. -/
def dropBlankEnd (ls : List (List Char)) : List (List Char) :=
  ls.rdropWhile List.isEmpty

theorem dropBlankEnd_append_replicate (ls : List (List Char)) (n : Nat) :
    dropBlankEnd (ls ++ List.replicate n []) = dropBlankEnd ls := by
  have blank : ∀ l ∈ List.replicate n ([] : List Char), l.isEmpty = true := by
    intro l hl
    rw [List.eq_of_mem_replicate hl]
    rfl
  rw [dropBlankEnd, dropBlankEnd, List.rdropWhile, List.rdropWhile, List.reverse_append,
    List.reverse_replicate, List.dropWhile_append_of_pos blank]

theorem exists_eq_dropBlankEnd (ls : List (List Char)) :
    ∃ n, ls = dropBlankEnd ls ++ List.replicate n [] := by
  refine ⟨(ls.rtakeWhile List.isEmpty).length, ?_⟩
  have blank : ls.rtakeWhile List.isEmpty
      = List.replicate (ls.rtakeWhile List.isEmpty).length [] :=
    List.eq_replicate_of_mem fun l hl => List.isEmpty_iff.mp (List.mem_rtakeWhile_imp hl)
  rw [dropBlankEnd, ← blank, List.rdropWhile_append_rtakeWhile]

/-- What is seen of an edited message: its lines without comment lines, without blanks at their ends
and without blank lines at the end. -/
def visibleLines (message : String) : List (List Char) :=
  dropBlankEnd
    (((Text.lines message.toList).filter fun l => l.head? != some '#').map Text.trimEnd)

example : visibleLines "a \r\n# b\n\nc\n \n" = [['a'], [], ['c']] := by decide

/-- Of an edited message the visible lines are read, and blank lines behind them. -/
theorem exists_lines_stripComments (message : String) :
    ∃ n, lines (stripComments message).toList
      = visibleLines message ++ List.replicate n [] := by
  have single : ∀ l ∈ (Text.lines message.toList).filter fun l => l.head? != some '#', '\n' ∉ l :=
    fun l hl => Text.newline_notMem_of_mem_lines (List.mem_filter.mp hl).1
  obtain ⟨k, hk⟩ := Text.exists_map_trimEnd_lines_joinLines single
  rw [visibleLines, hk, dropBlankEnd_append_replicate, stripComments, String.toList_ofList, lines]
  exact exists_eq_dropBlankEnd _

/-! ## Blank lines at the end -/

/-- Blank lines behind the last line change neither body nor footer, and not the number of blank
lines in front of what is there. -/
theorem Laid.exists_append_replicate (h : Laid rest body footer m n) (k : Nat) :
    ∃ i j, Laid (rest ++ List.replicate k []) body footer i j ∧
      (body ≠ none → i = m) ∧ (footer ≠ none → j = n) := by
  cases h with
  | bare =>
      refine ⟨m + k, m + k, ?_, fun absent => absurd rfl absent, fun absent => absurd rfl absent⟩
      rw [List.replicate_append_replicate]
      exact .bare _
  | body _ _ hblock last skipped =>
      refine ⟨m, n + k, ?_, fun _ => rfl, fun absent => absurd rfl absent⟩
      simp only [List.append_assoc, List.replicate_append_replicate]
      exact .body m _ hblock last skipped
  | footer _ _ filled selects =>
      refine ⟨m, m, ?_, fun absent => absurd rfl absent, fun _ => rfl⟩
      simp only [List.append_assoc, List.replicate_append_replicate]
      exact .footer m _ filled selects
  | both _ _ _ hblock apart filled selects =>
      refine ⟨m, n, ?_, fun _ => rfl, fun _ => rfl⟩
      simp only [List.append_assoc, List.replicate_append_replicate]
      exact .both m n _ hblock apart filled selects

end Message

/-- Two commits have the same parts, and the same number of blank lines in front of those that are
there. -/
structure ParsedCommit.Agrees (a b : ParsedCommit) : Prop where
  type : a.type = b.type
  scope : a.scope = b.scope
  subject : a.subject = b.subject
  body : a.body = b.body
  footer : a.footer = b.footer
  breaking : a.breaking = b.breaking
  bodyBlanks : a.body ≠ none → a.bodyBlanks = b.bodyBlanks
  footerBlanks : a.footer ≠ none → a.footerBlanks = b.footerBlanks
  rawHeader : a.rawHeader = b.rawHeader

namespace Message

/-- Blank lines behind the last line make no difference to what is read, whatever their number. -/
theorem agrees_ofLines (trimmed : Trimmed rest) (header : List Char) (k l : Nat) :
    (ofLines header (rest ++ List.replicate k [])).Agrees
      (ofLines header (rest ++ List.replicate l [])) := by
  have padded : ∀ k, Trimmed (rest ++ List.replicate k []) := fun k =>
    trimmed_append.mpr ⟨trimmed, trimmed_replicate k⟩
  obtain ⟨body, footer, m, n, laid⟩ := exists_laid rest
  obtain ⟨_, _, hfirst, hbody, hfooter⟩ := laid.exists_append_replicate k
  obtain ⟨_, _, hsecond, hbody', hfooter'⟩ := laid.exists_append_replicate l
  rw [hfirst.ofLines_eq (padded k), hsecond.ofLines_eq (padded l)]
  refine ⟨rfl, rfl, rfl, rfl, rfl, rfl, fun present => ?_, fun present => ?_, rfl⟩
  · have there : body ≠ none := fun absent => present (by rw [absent]; rfl)
    exact (hbody there).trans (hbody' there).symm
  · have there : footer ≠ none := fun absent => present (by rw [absent]; rfl)
    exact (hfooter there).trans (hfooter' there).symm

theorem trimmed_visibleLines (message : String) : Trimmed (visibleLines message) := by
  obtain ⟨n, hlines⟩ := exists_lines_stripComments message
  have trimmed := trimmed_lines (stripComments message).toList
  rw [hlines] at trimmed
  exact (trimmed_append.mp trimmed).1

/-- An edited message is read from its visible lines, and blank lines behind them. -/
theorem exists_parse_stripComments (message : String) :
    ∃ n, parse (stripComments message) = ofLines ((visibleLines message).headD [])
      ((visibleLines message).tail ++ List.replicate n []) := by
  obtain ⟨n, hlines⟩ := exists_lines_stripComments message
  rw [parse_eq_ofLines, hlines]
  cases visibleLines message with
  | cons header rest => exact ⟨n, rfl⟩
  | nil =>
      refine ⟨n - 1, ?_⟩
      cases n with
      | zero => rfl
      | succ n => rfl

/-- Of messages with the same visible lines the same is read. -/
theorem agrees_of_visible {message other : String}
    (same : visibleLines message = visibleLines other) :
    (parse (stripComments message)).Agrees (parse (stripComments other)) := by
  obtain ⟨k, hmessage⟩ := exists_parse_stripComments message
  obtain ⟨l, hother⟩ := exists_parse_stripComments other
  have trimmed : Trimmed (visibleLines message).tail := fun line hline =>
    trimmed_visibleLines message line (List.mem_of_mem_tail hline)
  rw [hmessage, hother, ← same]
  exact agrees_ofLines trimmed _ k l

end Message

/-! ## Verdicts -/

namespace ParsedCommit.Agrees

theorem header (h : a.Agrees b) : a.header = b.header := by
  rw [ParsedCommit.header, ParsedCommit.header, scope?, scope?, h.rawHeader, h.type, h.scope,
    h.subject]

/-- The rules only count the blank lines in front of blocks that are there. -/
theorem violations (h : a.Agrees b) (p : LintPolicy) :
    Lint.violations p a = Lint.violations p b := by
  have hbody : Lint.bodyViolations a = Lint.bodyViolations b := by
    rw [Lint.bodyViolations, Lint.bodyViolations, ← h.body]
    cases present : a.body with
    | none => rfl
    | some body => rw [h.bodyBlanks (by rw [present]; exact Option.some_ne_none _)]
  have hfooter : Lint.footerViolations a = Lint.footerViolations b := by
    rw [Lint.footerViolations, Lint.footerViolations, ← h.footer]
    cases present : a.footer with
    | none => rfl
    | some footer => rw [h.footerBlanks (by rw [present]; exact Option.some_ne_none _)]
  rw [Lint.violations, Lint.violations, hbody, hfooter, Lint.typeViolations, Lint.typeViolations,
    Lint.scopeViolations, Lint.scopeViolations, Lint.subjectViolations, Lint.subjectViolations,
    Lint.headerViolations, Lint.headerViolations, h.header, kind?, kind?, scope?, scope?, h.type,
    h.scope, h.subject]

theorem judge (h : a.Agrees b) (linter : Linter) : linter.judge a = linter.judge b := by
  rw [Linter.judge, Linter.judge, Linter.bypasses, Linter.bypasses, h.header,
    h.violations linter.policy]

end ParsedCommit.Agrees

theorem Linter.lintOne_eq (linter : Linter) (label message : String) :
    linter.lintOne label message
      = ⟨label, message, Message.parse message, linter.judge (Message.parse message)⟩ := rfl

/-- Linting an edited message depends on its visible lines only.  With the same visible lines,
linting fails in the same way, or it gives the same verdict with the same violations, and the same
is read of both messages but for blank lines in front of blocks that are not there. -/
theorem lintEdited_eq_of_visible (c : Config) (label : String) {message other : String}
    (same : Message.visibleLines message = Message.visibleLines other) :
    (∃ e, lintEdited c label message = .error e ∧ lintEdited c label other = .error e) ∨
      ∃ judgement judgement',
        lintEdited c label message = .ok ⟨[judgement]⟩ ∧
          lintEdited c label other = .ok ⟨[judgement']⟩ ∧
          judgement.verdict = judgement'.verdict ∧
          judgement.parsed.Agrees judgement'.parsed := by
  rw [lintEdited, lintEdited]
  cases Linter.ofPolicy c.lint with
  | error e => exact Or.inl ⟨e, rfl, rfl⟩
  | ok linter =>
      have agrees := Message.agrees_of_visible same
      refine Or.inr ⟨linter.lintOne label (Message.stripComments message),
        linter.lintOne label (Message.stripComments other), rfl, rfl, ?_, ?_⟩
      · simpa only [Linter.lintOne_eq] using agrees.judge linter
      · simpa only [Linter.lintOne_eq] using agrees

/-- A message as it was meant and one as an editor leaves it.  They differ in the blank lines that
are counted where no body stands, and are both accepted. -/
theorem edited_accepted :
    let meant := "fix: Mend it."
    let edited := "# Say what it does.\r\nfix: Mend it. \t\r\n\r\n# Bye.\n  \n"
    Message.visibleLines meant = Message.visibleLines edited ∧
      ∃ judgement judgement',
        lintEdited .standard "file" meant = .ok ⟨[judgement]⟩ ∧
          lintEdited .standard "file" edited = .ok ⟨[judgement']⟩ ∧
          judgement.verdict = .checked [] ∧ judgement'.verdict = .checked [] ∧
          judgement.parsed.bodyBlanks = 0 ∧ judgement'.parsed.bodyBlanks = 2 := by
  intro meant edited
  have same : Message.visibleLines meant = Message.visibleLines edited := by decide +kernel
  refine ⟨same, ?_⟩
  have known : ((lintEdited .standard "file" meant).toOption.map fun report =>
      report.commits.map fun j => (j.verdict, j.parsed.bodyBlanks)) = some [(.checked [], 0)] := by
    decide +kernel
  have counted : ((lintEdited .standard "file" edited).toOption.map fun report =>
      report.commits.map fun j => j.parsed.bodyBlanks) = some [2] := by
    decide +kernel
  rcases lintEdited_eq_of_visible .standard "file" same with
    ⟨e, failed, -⟩ | ⟨j, j', hj, hj', sameVerdict, -⟩
  · rw [failed] at known
    cases known
  · rw [hj] at known
    rw [hj'] at counted
    obtain ⟨hverdict, hblanks⟩ := Prod.mk.inj (List.head_eq_of_cons_eq (Option.some.inj known))
    have hblanks' := List.head_eq_of_cons_eq (Option.some.inj counted)
    exact ⟨j, j', hj, hj', hverdict, sameVerdict.symm.trans hverdict, hblanks, hblanks'⟩

end ReleasePlanner
