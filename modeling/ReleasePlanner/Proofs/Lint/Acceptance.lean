import ReleasePlanner.Lint.Linter
import ReleasePlanner.Proofs.Commit.Reading
import ReleasePlanner.Proofs.Step

/-!
# Accepted messages

What the rules ask for, as a grammar of messages.  A header is written from a
listed type, an allowed scope and a sentence (`Header.WellWritten`).  Below it
stand a body or a footer or both, set apart by single blank lines
(`Message.LaidOut`).  A message that is held against the rules is accepted if
and only if it is written like this (`accepted_iff_wellWritten`).

The lines below the header are all blank, or they hold a body, or a footer, or
both.  What the rules ask is worked out from the way they are laid out
(`Message.checked_iff_of_laid`).
-/

namespace ReleasePlanner

/-! ## Sentences -/

namespace Lint

/-- The text ends with a full stop, and its first letter is not a lower-case one. -/
structure Sentence (text : List Char) : Prop where
  stop : text.getLast? = some '.'
  upper : ∀ c, text.find? Text.isAlphabetic = some c → Text.isLowercase c = false

theorem require_eq_nil_iff {ok : Bool} {v : Violation} : require ok v = [] ↔ ok = true := by
  cases ok with
  | false => exact ⟨fun h => (List.cons_ne_nil _ _ h).elim, fun h => (Bool.false_ne_true h).elim⟩
  | true => exact ⟨fun _ => rfl, fun _ => rfl⟩

theorem startsUpper_iff {text : List Char} :
    startsUpper text = true ↔
      ∀ c, text.find? Text.isAlphabetic = some c → Text.isLowercase c = false := by
  rw [startsUpper]
  cases text.find? Text.isAlphabetic with
  | none => simp
  | some c => simp

theorem sentence_iff {text : List Char} (trimmed : Text.trimEnd text = text) :
    Sentence text ↔ startsUpper text = true ∧ endsWithStop text = true := by
  rw [startsUpper_iff, endsWithStop, trimmed, beq_iff_eq]
  exact ⟨fun h => ⟨h.upper, h.stop⟩, fun h => ⟨h.2, h.1⟩⟩

theorem subjectViolations_eq_nil_iff {r : ParsedCommit} :
    subjectViolations r = [] ↔ Sentence (Text.trim r.subject.toList) := by
  rw [subjectViolations]
  split
  next blank =>
    refine ⟨fun h => (List.cons_ne_nil _ _ h).elim, fun h => ?_⟩
    rw [List.isEmpty_iff.mp blank] at h
    cases h.stop
  next =>
    rw [List.append_eq_nil_iff, require_eq_nil_iff, require_eq_nil_iff,
      sentence_iff (Text.trimEnd_trim r.subject.toList)]

end Lint

/-! ## Headers -/

namespace CommitKind

theorem ofName?_eq_some {s : String} {kind : CommitKind} (h : ofName? s = some kind) :
    kind.name = s := by
  rw [ofName?] at h
  have found := List.find?_some h
  exact beq_iff_eq.mp found

theorem name_ne_empty (kind : CommitKind) : kind.name ≠ "" := by
  cases kind <;> decide

theorem name_lowercase (kind : CommitKind) :
    kind.name.toList.any Text.changesInLowercase = false := by
  cases kind <;> decide

/-- Types are words. -/
theorem name_word (kind : CommitKind) :
    ∃ c text, kind.name.toList = c :: text ∧ c.isAlpha = true ∧ text.all Header.inType = true := by
  cases kind <;> exact ⟨_, _, rfl, by decide, by decide⟩

end CommitKind

namespace Lint

variable {p : LintPolicy} {r : ParsedCommit}

theorem typeViolations_eq_nil_iff :
    typeViolations p r = [] ↔ ∃ kind ∈ p.types, r.type = kind.name := by
  rw [typeViolations]
  split
  next untyped =>
    refine ⟨fun h => (List.cons_ne_nil _ _ h).elim, ?_⟩
    rintro ⟨kind, -, htype⟩
    exact absurd (htype.symm.trans untyped) kind.name_ne_empty
  next =>
    rw [List.append_eq_nil_iff, require_eq_nil_iff, require_eq_nil_iff, ParsedCommit.kind?]
    constructor
    · rintro ⟨-, listed⟩
      obtain ⟨kind, hkind, hmem⟩ := (Option.any_eq_true _ _).mp listed
      exact ⟨kind, List.contains_iff_mem.mp hmem, (CommitKind.ofName?_eq_some hkind).symm⟩
    · rintro ⟨kind, hmem, htype⟩
      rw [htype, kind.name_lowercase, CommitKind.ofName?_name]
      exact ⟨rfl, List.contains_iff_mem.mpr hmem⟩

theorem scopeViolations_eq_nil_iff :
    scopeViolations p r = [] ↔
      ∀ s, r.scope = some s → p.enforceScopes = true → s = "" ∨ s ∈ p.scopes := by
  rw [scopeViolations, ParsedCommit.scope?]
  cases hscope : r.scope with
  | none => cases p.enforceScopes <;> simp
  | some s =>
      cases p.enforceScopes with
      | false => simp
      | true =>
          by_cases hempty : s = ""
          · simp [Option.filter_some, hempty]
          · simp [Option.filter_some, hempty, require_eq_nil_iff]

theorem headerViolations_eq_nil_iff :
    headerViolations p r = [] ↔ r.header.toList.length ≤ p.headerMaxLength := by
  rw [headerViolations, require_eq_nil_iff, decide_eq_true_iff]

end Lint

namespace Header

/-- The header is written from a listed type, a scope that may be used, and a subject that is a
sentence, and it is not too long. -/
structure WellWritten (p : LintPolicy) (header : List Char) : Prop where
  parts : ∃ kind ∈ p.types, ∃ scope breaking subject,
    header = Parts.chars ⟨kind.name.toList, scope, breaking, subject⟩ ∧
      (∀ s, scope = some s →
        ')' ∉ s ∧ (p.enforceScopes = true → s = [] ∨ String.ofList s ∈ p.scopes)) ∧
      Lint.Sentence (Text.trim subject)
  short : header.length ≤ p.headerMaxLength

variable {p : LintPolicy} {header : List Char} {rest : List (List Char)} {r : ParsedCommit}

/-- The rules on the header find nothing. -/
structure Checked (p : LintPolicy) (r : ParsedCommit) : Prop where
  type_ok : Lint.typeViolations p r = []
  scope_ok : Lint.scopeViolations p r = []
  subject_ok : Lint.subjectViolations r = []
  length_ok : Lint.headerViolations p r = []

theorem headerViolations_iff (hr : r = Message.ofLines header rest) :
    Lint.headerViolations p r = [] ↔ header.length ≤ p.headerMaxLength := by
  have hheader : r.header.toList = header := by
    rw [hr]
    exact String.toList_ofList
  rw [Lint.headerViolations_eq_nil_iff, hheader]

/-- A header without a type has a violation, so one without violations was read. -/
theorem exists_read? (hr : r = Message.ofLines header rest) (checked : Checked p r) :
    ∃ kind ∈ p.types, ∃ parts, read? header = some parts ∧ parts.type = kind.name.toList := by
  obtain ⟨kind, hkind, htype⟩ := Lint.typeViolations_eq_nil_iff.mp checked.type_ok
  rw [hr, Message.ofLines] at htype
  cases hread : read? header with
  | none =>
      rw [hread] at htype
      exact absurd htype.symm kind.name_ne_empty
  | some parts =>
      simp only [hread, Option.getD_some] at htype
      exact ⟨kind, hkind, parts, rfl, by rw [← htype, String.toList_ofList]⟩

theorem wellWritten_of_checked (hr : r = Message.ofLines header rest) (checked : Checked p r) :
    WellWritten p header := by
  obtain ⟨kind, hkind, parts, hread, htype⟩ := exists_read? hr checked
  have hscope := Lint.scopeViolations_eq_nil_iff.mp checked.scope_ok
  have sentence := Lint.subjectViolations_eq_nil_iff.mp checked.subject_ok
  rw [hr, Message.ofLines, hread] at hscope sentence
  simp only [Option.getD_some, String.toList_ofList] at hscope sentence
  -- A header may end after the colon, but then its subject is no sentence.
  have filled : parts.subject ≠ [] := by
    intro hnil
    rw [hnil] at sentence
    cases sentence.stop
  obtain ⟨written, unclosed⟩ := eq_chars_of_read? hread filled
  refine ⟨⟨kind, hkind, parts.scope, parts.breaking, parts.subject, ?_, ?_, sentence⟩,
    (headerViolations_iff hr).mp checked.length_ok⟩
  · rw [← htype]
    exact written
  · intro s hs
    refine ⟨unclosed s hs, fun enforced => ?_⟩
    rcases hscope (String.ofList s) (by rw [hs]; rfl) enforced with hempty | hmem
    · exact Or.inl (String.ofList_eq_empty_iff.mp hempty)
    · exact Or.inr hmem

theorem WellWritten.checked (hr : r = Message.ofLines header rest)
    (wellWritten : WellWritten p header) : Checked p r := by
  obtain ⟨⟨kind, hkind, scope, breaking, subject, written, hscope, sentence⟩, short⟩ :=
    wellWritten
  have hread : read? header = some ⟨kind.name.toList, scope, breaking, subject⟩ := by
    rw [written]
    exact read?_chars ⟨kind.name_word, fun s hs => (hscope s hs).1⟩
  have length_ok := (headerViolations_iff hr).mpr short
  rw [Message.ofLines, hread, Option.getD_some] at hr
  refine ⟨Lint.typeViolations_eq_nil_iff.mpr ⟨kind, hkind, ?_⟩,
    Lint.scopeViolations_eq_nil_iff.mpr ?_, Lint.subjectViolations_eq_nil_iff.mpr ?_, length_ok⟩
  · rw [hr]
    exact String.ofList_toList
  · rw [hr]
    intro s hs enforced
    obtain ⟨inner, hinner, rfl⟩ := Option.map_eq_some_iff.mp hs
    rcases (hscope inner hinner).2 enforced with hempty | hmem
    · exact Or.inl (by rw [hempty])
    · exact Or.inr hmem
  · rw [hr]
    simpa only [String.toList_ofList] using sentence

/-- The rules on the header find nothing exactly if it is well written. -/
theorem checked_iff (hr : r = Message.ofLines header rest) :
    Checked p r ↔ WellWritten p header :=
  ⟨wellWritten_of_checked hr, fun wellWritten => wellWritten.checked hr⟩

end Header

/-! ## Below the header -/

namespace Message

/-- What may stand below a header: nothing, a body or a footer below a blank line, or a body and,
below another blank line, a footer.  The footer is the last paragraph if the footer rule selects it,
and a body is a sentence.  Blank lines may follow. -/
inductive LaidOut : List (List Char) → Prop where
  | bare (n : Nat) : LaidOut (List.replicate n [])
  | body {body above paragraph : List (List Char)} (n : Nat) :
      Block body → Lint.Sentence (Text.joinLines body) →
      LastParagraph body above paragraph → ¬Selects above paragraph →
      LaidOut ([] :: (body ++ List.replicate n []))
  | footer {footer : List (List Char)} (n : Nat) :
      Paragraph footer → Selects [] footer →
      LaidOut ([] :: (footer ++ List.replicate n []))
  | both {body footer : List (List Char)} (n : Nat) :
      Block body → Lint.Sentence (Text.joinLines body) →
      Paragraph footer → Selects body footer →
      LaidOut ([] :: (body ++ [] :: (footer ++ List.replicate n [])))

/-- The rules on body and footer find nothing in these lines below the header. -/
def Checked (header : List Char) (rest : List (List Char)) : Prop :=
  Lint.bodyViolations (ofLines header rest) = [] ∧ Lint.footerViolations (ofLines header rest) = []

variable {header : List Char} {rest : List (List Char)} {body footer : Option (List (List Char))}
  {m n : Nat}

/-- What the rules on body and footer ask, by the way the lines are laid out. -/
theorem checked_iff_of_laid (laid : Laid rest body footer m n) (trimmed : Trimmed rest) :
    Checked header rest ↔
      (∀ ls, body = some ls → m = 1 ∧ Lint.Sentence (Text.joinLines ls)) ∧
      (footer ≠ none → n = 1) := by
  have hr := laid.ofLines_eq trimmed header
  have hbody : Lint.bodyViolations (ofLines header rest) = [] ↔
      ∀ ls, body = some ls → m = 1 ∧ Lint.Sentence (Text.joinLines ls) := by
    rw [hr, Lint.bodyViolations]
    cases body with
    | none => simp
    | some ls =>
        obtain ⟨hblock, inside⟩ := laid.block_body
        have ends := hblock.trimEnd_joinLines fun l hl => trimmed l (inside hl)
        simp [Lint.require_eq_nil_iff, Lint.sentence_iff ends, blockText]
  have hfooter : Lint.footerViolations (ofLines header rest) = [] ↔ (footer ≠ none → n = 1) := by
    rw [hr, Lint.footerViolations]
    cases footer with
    | none => simp
    | some ls => simp [Lint.require_eq_nil_iff]
  rw [Checked, hbody, hfooter]

theorem LaidOut.checked (h : LaidOut rest) (trimmed : Trimmed rest) : Checked header rest := by
  cases h with
  | bare n => exact (checked_iff_of_laid (.bare n) trimmed).mpr ⟨by simp, by simp⟩
  | body n hbody sentence last skipped =>
      refine (checked_iff_of_laid (.body 1 n hbody last skipped) trimmed).mpr ⟨?_, by simp⟩
      rintro _ ⟨⟩
      exact ⟨rfl, sentence⟩
  | footer n filled selects =>
      exact (checked_iff_of_laid (.footer 1 n filled selects) trimmed).mpr ⟨by simp, fun _ => rfl⟩
  | both n hbody sentence filled selects =>
      have laid := Laid.both 1 1 n hbody Nat.one_ne_zero filled selects
      refine (checked_iff_of_laid laid trimmed).mpr ⟨?_, fun _ => rfl⟩
      rintro _ ⟨⟩
      exact ⟨rfl, sentence⟩

theorem laidOut_of_checked (trimmed : Trimmed rest) (h : Checked header rest) : LaidOut rest := by
  obtain ⟨body, footer, m, n, laid⟩ := exists_laid rest
  obtain ⟨hbody, hfooter⟩ := (checked_iff_of_laid laid trimmed).mp h
  cases laid with
  | bare => exact .bare _
  | body _ _ hblock last skipped =>
      obtain ⟨rfl, sentence⟩ := hbody _ rfl
      exact .body _ hblock sentence last skipped
  | footer _ _ filled selects =>
      obtain rfl := hfooter (Option.some_ne_none _)
      exact .footer _ filled selects
  | both _ _ _ hblock _ filled selects =>
      obtain ⟨rfl, sentence⟩ := hbody _ rfl
      obtain rfl := hfooter (Option.some_ne_none _)
      exact .both _ hblock sentence filled selects

/-- The rules on body and footer find nothing exactly if the lines are laid out well. -/
theorem checked_iff_laidOut (trimmed : Trimmed rest) : Checked header rest ↔ LaidOut rest :=
  ⟨laidOut_of_checked trimmed, fun h => h.checked trimmed⟩

/-- The first line is a header, and the other lines stand below it as they may. -/
structure WellWritten (p : LintPolicy) (message : String) : Prop where
  header : Header.WellWritten p ((lines message.toList).headD [])
  rest : LaidOut (lines message.toList).tail

end Message

/-! ## Messages -/

variable {p : LintPolicy} {linter : Linter}

theorem Linter.policy_of_ofPolicy (made : Linter.ofPolicy p = .ok linter) : linter.policy = p := by
  rw [ofPolicy] at made
  cases hbypass : p.bypass with
  | error e =>
      rw [hbypass] at made
      cases made
  | ok pattern =>
      rw [hbypass] at made
      cases made
      rfl

/-- A message that is held against the rules is accepted if and only if its first line is a header
that is well written, and the lines below it are laid out as they may be. -/
theorem accepted_iff_wellWritten (made : Linter.ofPolicy p = .ok linter) (message : String)
    (plain : linter.bypasses (Message.parse message) = false) :
    (linter.judge (Message.parse message)).accepted = true ↔ Message.WellWritten p message := by
  have hr := Message.parse_eq_ofLines message
  have trimmed : Message.Trimmed (Message.lines message.toList).tail :=
    fun l hl => Message.trimmed_lines message.toList l (List.mem_of_mem_tail hl)
  have hheader := Header.checked_iff (p := p) hr
  have hrest : Message.Checked ((Message.lines message.toList).headD [])
      (Message.lines message.toList).tail ↔ _ := Message.checked_iff_laidOut trimmed
  rw [Message.Checked, ← hr] at hrest
  rw [Linter.judge, plain, Verdict.accepted, List.isEmpty_iff, Linter.policy_of_ofPolicy made]
  simp only [Bool.false_eq_true, if_false, Verdict.violations, Lint.violations,
    List.append_eq_nil_iff]
  constructor
  · rintro ⟨⟨⟨⟨⟨htype, hscope⟩, hsubject⟩, hbody⟩, hfooter⟩, hlength⟩
    exact ⟨hheader.mp ⟨htype, hscope, hsubject, hlength⟩, hrest.mp ⟨hbody, hfooter⟩⟩
  · rintro ⟨header, rest⟩
    have checked := hheader.mpr header
    obtain ⟨hbody, hfooter⟩ := hrest.mpr rest
    exact ⟨⟨⟨⟨⟨checked.type_ok, checked.scope_ok⟩, checked.subject_ok⟩, hbody⟩, hfooter⟩,
      checked.length_ok⟩

/-- A correction with a body of two paragraphs and a reference below it is well written. -/
theorem wellWritten_correction :
    ∃ linter message, Linter.ofPolicy LintPolicy.standard = .ok linter ∧
      linter.bypasses (Message.parse message) = false ∧ Message.WellWritten .standard message := by
  have known : ((Linter.ofPolicy LintPolicy.standard).toOption.map fun linter =>
      let commit := Message.parse
        "fix(lib/hkt_macro)!: Handle nulls.  \n\nNulls were \n\nnot handled.\n\nCloses #12\n"
      (linter.bypasses commit, (linter.judge commit).accepted)) = some (false, true) := by
    decide +kernel
  obtain ⟨linter, made, known⟩ := Option.map_eq_some_iff.mp known
  obtain ⟨plain, accepted⟩ := Prod.mk.inj known
  have made : Linter.ofPolicy LintPolicy.standard = .ok linter := Result.toOption_eq_some.mp made
  exact ⟨linter, _, made, plain, (accepted_iff_wellWritten made _ plain).mp accepted⟩

end ReleasePlanner
