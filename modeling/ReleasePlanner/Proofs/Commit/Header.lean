import ReleasePlanner.Commit.Message
import ReleasePlanner.Proofs.Text.Pieces
import ReleasePlanner.Proofs.Text.Trim

/-!
# The written form of headers

The parts of a header are written `type(scope)!: subject` (`Header.Parts.chars`).
Parts that may stand in a header are read back from what was written
(`Header.read?_chars`), and a header with a subject is read only if it is
written in this form (`Header.eq_chars_of_read?`).  Subject and scope stand in
the header as they are (`Header.subset_of_read?`).

A header may also end right after the colon, and then it has no subject.  The
first line of a message ends like this when there is no subject, because the
space behind the colon is a blank at the end of its line (`Header.Parts.line`).
Without blanks at its end, a header is read exactly if it is such a line
(`Header.read?_eq_some_iff`).
-/

namespace ReleasePlanner.Header

variable {header text tail type subject : List Char} {scope : Option (List Char)}
  {breaking : Bool} {parts : Parts}

/-! ## Writing -/

/-- The scope in its parentheses. -/
def scopeChars : Option (List Char) → List Char
  | none => []
  | some scope => '(' :: scope ++ [')']

/-- The mark of a breaking change. -/
def markChars (breaking : Bool) : List Char :=
  if breaking then ['!'] else []

/-- The text of a header with these parts. -/
def Parts.chars (parts : Parts) : List Char :=
  parts.type ++ scopeChars parts.scope ++ markChars parts.breaking ++ ':' :: ' ' :: parts.subject

/-- What stands behind the colon: one space and the subject, or nothing if there is no subject. -/
def subjectChars (subject : List Char) : List Char :=
  if subject = [] then [] else ' ' :: subject

/-- The line of a header with these parts. -/
def Parts.line (parts : Parts) : List Char :=
  parts.type ++ scopeChars parts.scope ++ markChars parts.breaking
    ++ ':' :: subjectChars parts.subject

/-- The parts may stand in a header: the type is a word, and the scope does not close its own
parentheses. -/
structure Parts.Writable (parts : Parts) : Prop where
  type_word : ∃ c text, parts.type = c :: text ∧ c.isAlpha = true ∧ text.all inType = true
  scope_open : ∀ scope, parts.scope = some scope → ')' ∉ scope

theorem Parts.Writable.type_ne_nil (writable : parts.Writable) : parts.type ≠ [] := by
  obtain ⟨c, text, htype, -⟩ := writable.type_word
  rw [htype]
  exact List.cons_ne_nil c text

/-- The line of a header is its text without the blanks at the end. -/
theorem Parts.trimEnd_chars (trimmed : Text.trimEnd parts.subject = parts.subject) :
    Text.trimEnd parts.chars = parts.line := by
  obtain ⟨type, scope, breaking, subject⟩ := parts
  have htrimmed : Text.trimEnd subject = subject := trimmed
  have hcolon : Text.isBlank ':' = false := by decide
  have hspace : Text.isBlank ' ' = true := by decide
  by_cases hempty : subject = []
  · subst hempty
    have hchars : Parts.chars ⟨type, scope, breaking, []⟩
        = (type ++ scopeChars scope ++ markChars breaking ++ [':']) ++ [' '] := by
      simp [Parts.chars]
    rw [hchars, Text.trimEnd_concat, if_pos hspace, Text.trimEnd_concat, if_neg (by simp [hcolon])]
    rfl
  · have hchars : Parts.line ⟨type, scope, breaking, subject⟩
        = Parts.chars ⟨type, scope, breaking, subject⟩ := by
      rw [Parts.line, subjectChars, if_neg hempty]
      rfl
    have hsplit : Parts.chars ⟨type, scope, breaking, subject⟩
        = (type ++ scopeChars scope ++ markChars breaking ++ [':', ' ']) ++ subject := by
      simp [Parts.chars]
    rw [hchars]
    refine Text.trimEnd_eq_self fun c hc => ?_
    rw [hsplit, List.getLast?_append_of_ne_nil _ hempty, ← htrimmed] at hc
    exact Text.isBlank_of_getLast?_trimEnd hc

/-! ## Reading what was written -/

theorem afterScope?_append (breaking : Bool) (hsubject : subject? tail = some subject) :
    afterScope? (markChars breaking ++ ':' :: tail) = some (breaking, subject) := by
  cases breaking with
  | false => exact congrArg (Option.map fun s => (false, s)) hsubject
  | true => exact congrArg (Option.map fun s => (true, s)) hsubject

theorem afterType?_append (hscope : ∀ s, scope = some s → ')' ∉ s)
    (hsubject : subject? tail = some subject) :
    afterType? type (scopeChars scope ++ markChars breaking ++ ':' :: tail)
      = some ⟨type, scope, breaking, subject⟩ := by
  have hafter := afterScope?_append breaking hsubject
  cases scope with
  | some scope =>
      have hsplit : Text.splitAtFirst? ')' (scope ++ ')' :: (markChars breaking ++ ':' :: tail))
          = some (scope, markChars breaking ++ ':' :: tail) :=
        Text.splitAtFirst?_append (hscope scope rfl)
      simp [scopeChars, afterType?, hsplit, hafter]
  | none =>
      have hread := congrArg (Option.map fun rest => Parts.mk type none rest.1 rest.2) hafter
      cases breaking with
      | false => exact hread
      | true => exact hread

/-- No character of a type follows a type. -/
theorem inType_eq_false_of_head? {c : Char}
    (h : (scopeChars scope ++ markChars breaking ++ ':' :: tail).head? = some c) :
    inType c = false := by
  cases scope with
  | some scope =>
      cases h
      decide
  | none =>
      cases breaking with
      | false =>
          cases h
          decide
      | true =>
          cases h
          decide

/-- Parts are read back from their text if the subject is read from what stands behind the
colon. -/
theorem read?_append (writable : parts.Writable) (hsubject : subject? tail = some parts.subject) :
    read? (parts.type ++ scopeChars parts.scope ++ markChars parts.breaking ++ ':' :: tail)
      = some parts := by
  obtain ⟨c, text, htype, halpha, hall⟩ := writable.type_word
  obtain ⟨type, scope, breaking, subject⟩ := parts
  cases htype
  have hletters : ∀ c ∈ text, inType c = true := List.all_eq_true.mp hall
  have hchars : c :: text ++ scopeChars scope ++ markChars breaking ++ ':' :: tail
      = c :: (text ++ (scopeChars scope ++ markChars breaking ++ ':' :: tail)) := by
    simp
  rw [hchars, read?, if_pos halpha,
    Text.takeWhile_run hletters fun _ => inType_eq_false_of_head?,
    Text.dropWhile_run hletters fun _ => inType_eq_false_of_head?,
    afterType?_append writable.scope_open hsubject]

/-- What was written is read back. -/
theorem read?_chars (writable : parts.Writable) : read? parts.chars = some parts :=
  read?_append writable rfl

theorem subject?_subjectChars (subject : List Char) :
    subject? (subjectChars subject) = some subject := by
  rw [subjectChars]
  split
  next hempty =>
    rw [hempty]
    rfl
  next => rfl

/-- What was written is read back from its line. -/
theorem read?_line (writable : parts.Writable) : read? parts.line = some parts :=
  read?_append writable (subject?_subjectChars parts.subject)

/-! ## What is read was written -/

theorem eq_of_subject? (h : subject? text = some subject) :
    text = ' ' :: subject ∨ text = [] ∧ subject = [] := by
  rw [subject?.eq_def] at h
  split at h
  next =>
    cases h
    exact Or.inr ⟨rfl, rfl⟩
  next =>
    cases h
    exact Or.inl rfl
  next => cases h

theorem exists_of_afterScope? (h : afterScope? text = some (breaking, subject)) :
    ∃ tail, text = markChars breaking ++ ':' :: tail ∧ subject? tail = some subject := by
  rw [afterScope?.eq_def] at h
  split at h
  next rest =>
    obtain ⟨s, hsubject, h⟩ := Option.map_eq_some_iff.mp h
    cases h
    exact ⟨rest, rfl, hsubject⟩
  next rest =>
    obtain ⟨s, hsubject, h⟩ := Option.map_eq_some_iff.mp h
    cases h
    exact ⟨rest, rfl, hsubject⟩
  next => cases h

theorem exists_of_afterType? (h : afterType? type text = some parts) :
    parts.type = type ∧ (∀ s, parts.scope = some s → ')' ∉ s) ∧
      ∃ tail, text = scopeChars parts.scope ++ markChars parts.breaking ++ ':' :: tail ∧
        subject? tail = some parts.subject := by
  rw [afterType?.eq_def] at h
  split at h
  next text =>
    simp only [Option.bind_eq_bind, Option.bind_eq_some_iff] at h
    obtain ⟨⟨scope, rest⟩, hsplit, ⟨breaking, subject⟩, hafter, h⟩ := h
    cases h
    obtain ⟨rfl, hnot⟩ := Text.splitAtFirst?_eq_some hsplit
    obtain ⟨tail, rfl, hsubject⟩ := exists_of_afterScope? hafter
    refine ⟨rfl, ?_, tail, ?_, hsubject⟩
    · rintro _ ⟨⟩
      exact hnot
    · simp [scopeChars]
  next =>
    obtain ⟨⟨breaking, subject⟩, hafter, h⟩ := Option.map_eq_some_iff.mp h
    cases h
    refine ⟨rfl, ?_, exists_of_afterScope? hafter⟩
    rintro _ ⟨⟩

/-- A header that is read was written from its parts, up to the space in front of the subject. -/
theorem exists_of_read? (h : read? header = some parts) :
    parts.Writable ∧
      ∃ tail, header = parts.type ++ scopeChars parts.scope ++ markChars parts.breaking
        ++ ':' :: tail ∧ subject? tail = some parts.subject := by
  cases header with
  | nil => cases h
  | cons c text =>
      rw [read?] at h
      split at h
      next halpha =>
        obtain ⟨htype, hscope, tail, hrest, hsubject⟩ := exists_of_afterType? h
        have hletters : text = text.takeWhile inType ++ text.dropWhile inType :=
          List.takeWhile_append_dropWhile.symm
        refine ⟨⟨⟨c, _, htype, halpha, List.all_takeWhile⟩, hscope⟩, tail, ?_, hsubject⟩
        rw [hrest] at hletters
        rw [htype]
        simp only [List.cons_append, List.append_assoc] at hletters ⊢
        exact congrArg (c :: ·) hletters
      next => cases h

/-- A header that is read with a subject was written from its parts. -/
theorem eq_chars_of_read? (h : read? header = some parts) (hne : parts.subject ≠ []) :
    header = parts.chars ∧ ∀ scope, parts.scope = some scope → ')' ∉ scope := by
  obtain ⟨writable, tail, rfl, hsubject⟩ := exists_of_read? h
  rcases eq_of_subject? hsubject with rfl | ⟨-, hnil⟩
  · exact ⟨rfl, writable.scope_open⟩
  · exact absurd hnil hne

/-- A header without blanks at its end is read exactly if it is the line of parts that may stand in
a header. -/
theorem read?_eq_some_iff (trimmed : Text.trimEnd header = header) :
    read? header = some parts ↔ parts.Writable ∧ header = parts.line := by
  constructor
  · intro h
    obtain ⟨writable, tail, rfl, hsubject⟩ := exists_of_read? h
    refine ⟨writable, ?_⟩
    rw [Parts.line, subjectChars]
    rcases eq_of_subject? hsubject with rfl | ⟨rfl, hnil⟩
    · -- A single space would be a blank at the end.
      rw [if_neg]
      intro hnil
      rw [hnil, ← List.singleton_append, ← List.append_assoc] at trimmed
      have hblank : Text.isBlank ' ' = false :=
        Text.isBlank_of_getLast?_trimEnd (by rw [trimmed]; exact List.getLast?_concat)
      exact absurd hblank (by decide)
    · rw [if_pos hnil]
  · rintro ⟨writable, rfl⟩
    exact read?_line writable

/-! ## Parts of the header -/

theorem subset_of_subject? (h : subject? text = some subject) : subject ⊆ text := by
  rcases eq_of_subject? h with rfl | ⟨-, rfl⟩
  · exact List.subset_cons_self _ _
  · exact List.nil_subset _

/-- Subject and scope stand in the header. -/
theorem subset_of_read? (h : read? header = some parts) :
    parts.subject ⊆ header ∧ ∀ s, parts.scope = some s → s ⊆ header := by
  obtain ⟨-, tail, rfl, hsubject⟩ := exists_of_read? h
  refine ⟨fun c hc => ?_, fun s hs c hc => ?_⟩
  · have htail : c ∈ tail := subset_of_subject? hsubject hc
    exact List.mem_append_right _ (List.mem_cons_of_mem _ htail)
  · rw [hs, scopeChars]
    simp [hc]

end ReleasePlanner.Header
