import ReleasePlanner.Proofs.Commit.Reading
import ReleasePlanner.Proofs.Release.Neutral

/-!
# Bypassed commits

A header that git writes on its own has no type.  Where a type could stand, a
blank follows, or an exclamation mark and a blank
(`Header.read?_eq_none_of_isGenerated`).  So a commit with a type is accepted as
it is only where the ignore pattern of the policy says so.

When nothing is configured, the commits that are accepted as they are have no
type, or they are of the release type and have no mark of a breaking change.
Either way only their footers count: a note on a breaking change there asks for
a major release, and otherwise they ask for nothing.  No section lists them
(`bypassed_without_influence`).
-/

namespace ReleasePlanner

/-! ## Headers without a type -/

namespace Header

variable {header word : List Char} {parts : Parts}

/-- What follows the characters of a type cannot follow a type. -/
def barsType (word : List Char) : Bool :=
  match word.dropWhile inType with
  | ' ' :: _ => true
  | '!' :: ' ' :: _ => true
  | _ => false

/-- What follows the type is the scope, the mark and the colon. -/
theorem dropWhile_of_read? (h : read? header = some parts) :
    ∃ tail, header.dropWhile inType
      = scopeChars parts.scope ++ markChars parts.breaking ++ ':' :: tail := by
  obtain ⟨⟨⟨c, text, htype, halpha, hall⟩, -⟩, tail, rfl, -⟩ := exists_of_read? h
  have letters : ∀ d ∈ parts.type, inType d = true := by
    rw [htype, List.forall_mem_cons]
    exact ⟨by rw [inType, halpha, Bool.true_or], List.all_eq_true.mp hall⟩
  refine ⟨tail, ?_⟩
  rw [List.append_assoc, List.append_assoc, ← List.append_assoc (scopeChars _),
    Text.dropWhile_run letters fun _ => inType_eq_false_of_head?]

theorem barsType_eq_false_of_read? (h : read? header = some parts) : barsType header = false := by
  obtain ⟨tail, hrest⟩ := dropWhile_of_read? h
  rw [barsType, hrest]
  cases parts.scope with
  | some scope => rfl
  | none => cases parts.breaking <;> rfl

/-- More text behind the word changes nothing. -/
theorem barsType_append (h : barsType word = true) (rest : List Char) :
    barsType (word ++ rest) = true := by
  rw [barsType] at h ⊢
  rw [List.dropWhile_append]
  split at h
  next behind => rw [behind]; rfl
  next behind => rw [behind]; rfl
  next => cases h

/-- What git writes at the start of a header is no type. -/
theorem barsType_of_mem_generatedShapes :
    ∀ shape ∈ generatedShapes, barsType shape.1 = true := by decide

theorem read?_eq_none_of_isGenerated (h : isGenerated header = true) : read? header = none := by
  obtain ⟨shape, hshape, continued⟩ := List.any_eq_true.mp h
  obtain ⟨rest, hrest, -⟩ := (Option.any_eq_true _ _).mp continued
  have bars := barsType_append (barsType_of_mem_generatedShapes shape hshape) rest
  rw [← Text.dropWord?_eq_some.mp hrest] at bars
  cases hread : read? header with
  | none => rfl
  | some parts =>
      rw [barsType_eq_false_of_read? hread] at bars
      cases bars

/-- A header that starts like the headers of release commits has the release type. -/
theorem read?_ownLead (rest : List Char) :
    read? (ReleasePolicy.ownLead ++ rest)
      = some ⟨['r', 'e', 'l', 'e', 'a', 's', 'e'], none, false, rest⟩ := by
  have writable : Parts.Writable ⟨['r', 'e', 'l', 'e', 'a', 's', 'e'], none, false, rest⟩ := by
    refine ⟨⟨'r', _, rfl, by decide, by decide⟩, ?_⟩
    rintro _ ⟨⟩
  exact read?_chars writable

end Header

/-! ## Commits that only count by their footers -/

namespace Message

variable {header : List Char} {rest : List (List Char)}

/-- A line of the footer announces a breaking change. -/
def Announced (r : ParsedCommit) : Prop :=
  ∃ l ∈ textLines r.footer, Announces l

/-- The header is kept as it was read. -/
theorem toList_header_ofLines (header : List Char) (rest : List (List Char)) :
    (ofLines header rest).header.toList = header :=
  String.toList_ofList

theorem type_ofLines_of_unread (unread : Header.read? header = none) (rest : List (List Char)) :
    (ofLines header rest).type = "" := by
  rw [ofLines, unread]
  rfl

/-- Where the header has no mark, the commit is breaking exactly if its footer says so. -/
theorem breaking_iff_announced
    (unmarked : ∀ parts, Header.read? header = some parts → parts.breaking = false) :
    (ofLines header rest).breaking = true ↔ Announced (ofLines header rest) := by
  rw [breaking_ofLines]
  refine or_iff_right ?_
  rintro ⟨parts, hread, marked⟩
  rw [unmarked parts hread] at marked
  cases marked

end Message

/-- When nothing is configured, a commit without a type and a commit of the release type have no
title, and they ask for no release unless they are breaking. -/
theorem ReleasePolicy.silent_of_kind? {r : ParsedCommit}
    (silent : r.kind? = none ∨ r.kind? = some .release) :
    standard.titleOf? r = none ∧ (r.breaking = false → standard.levelOf r = .none) := by
  rw [titleOf?, levelOf]
  rcases silent with hkind | hkind
  · rw [hkind]
    exact ⟨rfl, fun plain => by rw [plain]; rfl⟩
  · rw [hkind]
    exact ⟨rfl, fun plain => by rw [plain]; rfl⟩

/-- A header that the ignore pattern matches when nothing is configured starts like the headers of
release commits. -/
theorem Linter.exists_ownLead_of_isMatch {p : LintPolicy} {linter : Linter} {header : List Char}
    (same : p.ignorePattern = standardIgnorePattern) (made : Linter.ofPolicy p = .ok linter)
    (found : linter.bypass.isMatch (String.ofList header) = true) :
    ∃ text, header = ReleasePolicy.ownLead ++ text := by
  rw [ofPolicy_of_standardIgnorePattern same, Except.ok.injEq] at made
  rw [← made, Pattern.isMatch, String.toList_ofList] at found
  obtain ⟨text, htext⟩ := Regex.Re.isPrefix_of_matchesIn (List.cons_ne_nil _ _) found
  exact ⟨text, htext.symm⟩

namespace Message

variable {message : String}

/-- What a message is read as whose header git writes on its own. -/
theorem untyped_of_isGenerated (h : Header.isGenerated (parse message).header.toList = true) :
    (parse message).type = "" ∧ ((parse message).breaking = true ↔ Announced (parse message)) := by
  have unread := Header.read?_eq_none_of_isGenerated h
  rw [parse_eq_ofLines] at unread ⊢
  rw [toList_header_ofLines] at unread
  refine ⟨type_ofLines_of_unread unread _, breaking_iff_announced fun parts hread => ?_⟩
  rw [unread] at hread
  cases hread

/-- What a message is read as whose header is matched by the ignore pattern that is there when
nothing is configured. -/
theorem release_of_isMatch {p : LintPolicy} {linter : Linter}
    (same : p.ignorePattern = standardIgnorePattern) (made : Linter.ofPolicy p = .ok linter)
    (found : linter.bypass.isMatch (parse message).header = true) :
    (parse message).type = "release" ∧
      ((parse message).breaking = true ↔ Announced (parse message)) := by
  rw [parse_eq_ofLines] at found ⊢
  obtain ⟨text, htext⟩ := Linter.exists_ownLead_of_isMatch same made found
  have hread := Header.read?_ownLead text
  rw [← htext] at hread
  refine ⟨?_, breaking_iff_announced fun parts hparts => ?_⟩
  · rw [ofLines, hread]
    rfl
  · rw [hread] at hparts
    cases hparts
    rfl

end Message

/-! ## What a bypass lets through -/

open Message (Announced)

/-- The commit counts by nothing but its footer when nothing is configured: it asks for a major
release if the footer announces a breaking change, and otherwise for no release, and no section of
any notes lists it. -/
structure FooterOnly (r : ParsedCommit) : Prop where
  loud : Announced r → Config.standard.release.levelOf r = .major
  quiet : ¬Announced r → Config.standard.release.levelOf r = .none
  unlisted : ∀ commits, ∀ s ∈ (ReleaseNotes.compose Config.standard.release commits).sections,
    r ∉ s.commits

theorem footerOnly_of_kind? {r : ParsedCommit} (silent : r.kind? = none ∨ r.kind? = some .release)
    (hbreaking : r.breaking = true ↔ Announced r) : FooterOnly r := by
  obtain ⟨untitled, level⟩ := ReleasePolicy.silent_of_kind? silent
  refine ⟨fun announced => ?_, fun plain => level ?_, fun commits s hs listed => ?_⟩
  · rw [ReleasePolicy.levelOf, if_pos (hbreaking.mpr announced)]
  · rwa [← hbreaking, Bool.not_eq_true] at plain
  · rw [ReleaseNotes.commits_of_mem_sections hs, List.mem_filter] at listed
    have titled := listed.2
    rw [show Config.standard.release.titleOf? r = none from untitled] at titled
    cases titled

/-- A header that git writes on its own has no type and no mark of a breaking change, so a commit
with a type is accepted as it is only if the ignore pattern matches its header.  When nothing is
configured, all that counts of a commit that is accepted as it is is its footer. -/
theorem bypassed_without_influence :
    (∀ message, Header.isGenerated (Message.parse message).header.toList = true →
      Header.read? (Message.parse message).header.toList = none ∧
        (Message.parse message).type = "" ∧
        ((Message.parse message).breaking = true ↔ Announced (Message.parse message))) ∧
    (∀ p linter message, Linter.ofPolicy p = .ok linter →
      linter.judge (Message.parse message) = .bypassed → (Message.parse message).type ≠ "" →
      linter.bypass.isMatch (Message.parse message).header = true) ∧
    ∃ linter, Linter.ofPolicy Config.standard.lint = .ok linter ∧
      ∀ message, linter.judge (Message.parse message) = .bypassed →
        FooterOnly (Message.parse message) := by
  refine ⟨fun message generated => ?_, fun p linter message made bypassed typed => ?_,
    _, Linter.ofPolicy_of_standardIgnorePattern rfl, fun message bypassed => ?_⟩
  · exact ⟨Header.read?_eq_none_of_isGenerated generated, Message.untyped_of_isGenerated generated⟩
  · rcases (linter.judge_eq_bypassed_iff _).mp bypassed with found | ⟨-, generated⟩
    · exact found
    · exact absurd (Message.untyped_of_isGenerated generated).1 typed
  · rcases (Linter.judge_eq_bypassed_iff _ _).mp bypassed with found | ⟨-, generated⟩
    · obtain ⟨typed, loud⟩ := Message.release_of_isMatch rfl
        (Linter.ofPolicy_of_standardIgnorePattern rfl) found
      refine footerOnly_of_kind? (Or.inr ?_) loud
      rw [ParsedCommit.kind?, typed]
      rfl
    · obtain ⟨untyped, loud⟩ := Message.untyped_of_isGenerated generated
      refine footerOnly_of_kind? (Or.inl ?_) loud
      rw [ParsedCommit.kind?, untyped]
      rfl

/-- A merge with a note on a breaking change in its footer asks for a major release, and no section
lists it. -/
theorem merge_with_note_loud :
    let r := Message.parse "Merge branch 'x' into y\n\nBREAKING CHANGE: Gone."
    Config.standard.release.levelOf r = .major ∧
      ∀ s ∈ (ReleaseNotes.compose Config.standard.release [r]).sections, r ∉ s.commits := by
  intro r
  obtain ⟨merge, -, linter, made, footerOnly⟩ := bypassed_without_influence
  have known : (Linter.ofPolicy Config.standard.lint).toOption.map (fun linter =>
      (linter.judge r, Header.isGenerated r.header.toList, r.breaking))
        = some (.bypassed, true, true) := by
    decide +kernel
  rw [made] at known
  obtain ⟨bypassed, rest⟩ := Prod.mk.inj (Option.some.inj known)
  obtain ⟨generated, breaking⟩ := Prod.mk.inj rest
  obtain ⟨loud, -, unlisted⟩ := footerOnly _ bypassed
  exact ⟨loud ((merge _ generated).2.2.mp breaking), unlisted [r]⟩

end ReleasePlanner
