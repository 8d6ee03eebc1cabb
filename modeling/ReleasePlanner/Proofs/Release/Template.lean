import Mathlib.Data.List.Basic
import ReleasePlanner.Config.Basic
import ReleasePlanner.Proofs.Text.Placeholder
import ReleasePlanner.Proofs.Version.Written

/-!
# Templates of release messages

A template is a row of parts: placeholders, wherever one stands in the text, and
the characters around them (`Parts`).  Every text has exactly one such row.

The two placeholders are filled one after the other.  This comes to the same as
filling the parts all at once (`ReleasePolicy.commitMessage_fills`), since the
first filling leaves the parts as they are, but for the placeholders that it
fills (`Parts.fill_version`).  The text of a version brings no brace along, so no
placeholder starts in it.  It starts with a digit, so no placeholder that starts
before it goes on into it.  What the second filling brings along is not looked
at again.
-/

namespace ReleasePlanner

open Text (fill dropWord?)

namespace Template

/-- What stands for something else in a template. -/
inductive Hole where
  | version
  | notes
  deriving DecidableEq, Repr

/-- The text of a placeholder. -/
def Hole.word : Hole → List Char
  | version => Text.versionWord
  | notes => Text.notesWord

/-- A part of a template. -/
inductive Part where
  /-- A character that stands for itself. -/
  | char (c : Char)
  /-- A placeholder. -/
  | hole (h : Hole)
  deriving DecidableEq, Repr

/-- The text of a part, with something in the place of placeholders. -/
def Part.fill (content : Hole → List Char) : Part → List Char
  | char c => [c]
  | hole h => content h

/-- The text of a row of parts, with something in the place of placeholders. -/
def fillParts (content : Hole → List Char) (parts : List Part) : List Char :=
  parts.flatMap (Part.fill content)

/-- The parts of a text.  A character is a part of its own only where no placeholder stands. -/
inductive Parts : List Char → List Part → Prop where
  | nil : Parts [] []
  | char {c : Char} {text : List Char} {parts : List Part} :
      (∀ h : Hole, ¬h.word <+: c :: text) → Parts text parts →
        Parts (c :: text) (.char c :: parts)
  | hole (h : Hole) {text : List Char} {parts : List Part} :
      Parts text parts → Parts (h.word ++ text) (.hole h :: parts)

variable {text filling front : List Char} {parts others : List Part} {h h' : Hole} {c : Char}

/-! ## Placeholders -/

/-- A placeholder has one opening brace, in front. -/
theorem Hole.exists_word_eq (h : Hole) : ∃ name, h.word = '\x7b' :: name ∧ '\x7b' ∉ name := by
  cases h with
  | version => exact ⟨_, rfl, by decide⟩
  | notes => exact ⟨_, rfl, by decide⟩

theorem Hole.word_ne_nil (h : Hole) : h.word ≠ [] := by
  obtain ⟨name, hword, -⟩ := h.exists_word_eq
  rw [hword]
  exact List.cons_ne_nil _ _

theorem Hole.digit_notMem_word (h : Hole) (digit : c.isDigit = true) : c ∉ h.word := by
  have letters : h.word.all (fun d => !d.isDigit) = true := by
    cases h with
    | version => rfl
    | notes => rfl
  intro hc
  have letter := List.all_eq_true.mp letters c hc
  rw [digit] at letter
  cases letter

/-- No two placeholders stand at one place. -/
theorem Hole.dropWord?_eq_none (different : h ≠ h') (text : List Char) :
    dropWord? h.word (h'.word ++ text) = none := by
  cases h with
  | version =>
      cases h' with
      | version => exact absurd rfl different
      | notes => rfl
  | notes =>
      cases h' with
      | version => rfl
      | notes => exact absurd rfl different

/-- A placeholder does not start with another character than the brace. -/
theorem Hole.not_isPrefix (other : c ≠ '\x7b') (h : Hole) : ¬h.word <+: c :: text := by
  obtain ⟨name, hword, -⟩ := h.exists_word_eq
  rw [hword, List.cons_prefix_cons]
  exact fun starts => other starts.1.symm

/-! ## The parts of a text -/

namespace Parts

/-- Characters other than the brace are parts of their own. -/
theorem append (absent : '\x7b' ∉ front) (hparts : Parts text parts) :
    Parts (front ++ text) (front.map .char ++ parts) := by
  induction front with
  | nil => exact hparts
  | cons c front ih =>
      rw [List.mem_cons, not_or] at absent
      exact .char (fun h => h.not_isPrefix (Ne.symm absent.1)) (ih absent.2)

theorem exists_parts (text : List Char) : ∃ parts, Parts text parts := by
  induction hn : text.length using Nat.strongRecOn generalizing text with
  | ind n ih =>
      subst hn
      cases text with
      | nil => exact ⟨[], .nil⟩
      | cons c text =>
          by_cases starts : ∃ h : Hole, h.word <+: c :: text
          · obtain ⟨h, rest, heq⟩ := starts
            have shorter : rest.length < (c :: text).length := by
              rw [← heq, List.length_append]
              exact Nat.lt_add_of_pos_left (List.length_pos_iff.mpr h.word_ne_nil)
            obtain ⟨parts, hparts⟩ := ih rest.length shorter rest rfl
            exact ⟨.hole h :: parts, heq ▸ .hole h hparts⟩
          · obtain ⟨parts, hparts⟩ := ih text.length (Nat.lt_succ_self _) text rfl
            exact ⟨.char c :: parts, .char (not_exists.mp starts) hparts⟩

/-- A text has one row of parts only. -/
theorem unique (hparts : Parts text parts) (hothers : Parts text others) : others = parts := by
  induction hparts generalizing others with
  | nil =>
      generalize hempty : ([] : List Char) = empty at hothers
      cases hothers with
      | nil => rfl
      | char => cases hempty
      | hole h => exact absurd (List.append_eq_nil_iff.mp hempty.symm).1 h.word_ne_nil
  | @char c text parts none_here _ ih =>
      generalize hwhole : c :: text = whole at hothers
      cases hothers with
      | nil => cases hwhole
      | char _ rest =>
          cases hwhole
          exact congrArg (Part.char c :: ·) (ih rest)
      | hole h rest => exact absurd ⟨_, hwhole.symm⟩ (none_here h)
  | @hole h text parts _ ih =>
      generalize hwhole : h.word ++ text = whole at hothers
      cases hothers with
      | nil => exact absurd (List.append_eq_nil_iff.mp hwhole).1 h.word_ne_nil
      | char none_here => exact absurd ⟨_, hwhole⟩ (none_here h)
      | hole h' rest =>
          by_cases same : h = h'
          · subst same
            exact congrArg (Part.hole h :: ·) (ih (List.append_cancel_left hwhole ▸ rest))
          · have here := Hole.dropWord?_eq_none same ‹List Char›
            rw [← hwhole, Text.dropWord?_append] at here
            cases here

/-! ## Filling one placeholder -/

theorem fill_append_of_absent (h : Hole) (absent : '\x7b' ∉ front) (filling text : List Char) :
    fill h.word filling (front ++ text) = front ++ fill h.word filling text := by
  induction front with
  | nil => rfl
  | cons c front ih =>
      rw [List.mem_cons, not_or] at absent
      have none_here : dropWord? h.word (c :: (front ++ text)) = none :=
        Text.dropWord?_eq_none.mpr (h.not_isPrefix (Ne.symm absent.1))
      rw [List.cons_append, Text.fill_cons_of_none none_here, ih absent.2]
      rfl

/-- Filling one placeholder leaves the other one as it is. -/
theorem fill_append_of_ne (different : h ≠ h') (filling text : List Char) :
    fill h.word filling (h'.word ++ text) = h'.word ++ fill h.word filling text := by
  have none_here := Hole.dropWord?_eq_none different text
  obtain ⟨name, hword, absent⟩ := h'.exists_word_eq
  rw [hword, List.cons_append] at none_here ⊢
  rw [Text.fill_cons_of_none none_here, fill_append_of_absent h absent]
  rfl

/-- One placeholder is filled part by part. -/
theorem fill_eq (hparts : Parts text parts) (h : Hole) (filling : List Char) :
    fill h.word filling text
      = fillParts (fun h' => if h' = h then filling else h'.word) parts := by
  induction hparts with
  | nil => rfl
  | char none_here _ ih =>
      rw [Text.fill_cons_of_none (Text.dropWord?_eq_none.mpr (none_here h)), ih]
      rfl
  | hole h' _ ih =>
      rw [fillParts, List.flatMap_cons, Part.fill, ← fillParts, ← ih]
      by_cases same : h' = h
      · rw [if_pos same, same, Text.fill_append h.word_ne_nil]
      · rw [if_neg same, fill_append_of_ne (Ne.symm same)]

/-! ## Filling both -/

/-- The parts that come of a part when the version is filled in. -/
def expand (version : List Char) : Part → List Part
  | .hole .version => version.map .char
  | part => [part]

/-- Filling in the version neither makes nor breaks another placeholder. -/
theorem fill_version {digit : Char} {version : List Char} (hparts : Parts text parts)
    (first : digit.isDigit = true) (absent : '\x7b' ∉ digit :: version) :
    Parts (fill Hole.version.word (digit :: version) text)
      (parts.flatMap (expand (digit :: version))) := by
  induction hparts with
  | nil => exact .nil
  | @char c text parts none_here _ ih =>
      rw [Text.fill_cons_of_none (Text.dropWord?_eq_none.mpr (none_here .version))]
      refine .char (fun h starts => none_here h ?_) ih
      -- A placeholder that goes on into the version would hold a digit.
      obtain ⟨name, hword, -⟩ := h.exists_word_eq
      have letters := h.digit_notMem_word first
      rw [hword, List.mem_cons, not_or] at letters
      rw [hword, List.cons_prefix_cons] at starts ⊢
      exact ⟨starts.1, Text.isPrefix_of_isPrefix_fill (by decide) letters.2 starts.2⟩
  | hole h _ ih =>
      cases h with
      | version =>
          rw [Text.fill_append (by decide)]
          exact append absent ih
      | notes =>
          rw [fill_append_of_ne (by decide)]
          exact .hole .notes ih

end Parts

theorem fillParts_expand (given : Hole → List Char) (parts : List Part) :
    fillParts (fun h => if h = .notes then given .notes else h.word)
        (parts.flatMap (Parts.expand (given .version)))
      = fillParts given parts := by
  have plain : ((given .version).map Part.char).flatMap
      (Part.fill fun h => if h = .notes then given .notes else h.word) = given .version := by
    rw [List.flatMap_map]
    exact List.flatMap_singleton' _
  rw [fillParts, fillParts, List.flatMap_assoc]
  refine List.flatMap_congr fun part _ => ?_
  cases part with
  | char c => rfl
  | hole h =>
      cases h with
      | version => exact plain
      | notes => exact List.append_nil _

end Template

/-! ## The message -/

theorem Version.exists_chars_eq (v : Version) :
    ∃ digit rest, v.chars = digit :: rest ∧ digit.isDigit = true := by
  obtain ⟨digit, digits, hmajor⟩ := List.exists_cons_of_ne_nil (Text.decimal_ne_nil v.major)
  have first : digit.isDigit = true :=
    Text.isDigit_of_mem_decimal (hmajor ▸ List.mem_cons_self)
  cases hp : v.pre with
  | none => exact ⟨digit, _, by rw [chars, hp, coreChars, hmajor]; rfl, first⟩
  | some p => exact ⟨digit, _, by rw [chars, hp, coreChars, hmajor]; rfl, first⟩

namespace ReleasePolicy

open Template

/-- What is filled into the message of a release commit. -/
def contents (v : Version) (notes : String) : Hole → List Char
  | .version => v.chars
  | .notes => notes.toList

/-- The message is the template with version and notes in the place of their placeholders, filled
in at once.  When the version is filled in first, the text has the same placeholders for the notes
as before. -/
theorem commitMessage_fills {v : Version} (named : v.WellNamed) (p : ReleasePolicy)
    (notes : String) :
    ∃ parts, Parts p.message.toList parts ∧
      (∀ others, Parts p.message.toList others → others = parts) ∧
      (p.commitMessage v notes).toList = fillParts (contents v notes) parts ∧
      Parts (fill Text.versionWord v.chars p.message.toList)
        (parts.flatMap (Parts.expand v.chars)) := by
  obtain ⟨parts, hparts⟩ := Parts.exists_parts p.message.toList
  obtain ⟨digit, rest, hchars, first⟩ := v.exists_chars_eq
  have absent : '\x7b' ∉ v.chars := Version.notMem_chars named (by decide) (by decide)
  have filled : Parts (fill Text.versionWord v.chars p.message.toList)
      (parts.flatMap (Parts.expand v.chars)) := by
    rw [hchars] at absent ⊢
    exact hparts.fill_version first absent
  refine ⟨parts, hparts, fun others => hparts.unique, ?_, filled⟩
  rw [commitMessage, String.toList_ofList]
  exact (filled.fill_eq .notes notes.toList).trans (fillParts_expand (contents v notes) parts)

/-- Braces around a placeholder and placeholders in the notes. -/
theorem commitMessage_fills_nested :
    ∃ parts, (Version.stable 1 0 2).WellNamed ∧
      Parts "\x7bno\x7bversion\x7dtes\x7d \x7bnotes\x7d".toList parts ∧
      fillParts (contents (.stable 1 0 2) "\x7bversion\x7d\x7bnotes\x7d") parts
        = "\x7bno1.0.2tes\x7d \x7bversion\x7d\x7bnotes\x7d".toList := by
  have named : (Version.stable 1 0 2).WellNamed := Version.wellNamed_of_stable rfl
  obtain ⟨parts, hparts, -, filled, -⟩ := commitMessage_fills named
    { standard with message := "\x7bno\x7bversion\x7dtes\x7d \x7bnotes\x7d" }
    "\x7bversion\x7d\x7bnotes\x7d"
  exact ⟨parts, named, hparts, filled.symm.trans (by decide +kernel)⟩

end ReleasePolicy

end ReleasePlanner
