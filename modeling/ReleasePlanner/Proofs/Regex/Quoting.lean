import ReleasePlanner.Proofs.Regex.Items
import ReleasePlanner.Proofs.Regex.Matcher
import ReleasePlanner.Proofs.Text.Placeholder

/-!
# Quoting

A text is quoted by a backslash in front of each character that has a meaning
of its own (`quote`).  The quoted form of a character is not the start of that
of another one, so words are found in a quoted text where they are found in the
text (`dropWord?_quote`).  A word that starts with such a character is found
nowhere else (`around?_quote`), since a backslash is never the second half of a
quoted character without being quoted itself.

The reader of expressions takes the quoted characters one by one, each of them
for itself (`items_quote`).
-/

namespace ReleasePlanner.Regex

open Text (dropWord?)

/-! ## Quoted texts -/

/-- A character, with a backslash in front of it when it has a meaning of its own. -/
def quoteChar (c : Char) : List Char :=
  if metaChars.contains c then ['\\', c] else [c]

/-- The expression for a text. -/
def quote (text : List Char) : List Char :=
  text.flatMap quoteChar

example : quote ['v', '+', '1', '\\'] = ['v', '\\', '+', '1', '\\', '\\'] := by decide

variable {c d : Char} {word text before after : List Char}

theorem quote_cons (c : Char) (text : List Char) : quote (c :: text) = quoteChar c ++ quote text :=
  rfl

theorem quoteChar_of_meta (h : metaChars.contains c = true) : quoteChar c = ['\\', c] :=
  if_pos h

theorem quoteChar_of_plain (h : metaChars.contains c = false) : quoteChar c = [c] :=
  if_neg (Bool.eq_false_iff.mp h)

theorem ne_backslash_of_plain (h : metaChars.contains c = false) : c ≠ '\\' := by
  rintro rfl
  revert h
  decide

/-- A quoted character starts with a backslash, or it is plain. -/
theorem quoteChar_cases (c : Char) :
    (metaChars.contains c = true ∧ quoteChar c = ['\\', c]) ∨
      (metaChars.contains c = false ∧ c ≠ '\\' ∧ quoteChar c = [c]) := by
  cases h : metaChars.contains c with
  | true => exact Or.inl ⟨rfl, quoteChar_of_meta h⟩
  | false => exact Or.inr ⟨rfl, ne_backslash_of_plain h, quoteChar_of_plain h⟩

/-! ### Words in quoted texts -/

/-- Two quoted characters do not start alike. -/
theorem dropWord?_quoteChar_of_ne (different : c ≠ d) (word text : List Char) :
    dropWord? (quoteChar c ++ word) (quoteChar d ++ text) = none := by
  rcases quoteChar_cases c with ⟨-, hc⟩ | ⟨-, plain, hc⟩
  · rcases quoteChar_cases d with ⟨-, hd⟩ | ⟨-, other, hd⟩
    · simp [hc, hd, dropWord?, different]
    · simp [hc, hd, dropWord?, Ne.symm other]
  · rcases quoteChar_cases d with ⟨-, hd⟩ | ⟨-, -, hd⟩
    · simp [hc, hd, dropWord?, plain]
    · simp [hc, hd, dropWord?, different]

/-- What two texts start with alike is dropped from both. -/
theorem dropWord?_append_append (start word text : List Char) :
    dropWord? (start ++ word) (start ++ text) = dropWord? word text := by
  induction start with
  | nil => rfl
  | cons c start ih => simp [dropWord?, ih]

/-- A quoted text starts with a quoted word where the text starts with the word. -/
theorem dropWord?_quote (word text : List Char) :
    dropWord? (quote word) (quote text) = (dropWord? word text).map quote := by
  induction word generalizing text with
  | nil => rfl
  | cons w word ih =>
      cases text with
      | nil => rcases quoteChar_cases w with ⟨-, hw⟩ | ⟨-, -, hw⟩ <;> simp [quote_cons, hw] <;> rfl
      | cons c text =>
          rw [quote_cons, quote_cons]
          by_cases same : w = c
          · rw [same, dropWord?_append_append, ih, dropWord?, if_pos rfl]
          · rw [dropWord?_quoteChar_of_ne same, dropWord?, if_neg same]
            rfl

/-- No quoted word starts within a quoted character, if the word starts with a character that has a
meaning of its own and is not the backslash. -/
theorem dropWord?_within (special : metaChars.contains c = true) (notSlash : c ≠ '\\')
    (word text : List Char) (d : Char) : dropWord? (quote (c :: word)) (d :: quote text) = none := by
  rw [quote_cons, quoteChar_of_meta special]
  by_cases slash : '\\' = d
  · subst slash
    cases text with
    | nil => rfl
    | cons e text =>
        rcases quoteChar_cases e with ⟨-, he⟩ | ⟨plain, -, he⟩
        · simp [quote_cons, he, dropWord?, notSlash]
        · have different : c ≠ e := by
            rintro rfl
            rw [special] at plain
            cases plain
          simp [quote_cons, he, dropWord?, different]
  · simp [dropWord?, slash]

/-- A quoted word is found in a quoted text where the word is found in the text. -/
theorem around?_quote (special : metaChars.contains c = true) (notSlash : c ≠ '\\')
    (word text : List Char) :
    Text.around? (quote (c :: word)) (quote text)
      = (Text.around? (c :: word) text).map fun parts => (quote parts.1, quote parts.2) := by
  induction text with
  | nil =>
      rw [quote_cons, quoteChar_of_meta special]
      rfl
  | cons d text ih =>
      have start := dropWord?_quote (c :: word) (d :: text)
      cases here : dropWord? (c :: word) (d :: text) with
      | some tail =>
          rw [here, Option.map_some] at start
          rw [Text.around?_of_some here]
          rcases quoteChar_cases d with ⟨-, hd⟩ | ⟨-, -, hd⟩
          · rw [quote_cons d, hd] at start ⊢
            exact Text.around?_of_some start
          · rw [quote_cons d, hd] at start ⊢
            exact Text.around?_of_some start
      | none =>
          rw [here, Option.map_none] at start
          rw [Text.around?_cons_of_none here, Option.map_map]
          rcases quoteChar_cases d with ⟨-, hd⟩ | ⟨-, -, hd⟩
          · have within := dropWord?_within special notSlash word text d
            rw [quote_cons d, hd] at start ⊢
            rw [List.cons_append, List.cons_append, List.nil_append] at start ⊢
            rw [Text.around?_cons_of_none start, Text.around?_cons_of_none within, ih,
              Option.map_map, Option.map_map]
            simp [Function.comp_def, quote_cons d, hd]
          · rw [quote_cons d, hd] at start ⊢
            rw [List.cons_append, List.nil_append] at start ⊢
            rw [Text.around?_cons_of_none start, ih, Option.map_map]
            simp [Function.comp_def, quote_cons d, hd]

/-- Around a word that is found once, the quoted word is replaced and everything else is quoted. -/
theorem fill_quote (special : metaChars.contains c = true) (notSlash : c ≠ '\\')
    (found : Text.around? (c :: word) text = some (before, after))
    (absent : Text.around? (c :: word) after = none) (filling : List Char) :
    Text.fill (quote (c :: word)) filling (quote text) = quote before ++ (filling ++ quote after) := by
  have nonempty : quote (c :: word) ≠ [] := by
    rw [quote_cons, quoteChar_of_meta special]
    exact List.cons_ne_nil _ _
  have quoted := around?_quote special notSlash word text
  have silent := around?_quote special notSlash word after
  rw [found, Option.map_some] at quoted
  rw [absent, Option.map_none] at silent
  rw [Text.fill_of_around? nonempty quoted, Text.fill_eq_self silent]

/-! ## Reading quoted texts -/

theorem free_of_plain (h : metaChars.contains c = false) : operators.contains c = false := by
  refine Bool.eq_false_iff.mpr fun operator => ?_
  have special : ∀ o ∈ operators, metaChars.contains o = true :=
    List.all_eq_true.mp (by decide)
  rw [special c (List.contains_iff_mem.mp operator)] at h
  cases h

/-- A plain character stands for itself. -/
theorem run_primitive_of_plain (plain : metaChars.contains c = false) (text : List Char) :
    primitive.run ⟨c :: text, .standard, []⟩
      = some (.set (.single c), ⟨text, .standard, []⟩) := by
  have start : flags.run ⟨c :: text, .standard, []⟩
      = some (.standard, ⟨c :: text, .standard, []⟩) := rfl
  have next : bump.run ⟨c :: text, .standard, []⟩ = some (c, ⟨text, .standard, []⟩) := rfl
  rw [primitive, run_bind_of_eq_some start, run_bind_of_eq_some next]
  split
  all_goals first
    | rfl
    | exact absurd plain (by decide)

/-- So does one that has a meaning of its own, behind a backslash. -/
theorem run_escape_of_meta (special : metaChars.contains c = true) (text : List Char) :
    escape.run ⟨c :: text, .standard, []⟩ = some (.char c false, ⟨text, .standard, []⟩) := by
  have start : flags.run ⟨c :: text, .standard, []⟩
      = some (.standard, ⟨c :: text, .standard, []⟩) := rfl
  have next : bump.run ⟨c :: text, .standard, []⟩ = some (c, ⟨text, .standard, []⟩) := rfl
  have allowed : escapable c = true := by rw [escapable, special, Bool.true_or]
  rw [escape, run_bind_of_eq_some start, run_bind_of_eq_some next]
  -- No other escape is spelled with such a character.
  split
  all_goals first
    | exact absurd special (by decide)
    | rw [allowed]; rfl

theorem run_primitive_of_meta (special : metaChars.contains c = true) (text : List Char) :
    primitive.run ⟨'\\' :: c :: text, .standard, []⟩
      = some (.set (.single c), ⟨text, .standard, []⟩) := by
  have start : flags.run ⟨'\\' :: c :: text, .standard, []⟩
      = some (.standard, ⟨'\\' :: c :: text, .standard, []⟩) := rfl
  have next : bump.run ⟨'\\' :: c :: text, .standard, []⟩
      = some ('\\', ⟨c :: text, .standard, []⟩) := rfl
  rw [primitive, run_bind_of_eq_some start, run_bind_of_eq_some next]
  exact run_bind_of_eq_some (run_escape_of_meta special text)

theorem item_quoteChar (c : Char) : Item (quoteChar c) ⟨.set (.single c), 0⟩ := by
  rcases quoteChar_cases c with ⟨special, hc⟩ | ⟨plain, -, hc⟩
  · rw [hc]
    exact .of_primitive (by decide) (run_primitive_of_meta special)
  · rw [hc]
    exact .of_primitive (free_of_plain plain) (run_primitive_of_plain plain)

/-- A quoted text is read as its characters. -/
theorem items_quote (text : List Char) :
    Items (quote text) ((Re.spell text).map fun a => ⟨a, 0⟩) := by
  induction text with
  | nil => exact .nil
  | cons c text ih => exact .cons (item_quoteChar c) ih

end ReleasePlanner.Regex
