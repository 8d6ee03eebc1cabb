import ReleasePlanner.Proofs.Text.Decimal
import ReleasePlanner.Proofs.Toml.Strings

/-!
# Values that are written and read

A plain value is one that is written without a header of its own: a string, a
truth value, an integer that fits, or an array of plain values.  It is read back
wherever a value may end (`Value.Plain.readBy`).  Floating-point numbers and
dates are left out, since they are kept as texts that need not be those of any
number.
-/

namespace ReleasePlanner.Toml

variable {c mark : Char} {text rest ds : List Char} {depth fuel n : Nat} {v : Value}

/-! ## Plain values -/

/-- A plain value in which arrays are nested at most so deep. -/
inductive Value.Plain : Nat → Value → Prop where
  | string {depth : Nat} (s : String) : Plain depth (.string s)
  | boolean {depth : Nat} (b : Bool) : Plain depth (.boolean b)
  | integer {depth : Nat} {n : Int} : fits n = true → Plain depth (.integer n)
  | array {depth : Nat} {items : List Value} :
      (∀ v ∈ items, Plain depth v) → Plain (depth + 1) (.array items)

/-- What may follow a value: a line end, a comma or a closing bracket. -/
def endsValue (c : Char) : Bool :=
  c == '\n' || c == ',' || c == ']'

/-- What a plain value may start with. -/
def startsValue (c : Char) : Bool :=
  c == '"' || c == '\x27' || c == 't' || c == 'f' || c == '[' || c == '-' || c.isDigit

theorem ne_of_endsValue (ends : endsValue c = true) :
    c ≠ '"' ∧ c ≠ '\x27' ∧ c ≠ '.' ∧ c ≠ 'e' ∧ c ≠ 'E' ∧ c ≠ '_' ∧ c ≠ '-' ∧ c ≠ ':' ∧
      c.isDigit = false := by
  simp only [endsValue, Bool.or_eq_true, beq_iff_eq] at ends
  rcases ends with (rfl | rfl) | rfl <;> decide

theorem ne_of_startsValue (starts : startsValue c = true) :
    isSpace c = false ∧ c ≠ '#' ∧ c ≠ '\n' ∧ c ≠ '\r' ∧ c ≠ ']' ∧ c ≠ '\x7b' := by
  simp only [startsValue, Bool.or_eq_true, beq_iff_eq] at starts
  rcases starts with (((((rfl | rfl) | rfl) | rfl) | rfl) | rfl) | digit
  all_goals try decide
  refine ⟨?_, ?_, ?_, ?_, ?_, ?_⟩
  · cases space : isSpace c with
    | false => rfl
    | true =>
      simp only [isSpace, Bool.or_eq_true, beq_iff_eq] at space
      rcases space with rfl | rfl <;> cases digit
  all_goals
    rintro rfl
    cases digit

/-! ## Numbers -/

theorem digitRun_append (digits : ds.all Char.isDigit = true) (ends : endsValue c = true)
    (rest : List Char) :
    digitRun Char.isDigit (ds ++ c :: rest) = (ds, c :: rest) := by
  obtain ⟨-, -, -, -, -, line, -, -, digit⟩ := ne_of_endsValue ends
  induction ds with
  | nil => simp [digitRun, digit, line]
  | cons d ds ih =>
      rw [List.all_cons, Bool.and_eq_true] at digits
      simp [digitRun, digits.1, ih digits.2]

/-- A number is no date and no time: no mark follows so many digits. -/
theorem startsWithDigits_append (digits : ds.all Char.isDigit = true) (ends : c.isDigit = false)
    (digit : mark.isDigit = false) (other : c ≠ mark) (n : Nat) (rest : List Char) :
    startsWithDigits n mark (ds ++ c :: rest) = false := by
  cases starts : startsWithDigits n mark (ds ++ c :: rest) with
  | false => rfl
  | true =>
      simp only [startsWithDigits, Bool.and_eq_true, beq_iff_eq] at starts
      obtain ⟨⟨-, all⟩, head⟩ := starts
      rcases Nat.lt_or_ge ds.length n with longer | shorter
      · -- The character after the digits is among the first `n`.
        have listed : c ∈ (ds ++ c :: rest).take n := by
          rw [List.take_append, List.mem_append]
          obtain ⟨k, hk⟩ := Nat.exists_eq_add_of_lt longer
          have : n - ds.length = k + 1 := by omega
          rw [this, List.take_succ_cons]
          exact Or.inr List.mem_cons_self
        rw [List.all_eq_true.mp all c listed] at ends
        cases ends
      · rw [List.drop_append_of_le_length shorter] at head
        cases left : ds.drop n with
        | nil =>
            rw [left] at head
            exact absurd (Option.some.inj head) other
        | cons d more =>
            rw [left] at head
            have listed : d ∈ ds := List.mem_of_mem_drop (left ▸ List.mem_cons_self)
            have same : d = mark := Option.some.inj head
            rw [← same, List.all_eq_true.mp digits d listed] at digit
            cases digit

theorem run_leadingDigits (n : Nat) (ends : endsValue c = true) :
    leadingDigits.run (Text.decimal n ++ c :: rest) = some (Text.decimal n, c :: rest) := by
  have all := Text.all_isDigit_decimal n
  have run := digitRun_append all ends rest
  have head : ((Text.decimal n ++ c :: rest).head?.any Char.isDigit) = true := by
    cases form : Text.decimal n with
    | nil => exact absurd form (Text.decimal_ne_nil n)
    | cons d ds =>
        rw [form, List.all_cons, Bool.and_eq_true] at all
        exact all.1
  have short : ((Text.decimal n).length == 1 || (Text.decimal n).head? != some '0') = true := by
    cases n with
    | zero => rfl
    | succ n => simp [Text.head?_decimal_ne_zero (Nat.succ_pos n)]
  rw [leadingDigits, run_bind, digits, run_bind, run_get, Option.bind_some, run_bind,
    run_guard head, Option.bind_some, run]
  simp only [run_bind, run_set, Option.bind_some, run_pure, run_guard short]

theorem run_fraction? (ends : endsValue c = true) :
    fraction?.run (c :: rest) = some (none, c :: rest) := by
  obtain ⟨-, -, point, -⟩ := ne_of_endsValue ends
  have skipped : (skip? '.').run (c :: rest) = some (false, c :: rest) :=
    run_skip?_of_ne (by simpa using point)
  simp [fraction?, skipped]

theorem run_exponent? (ends : endsValue c = true) :
    exponent?.run (c :: rest) = some (none, c :: rest) := by
  obtain ⟨-, -, -, small, large, -⟩ := ne_of_endsValue ends
  have skipped : (skip? 'e').run (c :: rest) = some (false, c :: rest) :=
    run_skip?_of_ne (by simpa using small)
  have skipped' : (skip? 'E').run (c :: rest) = some (false, c :: rest) :=
    run_skip?_of_ne (by simpa using large)
  simp [exponent?, skipped, skipped']

/-- Decimal digits are read as a number up to where the value ends. -/
theorem run_decimalNumber (negative : Bool) (n : Nat) (ends : endsValue c = true)
    (fit : fits (if negative then -(n : Int) else n) = true) (rest : List Char) :
    (decimalNumber negative).run (Text.decimal n ++ c :: rest)
      = some (.integer (if negative then -(n : Int) else n), c :: rest) := by
  simp only [decimalNumber, run_bind, run_leadingDigits n ends, run_fraction? ends,
    run_exponent? ends, Option.bind_some, Option.isNone_none, Bool.and_self, if_true,
    Text.digitsValue_decimal, run_guard fit, run_pure]

/-- What a number may start with that is no sign and no word. -/
theorem ne_of_isDigit (digit : c.isDigit = true) :
    c ≠ '-' ∧ c ≠ '+' ∧ c ≠ 'i' ∧ c ≠ 'n' ∧ c ≠ 'x' ∧ c ≠ 'o' ∧ c ≠ 'b' := by
  refine ⟨?_, ?_, ?_, ?_, ?_, ?_, ?_⟩
  all_goals
    rintro rfl
    cases digit

/-- Decimal digits with what follows them: a digit, and then a digit or the end of the value. -/
theorem exists_decimal_append (n : Nat) (ends : endsValue c = true) (rest : List Char) :
    ∃ d e more, Text.decimal n ++ c :: rest = d :: e :: more ∧ d.isDigit = true ∧
      e ≠ 'x' ∧ e ≠ 'o' ∧ e ≠ 'b' := by
  have all := Text.all_isDigit_decimal n
  cases form : Text.decimal n with
  | nil => exact absurd form (Text.decimal_ne_nil n)
  | cons d ds =>
      rw [form, List.all_cons, Bool.and_eq_true] at all
      cases ds with
      | nil =>
          refine ⟨d, c, rest, rfl, all.1, ?_⟩
          simp only [endsValue, Bool.or_eq_true, beq_iff_eq] at ends
          rcases ends with (rfl | rfl) | rfl <;> decide
      | cons e ds =>
          rw [List.all_cons, Bool.and_eq_true] at all
          obtain ⟨-, -, -, -, base⟩ := ne_of_isDigit all.2.1
          exact ⟨d, e, ds ++ c :: rest, rfl, all.1, base⟩

theorem run_minus (digit : c.isDigit = true) (text : List Char) :
    minus.run (c :: text) = some (false, c :: text) := by
  obtain ⟨dash, plus, -⟩ := ne_of_isDigit digit
  have skipped : (skip? '-').run (c :: text) = some (false, c :: text) :=
    run_skip?_of_ne (by simpa using dash)
  have skipped' : (skip? '+').run (c :: text) = some (false, c :: text) :=
    run_skip?_of_ne (by simpa using plus)
  simp [minus, skipped, skipped']

theorem run_number_decimal (n : Nat) (ends : endsValue c = true) (fit : fits n = true) :
    number.run (Text.decimal n ++ c :: rest) = some (.integer n, c :: rest) := by
  have read := run_decimalNumber false n ends fit rest
  obtain ⟨d, e, more, form, digit, x, o, b⟩ := exists_decimal_append n ends rest
  obtain ⟨-, -, hi, hn, -⟩ := ne_of_isDigit digit
  rw [form] at read ⊢
  rw [number]
  simp [run_minus digit, read, x, o, b, hi, hn]

theorem run_number_negative (n : Nat) (ends : endsValue c = true)
    (fit : fits (-(n : Int)) = true) :
    number.run ('-' :: (Text.decimal n ++ c :: rest))
      = some (.integer (-(n : Int)), c :: rest) := by
  have read := run_decimalNumber true n ends fit rest
  obtain ⟨d, e, more, form, digit, -⟩ := exists_decimal_append n ends rest
  obtain ⟨-, -, hi, hn, -⟩ := ne_of_isDigit digit
  rw [form] at read ⊢
  rw [number]
  simp [minus, read, hi, hn]

theorem run_dateOrNumber_decimal (n : Nat) (ends : endsValue c = true) (fit : fits n = true)
    (rest : List Char) :
    dateOrNumber.run (Text.decimal n ++ c :: rest) = some (.integer n, c :: rest) := by
  obtain ⟨-, -, -, -, -, -, dash, colon, digit⟩ := ne_of_endsValue ends
  have all := Text.all_isDigit_decimal n
  have date := startsWithDigits_append all digit (by decide) dash 4 rest
  have time := startsWithDigits_append all digit (by decide) colon 2 rest
  simp [dateOrNumber, date, time, run_number_decimal n ends fit]

theorem run_dateOrNumber_negative (n : Nat) (ends : endsValue c = true)
    (fit : fits (-(n : Int)) = true) (rest : List Char) :
    dateOrNumber.run ('-' :: (Text.decimal n ++ c :: rest))
      = some (.integer (-(n : Int)), c :: rest) := by
  have date : startsWithDigits 4 '-' ('-' :: (Text.decimal n ++ c :: rest)) = false := by
    simp [startsWithDigits]
  have time : startsWithDigits 2 ':' ('-' :: (Text.decimal n ++ c :: rest)) = false := by
    simp [startsWithDigits]
  simp [dateOrNumber, date, time, run_number_negative n ends fit]

/-! ## Values that hold no others -/

/-- Where a text starts with no quote and no letter of a truth value, a date or a number is read. -/
theorem run_flatValue_of_ne (double : c ≠ '"') (single : c ≠ '\x27') (yes : c ≠ 't')
    (no : c ≠ 'f') (text : List Char) :
    flatValue.run (c :: text) = dateOrNumber.run (c :: text) := by
  simp [flatValue, double, single, yes, no]

theorem toList_toString_ofNat (n : Nat) :
    (toString (Int.ofNat n)).toList = Text.decimal n := by
  simp [toString, Int.repr, Text.decimal]

theorem toList_toString_negSucc (n : Nat) :
    (toString (Int.negSucc n)).toList = '-' :: Text.decimal (n + 1) := by
  simp [toString, Int.repr, Text.decimal]

/-- An integer is a sign, if it is negative, and decimal digits. -/
theorem run_flatValue_integer {n : Int} (ends : endsValue c = true) (fit : fits n = true) :
    flatValue.run ((toString n).toList ++ c :: rest) = some (.integer n, c :: rest) := by
  cases n with
  | ofNat n =>
      have read := run_dateOrNumber_decimal n ends fit rest
      obtain ⟨d, e, more, digits, digit, -⟩ := exists_decimal_append n ends rest
      rw [toList_toString_ofNat]
      rw [digits] at read ⊢
      rw [run_flatValue_of_ne, read]
      · rfl
      all_goals
        rintro rfl
        cases digit
  | negSucc n =>
      have read := run_dateOrNumber_negative (n + 1) ends fit rest
      rw [toList_toString_negSucc, List.cons_append, run_flatValue_of_ne (by decide) (by decide) (by decide)
        (by decide), read]
      rfl

theorem exists_quote_renderString (text : List Char) :
    ∃ q more, renderString text = q :: more ∧ (q = '"' ∨ q = '\x27') := by
  rw [renderString]
  split_ifs
  · exact ⟨'"', _, rfl, Or.inl rfl⟩
  · exact ⟨'\x27', _, rfl, Or.inr rfl⟩
  · exact ⟨'"', _, rfl, Or.inl rfl⟩
  · exact ⟨'\x27', _, rfl, Or.inr rfl⟩
  · exact ⟨'"', _, rfl, Or.inl rfl⟩
  · exact ⟨'"', _, rfl, Or.inl rfl⟩

theorem run_flatValue_string (s : String) (ends : endsValue c = true) :
    flatValue.run (renderString s.toList ++ c :: rest) = some (.string s, c :: rest) := by
  obtain ⟨double, single, -⟩ := ne_of_endsValue ends
  have read := run_string_renderString s.toList (c :: rest) (by simpa using double)
    (by simpa using single)
  obtain ⟨q, more, form, quote⟩ := exists_quote_renderString s.toList
  rw [form, List.cons_append] at read ⊢
  rcases quote with rfl | rfl
  · simp [flatValue, read]
  · simp [flatValue, read]

theorem run_flatValue_boolean (b : Bool) (text : List Char) :
    flatValue.run ((Value.boolean b).render ++ text) = some (.boolean b, text) := by
  cases b with
  | false =>
      have word := run_expectWord ['f', 'a', 'l', 's', 'e'] text
      simp only [List.cons_append, List.nil_append] at word
      simp [flatValue, Value.render, word]
  | true =>
      have word := run_expectWord ['t', 'r', 'u', 'e'] text
      simp only [List.cons_append, List.nil_append] at word
      simp [flatValue, Value.render, word]

/-! ## Arrays -/

/-- No blank, no comment and no line end starts here. -/
def isVisible (c : Char) : Bool :=
  !isSpace c && c != '#' && c != '\n' && c != '\r'

theorem isVisible_of_startsValue (starts : startsValue c = true) : isVisible c = true := by
  obtain ⟨space, hash, feed, ret, -⟩ := ne_of_startsValue starts
  simp [isVisible, space, hash, feed, ret]

theorem run_gaps_of_visible (visible : isVisible c = true) (fuel : Nat) (text : List Char) :
    (gaps fuel).run (c :: text) = some ((), c :: text) := by
  simp only [isVisible, Bool.and_eq_true, Bool.not_eq_true', bne_iff_ne] at visible
  obtain ⟨⟨⟨space, hash⟩, feed⟩, ret⟩ := visible
  have quiet : comment.run (c :: text) = some ((), c :: text) :=
    run_comment (by simpa using hash)
  cases fuel with
  | zero => rfl
  | succ fuel => simp [gaps, space, quiet, afterNewline?, feed, ret]

theorem run_gaps_newline (fuel : Nat) (text : List Char) :
    (gaps (fuel + 1)).run ('\n' :: text) = (gaps fuel).run text := by
  have quiet : comment.run ('\n' :: text) = some ((), '\n' :: text) := run_comment (by simp)
  have space : isSpace '\n' = false := by decide
  simp [gaps, space, quiet, afterNewline?]

theorem run_gaps_indent (visible : isVisible c = true) (fuel : Nat) (text : List Char) :
    (gaps (fuel + 1)).run (' ' :: ' ' :: ' ' :: ' ' :: c :: text) = some ((), c :: text) := by
  have blank : isSpace ' ' = true := by decide
  have inner := run_gaps_of_visible visible (fuel + 1) text
  simp only [gaps, run_bind, run_spaces, Option.bind_some, List.dropWhile_cons, blank, if_true]
    at inner ⊢
  exact inner

/-- The value is read wherever a value may end. -/
structure Value.ReadBy (item : Reader Value) (v : Value) : Prop where
  starts : ∃ c more, v.render = c :: more ∧ startsValue c = true
  run_eq : ∀ c rest, endsValue c = true → item.run (v.render ++ c :: rest) = some (v, c :: rest)

/-- Items on lines of their own, each followed by a comma. -/
def itemLines (items : List (List Char)) : List Char :=
  items.flatMap fun item => ' ' :: ' ' :: ' ' :: ' ' :: (item ++ [',', '\n'])

theorem length_le_itemLines (items : List (List Char)) :
    items.length ≤ (itemLines items).length := by
  induction items with
  | nil => exact Nat.le_refl 0
  | cons item items ih =>
      simp only [itemLines, List.flatMap_cons, List.length_append, List.length_cons] at ih ⊢
      omega

theorem renderAll_eq_map (items : List Value) : renderAll items = items.map Value.render := by
  induction items with
  | nil => rfl
  | cons v items ih => rw [renderAll, ih, List.map_cons]

section Items

variable {item : Reader Value} {items : List Value}

theorem run_arrayItems_lines (readBy : ∀ v ∈ items, v.ReadBy item) (rest : List Char)
    (enough : items.length < fuel) :
    (arrayItems item fuel).run ('\n' :: (itemLines (items.map Value.render) ++ ']' :: rest))
      = some (items, rest) := by
  have comma : isVisible ',' = true := by decide
  have bracket : isVisible ']' = true := by decide
  induction items generalizing fuel with
  | nil =>
      obtain ⟨fuel, rfl⟩ := Nat.exists_eq_add_of_lt enough
      simp [arrayItems, itemLines, run_gaps_newline, run_gaps_of_visible bracket]
  | cons v items ih =>
      obtain ⟨fuel, rfl⟩ := Nat.exists_eq_add_of_lt enough
      have later : ∀ w ∈ items, w.ReadBy item :=
        fun w listed => readBy w (List.mem_cons_of_mem v listed)
      have enoughLater : items.length < items.length + 1 + fuel := by omega
      have read := ih later enoughLater
      have first := readBy v List.mem_cons_self
      obtain ⟨c, more, form, starts⟩ := first.starts
      obtain ⟨-, -, -, -, closing, -⟩ := ne_of_startsValue starts
      have text : itemLines ((v :: items).map Value.render) ++ ']' :: rest
          = ' ' :: ' ' :: ' ' :: ' ' :: c :: (more ++ ',' :: '\n'
            :: (itemLines (items.map Value.render) ++ ']' :: rest)) := by
        simp [itemLines, form]
      generalize itemLines (items.map Value.render) ++ ']' :: rest = lines at read text
      have value := first.run_eq ',' ('\n' :: lines) rfl
      rw [form, List.cons_append] at value
      have skipped : (skip? ']').run (c :: (more ++ ',' :: '\n' :: lines))
          = some (false, c :: (more ++ ',' :: '\n' :: lines)) :=
        run_skip?_of_ne (by simpa using closing)
      rw [text]
      simp only [arrayItems, run_bind, run_rest, Option.bind_some, List.length_cons,
        run_gaps_newline, run_gaps_indent (isVisible_of_startsValue starts), skipped,
        Bool.false_eq_true, if_false, value, run_gaps_of_visible comma, run_skip?, if_true, read,
        run_pure]

/-- An array is read from its brackets. -/
theorem run_arrayItems (readBy : ∀ v ∈ items, v.ReadBy item) (rest : List Char) :
    ∃ text, bracketed (items.map Value.render) ++ rest = '[' :: text ∧
      (arrayItems item (text.length + 1)).run text = some (items, rest) := by
  have bracket : isVisible ']' = true := by decide
  match items with
  | [] => exact ⟨']' :: rest, rfl, by simp [arrayItems, run_gaps_of_visible bracket]⟩
  | [v] =>
      have only := readBy v List.mem_cons_self
      obtain ⟨c, more, form, starts⟩ := only.starts
      obtain ⟨-, -, -, -, closing, -⟩ := ne_of_startsValue starts
      have value := only.run_eq ']' rest rfl
      rw [form, List.cons_append] at value
      have skipped : (skip? ']').run (c :: (more ++ ']' :: rest))
          = some (false, c :: (more ++ ']' :: rest)) :=
        run_skip?_of_ne (by simpa using closing)
      have skipped' : (skip? ',').run (']' :: rest) = some (false, ']' :: rest) :=
        run_skip?_of_ne (by simp)
      refine ⟨c :: (more ++ ']' :: rest), by simp [bracketed, form], ?_⟩
      simp only [arrayItems, run_bind, run_rest, Option.bind_some,
        run_gaps_of_visible (isVisible_of_startsValue starts), skipped, Bool.false_eq_true,
        if_false, value, run_gaps_of_visible bracket, skipped', run_expect, run_pure]
  | v :: w :: items =>
      have text : bracketed ((v :: w :: items).map Value.render) ++ rest
          = '[' :: '\n' :: (itemLines ((v :: w :: items).map Value.render) ++ ']' :: rest) := by
        simp [bracketed, itemLines]
      refine ⟨_, text, run_arrayItems_lines readBy rest ?_⟩
      have lines := length_le_itemLines ((v :: w :: items).map Value.render)
      simp only [List.length_map, List.length_cons, List.length_append] at lines ⊢
      omega

/-- An array of values that can be read can be read. -/
theorem Value.ReadBy.array (readBy : ∀ v ∈ items, v.ReadBy (value depth)) :
    (Value.array items).ReadBy (value (depth + 1)) where
  starts := by
    obtain ⟨text, form, -⟩ := run_arrayItems readBy []
    refine ⟨'[', text, ?_, rfl⟩
    rw [Value.render, renderAll_eq_map, ← form, List.append_nil]
  run_eq c rest _ := by
    obtain ⟨text, form, read⟩ := run_arrayItems readBy (c :: rest)
    rw [Value.render, renderAll_eq_map, form]
    simp [value, read]

end Items

/-! ## Plain values are read -/

theorem run_value_of_flat (bracket : c ≠ '[') (brace : c ≠ '\x7b') (depth : Nat)
    (text : List Char) : (value depth).run (c :: text) = flatValue.run (c :: text) := by
  cases depth with
  | zero => rfl
  | succ depth => simp [value, bracket, brace]

/-- A value that is read flat is read at any depth. -/
theorem Value.ReadBy.of_flat (readBy : v.ReadBy flatValue) (flat : ∀ text, v.render ≠ '[' :: text)
    (depth : Nat) : v.ReadBy (value depth) where
  starts := readBy.starts
  run_eq c rest ends := by
    obtain ⟨d, more, form, starts⟩ := readBy.starts
    obtain ⟨-, -, -, -, -, brace⟩ := ne_of_startsValue starts
    have bracket : d ≠ '[' := fun same => flat more (same ▸ form)
    have read := readBy.run_eq c rest ends
    rw [form, List.cons_append] at read ⊢
    rw [run_value_of_flat bracket brace, read]

theorem Value.readBy_string (s : String) : (Value.string s).ReadBy flatValue where
  starts := by
    obtain ⟨q, more, form, quote⟩ := exists_quote_renderString s.toList
    refine ⟨q, more, form, ?_⟩
    rcases quote with rfl | rfl <;> rfl
  run_eq _ _ ends := run_flatValue_string s ends

theorem Value.readBy_boolean (b : Bool) : (Value.boolean b).ReadBy flatValue where
  starts := by
    cases b with
    | false => exact ⟨'f', _, rfl, rfl⟩
    | true => exact ⟨'t', _, rfl, rfl⟩
  run_eq c rest _ := run_flatValue_boolean b (c :: rest)

theorem exists_start_integer (n : Int) :
    ∃ c more, (toString n).toList = c :: more ∧ (c = '-' ∨ c.isDigit = true) := by
  cases n with
  | ofNat n =>
      obtain ⟨c, more, digits⟩ := List.exists_cons_of_ne_nil (Text.decimal_ne_nil n)
      have listed : c ∈ Text.decimal n := digits ▸ List.mem_cons_self
      exact ⟨c, more, (toList_toString_ofNat n).trans digits,
        Or.inr (Text.isDigit_of_mem_decimal listed)⟩
  | negSucc n => exact ⟨'-', _, toList_toString_negSucc n, Or.inl rfl⟩

theorem Value.readBy_integer {n : Int} (fit : fits n = true) :
    (Value.integer n).ReadBy flatValue where
  starts := by
    obtain ⟨c, more, form, rfl | digit⟩ := exists_start_integer n
    · exact ⟨'-', more, form, rfl⟩
    · exact ⟨c, more, form, by simp [startsValue, digit]⟩
  run_eq _ _ ends := run_flatValue_integer ends fit

/-- Plain values are read back. -/
theorem Value.Plain.readBy (plain : v.Plain n) (deep : n ≤ depth) : v.ReadBy (value depth) := by
  induction plain generalizing depth with
  | string s =>
      refine (readBy_string s).of_flat ?_ depth
      intro text form
      obtain ⟨q, more, quoted, quote⟩ := exists_quote_renderString s.toList
      rw [render, quoted] at form
      rcases quote with rfl | rfl <;> cases form
  | boolean b =>
      refine (readBy_boolean b).of_flat ?_ depth
      intro text form
      cases b <;> cases form
  | @integer _ n fit =>
      refine (readBy_integer fit).of_flat ?_ depth
      intro text form
      obtain ⟨c, more, digits, rfl | digit⟩ := exists_start_integer n
      · rw [render, digits] at form
        cases form
      · rw [render, digits] at form
        cases form
        cases digit
  | array _ ih =>
      cases depth with
      | zero => cases deep
      | succ depth => exact .array fun v listed => ih v listed (Nat.le_of_succ_le_succ deep)

end ReleasePlanner.Toml
