import ReleasePlanner.Regex.Parser

/-!
# Expressions read part by part

A part of an expression is an item when the reader takes it in one go, whatever
stands around it (`Item`).  A text that is put together from items
(`Items`) is read as the sequence of what they are read as
(`Items.parse?_eq`).  It is refused only when it is nested too deep or weighs
too much (`Items.parse?_eq_some`).
-/

namespace ReleasePlanner.Regex

/-- The reader takes a part of an expression in one step and goes on behind it.  A part that holds
a group needs as many further steps as it has characters, at most. -/
structure Item (part : List Char) (a : Nested) : Prop where
  nonempty : part ≠ []
  step : ∀ fuel, part.length ≤ fuel → ∀ branches items text,
    (alternatives (fuel + 1) branches items).run ⟨part ++ text, .standard, []⟩
      = (alternatives fuel branches (some a :: items)).run ⟨text, .standard, []⟩

/-- A text that is put together from items. -/
inductive Items : List Char → List Nested → Prop where
  | nil : Items [] []
  | cons {part text : List Char} {a : Nested} {as : List Nested} (first : Item part a)
      (more : Items text as) : Items (part ++ text) (a :: as)

variable {part text back : List Char} {a : Nested} {as bs : List Nested}

/-- A reading goes on with what was read. -/
theorem run_bind_of_eq_some {α β : Type} {x : Reader α} {f : α → Reader β} {r r' : Reading}
    {read : α} (h : x.run r = some (read, r')) : (x >>= f).run r = (f read).run r' := by
  rw [StateT.run_bind, h]
  rfl

/-- The characters that start a group or a class, or that act on what stands in front of them. -/
def operators : List Char :=
  [')', '|', '(', '[', '?', '*', '+', '\x7b']

/-- A literal, a dot, an assertion or an escape is an item. -/
theorem Item.of_primitive {c : Char} {re : Re} (free : operators.contains c = false)
    (read : ∀ text, primitive.run ⟨c :: (part ++ text), .standard, []⟩
      = some (re, ⟨text, .standard, []⟩)) :
    Item (c :: part) ⟨re, 0⟩ where
  nonempty := List.cons_ne_nil c part
  step fuel _ branches items text := by
    have start : skipSpace.run ⟨c :: (part ++ text), .standard, []⟩
        = some ((), ⟨c :: (part ++ text), .standard, []⟩) := rfl
    have next : rest.run ⟨c :: (part ++ text), .standard, []⟩
        = some (c :: (part ++ text), ⟨c :: (part ++ text), .standard, []⟩) := rfl
    rw [List.cons_append, alternatives, run_bind_of_eq_some start, run_bind_of_eq_some next]
    split
    case h_10 => exact run_bind_of_eq_some (read text)
    case h_1 nothing => cases nothing
    all_goals
      next operator =>
        rw [(List.cons.inj operator).1] at free
        exact absurd free (by decide)

theorem Items.append (front : Items text as) (h : Items back bs) :
    Items (text ++ back) (as ++ bs) := by
  induction front with
  | nil => exact h
  | cons first _ ih =>
      rw [List.append_assoc]
      exact .cons first ih

theorem Items.single (h : Item part a) : Items part [a] := by
  simpa using Items.cons h .nil

/-! ## Sequences -/

theorem sequence_re (items : List (Option Nested)) :
    (sequence items).re = .seq ((items.reverse.filterMap id).map Nested.re) := by
  unfold sequence
  split <;> rfl

theorem deepest_le {n : Nat} (h : ∀ a ∈ as, a.depth ≤ n) : deepest as ≤ n := by
  have fold : ∀ start, start ≤ n → (as.map Nested.depth).foldl max start ≤ n := by
    induction as with
    | nil => exact fun _ start_le => start_le
    | cons a as ih =>
        intro start start_le
        have first := h a List.mem_cons_self
        exact ih (fun b hb => h b (List.mem_cons_of_mem a hb)) _ (Nat.max_le.mpr ⟨start_le, first⟩)
  exact fold 0 (Nat.zero_le n)

theorem sequence_depth_le {items : List (Option Nested)} {n : Nat}
    (h : ∀ a, some a ∈ items → a.depth ≤ n) : (sequence items).depth ≤ n + 1 := by
  unfold sequence
  split
  next => exact Nat.zero_le _
  next a => exact Nat.le_succ_of_le (h a List.mem_cons_self)
  next =>
    refine Nat.succ_le_succ (deepest_le fun a ha => h a ?_)
    simpa using ha

/-! ## Reading -/

/-- Items are read one after the other. -/
theorem Items.alternatives_eq (h : Items text as) :
    ∀ fuel, text.length < fuel → ∀ branches items,
      (alternatives fuel branches items).run ⟨text, .standard, []⟩
        = some (choice (sequence ((as.map some).reverse ++ items) :: branches),
          ⟨[], .standard, []⟩) := by
  induction h with
  | nil =>
      intro fuel enough branches items
      obtain ⟨fuel, rfl⟩ := Nat.exists_eq_succ_of_ne_zero (Nat.ne_zero_of_lt enough)
      rfl
  | @cons part a text as first more ih =>
      intro fuel enough branches items
      obtain ⟨fuel, rfl⟩ := Nat.exists_eq_succ_of_ne_zero (Nat.ne_zero_of_lt enough)
      have here := List.length_pos_iff.mpr first.nonempty
      rw [List.length_append] at enough
      rw [first.step fuel (by omega), ih fuel (by omega)]
      simp

theorem Items.parse?_eq (h : Items text as) :
    parse? text = if (sequence (as.map some).reverse).depth ≤ maxDepth
        && (Re.seq (as.map Nested.re)).weight ≤ maxWeight
      then some (.seq (as.map Nested.re)) else none := by
  have re : (sequence (as.map some).reverse).re = .seq (as.map Nested.re) := by
    simp [sequence_re]
  rw [parse?, h.alternatives_eq _ (Nat.lt_succ_self _)]
  simp only [List.append_nil, choice, Option.bind_eq_bind, Option.bind_some, List.isEmpty_nil,
    Bool.true_and, re]

/-- What items are read as, if they are read at all. -/
theorem Items.eq_of_parse? {re : Re} (h : Items text as) (read : parse? text = some re) :
    re = .seq (as.map Nested.re) := by
  rw [h.parse?_eq] at read
  split at read
  next => exact (Option.some.inj read).symm
  next => cases read

/-- Items are read when they are shallow and do not weigh too much. -/
theorem Items.parse?_eq_some (h : Items text as) (shallow : ∀ a ∈ as, a.depth < maxDepth)
    (light : (Re.seq (as.map Nested.re)).weight ≤ maxWeight) :
    parse? text = some (.seq (as.map Nested.re)) := by
  have depth : (sequence (as.map some).reverse).depth ≤ maxDepth := by
    refine sequence_depth_le fun a ha => Nat.le_of_lt_succ (shallow a ?_)
    simpa using ha
  rw [h.parse?_eq, if_pos (by simp [depth, light])]

end ReleasePlanner.Regex
