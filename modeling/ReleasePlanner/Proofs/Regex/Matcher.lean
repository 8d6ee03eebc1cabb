import ReleasePlanner.Regex.Matcher

/-!
# What matching means

An expression leads from some places of a text to others (`Re.Moves`), and the
matcher marks exactly the places that can be reached from marked ones
(`steps_run`).  So it finds a match exactly where there is one
(`matchesIn_iff`).

The matcher gives an unbounded repetition only as many rounds as the text has
places.  That is enough, since a round that stays where it is can be left out
(`Repeats.exists_short`).

Told by the texts instead of the places, an expression takes a part out of a
text (`Re.Takes`), and expressions that take parts that follow one another take
them together (`Takes.cat`).  The other way round, where an expression for the
start of a text starts with a word, the text starts with it too
(`isPrefix_of_matchesIn`).
-/

namespace ReleasePlanner.Regex

variable {text : List Char} {marks : List Bool} {i j k n : Nat}

/-! ## Places -/

/-- The place is marked. -/
def Marked (marks : List Bool) (i : Nat) : Prop :=
  marks[i]? = some true

theorem Marked.lt_length (h : Marked marks i) : i < marks.length :=
  (List.getElem?_eq_some_iff.mp h).1

theorem any_id_iff : marks.any id = true ↔ ∃ i, Marked marks i := by
  simp only [List.any_eq_true, id, exists_eq_right, Marked, List.mem_iff_getElem?]

theorem marked_start_iff :
    Marked (true :: text.map fun _ => true) i ↔ i ≤ text.length := by
  cases i with
  | zero => simp [Marked]
  | succ i =>
      rw [Marked, List.getElem?_cons_succ, List.getElem?_map, Option.map_eq_some_iff]
      constructor
      · rintro ⟨c, found, -⟩
        exact (List.getElem?_eq_some_iff.mp found).1
      · intro inside
        exact ⟨_, List.getElem?_eq_getElem inside, rfl⟩

theorem marked_orMarks_iff {others : List Bool} (same : marks.length = others.length) :
    Marked (orMarks marks others) i ↔ Marked marks i ∨ Marked others i := by
  rw [Marked, Marked, Marked, orMarks, List.getElem?_zipWith]
  rcases Nat.lt_or_ge i marks.length with inside | outside
  · have inside' : i < others.length := same ▸ inside
    simp [List.getElem?_eq_getElem inside, List.getElem?_eq_getElem inside']
  · have outside' : others.length ≤ i := same ▸ outside
    simp [List.getElem?_eq_none outside, List.getElem?_eq_none outside']

theorem length_orMarks {others : List Bool} (same : marks.length = others.length) :
    (orMarks marks others).length = marks.length := by
  rw [orMarks, List.length_zipWith, same, Nat.min_self]

/-- The characters around a place. -/
def around? (text : List Char) (i : Nat) : Option Char × Option Char :=
  (if i = 0 then none else text[i - 1]?, text[i]?)

theorem length_places (before : Option Char) (text : List Char) :
    (places before text).length = text.length + 1 := by
  induction text generalizing before with
  | nil => rfl
  | cons c text ih => rw [places, List.length_cons, ih, List.length_cons]

theorem getElem?_places (before : Option Char) (text : List Char) (i : Nat) :
    (places before text)[i]?
      = if i ≤ text.length then some (if i = 0 then before else text[i - 1]?, text[i]?)
        else none := by
  induction text generalizing before i with
  | nil => cases i <;> simp [places]
  | cons c text ih =>
      cases i with
      | zero => simp [places]
      | succ i =>
          rw [places, List.getElem?_cons_succ, ih]
          cases i <;> simp

/-! ## Repetition -/

/-- A number of moves after one another. -/
def Repeats (moves : Nat → Nat → Prop) : Nat → Nat → Nat → Prop
  | 0, i, j => i = j
  | n + 1, i, j => ∃ k, moves i k ∧ Repeats moves n k j

namespace Repeats

variable {moves : Nat → Nat → Prop}

theorem append {m : Nat} (first : Repeats moves m i k) (second : Repeats moves n k j) :
    Repeats moves (m + n) i j := by
  induction m generalizing i with
  | zero =>
      obtain rfl : i = k := first
      rwa [Nat.zero_add]
  | succ m ih =>
      obtain ⟨next, move, more⟩ := first
      rw [Nat.succ_add]
      exact ⟨next, move, ih more⟩

theorem exists_of_add {m : Nat} (h : Repeats moves (m + n) i j) :
    ∃ k, Repeats moves m i k ∧ Repeats moves n k j := by
  induction m generalizing i with
  | zero => exact ⟨i, rfl, by rwa [Nat.zero_add] at h⟩
  | succ m ih =>
      rw [Nat.succ_add] at h
      obtain ⟨next, move, more⟩ := h
      obtain ⟨k, first, second⟩ := ih more
      exact ⟨k, ⟨next, move, first⟩, second⟩

/-- Where moves go forward, those that stay where they are can be left out. -/
theorem exists_short (forward : ∀ i j, moves i j → i ≤ j) (h : Repeats moves n i j) :
    ∃ m, m ≤ j - i ∧ i ≤ j ∧ Repeats moves m i j := by
  induction n generalizing i with
  | zero => exact ⟨0, Nat.zero_le _, Nat.le_of_eq h, h⟩
  | succ n ih =>
      obtain ⟨k, move, more⟩ := h
      obtain ⟨m, hm, hk, short⟩ := ih more
      have hi := forward i k move
      by_cases same : i = k
      · subst same
        exact ⟨m, hm, hk, short⟩
      · exact ⟨m + 1, by omega, by omega, k, move, short⟩

end Repeats

/-! ## What an expression means -/

namespace Re

/-- The expression leads from one place of a text to another. -/
def Moves (text : List Char) : Re → Nat → Nat → Prop
  | empty, i, j => i = j
  | set s, i, j => j = i + 1 ∧ ∃ c, text[i]? = some c ∧ s.contains c.toNat = true
  | look ascii a, i, j =>
    i = j ∧ a.holds (inWord ascii) (around? text i).1 (around? text i).2 = true
  | cat a b, i, j => ∃ k, a.Moves text i k ∧ b.Moves text k j
  | alt a b, i, j => a.Moves text i j ∨ b.Moves text i j
  | rep min max a, i, j =>
    ∃ more, (∀ n, max = some n → more ≤ n - min) ∧ Repeats (a.Moves text) (min + more) i j

theorem Moves.le {text : List Char} {a : Re} (h : a.Moves text i j) : i ≤ j := by
  induction a generalizing i j with
  | empty => exact Nat.le_of_eq h
  | set s => exact h.1 ▸ Nat.le_succ i
  | look ascii a => exact Nat.le_of_eq h.1
  | cat a b iha ihb =>
      obtain ⟨k, first, second⟩ := h
      exact Nat.le_trans (iha first) (ihb second)
  | alt a b iha ihb => exact h.elim iha ihb
  | rep min max a ih =>
      obtain ⟨more, -, moves⟩ := h
      obtain ⟨_, -, hle, -⟩ := Repeats.exists_short (fun i j => ih) moves
      exact hle

end Re

/-! ## What the matcher marks -/

/-- A step on marks takes the marked places to those where the moves lead. -/
structure Steps (length : Nat) (step : List Bool → List Bool) (moves : Nat → Nat → Prop) :
    Prop where
  length_eq : ∀ marks, marks.length = length → (step marks).length = length
  marked_iff : ∀ marks j, marks.length = length →
    (Marked (step marks) j ↔ ∃ i, Marked marks i ∧ moves i j)

namespace Steps

variable {length : Nat} {step : List Bool → List Bool} {moves : Nat → Nat → Prop}

theorem lt_length (steps : Steps length step moves) (h : marks.length = length)
    (start : Marked marks i) (move : moves i j) : j < length := by
  have marked := (steps.marked_iff marks j h).mpr ⟨i, start, move⟩
  rw [← steps.length_eq marks h]
  exact marked.lt_length

/-- One step after another. -/
theorem comp {next : List Bool → List Bool} {others : Nat → Nat → Prop}
    (first : Steps length step moves) (second : Steps length next others) :
    Steps length (fun marks => next (step marks)) fun i j => ∃ k, moves i k ∧ others k j where
  length_eq marks h := second.length_eq _ (first.length_eq marks h)
  marked_iff marks j h := by
    rw [second.marked_iff _ _ (first.length_eq marks h)]
    constructor
    · rintro ⟨k, marked, move⟩
      obtain ⟨i, start, before⟩ := (first.marked_iff marks k h).mp marked
      exact ⟨i, start, k, before, move⟩
    · rintro ⟨i, start, k, before, move⟩
      exact ⟨k, (first.marked_iff marks k h).mpr ⟨i, start, before⟩, move⟩

theorem times (steps : Steps length step moves) (n : Nat) :
    Steps length (Regex.times step n) (Repeats moves n) := by
  induction n with
  | zero => exact ⟨fun marks h => h, fun marks j h => by simp [Regex.times, Repeats]⟩
  | succ n ih =>
      refine ⟨fun marks h => ?_, fun marks j h => ?_⟩
      · rw [Regex.times]
        split
        next => exact ih.length_eq _ (steps.length_eq marks h)
        next => exact h
      · rw [Regex.times]
        split
        next => exact (steps.comp ih).marked_iff marks j h
        next none_left =>
          have unmarked : ∀ i, ¬Marked marks i := fun i marked =>
            none_left (any_id_iff.mpr ⟨i, marked⟩)
          simp [unmarked]

theorem grow (steps : Steps length step moves) (rounds : Nat) :
    Steps length (Regex.grow step rounds)
      fun i j => ∃ n, n ≤ rounds ∧ Repeats moves n i j := by
  induction rounds with
  | zero =>
      refine ⟨fun marks h => h, fun marks j h => ?_⟩
      simp [Regex.grow, Repeats]
  | succ rounds ih =>
      have more_length : ∀ marks, marks.length = length →
          (orMarks marks (step marks)).length = length := fun marks h =>
        (length_orMarks (h.trans (steps.length_eq marks h).symm)).trans h
      have more_iff : ∀ marks i, marks.length = length →
          (Marked (orMarks marks (step marks)) i ↔
            Marked marks i ∨ ∃ k, Marked marks k ∧ moves k i) := fun marks i h => by
        rw [marked_orMarks_iff (h.trans (steps.length_eq marks h).symm), steps.marked_iff marks i h]
      refine ⟨fun marks h => ?_, fun marks j h => ?_⟩
      · simp only [Regex.grow]
        split
        next => exact h
        next => exact ih.length_eq _ (more_length marks h)
      · simp only [Regex.grow]
        split
        next still =>
          -- Nothing new was reached, so nothing new will ever be reached.
          have closed : ∀ i k, Marked marks i → moves i k → Marked marks k := by
            intro i k marked move
            have reached := (more_iff marks k h).mpr (Or.inr ⟨i, marked, move⟩)
            rwa [beq_iff_eq.mp still] at reached
          constructor
          · intro marked
            exact ⟨j, marked, 0, Nat.zero_le _, rfl⟩
          · rintro ⟨i, marked, n, -, moves⟩
            clear h
            induction n generalizing i with
            | zero => exact moves ▸ marked
            | succ n ihn =>
                obtain ⟨k, move, more⟩ := moves
                exact ihn k (closed i k marked move) more
        next =>
          rw [ih.marked_iff _ _ (more_length marks h)]
          constructor
          · rintro ⟨k, marked, n, hn, more⟩
            rcases (more_iff marks k h).mp marked with start | ⟨i, start, move⟩
            · exact ⟨k, start, n, Nat.le_succ_of_le hn, more⟩
            · exact ⟨i, start, n + 1, Nat.succ_le_succ hn, k, move, more⟩
          · rintro ⟨i, start, n, hn, more⟩
            cases n with
            | zero => exact ⟨i, (more_iff marks i h).mpr (Or.inl start), 0, Nat.zero_le _, more⟩
            | succ n =>
                obtain ⟨k, move, more⟩ := more
                exact ⟨k, (more_iff marks k h).mpr (Or.inr ⟨i, start, move⟩), n,
                  Nat.le_of_succ_le_succ hn, more⟩

end Steps

namespace Re

/-- The matcher takes the marked places to those where the expression leads. -/
theorem steps_run (text : List Char) (a : Re) :
    Steps (text.length + 1) (fun marks => a.run text marks) (a.Moves text) := by
  induction a with
  | empty => exact ⟨fun marks h => h, fun marks j h => by simp [run, Moves]⟩
  | set s =>
      refine ⟨fun marks h => by simp [run, h], fun marks j h => ?_⟩
      cases j with
      | zero => simp [run, Marked, Moves]
      | succ j =>
          simp only [run, Marked, Moves, List.getElem?_cons_succ, List.getElem?_zipWith_eq_some]
          constructor
          · rintro ⟨mark, c, hmark, hchar, both⟩
            obtain ⟨rfl, member⟩ := Bool.and_eq_true_iff.mp both
            exact ⟨j, hmark, rfl, c, hchar, member⟩
          · rintro ⟨i, start, next, c, hchar, member⟩
            obtain rfl := Nat.succ.inj next
            exact ⟨true, c, start, hchar, member⟩
  | look ascii a =>
      refine ⟨fun marks h => by simp [run, h, length_places], fun marks j h => ?_⟩
      have inside : ∀ i, Marked marks i → i ≤ text.length := fun i marked =>
        Nat.le_of_lt_succ (Nat.lt_of_lt_of_eq marked.lt_length h)
      simp only [run, Marked, Moves, List.getElem?_zipWith_eq_some, getElem?_places]
      constructor
      · rintro ⟨mark, around, hmark, haround, both⟩
        obtain ⟨rfl, holds⟩ := Bool.and_eq_true_iff.mp both
        rw [if_pos (inside j hmark), Option.some.injEq] at haround
        rw [← haround] at holds
        exact ⟨j, hmark, rfl, holds⟩
      · rintro ⟨i, start, rfl, holds⟩
        exact ⟨true, around? text i, start, if_pos (inside i start), holds⟩
  | cat a b iha ihb => exact iha.comp ihb
  | alt a b iha ihb =>
      have same : ∀ marks, marks.length = text.length + 1 →
          (a.run text marks).length = (b.run text marks).length := fun marks h =>
        (iha.length_eq marks h).trans (ihb.length_eq marks h).symm
      refine ⟨fun marks h => ?_, fun marks j h => ?_⟩
      · exact (length_orMarks (same marks h)).trans (iha.length_eq marks h)
      · simp only [run, Moves]
        rw [marked_orMarks_iff (same marks h), iha.marked_iff marks j h, ihb.marked_iff marks j h]
        simp only [and_or_left, exists_or]
  | rep min max a ih =>
      have bounded := fun rounds => (ih.times min).comp (ih.grow rounds)
      cases max with
      | some n =>
          refine ⟨(bounded (n - min)).length_eq, fun marks j h => ?_⟩
          refine ((bounded (n - min)).marked_iff marks j h).trans (exists_congr fun i => ?_)
          refine and_congr_right fun _ => ?_
          constructor
          · rintro ⟨k, first, more, hmore, second⟩
            refine ⟨more, ?_, first.append second⟩
            rintro _ ⟨⟩
            exact hmore
          · rintro ⟨more, hmore, moves⟩
            obtain ⟨k, first, second⟩ := moves.exists_of_add
            exact ⟨k, first, more, hmore n rfl, second⟩
      | none =>
          refine ⟨(bounded (text.length + 1)).length_eq, fun marks j h => ?_⟩
          refine ((bounded (text.length + 1)).marked_iff marks j h).trans (exists_congr fun i => ?_)
          refine and_congr_right fun start => ?_
          constructor
          · rintro ⟨k, first, more, -, second⟩
            refine ⟨more, ?_, first.append second⟩
            rintro _ ⟨⟩
          · rintro ⟨more, -, moves⟩
            have inside := (ih.times (min + more)).lt_length h start moves
            obtain ⟨k, first, second⟩ := moves.exists_of_add
            obtain ⟨m, hm, -, short⟩ := second.exists_short fun i j => Moves.le
            exact ⟨k, first, m, by omega, short⟩

/-- The matcher finds a match exactly where there is one. -/
theorem matchesIn_iff {a : Re} :
    a.matchesIn text = true ↔ ∃ i j, i ≤ text.length ∧ a.Moves text i j := by
  rw [matchesIn, any_id_iff]
  have marked := (steps_run text a).marked_iff (true :: text.map fun _ => true)
  simp only [marked _ (by simp), marked_start_iff]
  exact exists_comm

/-! ## Taking parts of a text -/

variable {a b : Re} {s : CharSet} {c : Char} {before taken xs ys after : List Char}

/-- The expression takes the part of a text between two others. -/
def Takes (a : Re) (before taken after : List Char) : Prop :=
  a.Moves (before ++ (taken ++ after)) before.length (before ++ taken).length

/-- The characters of a word one by one. -/
def spell (word : List Char) : List Re :=
  word.map fun c => .set (.single c)

theorem matchesIn_of_takes (h : a.Takes before taken after) :
    a.matchesIn (before ++ (taken ++ after)) = true :=
  matchesIn_iff.mpr ⟨_, _, by simp, h⟩

namespace Takes

theorem textStart {ascii : Bool} : (look ascii .textStart).Takes [] [] after :=
  ⟨rfl, rfl⟩

theorem set (member : s.contains c.toNat = true) : (Re.set s).Takes before [c] after :=
  ⟨by simp, c, by simp, member⟩

theorem single : (Re.set (.single c)).Takes before [c] after :=
  .set (by simp [CharSet.single, CharSet.contains])

/-- Parts that follow one another are taken together. -/
theorem cat (first : a.Takes before xs (ys ++ after)) (second : b.Takes (before ++ xs) ys after) :
    (Re.cat a b).Takes before (xs ++ ys) after := by
  simp only [Takes, List.append_assoc] at *
  exact ⟨(before ++ xs).length, first, second⟩

/-- The first of some expressions, and the others after it. -/
theorem seq_cons {as : List Re} (more : as ≠ []) (first : a.Takes before xs (ys ++ after))
    (second : (seq as).Takes (before ++ xs) ys after) :
    (seq (a :: as)).Takes before (xs ++ ys) after := by
  cases as with
  | nil => exact absurd rfl more
  | cons b bs => exact first.cat second

/-- The characters of a word, and other expressions after them. -/
theorem seq_spell {as : List Re} {word : List Char} (more : as ≠ [])
    (rest : (seq as).Takes (before ++ word) ys after) :
    (seq (spell word ++ as)).Takes before (word ++ ys) after := by
  induction word generalizing before with
  | nil =>
      rw [List.append_nil] at rest
      exact rest
  | cons c word ih =>
      have others : spell word ++ as ≠ [] := by simp [more]
      have below : (seq (spell word ++ as)).Takes (before ++ [c]) (word ++ ys) after :=
        ih (by simpa using rest)
      have first : (Re.set (.single c)).Takes before [c] (word ++ ys ++ after) := single
      have both : (seq (Re.set (.single c) :: (spell word ++ as))).Takes before
          ([c] ++ (word ++ ys)) after := seq_cons others first below
      exact both

theorem repeats_run {cs : List Char} (members : ∀ c ∈ cs, s.contains c.toNat = true) :
    Repeats ((Re.set s).Moves (before ++ (cs ++ after))) cs.length before.length
      (before ++ cs).length := by
  induction cs generalizing before with
  | nil => simp [Repeats]
  | cons c cs ih =>
      have first : (Re.set s).Takes before [c] (cs ++ after) := set (members c List.mem_cons_self)
      have others : Repeats ((Re.set s).Moves (before ++ [c] ++ (cs ++ after))) cs.length
          (before ++ [c]).length (before ++ [c] ++ cs).length :=
        ih fun d hd => members d (List.mem_cons_of_mem c hd)
      refine ⟨_, first, ?_⟩
      simpa using others

/-- Characters of a set, as many as there are. -/
theorem run {min : Nat} {cs : List Char} (members : ∀ c ∈ cs, s.contains c.toNat = true)
    (enough : min ≤ cs.length) : (rep min none (Re.set s)).Takes before cs after := by
  obtain ⟨more, hmore⟩ := Nat.exists_eq_add_of_le enough
  refine ⟨more, ?_, hmore ▸ repeats_run members⟩
  rintro _ ⟨⟩

theorem absent : (rep 0 (some 1) a).Takes before [] after :=
  ⟨0, fun _ _ => Nat.zero_le _, by simp [Repeats]⟩

theorem present (h : a.Takes before taken after) : (rep 0 (some 1) a).Takes before taken after := by
  refine ⟨1, ?_, _, h, rfl⟩
  rintro _ ⟨⟩
  exact Nat.le_refl 1

end Takes

/-! ## Words in front -/

section Front

variable {as : List Re} {word : List Char}

theorem moves_seq_cons (more : as ≠ []) :
    (seq (a :: as)).Moves text i j ↔ ∃ k, a.Moves text i k ∧ (seq as).Moves text k j := by
  cases as with
  | nil => exact absurd rfl more
  | cons b bs => rfl

/-- A word that an expression starts with stands where the expression is found. -/
theorem isPrefix_of_moves (more : as ≠ []) (h : (seq (spell word ++ as)).Moves text i j) :
    word <+: text.drop i := by
  induction word generalizing i with
  | nil => exact List.nil_prefix
  | cons c word ih =>
      have others : spell word ++ as ≠ [] := by simp [more]
      obtain ⟨_, ⟨rfl, d, found, member⟩, rest⟩ := (moves_seq_cons others).mp h
      obtain ⟨inside, rfl⟩ := List.getElem?_eq_some_iff.mp found
      have same : text[i] = c := by
        refine Char.toNat_inj.mp ?_
        simp only [CharSet.single, CharSet.contains, Bool.and_eq_true, decide_eq_true_iff] at member
        omega
      rw [List.drop_eq_getElem_cons inside, same]
      exact List.cons_prefix_cons.mpr ⟨rfl, ih rest⟩

/-- An expression for the start of a text that starts with a word only matches texts that start
with the word. -/
theorem isPrefix_of_matchesIn {ascii : Bool} (more : as ≠ [])
    (h : (seq (look ascii .textStart :: (spell word ++ as))).matchesIn text = true) :
    word <+: text := by
  obtain ⟨i, j, inside, moves⟩ := matchesIn_iff.mp h
  obtain ⟨_, ⟨rfl, start⟩, rest⟩ := (moves_seq_cons (by simp [more])).mp moves
  cases i with
  | zero => exact isPrefix_of_moves more rest
  | succ i =>
      have outside : text[i]? = none := by simpa [Assertion.holds, around?] using start
      rw [List.getElem?_eq_none_iff] at outside
      omega

end Front

end Re

end ReleasePlanner.Regex
