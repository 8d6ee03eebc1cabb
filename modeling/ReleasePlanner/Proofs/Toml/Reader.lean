import ReleasePlanner.Toml.Document
import Mathlib.Data.List.Basic
import Mathlib.Data.Option.Basic

/-!
# Readers at work

What the small readers do on a text that is known to start with what they look
for.  Larger readers are sequences of them, so that reading a written text comes
down to rewriting with these equations.
-/

namespace ReleasePlanner.Toml

variable {α β : Type} {c : Char} {text after taken : List Char}

/-! ## Sequences -/

@[simp] theorem run_bind (x : Reader α) (f : α → Reader β) (text : List Char) :
    (x >>= f).run text = (x.run text).bind fun r => (f r.1).run r.2 := rfl

@[simp] theorem run_pure (a : α) (text : List Char) :
    (pure a : Reader α).run text = some (a, text) := rfl

@[simp] theorem run_get (text : List Char) :
    (get : Reader (List Char)).run text = some (text, text) := rfl

@[simp] theorem run_rest (text : List Char) : rest.run text = some (text, text) := rfl

@[simp] theorem run_set (after text : List Char) :
    (set after : Reader PUnit).run text = some (⟨⟩, after) := rfl

theorem run_guard {p : Prop} [Decidable p] (h : p) (text : List Char) :
    (guard p : Reader Unit).run text = some ((), text) := by
  rw [guard, if_pos h, run_pure]

/-! ## Characters -/

@[simp] theorem run_next (c : Char) (text : List Char) :
    next.run (c :: text) = some (c, text) := by
  simp [next]

@[simp] theorem run_expect (c : Char) (text : List Char) :
    (expect c).run (c :: text) = some ((), text) := by
  simp [expect]

@[simp] theorem run_skip? (c : Char) (text : List Char) :
    (skip? c).run (c :: text) = some (true, text) := by
  simp [skip?]

theorem run_skip?_of_ne (different : text.head? ≠ some c) :
    (skip? c).run text = some (false, text) := by
  cases text with
  | nil => rfl
  | cons d text =>
      have hne : d ≠ c := by simpa using different
      simp [skip?, hne]

@[simp] theorem run_takeWhile (p : Char → Bool) (text : List Char) :
    (takeWhile p).run text = some (text.takeWhile p, text.dropWhile p) := by
  simp [takeWhile]

theorem run_takeExactly {p : Char → Bool} (all : taken.all p = true) (text : List Char) :
    (takeExactly p taken.length).run (taken ++ text) = some (taken, text) := by
  simp [takeExactly, -List.all_eq_true, all]

theorem run_expectWord (w text : List Char) :
    (expectWord w).run (w ++ text) = some ((), text) := by
  simp [expectWord]

/-! ## Blanks and line ends -/

@[simp] theorem run_spaces (text : List Char) :
    spaces.run text = some ((), text.dropWhile isSpace) := by
  simp [spaces]

/-- A text that starts with no space stays as it is. -/
theorem dropWhile_isSpace (h : text.head?.any isSpace = false) :
    text.dropWhile isSpace = text := by
  cases text with
  | nil => rfl
  | cons c text => exact List.dropWhile_cons_of_neg (by simpa using h)

theorem run_comment (different : text.head? ≠ some '#') :
    comment.run text = some ((), text) := by
  simp [comment, run_skip?_of_ne different]

@[simp] theorem run_lineEnd (text : List Char) :
    lineEnd.run ('\n' :: text) = some ((), text) := rfl

/-- A line that is over has no rest. -/
@[simp] theorem run_restOfLine (text : List Char) :
    restOfLine.run ('\n' :: text) = some ((), text) := by
  have feed : comment.run ('\n' :: text) = some ((), '\n' :: text) :=
    run_comment (by simp)
  simp [restOfLine, isSpace, feed]

end ReleasePlanner.Toml
