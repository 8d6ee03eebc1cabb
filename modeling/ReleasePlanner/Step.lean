import ReleasePlanner.Error

/-!
# Steps

A step works on a state and may fail.  A step that fails keeps what it did to
the state before, as effects on files and repositories do.
-/

namespace ReleasePlanner

/-- A step on a state `σ` with a result `α`. -/
abbrev Step (σ : Type) (α : Type) := ExceptT Error (StateM σ) α

namespace Step

variable {σ τ α : Type}

/-- The result of a step together with the state after it. -/
def apply (s : Step σ α) (state : σ) : Except Error α × σ :=
  s.run state

/-- The step with a given effect. -/
def make (f : σ → Except Error α × σ) : Step σ α :=
  ExceptT.mk fun state => f state

/-- A step that changes nothing. -/
def read (f : σ → Except Error α) : Step σ α :=
  make fun state => (f state, state)

/-- A step that cannot fail. -/
def change (f : σ → σ) : Step σ Unit :=
  make fun state => (.ok (), f state)

/-- A result that is already known. -/
def ofExcept (e : Except Error α) : Step σ α :=
  read fun _ => e

/-- Takes a step and gives its error as a result. -/
def attempt (s : Step σ α) : Step σ (Except Error α) :=
  make fun state =>
    let (result, after) := s.apply state
    (.ok result, after)

end Step

end ReleasePlanner
