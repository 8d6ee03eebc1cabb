import ReleasePlanner.Step

/-!
# Laws of steps

What a sequence of steps does, told by what its parts do.  A sequence goes on
after a result and stops at an error, and what was done up to there stays
(`Step.apply_bind`).  Results that come without a state follow the same rule
(`Result.bind_eq_ok`).
-/

namespace ReleasePlanner

/-! ## Results -/

namespace Result

variable {ε δ α β : Type} {x : Except ε α}

theorem bind_eq_ok {f : α → Except ε β} {b : β} :
    (x >>= f) = .ok b ↔ ∃ a, x = .ok a ∧ f a = .ok b := by
  cases x with
  | ok a => simp [bind, Except.bind]
  | error e => simp [bind, Except.bind]

theorem bind_eq_error {f : α → Except ε β} {e : ε} :
    (x >>= f) = .error e ↔ x = .error e ∨ ∃ a, x = .ok a ∧ f a = .error e := by
  cases x with
  | ok a => simp [bind, Except.bind]
  | error e => simp [bind, Except.bind]

theorem mapError_ok (f : ε → δ) (a : α) : (Except.ok a).mapError f = .ok a := rfl

theorem mapError_error (f : ε → δ) (e : ε) :
    (Except.error e : Except ε α).mapError f = .error (f e) := rfl

theorem mapError_eq_error {f : ε → δ} {d : δ} :
    x.mapError f = .error d ↔ ∃ e, x = .error e ∧ f e = d := by
  cases x with
  | ok a => simp [mapError_ok]
  | error e => simp [mapError_error]

theorem mapError_eq_ok {f : ε → δ} {a : α} : x.mapError f = .ok a ↔ x = .ok a := by
  cases x with
  | ok a => simp [mapError_ok]
  | error e => simp [mapError_error]

/-- A result that was computed is there. -/
theorem toOption_eq_some {a : α} : x.toOption = some a ↔ x = .ok a := by
  cases x with
  | ok a => simp [Except.toOption]
  | error e => simp [Except.toOption]

/-- What a step that worked came to. -/
theorem eq_ok_of_toOption_fst {σ : Type} {ended : Except ε α × σ} {a : α}
    (h : ended.1.toOption = some a) : ended = (.ok a, ended.2) :=
  Prod.ext (toOption_eq_some.mp h) rfl

end Result

namespace Step

variable {σ α β : Type}

/-! ## Single steps -/

@[simp] theorem apply_pure (a : α) (state : σ) :
    (pure a : Step σ α).apply state = (.ok a, state) := rfl

@[simp] theorem apply_get (state : σ) : (get : Step σ σ).apply state = (.ok state, state) := rfl

@[simp] theorem apply_make (g : σ → Except Error α × σ) (state : σ) :
    (make g).apply state = g state := rfl

@[simp] theorem apply_ofExcept (e : Except Error α) (state : σ) :
    (ofExcept e : Step σ α).apply state = (e, state) := rfl

@[simp] theorem apply_attempt (s : Step σ α) (state : σ) :
    s.attempt.apply state = (.ok (s.apply state).1, (s.apply state).2) := rfl

/-! ## Sequences -/

/-- A sequence goes on after a result and stops at an error. -/
theorem apply_bind (s : Step σ α) (f : α → Step σ β) (state : σ) :
    (s >>= f).apply state =
      match s.apply state with
      | (.ok a, middle) => (f a).apply middle
      | (.error e, middle) => (.error e, middle) := by
  simp only [apply, bind, ExceptT.bind, ExceptT.bindCont, ExceptT.run, ExceptT.mk, StateT.bind]
  cases h : s state with
  | mk result middle =>
      cases result with
      | ok a => rfl
      | error e => rfl

theorem apply_map (f : α → β) (s : Step σ α) (state : σ) :
    (f <$> s).apply state = ((s.apply state).1.map f, (s.apply state).2) := by
  rw [← bind_pure_comp, apply_bind]
  cases s.apply state with
  | mk result after =>
      cases result with
      | ok a => rfl
      | error e => rfl

@[simp] theorem apply_ofExcept_bind_ok (a : α) (f : α → Step σ β) (state : σ) :
    (ofExcept (.ok a) >>= f).apply state = (f a).apply state := by
  rw [apply_bind, apply_ofExcept]

end Step

end ReleasePlanner
