import ScopedQuery.Attempt
/-!
# Attempts taken apart

* `bind_eq_ok`, `bind_eq_error` and `bind_eq_crashed` say what a chain of attempts has done when it came
  to its end, and `mapError_eq_ok` and its kin look behind a translated fault.
* What cannot crash is looked through by `ofExcept_eq_ok` and its kin.
-/

namespace ScopedQuery.Attempt

variable {ε ε' α β : Type}

/-! ### Chains -/

@[simp] theorem bind_eq_ok {x : Attempt ε α} {f : α → Attempt ε β} {b : β} :
    (x >>= f) = .ok b ↔ ∃ a, x = .ok a ∧ f a = .ok b := by
  cases x <;> simp [Bind.bind, Attempt.bind]

theorem bind_eq_error {x : Attempt ε α} {f : α → Attempt ε β} {e : ε} :
    (x >>= f) = .error e ↔ x = .error e ∨ ∃ a, x = .ok a ∧ f a = .error e := by
  cases x <;> simp [Bind.bind, Attempt.bind]

/-- A chain crashes at its first step, or at what comes after it. -/
theorem bind_eq_crashed {x : Attempt ε α} {f : α → Attempt ε β} :
    (x >>= f) = .crashed ↔ x = .crashed ∨ ∃ a, x = .ok a ∧ f a = .crashed := by
  cases x <;> simp [Bind.bind, Attempt.bind]

@[simp] theorem pure_eq_ok {a b : α} : (pure a : Attempt ε α) = .ok b ↔ a = b := by simp [pure]

/-! ### Translated faults -/

@[simp] theorem mapError_eq_ok {f : ε → ε'} {x : Attempt ε α} {a : α} :
    x.mapError f = .ok a ↔ x = .ok a := by
  cases x <;> simp [mapError]

theorem mapError_eq_error {f : ε → ε'} {x : Attempt ε α} {e' : ε'} :
    x.mapError f = .error e' ↔ ∃ e, x = .error e ∧ f e = e' := by
  cases x <;> simp [mapError]

@[simp] theorem mapError_eq_crashed {f : ε → ε'} {x : Attempt ε α} :
    x.mapError f = .crashed ↔ x = .crashed := by
  cases x <;> simp [mapError]

/-! ### What cannot crash -/

@[simp] theorem ofExcept_eq_ok {x : Except ε α} {a : α} : ofExcept x = .ok a ↔ x = .ok a := by
  cases x <;> simp [ofExcept]

@[simp] theorem ofExcept_eq_error {x : Except ε α} {e : ε} :
    ofExcept x = .error e ↔ x = .error e := by
  cases x <;> simp [ofExcept]

@[simp] theorem ofExcept_ne_crashed {x : Except ε α} : ofExcept x ≠ .crashed := by
  cases x <;> simp [ofExcept]

/-! ### Values and faults -/

@[simp] theorem toOption_eq_some {x : Attempt ε α} {a : α} : x.toOption = some a ↔ x = .ok a := by
  cases x <;> simp [toOption]

theorem exists_eq_error {x : Attempt ε α} (h : x.fault?.isSome) : ∃ e, x = .error e := by
  cases x with
  | error e => exact ⟨e, rfl⟩
  | ok a => cases h
  | crashed => cases h

@[simp] theorem map_eq_crashed {f : α → β} {x : Attempt ε α} : x.map f = .crashed ↔ x = .crashed := by
  cases x <;> simp [Attempt.map]

end ScopedQuery.Attempt
