namespace MathAgents

/-!
# Chains of steps

Readers and evaluators chain steps that may fail, and agents chain steps on a state.  The lemmas of
this file take a chain apart: every step of one that has succeeded has succeeded with a value of its
own, and a step on a state hands its value and the new state on.
-/

variable {ε σ α β : Type}

/-- A mapped result is a value exactly if the result is one, and then it is the mapped value. -/
theorem map_eq_ok_iff {f : α → β} {x : Except ε α} {b : β} :
    x.map f = .ok b ↔ ∃ a, x = .ok a ∧ f a = b := by
  cases x <;> simp [Except.map]

/-- A mapped result is an error exactly if the result is the same error. -/
theorem map_eq_error_iff {f : α → β} {x : Except ε α} {e : ε} :
    x.map f = .error e ↔ x = .error e := by
  cases x <;> simp [Except.map]

/-- A step behind a result succeeds exactly if both do. -/
theorem bind_eq_ok_iff {x : Except ε α} {f : α → Except ε β} {b : β} :
    (x >>= f) = .ok b ↔ ∃ a, x = .ok a ∧ f a = .ok b := by
  cases x <;> simp [bind, Except.bind]

/-- What is left of a result when its error is forgotten is a value exactly if the result is it. -/
theorem toOption_eq_some_iff {x : Except ε α} {a : α} : x.toOption = some a ↔ x = .ok a := by
  cases x <;> simp [Except.toOption]

/-- A chain of steps on a state runs its first step, and then the rest from where that ended. -/
theorem bind_apply (x : StateM σ α) (f : α → StateM σ β) (s : σ) :
    (x >>= f) s = f (x s).1 (x s).2 := rfl

end MathAgents
