/-!
Computations that may fail, taken apart into their steps.
-/

namespace GrpcMock

/-- A computation of two steps succeeds if both steps do. -/
theorem bind_eq_ok {ε α β : Type} {first : Except ε α} {next : α → Except ε β} {result : β}
    : first >>= next = .ok result ↔ ∃ value, first = .ok value ∧ next value = .ok result := by
  cases first <;> simp [bind, Except.bind]

/-- After a success comes the next step. -/
theorem bind_of_eq_ok {ε α β : Type} {first : Except ε α} {next : α → Except ε β} {value : α}
    (h : first = .ok value)
    : first >>= next = next value := by
  rw [h]
  rfl

/-- Nothing comes after a failure. -/
theorem bind_of_eq_error {ε α β : Type} {first : Except ε α} {next : α → Except ε β} {failure : ε}
    (h : first = .error failure)
    : first >>= next = .error failure := by
  rw [h]
  rfl

/-- A check followed by a computation succeeds if the check passes and the computation succeeds. -/
theorem check_bind_eq_ok {ε β : Type} {check : Except ε Unit} {next : Unit → Except ε β}
    {result : β}
    : check >>= next = .ok result ↔ check = .ok () ∧ next () = .ok result := by
  cases check <;> simp [bind, Except.bind]

theorem pure_eq_ok {ε α : Type} {value result : α}
    : (pure value : Except ε α) = .ok result ↔ value = result := by
  simp [pure, Except.pure]

theorem map_eq_ok {ε α β : Type} {first : Except ε α} {f : α → β} {result : β}
    : first.map f = .ok result ↔ ∃ value, first = .ok value ∧ f value = result := by
  cases first <;> simp [Except.map]

theorem toOption_eq_some {ε α : Type} {result : Except ε α} {value : α}
    : result.toOption = some value ↔ result = .ok value := by
  cases result <;> simp [Except.toOption]

end GrpcMock
