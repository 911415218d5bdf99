import GrpcMock.Failure

/-!
Failures in cases of a contract and others. Only where the branch of a case is written does a
failure come to say in which case it lies.
-/

namespace GrpcMock

def Failure.isInCase : Failure → Bool
  | .inCase .. => true
  | _ => false

variable {α β : Type}

/-- What it fails with does not say of itself that it lies in a case. -/
def FailsDirectly (result : Except Failure α) : Prop :=
  ∀ failure, result = .error failure → ¬failure.isInCase

namespace FailsDirectly

/-- A success is no failure in a case. -/
theorem ok {value : α} : FailsDirectly (.ok value) :=
  nofun

/-- A failure fails directly if it is none in a case. -/
theorem error {failure : Failure} (direct : ¬failure.isInCase)
    : FailsDirectly (.error failure : Except Failure α) := by
  rintro _ ⟨⟩
  exact direct

/-- So does what throws it. -/
theorem throw {failure : Failure} (direct : ¬failure.isInCase)
    : FailsDirectly (throw failure : Except Failure α) :=
  error direct

/-- Nothing follows a failure. -/
theorem throw_bind {failure : Failure} {next : α → Except Failure β} (direct : ¬failure.isInCase)
    : FailsDirectly ((MonadExcept.throw failure : Except Failure α) >>= next) :=
  error direct

/-- Two computations fail directly if each of them does. -/
theorem bind {first : Except Failure α} {next : α → Except Failure β} (hf : FailsDirectly first)
    (hn : ∀ value, FailsDirectly (next value))
    : FailsDirectly (first >>= next) := by
  cases first with
  | ok value => exact hn value
  | error failure => exact error (hf failure rfl)

/-- What is made of a result fails as the result does. -/
theorem map {result : Except Failure α} {f : α → β} (h : FailsDirectly result)
    : FailsDirectly (result.map f) := by
  cases result with
  | ok value => exact ok
  | error failure => exact error (h failure rfl)

/-- A list fails directly if each of its items does. -/
theorem mapM {f : α → Except Failure β} {items : List α}
    (each : ∀ item ∈ items, FailsDirectly (f item))
    : FailsDirectly (items.mapM f) := by
  induction items with
  | nil => exact ok
  | cons first rest ih =>
      rw [List.forall_mem_cons] at each
      rw [List.mapM_cons]
      exact .bind each.1 fun _ => .bind (ih each.2) fun _ => ok

end FailsDirectly

end GrpcMock
