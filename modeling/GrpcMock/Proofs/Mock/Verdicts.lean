import GrpcMock.Proofs.Go.Alike

/-!
What a rendering comes to, apart from its text. Many renderings come to the same whatever was
mentioned before them, and so do those that are made of them.
-/

namespace GrpcMock.Mock

open GrpcMock.Go (Alike Rendering SameEnd Speller)

variable {σ α β : Type} {speller : Speller σ}

/-- Whether a computation succeeds, and how it fails if it does not. -/
def verdict (result : Except Failure α) : Except Failure Unit :=
  result.map fun _ => ()

/-- The verdict on a success is that it is one. -/
theorem verdict_eq_ok {result : Except Failure α}
    : verdict result = .ok () ↔ ∃ value, result = .ok value := by
  cases result <;> simp [verdict, Except.map]

/-- The verdict on a failure is that failure. -/
theorem verdict_eq_error {result : Except Failure α} {failure : Failure}
    : verdict result = .error failure ↔ result = .error failure := by
  cases result <;> simp [verdict, Except.map]

/-- What is made of a result does not change the verdict on it. -/
theorem verdict_bind_pure {result : Except Failure α} {f : α → β}
    : verdict (result >>= fun value => pure (f value)) = verdict result := by
  cases result <;> rfl

/-- Whatever was mentioned before, a rendering comes to the same verdict. -/
def Settled (rendering : Rendering σ α) (settled : Except Failure Unit) : Prop :=
  ∀ before, verdict (rendering.run.run before).1 = settled

namespace Settled

variable {first : Rendering σ α} {next : α → Rendering σ β} {settled later : Except Failure Unit}

/-- What only yields something succeeds. -/
theorem pure {value : α} : Settled (pure value : Rendering σ α) (.ok ()) :=
  fun _ => rfl

/-- What fails comes to its failure. -/
theorem throw {failure : Failure} : Settled (throw failure : Rendering σ α) (.error failure) :=
  fun _ => rfl

/-- Writing an identifier succeeds. -/
theorem write {ident : GoIdent} : Settled (speller.write ident) (.ok ()) :=
  fun _ => rfl

/-- Nothing follows a failure. -/
theorem throw_bind {failure : Failure}
    : Settled ((MonadExcept.throw failure : Rendering σ α) >>= next) (.error failure) :=
  fun _ => rfl

/-- Two renderings come to the first failure of both. -/
theorem bind (hf : Settled first settled) (hn : ∀ value, Settled (next value) later)
    : Settled (first >>= next) (settled >>= fun _ => later) := by
  intro before
  have head := hf before
  rw [ExceptT.run_bind, StateT.run_bind]
  revert head
  rcases first.run.run before with ⟨failure | value, between⟩
  · rintro rfl
    rfl
  · rintro rfl
    exact hn value between

/-- What follows a rendering that succeeds. -/
theorem after (hf : Settled first (.ok ())) (hn : ∀ value, Settled (next value) later)
    : Settled (first >>= next) later :=
  hf.bind hn

/-- A rendering that is followed by one that succeeds. -/
theorem andThen (hf : Settled first settled) (hn : ∀ value, Settled (next value) (.ok ()))
    : Settled (first >>= next) settled := by
  have both := hf.bind hn
  cases settled <;> exact both

/-- A rendering comes to the verdict on one that ends alike. -/
theorem of_alike {other : Rendering Unit β} (h : Alike first other)
    : Settled first (verdict other.outcome) := by
  intro before
  have ends := h before ()
  change SameEnd _ other.outcome at ends
  revert ends
  generalize (first.run.run before).1 = left
  generalize other.outcome = right
  rintro ⟨⟩ <;> rfl

end Settled

end GrpcMock.Mock
