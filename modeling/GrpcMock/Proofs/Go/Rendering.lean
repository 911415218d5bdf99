import GrpcMock.Go.Spelling
import GrpcMock.Outcome

/-!
Renderings and what they come to. Mentioning an identifier never fails, so a failure is always one
that some part of the rendering throws; and where identifiers are written without a state, a
rendering is no more than a text or a failure.
-/

namespace GrpcMock.Go

variable {σ α β : Type} {allowed : Failure → Prop}

/-- Whatever was mentioned before, a rendering fails with nothing but what is allowed. -/
def FailsOnly (allowed : Failure → Prop) (rendering : Rendering σ α) : Prop :=
  ∀ state failure after, rendering.run.run state = (.error failure, after) → allowed failure

namespace FailsOnly

/-- What only yields something never fails. -/
theorem pure {value : α} : FailsOnly allowed (pure value : Rendering σ α) := by
  intro state failure after run
  cases run

/-- A failure that is allowed is one. -/
theorem throw {failure : Failure} (h : allowed failure)
    : FailsOnly allowed (throw failure : Rendering σ α) := by
  intro state other after run
  cases run
  exact h

/-- Nothing follows a failure. -/
theorem throw_bind {failure : Failure} {next : α → Rendering σ β} (h : allowed failure)
    : FailsOnly allowed ((MonadExcept.throw failure : Rendering σ α) >>= next) :=
  throw h

/-- One rendering after another. -/
theorem bind {first : Rendering σ α} {next : α → Rendering σ β} (hf : FailsOnly allowed first)
    (hn : ∀ value, FailsOnly allowed (next value))
    : FailsOnly allowed (first >>= next) := by
  intro state failure after run
  rw [ExceptT.run_bind, StateT.run_bind] at run
  rcases result : first.run.run state with ⟨value | value, between⟩
  · rw [result] at run
    cases run
    exact hf _ _ _ result
  · rw [result] at run
    exact hn value _ _ _ run

/-- Writing an identifier never fails. -/
theorem write {speller : Speller σ} {ident : GoIdent}
    : FailsOnly allowed (speller.write ident) := by
  intro state failure after run
  cases run

/-- Neither does writing a name of some package. -/
theorem writeFrom {speller : Speller σ} {path name : String}
    : FailsOnly allowed (speller.writeFrom path name) :=
  write

/-- A part of a schema that is there is given to what follows. -/
theorem required {field expected : String} {part : Option α} {value : α}
    {next : α → Rendering σ β} (found : part = some value) (hn : FailsOnly allowed (next value))
    : FailsOnly allowed (required field expected part >>= next) := by
  subst found
  exact hn

end FailsOnly

-----------------------------------------------------------------------------------------
-- Renderings that succeed
-----------------------------------------------------------------------------------------

namespace Rendering

/-- A rendering of two steps succeeds if the second does after what the first has mentioned. -/
theorem run_bind_eq_ok {first : Rendering σ α} {next : α → Rendering σ β} {result : β}
    {before after : σ}
    : (first >>= next).run.run before = (.ok result, after)
      ↔ ∃ value between,
          first.run.run before = (.ok value, between)
          ∧ (next value).run.run between = (.ok result, after) := by
  rw [ExceptT.run_bind, StateT.run_bind]
  rcases first.run.run before with ⟨failure | value, between⟩
  · constructor
    · nofun
    · rintro ⟨_, _, ⟨⟩, _⟩
  · constructor
    · exact fun ran => ⟨value, between, rfl, ran⟩
    · rintro ⟨_, _, ⟨⟩, ran⟩
      exact ran

/-- Yielding something mentions nothing. -/
theorem run_pure_eq_ok {value result : α} {before after : σ}
    : (pure value : Rendering σ α).run.run before = (.ok result, after)
      ↔ value = result ∧ before = after := by
  constructor
  · rintro ⟨⟩
    exact ⟨rfl, rfl⟩
  · rintro ⟨rfl, rfl⟩
    rfl

/-- What is required is there, and nothing is mentioned. -/
theorem run_required_eq_ok {field expected : String} {part : Option α} {value : α}
    {before after : σ}
    : (required field expected part).run.run before = (.ok value, after)
      ↔ part = some value ∧ before = after := by
  cases part with
  | none =>
      constructor
      · nofun
      · rintro ⟨⟨⟩, _⟩
  | some other =>
      rw [required, run_pure_eq_ok, Option.some_inj]

/-- An identifier is written as its speller spells it. -/
theorem run_write_eq_ok {speller : Speller σ} {ident : GoIdent} {text : String} {before after : σ}
    : (speller.write ident).run.run before = (.ok text, after)
      ↔ speller.spell ident before = (text, after) := by
  have run
      : (speller.write ident).run.run before
        = (.ok (speller.spell ident before).1, (speller.spell ident before).2) := rfl
  rw [run, Prod.ext_iff, Prod.ext_iff, Except.ok.injEq]

end Rendering

-----------------------------------------------------------------------------------------
-- Renderings without a state
-----------------------------------------------------------------------------------------

/-- What a rendering comes to if there is no state to keep. -/
def Rendering.outcome (rendering : Rendering Unit α) : Except Failure α :=
  (rendering.run.run ()).1

namespace Rendering

/-- A value without a rendering comes to itself. -/
@[simp]
theorem outcome_pure {value : α} : outcome (Pure.pure value : Rendering Unit α) = .ok value := by
  unfold outcome
  rfl

/-- One rendering after another. -/
@[simp]
theorem outcome_bind {first : Rendering Unit α} {next : α → Rendering Unit β}
    : outcome (first >>= next) = outcome first >>= fun value => outcome (next value) := by
  have both : (first >>= next).run.run ()
      = match first.run.run () with
        | (.ok value, state) => (next value).run.run state
        | (.error failure, state) => (.error failure, state) := by
    rw [ExceptT.run_bind, StateT.run_bind]
    rcases first.run.run () with ⟨failure | value, state⟩ <;> rfl
  unfold outcome
  rw [both]
  rcases first.run.run () with ⟨failure | value, state⟩ <;> rfl

/-- The outcome of what is made of a rendering is made of its outcome. -/
@[simp]
theorem outcome_map {f : α → β} {rendering : Rendering Unit α}
    : outcome (f <$> rendering) = f <$> outcome rendering := by
  rw [← bind_pure_comp, outcome_bind, ← bind_pure_comp]
  rfl

/-- An identifier is written as it is spelled. -/
@[simp]
theorem outcome_write {spell : GoIdent → String} {ident : GoIdent}
    : outcome ((Speller.ofFunction spell).write ident) = .ok (spell ident) := by
  unfold outcome
  rfl

/-- What is required is there or the rendering fails. -/
theorem outcome_required {field expected : String} {part : Option α} {value : α}
    : outcome (required field expected part) = .ok value ↔ part = some value := by
  cases part with
  | none =>
      constructor
      · intro fails
        cases fails
      · nofun
  | some other =>
      constructor
      · rintro ⟨⟩
        rfl
      · rintro ⟨⟩
        rfl

end Rendering

end GrpcMock.Go
