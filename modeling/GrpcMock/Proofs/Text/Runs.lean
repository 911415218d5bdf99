import Mathlib.Data.List.TakeWhile

/-!
Runs of characters of one sort. A run ends where a character of another sort follows, so two texts
that begin with the same characters begin with the same run.
-/

namespace GrpcMock.Text

/-- Two runs that are followed by nothing of their sort are the same if the texts are, by induction
on one of them. -/
theorem run_append_inj {p : Char → Prop} {left right after rest : List Char}
    (hl : ∀ c ∈ left, p c) (hr : ∀ c ∈ right, p c) (leftEnds : ∀ c ∈ after.head?, ¬p c)
    (rightEnds : ∀ c ∈ rest.head?, ¬p c) (same : left ++ after = right ++ rest)
    : left = right ∧ after = rest := by
  induction left generalizing right with
  | nil =>
      cases right with
      | nil => exact ⟨rfl, same⟩
      | cons first others =>
          rw [List.nil_append] at same
          subst same
          exact absurd (hr first (List.mem_cons_self ..)) (leftEnds first rfl)
  | cons first others ih =>
      cases right with
      | nil =>
          rw [List.nil_append] at same
          subst same
          exact absurd (hl first (List.mem_cons_self ..)) (rightEnds first rfl)
      | cons other more =>
          rw [List.forall_mem_cons] at hl hr
          obtain ⟨rfl, tails⟩ := List.cons.inj same
          obtain ⟨rfl, rest⟩ := ih hl.2 hr.2 tails
          exact ⟨rfl, rest⟩

/-- A run is as long as it can be where something else follows. -/
theorem takeWhile_run {p : Char → Bool} {run after : List Char} (all : ∀ c ∈ run, p c)
    (ends : ∀ c ∈ after.head?, p c = false)
    : (run ++ after).takeWhile p = run := by
  rw [List.takeWhile_append_of_pos all]
  cases after with
  | nil => simp
  | cons c rest => simp [ends c rfl]

/-- Every text begins with a run, perhaps with an empty one. -/
theorem exists_run (p : Char → Bool) (text : List Char)
    : ∃ run after,
        text = run ++ after ∧ (∀ c ∈ run, p c) ∧ ∀ c ∈ after.head?, p c = false := by
  refine ⟨text.takeWhile p, text.dropWhile p, List.takeWhile_append_dropWhile.symm, ?_, ?_⟩
  · exact fun c member => List.mem_takeWhile_imp member
  · intro c first
    have stopped := List.head?_dropWhile_not p text
    rwa [Option.mem_def.mp first] at stopped

end GrpcMock.Text
