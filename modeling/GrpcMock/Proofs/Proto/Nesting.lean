import GrpcMock.Outcome
import GrpcMock.Proofs.Proto.References
import GrpcMock.Proto.Rules

/-!
The search for messages that contain themselves finds a cycle of references exactly if there is one.
Whatever is outside the room of a search lies on its path, so it leads to where the search is; all
that has been cleared leads nowhere but to ends.
-/

namespace GrpcMock.Proto

open Relation (TransGen)

namespace File

variable {file : File}

/-- Whatever the room lacks lies on a path along a relation that leads to a message. -/
def PathLeadsTo (file : File) (edge : Definition → Definition → Prop) (room : List Definition)
    (message : Definition) : Prop :=
  ∀ earlier ∈ file.definitions, earlier ∉ room → TransGen edge earlier message

variable {edge : Definition → Definition → Prop}

/-- At the beginning of a search the path is empty. -/
theorem pathLeadsTo_all (message : Definition)
    : file.PathLeadsTo edge file.definitions message :=
  fun _ member absent => absurd member absent

/-- The path to a message goes on along the relation. -/
theorem PathLeadsTo.extend {room : List Definition} {message next : Definition}
    (path : file.PathLeadsTo edge room message) (step : edge message next)
    : file.PathLeadsTo edge (room.erase message) next := by
  intro earlier member absent
  by_cases same : earlier = message
  · subst same
    exact .single step
  · have outside : earlier ∉ room := fun inside => absent ((List.mem_erase_of_ne same).mpr inside)
    exact (path earlier member outside).tail step

/-- What a search is to find from some messages: either that they and all that was cleared before
are grounded, or a message that lies on a cycle. -/
def Searched (file : File) (cleared messages : List Definition)
    : Except Violation (List Definition) → Prop
  | .ok found => cleared ⊆ found ∧ messages ⊆ found ∧ ∀ message ∈ found, file.Grounded message
  | .error violation =>
      ∃ message ∈ file.definitions,
        message.kind = .message
        ∧ TransGen file.Refers message message
        ∧ violation = .recursive message.name

/-- A message all of whose references were searched is grounded itself. -/
theorem Searched.close {cleared : List Definition} {message : Definition}
    {result : Except Violation (List Definition)}
    (h : file.Searched cleared (file.references message) result)
    : file.Searched cleared [message] (result.map (message :: ·)) := by
  cases result with
  | error violation => exact h
  | ok found =>
      obtain ⟨kept, covered, grounded⟩ := h
      refine ⟨fun _ member => List.mem_cons_of_mem _ (kept member), by simp, ?_⟩
      intro next member
      rcases List.mem_cons.mp member with rfl | member
      · exact .intro _ fun target reference =>
          grounded target (covered (mem_references.mpr reference))
      · exact grounded next member

/-- Searching from some more messages adds to what was found from the first. -/
theorem Searched.bind {cleared rest : List Definition} {message : Definition}
    {first : Except Violation (List Definition)}
    {next : List Definition → Except Violation (List Definition)}
    (hf : file.Searched cleared [message] first)
    (hn
      : ∀ found,
          (∀ message ∈ found, file.Grounded message) → file.Searched found rest (next found))
    : file.Searched cleared (message :: rest) (first >>= next) := by
  cases first with
  | error violation => exact hf
  | ok found =>
      obtain ⟨kept, covered, grounded⟩ := hf
      have later := hn found grounded
      change file.Searched cleared (message :: rest) (next found)
      cases result : next found with
      | error violation =>
          rw [result] at later
          exact later
      | ok all =>
          rw [result] at later
          obtain ⟨keptAll, coveredAll, groundedAll⟩ := later
          refine ⟨fun _ member => keptAll (kept member), ?_, groundedAll⟩
          exact List.cons_subset.mpr ⟨keptAll (covered (by simp)), coveredAll⟩

/-- The search decides whether a cycle can be reached, by induction along the search. The path says
that a message outside the room closes a cycle. -/
theorem follow_searched (file : File)
    : (∀ room cleared message,
        (∀ found ∈ cleared, file.Grounded found)
        → message ∈ file.definitions
        → message.kind = .message
        → file.PathLeadsTo file.Refers room message
        → file.Searched cleared [message] (file.follow room cleared message))
      ∧ ∀ room cleared messages,
          (∀ found ∈ cleared, file.Grounded found)
          → (∀ message ∈ messages,
              message ∈ file.definitions
              ∧ message.kind = .message
              ∧ file.PathLeadsTo file.Refers room message)
          → file.Searched cleared messages (file.followAll room cleared messages) := by
  apply follow.mutual_induct
  case case1 =>
    intro room cleared message known grounded _ _ _
    rw [follow, if_pos known]
    exact ⟨fun _ member => member, by simpa using known, grounded⟩
  case case2 =>
    intro room cleared message fresh inside ih grounded _ _ path
    rw [follow, if_neg fresh, if_pos inside]
    refine (ih grounded fun target member => ?_).close
    have reference := mem_references.mp member
    exact ⟨reference.mem, reference.message, path.extend reference⟩
  case case3 =>
    intro room cleared message fresh outside _ member kind path
    rw [follow, if_neg fresh, if_neg outside]
    exact ⟨message, member, kind, path message member outside, rfl⟩
  case case4 =>
    intro room cleared grounded _
    rw [followAll]
    exact ⟨fun _ member => member, by simp, grounded⟩
  case case5 =>
    intro room cleared message rest first others grounded messages
    rw [followAll]
    obtain ⟨member, kind, path⟩ := messages message (by simp)
    refine (first grounded member kind path).bind fun found grounded => ?_
    exact others found grounded fun next member => messages next (List.mem_cons_of_mem _ member)

/-- The check of nesting either passes, and then following references always ends, or it names a
message that lies on a cycle. -/
theorem checkNesting_cases (file : File)
    : (file.checkNesting = .ok ()
        ∧ ∀ message ∈ file.definitions, message.kind = .message → file.Grounded message)
      ∨ ∃ message ∈ file.definitions,
          message.kind = .message
          ∧ TransGen file.Refers message message
          ∧ file.checkNesting = .error (.recursive message.name) := by
  let messages := file.definitions.filter (·.kind = .message)
  have searched : file.Searched [] messages (file.followAll file.definitions [] messages) := by
    refine (follow_searched file).2 _ _ _ (by simp) fun message member => ?_
    have both : message ∈ file.definitions ∧ message.kind = .message := by
      simpa [messages] using member
    exact ⟨both.1, both.2, pathLeadsTo_all message⟩
  have check : file.checkNesting =
      (file.followAll file.definitions [] messages).map fun _ => () := rfl
  cases result : file.followAll file.definitions [] messages with
  | error violation =>
      rw [result] at searched check
      obtain ⟨message, member, kind, cycle, rfl⟩ := searched
      exact .inr ⟨message, member, kind, cycle, check⟩
  | ok found =>
      rw [result] at searched check
      obtain ⟨-, covered, grounded⟩ := searched
      refine .inl ⟨check, fun message member kind => grounded message (covered ?_)⟩
      simp [messages, member, kind]

/-- No message can be reached from itself by references. -/
def Acyclic (file : File) : Prop :=
  ∀ message ∈ file.definitions, message.kind = .message → ¬TransGen file.Refers message message

/-- The search for nesting passes exactly if there is no cycle of references. -/
theorem checkNesting_eq_ok : file.checkNesting = .ok () ↔ file.Acyclic := by
  rcases file.checkNesting_cases with ⟨passes, grounded⟩ | ⟨message, member, kind, cycle, fails⟩
  · exact iff_of_true passes fun message member kind => (grounded message member kind).acyclic
  · refine iff_of_false (fun passes => ?_) fun acyclic => acyclic message member kind cycle
    cases fails.symm.trans passes

end File

end GrpcMock.Proto
