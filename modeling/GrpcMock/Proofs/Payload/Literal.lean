import GrpcMock.Proofs.Go.Literal
import GrpcMock.Proofs.Payload.Message
import GrpcMock.Proofs.Proto.Compile

/-!
Payloads from end to end. What is read with a schema that was compiled conforms to it, and a value
that conforms has a literal unless a group stands in the way.
-/

namespace GrpcMock.Payload

open GrpcMock.Go (Speller messageLiteral)

/-- A message that was read from a payload has a literal, however identifiers are written and
whatever was mentioned before. The only failure there can be is that a list or a map is one of
groups. -/
theorem messageLiteral_of_readMessage {text path : String} {package : Package}
    {schema : MessageSchema} {payload : Json} {message : MessageValue}
    (compiled : Proto.compile text = .ok package) (member : schema ∈ package.messages)
    (read : readMessage schema payload path = .ok message)
    : ∀ (σ : Type) (speller : Speller σ) (state : σ),
        (∃ literal after,
          (messageLiteral speller schema message).run.run state = (.ok literal, after))
        ∨ ∃ field after,
            (messageLiteral speller schema message).run.run state
              = (.error (.unsupportedGroup field), after) := by
  intro σ speller state
  have wellFormed : package.WellFormed := Proto.compile_wellFormed compiled
  have conforms : schema.Accepts message := readMessage_conforms wellFormed schema member read
  have only : Go.FailsOnly Go.GroupRefused (messageLiteral speller schema message) :=
    Go.messageLiteral_failsOnly wellFormed member conforms
  rcases result : (messageLiteral speller schema message).run.run state with
    ⟨failure | literal, after⟩
  · obtain ⟨field, rfl⟩ := only state failure after result
    exact .inr ⟨field, after, rfl⟩
  · exact .inl ⟨literal, after, rfl⟩

def basketText : String :=
  "message Basket \x7b repeated int32 counts = 1; \x7d"

def basketSchema : MessageSchema :=
  {
    fullName := "Basket",
    ident := ⟨"Basket", ""⟩,
    fields := [{ FieldSchema.single "counts" 1 .int32 with isList := true }],
    isMapEntry := false
  }

def basketPackage : Package :=
  {
    name := none,
    goPackage := ⟨"", "main"⟩,
    messages := [basketSchema],
    enums := [],
    services := []
  }

def basketPayload : Json :=
  .object [("counts", .array [.number (.integer 2)])]

/-- A payload of that message, with the schema from its text. -/
theorem messageLiteral_of_basket
    : Proto.compile basketText = .ok basketPackage
      ∧ basketSchema ∈ basketPackage.messages
      ∧ readMessage basketSchema basketPayload "request" = .ok [(1, .list [.int32 2])]
      ∧ ∀ (σ : Type) (speller : Speller σ) (state : σ),
          (∃ literal after,
            (messageLiteral speller basketSchema [(1, .list [.int32 2])]).run.run state
              = (.ok literal, after))
          ∨ ∃ field after,
              (messageLiteral speller basketSchema [(1, .list [.int32 2])]).run.run state
                = (.error (.unsupportedGroup field), after) := by
  have compiled : Proto.compile basketText = .ok basketPackage :=
    toOption_eq_some.mp (by decide +kernel)
  have member : basketSchema ∈ basketPackage.messages := List.mem_singleton_self _
  have read : readMessage basketSchema basketPayload "request" = .ok [(1, .list [.int32 2])] := by
    rfl
  exact ⟨compiled, member, read, messageLiteral_of_readMessage compiled member read⟩

end GrpcMock.Payload
