import GrpcMock.Proofs.Go.Shape
import GrpcMock.Proofs.Payload.Conformance
import GrpcMock.Proofs.Proto.Presence

/-!
Pointers from end to end. The schema that a text declares marks the fields that Go holds by
pointers, and the literals of payloads make a pointer for these and for no others.
-/

namespace GrpcMock.Payload

open GrpcMock.Go (MessageShape Speller messageLiteral protoPath)

/-- In a schema that compiles, a field has presence just if it is written so and stands in no map
entry. What is written for a payload has the shape that the schema demands of each field, at every
depth. -/
theorem pointers_of_compile {text : String} {package : Package}
    (compiled : Proto.compile text = .ok package)
    : (∃ file,
        Proto.File.ofText text = .ok file
        ∧ List.Forall₂
            (fun message schema =>
              List.Forall₂ (file.PresenceAsWritten message) message.fields schema.fields)
            file.messages package.messages)
      ∧ ∀ schema ∈ package.messages, ∀ payload path message,
          readMessage schema payload path = .ok message
          → ∀ (σ : Type) (speller : Speller σ) (before after : σ) (literal : String),
              (messageLiteral speller schema message).run.run before = (.ok literal, after)
              → MessageShape speller schema message before literal after := by
  obtain ⟨file, written, _, declares⟩ := Proto.compile_declares compiled
  refine ⟨⟨file, written, declares.presence⟩, ?_⟩
  intro schema member payload path message read σ speller before after literal run
  have wellFormed := Proto.compile_wellFormed compiled
  exact Go.messageShape wellFormed member (readMessage_conforms wellFormed schema member read) run

/-- The literal of a parcel in a file of the package that declares it. -/
def parcelLiteral : String :=
  "Parcel\x7bItems: map[int32]*Parcel_Item\x7b7: &Parcel_Item\x7bPriceCents: proto.Int64(1250), "
    ++ "Code: []byte\x7b0x01, 0x02\x7d\x7d\x7d, Sizes: []Parcel_Size\x7bParcel_LARGE, "
    ++ "Parcel_SMALL\x7d\x7d"

/-- Of all that a parcel holds, only the price is held by a pointer that a function makes. -/
theorem pointers_of_parcel
    : Proto.compile parcelText = .ok parcelPackage
      ∧ (∃ file,
          Proto.File.ofText parcelText = .ok file
          ∧ List.Forall₂
              (fun message schema =>
                List.Forall₂ (file.PresenceAsWritten message) message.fields schema.fields)
              file.messages parcelPackage.messages)
      ∧ readMessage parcelSchema parcelPayload "request" = .ok parcelMessage
      ∧ (messageLiteral .imports parcelSchema parcelMessage).run.run (.empty "")
        = (.ok parcelLiteral, ⟨"", [(protoPath, "proto")]⟩)
      ∧ MessageShape .imports parcelSchema parcelMessage (.empty "") parcelLiteral
          ⟨"", [(protoPath, "proto")]⟩ := by
  have run
      : (messageLiteral .imports parcelSchema parcelMessage).run.run (.empty "")
        = (.ok parcelLiteral, ⟨"", [(protoPath, "proto")]⟩) :=
    Prod.ext (toOption_eq_some.mp (by decide +kernel)) (by decide +kernel)
  obtain ⟨presence, shapes⟩ := pointers_of_compile compile_parcel
  exact ⟨compile_parcel, presence, readMessage_parcel, run,
    shapes parcelSchema mem_parcelPackage _ _ _ readMessage_parcel _ _ _ _ _ run⟩

end GrpcMock.Payload
