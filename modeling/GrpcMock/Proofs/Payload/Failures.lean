import GrpcMock.Payload.Message
import GrpcMock.Proofs.Failure

/-!
Failures to read a payload. They name a place in the payload or a part of a schema that is not
there; none of them says in which case of a contract the payload stands.
-/

namespace GrpcMock

/-- A mismatch at some place lies in no case. -/
theorem FailsDirectly.atPath {α : Type} {path : String} {result : Except Payload.Mismatch α}
    : FailsDirectly (Payload.atPath path result) := by
  cases result with
  | ok value => exact ok
  | error mismatch => exact error Bool.false_ne_true

namespace Payload

mutual
/-- By induction on the schema that the payload is read with. -/
theorem readMessage_direct
    : ∀ (schema : MessageSchema) (payload : Json) (path : String),
        FailsDirectly (readMessage schema payload path)
  | ⟨fullName, _, fields, _⟩, payload, path => by
      rw [readMessage.eq_def]
      dsimp only
      split
      · exact .ok
      · split
        · exact .error Bool.false_ne_true
        · exact readFields_direct fields _ path []
      · exact .error Bool.false_ne_true

/-- Reading the fields of a message knows of no cases. -/
theorem readFields_direct
    : ∀ (fields : List FieldSchema) (members : List (String × Json)) (path : String)
        (message : MessageValue),
        FailsDirectly (readFields fields members path message)
  | [], _, _, _ => .ok
  | field :: rest, members, path, message => by
      rw [readFields]
      split
      · exact readFields_direct rest members path message
      · exact readFields_direct rest members path message
      · exact .bind (readField_direct field _ _) fun _ => readFields_direct rest members path _

/-- Neither does reading one of them. -/
theorem readField_direct
    : ∀ (field : FieldSchema) (payload : Json) (path : String),
        FailsDirectly (readField field payload path)
  | ⟨name, _, _, _, kind, isList, isMap, _, message, enumType⟩, payload, path => by
      have single := readSingle_direct name kind enumType message
      rw [readField.eq_def]
      dsimp only
      split
      · exact readMap_direct name message payload path
      split
      · split
        · exact .bind (.mapM fun _ _ => single _ _) fun _ => .ok
        · exact .error Bool.false_ne_true
      · exact single payload path

/-- Neither does reading a map. -/
theorem readMap_direct (name : String)
    : ∀ (message : Option MessageSchema) (payload : Json) (path : String),
        FailsDirectly (readMap name message payload path)
  | none, _, _ => .error Bool.false_ne_true
  | some ⟨_, _, [], _⟩, _, _ => .error Bool.false_ne_true
  | some ⟨_, _, [_], _⟩, _, _ => .error Bool.false_ne_true
  | some ⟨_, _, key :: value :: _, _⟩, payload, path => by
      have entryValue := readEntryValue_direct value
      cases payload with
      | object members =>
          rw [readMap]
          refine .bind (.mapM fun _ _ => ?_) fun _ => .ok
          exact .bind .atPath fun _ => .bind (entryValue _ _) fun _ => .ok
      | _ => exact .error Bool.false_ne_true

/-- Neither does reading the value of an entry. -/
theorem readEntryValue_direct
    : ∀ (field : FieldSchema) (payload : Json) (path : String),
        FailsDirectly (readEntryValue field payload path)
  | ⟨name, _, _, _, kind, _, _, _, message, enumType⟩, payload, path =>
      readSingle_direct name kind enumType message payload path

/-- Neither does reading a single value. -/
theorem readSingle_direct (name : String) (kind : FieldKind) (enumType : Option EnumSchema)
    : ∀ (message : Option MessageSchema) (payload : Json) (path : String),
        FailsDirectly (readSingle name kind enumType message payload path)
  | none, payload, path => by
      rw [readSingle.eq_def]
      dsimp only
      split
      · exact .error Bool.false_ne_true
      · exact .error Bool.false_ne_true
      · split
        · exact .map .atPath
        · exact .error Bool.false_ne_true
      · exact .atPath
  | some schema, payload, path => by
      have nested := readMessage_direct schema payload path
      rw [readSingle.eq_def]
      dsimp only
      split
      · exact .map nested
      · exact .map nested
      · split
        · exact .map .atPath
        · exact .error Bool.false_ne_true
      · exact .atPath
end

end Payload

end GrpcMock
