import GrpcMock.Payload.Single

/-!
Payloads of messages. An object gives fields by either of their names; members that are null count
as left out, and fields are set in the order of the schema. Each failure says by a path where it is.
-/

namespace GrpcMock.Payload

/-- Names the place of a mismatch. -/
def atPath {α : Type} (path : String) (result : Except Mismatch α) : Except Failure α :=
  result.mapError (.mismatch path)

/-- What an object says of a field, by its JSON name before its own. -/
def memberFor? (field : FieldSchema) (members : List (String × Json)) : Option Json :=
  (Sorted.find? field.jsonName members).or (Sorted.find? field.name members)

/-- The first name in an object that no field has. -/
def unknownName? (fields : List FieldSchema) (members : List (String × Json)) : Option String :=
  (members.map Prod.fst).find? fun name =>
    !fields.any fun field => field.jsonName == name || field.name == name

mutual
/-- Reads a message; null stands for one without fields. -/
def readMessage : MessageSchema → Json → String → Except Failure MessageValue
  | ⟨fullName, _, fields, _⟩, payload, path =>
      match payload with
      | .null => .ok []
      | .object members =>
          match unknownName? fields members with
          | some name => .error (.mismatch path (.unknownField name fullName))
          | none => readFields fields members path []
      | other => .error (.mismatch path (.notObject fullName other))

/-- Reads the fields of a message that an object gives, after those that are set already. -/
def readFields : List FieldSchema → List (String × Json) → String → MessageValue
    → Except Failure MessageValue
  | [], _, _, message => .ok message
  | field :: rest, members, path, message =>
      match memberFor? field members with
      | none => readFields rest members path message
      | some .null => readFields rest members path message
      | some payload => do
          let value ← readField field payload (path ++ "." ++ field.jsonName)
          readFields rest members path (MessageValue.set field.number value message)

/-- Reads all that a field holds: a map, a list or a single value. -/
def readField : FieldSchema → Json → String → Except Failure Value
  | ⟨name, _, _, _, kind, isList, isMap, _, message, enumType⟩, payload, path =>
      if isMap then readMap name message payload path
      else if isList then
        match payload with
        | .array items => do
            let values ← items.zipIdx.mapM fun (item, index) =>
              readSingle name kind enumType message item s!"{path}[{index}]"
            pure (.list values)
        | _ => .error (.mismatch path .notArray)
      else readSingle name kind enumType message payload path

/-- Reads a map, given the message for its entries. -/
def readMap (name : String) : Option MessageSchema → Json → String → Except Failure Value
  | some ⟨_, _, key :: value :: _, _⟩, payload, path =>
      match payload with
      | .object members => do
          let entries ← members.mapM fun (text, payload) => do
            let path := path ++ "[" ++ text ++ "]"
            let key ← atPath path (readKey key.kind text)
            let value ← readEntryValue value payload path
            pure (key, value)
          pure (.map (Sorted.ofList entries))
      | _ => .error (.mismatch path .notEntries)
  | _, _, _ => .error (.missingSchema name "map entry")

/-- Reads the value of an entry of a map, which is always a single one. -/
def readEntryValue : FieldSchema → Json → String → Except Failure Value
  | ⟨name, _, _, _, kind, _, _, _, message, enumType⟩ =>
      readSingle name kind enumType message

/-- Reads one value of a field with a name, a kind and perhaps an enum or a message. -/
def readSingle (name : String) (kind : FieldKind) (enumType : Option EnumSchema)
    : Option MessageSchema → Json → String → Except Failure Value
  | message, payload, path =>
      match kind with
      | .message | .group =>
          match message with
          | some schema => (readMessage schema payload path).map .message
          | none => .error (.missingSchema name "message")
      | .enum =>
          match enumType with
          | some enum => (atPath path (readMember enum payload)).map .enum
          | none => .error (.missingSchema name "enum")
      | _ => atPath path (readScalar kind payload)
end

end GrpcMock.Payload
