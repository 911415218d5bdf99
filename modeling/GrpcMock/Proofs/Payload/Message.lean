import GrpcMock.Payload.Message
import GrpcMock.Proofs.Lists
import GrpcMock.Proofs.Payload.Single
import GrpcMock.Proofs.Schema.WellFormed
import GrpcMock.Proofs.Value.Keys

/-!
Messages that are read from payloads conform to their schemas. Fields are set in the order of the
schema, and distinct numbers keep one from taking the place of another.
-/

namespace GrpcMock

/-- A field with a new number is set after all others. -/
theorem MessageValue.set_eq_append {number : UInt32} {value : Value} {message : MessageValue}
    (fresh : number ∉ message.map Prod.fst)
    : set number value message = message ++ [(number, value)] := by
  induction message with
  | nil => rfl
  | cons pair rest ih =>
      rw [List.map_cons, List.mem_cons, not_or] at fresh
      rw [set, if_neg (Ne.symm fresh.1), ih fresh.2, List.cons_append]

namespace Payload

variable {package : Package}

/-- What is set beside a message that was there before. -/
def Extends (fields : List FieldSchema) (before after : MessageValue) : Prop :=
  ∃ added, after = before ++ added ∧ ConformingFields fields added

/-- A field that is not set adds nothing. -/
theorem Extends.skip {field : FieldSchema} {fields : List FieldSchema}
    {before after : MessageValue} (h : Extends fields before after)
    : Extends (field :: fields) before after := by
  obtain ⟨added, same, conforms⟩ := h
  exact ⟨added, same, .skip conforms⟩

/-- A field that is set to what conforms to it adds that. -/
theorem Extends.set {field : FieldSchema} {fields : List FieldSchema} {value : Value}
    {before after : MessageValue}
    (h : Extends fields (before ++ [(field.number, value)]) after)
    (conforms : ConformingField field value) (fresh : field.number ∉ fields.map (·.number))
    : Extends (field :: fields) before after := by
  obtain ⟨added, same, rest⟩ := h
  have unset : field.number ∉ added.map Prod.fst := fun set => fresh (rest.numbers.subset set)
  exact ⟨(field.number, value) :: added, by simp [same], .set conforms unset rest⟩

/-- A message in which nothing is set conforms. -/
theorem conforming_nil (fields : List FieldSchema) : ConformingFields fields [] := by
  induction fields with
  | nil => exact .nil
  | cons _ _ ih => exact .skip ih

/-- Where something stands matters only if it fails. -/
theorem atPath_eq_ok {α : Type} {path : String} {result : Except Mismatch α} {value : α}
    : atPath path result = .ok value ↔ result = .ok value := by
  cases result <;> simp [atPath, Except.mapError]

/-- A single value that is read is a message, or else it conforms because of its kind alone. -/
theorem readSingle_cases {field : FieldSchema} {message : Option MessageSchema} {payload : Json}
    {path : String} {value : Value}
    (read : readSingle field.name field.kind field.enumType message payload path = .ok value)
    : (∃ schema fields,
        message = some schema
        ∧ (field.kind = .message ∨ field.kind = .group)
        ∧ readMessage schema payload path = .ok fields
        ∧ value = .message fields)
      ∨ ConformingValue field value := by
  by_cases isMessage : field.kind = .message ∨ field.kind = .group
  · cases message with
    | none =>
        rcases isMessage with kind | kind <;> rw [kind, readSingle.eq_def] at read <;> cases read
    | some schema =>
        have passed : (readMessage schema payload path).map Value.message = .ok value := by
          rcases isMessage with kind | kind <;> rwa [kind, readSingle.eq_def] at read
        obtain ⟨fields, nested, rfl⟩ := map_eq_ok.mp passed
        exact .inl ⟨schema, fields, rfl, isMessage, nested, rfl⟩
  rw [readSingle.eq_def] at read
  dsimp only at read
  split at read
  · rename_i kind
    exact absurd (.inl kind) isMessage
  · rename_i kind
    exact absurd (.inr kind) isMessage
  · rename_i kind
    split at read
    · rename_i enum found
      obtain ⟨ordinal, passed, rfl⟩ := map_eq_ok.mp read
      exact .inr (.enum kind found (readMember_isSome (atPath_eq_ok.mp passed)))
    · cases read
  · rename_i kind notMessage notGroup notEnum
    have scalar : field.kind.isScalar := by
      cases kind : field.kind <;> first | rfl | contradiction
    exact .inr (.scalar (readScalar_isOf scalar (atPath_eq_ok.mp read)))

mutual
/-- A message that is read conforms to its schema, by induction on the schema. -/
theorem readMessage_conforms (h : package.WellFormed)
    : ∀ (schema : MessageSchema) {payload : Json} {path : String} {message : MessageValue},
        schema ∈ package.messages
        → readMessage schema payload path = .ok message
        → schema.Accepts message
  | ⟨fullName, ident, fields, isMapEntry⟩, payload, path, message, member, read => by
      rw [readMessage.eq_def] at read
      have inside : ∀ field ∈ fields, package.HasField field :=
        fun field declared => ⟨_, member, declared⟩
      cases payload with
      | null =>
          cases read
          exact conforming_nil fields
      | object members =>
          dsimp only at read
          split at read
          · cases read
          · have distinct : (([] : MessageValue).map Prod.fst ++ fields.map (·.number)).Nodup :=
              (h.messages _ member).numbers
            obtain ⟨added, rfl, conforms⟩ := readFields_conforms h fields inside distinct read
            exact conforms
      | _ => cases read

/-- Reading the fields of a message adds what conforms to them. -/
theorem readFields_conforms (h : package.WellFormed)
    : ∀ (fields : List FieldSchema) {members : List (String × Json)} {path : String}
        {before after : MessageValue},
        (∀ field ∈ fields, package.HasField field)
        → (before.map Prod.fst ++ fields.map (·.number)).Nodup
        → readFields fields members path before = .ok after
        → Extends fields before after
  | [], members, path, before, after, _, _, read => by
      cases read
      exact ⟨[], by simp, .nil⟩
  | field :: rest, members, path, before, after, inside, distinct, read => by
      have others : ∀ field ∈ rest, package.HasField field :=
        fun field later => inside field (List.mem_cons_of_mem _ later)
      have fewer : (before.map Prod.fst ++ rest.map (·.number)).Nodup :=
        distinct.sublist (List.Sublist.append_left (List.sublist_cons_self _ _) _)
      rw [readFields] at read
      split at read
      · exact (readFields_conforms h rest others fewer read).skip
      · exact (readFields_conforms h rest others fewer read).skip
      · obtain ⟨value, single, read⟩ := bind_eq_ok.mp read
        have fresh : field.number ∉ before.map Prod.fst := fun set =>
          (List.nodup_append.mp distinct).2.2 _ set _ (List.mem_cons_self ..) rfl
        rw [MessageValue.set_eq_append fresh] at read
        have conforms := readField_conforms h field (inside field (List.mem_cons_self ..)) single
        have later : field.number ∉ rest.map (·.number) :=
          (List.nodup_cons.mp (List.nodup_append.mp distinct).2.1).1
        exact (readFields_conforms h rest others (by simpa using distinct) read).set conforms later

/-- What is read for a field conforms to it. -/
theorem readField_conforms (h : package.WellFormed)
    : ∀ (field : FieldSchema) {payload : Json} {path : String} {value : Value},
        package.HasField field
        → readField field payload path = .ok value
        → ConformingField field value
  | ⟨name, jsonName, goName, number, kind, isList, isMap, hasPresence, message, enumType⟩,
      payload, path, value, inside, read => by
      rw [readField.eq_def] at read
      dsimp only at read
      split at read
      · rename_i marked
        exact readMap_conforms h message rfl inside marked read
      split at read
      · rename_i unmarked isList
        split at read
        · obtain ⟨values, each, same⟩ := bind_eq_ok.mp read
          cases same
          refine .list unmarked isList fun value member => ?_
          obtain ⟨⟨item, index⟩, _, single⟩ := (mapM_eq_ok.mp each).exists_left member
          exact readSingle_conforms h message rfl inside single
        · cases read
      · rename_i unmarked single
        exact .single unmarked single (readSingle_conforms h message rfl inside read)

/-- A map that is read conforms to its field. -/
theorem readMap_conforms (h : package.WellFormed)
    : ∀ (message : Option MessageSchema) {field : FieldSchema} {payload : Json} {path : String}
        {result : Value},
        field.message = message
        → package.HasField field
        → field.isMap
        → readMap field.name message payload path = .ok result
        → ConformingField field result
  | none, field, payload, path, result, _, _, _, read => by cases read
  | some ⟨_, _, [], _⟩, field, payload, path, result, _, _, _, read => by cases read
  | some ⟨_, _, [_], _⟩, field, payload, path, result, _, _, _, read => by cases read
  | some ⟨fullName, ident, key :: value :: others, isMapEntry⟩, field, payload, path, result,
      found, inside, isMap, read => by
      have entry : field.entryFields? = some (key, value) := by rw [FieldSchema.entryFields?, found]
      have valueInside : package.HasField value := (inside.entry h entry).2
      cases payload with
      | object members =>
          rw [readMap] at read
          obtain ⟨entries, each, same⟩ := bind_eq_ok.mp read
          cases same
          have conforms
              : ∀ pair ∈ Sorted.ofList entries,
                  pair.1.isOf key.kind ∧ ConformingValue value pair.2 := by
            intro pair sorted
            obtain ⟨⟨text, payload⟩, _, both⟩ :=
              (mapM_eq_ok.mp each).exists_left (Sorted.mem_ofList sorted)
            obtain ⟨_, keyRead, both⟩ := bind_eq_ok.mp both
            obtain ⟨_, valueRead, same⟩ := bind_eq_ok.mp both
            cases same
            exact ⟨readKey_isOf (atPath_eq_ok.mp keyRead),
              readEntryValue_conforms h value valueInside valueRead⟩
          exact .map isMap entry (Sorted.ofList_ascending entries)
            (fun pair member => (conforms pair member).1)
            fun pair member => (conforms pair member).2
      | _ => cases read

/-- So does the value of an entry to the field for values. -/
theorem readEntryValue_conforms (h : package.WellFormed)
    : ∀ (field : FieldSchema) {payload : Json} {path : String} {value : Value},
        package.HasField field
        → readEntryValue field payload path = .ok value
        → ConformingValue field value
  | ⟨_, _, _, _, _, _, _, _, message, _⟩, _, _, _, inside, read =>
      readSingle_conforms h message rfl inside read

/-- So does a single value. -/
theorem readSingle_conforms (h : package.WellFormed)
    : ∀ (message : Option MessageSchema) {field : FieldSchema} {payload : Json} {path : String}
        {value : Value},
        field.message = message
        → package.HasField field
        → readSingle field.name field.kind field.enumType message payload path = .ok value
        → ConformingValue field value
  | none, field, payload, path, value, found, inside, read => by
      rcases readSingle_cases read with ⟨_, _, missing, _⟩ | conforms
      · cases missing
      · exact conforms
  | some schema, field, payload, path, value, found, inside, read => by
      rcases readSingle_cases read with ⟨_, fields, same, kind, nested, rfl⟩ | conforms
      · cases same
        have member : schema ∈ package.messages := inside.message_mem h found
        exact .message kind found (readMessage_conforms h schema member nested)
      · exact conforms
end

end Payload

end GrpcMock
