import GrpcMock.Proofs.Payload.Message

/-!
What reading an object comes to, field by field. An object has a member for a field under one of the
two names of the field; the field is set just if there is such a member and it is not null, and no
field depends on the others.
-/

namespace GrpcMock.Payload

variable {members : List (String × Json)} {path : String} {field : FieldSchema}
  {fields : List FieldSchema} {payload : Json} {message : MessageValue}

-----------------------------------------------------------------------------------------
-- Members of objects
-----------------------------------------------------------------------------------------

/-- A field goes by a name. -/
def IsNamed (field : FieldSchema) (name : String) : Prop :=
  field.jsonName = name ∨ field.name = name

/-- A field is given the member under its JSON name. -/
theorem memberFor?_of_jsonName (distinct : (members.map Prod.fst).Nodup)
    (member : (field.jsonName, payload) ∈ members)
    : memberFor? field members = some payload := by
  rw [memberFor?, Sorted.find?_of_mem distinct member, Option.some_or]

/-- Without one, it is given the member under its own name. -/
theorem memberFor?_of_name (distinct : (members.map Prod.fst).Nodup)
    (absent : field.jsonName ∉ members.map Prod.fst) (member : (field.name, payload) ∈ members)
    : memberFor? field members = some payload := by
  rw [memberFor?, Sorted.find?_eq_none.mpr absent, Option.none_or,
    Sorted.find?_of_mem distinct member]

/-- What an object has for a field stands under one of its names. -/
theorem exists_member_of_memberFor? (given : memberFor? field members = some payload)
    : ∃ name, (name, payload) ∈ members ∧ IsNamed field name := by
  rcases Option.or_eq_some_iff.mp given with found | ⟨_, found⟩
  · exact ⟨_, Sorted.mem_of_find? found, .inl rfl⟩
  · exact ⟨_, Sorted.mem_of_find? found, .inr rfl⟩

/-- No name in an object is unknown if each is that of a field. -/
theorem unknownName?_eq_none
    : unknownName? fields members = none
      ↔ ∀ member ∈ members, ∃ field ∈ fields, IsNamed field member.1 := by
  simp only [unknownName?, List.find?_eq_none, List.forall_mem_map, IsNamed, Bool.not_eq_true',
    Bool.not_eq_false, List.any_eq_true, Bool.or_eq_true, beq_iff_eq]

-----------------------------------------------------------------------------------------
-- Fields of messages
-----------------------------------------------------------------------------------------

/-- An object has nothing for a field, or null. -/
def LeftOut (members : List (String × Json)) (field : FieldSchema) : Prop :=
  ∀ payload, memberFor? field members = some payload → payload = .null

/-- A message holds what the members of an object give to some fields, in the order of the fields.
-/
inductive FieldsRead (members : List (String × Json)) (path : String)
    : List FieldSchema → MessageValue → Prop
  | nil : FieldsRead members path [] []
  | skip {field : FieldSchema} {fields : List FieldSchema} {message : MessageValue}
      (leftOut : LeftOut members field) (rest : FieldsRead members path fields message)
    : FieldsRead members path (field :: fields) message
  | set {field : FieldSchema} {fields : List FieldSchema} {payload : Json} {value : Value}
      {message : MessageValue} (given : memberFor? field members = some payload)
      (present : payload ≠ .null)
      (read : readField field payload (path ++ "." ++ field.jsonName) = .ok value)
      (rest : FieldsRead members path fields message)
    : FieldsRead members path (field :: fields) ((field.number, value) :: message)

namespace FieldsRead

/-- A field that is left out adds nothing to a message. -/
theorem skip_iff (leftOut : LeftOut members field)
    : FieldsRead members path (field :: fields) message
      ↔ FieldsRead members path fields message := by
  constructor
  · rintro (_ | ⟨_, rest⟩ | ⟨given, present, _, _⟩)
    · exact rest
    · exact absurd (leftOut _ given) present
  · exact .skip leftOut

/-- A field that is given comes first with the value that is read for it. -/
theorem set_iff (given : memberFor? field members = some payload) (present : payload ≠ .null)
    : FieldsRead members path (field :: fields) message
      ↔ ∃ value others,
          readField field payload (path ++ "." ++ field.jsonName) = .ok value
          ∧ message = (field.number, value) :: others
          ∧ FieldsRead members path fields others := by
  constructor
  · rintro (_ | ⟨leftOut, _⟩ | ⟨again, _, read, rest⟩)
    · exact absurd (leftOut _ given) present
    · cases given.symm.trans again
      exact ⟨_, _, read, rfl, rest⟩
  · rintro ⟨value, others, read, rfl, rest⟩
    exact .set given present read rest

/-- What an object has for a field is read into it. -/
theorem held (h : FieldsRead members path fields message) (declared : field ∈ fields)
    (given : memberFor? field members = some payload) (present : payload ≠ .null)
    : ∃ value,
        readField field payload (path ++ "." ++ field.jsonName) = .ok value
        ∧ (field.number, value) ∈ message := by
  induction h with
  | nil => cases declared
  | skip leftOut _ ih =>
      rcases List.mem_cons.mp declared with rfl | later
      · exact absurd (leftOut _ given) present
      · exact ih later
  | set again _ read _ ih =>
      rcases List.mem_cons.mp declared with rfl | later
      · cases given.symm.trans again
        exact ⟨_, read, List.mem_cons_self ..⟩
      · obtain ⟨value, read, inside⟩ := ih later
        exact ⟨value, read, List.mem_cons_of_mem _ inside⟩

/-- A field is set only because an object has something for it. -/
theorem given (h : FieldsRead members path fields message) {pair : UInt32 × Value}
    (inside : pair ∈ message)
    : ∃ field ∈ fields, ∃ payload,
        field.number = pair.1 ∧ memberFor? field members = some payload ∧ payload ≠ .null := by
  induction h with
  | nil => cases inside
  | skip _ _ ih =>
      obtain ⟨field, later, found⟩ := ih inside
      exact ⟨field, List.mem_cons_of_mem _ later, found⟩
  | set given present _ _ ih =>
      rcases List.mem_cons.mp inside with rfl | later
      · exact ⟨_, List.mem_cons_self .., _, rfl, given, present⟩
      · obtain ⟨field, later, found⟩ := ih later
        exact ⟨field, List.mem_cons_of_mem _ later, found⟩

end FieldsRead

-----------------------------------------------------------------------------------------
-- Reading
-----------------------------------------------------------------------------------------

/-- Fields with numbers of their own are set after those that are set already, by induction on the
fields. -/
theorem readFields_eq_ok {before after : MessageValue}
    (distinct : (before.map Prod.fst ++ fields.map (·.number)).Nodup)
    : readFields fields members path before = .ok after
      ↔ ∃ added, after = before ++ added ∧ FieldsRead members path fields added := by
  induction fields generalizing before with
  | nil =>
      rw [readFields]
      constructor
      · rintro ⟨⟩
        exact ⟨[], (List.append_nil _).symm, .nil⟩
      · rintro ⟨added, rfl, ⟨⟩⟩
        rw [List.append_nil]
  | cons field rest ih =>
      have fewer : (before.map Prod.fst ++ rest.map (·.number)).Nodup :=
        distinct.sublist (List.Sublist.append_left (List.sublist_cons_self _ _) _)
      rw [readFields]
      split
      · rename_i absent
        have leftOut : LeftOut members field := by simp [LeftOut, absent]
        simp only [ih fewer, FieldsRead.skip_iff leftOut]
      · rename_i null
        have leftOut : LeftOut members field := by simp [LeftOut, null]
        simp only [ih fewer, FieldsRead.skip_iff leftOut]
      · rename_i payload present given
        have fresh : field.number ∉ before.map Prod.fst := fun set =>
          (List.nodup_append.mp distinct).2.2 _ set _ (List.mem_cons_self ..) rfl
        have more (value : Value)
            : ((before ++ [(field.number, value)]).map Prod.fst ++ rest.map (·.number)).Nodup := by
          simpa using distinct
        simp only [bind_eq_ok, MessageValue.set_eq_append fresh, ih (more _),
          FieldsRead.set_iff given present]
        constructor
        · rintro ⟨value, read, added, rfl, others⟩
          exact ⟨(field.number, value) :: added, by simp, value, added, read, rfl, others⟩
        · rintro ⟨_, rfl, value, added, read, rfl, others⟩
          exact ⟨value, read, added, by simp, others⟩

/-- An object gives a message if some field has each of its names and every field can be read. -/
theorem readMessage_object_eq_ok {schema : MessageSchema}
    (distinct : (schema.fields.map (·.number)).Nodup)
    : readMessage schema (.object members) path = .ok message
      ↔ unknownName? schema.fields members = none
        ∧ FieldsRead members path schema.fields message := by
  obtain ⟨fullName, ident, fields, isMapEntry⟩ := schema
  rw [readMessage.eq_def]
  dsimp only
  split
  · rename_i unknown
    simp [unknown]
  · rename_i known
    have all
        : readFields fields members path [] = .ok message
          ↔ ∃ added, message = [] ++ added ∧ FieldsRead members path fields added :=
      readFields_eq_ok distinct
    simpa [known] using all

-----------------------------------------------------------------------------------------
-- Single values and lists
-----------------------------------------------------------------------------------------

/-- A field that is neither a map nor a list holds a single value. -/
theorem readField_eq_readSingle (notMap : ¬field.isMap) (notList : ¬field.isList)
    : readField field payload path
      = readSingle field.name field.kind field.enumType field.message payload path := by
  obtain ⟨⟩ := field
  rw [readField.eq_def]
  dsimp only at *
  rw [if_neg notMap, if_neg notList]

/-- A list is read from an array item by item. -/
theorem readField_array_eq_ok {items : List Json} {result : Value} (notMap : ¬field.isMap)
    (isList : field.isList)
    : readField field (.array items) path = .ok result
      ↔ ∃ values,
          List.Forall₂
            (fun item value =>
              readSingle field.name field.kind field.enumType field.message item.1
                s!"{path}[{item.2}]" = .ok value)
            items.zipIdx values
          ∧ .list values = result := by
  obtain ⟨⟩ := field
  rw [readField.eq_def]
  dsimp only at *
  rw [if_neg notMap, if_pos isList]
  simp only [bind_eq_ok, pure_eq_ok, mapM_eq_ok]

/-- A single message is read as a message. -/
theorem readSingle_message {schema : MessageSchema}
    (kind : field.kind = .message ∨ field.kind = .group) (found : field.message = some schema)
    : readSingle field.name field.kind field.enumType field.message payload path
      = (readMessage schema payload path).map .message := by
  rw [readSingle.eq_def, found]
  rcases kind with kind | kind <;> rw [kind]

end GrpcMock.Payload
