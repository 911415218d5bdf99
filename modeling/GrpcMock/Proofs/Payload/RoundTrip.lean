import GrpcMock.Proofs.Payload.Conformance
import GrpcMock.Proofs.Payload.Encoding
import GrpcMock.Proofs.Payload.Entries
import GrpcMock.Proofs.Payload.Fields
import GrpcMock.Proofs.Proto.Identifiers
import Mathlib.Data.List.Pairwise
import Mathlib.Data.List.Perm.Basic

/-!
Reading undoes writing. Where the fields of every message can be told apart by their JSON names, the
payload that is written for a value is read back as that value.
-/

namespace GrpcMock

namespace MessageSchema

/-- A schema is another one, or that of a message at some depth in it. -/
inductive Contains : MessageSchema → MessageSchema → Prop
  | self {schema : MessageSchema} : Contains schema schema
  | nested {outer middle inner : MessageSchema} {field : FieldSchema}
      (declared : field ∈ outer.fields) (found : field.message = some middle)
      (inside : Contains middle inner)
    : Contains outer inner

/-- No field has a JSON name that is the JSON name or the own name of another field. -/
def NamesApart (schema : MessageSchema) : Prop :=
  ∀ field ∈ schema.fields,
  ∀ other ∈ schema.fields,
    field.jsonName = other.jsonName ∨ field.jsonName = other.name → field = other

/-- That holds of a schema and of all that it contains. -/
def NamesApartWithin (schema : MessageSchema) : Prop :=
  ∀ inner, schema.Contains inner → inner.NamesApart

/-- What can be told apart within a message can be within the messages of its fields. -/
theorem NamesApartWithin.nested {schema inner : MessageSchema} {field : FieldSchema}
    (h : schema.NamesApartWithin) (declared : field ∈ schema.fields)
    (found : field.message = some inner)
    : inner.NamesApartWithin :=
  fun deeper inside => h deeper (.nested declared found inside)

/-- Conversely, it can be within a message if it can be in itself and within those. -/
theorem NamesApartWithin.of_nested {schema : MessageSchema} (here : schema.NamesApart)
    (nested
      : ∀ field ∈ schema.fields,
        ∀ inner, field.message = some inner → inner.NamesApartWithin)
    : schema.NamesApartWithin
  | _, .self => here
  | inner, .nested declared found inside => nested _ declared _ found inner inside

/-- Fields can be told apart if each two of them can. -/
theorem NamesApart.of_pairwise {schema : MessageSchema}
    (h
      : schema.fields.Pairwise fun left right =>
          left.jsonName ≠ right.jsonName
          ∧ left.jsonName ≠ right.name
          ∧ right.jsonName ≠ left.name)
    : schema.NamesApart := by
  intro field declared other declaredToo shared
  by_contra differs
  have symmetric
      : Std.Symm fun left right : FieldSchema =>
          left.jsonName ≠ right.jsonName
          ∧ left.jsonName ≠ right.name
          ∧ right.jsonName ≠ left.name :=
    ⟨fun _ _ both => ⟨Ne.symm both.1, both.2.2, both.2.1⟩⟩
  have apart := h.forall declared declaredToo differs
  exact shared.elim apart.1 apart.2.1

end MessageSchema

namespace Payload

-----------------------------------------------------------------------------------------
-- Members of objects
-----------------------------------------------------------------------------------------

/-- Nothing that conforms is written as null. -/
theorem encode_ne_null {field : FieldSchema} {value : Value} (h : ConformingField field value)
    : encode field value ≠ .null := by
  cases h with
  | map _ entry => simp [encode, entry]
  | list => simp [encode]
  | single _ _ conforms =>
      cases conforms with
      | message _ found => simp [encode, found]
      | enum _ found member =>
          obtain ⟨_, listed⟩ := Option.isSome_iff_exists.mp member
          simp [encode, encodeMember, found, listed]
      | scalar fits =>
          cases value with
          | enum | message | list | map => cases fits
          | _ => simp [encode]

section Members

variable {schema : MessageSchema} {message : MessageValue}

/-- The members for a message are those of its fields that the schema has. -/
theorem mem_encodeFields {member : String × Json}
    : member ∈ encodeFields schema message
      ↔ ∃ number value field,
          (number, value) ∈ message
          ∧ schema.fieldNumbered? number = some field
          ∧ (field.jsonName, encode field value) = member := by
  simp only [encodeFields_eq, List.mem_filterMap, Option.map_eq_some_iff, Prod.exists,
    exists_and_left]

/-- The names in an object that is written are those of different fields. -/
theorem encodeFields_nodup (apart : schema.NamesApart) (distinct : (message.map Prod.fst).Nodup)
    : ((encodeFields schema message).map Prod.fst).Nodup := by
  have names
      : (encodeFields schema message).map Prod.fst
        = (message.map Prod.fst).filterMap fun number =>
            (schema.fieldNumbered? number).map (·.jsonName) := by
    rw [encodeFields_eq, List.map_filterMap, List.filterMap_map]
    simp only [Option.map_map, Function.comp_def]
  rw [names]
  refine distinct.filterMap fun left right name hl hr => ?_
  obtain ⟨field, found, rfl⟩ := Option.map_eq_some_iff.mp hl
  obtain ⟨other, foundToo, same⟩ := Option.map_eq_some_iff.mp hr
  obtain ⟨declared, rfl⟩ := MessageSchema.mem_of_fieldNumbered? found
  obtain ⟨declaredToo, rfl⟩ := MessageSchema.mem_of_fieldNumbered? foundToo
  rw [apart other declaredToo field declared (.inl same)]

/-- An object that is written has for a field what the field holds. -/
theorem memberFor?_encodeFields (wellFormed : schema.WellFormed) (apart : schema.NamesApart)
    (distinct : (message.map Prod.fst).Nodup) {field : FieldSchema}
    (declared : field ∈ schema.fields)
    : memberFor? field (Sorted.ofList (encodeFields schema message))
      = (Sorted.find? field.number message).map (encode field) := by
  have sorted := Sorted.ofList_perm (encodeFields_nodup apart distinct)
  cases held : Sorted.find? field.number message with
  | some value =>
      have names := ((sorted.map Prod.fst).nodup_iff).mpr (encodeFields_nodup apart distinct)
      refine memberFor?_of_jsonName names (sorted.mem_iff.mpr (mem_encodeFields.mpr ?_))
      exact ⟨_, value, field, Sorted.mem_of_find? held, wellFormed.fieldNumbered? declared, rfl⟩
  | none =>
      cases given : memberFor? field (Sorted.ofList (encodeFields schema message)) with
      | none => rfl
      | some payload =>
          obtain ⟨name, inside, goesBy⟩ := exists_member_of_memberFor? given
          obtain ⟨number, value, other, set, found, same⟩ :=
            mem_encodeFields.mp (sorted.mem_iff.mp inside)
          obtain ⟨declaredToo, rfl⟩ := MessageSchema.mem_of_fieldNumbered? found
          cases same
          have same : other = field := by
            rcases goesBy with shared | shared
            · exact (apart field declared other declaredToo (.inl shared)).symm
            · exact apart other declaredToo field declared (.inr shared.symm)
          exact absurd (List.mem_map_of_mem (same ▸ set)) (Sorted.find?_eq_none.mp held)

/-- An object that is written is read as the message if its fields are. -/
theorem readMessage_encodeFields {path : String} (wellFormed : schema.WellFormed)
    (apart : schema.NamesApart) (distinct : (message.map Prod.fst).Nodup)
    (read
      : FieldsRead (Sorted.ofList (encodeFields schema message)) path schema.fields message)
    : readMessage schema (.object (Sorted.ofList (encodeFields schema message))) path
      = .ok message := by
  have sorted := Sorted.ofList_perm (encodeFields_nodup apart distinct)
  refine (readMessage_object_eq_ok wellFormed.numbers).mpr
    ⟨unknownName?_eq_none.mpr fun member inside => ?_, read⟩
  obtain ⟨_, _, field, _, found, rfl⟩ := mem_encodeFields.mp (sorted.mem_iff.mp inside)
  exact ⟨field, (MessageSchema.mem_of_fieldNumbered? found).1, .inl rfl⟩

end Members

-----------------------------------------------------------------------------------------
-- Fields
-----------------------------------------------------------------------------------------

section Fields

variable {field : FieldSchema}

/-- A payload is read as a single value of a field. -/
def ReadsAs (field : FieldSchema) (payload : Json) (value : Value) : Prop :=
  ∀ path, readSingle field.name field.kind field.enumType field.message payload path = .ok value

/-- A field that is no list and no map is read as its single value. -/
theorem readField_single {payload : Json} {value : Value} (notMap : ¬field.isMap)
    (notList : ¬field.isList) (read : ReadsAs field payload value) (path : String)
    : readField field payload path = .ok value := by
  rw [readField_eq_readSingle notMap notList]
  exact read path

/-- A list is read if its items are, one by one. -/
theorem readField_list {payloads : List Json} {values : List Value} (notMap : ¬field.isMap)
    (isList : field.isList) (read : List.Forall₂ (ReadsAs field) payloads values) (path : String)
    : readField field (.array payloads) path = .ok (.list values) := by
  refine (readField_array_eq_ok notMap isList).mpr ⟨values, ?_, rfl⟩
  exact (read.zipIdx 0).imp fun {item _} single => single _

/-- A map is read if the keys and values of its entries are, and comes in the order of the keys. -/
theorem readField_map {key value : FieldSchema} {members : List (String × Json)}
    {entries : MapValue} (isMap : field.isMap) (entry : field.entryFields? = some (key, value))
    (read
      : List.Forall₂
          (fun member pair =>
            readKey key.kind member.1 = .ok pair.1 ∧ ReadsAs value member.2 pair.2)
          members entries)
    (path : String)
    : readField field (.object members) path = .ok (.map (Sorted.ofList entries)) := by
  refine (readField_object_eq_ok isMap).mpr ⟨key, value, entries, entry, ?_, rfl⟩
  refine read.imp fun {member pair} both => readEntry_eq_ok.mpr ⟨readKey_eq_ok.mp both.1, ?_⟩
  exact readEntryValue_eq_readSingle.trans (both.2 _)

/-- A message is a single value of the fields that hold it. -/
theorem readsAs_message {schema : MessageSchema} {payload : Json} {message : MessageValue}
    (kind : field.kind = .message ∨ field.kind = .group) (found : field.message = some schema)
    (read : ∀ path, readMessage schema payload path = .ok message)
    : ReadsAs field payload (.message message) := by
  intro path
  rw [readSingle_message kind found]
  exact map_eq_ok.mpr ⟨message, read path, rfl⟩

/-- So is a member of an enum. -/
theorem readsAs_enum {enum : EnumSchema} {payload : Json} {ordinal : Int32}
    (kind : field.kind = .enum) (found : field.enumType = some enum)
    (read : readMember enum payload = .ok ordinal)
    : ReadsAs field payload (.enum ordinal) := by
  intro path
  rw [readSingle.eq_def, kind, found]
  exact map_eq_ok.mpr ⟨ordinal, atPath_eq_ok.mpr read, rfl⟩

/-- So is a scalar of the kind of its field. -/
theorem readsAs_scalar {payload : Json} {value : Value} (fits : value.isOf field.kind)
    (read : readScalar field.kind payload = .ok value)
    : ReadsAs field payload value := by
  intro path
  obtain ⟨notMessage, notGroup, notEnum⟩ := Value.kind_of_isOf fits
  rw [readSingle.eq_def]
  dsimp only
  split
  · exact absurd ‹_› notMessage
  · exact absurd ‹_› notGroup
  · exact absurd ‹_› notEnum
  · exact atPath_eq_ok.mpr read

end Fields

-----------------------------------------------------------------------------------------
-- Values
-----------------------------------------------------------------------------------------

/-- The members of an object that is written for a map are read as the entries of the map. -/
theorem readField_encodeEntries {field key value : FieldSchema} {entries : MapValue}
    (isMap : field.isMap) (entry : field.entryFields? = some (key, value))
    (ascending : Sorted.Ascending entries) (keys : ∀ pair ∈ entries, pair.1.isOf key.kind)
    (values : ∀ pair ∈ entries, ReadsAs value (encode value pair.2) pair.2) (path : String)
    : readField field (.object (Sorted.ofList (encodeEntries value entries))) path
      = .ok (.map entries) := by
  have each
      : List.Forall₂
          (fun member pair =>
            readKey key.kind member.1 = .ok pair.1 ∧ ReadsAs value member.2 pair.2)
          (encodeEntries value entries) entries := by
    rw [encodeEntries_eq, List.forall₂_map_left_iff, List.forall₂_same]
    exact fun pair member => ⟨readKey_keyText (keys pair member), values pair member⟩
  have distinct : ((encodeEntries value entries).map Prod.fst).Nodup := by
    have texts
        : (encodeEntries value entries).map Prod.fst = (entries.map Prod.fst).map keyText := by
      rw [encodeEntries_eq, List.map_map, List.map_map]
      rfl
    rw [texts]
    refine ascending.nodup.map_on fun left hl right hr same => ?_
    obtain ⟨pair, member, rfl⟩ := List.mem_map.mp hl
    obtain ⟨other, memberToo, rfl⟩ := List.mem_map.mp hr
    have read := readKey_keyText (keys pair member)
    rw [same, readKey_keyText (keys other memberToo)] at read
    exact (Except.ok.inj read).symm
  -- the object has its members in the order of their names, not in that of the keys
  obtain ⟨arranged, read, rearranged⟩ :=
    List.perm_comp_forall₂ (Sorted.ofList_perm distinct) each
  rw [readField_map isMap entry read, Sorted.ofList_eq_of_perm ascending rearranged]

variable {package : Package}

mutual
/-- A field is read back from what is written for it, by induction on why its value conforms. -/
theorem readField_encode (wellFormed : package.WellFormed) (named : package.Named)
    {field : FieldSchema} {value : Value}
    : ConformingField field value
      → package.HasField field
      → (∀ nested, field.message = some nested → nested.NamesApartWithin)
      → ¬value.HoldsFloat
      → ∀ path, readField field (encode field value) path = .ok value
  | @ConformingField.map _ key value entries isMap entry ascending keys values, inside, apart,
      floatFree, path => by
      have nested : ∀ inner, value.message = some inner → inner.NamesApartWithin := by
        obtain ⟨schema, found, _, declared⟩ := FieldSchema.entryFields?_mem entry
        exact fun _ deeper => (apart schema found).nested declared deeper
      have single (pair : MapKey × Value) (member : pair ∈ entries)
          : ReadsAs value (encode value pair.2) pair.2 :=
        readSingle_encode wellFormed named (values pair member) (inside.entry wellFormed entry).2
          nested fun float => floatFree (.map member float)
      rw [encode, entry]
      exact readField_encodeEntries isMap entry ascending keys single path
  | @ConformingField.list _ items notMap isList each, inside, apart, floatFree, path => by
      have single (item : Value) (member : item ∈ items)
          : ReadsAs field (encode field item) item :=
        readSingle_encode wellFormed named (each item member) inside apart
          fun float => floatFree (.list member float)
      rw [encode, encodeItems_eq]
      refine readField_list notMap isList ?_ path
      exact List.forall₂_map_left_iff.mpr (List.forall₂_same.mpr single)
  | .single notMap notList conforms, inside, apart, floatFree, path =>
      readField_single notMap notList
        (readSingle_encode wellFormed named conforms inside apart floatFree) path

/-- A single value is read back from its payload, by induction on how it fits its field. -/
theorem readSingle_encode (wellFormed : package.WellFormed) (named : package.Named)
    {field : FieldSchema} {value : Value}
    : ConformingValue field value
      → package.HasField field
      → (∀ nested, field.message = some nested → nested.NamesApartWithin)
      → ¬value.HoldsFloat
      → ReadsAs field (encode field value) value
  | @ConformingValue.message _ schema message kind found fields, inside, apart, floatFree => by
      have member := inside.message_mem wellFormed found
      have schemaWellFormed := wellFormed.messages schema member
      have apartWithin := apart schema found
      rw [encode, found]
      refine readsAs_message kind found fun path => ?_
      refine readMessage_encodeFields schemaWellFormed (apartWithin schema .self) fields.nodup ?_
      exact fieldsRead_encode wellFormed named member apartWithin fields (List.Subset.refl _)
        schemaWellFormed.numbers
        (fun _ => memberFor?_encodeFields schemaWellFormed (apartWithin schema .self) fields.nodup)
        (fun _ inside float => floatFree (.message inside float)) path
  | .enum kind found member, inside, apart, floatFree => by
      have names := (named.enums _ (inside.enum_mem wellFormed found)).names
      rw [encode, found]
      exact readsAs_enum kind found (readMember_encodeMember names member)
  | .scalar fits, inside, apart, floatFree => readsAs_scalar fits (readScalar_encode fits floatFree)

/-- The fields of a message are read back one by one, from the members under their JSON names. -/
theorem fieldsRead_encode (wellFormed : package.WellFormed) (named : package.Named)
    {schema : MessageSchema} (member : schema ∈ package.messages)
    (apart : schema.NamesApartWithin) {members : List (String × Json)}
    {fields : List FieldSchema} {message : MessageValue}
    : ConformingFields fields message
      → fields ⊆ schema.fields
      → (fields.map (·.number)).Nodup
      → (∀ field ∈ fields,
          memberFor? field members = (Sorted.find? field.number message).map (encode field))
      → (∀ pair ∈ message, ¬pair.2.HoldsFloat)
      → ∀ path, FieldsRead members path fields message
  | .nil, _, _, _, _, _ => .nil
  | @ConformingFields.skip field _ message rest, included, distinct, given, floatFree, path => by
      rw [List.map_cons, List.nodup_cons] at distinct
      rw [List.forall_mem_cons] at given
      have unset : Sorted.find? field.number message = none :=
        Sorted.find?_eq_none.mpr fun set => distinct.1 (rest.numbers.subset set)
      have leftOut : LeftOut members field := by simp [LeftOut, given.1, unset]
      exact .skip leftOut (fieldsRead_encode wellFormed named member apart rest
        (List.subset_of_cons_subset included) distinct.2 given.2 floatFree path)
  | @ConformingFields.set field fields value message first _ rest, included, distinct, given,
      floatFree, path => by
      rw [List.map_cons, List.nodup_cons] at distinct
      rw [List.forall_mem_cons] at given floatFree
      have declared := included (List.mem_cons_self ..)
      have here : memberFor? field members = some (encode field value) := by
        rw [given.1, Sorted.find?, if_pos rfl, Option.map_some]
      have others : ∀ other ∈ fields,
          memberFor? other members = (Sorted.find? other.number message).map (encode other) := by
        intro other later
        have differs : other.number ≠ field.number := fun same =>
          distinct.1 (same ▸ List.mem_map_of_mem later)
        rw [given.2 other later, Sorted.find?, if_neg differs]
      have read := readField_encode wellFormed named first ⟨schema, member, declared⟩
        (fun _ found => apart.nested declared found) floatFree.1
      exact .set here (encode_ne_null first) (read _) (fieldsRead_encode wellFormed named member
        apart rest (List.subset_of_cons_subset included) distinct.2 others floatFree.2 path)
end

/-- A message that conforms to its schema and holds no float is read back from what is written for
it, if the names of fields can be told apart in the schema and in every message within. -/
theorem readMessage_encodeMessage {text : String} {package : Package} {schema : MessageSchema}
    {message : MessageValue} (compiled : Proto.compile text = .ok package)
    (member : schema ∈ package.messages) (apart : schema.NamesApartWithin)
    (conforms : schema.Accepts message) (floatFree : ¬(Value.message message).HoldsFloat)
    (path : String)
    : readMessage schema (encodeMessage schema message) path = .ok message := by
  have wellFormed := Proto.compile_wellFormed compiled
  have schemaWellFormed := wellFormed.messages schema member
  refine readMessage_encodeFields schemaWellFormed (apart schema .self) conforms.nodup ?_
  exact fieldsRead_encode wellFormed (Proto.compile_named compiled) member apart conforms
    (List.Subset.refl _) schemaWellFormed.numbers
    (fun _ => memberFor?_encodeFields schemaWellFormed (apart schema .self) conforms.nodup)
    (fun _ inside float => floatFree (.message inside float)) path

/-- The parcel holds no floating-point number. -/
theorem parcel_floatFree : ¬(Value.message parcelMessage).HoldsFloat := by
  simp only [parcelMessage, Value.holdsFloat_message, Value.holdsFloat_list,
    Value.holdsFloat_map, List.mem_cons, List.not_mem_nil, or_false, exists_eq_or_imp,
    exists_eq_left, not_or]
  exact ⟨⟨nofun, nofun⟩, nofun, nofun⟩

/-- The fields of the parcel can be told apart, and so can those of its items and entries. -/
theorem parcel_namesApart : parcelSchema.NamesApartWithin := by
  have item : itemSchema.NamesApartWithin := by
    refine .of_nested (.of_pairwise (by decide +kernel)) ?_
    simp [itemSchema, FieldSchema.single]
  have entry : itemsEntrySchema.NamesApartWithin := by
    refine .of_nested (.of_pairwise (by decide +kernel)) ?_
    simp [itemsEntrySchema, FieldSchema.single, item]
  refine .of_nested (.of_pairwise (by decide +kernel)) ?_
  simp [parcelSchema, FieldSchema.single, entry]

/-- What is written for a parcel is not what it was read from: a size is written by its name. -/
theorem readMessage_encodeMessage_parcel
    : Proto.compile parcelText = .ok parcelPackage
      ∧ parcelSchema ∈ parcelPackage.messages
      ∧ parcelSchema.NamesApartWithin
      ∧ parcelSchema.Accepts parcelMessage
      ∧ ¬(Value.message parcelMessage).HoldsFloat
      ∧ readMessage parcelSchema (encodeMessage parcelSchema parcelMessage) "request"
        = .ok parcelMessage := by
  have conforms : parcelSchema.Accepts parcelMessage :=
    readMessage_conforms (Proto.compile_wellFormed compile_parcel) parcelSchema mem_parcelPackage
      readMessage_parcel
  exact ⟨compile_parcel, mem_parcelPackage, parcel_namesApart, conforms, parcel_floatFree,
    readMessage_encodeMessage compile_parcel mem_parcelPackage parcel_namesApart conforms
      parcel_floatFree "request"⟩

end Payload

end GrpcMock
