import GrpcMock.Schema.Package
import Mathlib.Data.List.Nodup

/-!
Schemas that fit together. The fields of a message can be told apart, each carries the schema that
its kind asks for, and a package holds every schema that something in it refers to.
-/

namespace GrpcMock

/-- A field with a number that is allowed, and with the schema of an enum or of a message just if
its kind asks for one. -/
structure FieldSchema.WellFormed (field : FieldSchema) : Prop where
  number : 1 ≤ field.number.toNat ∧ field.number.toNat ≤ 536870911
  unreserved : ¬(19000 ≤ field.number.toNat ∧ field.number.toNat ≤ 19999)
  enumType : field.kind = .enum ↔ field.enumType.isSome
  message : field.kind = .message ∨ field.kind = .group ↔ field.message.isSome

/-- A message with fields that have a name and a number of their own. -/
structure MessageSchema.WellFormed (message : MessageSchema) : Prop where
  names : (message.fields.map (·.name)).Nodup
  numbers : (message.fields.map (·.number)).Nodup
  fields : ∀ field ∈ message.fields, FieldSchema.WellFormed field

/-- A package in which every full name has one entry, and everything referred to is an entry. -/
structure Package.WellFormed (package : Package) : Prop where
  fullNames
    : (package.messages.map (·.fullName) ++ package.enums.map (·.fullName)).Nodup
  messages : ∀ message ∈ package.messages, message.WellFormed
  nested
    : ∀ message ∈ package.messages,
      ∀ field ∈ message.fields,
      ∀ nested, field.message = some nested → nested ∈ package.messages
  enumTypes
    : ∀ message ∈ package.messages,
      ∀ field ∈ message.fields,
      ∀ enum, field.enumType = some enum → enum ∈ package.enums
  methods
    : ∀ service ∈ package.services,
      ∀ method ∈ service.methods,
        method.input ∈ package.messages ∧ method.output ∈ package.messages

/-- What is found by a number is a field of the message with that number. -/
theorem MessageSchema.mem_of_fieldNumbered? {message : MessageSchema} {number : UInt32}
    {field : FieldSchema} (found : message.fieldNumbered? number = some field)
    : field ∈ message.fields ∧ field.number = number :=
  ⟨List.mem_reverse.mp (List.mem_of_find?_eq_some found), by simpa using List.find?_some found⟩

/-- A field is found by its number. -/
theorem MessageSchema.WellFormed.fieldNumbered? {message : MessageSchema} {field : FieldSchema}
    (h : message.WellFormed) (declared : field ∈ message.fields)
    : message.fieldNumbered? field.number = some field := by
  cases found : message.fieldNumbered? field.number with
  | none =>
      have missed := List.find?_eq_none.mp found field (List.mem_reverse.mpr declared)
      simp at missed
  | some other =>
      obtain ⟨inside, same⟩ := MessageSchema.mem_of_fieldNumbered? found
      rw [List.inj_on_of_nodup_map h.numbers inside declared same]

/-- The fields for the entries of a map are those of its entry message. -/
theorem FieldSchema.entryFields?_mem {field key value : FieldSchema}
    (found : field.entryFields? = some (key, value))
    : ∃ schema, field.message = some schema ∧ key ∈ schema.fields ∧ value ∈ schema.fields := by
  unfold entryFields? at found
  split at found
  · rename_i entry
    cases found
    exact ⟨_, entry, by simp, by simp⟩
  · cases found

namespace Package

variable {package : Package} {field : FieldSchema}

/-- A field of one of the messages of a package. -/
def HasField (package : Package) (field : FieldSchema) : Prop :=
  ∃ message ∈ package.messages, field ∈ message.fields

/-- The fields in a well-formed package are well-formed. -/
theorem HasField.wellFormed (inside : package.HasField field) (h : package.WellFormed)
    : FieldSchema.WellFormed field := by
  obtain ⟨message, member, declared⟩ := inside
  exact (h.messages message member).fields field declared

/-- The message in the schema of a field belongs to the package. -/
theorem HasField.message_mem {nested : MessageSchema} (inside : package.HasField field)
    (h : package.WellFormed) (found : field.message = some nested)
    : nested ∈ package.messages := by
  obtain ⟨message, member, declared⟩ := inside
  exact h.nested message member field declared nested found

/-- So does the enum. -/
theorem HasField.enum_mem {enum : EnumSchema} (inside : package.HasField field)
    (h : package.WellFormed) (found : field.enumType = some enum)
    : enum ∈ package.enums := by
  obtain ⟨message, member, declared⟩ := inside
  exact h.enumTypes message member field declared enum found

/-- The fields for the entries of a map are fields of a message of the package as well. -/
theorem HasField.entry {key value : FieldSchema} (inside : package.HasField field)
    (h : package.WellFormed) (found : field.entryFields? = some (key, value))
    : package.HasField key ∧ package.HasField value := by
  obtain ⟨schema, entry, keyDeclared, valueDeclared⟩ := FieldSchema.entryFields?_mem found
  have member := inside.message_mem h entry
  exact ⟨⟨schema, member, keyDeclared⟩, ⟨schema, member, valueDeclared⟩⟩

end Package

end GrpcMock
