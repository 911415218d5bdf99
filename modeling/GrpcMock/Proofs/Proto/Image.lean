import GrpcMock.Proofs.Lists
import GrpcMock.Proofs.Proto.Linking
import GrpcMock.Proofs.Schema.WellFormed

/-!
The package that an accepted file gives. It is an image of the file, definition by definition,
field by field and method by method, and it is closed: what a schema in it refers to is one of its
entries.
-/

namespace GrpcMock.Proto

-----------------------------------------------------------------------------------------
-- Images of what a file declares
-----------------------------------------------------------------------------------------

/-- The schema of a field is of the kind of a scalar type, or carries the schema of the message or
the enum that its type is. -/
def File.LinkedTo (file : File) (schema : FieldSchema) : Target → Prop
  | .scalar kind => schema.kind = kind
  | .definition target =>
      match target.kind with
      | .message =>
          ∃ nested,
            schema.message = some nested
            ∧ nested.fullName = Package.qualify file.package target.name
      | .enum =>
          ∃ enum,
            schema.enumType = some enum
            ∧ enum.fullName = Package.qualify file.package target.name

/-- The schema of a field has the name and the number that the field declares, and is linked to what
its type resolves to in the message. -/
structure File.FieldImage (file : File) (message : Definition) (field : Field)
    (schema : FieldSchema)
    : Prop where
  name : schema.name = field.name
  number : (schema.number.toNat : Int) = field.number.toInt
  linked
    : ∃ target,
        file.resolve message.name (field.type.getD "") = some target
        ∧ file.LinkedTo schema target

/-- The schema of a message has its fields, in their order. -/
structure File.MessageImage (file : File) (message : Definition) (schema : MessageSchema)
    : Prop where
  fullName : schema.fullName = Package.qualify file.package message.name
  fields : List.Forall₂ (file.FieldImage message) message.fields schema.fields

/-- A member of an enum has the name and the number that the value declares. -/
structure Field.MemberImage (value : Field) (member : EnumMember) : Prop where
  name : member.name = value.name
  number : member.number = value.number

/-- The schema of an enum has its values as members, in their order. -/
structure File.EnumImage (file : File) (enum : Definition) (schema : EnumSchema) : Prop where
  fullName : schema.fullName = Package.qualify file.package enum.name
  members : List.Forall₂ Field.MemberImage enum.fields schema.members

/-- A schema is that of the message which a name refers to in the scope of the file. -/
def File.MessageNamed (file : File) (name : String) (schema : MessageSchema) : Prop :=
  ∃ message,
    file.resolveMessage? name = some message
    ∧ schema.fullName = Package.qualify file.package message.name

/-- The schema of a method takes and returns the messages that it declares. -/
structure File.MethodImage (file : File) (method : Rpc) (schema : MethodSchema) : Prop where
  name : schema.name = method.name
  input : file.MessageNamed method.inputType schema.input
  output : file.MessageNamed method.outputType schema.output

/-- The schema of a service has its methods, in their order. -/
structure File.ServiceImage (file : File) (service : Service) (schema : ServiceSchema)
    : Prop where
  name : schema.name = service.name
  fullName : schema.fullName = Package.qualify file.package service.name
  methods : List.Forall₂ file.MethodImage service.methods schema.methods

/-- A package has the name, the messages, the enums and the services of a file, each in the order of
the file. -/
structure File.Image (file : File) (package : Package) : Prop where
  name : package.name = file.package
  messages : List.Forall₂ file.MessageImage file.messages package.messages
  enums : List.Forall₂ file.EnumImage file.enums package.enums
  services : List.Forall₂ file.ServiceImage file.services package.services

-----------------------------------------------------------------------------------------
-- Numbers
-----------------------------------------------------------------------------------------

/-- A number that a field may have is the same one without a sign. -/
theorem NumberAllowed.toNat_eq {number : Int32} (h : NumberAllowed number)
    : (number.toUInt32.toNat : Int) = number.toInt := by
  have positive : 0 ≤ number.toInt := Int32.le_iff_toInt_le.mp (Int32.le_of_lt h.positive)
  rw [Int32.toNat_toUInt32_of_le (Int32.le_of_lt h.positive), Int32.toNatClampNeg]
  exact Int.toNat_of_nonneg positive

/-- A number that is allowed is in the range of numbers for fields. -/
theorem NumberAllowed.range {number : Int32} (h : NumberAllowed number)
    : 1 ≤ number.toUInt32.toNat ∧ number.toUInt32.toNat ≤ 536870911 := by
  have positive : (0 : Int32).toInt < number.toInt := Int32.lt_iff_toInt_lt.mp h.positive
  have small : number.toInt ≤ greatestNumber.toInt := Int32.le_iff_toInt_le.mp h.small
  have same := h.toNat_eq
  simp only [greatestNumber, Int32.reduceToInt] at positive small
  omega

/-- It is outside of those that are reserved. -/
theorem NumberAllowed.outside {number : Int32} (h : NumberAllowed number)
    : ¬(19000 ≤ number.toUInt32.toNat ∧ number.toUInt32.toNat ≤ 19999) := by
  have unreserved := h.unreserved
  have same := h.toNat_eq
  simp only [Int32.le_iff_toInt_le, Int32.reduceToInt] at unreserved
  omega

/-- Numbers of fields stay distinct when they lose their sign. -/
theorem toUInt32_injective : Function.Injective Int32.toUInt32 :=
  fun left right same => by rw [← left.toInt32_toUInt32, same, right.toInt32_toUInt32]

-----------------------------------------------------------------------------------------
-- Fields and messages
-----------------------------------------------------------------------------------------

namespace File

variable {file : File}

/-- The schema of a type is linked to what the type resolves to. -/
theorem DescribesType.linked {message : Definition} {field : Field} {schema : FieldSchema}
    (h : file.DescribesType message field schema)
    : ∃ target,
        file.resolve message.name (field.type.getD "") = some target
        ∧ file.LinkedTo schema target := by
  cases h with
  | scalar resolved => exact ⟨_, resolved, rfl⟩
  | @enum _ enum _ resolved kind =>
      refine ⟨_, resolved, ?_⟩
      rw [LinkedTo, kind]
      exact ⟨_, rfl, rfl⟩
  | message resolved kind described =>
      refine ⟨_, resolved, ?_⟩
      rw [LinkedTo, kind]
      exact ⟨_, rfl, described.fullName⟩

/-- The schema of a field with a number that is allowed is an image of it. -/
theorem DescribesField.image {message : Definition} {field : Field} {schema : FieldSchema}
    (h : file.DescribesField message field schema) (allowed : NumberAllowed field.number)
    : file.FieldImage message field schema := by
  have number : (schema.number.toNat : Int) = field.number.toInt := by
    rw [← allowed.toNat_eq, ← h.number]
  obtain ⟨bare, _, _, described, rfl⟩ := h.exists_bare
  exact ⟨described.name, number, described.linked⟩

/-- The schema of an enum stands in the fields of that kind, and in no others. -/
theorem DescribesType.enumType {message : Definition} {field : Field} {schema : FieldSchema}
    (h : file.DescribesType message field schema)
    : schema.kind = .enum ↔ schema.enumType.isSome := by
  cases h with
  | scalar resolved =>
      have scalar := isScalar_of_ofKeyword? (resolve_scalar resolved)
      simp only [FieldSchema.single, Option.isSome_none, Bool.false_eq_true, iff_false]
      rintro rfl
      cases scalar
  | enum => exact ⟨fun _ => rfl, fun _ => rfl⟩
  | message =>
      simp only [messageField, FieldSchema.single, Option.isSome_none, Bool.false_eq_true,
        iff_false]
      split <;> exact FieldKind.noConfusion

/-- The schema of a message stands in the fields that are messages or groups, and in no others. -/
theorem DescribesType.message_isSome {message : Definition} {field : Field} {schema : FieldSchema}
    (h : file.DescribesType message field schema)
    : schema.kind = .message ∨ schema.kind = .group ↔ schema.message.isSome := by
  cases h with
  | scalar resolved =>
      have scalar := isScalar_of_ofKeyword? (resolve_scalar resolved)
      simp only [FieldSchema.single, Option.isSome_none, Bool.false_eq_true, iff_false]
      rintro (rfl | rfl) <;> cases scalar
  | enum => simp [enumField, FieldSchema.single]
  | message =>
      simp only [messageField, FieldSchema.single, Option.isSome_some, iff_true]
      split
      · exact .inr rfl
      · exact .inl rfl

/-- A schema of a message in a field is that of the message which the type resolves to. -/
theorem DescribesField.nested {message : Definition} {field : Field} {schema : FieldSchema}
    {nested : MessageSchema} (h : file.DescribesField message field schema)
    (found : schema.message = some nested)
    : ∃ target,
        file.resolve message.name (field.type.getD "") = some (.definition target)
        ∧ target.kind = .message
        ∧ file.Describes target nested := by
  obtain ⟨bare, _, _, described, rfl⟩ := h.exists_bare
  cases described with
  | scalar => cases found
  | enum => cases found
  | message resolved kind described =>
      cases found
      exact ⟨_, resolved, kind, described⟩

/-- The enum in the schema of a field is that to which its type refers. -/
theorem DescribesField.enum_eq {message : Definition} {field : Field} {schema : FieldSchema}
    {enum : EnumSchema} (h : file.DescribesField message field schema)
    (found : schema.enumType = some enum)
    : ∃ target,
        file.resolve message.name (field.type.getD "") = some (.definition target)
        ∧ target.kind = .enum
        ∧ enum = file.enumSchema target := by
  obtain ⟨bare, _, _, described, rfl⟩ := h.exists_bare
  cases described with
  | scalar => cases found
  | enum resolved kind =>
      cases found
      exact ⟨_, resolved, kind, rfl⟩
  | message => cases found

/-- The schema of a field with an allowed number is well-formed. -/
theorem DescribesField.wellFormed {message : Definition} {field : Field} {schema : FieldSchema}
    (h : file.DescribesField message field schema) (allowed : NumberAllowed field.number)
    : FieldSchema.WellFormed schema := by
  have range := h.number ▸ allowed.range
  have outside := h.number ▸ allowed.outside
  obtain ⟨bare, _, _, described, rfl⟩ := h.exists_bare
  exact ⟨range, outside, described.enumType, described.message_isSome⟩

/-- The schema of a message that keeps the rules is an image of it. -/
theorem Describes.image {message : Definition} {schema : MessageSchema}
    (h : file.Describes message schema) (allowed : MessageAllowed file message)
    : file.MessageImage message schema :=
  ⟨h.fullName, h.forall₂.imp_of_mem fun field member _ described =>
    described.image (allowed.fields field member).number⟩

/-- The schema of an allowed message is well-formed. -/
theorem Describes.wellFormed {message : Definition} {schema : MessageSchema}
    (h : file.Describes message schema) (allowed : MessageAllowed file message)
    : schema.WellFormed := by
  have image := (h.image allowed).fields
  have names : message.fields.map (·.name) = schema.fields.map (·.name) :=
    image.map_eq fun _ _ same => same.name.symm
  have numbers
      : message.fields.map (fun field => field.number.toUInt32)
        = schema.fields.map (·.number) :=
    h.forall₂.map_eq fun _ _ described => described.number.symm
  refine ⟨names ▸ allowed.names, ?_, fun schema member => ?_⟩
  · have distinct := allowed.numbers.map toUInt32_injective
    rw [List.map_map] at distinct
    exact numbers ▸ distinct
  · obtain ⟨field, inside, described⟩ := h.forall₂.exists_left member
    exact described.wellFormed (allowed.fields field inside).number

-----------------------------------------------------------------------------------------
-- The package
-----------------------------------------------------------------------------------------

/-- The schema of an enum is its image, member by member. -/
theorem enumSchema_image (file : File) (enum : Definition)
    : file.EnumImage enum (file.enumSchema enum) := by
  refine ⟨rfl, ?_⟩
  rw [enumSchema, List.forall₂_map_right_iff, List.forall₂_same]
  exact fun _ _ => ⟨rfl, rfl⟩

/-- A name is qualified by the package in front of it, which takes nothing from it. -/
theorem qualify_injective (package : Option String)
    : Function.Injective (Package.qualify package) := by
  intro left right same
  cases package with
  | none => exact same
  | some package => exact (String.append_right_inj _).mp same

/-- The schema that a name stands for has the full name of its message. -/
theorem DescribesName.named {name : String} {schema : MessageSchema}
    (h : file.DescribesName name schema)
    : file.MessageNamed name schema := by
  obtain ⟨message, resolved, described⟩ := h
  exact ⟨message, resolved, described.fullName⟩

/-- The schema of a method is its image, with what it takes and returns. -/
theorem DescribesMethod.image {method : Rpc} {schema : MethodSchema}
    (h : file.DescribesMethod method schema)
    : file.MethodImage method schema :=
  ⟨h.name, h.input.named, h.output.named⟩

/-- The schema of a service is its image, method by method. -/
theorem DescribesService.image {service : Service} {schema : ServiceSchema}
    (h : file.DescribesService service schema)
    : file.ServiceImage service schema :=
  ⟨h.name, h.fullName, h.methods.imp fun _ _ described => described.image⟩

/-- The package that an accepted file declares is an image of it. -/
theorem Declares.image {package : Package} (h : file.Declares package) (allowed : file.Allowed)
    : file.Image package where
  name := h.name
  messages := by
    refine h.messages.imp_of_mem fun message member schema described => ?_
    obtain ⟨inside, kind⟩ := mem_messages.mp member
    exact described.image (allowed.messages message inside kind)
  enums := by
    rw [h.enums, List.forall₂_map_right_iff, List.forall₂_same]
    exact fun enum _ => file.enumSchema_image enum
  services := h.services.imp fun _ _ described => described.image

/-- The schema of a message of the file is the entry that the package has for it. -/
theorem Declares.message_mem {package : Package} {message : Definition} {schema : MessageSchema}
    (h : file.Declares package) (member : message ∈ file.definitions)
    (kind : message.kind = .message) (described : file.Describes message schema)
    : schema ∈ package.messages := by
  obtain ⟨other, inside, again⟩ := h.messages.exists_right (mem_messages.mpr ⟨member, kind⟩)
  exact described.unique again ▸ inside

/-- A message that a method names is in the package. -/
theorem Declares.name_mem {package : Package} {name : String} {schema : MessageSchema}
    (h : file.Declares package) (described : file.DescribesName name schema)
    : schema ∈ package.messages := by
  obtain ⟨message, resolved, described⟩ := described
  obtain ⟨target, search, isMessage⟩ := Option.bind_eq_some_iff.mp resolved
  obtain ⟨rfl, kind⟩ := Target.message?_eq_some.mp isMessage
  exact h.message_mem (resolve_mem search) kind described

/-- Each definition is a message or an enum. -/
theorem messages_append_enums_perm (file : File)
    : (file.messages ++ file.enums).Perm file.definitions := by
  have apart
      : file.enums
        = file.definitions.filter fun found => !decide (found.kind = .message) := by
    refine List.filter_congr fun found _ => ?_
    cases found.kind <;> rfl
  rw [apart]
  exact List.filter_append_perm _ _

/-- The full names of a package are the names of the definitions, and no two definitions share one.
-/
theorem Declares.fullNames {package : Package} (h : file.Declares package)
    (allowed : file.Allowed)
    : (package.messages.map (·.fullName) ++ package.enums.map (·.fullName)).Nodup := by
  have image := h.image allowed
  have messages : file.messages.map _ = package.messages.map (·.fullName) :=
    image.messages.map_eq fun _ _ same => same.fullName.symm
  have enums : file.enums.map _ = package.enums.map (·.fullName) :=
    image.enums.map_eq fun _ _ same => same.fullName.symm
  have distinct := allowed.names.map (qualify_injective file.package)
  rw [List.map_map] at distinct
  rw [← messages, ← enums, ← List.map_append]
  exact ((file.messages_append_enums_perm.map _).nodup_iff).mpr distinct

/-- The package of a file that keeps the rules is well-formed. -/
theorem Declares.wellFormed {package : Package} (h : file.Declares package)
    (allowed : file.Allowed)
    : package.WellFormed := by
  refine ⟨h.fullNames allowed, ?_, ?_, ?_, ?_⟩
  · intro schema member
    obtain ⟨message, inside, described⟩ := h.messages.exists_left member
    obtain ⟨inside, kind⟩ := mem_messages.mp inside
    exact described.wellFormed (allowed.messages message inside kind)
  · intro schema member field inside nested found
    obtain ⟨message, _, described⟩ := h.messages.exists_left member
    obtain ⟨_, _, fieldDescribed⟩ := described.forall₂.exists_left inside
    obtain ⟨target, resolved, kind, targetDescribed⟩ := fieldDescribed.nested found
    exact h.message_mem (resolve_mem resolved) kind targetDescribed
  · intro schema member field inside enum found
    obtain ⟨message, _, described⟩ := h.messages.exists_left member
    obtain ⟨_, _, fieldDescribed⟩ := described.forall₂.exists_left inside
    obtain ⟨target, resolved, kind, rfl⟩ := fieldDescribed.enum_eq found
    rw [h.enums]
    exact List.mem_map_of_mem (mem_enums.mpr ⟨resolve_mem resolved, kind⟩)
  · intro service member method inside
    obtain ⟨_, _, offered⟩ := h.services.exists_left member
    obtain ⟨_, _, described⟩ := offered.methods.exists_left inside
    exact ⟨h.name_mem described.input, h.name_mem described.output⟩

end File

end GrpcMock.Proto
