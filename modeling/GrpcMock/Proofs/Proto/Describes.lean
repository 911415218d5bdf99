import GrpcMock.Proto.Link
import GrpcMock.Proofs.Proto.References
import Mathlib.Data.List.Forall2

/-!
The schema that a definition stands for: every type in it is replaced by the schema of what the type
resolves to. Nothing is remembered on the way, so this says what linking has to give.
-/

namespace GrpcMock.Proto

namespace File

mutual
/-- The schema of a message. -/
inductive Describes (file : File) : Definition → MessageSchema → Prop
  | message {message : Definition} {schemas : List FieldSchema}
      (fields : DescribesFields file message message.fields schemas)
    : Describes file message (file.messageSchema message schemas)

/-- The schemas of the fields of a message. -/
inductive DescribesFields (file : File) : Definition → List Field → List FieldSchema → Prop
  | nil {message : Definition} : DescribesFields file message [] []
  | cons {message : Definition} {field : Field} {fields : List Field} {schema : FieldSchema}
      {schemas : List FieldSchema} (first : DescribesType file message field schema)
      (rest : DescribesFields file message fields schemas)
    : DescribesFields file message (field :: fields)
        (file.labelled message.isMapEntry field.label schema :: schemas)

/-- The schema of a field by its type alone, before its label counts. -/
inductive DescribesType (file : File) : Definition → Field → FieldSchema → Prop
  | scalar {message : Definition} {field : Field} {kind : FieldKind}
      (resolved : file.resolve message.name (field.type.getD "") = some (.scalar kind))
    : DescribesType file message field (.single field.name field.number.toUInt32 kind)
  | enum {message enum : Definition} {field : Field}
      (resolved : file.resolve message.name (field.type.getD "") = some (.definition enum))
      (kind : enum.kind = .enum)
    : DescribesType file message field (enumField field (file.enumSchema enum))
  | message {message target : Definition} {field : Field} {nested : MessageSchema}
      (resolved : file.resolve message.name (field.type.getD "") = some (.definition target))
      (kind : target.kind = .message) (described : Describes file target nested)
    : DescribesType file message field (messageField field nested)
end

variable {file : File}

mutual
/-- A message has one schema, by induction on what it is made of. -/
theorem Describes.unique {message : Definition} {left right : MessageSchema}
    : file.Describes message left → file.Describes message right → left = right
  | .message fields, .message others => by rw [fields.unique others]

/-- So have its fields, one by one. -/
theorem DescribesFields.unique {message : Definition} {fields : List Field}
    {left right : List FieldSchema}
    : file.DescribesFields message fields left
      → file.DescribesFields message fields right
      → left = right
  | .nil, .nil => rfl
  | .cons first rest, .cons other others => by rw [first.unique other, rest.unique others]

/-- So has the type of a field, as it resolves in one way. -/
theorem DescribesType.unique {message : Definition} {field : Field} {left right : FieldSchema}
    : file.DescribesType message field left
      → file.DescribesType message field right
      → left = right
  | .scalar resolved, hr => by
      cases hr with
      | scalar other => cases resolved.symm.trans other; rfl
      | enum other => cases resolved.symm.trans other
      | message other => cases resolved.symm.trans other
  | .enum resolved kind, hr => by
      cases hr with
      | scalar other => cases resolved.symm.trans other
      | enum other => cases resolved.symm.trans other; rfl
      | message other unlike =>
          cases resolved.symm.trans other
          cases kind.symm.trans unlike
  | .message resolved kind described, hr => by
      cases hr with
      | scalar other => cases resolved.symm.trans other
      | enum other unlike =>
          cases resolved.symm.trans other
          cases kind.symm.trans unlike
      | message other _ again =>
          cases resolved.symm.trans other
          rw [described.unique again]
end

-----------------------------------------------------------------------------------------
-- One field after the other
-----------------------------------------------------------------------------------------

/-- The label of a field decides on nothing else in its schema. -/
theorem labelled_eq (file : File) (inMapEntry : Bool) (label : Label) (schema : FieldSchema)
    : ∃ isList hasPresence,
        file.labelled inMapEntry label schema = { schema with isList, hasPresence } := by
  unfold labelled
  split
  · exact ⟨true, schema.hasPresence, rfl⟩
  · exact ⟨schema.isList, _, rfl⟩

/-- The schema of a field, with its type and its label. -/
def DescribesField (file : File) (message : Definition) (field : Field) (schema : FieldSchema)
    : Prop :=
  ∃ bare,
    file.DescribesType message field bare
    ∧ schema = file.labelled message.isMapEntry field.label bare

/-- Apart from what its label decides on, the schema of a field is that of its type. -/
theorem DescribesField.exists_bare {message : Definition} {field : Field} {schema : FieldSchema}
    (h : file.DescribesField message field schema)
    : ∃ bare isList hasPresence,
        file.DescribesType message field bare
        ∧ schema = { bare with isList, hasPresence } := by
  obtain ⟨bare, described, rfl⟩ := h
  obtain ⟨isList, hasPresence, same⟩ := file.labelled_eq message.isMapEntry field.label bare
  exact ⟨bare, isList, hasPresence, described, same⟩

/-- Described fields are described one by one. -/
theorem DescribesFields.forall₂ {message : Definition} {fields : List Field}
    {schemas : List FieldSchema} (h : file.DescribesFields message fields schemas)
    : List.Forall₂ (file.DescribesField message) fields schemas := by
  induction schemas generalizing fields with
  | nil =>
      cases h
      exact .nil
  | cons schema rest ih =>
      cases h with
      | cons first others => exact .cons ⟨_, first, rfl⟩ (ih others)

/-- So are the fields of a described message. -/
theorem Describes.forall₂ {message : Definition} {schema : MessageSchema}
    (h : file.Describes message schema)
    : List.Forall₂ (file.DescribesField message) message.fields schema.fields := by
  cases h with
  | message fields => exact fields.forall₂

/-- The schema of a message has its full name, with the package in front. -/
theorem Describes.fullName {message : Definition} {schema : MessageSchema}
    (h : file.Describes message schema)
    : schema.fullName = Package.qualify file.package message.name := by
  cases h
  rfl

/-- The schema says whether the message is for the entries of a map. -/
theorem Describes.isMapEntry {message : Definition} {schema : MessageSchema}
    (h : file.Describes message schema)
    : schema.isMapEntry = message.isMapEntry := by
  cases h
  rfl

/-- Whatever its type, a field keeps its name. -/
theorem DescribesType.name {message : Definition} {field : Field} {schema : FieldSchema}
    (h : file.DescribesType message field schema)
    : schema.name = field.name := by
  cases h <;> rfl

/-- It keeps its number as well. -/
theorem DescribesType.number {message : Definition} {field : Field} {schema : FieldSchema}
    (h : file.DescribesType message field schema)
    : schema.number = field.number.toUInt32 := by
  cases h <;> rfl

/-- The label does not change that. -/
theorem DescribesField.number {message : Definition} {field : Field} {schema : FieldSchema}
    (h : file.DescribesField message field schema)
    : schema.number = field.number.toUInt32 := by
  obtain ⟨bare, _, _, described, rfl⟩ := h.exists_bare
  exact described.number

-----------------------------------------------------------------------------------------
-- The package
-----------------------------------------------------------------------------------------

/-- The messages of a file, in the order in which they are written. -/
def messages (file : File) : List Definition :=
  file.definitions.filter (·.kind = .message)

def enums (file : File) : List Definition :=
  file.definitions.filter (·.kind = .enum)

/-- The messages of a file are its definitions of that kind. -/
@[simp]
theorem mem_messages {message : Definition}
    : message ∈ file.messages ↔ message ∈ file.definitions ∧ message.kind = .message := by
  simp [messages]

/-- So are its enums. -/
@[simp]
theorem mem_enums {enum : Definition}
    : enum ∈ file.enums ↔ enum ∈ file.definitions ∧ enum.kind = .enum := by
  simp [enums]

/-- The schema of a message that a name refers to in the scope of the file. -/
def DescribesName (file : File) (name : String) (schema : MessageSchema) : Prop :=
  ∃ message, file.resolveMessage? name = some message ∧ file.Describes message schema

structure DescribesMethod (file : File) (method : Rpc) (schema : MethodSchema) : Prop where
  name : schema.name = method.name
  goName : schema.goName = Naming.goCamelCase method.name
  input : file.DescribesName method.inputType schema.input
  output : file.DescribesName method.outputType schema.output

structure DescribesService (file : File) (service : Service) (schema : ServiceSchema)
    : Prop where
  name : schema.name = service.name
  fullName : schema.fullName = Package.qualify file.package service.name
  goName : schema.goName = Naming.goCamelCase service.name
  methods : List.Forall₂ file.DescribesMethod service.methods schema.methods

/-- A package holds the schemas of a file, in the order of the file. -/
structure Declares (file : File) (package : Package) : Prop where
  name : package.name = file.package
  goPackage : package.goPackage = file.goPackageOf
  messages : List.Forall₂ file.Describes file.messages package.messages
  enums : package.enums = file.enums.map file.enumSchema
  services : List.Forall₂ file.DescribesService file.services package.services

/-- A name in a method has one schema. -/
theorem DescribesName.unique {name : String} {left right : MessageSchema}
    (hl : file.DescribesName name left) (hr : file.DescribesName name right)
    : left = right := by
  obtain ⟨message, resolved, described⟩ := hl
  obtain ⟨other, again, describedToo⟩ := hr
  cases resolved.symm.trans again
  exact described.unique describedToo

/-- So has the method. -/
theorem DescribesMethod.unique {method : Rpc} {left right : MethodSchema}
    (hl : file.DescribesMethod method left) (hr : file.DescribesMethod method right)
    : left = right := by
  cases left
  cases right
  rw [MethodSchema.mk.injEq]
  exact
    ⟨hl.name.trans hr.name.symm, hl.goName.trans hr.goName.symm, hl.input.unique hr.input,
      hl.output.unique hr.output⟩

/-- So has a service, method by method. -/
theorem DescribesService.unique {service : Service} {left right : ServiceSchema}
    (hl : file.DescribesService service left) (hr : file.DescribesService service right)
    : left = right := by
  have each : Relator.RightUnique file.DescribesMethod :=
    fun _ _ _ => DescribesMethod.unique
  have methods : left.methods = right.methods := each.forall₂ hl.methods hr.methods
  cases left
  cases right
  rw [ServiceSchema.mk.injEq]
  exact
    ⟨hl.name.trans hr.name.symm, hl.fullName.trans hr.fullName.symm,
      hl.goName.trans hr.goName.symm, methods⟩

/-- A file declares one package. -/
theorem Declares.unique {left right : Package} (hl : file.Declares left)
    (hr : file.Declares right)
    : left = right := by
  have eachMessage : Relator.RightUnique file.Describes := fun _ _ _ => Describes.unique
  have eachService : Relator.RightUnique file.DescribesService :=
    fun _ _ _ => DescribesService.unique
  have messages : left.messages = right.messages := eachMessage.forall₂ hl.messages hr.messages
  have services : left.services = right.services := eachService.forall₂ hl.services hr.services
  cases left
  cases right
  rw [Package.mk.injEq]
  exact
    ⟨hl.name.trans hr.name.symm, hl.goPackage.trans hr.goPackage.symm, messages,
      hl.enums.trans hr.enums.symm, services⟩

end File

end GrpcMock.Proto
