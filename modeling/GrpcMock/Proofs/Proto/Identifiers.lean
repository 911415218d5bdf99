import GrpcMock.Proofs.Naming
import GrpcMock.Proofs.Proto.Compile
import GrpcMock.Proofs.Proto.Names

/-!
What the fields of messages and the members of enums are called. Every field is named by an
identifier, from which its other names are derived; the members of an enum have a name and a Go name
of their own.
-/

namespace GrpcMock

/-- A field that is named by an identifier and has the other names that come of it. -/
structure FieldSchema.Named (field : FieldSchema) : Prop where
  name : Proto.isIdentifier field.name
  jsonName : field.jsonName = Naming.jsonName field.name
  goName : field.goName = Naming.goCamelCase field.name

/-- An enum with members that can be told apart, in Go as well. -/
structure EnumSchema.Named (enum : EnumSchema) : Prop where
  names : (enum.members.map (·.name)).Nodup
  idents : (enum.members.map (·.ident)).Nodup

/-- A package in which all fields and all enums are named in that way. -/
structure Package.Named (package : Package) : Prop where
  fields : ∀ field, package.HasField field → FieldSchema.Named field
  enums : ∀ enum ∈ package.enums, enum.Named

/-- The fields of the messages in a package are named if the package is. -/
theorem Package.Named.within {package : Package} {schema : MessageSchema} (h : package.Named)
    (member : schema ∈ package.messages)
    : ∀ field ∈ schema.fields, FieldSchema.Named field :=
  fun field declared => h.fields field ⟨schema, member, declared⟩

namespace Proto

-----------------------------------------------------------------------------------------
-- Identifiers
-----------------------------------------------------------------------------------------

/-- A group gives its name in lower case to a field. -/
theorem isIdentifier_toLower {name : String} (named : isIdentifier name)
    : isIdentifier (String.ofList (name.toList.map Char.toLower)) := by
  have starts (c : Char) (h : Text.isNameStart c) (small : c.toNat < 128)
      : Text.isNameStart c.toLower :=
    Text.ascii_forall (p := fun c => Text.isNameStart c → Text.isNameStart c.toLower) (by decide)
      small h
  obtain ⟨first, rest, chars, head⟩ := isIdentifier_head named
  have all := isIdentifier_isNameChar named
  rw [chars] at all
  have small := Text.isNameChar_small (all first (List.mem_cons_self ..))
  rw [isIdentifier, String.toList_ofList, chars, Bool.and_eq_true_iff, List.all_eq_true]
  refine ⟨starts first head small, fun c member => ?_⟩
  obtain ⟨other, inside, rfl⟩ := List.mem_map.mp member
  exact Text.isNameChar_toLower (all other inside)

/-- The fields of definitions are named by identifiers. -/
def Identified (definitions : List Definition) : Prop :=
  ∀ definition ∈ definitions, ∀ field ∈ definition.fields, isIdentifier field.name

/-- Lists of such definitions can be put together. -/
theorem Identified.append {left right : List Definition} (hl : Identified left)
    (hr : Identified right)
    : Identified (left ++ right) := by
  intro definition member
  rcases List.mem_append.mp member with member | member
  · exact hl definition member
  · exact hr definition member

/-- An enum names no fields. -/
theorem EnumWritten.identified {scope : String} {enum : Definition} (h : EnumWritten scope enum)
    : Identified [enum] := by
  cases h with
  | intro _ each =>
      intro definition member value inside
      rw [List.mem_singleton.mp member] at inside
      exact (each value inside).name

/-- The fields of a message for entries are key and value. -/
theorem mapEntry_identified {name : String} {position : Position} {key value : Token}
    : Identified [mapEntry name position key value] := by
  have keyName : isIdentifier "key" := by decide +kernel
  have valueName : isIdentifier "value" := by decide +kernel
  intro definition member field inside
  rw [List.mem_singleton.mp member] at inside
  simp only [mapEntry, List.mem_cons, List.not_mem_nil, or_false] at inside
  rcases inside with rfl | rfl
  · exact keyName
  · exact valueName

/-- The fields of a body are named by identifiers, and so are those of what is nested in it. -/
structure MessageBody.Identified (body : MessageBody) : Prop where
  fields : ∀ field ∈ body.fields, isIdentifier field.name
  nested : Proto.Identified body.nested

/-- Such fields and definitions can be put in front of such a body. -/
theorem MessageBody.Identified.after {fields : List Field} {definitions : List Definition}
    {body : MessageBody} (h : body.Identified)
    (hf : ∀ field ∈ fields, isIdentifier field.name) (hd : Proto.Identified definitions)
    : (body.after fields definitions).Identified :=
  ⟨fun field member => (List.mem_append.mp member).elim (hf field) (h.fields field),
    hd.append h.nested⟩

/-- A body with such fields makes a message with such fields. -/
theorem MessageBody.Identified.definitions {name : String} {position : Position}
    {body : MessageBody} (h : body.Identified)
    : Proto.Identified (body.definitions name position) :=
  List.forall_mem_cons.mpr ⟨h.fields, h.nested⟩

/-- Every body that can be written names its fields by identifiers, by induction on how it is
written. -/
theorem MessageBody.Written.identified {scope : String} {body : MessageBody}
    (h : body.Written scope)
    : body.Identified := by
  have none : Proto.Identified [] := by simp [Proto.Identified]
  induction h with
  | close => exact ⟨by simp [MessageBody.empty], none⟩
  | field item _ ih =>
      cases item with
      | field plain => exact ih.after (List.forall_mem_singleton.mpr plain.name) none
  | mapField item _ ih =>
      cases item with
      | mapField named =>
          exact ih.after (List.forall_mem_singleton.mpr named) mapEntry_identified
  | enum item _ ih =>
      cases item with
      | enum written => exact ih.after (by simp) written.identified
  | message item _ _ inner outer =>
      cases item with
      | message => exact outer.after (by simp) inner.definitions
      | group named =>
          refine outer.after (List.forall_mem_singleton.mpr ?_) inner.definitions
          exact isIdentifier_toLower named

/-- All fields of a file are named by identifiers, by induction on how it is read. -/
theorem DefinitionsWritten.identified {definitions : List Definition}
    (h : DefinitionsWritten definitions)
    : Identified definitions := by
  induction h with
  | nil => simp [Identified]
  | enum _ written ih => exact ih.append written.identified
  | message _ _ written ih => exact ih.append written.identified.definitions

-----------------------------------------------------------------------------------------
-- Members of enums
-----------------------------------------------------------------------------------------

/-- The values of each enum in a file that keeps the rules have names of their own. -/
theorem File.values_nodup {file : File} (h : file.check = .ok ())
    : ∀ enum ∈ file.enums, (enum.fields.map (·.name)).Nodup := by
  intro enum member
  obtain ⟨inside, kind⟩ := mem_enums.mp member
  rw [check, check_bind_eq_ok] at h
  exact ((checkDeclarations_eq_ok.mp h.1).enums enum inside kind).names

/-- The Go names of members that stand in one scope differ as their names do. -/
theorem File.enumSchema_named {file : File} {enum : Definition}
    (distinct : (enum.fields.map (·.name)).Nodup)
    : (file.enumSchema enum).Named := by
  have qualified (scope path : String)
      : Function.Injective fun name : String => GoIdent.mk (scope ++ "_" ++ name) path := by
    intro left right same
    exact (String.append_right_inj _).mp (GoIdent.mk.inj same).1
  have names : (file.enumSchema enum).members.map (·.name) = enum.fields.map (·.name) := by
    simp [enumSchema]
  refine ⟨names ▸ distinct, ?_⟩
  have idents := distinct.map (qualified
    (Naming.goCamelCase ((Text.beforeLast? '.' enum.name).getD enum.name))
    file.goPackageOf.importPath)
  simpa [enumSchema, List.map_map, Function.comp_def] using idents

-----------------------------------------------------------------------------------------
-- Packages
-----------------------------------------------------------------------------------------

/-- The schema of a field whose name is an identifier is named, whatever its type. -/
theorem File.DescribesType.named {file : File} {message : Definition} {field : Field}
    {schema : FieldSchema} (h : file.DescribesType message field schema)
    (named : isIdentifier field.name)
    : FieldSchema.Named schema := by
  cases h <;> exact ⟨named, rfl, rfl⟩

/-- Its label does not change that. -/
theorem File.DescribesField.named {file : File} {message : Definition} {field : Field}
    {schema : FieldSchema} (h : file.DescribesField message field schema)
    (named : isIdentifier field.name)
    : FieldSchema.Named schema := by
  obtain ⟨bare, isList, hasPresence, described, rfl⟩ := h.exists_bare
  have bareNamed := described.named named
  exact ⟨bareNamed.name, bareNamed.jsonName, bareNamed.goName⟩

/-- The fields and enums of a text that compiles are named in that way. -/
theorem compile_named {text : String} {package : Package} (h : compile text = .ok package)
    : package.Named := by
  obtain ⟨file, read, checked, linked⟩ := compile_eq_ok.mp h
  have declares : file.Declares package := by
    obtain ⟨other, again, _, declares⟩ := compile_declares h
    cases read.symm.trans again
    exact declares
  have identified := (File.Written.of_text read).definitions.identified
  refine ⟨fun schema inside => ?_, fun enum member => ?_⟩
  · obtain ⟨messageSchema, listed, declared⟩ := inside
    obtain ⟨message, written, described⟩ := declares.messages.exists_left listed
    obtain ⟨field, inMessage, described⟩ := described.forall₂.exists_left declared
    have inFile := (File.mem_messages.mp written).1
    exact described.named (identified message inFile field inMessage)
  · rw [declares.enums] at member
    obtain ⟨definition, inside, rfl⟩ := List.mem_map.mp member
    exact File.enumSchema_named (file.values_nodup checked definition inside)

end Proto

end GrpcMock
