import GrpcMock.Proofs.Proto.Compile
import GrpcMock.Proofs.Proto.Scope

/-!
How map fields and groups are linked. The type of such a field is the name of its companion from the
root, but it is looked for like any other name, so a definition further in can take its place.
-/

namespace GrpcMock.Proto

/-- In a scope that is named by a path, a companion is named by a longer one. -/
theorem CompanionOf.name_eq {owner : String} {field : Field} {own : Definition}
    (h : CompanionOf owner field own) (path : ScopeName owner)
    : ∃ last, own.name = owner ++ "." ++ last := by
  cases h with
  | entry => exact ⟨_, path.inScope_eq _⟩
  | group => exact ⟨_, path.inScope_eq _⟩

/-- The companion of a field is a message. -/
theorem CompanionOf.kind {owner : String} {field : Field} {own : Definition}
    (h : CompanionOf owner field own)
    : own.kind = .message := by
  cases h <;> rfl

namespace File

variable {file : File}

/-- From the scope of a message, the companion of a field is found unless some definition shadows
it, and otherwise such a definition is found. -/
theorem resolve_companion {message own : Definition} {field : Field} (h : file.Linkable)
    (rooted : file.Rooted) (path : ScopeName message.name) (present : own ∈ file.definitions)
    (companion : CompanionOf message.name field own)
    : (∃ found,
        file.Shadows message.name own.name found
        ∧ file.resolve message.name own.name = some (.definition found))
      ∨ (∀ found, ¬file.Shadows message.name own.name found)
        ∧ file.resolve message.name own.name = some (.definition own) := by
  obtain ⟨last, named⟩ := companion.name_eq path
  have outwards
      : file.resolve message.name own.name
        = (file.searchOutwards own.name (file.scopeParts message.name).reverse).map
            .definition := by
    unfold resolve
    rw [named, ofKeyword?_dotted, path.stripStart?]
  rw [outwards]
  rcases searchOutwards_shadowed rooted path (h.allowed.names.definition? present) with
    ⟨found, shadows, search⟩ | ⟨clear, search⟩
  · exact .inl ⟨found, shadows, by rw [search, Option.map_some]⟩
  · exact .inr ⟨clear, by rw [search, Option.map_some]⟩

/-- What shadows a definition is another one. -/
theorem Shadows.name_ne {scope name : String} {found : Definition}
    (h : file.Shadows scope name found)
    : found.name ≠ name := by
  obtain ⟨_, outer, _, named⟩ := h
  intro same
  have lengths := congrArg String.length (named.symm.trans same)
  simp only [String.length_append] at lengths
  have dot : ".".length = 1 := rfl
  omega

-----------------------------------------------------------------------------------------
-- Links to companions
-----------------------------------------------------------------------------------------

/-- The schema of a field is of the type that a name stands for in a scope. -/
inductive TypedBy (file : File) (scope name : String) (schema : FieldSchema) : Prop
  | scalar {kind : FieldKind} (resolved : file.resolve scope name = some (.scalar kind))
      (same : schema.kind = kind)
  | enum {enum : Definition} (resolved : file.resolve scope name = some (.definition enum))
      (kind : enum.kind = .enum) (same : schema.enumType = some (file.enumSchema enum))
  | message {message : Definition} {nested : MessageSchema}
      (resolved : file.resolve scope name = some (.definition message))
      (kind : message.kind = .message) (described : file.Describes message nested)
      (same : schema.message = some nested)

/-- In scopes in which a name refers to the same, a field is typed alike by it. -/
theorem TypedBy.of_resolve_eq {scope other name : String} {schema : FieldSchema}
    (h : file.TypedBy scope name schema) (same : file.resolve scope name = file.resolve other name)
    : file.TypedBy other name schema := by
  cases h with
  | scalar resolved kind => exact .scalar (same ▸ resolved) kind
  | enum resolved kind found => exact .enum (same ▸ resolved) kind found
  | message resolved kind described found => exact .message (same ▸ resolved) kind described found

/-- The schema of a map field has the message for the entries of this very field: with the key that
was written, and with a value of the type that was written, as it is meant in the message. -/
structure LinkedToEntry (file : File) (message : Definition) (field : Field) (key value : Token)
    (schema : FieldSchema) : Prop where
  isMap : schema.isMap
  entry
    : ∃ entry keySchema valueSchema,
        schema.message = some entry
        ∧ entry.fullName = Package.qualify file.package (entryName message.name field.name)
        ∧ entry.isMapEntry
        ∧ entry.fields = [keySchema, valueSchema]
        ∧ FieldKind.ofKeyword? key.text = some keySchema.kind
        ∧ file.TypedBy message.name value.text valueSchema

/-- The schema of a group has the message that was written as this very group. -/
structure LinkedToGroup (file : File) (own : Definition) (schema : FieldSchema) : Prop where
  kind : schema.kind = .group
  message
    : ∃ message,
        schema.message = some message
        ∧ message.fullName = Package.qualify file.package own.name
        ∧ file.Describes own message

/-- A map field or a group has a companion among the definitions of the file, at the same place, and
is linked to it exactly if nothing shadows it. -/
structure LinksCompanion (file : File) (message : Definition) (field : Field)
    (schema : FieldSchema) : Prop where
  map
    : field.label = .map
      → ∃ key value,
          mapEntry (entryName message.name field.name) field.position key value
            ∈ file.definitions
          ∧ (file.LinkedToEntry message field key value schema
            ↔ ∀ found,
                ¬file.Shadows message.name (entryName message.name field.name) found)
  group
    : field.label.isGroup
      → ∃ own ∈ file.definitions,
          own.position = field.position
          ∧ field.type = some own.name
          ∧ own.kind = .message
          ∧ own.isMapEntry = false
          ∧ (file.LinkedToGroup own schema
            ↔ ∀ found, ¬file.Shadows message.name own.name found)

-----------------------------------------------------------------------------------------
-- What linking gives
-----------------------------------------------------------------------------------------

/-- A described field is typed by the name of its type. -/
theorem DescribesField.typedBy {message : Definition} {field : Field} {schema : FieldSchema}
    {type : String} (h : file.DescribesField message field schema) (typed : field.type = some type)
    : file.TypedBy message.name type schema := by
  obtain ⟨bare, _, _, described, rfl⟩ := h.exists_bare
  cases described with
  | scalar resolved =>
      rw [typed] at resolved
      exact .scalar resolved rfl
  | enum resolved kind =>
      rw [typed] at resolved
      exact .enum resolved kind rfl
  | message resolved kind described =>
      rw [typed] at resolved
      exact .message resolved kind described rfl

/-- A field whose type resolves to a message has the schema of that message. -/
theorem DescribesField.of_message {message target : Definition} {field : Field}
    {schema : FieldSchema} {type : String} (h : file.DescribesField message field schema)
    (typed : field.type = some type)
    (resolved : file.resolve message.name type = some (.definition target))
    (kind : target.kind = .message)
    : ∃ nested,
        file.Describes target nested
        ∧ schema.message = some nested
        ∧ schema.isMap = decide (field.label = .map)
        ∧ schema.kind = if field.label.isGroup then .group else .message := by
  obtain ⟨bare, _, _, described, rfl⟩ := h.exists_bare
  have found : file.resolve message.name (field.type.getD "") = some (.definition target) := by
    rw [typed, Option.getD_some, resolved]
  cases described with
  | scalar other => cases other.symm.trans found
  | enum other unlike =>
      cases other.symm.trans found
      cases unlike.symm.trans kind
  | message other _ described =>
      cases other.symm.trans found
      exact ⟨_, described, rfl, rfl, rfl⟩

/-- The message for the entries of a map has the key and the value that were written. -/
theorem Describes.mapEntry {name : String} {position : Position} {key value : Token}
    {schema : MessageSchema} (h : file.Linkable)
    (present : mapEntry name position key value ∈ file.definitions)
    (described : file.Describes (mapEntry name position key value) schema)
    : schema.isMapEntry
      ∧ ∃ keySchema valueSchema,
          schema.fields = [keySchema, valueSchema]
          ∧ FieldKind.ofKeyword? key.text = some keySchema.kind
          ∧ file.TypedBy name value.text valueSchema := by
  obtain ⟨first, others, keyed, rest, fields⟩ := List.forall₂_cons_left_iff.mp described.forall₂
  obtain ⟨second, none, valued, nothing, rfl⟩ := List.forall₂_cons_left_iff.mp rest
  cases List.forall₂_nil_left_iff.mp nothing
  refine ⟨described.isMapEntry, first, second, fields, ?_, valued.typedBy rfl⟩
  have rules := (h.allowed.messages _ present rfl).fields
  obtain ⟨target, allowed⟩ := (rules _ (List.mem_cons_self ..)).type key.text rfl
  have isKey : target.isMapKey := allowed.mapKey rfl rfl
  cases keyed.typedBy rfl with
  | scalar resolved same =>
      rw [same]
      exact resolve_scalar resolved
  | enum resolved =>
      cases allowed.resolved.symm.trans resolved
      cases isKey
  | message resolved =>
      cases allowed.resolved.symm.trans resolved
      cases isKey

/-- A name means the same for an entry as for the message around it. -/
theorem resolve_entry {scope name : String} {position : Position} {key value : Token}
    (written : file.Written) (h : file.Allowed) (path : ScopeName scope)
    (present : mapEntry (entryName scope name) position key value ∈ file.definitions)
    (type : String)
    : file.resolve (entryName scope name) type = file.resolve scope type := by
  have named : entryName scope name = scope ++ "." ++ (Naming.goCamelCase name ++ "Entry") :=
    path.inScope_eq _
  have dotless : '.' ∉ (Naming.goCamelCase name ++ "Entry").toList := by
    simpa using Naming.goCamelCase_dotless name
  have filled : Naming.goCamelCase name ++ "Entry" ≠ "" := by simp
  have outside := written.definitions.housed.outside_entry h.names present rfl
  simp only [mapEntry, named] at outside
  rw [named]
  exact resolve_inner path dotless filled outside

section Field

variable {message own : Definition} {field : Field} {schema : FieldSchema}

/-- A field that is linked to its companion has one that nothing shadows. -/
theorem DescribesField.clear {nested : MessageSchema}
    (described : file.DescribesField message field schema) (h : file.Linkable)
    (rooted : file.Rooted) (path : ScopeName message.name) (present : own ∈ file.definitions)
    (companion : CompanionOf message.name field own) (found : schema.message = some nested)
    (named : nested.fullName = Package.qualify file.package own.name)
    : ∀ shadow, ¬file.Shadows message.name own.name shadow := by
  rcases resolve_companion h rooted path present companion with
    ⟨shadow, shadows, resolved⟩ | ⟨clear, _⟩
  · obtain ⟨target, search, _, targetDescribed⟩ := described.nested found
    rw [companion.type, Option.getD_some] at search
    cases search.symm.trans resolved
    have same := qualify_injective file.package (targetDescribed.fullName.symm.trans named)
    exact absurd same shadows.name_ne
  · exact clear

/-- A companion that nothing shadows is what its field is linked to. -/
theorem DescribesField.of_clear (described : file.DescribesField message field schema)
    (h : file.Linkable) (rooted : file.Rooted) (path : ScopeName message.name)
    (present : own ∈ file.definitions) (companion : CompanionOf message.name field own)
    (clear : ∀ shadow, ¬file.Shadows message.name own.name shadow)
    : ∃ nested,
        file.Describes own nested
        ∧ schema.message = some nested
        ∧ schema.isMap = decide (field.label = .map)
        ∧ schema.kind = if field.label.isGroup then .group else .message := by
  rcases resolve_companion h rooted path present companion with
    ⟨shadow, shadows, _⟩ | ⟨_, resolved⟩
  · exact absurd shadows (clear shadow)
  · exact described.of_message companion.type resolved companion.kind

/-- A described field is linked to its companion unless that is shadowed. -/
theorem DescribesField.linksCompanion (described : file.DescribesField message field schema)
    (h : file.Linkable) (written : file.Written) (member : message ∈ file.definitions)
    (kind : message.kind = .message) (inside : field ∈ message.fields)
    : file.LinksCompanion message field schema := by
  cases h.accompanied message member kind field inside with
  | plain plain =>
      refine ⟨fun map => absurd map plain.notMap, fun group => ?_⟩
      rw [plain.notGroup] at group
      cases group
  | own present companion =>
      have rooted := written.rooted
      have path := written.definitions.allPaths message member
      cases companion with
      | @entry name position number key value =>
          refine ⟨fun _ => ⟨key, value, present, fun linked => ?_, fun clear => ?_⟩, nofun⟩
          · obtain ⟨entry, _, _, found, named, _⟩ := linked.entry
            exact described.clear h rooted path present .entry found named
          · obtain ⟨nested, ownDescribed, found, isMap, _⟩ :=
              described.of_clear h rooted path present .entry clear
            obtain ⟨isEntry, keySchema, valueSchema, fields, keyKind, typed⟩ :=
              ownDescribed.mapEntry h present
            have same := resolve_entry written h.allowed path present value.text
            exact ⟨isMap, nested, keySchema, valueSchema, found, ownDescribed.fullName, isEntry,
              fields, keyKind, typed.of_resolve_eq same⟩
      | @group name isRepeated number fields =>
          have isGroup : (Field.ofGroup message.name name isRepeated number).label.isGroup := by
            cases isRepeated <;> rfl
          refine ⟨fun map => ?_, fun _ =>
            ⟨_, present, rfl, rfl, rfl, rfl, fun linked => ?_, fun clear => ?_⟩⟩
          · rw [map] at isGroup
            cases isGroup
          · obtain ⟨nested, found, named, _⟩ := linked.message
            exact described.clear h rooted path present .group found named
          · obtain ⟨nested, ownDescribed, found, _, kind⟩ :=
              described.of_clear h rooted path present .group clear
            rw [if_pos isGroup] at kind
            exact ⟨kind, nested, found, ownDescribed.fullName, ownDescribed⟩

end Field

/-- Every schema text that compiles gives each field of each message its schema, in order, and a map
field or a group among them is linked to its own companion exactly if no definition in the message
or around it bears the whole name of the companion after the name of a scope. -/
theorem link_companions {text : String} {package : Package} (compiled : compile text = .ok package)
    : ∃ file,
        ofText text = .ok file
        ∧ List.Forall₂
            (fun message schema =>
              List.Forall₂ (file.LinksCompanion message) message.fields schema.fields)
            file.messages package.messages := by
  obtain ⟨file, read, linkable, declares⟩ := compile_declares compiled
  refine ⟨file, read, declares.messages.imp_of_mem fun message member schema described => ?_⟩
  obtain ⟨member, kind⟩ := mem_messages.mp member
  exact described.forall₂.imp_of_mem fun field inside fieldSchema fieldDescribed =>
    fieldDescribed.linksCompanion linkable (.of_text read) member kind inside

def nestedText : String :=
  "message A \x7b message A \x7b map<string, int32> f = 1; \x7d map<string, string> f = 1; \x7d"

/-- A message in one of its own name, both with a map field of one name. -/
def nestedFile : File :=
  { File.empty with
    definitions :=
      [
        ⟨"A", ⟨1, 9⟩, .message, [⟨"f", ⟨1, 73⟩, some "A.FEntry", .map, 1⟩], false⟩,
        ⟨"A.A", ⟨1, 21⟩, .message, [⟨"f", ⟨1, 44⟩, some "A.A.FEntry", .map, 1⟩], false⟩,
        ⟨"A.A.FEntry", ⟨1, 44⟩, .message,
          [
            ⟨"key", ⟨1, 29⟩, some "string", .singular, 1⟩,
            ⟨"value", ⟨1, 37⟩, some "int32", .singular, 2⟩
          ], true⟩,
        ⟨"A.FEntry", ⟨1, 73⟩, .message,
          [
            ⟨"key", ⟨1, 57⟩, some "string", .singular, 1⟩,
            ⟨"value", ⟨1, 65⟩, some "string", .singular, 2⟩
          ], true⟩
      ] }

/-- The entries of the outer field are shadowed by those of the inner one, so the outer field is not
linked to its own. -/
theorem nested_shadowed
    : (∃ found, nestedFile.Shadows "A" "A.FEntry" found)
      ∧ ∃ package,
          compile nestedText = .ok package
          ∧ ∃ file,
              ofText nestedText = .ok file
              ∧ List.Forall₂
                  (fun message schema =>
                    List.Forall₂ (file.LinksCompanion message) message.fields schema.fields)
                  file.messages package.messages := by
  have read : ofText nestedText = .ok nestedFile := toOption_eq_some.mp (by decide +kernel)
  have accepted : nestedFile.check = .ok () := toOption_eq_some.mp (by decide +kernel)
  obtain ⟨package, linked, _⟩ := link_declares (.of_check (.of_text read) accepted)
  have compiled : compile nestedText = .ok package :=
    compile_eq_ok.mpr ⟨nestedFile, read, accepted, linked⟩
  refine ⟨⟨_, List.mem_of_getElem? (i := 2) rfl, "A", .inl rfl, rfl⟩, package, compiled, ?_⟩
  exact link_companions compiled

/-- From the outer message, the search comes upon the entries of the inner field first. -/
example
    : (nestedFile.resolve "A" "A.FEntry").map Target.message?
      = some (nestedFile.definitions[2]?) := by
  decide +kernel

end File

end GrpcMock.Proto
