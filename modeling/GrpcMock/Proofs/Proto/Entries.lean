import GrpcMock.Proofs.Proto.Compile

/-!
Messages for the entries of maps. In a schema that compiles they are the types of map fields and of
no other fields. Methods are not asked the same: one that names such a message takes or returns it.
-/

namespace GrpcMock

/-- The messages for the entries of maps are the types of map fields, and nothing else refers to
them. -/
structure Package.EntriesInMaps (package : Package) : Prop where
  fields
    : ∀ field,
        package.HasField field
        → ∀ entry, field.message = some entry → entry.isMapEntry → field.isMap
  methods
    : ∀ service ∈ package.services,
      ∀ method ∈ service.methods, ¬method.input.isMapEntry ∧ ¬method.output.isMapEntry

namespace Proto

namespace File

variable {file : File}

/-- A name in the scope of the file is that of a message for the entries of a map. -/
def NamesEntry (file : File) (name : String) : Prop :=
  ∃ entry, file.resolveMessage? name = some entry ∧ entry.isMapEntry

theorem DescribesName.isMapEntry_iff {name : String} {schema : MessageSchema}
    (h : file.DescribesName name schema)
    : schema.isMapEntry ↔ file.NamesEntry name := by
  obtain ⟨message, resolved, described⟩ := h
  rw [described.isMapEntry]
  constructor
  · intro isEntry
    exact ⟨message, resolved, isEntry⟩
  · rintro ⟨entry, again, isEntry⟩
    cases resolved.symm.trans again
    exact isEntry

/-- A field that keeps the rules and refers to the entries of a map is a map itself. -/
theorem DescribesField.isMap {message : Definition} {field : Field} {schema : FieldSchema}
    {entry : MessageSchema} (h : file.DescribesField message field schema)
    (allowed : FieldAllowed file message field) (typed : ∃ type, field.type = some type)
    (found : schema.message = some entry) (isEntry : entry.isMapEntry)
    : schema.isMap := by
  obtain ⟨type, typed⟩ := typed
  obtain ⟨target, targetAllowed⟩ := allowed.type type typed
  obtain ⟨bare, _, _, described, rfl⟩ := h.exists_bare
  cases described with
  | scalar => cases found
  | enum => cases found
  | message resolved _ nested =>
      cases found
      rw [typed] at resolved
      cases resolved.symm.trans targetAllowed.resolved
      rw [nested.isMapEntry] at isEntry
      have label : field.label = .map := targetAllowed.entry isEntry
      simp [messageField, label]

/-- All fields of a package that refer to the entries of a map are maps. -/
theorem Declares.isMap {package : Package} (h : file.Declares package) (linkable : file.Linkable)
    : ∀ field,
        package.HasField field
        → ∀ entry, field.message = some entry → entry.isMapEntry → field.isMap := by
  intro schema inside entry found isEntry
  obtain ⟨messageSchema, listed, declared⟩ := inside
  obtain ⟨message, member, described⟩ := h.messages.exists_left listed
  obtain ⟨field, written, describedField⟩ := described.forall₂.exists_left declared
  obtain ⟨member, kind⟩ := mem_messages.mp member
  have allowed := (linkable.allowed.messages message member kind).fields field written
  have typed := linkable.typed message member kind field written
  exact describedField.isMap allowed typed found isEntry

/-- The methods of a package refer to entries just where those of the file name them. -/
theorem Declares.methods_iff {package : Package} (h : file.Declares package)
    : (∀ service ∈ package.services,
        ∀ method ∈ service.methods, ¬method.input.isMapEntry ∧ ¬method.output.isMapEntry)
      ↔ ∀ service ∈ file.services,
          ∀ method ∈ service.methods,
            ¬file.NamesEntry method.inputType ∧ ¬file.NamesEntry method.outputType := by
  constructor
  · intro plain service member method listed
    obtain ⟨serviceSchema, inside, offered⟩ := h.services.exists_right member
    obtain ⟨schema, declared, described⟩ := offered.methods.exists_right listed
    rw [← described.input.isMapEntry_iff, ← described.output.isMapEntry_iff]
    exact plain serviceSchema inside schema declared
  · intro plain serviceSchema inside schema declared
    obtain ⟨service, member, offered⟩ := h.services.exists_left inside
    obtain ⟨method, listed, described⟩ := offered.methods.exists_left declared
    rw [described.input.isMapEntry_iff, described.output.isMapEntry_iff]
    exact plain service member method listed

end File

/-- In a schema that compiles, a field that refers to the entries of a map is a map. Nothing else
refers to them just if no method names them for what it takes or returns. -/
theorem compile_entriesInMaps_iff {text : String} {file : File} {package : Package}
    (read : File.ofText text = .ok file) (compiled : compile text = .ok package)
    : (∀ field,
        package.HasField field
        → ∀ entry, field.message = some entry → entry.isMapEntry → field.isMap)
      ∧ (package.EntriesInMaps
        ↔ ∀ service ∈ file.services,
            ∀ method ∈ service.methods,
              ¬file.NamesEntry method.inputType ∧ ¬file.NamesEntry method.outputType) := by
  obtain ⟨other, again, linkable, declares⟩ := compile_declares compiled
  cases read.symm.trans again
  have fields := declares.isMap linkable
  refine ⟨fields, ?_⟩
  rw [← declares.methods_iff]
  exact ⟨fun entries => entries.methods, fun methods => ⟨fields, methods⟩⟩

-----------------------------------------------------------------------------------------
-- A shelf
-----------------------------------------------------------------------------------------

/-- A method that takes an entry of the map of another message. -/
def shelfText : String :=
  "message Shelf \x7b map<string, int32> books = 1; \x7d "
    ++ "service Library \x7b rpc Find (Shelf.BooksEntry) returns (Shelf); \x7d"

def shelfFile : File :=
  { File.empty with
    definitions :=
      [
        ⟨"Shelf", ⟨1, 9⟩, .message, [⟨"books", ⟨1, 36⟩, some "Shelf.BooksEntry", .map, 1⟩], false⟩,
        ⟨"Shelf.BooksEntry", ⟨1, 36⟩, .message,
          [
            ⟨"key", ⟨1, 21⟩, some "string", .singular, 1⟩,
            ⟨"value", ⟨1, 29⟩, some "int32", .singular, 2⟩
          ], true⟩
      ],
    services := [⟨"Library", ⟨1, 57⟩, [⟨"Find", ⟨1, 71⟩, "Shelf.BooksEntry", "Shelf"⟩]⟩] }

def shelfEntry : MessageSchema :=
  {
    fullName := "Shelf.BooksEntry",
    ident := ⟨"Shelf_BooksEntry", ""⟩,
    fields := [FieldSchema.single "key" 1 .string, FieldSchema.single "value" 2 .int32],
    isMapEntry := true
  }

def shelfMessage : MessageSchema :=
  {
    fullName := "Shelf",
    ident := ⟨"Shelf", ""⟩,
    fields :=
      [{ FieldSchema.single "books" 1 .message with isMap := true, message := some shelfEntry }],
    isMapEntry := false
  }

def shelfPackage : Package :=
  {
    name := none,
    goPackage := ⟨"", "main"⟩,
    messages := [shelfMessage, shelfEntry],
    enums := [],
    services := [⟨"Library", "Library", "Library", [⟨"Find", "Find", shelfEntry, shelfMessage⟩]⟩]
  }

/-- The schema compiles, though its method takes what only a map field should refer to. -/
theorem entriesInMaps_shelf
    : File.ofText shelfText = .ok shelfFile
      ∧ compile shelfText = .ok shelfPackage
      ∧ (∀ field,
          shelfPackage.HasField field
          → ∀ entry, field.message = some entry → entry.isMapEntry → field.isMap)
      ∧ shelfFile.NamesEntry "Shelf.BooksEntry"
      ∧ ¬shelfPackage.EntriesInMaps := by
  have read : File.ofText shelfText = .ok shelfFile :=
    toOption_eq_some.mp (by decide +kernel)
  have compiled : compile shelfText = .ok shelfPackage :=
    toOption_eq_some.mp (by decide +kernel)
  have resolved : shelfFile.resolveMessage? "Shelf.BooksEntry" = shelfFile.definitions[1]? := by
    decide +kernel
  have named : shelfFile.NamesEntry "Shelf.BooksEntry" := ⟨_, resolved, rfl⟩
  obtain ⟨fields, entries⟩ := compile_entriesInMaps_iff read compiled
  refine ⟨read, compiled, fields, named, fun kept => ?_⟩
  have plain := entries.mp kept _ (List.mem_singleton_self _) _ (List.mem_singleton_self _)
  exact plain.1 named

end Proto

end GrpcMock
