import GrpcMock.Proofs.Proto.GoNames
import GrpcMock.Proofs.Respelling

/-!
When the Go names of a package can be told apart. Names that differ in a schema can be called the
same in Go, and members of enums are called by texts that are put together of two names.
-/

namespace GrpcMock

/-- The identifiers of everything that is declared in Go for a package, but not of the messages for
the entries of maps, for which nothing is. -/
def Package.idents (package : Package) : List GoIdent :=
  (package.messages.filter (!·.isMapEntry)).map (·.ident)
    ++ package.enums.map (·.ident)
    ++ package.enums.flatMap fun enum => enum.members.map (·.ident)

/-- No Go name in a package stands for two things. -/
structure Package.Unambiguous (package : Package) : Prop where
  fields : ∀ message ∈ package.messages, (message.fields.map (·.goName)).Nodup
  idents : package.idents.Nodup

namespace Proto

open GrpcMock.Naming (Respelled goCamelCase)
open GrpcMock.Text (beforeLast?)

-----------------------------------------------------------------------------------------
-- Names in Go
-----------------------------------------------------------------------------------------

/-- What the members of an enum are named after: the message around it, or the enum itself. -/
def Definition.scope (enum : Definition) : String :=
  (beforeLast? '.' enum.name).getD enum.name

/-- What a member of an enum is called in Go. -/
def Definition.memberName (enum : Definition) (value : Field) : String :=
  goCamelCase enum.scope ++ "_" ++ value.name

/-- The name of a definition begins with no dot. -/
theorem ScopeName.head?_ne_dot {name : String} (h : ScopeName name)
    : name.toList.head? ≠ some '.' := by
  obtain ⟨first, rest, chars, starts⟩ := h.head
  rw [chars]
  simpa using ne_dot_of_isNameStart starts

/-- Paths are called the same in Go just if they are respellings of each other. -/
theorem ScopeName.goCamelCase_eq_iff {left right : String} (hl : ScopeName left)
    (hr : ScopeName right)
    : goCamelCase left = goCamelCase right ↔ Respelled left.toList right.toList :=
  Naming.goCamelCase_eq_iff hl.isNameChar hl.head?_ne_dot hr.isNameChar hr.head?_ne_dot

/-- The scope of the members of an enum has such a name as well. -/
theorem ScopeName.scope {enum : Definition} (h : ScopeName enum.name) : ScopeName enum.scope :=
  h.around

-----------------------------------------------------------------------------------------
-- Everything that is declared in Go
-----------------------------------------------------------------------------------------

namespace File

variable {file : File} {package : Package}

/-- The definitions that something is declared for in Go. -/
def declared (file : File) : List Definition :=
  file.messages.filter (!·.isMapEntry) ++ file.enums

/-- What everything that is declared in Go for a file is called. -/
def goNames (file : File) : List String :=
  file.declared.map (fun definition => goCamelCase definition.name)
    ++ file.enums.flatMap fun enum => enum.fields.map enum.memberName

/-- The identifier of a message comes of its name and the package in Go. -/
theorem Describes.ident {message : Definition} {schema : MessageSchema}
    (h : file.Describes message schema)
    : schema.ident = file.goIdent message.name := by
  cases h
  rfl

/-- So do the identifiers of the members of an enum. -/
theorem enumSchema_idents {enum : Definition}
    : (file.enumSchema enum).members.map (·.ident)
      = (enum.fields.map enum.memberName).map fun name =>
          ⟨name, file.goPackageOf.importPath⟩ := by
  rw [enumSchema, List.map_map, List.map_map]
  rfl

/-- So do all identifiers of a package, in the order of the file. -/
theorem Declares.idents_eq (h : file.Declares package)
    : package.idents = file.goNames.map fun name => ⟨name, file.goPackageOf.importPath⟩ := by
  have messages
      : (file.messages.filter (!·.isMapEntry)).map (fun message => file.goIdent message.name)
        = (package.messages.filter (!·.isMapEntry)).map (·.ident) :=
    h.messages.map_filter_eq fun _ _ described =>
      ⟨by rw [described.isMapEntry], described.ident.symm⟩
  rw [Package.idents, ← messages, h.enums, goNames, declared]
  simp only [List.map_append, List.map_map, List.map_flatMap, List.flatMap_map, enumSchema_idents]
  rfl

/-- The name of a field in Go is its own in camel case. -/
theorem DescribesField.goName {message : Definition} {field : Field} {schema : FieldSchema}
    (h : file.DescribesField message field schema)
    : schema.goName = goCamelCase field.name := by
  obtain ⟨bare, _, _, described, rfl⟩ := h.exists_bare
  cases described <;> rfl

/-- The fields of a message are called in Go what comes of their names. -/
theorem Describes.fields_goName {message : Definition} {schema : MessageSchema}
    (h : file.Describes message schema)
    : message.fields.map (fun field => goCamelCase field.name) = schema.fields.map (·.goName) :=
  h.forall₂.map_eq fun _ _ described => described.goName.symm

-----------------------------------------------------------------------------------------
-- Names that are kept apart
-----------------------------------------------------------------------------------------

/-- Two texts that are made of two parts are the same if their parts are, or if one part takes up
what the other leaves. -/
theorem joined_eq_iff {left right value other : String}
    : left ++ "_" ++ value = right ++ "_" ++ other
      ↔ left = right ∧ value = other
        ∨ (∃ middle, right = left ++ "_" ++ middle ∧ value = middle ++ "_" ++ other)
        ∨ ∃ middle, left = right ++ "_" ++ middle ∧ other = middle ++ "_" ++ value := by
  have rightward {left right value other : String} {middle : List Char}
      (outer : right.toList = left.toList ++ middle)
      (inner : '_' :: value.toList = middle ++ '_' :: other.toList)
      : left = right ∧ value = other
        ∨ ∃ middle, right = left ++ "_" ++ middle ∧ value = middle ++ "_" ++ other := by
    cases middle with
    | nil =>
        rw [List.append_nil] at outer
        exact .inl ⟨(String.toList_inj.mp outer).symm,
          String.toList_inj.mp (List.cons.inj inner).2⟩
    | cons c middle =>
        obtain ⟨rfl, rest⟩ := List.cons.inj inner
        refine .inr ⟨String.ofList middle, String.toList_inj.mp ?_, String.toList_inj.mp ?_⟩
        · simp [outer]
        · simp [rest]
  constructor
  · intro same
    have chars : left.toList ++ '_' :: value.toList = right.toList ++ '_' :: other.toList := by
      simpa using congrArg String.toList same
    rcases List.append_eq_append_iff.mp chars with ⟨middle, outer, inner⟩ | ⟨middle, outer, inner⟩
    · exact (rightward outer inner).imp_right .inl
    · exact (rightward outer inner).imp (fun ⟨names, values⟩ => ⟨names.symm, values.symm⟩) .inr
  · rintro (⟨rfl, rfl⟩ | ⟨middle, rfl, rfl⟩ | ⟨middle, rfl, rfl⟩)
    · rfl
    · simp only [String.append_assoc]
    · simp only [String.append_assoc]

/-- Two members of enums are called the same in Go: either they have one name and what their enums
stand in is called the same, or one name takes up what is called after the other. -/
inductive MembersMeet (left right : Definition) (value other : Field) : Prop
  | sameScope (scopes : Respelled left.scope.toList right.scope.toList)
      (names : value.name = other.name)
  | leftShorter (middle : String)
      (scopes : goCamelCase right.scope = goCamelCase left.scope ++ "_" ++ middle)
      (names : value.name = middle ++ "_" ++ other.name)
  | rightShorter (middle : String)
      (scopes : goCamelCase left.scope = goCamelCase right.scope ++ "_" ++ middle)
      (names : other.name = middle ++ "_" ++ value.name)

/-- Two members of enums have one name in Go exactly if they meet. -/
theorem memberName_eq_iff {left right : Definition} {value other : Field}
    (hl : ScopeName left.name) (hr : ScopeName right.name)
    : left.memberName value = right.memberName other ↔ MembersMeet left right value other := by
  unfold Definition.memberName
  rw [joined_eq_iff, hl.scope.goCamelCase_eq_iff hr.scope]
  constructor
  · rintro (⟨scopes, names⟩ | ⟨middle, scopes, names⟩ | ⟨middle, scopes, names⟩)
    · exact .sameScope scopes names
    · exact .leftShorter middle scopes names
    · exact .rightShorter middle scopes names
  · rintro (⟨scopes, names⟩ | ⟨middle, scopes, names⟩ | ⟨middle, scopes, names⟩)
    · exact .inl ⟨scopes, names⟩
    · exact .inr (.inl ⟨middle, scopes, names⟩)
    · exact .inr (.inr ⟨middle, scopes, names⟩)

/-- What is named in a file has names that stay apart in Go. -/
structure GoNamesApart (file : File) : Prop where
  fields
    : ∀ message ∈ file.messages,
      ∀ left ∈ message.fields,
      ∀ right ∈ message.fields, Respelled left.name.toList right.name.toList → left = right
  declared
    : ∀ left ∈ file.declared,
      ∀ right ∈ file.declared, Respelled left.name.toList right.name.toList → left = right
  members
    : ∀ left ∈ file.enums,
      ∀ right ∈ file.enums,
        left ≠ right
        → ∀ value ∈ left.fields, ∀ other ∈ right.fields, ¬MembersMeet left right value other
  mixed
    : ∀ definition ∈ file.declared,
      ∀ enum ∈ file.enums,
      ∀ value ∈ enum.fields, goCamelCase definition.name ≠ enum.memberName value

/-- The fields of a message are distinct in Go exactly if no two names can be turned into each
other. -/
theorem Describes.fields_nodup_iff {message : Definition} {schema : MessageSchema}
    (h : file.Describes message schema) (names : (message.fields.map (·.name)).Nodup)
    (named : ∀ field ∈ message.fields, isIdentifier field.name)
    : (schema.fields.map (·.goName)).Nodup
      ↔ ∀ left ∈ message.fields,
        ∀ right ∈ message.fields, Respelled left.name.toList right.name.toList → left = right := by
  rw [← h.fields_goName, List.nodup_map_iff_inj_on names.of_map]
  refine forall₂_congr fun left member => forall₂_congr fun right memberToo => ?_
  have path := ScopeName.root (named left member)
  rw [path.goCamelCase_eq_iff (.root (named right memberToo))]

/-- What has an identifier is among the messages and enums. -/
theorem declared_sublist : file.declared.Sublist (file.messages ++ file.enums) :=
  List.filter_sublist.append (.refl _)

/-- So it is among the definitions. -/
theorem mem_definitions_of_declared {definition : Definition} (member : definition ∈ file.declared)
    : definition ∈ file.definitions :=
  file.messages_append_enums_perm.subset (declared_sublist.subset member)

section Names

variable (written : file.Written) (names : (file.definitions.map (·.name)).Nodup)

include written names

/-- Definitions with distinct names are told apart in Go just if these are no respellings. -/
theorem declared_nodup_iff
    : (file.declared.map fun definition => goCamelCase definition.name).Nodup
      ↔ ∀ left ∈ file.declared,
        ∀ right ∈ file.declared, Respelled left.name.toList right.name.toList → left = right := by
  have distinct : (file.declared.map (·.name)).Nodup :=
    (declared_sublist.map _).nodup ((file.messages_append_enums_perm.map _).nodup_iff.mpr names)
  rw [List.nodup_map_iff_inj_on distinct.of_map]
  refine forall₂_congr fun left member => forall₂_congr fun right memberToo => ?_
  have path := written.definitions.allPaths left (mem_definitions_of_declared member)
  have pathToo := written.definitions.allPaths right (mem_definitions_of_declared memberToo)
  rw [path.goCamelCase_eq_iff pathToo]

/-- Members of one enum are always told apart in Go, and members of different ones just if they do
not meet. -/
theorem members_nodup_iff (values : ∀ enum ∈ file.enums, (enum.fields.map (·.name)).Nodup)
    : (file.enums.flatMap fun enum => enum.fields.map enum.memberName).Nodup
      ↔ ∀ left ∈ file.enums,
        ∀ right ∈ file.enums,
          left ≠ right
          → ∀ value ∈ left.fields, ∀ other ∈ right.fields, ¬MembersMeet left right value other := by
  have within (enum : Definition) (member : enum ∈ file.enums)
      : (enum.fields.map enum.memberName).Nodup := by
    have qualified : Function.Injective (goCamelCase enum.scope ++ "_" ++ ·) :=
      fun _ _ same => (String.append_right_inj _).mp same
    have distinct := (values enum member).map qualified
    rwa [List.map_map] at distinct
  have apart (left : Definition) (member : left ∈ file.enums) (right : Definition)
      (memberToo : right ∈ file.enums)
      : (left.fields.map left.memberName).Disjoint (right.fields.map right.memberName)
        ↔ ∀ value ∈ left.fields, ∀ other ∈ right.fields, ¬MembersMeet left right value other := by
    have path := written.definitions.allPaths left (mem_enums.mp member).1
    have pathToo := written.definitions.allPaths right (mem_enums.mp memberToo).1
    simp only [← memberName_eq_iff path pathToo, List.disjoint_iff_ne, List.forall_mem_map,
      ne_eq]
  have distinct : file.enums.Nodup := names.of_map.filter _
  rw [List.nodup_flatMap, and_iff_right within, pairwise_disjoint_iff distinct]
  refine forall₂_congr fun left member => forall₂_congr fun right memberToo => ?_
  rw [apart left member right memberToo]

end Names

/-- The fields of each message are told apart in Go just if none is named by a respelling of the
name of another. -/
theorem Declares.fields_nodup_iff (h : file.Declares package) (allowed : file.Allowed)
    (written : file.Written)
    : (∀ message ∈ package.messages, (message.fields.map (·.goName)).Nodup)
      ↔ ∀ message ∈ file.messages,
        ∀ left ∈ message.fields,
        ∀ right ∈ message.fields,
          Respelled left.name.toList right.name.toList → left = right := by
  have each {message : Definition} {schema : MessageSchema} (member : message ∈ file.messages)
      (described : file.Describes message schema)
      : (schema.fields.map (·.goName)).Nodup
        ↔ ∀ left ∈ message.fields,
          ∀ right ∈ message.fields,
            Respelled left.name.toList right.name.toList → left = right := by
    obtain ⟨inside, kind⟩ := mem_messages.mp member
    exact described.fields_nodup_iff (allowed.messages message inside kind).names
      (written.definitions.identified message inside)
  constructor
  · intro distinct message member
    obtain ⟨schema, inside, described⟩ := h.messages.exists_right member
    exact (each member described).mp (distinct schema inside)
  · intro apart schema inside
    obtain ⟨message, member, described⟩ := h.messages.exists_left inside
    exact (each member described).mpr (apart message member)

/-- What is declared in Go for a package has different names just if definitions are told apart,
members are, and so is each definition from each member. -/
theorem Declares.idents_nodup_iff (h : file.Declares package)
    : package.idents.Nodup
      ↔ (file.declared.map fun definition => goCamelCase definition.name).Nodup
        ∧ (file.enums.flatMap fun enum => enum.fields.map enum.memberName).Nodup
        ∧ ∀ definition ∈ file.declared,
            ∀ enum ∈ file.enums,
            ∀ value ∈ enum.fields, goCamelCase definition.name ≠ enum.memberName value := by
  have named : Function.Injective fun name => GoIdent.mk name file.goPackageOf.importPath :=
    fun _ _ same => (GoIdent.mk.inj same).1
  rw [h.idents_eq, List.nodup_map_iff named, goNames, List.nodup_append]
  simp only [List.forall_mem_map, List.forall_mem_flatMap]

end File

/-- Go tells everything in a package apart just if the names in its file stay apart. -/
theorem compile_unambiguous_iff {text : String} {file : File} {package : Package}
    (read : File.ofText text = .ok file) (compiled : compile text = .ok package)
    : package.Unambiguous ↔ file.GoNamesApart := by
  obtain ⟨_, readToo, checked, -⟩ := compile_eq_ok.mp compiled
  cases read.symm.trans readToo
  obtain ⟨_, again, linkable, declares⟩ := compile_declares compiled
  cases read.symm.trans again
  have written := File.Written.of_text read
  have names := linkable.allowed.names
  have fields := declares.fields_nodup_iff linkable.allowed written
  have idents := declares.idents_nodup_iff
  rw [File.declared_nodup_iff written names,
    File.members_nodup_iff written names (file.values_nodup checked)] at idents
  constructor
  · intro unambiguous
    obtain ⟨definitions, members, mixed⟩ := idents.mp unambiguous.idents
    exact ⟨fields.mp unambiguous.fields, definitions, members, mixed⟩
  · intro apart
    exact ⟨fields.mpr apart.fields, idents.mpr ⟨apart.declared, apart.members, apart.mixed⟩⟩

def twinText : String :=
  "message A \x7b int32 a_b = 1; int32 AB = 2; \x7d"

def twinMessage : Definition :=
  {
    name := "A",
    position := ⟨1, 9⟩,
    kind := .message,
    fields :=
      [⟨"a_b", ⟨1, 19⟩, some "int32", .singular, 1⟩, ⟨"AB", ⟨1, 34⟩, some "int32", .singular, 2⟩],
    isMapEntry := false
  }

def twinFile : File :=
  { File.empty with definitions := [twinMessage] }

def twinPackage : Package :=
  {
    name := none,
    goPackage := ⟨"", "main"⟩,
    messages :=
      [
        {
          fullName := "A",
          ident := ⟨"A", ""⟩,
          fields :=
            [
              { FieldSchema.single "a_b" 1 .int32 with hasPresence := true },
              { FieldSchema.single "AB" 2 .int32 with hasPresence := true }
            ],
          isMapEntry := false
        }
      ],
    enums := [],
    services := []
  }

/-- Two fields of a message that compiles are both called AB. -/
theorem compile_unambiguous_iff_twin
    : File.ofText twinText = .ok twinFile
      ∧ compile twinText = .ok twinPackage
      ∧ ¬twinPackage.Unambiguous := by
  have written : File.ofText twinText = .ok twinFile :=
    toOption_eq_some.mp (by decide +kernel)
  have compiled : compile twinText = .ok twinPackage :=
    toOption_eq_some.mp (by decide +kernel)
  refine ⟨written, compiled, fun unambiguous => ?_⟩
  have apart := (compile_unambiguous_iff written compiled).mp unambiguous
  have capital : Naming.Respelling ['a', '_', 'b'] ['A', '_', 'b'] := .first (by decide)
  have joined : Naming.Respelling (['A'] ++ ['_', 'b']) (['A'] ++ ['B']) :=
    .underscore (by decide) (by decide)
  have respelled : Respelled "a_b".toList "AB".toList :=
    (Respelled.of_step capital).trans (.of_step joined)
  have same := apart.fields twinMessage (List.mem_singleton_self _) _ (List.mem_cons_self ..) _
    (List.mem_cons_of_mem _ (List.mem_singleton_self _)) respelled
  exact absurd same (by decide)

end Proto

end GrpcMock
