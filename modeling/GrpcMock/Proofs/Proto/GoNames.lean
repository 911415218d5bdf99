import GrpcMock.Proofs.Proto.Identifiers

/-!
The names that a compiled schema gives to Go. They come of identifiers and of paths of identifiers,
so that all of them are words.
-/

namespace GrpcMock

open GrpcMock.Text (isNameChar)

/-- A text of letters, digits and underscores. -/
def IsWord (text : String) : Prop :=
  ∀ c ∈ text.toList, isNameChar c

instance (text : String) : Decidable (IsWord text) :=
  decidable_of_iff (text.toList.all isNameChar) List.all_eq_true

/-- A word has no line break in it. -/
theorem newline_not_mem_of_isWord {text : String} (h : IsWord text) : '\n' ∉ text.toList :=
  fun newline => absurd (h '\n' newline) (by decide)

/-- Two words in a row are one. -/
theorem IsWord.append {left right : String} (hl : IsWord left) (hr : IsWord right)
    : IsWord (left ++ right) := by
  intro c member
  rw [String.toList_append] at member
  exact (List.mem_append.mp member).elim (hl c) (hr c)

structure ServiceSchema.GoNamed (service : ServiceSchema) : Prop where
  goName : IsWord service.goName
  fullName : '\n' ∉ service.fullName.toList
  methods : ∀ method ∈ service.methods, IsWord method.goName

/-- A package whose names can be written in Go. -/
structure Package.GoNamed (package : Package) : Prop where
  messages : ∀ message ∈ package.messages, IsWord message.ident.name
  fields : ∀ field, package.HasField field → IsWord field.goName
  enums : ∀ enum ∈ package.enums, IsWord enum.ident.name
  members : ∀ enum ∈ package.enums, ∀ member ∈ enum.members, IsWord member.ident.name
  services : ∀ service ∈ package.services, service.GoNamed

namespace Proto

-----------------------------------------------------------------------------------------
-- Services of a file
-----------------------------------------------------------------------------------------

/-- A service and its methods are named by identifiers. -/
structure Service.Identified (service : Service) : Prop where
  name : isIdentifier service.name
  methods : ∀ method ∈ service.methods, isIdentifier method.name

/-- A declaration of a service is one of a service that is named by an identifier. -/
def Declaration.Identified (declaration : Declaration) : Prop :=
  ∀ service, declaration = .service service → service.Identified

/-- A method that is read has an identifier for its name. -/
theorem readMethod_name {tokens rest : Tokens} {method : Rpc}
    (h : readMethod tokens = .ok (.item method, rest))
    : isIdentifier method.name := by
  unfold readMethod at h
  split at h
  · simp [expectWord, expect, Except.map] at h
  split at h
  · cases h
  split at h
  · cases h
  split at h
  · simp [map_eq_ok] at h
  · simp only [bind_eq_ok, pure_eq_ok, Prod.mk.injEq, Step.item.injEq] at h
    obtain ⟨_, -, ⟨name, _⟩, named, ⟨_, _⟩, -, _, -, ⟨_, _⟩, -, _, -, rfl, -⟩ := h
    exact expect_accepts named

/-- So has a service, and so have its methods. -/
theorem readService_identified {tokens rest : Tokens} {declaration : Declaration}
    (h : readService tokens = .ok (declaration, rest))
    : declaration.Identified := by
  simp only [readService, bind_eq_ok, pure_eq_ok, Prod.mk.injEq] at h
  obtain ⟨⟨name, _⟩, named, _, -, ⟨methods, _⟩, all, rfl, -⟩ := h
  rintro service ⟨⟩
  exact ⟨expect_accepts named, ItemReader.all_of_each readMethod_name all⟩

/-- Only a service could break this, so every declaration keeps it. -/
theorem readDeclaration_identified {isFirst : Bool} {token : Token} {left rest : Tokens}
    {declaration : Declaration} (h : readDeclaration isFirst token left = .ok (declaration, rest))
    : declaration.Identified := by
  unfold readDeclaration at h
  split at h
  · cases h
    nofun
  split at h
  · obtain ⟨name, rfl, -⟩ := readPackage_written h
    nofun
  split at h
  · rcases readOption_written h with rfl | ⟨value, rfl⟩ <;> nofun
  split at h
  · cases h
  split at h
  · obtain ⟨name, body, -, -, rfl⟩ := readMessage_written h
    nofun
  split at h
  · simp only [map_eq_ok, Prod.mk.injEq] at h
    obtain ⟨⟨definition, _⟩, -, rfl, -⟩ := h
    nofun
  split at h
  · exact readService_identified h
  split at h <;> cases h

/-- One declaration after the other, by induction on how they are read. -/
theorem readDeclarations_identified {file result : File} {tokens rest : Tokens}
    (before : ∀ service ∈ file.services, service.Identified)
    (h : readDeclarations file tokens = .ok (result, rest))
    : ∀ service ∈ result.services, service.Identified := by
  fun_induction readDeclarations file tokens with
  | case1 | case2 =>
      cases h
      exact before
  | case3 => cases h
  | case4 file token left _ declaration after read _ ih =>
      refine ih (fun service member => ?_) h
      cases declaration with
      | service added =>
          rcases List.mem_append.mp member with earlier | last
          · exact before service earlier
          · rw [List.mem_singleton.mp last]
            exact readDeclaration_identified read added rfl
      | _ => exact before service member

/-- The services of a file and their methods are named by identifiers. -/
theorem File.services_identified {text : String} {file : File} (h : File.ofText text = .ok file)
    : ∀ service ∈ file.services, service.Identified := by
  obtain ⟨tokens, -, parsed⟩ := bind_eq_ok.mp h
  obtain ⟨⟨result, _⟩, read, rfl⟩ := map_eq_ok.mp parsed
  simp only [readFile, bind_eq_ok] at read
  obtain ⟨⟨dialect, _⟩, -, declarations⟩ := read
  exact readDeclarations_identified (by simp [File.empty]) declarations

-----------------------------------------------------------------------------------------
-- Names of services
-----------------------------------------------------------------------------------------

/-- An identifier is a word. -/
theorem isIdentifier_isWord {name : String} (h : isIdentifier name) : IsWord name :=
  isIdentifier_isNameChar h

/-- So is its name in Go. -/
theorem goCamelCase_isWord {name : String} (h : isIdentifier name)
    : IsWord (Naming.goCamelCase name) :=
  Naming.goCamelCase_isNameChar fun c member _ => isIdentifier_isWord h c member

/-- No identifier has a line break in it. -/
theorem isIdentifier_newline_not_mem {name : String} (h : isIdentifier name)
    : '\n' ∉ name.toList :=
  newline_not_mem_of_isWord (isIdentifier_isWord h)

/-- Names with dots between them stand on one line. -/
theorem isTypeName_newline_not_mem {name : String} (h : isTypeName name)
    : '\n' ∉ name.toList := by
  have dotted (text : String) (parts : (Text.split '.' text).all isIdentifier)
      : '\n' ∉ text.toList := by
    intro newline
    have place : '\n' = '.' ∨ ∃ part ∈ Text.splitChars '.' text.toList, '\n' ∈ part :=
      Text.mem_splitChars newline
    rcases place with dot | ⟨part, listed, inside⟩
    · cases dot
    · have named := List.all_eq_true.mp parts _ (List.mem_map_of_mem listed)
      exact isIdentifier_newline_not_mem named (by rwa [String.toList_ofList])
  unfold isTypeName at h
  cases rooted : Text.stripStart? "." name with
  | none =>
      rw [rooted] at h
      exact dotted name h
  | some rest =>
      rw [rooted] at h
      rw [Text.eq_append_of_stripStart? rooted, String.toList_append, List.mem_append, not_or]
      exact ⟨by decide, dotted rest h⟩

/-- The full name of a service stands on one line. -/
theorem File.Written.newline_not_mem_qualify {file : File} (written : file.Written) {name : String}
    (h : isIdentifier name)
    : '\n' ∉ (Package.qualify file.package name).toList := by
  unfold Package.qualify
  split
  · rename_i package named
    simp only [String.toList_append, List.mem_append, not_or]
    exact ⟨⟨isTypeName_newline_not_mem (written.package package named), by decide⟩,
      isIdentifier_newline_not_mem h⟩
  · exact isIdentifier_newline_not_mem h

-----------------------------------------------------------------------------------------
-- Names of definitions
-----------------------------------------------------------------------------------------

/-- The name of a definition is a word in Go, as no dot is left in it. -/
theorem ScopeName.isWord {name : String} (h : ScopeName name)
    : IsWord (Naming.goCamelCase name) :=
  Naming.goCamelCase_isNameChar h.isNameChar

/-- The Go names of members are made of those of what is around their enum and of their own. -/
theorem File.enumSchema_members_isWord {file : File} {enum : Definition}
    (path : ScopeName enum.name) (named : ∀ value ∈ enum.fields, isIdentifier value.name)
    : ∀ member ∈ (file.enumSchema enum).members, IsWord member.ident.name := by
  intro member listed
  obtain ⟨value, inside, rfl⟩ := List.mem_map.mp listed
  have scope := path.around.isWord
  exact (IsWord.append scope (by decide)).append (isIdentifier_isWord (named value inside))

/-- A described service and its methods have words for their names in Go. -/
theorem File.DescribesService.goNamed {file : File} {service : Service} {schema : ServiceSchema}
    (h : file.DescribesService service schema) (written : file.Written)
    (named : service.Identified)
    : schema.GoNamed where
  goName := h.goName ▸ goCamelCase_isWord named.name
  fullName := h.fullName ▸ written.newline_not_mem_qualify named.name
  methods := by
    intro method listed
    obtain ⟨rpc, inside, described⟩ := h.methods.exists_left listed
    exact described.goName ▸ goCamelCase_isWord (named.methods rpc inside)

/-- What is declared in a text that compiles has names that can be written in Go. -/
theorem compile_goNamed {text : String} {package : Package} (h : compile text = .ok package)
    : package.GoNamed := by
  obtain ⟨file, read, _, declares⟩ := compile_declares h
  have written := File.Written.of_text read
  have identified := written.definitions.identified
  have paths := written.definitions.allPaths
  refine ⟨fun message member => ?_, fun field inside => ?_, fun enum member => ?_,
    fun enum member => ?_, fun service member => ?_⟩
  · obtain ⟨definition, listed, described⟩ := declares.messages.exists_left member
    cases described
    exact (paths definition (File.mem_messages.mp listed).1).isWord
  · have named := (compile_named h).fields field inside
    exact named.goName ▸ goCamelCase_isWord named.name
  · rw [declares.enums] at member
    obtain ⟨definition, inside, rfl⟩ := List.mem_map.mp member
    exact (paths definition (File.mem_enums.mp inside).1).isWord
  · rw [declares.enums] at member
    obtain ⟨definition, inside, rfl⟩ := List.mem_map.mp member
    have listed := (File.mem_enums.mp inside).1
    exact File.enumSchema_members_isWord (paths definition listed) (identified definition listed)
  · obtain ⟨declared, inside, described⟩ := declares.services.exists_left member
    exact described.goNamed written (File.services_identified read declared inside)

end Proto

end GrpcMock
