import GrpcMock.Mock.File
import GrpcMock.Proofs.Go.Imports
import GrpcMock.Proofs.Mock.Checks
import GrpcMock.Proofs.Proto.GoNames

/-!
The names that a file of mocks takes from a schema and from the settings. All of them are
identifiers, and those by which other packages refer to a schema begin with a capital.
-/

namespace GrpcMock

open GrpcMock.Proto (isIdentifier)

/-- An identifier that other packages can refer to. -/
structure IsExported (name : String) : Prop where
  identifier : isIdentifier name
  capital : ∃ c ∈ name.toList.head?, c.isUpper

/-- A package whose names are identifiers. All of them are exported but for those of the members of
enums, which follow the names of what is around their enums. -/
structure Package.Exported (package : Package) : Prop where
  name : isIdentifier package.goPackage.name
  messages : ∀ message ∈ package.messages, IsExported message.ident.name
  fields : ∀ message ∈ package.messages, ∀ field ∈ message.fields, IsExported field.goName
  enums : ∀ enum ∈ package.enums, IsExported enum.ident.name
  members : ∀ enum ∈ package.enums, ∀ member ∈ enum.members, isIdentifier member.ident.name
  services : ∀ service ∈ package.services, IsExported service.goName
  methods
    : ∀ service ∈ package.services, ∀ method ∈ service.methods, IsExported method.goName

/-- A file of mocks whose own names are identifiers. -/
structure Mock.Identified (config : Config) (package : Package) : Prop where
  packageName : isIdentifier (packageName config package)
  stubs : ∀ service ∈ package.services, isIdentifier (stubName config service)

namespace Proto

-----------------------------------------------------------------------------------------
-- Names of a schema
-----------------------------------------------------------------------------------------

theorem ScopeName.isExported {name : String} (h : ScopeName name)
    : IsExported (Naming.goCamelCase name) := by
  obtain ⟨capital, others, chars, upper⟩ := h.goCamelCase_head
  refine ⟨h.isIdentifier_goCamelCase, capital, ?_, upper⟩
  rw [chars]
  rfl

theorem isIdentifier_isExported {name : String} (named : isIdentifier name)
    : IsExported (Naming.goCamelCase name) :=
  (ScopeName.root named).isExported

/-- The members of an enum are named after a path, which ends before the last name of the enum. -/
theorem File.enumSchema_members_isIdentifier {file : File} {enum : Definition}
    (path : ScopeName enum.name) (named : ∀ value ∈ enum.fields, isIdentifier value.name)
    : ∀ member ∈ (file.enumSchema enum).members, isIdentifier member.ident.name := by
  intro member listed
  obtain ⟨value, inside, rfl⟩ := List.mem_map.mp listed
  have outer : ScopeName ((Text.beforeLast? '.' enum.name).getD enum.name) := path.around
  have tail : ∀ c ∈ ("_" ++ value.name).toList, Text.isNameChar c := by
    intro c present
    rw [String.toList_append] at present
    rcases List.mem_append.mp present with underscore | own
    · rw [List.mem_singleton.mp underscore]
      decide
    · exact isIdentifier_isNameChar (named value inside) c own
  have joined := isIdentifier_append outer.isIdentifier_goCamelCase tail
  rwa [← String.append_assoc] at joined

/-- The Go package of a file has an identifier for a name, wherever the name comes from. -/
theorem goPackage_isIdentifier (package option : Option String)
    : isIdentifier (GoPackage.ofFile package option).name := by
  cases option with
  | none => simp only [GoPackage.ofFile, GoPackage.ofName, Go.isIdentifier_goPackageName]
  | some option =>
      simp only [GoPackage.ofFile, GoPackage.ofOption]
      split <;> apply Go.isIdentifier_goPackageName

/-- What is declared in a text that compiles is called by identifiers, which are exported. -/
theorem compile_exported {text : String} {package : Package} (h : compile text = .ok package)
    : package.Exported := by
  obtain ⟨file, read, _, declares⟩ := compile_declares h
  have written := File.Written.of_text read
  have identified := written.definitions.identified
  have paths := written.definitions.allPaths
  refine ⟨?name, fun message member => ?messages, fun message member field inside => ?fields,
    fun enum member => ?enums, fun enum member => ?members, fun service member => ?services,
    fun service member method inside => ?methods⟩
  case name =>
    rw [declares.goPackage]
    exact goPackage_isIdentifier file.package file.goPackage
  case messages =>
    obtain ⟨definition, listed, described⟩ := declares.messages.exists_left member
    cases described
    exact (paths definition (File.mem_messages.mp listed).1).isExported
  case fields =>
    have named := (compile_named h).within member field inside
    exact named.goName ▸ isIdentifier_isExported named.name
  case enums =>
    rw [declares.enums] at member
    obtain ⟨definition, listed, rfl⟩ := List.mem_map.mp member
    exact (paths definition (File.mem_enums.mp listed).1).isExported
  case members =>
    rw [declares.enums] at member
    obtain ⟨definition, listed, rfl⟩ := List.mem_map.mp member
    have inFile := (File.mem_enums.mp listed).1
    exact File.enumSchema_members_isIdentifier (paths definition inFile)
      (identified definition inFile)
  case services =>
    obtain ⟨declared, listed, described⟩ := declares.services.exists_left member
    have named := File.services_identified read declared listed
    exact described.goName ▸ isIdentifier_isExported named.name
  case methods =>
    obtain ⟨declared, listed, described⟩ := declares.services.exists_left member
    obtain ⟨rpc, rpcListed, rpcDescribed⟩ := described.methods.exists_left inside
    have named := (File.services_identified read declared listed).methods rpc rpcListed
    exact rpcDescribed.goName ▸ isIdentifier_isExported named

end Proto

namespace Mock

-----------------------------------------------------------------------------------------
-- Names of a file
-----------------------------------------------------------------------------------------

/-- The settings are checked for the names that a schema can have. -/
theorem isIdentifier_of_isGoName {name : String} (h : Config.isGoName name)
    : isIdentifier name := by
  unfold Config.isGoName at h
  split at h
  · cases h
  rename_i first rest chars
  simp only [Bool.and_eq_true, List.all_eq_true] at h
  obtain ⟨starts, each⟩ := h
  rw [← String.ofList_toList (s := name), chars]
  refine Go.isIdentifier_cons.mpr ⟨starts, List.forall_mem_cons.mpr ⟨?_, each⟩⟩
  exact Text.isNameChar_of_isNameStart starts

/-- With settings that are valid, all that the names of a file come from are identifiers: what is
declared in the schema, its package, and the mocks of its services. -/
theorem names_are_identifiers {text : String} {package : Package} {config : Config}
    (compiled : Proto.compile text = .ok package) (valid : config.check = .ok ())
    : package.Exported ∧ Identified config package := by
  have exported := Proto.compile_exported compiled
  obtain ⟨packaged, prefixed, -⟩ := config_check_eq_ok.mp valid
  refine ⟨exported, ?package, fun service member => ?stub⟩
  case package =>
    unfold packageName
    cases named : config.packageName with
    | none => exact exported.name
    | some name => exact isIdentifier_of_isGoName (packaged name named)
  case stub =>
    have serviceName := Proto.isIdentifier_isNameChar (exported.services service member).identifier
    have started := Proto.isIdentifier_append (isIdentifier_of_isGoName prefixed) serviceName
    exact Proto.isIdentifier_append started (List.all_eq_true.mp (by decide))

def deskText : String :=
  "option go_package = \"shop/v1;shop-v1\"; "
    ++ "message line_item \x7b enum _state \x7b OPEN = 0; \x7d _state at = 1; \x7d "
    ++ "service _desk \x7b rpc find_item (line_item) returns (line_item); \x7d"

def stateEnum : EnumSchema :=
  {
    fullName := "line_item._state",
    ident := ⟨"LineItem_XState", "shop/v1"⟩,
    members := [⟨"OPEN", 0, ⟨"LineItem_OPEN", "shop/v1"⟩⟩]
  }

def lineItemMessage : MessageSchema :=
  {
    fullName := "line_item",
    ident := ⟨"LineItem", "shop/v1"⟩,
    fields :=
      [
        { FieldSchema.single "at" 1 .enum with
          hasPresence := true, enumType := some stateEnum }
      ],
    isMapEntry := false
  }

def deskPackage : Package :=
  {
    name := none,
    goPackage := ⟨"shop/v1", "shop_v1"⟩,
    messages := [lineItemMessage],
    enums := [stateEnum],
    services :=
      [⟨"_desk", "_desk", "XDesk", [⟨"find_item", "FindItem", lineItemMessage, lineItemMessage⟩]⟩]
  }

/-- Names that begin with an underscore are exported as well. -/
theorem names_are_identifiers_desk
    : Proto.compile deskText = .ok deskPackage
      ∧ Config.standard.check = .ok ()
      ∧ deskPackage.Exported
      ∧ Identified Config.standard deskPackage := by
  have compiled : Proto.compile deskText = .ok deskPackage :=
    toOption_eq_some.mp (by decide +kernel)
  exact ⟨compiled, config_check_standard, names_are_identifiers compiled config_check_standard⟩

end Mock

end GrpcMock
