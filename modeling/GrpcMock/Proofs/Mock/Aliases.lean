import GrpcMock.Proofs.Go.Asked
import GrpcMock.Proofs.Mock.Headings

/-!
The names that packages get in a file of mocks. Nothing keeps such a name from being a keyword or
the name of something else in the text around it, but only the package of the schema can get one
that is.
-/

namespace GrpcMock.Mock

open GrpcMock.Go (Asks Imports Rendering Speller)
open GrpcMock.Go.Imports (baseName numbered)
open GrpcMock.Go.Rendering (run_bind_eq_ok run_pure_eq_ok run_write_eq_ok)

variable {own : String}

-----------------------------------------------------------------------------------------
-- Names that mean something else
-----------------------------------------------------------------------------------------

def keywords : List String :=
  [
    "break", "case", "chan", "const", "continue", "default", "defer", "else", "fallthrough", "for",
    "func", "go", "goto", "if", "import", "interface", "map", "package", "range", "return",
    "select", "struct", "switch", "type", "var"
  ]

/-- The names of the receiver and of the parameters of a mocked method. -/
def handlerNames : List String :=
  ["s", "ctx", "req"]

/-- The names that Go declares itself and that the text of a file uses. -/
def predeclaredNames : List String :=
  [
    "error", "nil", "true", "false", "bool", "string", "byte", "int32", "int64", "uint32",
    "uint64", "float32", "float64"
  ]

/-- A name that means something else than a package where the text of a file uses it. -/
def IsCaptured (name : String) : Prop :=
  name ∈ keywords ++ handlerNames ++ predeclaredNames

instance (name : String) : Decidable (IsCaptured name) :=
  inferInstanceAs (Decidable (name ∈ keywords ++ handlerNames ++ predeclaredNames))

/-- The packages that a mock relies on, whatever its schema is. -/
def helperPaths : List String :=
  [contextPath, codesPath, statusPath, Go.protoPath, Go.mathPath]

/-- No name that begins like that of a package which mocks rely on is captured. -/
theorem not_isCaptured_of_begins {helper name : String} (member : helper ∈ helperPaths)
    (begins : (baseName helper).toList <+: name.toList)
    : ¬IsCaptured name := by
  have apart
      : ∀ word ∈ keywords ++ handlerNames ++ predeclaredNames,
        ∀ helper ∈ helperPaths, ¬(baseName helper).toList <+: word.toList := by
    decide +kernel
  exact fun captured => apart name captured helper member begins

-----------------------------------------------------------------------------------------
-- Names of packages
-----------------------------------------------------------------------------------------

/-- Imports in which one package is called by the last part of its path, if it is imported, and in
which the names of all others begin with that of a package that mocks rely on. -/
structure Told (own : String) (imports : Imports) : Prop where
  known : own = "" ∨ own = imports.localPath ∨ imports.name? own = some (baseName own)
  foreign : ∀ entry ∈ imports.aliases, entry.1 ≠ "" ∧ entry.1 ≠ imports.localPath
  names
    : ∀ entry ∈ imports.aliases,
        entry = (own, baseName own)
        ∨ ∃ helper ∈ helperPaths, (baseName helper).toList <+: entry.2.toList

namespace Told

/-- The first package that is imported gets the last part of its path for a name. -/
theorem first (own localPath name : String)
    : Told own ((Imports.empty localPath).spell ⟨name, own⟩).2 := by
  by_cases within : (Imports.empty localPath).IsLocal ⟨name, own⟩
  · rw [Imports.spell_of_isLocal within]
    exact ⟨within.imp_right .inl, nofun, nofun⟩
  · have unnamed : (Imports.empty localPath).name? own = none := rfl
    obtain ⟨n, ends, given⟩ := Imports.importPath_of_unnamed unnamed
    have zero : n = 0 := by
      by_contra positive
      exact absurd (ends.least 0 (Nat.pos_of_ne_zero positive)) List.not_mem_nil
    subst zero
    have base : numbered (baseName own) 0 = baseName own := if_pos rfl
    rw [base] at given
    rw [Imports.spell_of_not_isLocal within, given]
    refine ⟨.inr (.inr ((Imports.name?_withName ..).trans (if_pos rfl))), ?_, ?_⟩
    · exact List.forall_mem_singleton.mpr (not_or.mp within)
    · exact List.forall_mem_singleton.mpr (.inl rfl)

/-- A package that is asked for later is one that has its name, or one that mocks rely on. -/
theorem spell {imports : Imports} (h : Told own imports) {ident : GoIdent}
    (allowed : ident.importPath = own ∨ ident.importPath ∈ helperPaths)
    : Told own (imports.spell ident).2 := by
  have grown := imports.extends_spell ident
  have named
      : own = ""
        ∨ own = (imports.spell ident).2.localPath
        ∨ (imports.spell ident).2.name? own = some (baseName own) := by
    rw [grown.localPath]
    exact h.known.imp_right fun rest => rest.imp_right (grown.names own _)
  by_cases within : imports.IsLocal ident
  · rw [Imports.spell_of_isLocal within]
    exact h
  rw [Imports.spell_of_not_isLocal within] at named ⊢
  rcases imports.importPath_cases ident.importPath with ⟨name, -, given⟩ | ⟨n, unnamed, -, given⟩
  · rw [given]
    exact h
  have helper : ident.importPath ∈ helperPaths := by
    rcases allowed with rfl | helper
    · rcases h.known with empty | same | known
      · exact absurd (.inl empty) within
      · exact absurd (.inr same) within
      · cases unnamed.symm.trans known
    · exact helper
  rw [given] at named ⊢
  refine ⟨named, fun entry member => ?_, fun entry member => ?_⟩
  · rcases Sorted.mem_insert member with rfl | earlier
    · exact not_or.mp within
    · exact h.foreign entry earlier
  · rcases Sorted.mem_insert member with rfl | earlier
    · refine .inr ⟨ident.importPath, helper, ?_⟩
      rw [Imports.toList_numbered]
      exact List.prefix_append ..
    · exact h.names entry earlier

/-- One identifier after the other, by induction on the identifiers. -/
theorem after {imports : Imports} (h : Told own imports) {idents : List GoIdent}
    (allowed : ∀ ident ∈ idents, ident.importPath = own ∨ ident.importPath ∈ helperPaths)
    : Told own (imports.after (idents.map .spell)) := by
  induction idents generalizing imports with
  | nil => exact h
  | cons ident rest ih =>
      obtain ⟨head, tail⟩ := List.forall_mem_cons.mp allowed
      exact ih (h.spell head) tail

/-- A name is captured just if it is that of the package of which nothing is known. -/
theorem captured_iff {imports : Imports} (h : Told own imports)
    : (∃ entry ∈ imports.aliases, IsCaptured entry.2)
      ↔ own ≠ "" ∧ own ≠ imports.localPath ∧ IsCaptured (baseName own) := by
  constructor
  · rintro ⟨entry, member, captured⟩
    rcases h.names entry member with rfl | ⟨helper, listed, begins⟩
    · exact ⟨(h.foreign _ member).1, (h.foreign _ member).2, captured⟩
    · exact absurd captured (not_isCaptured_of_begins listed begins)
  · rintro ⟨filled, foreign, captured⟩
    rcases h.known with empty | same | named
    · exact absurd empty filled
    · exact absurd same foreign
    · exact ⟨_, Sorted.mem_of_find? named, captured⟩

end Told

-----------------------------------------------------------------------------------------
-- What mocks ask for
-----------------------------------------------------------------------------------------

/-- The packages that a file of mocks may mention. -/
def Mentionable (package : Package) (path : String) : Prop :=
  path = package.goPackage.importPath ∨ path ∈ helperPaths

variable {package : Package}

/-- Literals mention nothing but what mocks may mention. -/
theorem allowsLiterals : Go.AllowsLiterals (Mentionable package) package where
  own := .inl rfl
  math := .inr (by decide)
  proto := .inr (by decide)

/-- In which case something stands does not change what it asks for. -/
theorem Asks.inCase {allowed : String → Prop} {service method case : String}
    {rendering : Rendering Imports String} (h : Asks allowed rendering)
    : Asks allowed (inCase service method case rendering) := by
  intro before
  rw [run_inCase]
  exact h before

/-- The error of a status asks for the two packages of the service framework. -/
theorem statusError_asks {code message : String}
    : Asks (Mentionable package) (statusError .imports code message) := by
  have status : statusPath ∈ helperPaths := by decide
  have codes : codesPath ∈ helperPaths := by decide
  exact Asks.bind (.write (.inr status)) fun _ => Asks.bind (.write (.inr codes)) fun _ => .pure

section Branches

variable (h : package.WellFormed) (home : package.Home)

include h home

/-- The literal of a payload asks for what the literal of its message does. -/
theorem payloadLiteral_asks {schema : MessageSchema} (member : schema ∈ package.messages)
    {payload : Json} {path : String}
    : Asks (Mentionable package) (payloadLiteral .imports schema payload path) := by
  unfold payloadLiteral
  cases Payload.readMessage schema payload path with
  | error failure => exact .throw_bind
  | ok fields => exact Go.messageLiteral_asks h home allowsLiterals member fields

variable {method : MethodSchema} (input : method.input ∈ package.messages)

include input

/-- So does the test of a request, and for the package that compares messages. -/
theorem requestTest_asks {request : Json}
    : Asks (Mentionable package) (requestTest .imports method request) :=
  (payloadLiteral_asks h home input).bind fun _ =>
    Asks.bind (.write (.inr (by decide))) fun _ => .pure

/-- The branches of successes ask for what their tests and responses do, by induction on them. -/
theorem successBranches_asks (output : method.output ∈ package.messages) {service : ServiceSchema}
    {index : Nat} {cases : List SuccessCase}
    : Asks (Mentionable package) (successBranches .imports service method index cases) := by
  induction cases generalizing index with
  | nil => exact .pure
  | cons case rest ih =>
      have branch : Asks (Mentionable package) (successBranch .imports method case) :=
        (requestTest_asks h home input).bind fun _ =>
          (payloadLiteral_asks h home output).bind fun _ => .pure
      exact (Asks.inCase branch).bind fun _ => ih.bind fun _ => .pure

/-- Those of failures ask for what their tests and errors do. -/
theorem failureBranches_asks {service : ServiceSchema} {index : Nat} {cases : List FailureCase}
    : Asks (Mentionable package) (failureBranches .imports service method index cases) := by
  induction cases generalizing index with
  | nil => exact .pure
  | cons case rest ih =>
      have branch : Asks (Mentionable package) (failureBranch .imports method case) := by
        unfold failureBranch
        split
        · exact .throw_bind
        · exact (requestTest_asks h home input).bind fun _ => statusError_asks.bind fun _ => .pure
      exact (Asks.inCase branch).bind fun _ => ih.bind fun _ => .pure

end Branches

section Servers

variable (h : package.WellFormed) (home : package.Home) {config : Config}

include h home

/-- A handler asks for what its head and its branches do. -/
theorem handler_asks {service : ServiceSchema} {method : MethodSchema}
    (member : service ∈ package.services) (listed : method ∈ service.methods) {cases : Cases}
    : Asks (Mentionable package) (handler .imports config service method cases) := by
  obtain ⟨input, output⟩ := h.methods service member method listed
  refine Asks.bind (.write (.inr (by decide))) fun _ => ?_
  refine (Go.message_asks home allowsLiterals input).bind fun _ => ?_
  refine (Go.message_asks home allowsLiterals output).bind fun _ => ?_
  refine (successBranches_asks h home input output).bind fun _ => ?_
  exact (failureBranches_asks h home input).bind fun _ => statusError_asks.bind fun _ => .pure

/-- The methods of a mock, by induction on those of the contract. -/
theorem handlers_asks {service : ServiceSchema} (member : service ∈ package.services)
    {serviceName : String} {methods : List (String × Cases)}
    : Asks (Mentionable package) (handlers .imports config serviceName service methods) := by
  induction methods with
  | nil => exact .pure
  | cons method rest ih =>
      rw [handlers]
      split
      · exact .throw
      · rename_i schema found
        have listed : schema ∈ service.methods := List.mem_of_find?_eq_some found
        exact (handler_asks h home member listed).bind fun _ => ih.bind fun _ => .pure

/-- All mocks of a file, by induction on the services of the contract. -/
theorem servers_asks {contractName : String} {services : List (String × List (String × Cases))}
    : Asks (Mentionable package) (servers .imports config package contractName services) := by
  induction services with
  | nil => exact .pure
  | cons service rest ih =>
      rw [servers]
      split
      · exact .throw
      · rename_i schema found
        have member : schema ∈ package.services := List.mem_of_find?_eq_some found
        refine Asks.bind (Asks.bind (.write (.inl rfl)) fun _ => .pure) fun _ => ?_
        exact (handlers_asks h home member).bind fun _ => ih.bind fun _ => .pure

/-- Before anything else, the first mock asks for the package of the schema, the server of which it
embeds. -/
theorem servers_told {contractName localPath : String}
    {services : List (String × List (String × Cases))} {texts : List String} {imports : Imports}
    (filled : services ≠ [])
    (run
      : (servers .imports config package contractName services).run.run (.empty localPath)
        = (.ok texts, imports))
    : Told package.goPackage.importPath imports := by
  cases services with
  | nil => exact absurd rfl filled
  | cons service rest =>
      rw [servers] at run
      split at run
      · cases run
      rename_i schema found
      have member : schema ∈ package.services := List.mem_of_find?_eq_some found
      obtain ⟨type, _, typeRun, restRun⟩ := run_bind_eq_ok.mp run
      obtain ⟨embedded, _, spelled, typed⟩ := run_bind_eq_ok.mp typeRun
      obtain ⟨-, rfl⟩ := run_pure_eq_ok.mp typed
      obtain ⟨-, rfl⟩ := Prod.ext_iff.mp (run_write_eq_ok.mp spelled)
      have told := Told.first package.goPackage.importPath localPath
        ("Unimplemented" ++ schema.goName ++ "Server")
      have others
          : Asks (Mentionable package) (do
              let methods ← handlers .imports config service.1 schema service.2
              let rest ← servers .imports config package contractName rest
              pure (type :: methods ++ rest)) :=
        (handlers_asks h home member).bind fun _ => (servers_asks h home).bind fun _ => .pure
      obtain ⟨idents, allowed, last⟩ := others _
      rw [restRun] at last
      rw [show imports = _ from last]
      exact told.after allowed

end Servers

-----------------------------------------------------------------------------------------
-- Files
-----------------------------------------------------------------------------------------

/-- The imports of a file give a captured name to some package just if the last part of the path of
its schema's package is captured, and the file imports that package: it mocks some service, and does
not belong to that package itself. -/
theorem alias_captured_iff {schema text : String} {package : Package} {contract : Contract}
    {config : Config} (compiled : Proto.compile schema = .ok package)
    (made : generate package contract config = .ok text)
    : ∃ body,
        text
          = assemble (packageName config package) contract.name
              (imported package contract config) body
        ∧ ((∃ entry ∈ (imported package contract config).aliases, IsCaptured entry.2)
          ↔ contract.services ≠ []
            ∧ package.goPackage.importPath ≠ ""
            ∧ packageName config package ≠ package.goPackage.name
            ∧ IsCaptured (baseName package.goPackage.importPath)) := by
  obtain ⟨-, imports, body, run, written⟩ := generate_eq_ok made
  have same : imported package contract config = imports := by rw [imported, run]
  rw [same]
  refine ⟨body, written, ?_⟩
  by_cases filled : contract.services = []
  · rw [filled] at run
    obtain ⟨-, rfl⟩ := run_pure_eq_ok.mp run
    refine iff_of_false ?_ fun both => both.1 filled
    rintro ⟨entry, member, -⟩
    exact List.not_mem_nil member
  have wellFormed := Proto.compile_wellFormed compiled
  have home := Proto.compile_home compiled
  have told := servers_told wellFormed home filled run
  have asks
      : Asks (Mentionable package)
          (servers .imports config package contract.name contract.services) :=
    servers_asks wellFormed home
  have kept : imports.localPath = localPath config package := by
    have grown := asks.isExtension (.empty (localPath config package))
    rw [run] at grown
    exact grown.localPath
  rw [told.captured_iff, kept, localPath, and_iff_right filled]
  refine and_congr_right fun foreign => and_congr_left' ?_
  split
  · rename_i own
    exact iff_of_false (fun differs => differs rfl) fun differs => differs own
  · rename_i other
    exact iff_of_true foreign other

def errorSchemaText : String :=
  "option go_package = \"shop/error\"; message Letter \x7b string text = 1; \x7d "
    ++ "service Post \x7b rpc Send (Letter) returns (Letter); \x7d"

def errorMessage : MessageSchema :=
  { letterMessage with ident := ⟨"Letter", "shop/error"⟩ }

def errorPackage : Package :=
  {
    name := none,
    goPackage := ⟨"shop/error", "error"⟩,
    messages := [errorMessage],
    enums := [],
    services := [⟨"Post", "Post", "Post", [⟨"Send", "Send", errorMessage, errorMessage⟩]⟩]
  }

/-- A mock without cases. -/
def errorContract : Contract :=
  { name := "letters", services := [("Post", [("Send", ⟨[], []⟩)])] }

/-- The package of a schema that is called error takes the name of the type of errors. -/
theorem alias_captured_iff_error
    : Proto.compile errorSchemaText = .ok errorPackage
      ∧ ∃ text body,
          generate errorPackage errorContract letterConfig = .ok text
          ∧ text
            = assemble "mocks" "letters" (imported errorPackage errorContract letterConfig) body
          ∧ ∃ entry ∈ (imported errorPackage errorContract letterConfig).aliases,
              IsCaptured entry.2 := by
  have compiled : Proto.compile errorSchemaText = .ok errorPackage :=
    toOption_eq_some.mp (by decide +kernel)
  have some : (generate errorPackage errorContract letterConfig).toOption.isSome := by
    decide +kernel
  obtain ⟨text, made⟩ := Option.isSome_iff_exists.mp some
  have made := toOption_eq_some.mp made
  obtain ⟨body, written, captured⟩ := alias_captured_iff compiled made
  have base : IsCaptured (baseName errorPackage.goPackage.importPath) := by decide +kernel
  exact ⟨compiled, text, body, made, written,
    captured.mpr ⟨List.cons_ne_nil _ _, by decide, by decide, base⟩⟩

end GrpcMock.Mock
