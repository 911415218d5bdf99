import GrpcMock.Config
import GrpcMock.Mock.Branch

/-!
Mock servers: a type for each service of a contract, with a method for each method that has cases. A
request that matches no case fails with the status that the settings give.
-/

namespace GrpcMock.Mock

open GrpcMock.Go (Rendering Speller)
open GrpcMock.Text (quote)

variable {σ : Type} (speller : Speller σ)

def contextPath : String := "context"

/-- The name of the type that mocks a service. -/
def stubName (config : Config) (service : ServiceSchema) : String :=
  config.stubPrefix ++ service.goName ++ "Server"

/-- The type that mocks a service. It embeds the server that the schema's own package provides. -/
def serverType (config : Config) (package : Package) (service : ServiceSchema)
    (contractName : String) : Rendering σ String := do
  let name := stubName config service
  let embedded ← speller.writeFrom package.goPackage.importPath
    ("Unimplemented" ++ service.goName ++ "Server")
  pure
    ("// " ++ name ++ " answers " ++ service.fullName ++ " calls from contract "
      ++ quote contractName ++ ".\ntype " ++ name ++ " struct \x7b\n\t" ++ embedded ++ "\n\x7d\n")

/-- The method that answers the calls of a method. -/
def handler (config : Config) (service : ServiceSchema) (method : MethodSchema) (cases : Cases)
    : Rendering σ String := do
  let context ← speller.writeFrom contextPath "Context"
  let input ← speller.write method.input.ident
  let output ← speller.write method.output.ident
  let opening :=
    "func (s *" ++ stubName config service ++ ") " ++ method.goName ++ "(ctx " ++ context
      ++ ", req *" ++ input ++ ") (*" ++ output ++ ", error) \x7b"
  let successes ← successBranches speller service method 0 cases.successes
  let failures ← failureBranches speller service method 0 cases.failures
  let unmatched ← statusError speller config.unmatchedCode
    ("no case of " ++ service.name ++ "." ++ method.name ++ " matches the request")
  pure ("\n".intercalate
    (opening :: (successes ++ failures ++ ["\treturn nil, " ++ unmatched, "\x7d\n"])))

/-- The methods of a mock, for the methods of the contract by name. -/
def handlers (config : Config) (serviceName : String) (service : ServiceSchema)
    : List (String × Cases) → Rendering σ (List String)
  | [] => pure []
  | (methodName, cases) :: rest =>
      match service.method? methodName with
      | none => throw (.unknownMethod serviceName methodName)
      | some method => do
          let first ← handler speller config service method cases
          let rest ← handlers config serviceName service rest
          pure (first :: rest)

/-- The mocks for the services of a contract. -/
def servers (config : Config) (package : Package) (contractName : String)
    : List (String × List (String × Cases)) → Rendering σ (List String)
  | [] => pure []
  | (serviceName, methods) :: rest =>
      match package.service? serviceName with
      | none => throw (.unknownService serviceName)
      | some service => do
          let type ← serverType speller config package service contractName
          let methods ← handlers speller config serviceName service methods
          let rest ← servers config package contractName rest
          pure (type :: methods ++ rest)

end GrpcMock.Mock
