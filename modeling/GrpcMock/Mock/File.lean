import GrpcMock.Mock.Server

/-!
The Go file with the mocks for a contract. It belongs to the package of the schema unless the
settings name another one, and it imports what its text refers to.
-/

namespace GrpcMock.Mock

open GrpcMock.Go (Imports)
open GrpcMock.Text (singleLine)

def header : String := "// Code generated by deal. DO NOT EDIT."

/-- The package that the file belongs to. -/
def packageName (config : Config) (package : Package) : String :=
  config.packageName.getD package.goPackage.name

/-- The import path of the file, if it belongs to the package of the schema. -/
def localPath (config : Config) (package : Package) : String :=
  if packageName config package = package.goPackage.name then package.goPackage.importPath else ""

/-- The file with its parts in order. -/
def assemble (packageName contractName : String) (imports : Imports) (body : List String)
    : String :=
  let opening :=
    [header, "// contract: " ++ singleLine contractName, "", "package " ++ packageName, ""]
  let importLines := if imports.aliases.isEmpty then [] else [imports.render]
  "\n".intercalate (opening ++ importLines ++ body)

/-- The mocks for a contract, for the services that a schema declares. -/
def generate (package : Package) (contract : Contract) (config : Config)
    : Except Failure String := do
  config.check
  let start := Imports.empty (localPath config package)
  let (body, imports) :=
    (servers .imports config package contract.name contract.services).run.run start
  let body ← body
  pure (assemble (packageName config package) contract.name imports body)

end GrpcMock.Mock
