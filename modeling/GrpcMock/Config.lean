import GrpcMock.Document.Record
import GrpcMock.Failure
import GrpcMock.Json.Reader
import GrpcMock.StatusCode

/-!
Settings for the file that is generated. Each of them has a default, and they must be such that the
names built from them are names in Go.
-/

namespace GrpcMock

open GrpcMock.Document (Reader Shape Slot)

structure Config where
  /-- The package of the file; without it the file belongs to the package of the schema. -/
  packageName : Option String
  /-- What the name of each mock begins with. -/
  stubPrefix : String
  /-- The status code for requests that match no case. -/
  unmatchedCode : String
  deriving DecidableEq, Repr

namespace Config

def standard : Config :=
  { packageName := none, stubPrefix := "Stub", unmatchedCode := "Unimplemented" }

/-- A name in Go, of ASCII characters only. -/
def isGoName (text : String) : Bool :=
  match text.toList with
  | [] => false
  | first :: rest =>
      (first.isAlpha || first = '_') && rest.all fun c => c.isAlphanum || c = '_'

/-- Fails at the first setting that cannot be used. -/
def check (config : Config) : Except Failure Unit := do
  match config.packageName with
  | some name => if !isGoName name then throw (.badPackageName name)
  | none => pure ()
  if !isGoName config.stubPrefix then throw (.badStubPrefix config.stubPrefix)
  if !StatusCode.isName config.unmatchedCode then throw (.unknownCode config.unmatchedCode)

def shape : Shape (Option (Option String) × Option String × Option String) :=
  {
    name := "GeneratorConfig",
    slots :=
      [
        .first "packageName" false .optionalText,
        .next (.first "stubPrefix" false .text),
        .next (.next (.last "unmatchedCode" false .text))
      ],
    blank := (none, none, none)
  }

def reader : Reader Config :=
  shape.reader fun (packageName, stubPrefix, unmatchedCode) =>
    {
      packageName := packageName.getD standard.packageName,
      stubPrefix := stubPrefix.getD standard.stubPrefix,
      unmatchedCode := unmatchedCode.getD standard.unmatchedCode
    }

/-- Reads settings from a JSON text and checks them. -/
def ofText (text : String) : Except Failure Config := do
  let config ← (Json.readTyped reader.read text).mapError .json
  config.check
  pure config

def toJson (config : Config) : Json :=
  .object
    [
      ("packageName", (config.packageName.map Json.string).getD .null),
      ("stubPrefix", .string config.stubPrefix),
      ("unmatchedCode", .string config.unmatchedCode)
    ]

end Config

end GrpcMock
