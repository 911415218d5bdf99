import GrpcMock.Contract.Reader
import GrpcMock.Mock.File
import GrpcMock.Proto.Compile
import GrpcMock.Host

/-!
From texts and files to mocks. Each stage comes only after the ones before it have succeeded, so a
failure is always that of the first stage that fails.
-/

namespace GrpcMock

/-- The mocks for a contract that is given as text. -/
def generateFromTexts (schema : String) (format : ContractFormat) (contract : String)
    (config : Config) : Except Failure String := do
  let package ← Proto.compile schema
  let contract ← Contract.ofText format contract
  Mock.generate package contract config

namespace Host

variable {m : Type → Type} [Monad m] (host : Host m)

/-- Reads a contract, the format of which its name tells. -/
def contract (path : String) : Action m Contract := do
  let format ← Action.ofExcept (ContractFormat.ofPath path)
  let text ← host.text path
  Action.ofExcept (Contract.ofText format text)

/-- What the schema in a file declares. -/
def package (path : String) : Action m Package := do
  let text ← host.text path
  Action.ofExcept (Proto.compile text)

/-- The mocks for a contract in a file and the schema in another. -/
def generate (schemaPath contractPath : String) (config : Config) : Action m String := do
  let package ← host.package schemaPath
  let contract ← host.contract contractPath
  Action.ofExcept (Mock.generate package contract config)

end Host

end GrpcMock
