import GrpcMock.Failure
import GrpcMock.Files

/-!
The formats in which contracts are written. The name of a file tells its format by what follows the
last dot.
-/

namespace GrpcMock

open GrpcMock.Text (afterLast beforeLast?)

inductive ContractFormat where
  | json
  | yaml
  deriving DecidableEq, Repr

/-- What follows the last dot of the name of a file, unless that dot begins the name. -/
def extension? (path : String) : Option String :=
  match (Files.pathParts path).getLast? with
  | none => none
  | some name =>
      match beforeLast? '.' name with
      | none => none
      | some start => if start.isEmpty ∨ name = ".." then none else some (afterLast '.' name)

def ContractFormat.ofPath (path : String) : Except Failure ContractFormat :=
  match extension? path with
  | some "json" => .ok .json
  | some "yaml" => .ok .yaml
  | some "yml" => .ok .yaml
  | _ => .error .unknownFormat

end GrpcMock
