import GrpcMock.Contract.Basic
import GrpcMock.Go.Literal
import GrpcMock.Payload.Message
import GrpcMock.Schema.Package
import GrpcMock.StatusCode
import GrpcMock.Text.Blank

/-!
The branches of a mocked method. Each case of a contract becomes a test whether the request equals
the one of the case, and a return of the answer or of the status that the case gives.
-/

namespace GrpcMock.Mock

open GrpcMock.Go (Rendering Speller)
open GrpcMock.Text (quote singleLine)

variable {σ : Type} (speller : Speller σ)

def codesPath : String := "google.golang.org/grpc/codes"

def statusPath : String := "google.golang.org/grpc/status"

/-- Says of a failure in which case it arose. -/
def inCase {α : Type} (service method case : String) (rendering : Rendering σ α)
    : Rendering σ α :=
  tryCatch rendering fun failure => throw (.inCase service method case failure)

/-- A payload as a message of a type. -/
def payloadLiteral (schema : MessageSchema) (payload : Json) (path : String)
    : Rendering σ String := do
  let fields ← ExceptT.mk (pure (Payload.readMessage schema payload path))
  Go.messageLiteral speller schema fields

/-- The condition that the request equals one that is given. -/
def requestTest (method : MethodSchema) (request : Json) : Rendering σ String := do
  let request ← payloadLiteral speller method.input request "request"
  let equal ← speller.writeFrom Go.protoPath "Equal"
  pure ("if " ++ equal ++ "(req, &" ++ request ++ ")")

/-- The error with a status. -/
def statusError (code message : String) : Rendering σ String := do
  let error ← speller.writeFrom statusPath "Error"
  let code ← speller.writeFrom codesPath code
  pure (error ++ "(" ++ code ++ ", " ++ quote message ++ ")")

/-- What is said of a case above its branch. -/
def comment (description : String) : String :=
  if description.isEmpty then "" else "\t// " ++ singleLine description ++ "\n"

/-- A branch that returns something under a condition. -/
def branch (description test result : String) : String :=
  comment description ++ "\t" ++ test ++ " \x7b\n\t\treturn " ++ result ++ "\n\t\x7d"

def successBranch (method : MethodSchema) (case : SuccessCase) : Rendering σ String := do
  let test ← requestTest speller method case.request
  let response ← payloadLiteral speller method.output case.response "response"
  pure (branch case.description test ("&" ++ response ++ ", nil"))

def failureBranch (method : MethodSchema) (case : FailureCase) : Rendering σ String := do
  if !StatusCode.isName case.status.code then throw (.unknownCode case.status.code)
  let test ← requestTest speller method case.request
  let error ← statusError speller case.status.code case.status.message
  pure (branch case.description test ("nil, " ++ error))

/-- The name of a case: its description, or else its place among the cases of its sort. -/
def caseName (description sort : String) (index : Nat) : String :=
  if description.isEmpty then s!"{sort} case #{index + 1}" else description

/-- The branches for the successes, the first of which has a number. -/
def successBranches (service : ServiceSchema) (method : MethodSchema) (index : Nat)
    : List SuccessCase → Rendering σ (List String)
  | [] => pure []
  | case :: rest => do
      let name := caseName case.description "success" index
      let first ← inCase service.name method.name name (successBranch speller method case)
      let rest ← successBranches service method (index + 1) rest
      pure (first :: rest)

/-- The branches for the failures, the first of which has a number. -/
def failureBranches (service : ServiceSchema) (method : MethodSchema) (index : Nat)
    : List FailureCase → Rendering σ (List String)
  | [] => pure []
  | case :: rest => do
      let name := caseName case.description "failure" index
      let first ← inCase service.name method.name name (failureBranch speller method case)
      let rest ← failureBranches service method (index + 1) rest
      pure (first :: rest)

end GrpcMock.Mock
