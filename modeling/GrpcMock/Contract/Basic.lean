import GrpcMock.Json.Value

/-!
Contracts: example calls for the methods of services, with the answers that a mock gives to them.
What is sent and received stays JSON until it is read with the schema of a method.
-/

namespace GrpcMock

/-- A call that is answered. -/
structure SuccessCase where
  description : String
  request : Json
  response : Json
  deriving Repr

/-- What a call fails with. -/
structure Status where
  code : String
  message : String
  deriving DecidableEq, Repr

/-- A call that fails. -/
structure FailureCase where
  description : String
  request : Json
  status : Status
  deriving Repr

/-- The cases of a method. -/
structure Cases where
  successes : List SuccessCase
  failures : List FailureCase
  deriving Repr

structure Contract where
  name : String
  /-- The cases by service and method, in the order of their names. -/
  services : List (String × List (String × Cases))
  deriving Repr

def SuccessCase.toJson (case : SuccessCase) : Json :=
  .object
    [
      ("description", .string case.description),
      ("request", case.request),
      ("response", case.response)
    ]

def Status.toJson (status : Status) : Json :=
  .object [("errorCode", .string status.code), ("message", .string status.message)]

def FailureCase.toJson (case : FailureCase) : Json :=
  .object
    [
      ("description", .string case.description),
      ("request", case.request),
      ("error", case.status.toJson)
    ]

namespace Cases

def count (cases : Cases) : Nat :=
  cases.successes.length + cases.failures.length

def toJson (cases : Cases) : Json :=
  .object
    [
      ("successCases", .array (cases.successes.map SuccessCase.toJson)),
      ("failureCases", .array (cases.failures.map FailureCase.toJson))
    ]

end Cases

namespace Contract

def caseCount (contract : Contract) : Nat :=
  (contract.services.flatMap Prod.snd).foldl (fun count method => count + method.2.count) 0

def toJson (contract : Contract) : Json :=
  let services := contract.services.map fun (service, methods) =>
    (service, Json.object (methods.map fun (method, cases) => (method, cases.toJson)))
  .object [("name", .string contract.name), ("services", .object services)]

end Contract

end GrpcMock
