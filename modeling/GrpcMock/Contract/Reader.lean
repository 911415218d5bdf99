import GrpcMock.Contract.Basic
import GrpcMock.Contract.Format
import GrpcMock.Document.Record
import GrpcMock.Json.Reader
import GrpcMock.Yaml.Reader

/-!
Contracts read from documents. Only the name of a contract, the status of a failure and its code are
required; all else has an empty value to stand in for it.
-/

namespace GrpcMock

open GrpcMock.Document (Reader Shape Slot)

namespace SuccessCase

def shape : Shape (Option String × Option Json × Option Json) :=
  {
    name := "SuccessCase",
    slots :=
      [
        .first "description" false .text,
        .next (.first "request" false .payload),
        .next (.next (.last "response" false .payload))
      ],
    blank := (none, none, none)
  }

def reader : Reader SuccessCase :=
  shape.reader fun (description, request, response) =>
    ⟨description.getD "", request.getD .null, response.getD .null⟩

end SuccessCase

namespace Status

def shape : Shape (Option String × Option String) :=
  {
    name := "GrpcError",
    slots :=
      [
        .first "errorCode" true .text,
        .next (.last "message" false .text)
      ],
    blank := (none, none)
  }

def reader : Reader Status :=
  shape.reader fun (code, message) => ⟨code.getD "", message.getD ""⟩

end Status

namespace FailureCase

def shape : Shape (Option String × Option Json × Option Status) :=
  {
    name := "FailureCase",
    slots :=
      [
        .first "description" false .text,
        .next (.first "request" false .payload),
        .next (.next (.last "error" true Status.reader))
      ],
    blank := (none, none, none)
  }

def reader : Reader FailureCase :=
  shape.reader fun (description, request, status) =>
    ⟨description.getD "", request.getD .null, status.getD ⟨"", ""⟩⟩

end FailureCase

namespace Cases

def shape : Shape (Option (List SuccessCase) × Option (List FailureCase)) :=
  {
    name := "Method",
    slots :=
      [
        .first "successCases" false (.list SuccessCase.reader),
        .next (.last "failureCases" false (.list FailureCase.reader))
      ],
    blank := (none, none)
  }

def reader : Reader Cases :=
  shape.reader fun (successes, failures) => ⟨successes.getD [], failures.getD []⟩

end Cases

namespace Contract

def shape : Shape (Option String × Option (List (String × List (String × Cases)))) :=
  {
    name := "Contract",
    slots :=
      [
        .first "name" true .text,
        .next (.last "services" false (.map (.map Cases.reader)))
      ],
    blank := (none, none)
  }

def reader : Reader Contract :=
  shape.reader fun (name, services) => ⟨name.getD "", services.getD []⟩

/-- Reads a contract from a text in a format. -/
def ofText (format : ContractFormat) (text : String) : Except Failure Contract :=
  match format with
  | .json => (Json.readTyped reader.read text).mapError .json
  | .yaml => (Yaml.readTyped? reader text).elim (.error .yaml) .ok

end Contract

end GrpcMock
