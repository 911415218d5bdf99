import GrpcMock.Document
import GrpcMock.Files
import GrpcMock.Payload.Mismatch
import GrpcMock.Proto.Fault
import GrpcMock.Proto.Violation

/-!
Everything that can keep a mock from being made. A failure in a case of a contract says which case
it was.
-/

namespace GrpcMock

inductive Failure where
  | unreadable (fault : FileFault)
  /-- A schema text is not well written. -/
  | malformedSchema (fault : Proto.Fault)
  /-- A schema breaks a rule. -/
  | violation (violation : Proto.Violation)
  | fieldNotFound (number : UInt32) (message : String)
  | enumOutOfRange (enum : String) (ordinal : Int32) (count : Nat)
  | unsupportedGroup (field : String)
  | missingSchema (field expected : String)
  /-- A payload does not fit its schema. -/
  | mismatch (path : String) (mismatch : Payload.Mismatch)
  | unknownCode (code : String)
  | unknownService (service : String)
  | unknownMethod (service method : String)
  /-- The name of a contract file does not tell its format. -/
  | unknownFormat
  | badPackageName (name : String)
  | badStubPrefix (text : String)
  /-- A JSON text is malformed or of the wrong shape. -/
  | json (fault : Document.Fault)
  /-- A YAML text is malformed or of the wrong shape. -/
  | yaml
  | inCase (service method case : String) (failure : Failure)

namespace Failure

def FileFault.message : FileFault → String
  | .notFound => "not found"
  | .notDirectory => "not a directory"
  | .isDirectory => "is a directory"
  | .other => "cannot be read or written"

def jsonMessage : Document.Fault → String
  | .malformed => "malformed text"
  | .wrongType found expected => s!"invalid type: {found}, expected {expected}"
  | .missingMember name => s!"missing field \x60{name}\x60"
  | .duplicateMember name => s!"duplicate field \x60{name}\x60"
  | .tooShort length record members =>
      s!"invalid length {length}, expected struct {record} with {members} elements"

def message : Failure → String
  | .unreadable fault => "I/O error: " ++ FileFault.message fault
  | .malformedSchema ⟨cause, position⟩ =>
      s!"Parse error at line {position.line}, column {position.column}: {cause.message}"
  | .violation broken => "Verifier error: " ++ broken.message
  | .fieldNotFound number message =>
      s!"field not found {number} while inspecting message {message}"
  | .enumOutOfRange enum ordinal count =>
      s!"enum value {ordinal} is out of range for enum {enum} ({count} members)"
  | .unsupportedGroup field => s!"unsupported group kind in field \"{field}\""
  | .missingSchema field expected => s!"field \"{field}\" has no {expected} schema"
  | .mismatch path reason => s!"invalid value at {path}: {reason.message}"
  | .unknownCode code => s!"invalid error code \"{code}\""
  | .unknownService service => s!"service \"{service}\" is not declared in the schema"
  | .unknownMethod service method =>
      s!"method \"{method}\" is not declared in service \"{service}\""
  | .unknownFormat =>
      "invalid contract: invalid contract extension, supported formats are json and yaml"
  | .badPackageName name =>
      s!"invalid configuration: package name \"{name}\" is not a Go identifier"
  | .badStubPrefix text =>
      s!"invalid configuration: stub prefix \"{text}\" is not a Go identifier"
  | .json fault => "JSON error: " ++ jsonMessage fault
  | .yaml => "YAML error"
  | .inCase service method case failure =>
      s!"{service}.{method} case \"{case}\": {message failure}"

end Failure

end GrpcMock
