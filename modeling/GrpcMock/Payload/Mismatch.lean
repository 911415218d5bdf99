import GrpcMock.Base64
import GrpcMock.Json.Writer
import GrpcMock.Schema.Kind

/-!
Ways in which a payload does not fit the schema that it is read with.
-/

namespace GrpcMock.Payload

inductive Mismatch where
  | notObject (message : String) (found : Json)
  | unknownField (name message : String)
  | notArray
  /-- The entries of a map are the members of an object. -/
  | notEntries
  | badKey (text : String) (kind : FieldKind)
  | notBoolean
  | notInteger (found : Json)
  | notNumber (found : Json)
  /-- An integer is not of the range of a kind. -/
  | outOfRange (value : Int) (kind : FieldKind)
  | notString
  | notBase64 (fault : Option Base64.Fault)
  | notMember (found : Json) (enum : String)

/-- What is said of an integer that a kind cannot hold. -/
def rangeRemark : FieldKind → String
  | .int32 | .sint32 | .sfixed32 => "does not fit in 32 bits"
  | .int64 | .sint64 | .sfixed64 => "does not fit in 64 bits"
  | .uint32 | .fixed32 => "is not a valid uint32"
  | _ => "is not a valid uint64"

def Mismatch.message : Mismatch → String
  | .notObject message found => s!"expected an object for {message}, found {found.compact}"
  | .unknownField name message => s!"unknown field \"{name}\" for message {message}"
  | .notArray => "expected an array"
  | .notEntries => "expected an object"
  | .badKey text kind => s!"\"{text}\" is not a valid {kind.keyword} map key"
  | .notBoolean => "expected a boolean"
  | .notInteger found => s!"expected an integer, found {found.compact}"
  | .notNumber found => s!"expected a number, found {found.compact}"
  | .outOfRange value kind => s!"{value} {rangeRemark kind}"
  | .notString => "expected a string"
  | .notBase64 none => "expected a base64 string"
  | .notBase64 (some fault) => "invalid base64: " ++ fault.message
  | .notMember found enum => s!"{found.compact} is not a member of enum {enum}"

end GrpcMock.Payload
