import GrpcMock.Proto.Position
import GrpcMock.Text.Quoted

/-!
What can be wrong with a schema text, with the place where it was noticed.
-/

namespace GrpcMock.Proto

open GrpcMock.Text (quote)

/-- What a reader looks for in the next token. -/
inductive Want where
  | word (text : String)
  | identifier
  | packageName
  | typeName
  | mapKeyType
  | mapValueType
  | integer
  | string
  deriving DecidableEq, Repr

def Want.describe : Want → String
  | .word text => quote text
  | .identifier => "identifier"
  | .packageName => "package name"
  | .typeName => "type"
  | .mapKeyType => "map key type"
  | .mapValueType => "map value type"
  | .integer => "integer"
  | .string => "string"

inductive Cause where
  /-- A piece of text that is no token. -/
  | strayText (text : String)
  | expected (want : Want) (found : String)
  | unexpected (found : String)
  | unsupported (what : String)
  | invalidInteger (text : String)
  | invalidString (text : String)
  | unknownDialect (name : String)
  | repeatedPackage
  deriving DecidableEq, Repr

def Cause.message : Cause → String
  | .strayText text => "Syntax error: " ++ quote text
  | .expected want found => "Expected " ++ want.describe ++ " but found " ++ quote found
  | .unexpected found => "Unexpected token " ++ quote found
  | .unsupported what => what ++ " is not supported"
  | .invalidInteger text => "Invalid integer " ++ quote text
  | .invalidString text => "Invalid string " ++ text
  | .unknownDialect name => "Unknown syntax " ++ quote name
  | .repeatedPackage => "Multiple package declarations"

structure Fault where
  cause : Cause
  position : Position
  deriving DecidableEq, Repr

end GrpcMock.Proto
