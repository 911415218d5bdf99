/-!
The kinds of protobuf fields, with their keywords and the Go types of those that are scalar.
-/

namespace GrpcMock

inductive FieldKind where
  | bool
  | int32
  | sint32
  | sfixed32
  | int64
  | sint64
  | sfixed64
  | uint32
  | fixed32
  | uint64
  | fixed64
  | float
  | double
  | string
  | bytes
  | enum
  | message
  /-- A nested message written in place, in the oldest dialect only. -/
  | group
  deriving DecidableEq, Repr, Inhabited

namespace FieldKind

def all : List FieldKind :=
  [.double, .float, .int32, .int64, .uint32, .uint64, .sint32, .sint64, .fixed32, .fixed64,
    .sfixed32, .sfixed64, .bool, .string, .bytes, .enum, .message, .group]

def keyword : FieldKind → String
  | .bool => "bool"
  | .int32 => "int32"
  | .sint32 => "sint32"
  | .sfixed32 => "sfixed32"
  | .int64 => "int64"
  | .sint64 => "sint64"
  | .sfixed64 => "sfixed64"
  | .uint32 => "uint32"
  | .fixed32 => "fixed32"
  | .uint64 => "uint64"
  | .fixed64 => "fixed64"
  | .float => "float"
  | .double => "double"
  | .string => "string"
  | .bytes => "bytes"
  | .enum => "enum"
  | .message => "message"
  | .group => "group"

/-- Everything but enums, messages and groups, whose types have names of their own. -/
def isScalar : FieldKind → Bool
  | .enum | .message | .group => false
  | _ => true

/-- Whether values of the kind may be the keys of a map. -/
def isMapKey : FieldKind → Bool
  | .float | .double | .bytes | .enum | .message | .group => false
  | _ => true

/-- The Go type of a scalar kind. -/
def goType? : FieldKind → Option String
  | .bool => some "bool"
  | .int32 | .sint32 | .sfixed32 => some "int32"
  | .int64 | .sint64 | .sfixed64 => some "int64"
  | .uint32 | .fixed32 => some "uint32"
  | .uint64 | .fixed64 => some "uint64"
  | .float => some "float32"
  | .double => some "float64"
  | .string => some "string"
  | .bytes => some "[]byte"
  | .enum | .message | .group => none

/-- The scalar kind with a keyword. -/
def ofKeyword? (name : String) : Option FieldKind :=
  all.find? fun kind => kind.isScalar && kind.keyword == name

end FieldKind

end GrpcMock
