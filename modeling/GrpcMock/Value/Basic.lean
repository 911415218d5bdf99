import GrpcMock.Sorted

/-!
Values of fields. A value does not know its enum, message or map type, so it is always read together
with the schema of its field. Maps hold each key once, in the order of the keys.
-/

namespace GrpcMock

/-- A key of a map. -/
inductive MapKey where
  | bool (value : Bool)
  | int32 (value : Int32)
  | int64 (value : Int64)
  | uint32 (value : UInt32)
  | uint64 (value : UInt64)
  | string (value : String)
  deriving DecidableEq, Repr, Inhabited

namespace MapKey

/-- The place of a key's type in the order of keys. -/
def rank : MapKey → Nat
  | .bool _ => 0
  | .int32 _ => 1
  | .int64 _ => 2
  | .uint32 _ => 3
  | .uint64 _ => 4
  | .string _ => 5

/-- Keys are ordered by type, and keys of one type by value. -/
def before : MapKey → MapKey → Bool
  | .bool a, .bool b => !a && b
  | .int32 a, .int32 b => a < b
  | .int64 a, .int64 b => a < b
  | .uint32 a, .uint32 b => a < b
  | .uint64 a, .uint64 b => a < b
  | .string a, .string b => a < b
  | a, b => a.rank < b.rank

instance : LT MapKey := ⟨fun a b => before a b⟩

instance : DecidableLT MapKey := fun a b => inferInstanceAs (Decidable (before a b = true))

end MapKey

/-- A value. Floats are held by their bits, and an enum by the position of a member. -/
inductive Value where
  | bool (value : Bool)
  | int32 (value : Int32)
  | int64 (value : Int64)
  | uint32 (value : UInt32)
  | uint64 (value : UInt64)
  | float32 (bits : UInt32)
  | float64 (bits : UInt64)
  | string (value : String)
  | bytes (value : List UInt8)
  | enum (ordinal : Int32)
  | message (fields : List (UInt32 × Value))
  | list (items : List Value)
  | map (entries : List (MapKey × Value))
  deriving Repr, Inhabited

def Value.kindName : Value → String
  | .bool _ => "bool"
  | .int32 _ => "int32"
  | .int64 _ => "int64"
  | .uint32 _ => "uint32"
  | .uint64 _ => "uint64"
  | .float32 _ => "float32"
  | .float64 _ => "float64"
  | .string _ => "string"
  | .bytes _ => "bytes"
  | .enum _ => "enum"
  | .message _ => "message"
  | .list _ => "list"
  | .map _ => "map"

def MapKey.toValue : MapKey → Value
  | .bool value => .bool value
  | .int32 value => .int32 value
  | .int64 value => .int64 value
  | .uint32 value => .uint32 value
  | .uint64 value => .uint64 value
  | .string value => .string value

/-- The fields set in a message, in the order in which each was first set. -/
abbrev MessageValue := List (UInt32 × Value)

namespace MessageValue

/-- Sets a field. A field that is set already keeps its place. -/
def set (number : UInt32) (value : Value) : MessageValue → MessageValue
  | [] => [(number, value)]
  | (other, held) :: rest =>
      if other = number then (other, value) :: rest else (other, held) :: set number value rest

def get? (number : UInt32) : MessageValue → Option Value
  | [] => none
  | (other, held) :: rest => if other = number then some held else get? number rest

end MessageValue

/-- The entries of a map. -/
abbrev MapValue := List (MapKey × Value)

namespace MapValue

def insert (key : MapKey) (value : Value) (map : MapValue) : MapValue :=
  Sorted.insert key value map

def get? (key : MapKey) (map : MapValue) : Option Value :=
  Sorted.find? key map

end MapValue

end GrpcMock
