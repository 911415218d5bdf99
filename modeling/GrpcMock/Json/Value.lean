/-!
JSON values. An object lists its members; an object that was read holds each name once, and its
members are in the order of their names.
-/

namespace GrpcMock

/-- A number: a whole one, or the bits of a double. -/
inductive Json.Number where
  | integer (n : Int)
  | double (bits : Nat)
  deriving DecidableEq, Repr

inductive Json where
  | null
  | bool (value : Bool)
  | number (value : Json.Number)
  | string (value : String)
  | array (items : List Json)
  | object (members : List (String × Json))
  deriving Repr, Inhabited

end GrpcMock
