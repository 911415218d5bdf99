import GrpcMock.Text.Quoted

/-!
The ways in which a schema file that is well written can still make no sense.
-/

namespace GrpcMock.Proto

open GrpcMock.Text (quote)

inductive Violation where
  | typeTwice (name : String)
  | emptyEnum (enum : String)
  /-- In the newer dialect an enum begins with zero. -/
  | firstNotZero (enum : String)
  | valueTwice (value enum : String)
  | fieldTwice (field message : String)
  | numberTwice (field : String)
  | numberNotPositive (field : String)
  | numberTooLarge (field : String)
  | numberReserved (field : String)
  /-- The newer dialect has no groups. -/
  | groupRefused (field : String)
  | unknownType (type field : String)
  | notMapKey (type : String)
  /-- Only the map field that an entry message was made for may use it. -/
  | entryReferenced (type field : String)
  | nameTwice (name : String)
  | methodTwice (method service : String)
  | methodTypeNotMessage (type method : String)
  | notMessage (type : String)
  /-- A message contains itself, perhaps by way of others. -/
  | recursive (message : String)
  deriving DecidableEq, Repr

/-- The greatest number that a field may have. -/
def greatestNumber : Int32 := 536870911

def Violation.message : Violation → String
  | .typeTwice name => "The type " ++ quote name ++ " is defined twice"
  | .emptyEnum enum => "The enum " ++ quote enum ++ " must have at least one value"
  | .firstNotZero enum => "The first value of enum " ++ quote enum ++ " must be zero in proto3"
  | .valueTwice value enum =>
      "The enum value " ++ quote value ++ " is defined twice in " ++ quote enum
  | .fieldTwice field message =>
      "The field " ++ quote field ++ " is defined twice in " ++ quote message
  | .numberTwice field => "The id for field " ++ quote field ++ " is used twice"
  | .numberNotPositive field => "The id for field " ++ quote field ++ " must be positive"
  | .numberTooLarge field =>
      "The id for field " ++ quote field ++ " cannot be larger than " ++ toString greatestNumber
  | .numberReserved field =>
      "The id for field " ++ quote field ++ " lies in the reserved range 19000 to 19999"
  | .groupRefused field => "The group " ++ quote field ++ " is not allowed in proto3"
  | .unknownType type field =>
      "The type " ++ quote type ++ " is not defined for field " ++ quote field
  | .notMapKey type => "The type " ++ quote type ++ " cannot be used as a map key"
  | .entryReferenced type field =>
      "The map entry type " ++ quote type ++ " cannot be referenced by field " ++ quote field
  | .nameTwice name => "The name " ++ quote name ++ " is defined twice"
  | .methodTwice method service =>
      "The method " ++ quote method ++ " is defined twice in service " ++ quote service
  | .methodTypeNotMessage type method =>
      "The type " ++ quote type ++ " of method " ++ quote method ++ " is not a message"
  | .notMessage type => "The type " ++ quote type ++ " is not a message"
  | .recursive message => "Recursive nesting of " ++ quote message ++ " is not allowed"

end GrpcMock.Proto
