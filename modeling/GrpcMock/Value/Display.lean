import GrpcMock.Decimal.Shortest
import GrpcMock.Text.Escaped
import GrpcMock.Value.Basic

/-!
The text of a value for people to read. Floats have the fewest digits that read back, and strings
are quoted with all that would not show escaped.
-/

namespace GrpcMock.Value

open GrpcMock.Decimal (Layout)

/-- Numbers are plain from a ten-thousandth up to sixteen digits before the point. -/
def numberLayout : Layout :=
  { plain := fun exponent => -4 ≤ exponent && exponent ≤ 15, plusSign := false }

def listed (opening closing : String) (parts : List String) : String :=
  opening ++ ", ".intercalate parts ++ closing

def displayBool (value : Bool) : String :=
  if value then "true" else "false"

end Value

/-- A key with the name of its type. -/
def MapKey.display : MapKey → String
  | .bool value => "Bool(" ++ Value.displayBool value ++ ")"
  | .int32 value => s!"Int32({value})"
  | .int64 value => s!"Int64({value})"
  | .uint32 value => s!"Uint32({value})"
  | .uint64 value => s!"Uint64({value})"
  | .string value => "String(" ++ Text.escaped value ++ ")"

namespace Value

mutual
def display : Value → String
  | .bool value => displayBool value
  | .int32 value => toString value
  | .int64 value => toString value
  | .uint32 value => toString value
  | .uint64 value => toString value
  | .float32 bits => String.ofList (Decimal.renderBits numberLayout .single bits.toNat)
  | .float64 bits => String.ofList (Decimal.renderBits numberLayout .double bits.toNat)
  | .string value => Text.escaped value
  | .bytes value => listed "bytes[" "]" (value.map toString)
  | .enum ordinal => s!"enum#{ordinal}"
  | .message fields => listed "\x7b" "\x7d" (displayFields fields)
  | .list items => listed "[" "]" (displayItems items)
  | .map entries =>
      listed "\x7b" "\x7d" ((Sorted.ofList (displayEntries entries)).map fun (key, value) =>
        key.display ++ ": " ++ value)

def displayFields : List (UInt32 × Value) → List String
  | [] => []
  | (number, value) :: rest => s!"{number}: {display value}" :: displayFields rest

def displayItems : List Value → List String
  | [] => []
  | item :: rest => display item :: displayItems rest

def displayEntries : List (MapKey × Value) → List (MapKey × String)
  | [] => []
  | (key, value) :: rest => (key, display value) :: displayEntries rest
end

end GrpcMock.Value
