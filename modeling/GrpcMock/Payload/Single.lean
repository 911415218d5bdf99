import GrpcMock.Payload.Number
import GrpcMock.Schema.Basic
import GrpcMock.Text.Bytes
import GrpcMock.Value.Basic

/-!
Payloads of single values other than messages, and the keys of maps. What is accepted depends on the
kind of the field alone, except that an enum has names for its values.
-/

namespace GrpcMock.Payload

open GrpcMock.Binary (Format)
open GrpcMock.Decimal (Range)
open GrpcMock.Text (utf8Bytes)

def readBool : Json → Except Mismatch Bool
  | .bool value => .ok value
  | _ => .error .notBoolean

def readString : Json → Except Mismatch String
  | .string text => .ok text
  | _ => .error .notString

def readBytes : Json → Except Mismatch (List UInt8)
  | .string text =>
      match Base64.decodeEither (utf8Bytes text.toList) with
      | .ok bytes => .ok bytes
      | .error fault => .error (.notBase64 (some fault))
  | _ => .error (.notBase64 none)

/-- The position of the member of an enum that a payload gives by name or by number. -/
def ordinal? (enum : EnumSchema) : Json → Option Nat
  | .string name => enum.ordinalOfName? name
  | .number (.integer n) =>
      if Range.int32.holds n then enum.ordinalOfNumber? (Int32.ofInt n) else none
  | _ => none

/-- Reads a value of an enum, which is a position of 32 bits. -/
def readMember (enum : EnumSchema) (payload : Json) : Except Mismatch Int32 :=
  match (ordinal? enum payload).filter (· < Nat.pow 2 31) with
  | some ordinal => .ok (Int32.ofNat ordinal)
  | none => .error (.notMember payload enum.fullName)

/-- Reads a value of a scalar kind. -/
def readScalar (kind : FieldKind) (payload : Json) : Except Mismatch Value :=
  match kind with
  | .bool => (readBool payload).map .bool
  | .int32 | .sint32 | .sfixed32 =>
      (readInteger kind payload).map fun n => .int32 (Int32.ofInt n)
  | .int64 | .sint64 | .sfixed64 =>
      (readInteger kind payload).map fun n => .int64 (Int64.ofInt n)
  | .uint32 | .fixed32 => (readInteger kind payload).map fun n => .uint32 (UInt32.ofNat n.toNat)
  | .uint64 | .fixed64 => (readInteger kind payload).map fun n => .uint64 (UInt64.ofNat n.toNat)
  | .float =>
      (readDouble payload).map fun bits =>
        .float32 (UInt32.ofNat (Format.double.convert .single bits))
  | .double => (readDouble payload).map fun bits => .float64 (UInt64.ofNat bits)
  | .bytes => (readBytes payload).map .bytes
  | _ => (readString payload).map .string

/-- The key of a map that a text stands for. -/
def mapKey? (kind : FieldKind) (text : String) : Option MapKey :=
  match kind with
  | .bool =>
      if text = "true" then some (.bool true)
      else if text = "false" then some (.bool false)
      else none
  | .int32 | .sint32 | .sfixed32 =>
      (Range.int32.read? text.toList).map fun n => .int32 (Int32.ofInt n)
  | .int64 | .sint64 | .sfixed64 =>
      (Range.int64.read? text.toList).map fun n => .int64 (Int64.ofInt n)
  | .uint32 | .fixed32 =>
      (Range.uint32.read? text.toList).map fun n => .uint32 (UInt32.ofNat n.toNat)
  | .uint64 | .fixed64 =>
      (Range.uint64.read? text.toList).map fun n => .uint64 (UInt64.ofNat n.toNat)
  | .string => some (.string text)
  | _ => none

def readKey (kind : FieldKind) (text : String) : Except Mismatch MapKey :=
  match mapKey? kind text with
  | some key => .ok key
  | none => .error (.badKey text kind)

end GrpcMock.Payload
