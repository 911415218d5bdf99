import GrpcMock.Decimal.Numeral
import GrpcMock.Failure
import GrpcMock.Text.Blank

/-!
Numbers in payloads. An integer may be written as a number, even with a fraction of zero, or as
text; a float may be written as a number or as text.
-/

namespace GrpcMock.Payload

open GrpcMock.Binary (Format)
open GrpcMock.Decimal (Range)
open GrpcMock.Text (trimBlanks)

/-- A double of this size is not taken for an integer, though an integer of 64 bits may reach it. -/
def integerLimit : Nat := Nat.pow 10 19

/-- The integer that the bits of a double stand for, if they stand for one within the limit. -/
def integerOfBits? (bits : Nat) : Option Int :=
  match Format.double.decode bits with
  | .finite negative significand exponent =>
      let (num, den) := Binary.scale significand 1 (-exponent)
      if num % den = 0 ∧ num / den < integerLimit then
        some (if negative then -Int.ofNat (num / den) else Int.ofNat (num / den))
      else none
  | _ => none

/-- The integer that a payload stands for. -/
def integer? : Json → Option Int
  | .number (.integer n) => some n
  | .number (.double bits) => integerOfBits? bits
  | .string text => Range.int128.read? (trimBlanks text.toList)
  | _ => none

/-- The bits of the double that a payload stands for. -/
def doubleBits? : Json → Option Nat
  | .number (.integer n) => some (Format.double.nearest (n < 0) n.natAbs 1)
  | .number (.double bits) => some bits
  | .string text => Decimal.readBits? .double text.toList
  | _ => none

/-- The integers of a kind. -/
def rangeOf : FieldKind → Range
  | .int32 | .sint32 | .sfixed32 => .int32
  | .int64 | .sint64 | .sfixed64 => .int64
  | .uint32 | .fixed32 => .uint32
  | _ => .uint64

/-- Reads an integer that a kind can hold. -/
def readInteger (kind : FieldKind) (payload : Json) : Except Mismatch Int :=
  match integer? payload with
  | none => .error (.notInteger payload)
  | some value => if (rangeOf kind).holds value then .ok value else .error (.outOfRange value kind)

/-- Reads the bits of a double. -/
def readDouble (payload : Json) : Except Mismatch Nat :=
  match doubleBits? payload with
  | none => .error (.notNumber payload)
  | some bits => .ok bits

end GrpcMock.Payload
