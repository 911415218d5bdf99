import GrpcMock.Binary.Format
import GrpcMock.Decimal.Integer

/-!
Numerals with a fraction and an exponent. Reading one keeps its exact value, which is then rounded
once, to the nearest number of a binary format.
-/

namespace GrpcMock.Decimal

open GrpcMock.Binary (Format)

/-- The number `significand * 10 ^ exponent`, negated if `negative` is set. -/
structure Numeral where
  negative : Bool
  significand : Nat
  exponent : Int
  deriving DecidableEq, Repr

def digitCount (n : Nat) : Nat :=
  (Nat.toDigits 10 n).length

namespace Numeral

/-- The nearest number of a format. Numbers of more than 400 digits before the point are beyond
every format, and those with 400 zeros after it vanish in every format, so no large power of ten is
computed for them. -/
def toBits (format : Format) (n : Numeral) : Nat :=
  let sign := if n.negative then format.signBit else 0
  let magnitude := n.exponent + digitCount n.significand
  if n.significand = 0 ∨ magnitude < -400 then sign
  else if 400 < magnitude then sign + format.infinityBits
  else if 0 ≤ n.exponent then
    format.nearest n.negative (n.significand * Nat.pow 10 n.exponent.toNat) 1
  else format.nearest n.negative n.significand (Nat.pow 10 (-n.exponent).toNat)

/-- Puts a numeral together from its digits before and after the point and its exponent. -/
def ofParts (negative : Bool) (whole fraction : List Char) (exponent : Int) : Numeral :=
  ⟨negative, digitsValue (whole ++ fraction), exponent - fraction.length⟩

end Numeral

/-- Reads an exponent, the letter already taken: an optional sign and one or more digits. -/
def readExponent? (text : List Char) : Option Int :=
  match text with
  | '+' :: digits => (readNat? digits).map Int.ofNat
  | '-' :: digits => (readNat? digits).map fun n => -Int.ofNat n
  | digits => (readNat? digits).map Int.ofNat

/-- Reads a whole text that is a numeral without sign: digits with an optional point among them, of
which there is at least one, and an optional exponent. -/
def readUnsigned? (negative : Bool) (text : List Char) : Option Numeral :=
  let whole := text.takeWhile Char.isDigit
  let afterWhole := text.dropWhile Char.isDigit
  let tail := if afterWhole.head? = some '.' then afterWhole.tail else []
  let fraction := tail.takeWhile Char.isDigit
  let rest := if afterWhole.head? = some '.' then tail.dropWhile Char.isDigit else afterWhole
  if whole.isEmpty && fraction.isEmpty then none
  else
    match rest with
    | [] => some (.ofParts negative whole fraction 0)
    | c :: digits =>
        if c = 'e' ∨ c = 'E' then
          (readExponent? digits).map fun exponent => .ofParts negative whole fraction exponent
        else none

/-- Reads a whole text as a number of a format: a numeral with an optional sign, or one of the names
of infinity and of no number in any mix of cases. -/
def readBits? (format : Format) (text : List Char) : Option Nat :=
  let negative := text.head? = some '-'
  let magnitude := if text.head? = some '-' ∨ text.head? = some '+' then text.tail else text
  let name := magnitude.map Char.toLower
  if name = "inf".toList ∨ name = "infinity".toList then some (format.infinity negative)
  else if name = "nan".toList then some format.nanBits
  else (readUnsigned? negative magnitude).map (·.toBits format)

end GrpcMock.Decimal
