/-!
Whole numbers in decimal text. A reader is given the numbers that its result may take; a minus sign
is accepted only if some of them are negative, and a plus sign always.
-/

namespace GrpcMock.Decimal

/-- The number that a run of ASCII digits writes. -/
def digitsValue (digits : List Char) : Nat :=
  digits.foldl (fun value c => 10 * value + (c.toNat - 0x30)) 0

/-- Reads a whole text of one or more ASCII digits. -/
def readNat? (text : List Char) : Option Nat :=
  if text.isEmpty || !text.all Char.isDigit then none else some (digitsValue text)

/-- All the integers from `lowest` to `highest`. -/
structure Range where
  lowest : Int
  highest : Int
  deriving DecidableEq, Repr

namespace Range

/-- The integers of so many bits, one of them for the sign. -/
def signed (bits : Nat) : Range := ⟨-Nat.pow 2 (bits - 1), Nat.pow 2 (bits - 1) - 1⟩

/-- The integers of so many bits without a sign. -/
def unsigned (bits : Nat) : Range := ⟨0, Nat.pow 2 bits - 1⟩

def int32 : Range := signed 32
def int64 : Range := signed 64
def int128 : Range := signed 128
def uint32 : Range := unsigned 32
def uint64 : Range := unsigned 64
def uint128 : Range := unsigned 128

def holds (range : Range) (n : Int) : Bool :=
  range.lowest ≤ n && n ≤ range.highest

/-- Reads a whole text that writes a number of the range. -/
def read? (range : Range) (text : List Char) : Option Int := do
  let value ←
    match text with
    | '+' :: digits => (readNat? digits).map Int.ofNat
    | '-' :: digits =>
        if range.lowest < 0 then (readNat? digits).map fun n => -Int.ofNat n else none
    | digits => (readNat? digits).map Int.ofNat
  if range.holds value then some value else none

end Range

end GrpcMock.Decimal
