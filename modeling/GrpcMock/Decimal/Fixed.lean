import GrpcMock.Binary.Format

/-!
Decimals with a fixed number of places after the point. The exact value is rounded once, and a value
half way between two decimals goes to the even one.
-/

namespace GrpcMock.Decimal

open GrpcMock.Binary (roundToEven scale)

/-- A whole number of units of `10 ^ -places`, with all its places written. -/
def renderUnits (places units : Nat) : List Char :=
  let fraction := Nat.toDigits 10 (units % Nat.pow 10 places)
  Nat.toDigits 10 (units / Nat.pow 10 places)
    ++ '.' :: (List.replicate (places - fraction.length) '0' ++ fraction)

/-- The number `significand * 2 ^ exponent` with a fixed number of places. The sign of a number that
rounds to zero is kept. -/
def renderFixed (places : Nat) (negative : Bool) (significand : Nat) (exponent : Int) : List Char :=
  let scaled := scale (significand * Nat.pow 10 places) 1 (-exponent)
  let text := renderUnits places (roundToEven scaled.1 scaled.2)
  if negative then '-' :: text else text

end GrpcMock.Decimal
