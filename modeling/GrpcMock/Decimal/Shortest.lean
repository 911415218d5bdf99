import GrpcMock.Decimal.Numeral

/-!
The shortest decimal that reads back as a given binary number: the fewest digits that do, and of
those the nearest to the number. All arithmetic is on whole numbers and exact.
-/

namespace GrpcMock.Decimal

open GrpcMock.Binary (Datum Format scale)

/-- The exponent of the leading digit of `num / den`. -/
def ratioLog10 (num den : Nat) : Int :=
  if den ≤ num then (digitCount (num / den) : Int) - 1
  else -(digitCount ((den - 1) / num) : Int)

/-- The quotient `num / den` divided by `10 ^ exponent`, as the factors of its two parts. -/
def decimalFactors (exponent : Int) : Nat × Nat :=
  if 0 ≤ exponent then (1, Nat.pow 10 exponent.toNat) else (Nat.pow 10 (-exponent).toNat, 1)

/-- The numbers that round to a given one, all as multiples of one unit: the number itself, the two
ends, and whether the ends belong to them. -/
structure Interval where
  low : Nat
  value : Nat
  high : Nat
  closed : Bool
  den : Nat
  deriving Repr

/-- The interval of a number: half way to each neighbour, and the lower neighbour of a power of two
is nearer. The ends round to the number exactly if its significand is even. -/
def Interval.around (format : Format) (significand : Nat) (exponent : Int) : Interval :=
  let unit := scale 1 1 (2 - exponent)
  let nearBelow := significand == Nat.pow 2 format.fractionBits && format.lowestExponent < exponent
  {
    low := (4 * significand - if nearBelow then 1 else 2) * unit.1,
    value := 4 * significand * unit.1,
    high := (4 * significand + 2) * unit.1,
    closed := significand % 2 == 0,
    den := unit.2
  }

/-- Whether `coefficient` units of size `unit` lie in the interval scaled by `factor`. -/
def Interval.holds (interval : Interval) (factor unit coefficient : Nat) : Bool :=
  let point := coefficient * unit
  if interval.closed then interval.low * factor ≤ point && point ≤ interval.high * factor
  else interval.low * factor < point && point < interval.high * factor

/-- The multiple of `10 ^ exponent` in the interval that is nearest to its value; of two equally
near the even one. Only the two neighbours of the value need to be looked at. -/
def Interval.pick? (interval : Interval) (exponent : Int) : Option Nat :=
  let factors := decimalFactors exponent
  let value := interval.value * factors.1
  let unit := interval.den * factors.2
  let below := value / unit
  let twice := 2 * (value % unit)
  match interval.holds factors.1 unit below, interval.holds factors.1 unit (below + 1) with
  | true, true =>
      if twice < unit ∨ (twice = unit ∧ below % 2 = 0) then some below else some (below + 1)
  | true, false => some below
  | false, true => some (below + 1)
  | false, false => none

/-- Tries one decimal place after another, the coarsest first. -/
def Interval.search (interval : Interval) (exponent : Int) : Nat → Nat × Int
  | 0 => (interval.value / interval.den, 0)
  | more + 1 =>
      match interval.pick? exponent with
      | some coefficient => (coefficient, exponent)
      | none => interval.search (exponent - 1) more

/-- The digits of a positive number and the exponent of the first of them. -/
structure Digits where
  digits : List Char
  exponent : Int
  deriving DecidableEq, Repr

/-- The digits of `coefficient * 10 ^ exponent`, without zeros at the end. -/
def Digits.ofCoefficient (coefficient : Nat) (exponent : Int) : Digits :=
  let all := Nat.toDigits 10 coefficient
  ⟨(all.reverse.dropWhile (· == '0')).reverse, exponent + all.length - 1⟩

/-- The shortest digits of a positive number; no format here needs more than seventeen. -/
def shortest (format : Format) (significand : Nat) (exponent : Int) : Digits :=
  let interval := Interval.around format significand exponent
  let leading := ratioLog10 interval.value interval.den
  let (coefficient, place) := interval.search leading 17
  .ofCoefficient coefficient place

/-- How digits are laid out: the exponents that are written in plain notation, and whether an
exponent that is written has a sign even if it is not negative. -/
structure Layout where
  plain : Int → Bool
  plusSign : Bool

def zeros (n : Nat) : List Char :=
  List.replicate n '0'

/-- Digits with a decimal point, with at least one digit on each side of it. -/
def Digits.plain (d : Digits) : List Char :=
  if d.exponent < 0 then '0' :: '.' :: (zeros (-d.exponent - 1).toNat ++ d.digits)
  else
    let whole := d.exponent.toNat + 1
    if d.digits.length ≤ whole then d.digits ++ zeros (whole - d.digits.length) ++ ['.', '0']
    else d.digits.take whole ++ '.' :: d.digits.drop whole

/-- Digits with one of them before the point, and an exponent. -/
def Digits.scientific (d : Digits) (plusSign : Bool) : List Char :=
  let sign := if d.exponent < 0 then ['-'] else if plusSign then ['+'] else []
  let fraction := if d.digits.tail.isEmpty then [] else '.' :: d.digits.tail
  d.digits.take 1 ++ fraction ++ 'e' :: (sign ++ Nat.toDigits 10 d.exponent.natAbs)

def Digits.render (layout : Layout) (d : Digits) : List Char :=
  if layout.plain d.exponent then d.plain else d.scientific layout.plusSign

/-- The text of the number that the bits of a format stand for. -/
def renderBits (layout : Layout) (format : Format) (bits : Nat) : List Char :=
  match format.decode bits with
  | .nan => "NaN".toList
  | .infinite negative => (if negative then "-inf" else "inf").toList
  | .finite negative significand exponent =>
      let magnitude :=
        if significand = 0 then "0.0".toList
        else (shortest format significand exponent).render layout
      if negative then '-' :: magnitude else magnitude

end GrpcMock.Decimal
