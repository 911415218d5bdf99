/-!
Binary floating-point formats. A number is held as the bits of its format; `decode` gives the exact
rational that the bits stand for, and `nearest` the bits of the number closest to a rational.
-/

namespace GrpcMock.Binary

/-- The integer nearest to `num / den`; of two that are equally near, the even one. -/
def roundToEven (num den : Nat) : Nat :=
  let quotient := num / den
  let rest := num % den
  if den < 2 * rest ∨ (2 * rest = den ∧ quotient % 2 = 1) then quotient + 1 else quotient

/-- The quotient `num / den` divided by `2 ^ exponent`, as a quotient again. -/
def scale (num den : Nat) (exponent : Int) : Nat × Nat :=
  if 0 ≤ exponent then (num, den * Nat.pow 2 exponent.toNat)
  else (num * Nat.pow 2 (-exponent).toNat, den)

/-- The greatest exponent whose power of two is at most `num / den`. -/
def ratioLog2 (num den : Nat) : Int :=
  let guess : Int := (num.log2 : Int) - den.log2
  let scaled := scale num den guess
  if scaled.2 ≤ scaled.1 then guess else guess - 1

/-- A format: how many bits hold the fraction, and how many the exponent. -/
structure Format where
  fractionBits : Nat
  exponentBits : Nat
  deriving DecidableEq, Repr

/-- What the bits of a number stand for. A finite one is `significand * 2 ^ exponent`, negated if
`negative` is set. -/
inductive Datum where
  | nan
  | infinite (negative : Bool)
  | finite (negative : Bool) (significand : Nat) (exponent : Int)
  deriving DecidableEq, Repr

namespace Format

/-- Four bytes. -/
def single : Format := ⟨23, 8⟩

/-- Eight bytes. -/
def double : Format := ⟨52, 11⟩

/-- The exponent of the last place of the smallest numbers. -/
def lowestExponent (format : Format) : Int :=
  2 - Nat.pow 2 (format.exponentBits - 1) - format.fractionBits

def signBit (format : Format) : Nat :=
  Nat.pow 2 (format.fractionBits + format.exponentBits)

def infinityBits (format : Format) : Nat :=
  (Nat.pow 2 format.exponentBits - 1) * Nat.pow 2 format.fractionBits

/-- The bits that stand for no number. -/
def nanBits (format : Format) : Nat :=
  format.infinityBits + Nat.pow 2 (format.fractionBits - 1)

/-- The bits that stand for infinity. -/
def infinity (format : Format) (negative : Bool) : Nat :=
  (if negative then format.signBit else 0) + format.infinityBits

def decode (format : Format) (bits : Nat) : Datum :=
  let negative := bits / format.signBit % 2 == 1
  let fraction := bits % Nat.pow 2 format.fractionBits
  let field := bits / Nat.pow 2 format.fractionBits % Nat.pow 2 format.exponentBits
  if field = Nat.pow 2 format.exponentBits - 1 then
    if fraction = 0 then .infinite negative else .nan
  else if field = 0 then .finite negative fraction format.lowestExponent
  else
    .finite negative (Nat.pow 2 format.fractionBits + fraction)
      (format.lowestExponent + (field - 1))

/-- The bits of the number nearest to `num / den`; one too large for the format is infinite. The
exponent field and the fraction are added up, so a significand that rounds up to the next power of
two carries into the exponent. -/
def nearest (format : Format) (negative : Bool) (num den : Nat) : Nat :=
  let sign := if negative then format.signBit else 0
  if num = 0 then sign
  else
    let exponent := max format.lowestExponent (ratioLog2 num den - format.fractionBits)
    let scaled := scale num den exponent
    let magnitude :=
      (exponent - format.lowestExponent).toNat * Nat.pow 2 format.fractionBits
        + roundToEven scaled.1 scaled.2
    sign + min format.infinityBits magnitude

/-- The nearest number of another format. -/
def convert (source target : Format) (bits : Nat) : Nat :=
  match source.decode bits with
  | .nan => target.nanBits
  | .infinite negative => target.infinity negative
  | .finite negative significand exponent =>
      let scaled := scale significand 1 (-exponent)
      target.nearest negative scaled.1 scaled.2

end Format

end GrpcMock.Binary
