import GrpcMock.Binary.Format
import Mathlib.Algebra.Field.Rat
import Mathlib.Algebra.GroupWithZero.Basic
import Mathlib.Data.Nat.Bitwise
import Mathlib.Data.Nat.Cast.Field
import Mathlib.Data.Rat.Cast.CharZero
import Mathlib.Tactic.FieldSimp
import Mathlib.Tactic.NormNum
import Mathlib.Tactic.Ring

/-!
The rational numbers that floating-point numbers stand for. Taking the bits of a number apart keeps
its value, and so does scaling it by a power of two.
-/

namespace GrpcMock.Binary

/-- What a finite datum stands for. -/
def Datum.value? : Datum → Option ℚ
  | .finite negative significand exponent =>
      some ((if negative then -1 else 1) * significand * 2 ^ exponent)
  | _ => none

namespace Format

/-- What is subtracted from the exponent field of a format. -/
def bias (format : Format) : Int :=
  2 ^ (format.exponentBits - 1) - 1

/-- The number that bits stand for by the standard: a sign, a fraction with an implicit one before
it unless the exponent field is zero, and a power of two. Neither infinity nor what is no number
stands for one. -/
def value? (format : Format) (bits : Nat) : Option ℚ :=
  let sign : ℚ := if bits.testBit (format.fractionBits + format.exponentBits) then -1 else 1
  let field := bits / 2 ^ format.fractionBits % 2 ^ format.exponentBits
  let fraction : ℚ := (bits % 2 ^ format.fractionBits : Nat) / 2 ^ format.fractionBits
  if field = 2 ^ format.exponentBits - 1 then none
  else if field = 0 then some (sign * fraction * 2 ^ (1 - format.bias))
  else some (sign * (1 + fraction) * 2 ^ (field - format.bias))

theorem lowestExponent_eq (format : Format)
    : format.lowestExponent = 1 - format.bias - format.fractionBits := by
  simp only [lowestExponent, bias, Nat.pow_eq, Nat.cast_pow, Nat.cast_ofNat]
  ring

/-- Bits are taken apart without a change to the number that they stand for. -/
theorem decode_value? (format : Format) (bits : Nat)
    : (format.decode bits).value? = format.value? bits := by
  have two : (2 : ℚ) ≠ 0 := by norm_num
  have sign : (bits / format.signBit % 2 == 1)
      = bits.testBit (format.fractionBits + format.exponentBits) := by
    rw [Nat.testBit_eq_decide_div_mod_eq]
    rfl
  simp only [decode, value?, sign, Nat.pow_eq, lowestExponent_eq]
  split
  · split <;> rfl
  split
  · simp only [Datum.value?, zpow_sub₀ two, zpow_natCast]
    congr 1
    field_simp
  · have exponent (field : Int)
        : 1 - format.bias - format.fractionBits + (field - 1)
          = field - format.bias - format.fractionBits := by
      ring
    simp only [Datum.value?, exponent, zpow_sub₀ two, zpow_natCast, Nat.cast_add, Nat.cast_pow,
      Nat.cast_ofNat]
    congr 1
    field_simp

end Format

/-- A number that is scaled is divided by the power of two. -/
theorem scale_value (num : Nat) (exponent : Int)
    : ((scale num 1 exponent).1 : ℚ) / (scale num 1 exponent).2 = num * 2 ^ (-exponent) := by
  unfold scale
  split
  · rename_i natural
    obtain ⟨n, rfl⟩ := Int.eq_ofNat_of_zero_le natural
    simp [div_eq_mul_inv]
  · rename_i negative
    obtain ⟨n, same⟩ := Int.eq_ofNat_of_zero_le (a := -exponent) (by omega)
    simp [same]

theorem scale_pos (num : Nat) (exponent : Int) : 0 < (scale num 1 exponent).2 := by
  unfold scale
  split
  · simp
  · simp

/-- A quotient is a natural number if nothing is left over. -/
theorem quotient_eq_natCast {num den n : Nat} (positive : 0 < den)
    : (num : ℚ) / den = n ↔ num % den = 0 ∧ num / den = n := by
  have nonzero : (den : ℚ) ≠ 0 := Nat.cast_ne_zero.mpr (by omega)
  rw [div_eq_iff nonzero, ← Nat.cast_mul, Nat.cast_inj]
  constructor
  · rintro rfl
    exact ⟨Nat.mul_mod_left n den, Nat.mul_div_cancel n positive⟩
  · rintro ⟨whole, rfl⟩
    exact (Nat.div_mul_cancel (Nat.dvd_of_mod_eq_zero whole)).symm

end GrpcMock.Binary
