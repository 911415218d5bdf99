import GrpcMock.Payload.Message
import GrpcMock.Proofs.Binary.Value
import GrpcMock.Proofs.Decimal.Integer
import GrpcMock.Proofs.Schema.Conforms

/-!
Integers that are given as numbers. A field of an integer kind takes a number for the integer that
is its value, however the number is written, except that large doubles are not taken for integers.
-/

namespace GrpcMock

/-- The value of a number in a payload, which infinities do not have. -/
def Json.Number.value? : Json.Number → Option ℚ
  | .integer n => some n
  | .double bits => Binary.Format.double.value? bits

/-- The kinds whose values are integers of 32 or 64 bits. -/
def FieldKind.isInteger : FieldKind → Bool
  | .int32 | .sint32 | .sfixed32 => true
  | .int64 | .sint64 | .sfixed64 => true
  | .uint32 | .fixed32 => true
  | .uint64 | .fixed64 => true
  | _ => false

/-- The integers that a kind can hold. -/
def FieldKind.Holds : FieldKind → Int → Prop
  | .int32, n | .sint32, n | .sfixed32, n => -2 ^ 31 ≤ n ∧ n < 2 ^ 31
  | .int64, n | .sint64, n | .sfixed64, n => -2 ^ 63 ≤ n ∧ n < 2 ^ 63
  | .uint32, n | .fixed32, n => 0 ≤ n ∧ n < 2 ^ 32
  | .uint64, n | .fixed64, n => 0 ≤ n ∧ n < 2 ^ 64
  | _, _ => False

/-- A double is never taken for an integer of twenty digits or more. -/
def Json.Number.TooLarge : Json.Number → Int → Prop
  | .integer _, _ => False
  | .double _, n => 10 ^ 19 ≤ n.natAbs

/-- The integer that a value is. -/
def Value.integer? : Value → Option Int
  | .int32 value => some value.toInt
  | .int64 value => some value.toInt
  | .uint32 value => some value.toNat
  | .uint64 value => some value.toNat
  | _ => none

namespace Payload

open GrpcMock.Binary (Datum Format)
open GrpcMock.Decimal (Range)

variable {kind : FieldKind}

theorem holds_rangeOf {n : Int} (integral : kind.isInteger)
    : (rangeOf kind).holds n ↔ kind.Holds n := by
  rw [Range.holds_iff]
  cases kind
  case bool | float | double | string | bytes | enum | message | group => cases integral
  all_goals
    simp only [rangeOf, Range.int32, Range.int64, Range.uint32, Range.uint64, Range.signed,
      Range.unsigned, FieldKind.Holds, Nat.pow_eq]
    omega

-----------------------------------------------------------------------------------------
-- Doubles
-----------------------------------------------------------------------------------------

/-- A quotient with a sign is an integer if nothing is left over, and the sign is that of the
integer. -/
theorem signed_quotient_eq {negative : Bool} {num den : Nat} {n : Int} (positive : 0 < den)
    : (if negative then -1 else 1) * ((num : ℚ) / den) = n
      ↔ num % den = 0
        ∧ (if negative then -Int.ofNat (num / den) else Int.ofNat (num / den)) = n := by
  have natural : (0 : ℚ) ≤ (num : ℚ) / den := div_nonneg (Nat.cast_nonneg _) (Nat.cast_nonneg _)
  constructor
  · intro same
    have magnitude : (num : ℚ) / den = n.natAbs := by
      rw [Nat.cast_natAbs, Int.cast_abs, ← same]
      cases negative <;> simp [abs_of_nonneg natural]
    obtain ⟨whole, quotient⟩ := (Binary.quotient_eq_natCast positive).mp magnitude
    refine ⟨whole, ?_⟩
    rw [magnitude, Nat.cast_natAbs] at same
    rw [quotient]
    cases negative with
    | false =>
        rw [if_neg Bool.false_ne_true, one_mul] at same
        rw [if_neg Bool.false_ne_true, Int.ofNat_eq_natCast]
        exact_mod_cast same
    | true =>
        rw [if_pos rfl, neg_one_mul] at same
        rw [if_pos rfl, Int.ofNat_eq_natCast]
        exact_mod_cast same
  · rintro ⟨whole, rfl⟩
    rw [(Binary.quotient_eq_natCast positive).mpr ⟨whole, rfl⟩]
    generalize num / den = quotient
    cases negative <;> simp

/-- A double is taken for an integer if that is its value, and it is within the limit. -/
theorem integerOfBits?_eq_some {bits : Nat} {n : Int}
    : integerOfBits? bits = some n
      ↔ Format.double.value? bits = some (n : ℚ) ∧ n.natAbs < integerLimit := by
  rw [← Format.decode_value?, integerOfBits?]
  cases Format.double.decode bits with
  | nan => simp [Datum.value?]
  | infinite => simp [Datum.value?]
  | finite negative significand exponent =>
      have value := Binary.scale_value significand (-exponent)
      have positive := Binary.scale_pos significand (-exponent)
      rw [neg_neg] at value
      have magnitude (quotient : Nat)
          : (if negative then -Int.ofNat quotient else Int.ofNat quotient).natAbs = quotient := by
        cases negative <;> simp
      simp only [Datum.value?, mul_assoc, ← value, Option.some.injEq, signed_quotient_eq positive]
      constructor
      · intro taken
        split at taken
        · rename_i whole
          have same := Option.some.inj taken
          exact ⟨⟨whole.1, same⟩, by rw [← same, magnitude]; exact whole.2⟩
        · cases taken
      · rintro ⟨⟨whole, rfl⟩, small⟩
        rw [magnitude] at small
        rw [if_pos ⟨whole, small⟩]

-----------------------------------------------------------------------------------------
-- Numbers
-----------------------------------------------------------------------------------------

/-- A number is taken for the integer that it is, unless it is a double that is too large. -/
theorem integer?_number {number : Json.Number} {n : Int}
    : integer? (.number number) = some n
      ↔ number.value? = some (n : ℚ) ∧ ¬number.TooLarge n := by
  cases number with
  | integer value => simp [integer?, Json.Number.value?, Json.Number.TooLarge]
  | double bits =>
      rw [integer?, integerOfBits?_eq_some, Json.Number.TooLarge, Nat.not_le]
      exact Iff.rfl

/-- An integer as a value of a kind. -/
def integerValue : FieldKind → Int → Value
  | .int32, n | .sint32, n | .sfixed32, n => .int32 (Int32.ofInt n)
  | .int64, n | .sint64, n | .sfixed64, n => .int64 (Int64.ofInt n)
  | .uint32, n | .fixed32, n => .uint32 (UInt32.ofNat n.toNat)
  | _, n => .uint64 (UInt64.ofNat n.toNat)

/-- Nothing is lost when an integer that a kind can hold is made a value of it. -/
theorem integerValue_of_holds {n : Int} (integral : kind.isInteger) (held : kind.Holds n)
    : (integerValue kind n).isOf kind ∧ (integerValue kind n).integer? = some n := by
  cases kind
  case bool | float | double | string | bytes | enum | message | group => cases integral
  case int32 | sint32 | sfixed32 =>
    exact ⟨rfl, congrArg some (Int32.toInt_ofInt_of_le held.1 held.2)⟩
  case int64 | sint64 | sfixed64 =>
    exact ⟨rfl, congrArg some (Int64.toInt_ofInt_of_le held.1 held.2)⟩
  case uint32 | fixed32 =>
    have small : n.toNat < 2 ^ 32 := (Int.toNat_lt held.1).mpr held.2
    refine ⟨rfl, congrArg some ?_⟩
    rw [UInt32.toNat_ofNat_of_lt' small, Int.toNat_of_nonneg held.1]
  case uint64 | fixed64 =>
    have small : n.toNat < 2 ^ 64 := (Int.toNat_lt held.1).mpr held.2
    refine ⟨rfl, congrArg some ?_⟩
    rw [UInt64.toNat_ofNat_of_lt' small, Int.toNat_of_nonneg held.1]

variable {name path : String} {enumType : Option EnumSchema} {message : Option MessageSchema}
  {payload : Json}

theorem readSingle_integral (integral : kind.isInteger)
    : readSingle name kind enumType message payload path
      = atPath path ((readInteger kind payload).map (integerValue kind)) := by
  rw [readSingle.eq_def]
  cases kind
  case bool | float | double | string | bytes | enum | message | group => cases integral
  all_goals rfl

/-- What is not taken for an integer is refused as none. -/
theorem readSingle_of_none (integral : kind.isInteger) (missing : integer? payload = none)
    : readSingle name kind enumType message payload path
      = .error (.mismatch path (.notInteger payload)) := by
  rw [readSingle_integral integral, readInteger, missing]
  rfl

/-- What is taken for an integer that the kind can hold is read as that integer. -/
theorem readSingle_of_holds {n : Int} (integral : kind.isInteger)
    (found : integer? payload = some n) (held : kind.Holds n)
    : readSingle name kind enumType message payload path = .ok (integerValue kind n) := by
  rw [readSingle_integral integral, readInteger, found]
  simp only [if_pos ((holds_rangeOf integral).mpr held)]
  rfl

/-- What is taken for an integer that the kind cannot hold is refused as out of range. -/
theorem readSingle_of_not_holds {n : Int} (integral : kind.isInteger)
    (found : integer? payload = some n) (missed : ¬kind.Holds n)
    : readSingle name kind enumType message payload path
      = .error (.mismatch path (.outOfRange n kind)) := by
  rw [← holds_rangeOf integral] at missed
  rw [readSingle_integral integral, readInteger, found]
  simp only [if_neg missed]
  rfl

/-- A number that is an integer of the kind is read as that integer, unless it is too large. -/
theorem exists_value_of_holds {number : Json.Number} {n : Int} (integral : kind.isInteger)
    (value : number.value? = some (n : ℚ)) (held : kind.Holds n) (fits : ¬number.TooLarge n)
    : ∃ value,
        readSingle name kind enumType message (.number number) path = .ok value
        ∧ value.isOf kind ∧ value.integer? = some n := by
  have taken := integer?_number.mpr ⟨value, fits⟩
  exact ⟨integerValue kind n, readSingle_of_holds integral taken held,
    integerValue_of_holds integral held⟩

/-- Every other number is refused. -/
theorem exists_mismatch_of_number {number : Json.Number} (integral : kind.isInteger)
    (missed : ∀ n : Int, number.value? = some (n : ℚ) → kind.Holds n → number.TooLarge n)
    : ∃ mismatch,
        readSingle name kind enumType message (.number number) path
          = .error (.mismatch path mismatch) := by
  cases taken : integer? (.number number) with
  | none => exact ⟨_, readSingle_of_none integral taken⟩
  | some n =>
      obtain ⟨value, fits⟩ := integer?_number.mp taken
      have beyond : ¬kind.Holds n := fun held => fits (missed n value held)
      exact ⟨_, readSingle_of_not_holds integral taken beyond⟩

/-- Only the kinds of 64 bits without a sign hold integers that a double may be too large for. -/
theorem not_tooLarge_of_holds {number : Json.Number} {n : Int} (held : kind.Holds n)
    (narrow : kind ≠ .uint64 ∧ kind ≠ .fixed64)
    : ¬number.TooLarge n := by
  cases number with
  | integer value => exact id
  | double bits =>
      rw [Json.Number.TooLarge, Nat.not_le]
      cases kind
      case uint64 => exact absurd rfl narrow.1
      case fixed64 => exact absurd rfl narrow.2
      case bool | float | double | string | bytes | enum | message | group => cases held
      all_goals
        simp only [FieldKind.Holds] at held
        omega

/-- Into all other kinds a number is read as the integer that it is if the kind can hold it, and
refused otherwise, without an exception. -/
theorem readSingle_narrow (integral : kind.isInteger) (narrow : kind ≠ .uint64 ∧ kind ≠ .fixed64)
    (number : Json.Number)
    : (∀ n : Int,
        number.value? = some (n : ℚ) → kind.Holds n
        → ∃ value,
            readSingle name kind enumType message (.number number) path = .ok value
            ∧ value.isOf kind ∧ value.integer? = some n)
      ∧ ((∀ n : Int, number.value? = some (n : ℚ) → ¬kind.Holds n)
        → ∃ mismatch,
            readSingle name kind enumType message (.number number) path
              = .error (.mismatch path mismatch)) := by
  constructor
  · intro n value held
    exact exists_value_of_holds integral value held (not_tooLarge_of_holds held narrow)
  · intro missed
    exact exists_mismatch_of_number integral fun n value held => absurd held (missed n value)

/-- Numbers are read into a field of an integer kind by their values. If the value is an integer
that the kind can hold, it is read as just that integer, and every other number is refused; only
doubles of twenty digits are refused as well. But for these, a number is read like its integer. -/
theorem readSingle_number (integral : kind.isInteger) (number : Json.Number)
    : (∀ n : Int,
        number.value? = some (n : ℚ) → kind.Holds n → ¬number.TooLarge n
        → ∃ value,
            readSingle name kind enumType message (.number number) path = .ok value
            ∧ value.isOf kind ∧ value.integer? = some n)
      ∧ ((∀ n : Int, number.value? = some (n : ℚ) → kind.Holds n → number.TooLarge n)
        → ∃ mismatch,
            readSingle name kind enumType message (.number number) path
              = .error (.mismatch path mismatch))
      ∧ ∀ n : Int,
        number.value? = some (n : ℚ)
        → (readSingle name kind enumType message (.number number) path
              = readSingle name kind enumType message (.number (.integer n)) path
            ↔ ¬number.TooLarge n) := by
  refine ⟨?_, exists_mismatch_of_number integral, ?_⟩
  · intro n value held fits
    exact exists_value_of_holds integral value held fits
  · intro n value
    have token : integer? (.number (.integer n)) = some n := rfl
    constructor
    · intro same large
      have missing : integer? (.number number) = none := by
        rw [Option.eq_none_iff_forall_ne_some]
        intro other taken
        obtain ⟨also, fits⟩ := integer?_number.mp taken
        rw [value, Option.some.injEq, Int.cast_inj] at also
        exact fits (also ▸ large)
      rw [readSingle_of_none integral missing] at same
      by_cases held : kind.Holds n
      · rw [readSingle_of_holds integral token held] at same
        cases same
      · rw [readSingle_of_not_holds integral token held] at same
        cases same
    · intro fits
      simp only [readSingle_integral integral, readInteger, token,
        integer?_number.mpr ⟨value, fits⟩]

/-- Twenty digits are too many although the kind can hold the integer. -/
theorem readSingle_weight
    : Json.Number.value? (.double 0x43e158e460913d00) = some ((10 ^ 19 : Int) : ℚ)
      ∧ FieldKind.uint64.Holds (10 ^ 19)
      ∧ ∃ mismatch,
          readSingle "weight" .uint64 none none (.number (.double 0x43e158e460913d00)) "request"
            = .error (.mismatch "request" mismatch) := by
  have value : Json.Number.value? (.double 0x43e158e460913d00) = some ((10 ^ 19 : Int) : ℚ) := by
    have decoded : Format.double.decode 0x43e158e460913d00 = .finite false 0x1158e460913d00 11 := by
      decide +kernel
    rw [Json.Number.value?, ← Format.decode_value?, decoded, Datum.value?]
    norm_num
  refine ⟨value, by simp [FieldKind.Holds], (readSingle_number rfl _).2.1 ?_⟩
  intro n same _
  rw [value, Option.some.injEq, Int.cast_inj] at same
  simp [Json.Number.TooLarge, ← same]

end Payload

end GrpcMock
