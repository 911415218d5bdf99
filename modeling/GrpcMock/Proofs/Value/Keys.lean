import GrpcMock.Value.Basic
import Mathlib.Order.Defs.Unbundled

/-!
The order of the keys of maps. It is total, so a map has one form in which its keys are in order.
-/

namespace GrpcMock.MapKey

/-- The order of keys is decided by a function. -/
theorem lt_iff {left right : MapKey} : left < right ↔ before left right = true :=
  .rfl

/-- No key comes before itself, for each type of key. -/
theorem before_irrefl (key : MapKey) : ¬key < key := by
  rw [lt_iff]
  cases key with
  | bool value => cases value <;> decide
  | int32 | int64 | uint32 | uint64 | string => simp [before]

/-- The order is transitive, by cases on the types of the three keys. -/
theorem before_trans {first second third : MapKey} (hl : first < second) (hr : second < third)
    : first < third := by
  rw [lt_iff] at *
  -- keys of different types are settled by their ranks, which leaves the six cases of one type
  cases first <;> cases second <;> cases third
  case string.string.string =>
    exact decide_eq_true (String.lt_trans (of_decide_eq_true hl) (of_decide_eq_true hr))
  all_goals simp [before, rank] at hl hr ⊢
  case bool.bool.bool => exact ⟨hl.1, hr.2⟩
  case int32.int32.int32 => exact Int32.lt_trans hl hr
  case int64.int64.int64 => exact Int64.lt_trans hl hr
  case uint32.uint32.uint32 => exact UInt32.lt_trans hl hr
  case uint64.uint64.uint64 => exact UInt64.lt_trans hl hr

/-- Keys of which neither comes before the other are equal, by cases on their types. -/
theorem eq_of_not_before {left right : MapKey} (hl : ¬left < right) (hr : ¬right < left)
    : left = right := by
  rw [lt_iff] at *
  cases left <;> cases right
  case string.string =>
    have rightLe := mt decide_eq_true hr
    have leftLe := mt decide_eq_true hl
    rw [String.le_antisymm rightLe leftLe]
  all_goals simp [before, rank] at hl hr ⊢
  case bool.bool a b => cases a <;> cases b <;> simp_all
  case int32.int32 => exact Int32.le_antisymm hr hl
  case int64.int64 => exact Int64.le_antisymm hr hl
  case uint32.uint32 => exact UInt32.le_antisymm hr hl
  case uint64.uint64 => exact UInt64.le_antisymm hr hl

instance : IsStrictTotalOrder MapKey (· < ·) where
  irrefl := before_irrefl
  trans _ _ _ := before_trans
  trichotomous _ _ := eq_of_not_before

end GrpcMock.MapKey
