import Mathlib.Algebra.Order.Floor.Ring

/-!
# Truncation toward zero

The conversion of an exact number to an integer that drops its fractional part.
Between -1 and 1 everything becomes zero, so that bounds on the integer are not
quite the bounds on the number.
-/

namespace FrequencyRelay.Truncation

variable {Number : Type*} [Ring Number] [LinearOrder Number] [IsStrictOrderedRing Number]
variable [FloorRing Number]

/-- The integer next to a number on the way to zero. -/
def truncate (value : Number) : ℤ := if value < 0 then ⌈value⌉ else ⌊value⌋

variable {value : Number} {bound : ℤ}

theorem lt_truncate_iff (hbound : 0 ≤ bound) :
    bound < truncate value ↔ (bound : Number) + 1 ≤ value := by
  have hcast : (0 : Number) ≤ bound := by exact_mod_cast hbound
  unfold truncate
  split
  case isTrue hneg =>
    apply iff_of_false
    · have hceil : ⌈value⌉ ≤ 0 := Int.ceil_le.mpr (by exact_mod_cast hneg.le)
      omega
    · exact not_le.mpr (hneg.trans (lt_of_le_of_lt hcast (lt_add_one _)))
  case isFalse => exact Int.lt_floor_iff

theorem truncate_le_iff (hbound : 0 ≤ bound) :
    truncate value ≤ bound ↔ value < bound + 1 := by
  rw [← not_lt, lt_truncate_iff hbound, not_le]

/-- Numbers above -1 do not become negative. -/
theorem truncate_nonneg_iff : 0 ≤ truncate value ↔ -1 < value := by
  unfold truncate
  split
  case isTrue =>
    rw [← Int.sub_one_lt_iff, Int.lt_ceil]
    simp
  case isFalse hnonneg =>
    apply iff_of_true
    · exact Int.floor_nonneg.mpr (not_lt.mp hnonneg)
    · exact lt_of_lt_of_le (by simp) (not_lt.mp hnonneg)

/-- Truncation does not cross an integer. -/
theorem le_truncate_of_le (hle : (bound : Number) ≤ value) : bound ≤ truncate value := by
  unfold truncate
  split
  case isTrue => exact_mod_cast hle.trans (Int.le_ceil value)
  case isFalse => exact Int.le_floor.mpr hle

theorem truncate_le_of_le (hle : value ≤ bound) : truncate value ≤ bound := by
  unfold truncate
  split
  case isTrue => exact Int.ceil_le.mpr hle
  case isFalse => exact_mod_cast (Int.floor_le value).trans hle

end FrequencyRelay.Truncation
