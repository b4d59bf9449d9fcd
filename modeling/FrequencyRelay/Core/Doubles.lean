import Mathlib.Algebra.Order.Field.Rat
import Mathlib.Data.Nat.Digits.Defs
import Mathlib.Data.Nat.Prime.Pow
import Mathlib.Tactic.Positivity

/-!
# Doubles in memory

A `double` is eight bytes, the least significant one first.  Its value is exact: a
significand below `2 ^ 53` times a power of two.  Whether it is a given fraction is
therefore a question about natural numbers.
-/

namespace FrequencyRelay.Doubles

abbrev Byte := BitVec 8

/-! ## Bytes -/

/-- The lowest bytes of a number, the least significant one first. -/
def bytesOf : ℕ → ℕ → List Byte
  | 0, _ => []
  | count + 1, number => BitVec.ofNat 8 number :: bytesOf count (number / 256)

/-- The number that bytes are read as. -/
def littleEndian (bytes : List Byte) : ℕ := Nat.ofDigits 256 (bytes.map BitVec.toNat)

@[simp]
theorem length_bytesOf (count number : ℕ) : (bytesOf count number).length = count := by
  induction count generalizing number with
  | zero => rfl
  | succ count ih => rw [bytesOf, List.length_cons, ih]

theorem littleEndian_cons (byte : Byte) (bytes : List Byte) :
    littleEndian (byte :: bytes) = byte.toNat + 256 * littleEndian bytes :=
  Nat.ofDigits_cons

theorem littleEndian_bytesOf (count number : ℕ) :
    littleEndian (bytesOf count number) = number % 256 ^ count := by
  induction count generalizing number with
  | zero =>
      rw [pow_zero, Nat.mod_one]
      rfl
  | succ count ih =>
      calc
        littleEndian (bytesOf (count + 1) number) =
            number % 256 + 256 * (number / 256 % 256 ^ count) := by
          rw [bytesOf, littleEndian_cons, ih]
          rfl
        _ = number % 256 ^ (count + 1) := by
          rw [pow_succ', Nat.mod_mul]

theorem littleEndian_append (low high : List Byte) :
    littleEndian (low ++ high) =
      littleEndian low + 256 ^ low.length * littleEndian high := by
  rw [littleEndian, List.map_append, Nat.ofDigits_append, List.length_map]
  rfl

/-! ## Values -/

/-- The 52 lowest bits. -/
def fraction (bits : BitVec 64) : ℕ := bits.toNat % 2 ^ 52

/-- The 11 bits above them. -/
def exponent (bits : BitVec 64) : ℕ := bits.toNat / 2 ^ 52 % 2 ^ 11

/-- The fraction with the leading bit that is not stored. -/
def significand (bits : BitVec 64) : ℕ :=
  if exponent bits = 0 then fraction bits else 2 ^ 52 + fraction bits

/-- The exponent with that of the subnormal numbers corrected. -/
def scale (bits : BitVec 64) : ℕ := max 1 (exponent bits)

/-- The value of a double; infinities and NaNs have none. -/
def value (bits : BitVec 64) : Option ℚ :=
  let magnitude : ℚ := significand bits * 2 ^ scale bits / 2 ^ 1075
  if exponent bits = 2047 then none
  else some (if bits.msb then -magnitude else magnitude)

theorem fraction_lt (bits : BitVec 64) : fraction bits < 2 ^ 52 :=
  Nat.mod_lt _ (by positivity)

theorem subnormal_lt {bits : BitVec 64} (hsubnormal : exponent bits = 0) :
    significand bits * 2 ^ scale bits < 2 ^ 53 := by
  have hfraction := fraction_lt bits
  rw [significand, scale, hsubnormal, if_pos rfl, Nat.max_zero]
  omega

theorem le_significand {bits : BitVec 64} (hnormal : exponent bits ≠ 0) :
    2 ^ 52 ≤ significand bits := by
  rw [significand, if_neg hnormal]
  exact Nat.le_add_right _ _

/-- When a double is a positive fraction. -/
theorem value_eq_div_iff {bits : BitVec 64} {numerator denominator : ℕ}
    (hnumerator : 0 < numerator) (hdenominator : 0 < denominator) :
    value bits = some ((numerator : ℚ) / denominator) ↔
      exponent bits ≠ 2047 ∧ bits.msb = false ∧
        significand bits * 2 ^ scale bits * denominator = numerator * 2 ^ 1075 := by
  have hpositive : (0 : ℚ) < numerator / denominator := by positivity
  rw [value]
  -- the power is too large to be evaluated
  generalize (1075 : ℕ) = power
  split
  case isTrue hspecial =>
    constructor
    · intro hnone
      cases hnone
    · intro hfinite
      exact absurd hspecial hfinite.1
  case isFalse hfinite =>
    rw [Option.some_inj, and_iff_right hfinite]
    cases hsign : bits.msb with
    | true =>
        have hmagnitude : (0 : ℚ) ≤ significand bits * 2 ^ scale bits / 2 ^ power := by
          positivity
        constructor
        · intro heq
          rw [if_pos rfl] at heq
          have hnegative := (neg_nonpos.mpr hmagnitude).trans_lt hpositive
          exact absurd heq hnegative.ne
        · intro hbad
          cases hbad.1
    | false =>
        rw [if_neg Bool.false_ne_true, and_iff_right rfl,
          div_eq_div_iff (by positivity) (by positivity)]
        norm_cast

/-- A divisor of `factor * 2 ^ power` that is not divisible by `2 ^ (twos + 1)`. -/
theorem le_of_dvd_mul_two_pow {number factor power twos : ℕ} (hfactor : 0 < factor)
    (hdvd : number ∣ factor * 2 ^ power) (htwos : ¬ 2 ^ (twos + 1) ∣ number) :
    number ≤ factor * 2 ^ twos := by
  obtain ⟨odd, even, hodd, heven, rfl⟩ := Nat.dvd_mul.mp hdvd
  obtain ⟨count, -, rfl⟩ := (Nat.dvd_prime_pow Nat.prime_two).mp heven
  have hcount : count ≤ twos := by
    by_contra hmore
    apply htwos
    exact (pow_dvd_pow 2 (by omega)).trans (dvd_mul_left _ _)
  exact Nat.mul_le_mul (Nat.le_of_dvd hfactor hodd)
    (Nat.pow_le_pow_right (by decide) hcount)

end FrequencyRelay.Doubles
