import Mathlib.Algebra.Group.Nat.Defs
import Mathlib.Data.Finset.Basic
import Mathlib.Data.Finset.Filter
import Mathlib.Data.Finset.Range

/-!
# Bit masks as finite sets

A machine word used as a set of small numbers is read as the set of its one
bits.  The lemmas translate the bit tests and the integer updates of such words
into membership, insertion, removal and intersection.
-/

namespace FrequencyRelay.BitMasks

variable {width : ℕ}

/-- The positions of the one bits. -/
def members (mask : BitVec width) : Finset ℕ :=
  (Finset.range width).filter fun index => mask.getLsbD index = true

/-- The word whose only one bit is `index`. -/
abbrev bit (width index : ℕ) : BitVec width := BitVec.twoPow width index

/-- The word `2 ^ count - 1`. -/
def lowBits (width count : ℕ) : BitVec width := BitVec.ofNat width (2 ^ count - 1)

@[simp]
theorem mem_members {mask : BitVec width} {index : ℕ} :
    index ∈ members mask ↔ mask.getLsbD index = true := by
  simp only [members, Finset.mem_filter, Finset.mem_range, and_iff_right_iff_imp]
  exact BitVec.lt_of_getLsbD

theorem lt_of_mem_members {mask : BitVec width} {index : ℕ}
    (hmem : index ∈ members mask) : index < width :=
  BitVec.lt_of_getLsbD (mem_members.mp hmem)

theorem members_injective :
    Function.Injective (members : BitVec width → Finset ℕ) := by
  intro left right heq
  apply BitVec.eq_of_getLsbD_eq
  intro index _
  have hiff : index ∈ members left ↔ index ∈ members right := by rw [heq]
  simpa only [mem_members, Bool.coe_iff_coe] using hiff

@[simp]
theorem members_zero : members (BitVec.ofNat width 0) = ∅ := by
  ext index
  simp

@[simp]
theorem members_eq_empty_iff {mask : BitVec width} :
    members mask = ∅ ↔ mask = BitVec.ofNat width 0 := by
  rw [← @members_zero width, members_injective.eq_iff]

@[simp]
theorem members_and (left right : BitVec width) :
    members (left &&& right) = members left ∩ members right := by
  ext index
  simp

@[simp]
theorem members_or (left right : BitVec width) :
    members (left ||| right) = members left ∪ members right := by
  ext index
  simp

@[simp]
theorem members_and_not (left right : BitVec width) :
    members (left &&& ~~~ right) = members left \ members right := by
  ext index
  simp only [mem_members, Finset.mem_sdiff, BitVec.getLsbD_and, BitVec.getLsbD_not,
    Bool.and_eq_true, decide_eq_true_eq, Bool.not_eq_true', Bool.not_eq_true]
  constructor
  · rintro ⟨hleft, -, hright⟩
    exact ⟨hleft, hright⟩
  · rintro ⟨hleft, hright⟩
    exact ⟨hleft, BitVec.lt_of_getLsbD hleft, hright⟩

/-- Subtracting a set of present bits borrows nowhere. -/
theorem sub_eq_and_not {left right : BitVec width}
    (hsubset : members right ⊆ members left) : left - right = left &&& ~~~ right := by
  have hdisjoint : left &&& ~~~ right &&& right = BitVec.ofNat width 0 := by
    apply members_eq_empty_iff.mp
    rw [members_and, members_and_not, Finset.sdiff_inter_self]
  have hunion : left &&& ~~~ right ||| right = left := by
    apply members_injective
    rw [members_or, members_and_not, Finset.sdiff_union_of_subset hsubset]
  rw [BitVec.sub_eq_iff_eq_add, BitVec.add_eq_or_of_and_eq_zero _ _ hdisjoint, hunion]

theorem members_sub {left right : BitVec width}
    (hsubset : members right ⊆ members left) :
    members (left - right) = members left \ members right := by
  rw [sub_eq_and_not hsubset, members_and_not]

theorem members_lowBits (count : ℕ) :
    members (lowBits width count) = Finset.range (min width count) := by
  ext index
  rw [mem_members, lowBits, BitVec.getLsbD_ofNat, Nat.testBit_two_pow_sub_one]
  simp

/-! ## Single bits -/

theorem bit_ne_zero {index : ℕ} (hindex : index < width) : bit width index ≠ 0 := by
  intro hzero
  have hbit := congrArg (fun word => word.getLsbD index) hzero
  simp [hindex] at hbit

theorem members_bit {index : ℕ} (hindex : index < width) :
    members (bit width index) = {index} := by
  ext other
  simp [hindex, eq_comm]

theorem and_bit_eq_zero_iff {mask : BitVec width} {index : ℕ}
    (hindex : index < width) :
    mask &&& bit width index = 0 ↔ index ∉ members mask := by
  have hnonzero := bit_ne_zero hindex
  rw [BitVec.and_twoPow, mem_members]
  split <;> simp_all

theorem and_bit_eq_bit_iff {mask : BitVec width} {index : ℕ}
    (hindex : index < width) :
    mask &&& bit width index = bit width index ↔ index ∈ members mask := by
  have hnonzero := (bit_ne_zero hindex).symm
  rw [BitVec.and_twoPow, mem_members]
  split <;> simp_all

/-- Adding an absent bit carries nowhere. -/
theorem members_add_bit {mask : BitVec width} {index : ℕ}
    (hindex : index < width) (habsent : index ∉ members mask) :
    members (mask + bit width index) = insert index (members mask) := by
  have hdisjoint := (and_bit_eq_zero_iff hindex).mpr habsent
  rw [BitVec.add_eq_or_of_and_eq_zero _ _ hdisjoint]
  ext other
  simp only [mem_members, BitVec.getLsbD_or, BitVec.getLsbD_twoPow, hindex,
    decide_true, Bool.true_and, Bool.or_eq_true, decide_eq_true_eq,
    Finset.mem_insert]
  exact or_comm.trans (or_congr_left eq_comm)

theorem members_sub_bit {mask : BitVec width} {index : ℕ}
    (hpresent : index ∈ members mask) :
    members (mask - bit width index) = (members mask).erase index := by
  have hbit := members_bit (lt_of_mem_members hpresent)
  rw [members_sub (by simpa [hbit] using hpresent), hbit, Finset.sdiff_singleton_eq_erase]

/-- A signed word without its sign bit is positive exactly when it is nonempty. -/
theorem toInt_pos_iff {mask : BitVec width}
    (hsign : members mask ⊆ Finset.range (width - 1)) :
    0 < mask.toInt ↔ mask ≠ 0 := by
  have hmsb : mask.msb = false := by
    rw [BitVec.msb_eq_getLsbD_last, Bool.eq_false_iff]
    intro hbit
    have := Finset.mem_range.mp (hsign (mem_members.mpr hbit))
    omega
  rw [BitVec.toInt_eq_toNat_of_msb hmsb]
  have hzero : mask.toNat = 0 ↔ mask = 0 := by
    rw [← BitVec.toNat_inj]
    simp
  rw [ne_eq, ← hzero]
  omega

end FrequencyRelay.BitMasks
