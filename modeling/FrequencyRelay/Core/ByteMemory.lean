import Mathlib.Algebra.Order.Ring.Int
import Mathlib.Data.Nat.ModEq

/-!
# Items in a memory of bytes

A memory that is read and written by copies of several bytes, and in it a number of equal
slots, one behind the other, that are used around the end.  A copy into one slot leaves
the others as they are, so that the slots from some first one on keep a list of items to
which one can add at both ends.
-/

namespace FrequencyRelay.ByteMemory

variable {Byte : Type*}

/-- The memory after `bytes` have been copied to `destination`. -/
def copy (memory : ℤ → Byte) (destination : ℤ) (bytes : List Byte) : ℤ → Byte :=
  fun address =>
    if destination ≤ address then
      (bytes[(address - destination).toNat]?).getD (memory address)
    else memory address

/-- The bytes from `source` on. -/
def read (memory : ℤ → Byte) (source : ℤ) (count : ℕ) : List Byte :=
  (List.range count).map fun offset : ℕ => memory (source + offset)

variable {memory : ℤ → Byte} {source destination : ℤ} {count : ℕ} {bytes : List Byte}

@[simp]
theorem length_read : (read memory source count).length = count := by
  rw [read, List.length_map, List.length_range]

/-- A copy only changes the bytes at its destination. -/
theorem copy_outside {address : ℤ}
    (houtside : address < destination ∨ destination + bytes.length ≤ address) :
    copy memory destination bytes address = memory address := by
  rw [copy]
  split
  case isTrue hle =>
    rw [List.getElem?_eq_none (by omega), Option.getD_none]
  case isFalse => rfl

/-- What has been copied is read again. -/
theorem read_copy (hcount : bytes.length = count) :
    read (copy memory destination bytes) destination count = bytes := by
  apply List.ext_getElem
  · rw [length_read, hcount]
  · intro offset hread hoffset
    have hvalue : copy memory destination bytes (destination + offset) = bytes[offset] := by
      have hplace : (destination + offset - destination).toNat = offset := by omega
      rw [copy, if_pos (by omega), hplace, List.getElem?_eq_getElem hoffset, Option.getD_some]
    simpa only [read, List.getElem_map, List.getElem_range] using hvalue

/-- A copy is not seen next to its destination. -/
theorem read_copy_apart
    (hapart : source + count ≤ destination ∨ destination + bytes.length ≤ source) :
    read (copy memory destination bytes) source count = read memory source count := by
  apply List.map_congr_left
  intro offset hoffset
  have hlt := List.mem_range.mp hoffset
  apply copy_outside
  omega

/-- What is read depends on these bytes only. -/
theorem read_congr {other : ℤ → Byte}
    (hsame : ∀ address, source ≤ address → address < source + count →
      other address = memory address) :
    read other source count = read memory source count := by
  apply List.map_congr_left
  intro offset hoffset
  have hlt := List.mem_range.mp hoffset
  apply hsame <;> omega

/-! ## Slots -/

/-- Equal slots of bytes, one behind the other. -/
structure Slots where
  base : ℤ
  number : ℕ
  size : ℕ

namespace Slots

variable (slots : Slots)

/-- The end of the last slot -/
def finish : ℤ := slots.base + (slots.number * slots.size : ℕ)

/-- The address of a slot, counted on around the end. -/
def address (index : ℕ) : ℤ :=
  slots.base + (index % slots.number * slots.size : ℕ)

theorem address_add_number (index : ℕ) :
    slots.address (index + slots.number) = slots.address index := by
  rw [address, address, Nat.add_mod_right]

variable {slots}

/-- From one slot to the next. -/
theorem address_next (hnumber : 0 < slots.number) (index : ℕ) :
    (if slots.finish ≤ slots.address index + slots.size then slots.base
      else slots.address index + slots.size) = slots.address (index + 1) := by
  have hlt := Nat.mod_lt index hnumber
  rw [address, address, finish, ← Nat.mod_add_mod index slots.number 1]
  generalize index % slots.number = place at *
  by_cases hlast : place + 1 = slots.number
  · rw [hlast, Nat.mod_self, if_pos]
    · simp
    · rw [← hlast, Nat.succ_mul]
      omega
  · have hle : (place + 1 + 1) * slots.size ≤ slots.number * slots.size :=
      Nat.mul_le_mul_right _ (by omega)
    rw [Nat.mod_eq_of_lt (by omega)]
    rw [Nat.succ_mul, Nat.succ_mul] at hle
    rw [Nat.succ_mul]
    split
    case isTrue hwrap =>
      have hempty : slots.size = 0 := by omega
      simp [hempty]
    case isFalse => omega

/-- From one slot to the one before it. -/
theorem address_previous (hnumber : 0 < slots.number) (index : ℕ) :
    (if slots.address index - slots.size < slots.base then slots.finish - slots.size
      else slots.address index - slots.size) = slots.address (index + (slots.number - 1)) := by
  have hlt := Nat.mod_lt index hnumber
  rw [address, address, finish, ← Nat.mod_add_mod index slots.number]
  generalize index % slots.number = place at *
  obtain ⟨before, hbefore⟩ := Nat.exists_eq_add_of_lt hnumber
  rw [Nat.zero_add] at hbefore
  cases place with
  | zero =>
      rw [Nat.zero_add, Nat.mod_eq_of_lt (by omega), hbefore, Nat.succ_mul, Nat.zero_mul,
        Nat.add_sub_cancel]
      split
      case isTrue => omega
      case isFalse hstay =>
        have hempty : slots.size = 0 := by omega
        simp [hempty]
  | succ place =>
      have hsum : place + 1 + (slots.number - 1) = place + slots.number := by omega
      rw [hsum, Nat.add_mod_right, Nat.mod_eq_of_lt (by omega), Nat.succ_mul]
      split <;> omega

/-- A slot lies within the whole. -/
theorem address_bounds (hnumber : 0 < slots.number) (index : ℕ) :
    slots.base ≤ slots.address index ∧
      slots.address index + slots.size ≤ slots.finish := by
  have hlt := Nat.mod_lt index hnumber
  have hle : (index % slots.number + 1) * slots.size ≤ slots.number * slots.size :=
    Nat.mul_le_mul_right _ hlt
  rw [Nat.succ_mul] at hle
  rw [address, finish]
  omega

/-- Two slots less than a whole turn apart do not overlap. -/
theorem address_apart {first second : ℕ} (hlt : first < second)
    (hturn : second < first + slots.number) :
    slots.address first + slots.size ≤ slots.address second ∨
      slots.address second + slots.size ≤ slots.address first := by
  have hnumber : 0 < slots.number := by omega
  have hne : first % slots.number ≠ second % slots.number := by
    intro heq
    have hdvd := (Nat.modEq_iff_dvd' hlt.le).mp heq
    have hle := Nat.le_of_dvd (by omega) hdvd
    omega
  rw [address, address]
  generalize first % slots.number = place at *
  generalize second % slots.number = other at *
  rcases Nat.lt_or_gt_of_ne hne with hplace | hplace
  · have hle : (place + 1) * slots.size ≤ other * slots.size := Nat.mul_le_mul_right _ hplace
    rw [Nat.succ_mul] at hle
    omega
  · have hle : (other + 1) * slots.size ≤ place * slots.size := Nat.mul_le_mul_right _ hplace
    rw [Nat.succ_mul] at hle
    omega

end Slots

/-! ## Lists of items -/

/-- The slots from the one with index `first` on hold the items. -/
def Holds (slots : Slots) (memory : ℤ → Byte) (first : ℕ) (items : List (List Byte)) : Prop :=
  ∀ place (hplace : place < items.length),
    read memory (slots.address (first + place)) slots.size = items[place]

variable {slots : Slots} {first : ℕ} {item : List Byte} {items : List (List Byte)}

theorem holds_nil (slots : Slots) (memory : ℤ → Byte) (first : ℕ) :
    Holds slots memory first [] := by
  intro place hplace
  exact absurd hplace (Nat.not_lt_zero place)

theorem holds_cons_iff :
    Holds slots memory first (item :: items) ↔
      read memory (slots.address first) slots.size = item ∧
        Holds slots memory (first + 1) items := by
  constructor
  · intro hholds
    refine ⟨hholds 0 (Nat.zero_lt_succ _), ?_⟩
    intro place hplace
    have hread := hholds (place + 1) (Nat.succ_lt_succ hplace)
    rwa [← Nat.add_assoc, Nat.add_right_comm, List.getElem_cons_succ] at hread
  · rintro ⟨hitem, hitems⟩ place hplace
    cases place with
    | zero => exact hitem
    | succ place =>
        have hread := hitems place (Nat.lt_of_succ_lt_succ hplace)
        rw [Nat.add_right_comm, Nat.add_assoc] at hread
        exact hread

theorem holds_add_number :
    Holds slots memory (first + slots.number) items ↔ Holds slots memory first items := by
  simp only [Holds, Nat.add_right_comm first slots.number, Slots.address_add_number]

/-- The items do not change with the bytes outside the slots. -/
theorem Holds.congr (hholds : Holds slots memory first items) (hnumber : 0 < slots.number)
    {other : ℤ → Byte} (hsame : ∀ address, slots.base ≤ address → address < slots.finish →
      other address = memory address) :
    Holds slots other first items := by
  intro place hplace
  rw [← hholds place hplace]
  obtain ⟨hfrom, hto⟩ := Slots.address_bounds hnumber (first + place)
  apply read_congr
  intro address hsource hend
  exact hsame address (by omega) (by omega)

/-- A copy into the slot behind the last item adds an item at the end. -/
theorem Holds.copy_back (hholds : Holds slots memory first items)
    (hroom : items.length < slots.number) (hsize : item.length = slots.size) :
    Holds slots (copy memory (slots.address (first + items.length)) item) first
      (items ++ [item]) := by
  intro place hplace
  rw [List.length_append, List.length_singleton] at hplace
  by_cases hlast : place = items.length
  · subst hlast
    rw [read_copy hsize, List.getElem_concat_length rfl]
  · have hearlier : place < items.length := by omega
    rw [List.getElem_append_left hearlier, ← hholds place hearlier]
    apply read_copy_apart
    rw [hsize]
    exact Slots.address_apart (by omega) (by omega)

/-- A copy into the slot before the first item adds an item at the front. -/
theorem Holds.copy_front (hholds : Holds slots memory first items)
    (hroom : items.length < slots.number) (hsize : item.length = slots.size) :
    Holds slots (copy memory (slots.address (first + (slots.number - 1))) item)
      (first + (slots.number - 1)) (item :: items) := by
  apply holds_cons_iff.mpr
  refine ⟨read_copy hsize, ?_⟩
  have hsum : first + (slots.number - 1) + 1 = first + slots.number := by omega
  rw [hsum, holds_add_number]
  intro place hplace
  rw [← hholds place hplace]
  apply read_copy_apart
  rw [hsize]
  exact Slots.address_apart (by omega) (by omega)

end FrequencyRelay.ByteMemory
