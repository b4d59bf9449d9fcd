import FrequencyRelay.Core.SortedInsertion
import FrequencyRelay.Core.WrappedTime

/-!
# Ticks

The program counts ticks in words of 32 bits.  The models read times only as such words;
run over the natural numbers they also keep the ticks that the words have lost.
-/

namespace FrequencyRelay.Ticks

open FrequencyRelay.SortedInsertion

/-- A type of times, of which the program sees words of 32 bits. -/
class TickType (Time : Type*) where
  shown : Time → BitVec 32
  later : Time → BitVec 32 → Time
  shown_later : ∀ time ticks, shown (later time ticks) = shown time + ticks

export TickType (shown later shown_later)

/-- The times of the program. -/
instance : TickType (BitVec 32) where
  shown := id
  later time ticks := time + ticks
  shown_later _ _ := rfl

/-- True times. -/
instance : TickType ℕ where
  shown time := BitVec.ofNat 32 time
  later time ticks := time + ticks.toNat
  shown_later time ticks := by rw [BitVec.ofNat_add, BitVec.ofNat_toNat, BitVec.setWidth_eq]

/-- A `ListItem_t` that is sorted by a time -/
structure ListItem (Time Owner : Type*) where
  xItemValue : Time
  pvOwner : Owner
  deriving DecidableEq

/-- The order of `vListInsert`. -/
def itemKey {Time Owner : Type*} [TickType Time] (item : ListItem Time Owner) : ℕ :=
  (shown item.xItemValue).toNat

/-! ## Words of true times -/

section Words

variable {Time Owner : Type*} [TickType Time]

@[simp]
theorem shown_word (word : BitVec 32) : shown word = word := rfl

@[simp]
theorem later_word (word ticks : BitVec 32) : later word ticks = word + ticks := rfl

def ListItem.seen (item : ListItem Time Owner) : ListItem (BitVec 32) Owner :=
  ⟨shown item.xItemValue, item.pvOwner⟩

theorem map_seen_insertByKey (item : ListItem Time Owner) (items : List (ListItem Time Owner)) :
    (insertByKey itemKey item items).map ListItem.seen =
      insertByKey itemKey item.seen (items.map ListItem.seen) := by
  rw [← map_insertByKey]
  rfl

end Words

theorem toNat_shown (time : ℕ) : (shown time).toNat = time % 2 ^ 32 :=
  BitVec.toNat_ofNat time 32

theorem shown_le_shown_iff {first second : ℕ} :
    shown first ≤ shown second ↔ first % 2 ^ 32 ≤ second % 2 ^ 32 := by
  rw [BitVec.le_def, toNat_shown, toNat_shown]

theorem shown_lt_shown_iff {first second : ℕ} :
    shown first < shown second ↔ first % 2 ^ 32 < second % 2 ^ 32 := by
  rw [BitVec.lt_def, toNat_shown, toNat_shown]

theorem toNat_shown_sub (now earlier : ℕ) :
    (shown now - shown earlier).toNat =
      (2 ^ 32 - earlier % 2 ^ 32 + now % 2 ^ 32) % 2 ^ 32 := by
  rw [BitVec.toNat_sub, toNat_shown, toNat_shown]

theorem later_eq (time : ℕ) (ticks : BitVec 32) : later time ticks = time + ticks.toNat := rfl

end FrequencyRelay.Ticks
