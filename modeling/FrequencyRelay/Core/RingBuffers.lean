import Mathlib.Algebra.GroupWithZero.Nat
import Mathlib.Data.Fin.Basic
import Mathlib.Logic.Function.Basic

/-!
# Ring buffers

A fixed array with the slot that is written next keeps the last values that were
written to it.  Read from that slot onwards, around the end of the array, it is the
end of a growing list: what it held before, followed by everything written.
-/

namespace FrequencyRelay.RingBuffers

/-- An array and the slot that is written next. -/
structure Ring (size : ℕ) (Value : Type*) where
  slots : Fin size → Value
  next : Fin size

variable {size : ℕ} [NeZero size] {Value : Type*}

/-- A position, reduced to a slot. -/
abbrev slot (size : ℕ) [NeZero size] (position : ℕ) : Fin size :=
  Fin.ofNat size position

namespace Ring

/-- Write a value and move on to the next slot. -/
def push (ring : Ring size Value) (value : Value) : Ring size Value where
  slots := Function.update ring.slots ring.next value
  next := slot size (ring.next + 1)

/-- The value `offset` slots after the one that is written next: the oldest value is
at offset 0, and the newest one at the last. -/
def window (ring : Ring size Value) (offset : ℕ) : Value :=
  ring.slots (slot size (ring.next + offset))

/-- All values, from the oldest to the newest. -/
def contents (ring : Ring size Value) : List Value :=
  (List.range size).map ring.window

@[simp]
theorem length_contents (ring : Ring size Value) : ring.contents.length = size := by
  simp [contents]

theorem slot_ofNat_add (position offset : ℕ) :
    slot size ((slot size position : ℕ) + offset) = slot size (position + offset) := by
  apply Fin.ext
  simp [slot, Fin.ofNat]

/-- A position less than a whole turn ahead is another slot. -/
theorem slot_ne {next : Fin size} {offset : ℕ} (hpos : 0 < offset)
    (hoffset : offset < size) : slot size (next + offset) ≠ next := by
  intro heq
  have hval : ((next : ℕ) + offset) % size = next := congrArg Fin.val heq
  have hnext := next.isLt
  by_cases hwrap : (next : ℕ) + offset < size
  · rw [Nat.mod_eq_of_lt hwrap] at hval
    omega
  · rw [Nat.mod_eq_sub_mod (by omega), Nat.mod_eq_of_lt (by omega)] at hval
    omega

theorem window_push (ring : Ring size Value) (value : Value) (offset : ℕ) :
    (ring.push value).window offset =
      Function.update ring.slots ring.next value
        (slot size (ring.next + (offset + 1))) := by
  have hslot : slot size ((ring.push value).next + offset) =
      slot size (ring.next + (offset + 1)) := by
    rw [Nat.add_comm offset, ← Nat.add_assoc]
    exact slot_ofNat_add (ring.next + 1) offset
  rw [window, hslot]
  rfl

theorem window_push_of_lt (ring : Ring size Value) (value : Value) {offset : ℕ}
    (hoffset : offset + 1 < size) :
    (ring.push value).window offset = ring.window (offset + 1) := by
  rw [window_push, Function.update_of_ne (slot_ne (by omega) hoffset), window]

theorem window_zero (ring : Ring size Value) : ring.window 0 = ring.slots ring.next := by
  have hslot : slot size (ring.next + 0) = ring.next := by
    apply Fin.ext
    simp [slot, Fin.ofNat, Nat.mod_eq_of_lt ring.next.isLt]
  rw [window, hslot]

theorem window_push_last (ring : Ring size Value) (value : Value) {offset : ℕ}
    (hoffset : offset + 1 = size) : (ring.push value).window offset = value := by
  have hslot : slot size (ring.next + size) = ring.next := by
    apply Fin.ext
    simp [slot, Fin.ofNat, Nat.mod_eq_of_lt ring.next.isLt]
  rw [window_push, hoffset, hslot, Function.update_self]

/-- A write drops the oldest value. -/
theorem contents_push (ring : Ring size Value) (value : Value) :
    (ring.push value).contents = ring.contents.tail ++ [value] := by
  obtain ⟨count, hsize⟩ := Nat.exists_eq_succ_of_ne_zero (NeZero.ne size)
  have hfront : List.range size = 0 :: (List.range count).map Nat.succ := by
    rw [hsize, List.range_succ_eq_map]
  have hback : List.range size = List.range count ++ [count] := by
    rw [hsize, List.range_succ]
  have htail : ring.contents.tail =
      (List.range count).map fun offset => ring.window (offset + 1) := by
    rw [contents, hfront, List.map_cons, List.tail_cons, List.map_map]
    rfl
  rw [htail, contents, hback, List.map_append, List.map_singleton,
    ring.window_push_last value hsize.symm]
  congr 1
  apply List.map_congr_left
  intro offset hoffset
  have := List.mem_range.mp hoffset
  exact ring.window_push_of_lt value (by omega)

/-- The values of a ring are the last ones of all that were written. -/
theorem contents_foldl_push (ring : Ring size Value) (values : List Value) :
    (values.foldl push ring).contents =
      (ring.contents ++ values).drop values.length := by
  induction values generalizing ring with
  | nil => simp
  | cons value values ih =>
      have hnonempty : ring.contents ≠ [] := by
        rw [← List.length_pos_iff, length_contents]
        exact Nat.pos_of_ne_zero (NeZero.ne size)
      rw [List.foldl_cons, ih, contents_push, List.length_cons, List.append_assoc,
        ← List.tail_append_of_ne_nil hnonempty, List.drop_tail, Nat.add_comm]
      rfl

/-- The value at an offset is that of the whole list, as many places later as values
were written. -/
theorem getElem?_contents (ring : Ring size Value) {offset : ℕ}
    (hoffset : offset < size) : ring.contents[offset]? = some (ring.window offset) := by
  simp [contents, hoffset]

theorem window_foldl_push (ring : Ring size Value) (values : List Value) {offset : ℕ}
    (hoffset : offset < size) :
    some ((values.foldl push ring).window offset) =
      (ring.contents ++ values)[values.length + offset]? := by
  rw [← getElem?_contents _ hoffset, contents_foldl_push, List.getElem?_drop]

/-- A slot that was written to holds one of the values. -/
theorem window_foldl_push_written (ring : Ring size Value) (values : List Value)
    {offset : ℕ} (hoffset : offset < size) (hwritten : size ≤ values.length + offset) :
    some ((values.foldl push ring).window offset) =
      values[values.length + offset - size]? := by
  rw [window_foldl_push _ _ hoffset,
    List.getElem?_append_right (by rwa [length_contents]), length_contents]

/-- Any other slot is as it was. -/
theorem window_foldl_push_kept (ring : Ring size Value) (values : List Value)
    {offset : ℕ} (hkept : values.length + offset < size) :
    (values.foldl push ring).window offset = ring.window (values.length + offset) := by
  apply Option.some.inj
  rw [window_foldl_push _ _ (by omega),
    List.getElem?_append_left (by rwa [length_contents]), getElem?_contents _ hkept]

/-- The newest value is the one that was written last. -/
theorem window_last_foldl_push (ring : Ring size Value) {values : List Value}
    (hvalues : values ≠ []) {offset : ℕ} (hoffset : offset + 1 = size) :
    some ((values.foldl push ring).window offset) = values.getLast? := by
  have hpos : 0 < values.length := List.length_pos_iff.mpr hvalues
  have hposition : values.length + offset - size = values.length - 1 := by omega
  rw [window_foldl_push_written _ _ (by omega) (by omega), hposition,
    List.getLast?_eq_getElem?]

end Ring

end FrequencyRelay.RingBuffers
