import FrequencyRelay.Core.BoundedQueue
import FrequencyRelay.Core.ByteMemory

/-!
# The storage of a queue

The copies of `queue.c` into and out of the storage area of a queue.  Its two pointers
run around the area: items are written where one points, and one has been read where the
other points.  Between them the area stores a list of items, also when an item is sent to
the front, and when an item has no bytes because the queue is a semaphore.
-/

namespace FrequencyRelay.Queues

open FrequencyRelay.ByteMemory

/-- The part of `QueueDefinition` that says where the items are, for a queue that is not a
mutex -/
structure Storage where
  pcHead : ℤ
  pcTail : ℤ
  pcWriteTo : ℤ
  pcReadFrom : ℤ
  uxMessagesWaiting : ℕ
  uxLength : ℕ
  uxItemSize : ℕ

inductive CopyPosition
  | sendToBack
  | sendToFront
  | overwrite
  deriving DecidableEq

variable {Byte : Type*}

namespace Storage

/-- `xQueueGenericReset` of a storage area that begins at `pcHead` -/
def reset (pcHead : ℤ) (uxLength uxItemSize : ℕ) : Storage where
  pcHead := pcHead
  pcTail := pcHead + (uxLength * uxItemSize % 2 ^ 32 : ℕ)
  pcWriteTo := pcHead
  pcReadFrom := pcHead + ((uxLength - 1) * uxItemSize % 2 ^ 32 : ℕ)
  uxMessagesWaiting := 0
  uxLength := uxLength
  uxItemSize := uxItemSize

variable (storage : Storage)

/-- The next place to write to -/
def advanceWriteTo : Storage :=
  { storage with
    pcWriteTo :=
      if storage.pcTail ≤ storage.pcWriteTo + storage.uxItemSize then storage.pcHead
      else storage.pcWriteTo + storage.uxItemSize }

/-- The next place to read from -/
def advanceReadFrom : Storage :=
  { storage with
    pcReadFrom :=
      if storage.pcTail ≤ storage.pcReadFrom + storage.uxItemSize then storage.pcHead
      else storage.pcReadFrom + storage.uxItemSize }

/-- The place before the one that was read last -/
def retreatReadFrom : Storage :=
  { storage with
    pcReadFrom :=
      if storage.pcReadFrom - storage.uxItemSize < storage.pcHead then
        storage.pcTail - storage.uxItemSize
      else storage.pcReadFrom - storage.uxItemSize }

def addMessage : Storage :=
  { storage with uxMessagesWaiting := storage.uxMessagesWaiting + 1 }

def removeMessage : Storage :=
  { storage with uxMessagesWaiting := storage.uxMessagesWaiting - 1 }

/-- `prvCopyDataToQueue` -/
def copyDataToQueue (memory : ℤ → Byte) (item : List Byte) (xPosition : CopyPosition) :
    Storage × (ℤ → Byte) :=
  if storage.uxItemSize = 0 then (storage.addMessage, memory)
  else
    match xPosition with
    | .sendToBack =>
        (storage.advanceWriteTo.addMessage, copy memory storage.pcWriteTo item)
    | .sendToFront =>
        (storage.retreatReadFrom.addMessage, copy memory storage.pcReadFrom item)
    | .overwrite =>
        ((if 0 < storage.uxMessagesWaiting then storage.retreatReadFrom.removeMessage
          else storage.retreatReadFrom).addMessage,
          copy memory storage.pcReadFrom item)

/-- `prvCopyDataFromQueue`, with what it leaves in the buffer -/
def copyDataFromQueue (memory : ℤ → Byte) : List Byte × Storage :=
  if storage.uxItemSize = 0 then ([], storage)
  else
    (read memory storage.advanceReadFrom.pcReadFrom storage.uxItemSize, storage.advanceReadFrom)

/-- What a number of receives would take out, one after another -/
def receivable (memory : ℤ → Byte) : ℕ → Storage → List (List Byte)
  | 0, _ => []
  | count + 1, storage =>
      (storage.copyDataFromQueue memory).1 ::
        receivable memory count (storage.copyDataFromQueue memory).2.removeMessage

/-- The items in the queue, the first one first -/
def items (memory : ℤ → Byte) : List (List Byte) :=
  receivable memory storage.uxMessagesWaiting storage

/-- The places for items -/
def slots : Slots := ⟨storage.pcHead, storage.uxLength, storage.uxItemSize⟩

/-- The pointers and the memory store a list of items from the slot `first` on. -/
structure StoresFrom (storage : Storage) (memory : ℤ → Byte) (first : ℕ)
    (items : List (List Byte)) : Prop where
  tail : storage.pcTail = storage.slots.finish
  positive : 0 < storage.uxLength
  bounded : items.length ≤ storage.uxLength
  messages : storage.uxMessagesWaiting = items.length
  writes : storage.pcWriteTo = storage.slots.address (first + items.length)
  reads : storage.pcReadFrom = storage.slots.address (first + (storage.uxLength - 1))
  holds : Holds storage.slots memory first items

/-- A queue and the memory store a list of items. -/
def Stores (storage : Storage) (memory : ℤ → Byte) (items : List (List Byte)) :
    Prop :=
  ∃ first, storage.StoresFrom memory first items

end Storage

open Storage

variable {storage : Storage} {memory : ℤ → Byte} {first : ℕ}
variable {item : List Byte} {items : List (List Byte)}

theorem stores_reset {pcHead : ℤ} {uxLength uxItemSize : ℕ} (hlength : 0 < uxLength)
    (hfits : uxLength * uxItemSize < 2 ^ 32) :
    (reset pcHead uxLength uxItemSize).Stores memory [] := by
  have hlast : (uxLength - 1) * uxItemSize < 2 ^ 32 :=
    (Nat.mul_le_mul_right _ (Nat.sub_le _ _)).trans_lt hfits
  refine ⟨0, ?_, hlength, Nat.zero_le _, rfl, ?_, ?_, holds_nil _ _ _⟩
  · rw [reset, Nat.mod_eq_of_lt hfits]
    rfl
  · simp [slots, reset, Slots.address]
  · rw [reset, Nat.mod_eq_of_lt hlast]
    simp only [slots, Slots.address]
    rw [Nat.zero_add, Nat.mod_eq_of_lt (Nat.sub_lt hlength Nat.one_pos)]

/-- Without bytes, all places are one. -/
theorem address_of_empty {slots : Slots} (hempty : slots.size = 0) (index : ℕ) :
    slots.address index = slots.base := by
  rw [Slots.address, hempty, Nat.mul_zero, Nat.cast_zero, Int.add_zero]

theorem copy_nil (memory : ℤ → Byte) (destination : ℤ) : copy memory destination [] = memory := by
  funext address
  apply copy_outside
  rw [List.length_nil]
  omega

namespace Storage.StoresFrom

theorem advanceWriteTo (hstores : storage.StoresFrom memory first items) :
    storage.advanceWriteTo =
      { storage with pcWriteTo := storage.slots.address (first + items.length + 1) } := by
  have hnext := @Slots.address_next storage.slots hstores.positive (first + items.length)
  rw [← hstores.tail, ← hstores.writes] at hnext
  exact congrArg (fun place => { storage with pcWriteTo := place }) hnext

theorem advanceReadFrom (hstores : storage.StoresFrom memory first items) :
    storage.advanceReadFrom = { storage with pcReadFrom := storage.slots.address first } := by
  have hpositive := hstores.positive
  have hnext := @Slots.address_next storage.slots hpositive (first + (storage.uxLength - 1))
  have hturn : first + (storage.uxLength - 1) + 1 = first + storage.uxLength := by omega
  have hround : storage.slots.address (first + storage.uxLength) = storage.slots.address first :=
    Slots.address_add_number storage.slots first
  rw [hturn, hround, ← hstores.tail, ← hstores.reads] at hnext
  exact congrArg (fun place => { storage with pcReadFrom := place }) hnext

theorem retreatReadFrom (hstores : storage.StoresFrom memory first items) :
    storage.retreatReadFrom =
      { storage with
        pcReadFrom :=
          storage.slots.address (first + (storage.uxLength - 1) + (storage.uxLength - 1)) } := by
  have hprevious :=
    @Slots.address_previous storage.slots hstores.positive (first + (storage.uxLength - 1))
  rw [← hstores.tail, ← hstores.reads] at hprevious
  exact congrArg (fun place => { storage with pcReadFrom := place }) hprevious

/-- What a send to the back does, whether or not an item has bytes. -/
theorem copyDataToQueue_back (hstores : storage.StoresFrom memory first items)
    (hsize : item.length = storage.uxItemSize) :
    storage.copyDataToQueue memory item .sendToBack =
      ({ storage with
          pcWriteTo := storage.slots.address (first + items.length + 1)
          uxMessagesWaiting := items.length + 1 },
        copy memory (storage.slots.address (first + items.length)) item) := by
  rw [copyDataToQueue, ← hstores.messages]
  split
  case isTrue hempty =>
    obtain rfl := List.length_eq_zero_iff.mp (hsize.trans hempty)
    have hplace : storage.slots.address (first + storage.uxMessagesWaiting + 1) =
        storage.pcWriteTo := by
      rw [hstores.writes, address_of_empty hempty, address_of_empty hempty]
    rw [copy_nil, hplace]
    rfl
  case isFalse =>
    rw [hstores.advanceWriteTo, hstores.writes, ← hstores.messages]
    rfl

/-- What a send to the front does. -/
theorem copyDataToQueue_front (hstores : storage.StoresFrom memory first items)
    (hsize : item.length = storage.uxItemSize) :
    storage.copyDataToQueue memory item .sendToFront =
      ({ storage with
          pcReadFrom :=
            storage.slots.address (first + (storage.uxLength - 1) + (storage.uxLength - 1))
          uxMessagesWaiting := items.length + 1 },
        copy memory (storage.slots.address (first + (storage.uxLength - 1))) item) := by
  rw [copyDataToQueue, ← hstores.messages]
  split
  case isTrue hempty =>
    obtain rfl := List.length_eq_zero_iff.mp (hsize.trans hempty)
    have hplace :
        storage.slots.address (first + (storage.uxLength - 1) + (storage.uxLength - 1)) =
          storage.pcReadFrom := by
      rw [hstores.reads, address_of_empty hempty, address_of_empty hempty]
    rw [copy_nil, hplace]
    rfl
  case isFalse =>
    rw [hstores.retreatReadFrom, hstores.reads]
    rfl

/-- What an overwrite does in a queue of one item. -/
theorem copyDataToQueue_overwrite (hstores : storage.StoresFrom memory first items)
    (hone : storage.uxLength = 1) (hbytes : storage.uxItemSize ≠ 0) :
    storage.copyDataToQueue memory item .overwrite =
      ({ storage with uxMessagesWaiting := 1 },
        copy memory (storage.slots.address first) item) := by
  have hreads : storage.pcReadFrom = storage.slots.address first := by
    rw [hstores.reads, hone]
    rfl
  have hretreat : storage.retreatReadFrom = storage := by
    have hplace :
        storage.slots.address (first + (storage.uxLength - 1) + (storage.uxLength - 1)) =
          storage.pcReadFrom := by
      rw [hreads, hone]
      rfl
    rw [hstores.retreatReadFrom, hplace]
  have hcount (count : ℕ) (hlast : count + 1 = 1) :
      { storage with uxMessagesWaiting := count }.addMessage =
        { storage with uxMessagesWaiting := 1 } :=
    congrArg (fun messages => { storage with uxMessagesWaiting := messages }) hlast
  rw [copyDataToQueue, if_neg hbytes, hretreat, ← hreads]
  split
  case isTrue hmessage =>
    have hbounded := hstores.bounded
    rw [← hstores.messages, hone] at hbounded
    exact Prod.ext (hcount (storage.uxMessagesWaiting - 1) (by omega)) rfl
  case isFalse hmessage =>
    exact Prod.ext (hcount storage.uxMessagesWaiting (by omega)) rfl

/-- What is received is the first item; the counter is left to the caller. -/
theorem copyDataFromQueue (hstores : storage.StoresFrom memory first (item :: items)) :
    storage.copyDataFromQueue memory =
      (item, { storage with pcReadFrom := storage.slots.address first }) := by
  have hread : read memory (storage.slots.address first) storage.uxItemSize = item :=
    (holds_cons_iff.mp hstores.holds).1
  rw [Storage.copyDataFromQueue]
  split
  case isTrue hempty =>
    have hplace : storage.slots.address first = storage.pcReadFrom := by
      rw [hstores.reads, address_of_empty hempty, address_of_empty hempty]
    rw [hempty] at hread
    rw [hplace, ← hread]
    rfl
  case isFalse =>
    rw [hstores.advanceReadFrom]
    exact Prod.ext hread rfl

end Storage.StoresFrom

theorem stores_sendToBack (hstores : storage.Stores memory items)
    (hroom : items.length < storage.uxLength) (hsize : item.length = storage.uxItemSize) :
    (storage.copyDataToQueue memory item .sendToBack).1.Stores
      (storage.copyDataToQueue memory item .sendToBack).2 (items ++ [item]) := by
  obtain ⟨first, hfrom⟩ := hstores
  rw [hfrom.copyDataToQueue_back hsize]
  have hlength : (items ++ [item]).length = items.length + 1 := List.length_append
  refine ⟨first, { hfrom with bounded := ?_, messages := ?_, writes := ?_, holds := ?_ }⟩
  · rw [hlength]
    exact hroom
  · exact hlength.symm
  · rw [hlength]
    rfl
  · exact hfrom.holds.copy_back hroom hsize

theorem stores_sendToFront (hstores : storage.Stores memory items)
    (hroom : items.length < storage.uxLength) (hsize : item.length = storage.uxItemSize) :
    (storage.copyDataToQueue memory item .sendToFront).1.Stores
      (storage.copyDataToQueue memory item .sendToFront).2 (item :: items) := by
  obtain ⟨first, hfrom⟩ := hstores
  rw [hfrom.copyDataToQueue_front hsize]
  refine ⟨first + (storage.uxLength - 1),
    { hfrom with
      bounded := hroom, messages := rfl, writes := ?_, reads := rfl, holds := ?_ }⟩
  · have hturn : first + (storage.uxLength - 1) + (items.length + 1) =
        first + items.length + storage.uxLength := by omega
    rw [List.length_cons, hturn]
    exact hfrom.writes.trans (Slots.address_add_number _ _).symm
  · exact hfrom.holds.copy_front hroom hsize

/-- In a queue of one item, an item that is there is replaced. -/
theorem stores_overwrite (hstores : storage.Stores memory items) (hone : storage.uxLength = 1)
    (hbytes : storage.uxItemSize ≠ 0) (hsize : item.length = storage.uxItemSize) :
    (storage.copyDataToQueue memory item .overwrite).1.Stores
      (storage.copyDataToQueue memory item .overwrite).2 [item] := by
  obtain ⟨first, hfrom⟩ := hstores
  rw [hfrom.copyDataToQueue_overwrite hone hbytes]
  have hnothing := (holds_nil storage.slots memory first).copy_back hfrom.positive hsize
  refine ⟨first, { hfrom with bounded := hone.ge, messages := rfl, writes := ?_, holds := hnothing }⟩
  have hbounded := hfrom.bounded
  have hturn : storage.slots.address (first + 1) = storage.slots.address first := by
    have hround : storage.slots.address (first + storage.uxLength) = storage.slots.address first :=
      Slots.address_add_number storage.slots first
    rwa [hone] at hround
  cases items with
  | nil => exact hfrom.writes.trans hturn.symm
  | cons head tail =>
      obtain rfl : tail = [] := by
        rw [← List.length_eq_zero_iff]
        rw [List.length_cons] at hbounded
        omega
      exact hfrom.writes

theorem stores_receive (hstores : storage.Stores memory (item :: items)) :
    (storage.copyDataFromQueue memory).1 = item ∧
      (storage.copyDataFromQueue memory).2.removeMessage.Stores memory items := by
  obtain ⟨first, hfrom⟩ := hstores
  rw [hfrom.copyDataFromQueue]
  refine ⟨rfl, first + 1, { hfrom with
    bounded := (Nat.le_succ _).trans hfrom.bounded, messages := ?_, writes := ?_, reads := ?_,
    holds := (holds_cons_iff.mp hfrom.holds).2 }⟩
  · rw [removeMessage, hfrom.messages, List.length_cons, Nat.add_sub_cancel]
  · refine hfrom.writes.trans ?_
    rw [List.length_cons, Nat.add_comm items.length, ← Nat.add_assoc]
    rfl
  · have hpositive := hfrom.positive
    have hturn : first + 1 + (storage.uxLength - 1) = first + storage.uxLength := by omega
    refine (Slots.address_add_number storage.slots first).symm.trans ?_
    exact congrArg storage.slots.address hturn.symm

/-- What is stored can be received. -/
theorem items_eq (hstores : storage.Stores memory items) : storage.items memory = items := by
  have hmessages : storage.uxMessagesWaiting = items.length := by
    obtain ⟨first, hfrom⟩ := hstores
    exact hfrom.messages
  rw [Storage.items, hmessages]
  clear hmessages
  induction items generalizing storage with
  | nil => rfl
  | cons item items ih =>
      obtain ⟨hitem, hrest⟩ := stores_receive hstores
      rw [List.length_cons, receivable, hitem, ih hrest]

/-- The bytes outside the storage area do not matter. -/
theorem stores_congr (hstores : storage.Stores memory items) {other : ℤ → Byte}
    (hsame : ∀ address, storage.pcHead ≤ address → address < storage.slots.finish →
      other address = memory address) :
    storage.Stores other items := by
  obtain ⟨first, hfrom⟩ := hstores
  exact ⟨first, { hfrom with holds := hfrom.holds.congr hfrom.positive hsame }⟩

/-- A send only writes to the storage area. -/
theorem copyDataToQueue_outside (hstores : storage.Stores memory items)
    (hsize : item.length = storage.uxItemSize) (xPosition : CopyPosition) {address : ℤ}
    (houtside : address < storage.pcHead ∨ storage.slots.finish ≤ address) :
    (storage.copyDataToQueue memory item xPosition).2 address = memory address := by
  obtain ⟨first, hfrom⟩ := hstores
  have hcopy (index : ℕ) : copy memory (storage.slots.address index) item address =
      memory address := by
    have hbounds : storage.pcHead ≤ storage.slots.address index ∧
        storage.slots.address index + storage.uxItemSize ≤ storage.slots.finish :=
      Slots.address_bounds hfrom.positive index
    apply copy_outside
    omega
  rw [copyDataToQueue.eq_def, hfrom.writes, hfrom.reads]
  split
  case isTrue => rfl
  case isFalse =>
    cases xPosition with
    | sendToBack | sendToFront | overwrite => exact hcopy _

/-- A send leaves the storage area where it is. -/
theorem slots_copyDataToQueue (storage : Storage) (memory : ℤ → Byte) (item : List Byte)
    (xPosition : CopyPosition) :
    (storage.copyDataToQueue memory item xPosition).1.slots = storage.slots := by
  rw [copyDataToQueue.eq_def]
  split
  case isTrue => rfl
  case isFalse =>
    cases xPosition with
    | sendToBack | sendToFront => rfl
    | overwrite =>
        simp only
        split <;> rfl

theorem slots_copyDataFromQueue (storage : Storage) (memory : ℤ → Byte) :
    (storage.copyDataFromQueue memory).2.slots = storage.slots := by
  rw [copyDataFromQueue]
  split <;> rfl

end FrequencyRelay.Queues
