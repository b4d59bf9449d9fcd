import FrequencyRelay.Kernel.QueueLocks

/-!
# What the queues hold

Each queue is a bounded queue of items, whatever the order in which tasks and interrupt
handlers use it and all the others: an operation takes effect as a whole in one step, and
the copies of its bytes touch no other queue.
-/

namespace FrequencyRelay.Queues

open FrequencyRelay.Runs
open FrequencyRelay.Tasks
open FrequencyRelay.Ticks

variable {Time Task Queue Byte : Type*}

/-- The items in a queue -/
def State.items (queue : Queue) (state : State Time Task Queue Byte) : List (List Byte) :=
  (state.queues queue).items state.memory

/-- What an operation does if it is tried now. -/
def State.outcome (queue : Queue) (state : State Time Task Queue Byte) :
    Operation Byte → BoundedQueue.Event (List Byte)
  | .send item .sendToBack =>
      if (state.queues queue).canPerform (.send item .sendToBack) then .sentToBack item
      else .foundFull
  | .send item .sendToFront =>
      if (state.queues queue).canPerform (.send item .sendToFront) then .sentToFront item
      else .foundFull
  | .send item .overwrite => .overwritten item
  | .receive xJustPeeking =>
      if (state.queues queue).canPerform (.receive xJustPeeking : Operation Byte) then
        if xJustPeeking then .peeked (state.buffer queue) else .received (state.buffer queue)
      else .foundEmpty

/-- What a step does to a queue. -/
def State.queueEvent [DecidableEq Queue] (queue : Queue) (state : State Time Task Queue Byte) :
    Action Task Queue Byte → Option (BoundedQueue.Event (List Byte))
  | .run task =>
      match state.pc task with
      | .trying call =>
          if call.xQueue = queue then some (state.outcome call.xQueue call.operation)
          else none
      | _ => none
  | .sendFromISR other item xCopyPosition =>
      if other = queue then some (state.outcome other (.send item xCopyPosition)) else none
  | .giveFromISR other =>
      if other = queue then some (state.outcome other (.send [] .sendToBack)) else none
  | .receiveFromISR other =>
      if other = queue then some (state.outcome other (.receive false)) else none
  | .tick | .call _ _ _ _ | .delay _ _ => none

/-- What a call returns with this result -/
def returned : BoundedQueue.Event (List Byte) → Return Byte
  | .sentToBack _ | .sentToFront _ | .overwritten _ => .sent
  | .received item | .peeked item => .received item
  | .foundFull | .foundEmpty => .failed

/-- The storage areas of different queues do not overlap. -/
def Apart (queues : Queue → QueueDefinition Task) : Prop :=
  ∀ first second, first ≠ second →
    (queues first).slots.finish ≤ (queues second).slots.base ∨
      (queues second).slots.finish ≤ (queues first).slots.base

/-- Every queue stores a list of items, and the calls that tasks are in fit their queues. -/
structure Stored (created : Queue → QueueDefinition Task)
    (state : State Time Task Queue Byte) : Prop where
  slots : ∀ queue, (state.queues queue).slots = (created queue).slots
  stores : ∀ queue, (state.queues queue).Stores state.memory (state.items queue)
  admitted : ∀ task call, (state.pc task).call = some call →
    (state.queues call.xQueue).Admits call.operation

/-- Neither the bytes nor the pointers of the queues differ. -/
structure SameStorage (state next : State Time Task Queue Byte) : Prop where
  memory : next.memory = state.memory
  storage : ∀ queue, (next.queues queue).toStorage = (state.queues queue).toStorage

/-- What a step does to the queues, with its events. -/
structure Advanced [DecidableEq Byte] (state next : State Time Task Queue Byte)
    (event : Queue → Option (BoundedQueue.Event (List Byte))) : Prop where
  slots : ∀ queue, (next.queues queue).slots = (state.queues queue).slots
  stores : ∀ queue, (next.queues queue).Stores next.memory (next.items queue)
  simulates : ∀ queue,
    Simulates (BoundedQueue.step (state.queues queue).uxLength) (State.items queue)
      (event queue) state next

variable {state middle next : State Time Task Queue Byte}
variable {created : Queue → QueueDefinition Task}

namespace SameStorage

theorem refl (state : State Time Task Queue Byte) : SameStorage state state := ⟨rfl, fun _ => rfl⟩

theorem trans (hfirst : SameStorage state middle) (hsecond : SameStorage middle next) :
    SameStorage state next :=
  ⟨hsecond.memory.trans hfirst.memory,
    fun queue => (hsecond.storage queue).trans (hfirst.storage queue)⟩

theorem items (hsame : SameStorage state next) (queue : Queue) :
    next.items queue = state.items queue := by
  rw [State.items, State.items, hsame.storage, hsame.memory]

end SameStorage

theorem admits_congr {queue other : QueueDefinition Task} (hslots : other.slots = queue.slots)
    (operation : Operation Byte) : other.Admits operation ↔ queue.Admits operation := by
  have hnumber : other.uxLength = queue.uxLength := congrArg ByteMemory.Slots.number hslots
  have hsize : other.uxItemSize = queue.uxItemSize := congrArg ByteMemory.Slots.size hslots
  cases operation with
  | send => rw [QueueDefinition.Admits, QueueDefinition.Admits, hnumber, hsize]
  | receive => exact Iff.rfl

theorem Stored.messages (hstored : Stored created state) (queue : Queue) :
    (state.queues queue).uxMessagesWaiting = (state.items queue).length := by
  obtain ⟨first, hfrom⟩ := hstored.stores queue
  exact hfrom.messages

theorem Stored.bounded (hstored : Stored created state) (queue : Queue) :
    (state.items queue).length ≤ (state.queues queue).uxLength := by
  obtain ⟨first, hfrom⟩ := hstored.stores queue
  exact hfrom.bounded

section Same

variable [DecidableEq Queue]

theorem sameStorage_setQueue {scheduler : Scheduler Time Task} {queue : Queue}
    {definition : QueueDefinition Task}
    (hstorage : definition.toStorage = (state.queues queue).toStorage) :
    SameStorage state ({ state with scheduler := scheduler }.setQueue queue definition) := by
  refine ⟨rfl, ?_⟩
  intro other
  rw [State.setQueue]
  by_cases hother : other = queue
  · subst hother
    simp only [Function.update_self]
    exact hstorage
  · simp only [Function.update_of_ne hother]

variable [DecidableEq Task]

theorem sameStorage_wake (state : State Time Task Queue Byte) (side : Side) (queue : Queue) :
    SameStorage state (state.wake side queue) := by
  rw [State.wake]
  split
  case h_1 => exact .refl state
  case h_2 =>
    apply sameStorage_setQueue
    cases side <;> rfl

theorem sameStorage_note (state : State Time Task Queue Byte) (side : Side) (queue : Queue) :
    SameStorage state (state.note side queue) := by
  rw [State.note]
  split
  case isTrue => exact sameStorage_wake state side queue
  case isFalse =>
    apply sameStorage_setQueue
    cases side <;> rfl

omit [DecidableEq Queue] in
theorem sameStorage_setPc (hsame : SameStorage state next) (task : Task)
    (pc : Pc Time Queue Byte) : SameStorage state (next.setPc task pc) :=
  ⟨hsame.memory, hsame.storage⟩

end Same

/-! ## One operation -/

section Operations

variable [DecidableEq Queue]

theorem slots_copyTo (state : State Time Task Queue Byte) (queue : Queue) (item : List Byte)
    (xCopyPosition : CopyPosition) (other : Queue) :
    ((state.copyTo queue item xCopyPosition).queues other).slots =
      (state.queues other).slots := by
  rw [State.copyTo, State.setQueue]
  by_cases hother : other = queue
  · subst hother
    simp only [Function.update_self]
    exact slots_copyDataToQueue ..
  · simp only [Function.update_of_ne hother]

theorem slots_takeFrom (state : State Time Task Queue Byte) (queue other : Queue) :
    ((state.takeFrom queue).queues other).slots = (state.queues other).slots := by
  rw [State.takeFrom, State.setQueue]
  by_cases hother : other = queue
  · subst hother
    simp only [Function.update_self]
    exact slots_copyDataFromQueue ..
  · simp only [Function.update_of_ne hother]

/-- The other queues do not notice a send. -/
theorem stores_copyTo (hstored : Stored created state) (hapart : Apart created)
    {queue : Queue} {item : List Byte} {xCopyPosition : CopyPosition}
    {items : List (List Byte)} (hsize : item.length = (state.queues queue).uxItemSize)
    (hnew : ((state.queues queue).copyDataToQueue state.memory item xCopyPosition).1.Stores
      ((state.queues queue).copyDataToQueue state.memory item xCopyPosition).2 items)
    (other : Queue) :
    ((state.copyTo queue item xCopyPosition).queues other).Stores
      (state.copyTo queue item xCopyPosition).memory
      (if other = queue then items else state.items other) := by
  rw [State.copyTo, State.setQueue]
  by_cases hother : other = queue
  · subst hother
    simp only [Function.update_self, if_true]
    exact hnew
  · simp only [Function.update_of_ne hother, if_neg hother]
    apply stores_congr (hstored.stores other)
    intro address hfrom hto
    apply copyDataToQueue_outside (hstored.stores queue) hsize
    have hareas := hapart other queue hother
    rw [← hstored.slots, ← hstored.slots] at hareas
    rcases hareas with hbefore | hbehind
    · exact .inl (hto.trans_le hbefore)
    · exact .inr (hbehind.trans hfrom)

theorem stores_takeFrom (hstored : Stored created state) {queue : Queue}
    {item : List Byte} {items : List (List Byte)} (hitems : state.items queue = item :: items)
    (other : Queue) :
    ((state.takeFrom queue).queues other).Stores (state.takeFrom queue).memory
      (if other = queue then items else state.items other) := by
  have hstores := hstored.stores queue
  rw [hitems] at hstores
  rw [State.takeFrom, State.setQueue]
  by_cases hother : other = queue
  · subst hother
    simp only [Function.update_self, if_true]
    exact (stores_receive hstores).2
  · simp only [Function.update_of_ne hother, if_neg hother]
    exact hstored.stores other

variable [DecidableEq Byte]

/-- An operation on one queue, and a change that concerns no items -/
theorem advanced_of_stores (hslots : ∀ other, (middle.queues other).slots =
      (state.queues other).slots)
    {queue : Queue} {items : List (List Byte)} {event : BoundedQueue.Event (List Byte)}
    (hstores : ∀ other, (middle.queues other).Stores middle.memory
      (if other = queue then items else state.items other))
    (hsame : SameStorage middle next)
    (hstep : BoundedQueue.step (state.queues queue).uxLength (state.items queue) event =
      some items) :
    Advanced state next (fun other => if queue = other then some event else none) := by
  have hitems (other : Queue) :
      next.items other = if other = queue then items else state.items other := by
    rw [hsame.items]
    exact items_eq (hstores other)
  refine ⟨?_, ?_, ?_⟩
  · intro other
    rw [hsame.storage]
    exact hslots other
  · intro other
    rw [hsame.memory, hsame.storage, hitems]
    exact hstores other
  · intro other
    by_cases hother : queue = other
    · subst hother
      rw [if_pos rfl, Simulates, hitems, if_pos rfl]
      exact hstep
    · rw [if_neg hother]
      exact (hitems other).trans (if_neg (Ne.symm hother))

omit [DecidableEq Queue] in
/-- A change that concerns no items, and an operation that found nothing to do -/
theorem advanced_of_same (hstored : Stored created state) (hsame : SameStorage state next)
    {event : Queue → Option (BoundedQueue.Event (List Byte))}
    (hevent : ∀ queue happened, event queue = some happened →
      BoundedQueue.step (state.queues queue).uxLength (state.items queue) happened =
        some (state.items queue)) :
    Advanced state next event := by
  refine ⟨?_, ?_, ?_⟩
  · intro queue
    rw [hsame.storage]
  · intro queue
    rw [hsame.memory, hsame.storage, hsame.items]
    exact hstored.stores queue
  · intro queue
    cases hhappened : event queue with
    | none => exact hsame.items queue
    | some happened =>
        rw [Simulates, hsame.items]
        exact hevent queue happened hhappened

theorem copyTo_advances (hstored : Stored created state) (hapart : Apart created)
    {queue : Queue} {item : List Byte} {xCopyPosition : CopyPosition}
    (hadmits : (state.queues queue).Admits (.send item xCopyPosition))
    (hcan : (state.queues queue).canPerform (.send item xCopyPosition)) :
    ∃ items,
      (∀ other, ((state.copyTo queue item xCopyPosition).queues other).Stores
        (state.copyTo queue item xCopyPosition).memory
        (if other = queue then items else state.items other)) ∧
      BoundedQueue.step (state.queues queue).uxLength (state.items queue)
        (state.outcome queue (.send item xCopyPosition)) = some items := by
  obtain ⟨hsize, hone⟩ := hadmits
  have hstores := hstored.stores queue
  have hroom (hposition : xCopyPosition ≠ .overwrite) :
      (state.items queue).length < (state.queues queue).uxLength := by
    rw [← hstored.messages]
    exact (of_decide_eq_true hcan).resolve_right hposition
  cases xCopyPosition with
  | sendToBack =>
      have hlt := hroom (by simp)
      refine ⟨_, stores_copyTo hstored hapart hsize (stores_sendToBack hstores hlt hsize), ?_⟩
      rw [State.outcome, if_pos hcan, BoundedQueue.step, if_pos hlt]
  | sendToFront =>
      have hlt := hroom (by simp)
      refine ⟨_, stores_copyTo hstored hapart hsize (stores_sendToFront hstores hlt hsize), ?_⟩
      rw [State.outcome, if_pos hcan, BoundedQueue.step, if_pos hlt]
  | overwrite =>
      obtain ⟨hlength, hbytes⟩ := hone rfl
      refine ⟨_, stores_copyTo hstored hapart hsize
        (stores_overwrite hstores hlength hbytes hsize), ?_⟩
      rw [State.outcome, BoundedQueue.step, if_pos hlength]

omit [DecidableEq Queue] [DecidableEq Byte] in
/-- The buffer of a receive gets the first item. -/
theorem items_of_message (hstored : Stored created state) {queue : Queue}
    (hmessage : 0 < (state.queues queue).uxMessagesWaiting) :
    ∃ items, state.items queue = state.buffer queue :: items := by
  rw [hstored.messages] at hmessage
  obtain ⟨item, items, hitems⟩ := List.exists_cons_of_length_pos hmessage
  have hstores := hstored.stores queue
  rw [hitems] at hstores
  rw [State.buffer, (stores_receive hstores).1]
  exact ⟨items, hitems⟩

theorem takeFrom_advances (hstored : Stored created state) {queue : Queue}
    (hmessage : 0 < (state.queues queue).uxMessagesWaiting) :
    ∃ items,
      (∀ other, ((state.takeFrom queue).queues other).Stores (state.takeFrom queue).memory
        (if other = queue then items else state.items other)) ∧
      BoundedQueue.step (state.queues queue).uxLength (state.items queue)
        (state.outcome queue (.receive false)) = some items := by
  obtain ⟨items, hitems⟩ := items_of_message hstored hmessage
  refine ⟨items, stores_takeFrom hstored hitems, ?_⟩
  have hcan : (state.queues queue).canPerform (.receive false : Operation Byte) :=
    decide_eq_true hmessage
  rw [State.outcome, if_pos hcan, hitems]
  exact if_pos rfl

omit [DecidableEq Queue] in
/-- An operation that cannot be carried out finds the queue full or empty. -/
theorem outcome_of_cannot (hstored : Stored created state) {queue : Queue}
    {operation : Operation Byte} (hcannot : ¬ (state.queues queue).canPerform operation) :
    BoundedQueue.step (state.queues queue).uxLength (state.items queue)
      (state.outcome queue operation) = some (state.items queue) := by
  have hmessages := hstored.messages queue
  have hbounded := hstored.bounded queue
  cases operation with
  | send item xCopyPosition =>
      have hfull : (state.items queue).length = (state.queues queue).uxLength ∧
          xCopyPosition ≠ .overwrite := by
        rw [QueueDefinition.canPerform, decide_eq_true_eq, not_or] at hcannot
        exact ⟨by omega, hcannot.2⟩
      cases xCopyPosition with
      | sendToBack | sendToFront =>
          rw [State.outcome, if_neg hcannot, BoundedQueue.step, if_pos hfull.1]
      | overwrite => exact absurd rfl hfull.2
  | receive xJustPeeking =>
      have hempty : state.items queue = [] := by
        rw [QueueDefinition.canPerform, decide_eq_true_eq] at hcannot
        rw [← List.length_eq_zero_iff]
        omega
      rw [State.outcome, if_neg hcannot, BoundedQueue.step, if_pos hempty]

end Operations

/-! ## Runs -/

section Runs

variable [TickType Time] [DecidableEq Task] [DecidableEq Queue] [DecidableEq Byte]
variable {uxPriority : Task → ℕ}

omit [TickType Time] in
theorem advanced_perform (hstored : Stored created state) (hapart : Apart created)
    {queue : Queue} {operation : Operation Byte}
    (hadmits : (state.queues queue).Admits operation)
    (hcan : (state.queues queue).canPerform operation) :
    Advanced state (state.perform queue operation)
      (fun other => if queue = other then some (state.outcome queue operation) else none) := by
  cases operation with
  | send item xCopyPosition =>
      obtain ⟨items, hstores, hstep⟩ := copyTo_advances hstored hapart hadmits hcan
      exact advanced_of_stores (slots_copyTo state queue item xCopyPosition) hstores
        (sameStorage_wake _ .receivers queue) hstep
  | receive xJustPeeking =>
      have hmessage : 0 < (state.queues queue).uxMessagesWaiting := of_decide_eq_true hcan
      cases xJustPeeking with
      | false =>
          obtain ⟨items, hstores, hstep⟩ := takeFrom_advances hstored hmessage
          exact advanced_of_stores (slots_takeFrom state queue) hstores
            (sameStorage_wake _ .senders queue) hstep
      | true =>
          apply advanced_of_same hstored (sameStorage_wake state .receivers queue)
          intro other happened hhappened
          rw [Option.ite_none_right_eq_some] at hhappened
          obtain ⟨rfl, hhappened⟩ := hhappened
          obtain rfl := Option.some.inj hhappened
          obtain ⟨items, hitems⟩ := items_of_message hstored hmessage
          rw [State.outcome, if_pos hcan, hitems]
          exact if_pos rfl

omit [TickType Time] [DecidableEq Task] [DecidableEq Queue] in
theorem Advanced.of_same {event : Queue → Option (BoundedQueue.Event (List Byte))}
    (hadvanced : Advanced state middle event) (hsame : SameStorage middle next) :
    Advanced state next event := by
  refine ⟨?_, ?_, ?_⟩
  · intro queue
    rw [hsame.storage, hadvanced.slots]
  · intro queue
    rw [hsame.storage, hsame.memory, hsame.items]
    exact hadvanced.stores queue
  · intro queue
    have hsimulates := hadvanced.simulates queue
    cases hevent : event queue with
    | none =>
        rw [hevent] at hsimulates
        exact (hsame.items queue).trans hsimulates
    | some happened =>
        rw [hevent] at hsimulates
        rw [Simulates, hsame.items]
        exact hsimulates

theorem advanced_moved (hstored : Stored created state) (hapart : Apart created) {task : Task}
    (hmoved : Moved uxPriority state task next) :
    Advanced state next (fun queue => state.queueEvent queue (.run task)) := by
  have hnothing (hsame : SameStorage state next)
      (hpc : ∀ call, state.pc task ≠ .trying call) :
      Advanced state next (fun queue => state.queueEvent queue (.run task)) := by
    apply advanced_of_same hstored hsame
    intro queue happened hhappened
    rw [State.queueEvent] at hhappened
    split at hhappened
    case h_1 call htrying => exact absurd htrying (hpc call)
    case h_2 => cases hhappened
  have hfound {call : Call Time Queue Byte} (hsame : SameStorage state next)
      (hpc : state.pc task = .trying call)
      (hcannot : ¬ (state.queues call.xQueue).canPerform call.operation) :
      Advanced state next (fun queue => state.queueEvent queue (.run task)) := by
    apply advanced_of_same hstored hsame
    intro queue happened hhappened
    simp only [State.queueEvent, hpc, Option.ite_none_right_eq_some] at hhappened
    obtain ⟨rfl, hhappened⟩ := hhappened
    obtain rfl := Option.some.inj hhappened
    exact outcome_of_cannot hstored hcannot
  cases hmoved with
  | performed call hpc hcan =>
      have hadmits := hstored.admitted task call (by rw [hpc]; rfl)
      have hadvanced := advanced_perform hstored hapart hadmits hcan
      simp only [State.queueEvent, hpc]
      exact hadvanced.of_same (sameStorage_setPc (.refl _) _ _)
  | failed call hpc hcannot | waits call hpc hcannot =>
      exact hfound (sameStorage_setPc (.refl _) _ _) hpc hcannot
  | suspended call hpc =>
      apply hnothing
      · exact ⟨rfl, fun _ => rfl⟩
      · simp [hpc]
  | locked call hpc =>
      apply hnothing
      · apply sameStorage_setPc
        exact sameStorage_setQueue rfl
      · simp [hpc]
  | expired call _ hpc | inTime call _ _ _ hpc | mustWait call hpc | needNotWait call hpc =>
      apply hnothing
      · exact sameStorage_setPc (.refl _) _ _
      · simp [hpc]
  | placed call hpc =>
      apply hnothing
      · apply sameStorage_setPc
        apply sameStorage_setQueue
        cases call.operation.side <;> rfl
      · simp [hpc]
  | unlockedTx call _ hpc | unlockedRx call _ hpc =>
      apply hnothing
      · apply sameStorage_setPc
        exact sameStorage_setQueue rfl
      · simp [hpc]
  | resumed call _ hpc =>
      apply hnothing
      · exact ⟨rfl, fun _ => rfl⟩
      · simp [hpc]
  | delayed _ hpc | delayResumed hpc =>
      apply hnothing
      · exact ⟨rfl, fun _ => rfl⟩
      · simp [hpc]

theorem advanced_step (hstored : Stored created state) (hapart : Apart created)
    {action : Action Task Queue Byte} (heffect : Effect uxPriority state action next) :
    Advanced state next (fun queue => state.queueEvent queue action) := by
  have hnothing (hsame : SameStorage state next) :
      Advanced state next (fun _ => none) :=
    advanced_of_same hstored hsame fun _ _ hhappened => nomatch hhappened
  have hfound {queue : Queue} {operation : Operation Byte} (hnext : next = state)
      (hcannot : ¬ (state.queues queue).canPerform operation) :
      Advanced state next (fun other =>
        if queue = other then some (state.outcome queue operation) else none) := by
    rw [hnext]
    apply advanced_of_same hstored (.refl state)
    intro other happened hhappened
    rw [Option.ite_none_right_eq_some] at hhappened
    obtain ⟨rfl, hhappened⟩ := hhappened
    obtain rfl := Option.some.inj hhappened
    exact outcome_of_cannot hstored hcannot
  cases heffect with
  | ticked => exact hnothing ⟨rfl, fun _ => rfl⟩
  | called | rescheduled | delayBegun => exact hnothing ⟨rfl, fun _ => rfl⟩
  | moved task _ hrun hmoved => exact advanced_moved hstored hapart hmoved
  | sentFromISR queue item xCopyPosition hadmits hcan =>
      obtain ⟨items, hstores, hstep⟩ := copyTo_advances hstored hapart hadmits hcan
      exact advanced_of_stores (slots_copyTo state queue item xCopyPosition) hstores
        (sameStorage_note _ .receivers queue) hstep
  | gaveFromISR queue hempty hcan =>
      have hadmits : (state.queues queue).Admits (.send ([] : List Byte) .sendToBack) :=
        ⟨hempty.symm, fun hoverwrite => nomatch hoverwrite⟩
      obtain ⟨items, hstores, hstep⟩ := copyTo_advances hstored hapart hadmits hcan
      exact advanced_of_stores (slots_copyTo state queue [] .sendToBack) hstores
        (sameStorage_note _ .receivers queue) hstep
  | receivedFromISR queue hcan =>
      obtain ⟨items, hstores, hstep⟩ := takeFrom_advances hstored hcan
      exact advanced_of_stores (slots_takeFrom state queue) hstores
        (sameStorage_note _ .senders queue) hstep
  | foundFullFromISR queue item xCopyPosition hcannot => exact hfound rfl hcannot
  | gaveFullFromISR queue hcannot => exact hfound rfl hcannot
  | foundEmptyFromISR queue hcannot =>
      apply hfound rfl
      rw [QueueDefinition.canPerform, hcannot]
      decide

theorem stored_step (hstored : Stored created state) (hapart : Apart created)
    {action : Action Task Queue Byte} (heffect : Effect uxPriority state action next) :
    Stored created next := by
  have hadvanced := advanced_step hstored hapart heffect
  refine ⟨?_, hadvanced.stores, ?_⟩
  · intro queue
    rw [hadvanced.slots, hstored.slots]
  · intro task call hcall
    rw [admits_congr (hadvanced.slots call.xQueue)]
    rcases call_step heffect hcall with ⟨before, hbefore, hqueue, hoperation⟩ | hadmits
    · rw [← hqueue, ← hoperation]
      exact hstored.admitted task before hbefore
    · exact hadmits

/-- The queues that have been created: their storage areas have room for their items and do
not overlap. -/
structure Created (queues : Queue → QueueDefinition Task) : Prop where
  reset : ∀ queue, queues queue =
    queueGenericReset (queues queue).pcHead (queues queue).uxLength (queues queue).uxItemSize
  length : ∀ queue, 0 < (queues queue).uxLength
  fits : ∀ queue, (queues queue).uxLength * (queues queue).uxItemSize < 2 ^ 32
  apart : Apart queues

omit [TickType Time] [DecidableEq Task] [DecidableEq Queue] [DecidableEq Byte] in
theorem Created.waiting (hcreated : Created created) (side : Side) (queue : Queue) :
    (created queue).waiting side = [] := by
  rw [hcreated.reset queue, waiting_reset]

omit [TickType Time] [DecidableEq Task] [DecidableEq Queue] [DecidableEq Byte] in
theorem Created.lockCount (hcreated : Created created) (side : Side) (queue : Queue) :
    (created queue).lockCount side = -1 := by
  rw [hcreated.reset queue, lockCount_reset]

omit [TickType Time] [DecidableEq Task] [DecidableEq Queue] [DecidableEq Byte] in
theorem stored_initial (hcreated : Created created) (zero : Time) (memory : ℤ → Byte) :
    Stored created (initial zero created memory) := by
  have hstores (queue : Queue) : (created queue).Stores memory [] := by
    rw [hcreated.reset queue]
    exact stores_reset (hcreated.length queue) (hcreated.fits queue)
  refine ⟨fun _ => rfl, ?_, ?_⟩
  · intro queue
    have hitems : (initial zero created memory).items queue = [] := items_eq (hstores queue)
    rw [hitems]
    exact hstores queue
  · intro task call hcall
    cases hcall

omit [TickType Time] [DecidableEq Task] [DecidableEq Queue] [DecidableEq Byte] in
theorem items_initial (hcreated : Created created) (zero : Time) (memory : ℤ → Byte)
    (queue : Queue) : (initial zero created memory).items queue = [] := by
  rw [← List.length_eq_zero_iff, ← (stored_initial hcreated zero memory).messages queue]
  exact congrArg (fun definition => definition.uxMessagesWaiting) (hcreated.reset queue)

/-- What a queue holds changes as the list of a bounded queue does. -/
theorem simulates_of_path (hapart : Apart created) {start : State Time Task Queue Byte}
    (hstored : Stored created start)
    {trace : Trace (State Time Task Queue Byte) (Action Task Queue Byte)}
    (hpath : Path (step uxPriority) start trace state) (queue : Queue) :
    Path (BoundedQueue.step (created queue).uxLength) (start.items queue)
      (observed (State.items queue) (State.queueEvent queue) trace) (state.items queue) := by
  apply hpath.observed_of_invariant (Stored created) (State.items queue)
    (State.queueEvent queue) hstored
  · intro source action target hstep hsource
    exact stored_step hsource hapart (step_effect hstep)
  · intro source action target hstep hsource
    have hlength : (source.queues queue).uxLength = (created queue).uxLength :=
      congrArg ByteMemory.Slots.number (hsource.slots queue)
    rw [← hlength]
    exact (advanced_step hsource hapart (step_effect hstep)).simulates queue

omit [TickType Time] [DecidableEq Task] [DecidableEq Queue] [DecidableEq Byte] in
theorem returned_outcome (queue : Queue) (operation : Operation Byte) :
    returned (state.outcome queue operation) =
      if (state.queues queue).canPerform operation then state.result queue operation
      else .failed := by
  cases operation with
  | send item xCopyPosition =>
      cases xCopyPosition with
      | sendToBack | sendToFront => exact apply_ite returned _ _ _
      | overwrite => exact (if_pos (decide_eq_true (.inr rfl))).symm
  | receive xJustPeeking =>
      simp only [State.outcome, apply_ite returned]
      simp only [returned, ite_self, State.result]

omit [DecidableEq Byte] in
/-- A call returns the result of its operation, or waits if that has failed. -/
theorem return_of_event {task : Task} {event : BoundedQueue.Event (List Byte)} {queue : Queue}
    (hstep : step uxPriority state (.run task) = some next)
    (hevent : state.queueEvent queue (.run task) = some event) :
    next.pc task = .returned (some (returned event)) ∨
      returned event = .failed ∧ ∃ call, next.pc task = .suspending call := by
  obtain ⟨call, hpc, rfl⟩ : ∃ call, state.pc task = .trying call ∧
      state.outcome call.xQueue call.operation = event := by
    rw [State.queueEvent] at hevent
    split at hevent
    case h_1 call hpc =>
      rw [Option.ite_none_right_eq_some] at hevent
      exact ⟨call, hpc, Option.some.inj hevent.2⟩
    case h_2 => cases hevent
  obtain ⟨-, hnext⟩ := Option.ite_none_right_eq_some.mp hstep
  rw [State.runTask, hpc] at hnext
  obtain rfl := Option.some.inj hnext
  rw [returned_outcome, State.tryCall]
  split
  case isTrue => exact .inl (pc_setPc_self ..)
  case isFalse =>
    split
    case isTrue => exact .inl (pc_setPc_self ..)
    case isFalse => exact .inr ⟨rfl, _, pc_setPc_self ..⟩

omit [DecidableEq Byte] in
/-- A task that is told that it has sent or received has done so in that step. -/
theorem event_of_return {task : Task} {result : Return Byte}
    (hstep : step uxPriority state (.run task) = some next)
    (hreturn : next.pc task = .returned (some result)) (hresult : result ≠ .failed) :
    ∃ queue event, state.queueEvent queue (.run task) = some event ∧
      returned event = result := by
  have hfailed {last : Return Byte}
      (hpc : (Pc.returned (some last) : Pc Time Queue Byte) = .returned (some result)) :
      last = result := Option.some.inj (Pc.returned.inj hpc)
  cases step_effect hstep with
  | moved task next hrun hmoved =>
      cases hmoved with
      | performed call hpc hcan =>
          rw [pc_setPc_self] at hreturn
          refine ⟨call.xQueue, state.outcome call.xQueue call.operation, ?_, ?_⟩
          · rw [State.queueEvent, hpc]
            exact if_pos rfl
          · rw [returned_outcome, if_pos hcan]
            exact hfailed hreturn
      | failed =>
          rw [pc_setPc_self] at hreturn
          exact absurd (hfailed hreturn).symm hresult
      | resumed call timedOut =>
          rw [pc_setPc_self] at hreturn
          cases timedOut with
          | false => cases hreturn
          | true => exact absurd (hfailed hreturn).symm hresult
      | _ =>
          rw [pc_setPc_self] at hreturn
          cases hreturn

omit [TickType Time] [DecidableEq Task] [DecidableEq Byte] in
/-- The call of an interrupt handler returns the result of its operation. -/
theorem returnFromISR_of_event {action : Action Task Queue Byte}
    {event : BoundedQueue.Event (List Byte)} {queue : Queue}
    (haction : ∀ task, action ≠ .run task)
    (hevent : state.queueEvent queue action = some event) :
    state.returnFromISR action = some (returned event) := by
  cases action with
  | tick | call | delay => cases hevent
  | run task => exact absurd rfl (haction task)
  | sendFromISR other item xCopyPosition =>
      obtain ⟨-, hevent⟩ := Option.ite_none_right_eq_some.mp hevent
      obtain rfl := Option.some.inj hevent
      rw [returned_outcome]
      rfl
  | giveFromISR other =>
      obtain ⟨-, hevent⟩ := Option.ite_none_right_eq_some.mp hevent
      obtain rfl := Option.some.inj hevent
      rw [returned_outcome, State.returnFromISR]
      simp [QueueDefinition.canPerform, State.result]
  | receiveFromISR other =>
      obtain ⟨-, hevent⟩ := Option.ite_none_right_eq_some.mp hevent
      obtain rfl := Option.some.inj hevent
      rw [returned_outcome, State.returnFromISR]
      simp [QueueDefinition.canPerform, State.result]

/-- Every queue is a bounded queue: in any order of the steps of tasks, interrupts and
ticks, its operations have the results of the operations on a list. -/
theorem queues_are_bounded_queues (hcreated : Created created) {zero : Time}
    {memory : ℤ → Byte}
    {trace : Trace (State Time Task Queue Byte) (Action Task Queue Byte)}
    (hpath : Path (step uxPriority) (initial zero created memory) trace state)
    (queue : Queue) :
    Path (BoundedQueue.step (created queue).uxLength) []
      (observed (State.items queue) (State.queueEvent queue) trace) (state.items queue) := by
  have hrun :=
    simulates_of_path hcreated.apart (stored_initial hcreated zero memory) hpath queue
  rwa [items_initial hcreated zero memory queue] at hrun

/-- First in, first out: a queue to whose front nothing is sent has handed out what was
sent to it, byte for byte and in the same order, but for the items that it still holds. -/
theorem sent_eq_received_append (hcreated : Created created) {zero : Time}
    {memory : ℤ → Byte}
    {trace : Trace (State Time Task Queue Byte) (Action Task Queue Byte)}
    (hpath : Path (step uxPriority) (initial zero created memory) trace state) (queue : Queue)
    (horder : ∀ transition ∈ observed (State.items queue) (State.queueEvent queue) trace,
      transition.action.InOrder) :
    (observed (State.items queue) (State.queueEvent queue) trace).filterMap
        (fun transition => transition.action.sent) =
      (observed (State.items queue) (State.queueEvent queue) trace).filterMap
          (fun transition => transition.action.taken) ++
        state.items queue := by
  have hrun :=
    simulates_of_path hcreated.apart (stored_initial hcreated zero memory) hpath queue
  have hsent := BoundedQueue.sent_eq_taken_append hrun horder
  rwa [items_initial hcreated zero memory queue, List.nil_append] at hsent

end Runs

/-! ## A run -/

/-- A queue for two items of one byte -/
def twoBytes : Unit → QueueDefinition Task := fun _ => queueGenericReset 100 2 1

theorem created_twoBytes : Created (twoBytes : Unit → QueueDefinition Task) where
  reset _ := rfl
  length _ := Nat.two_pos
  fits _ := by
    change 2 * 1 < 2 ^ 32
    decide
  apart _ _ hne := absurd rfl hne

/-- A task waits to receive, and an item is sent while the scheduler is still suspended. -/
def sentWhileSuspended : List (Action Unit Unit (BitVec 8)) :=
  .call () () (.receive false) 5 :: List.replicate 7 (.run ()) ++
    [.tick, .sendFromISR () [7] .sendToBack, .tick] ++ List.replicate 3 (.run ())

theorem queues_are_bounded_queues_sentWhileSuspended :
    ∃ run, follow (step fun _ => 3) (initial (0 : BitVec 32) twoBytes fun _ => 0)
        sentWhileSuspended = some run ∧
      Path (BoundedQueue.step 2) []
        (observed (State.items ()) (State.queueEvent ()) run.1) (run.2.items ()) :=
  ⟨_, (Option.some_get rfl).symm,
    queues_are_bounded_queues created_twoBytes (path_of_schedule rfl) ()⟩

theorem sent_eq_received_append_sentWhileSuspended :
    ∃ run, follow (step fun _ => 3) (initial (0 : BitVec 32) twoBytes fun _ => 0)
        sentWhileSuspended = some run ∧
      (observed (State.items ()) (State.queueEvent ()) run.1).filterMap
          (fun transition => transition.action.sent) =
        (observed (State.items ()) (State.queueEvent ()) run.1).filterMap
            (fun transition => transition.action.taken) ++
          run.2.items () := by
  refine ⟨_, (Option.some_get rfl).symm, ?_⟩
  apply sent_eq_received_append created_twoBytes (path_of_schedule rfl) ()
  decide +kernel

end FrequencyRelay.Queues
