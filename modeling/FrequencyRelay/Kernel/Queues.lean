import FrequencyRelay.Kernel.QueueStorage
import FrequencyRelay.Kernel.Tasks

/-!
# Queues between tasks and interrupts

The calls of `queue.c` by which tasks and interrupt handlers exchange items, with the
delays of `tasks.c`.  A task that cannot go on suspends the scheduler and locks the queue
before it puts itself on an event list; an interrupt that comes meanwhile leaves the event
lists alone and counts in the lock what it has done, for the task to catch up on.

A step goes as far as the next point where an interrupt or another task may come in: the
end of a critical section, or of a change that nobody else can see.
-/

namespace FrequencyRelay.Queues

open FrequencyRelay.SortedInsertion
open FrequencyRelay.Tasks
open FrequencyRelay.Ticks

/-- `QueueDefinition` -/
structure QueueDefinition (Task : Type*) extends Storage where
  xTasksWaitingToSend : List Task
  xTasksWaitingToReceive : List Task
  xRxLock : BitVec 32
  xTxLock : BitVec 32

/-- `xQueueGenericReset` of a new queue whose storage area begins at `pcHead` -/
def queueGenericReset {Task : Type*} (pcHead : ℤ) (uxLength uxItemSize : ℕ) :
    QueueDefinition Task where
  toStorage := Storage.reset pcHead uxLength uxItemSize
  xTasksWaitingToSend := []
  xTasksWaitingToReceive := []
  xRxLock := -1
  xTxLock := -1

/-- `xQueueGenericSend` or `xQueueGenericReceive` -/
inductive Operation (Byte : Type*)
  | send (pvItemToQueue : List Byte) (xCopyPosition : CopyPosition)
  | receive (xJustPeeking : Bool)

/-- The tasks that wait for items, or those that wait for room -/
inductive Side
  | receivers
  | senders
  deriving DecidableEq

/-- Where a task waits that cannot go on. -/
def Operation.side {Byte : Type*} : Operation Byte → Side
  | .send _ _ => .senders
  | .receive _ => .receivers

/-- A call with its local variables; `xEntryTimeSet` is true if there is a `xTimeOut`. -/
structure Call (Time Queue Byte : Type*) where
  xQueue : Queue
  operation : Operation Byte
  xTicksToWait : BitVec 32
  xTimeOut : Option (TimeOut Time)

/-- What a call returns, with what is left in the buffer of a receive -/
inductive Return (Byte : Type*)
  | sent
  | received (pvBuffer : List Byte)
  | failed

/-- Where a task is.  From `locking` on, it has suspended the scheduler. -/
inductive Pc (Time Queue Byte : Type*)
  | returned (xReturn : Option (Return Byte))
  | trying (call : Call Time Queue Byte)
  | suspending (call : Call Time Queue Byte)
  | locking (call : Call Time Queue Byte)
  | checking (call : Call Time Queue Byte)
  | testing (call : Call Time Queue Byte)
  | placing (call : Call Time Queue Byte)
  | unlockingTx (call : Call Time Queue Byte) (timedOut : Bool)
  | unlockingRx (call : Call Time Queue Byte) (timedOut : Bool)
  | resuming (call : Call Time Queue Byte) (timedOut : Bool)
  | delaying (xTicksToDelay : BitVec 32)
  | resumingDelay

structure State (Time Task Queue Byte : Type*) where
  scheduler : Scheduler Time Task
  queues : Queue → QueueDefinition Task
  memory : ℤ → Byte
  pc : Task → Pc Time Queue Byte

/-- A tick, the beginning of a call, the next step of a task, or a call from an interrupt
handler. -/
inductive Action (Task Queue Byte : Type*)
  | tick
  | call (task : Task) (queue : Queue) (operation : Operation Byte) (xTicksToWait : BitVec 32)
  | delay (task : Task) (xTicksToDelay : BitVec 32)
  | run (task : Task)
  | sendFromISR (queue : Queue) (pvItemToQueue : List Byte) (xCopyPosition : CopyPosition)
  | giveFromISR (queue : Queue)
  | receiveFromISR (queue : Queue)

variable {Time Task Queue Byte : Type*}

namespace QueueDefinition

variable (queue : QueueDefinition Task)

/-- The event list of a side -/
def waiting : Side → List Task
  | .receivers => queue.xTasksWaitingToReceive
  | .senders => queue.xTasksWaitingToSend

def setWaiting : Side → List Task → QueueDefinition Task
  | .receivers, tasks => { queue with xTasksWaitingToReceive := tasks }
  | .senders, tasks => { queue with xTasksWaitingToSend := tasks }

/-- The lock that counts what happens for a side -/
def lockCount : Side → BitVec 32
  | .receivers => queue.xTxLock
  | .senders => queue.xRxLock

def setLockCount : Side → BitVec 32 → QueueDefinition Task
  | .receivers, count => { queue with xTxLock := count }
  | .senders, count => { queue with xRxLock := count }

def setStorage (storage : Storage) : QueueDefinition Task :=
  { queue with toStorage := storage }

/-- What the code asserts of a call, and relies on: the item has the size of the items, and
only the item of a queue for one is overwritten. -/
def Admits : Operation Byte → Prop
  | .send pvItemToQueue xCopyPosition =>
      pvItemToQueue.length = queue.uxItemSize ∧
        (xCopyPosition = .overwrite → queue.uxLength = 1 ∧ queue.uxItemSize ≠ 0)
  | .receive _ => True

instance : (operation : Operation Byte) → Decidable (queue.Admits operation)
  | .send pvItemToQueue xCopyPosition =>
      inferInstanceAs (Decidable (pvItemToQueue.length = queue.uxItemSize ∧
        (xCopyPosition = .overwrite → queue.uxLength = 1 ∧ queue.uxItemSize ≠ 0)))
  | .receive _ => .isTrue trivial

/-- The operation can be carried out now. -/
def canPerform : Operation Byte → Bool
  | .send _ xCopyPosition =>
      queue.uxMessagesWaiting < queue.uxLength ∨ xCopyPosition = .overwrite
  | .receive _ => 0 < queue.uxMessagesWaiting

/-- `prvIsQueueFull` or `prvIsQueueEmpty` -/
def mustWait : Operation Byte → Bool
  | .send _ _ => queue.uxMessagesWaiting = queue.uxLength
  | .receive _ => queue.uxMessagesWaiting = 0

/-- `prvLockQueue` -/
def lock : QueueDefinition Task :=
  { queue with
    xRxLock := if queue.xRxLock = -1 then 0 else queue.xRxLock
    xTxLock := if queue.xTxLock = -1 then 0 else queue.xTxLock }

/-- `vTaskPlaceOnEventList` puts a task behind those whose priority is not lower. -/
def placeOnEventList (uxPriority : Task → ℕ) (task : Task) (side : Side) :
    QueueDefinition Task :=
  queue.setWaiting side
    (insertByKey (fun other => 12 - uxPriority other) task (queue.waiting side))

/-- `uxListRemove` of the `xEventListItem` of tasks that are unblocked by a tick -/
def unlink [DecidableEq Task] (tasks : List Task) : QueueDefinition Task :=
  { queue with
    xTasksWaitingToSend := queue.xTasksWaitingToSend.filter (· ∉ tasks)
    xTasksWaitingToReceive := queue.xTasksWaitingToReceive.filter (· ∉ tasks) }

end QueueDefinition

/-- A loop of `prvUnlockQueue`: the tasks that it wakes, and those that go on waiting. -/
def wakeCounted : BitVec 32 → List Task → List Task × List Task
  | _, [] => ([], [])
  | lockCount, task :: tasks =>
      if 0 < lockCount.toInt then
        let woken := wakeCounted (lockCount - 1) tasks
        (task :: woken.1, woken.2)
      else ([], task :: tasks)

section Model

variable [TickType Time] [DecidableEq Task] [DecidableEq Queue]

namespace State

variable (state : State Time Task Queue Byte)

def setQueue (queue : Queue) (definition : QueueDefinition Task) :
    State Time Task Queue Byte :=
  { state with queues := Function.update state.queues queue definition }

def setPc (task : Task) (pc : Pc Time Queue Byte) : State Time Task Queue Byte :=
  { state with pc := Function.update state.pc task pc }

/-- The first of the tasks that wait is woken, if there is one. -/
def wake (side : Side) (queue : Queue) : State Time Task Queue Byte :=
  match (state.queues queue).waiting side with
  | [] => state
  | task :: tasks =>
      { state with scheduler := state.scheduler.removeFromEventList task }.setQueue queue
        ((state.queues queue).setWaiting side tasks)

def copyTo (queue : Queue) (item : List Byte) (xCopyPosition : CopyPosition) :
    State Time Task Queue Byte :=
  let copied := (state.queues queue).copyDataToQueue state.memory item xCopyPosition
  { state with memory := copied.2 }.setQueue queue
    ((state.queues queue).setStorage copied.1)

/-- What a receive leaves in its buffer -/
def buffer (queue : Queue) : List Byte :=
  ((state.queues queue).copyDataFromQueue state.memory).1

def takeFrom (queue : Queue) : State Time Task Queue Byte :=
  state.setQueue queue ((state.queues queue).setStorage
    ((state.queues queue).copyDataFromQueue state.memory).2.removeMessage)

/-- The critical section of `xQueueGenericSend` or `xQueueGenericReceive` when the
operation can be carried out; a peek resets the place to read from. -/
def perform (queue : Queue) : Operation Byte → State Time Task Queue Byte
  | .send pvItemToQueue xCopyPosition =>
      (state.copyTo queue pvItemToQueue xCopyPosition).wake .receivers queue
  | .receive false => (state.takeFrom queue).wake .senders queue
  | .receive true => state.wake .receivers queue

def result (queue : Queue) : Operation Byte → Return Byte
  | .send _ _ => .sent
  | .receive _ => .received (state.buffer queue)

/-- Tasks that a tick unblocks leave the event lists too. -/
def unblock (unblocked : List Task × Scheduler Time Task) : State Time Task Queue Byte :=
  { state with
    scheduler := unblocked.2
    queues := fun queue => (state.queues queue).unlink unblocked.1 }

/-- One of the two critical sections of `prvUnlockQueue` -/
def unlock (side : Side) (queue : Queue) : State Time Task Queue Byte :=
  let woken := wakeCounted ((state.queues queue).lockCount side)
    ((state.queues queue).waiting side)
  { state with
    scheduler := woken.1.foldl Scheduler.removeFromEventList state.scheduler }.setQueue queue
      (((state.queues queue).setWaiting side woken.2).setLockCount side (-1))

/-- A call begins its loop. -/
def tryCall (task : Task) (call : Call Time Queue Byte) : State Time Task Queue Byte :=
  if (state.queues call.xQueue).canPerform call.operation then
    (state.perform call.xQueue call.operation).setPc task
      (.returned (some (state.result call.xQueue call.operation)))
  else if call.xTicksToWait = 0 then state.setPc task (.returned (some .failed))
  else
    state.setPc task (.suspending
      { call with xTimeOut := some (call.xTimeOut.getD state.scheduler.setTimeOutState) })

/-- `xTaskCheckForTimeOut` in the loop -/
def checkCall (task : Task) (call : Call Time Queue Byte) :
    Option (State Time Task Queue Byte) :=
  call.xTimeOut.map fun xTimeOut =>
    match state.scheduler.checkForTimeOut xTimeOut call.xTicksToWait with
    | none => state.setPc task (.unlockingTx call true)
    | some (since, xTicksToWait) =>
        state.setPc task
          (.testing { call with xTimeOut := some since, xTicksToWait := xTicksToWait })

/-- The next step of a task -/
def runTask (uxPriority : Task → ℕ) (task : Task) : Option (State Time Task Queue Byte) :=
  match state.pc task with
  | .returned _ => none
  | .trying call => some (state.tryCall task call)
  | .suspending call =>
      some ({ state with scheduler := state.scheduler.suspendAll task }.setPc task
        (.locking call))
  | .locking call =>
      some ((state.setQueue call.xQueue (state.queues call.xQueue).lock).setPc task
        (.checking call))
  | .checking call => state.checkCall task call
  | .testing call =>
      some (state.setPc task
        (if (state.queues call.xQueue).mustWait call.operation then .placing call
          else .unlockingTx call false))
  | .placing call =>
      some (({ state with
          scheduler :=
            state.scheduler.addCurrentTaskToDelayedList task call.xTicksToWait }.setQueue
        call.xQueue
        ((state.queues call.xQueue).placeOnEventList uxPriority task
            call.operation.side)).setPc task
          (.unlockingTx call false))
  | .unlockingTx call timedOut =>
      some ((state.unlock .receivers call.xQueue).setPc task (.unlockingRx call timedOut))
  | .unlockingRx call timedOut =>
      some ((state.unlock .senders call.xQueue).setPc task (.resuming call timedOut))
  | .resuming call timedOut =>
      some ((state.unblock state.scheduler.resumeAll).setPc task
        (if timedOut then .returned (some .failed) else .trying call))
  | .delaying xTicksToDelay =>
      some ({ state with
        scheduler := state.scheduler.addCurrentTaskToDelayedList task xTicksToDelay }.setPc task
          .resumingDelay)
  | .resumingDelay =>
      some ((state.unblock state.scheduler.resumeAll).setPc task (.returned none))

/-- The task is not in a call. -/
def hasReturned (task : Task) : Bool :=
  match state.pc task with
  | .returned _ => true
  | _ => false

/-- An interrupt handler has done something for a side.  While the queue is locked, the
event list is left as it is. -/
def note (side : Side) (queue : Queue) : State Time Task Queue Byte :=
  if (state.queues queue).lockCount side = -1 then state.wake side queue
  else
    state.setQueue queue
      ((state.queues queue).setLockCount side ((state.queues queue).lockCount side + 1))

/-- `xQueueGenericSendFromISR`; without room nothing happens. -/
def sendFromISR (queue : Queue) (item : List Byte) (xCopyPosition : CopyPosition) :
    State Time Task Queue Byte :=
  if (state.queues queue).canPerform (.send item xCopyPosition) then
    (state.copyTo queue item xCopyPosition).note .receivers queue
  else state

/-- `xQueueGiveFromISR` -/
def giveFromISR (queue : Queue) : State Time Task Queue Byte :=
  if (state.queues queue).uxMessagesWaiting < (state.queues queue).uxLength then
    (state.setQueue queue
      ((state.queues queue).setStorage (state.queues queue).addMessage)).note .receivers queue
  else state

/-- `xQueueReceiveFromISR` -/
def receiveFromISR (queue : Queue) : State Time Task Queue Byte :=
  if 0 < (state.queues queue).uxMessagesWaiting then
    (state.takeFrom queue).note .senders queue
  else state

/-- What a call from an interrupt handler returns -/
def returnFromISR : Action Task Queue Byte → Option (Return Byte)
  | .sendFromISR queue pvItemToQueue xCopyPosition =>
      some (if (state.queues queue).canPerform (.send pvItemToQueue xCopyPosition) then .sent
        else .failed)
  | .giveFromISR queue =>
      some (if (state.queues queue).uxMessagesWaiting < (state.queues queue).uxLength then .sent
        else .failed)
  | .receiveFromISR queue =>
      some (if 0 < (state.queues queue).uxMessagesWaiting then .received (state.buffer queue)
        else .failed)
  | .tick | .call _ _ _ _ | .delay _ _ | .run _ => none

end State

/-- One step of the kernel, of a task or of an interrupt handler. -/
def step (uxPriority : Task → ℕ) (state : State Time Task Queue Byte) :
    Action Task Queue Byte → Option (State Time Task Queue Byte)
  | .tick => some (state.unblock state.scheduler.incrementTick)
  | .call task queue operation xTicksToWait =>
      if state.scheduler.canRun task ∧ state.hasReturned task ∧
          (state.queues queue).Admits operation then
        some (state.setPc task (.trying ⟨queue, operation, xTicksToWait, none⟩))
      else none
  | .delay task xTicksToDelay =>
      if state.scheduler.canRun task ∧ state.hasReturned task then
        if xTicksToDelay = 0 then some (state.setPc task (.returned none))
        else
          some ({ state with scheduler := state.scheduler.suspendAll task }.setPc task
            (.delaying xTicksToDelay))
      else none
  | .run task => if state.scheduler.canRun task then state.runTask uxPriority task else none
  | .sendFromISR queue item xCopyPosition =>
      if (state.queues queue).Admits (.send item xCopyPosition) then
        some (state.sendFromISR queue item xCopyPosition)
      else none
  | .giveFromISR queue =>
      if (state.queues queue).uxItemSize = 0 then some (state.giveFromISR queue) else none
  | .receiveFromISR queue => some (state.receiveFromISR queue)

/-- The scheduler starts with the queues that have been created. -/
def initial (zero : Time) (queues : Queue → QueueDefinition Task) (memory : ℤ → Byte) :
    State Time Task Queue Byte where
  scheduler := Scheduler.initial zero
  queues := queues
  memory := memory
  pc _ := .returned none

end Model

end FrequencyRelay.Queues
