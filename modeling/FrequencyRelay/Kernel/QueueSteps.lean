import FrequencyRelay.Kernel.Queues

/-!
# What a step of the kernel can do

One case for each way in which a task, an interrupt handler or a tick can change the
state; the invariants are proved from these cases.
-/

namespace FrequencyRelay.Queues

open FrequencyRelay.Tasks
open FrequencyRelay.Ticks

variable {Time Task Queue Byte : Type*} [TickType Time] [DecidableEq Task]
variable [DecidableEq Queue]

/-- What the next step of a task does. -/
inductive Moved (uxPriority : Task → ℕ) (state : State Time Task Queue Byte) (task : Task) :
    State Time Task Queue Byte → Prop
  | performed (call : Call Time Queue Byte) (hpc : state.pc task = .trying call)
      (hcan : (state.queues call.xQueue).canPerform call.operation) :
      Moved uxPriority state task ((state.perform call.xQueue call.operation).setPc task
        (.returned (some (state.result call.xQueue call.operation))))
  | failed (call : Call Time Queue Byte) (hpc : state.pc task = .trying call)
      (hcannot : ¬ (state.queues call.xQueue).canPerform call.operation)
      (hticks : call.xTicksToWait = 0) :
      Moved uxPriority state task (state.setPc task (.returned (some .failed)))
  | waits (call : Call Time Queue Byte) (hpc : state.pc task = .trying call)
      (hcannot : ¬ (state.queues call.xQueue).canPerform call.operation)
      (hticks : call.xTicksToWait ≠ 0) :
      Moved uxPriority state task (state.setPc task (.suspending
        { call with xTimeOut := some (call.xTimeOut.getD state.scheduler.setTimeOutState) }))
  | suspended (call : Call Time Queue Byte) (hpc : state.pc task = .suspending call) :
      Moved uxPriority state task
        ({ state with scheduler := state.scheduler.suspendAll task }.setPc task (.locking call))
  | locked (call : Call Time Queue Byte) (hpc : state.pc task = .locking call) :
      Moved uxPriority state task
        ((state.setQueue call.xQueue (state.queues call.xQueue).lock).setPc task
          (.checking call))
  | expired (call : Call Time Queue Byte) (xTimeOut : TimeOut Time)
      (hpc : state.pc task = .checking call) (htimeOut : call.xTimeOut = some xTimeOut)
      (hcheck : state.scheduler.checkForTimeOut xTimeOut call.xTicksToWait = none) :
      Moved uxPriority state task (state.setPc task (.unlockingTx call true))
  | inTime (call : Call Time Queue Byte) (xTimeOut since : TimeOut Time) (left : BitVec 32)
      (hpc : state.pc task = .checking call) (htimeOut : call.xTimeOut = some xTimeOut)
      (hcheck : state.scheduler.checkForTimeOut xTimeOut call.xTicksToWait =
        some (since, left)) :
      Moved uxPriority state task (state.setPc task
        (.testing { call with xTimeOut := some since, xTicksToWait := left }))
  | mustWait (call : Call Time Queue Byte) (hpc : state.pc task = .testing call)
      (hwait : (state.queues call.xQueue).mustWait call.operation) :
      Moved uxPriority state task (state.setPc task (.placing call))
  | needNotWait (call : Call Time Queue Byte) (hpc : state.pc task = .testing call)
      (hwait : ¬ (state.queues call.xQueue).mustWait call.operation) :
      Moved uxPriority state task (state.setPc task (.unlockingTx call false))
  | placed (call : Call Time Queue Byte) (hpc : state.pc task = .placing call) :
      Moved uxPriority state task
        (({ state with
            scheduler :=
              state.scheduler.addCurrentTaskToDelayedList task call.xTicksToWait }.setQueue
          call.xQueue
          ((state.queues call.xQueue).placeOnEventList uxPriority task
            call.operation.side)).setPc task (.unlockingTx call false))
  | unlockedTx (call : Call Time Queue Byte) (timedOut : Bool)
      (hpc : state.pc task = .unlockingTx call timedOut) :
      Moved uxPriority state task
        ((state.unlock .receivers call.xQueue).setPc task (.unlockingRx call timedOut))
  | unlockedRx (call : Call Time Queue Byte) (timedOut : Bool)
      (hpc : state.pc task = .unlockingRx call timedOut) :
      Moved uxPriority state task
        ((state.unlock .senders call.xQueue).setPc task (.resuming call timedOut))
  | resumed (call : Call Time Queue Byte) (timedOut : Bool)
      (hpc : state.pc task = .resuming call timedOut) :
      Moved uxPriority state task ((state.unblock state.scheduler.resumeAll).setPc task
        (if timedOut then .returned (some .failed) else .trying call))
  | delayed (xTicksToDelay : BitVec 32) (hpc : state.pc task = .delaying xTicksToDelay) :
      Moved uxPriority state task
        ({ state with
          scheduler :=
            state.scheduler.addCurrentTaskToDelayedList task xTicksToDelay }.setPc task
              .resumingDelay)
  | delayResumed (hpc : state.pc task = .resumingDelay) :
      Moved uxPriority state task
        ((state.unblock state.scheduler.resumeAll).setPc task (.returned none))

/-- What a step does. -/
inductive Effect (uxPriority : Task → ℕ) (state : State Time Task Queue Byte) :
    Action Task Queue Byte → State Time Task Queue Byte → Prop
  | ticked : Effect uxPriority state .tick (state.unblock state.scheduler.incrementTick)
  | called (task : Task) (queue : Queue) (operation : Operation Byte)
      (xTicksToWait : BitVec 32) (last : Option (Return Byte))
      (hrun : state.scheduler.canRun task) (hpc : state.pc task = .returned last)
      (hadmits : (state.queues queue).Admits operation) :
      Effect uxPriority state (.call task queue operation xTicksToWait)
        (state.setPc task (.trying ⟨queue, operation, xTicksToWait, none⟩))
  | rescheduled (task : Task) (last : Option (Return Byte))
      (hrun : state.scheduler.canRun task) (hpc : state.pc task = .returned last) :
      Effect uxPriority state (.delay task 0) (state.setPc task (.returned none))
  | delayBegun (task : Task) (xTicksToDelay : BitVec 32) (last : Option (Return Byte))
      (hrun : state.scheduler.canRun task) (hpc : state.pc task = .returned last)
      (hticks : xTicksToDelay ≠ 0) :
      Effect uxPriority state (.delay task xTicksToDelay)
        ({ state with scheduler := state.scheduler.suspendAll task }.setPc task
          (.delaying xTicksToDelay))
  | moved (task : Task) (next : State Time Task Queue Byte)
      (hrun : state.scheduler.canRun task) (hmoved : Moved uxPriority state task next) :
      Effect uxPriority state (.run task) next
  | sentFromISR (queue : Queue) (item : List Byte) (xCopyPosition : CopyPosition)
      (hadmits : (state.queues queue).Admits (.send item xCopyPosition))
      (hcan : (state.queues queue).canPerform (.send item xCopyPosition)) :
      Effect uxPriority state (.sendFromISR queue item xCopyPosition)
        ((state.copyTo queue item xCopyPosition).note .receivers queue)
  | foundFullFromISR (queue : Queue) (item : List Byte) (xCopyPosition : CopyPosition)
      (hcannot : ¬ (state.queues queue).canPerform (.send item xCopyPosition)) :
      Effect uxPriority state (.sendFromISR queue item xCopyPosition) state
  | gaveFromISR (queue : Queue) (hempty : (state.queues queue).uxItemSize = 0)
      (hcan : (state.queues queue).canPerform (.send ([] : List Byte) .sendToBack)) :
      Effect uxPriority state (.giveFromISR queue)
        ((state.copyTo queue [] .sendToBack).note .receivers queue)
  | gaveFullFromISR (queue : Queue)
      (hcannot : ¬ (state.queues queue).canPerform (.send ([] : List Byte) .sendToBack)) :
      Effect uxPriority state (.giveFromISR queue) state
  | receivedFromISR (queue : Queue) (hcan : 0 < (state.queues queue).uxMessagesWaiting) :
      Effect uxPriority state (.receiveFromISR queue)
        ((state.takeFrom queue).note .senders queue)
  | foundEmptyFromISR (queue : Queue)
      (hcannot : (state.queues queue).uxMessagesWaiting = 0) :
      Effect uxPriority state (.receiveFromISR queue) state

variable {uxPriority : Task → ℕ} {state next : State Time Task Queue Byte}

theorem moved_of_runTask {task : Task} (hstep : state.runTask uxPriority task = some next) :
    Moved uxPriority state task next := by
  rw [State.runTask] at hstep
  split at hstep
  case h_1 => cases hstep
  case h_2 call hpc =>
    obtain rfl := Option.some.inj hstep
    rw [State.tryCall]
    split
    case isTrue hcan => exact .performed call hpc hcan
    case isFalse hcannot =>
      split
      case isTrue hticks => exact .failed call hpc hcannot hticks
      case isFalse hticks => exact .waits call hpc hcannot hticks
  case h_3 call hpc =>
    obtain rfl := Option.some.inj hstep
    exact .suspended call hpc
  case h_4 call hpc =>
    obtain rfl := Option.some.inj hstep
    exact .locked call hpc
  case h_5 call hpc =>
    rw [State.checkCall, Option.map_eq_some_iff] at hstep
    obtain ⟨xTimeOut, htimeOut, rfl⟩ := hstep
    split
    case h_1 hcheck => exact .expired call xTimeOut hpc htimeOut hcheck
    case h_2 since left hcheck => exact .inTime call xTimeOut since left hpc htimeOut hcheck
  case h_6 call hpc =>
    obtain rfl := Option.some.inj hstep
    split
    case isTrue hwait => exact .mustWait call hpc hwait
    case isFalse hwait => exact .needNotWait call hpc hwait
  case h_7 call hpc =>
    obtain rfl := Option.some.inj hstep
    exact .placed call hpc
  case h_8 call timedOut hpc =>
    obtain rfl := Option.some.inj hstep
    exact .unlockedTx call timedOut hpc
  case h_9 call timedOut hpc =>
    obtain rfl := Option.some.inj hstep
    exact .unlockedRx call timedOut hpc
  case h_10 call timedOut hpc =>
    obtain rfl := Option.some.inj hstep
    exact .resumed call timedOut hpc
  case h_11 xTicksToDelay hpc =>
    obtain rfl := Option.some.inj hstep
    exact .delayed xTicksToDelay hpc
  case h_12 hpc =>
    obtain rfl := Option.some.inj hstep
    exact .delayResumed hpc

omit [TickType Time] [DecidableEq Task] [DecidableEq Queue] in
theorem returned_of_hasReturned {task : Task} (hreturned : state.hasReturned task) :
    ∃ last, state.pc task = .returned last := by
  rw [State.hasReturned] at hreturned
  split at hreturned
  case h_1 last hpc => exact ⟨last, hpc⟩
  case h_2 => cases hreturned

theorem step_effect {action : Action Task Queue Byte}
    (hstep : step uxPriority state action = some next) :
    Effect uxPriority state action next := by
  cases action with
  | tick =>
      obtain rfl := Option.some.inj hstep
      exact .ticked
  | call task queue operation xTicksToWait =>
      rw [step, Option.ite_none_right_eq_some] at hstep
      obtain ⟨⟨hrun, hreturned, hadmits⟩, hnext⟩ := hstep
      obtain rfl := Option.some.inj hnext
      obtain ⟨last, hpc⟩ := returned_of_hasReturned hreturned
      exact .called task queue operation xTicksToWait last hrun hpc hadmits
  | delay task xTicksToDelay =>
      rw [step, Option.ite_none_right_eq_some] at hstep
      obtain ⟨⟨hrun, hreturned⟩, hnext⟩ := hstep
      obtain ⟨last, hpc⟩ := returned_of_hasReturned hreturned
      split at hnext
      case isTrue hzero =>
        obtain rfl := Option.some.inj hnext
        rw [hzero]
        exact .rescheduled task last hrun hpc
      case isFalse hticks =>
        obtain rfl := Option.some.inj hnext
        exact .delayBegun task xTicksToDelay last hrun hpc hticks
  | run task =>
      rw [step, Option.ite_none_right_eq_some] at hstep
      exact .moved task next hstep.1 (moved_of_runTask hstep.2)
  | sendFromISR queue item xCopyPosition =>
      rw [step, Option.ite_none_right_eq_some] at hstep
      obtain ⟨hadmits, hnext⟩ := hstep
      obtain rfl := Option.some.inj hnext
      rw [State.sendFromISR]
      split
      case isTrue hcan => exact .sentFromISR queue item xCopyPosition hadmits hcan
      case isFalse hcannot => exact .foundFullFromISR queue item xCopyPosition hcannot
  | giveFromISR queue =>
      rw [step, Option.ite_none_right_eq_some] at hstep
      obtain ⟨hempty, hnext⟩ := hstep
      obtain rfl := Option.some.inj hnext
      have hcopy : state.copyTo queue [] .sendToBack =
          state.setQueue queue
            ((state.queues queue).setStorage (state.queues queue).addMessage) := by
        rw [State.copyTo, Storage.copyDataToQueue.eq_def, if_pos hempty]
      rw [State.giveFromISR, ← hcopy]
      split
      case isTrue hroom =>
        exact .gaveFromISR queue hempty (decide_eq_true (.inl hroom))
      case isFalse hroom =>
        refine .gaveFullFromISR queue ?_
        simpa [QueueDefinition.canPerform] using hroom
  | receiveFromISR queue =>
      obtain rfl := Option.some.inj hstep
      rw [State.receiveFromISR]
      split
      case isTrue hcan => exact .receivedFromISR queue hcan
      case isFalse hcannot => exact .foundEmptyFromISR queue (Nat.eq_zero_of_not_pos hcannot)

/-! ## Where the tasks are -/

omit [TickType Time] in
theorem pc_wake (state : State Time Task Queue Byte) (side : Side) (queue : Queue) :
    (state.wake side queue).pc = state.pc := by
  rw [State.wake]
  split <;> rfl

omit [TickType Time] in
theorem pc_perform (state : State Time Task Queue Byte) (queue : Queue)
    (operation : Operation Byte) : (state.perform queue operation).pc = state.pc := by
  cases operation with
  | send => exact pc_wake _ .receivers queue
  | receive xJustPeeking =>
      cases xJustPeeking with
      | false => exact pc_wake _ .senders queue
      | true => exact pc_wake state .receivers queue

omit [TickType Time] in
theorem pc_note (state : State Time Task Queue Byte) (side : Side) (queue : Queue) :
    (state.note side queue).pc = state.pc := by
  rw [State.note]
  split
  case isTrue => exact pc_wake state side queue
  case isFalse => rfl

/-- The call that a task is in -/
def Pc.call : Pc Time Queue Byte → Option (Call Time Queue Byte)
  | .returned _ | .delaying _ | .resumingDelay => none
  | .trying call | .suspending call | .locking call | .checking call | .testing call
  | .placing call | .unlockingTx call _ | .unlockingRx call _ | .resuming call _ => some call

omit [TickType Time] [DecidableEq Queue] in
theorem pc_setPc_self (state : State Time Task Queue Byte) (task : Task)
    (pc : Pc Time Queue Byte) : (state.setPc task pc).pc task = pc :=
  Function.update_self ..

omit [TickType Time] [DecidableEq Queue] in
theorem pc_setPc_of_ne (state : State Time Task Queue Byte) {task other : Task}
    (hother : other ≠ task) (pc : Pc Time Queue Byte) :
    (state.setPc task pc).pc other = state.pc other :=
  Function.update_of_ne hother ..

/-- A task that moves stays in its call for the same operation, or leaves it. -/
theorem call_moved {task : Task} (hmoved : Moved uxPriority state task next)
    {call : Call Time Queue Byte} (hcall : (next.pc task).call = some call) :
    ∃ before, (state.pc task).call = some before ∧ before.xQueue = call.xQueue ∧
      before.operation = call.operation := by
  cases hmoved with
  | performed | failed | delayResumed | delayed => rw [pc_setPc_self] at hcall; cases hcall
  | waits before hpc | inTime before _ _ _ hpc =>
      rw [pc_setPc_self] at hcall
      obtain rfl := Option.some.inj hcall
      exact ⟨before, by rw [hpc]; rfl, rfl, rfl⟩
  | resumed before timedOut hpc =>
      rw [pc_setPc_self] at hcall
      split at hcall
      case isTrue => cases hcall
      case isFalse =>
        obtain rfl := Option.some.inj hcall
        exact ⟨before, by rw [hpc]; rfl, rfl, rfl⟩
  | suspended before hpc | locked before hpc | expired before _ hpc | mustWait before hpc
  | needNotWait before hpc | placed before hpc | unlockedTx before _ hpc
  | unlockedRx before _ hpc =>
      rw [pc_setPc_self] at hcall
      obtain rfl := Option.some.inj hcall
      exact ⟨before, by rw [hpc]; rfl, rfl, rfl⟩

/-- A task that moves leaves the others where they are. -/
theorem pc_moved_of_ne {task other : Task} (hmoved : Moved uxPriority state task next)
    (hother : other ≠ task) : next.pc other = state.pc other := by
  cases hmoved with
  | performed call =>
      rw [pc_setPc_of_ne _ hother, pc_perform]
  | _ => exact pc_setPc_of_ne _ hother _

/-- The task that acts -/
def Action.actor : Action Task Queue Byte → Option Task
  | .call task _ _ _ | .delay task _ | .run task => some task
  | _ => none

theorem pc_step_of_ne {action : Action Task Queue Byte}
    (heffect : Effect uxPriority state action next) {task : Task}
    (hother : action.actor ≠ some task) : next.pc task = state.pc task := by
  have hne {actor : Task} (hactor : some actor ≠ some task) : task ≠ actor :=
    fun hsame => hactor (congrArg some hsame.symm)
  cases heffect with
  | ticked | foundFullFromISR | gaveFullFromISR | foundEmptyFromISR => rfl
  | called | rescheduled | delayBegun => exact pc_setPc_of_ne _ (hne hother) _
  | moved mover _ hrun hmoved => exact pc_moved_of_ne hmoved (hne hother)
  | sentFromISR queue | gaveFromISR queue | receivedFromISR queue =>
      rw [pc_note]
      rfl

/-- A call is for the operation that was admitted when it began. -/
theorem call_step {action : Action Task Queue Byte}
    (heffect : Effect uxPriority state action next) {task : Task} {call : Call Time Queue Byte}
    (hcall : (next.pc task).call = some call) :
    (∃ before, (state.pc task).call = some before ∧ before.xQueue = call.xQueue ∧
      before.operation = call.operation) ∨
    (state.queues call.xQueue).Admits call.operation := by
  have hsame (hpc : next.pc task = state.pc task) :
      ∃ before, (state.pc task).call = some before ∧ before.xQueue = call.xQueue ∧
        before.operation = call.operation := ⟨call, by rw [← hpc, hcall], rfl, rfl⟩
  cases heffect with
  | ticked | foundFullFromISR | gaveFullFromISR | foundEmptyFromISR => exact .inl (hsame rfl)
  | called caller queue operation xTicksToWait last hrun hpc hadmits =>
      by_cases htask : task = caller
      · subst htask
        rw [pc_setPc_self] at hcall
        obtain rfl := Option.some.inj hcall
        exact .inr hadmits
      · exact .inl (hsame (pc_setPc_of_ne _ htask _))
  | rescheduled caller | delayBegun caller =>
      by_cases htask : task = caller
      · subst htask
        rw [pc_setPc_self] at hcall
        cases hcall
      · exact .inl (hsame (pc_setPc_of_ne _ htask _))
  | moved mover _ hrun hmoved =>
      by_cases htask : task = mover
      · subst htask
        exact .inl (call_moved hmoved hcall)
      · exact .inl (hsame (pc_moved_of_ne hmoved htask))
  | sentFromISR queue | gaveFromISR queue | receivedFromISR queue =>
      apply Or.inl
      apply hsame
      rw [pc_note]
      rfl

end FrequencyRelay.Queues
