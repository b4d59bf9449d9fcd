import FrequencyRelay.Kernel.TimeOuts

/-!
# The queues with true times

The kernel reads times only as words of 32 bits, so that with true times it makes the same
steps: every run of the program is the view of a run with true times, and what is proved of
those runs is true of the program.
-/

namespace FrequencyRelay.Tasks

open FrequencyRelay.SortedInsertion
open FrequencyRelay.Ticks

variable {Time Task : Type*} [TickType Time]

/-- As the program sees it -/
def TimeOut.seen (timeOut : TimeOut Time) : TimeOut (BitVec 32) :=
  ⟨timeOut.xOverflowCount, shown timeOut.xTimeOnEntering⟩

def Scheduler.seen (scheduler : Scheduler Time Task) : Scheduler (BitVec 32) Task where
  xTickCount := shown scheduler.xTickCount
  xNumOfOverflows := scheduler.xNumOfOverflows
  pxDelayedTaskList := scheduler.pxDelayedTaskList.map ListItem.seen
  pxOverflowDelayedTaskList := scheduler.pxOverflowDelayedTaskList.map ListItem.seen
  xNextTaskUnblockTime := scheduler.xNextTaskUnblockTime
  suspendedBy := scheduler.suspendedBy
  uxPendedTicks := scheduler.uxPendedTicks
  xPendingReadyList := scheduler.xPendingReadyList

theorem resetNextTaskUnblockTime_seen (items : List (ListItem Time Task)) :
    resetNextTaskUnblockTime (items.map ListItem.seen) = resetNextTaskUnblockTime items := by
  cases items <;> rfl

theorem unblockTasks_seen (xConstTickCount : BitVec 32) (items : List (ListItem Time Task)) :
    unblockTasks xConstTickCount (items.map ListItem.seen) =
      Prod.map id (List.map ListItem.seen) (unblockTasks xConstTickCount items) := by
  induction items with
  | nil => rfl
  | cons item rest ih =>
      by_cases hlater : xConstTickCount < shown item.xItemValue
      · simp [unblockTasks, ListItem.seen, hlater]
      · simp [unblockTasks, ListItem.seen, hlater, ih]

namespace Scheduler

variable (scheduler : Scheduler Time Task)

theorem countTick_seen : scheduler.seen.countTick = scheduler.countTick.seen := by
  have hshown : shown (later scheduler.seen.xTickCount 1) =
      shown (later scheduler.xTickCount 1) := (shown_later _ _).symm
  rw [countTick, countTick]
  by_cases hwrap : shown (later scheduler.xTickCount 1) = 0
  · rw [if_pos (hshown.trans hwrap), if_pos hwrap]
    simp only [switchDelayedLists, seen, resetNextTaskUnblockTime_seen, shown_later]
    rfl
  · rw [if_neg (fun hzero => hwrap (hshown.symm.trans hzero)), if_neg hwrap]
    simp only [seen, shown_later]
    rfl

theorem unblockExpired_seen :
    scheduler.seen.unblockExpired = Prod.map id seen scheduler.unblockExpired := by
  simp only [unblockExpired, seen, shown_word, unblockTasks_seen]
  split
  case isTrue => simp [seen, resetNextTaskUnblockTime_seen]
  case isFalse => rfl

theorem incrementTick_seen :
    scheduler.seen.incrementTick = Prod.map id seen scheduler.incrementTick := by
  have hsuspended : scheduler.seen.suspendedBy = scheduler.suspendedBy := rfl
  rw [incrementTick, incrementTick, hsuspended]
  split
  case h_1 => rfl
  case h_2 => rw [countTick_seen, unblockExpired_seen]

theorem unwindPendedTicks_seen (count : ℕ) (scheduler : Scheduler Time Task) :
    unwindPendedTicks count scheduler.seen =
      Prod.map id seen (unwindPendedTicks count scheduler) := by
  induction count generalizing scheduler with
  | zero => rfl
  | succ count ih =>
      rw [unwindPendedTicks, unwindPendedTicks, incrementTick_seen]
      have hrest := ih { scheduler.incrementTick.2 with
        uxPendedTicks := scheduler.incrementTick.2.uxPendedTicks - 1 }
      exact congrArg (fun unwound : List Task × Scheduler (BitVec 32) Task =>
        (scheduler.incrementTick.1 ++ unwound.1, unwound.2)) hrest

theorem unwound_seen (count : ℕ) (scheduler : Scheduler Time Task) :
    unwound count scheduler.seen = (unwound count scheduler).map seen := by
  induction count generalizing scheduler with
  | zero => rfl
  | succ count ih =>
      rw [unwound, unwound, incrementTick_seen, List.map_cons]
      exact congrArg (scheduler.seen :: ·) (ih { scheduler.incrementTick.2 with
        uxPendedTicks := scheduler.incrementTick.2.uxPendedTicks - 1 })

theorem addCurrentTaskToDelayedList_seen (task : Task) (xTicksToWait : BitVec 32) :
    scheduler.seen.addCurrentTaskToDelayedList task xTicksToWait =
      (scheduler.addCurrentTaskToDelayedList task xTicksToWait).seen := by
  have htime : shown (later scheduler.seen.xTickCount xTicksToWait) =
      shown (later scheduler.xTickCount xTicksToWait) := (shown_later _ _).symm
  simp only [addCurrentTaskToDelayedList, htime, apply_ite Scheduler.seen]
  simp only [seen, map_seen_insertByKey, ListItem.seen, shown_later]
  rfl

theorem checkForTimeOut_seen (pxTimeOut : TimeOut Time) (xTicksToWait : BitVec 32) :
    scheduler.seen.checkForTimeOut pxTimeOut.seen xTicksToWait =
      (scheduler.checkForTimeOut pxTimeOut xTicksToWait).map (Prod.map TimeOut.seen id) := by
  simp only [checkForTimeOut, apply_ite (Option.map (Prod.map TimeOut.seen id))]
  rfl

variable [DecidableEq Task]

theorem blocked_seen (task : Task) : scheduler.seen.blocked task = scheduler.blocked task := by
  simp only [blocked, seen, ← List.map_append, List.any_map]
  rfl

theorem canRun_seen (task : Task) : scheduler.seen.canRun task = scheduler.canRun task := by
  have hsuspended : scheduler.seen.suspendedBy = scheduler.suspendedBy := rfl
  rw [canRun, canRun, hsuspended, blocked_seen]

theorem removeDelayed_seen (tasks : List Task) :
    scheduler.seen.removeDelayed tasks = (scheduler.removeDelayed tasks).seen := by
  simp only [removeDelayed, seen, List.filter_map]
  rfl

theorem removeFromEventList_seen (task : Task) :
    scheduler.seen.removeFromEventList task = (scheduler.removeFromEventList task).seen := by
  have hsuspended : scheduler.seen.suspendedBy = scheduler.suspendedBy := rfl
  rw [removeFromEventList, removeFromEventList, hsuspended]
  split
  case h_1 => exact removeDelayed_seen scheduler [task]
  case h_2 => rfl

theorem foldl_removeFromEventList_seen (tasks : List Task)
    (scheduler : Scheduler Time Task) :
    tasks.foldl removeFromEventList scheduler.seen =
      (tasks.foldl removeFromEventList scheduler).seen := by
  induction tasks generalizing scheduler with
  | nil => rfl
  | cons task tasks ih => rw [List.foldl_cons, removeFromEventList_seen, ih, List.foldl_cons]

theorem readyPending_seen : scheduler.seen.readyPending = scheduler.readyPending.seen := by
  have hpending : scheduler.seen.xPendingReadyList = scheduler.xPendingReadyList := rfl
  rw [readyPending, hpending, removeDelayed_seen]
  rfl

theorem resumeAll_seen : scheduler.seen.resumeAll = Prod.map id seen scheduler.resumeAll := by
  rw [resumeAll, resumeAll, ← unwindPendedTicks_seen, readyPending_seen]
  rfl

end Scheduler

end FrequencyRelay.Tasks

namespace FrequencyRelay.Queues

open FrequencyRelay.Runs
open FrequencyRelay.Tasks
open FrequencyRelay.Ticks

variable {Time Task Queue Byte : Type*} [TickType Time]

def Call.seen (call : Call Time Queue Byte) : Call (BitVec 32) Queue Byte :=
  ⟨call.xQueue, call.operation, call.xTicksToWait, call.xTimeOut.map TimeOut.seen⟩

def Pc.seen : Pc Time Queue Byte → Pc (BitVec 32) Queue Byte
  | .returned xReturn => .returned xReturn
  | .trying call => .trying call.seen
  | .suspending call => .suspending call.seen
  | .locking call => .locking call.seen
  | .checking call => .checking call.seen
  | .testing call => .testing call.seen
  | .placing call => .placing call.seen
  | .unlockingTx call timedOut => .unlockingTx call.seen timedOut
  | .unlockingRx call timedOut => .unlockingRx call.seen timedOut
  | .resuming call timedOut => .resuming call.seen timedOut
  | .delaying xTicksToDelay => .delaying xTicksToDelay
  | .resumingDelay => .resumingDelay

def State.seen (state : State Time Task Queue Byte) : State (BitVec 32) Task Queue Byte where
  scheduler := state.scheduler.seen
  queues := state.queues
  memory := state.memory
  pc task := (state.pc task).seen

namespace State

variable [DecidableEq Task] [DecidableEq Queue] (state : State Time Task Queue Byte)

omit [DecidableEq Task] [DecidableEq Queue] in
theorem pc_seen (task : Task) : state.seen.pc task = (state.pc task).seen := rfl

omit [DecidableEq Queue] in
theorem setPc_seen (task : Task) (pc : Pc Time Queue Byte) :
    state.seen.setPc task pc.seen = (state.setPc task pc).seen := by
  have hpc : Function.update state.seen.pc task pc.seen = (state.setPc task pc).seen.pc := by
    funext other
    by_cases hother : other = task
    · subst hother
      rw [Function.update_self, pc_seen, pc_setPc_self]
    · rw [Function.update_of_ne hother, pc_seen, pc_seen, pc_setPc_of_ne _ hother]
  rw [setPc, hpc]
  rfl

theorem wake_seen (side : Side) (queue : Queue) :
    state.seen.wake side queue = (state.wake side queue).seen := by
  have hqueues : state.seen.queues = state.queues := rfl
  rw [wake, wake, hqueues]
  split
  case h_1 => rfl
  case h_2 _ task tasks _ =>
    have hscheduler := state.scheduler.removeFromEventList_seen task
    simp only [setQueue, seen] at hscheduler ⊢
    rw [hscheduler]

theorem perform_seen (queue : Queue) (operation : Operation Byte) :
    state.seen.perform queue operation = (state.perform queue operation).seen := by
  cases operation with
  | send item xCopyPosition => exact wake_seen (state.copyTo queue item xCopyPosition) _ _
  | receive xJustPeeking =>
      cases xJustPeeking with
      | false => exact wake_seen (state.takeFrom queue) _ _
      | true => exact wake_seen state _ _

theorem note_seen (side : Side) (queue : Queue) :
    state.seen.note side queue = (state.note side queue).seen := by
  have hqueues : state.seen.queues = state.queues := rfl
  rw [note, note, hqueues, apply_ite State.seen, ← wake_seen]
  rfl

theorem unlock_seen (side : Side) (queue : Queue) :
    state.seen.unlock side queue = (state.unlock side queue).seen := by
  simp only [unlock, setQueue, seen, Scheduler.foldl_removeFromEventList_seen]

omit [DecidableEq Queue] in
theorem unblock_seen (unblocked : List Task × Scheduler Time Task) :
    state.seen.unblock (Prod.map id Scheduler.seen unblocked) =
      (state.unblock unblocked).seen := rfl

theorem tryCall_seen (task : Task) (call : Call Time Queue Byte) :
    state.seen.tryCall task call.seen = (state.tryCall task call).seen := by
  have htimeOut : (call.xTimeOut.map TimeOut.seen).getD state.seen.scheduler.setTimeOutState =
      (call.xTimeOut.getD state.scheduler.setTimeOutState).seen := by
    cases call.xTimeOut <;> rfl
  simp only [tryCall, apply_ite State.seen, ← setPc_seen, ← perform_seen]
  simp only [Call.seen, htimeOut]
  rfl

omit [DecidableEq Queue] in
theorem checkCall_seen (task : Task) (call : Call Time Queue Byte) :
    state.seen.checkCall task call.seen = (state.checkCall task call).map State.seen := by
  cases hbegun : call.xTimeOut with
  | none => simp [checkCall, Call.seen, hbegun]
  | some xTimeOut =>
      have hcheck : state.seen.scheduler.checkForTimeOut xTimeOut.seen call.seen.xTicksToWait =
          (state.scheduler.checkForTimeOut xTimeOut call.xTicksToWait).map
            (Prod.map TimeOut.seen id) := state.scheduler.checkForTimeOut_seen ..
      have hseen : call.seen.xTimeOut = some xTimeOut.seen := by rw [Call.seen, hbegun]; rfl
      rw [checkCall, checkCall, hseen, hbegun, Option.map_some, Option.map_some,
        Option.map_some]
      rw [hcheck]
      refine congrArg some ?_
      cases state.scheduler.checkForTimeOut xTimeOut call.xTicksToWait with
      | none => exact state.setPc_seen task (.unlockingTx call true)
      | some left =>
          exact state.setPc_seen task
            (.testing { call with xTimeOut := some left.1, xTicksToWait := left.2 })

theorem runTask_seen (uxPriority : Task → ℕ) (task : Task) :
    state.seen.runTask uxPriority task =
      (state.runTask uxPriority task).map State.seen := by
  rw [runTask, runTask, pc_seen]
  cases state.pc task with
  | returned => rfl
  | trying call => exact congrArg some (state.tryCall_seen task call)
  | suspending call =>
      exact congrArg some (setPc_seen { state with
        scheduler := state.scheduler.suspendAll task } task (.locking call))
  | locking call =>
      exact congrArg some (setPc_seen (state.setQueue call.xQueue
        (state.queues call.xQueue).lock) task (.checking call))
  | checking call => exact state.checkCall_seen task call
  | testing call =>
      refine congrArg some ?_
      rw [← setPc_seen, apply_ite Pc.seen]
      rfl
  | placing call =>
      simp only [Pc.seen, Option.map_some, ← setPc_seen]
      have hscheduler :=
        state.scheduler.addCurrentTaskToDelayedList_seen task call.xTicksToWait
      simp only [setQueue, seen, Call.seen] at hscheduler ⊢
      rw [hscheduler]
  | unlockingTx call timedOut =>
      simp only [Pc.seen, Option.map_some, ← setPc_seen, ← unlock_seen]
      rfl
  | unlockingRx call timedOut =>
      simp only [Pc.seen, Option.map_some, ← setPc_seen, ← unlock_seen]
      rfl
  | resuming call timedOut =>
      have hscheduler : state.seen.scheduler = state.scheduler.seen := rfl
      refine congrArg some ?_
      rw [← setPc_seen, apply_ite Pc.seen, hscheduler, Scheduler.resumeAll_seen, unblock_seen]
      rfl
  | delaying xTicksToDelay =>
      have hscheduler :=
        state.scheduler.addCurrentTaskToDelayedList_seen task xTicksToDelay
      simp only [Pc.seen, Option.map_some, ← setPc_seen]
      simp only [seen] at hscheduler ⊢
      rw [hscheduler]
  | resumingDelay =>
      have hscheduler : state.seen.scheduler = state.scheduler.seen := rfl
      simp only [Pc.seen, Option.map_some, ← setPc_seen, hscheduler, Scheduler.resumeAll_seen,
        unblock_seen]

omit [DecidableEq Task] [DecidableEq Queue] in
theorem hasReturned_seen (task : Task) :
    state.seen.hasReturned task = state.hasReturned task := by
  rw [hasReturned, hasReturned, pc_seen]
  cases state.pc task <;> rfl

theorem sendFromISR_seen (queue : Queue) (item : List Byte) (xCopyPosition : CopyPosition) :
    state.seen.sendFromISR queue item xCopyPosition =
      (state.sendFromISR queue item xCopyPosition).seen := by
  rw [sendFromISR, sendFromISR, apply_ite State.seen, ← note_seen]
  rfl

theorem giveFromISR_seen (queue : Queue) :
    state.seen.giveFromISR queue = (state.giveFromISR queue).seen := by
  rw [giveFromISR, giveFromISR, apply_ite State.seen, ← note_seen]
  rfl

theorem receiveFromISR_seen (queue : Queue) :
    state.seen.receiveFromISR queue = (state.receiveFromISR queue).seen := by
  rw [receiveFromISR, receiveFromISR, apply_ite State.seen, ← note_seen]
  rfl

end State

section Runs

variable [DecidableEq Task] [DecidableEq Queue] {uxPriority : Task → ℕ}

/-- What the program does next depends only on what it sees. -/
theorem step_seen (state : State Time Task Queue Byte) (action : Action Task Queue Byte) :
    step uxPriority state.seen action = (step uxPriority state action).map State.seen := by
  have hqueues : state.seen.queues = state.queues := rfl
  have hrun (task : Task) : state.seen.scheduler.canRun task = state.scheduler.canRun task :=
    state.scheduler.canRun_seen task
  cases action with
  | tick =>
      refine congrArg some ?_
      rw [← State.unblock_seen, ← Scheduler.incrementTick_seen]
      rfl
  | call task queue operation xTicksToWait =>
      rw [step, step, hqueues, hrun, State.hasReturned_seen,
        apply_ite (Option.map State.seen), Option.map_some, ← State.setPc_seen]
      rfl
  | delay task xTicksToDelay =>
      rw [step, step, hrun, State.hasReturned_seen, apply_ite (Option.map State.seen),
        apply_ite (Option.map State.seen), Option.map_some, Option.map_some,
        ← State.setPc_seen, ← State.setPc_seen]
      rfl
  | run task =>
      rw [step, step, hrun, apply_ite (Option.map State.seen), ← State.runTask_seen]
      rfl
  | sendFromISR queue item xCopyPosition =>
      rw [step, step, hqueues, apply_ite (Option.map State.seen), Option.map_some,
        ← State.sendFromISR_seen]
      rfl
  | giveFromISR queue =>
      rw [step, step, hqueues, apply_ite (Option.map State.seen), Option.map_some,
        ← State.giveFromISR_seen]
      rfl
  | receiveFromISR queue => exact congrArg some (state.receiveFromISR_seen queue)

variable {created : Queue → QueueDefinition Task} {memory : ℤ → Byte}

/-- The runs of the program are the runs with true times, as the program sees them. -/
theorem words_lose_nothing {zero : BitVec 32}
    {trace : Trace (State (BitVec 32) Task Queue Byte) (Action Task Queue Byte)}
    {state : State (BitVec 32) Task Queue Byte} :
    Path (step uxPriority) (initial zero created memory) trace state ↔
      ∃ (timed : Trace (State ℕ Task Queue Byte) (Action Task Queue Byte))
        (finish : State ℕ Task Queue Byte),
        Path (step uxPriority) (initial zero.toNat created memory) timed finish ∧
          trace = timed.map (Transition.seen State.seen) ∧ state = finish.seen := by
  have hzero : shown zero.toNat = zero := BitVec.ofNat_toNat 32 zero
  have hinitial : (initial zero created memory : State (BitVec 32) Task Queue Byte) =
      (initial zero.toNat created memory : State ℕ Task Queue Byte).seen := by
    rw [State.seen, initial, initial, Scheduler.seen, Scheduler.initial, Scheduler.initial,
      hzero]
    rfl
  rw [hinitial, path_seen_iff step_seen]

/-- The states of the scheduler in which a step calls `xTaskIncrementTick`: for a tick, or for
each of those that a task makes up for when it resumes the scheduler -/
def State.ticking (state : State Time Task Queue Byte) :
    Action Task Queue Byte → List (Scheduler Time Task)
  | .tick => [state.scheduler]
  | .run task =>
      match state.pc task with
      | .resuming _ _ | .resumingDelay =>
          Scheduler.unwound state.scheduler.uxPendedTicks state.scheduler.readyPending
      | _ => []
  | _ => []

omit [DecidableEq Queue] in
theorem State.ticking_seen (state : State Time Task Queue Byte)
    (action : Action Task Queue Byte) :
    state.seen.ticking action = (state.ticking action).map Scheduler.seen := by
  have hscheduler : state.seen.scheduler = state.scheduler.seen := rfl
  cases action with
  | run task =>
      rw [ticking, ticking, pc_seen, hscheduler, Scheduler.readyPending_seen]
      cases state.pc task with
      | resuming | resumingDelay => exact Scheduler.unwound_seen _ _
      | _ => rfl
  | _ => rfl

omit [DecidableEq Queue] in
theorem onTime_of_ticking {state : State ℕ Task Queue Byte} (honTime : OnTime state.scheduler)
    {action : Action Task Queue Byte} {ticked : Scheduler ℕ Task}
    (hticked : ticked ∈ state.ticking action) : OnTime ticked := by
  cases action with
  | tick =>
      obtain rfl := List.mem_singleton.mp hticked
      exact honTime
  | run task =>
      rw [State.ticking] at hticked
      split at hticked
      case h_1 | h_2 => exact honTime.readyPending.unwound hticked
      case h_3 => cases hticked
  | call | delay | sendFromISR | giveFromISR | receiveFromISR => cases hticked

/-- The assertion of `taskSWITCH_DELAYED_LISTS` never fails, whatever the tick count was at
first: whenever a tick is counted with which it wraps around, be it one that has been put
off, nobody is left in the list of delayed tasks. -/
theorem delayed_list_empty_at_wrap (hcreated : Created created) {zero : BitVec 32}
    {trace : Trace (State (BitVec 32) Task Queue Byte) (Action Task Queue Byte)}
    {state : State (BitVec 32) Task Queue Byte}
    (hpath : Path (step uxPriority) (initial zero created memory) trace state)
    {action : Action Task Queue Byte} {ticked : Scheduler (BitVec 32) Task}
    (hticked : ticked ∈ state.ticking action) (hwrap : ticked.xTickCount + 1 = 0) :
    ticked.pxDelayedTaskList = [] := by
  obtain ⟨timed, finish, htimed, -, rfl⟩ := words_lose_nothing.mp hpath
  rw [State.ticking_seen] at hticked
  obtain ⟨trueTicked, htrueTicked, rfl⟩ := List.mem_map.mp hticked
  have honTime := onTime_of_ticking (timed_of_path hcreated zero.isLt htimed).onTime
    htrueTicked
  have hempty := honTime.empty_of_wrap ((shown_later _ _).trans hwrap)
  change trueTicked.pxDelayedTaskList.map ListItem.seen = []
  rw [hempty, List.map_nil]

end Runs

/-- While one task has suspended the scheduler to delay itself, ticks are put off beyond the
wrap; the other is due before it. -/
def delayedOverWrap : List (Action Bool Unit (BitVec 8)) :=
  [.delay true 2, .run true, .run true, .delay false 5, .run false, .tick, .tick, .tick]

theorem delayed_list_empty_at_wrap_delayedOverWrap :
    ∃ run, follow (step fun _ => 3) (initial (0xFFFFFFFD : BitVec 32) twoBytes fun _ => 0)
        delayedOverWrap = some run ∧
      run.2.scheduler.pxDelayedTaskList ≠ [] ∧
      ∃ ticked ∈ run.2.ticking (.run false), ticked.xTickCount + 1 = 0 ∧
        ticked.pxDelayedTaskList = [] := by
  refine ⟨_, (Option.some_get rfl).symm, by decide +kernel, _,
    List.getElem_mem (l := State.ticking _ _) (n := 2) (by decide +kernel), rfl, ?_⟩
  apply delayed_list_empty_at_wrap created_twoBytes (path_of_schedule rfl)
    (List.getElem_mem (n := 2) (by decide +kernel)) rfl

end FrequencyRelay.Queues
