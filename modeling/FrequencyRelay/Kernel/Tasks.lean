import FrequencyRelay.Kernel.Ticks

/-!
# Blocked tasks

What `tasks.c` does with tasks that wait, for an event or only for the time to pass.  A
task is blocked while it is in one of the two lists of delayed tasks: one for those that
are due before the tick count wraps around, one for the others.  While a task has
suspended the scheduler, ticks are put off and readied tasks are held back.

Which of the ready tasks runs is left open.
-/

namespace FrequencyRelay.Tasks

open FrequencyRelay.SortedInsertion
open FrequencyRelay.Ticks

/-- The variables of `tasks.c`; `suspendedBy` is the task that has set
`uxSchedulerSuspended`. -/
structure Scheduler (Time Task : Type*) where
  xTickCount : Time
  xNumOfOverflows : BitVec 32
  pxDelayedTaskList : List (ListItem Time Task)
  pxOverflowDelayedTaskList : List (ListItem Time Task)
  xNextTaskUnblockTime : BitVec 32
  suspendedBy : Option Task
  uxPendedTicks : ℕ
  xPendingReadyList : List Task

/-- `TimeOut_t` -/
structure TimeOut (Time : Type*) where
  xOverflowCount : BitVec 32
  xTimeOnEntering : Time

/-- The scheduler is started at tick zero. -/
def Scheduler.initial {Time Task : Type*} (zero : Time) : Scheduler Time Task where
  xTickCount := zero
  xNumOfOverflows := 0
  pxDelayedTaskList := []
  pxOverflowDelayedTaskList := []
  xNextTaskUnblockTime := BitVec.allOnes 32
  suspendedBy := none
  uxPendedTicks := 0
  xPendingReadyList := []

variable {Time Task : Type*} [TickType Time] [DecidableEq Task]

/-- `prvResetNextTaskUnblockTime`, for the list of delayed tasks -/
def resetNextTaskUnblockTime : List (ListItem Time Task) → BitVec 32
  | [] => BitVec.allOnes 32
  | item :: _ => shown item.xItemValue

/-- The loop of `xTaskIncrementTick`: the tasks that are unblocked, and the list that is
left. -/
def unblockTasks (xConstTickCount : BitVec 32) :
    List (ListItem Time Task) → List Task × List (ListItem Time Task)
  | [] => ([], [])
  | item :: rest =>
      if xConstTickCount < shown item.xItemValue then ([], item :: rest)
      else
        let unblocked := unblockTasks xConstTickCount rest
        (item.pvOwner :: unblocked.1, unblocked.2)

namespace Scheduler

variable (scheduler : Scheduler Time Task)

/-- `taskSWITCH_DELAYED_LISTS` -/
def switchDelayedLists : Scheduler Time Task :=
  { scheduler with
    pxDelayedTaskList := scheduler.pxOverflowDelayedTaskList
    pxOverflowDelayedTaskList := scheduler.pxDelayedTaskList
    xNumOfOverflows := scheduler.xNumOfOverflows + 1
    xNextTaskUnblockTime := resetNextTaskUnblockTime scheduler.pxOverflowDelayedTaskList }

/-- The tick count goes on. -/
def countTick : Scheduler Time Task :=
  let counted := { scheduler with xTickCount := later scheduler.xTickCount 1 }
  if shown counted.xTickCount = 0 then counted.switchDelayedLists else counted

/-- The timeouts that a tick makes expire -/
def unblockExpired : List Task × Scheduler Time Task :=
  if scheduler.xNextTaskUnblockTime ≤ shown scheduler.xTickCount then
    let unblocked := unblockTasks (shown scheduler.xTickCount) scheduler.pxDelayedTaskList
    (unblocked.1,
      { scheduler with
        pxDelayedTaskList := unblocked.2
        xNextTaskUnblockTime := resetNextTaskUnblockTime unblocked.2 })
  else ([], scheduler)

/-- `xTaskIncrementTick`, with the tasks that it unblocks -/
def incrementTick : List Task × Scheduler Time Task :=
  match scheduler.suspendedBy with
  | some _ => ([], { scheduler with uxPendedTicks := scheduler.uxPendedTicks + 1 })
  | none => scheduler.countTick.unblockExpired

/-- The ticks that have been put off, one after another -/
def unwindPendedTicks : ℕ → Scheduler Time Task → List Task × Scheduler Time Task
  | 0, scheduler => ([], scheduler)
  | count + 1, scheduler =>
      let ticked := scheduler.incrementTick
      let unwound :=
        unwindPendedTicks count
          { ticked.2 with uxPendedTicks := ticked.2.uxPendedTicks - 1 }
      (ticked.1 ++ unwound.1, unwound.2)

/-- `prvAddCurrentTaskToDelayedList`, for a task that waits from now on -/
def addCurrentTaskToDelayedList (task : Task) (xTicksToWait : BitVec 32) :
    Scheduler Time Task :=
  let xTimeToWake := later scheduler.xTickCount xTicksToWait
  if shown xTimeToWake < shown scheduler.xTickCount then
    { scheduler with
      pxOverflowDelayedTaskList :=
        insertByKey itemKey ⟨xTimeToWake, task⟩ scheduler.pxOverflowDelayedTaskList }
  else
    { scheduler with
      pxDelayedTaskList :=
        insertByKey itemKey ⟨xTimeToWake, task⟩ scheduler.pxDelayedTaskList
      xNextTaskUnblockTime :=
        if shown xTimeToWake < scheduler.xNextTaskUnblockTime then shown xTimeToWake
        else scheduler.xNextTaskUnblockTime }

/-- `vTaskSuspendAll` -/
def suspendAll (task : Task) : Scheduler Time Task :=
  { scheduler with suspendedBy := some task }

/-- `vTaskSetTimeOutState` -/
def setTimeOutState : TimeOut Time := ⟨scheduler.xNumOfOverflows, scheduler.xTickCount⟩

/-- `xTaskCheckForTimeOut`: nothing is left, or the ticks that are left from now on -/
def checkForTimeOut (pxTimeOut : TimeOut Time) (xTicksToWait : BitVec 32) :
    Option (TimeOut Time × BitVec 32) :=
  let xConstTickCount := shown scheduler.xTickCount
  let elapsed := xConstTickCount - shown pxTimeOut.xTimeOnEntering
  if scheduler.xNumOfOverflows ≠ pxTimeOut.xOverflowCount ∧
      shown pxTimeOut.xTimeOnEntering ≤ xConstTickCount then
    none
  else if elapsed < xTicksToWait then
    some (scheduler.setTimeOutState, xTicksToWait - elapsed)
  else none

/-- The task is in a list of delayed tasks. -/
def blocked (task : Task) : Bool :=
  (scheduler.pxDelayedTaskList ++ scheduler.pxOverflowDelayedTaskList).any fun item =>
    item.pvOwner = task

/-- A task can run unless it is blocked; one that has suspended the scheduler runs. -/
def canRun (task : Task) : Bool :=
  match scheduler.suspendedBy with
  | some suspender => suspender = task
  | none => !scheduler.blocked task

/-- `uxListRemove` of the `xGenericListItem` of delayed tasks -/
def removeDelayed (tasks : List Task) : Scheduler Time Task :=
  { scheduler with
    pxDelayedTaskList :=
      scheduler.pxDelayedTaskList.filter fun item => item.pvOwner ∉ tasks
    pxOverflowDelayedTaskList :=
      scheduler.pxOverflowDelayedTaskList.filter fun item => item.pvOwner ∉ tasks }

/-- `xTaskRemoveFromEventList`, for the task at the head of an event list -/
def removeFromEventList (pxUnblocked : Task) : Scheduler Time Task :=
  match scheduler.suspendedBy with
  | none => scheduler.removeDelayed [pxUnblocked]
  | some _ =>
      { scheduler with xPendingReadyList := scheduler.xPendingReadyList ++ [pxUnblocked] }

/-- The scheduler runs again, and the tasks that have been held back are ready. -/
def readyPending : Scheduler Time Task :=
  { scheduler.removeDelayed scheduler.xPendingReadyList with
    suspendedBy := none
    xPendingReadyList := [] }

/-- `xTaskResumeAll`, with the tasks that the ticks unblock -/
def resumeAll : List Task × Scheduler Time Task :=
  unwindPendedTicks scheduler.uxPendedTicks scheduler.readyPending

end Scheduler

end FrequencyRelay.Tasks
