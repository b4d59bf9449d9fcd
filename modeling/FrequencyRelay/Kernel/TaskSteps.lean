import FrequencyRelay.Kernel.Tasks

/-!
# Who is unblocked, and who stays blocked

What each function of `tasks.c` does to the set of blocked tasks: a task that leaves the
lists of delayed tasks is one of those that the function hands out as unblocked, or had
been readied by an event.
-/

namespace FrequencyRelay.Tasks

open FrequencyRelay.SortedInsertion
open FrequencyRelay.Ticks

variable {Time Task : Type*}

/-- The tasks in the lists of delayed tasks -/
def Scheduler.delayedTasks (scheduler : Scheduler Time Task) : List Task :=
  (scheduler.pxDelayedTaskList ++ scheduler.pxOverflowDelayedTaskList).map ListItem.pvOwner

variable {scheduler : Scheduler Time Task} {task other : Task}

theorem blocked_iff [DecidableEq Task] :
    scheduler.blocked task ↔ task ∈ scheduler.delayedTasks := by
  rw [Scheduler.blocked, List.any_eq_true, Scheduler.delayedTasks, List.mem_map]
  simp only [decide_eq_true_eq]

section Ticks

variable [TickType Time]

/-- The loop of `xTaskIncrementTick` takes the items that are due from the front. -/
theorem unblockTasks_split (xConstTickCount : BitVec 32) (items : List (ListItem Time Task)) :
    ∃ expired, items = expired ++ (unblockTasks xConstTickCount items).2 ∧
      (unblockTasks xConstTickCount items).1 = expired.map ListItem.pvOwner ∧
      (∀ item ∈ expired, shown item.xItemValue ≤ xConstTickCount) ∧
      ∀ item ∈ (unblockTasks xConstTickCount items).2.head?,
        xConstTickCount < shown item.xItemValue := by
  induction items with
  | nil => exact ⟨[], rfl, rfl, by simp, by simp [unblockTasks]⟩
  | cons item rest ih =>
      rw [unblockTasks]
      split
      case isTrue hlater => exact ⟨[], rfl, rfl, by simp, by simpa using hlater⟩
      case isFalse hdue =>
        obtain ⟨expired, hsplit, howners, hexpired, hrest⟩ := ih
        refine ⟨item :: expired, ?_, ?_, ?_, hrest⟩
        · rw [List.cons_append, ← hsplit]
        · rw [List.map_cons, ← howners]
        · intro due hmem
          rcases List.mem_cons.mp hmem with rfl | hmem
          · exact BitVec.not_lt.mp hdue
          · exact hexpired due hmem

theorem delayedTasks_countTick :
    task ∈ scheduler.countTick.delayedTasks ↔ task ∈ scheduler.delayedTasks := by
  rw [Scheduler.countTick]
  split
  case isTrue =>
    simp only [Scheduler.delayedTasks, Scheduler.switchDelayedLists, List.map_append,
      List.mem_append]
    exact or_comm
  case isFalse => exact Iff.rfl

theorem delayedTasks_unblockExpired :
    task ∈ scheduler.delayedTasks ↔
      task ∈ scheduler.unblockExpired.1 ∨ task ∈ scheduler.unblockExpired.2.delayedTasks := by
  rw [Scheduler.unblockExpired]
  split
  case isTrue =>
    obtain ⟨expired, hsplit, howners, -⟩ :=
      unblockTasks_split (shown scheduler.xTickCount) scheduler.pxDelayedTaskList
    have howner := congrArg (fun items => task ∈ items.map ListItem.pvOwner) hsplit
    simp only [List.map_append, List.mem_append] at howner
    simp only [Scheduler.delayedTasks, List.map_append, List.mem_append, howners, howner,
      or_assoc]
  case isFalse => simp

theorem delayedTasks_incrementTick :
    task ∈ scheduler.delayedTasks ↔
      task ∈ scheduler.incrementTick.1 ∨ task ∈ scheduler.incrementTick.2.delayedTasks := by
  rw [Scheduler.incrementTick]
  split
  case h_1 => simp [Scheduler.delayedTasks]
  case h_2 => rw [← delayedTasks_unblockExpired, delayedTasks_countTick]

theorem delayedTasks_unwindPendedTicks (count : ℕ) :
    task ∈ scheduler.delayedTasks ↔
      task ∈ (Scheduler.unwindPendedTicks count scheduler).1 ∨
        task ∈ (Scheduler.unwindPendedTicks count scheduler).2.delayedTasks := by
  induction count generalizing scheduler with
  | zero => simp [Scheduler.unwindPendedTicks]
  | succ count ih =>
      rw [Scheduler.unwindPendedTicks, List.mem_append, or_assoc, ← ih,
        delayedTasks_incrementTick]
      rfl

/-- `xTaskIncrementTick` leaves these as they are. -/
theorem control_incrementTick :
    scheduler.incrementTick.2.suspendedBy = scheduler.suspendedBy ∧
      scheduler.incrementTick.2.xPendingReadyList = scheduler.xPendingReadyList := by
  have hcount : scheduler.countTick.suspendedBy = scheduler.suspendedBy ∧
      scheduler.countTick.xPendingReadyList = scheduler.xPendingReadyList := by
    rw [Scheduler.countTick]
    split <;> exact ⟨rfl, rfl⟩
  rw [Scheduler.incrementTick]
  split
  case h_1 => exact ⟨rfl, rfl⟩
  case h_2 =>
    rw [Scheduler.unblockExpired]
    split <;> exact hcount

theorem control_unwindPendedTicks (count : ℕ) :
    (Scheduler.unwindPendedTicks count scheduler).2.suspendedBy = scheduler.suspendedBy ∧
      (Scheduler.unwindPendedTicks count scheduler).2.xPendingReadyList =
        scheduler.xPendingReadyList := by
  induction count generalizing scheduler with
  | zero => exact ⟨rfl, rfl⟩
  | succ count ih =>
      rw [Scheduler.unwindPendedTicks]
      have htick := @control_incrementTick _ _ scheduler _
      exact ⟨ih.1.trans htick.1, ih.2.trans htick.2⟩

theorem delayedTasks_addCurrentTaskToDelayedList (xTicksToWait : BitVec 32) :
    other ∈ (scheduler.addCurrentTaskToDelayedList task xTicksToWait).delayedTasks ↔
      other = task ∨ other ∈ scheduler.delayedTasks := by
  rw [Scheduler.addCurrentTaskToDelayedList]
  split <;>
    simp only [Scheduler.delayedTasks, List.mem_map, List.mem_append, mem_insertByKey] <;>
      grind

theorem control_addCurrentTaskToDelayedList (xTicksToWait : BitVec 32) :
    (scheduler.addCurrentTaskToDelayedList task xTicksToWait).suspendedBy =
        scheduler.suspendedBy ∧
      (scheduler.addCurrentTaskToDelayedList task xTicksToWait).xPendingReadyList =
        scheduler.xPendingReadyList := by
  rw [Scheduler.addCurrentTaskToDelayedList]
  split <;> exact ⟨rfl, rfl⟩

end Ticks

variable [DecidableEq Task]

theorem delayedTasks_removeDelayed (tasks : List Task) :
    task ∈ (scheduler.removeDelayed tasks).delayedTasks ↔
      task ∈ scheduler.delayedTasks ∧ task ∉ tasks := by
  simp only [Scheduler.delayedTasks, Scheduler.removeDelayed, List.mem_map, List.mem_append,
    List.mem_filter, decide_eq_true_eq]
  grind

/-- A task that is woken by an event while the scheduler is suspended stays blocked. -/
theorem delayedTasks_removeFromEventList :
    task ∈ (scheduler.removeFromEventList other).delayedTasks ↔
      task ∈ scheduler.delayedTasks ∧ (scheduler.suspendedBy = none → task ≠ other) := by
  rw [Scheduler.removeFromEventList]
  split
  case h_1 hrunning =>
    rw [delayedTasks_removeDelayed, List.mem_singleton]
    simp [hrunning]
  case h_2 hsuspended =>
    simp [Scheduler.delayedTasks, hsuspended]

theorem pending_removeFromEventList :
    (scheduler.removeFromEventList other).xPendingReadyList =
      if scheduler.suspendedBy = none then scheduler.xPendingReadyList
      else scheduler.xPendingReadyList ++ [other] := by
  rw [Scheduler.removeFromEventList]
  split
  case h_1 hrunning => simp [Scheduler.removeDelayed, hrunning]
  case h_2 hsuspended => simp [hsuspended]

theorem suspendedBy_removeFromEventList :
    (scheduler.removeFromEventList other).suspendedBy = scheduler.suspendedBy := by
  rw [Scheduler.removeFromEventList]
  split <;> rfl

section Resume

variable [TickType Time]

theorem delayedTasks_resumeAll :
    task ∈ scheduler.delayedTasks →
      task ∈ scheduler.xPendingReadyList ∨ task ∈ scheduler.resumeAll.1 ∨
        task ∈ scheduler.resumeAll.2.delayedTasks := by
  intro hdelayed
  by_cases hpending : task ∈ scheduler.xPendingReadyList
  · exact .inl hpending
  · refine .inr ?_
    rw [Scheduler.resumeAll, ← delayedTasks_unwindPendedTicks]
    exact (delayedTasks_removeDelayed _).mpr ⟨hdelayed, hpending⟩

theorem control_resumeAll :
    scheduler.resumeAll.2.suspendedBy = none ∧
      scheduler.resumeAll.2.xPendingReadyList = [] :=
  control_unwindPendedTicks _

end Resume

end FrequencyRelay.Tasks
