import FrequencyRelay.Kernel.QueueLocks

/-!
# The event lists of the queues

Who is in an event list, and where he is in his call: a task that waits is blocked, stands
in one event list, and will try its operation again.  Only the task that has suspended the
scheduler can have locked a queue.
-/

namespace FrequencyRelay.Queues

open FrequencyRelay.Runs
open FrequencyRelay.SortedInsertion
open FrequencyRelay.Tasks
open FrequencyRelay.Ticks

variable {Time Task Queue Byte : Type*}

/-- The task is going to try an operation on the queue, now or when it is woken. -/
def Pc.Attempts (side : Side) (queue : Queue) : Pc Time Queue Byte → Prop
  | .trying call | .unlockingTx call false | .unlockingRx call false
  | .resuming call false => call.xQueue = queue ∧ call.operation.side = side
  | _ => False

/-- The event lists, with the tasks that an event has readied while the scheduler was
suspended -/
structure Waits (pcs : Task → Pc Time Queue Byte) (state : State Time Task Queue Byte) :
    Prop where
  attempts : ∀ side queue, ∀ task ∈ (state.queues queue).waiting side,
    (pcs task).Attempts side queue
  nodup : ∀ side queue, ((state.queues queue).waiting side).Nodup
  blocked : ∀ side queue, ∀ task ∈ (state.queues queue).waiting side,
    task ∈ state.scheduler.delayedTasks
  pending : ∀ task ∈ state.scheduler.xPendingReadyList,
    (∃ side queue, (pcs task).Attempts side queue) ∧
      ∀ side queue, task ∉ (state.queues queue).waiting side
  notPending : state.scheduler.suspendedBy = none → state.scheduler.xPendingReadyList = []

theorem Pc.Attempts.unique {pc : Pc Time Queue Byte} {side other : Side} {queue queue' : Queue}
    (hfirst : pc.Attempts side queue) (hsecond : pc.Attempts other queue') :
    other = side ∧ queue' = queue := by
  rw [Pc.Attempts.eq_def] at hfirst hsecond
  split at hfirst
  case h_5 => exact hfirst.elim
  all_goals
    simp only at hsecond
    exact ⟨hsecond.2.symm.trans hfirst.2, hsecond.1.symm.trans hfirst.1⟩

theorem Waits.of_same {pcs : Task → Pc Time Queue Byte}
    {state next : State Time Task Queue Byte} (hwaits : Waits pcs state)
    (hwaiting : ∀ side queue,
      (next.queues queue).waiting side = (state.queues queue).waiting side)
    (hscheduler : next.scheduler = state.scheduler) : Waits pcs next := by
  refine ⟨?_, ?_, ?_, ?_, ?_⟩
  · simpa only [hwaiting] using hwaits.attempts
  · simpa only [hwaiting] using hwaits.nodup
  · simpa only [hwaiting, hscheduler] using hwaits.blocked
  · simpa only [hwaiting, hscheduler] using hwaits.pending
  · simpa only [hscheduler] using hwaits.notPending

/-! ## Waking -/

section Wake

variable [DecidableEq Task] [DecidableEq Queue] {pcs : Task → Pc Time Queue Byte}
variable {state : State Time Task Queue Byte}

/-- The task at the head of an event list leaves it as one that has been readied. -/
theorem Waits.wake (hwaits : Waits pcs state) (side : Side) (queue : Queue) :
    Waits pcs (state.wake side queue) := by
  cases hwaiting : (state.queues queue).waiting side with
  | nil =>
      have hsame : state.wake side queue = state := by
        rw [State.wake, hwaiting]
      rw [hsame]
      exact hwaits
  | cons head tail =>
      have hscheduler : (state.wake side queue).scheduler =
          state.scheduler.removeFromEventList head := by
        rw [State.wake, hwaiting]
        rfl
      have hhead : head ∈ (state.queues queue).waiting side := by
        rw [hwaiting]
        exact List.mem_cons_self
      have hnodup := hwaits.nodup side queue
      rw [hwaiting, List.nodup_cons] at hnodup
      have hmem {other : Side} {queue' : Queue} {task : Task}
          (htask : task ∈ ((state.wake side queue).queues queue').waiting other) :
          task ∈ (state.queues queue').waiting other ∧ task ≠ head := by
        rw [waiting_wake] at htask
        split at htask
        case isTrue hsame =>
          rw [hwaiting, List.tail_cons] at htask
          rw [hsame.1, hsame.2, hwaiting]
          refine ⟨List.mem_cons_of_mem _ htask, ?_⟩
          rintro rfl
          exact hnodup.1 htask
        case isFalse helse =>
          refine ⟨htask, ?_⟩
          rintro rfl
          have hunique := (hwaits.attempts side queue task hhead).unique
            (hwaits.attempts other queue' task htask)
          exact helse ⟨hunique.2, hunique.1⟩
      refine ⟨?_, ?_, ?_, ?_, ?_⟩
      · intro other queue' task htask
        exact hwaits.attempts other queue' task (hmem htask).1
      · intro other queue'
        rw [waiting_wake]
        split
        case isTrue => exact (hwaits.nodup side queue).tail
        case isFalse => exact hwaits.nodup other queue'
      · intro other queue' task htask
        rw [hscheduler, delayedTasks_removeFromEventList]
        exact ⟨hwaits.blocked other queue' task (hmem htask).1, fun _ => (hmem htask).2⟩
      · intro task htask
        rw [hscheduler, pending_removeFromEventList] at htask
        have hbefore : task ∈ state.scheduler.xPendingReadyList ∨ task = head := by
          split at htask
          case isTrue => exact .inl htask
          case isFalse => simpa using htask
        rcases hbefore with hbefore | rfl
        · obtain ⟨hattempts, hnot⟩ := hwaits.pending task hbefore
          exact ⟨hattempts, fun other queue' hin => hnot other queue' (hmem hin).1⟩
        · exact ⟨⟨side, queue, hwaits.attempts side queue task hhead⟩,
            fun other queue' hin => (hmem hin).2 rfl⟩
      · intro hrunning
        rw [suspendedBy_wake] at hrunning
        rw [hscheduler, pending_removeFromEventList, if_pos hrunning]
        exact hwaits.notPending hrunning

theorem Waits.unlock (hwaits : Waits pcs state) (side : Side) (queue : Queue) :
    Waits pcs (state.unlock side queue) := by
  have hwoken := @iterate_wake _ _ _ _ _ _ state side queue (Waits pcs)
    (fun _ hwaits => hwaits.wake side queue) ((state.queues queue).counted side) hwaits
  rw [unlock_eq]
  apply hwoken.of_same
  · intro other queue'
    rw [queues_setQueue]
    split
    case isTrue hqueue => rw [waiting_setLockCount, hqueue]
    case isFalse => rfl
  · rfl

theorem Waits.perform (hwaits : Waits pcs state) (queue : Queue) (operation : Operation Byte) :
    Waits pcs (state.perform queue operation) := by
  cases operation with
  | send item xCopyPosition =>
      apply Waits.wake
      exact hwaits.of_same (fun _ _ => waiting_setStorage) rfl
  | receive xJustPeeking =>
      cases xJustPeeking with
      | false =>
          apply Waits.wake
          exact hwaits.of_same (fun _ _ => waiting_setStorage) rfl
      | true => exact hwaits.wake .receivers queue

theorem Waits.note (hwaits : Waits pcs state) (side : Side) (queue : Queue) :
    Waits pcs (state.note side queue) := by
  rw [State.note]
  split
  case isTrue => exact hwaits.wake side queue
  case isFalse =>
    refine hwaits.of_same ?_ rfl
    intro other queue'
    rw [queues_setQueue]
    split
    case isTrue hqueue => rw [waiting_setLockCount, hqueue]
    case isFalse => rfl

end Wake

/-! ## The event lists -/

section Waits

variable {pcs : Task → Pc Time Queue Byte} {state next : State Time Task Queue Byte}
variable {task : Task}

/-- The task stands in no event list, and no event has readied it. -/
def State.Free (task : Task) (state : State Time Task Queue Byte) : Prop :=
  (∀ side queue, task ∉ (state.queues queue).waiting side) ∧
    task ∉ state.scheduler.xPendingReadyList

theorem Waits.free_of_not_attempts (hwaits : Waits pcs state)
    (hnot : ∀ side queue, ¬ (pcs task).Attempts side queue) : state.Free task := by
  constructor
  · intro side queue hwaiting
    exact hnot side queue (hwaits.attempts side queue task hwaiting)
  · intro hpending
    obtain ⟨⟨side, queue, hattempts⟩, -⟩ := hwaits.pending task hpending
    exact hnot side queue hattempts

theorem Waits.suspendAll (hwaits : Waits pcs state) (task : Task) :
    Waits pcs { state with scheduler := state.scheduler.suspendAll task } :=
  { hwaits with notPending := fun hnone => nomatch hnone }

variable [DecidableEq Task]

/-- A task goes on that is free, or that still attempts the same. -/
theorem Waits.update (hwaits : Waits pcs state) {pc : Pc Time Queue Byte}
    (hkeep : state.Free task ∨
      ∀ side queue, (pcs task).Attempts side queue → pc.Attempts side queue) :
    Waits (Function.update pcs task pc) state := by
  have hattempts {other : Task} {side : Side} {queue : Queue} (hnot : ¬ state.Free other)
      (hbefore : (pcs other).Attempts side queue) :
      (Function.update pcs task pc other).Attempts side queue := by
    by_cases hother : other = task
    · subst hother
      rw [Function.update_self]
      exact hkeep.resolve_left hnot side queue hbefore
    · rw [Function.update_of_ne hother]
      exact hbefore
  refine { hwaits with attempts := ?_, pending := ?_ }
  · intro side queue other hother
    exact hattempts (fun hfree => hfree.1 side queue hother)
      (hwaits.attempts side queue other hother)
  · intro other hother
    obtain ⟨⟨side, queue, hbefore⟩, hnot⟩ := hwaits.pending other hother
    exact ⟨⟨side, queue, hattempts (fun hfree => hfree.2 hother) hbefore⟩, hnot⟩

/-- Tasks that ticks unblock leave the event lists. -/
theorem Waits.unblock (hwaits : Waits pcs state)
    (unblocked : List Task × Scheduler Time Task)
    (hblocked : ∀ task ∈ state.scheduler.delayedTasks,
      task ∈ state.scheduler.xPendingReadyList ∨ task ∈ unblocked.1 ∨
        task ∈ unblocked.2.delayedTasks)
    (hpending : unblocked.2.xPendingReadyList = [] ∨
      unblocked.2.xPendingReadyList = state.scheduler.xPendingReadyList ∧
        unblocked.2.suspendedBy = state.scheduler.suspendedBy) :
    Waits pcs (state.unblock unblocked) := by
  have hmem {side : Side} {queue : Queue} {task : Task}
      (htask : task ∈ ((state.unblock unblocked).queues queue).waiting side) :
      task ∈ (state.queues queue).waiting side ∧ task ∉ unblocked.1 := by
    rw [State.unblock, waiting_unlink, List.mem_filter, decide_eq_true_eq] at htask
    exact htask
  refine ⟨?_, ?_, ?_, ?_, ?_⟩
  · intro side queue task htask
    exact hwaits.attempts side queue task (hmem htask).1
  · intro side queue
    rw [State.unblock, waiting_unlink]
    exact (hwaits.nodup side queue).filter _
  · intro side queue task htask
    obtain ⟨hwaiting, hnot⟩ := hmem htask
    rcases hblocked task (hwaits.blocked side queue task hwaiting) with hready | hready | hstill
    · exact absurd hwaiting ((hwaits.pending task hready).2 side queue)
    · exact absurd hready hnot
    · exact hstill
  · intro task htask
    change task ∈ unblocked.2.xPendingReadyList at htask
    rcases hpending with hnone | ⟨hsame, -⟩
    · rw [hnone] at htask
      cases htask
    · rw [hsame] at htask
      obtain ⟨hattempts, hnot⟩ := hwaits.pending task htask
      exact ⟨hattempts, fun side queue hin => hnot side queue (hmem hin).1⟩
  · intro hrunning
    change unblocked.2.suspendedBy = none at hrunning
    change unblocked.2.xPendingReadyList = []
    rcases hpending with hnone | ⟨hsame, hsuspended⟩
    · exact hnone
    · rw [hsame]
      exact hwaits.notPending (hsuspended ▸ hrunning)

variable [TickType Time] [DecidableEq Queue]

omit [DecidableEq Task] [DecidableEq Queue] in
theorem Waits.delay (hwaits : Waits pcs state) (task : Task) (xTicksToDelay : BitVec 32) :
    Waits pcs { state with
      scheduler := state.scheduler.addCurrentTaskToDelayedList task xTicksToDelay } := by
  have hcontrol := @control_addCurrentTaskToDelayedList _ _ state.scheduler task _ xTicksToDelay
  refine { hwaits with blocked := ?_, pending := ?_, notPending := ?_ }
  · intro side queue waiter hwaiter
    exact (delayedTasks_addCurrentTaskToDelayedList xTicksToDelay).mpr
      (.inr (hwaits.blocked side queue waiter hwaiter))
  · intro ready hready
    simp only [hcontrol.2] at hready
    exact hwaits.pending ready hready
  · intro hrunning
    simp only [hcontrol.1] at hrunning
    exact hcontrol.2.trans (hwaits.notPending hrunning)

omit [DecidableEq Task] in
/-- A free task puts itself on the event list for what it attempts. -/
theorem Waits.place (hwaits : Waits pcs state) (hfree : state.Free task) {side : Side}
    {queue : Queue} (hattempts : (pcs task).Attempts side queue) (uxPriority : Task → ℕ)
    (xTicksToWait : BitVec 32) :
    Waits pcs ({ state with
      scheduler := state.scheduler.addCurrentTaskToDelayedList task xTicksToWait }.setQueue
        queue ((state.queues queue).placeOnEventList uxPriority task side)) := by
  have hwaiting (other : Side) (queue' : Queue) :
      (({ state with
        scheduler := state.scheduler.addCurrentTaskToDelayedList task xTicksToWait }.setQueue
          queue ((state.queues queue).placeOnEventList uxPriority task side)).queues
            queue').waiting other =
        if queue' = queue ∧ other = side then
          insertByKey (fun other => 12 - uxPriority other) task
            ((state.queues queue).waiting side)
        else (state.queues queue').waiting other := by
    rw [queues_setQueue]
    by_cases hqueue : queue' = queue
    · subst hqueue
      simp only [if_true, QueueDefinition.placeOnEventList, waiting_setWaiting, true_and]
    · simp only [hqueue, if_false, false_and]
  have hmem {other : Side} {queue' : Queue} {waiter : Task}
      (hwaiter : waiter ∈ (({ state with
        scheduler := state.scheduler.addCurrentTaskToDelayedList task xTicksToWait }.setQueue
          queue ((state.queues queue).placeOnEventList uxPriority task side)).queues
            queue').waiting other) :
      waiter ∈ (state.queues queue').waiting other ∨
        waiter = task ∧ queue' = queue ∧ other = side := by
    rw [hwaiting] at hwaiter
    split at hwaiter
    case isTrue hsame =>
      rcases mem_insertByKey.mp hwaiter with rfl | hbefore
      · exact .inr ⟨rfl, hsame⟩
      · rw [hsame.1, hsame.2]
        exact .inl hbefore
    case isFalse => exact .inl hwaiter
  have hcontrol := @control_addCurrentTaskToDelayedList _ _ state.scheduler task _ xTicksToWait
  refine ⟨?_, ?_, ?_, ?_, ?_⟩
  · intro other queue' waiter hwaiter
    rcases hmem hwaiter with hbefore | ⟨rfl, rfl, rfl⟩
    · exact hwaits.attempts other queue' waiter hbefore
    · exact hattempts
  · intro other queue'
    rw [hwaiting]
    split
    case isTrue =>
      rw [(insertByKey_perm task _).nodup_iff, List.nodup_cons]
      exact ⟨hfree.1 side queue, hwaits.nodup side queue⟩
    case isFalse => exact hwaits.nodup other queue'
  · intro other queue' waiter hwaiter
    apply delayedTasks_addCurrentTaskToDelayedList xTicksToWait |>.mpr
    rcases hmem hwaiter with hbefore | ⟨rfl, -, -⟩
    · exact .inr (hwaits.blocked other queue' waiter hbefore)
    · exact .inl rfl
  · intro ready hready
    change ready ∈ (state.scheduler.addCurrentTaskToDelayedList task
      xTicksToWait).xPendingReadyList at hready
    rw [hcontrol.2] at hready
    obtain ⟨hbefore, hnot⟩ := hwaits.pending ready hready
    refine ⟨hbefore, ?_⟩
    intro other queue' hin
    rcases hmem hin with hin | ⟨rfl, -, -⟩
    · exact hnot other queue' hin
    · exact hfree.2 hready
  · intro hrunning
    change (state.scheduler.addCurrentTaskToDelayedList task
      xTicksToWait).suspendedBy = none at hrunning
    rw [hcontrol.1] at hrunning
    exact hcontrol.2.trans (hwaits.notPending hrunning)

end Waits

/-! ## Runs -/

section Runs

variable [TickType Time] [DecidableEq Task] [DecidableEq Queue]
variable {state next : State Time Task Queue Byte} {uxPriority : Task → ℕ} {task : Task}

omit [TickType Time] [DecidableEq Queue] in
theorem Waits.free_of_running (hwaits : Waits state.pc state) (hlocked : Locked state)
    (hrun : state.scheduler.canRun task) (hpc : ¬ (state.pc task).Suspends) :
    state.Free task := by
  obtain ⟨hnobody, hready⟩ := hlocked.running hrun hpc
  constructor
  · intro side queue hwaiting
    exact hready (hwaits.blocked side queue task hwaiting)
  · rw [hwaits.notPending hnobody]
    exact List.not_mem_nil

omit [TickType Time] [DecidableEq Queue] in
theorem waits_setPc {middle : State Time Task Queue Byte} {pc : Pc Time Queue Byte}
    (hwaits : Waits (Function.update state.pc task pc) middle) (hpc : middle.pc = state.pc) :
    Waits (middle.setPc task pc).pc (middle.setPc task pc) := by
  rw [← hpc] at hwaits
  exact hwaits.of_same (fun _ _ => rfl) rfl

omit [DecidableEq Queue] in
theorem Waits.resumeAll {pcs : Task → Pc Time Queue Byte} (hwaits : Waits pcs state) :
    Waits pcs (state.unblock state.scheduler.resumeAll) :=
  hwaits.unblock _ (fun _ => delayedTasks_resumeAll) (.inl control_resumeAll.2)

theorem waits_moved (hwaits : Waits state.pc state) (hlocked : Locked state)
    (hrun : state.scheduler.canRun task) (hmoved : Moved uxPriority state task next) :
    Waits next.pc next := by
  have hrunning (hpc : ¬ (state.pc task).Suspends) : state.Free task :=
    hwaits.free_of_running hlocked hrun hpc
  have hidle (hpc : ∀ side queue, ¬ (state.pc task).Attempts side queue) : state.Free task :=
    hwaits.free_of_not_attempts hpc
  cases hmoved with
  | performed call hpc =>
      refine waits_setPc ?_ (pc_perform ..)
      exact (hwaits.update (.inl (hrunning (by rw [hpc]; exact id)))).perform _ _
  | failed call hpc | waits call hpc =>
      exact waits_setPc (hwaits.update (.inl (hrunning (by rw [hpc]; exact id)))) rfl
  | suspended call hpc =>
      refine waits_setPc ?_ rfl
      exact (hwaits.update (.inl (hrunning (by rw [hpc]; exact id)))).suspendAll task
  | locked call hpc =>
      refine waits_setPc ?_ rfl
      refine (hwaits.update (.inl (hidle (by rw [hpc]; exact fun _ _ => id)))).of_same ?_ rfl
      intro side queue
      rw [queues_setQueue]
      split
      case isTrue hqueue =>
        rw [hqueue]
        cases side <;> rfl
      case isFalse => rfl
  | expired call _ hpc | inTime call _ _ _ hpc | mustWait call hpc | needNotWait call hpc =>
      exact waits_setPc
        (hwaits.update (.inl (hidle (by rw [hpc]; exact fun _ _ => id)))) rfl
  | placed call hpc =>
      have hfree := hidle (by rw [hpc]; exact fun _ _ => id)
      refine waits_setPc ?_ rfl
      apply (hwaits.update (.inl hfree)).place hfree
      rw [Function.update_self]
      exact ⟨rfl, rfl⟩
  | unlockedTx call timedOut hpc | unlockedRx call timedOut hpc =>
      refine waits_setPc ?_ pc_unlock
      refine (hwaits.update (.inr ?_)).unlock _ _
      rw [hpc]
      cases timedOut <;> exact fun _ _ => id
  | resumed call timedOut hpc =>
      refine waits_setPc ?_ rfl
      refine (hwaits.update (.inr ?_)).resumeAll
      rw [hpc]
      cases timedOut <;> exact fun _ _ => id
  | delayed xTicksToDelay hpc =>
      have hfree := hidle (by rw [hpc]; exact fun _ _ => id)
      refine waits_setPc ?_ rfl
      exact (hwaits.update (.inl hfree)).delay task xTicksToDelay
  | delayResumed hpc =>
      refine waits_setPc ?_ rfl
      exact (hwaits.update (.inl (hidle (by rw [hpc]; exact fun _ _ => id)))).resumeAll

theorem waits_step (hwaits : Waits state.pc state) (hlocked : Locked state)
    {action : Action Task Queue Byte} (heffect : Effect uxPriority state action next) :
    Waits next.pc next := by
  cases heffect with
  | ticked =>
      refine hwaits.unblock _ ?_ (.inr ⟨control_incrementTick.2, control_incrementTick.1⟩)
      intro task htask
      exact .inr (delayedTasks_incrementTick.mp htask)
  | called task _ _ _ _ hrun hpc | rescheduled task _ hrun hpc =>
      have hfree := hwaits.free_of_running hlocked hrun (by rw [hpc]; exact id)
      exact waits_setPc (hwaits.update (.inl hfree)) rfl
  | delayBegun task _ _ hrun hpc =>
      have hfree := hwaits.free_of_running hlocked hrun (by rw [hpc]; exact id)
      exact waits_setPc ((hwaits.update (.inl hfree)).suspendAll task) rfl
  | moved task _ hrun hmoved => exact waits_moved hwaits hlocked hrun hmoved
  | sentFromISR queue | gaveFromISR queue | receivedFromISR queue =>
      rw [pc_note]
      apply Waits.note
      exact hwaits.of_same (fun _ _ => waiting_setStorage) rfl
  | foundFullFromISR | gaveFullFromISR | foundEmptyFromISR => exact hwaits

omit [TickType Time] [DecidableEq Task] [DecidableEq Queue] in
theorem waits_initial {created : Queue → QueueDefinition Task}
    (hwaiting : ∀ side queue, (created queue).waiting side = []) (zero : Time)
    (memory : ℤ → Byte) :
    Waits (initial zero created memory).pc (initial zero created memory) := by
  have hnone {side : Side} {queue : Queue} {task : Task} :
      task ∉ (created queue).waiting side := by
    rw [hwaiting]
    exact List.not_mem_nil
  refine ⟨fun _ _ _ htask => absurd htask hnone, ?_, fun _ _ _ htask => absurd htask hnone,
    nofun, fun _ => rfl⟩
  intro side queue
  rw [initial, hwaiting]
  exact List.nodup_nil

end Runs

end FrequencyRelay.Queues
