import FrequencyRelay.Kernel.QueueSteps
import FrequencyRelay.Kernel.TaskSteps

/-!
# The locks of the queues

What waking, unlocking and the operations do to the event lists and the locks.  Only the
task that has suspended the scheduler can have locked a queue, and it locks one at a time.
-/

namespace FrequencyRelay.Queues

open FrequencyRelay.Tasks
open FrequencyRelay.Ticks

variable {Time Task Queue Byte : Type*}

/-- The task has suspended the scheduler. -/
def Pc.Suspends : Pc Time Queue Byte → Prop
  | .returned _ | .trying _ | .suspending _ => False
  | _ => True

/-- The task has locked the queue, as far as the lock counts for a side. -/
def Pc.Locks (side : Side) (queue : Queue) : Pc Time Queue Byte → Prop
  | .checking call | .testing call | .placing call | .unlockingTx call _ =>
      call.xQueue = queue
  | .unlockingRx call _ => call.xQueue = queue ∧ side = .senders
  | _ => False

/-- The task that has suspended the scheduler, and the queues that nobody has locked -/
structure Locked (state : State Time Task Queue Byte) : Prop where
  suspended : ∀ task, (state.pc task).Suspends ↔ state.scheduler.suspendedBy = some task
  unlocked : ∀ side queue, (∀ task, ¬ (state.pc task).Locks side queue) →
    (state.queues queue).lockCount side = -1

theorem Pc.Locks.suspends {pc : Pc Time Queue Byte} {side : Side} {queue : Queue}
    (hlocks : pc.Locks side queue) : pc.Suspends := by
  cases pc with
  | returned | trying | suspending => exact hlocks
  | _ => trivial

/-! ## Queue definitions -/

section Definitions

variable (queue : QueueDefinition Task)

theorem waiting_setWaiting (side other : Side) (tasks : List Task) :
    (queue.setWaiting side tasks).waiting other =
      if other = side then tasks else queue.waiting other := by
  cases side <;> cases other <;> rfl

theorem lockCount_setWaiting (side other : Side) (tasks : List Task) :
    (queue.setWaiting side tasks).lockCount other = queue.lockCount other := by
  cases side <;> cases other <;> rfl

theorem waiting_setLockCount (side other : Side) (count : BitVec 32) :
    (queue.setLockCount side count).waiting other = queue.waiting other := by
  cases side <;> cases other <;> rfl

theorem lockCount_setLockCount (side other : Side) (count : BitVec 32) :
    (queue.setLockCount side count).lockCount other =
      if other = side then count else queue.lockCount other := by
  cases side <;> cases other <;> rfl

theorem lockCount_lock (side : Side) :
    queue.lock.lockCount side =
      if queue.lockCount side = -1 then 0 else queue.lockCount side := by
  cases side <;> rfl

/-- The wake-ups that a lock has counted -/
def QueueDefinition.counted (side : Side) : ℕ := (queue.lockCount side).toInt.toNat

theorem setWaiting_self (side : Side) : queue.setWaiting side (queue.waiting side) = queue := by
  cases side <;> rfl

theorem setWaiting_setWaiting (side : Side) (first second : List Task) :
    (queue.setWaiting side first).setWaiting side second = queue.setWaiting side second := by
  cases side <;> rfl

theorem waiting_unlink [DecidableEq Task] (tasks : List Task) (side : Side) :
    (queue.unlink tasks).waiting side = (queue.waiting side).filter (· ∉ tasks) := by
  cases side <;> rfl

theorem waiting_reset (pcHead : ℤ) (uxLength uxItemSize : ℕ) (side : Side) :
    (queueGenericReset pcHead uxLength uxItemSize : QueueDefinition Task).waiting side = [] := by
  cases side <;> rfl

theorem lockCount_reset (pcHead : ℤ) (uxLength uxItemSize : ℕ) (side : Side) :
    (queueGenericReset pcHead uxLength uxItemSize : QueueDefinition Task).lockCount side =
      -1 := by
  cases side <;> rfl

end Definitions

/-! ## Waking -/

section Wake

variable [DecidableEq Queue]

theorem queues_setQueue (state : State Time Task Queue Byte) (queue other : Queue)
    (definition : QueueDefinition Task) :
    (state.setQueue queue definition).queues other =
      if other = queue then definition else state.queues other :=
  Function.update_apply ..

variable [DecidableEq Task] {state : State Time Task Queue Byte} {side other : Side} {queue queue' : Queue}

theorem waiting_wake :
    ((state.wake side queue).queues queue').waiting other =
      if queue' = queue ∧ other = side then ((state.queues queue).waiting side).tail
      else (state.queues queue').waiting other := by
  rw [State.wake]
  split
  case h_1 hnobody =>
    split
    case isTrue hsame => rw [hsame.1, hsame.2, hnobody, List.tail_nil]
    case isFalse => rfl
  case h_2 task tasks hwaiting =>
    rw [queues_setQueue, hwaiting, List.tail_cons]
    by_cases hqueue : queue' = queue
    · subst hqueue
      simp only [if_true, waiting_setWaiting, true_and]
    · simp only [hqueue, if_false, false_and]

theorem lockCount_wake :
    ((state.wake side queue).queues queue').lockCount other =
      (state.queues queue').lockCount other := by
  rw [State.wake]
  split
  case h_1 => rfl
  case h_2 =>
    rw [queues_setQueue]
    split
    case isTrue hqueue => rw [lockCount_setWaiting, hqueue]
    case isFalse => rfl

theorem suspendedBy_wake :
    (state.wake side queue).scheduler.suspendedBy = state.scheduler.suspendedBy := by
  rw [State.wake]
  split
  case h_1 => rfl
  case h_2 => exact suspendedBy_removeFromEventList

omit [DecidableEq Task] in
theorem setQueue_self (state : State Time Task Queue Byte) (queue : Queue) :
    state.setQueue queue (state.queues queue) = state := by
  rw [State.setQueue, Function.update_eq_self]

omit [DecidableEq Task] in
theorem setQueue_setQueue (state : State Time Task Queue Byte)
    (scheduler : Scheduler Time Task) (queue : Queue) (first second : QueueDefinition Task) :
    { state.setQueue queue first with scheduler := scheduler }.setQueue queue second =
      { state with scheduler := scheduler }.setQueue queue second := by
  rw [State.setQueue, State.setQueue, State.setQueue]
  simp only [Function.update_idem]

theorem toInt_add_one {count : BitVec 32} (hcount : count ≠ BitVec.intMax 32) :
    (count + 1).toInt = count.toInt + 1 := by
  have hlt := count.toInt_lt
  have hle := count.le_toInt
  have hne : count.toInt ≠ 2 ^ 31 - 1 := fun hmax => hcount (BitVec.eq_of_toInt_eq hmax)
  rw [BitVec.toInt_add, show (1 : BitVec 32).toInt = 1 by decide]
  apply Int.bmod_eq_of_le <;> omega

theorem toInt_sub_one {count : BitVec 32} (hpositive : 0 < count.toInt) :
    (count - 1).toInt = count.toInt - 1 := by
  have hlt := count.toInt_lt
  rw [BitVec.toInt_sub, show (1 : BitVec 32).toInt = 1 by decide]
  apply Int.bmod_eq_of_le <;> omega

/-- A loop of `prvUnlockQueue` wakes one task after another. -/
theorem wake_iterate (tasks : List Task) (count : BitVec 32) (state : State Time Task Queue Byte)
    (hwaiting : (state.queues queue).waiting side = tasks) :
    (fun state : State Time Task Queue Byte => state.wake side queue)^[count.toInt.toNat] state =
      { state with
        scheduler :=
          (wakeCounted count tasks).1.foldl Scheduler.removeFromEventList
            state.scheduler }.setQueue queue
        ((state.queues queue).setWaiting side (wakeCounted count tasks).2) := by
  induction tasks generalizing count state with
  | nil =>
      have hfixed : state.wake side queue = state := by
        rw [State.wake, hwaiting]
      have hself := setWaiting_self (state.queues queue) side
      rw [hwaiting] at hself
      rw [Function.iterate_fixed hfixed, wakeCounted, hself]
      exact (setQueue_self state queue).symm
  | cons task tasks ih =>
      rw [wakeCounted]
      split
      case isTrue hpositive =>
        have hcount : count.toInt.toNat = (count - 1).toInt.toNat + 1 := by
          rw [toInt_sub_one hpositive]
          omega
        have hwoken : state.wake side queue =
            { state with scheduler := state.scheduler.removeFromEventList task }.setQueue queue
              ((state.queues queue).setWaiting side tasks) := by
          rw [State.wake, hwaiting]
        have hqueue : (state.wake side queue).queues queue =
            (state.queues queue).setWaiting side tasks := by
          rw [hwoken, queues_setQueue, if_pos rfl]
        have hrest : ((state.wake side queue).queues queue).waiting side = tasks := by
          rw [hqueue, waiting_setWaiting, if_pos rfl]
        rw [hcount, Function.iterate_succ_apply, ih (count - 1) _ hrest, hqueue,
          setWaiting_setWaiting, hwoken]
        exact setQueue_setQueue _ _ queue _ _
      case isFalse hzero =>
        have hcount : count.toInt.toNat = 0 := by omega
        rw [hcount, ← hwaiting, setWaiting_self]
        exact (setQueue_self state queue).symm

/-- Unlocking wakes as many tasks as the lock has counted. -/
theorem unlock_eq (state : State Time Task Queue Byte) (side : Side) (queue : Queue) :
    state.unlock side queue =
      let woken := (fun state : State Time Task Queue Byte => state.wake side queue)^[
        (state.queues queue).counted side] state
      woken.setQueue queue ((woken.queues queue).setLockCount side (-1)) := by
  rw [QueueDefinition.counted, wake_iterate _ _ state rfl]
  simp only [queues_setQueue, if_true]
  exact (setQueue_setQueue state _ queue _ _).symm

theorem iterate_wake {Holds : State Time Task Queue Byte → Prop}
    (hkeep : ∀ state, Holds state → Holds (state.wake side queue)) (count : ℕ)
    (hstate : Holds state) :
    Holds ((fun state : State Time Task Queue Byte => state.wake side queue)^[count] state) := by
  induction count generalizing state with
  | zero => exact hstate
  | succ count ih =>
      rw [Function.iterate_succ_apply]
      exact ih (hkeep state hstate)

theorem lockCount_unlock :
    ((state.unlock side queue).queues queue').lockCount other =
      if queue' = queue ∧ other = side then -1 else (state.queues queue').lockCount other := by
  have hwoken (queue'' : Queue) (other : Side) :
      (((fun state : State Time Task Queue Byte => state.wake side queue)^[
        (state.queues queue).counted side] state).queues queue'').lockCount other =
        (state.queues queue'').lockCount other :=
    @iterate_wake _ _ _ _ _ _ state side queue
      (fun woken => (woken.queues queue'').lockCount other =
        (state.queues queue'').lockCount other)
      (fun _ hwoken => lockCount_wake.trans hwoken) _ rfl
  rw [unlock_eq]
  simp only [queues_setQueue]
  by_cases hqueue : queue' = queue
  · subst hqueue
    simp only [if_true, lockCount_setLockCount, true_and, hwoken]
  · simp only [hqueue, if_false, false_and, hwoken]

theorem suspendedBy_unlock :
    (state.unlock side queue).scheduler.suspendedBy = state.scheduler.suspendedBy := by
  rw [unlock_eq]
  exact @iterate_wake _ _ _ _ _ _ state side queue
    (fun woken => woken.scheduler.suspendedBy = state.scheduler.suspendedBy)
    (fun _ hwoken => suspendedBy_wake.trans hwoken) _ rfl

theorem pc_unlock : (state.unlock side queue).pc = state.pc := by
  rw [unlock_eq]
  exact @iterate_wake _ _ _ _ _ _ state side queue (fun woken => woken.pc = state.pc)
    (fun _ hwoken => (pc_wake _ _ _).trans hwoken) _ rfl

end Wake

/-! ## Operations -/

section Operations

variable [DecidableEq Task] [DecidableEq Queue]
variable {state : State Time Task Queue Byte} {side other : Side} {queue queue' : Queue}

omit [DecidableEq Task] in
/-- A change of the storage leaves the event lists and the locks alone. -/
theorem waiting_setStorage {memory : ℤ → Byte} {storage : Storage} :
    (({ state with memory := memory }.setQueue queue
      ((state.queues queue).setStorage storage)).queues queue').waiting other =
        (state.queues queue').waiting other := by
  rw [queues_setQueue]
  split
  case isTrue hqueue =>
    rw [hqueue]
    cases other <;> rfl
  case isFalse => rfl

omit [DecidableEq Task] in
theorem lockCount_setStorage {memory : ℤ → Byte} {storage : Storage} :
    (({ state with memory := memory }.setQueue queue
      ((state.queues queue).setStorage storage)).queues queue').lockCount other =
        (state.queues queue').lockCount other := by
  rw [queues_setQueue]
  split
  case isTrue hqueue =>
    rw [hqueue]
    cases other <;> rfl
  case isFalse => rfl

theorem lockCount_perform (operation : Operation Byte) :
    ((state.perform queue operation).queues queue').lockCount other =
      (state.queues queue').lockCount other := by
  cases operation with
  | send item xCopyPosition =>
      exact lockCount_wake.trans lockCount_setStorage
  | receive xJustPeeking =>
      cases xJustPeeking with
      | false => exact lockCount_wake.trans lockCount_setStorage
      | true => exact lockCount_wake

theorem suspendedBy_perform (operation : Operation Byte) :
    (state.perform queue operation).scheduler.suspendedBy = state.scheduler.suspendedBy := by
  cases operation with
  | send => exact suspendedBy_wake
  | receive xJustPeeking =>
      cases xJustPeeking with
      | false | true => exact suspendedBy_wake

theorem lockCount_note :
    ((state.note side queue).queues queue').lockCount other =
      if queue' = queue ∧ other = side ∧ (state.queues queue).lockCount side ≠ -1 then
        (state.queues queue).lockCount side + 1
      else (state.queues queue').lockCount other := by
  rw [State.note]
  split
  case isTrue hunlocked => rw [lockCount_wake, if_neg (fun hlocked => hlocked.2.2 hunlocked)]
  case isFalse hlocked =>
    rw [queues_setQueue]
    by_cases hqueue : queue' = queue
    · subst hqueue
      simp only [if_true, lockCount_setLockCount, true_and, ne_eq, hlocked, not_false_eq_true,
        and_true]
    · simp only [hqueue, if_false, false_and]

theorem suspendedBy_note :
    (state.note side queue).scheduler.suspendedBy = state.scheduler.suspendedBy := by
  rw [State.note]
  split
  case isTrue => exact suspendedBy_wake
  case isFalse => rfl

end Operations

/-! ## Runs -/

section Runs

variable [TickType Time] [DecidableEq Task] [DecidableEq Queue]
variable {state next : State Time Task Queue Byte} {uxPriority : Task → ℕ} {task : Task}

omit [TickType Time] [DecidableEq Queue] in
/-- A task that runs and has not suspended the scheduler is not blocked. -/
theorem Locked.running (hlocked : Locked state) (hrun : state.scheduler.canRun task)
    (hpc : ¬ (state.pc task).Suspends) :
    state.scheduler.suspendedBy = none ∧ task ∉ state.scheduler.delayedTasks := by
  rw [Scheduler.canRun] at hrun
  split at hrun
  case h_1 suspender hsuspended =>
    rw [of_decide_eq_true hrun] at hsuspended
    exact absurd ((hlocked.suspended task).mpr hsuspended) hpc
  case h_2 hnobody =>
    refine ⟨hnobody, ?_⟩
    rw [← blocked_iff]
    simpa using hrun

/-- What a task that runs has suspended, and that it has unlocked the rest -/
structure Holder (state : State Time Task Queue Byte) (task : Task)
    (pc : Pc Time Queue Byte) : Prop where
  suspended : pc.Suspends ∧ state.scheduler.suspendedBy = some task ∨
    ¬ pc.Suspends ∧ state.scheduler.suspendedBy = none
  unlocked : ∀ side queue, ¬ pc.Locks side queue → (state.queues queue).lockCount side = -1

omit [TickType Time] [DecidableEq Queue] in
/-- While a task runs, no other task has suspended the scheduler. -/
theorem Locked.others (hlocked : Locked state) (hrun : state.scheduler.canRun task)
    {other : Task} (hother : other ≠ task) : ¬ (state.pc other).Suspends := by
  intro hsuspends
  have hsuspended := (hlocked.suspended other).mp hsuspends
  rw [Scheduler.canRun, hsuspended] at hrun
  exact hother (of_decide_eq_true hrun)

omit [TickType Time] [DecidableEq Queue] in
theorem Locked.holder (hlocked : Locked state) (hrun : state.scheduler.canRun task) :
    Holder state task (state.pc task) := by
  constructor
  · by_cases hpc : (state.pc task).Suspends
    · exact .inl ⟨hpc, (hlocked.suspended task).mp hpc⟩
    · exact .inr ⟨hpc, (hlocked.running hrun hpc).1⟩
  · intro side queue hpc
    apply hlocked.unlocked side queue
    intro other hlocks
    by_cases hother : other = task
    · exact hpc (hother ▸ hlocks)
    · exact hlocked.others hrun hother hlocks.suspends

omit [TickType Time] [DecidableEq Queue] in
theorem locked_setPc {middle : State Time Task Queue Byte} {pc : Pc Time Queue Byte}
    (hothers : ∀ other ≠ task, ¬ (state.pc other).Suspends) (hpc : middle.pc = state.pc)
    (hholder : Holder middle task pc) : Locked (middle.setPc task pc) := by
  have hfree {other : Task} (hother : other ≠ task) :
      ¬ ((middle.setPc task pc).pc other).Suspends := by
    rw [pc_setPc_of_ne _ hother, hpc]
    exact hothers other hother
  refine ⟨?_, ?_⟩
  · intro other
    by_cases hother : other = task
    · subst hother
      rw [pc_setPc_self]
      rcases hholder.suspended with ⟨hsuspends, hby⟩ | ⟨hnot, hby⟩
      · exact iff_of_true hsuspends hby
      · refine iff_of_false hnot ?_
        intro hself
        exact nomatch hby.symm.trans hself
    · refine iff_of_false (hfree hother) ?_
      intro hby
      rcases hholder.suspended with ⟨-, hself⟩ | ⟨-, hnobody⟩
      · exact hother (Option.some.inj (hby.symm.trans hself))
      · exact nomatch hby.symm.trans hnobody
  · intro side queue hnobody
    have hself := hnobody task
    rw [pc_setPc_self] at hself
    exact hholder.unlocked side queue hself

theorem locked_moved (hlocked : Locked state) (hrun : state.scheduler.canRun task)
    (hmoved : Moved uxPriority state task next) : Locked next := by
  have hothers : ∀ other ≠ task, ¬ (state.pc other).Suspends :=
    fun _ hother => hlocked.others hrun hother
  have hholder := hlocked.holder hrun
  cases hmoved with
  | performed call hpc =>
      rw [hpc] at hholder
      refine locked_setPc hothers (pc_perform ..) ⟨?_, ?_⟩
      · rw [suspendedBy_perform]
        exact hholder.suspended
      · intro side queue
        rw [lockCount_perform]
        exact hholder.unlocked side queue
  | failed call hpc | waits call hpc | expired call _ hpc | inTime call _ _ _ hpc
  | mustWait call hpc | needNotWait call hpc =>
      rw [hpc] at hholder
      exact locked_setPc hothers rfl ⟨hholder.suspended, hholder.unlocked⟩
  | suspended call hpc =>
      rw [hpc] at hholder
      exact locked_setPc hothers rfl ⟨.inl ⟨trivial, rfl⟩, hholder.unlocked⟩
  | locked call hpc =>
      rw [hpc] at hholder
      refine locked_setPc hothers rfl ⟨hholder.suspended, ?_⟩
      intro side queue hnot
      rw [queues_setQueue, if_neg fun hqueue => hnot hqueue.symm]
      exact hholder.unlocked side queue id
  | placed call hpc =>
      rw [hpc] at hholder
      refine locked_setPc hothers rfl ⟨?_, ?_⟩
      · change _ ∧ (state.scheduler.addCurrentTaskToDelayedList task _).suspendedBy = _ ∨
          _ ∧ (state.scheduler.addCurrentTaskToDelayedList task _).suspendedBy = _
        rw [(control_addCurrentTaskToDelayedList _).1]
        exact hholder.suspended
      · intro side queue hnot
        rw [queues_setQueue, if_neg fun hqueue => hnot hqueue.symm]
        exact hholder.unlocked side queue hnot
  | unlockedTx call timedOut hpc =>
      rw [hpc] at hholder
      refine locked_setPc hothers pc_unlock ⟨?_, ?_⟩
      · rw [suspendedBy_unlock]
        exact hholder.suspended
      · intro side queue hnot
        rw [lockCount_unlock]
        split
        case isTrue => rfl
        case isFalse hother =>
          apply hholder.unlocked side queue
          intro hlocks
          cases side with
          | receivers => exact hother ⟨hlocks.symm, rfl⟩
          | senders => exact hnot ⟨hlocks, rfl⟩
  | unlockedRx call timedOut hpc =>
      rw [hpc] at hholder
      refine locked_setPc hothers pc_unlock ⟨?_, ?_⟩
      · rw [suspendedBy_unlock]
        exact hholder.suspended
      · intro side queue _
        rw [lockCount_unlock]
        split
        case isTrue => rfl
        case isFalse hother =>
          apply hholder.unlocked side queue
          exact fun hlocks => hother ⟨hlocks.1.symm, hlocks.2⟩
  | resumed call timedOut hpc =>
      rw [hpc] at hholder
      refine locked_setPc hothers rfl ⟨.inr ⟨?_, control_resumeAll.1⟩, ?_⟩
      · cases timedOut <;> exact id
      · intro side queue _
        have hcount := hholder.unlocked side queue id
        cases side <;> exact hcount
  | delayed xTicksToDelay hpc =>
      rw [hpc] at hholder
      refine locked_setPc hothers rfl ⟨?_, hholder.unlocked⟩
      change _ ∧ (state.scheduler.addCurrentTaskToDelayedList task _).suspendedBy = _ ∨
        _ ∧ (state.scheduler.addCurrentTaskToDelayedList task _).suspendedBy = _
      rw [(control_addCurrentTaskToDelayedList _).1]
      exact hholder.suspended
  | delayResumed hpc =>
      rw [hpc] at hholder
      refine locked_setPc hothers rfl ⟨.inr ⟨id, control_resumeAll.1⟩, ?_⟩
      intro side queue _
      have hcount := hholder.unlocked side queue id
      cases side <;> exact hcount

omit [TickType Time] [DecidableEq Task] [DecidableEq Queue] in
/-- What an interrupt handler or a tick does to the locks -/
theorem Locked.of_counts (hlocked : Locked state) (hpc : next.pc = state.pc)
    (hsuspended : next.scheduler.suspendedBy = state.scheduler.suspendedBy)
    (hcounts : ∀ side queue,
      (next.queues queue).lockCount side = (state.queues queue).lockCount side ∨
        (state.queues queue).lockCount side ≠ -1) :
    Locked next := by
  refine ⟨?_, ?_⟩
  · rw [hpc, hsuspended]
    exact hlocked.suspended
  · intro side queue hnobody
    rw [hpc] at hnobody
    have hbefore := hlocked.unlocked side queue hnobody
    rcases hcounts side queue with hcount | hlocked
    · rw [hcount, hbefore]
    · exact absurd hbefore hlocked

omit [TickType Time] in
theorem Locked.note (hlocked : Locked state) (side : Side) (queue : Queue) :
    Locked (state.note side queue) := by
  refine hlocked.of_counts (pc_note ..) suspendedBy_note ?_
  intro other queue'
  rw [lockCount_note]
  split
  case isTrue hsame =>
    obtain ⟨rfl, rfl, hcount⟩ := hsame
    exact .inr hcount
  case isFalse => exact .inl rfl

theorem locked_step (hlocked : Locked state) {action : Action Task Queue Byte}
    (heffect : Effect uxPriority state action next) : Locked next := by
  cases heffect with
  | ticked =>
      refine hlocked.of_counts rfl control_incrementTick.1 ?_
      intro side queue
      cases side <;> exact .inl rfl
  | called task _ _ _ _ hrun hpc | rescheduled task _ hrun hpc =>
      have hholder := hlocked.holder hrun
      rw [hpc] at hholder
      exact locked_setPc (fun _ hother => hlocked.others hrun hother) rfl
        ⟨hholder.suspended, hholder.unlocked⟩
  | delayBegun task _ _ hrun hpc =>
      have hholder := hlocked.holder hrun
      rw [hpc] at hholder
      exact locked_setPc (fun _ hother => hlocked.others hrun hother) rfl
        ⟨.inl ⟨trivial, rfl⟩, hholder.unlocked⟩
  | moved task _ hrun hmoved => exact locked_moved hlocked hrun hmoved
  | sentFromISR queue | gaveFromISR queue | receivedFromISR queue =>
      apply Locked.note
      exact hlocked.of_counts rfl rfl fun _ _ => .inl lockCount_setStorage
  | foundFullFromISR | gaveFullFromISR | foundEmptyFromISR => exact hlocked

omit [TickType Time] [DecidableEq Task] [DecidableEq Queue] in
theorem locked_initial {created : Queue → QueueDefinition Task}
    (hcount : ∀ side queue, (created queue).lockCount side = -1) (zero : Time)
    (memory : ℤ → Byte) : Locked (initial zero created memory) where
  suspended _ := iff_of_false id nofun
  unlocked side queue _ := hcount side queue

end Runs

/-! ## The counters -/

section Counters

/-- A lock that a task holds has counted up from zero. -/
def Counting (state : State Time Task Queue Byte) : Prop :=
  ∀ side queue task, (state.pc task).Locks side queue →
    0 ≤ ((state.queues queue).lockCount side).toInt

/-- Each lock can count one more; beyond that, its counter overflows. -/
def State.CanCount (state : State Time Task Queue Byte) : Prop :=
  ∀ side queue, (state.queues queue).lockCount side ≠ BitVec.intMax 32

theorem counted_setWaiting (queue : QueueDefinition Task) (side other : Side)
    (tasks : List Task) : (queue.setWaiting side tasks).counted other = queue.counted other :=
  congrArg (fun count => count.toInt.toNat) (lockCount_setWaiting queue side other tasks)

/-- A lock begins to count at zero. -/
theorem counted_lock (queue : QueueDefinition Task) (side : Side) :
    queue.counted side ≤ queue.lock.counted side := by
  rw [QueueDefinition.counted, QueueDefinition.counted, lockCount_lock]
  split
  case isTrue hcount =>
    rw [hcount]
    decide
  case isFalse => exact le_rfl

variable [TickType Time] [DecidableEq Task] [DecidableEq Queue]
variable {state next : State Time Task Queue Byte} {uxPriority : Task → ℕ} {task : Task}
variable {side other : Side} {queue queue' : Queue}

omit [TickType Time] in
theorem counted_wake :
    ((state.wake side queue).queues queue').counted other =
      (state.queues queue').counted other :=
  congrArg (fun count => count.toInt.toNat) lockCount_wake

omit [TickType Time] in
theorem counted_unlock :
    ((state.unlock side queue).queues queue').counted other =
      if queue' = queue ∧ other = side then 0 else (state.queues queue').counted other := by
  rw [QueueDefinition.counted, lockCount_unlock]
  split
  case isTrue => rfl
  case isFalse => rfl

omit [TickType Time] [DecidableEq Task] in
theorem counted_setStorage {memory : ℤ → Byte} {storage : Storage} :
    (({ state with memory := memory }.setQueue queue
      ((state.queues queue).setStorage storage)).queues queue').counted other =
        (state.queues queue').counted other :=
  congrArg (fun count => count.toInt.toNat) lockCount_setStorage

omit [TickType Time] in
/-- A lock that has counted from zero, and whose counter does not overflow, counts one
more. -/
theorem counted_note
    (hlock : (state.queues queue).lockCount side ≠ -1 →
      0 ≤ ((state.queues queue).lockCount side).toInt)
    (hcount : (state.queues queue).lockCount side ≠ BitVec.intMax 32) :
    ((state.note side queue).queues queue').counted other =
      if queue' = queue ∧ other = side ∧ (state.queues queue).lockCount side ≠ -1 then
        (state.queues queue).counted side + 1
      else (state.queues queue').counted other := by
  rw [QueueDefinition.counted, lockCount_note]
  split
  case isTrue hlocked =>
    have hzero := hlock hlocked.2.2
    rw [toInt_add_one hcount, QueueDefinition.counted]
    omega
  case isFalse => rfl

omit [TickType Time] [DecidableEq Task] [DecidableEq Queue] in
/-- Whether locked or not, a counter is at zero or above when it is not at -1. -/
theorem Counting.nonneg (hcounting : Counting state) (hlocked : Locked state)
    (hcount : (state.queues queue).lockCount side ≠ -1) :
    0 ≤ ((state.queues queue).lockCount side).toInt := by
  by_contra hnegative
  apply hcount
  apply hlocked.unlocked side queue
  exact fun task hlocks => hnegative (hcounting side queue task hlocks)

omit [TickType Time] [DecidableEq Queue] in
theorem counting_setPc {middle : State Time Task Queue Byte} {pc : Pc Time Queue Byte}
    (hothers : ∀ other ≠ task, ¬ (state.pc other).Suspends) (hpc : middle.pc = state.pc)
    (hcount : ∀ side queue, pc.Locks side queue →
      0 ≤ ((middle.queues queue).lockCount side).toInt) : Counting (middle.setPc task pc) := by
  intro side queue other hlocks
  by_cases hother : other = task
  · subst hother
    rw [pc_setPc_self] at hlocks
    exact hcount side queue hlocks
  · rw [pc_setPc_of_ne _ hother, hpc] at hlocks
    exact absurd hlocks.suspends (hothers other hother)

theorem counting_moved (hcounting : Counting state) (hlocked : Locked state)
    (hrun : state.scheduler.canRun task) (hmoved : Moved uxPriority state task next) :
    Counting next := by
  have hothers : ∀ other ≠ task, ¬ (state.pc other).Suspends :=
    fun _ hother => hlocked.others hrun hother
  cases hmoved with
  | performed => exact counting_setPc hothers (pc_perform ..) fun _ _ => False.elim
  | failed | waits | suspended | delayed | delayResumed =>
      exact counting_setPc hothers rfl fun _ _ => False.elim
  | locked call hpc =>
      refine counting_setPc hothers rfl ?_
      rintro side _ rfl
      have hcount := (hlocked.holder hrun).unlocked side call.xQueue (by rw [hpc]; exact id)
      rw [queues_setQueue, if_pos rfl, lockCount_lock, if_pos hcount]
      exact le_rfl
  | expired call _ hpc | inTime call _ _ _ hpc | mustWait call hpc | needNotWait call hpc =>
      refine counting_setPc hothers rfl ?_
      intro side queue hlocks
      apply hcounting side queue task
      rw [hpc]
      exact hlocks
  | placed call hpc =>
      refine counting_setPc hothers rfl ?_
      rintro side _ rfl
      rw [queues_setQueue, if_pos rfl, QueueDefinition.placeOnEventList, lockCount_setWaiting]
      apply hcounting side call.xQueue task
      rw [hpc]
      exact rfl
  | unlockedTx call timedOut hpc =>
      refine counting_setPc hothers pc_unlock ?_
      rintro _ _ ⟨rfl, rfl⟩
      rw [lockCount_unlock, if_neg fun hsame => nomatch hsame.2]
      apply hcounting .senders call.xQueue task
      rw [hpc]
      exact rfl
  | unlockedRx => exact counting_setPc hothers pc_unlock fun _ _ => False.elim
  | resumed call timedOut =>
      refine counting_setPc hothers rfl ?_
      cases timedOut <;> exact fun _ _ => False.elim

omit [TickType Time] in
theorem Counting.note (hcounting : Counting state)
    (hcount : (state.queues queue).lockCount side ≠ BitVec.intMax 32) :
    Counting (state.note side queue) := by
  intro other queue' task hlocks
  rw [pc_note] at hlocks
  have hbefore := hcounting other queue' task hlocks
  rw [lockCount_note]
  split
  case isTrue hsame =>
    obtain ⟨rfl, rfl, -⟩ := hsame
    rw [toInt_add_one hcount]
    omega
  case isFalse => exact hbefore

omit [TickType Time] in
theorem Counting.setStorage_note (hcounting : Counting state) (hcan : state.CanCount)
    {memory : ℤ → Byte} {storage : Storage} :
    Counting (({ state with memory := memory }.setQueue queue
      ((state.queues queue).setStorage storage)).note side queue) := by
  apply Counting.note
  · intro other queue' task hlocks
    rw [lockCount_setStorage]
    exact hcounting other queue' task hlocks
  · rw [lockCount_setStorage]
    exact hcan side queue

/-- As long as no counter overflows, a lock counts from zero. -/
theorem counting_step (hcounting : Counting state) (hcan : state.CanCount)
    (hlocked : Locked state) {action : Action Task Queue Byte}
    (heffect : Effect uxPriority state action next) : Counting next := by
  cases heffect with
  | ticked =>
      intro side queue task hlocks
      have hbefore := hcounting side queue task hlocks
      cases side <;> exact hbefore
  | called task _ _ _ _ hrun | rescheduled task _ hrun | delayBegun task _ _ hrun =>
      exact counting_setPc (fun _ hother => hlocked.others hrun hother) rfl
        fun _ _ => False.elim
  | moved task _ hrun hmoved => exact counting_moved hcounting hlocked hrun hmoved
  | sentFromISR | gaveFromISR | receivedFromISR => exact hcounting.setStorage_note hcan
  | foundFullFromISR | gaveFullFromISR | foundEmptyFromISR => exact hcounting

end Counters

end FrequencyRelay.Queues
