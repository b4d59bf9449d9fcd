import Mathlib.Data.Finset.Card
import FrequencyRelay.Kernel.EventLists
import FrequencyRelay.Kernel.QueueContents

/-!
# No wake-up is lost

A task goes on an event list some steps after it has seen that it must wait, and interrupt
handlers use the queue in between.  Yet as long as tasks wait on a queue, each item in it,
or each place that is free, is accounted for: by a task that is on its way to the queue, or
by a wake-up that the lock has counted and that is due when the queue is unlocked.
-/

namespace FrequencyRelay.Queues

open FrequencyRelay.Runs
open FrequencyRelay.Tasks
open FrequencyRelay.Ticks

variable {Time Task Queue Byte : Type*}

/-- What there is for the tasks of a side: items, or room for items -/
def Storage.available (storage : Storage) : Side → ℕ
  | .receivers => storage.uxMessagesWaiting
  | .senders => storage.uxLength - storage.uxMessagesWaiting

/-- The task is going to try an operation, and waits no more. -/
def State.OnTheWay (side : Side) (queue : Queue) (state : State Time Task Queue Byte)
    (task : Task) : Prop :=
  (state.pc task).Attempts side queue ∧ task ∉ (state.queues queue).waiting side

/-- If tasks wait, then all that is available is for tasks on their way, except for what
`count` tasks are still to be woken for. -/
def Served (side : Side) (queue : Queue) (pcs : Task → Pc Time Queue Byte)
    (state : State Time Task Queue Byte) (count : ℕ) : Prop :=
  (state.queues queue).waiting side ≠ [] →
    ∃ ready : Finset Task,
      (∀ task ∈ ready, { state with pc := pcs }.OnTheWay side queue task) ∧
        (state.queues queue).available side ≤ ready.card + count

/-- The invariant.  A task that is about to place itself on an event list has seen that
there is nothing for it but what the lock has counted since. -/
structure Attended (state : State Time Task Queue Byte) : Prop where
  served : ∀ side queue, Served side queue state.pc state ((state.queues queue).counted side)
  placing : ∀ task call, state.pc task = .placing call →
    (state.queues call.xQueue).available call.operation.side ≤
      (state.queues call.xQueue).counted call.operation.side

section Served

variable {state next : State Time Task Queue Byte} {pcs : Task → Pc Time Queue Byte}
variable {side other : Side} {queue queue' : Queue} {task : Task} {count more : ℕ}

theorem Served.mono (hserved : Served side queue pcs state count)
    (hwaiting : ∀ task ∈ (next.queues queue).waiting side,
      task ∈ (state.queues queue).waiting side)
    (havailable : (next.queues queue).available side + count ≤
      (state.queues queue).available side + more) :
    Served side queue pcs next more := by
  intro hnext
  obtain ⟨first, hfirst⟩ := List.exists_mem_of_ne_nil _ hnext
  obtain ⟨ready, hready, hcard⟩ := hserved (List.ne_nil_of_mem (hwaiting first hfirst))
  refine ⟨ready, ?_, by omega⟩
  intro task htask
  obtain ⟨hattempts, hnot⟩ := hready task htask
  exact ⟨hattempts, fun hin => hnot (hwaiting task hin)⟩

variable [DecidableEq Task]

/-- A task goes on that still attempts the same. -/
theorem Served.update (hserved : Served side queue pcs state count)
    {pc : Pc Time Queue Byte}
    (hkeep : (pcs task).Attempts side queue → pc.Attempts side queue) :
    Served side queue (Function.update pcs task pc) state count := by
  intro hwaiting
  obtain ⟨ready, hready, hcard⟩ := hserved hwaiting
  refine ⟨ready, ?_, hcard⟩
  intro other hother
  obtain ⟨hattempts, hnot⟩ := hready other hother
  refine ⟨?_, hnot⟩
  change (Function.update pcs task pc other).Attempts side queue
  by_cases hsame : other = task
  · subst hsame
    rw [Function.update_self]
    exact hkeep hattempts
  · rw [Function.update_of_ne hsame]
    exact hattempts

/-- A task that has been on its way takes what there is for it, if there is anything. -/
theorem Served.leave (hserved : Served side queue pcs state count) (more : ℕ)
    (hwaiting : (next.queues queue).waiting side = (state.queues queue).waiting side)
    (havailable : (next.queues queue).available side ≤
      (state.queues queue).available side - 1 + more) (pc : Pc Time Queue Byte) :
    Served side queue (Function.update pcs task pc) next (count + more) := by
  intro hnext
  rw [hwaiting] at hnext
  obtain ⟨ready, hready, hcard⟩ := hserved hnext
  refine ⟨ready.erase task, ?_, ?_⟩
  · intro other hother
    obtain ⟨hne, hother⟩ := Finset.mem_erase.mp hother
    obtain ⟨hattempts, hnot⟩ := hready other hother
    refine ⟨?_, ?_⟩
    · change (Function.update pcs task pc other).Attempts side queue
      rw [Function.update_of_ne hne]
      exact hattempts
    · rw [hwaiting]
      exact hnot
  · have hpred := Finset.pred_card_le_card_erase (s := ready) (a := task)
    omega

variable [DecidableEq Queue]

theorem storage_wake (queue' : Queue) :
    ((state.wake side queue).queues queue').toStorage = (state.queues queue').toStorage :=
  (sameStorage_wake state side queue).storage queue'

/-- The task that is woken will see to one item, or to one place. -/
theorem Served.wake (hserved : Served side queue pcs state (count + 1))
    (hwaits : Waits pcs state) :
    Served side queue pcs (state.wake side queue) count := by
  intro hnext
  have hwaiting : ((state.wake side queue).queues queue).waiting side =
      ((state.queues queue).waiting side).tail := by
    rw [waiting_wake, if_pos ⟨rfl, rfl⟩]
  rw [hwaiting] at hnext
  obtain ⟨head, tail, hlist⟩ := List.exists_cons_of_ne_nil
    (fun hnil => hnext (by rw [hnil, List.tail_nil]) : (state.queues queue).waiting side ≠ [])
  have hhead : head ∈ (state.queues queue).waiting side := by
    rw [hlist]
    exact List.mem_cons_self
  have hnodup := hwaits.nodup side queue
  rw [hlist, List.nodup_cons] at hnodup
  obtain ⟨ready, hready, hcard⟩ := hserved (List.ne_nil_of_mem hhead)
  refine ⟨insert head ready, ?_, ?_⟩
  · intro task htask
    rcases Finset.mem_insert.mp htask with rfl | htask
    · refine ⟨hwaits.attempts side queue task hhead, ?_⟩
      change task ∉ ((state.wake side queue).queues queue).waiting side
      rw [hwaiting, hlist]
      exact hnodup.1
    · obtain ⟨hattempts, hnot⟩ := hready task htask
      refine ⟨hattempts, ?_⟩
      change task ∉ ((state.wake side queue).queues queue).waiting side
      rw [hwaiting]
      exact fun hin => hnot (List.mem_of_mem_tail hin)
  · rw [storage_wake, Finset.card_insert_of_notMem fun hin => (hready head hin).2 hhead]
    omega

/-- The others do not notice. -/
theorem Served.wake_other (hserved : Served other queue' pcs state count)
    (hother : ¬ (queue' = queue ∧ other = side)) :
    Served other queue' pcs (state.wake side queue) count := by
  apply hserved.mono
  · rw [waiting_wake, if_neg hother]
    exact fun _ => id
  · rw [storage_wake]

theorem Served.iterate_wake (hserved : Served side queue pcs state count)
    (hwaits : Waits pcs state) :
    Served side queue pcs
      ((fun state : State Time Task Queue Byte => state.wake side queue)^[count] state) 0 := by
  induction count generalizing state with
  | zero => exact hserved
  | succ count ih =>
      rw [Function.iterate_succ_apply]
      exact ih (hserved.wake hwaits) (hwaits.wake side queue)

end Served

/-! ## What there is -/

section Available

theorem available_setWaiting {queue : QueueDefinition Task} {side other : Side}
    {tasks : List Task} :
    (queue.setWaiting side tasks).available other = queue.available other := by
  cases side <;> rfl

theorem available_of_cannot {queue : QueueDefinition Task} {operation : Operation Byte}
    (hcannot : ¬ queue.canPerform operation) : queue.available operation.side = 0 := by
  cases operation with
  | send item xCopyPosition =>
      rw [QueueDefinition.canPerform, decide_eq_true_eq, not_or] at hcannot
      exact Nat.sub_eq_zero_of_le (Nat.le_of_not_lt hcannot.1)
  | receive xJustPeeking =>
      rw [QueueDefinition.canPerform, decide_eq_true_eq] at hcannot
      exact Nat.eq_zero_of_not_pos hcannot

theorem available_of_mustWait {queue : QueueDefinition Task} {operation : Operation Byte}
    (hwait : queue.mustWait operation) : queue.available operation.side = 0 := by
  cases operation with
  | send => exact Nat.sub_eq_zero_of_le (of_decide_eq_true hwait).ge
  | receive => exact of_decide_eq_true hwait

/-- A send takes up room, and there is at most one more item. -/
theorem available_copyDataToQueue {queue : QueueDefinition Task} (memory : ℤ → Byte)
    {item : List Byte} {xCopyPosition : CopyPosition}
    (hadmits : queue.Admits (.send item xCopyPosition)) :
    (queue.copyDataToQueue memory item xCopyPosition).1.available .senders ≤
        queue.available .senders - 1 ∧
      (queue.copyDataToQueue memory item xCopyPosition).1.available .receivers ≤
        queue.available .receivers + 1 := by
  rw [Storage.copyDataToQueue.eq_def]
  split
  case isTrue =>
    simp only [Storage.available, Storage.addMessage]
    omega
  case isFalse hbytes =>
    cases xCopyPosition with
    | sendToBack | sendToFront =>
        simp only [Storage.available, Storage.addMessage, Storage.advanceWriteTo,
          Storage.retreatReadFrom]
        omega
    | overwrite =>
        have hone := (hadmits.2 rfl).1
        simp only [Storage.available, Storage.addMessage]
        split <;>
          simp only [Storage.removeMessage, Storage.retreatReadFrom] <;> omega

/-- A receive takes an item, and leaves room for at most one more. -/
theorem available_copyDataFromQueue (queue : QueueDefinition Task) (memory : ℤ → Byte) :
    (queue.copyDataFromQueue memory).2.removeMessage.available .receivers ≤
        queue.available .receivers - 1 ∧
      (queue.copyDataFromQueue memory).2.removeMessage.available .senders ≤
        queue.available .senders + 1 := by
  rw [Storage.copyDataFromQueue]
  split <;>
    simp only [Storage.available, Storage.removeMessage, Storage.advanceReadFrom] <;> omega

end Available

/-! ## Operations -/

section Operations

variable [DecidableEq Task] [DecidableEq Queue]
variable {state middle next : State Time Task Queue Byte} {pcs : Task → Pc Time Queue Byte}
variable {own side : Side} {queue : Queue} {task : Task}

/-- All are served as the locks say, but a task of one side is still to be woken. -/
def Owed (side : Side) (queue : Queue) (pcs : Task → Pc Time Queue Byte)
    (state : State Time Task Queue Byte) : Prop :=
  ∀ other queue', Served other queue' pcs state
    ((state.queues queue').counted other +
      if queue' = queue ∧ other = side then 1 else 0)

theorem Owed.wake (howed : Owed side queue pcs state) (hwaits : Waits pcs state) :
    ∀ other queue', Served other queue' pcs (state.wake side queue)
      (((state.wake side queue).queues queue').counted other) := by
  intro other queue'
  have hserved := howed other queue'
  rw [counted_wake]
  split at hserved
  case isTrue hsame =>
    obtain ⟨rfl, rfl⟩ := hsame
    exact hserved.wake hwaits
  case isFalse hother => exact hserved.wake_other hother

/-- While the queue is locked, the lock counts the task that is to be woken. -/
theorem Owed.note (howed : Owed side queue pcs state) (hwaits : Waits pcs state)
    (hlock : (state.queues queue).lockCount side ≠ -1 →
      0 ≤ ((state.queues queue).lockCount side).toInt)
    (hcount : (state.queues queue).lockCount side ≠ BitVec.intMax 32) :
    ∀ other queue', Served other queue' pcs (state.note side queue)
      (((state.note side queue).queues queue').counted other) := by
  intro other queue'
  by_cases hunlocked : (state.queues queue).lockCount side = -1
  · rw [State.note, if_pos hunlocked]
    exact howed.wake hwaits other queue'
  · rw [counted_note hlock hcount]
    apply (howed other queue').mono
    · rw [State.note, if_neg hunlocked, queues_setQueue]
      split
      case isTrue hqueue =>
        rw [waiting_setLockCount, hqueue]
        exact fun _ => id
      case isFalse => exact fun _ => id
    · rw [(sameStorage_note state side queue).storage]
      by_cases hsame : queue' = queue ∧ other = side
      · obtain ⟨rfl, rfl⟩ := hsame
        rw [if_pos ⟨rfl, rfl⟩, if_pos ⟨rfl, rfl, hunlocked⟩]
      · rw [if_neg hsame, if_neg fun hboth => hsame ⟨hboth.1, hboth.2.1⟩, Nat.add_zero]

omit [DecidableEq Task] in
theorem available_setStorage {memory : ℤ → Byte} {storage : Storage} {queue' : Queue} :
    (({ state with memory := memory }.setQueue queue
      ((state.queues queue).setStorage storage)).queues queue').available side =
        if queue' = queue then storage.available side
        else (state.queues queue').available side := by
  rw [queues_setQueue]
  split <;> rfl

omit [DecidableEq Task] in
/-- There may be one more for a side, and the other side has been seen to. -/
theorem owed_setStorage {memory : ℤ → Byte} {storage : Storage}
    (hothers : ∀ other queue', ¬ (queue' = queue ∧ other = own) →
      Served other queue' pcs state ((state.queues queue').counted other))
    (hown : Served own queue pcs
      ({ state with memory := memory }.setQueue queue ((state.queues queue).setStorage storage))
      ((state.queues queue).counted own))
    (hside : ∀ other ≠ own, other = side)
    (havailable : storage.available side ≤ (state.queues queue).available side + 1) :
    Owed side queue pcs ({ state with memory := memory }.setQueue queue
      ((state.queues queue).setStorage storage)) := by
  intro other queue'
  rw [counted_setStorage]
  by_cases hsame : queue' = queue ∧ other = own
  · obtain ⟨rfl, rfl⟩ := hsame
    apply hown.mono (fun _ => id)
    omega
  · apply (hothers other queue' hsame).mono
    · rw [waiting_setStorage]
      exact fun _ => id
    · rw [available_setStorage]
      by_cases hqueue : queue' = queue
      · subst hqueue
        obtain rfl := hside other fun hown => hsame ⟨rfl, hown⟩
        rw [if_pos rfl, if_pos ⟨rfl, rfl⟩]
        omega
      · rw [if_neg hqueue, if_neg fun hboth => hqueue hboth.1]
        omega

/-- Whoever carries out an operation sees to the other side, and one who only peeks to
his own. -/
theorem served_perform {call : Call Time Queue Byte}
    (hserved : ∀ other queue', Served other queue' state.pc state
      ((state.queues queue').counted other))
    (hpc : state.pc task = .trying call)
    (hadmits : (state.queues call.xQueue).Admits call.operation) (pc : Pc Time Queue Byte)
    (hwaits : Waits (Function.update state.pc task pc) state) :
    ∀ other queue', Served other queue' (Function.update state.pc task pc)
      (state.perform call.xQueue call.operation)
      (((state.perform call.xQueue call.operation).queues queue').counted other) := by
  have hothers (other : Side) (queue' : Queue)
      (hother : ¬ (queue' = call.xQueue ∧ other = call.operation.side)) :
      Served other queue' (Function.update state.pc task pc) state
        ((state.queues queue').counted other) := by
    apply (hserved other queue').update
    rw [hpc]
    exact fun hattempts => absurd ⟨hattempts.1.symm, hattempts.2.symm⟩ hother
  rcases call with ⟨queue, operation, xTicksToWait, xTimeOut⟩
  cases operation with
  | send item xCopyPosition =>
      have havailable := available_copyDataToQueue state.memory hadmits
      apply Owed.wake
      · apply owed_setStorage hothers
        · refine (hserved .senders queue).leave 0 waiting_setStorage ?_ pc
          rw [available_setStorage, if_pos rfl]
          exact havailable.1
        · intro other hother
          cases other with
          | receivers => rfl
          | senders => exact absurd rfl hother
        · exact havailable.2
      · exact hwaits.of_same (fun _ _ => waiting_setStorage) rfl
  | receive xJustPeeking =>
      cases xJustPeeking with
      | false =>
          have havailable := available_copyDataFromQueue (state.queues queue) state.memory
          apply Owed.wake
          · apply owed_setStorage hothers
            · refine (hserved .receivers queue).leave 0 waiting_setStorage ?_ pc
              rw [available_setStorage, if_pos rfl]
              exact havailable.1
            · intro other hother
              cases other with
              | receivers => exact absurd rfl hother
              | senders => rfl
            · exact havailable.2
          · exact hwaits.of_same (fun _ _ => waiting_setStorage) rfl
      | true =>
          apply Owed.wake ?_ hwaits
          intro other queue'
          by_cases hsame : queue' = queue ∧ other = .receivers
          · obtain ⟨rfl, rfl⟩ := hsame
            rw [if_pos ⟨rfl, rfl⟩]
            exact (hserved .receivers queue').leave 1 rfl (by omega) pc
          · rw [if_neg hsame]
            exact hothers other queue' hsame

/-- Unlocking has as many tasks woken as the lock has counted. -/
theorem served_unlock (hserved : ∀ other queue', Served other queue' pcs state
      ((state.queues queue').counted other)) (hwaits : Waits pcs state) :
    ∀ other queue', Served other queue' pcs (state.unlock side queue)
      (((state.unlock side queue).queues queue').counted other) := by
  intro other queue'
  rw [counted_unlock]
  have hwoken : Served other queue' pcs
      ((fun state : State Time Task Queue Byte => state.wake side queue)^[
        (state.queues queue).counted side] state)
      (if queue' = queue ∧ other = side then 0
        else (state.queues queue').counted other) := by
    by_cases hsame : queue' = queue ∧ other = side
    · obtain ⟨rfl, rfl⟩ := hsame
      rw [if_pos ⟨rfl, rfl⟩]
      exact (hserved other queue').iterate_wake hwaits
    · rw [if_neg hsame]
      exact @iterate_wake _ _ _ _ _ _ state side queue
        (fun woken => Served other queue' pcs woken
          ((state.queues queue').counted other))
        (fun _ hwoken => hwoken.wake_other hsame) _ (hserved other queue')
  rw [unlock_eq]
  apply hwoken.mono
  · rw [queues_setQueue]
    split
    case isTrue hqueue =>
      rw [waiting_setLockCount, hqueue]
      exact fun _ => id
    case isFalse => exact fun _ => id
  · rw [queues_setQueue]
    split
    case isTrue hqueue =>
      rw [hqueue]
      cases side <;> exact le_rfl
    case isFalse => exact le_rfl

end Operations

/-! ## Runs -/

section Runs

variable [TickType Time] [DecidableEq Task] [DecidableEq Queue]
variable {state next : State Time Task Queue Byte} {uxPriority : Task → ℕ} {task : Task}
variable {created : Queue → QueueDefinition Task}

omit [TickType Time] [DecidableEq Queue] in
theorem attended_setPc {middle : State Time Task Queue Byte} {pc : Pc Time Queue Byte}
    (hothers : ∀ other ≠ task, ¬ (state.pc other).Suspends) (hpc : middle.pc = state.pc)
    (hserved : ∀ side queue, Served side queue (Function.update state.pc task pc) middle
      ((middle.queues queue).counted side))
    (hplacing : ∀ call, pc = .placing call →
      (middle.queues call.xQueue).available call.operation.side ≤
        (middle.queues call.xQueue).counted call.operation.side) :
    Attended (middle.setPc task pc) := by
  constructor
  · intro side queue
    have hnext := hserved side queue
    rw [← hpc] at hnext
    exact hnext
  · intro other call hother
    by_cases hsame : other = task
    · subst hsame
      rw [pc_setPc_self] at hother
      exact hplacing call hother
    · rw [pc_setPc_of_ne _ hsame, hpc] at hother
      refine absurd ?_ (hothers other hsame)
      rw [hother]
      trivial

omit [TickType Time] [DecidableEq Queue] in
theorem served_unblock {pcs : Task → Pc Time Queue Byte} {side : Side} {queue : Queue}
    {count : ℕ} (hserved : Served side queue pcs state count)
    (unblocked : List Task × Scheduler Time Task) :
    Served side queue pcs (state.unblock unblocked) count := by
  apply hserved.mono
  · intro task htask
    rw [State.unblock, waiting_unlink] at htask
    exact (List.mem_filter.mp htask).1
  · exact le_rfl

theorem attended_moved (hattended : Attended state) (hwaits : Waits state.pc state)
    (hlocked : Locked state) (hstored : Stored created state)
    (hrun : state.scheduler.canRun task) (hmoved : Moved uxPriority state task next) :
    Attended next := by
  have hothers : ∀ other ≠ task, ¬ (state.pc other).Suspends :=
    fun _ hother => hlocked.others hrun hother
  have hserved := hattended.served
  have hupdate {pc : Pc Time Queue Byte}
      (hkeep : ∀ side queue, (state.pc task).Attempts side queue → pc.Attempts side queue)
      (side : Side) (queue : Queue) :
      Served side queue (Function.update state.pc task pc) state
        ((state.queues queue).counted side) :=
    (hserved side queue).update (hkeep side queue)
  cases hmoved with
  | performed call hpc hcan =>
      have hfree := hwaits.free_of_running hlocked hrun (by rw [hpc]; exact id)
      refine attended_setPc hothers (pc_perform ..) ?_ (fun _ hplacing => by cases hplacing)
      exact served_perform hserved hpc (hstored.admitted task call (by rw [hpc]; rfl)) _
        (hwaits.update (.inl hfree))
  | failed call hpc hcannot | waits call hpc hcannot =>
      refine attended_setPc hothers rfl ?_ (fun _ hplacing => by cases hplacing)
      intro side queue
      by_cases hsame : queue = call.xQueue ∧ side = call.operation.side
      · obtain ⟨rfl, rfl⟩ := hsame
        refine (hserved _ _).leave 0 rfl ?_ _
        rw [available_of_cannot hcannot]
      · apply (hserved side queue).update
        rw [hpc]
        exact fun hattempts => absurd ⟨hattempts.1.symm, hattempts.2.symm⟩ hsame
  | suspended call hpc =>
      refine attended_setPc hothers rfl ?_ (fun _ hplacing => by cases hplacing)
      exact hupdate (by rw [hpc]; exact fun _ _ => False.elim)
  | locked call hpc =>
      refine attended_setPc hothers rfl ?_ (fun _ hplacing => by cases hplacing)
      intro side queue
      apply (hupdate (by rw [hpc]; exact fun _ _ => False.elim) side queue).mono
      · rw [queues_setQueue]
        split
        case isTrue hqueue =>
          rw [hqueue]
          cases side <;> exact fun _ => id
        case isFalse => exact fun _ => id
      · rw [queues_setQueue]
        split
        case isTrue hqueue =>
          rw [hqueue]
          exact Nat.add_le_add_left (counted_lock _ side) _
        case isFalse => exact le_rfl
  | expired call _ hpc | inTime call _ _ _ hpc =>
      refine attended_setPc hothers rfl ?_ (fun _ hplacing => by cases hplacing)
      exact hupdate (by rw [hpc]; exact fun _ _ => False.elim)
  | needNotWait call hpc =>
      refine attended_setPc hothers rfl ?_ (fun _ hplacing => by cases hplacing)
      exact hupdate (by rw [hpc]; exact fun _ _ => False.elim)
  | mustWait call hpc hwait =>
      refine attended_setPc hothers rfl ?_ ?_
      · exact hupdate (by rw [hpc]; exact fun _ _ => False.elim)
      · intro placing hplacing
        obtain rfl := Pc.placing.inj hplacing
        rw [available_of_mustWait hwait]
        exact Nat.zero_le _
  | placed call hpc =>
      refine attended_setPc hothers rfl ?_ (fun _ hplacing => by cases hplacing)
      intro side queue
      by_cases hsame : queue = call.xQueue ∧ side = call.operation.side
      · obtain ⟨rfl, rfl⟩ := hsame
        intro
        refine ⟨∅, fun _ hnone => absurd hnone (Finset.notMem_empty _), ?_⟩
        have hplacing := hattended.placing task call hpc
        rw [queues_setQueue, if_pos rfl, QueueDefinition.placeOnEventList,
          counted_setWaiting, available_setWaiting, Finset.card_empty, Nat.zero_add]
        exact hplacing
      · apply (hupdate (by rw [hpc]; exact fun _ _ => False.elim) side queue).mono
        · rw [queues_setQueue]
          split
          case isTrue hqueue =>
            rw [QueueDefinition.placeOnEventList, waiting_setWaiting,
              if_neg fun hside => hsame ⟨hqueue, hside⟩, hqueue]
            exact fun _ => id
          case isFalse => exact fun _ => id
        · rw [queues_setQueue]
          split
          case isTrue hqueue =>
            rw [QueueDefinition.placeOnEventList, counted_setWaiting,
              available_setWaiting, hqueue]
          case isFalse => exact le_rfl
  | unlockedTx call timedOut hpc | unlockedRx call timedOut hpc =>
      refine attended_setPc hothers pc_unlock ?_ (fun _ hplacing => by cases hplacing)
      apply served_unlock
      · apply hupdate
        rw [hpc]
        cases timedOut <;> exact fun _ _ => id
      · refine hwaits.update (.inr ?_)
        rw [hpc]
        cases timedOut <;> exact fun _ _ => id
  | resumed call timedOut hpc =>
      refine attended_setPc hothers rfl ?_ ?_
      · intro side queue
        apply served_unblock
        apply hupdate
        rw [hpc]
        cases timedOut <;> exact fun _ _ => id
      · intro placing hplacing
        cases timedOut <;> cases hplacing
  | delayed xTicksToDelay hpc =>
      refine attended_setPc hothers rfl ?_ (fun _ hplacing => by cases hplacing)
      exact hupdate (by rw [hpc]; exact fun _ _ => False.elim)
  | delayResumed hpc =>
      refine attended_setPc hothers rfl ?_ (fun _ hplacing => by cases hplacing)
      intro side queue
      apply served_unblock
      exact hupdate (by rw [hpc]; exact fun _ _ => False.elim) side queue

omit [TickType Time] in
/-- What an interrupt handler does to a queue -/
theorem attended_note (hattended : Attended state) (hwaits : Waits state.pc state)
    (hlocked : Locked state) (hcounting : Counting state) (hcan : state.CanCount)
    {own side : Side} {queue : Queue} {memory : ℤ → Byte} {storage : Storage}
    (hside : ∀ other, other = own ∨ other = side)
    (hown : storage.available own ≤ (state.queues queue).available own)
    (hmore : storage.available side ≤ (state.queues queue).available side + 1) :
    Attended (({ state with memory := memory }.setQueue queue
      ((state.queues queue).setStorage storage)).note side queue) := by
  constructor
  · rw [pc_note]
    apply Owed.note
    · apply @owed_setStorage _ _ _ _ _ _ _ own
      · exact fun other queue' _ => hattended.served other queue'
      · apply (hattended.served own queue).mono
        · rw [waiting_setStorage]
          exact fun _ => id
        · rw [available_setStorage, if_pos rfl]
          omega
      · exact fun other hother => (hside other).resolve_left hother
      · exact hmore
    · exact hwaits.of_same (fun _ _ => waiting_setStorage) rfl
    · rw [lockCount_setStorage]
      exact hcounting.nonneg hlocked
    · rw [lockCount_setStorage]
      exact hcan side queue
  · intro task call hpc
    rw [pc_note] at hpc
    have hplacing := hattended.placing task call hpc
    have hcount := hcounting call.operation.side call.xQueue task (by
      rw [show state.pc task = .placing call from hpc]
      exact rfl)
    rw [counted_note (by rw [lockCount_setStorage]; exact hcounting.nonneg hlocked)
        (by rw [lockCount_setStorage]; exact hcan side queue),
      (sameStorage_note _ side queue).storage, available_setStorage, lockCount_setStorage,
      counted_setStorage, counted_setStorage]
    by_cases hqueue : call.xQueue = queue
    · rw [hqueue] at hplacing hcount ⊢
      rw [if_pos rfl]
      by_cases hsame : call.operation.side = side
      · rw [hsame] at hplacing hcount ⊢
        have hcounts : (state.queues queue).lockCount side ≠ -1 := by
          intro hunlocked
          rw [hunlocked] at hcount
          exact absurd hcount (by decide)
        rw [if_pos ⟨rfl, rfl, hcounts⟩]
        omega
      · have hcall := (hside call.operation.side).resolve_right hsame
        rw [hcall] at hplacing ⊢
        rw [hcall] at hsame
        rw [if_neg fun hboth => hsame hboth.2.1]
        exact hown.trans hplacing
    · rw [if_neg hqueue, if_neg fun hboth => hqueue hboth.1]
      exact hplacing

theorem attended_step (hattended : Attended state) (hwaits : Waits state.pc state)
    (hlocked : Locked state) (hcounting : Counting state) (hcan : state.CanCount)
    (hstored : Stored created state) {action : Action Task Queue Byte}
    (heffect : Effect uxPriority state action next) : Attended next := by
  have hreceivers (other : Side) : other = .senders ∨ other = .receivers := by
    cases other
    case receivers => exact .inr rfl
    case senders => exact .inl rfl
  cases heffect with
  | ticked =>
      constructor
      · intro side queue
        apply served_unblock
        cases side <;> exact hattended.served _ queue
      · intro task call hpc
        have hplacing := hattended.placing task call hpc
        cases hside : call.operation.side <;> rw [hside] at hplacing <;> exact hplacing
  | called task _ _ _ _ hrun hpc | rescheduled task _ hrun hpc
  | delayBegun task _ _ hrun hpc =>
      refine attended_setPc (fun _ hother => hlocked.others hrun hother) rfl ?_
        (fun _ hplacing => by cases hplacing)
      intro side queue
      apply (hattended.served side queue).update
      rw [hpc]
      exact False.elim
  | moved task _ hrun hmoved => exact attended_moved hattended hwaits hlocked hstored hrun hmoved
  | sentFromISR queue item xCopyPosition hadmits =>
      have havailable := available_copyDataToQueue state.memory hadmits
      exact attended_note hattended hwaits hlocked hcounting hcan hreceivers
        (havailable.1.trans (Nat.sub_le _ _)) havailable.2
  | gaveFromISR queue hempty =>
      have hadmits : (state.queues queue).Admits (.send ([] : List Byte) .sendToBack) :=
        ⟨hempty.symm, fun hoverwrite => nomatch hoverwrite⟩
      have havailable := available_copyDataToQueue state.memory hadmits
      exact attended_note hattended hwaits hlocked hcounting hcan hreceivers
        (havailable.1.trans (Nat.sub_le _ _)) havailable.2
  | receivedFromISR queue =>
      have havailable := available_copyDataFromQueue (state.queues queue) state.memory
      exact attended_note hattended hwaits hlocked hcounting hcan
        (fun other => (hreceivers other).symm) (havailable.1.trans (Nat.sub_le _ _)) havailable.2
  | foundFullFromISR | gaveFullFromISR | foundEmptyFromISR => exact hattended

/-- What holds of every state that can be reached -/
structure Kept (created : Queue → QueueDefinition Task) (state : State Time Task Queue Byte) :
    Prop where
  stored : Stored created state
  waits : Waits state.pc state
  locked : Locked state

variable [DecidableEq Byte]

omit [TickType Time] [DecidableEq Task] [DecidableEq Queue] [DecidableEq Byte] in
theorem kept_initial (hcreated : Created created) (zero : Time) (memory : ℤ → Byte) :
    Kept created (initial zero created memory) :=
  ⟨stored_initial hcreated zero memory, waits_initial hcreated.waiting zero memory,
    locked_initial hcreated.lockCount zero memory⟩

theorem kept_step (hcreated : Created created) (hkept : Kept created state)
    {action : Action Task Queue Byte} (heffect : Effect uxPriority state action next) :
    Kept created next :=
  ⟨stored_step hkept.stored hcreated.apart heffect,
    waits_step hkept.waits hkept.locked heffect, locked_step hkept.locked heffect⟩

theorem kept_of_path (hcreated : Created created) {zero : Time} {memory : ℤ → Byte}
    {trace : Trace (State Time Task Queue Byte) (Action Task Queue Byte)}
    (hpath : Path (step uxPriority) (initial zero created memory) trace state) :
    Kept created state :=
  hpath.invariant (kept_initial hcreated zero memory)
    fun _ _ _ hstep hkept => kept_step hcreated hkept (step_effect hstep)

/-- What holds besides as long as no counter overflows -/
structure Accounted (created : Queue → QueueDefinition Task)
    (state : State Time Task Queue Byte) : Prop where
  kept : Kept created state
  counting : Counting state
  attended : Attended state

theorem accounted_of_path (hcreated : Created created) {zero : Time} {memory : ℤ → Byte}
    {trace : Trace (State Time Task Queue Byte) (Action Task Queue Byte)}
    (hpath : Path (step uxPriority) (initial zero created memory) trace state)
    (hcan : ∀ transition ∈ trace, transition.source.CanCount) : Accounted created state := by
  apply hpath.preserves
  · refine ⟨kept_initial hcreated zero memory, fun _ _ _ => False.elim, ?_, nofun⟩
    intro side queue hnext
    exact absurd (hcreated.waiting side queue) hnext
  · rintro transition hmem hstep ⟨hkept, hcounting, hattended⟩
    have heffect := step_effect hstep
    have hcount := hcan transition hmem
    exact ⟨kept_step hcreated hkept heffect,
      counting_step hcounting hcount hkept.locked heffect,
      attended_step hattended hkept.waits hkept.locked hcounting hcount hkept.stored heffect⟩

/-- As long as tasks wait to receive, the items in the queue are no more than the tasks on
their way to it and the wake-ups that the lock has counted; and as long as tasks wait to
send, so are the places that are free.  No counter of a lock may have overflowed. -/
theorem no_wakeUp_lost (hcreated : Created created) {zero : Time} {memory : ℤ → Byte}
    {trace : Trace (State Time Task Queue Byte) (Action Task Queue Byte)}
    (hpath : Path (step uxPriority) (initial zero created memory) trace state)
    (hcan : ∀ transition ∈ trace, transition.source.CanCount) {side : Side} {queue : Queue}
    (hwaiting : (state.queues queue).waiting side ≠ []) :
    ∃ ready : Finset Task, (∀ task ∈ ready, state.OnTheWay side queue task) ∧
      (state.queues queue).available side ≤ ready.card + (state.queues queue).counted side :=
  (accounted_of_path hcreated hpath hcan).attended.served side queue hwaiting

end Runs

/-- Two tasks wait to receive, one after the other, and then an interrupt handler sends. -/
def oneItemForTwo : List (Action Bool Unit (BitVec 8)) :=
  .call false () (.receive false) 5 :: List.replicate 9 (.run false) ++
    .call true () (.receive false) 5 :: List.replicate 9 (.run true) ++
      [.sendFromISR () [7] .sendToBack]

theorem no_wakeUp_lost_oneItemForTwo :
    ∃ run, follow (step fun _ => 3) (initial (0 : BitVec 32) twoBytes fun _ => 0)
        oneItemForTwo = some run ∧
      ∃ ready : Finset Bool, (∀ task ∈ ready, run.2.OnTheWay .receivers () task) ∧
        (run.2.queues ()).available .receivers ≤
          ready.card + (run.2.queues ()).counted .receivers := by
  refine ⟨_, (Option.some_get rfl).symm, ?_⟩
  apply no_wakeUp_lost created_twoBytes (path_of_schedule rfl)
  · rintro transition htransition (_ | _) ⟨⟩
    · revert transition
      decide +kernel
    · revert transition
      decide +kernel
  · decide +kernel

end FrequencyRelay.Queues
