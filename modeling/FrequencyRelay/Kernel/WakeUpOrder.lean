import FrequencyRelay.Kernel.WakeUps

/-!
# Who is woken first

The event lists are kept in the order of the priorities, and tasks of the same priority in
the order in which they came.  Tasks are woken from the front, and so nobody who waits is
overtaken by a task that came later, unless its priority is higher.
-/

namespace FrequencyRelay.Queues

open FrequencyRelay.Runs
open FrequencyRelay.SortedInsertion
open FrequencyRelay.Tasks
open FrequencyRelay.Ticks

variable {Time Task Queue Byte : Type*} [DecidableEq Task]

/-- Delays may end in this step. -/
def State.mayExpire (state : State Time Task Queue Byte) : Action Task Queue Byte → Bool
  | .tick => true
  | .run task =>
      match state.pc task with
      | .resuming _ _ | .resumingDelay => true
      | _ => false
  | _ => false

/-- What a step does to an event list: tasks are woken from the front, or one places itself
behind all whose priority is not lower, or delays end. -/
inductive Relisted (uxPriority : Task → ℕ) (expired : Bool) (before : List Task) :
    List Task → Prop
  | woken {after : List Task} (hsuffix : after <:+ before) :
      Relisted uxPriority expired before after
  | placed (task : Task) :
      Relisted uxPriority expired before
        (insertByKey (fun other => 12 - uxPriority other) task before)
  | expired (tasks : List Task) (hexpired : expired) :
      Relisted uxPriority expired before (before.filter (· ∉ tasks))

namespace Relisted

variable {uxPriority : Task → ℕ} {expired : Bool} {before after : List Task}
variable {first second : Task}

theorem ascending (hrelisted : Relisted uxPriority expired before after)
    (hbefore : Ascending (fun task => 12 - uxPriority task) before) :
    Ascending (fun task => 12 - uxPriority task) after := by
  cases hrelisted with
  | woken hsuffix => exact hbefore.sublist hsuffix.sublist
  | placed task => exact ascending_insertByKey hbefore
  | expired => exact hbefore.sublist List.filter_sublist

omit [DecidableEq Task] in
theorem pair_sublist_suffix (hsuffix : after <:+ before) (hnodup : before.Nodup)
    (hpair : [first, second].Sublist before) (hfirst : first ∈ after) :
    [first, second].Sublist after := by
  obtain ⟨woken, rfl⟩ := hsuffix
  obtain ⟨left, right, hparts, hleft, hright⟩ := List.sublist_append_iff.mp hpair
  cases left with
  | nil =>
      rw [hparts]
      exact hright
  | cons head tail =>
      obtain rfl := (List.cons.inj hparts).1
      have hwoken : first ∈ woken := hleft.subset List.mem_cons_self
      exact absurd hfirst (List.disjoint_of_nodup_append hnodup hwoken)

/-- One that comes later comes behind. -/
theorem pair_sublist (hrelisted : Relisted uxPriority expired before after)
    (hbefore : Ascending (fun task => 12 - uxPriority task) before) (hnodup : before.Nodup)
    (hpriority : uxPriority second ≤ uxPriority first) (hstill : first ∈ before)
    (hpair : second ∈ before → [first, second].Sublist before) (hfirst : first ∈ after)
    (hsecond : second ∈ after) : [first, second].Sublist after := by
  cases hrelisted with
  | woken hsuffix =>
      exact pair_sublist_suffix hsuffix hnodup (hpair (hsuffix.subset hsecond)) hfirst
  | placed task =>
      rcases mem_insertByKey.mp hsecond with rfl | hin
      · exact pair_sublist_insertByKey hbefore hstill (Nat.sub_le_sub_left hpriority 12)
      · exact (hpair hin).trans (sublist_insertByKey task before)
  | expired tasks =>
      have hkeep := (hpair (List.mem_of_mem_filter hsecond)).filter (· ∉ tasks)
      have hall : [first, second].filter (fun task => decide (task ∉ tasks)) =
          [first, second] := by
        apply List.filter_eq_self.mpr
        intro task htask
        rcases List.mem_pair.mp htask with rfl | rfl
        · exact (List.mem_filter.mp hfirst).2
        · exact (List.mem_filter.mp hsecond).2
      rwa [hall] at hkeep

/-- One that stands behind is not woken before. -/
theorem still_waits (hrelisted : Relisted uxPriority false before after)
    (hnodup : before.Nodup) (hpair : [first, second].Sublist before) (hfirst : first ∈ after) :
    second ∈ after := by
  cases hrelisted with
  | woken hsuffix =>
      exact (pair_sublist_suffix hsuffix hnodup hpair hfirst).subset (by simp)
  | placed task => exact mem_insertByKey.mpr (.inr (hpair.subset (by simp)))
  | expired _ hexpired => cases hexpired

end Relisted

section Steps

variable [DecidableEq Queue] {state next : State Time Task Queue Byte}
variable {side other : Side} {queue queue' : Queue}

theorem suffix_wake :
    ((state.wake side queue).queues queue').waiting other <:+
      (state.queues queue').waiting other := by
  rw [waiting_wake]
  split
  case isTrue hsame =>
    rw [hsame.1, hsame.2]
    exact List.tail_suffix _
  case isFalse => exact List.suffix_rfl

omit [DecidableEq Task] in
theorem suffix_setStorage {memory : ℤ → Byte} {storage : Storage} :
    (({ state with memory := memory }.setQueue queue
      ((state.queues queue).setStorage storage)).queues queue').waiting other <:+
        (state.queues queue').waiting other := by
  rw [waiting_setStorage]

theorem suffix_perform (operation : Operation Byte) :
    ((state.perform queue operation).queues queue').waiting other <:+
      (state.queues queue').waiting other := by
  cases operation with
  | send => exact suffix_wake.trans suffix_setStorage
  | receive xJustPeeking =>
      cases xJustPeeking with
      | false => exact suffix_wake.trans suffix_setStorage
      | true => exact suffix_wake

theorem suffix_note :
    ((state.note side queue).queues queue').waiting other <:+
      (state.queues queue').waiting other := by
  rw [State.note]
  split
  case isTrue => exact suffix_wake
  case isFalse =>
    rw [queues_setQueue]
    split
    case isTrue hqueue => rw [waiting_setLockCount, hqueue]
    case isFalse => exact List.suffix_rfl

theorem suffix_unlock :
    ((state.unlock side queue).queues queue').waiting other <:+
      (state.queues queue').waiting other := by
  have hwoken := @iterate_wake _ _ _ _ _ _ state side queue
    (fun woken => (woken.queues queue').waiting other <:+ (state.queues queue').waiting other)
    (fun _ hwoken => suffix_wake.trans hwoken)
    ((state.queues queue).counted side) List.suffix_rfl
  rw [unlock_eq, queues_setQueue]
  split
  case isTrue hqueue =>
    rw [waiting_setLockCount]
    rw [hqueue] at hwoken ⊢
    exact hwoken
  case isFalse => exact hwoken

variable [TickType Time] {uxPriority : Task → ℕ}

theorem relisted_moved {task : Task} (hmoved : Moved uxPriority state task next) (side : Side)
    (queue : Queue) :
    Relisted uxPriority (state.mayExpire (.run task)) ((state.queues queue).waiting side)
      ((next.queues queue).waiting side) := by
  cases hmoved with
  | performed call => exact .woken (suffix_perform _)
  | failed | waits | suspended | expired | inTime | mustWait | needNotWait | delayed =>
      exact .woken List.suffix_rfl
  | locked call =>
      change Relisted _ _ _ (((state.setQueue _ _).queues queue).waiting side)
      rw [queues_setQueue]
      split
      case isTrue hqueue =>
        rw [hqueue]
        cases side <;> exact .woken List.suffix_rfl
      case isFalse => exact .woken List.suffix_rfl
  | placed call =>
      change Relisted _ _ _ (((State.setQueue _ _ _).queues queue).waiting side)
      rw [queues_setQueue]
      split
      case isTrue hqueue =>
        rw [QueueDefinition.placeOnEventList, waiting_setWaiting, hqueue]
        split
        case isTrue hside =>
          rw [hside]
          exact .placed task
        case isFalse => exact .woken List.suffix_rfl
      case isFalse => exact .woken List.suffix_rfl
  | unlockedTx call | unlockedRx call => exact .woken suffix_unlock
  | resumed call timedOut hpc =>
      change Relisted _ _ _ (((state.queues queue).unlink _).waiting side)
      rw [waiting_unlink]
      exact .expired _ (by rw [State.mayExpire, hpc])
  | delayResumed hpc =>
      change Relisted _ _ _ (((state.queues queue).unlink _).waiting side)
      rw [waiting_unlink]
      exact .expired _ (by rw [State.mayExpire, hpc])

theorem relisted_step {action : Action Task Queue Byte}
    (heffect : Effect uxPriority state action next) (side : Side) (queue : Queue) :
    Relisted uxPriority (state.mayExpire action) ((state.queues queue).waiting side)
      ((next.queues queue).waiting side) := by
  cases heffect with
  | ticked =>
      rw [State.unblock, waiting_unlink]
      exact .expired _ rfl
  | called | rescheduled | delayBegun | foundFullFromISR | gaveFullFromISR
  | foundEmptyFromISR => exact .woken List.suffix_rfl
  | moved task _ _ hmoved => exact relisted_moved hmoved side queue
  | sentFromISR | gaveFromISR | receivedFromISR =>
      exact .woken (suffix_note.trans suffix_setStorage)

end Steps

section Runs

variable [TickType Time] [DecidableEq Queue] [DecidableEq Byte]
variable {uxPriority : Task → ℕ} {start state next : State Time Task Queue Byte}
variable {created : Queue → QueueDefinition Task}

omit [DecidableEq Byte] in
theorem ascending_of_path (hcreated : Created created) {zero : Time} {memory : ℤ → Byte}
    {trace : Trace (State Time Task Queue Byte) (Action Task Queue Byte)}
    (hpath : Path (step uxPriority) (initial zero created memory) trace state) (side : Side)
    (queue : Queue) :
    Ascending (fun task => 12 - uxPriority task) ((state.queues queue).waiting side) := by
  apply hpath.invariant
  · change Ascending _ ((created queue).waiting side)
    rw [hcreated.waiting]
    exact List.Pairwise.nil
  · intro source action target hstep
    exact (relisted_step (step_effect hstep) side queue).ascending

/-- A task that waits is not overtaken: as long as it waits, no task is woken that has come
later and whose priority is not higher. -/
theorem first_come_first_served (hcreated : Created created) {zero : Time}
    {memory : ℤ → Byte}
    {before trace : Trace (State Time Task Queue Byte) (Action Task Queue Byte)}
    (hbefore : Path (step uxPriority) (initial zero created memory) before start)
    (hrun : Path (step uxPriority) start trace state) {side : Side} {queue : Queue}
    (first second : Task) (hpriority : uxPriority second ≤ uxPriority first)
    (hwaits : ∀ passed ∈ visited start trace, first ∈ (passed.queues queue).waiting side)
    (hlater : second ∉ (start.queues queue).waiting side) {action : Action Task Queue Byte}
    (hstep : step uxPriority state action = some next) (hexpire : ¬ state.mayExpire action)
    (hsecond : second ∈ (state.queues queue).waiting side)
    (hfirst : first ∈ (next.queues queue).waiting side) :
    second ∈ (next.queues queue).waiting side := by
  have hkept (passed : State Time Task Queue Byte)
      (hreach : Reachable (step uxPriority) start passed) :
      Ascending (fun task => 12 - uxPriority task) ((passed.queues queue).waiting side) ∧
        ((passed.queues queue).waiting side).Nodup := by
    obtain ⟨after, hafter⟩ := hreach
    have hpath := path_append_iff.mpr ⟨start, hbefore, hafter⟩
    exact ⟨ascending_of_path hcreated hpath side queue,
      (kept_of_path hcreated hpath).waits.nodup side queue⟩
  have hpair : second ∈ (state.queues queue).waiting side →
      [first, second].Sublist ((state.queues queue).waiting side) := by
    apply hrun.preserves
    · exact fun hin => absurd hin hlater
    · intro transition hmem htaken hsource htarget
      obtain ⟨hascending, hnodup⟩ :=
        hkept transition.source (hrun.source_of_mem hmem).1
      have hstill : transition.source ∈ visited start trace := by
        obtain ⟨left, right, rfl⟩ := List.append_of_mem hmem
        exact hrun.source_mem_visited
      have hnow : transition.target ∈ visited start trace :=
        List.mem_cons_of_mem _ (List.mem_map_of_mem hmem)
      exact (relisted_step (step_effect htaken) side queue).pair_sublist hascending hnodup
        hpriority (hwaits _ hstill) hsource (hwaits _ hnow) htarget
  have hrelisted := relisted_step (step_effect hstep) side queue
  rw [Bool.not_eq_true] at hexpire
  rw [hexpire] at hrelisted
  exact hrelisted.still_waits (hkept state ⟨trace, hrun⟩).2 (hpair hsecond) hfirst

end Runs

/-- A task begins to wait to receive. -/
def waitToReceive (task : Fin 3) : List (Action (Fin 3) Unit (BitVec 8)) :=
  .call task () (.receive false) 5 :: List.replicate 9 (.run task)

theorem first_come_first_served_threeWait :
    ∃ earlier run, follow (step fun _ => 3) (initial (0 : BitVec 32) twoBytes fun _ => 0)
        (waitToReceive 0 ++ waitToReceive 1) = some earlier ∧
      follow (step fun _ => 3) earlier.2 (waitToReceive 2) = some run ∧
        ∃ next, step (fun _ => 3) run.2 (.sendFromISR () [7] .sendToBack) = some next ∧
          2 ∈ (next.queues ()).waiting .receivers := by
  refine ⟨_, _, (Option.some_get rfl).symm, (Option.some_get rfl).symm, _,
    (Option.some_get rfl).symm, ?_⟩
  refine first_come_first_served created_twoBytes (path_of_schedule rfl)
    (path_of_schedule rfl) 1 2 le_rfl ?_ ?_ (Option.some_get rfl).symm ?_ ?_ ?_ <;>
    decide +kernel

end FrequencyRelay.Queues
