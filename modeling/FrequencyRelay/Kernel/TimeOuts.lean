import FrequencyRelay.Kernel.Delays
import FrequencyRelay.Kernel.EventLists
import FrequencyRelay.Kernel.QueueContents

/-!
# Time limits

Runs with true times.  A task that delays itself is blocked until the tick that it has
asked for.  A call with a time limit does not fail before the limit, and leaves its task
blocked no longer, however often the task is woken in vain and waits again for the rest.
-/

namespace FrequencyRelay.Queues

open FrequencyRelay.Runs
open FrequencyRelay.Tasks
open FrequencyRelay.Ticks

variable {Task Queue Byte : Type*} [DecidableEq Task] [DecidableEq Queue]
variable {state middle next : State ℕ Task Queue Byte}

/-! ## Who is unblocked -/

/-- Some of the tasks that waited have been woken, and nothing else has happened to the
blocked tasks. -/
structure Woke (state next : State ℕ Task Queue Byte) : Prop where
  onTime : OnTime state.scheduler → OnTime next.scheduler
  time : next.scheduler.xTickCount = state.scheduler.xTickCount
  waiting : ∀ side queue, (next.queues queue).waiting side ⊆ (state.queues queue).waiting side
  items : ∀ item ∈ next.scheduler.items, item ∈ state.scheduler.items
  woken : ∀ item ∈ state.scheduler.items, item ∈ next.scheduler.items ∨
    ∃ side queue, item.pvOwner ∈ (state.queues queue).waiting side

namespace Woke

omit [DecidableEq Task] [DecidableEq Queue] in
theorem of_same (hscheduler : next.scheduler = state.scheduler)
    (hwaiting : ∀ side queue,
      (next.queues queue).waiting side = (state.queues queue).waiting side) :
    Woke state next where
  onTime := by
    rw [hscheduler]
    exact id
  time := by rw [hscheduler]
  waiting side queue := by
    rw [hwaiting]
    exact List.Subset.refl _
  items := by
    rw [hscheduler]
    exact fun _ => id
  woken := by
    rw [hscheduler]
    exact fun _ => .inl

omit [DecidableEq Task] [DecidableEq Queue] in
theorem trans (hfirst : Woke state middle) (hsecond : Woke middle next) : Woke state next where
  onTime := hsecond.onTime ∘ hfirst.onTime
  time := hsecond.time.trans hfirst.time
  waiting side queue _ hin := hfirst.waiting side queue (hsecond.waiting side queue hin)
  items item hitem := hfirst.items item (hsecond.items item hitem)
  woken item hitem := by
    rcases hfirst.woken item hitem with hmiddle | hwoken
    · rcases hsecond.woken item hmiddle with hnext | ⟨side, queue, hwoken⟩
      · exact .inl hnext
      · exact .inr ⟨side, queue, hfirst.waiting side queue hwoken⟩
    · exact .inr hwoken

theorem wake (state : State ℕ Task Queue Byte) (side : Side) (queue : Queue) :
    Woke state (state.wake side queue) := by
  have hwaiting (other : Side) (queue' : Queue) :
      ((state.wake side queue).queues queue').waiting other ⊆
        (state.queues queue').waiting other := by
    rw [waiting_wake]
    split
    case isTrue hsame =>
      rw [hsame.1, hsame.2]
      exact List.tail_subset _
    case isFalse => exact List.Subset.refl _
  cases hlist : (state.queues queue).waiting side with
  | nil =>
      have hsame : state.wake side queue = state := by rw [State.wake, hlist]
      rw [hsame]
      exact of_same rfl fun _ _ => rfl
  | cons head tail =>
      have hscheduler : (state.wake side queue).scheduler =
          state.scheduler.removeFromEventList head := by
        rw [State.wake, hlist]
        rfl
      refine ⟨?_, ?_, hwaiting, ?_, ?_⟩
      · rw [hscheduler]
        exact fun honTime => honTime.removeFromEventList head
      · rw [hscheduler, xTickCount_removeFromEventList]
      · intro item hitem
        rw [hscheduler] at hitem
        exact (items_removeFromEventList.mp hitem).1
      · intro item hitem
        rw [hscheduler, items_removeFromEventList]
        by_cases howner : item.pvOwner = head
        · refine .inr ⟨side, queue, ?_⟩
          rw [howner, hlist]
          exact List.mem_cons_self
        · exact .inl ⟨hitem, fun _ => howner⟩

theorem note (state : State ℕ Task Queue Byte) (side : Side) (queue : Queue) :
    Woke state (state.note side queue) := by
  rw [State.note]
  split
  case isTrue => exact wake state side queue
  case isFalse =>
    refine of_same rfl ?_
    intro other queue'
    rw [queues_setQueue]
    split
    case isTrue hqueue => rw [waiting_setLockCount, hqueue]
    case isFalse => rfl

theorem perform (state : State ℕ Task Queue Byte) (queue : Queue)
    (operation : Operation Byte) : Woke state (state.perform queue operation) := by
  cases operation with
  | send item xCopyPosition =>
      refine trans ?_ (wake _ .receivers queue)
      exact of_same rfl fun _ _ => waiting_setStorage
  | receive xJustPeeking =>
      cases xJustPeeking with
      | false =>
          refine trans ?_ (wake _ .senders queue)
          exact of_same rfl fun _ _ => waiting_setStorage
      | true => exact wake state .receivers queue

theorem unlock (state : State ℕ Task Queue Byte) (side : Side) (queue : Queue) :
    Woke state (state.unlock side queue) := by
  have hwoken := @iterate_wake _ _ _ _ _ _ state side queue (Woke state)
    (fun middle hmiddle => hmiddle.trans (wake middle side queue))
    ((state.queues queue).counted side) (of_same rfl fun _ _ => rfl)
  rw [unlock_eq]
  refine hwoken.trans (of_same rfl ?_)
  intro other queue'
  rw [queues_setQueue]
  split
  case isTrue hqueue => rw [waiting_setLockCount, hqueue]
  case isFalse => rfl

omit [DecidableEq Queue] in
theorem setPc (hwoke : Woke state next) (task : Task) (pc : Pc ℕ Queue Byte) :
    Woke state (next.setPc task pc) :=
  ⟨hwoke.onTime, hwoke.time, hwoke.waiting, hwoke.items, hwoke.woken⟩

end Woke

/-! ## A step -/

/-- The ticks for which a task is going to be blocked -/
def Pc.prepared : Pc ℕ Queue Byte → Option (BitVec 32)
  | .testing call | .placing call => some call.xTicksToWait
  | .delaying xTicksToDelay => some xTicksToDelay
  | _ => none

/-- What a step does to the blocked tasks: one that has prepared for it may be blocked, and
those are unblocked that are due or that attempt an operation. -/
structure Ran (state : State ℕ Task Queue Byte) (action : Action Task Queue Byte)
    (next : State ℕ Task Queue Byte) : Prop where
  onTime : OnTime next.scheduler
  time : state.scheduler.xTickCount ≤ next.scheduler.xTickCount
  items : ∀ item ∈ next.scheduler.items, item ∈ state.scheduler.items ∨
    ∃ task ticks, action = .run task ∧ (state.pc task).prepared = some ticks ∧
      item = ⟨state.scheduler.xTickCount + ticks.toNat, task⟩
  unblocked : ∀ item ∈ state.scheduler.items, item ∈ next.scheduler.items ∨
    item.xItemValue ≤ next.scheduler.xTickCount ∨
      ∃ side queue, (state.pc item.pvOwner).Attempts side queue

/-- Whoever is going to be blocked will be so for one tick at least. -/
def Prepared (state : State ℕ Task Queue Byte) : Prop :=
  ∀ task ticks, (state.pc task).prepared = some ticks → ticks ≠ 0

section Ran

variable {uxPriority : Task → ℕ} {action : Action Task Queue Byte} {task : Task}

omit [DecidableEq Task] [DecidableEq Queue] in
theorem ran_of_woke (honTime : OnTime state.scheduler) (hwaits : Waits state.pc state)
    (hwoke : Woke state next) : Ran state action next where
  onTime := hwoke.onTime honTime
  time := hwoke.time.ge
  items _ hitem := .inl (hwoke.items _ hitem)
  unblocked item hitem := by
    rcases hwoke.woken item hitem with hnext | ⟨side, queue, hwaiting⟩
    · exact .inl hnext
    · exact .inr (.inr ⟨side, queue, hwaits.attempts side queue _ hwaiting⟩)

omit [DecidableEq Task] [DecidableEq Queue] in
theorem ran_of_same (htime : next.scheduler.xTickCount = state.scheduler.xTickCount)
    (hnext : OnTime next.scheduler) (hitems : next.scheduler.items = state.scheduler.items) :
    Ran state action next where
  onTime := hnext
  time := htime.ge
  items _ hitem := .inl (hitems ▸ hitem)
  unblocked _ hitem := .inl (hitems ▸ hitem)

omit [DecidableEq Queue] in
theorem ran_of_resumeAll (honTime : OnTime state.scheduler) (hwaits : Waits state.pc state)
    (hscheduler : next.scheduler = state.scheduler.resumeAll.2) : Ran state action next := by
  obtain ⟨hnext, htime, hitems⟩ := honTime.resumeAll
  rw [← hscheduler] at hnext htime hitems
  refine ⟨hnext, htime, ?_, ?_⟩
  · exact fun item hitem => .inl ((hitems item).mp hitem).1
  · intro item hitem
    by_cases hpending : item.pvOwner ∈ state.scheduler.xPendingReadyList
    · exact .inr (.inr (hwaits.pending _ hpending).1)
    · by_cases hlater : next.scheduler.xTickCount < item.xItemValue
      · exact .inl ((hitems item).mpr ⟨hitem, hpending, hlater⟩)
      · exact .inr (.inl (Nat.le_of_not_lt hlater))

omit [DecidableEq Task] [DecidableEq Queue] in
theorem ran_of_blocked (honTime : OnTime state.scheduler) (hprepared : Prepared state)
    {ticks : BitVec 32} (hticks : (state.pc task).prepared = some ticks)
    (hscheduler : next.scheduler =
      state.scheduler.addCurrentTaskToDelayedList task ticks) :
    Ran state (.run task) next := by
  have hnext := honTime.addCurrentTaskToDelayedList task (hprepared task ticks hticks)
  have htime := @xTickCount_addCurrentTaskToDelayedList _ state.scheduler task ticks
  rw [← hscheduler] at hnext htime
  refine ⟨hnext, htime.ge, ?_, ?_⟩
  · intro item hitem
    rw [hscheduler, items_addCurrentTaskToDelayedList] at hitem
    rcases hitem with rfl | hbefore
    · exact .inr ⟨task, ticks, rfl, hticks, rfl⟩
    · exact .inl hbefore
  · intro item hitem
    rw [hscheduler, items_addCurrentTaskToDelayedList]
    exact .inl (.inr hitem)

theorem ran_moved (honTime : OnTime state.scheduler) (hprepared : Prepared state)
    (hwaits : Waits state.pc state) (hmoved : Moved uxPriority state task next) :
    Ran state (.run task) next := by
  cases hmoved with
  | performed call => exact ran_of_woke honTime hwaits ((Woke.perform state _ _).setPc task _)
  | failed | waits | locked | expired | inTime | mustWait | needNotWait =>
      exact ran_of_same rfl honTime rfl
  | suspended => exact ran_of_same rfl (honTime.withControl ..) rfl
  | placed call hpc =>
      exact ran_of_blocked honTime hprepared (by rw [hpc]; rfl) rfl
  | unlockedTx call timedOut hpc | unlockedRx call timedOut hpc =>
      exact ran_of_woke honTime hwaits ((Woke.unlock state _ _).setPc task _)
  | resumed call timedOut hpc => exact ran_of_resumeAll honTime hwaits rfl
  | delayed xTicksToDelay hpc =>
      exact ran_of_blocked honTime hprepared (by rw [hpc]; rfl) rfl
  | delayResumed hpc => exact ran_of_resumeAll honTime hwaits rfl

theorem ran_step (honTime : OnTime state.scheduler) (hprepared : Prepared state)
    (hwaits : Waits state.pc state) (heffect : Effect uxPriority state action next) :
    Ran state action next := by
  cases heffect with
  | ticked =>
      obtain ⟨hnext, hitems⟩ := honTime.incrementTick
      refine ⟨hnext, xTickCount_incrementTick, ?_, ?_⟩
      · exact fun item hitem => .inl ((hitems item).mp hitem).1
      · intro item hitem
        by_cases hlater : state.scheduler.incrementTick.2.xTickCount < item.xItemValue
        · exact .inl ((hitems item).mpr ⟨hitem, hlater⟩)
        · exact .inr (.inl (Nat.le_of_not_lt hlater))
  | called | rescheduled | foundFullFromISR | gaveFullFromISR | foundEmptyFromISR =>
      exact ran_of_same rfl honTime rfl
  | delayBegun => exact ran_of_same rfl (honTime.withControl ..) rfl
  | moved task _ _ hmoved => exact ran_moved honTime hprepared hwaits hmoved
  | sentFromISR queue | gaveFromISR queue | receivedFromISR queue =>
      refine ran_of_woke honTime hwaits (Woke.trans ?_ (.note _ _ queue))
      exact .of_same rfl fun _ _ => waiting_setStorage

end Ran

/-! ## What is kept -/

/-- The task is about to be blocked, and has suspended the scheduler for it. -/
def Pc.Preparing : Pc ℕ Queue Byte → Prop
  | .locking _ | .checking _ | .testing _ | .placing _ | .delaying _ => True
  | _ => False

/-- The invariant.  What a task remembers of the time at which it began to wait fits the
true time. -/
structure Timed (state : State ℕ Task Queue Byte) : Prop where
  onTime : OnTime state.scheduler
  waits : Waits state.pc state
  locked : Locked state
  prepared : Prepared state
  entered : ∀ task call timeOut, (state.pc task).call = some call →
    call.xTimeOut = some timeOut → timeOut.xTimeOnEntering ≤ state.scheduler.xTickCount ∧
      timeOut.xOverflowCount = BitVec.ofNat 32 (timeOut.xTimeOnEntering / 2 ^ 32)
  unblocked : ∀ task, (state.pc task).Preparing → task ∉ state.scheduler.delayedTasks

section Timed

variable {uxPriority : Task → ℕ} {action : Action Task Queue Byte} {task : Task}

omit [DecidableEq Task] [DecidableEq Queue] in
theorem Pc.Preparing.suspends {pc : Pc ℕ Queue Byte} (hpreparing : pc.Preparing) :
    pc.Suspends := by
  cases pc with
  | returned | trying | suspending => exact hpreparing
  | _ => trivial

theorem prepared_moved (htimed : Timed state) (hmoved : Moved uxPriority state task next)
    {ticks : BitVec 32} (hticks : (next.pc task).prepared = some ticks) : ticks ≠ 0 := by
  cases hmoved with
  | performed | failed | waits | suspended | locked | expired | needNotWait | placed
  | unlockedTx | unlockedRx | delayed | delayResumed =>
      rw [pc_setPc_self] at hticks
      cases hticks
  | inTime call xTimeOut since left hpc htimeOut hcheck =>
      rw [pc_setPc_self] at hticks
      obtain rfl := Option.some.inj hticks
      have hentered := htimed.entered task call xTimeOut (by rw [hpc]; rfl) htimeOut
      exact (checkForTimeOut_some hentered.1 hcheck).2.1
  | mustWait call hpc =>
      rw [pc_setPc_self] at hticks
      exact htimed.prepared task ticks (by rw [hpc]; exact hticks)
  | resumed call timedOut =>
      rw [pc_setPc_self] at hticks
      cases timedOut <;> cases hticks

/-- A task that moves remembers the time at which it began to wait, or the present. -/
theorem entered_moved (htimed : Timed state) (hmoved : Moved uxPriority state task next)
    {call : Call ℕ Queue Byte} {timeOut : TimeOut ℕ}
    (hcall : (next.pc task).call = some call) (htimeOut : call.xTimeOut = some timeOut) :
    timeOut.xTimeOnEntering ≤ state.scheduler.xTickCount ∧
      timeOut.xOverflowCount = BitVec.ofNat 32 (timeOut.xTimeOnEntering / 2 ^ 32) := by
  have hnow : state.scheduler.setTimeOutState.xTimeOnEntering ≤ state.scheduler.xTickCount ∧
      state.scheduler.setTimeOutState.xOverflowCount =
        BitVec.ofNat 32 (state.scheduler.setTimeOutState.xTimeOnEntering / 2 ^ 32) :=
    ⟨le_rfl, htimed.onTime.overflows⟩
  have hbefore {before : Call ℕ Queue Byte} (hpc : (state.pc task).call = some before)
      (hsame : before.xTimeOut = some timeOut) := htimed.entered task before timeOut hpc hsame
  cases hmoved with
  | performed | failed | delayed | delayResumed =>
      rw [pc_setPc_self] at hcall
      cases hcall
  | waits before hpc =>
      rw [pc_setPc_self] at hcall
      obtain rfl := Option.some.inj hcall
      have hget := Option.some.inj htimeOut
      cases hsame : before.xTimeOut with
      | none =>
          rw [hsame] at hget
          rw [← hget]
          exact hnow
      | some earlier =>
          rw [hsame] at hget
          exact hbefore (by rw [hpc]; rfl) (hsame.trans (congrArg some hget))
  | inTime before xTimeOut since left hpc hbegun hcheck =>
      rw [pc_setPc_self] at hcall
      obtain rfl := Option.some.inj hcall
      have hentered := htimed.entered task before xTimeOut (by rw [hpc]; rfl) hbegun
      rw [← Option.some.inj htimeOut, (checkForTimeOut_some hentered.1 hcheck).1]
      exact hnow
  | resumed before timedOut hpc =>
      rw [pc_setPc_self] at hcall
      cases timedOut with
      | false =>
          obtain rfl := Option.some.inj hcall
          exact hbefore (by rw [hpc]; rfl) htimeOut
      | true => cases hcall
  | suspended before hpc | locked before hpc | expired before _ hpc | mustWait before hpc
  | needNotWait before hpc | placed before hpc | unlockedTx before _ hpc
  | unlockedRx before _ hpc =>
      rw [pc_setPc_self] at hcall
      obtain rfl := Option.some.inj hcall
      exact hbefore (by rw [hpc]; rfl) htimeOut

theorem prepared_step (htimed : Timed state) (heffect : Effect uxPriority state action next) :
    Prepared next := by
  intro task ticks hticks
  by_cases hactor : action.actor = some task
  case neg =>
    rw [pc_step_of_ne heffect hactor] at hticks
    exact htimed.prepared task ticks hticks
  case pos =>
    cases heffect with
    | ticked | foundFullFromISR | gaveFullFromISR | foundEmptyFromISR | sentFromISR
    | gaveFromISR | receivedFromISR => cases hactor
    | called | rescheduled =>
        obtain rfl := Option.some.inj hactor
        rw [pc_setPc_self] at hticks
        cases hticks
    | delayBegun _ _ _ _ _ hnonzero =>
        obtain rfl := Option.some.inj hactor
        rw [pc_setPc_self] at hticks
        exact Option.some.inj hticks ▸ hnonzero
    | moved _ _ _ hmoved =>
        obtain rfl := Option.some.inj hactor
        exact prepared_moved htimed hmoved hticks

theorem entered_step (htimed : Timed state) (heffect : Effect uxPriority state action next)
    {call : Call ℕ Queue Byte} {timeOut : TimeOut ℕ}
    (hcall : (next.pc task).call = some call) (htimeOut : call.xTimeOut = some timeOut) :
    timeOut.xTimeOnEntering ≤ state.scheduler.xTickCount ∧
      timeOut.xOverflowCount = BitVec.ofNat 32 (timeOut.xTimeOnEntering / 2 ^ 32) := by
  by_cases hactor : action.actor = some task
  case neg =>
    rw [pc_step_of_ne heffect hactor] at hcall
    exact htimed.entered task call timeOut hcall htimeOut
  case pos =>
    cases heffect with
    | ticked | foundFullFromISR | gaveFullFromISR | foundEmptyFromISR | sentFromISR
    | gaveFromISR | receivedFromISR => cases hactor
    | called =>
        obtain rfl := Option.some.inj hactor
        rw [pc_setPc_self] at hcall
        obtain rfl := Option.some.inj hcall
        cases htimeOut
    | rescheduled | delayBegun =>
        obtain rfl := Option.some.inj hactor
        rw [pc_setPc_self] at hcall
        cases hcall
    | moved _ _ _ hmoved =>
        obtain rfl := Option.some.inj hactor
        exact entered_moved htimed hmoved hcall htimeOut

/-- Nobody else has a task blocked that prepares for it. -/
theorem unblocked_step (htimed : Timed state) (heffect : Effect uxPriority state action next)
    (hran : Ran state action next) (hpreparing : (next.pc task).Preparing) :
    task ∉ next.scheduler.delayedTasks := by
  by_cases hactor : action.actor = some task
  case neg =>
    rw [pc_step_of_ne heffect hactor] at hpreparing
    intro hblocked
    obtain ⟨item, hitem, rfl⟩ := List.mem_map.mp hblocked
    rcases hran.items item hitem with hbefore | ⟨other, ticks, rfl, -, rfl⟩
    · exact htimed.unblocked _ hpreparing (List.mem_map_of_mem hbefore)
    · exact hactor rfl
  case pos =>
    have hrunning (hrun : state.scheduler.canRun task) (hpc : ¬ (state.pc task).Suspends) :
        task ∉ state.scheduler.delayedTasks := (htimed.locked.running hrun hpc).2
    cases heffect with
    | ticked | foundFullFromISR | gaveFullFromISR | foundEmptyFromISR | sentFromISR
    | gaveFromISR | receivedFromISR => cases hactor
    | called | rescheduled =>
        obtain rfl := Option.some.inj hactor
        rw [pc_setPc_self] at hpreparing
        exact hpreparing.elim
    | delayBegun _ _ _ hrun hpc =>
        obtain rfl := Option.some.inj hactor
        exact hrunning hrun (by rw [hpc]; exact id)
    | moved _ _ hrun hmoved =>
        obtain rfl := Option.some.inj hactor
        cases hmoved with
        | suspended call hpc => exact hrunning hrun (by rw [hpc]; exact id)
        | locked call hpc | inTime call _ _ _ hpc | mustWait call hpc =>
            exact htimed.unblocked _ (by rw [hpc]; trivial)
        | performed | failed | waits | expired | needNotWait | placed | unlockedTx
        | unlockedRx | delayed | delayResumed =>
            rw [pc_setPc_self] at hpreparing
            exact hpreparing.elim
        | resumed _ timedOut =>
            rw [pc_setPc_self] at hpreparing
            cases timedOut <;> exact hpreparing.elim

theorem timed_step (htimed : Timed state) (heffect : Effect uxPriority state action next) :
    Timed next := by
  have hran := ran_step htimed.onTime htimed.prepared htimed.waits heffect
  refine ⟨hran.onTime, waits_step htimed.waits htimed.locked heffect,
    locked_step htimed.locked heffect, prepared_step htimed heffect, ?_, ?_⟩
  · intro task call timeOut hcall htimeOut
    obtain ⟨hsince, hturn⟩ := entered_step htimed heffect hcall htimeOut
    exact ⟨hsince.trans hran.time, hturn⟩
  · exact fun task => unblocked_step htimed heffect hran

variable {created : Queue → QueueDefinition Task} {memory : ℤ → Byte}

omit [DecidableEq Task] [DecidableEq Queue] in
theorem timed_initial (hcreated : Created created) {first : ℕ} (hfirst : first < 2 ^ 32)
    (memory : ℤ → Byte) : Timed (initial first created memory) where
  onTime := onTime_initial hfirst
  waits := waits_initial hcreated.waiting first memory
  locked := locked_initial hcreated.lockCount first memory
  prepared := nofun
  entered := nofun
  unblocked _ hpreparing := hpreparing.elim

theorem timed_of_path (hcreated : Created created) {first : ℕ} (hfirst : first < 2 ^ 32)
    {trace : Trace (State ℕ Task Queue Byte) (Action Task Queue Byte)}
    (hpath : Path (step uxPriority) (initial first created memory) trace state) :
    Timed state :=
  hpath.invariant (timed_initial hcreated hfirst memory) fun _ _ _ hstep htimed =>
    timed_step htimed (step_effect hstep)

end Timed

/-! ## Delays -/

/-- The action begins a call of the task. -/
def Action.begins (task : Task) : Action Task Queue Byte → Bool
  | .call caller _ _ _ | .delay caller _ => caller = task
  | _ => false

section Delays

variable {uxPriority : Task → ℕ} {action : Action Task Queue Byte} {task : Task}
variable {created : Queue → QueueDefinition Task} {memory : ℤ → Byte}
variable {trace : Trace (State ℕ Task Queue Byte) (Action Task Queue Byte)}

/-- A task that has delayed itself until a time, and does nothing else -/
structure Delaying (task : Task) (wake : ℕ) (state : State ℕ Task Queue Byte) : Prop where
  pc : state.pc task = .resumingDelay ∨ state.pc task = .returned none
  items : ∀ item ∈ state.scheduler.items, item.pvOwner = task → item.xItemValue = wake
  blocked : state.scheduler.xTickCount < wake →
    ∃ item ∈ state.scheduler.items, item.pvOwner = task

theorem delaying_step (htimed : Timed state) {wake : ℕ} (hdelaying : Delaying task wake state)
    (hbegins : ¬ action.begins task) (heffect : Effect uxPriority state action next) :
    Delaying task wake next := by
  have hran := ran_step htimed.onTime htimed.prepared htimed.waits heffect
  have hpc : next.pc task = .resumingDelay ∨ next.pc task = .returned none := by
    by_cases hactor : action.actor = some task
    case neg =>
      rw [pc_step_of_ne heffect hactor]
      exact hdelaying.pc
    case pos =>
      cases heffect with
      | ticked | foundFullFromISR | gaveFullFromISR | foundEmptyFromISR | sentFromISR
      | gaveFromISR | receivedFromISR => cases hactor
      | called | rescheduled | delayBegun =>
          obtain rfl := Option.some.inj hactor
          exact absurd (decide_eq_true rfl) hbegins
      | moved _ _ _ hmoved =>
          obtain rfl := Option.some.inj hactor
          rcases hdelaying.pc with hbefore | hbefore
          · cases hmoved with
            | delayResumed => exact .inr (pc_setPc_self ..)
            | _ => simp_all
          · cases hmoved <;> simp_all
  refine ⟨hpc, ?_, ?_⟩
  · intro item hitem howner
    rcases hran.items item hitem with hbefore | ⟨other, ticks, -, hprepared, rfl⟩
    · exact hdelaying.items item hbefore howner
    · obtain rfl : other = task := howner
      rcases hdelaying.pc with hbefore | hbefore <;> rw [hbefore] at hprepared <;>
        cases hprepared
  · intro hearly
    obtain ⟨item, hitem, howner⟩ := hdelaying.blocked (hran.time.trans_lt hearly)
    rcases hran.unblocked item hitem with hnext | hdue | ⟨side, queue, hattempts⟩
    · exact ⟨item, hnext, howner⟩
    · rw [hdelaying.items item hitem howner] at hdue
      omega
    · rw [howner] at hattempts
      rcases hdelaying.pc with hbefore | hbefore <;> rw [hbefore] at hattempts <;>
        exact hattempts.elim

/-- A task that delays itself is blocked until the tick count has gone on by as many ticks
as it has asked for, and then it is not. -/
theorem delay_ends_on_time (hcreated : Created created)
    {before : Trace (State ℕ Task Queue Byte) (Action Task Queue Byte)}
    {start begun : State ℕ Task Queue Byte}
    (hbefore : Path (step uxPriority) (initial 0 created memory) before start)
    {xTicksToDelay : BitVec 32} (hpc : start.pc task = .delaying xTicksToDelay)
    (hstep : step uxPriority start (.run task) = some begun)
    (hrun : Path (step uxPriority) begun trace state)
    (hidle : ∀ transition ∈ trace, ¬ transition.action.begins task) :
    state.scheduler.blocked task ↔
      state.scheduler.xTickCount < start.scheduler.xTickCount + xTicksToDelay.toNat := by
  have hstart := timed_of_path hcreated (Nat.two_pow_pos 32) hbefore
  have hbegun : Delaying task (start.scheduler.xTickCount + xTicksToDelay.toNat) begun := by
    have heffect := step_effect hstep
    cases heffect with
    | moved _ _ hcanRun hmoved =>
        cases hmoved with
        | delayed ticks hdelaying =>
            obtain rfl := Pc.delaying.inj (hpc.symm.trans hdelaying)
            refine ⟨.inl (pc_setPc_self ..), ?_, ?_⟩
            · intro item hitem howner
              rcases (items_addCurrentTaskToDelayedList _).mp hitem with rfl | hitem
              · rfl
              · refine absurd ?_ (hstart.unblocked task (by rw [hpc]; trivial))
                rw [← howner]
                exact List.mem_map_of_mem hitem
            · intro
              exact ⟨_, (items_addCurrentTaskToDelayedList _).mpr (.inl rfl), rfl⟩
        | _ => simp_all
  have hnext := timed_step hstart (step_effect hstep)
  obtain ⟨htimed, hdelaying⟩ : Timed state ∧
      Delaying task (start.scheduler.xTickCount + xTicksToDelay.toNat) state := by
    apply hrun.preserves ⟨hnext, hbegun⟩
    intro transition hmem htaken hsource
    have heffect := step_effect htaken
    exact ⟨timed_step hsource.1 heffect,
      delaying_step hsource.1 hsource.2 (hidle transition hmem) heffect⟩
  rw [blocked_iff]
  constructor
  · intro hblocked
    obtain ⟨item, hitem, howner⟩ := List.mem_map.mp hblocked
    rw [← hdelaying.items item hitem howner]
    exact htimed.onTime.lt_of_mem hitem
  · intro hearly
    obtain ⟨item, hitem, rfl⟩ := hdelaying.blocked hearly
    exact List.mem_map_of_mem hitem

end Delays

theorem delay_ends_on_time_threeTicks :
    ∃ earlier, follow (step fun _ => 3)
        (initial (0 : ℕ) twoBytes fun _ => (0 : BitVec 8)) [.delay () 3] = some earlier ∧
      ∃ begun, step (fun _ => 3) earlier.2 (.run ()) = some begun ∧
        ∃ run, follow (step fun _ => 3) begun [.run (), .tick, .tick] = some run ∧
          (run.2.scheduler.blocked () ↔
            run.2.scheduler.xTickCount <
              earlier.2.scheduler.xTickCount + (3 : BitVec 32).toNat) := by
  refine ⟨_, (Option.some_get rfl).symm, _, (Option.some_get rfl).symm, _,
    (Option.some_get rfl).symm, ?_⟩
  refine @delay_ends_on_time Unit Unit (BitVec 8) _ _ _ _ _ _ _ _ created_twoBytes _ _ _
    (path_of_schedule _) _ ?_ (Option.some_get _).symm (path_of_schedule _) ?_
  · rfl
  · decide +kernel

/-! ## Calls with a time limit -/

/-- The time at which the limit of a call is over; one that has not waited yet would begin
to do so now. -/
def Call.limit (call : Call ℕ Queue Byte) (now : ℕ) : ℕ :=
  (call.xTimeOut.map TimeOut.xTimeOnEntering).getD now + call.xTicksToWait.toNat

/-- The task has not given up, unless the limit is over. -/
def Pc.NotBefore (limit now : ℕ) : Pc ℕ Queue Byte → Prop
  | .returned (some .failed) | .unlockingTx _ true | .unlockingRx _ true | .resuming _ true =>
      limit ≤ now
  | .returned _ | .delaying _ | .resumingDelay => True
  | .trying call | .suspending call | .locking call | .checking call | .testing call
  | .placing call | .unlockingTx call false | .unlockingRx call false
  | .resuming call false => limit ≤ call.limit now

section Limits

variable {uxPriority : Task → ℕ} {action : Action Task Queue Byte} {task : Task}
variable {created : Queue → QueueDefinition Task} {memory : ℤ → Byte} {limit now : ℕ}
variable {trace : Trace (State ℕ Task Queue Byte) (Action Task Queue Byte)}

omit [DecidableEq Task] [DecidableEq Queue] in
theorem Call.limit_mono {call : Call ℕ Queue Byte} {later : ℕ} (hle : now ≤ later) :
    call.limit now ≤ call.limit later := by
  rw [Call.limit, Call.limit]
  cases call.xTimeOut with
  | none => exact Nat.add_le_add_right hle _
  | some => exact le_rfl

omit [DecidableEq Task] [DecidableEq Queue] in
theorem Pc.NotBefore.mono {pc : Pc ℕ Queue Byte} {later : ℕ} (hnot : pc.NotBefore limit now)
    (hle : now ≤ later) : pc.NotBefore limit later := by
  rw [Pc.NotBefore.eq_def] at hnot ⊢
  split at hnot <;> first
    | exact hnot.trans hle
    | exact hnot.trans (Call.limit_mono hle)
    | exact hnot

theorem notBefore_moved (htimed : Timed state)
    (hnot : (state.pc task).NotBefore limit state.scheduler.xTickCount)
    (hmoved : Moved uxPriority state task next) :
    (next.pc task).NotBefore limit state.scheduler.xTickCount := by
  cases hmoved with
  | performed call hpc =>
      rw [pc_setPc_self]
      cases call.operation <;> trivial
  | failed call hpc hcannot hticks =>
      rw [hpc] at hnot
      rw [pc_setPc_self]
      apply Nat.le_trans hnot
      rw [Call.limit, hticks]
      cases hbegun : call.xTimeOut with
      | none => exact le_rfl
      | some timeOut => exact (htimed.entered task call timeOut (by rw [hpc]; rfl) hbegun).1
  | waits call hpc =>
      rw [hpc] at hnot
      rw [pc_setPc_self]
      apply Nat.le_trans hnot
      rw [Call.limit, Call.limit]
      cases call.xTimeOut <;> exact le_rfl
  | expired call timeOut hpc hbegun hcheck =>
      rw [hpc] at hnot
      rw [pc_setPc_self]
      obtain ⟨hsince, hturn⟩ := htimed.entered task call timeOut (by rw [hpc]; rfl) hbegun
      apply Nat.le_trans hnot
      rw [Call.limit, hbegun]
      exact htimed.onTime.checkForTimeOut_none hsince hturn hcheck
  | inTime call timeOut since left hpc hbegun hcheck =>
      rw [hpc] at hnot
      rw [pc_setPc_self]
      obtain ⟨hsince, -⟩ := htimed.entered task call timeOut (by rw [hpc]; rfl) hbegun
      obtain ⟨rfl, -, hlimit, -⟩ := checkForTimeOut_some hsince hcheck
      apply Nat.le_trans hnot
      rw [Call.limit, hbegun]
      exact hlimit
  | resumed call timedOut hpc =>
      rw [hpc] at hnot
      rw [pc_setPc_self]
      cases timedOut <;> exact hnot
  | unlockedTx call timedOut hpc | unlockedRx call timedOut hpc =>
      rw [hpc] at hnot
      rw [pc_setPc_self]
      cases timedOut <;> exact hnot
  | suspended call hpc | locked call hpc | mustWait call hpc | needNotWait call hpc
  | placed call hpc =>
      rw [hpc] at hnot
      rw [pc_setPc_self]
      exact hnot
  | delayed | delayResumed =>
      rw [pc_setPc_self]
      trivial

theorem notBefore_step (htimed : Timed state)
    (hnot : (state.pc task).NotBefore limit state.scheduler.xTickCount)
    (hbegins : ¬ action.begins task) (heffect : Effect uxPriority state action next) :
    (next.pc task).NotBefore limit next.scheduler.xTickCount := by
  have hran := ran_step htimed.onTime htimed.prepared htimed.waits heffect
  refine Pc.NotBefore.mono ?_ hran.time
  by_cases hactor : action.actor = some task
  case neg =>
    rw [pc_step_of_ne heffect hactor]
    exact hnot
  case pos =>
    cases heffect with
    | ticked | foundFullFromISR | gaveFullFromISR | foundEmptyFromISR | sentFromISR
    | gaveFromISR | receivedFromISR => cases hactor
    | called | rescheduled | delayBegun =>
        obtain rfl := Option.some.inj hactor
        exact absurd (decide_eq_true rfl) hbegins
    | moved _ _ _ hmoved =>
        obtain rfl := Option.some.inj hactor
        exact notBefore_moved htimed hnot hmoved

/-- A call does not fail before as many ticks have passed as it was ready to wait, however
often its task has been woken in vain. -/
theorem never_fails_early (hcreated : Created created)
    {before : Trace (State ℕ Task Queue Byte) (Action Task Queue Byte)}
    {start begun : State ℕ Task Queue Byte}
    (hbefore : Path (step uxPriority) (initial 0 created memory) before start)
    {queue : Queue} {operation : Operation Byte} {xTicksToWait : BitVec 32}
    (hcall : step uxPriority start (.call task queue operation xTicksToWait) = some begun)
    (hrun : Path (step uxPriority) begun trace state)
    (hbegins : ∀ transition ∈ trace, ¬ transition.action.begins task)
    (hfailed : state.pc task = .returned (some .failed)) :
    start.scheduler.xTickCount + xTicksToWait.toNat ≤ state.scheduler.xTickCount := by
  have hstart := timed_of_path hcreated (Nat.two_pow_pos 32) hbefore
  have hbegun : (begun.pc task).NotBefore
      (start.scheduler.xTickCount + xTicksToWait.toNat) begun.scheduler.xTickCount := by
    have heffect := step_effect hcall
    cases heffect with
    | called =>
        rw [pc_setPc_self]
        exact le_rfl
  obtain ⟨-, hnot⟩ : Timed state ∧ (state.pc task).NotBefore
      (start.scheduler.xTickCount + xTicksToWait.toNat) state.scheduler.xTickCount := by
    apply hrun.preserves ⟨timed_step hstart (step_effect hcall), hbegun⟩
    intro transition hmem htaken hsource
    have heffect := step_effect htaken
    exact ⟨timed_step hsource.1 heffect,
      notBefore_step hsource.1 hsource.2 (hbegins transition hmem) heffect⟩
  rw [hfailed] at hnot
  exact hnot

/-- The call began to wait at `since` or has been checked later, and its limit is the same. -/
def Call.Keeps (since limit : ℕ) (call : Call ℕ Queue Byte) : Prop :=
  ∃ timeOut, call.xTimeOut = some timeOut ∧ since ≤ timeOut.xTimeOnEntering ∧
    timeOut.xTimeOnEntering + call.xTicksToWait.toNat = limit

/-- A task in a call with a limit, that does nothing else afterwards -/
structure Limited (task : Task) (since limit : ℕ) (state : State ℕ Task Queue Byte) :
    Prop where
  pc : (∃ last, state.pc task = .returned last) ∨
    ∃ call, (state.pc task).call = some call ∧ call.Keeps since limit
  prepared : ∀ ticks, (state.pc task).prepared = some ticks →
    state.scheduler.xTickCount + ticks.toNat = limit
  items : ∀ item ∈ state.scheduler.items, item.pvOwner = task → item.xItemValue = limit

/-- The tick count stands still while a task prepares to be blocked. -/
theorem xTickCount_step_of_suspends (htimed : Timed state)
    (hsuspends : (state.pc task).Suspends) (hactor : action.actor ≠ some task)
    (heffect : Effect uxPriority state action next) :
    next.scheduler.xTickCount = state.scheduler.xTickCount := by
  have hnobody {other : Task} (hrun : state.scheduler.canRun other)
      (hother : some other ≠ some task) : False :=
    htimed.locked.others hrun (fun hsame => hother (congrArg some hsame.symm)) hsuspends
  cases heffect with
  | ticked =>
      have hsuspended := (htimed.locked.suspended task).mp hsuspends
      change state.scheduler.incrementTick.2.xTickCount = _
      rw [Scheduler.incrementTick, hsuspended]
  | called _ _ _ _ _ hrun | rescheduled _ _ hrun | delayBegun _ _ _ hrun | moved _ _ hrun =>
      exact (hnobody hrun hactor).elim
  | sentFromISR queue | gaveFromISR queue | receivedFromISR queue =>
      exact (Woke.note _ _ queue).time
  | foundFullFromISR | gaveFullFromISR | foundEmptyFromISR => rfl

variable {since : ℕ}

/-- Where a task is that moves, and for how long it is going to be blocked -/
theorem limited_moved (htimed : Timed state) (hlimited : Limited task since limit state)
    (hturn : state.scheduler.xTickCount < since + 2 ^ 32)
    (hmoved : Moved uxPriority state task next) :
    ((∃ last, next.pc task = .returned last) ∨
        ∃ call, (next.pc task).call = some call ∧ call.Keeps since limit) ∧
      ∀ ticks, (next.pc task).prepared = some ticks →
        next.scheduler.xTickCount + ticks.toNat = limit := by
  have hkeeps {call : Call ℕ Queue Byte} (hcall : (state.pc task).call = some call) :
      call.Keeps since limit := by
    rcases hlimited.pc with ⟨last, hreturned⟩ | ⟨same, hsame, hkeeps⟩
    · rw [hreturned] at hcall
      cases hcall
    · obtain rfl := Option.some.inj (hsame.symm.trans hcall)
      exact hkeeps
  have hinCall {pc : Pc ℕ Queue Byte} (hpc : state.pc task = pc) (hcall : pc.call = none)
      (hnot : ∀ last, pc ≠ .returned last) : False := by
    rcases hlimited.pc with ⟨last, hreturned⟩ | ⟨call, hsame, -⟩
    · exact hnot last (hpc.symm.trans hreturned)
    · rw [hpc, hcall] at hsame
      cases hsame
  cases hmoved with
  | performed | failed =>
      rw [pc_setPc_self]
      exact ⟨.inl ⟨_, rfl⟩, nofun⟩
  | waits call hpc =>
      rw [pc_setPc_self]
      obtain ⟨timeOut, hbegun, hlimit⟩ := hkeeps (by rw [hpc]; rfl)
      refine ⟨.inr ⟨_, rfl, timeOut, ?_, hlimit⟩, nofun⟩
      exact congrArg some (by rw [hbegun]; rfl)
  | inTime call timeOut entered left hpc hbegun hcheck =>
      rw [pc_setPc_self]
      obtain ⟨same, hsame, hfrom, hlimit⟩ := hkeeps (by rw [hpc]; rfl)
      obtain rfl := Option.some.inj (hsame.symm.trans hbegun)
      have hentered := (htimed.entered task call _ (by rw [hpc]; rfl) hbegun).1
      obtain ⟨rfl, -, -, hexact⟩ := checkForTimeOut_some hentered hcheck
      have hleft := (hexact (by omega)).trans hlimit
      refine ⟨.inr ⟨_, rfl, _, rfl, hfrom.trans hentered, hleft⟩, ?_⟩
      intro ticks hticks
      obtain rfl := Option.some.inj hticks
      exact hleft
  | mustWait call hpc =>
      rw [pc_setPc_self]
      refine ⟨.inr ⟨call, rfl, hkeeps (by rw [hpc]; rfl)⟩, ?_⟩
      intro ticks hticks
      exact hlimited.prepared ticks (by rw [hpc]; exact hticks)
  | resumed call timedOut hpc =>
      rw [pc_setPc_self]
      cases timedOut with
      | false => exact ⟨.inr ⟨call, rfl, hkeeps (by rw [hpc]; rfl)⟩, nofun⟩
      | true => exact ⟨.inl ⟨_, rfl⟩, nofun⟩
  | suspended call hpc | locked call hpc | expired call _ hpc | needNotWait call hpc
  | placed call hpc | unlockedTx call _ hpc | unlockedRx call _ hpc =>
      rw [pc_setPc_self]
      exact ⟨.inr ⟨call, rfl, hkeeps (by rw [hpc]; rfl)⟩, nofun⟩
  | delayed _ hpc | delayResumed hpc => exact (hinCall hpc rfl nofun).elim

theorem limited_step (htimed : Timed state) (hlimited : Limited task since limit state)
    (hturn : state.scheduler.xTickCount < since + 2 ^ 32) (hbegins : ¬ action.begins task)
    (heffect : Effect uxPriority state action next) : Limited task since limit next := by
  have hran := ran_step htimed.onTime htimed.prepared htimed.waits heffect
  have hitems : ∀ item ∈ next.scheduler.items, item.pvOwner = task →
      item.xItemValue = limit := by
    intro item hitem howner
    rcases hran.items item hitem with hbefore | ⟨other, ticks, -, hprepared, rfl⟩
    · exact hlimited.items item hbefore howner
    · obtain rfl : other = task := howner
      exact hlimited.prepared ticks hprepared
  by_cases hactor : action.actor = some task
  case neg =>
    have hpc := pc_step_of_ne heffect hactor
    refine ⟨hpc ▸ hlimited.pc, ?_, hitems⟩
    intro ticks hticks
    rw [hpc] at hticks
    have hsuspends : (state.pc task).Suspends := by
      cases hbefore : state.pc task <;> rw [hbefore] at hticks <;> trivial
    rw [xTickCount_step_of_suspends htimed hsuspends hactor heffect]
    exact hlimited.prepared ticks hticks
  case pos =>
    cases heffect with
    | ticked | foundFullFromISR | gaveFullFromISR | foundEmptyFromISR | sentFromISR
    | gaveFromISR | receivedFromISR => cases hactor
    | called | rescheduled | delayBegun =>
        obtain rfl := Option.some.inj hactor
        exact absurd (decide_eq_true rfl) hbegins
    | moved _ _ _ hmoved =>
        obtain rfl := Option.some.inj hactor
        obtain ⟨hpc, hprepared⟩ := limited_moved htimed hlimited hturn hmoved
        exact ⟨hpc, hprepared, hitems⟩

/-- However often a call has its task blocked again for the rest of the time, the task is
not blocked any more as soon as the limit is over that was set when it began to wait.  This
is so for a turn of the tick count from then on. -/
theorem never_blocked_past_limit (hcreated : Created created)
    {before : Trace (State ℕ Task Queue Byte) (Action Task Queue Byte)}
    {start begun : State ℕ Task Queue Byte}
    (hbefore : Path (step uxPriority) (initial 0 created memory) before start)
    {call waiting : Call ℕ Queue Byte} (hpc : start.pc task = .trying call)
    (hnew : call.xTimeOut = none) (hstep : step uxPriority start (.run task) = some begun)
    (hwaits : begun.pc task = .suspending waiting)
    (hrun : Path (step uxPriority) begun trace state)
    (hbegins : ∀ transition ∈ trace, ¬ transition.action.begins task)
    (hturn : state.scheduler.xTickCount < start.scheduler.xTickCount + 2 ^ 32)
    (hblocked : state.scheduler.blocked task) :
    state.scheduler.xTickCount <
      start.scheduler.xTickCount + call.xTicksToWait.toNat := by
  have hstart := timed_of_path hcreated (Nat.two_pow_pos 32) hbefore
  have hbegun : Limited task start.scheduler.xTickCount
      (start.scheduler.xTickCount + call.xTicksToWait.toNat) begun := by
    have heffect := step_effect hstep
    cases heffect with
    | moved _ _ hcanRun hmoved =>
        have hrunning := hstart.locked.running hcanRun (by rw [hpc]; exact id)
        cases hmoved with
        | waits same hsame =>
            obtain rfl := Pc.trying.inj (hpc.symm.trans hsame)
            refine ⟨.inr ?_, ?_, ?_⟩
            · rw [pc_setPc_self]
              refine ⟨_, rfl, start.scheduler.setTimeOutState, ?_, le_rfl, rfl⟩
              exact congrArg some (by rw [hnew]; rfl)
            · rw [pc_setPc_self]
              exact nofun
            · intro item hitem howner
              refine absurd ?_ hrunning.2
              rw [← howner]
              exact List.mem_map_of_mem hitem
        | performed | failed =>
            rw [pc_setPc_self] at hwaits
            cases hwaits
        | _ => simp_all
  obtain ⟨htimed, hlimited⟩ : Timed state ∧
      (state.scheduler.xTickCount < start.scheduler.xTickCount + 2 ^ 32 →
        Limited task start.scheduler.xTickCount
          (start.scheduler.xTickCount + call.xTicksToWait.toNat) state) := by
    apply hrun.preserves ⟨timed_step hstart (step_effect hstep), fun _ => hbegun⟩
    intro transition hmem htaken hsource
    have heffect := step_effect htaken
    refine ⟨timed_step hsource.1 heffect, ?_⟩
    intro hlater
    have htime := (ran_step hsource.1.onTime hsource.1.prepared hsource.1.waits heffect).time
    have hearlier := htime.trans_lt hlater
    exact limited_step hsource.1 (hsource.2 hearlier) hearlier (hbegins transition hmem) heffect
  obtain ⟨item, hitem, howner⟩ := List.mem_map.mp (blocked_iff.mp hblocked)
  rw [← (hlimited hturn).items item hitem howner]
  exact htimed.onTime.lt_of_mem hitem

end Limits

theorem never_fails_early_twoTicks :
    ∃ begun, step (fun _ => 3) (initial (0 : ℕ) twoBytes fun _ => (0 : BitVec 8))
        (.call () () (.receive false) 2) = some begun ∧
      ∃ run, follow (step fun _ => 3) begun
          (List.replicate 9 (.run ()) ++ [.tick, .tick] ++ List.replicate 7 (.run ())) =
            some run ∧
        0 + (2 : BitVec 32).toNat ≤ run.2.scheduler.xTickCount := by
  refine ⟨_, (Option.some_get rfl).symm, _, (Option.some_get rfl).symm, ?_⟩
  refine never_fails_early created_twoBytes .nil (Option.some_get _).symm
    (path_of_schedule _) ?_ rfl
  decide +kernel

theorem never_blocked_past_limit_fiveTicks :
    ∃ earlier, follow (step fun _ => 3)
        (initial (0 : ℕ) twoBytes fun _ => (0 : BitVec 8)) [.call () () (.receive false) 5] =
          some earlier ∧
      ∃ begun, step (fun _ => 3) earlier.2 (.run ()) = some begun ∧
        ∃ run, follow (step fun _ => 3) begun (List.replicate 8 (.run ()) ++ [.tick]) =
            some run ∧
          run.2.scheduler.xTickCount <
            earlier.2.scheduler.xTickCount + (5 : BitVec 32).toNat := by
  refine ⟨_, (Option.some_get rfl).symm, _, (Option.some_get rfl).symm, _,
    (Option.some_get rfl).symm, ?_⟩
  refine @never_blocked_past_limit Unit Unit (BitVec 8) _ _ _ _ _ _ _ _ created_twoBytes _ _ _
    (path_of_schedule _) ⟨(), .receive false, 5, none⟩
    ⟨(), .receive false, 5, some ⟨0, 0⟩⟩ ?_ ?_ (Option.some_get _).symm ?_
    (path_of_schedule _) ?_ ?_ ?_
  · rfl
  · rfl
  · rfl
  · decide +kernel
  · decide +kernel
  · decide +kernel

end FrequencyRelay.Queues
