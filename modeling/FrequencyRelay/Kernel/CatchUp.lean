import FrequencyRelay.Kernel.OneShotService
import FrequencyRelay.Kernel.Punctuality

/-!
# The timer service catches up

Left alone with timers that do not reload, the service empties its queue, has the callbacks
called of all timers that are due, and goes to sleep.  A timer without commands is neither
forgotten nor called back twice, and one that is started too late is called back too.
-/

namespace FrequencyRelay.Timers

open FrequencyRelay.Runs
open FrequencyRelay.SortedInsertion
open FrequencyRelay.Ticks

section Work

variable {Time Timer Sender : Type*} [TickType Time]

/-- The service will find that the tick count has wrapped around. -/
def wrapWork (xTickCount xLastTime : Time) : ℕ :=
  if shown xTickCount < shown xLastTime then 20 else 0

/-- The work left where the service is. -/
def State.pcWork (state : State Time Timer Sender) : ServicePc Time Timer → ℕ
  | .nextExpireTime => wrapWork state.xTickCount state.xLastTime + 3
  | .sampleTimeNow (.processTimer _) => wrapWork state.xTickCount state.xLastTime + 2
  | .sampleTimeNow (.receivedCommand _) => wrapWork state.xTickCount state.xLastTime + 17
  | .switchTimerLists xTimeNow (.processTimer _) => wrapWork state.xTickCount xTimeNow + 5
  | .switchTimerLists xTimeNow (.receivedCommand _) => wrapWork state.xTickCount xTimeNow + 16
  | .receiveCommand =>
      wrapWork state.xTickCount state.xLastTime + if state.xTimerQueue = [] then 4 else 1
  | .expiredTimer _ _ => wrapWork state.xTickCount state.xLastTime
  | .obeyCommand _ _ => wrapWork state.xTickCount state.xLastTime + 15
  | .blocked _ _ | .switchReload _ _ _ | .restart _ _ => 0

/-- The work left for the service: a message may put a timer into a list, and a timer in
a list expires. -/
def State.work (state : State Time Timer Sender) : ℕ :=
  20 * state.xTimerQueue.length +
    10 * (state.pxCurrentTimerList.length + state.pxOverflowTimerList.length) +
      state.pcWork state.pc

variable [DecidableEq Timer] {state next : State Time Timer Sender}

omit [DecidableEq Timer] in
theorem length_placed {item : ListItem Time Timer} {xTimeNow : Time}
    {current overflow placedCurrent placedOverflow : List (ListItem Time Timer)}
    (hplaced : Placed item xTimeNow current overflow placedCurrent placedOverflow) :
    placedCurrent.length + placedOverflow.length = current.length + overflow.length + 1 := by
  cases hplaced with
  | current | overflow =>
      rw [length_insertByKey]
      omega

omit [DecidableEq Timer] in
theorem pcWork_receiveCommand_le (state : State Time Timer Sender) :
    state.pcWork .receiveCommand ≤ wrapWork state.xTickCount state.xLastTime + 4 := by
  rw [State.pcWork]
  split <;> omega

theorem work_served (hinv : ∀ timer, OneShot timer state) (hserved : Served state next) :
    next.work < state.work := by
  have hreceive := pcWork_receiveCommand_le next
  have honce := fun timer => (hinv timer).once
  have hnow : ∀ time : Time, wrapWork time time = 0 := fun time => by
    rw [wrapWork, if_neg (BitVec.lt_irrefl _)]
  unfold State.work
  cases hserved with
  | queried hpc =>
      rw [hpc]
      simp only [State.pcWork]
      omega
  | wrapped caller hpc hwrapped =>
      rw [hpc]
      cases caller with
      | processTimer | receivedCommand =>
          simp only [State.pcWork, hnow]
          rw [wrapWork, if_pos hwrapped]
          omega
  | due expireTime hpc hsame | slept next hpc hsame =>
      rw [hpc]
      simp only [State.pcWork, hnow]
      omega
  | stayed next hpc hsame hahead hwaiting =>
      rw [hpc]
      simp only [State.pcWork, hnow, if_neg hwaiting]
      omega
  | sampled message hpc hsame =>
      rw [hpc]
      simp only [State.pcWork, hnow]
      omega
  | switchCalled now caller item rest hpc hcurrent =>
      rw [hpc, hcurrent]
      simp only [honce, Bool.false_eq_true, if_false, List.length_cons]
      cases caller with
      | processTimer | receivedCommand =>
          simp only [State.pcWork]
          omega
  | switchReinserted item now caller hpc | switchResent item now caller hpc =>
      exact absurd rfl ((hinv item.pvOwner).reloads item now caller hpc)
  | switched now caller hpc hcurrent =>
      rw [hpc, hcurrent]
      cases caller with
      | processTimer =>
          simp only [Caller.switched, List.length_nil] at hreceive ⊢
          simp only [State.pcWork] at hreceive ⊢
          omega
      | receivedCommand =>
          simp only [Caller.switched, State.pcWork, List.length_nil]
          omega
  | expired next now item rest hpc hcurrent =>
      rw [hpc, hcurrent]
      simp only [State.pcWork, List.length_cons] at hreceive ⊢
      omega
  | expiredPlaced next now item rest _ _ _ _ hreload
  | expiredResent next now item rest _ _ hreload =>
      exact absurd ((honce item.pvOwner).symm.trans hreload) Bool.false_ne_true
  | emptied hpc hempty =>
      rw [hpc]
      simp only [State.pcWork, if_pos hempty]
      omega
  | received message messages hpc hqueue =>
      have hcurrent := List.length_filter_le
        (fun item => item.pvOwner ≠ message.pxTimer) state.pxCurrentTimerList
      have hoverflow := List.length_filter_le
        (fun item => item.pvOwner ≠ message.pxTimer) state.pxOverflowTimerList
      rw [hpc, hqueue]
      simp only [State.pcWork, State.listRemove, List.length_cons, hqueue, reduceCtorEq,
        if_false]
      omega
  | started timer value now current overflow hpc hahead hplaced =>
      have hlength := length_placed hplaced
      rw [hpc]
      simp only [State.pcWork] at hreceive ⊢
      omega
  | startedLate timer value now hpc =>
      rw [hpc]
      simp only [honce, Bool.false_eq_true, if_false] at hreceive ⊢
      simp only [State.pcWork] at hreceive ⊢
      omega
  | periodChanged timer period now current overflow hpc hplaced =>
      have hlength : current.length + overflow.length ≤
          state.pxCurrentTimerList.length + state.pxOverflowTimerList.length + 1 := by
        rcases hplaced with ⟨-, hplaced⟩ | ⟨-, rfl, rfl⟩
        · exact (length_placed hplaced).le
        · exact Nat.le_succ _
      rw [hpc]
      simp only [State.pcWork] at hreceive ⊢
      omega
  | stopped message now hpc =>
      rw [hpc]
      simp only [State.pcWork] at hreceive ⊢
      omega
  | restarted timer value hpc => exact absurd hpc ((hinv timer).restarts value)

end Work

section Rest

variable {Timer Sender : Type*} [DecidableEq Timer] {base : ℕ} {state next : State ℕ Timer Sender}

theorem Ordered.lastTime_le (hordered : Ordered base state) (hserved : Served state next) :
    state.xLastTime ≤ next.xLastTime := by
  cases hserved with
  | due | slept | stayed | sampled => exact hordered.sampled_le
  | switched now caller hpc =>
      have hinformed := hordered.informed
      rw [hpc] at hinformed
      have hsampled := hordered.sampled_turn
      have hnow := hinformed.1
      unfold WrappedTime.InTurn at hsampled hnow
      simp only
      omega
  | _ => exact le_refl _

/-- A service without timers that reload sends itself nothing. -/
theorem not_reloads (hinv : ∀ timer, OneShot timer state) (message : Message ℕ Timer) :
    ¬ state.Reloads message := by
  intro hreloads
  rw [State.Reloads] at hreloads
  split at hreloads
  case h_1 item now caller hpc => exact (hinv item.pvOwner).reloads item now caller hpc rfl
  case h_2 next now hpc =>
    obtain ⟨item, -, hreload, -⟩ := hreloads
    exact Bool.false_ne_true ((hinv item.pvOwner).once.symm.trans hreload)
  case h_3 timer value hpc => exact (hinv timer).restarts value hpc
  case h_4 => exact hreloads

theorem Timely.served (htimely : Timely state) (hordered : Ordered base state)
    (hinv : ∀ timer, OneShot timer state) (hserved : Served state next) : Timely next where
  sampled := by
    rw [tickCount_served hserved]
    have hlater := hordered.lastTime_le hserved
    have hsampled := htimely.sampled
    omega
  issued message time hunderway hstart := by
    rw [tickCount_served hserved]
    have hbefore := (underway_served hserved hunderway).resolve_right (not_reloads hinv message)
    exact htimely.issued message time hbefore hstart

/-- The service goes on unless it is asleep. -/
theorem Ordered.serve_isSome (hordered : Ordered base state)
    (hawake : ∀ since xTicksToWait, state.pc ≠ .blocked since xTicksToWait) :
    ∃ next, state.serve = some next := by
  rw [State.serve]
  split
  case h_5 next now hpc =>
    have hinformed := hordered.informed
    rw [hpc, ServicePc.Informed] at hinformed
    obtain ⟨-, -, hfirst⟩ := hinformed
    rw [State.processExpiredTimer]
    split
    case h_1 hnil =>
      rw [hnil] at hfirst
      cases hfirst
    case h_2 => exact ⟨_, rfl⟩
  case h_6 since ticks hpc => exact absurd hpc (hawake since ticks)
  all_goals exact ⟨_, rfl⟩

/-! ## What the service is left with -/

/-- A message that the service has still to carry out -/
def State.Queued (state : State ℕ Timer Sender) (message : Message ℕ Timer) : Prop :=
  message ∈ state.xTimerQueue ∨ state.pc.message = some message

def State.Commanded (state : State ℕ Timer Sender) (timer : Timer) : Prop :=
  ∃ message, state.Queued message ∧ message.pxTimer = timer

/-- The items of all timers, in the order in which they expire -/
def State.items (state : State ℕ Timer Sender) : List (ListItem ℕ Timer) :=
  state.pxCurrentTimerList ++ state.pxOverflowTimerList

/-- The callbacks that are due for a timer -/
def dueCallbacks (timer : Timer) (xTickCount : ℕ) (items : List (ListItem ℕ Timer)) :
    List (Callback ℕ Timer) :=
  (items.filter fun item => item.pvOwner = timer ∧ item.xItemValue ≤ xTickCount).map
    fun item => ⟨item.pvOwner, item.xItemValue, xTickCount⟩

/-- The items of a timer that are not due -/
def itemsAhead (timer : Timer) (xTickCount : ℕ) (items : List (ListItem ℕ Timer)) :
    List (ListItem ℕ Timer) :=
  items.filter fun item => item.pvOwner = timer ∧ xTickCount < item.xItemValue

/-- The callbacks that a timer has had, and those that are due -/
def State.owed (state : State ℕ Timer Sender) (timer : Timer) : List (Callback ℕ Timer) :=
  state.callbacks.filter (fun callback => callback.timer = timer) ++
    dueCallbacks timer state.xTickCount state.items

def State.ahead (state : State ℕ Timer Sender) (timer : Timer) : List (ListItem ℕ Timer) :=
  itemsAhead timer state.xTickCount state.items

theorem queued_served (hinv : ∀ timer, OneShot timer state) (hserved : Served state next)
    {message : Message ℕ Timer} (hqueued : next.Queued message) : state.Queued message := by
  rcases hqueued with hqueue | hmessage
  · exact .inl ((queue_served hserved hqueue).resolve_right (not_reloads hinv message))
  · exact (message_served hserved hmessage).symm

section Owed

variable {timer : Timer} {items others : List (ListItem ℕ Timer)} {now : ℕ}

/-- The step has taken the first item out, which is due, and had its callback called. -/
theorem owed_of_head {item : ListItem ℕ Timer} (hitems : state.items = item :: next.items)
    (hdue : item.xItemValue ≤ state.xTickCount) (htick : next.xTickCount = state.xTickCount)
    (hcalled : next.callbacks =
      state.callbacks ++ [⟨item.pvOwner, item.xItemValue, state.xTickCount⟩]) :
    next.owed timer = state.owed timer ∧ next.ahead timer = state.ahead timer := by
  rw [State.owed, State.owed, State.ahead, State.ahead, hitems, htick, hcalled]
  simp only [dueCallbacks, itemsAhead, List.filter_append, List.filter_cons]
  by_cases howner : item.pvOwner = timer
  · simp [howner, hdue, Nat.not_lt.mpr hdue]
  · simp [howner]

/-- The step does nothing to the timer. -/
theorem owed_of_others (calls : List (Callback ℕ Timer))
    (hdue : dueCallbacks timer state.xTickCount next.items =
      dueCallbacks timer state.xTickCount state.items)
    (hahead : itemsAhead timer state.xTickCount next.items =
      itemsAhead timer state.xTickCount state.items)
    (htick : next.xTickCount = state.xTickCount)
    (hcalled : next.callbacks = state.callbacks ++ calls)
    (hcalls : ∀ callback ∈ calls, callback.timer ≠ timer) :
    next.owed timer = state.owed timer ∧ next.ahead timer = state.ahead timer := by
  have hnone : calls.filter (fun callback => callback.timer = timer) = [] := by
    simpa [List.filter_eq_nil_iff] using hcalls
  rw [State.owed, State.owed, State.ahead, State.ahead, htick, hcalled, hdue, hahead,
    List.filter_append, hnone, List.append_nil]
  exact ⟨rfl, rfl⟩

omit [DecidableEq Timer] in
theorem filter_placed {item : ListItem ℕ Timer}
    {current overflow placedCurrent placedOverflow : List (ListItem ℕ Timer)}
    (hplaced : Placed item now current overflow placedCurrent placedOverflow)
    {keeps : ListItem ℕ Timer → Bool} (hitem : ¬ keeps item) :
    (placedCurrent ++ placedOverflow).filter keeps = (current ++ overflow).filter keeps := by
  cases hplaced with
  | current | overflow =>
      simp only [List.filter_append, filter_insertByKey_of_neg hitem]

theorem owed_of_placed {item : ListItem ℕ Timer} (calls : List (Callback ℕ Timer))
    (hplaced : Placed item now state.pxCurrentTimerList state.pxOverflowTimerList
      next.pxCurrentTimerList next.pxOverflowTimerList) (howner : item.pvOwner ≠ timer)
    (htick : next.xTickCount = state.xTickCount)
    (hcalled : next.callbacks = state.callbacks ++ calls)
    (hcalls : ∀ callback ∈ calls, callback.timer ≠ timer) :
    next.owed timer = state.owed timer ∧ next.ahead timer = state.ahead timer := by
  refine owed_of_others calls ?_ (filter_placed hplaced (by simp [howner])) htick hcalled hcalls
  rw [dueCallbacks, dueCallbacks, State.items, filter_placed hplaced (by simp [howner])]
  rfl

/-- Only timers with commands lose an item without a callback. -/
theorem owed_served (hordered : Ordered base state) (hinv : ∀ timer, OneShot timer state)
    (hfree : ¬ state.Commanded timer) (hserved : Served state next) :
    next.owed timer = state.owed timer ∧ next.ahead timer = state.ahead timer := by
  have honce := fun timer => (hinv timer).once
  have hother (message : Message ℕ Timer) (hqueued : state.Queued message) :
      message.pxTimer ≠ timer := fun htimer => hfree ⟨message, hqueued, htimer⟩
  cases hserved with
  | queried | wrapped | due | slept | stayed | sampled | emptied | stopped =>
      exact ⟨rfl, rfl⟩
  | switchReinserted item now caller hpc | switchResent item now caller hpc =>
      exact absurd rfl ((hinv item.pvOwner).reloads item now caller hpc)
  | expiredPlaced next now item rest _ _ _ _ hreload
  | expiredResent next now item rest _ _ hreload =>
      exact absurd ((honce item.pvOwner).symm.trans hreload) Bool.false_ne_true
  | restarted restarted value hpc => exact absurd hpc ((hinv restarted).restarts value)
  | switchCalled now caller item rest hpc hcurrent =>
      have hinformed := hordered.informed
      rw [hpc] at hinformed
      have hturn := hordered.lists.current_turn item (by rw [hcurrent]; exact List.mem_cons_self)
      have hnow := hinformed.1
      unfold WrappedTime.InTurn at hturn hnow
      have hle := hinformed.2.1
      exact owed_of_head (by rw [State.items, hcurrent]; rfl) (by omega) rfl rfl
  | switched now caller hpc hcurrent =>
      have hitems : state.pxOverflowTimerList ++ [] = state.items := by
        rw [State.items, hcurrent, List.append_nil, List.nil_append]
      rw [State.owed, State.ahead, State.items]
      simp only [hitems]
      exact ⟨rfl, rfl⟩
  | expired expiry now item rest hpc hcurrent =>
      obtain ⟨hnow, hdue, -, hvalue⟩ := hordered.expired_head hpc hcurrent
      have hsampled := hordered.sampled_le
      exact owed_of_head (by rw [State.items, hcurrent]; rfl) (by omega) rfl rfl
  | received message messages hpc hqueue =>
      have howner := hother message
        (.inl (by rw [hqueue]; exact List.mem_cons_self))
      have hkeeps (keeps : ListItem ℕ Timer → Bool)
          (howners : ∀ item, keeps item → item.pvOwner = timer) :
          (State.listRemove message.pxTimer state.pxCurrentTimerList ++
              State.listRemove message.pxTimer state.pxOverflowTimerList).filter keeps =
            state.items.filter keeps := by
        rw [State.items, State.listRemove, State.listRemove, ← List.filter_append,
          List.filter_filter]
        apply List.filter_congr
        intro item hitem
        by_cases hitem : keeps item
        · simp [hitem, howners item hitem, Ne.symm howner]
        · simp [hitem]
      refine owed_of_others [] ?_ ?_ rfl (List.append_nil _).symm (by simp)
      · exact congrArg (List.map _)
          (hkeeps _ fun item hkept => (of_decide_eq_true hkept).1)
      · exact hkeeps _ fun item hkept => (of_decide_eq_true hkept).1
  | started started value now current overflow hpc hahead hplaced =>
      exact owed_of_placed [] hplaced
        (hother ⟨.start value, started⟩ (.inr (by rw [hpc]; rfl))) rfl
        (List.append_nil _).symm (by simp)
  | startedLate started value now hpc =>
      refine owed_of_others [_] rfl rfl rfl rfl ?_
      simpa using hother ⟨.start value, started⟩ (.inr (by rw [hpc]; rfl))
  | periodChanged changed period now current overflow hpc hplaced =>
      have howner := hother ⟨.changePeriod period, changed⟩
        (.inr (by rw [hpc]; rfl))
      rcases hplaced with ⟨-, hplaced⟩ | ⟨-, rfl, rfl⟩
      · exact owed_of_placed [] hplaced howner rfl (List.append_nil _).symm (by simp)
      · exact ⟨rfl, rfl⟩

end Owed

/-! ## Timers that are started too late -/

section Starts

variable {timer : Timer} {value : ℕ}

/-- No command that changes the period of the timer has still to be carried out. -/
def State.KeepsPeriod (state : State ℕ Timer Sender) (timer : Timer) : Prop :=
  ∀ message, state.Queued message → message.pxTimer = timer →
    ∀ xNewPeriod, message.command ≠ .changePeriod xNewPeriod

/-- The service is going to carry the message out with a sample that is not out of date. -/
def State.Awaits (state : State ℕ Timer Sender) (message : Message ℕ Timer) : Prop :=
  message ∈ state.xTimerQueue ∨ state.pc = .sampleTimeNow (.receivedCommand message) ∨
    state.pc = .switchTimerLists state.xTickCount (.receivedCommand message) ∨
      state.pc = .obeyCommand message state.xTickCount

theorem control_served (hkeeps : state.KeepsPeriod timer) (hserved : Served state next) :
    next.control timer = state.control timer := by
  cases hserved with
  | periodChanged changed period now _ _ hpc =>
      apply Function.update_of_ne
      rintro rfl
      exact hkeeps ⟨.changePeriod period, timer⟩ (.inr (by rw [hpc]; rfl)) rfl period rfl
  | _ => rfl

theorem queue_served_of_mem {message : Message ℕ Timer} (hserved : Served state next)
    (hqueue : message ∈ state.xTimerQueue) : next.Awaits message := by
  have hoffer (other : Message ℕ Timer) : message ∈ offer other state.xTimerQueue := by
    rw [offer]
    split
    · exact List.mem_append_left _ hqueue
    · exact hqueue
  cases hserved with
  | received first messages hpc hcons =>
      rw [hcons] at hqueue
      rcases List.mem_cons.mp hqueue with rfl | hrest
      · exact .inr (.inl rfl)
      · exact .inl hrest
  | switchResent | expiredResent | restarted => exact .inl (hoffer _)
  | _ => exact .inl hqueue

/-- The sample with which the service carries a command out is not out of date. -/
theorem sampling_served {message : Message ℕ Timer} (hserved : Served state next)
    (hpc : state.pc = .sampleTimeNow (.receivedCommand message)) : next.Awaits message := by
  cases hserved with
  | wrapped caller hpc' =>
      obtain rfl := ServicePc.sampleTimeNow.inj (hpc'.symm.trans hpc)
      exact .inr (.inr (.inl rfl))
  | sampled other hpc' =>
      obtain rfl := Caller.receivedCommand.inj
        (ServicePc.sampleTimeNow.inj (hpc'.symm.trans hpc))
      exact .inr (.inr (.inr rfl))
  | _ => cases hpc.symm.trans ‹state.pc = _›

/-- Nor is it after the lists have been switched. -/
theorem switching_served {message : Message ℕ Timer} (hinv : ∀ timer, OneShot timer state)
    (hserved : Served state next)
    (hpc : state.pc = .switchTimerLists state.xTickCount (.receivedCommand message)) :
    next.Awaits message := by
  cases hserved with
  | switchCalled now caller item rest hpc' =>
      obtain ⟨rfl, rfl⟩ := ServicePc.switchTimerLists.inj (hpc'.symm.trans hpc)
      simp only [State.Awaits, (hinv item.pvOwner).once, Bool.false_eq_true, if_false]
      exact .inr (.inr (.inl trivial))
  | switched now caller hpc' =>
      obtain ⟨rfl, rfl⟩ := ServicePc.switchTimerLists.inj (hpc'.symm.trans hpc)
      exact .inr (.inr (.inr rfl))
  | _ => cases hpc.symm.trans ‹state.pc = _›

/-- A start that comes too late is a callback at once. -/
theorem overdue_served (hordered : Ordered base state) (htimely : Timely state)
    (hserved : Served state next)
    (hlate : value + (state.control timer).xTimerPeriodInTicks.toNat ≤ state.xTickCount)
    (hpc : state.pc = .obeyCommand ⟨.start value, timer⟩ state.xTickCount) :
    next.callbacks = state.callbacks ++
      [⟨timer, value + (state.control timer).xTimerPeriodInTicks.toNat,
        state.xTickCount⟩] := by
  obtain ⟨hnow, hissued, hspan⟩ := hordered.start_issued htimely hpc
  have hoverdue := (processTimerNow_iff hissued hspan).mpr hlate
  cases hserved with
  | started other start now current overflow hpc' hahead =>
      obtain ⟨hmessage, rfl⟩ := ServicePc.obeyCommand.inj (hpc'.symm.trans hpc)
      obtain ⟨hcommand, rfl⟩ := Message.mk.inj hmessage
      obtain rfl := Command.start.inj hcommand
      exact absurd hoverdue hahead
  | startedLate other start now hpc' =>
      obtain ⟨hmessage, rfl⟩ := ServicePc.obeyCommand.inj (hpc'.symm.trans hpc)
      obtain ⟨hcommand, rfl⟩ := Message.mk.inj hmessage
      obtain rfl := Command.start.inj hcommand
      rfl
  | stopped message now hpc' hstop =>
      obtain ⟨rfl, rfl⟩ := ServicePc.obeyCommand.inj (hpc'.symm.trans hpc)
      simp at hstop
  | _ => cases hpc.symm.trans ‹state.pc = _›

/-- A timer that is started too late is called back when the start is carried out. -/
theorem start_served (hordered : Ordered base state) (htimely : Timely state)
    (hinv : ∀ timer, OneShot timer state) (hserved : Served state next)
    (hlate : value + (state.control timer).xTimerPeriodInTicks.toNat ≤ state.xTickCount)
    (hawaits : state.Awaits ⟨.start value, timer⟩) :
    next.Awaits ⟨.start value, timer⟩ ∨
      next.callbacks = state.callbacks ++
        [⟨timer, value + (state.control timer).xTimerPeriodInTicks.toNat,
          state.xTickCount⟩] := by
  rcases hawaits with hqueue | hsampling | hswitching | hstarting
  · exact .inl (queue_served_of_mem hserved hqueue)
  · exact .inl (sampling_served hserved hsampling)
  · exact .inl (switching_served hinv hserved hswitching)
  · exact .inr (overdue_served hordered htimely hserved hlate hstarting)

end Starts

/-! ## Until the service sleeps -/

/-- How far the service has come since it has been left alone. -/
structure Working (first state : State ℕ Timer Sender) : Prop where
  xTickCount_eq : state.xTickCount = first.xTickCount
  called : first.callbacks <+: state.callbacks
  queued : ∀ message, state.Queued message → first.Queued message
  kept : ∀ timer, ¬ first.Commanded timer →
    state.owed timer = first.owed timer ∧ state.ahead timer = first.ahead timer
  period : ∀ timer, first.KeepsPeriod timer → state.control timer = first.control timer
  started : ∀ timer value, ⟨.start value, timer⟩ ∈ first.xTimerQueue →
    first.KeepsPeriod timer →
      value + (first.control timer).xTimerPeriodInTicks.toNat ≤ first.xTickCount →
        state.Awaits ⟨.start value, timer⟩ ∨
          ⟨timer, value + (first.control timer).xTimerPeriodInTicks.toNat,
            first.xTickCount⟩ ∈ state.callbacks.drop first.callbacks.length

theorem working_refl (state : State ℕ Timer Sender) : Working state state where
  xTickCount_eq := rfl
  called := List.prefix_rfl
  queued _ := id
  kept _ _ := ⟨rfl, rfl⟩
  period _ _ := rfl
  started _ _ hqueue _ _ := .inl (.inl hqueue)

theorem Working.served {first : State ℕ Timer Sender} (hworking : Working first state)
    (hordered : Ordered base state) (htimely : Timely state)
    (hinv : ∀ timer, OneShot timer state) (hserved : Served state next) :
    Working first next := by
  have hcalls := callbacks_served hserved
  have hkeeps {timer : Timer} (hperiod : first.KeepsPeriod timer) : state.KeepsPeriod timer :=
    fun message hqueued => hperiod message (hworking.queued message hqueued)
  refine ⟨(tickCount_served hserved).trans hworking.xTickCount_eq,
    hworking.called.trans hcalls,
    fun message hqueued => hworking.queued message (queued_served hinv hserved hqueued),
    ?_, ?_, ?_⟩
  · intro timer hfree
    obtain ⟨howed, hahead⟩ := hworking.kept timer hfree
    have hstill : ¬ state.Commanded timer := by
      rintro ⟨message, hqueued, htimer⟩
      exact hfree ⟨message, hworking.queued message hqueued, htimer⟩
    obtain ⟨hnextOwed, hnextAhead⟩ := owed_served hordered hinv hstill hserved
    exact ⟨hnextOwed.trans howed, hnextAhead.trans hahead⟩
  · intro timer hperiod
    exact (control_served (hkeeps hperiod) hserved).trans (hworking.period timer hperiod)
  · intro timer value hqueue hperiod hlate
    rcases hworking.started timer value hqueue hperiod hlate with hawaits | hcalled
    · rw [← hworking.period timer hperiod, ← hworking.xTickCount_eq] at hlate
      refine (start_served hordered htimely hinv hserved hlate hawaits).imp_right fun hnew => ?_
      rw [hnew, ← hworking.period timer hperiod, ← hworking.xTickCount_eq,
        List.drop_append_of_le_length hworking.called.length_le]
      exact List.mem_append_right _ List.mem_cons_self
    · exact .inr ((hcalls.drop _).subset hcalled)

/-- What the service has done when it sleeps, with the callbacks that it has had called -/
structure CaughtUp (state finish : State ℕ Timer Sender) (called : List (Callback ℕ Timer)) :
    Prop where
  xTickCount_eq : finish.xTickCount = state.xTickCount
  queue_eq : finish.xTimerQueue = []
  asleep : ∃ since xTicksToWait, finish.pc = .blocked since xTicksToWait
  callbacks_eq : finish.callbacks = state.callbacks ++ called
  not_due : ∀ item ∈ finish.items, finish.xTickCount < item.xItemValue
  due : ∀ timer, ¬ state.Commanded timer →
    called.filter (fun callback => callback.timer = timer) =
      dueCallbacks timer state.xTickCount state.items
  ahead : ∀ timer, ¬ state.Commanded timer →
    finish.items.filter (fun item => item.pvOwner = timer) = state.ahead timer
  started : ∀ timer value, ⟨.start value, timer⟩ ∈ state.xTimerQueue →
    state.KeepsPeriod timer →
      value + (state.control timer).xTimerPeriodInTicks.toNat ≤ state.xTickCount →
        ⟨timer, value + (state.control timer).xTimerPeriodInTicks.toNat,
          state.xTickCount⟩ ∈ called

theorem Working.caughtUp {finish : State ℕ Timer Sender} (hworking : Working state finish)
    (hordered : Ordered base finish) {since : ℕ} {xTicksToWait : BitVec 32}
    (hblocked : finish.pc = .blocked since xTicksToWait) :
    ∃ called, CaughtUp state finish called := by
  have hinformed := hordered.informed
  rw [hblocked] at hinformed
  have hqueue : finish.xTimerQueue = [] := hinformed.1
  have hdue : ∀ item ∈ finish.items, finish.xTickCount < item.xItemValue :=
    hordered.not_due hblocked
  obtain ⟨called, hcalled⟩ := hworking.called
  refine ⟨called, hworking.xTickCount_eq, hqueue, ⟨since, xTicksToWait, hblocked⟩,
    hcalled.symm, hdue, ?_, ?_, ?_⟩
  · intro timer hfree
    have howed := (hworking.kept timer hfree).1
    have hnone : dueCallbacks timer finish.xTickCount finish.items = [] := by
      rw [dueCallbacks, List.map_eq_nil_iff, List.filter_eq_nil_iff]
      intro item hitem
      simpa using fun _ => hdue item hitem
    rw [State.owed, State.owed, hnone, List.append_nil, ← hcalled, List.filter_append] at howed
    exact List.append_cancel_left howed
  · intro timer hfree
    rw [← (hworking.kept timer hfree).2]
    apply List.filter_congr
    intro item hitem
    simp [hdue item hitem]
  · intro timer value hqueued hperiod hlate
    rcases hworking.started timer value hqueued hperiod hlate with hawaits | hmem
    · rw [State.Awaits, hqueue, hblocked] at hawaits
      simp at hawaits
    · rwa [← hcalled, List.drop_left] at hmem

variable [DecidableEq Sender]

theorem falls_asleep {first : State ℕ Timer Sender} (hworking : Working first state)
    (hordered : Ordered base state) (htimely : Timely state)
    (hinv : ∀ timer, OneShot timer state) :
    ∃ count trace finish base,
      follow step state (List.replicate count .service) = some (trace, finish) ∧
        Working first finish ∧ Ordered base finish ∧
          ∃ since xTicksToWait, finish.pc = .blocked since xTicksToWait := by
  induction hwork : state.work using Nat.strong_induction_on generalizing state base with
  | _ work ih =>
      by_cases hawake : ∀ since xTicksToWait, state.pc ≠ .blocked since xTicksToWait
      · obtain ⟨next, hserve⟩ := hordered.serve_isSome hawake
        have hserved := served_of_serve hserve
        have hstep : step state .service = some next := hserve
        obtain ⟨nextBase, hnext⟩ := hordered.served htimely hserved
        obtain ⟨count, trace, finish, finishBase, hfollow, hfinish⟩ :=
          ih next.work (hwork ▸ work_served hinv hserved)
            (hworking.served hordered htimely hinv hserved) hnext
            (htimely.served hordered hinv hserved)
            (fun timer => oneShot_step (hinv timer) hstep) rfl
        refine ⟨count + 1, ⟨state, .service, next⟩ :: trace, finish, finishBase, ?_, hfinish⟩
        rw [List.replicate_succ, follow, hstep, Option.bind_some, hfollow]
        rfl
      · push Not at hawake
        exact ⟨0, [], state, base, rfl, hworking, hordered, hawake⟩

/-- When nobody disturbs it, the service comes to rest with all commands carried out, the
callbacks called that were due, and no timer left that is due. -/
theorem service_catches_up {control : Timer → TimerControl}
    {trace : Trace (State ℕ Timer Sender) (Action Timer Sender)}
    (hpath : Path step (initial 0 control) trace state)
    (htimely : ∀ transition ∈ trace, Timely transition.source) (hnow : Timely state)
    (honce : ∀ timer, (control timer).uxAutoReload = false) :
    ∃ count run finish called,
      follow step state (List.replicate count .service) = some (run, finish) ∧
        CaughtUp state finish called := by
  obtain ⟨base, hordered⟩ := ordered_of_path hpath htimely
  have hinv : ∀ timer, OneShot timer state := by
    intro timer
    apply hpath.invariant (oneShot_initial (honce timer))
    intro source action target hstep hsource
    exact oneShot_step hsource hstep
  obtain ⟨count, run, finish, finishBase, hfollow, hworking, hfinish, since, ticks, hblocked⟩ :=
    falls_asleep (working_refl state) hordered hnow hinv
  obtain ⟨called, hcaught⟩ := hworking.caughtUp hfinish hblocked
  exact ⟨count, run, finish, called, hfollow, hcaught⟩

theorem service_catches_up_carriedOut :
    ∃ run, follow step (initial 0 twoTicks) (carriedOut ++ [.tick, .tick]) = some run ∧
      dueCallbacks () run.2.xTickCount run.2.items = [⟨(), 2, 2⟩] ∧
        ∃ count rest finish called,
          follow step run.2 (List.replicate count .service) = some (rest, finish) ∧
            CaughtUp run.2 finish called := by
  let run := (follow step (initial 0 twoTicks) (carriedOut ++ [.tick, .tick])).get rfl
  have hpath : Path step (initial 0 twoTicks) run.1 run.2 := path_of_schedule rfl
  have hshort : ∀ transition ∈ run.1, transition.source.xTickCount < 2 ^ 32 := by
    decide +kernel
  have hdue : dueCallbacks () run.2.xTickCount run.2.items = [⟨(), 2, 2⟩] := by decide +kernel
  exact ⟨run, (Option.some_get rfl).symm, hdue,
    service_catches_up hpath (fun transition hmem => timely_of_lt (hshort transition hmem))
      (timely_of_lt (by decide +kernel)) fun _ => rfl⟩

end Rest

end FrequencyRelay.Timers
