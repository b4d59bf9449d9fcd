import FrequencyRelay.Kernel.Timers

/-!
# What a step of the timer service does

The steps of the service with the conditions under which it makes them.  An invariant is
proved for each of them; how the functions of the service are written does not matter then.
-/

namespace FrequencyRelay.Timers

open FrequencyRelay.SortedInsertion
open FrequencyRelay.Ticks

variable {Time Timer Sender : Type*} [TickType Time]

/-- `prvInsertTimerInActiveList` has a timer processed at once. -/
def ProcessTimerNow (period : BitVec 32) (xNextExpiryTime xTimeNow xCommandTime : Time) :
    Prop :=
  if shown xNextExpiryTime ≤ shown xTimeNow then
    period ≤ shown xTimeNow - shown xCommandTime
  else shown xTimeNow < shown xCommandTime ∧ shown xCommandTime ≤ shown xNextExpiryTime

/-- The lists after `prvInsertTimerInActiveList` has put an item into one of them. -/
inductive Placed (item : ListItem Time Timer) (xTimeNow : Time)
    (current overflow : List (ListItem Time Timer)) :
    List (ListItem Time Timer) → List (ListItem Time Timer) → Prop
  | current (hlater : shown xTimeNow < shown item.xItemValue) :
      Placed item xTimeNow current overflow (insertByKey itemKey item current) overflow
  | overflow (hshown : shown item.xItemValue ≤ shown xTimeNow) :
      Placed item xTimeNow current overflow current (insertByKey itemKey item overflow)

/-- The message that the caller of `prvSampleTimeNow` is working on -/
def Caller.message : Caller Time Timer → Option (Message Time Timer)
  | .processTimer _ => none
  | .receivedCommand xMessage => some xMessage

/-- The message that the service has received and not yet carried out -/
def ServicePc.message : ServicePc Time Timer → Option (Message Time Timer)
  | .sampleTimeNow caller => caller.message
  | .switchTimerLists _ caller => caller.message
  | .switchReload _ _ caller => caller.message
  | .obeyCommand xMessage _ => some xMessage
  | _ => none

theorem message_tick (pc : ServicePc Time Timer) (xTickCount : Time) :
    (pc.tick xTickCount).message = pc.message := by
  cases pc with
  | blocked =>
      simp only [ServicePc.tick, apply_ite ServicePc.message]
      simp only [ServicePc.message, ite_self]
  | _ => rfl

omit [TickType Time] in
theorem message_ready (pc : ServicePc Time Timer) : pc.ready.message = pc.message := by
  cases pc <;> rfl

/-- Where the service goes on when the lists have been switched. -/
def Caller.switched (xTimeNow : Time) : Caller Time Timer → ServicePc Time Timer
  | .processTimer _ => .receiveCommand
  | .receivedCommand xMessage => .obeyCommand xMessage xTimeNow

/-- What a step of the service does. -/
inductive Served [DecidableEq Timer] (state : State Time Timer Sender) :
    State Time Timer Sender → Prop
  | queried (hpc : state.pc = .nextExpireTime) :
      Served state { state with
        pc := .sampleTimeNow (.processTimer
          (state.pxCurrentTimerList.head?.map ListItem.xItemValue)) }
  | wrapped (caller : Caller Time Timer) (hpc : state.pc = .sampleTimeNow caller)
      (hwrapped : shown state.xTickCount < shown state.xLastTime) :
      Served state { state with pc := .switchTimerLists state.xTickCount caller }
  | due (expireTime : Time)
      (hpc : state.pc = .sampleTimeNow (.processTimer (some expireTime)))
      (hsame : ¬ shown state.xTickCount < shown state.xLastTime)
      (hdue : shown expireTime ≤ shown state.xTickCount) :
      Served state { state with
        xLastTime := state.xTickCount
        pc := .expiredTimer expireTime state.xTickCount }
  | slept (xNextExpireTime : Option Time)
      (hpc : state.pc = .sampleTimeNow (.processTimer xNextExpireTime))
      (hsame : ¬ shown state.xTickCount < shown state.xLastTime)
      (hahead : ∀ expireTime, xNextExpireTime = some expireTime →
        ¬ shown expireTime ≤ shown state.xTickCount)
      (hempty : state.xTimerQueue = []) :
      Served state { state with
        xLastTime := state.xTickCount
        pc := .blocked state.xTickCount
          (xNextExpireTime.elim 0 shown - shown state.xTickCount) }
  | stayed (xNextExpireTime : Option Time)
      (hpc : state.pc = .sampleTimeNow (.processTimer xNextExpireTime))
      (hsame : ¬ shown state.xTickCount < shown state.xLastTime)
      (hahead : ∀ expireTime, xNextExpireTime = some expireTime →
        ¬ shown expireTime ≤ shown state.xTickCount)
      (hwaiting : state.xTimerQueue ≠ []) :
      Served state { state with
        xLastTime := state.xTickCount
        pc := .receiveCommand }
  | sampled (message : Message Time Timer)
      (hpc : state.pc = .sampleTimeNow (.receivedCommand message))
      (hsame : ¬ shown state.xTickCount < shown state.xLastTime) :
      Served state { state with
        xLastTime := state.xTickCount
        pc := .obeyCommand message state.xTickCount }
  | switchCalled (xTimeNow : Time) (caller : Caller Time Timer) (item : ListItem Time Timer)
      (rest : List (ListItem Time Timer)) (hpc : state.pc = .switchTimerLists xTimeNow caller)
      (hcurrent : state.pxCurrentTimerList = item :: rest) :
      Served state { state with
        pxCurrentTimerList := rest
        pc :=
          if (state.control item.pvOwner).uxAutoReload then
            .switchReload item xTimeNow caller
          else .switchTimerLists xTimeNow caller
        callbacks :=
          state.callbacks ++ [⟨item.pvOwner, item.xItemValue, state.xTickCount⟩] }
  | switchReinserted (item : ListItem Time Timer) (xTimeNow : Time)
      (caller : Caller Time Timer) (hpc : state.pc = .switchReload item xTimeNow caller)
      (hreload : shown item.xItemValue <
        shown (later item.xItemValue (state.control item.pvOwner).xTimerPeriodInTicks)) :
      Served state { state with
        pxCurrentTimerList := insertByKey itemKey
          ⟨later item.xItemValue (state.control item.pvOwner).xTimerPeriodInTicks,
            item.pvOwner⟩ state.pxCurrentTimerList
        pc := .switchTimerLists xTimeNow caller }
  | switchResent (item : ListItem Time Timer) (xTimeNow : Time)
      (caller : Caller Time Timer) (hpc : state.pc = .switchReload item xTimeNow caller)
      (hwrapped : ¬ shown item.xItemValue <
        shown (later item.xItemValue (state.control item.pvOwner).xTimerPeriodInTicks)) :
      Served state { state with
        xTimerQueue := offer ⟨.start item.xItemValue, item.pvOwner⟩ state.xTimerQueue
        pc := .switchTimerLists xTimeNow caller }
  | switched (xTimeNow : Time) (caller : Caller Time Timer)
      (hpc : state.pc = .switchTimerLists xTimeNow caller)
      (hcurrent : state.pxCurrentTimerList = []) :
      Served state { state with
        pxCurrentTimerList := state.pxOverflowTimerList
        pxOverflowTimerList := []
        xLastTime := xTimeNow
        pc := caller.switched xTimeNow }
  | expired (xNextExpireTime xTimeNow : Time) (item : ListItem Time Timer)
      (rest : List (ListItem Time Timer))
      (hpc : state.pc = .expiredTimer xNextExpireTime xTimeNow)
      (hcurrent : state.pxCurrentTimerList = item :: rest)
      (honce : (state.control item.pvOwner).uxAutoReload = false) :
      Served state { state with
        pxCurrentTimerList := rest
        pc := .receiveCommand
        callbacks :=
          state.callbacks ++ [⟨item.pvOwner, item.xItemValue, state.xTickCount⟩] }
  | expiredPlaced (xNextExpireTime xTimeNow : Time) (item : ListItem Time Timer)
      (rest current overflow : List (ListItem Time Timer))
      (hpc : state.pc = .expiredTimer xNextExpireTime xTimeNow)
      (hcurrent : state.pxCurrentTimerList = item :: rest)
      (hreload : (state.control item.pvOwner).uxAutoReload = true)
      (hahead : ¬ ProcessTimerNow (state.control item.pvOwner).xTimerPeriodInTicks
        (later xNextExpireTime (state.control item.pvOwner).xTimerPeriodInTicks) xTimeNow
        xNextExpireTime)
      (hplaced : Placed
        ⟨later xNextExpireTime (state.control item.pvOwner).xTimerPeriodInTicks, item.pvOwner⟩
        xTimeNow rest state.pxOverflowTimerList current overflow) :
      Served state { state with
        pxCurrentTimerList := current
        pxOverflowTimerList := overflow
        pc := .receiveCommand
        callbacks :=
          state.callbacks ++ [⟨item.pvOwner, item.xItemValue, state.xTickCount⟩] }
  | expiredResent (xNextExpireTime xTimeNow : Time) (item : ListItem Time Timer)
      (rest : List (ListItem Time Timer))
      (hpc : state.pc = .expiredTimer xNextExpireTime xTimeNow)
      (hcurrent : state.pxCurrentTimerList = item :: rest)
      (hreload : (state.control item.pvOwner).uxAutoReload = true)
      (hnow : ProcessTimerNow (state.control item.pvOwner).xTimerPeriodInTicks
        (later xNextExpireTime (state.control item.pvOwner).xTimerPeriodInTicks) xTimeNow
        xNextExpireTime) :
      Served state { state with
        pxCurrentTimerList := rest
        xTimerQueue := offer ⟨.start xNextExpireTime, item.pvOwner⟩ state.xTimerQueue
        pc := .receiveCommand
        callbacks :=
          state.callbacks ++ [⟨item.pvOwner, item.xItemValue, state.xTickCount⟩] }
  | emptied (hpc : state.pc = .receiveCommand) (hempty : state.xTimerQueue = []) :
      Served state { state with pc := .nextExpireTime }
  | received (message : Message Time Timer) (messages : List (Message Time Timer))
      (hpc : state.pc = .receiveCommand) (hqueue : state.xTimerQueue = message :: messages) :
      Served state { state with
        xTimerQueue := messages
        pxCurrentTimerList := State.listRemove message.pxTimer state.pxCurrentTimerList
        pxOverflowTimerList := State.listRemove message.pxTimer state.pxOverflowTimerList
        pc := .sampleTimeNow (.receivedCommand message) }
  | started (timer : Timer) (xMessageValue xTimeNow : Time)
      (current overflow : List (ListItem Time Timer))
      (hpc : state.pc = .obeyCommand ⟨.start xMessageValue, timer⟩ xTimeNow)
      (hahead : ¬ ProcessTimerNow (state.control timer).xTimerPeriodInTicks
        (later xMessageValue (state.control timer).xTimerPeriodInTicks) xTimeNow
        xMessageValue)
      (hplaced : Placed
        ⟨later xMessageValue (state.control timer).xTimerPeriodInTicks, timer⟩ xTimeNow
        state.pxCurrentTimerList state.pxOverflowTimerList current overflow) :
      Served state { state with
        pxCurrentTimerList := current
        pxOverflowTimerList := overflow
        pc := .receiveCommand }
  | startedLate (timer : Timer) (xMessageValue xTimeNow : Time)
      (hpc : state.pc = .obeyCommand ⟨.start xMessageValue, timer⟩ xTimeNow)
      (hnow : ProcessTimerNow (state.control timer).xTimerPeriodInTicks
        (later xMessageValue (state.control timer).xTimerPeriodInTicks) xTimeNow
        xMessageValue) :
      Served state { state with
        pc :=
          if (state.control timer).uxAutoReload then .restart timer xMessageValue
          else .receiveCommand
        callbacks :=
          state.callbacks ++
            [⟨timer, later xMessageValue (state.control timer).xTimerPeriodInTicks,
              state.xTickCount⟩] }
  | periodChanged (timer : Timer) (xNewPeriod : BitVec 32) (xTimeNow : Time)
      (current overflow : List (ListItem Time Timer))
      (hpc : state.pc = .obeyCommand ⟨.changePeriod xNewPeriod, timer⟩ xTimeNow)
      (hplaced :
        ¬ ProcessTimerNow xNewPeriod (later xTimeNow xNewPeriod) xTimeNow xTimeNow ∧
            Placed ⟨later xTimeNow xNewPeriod, timer⟩ xTimeNow state.pxCurrentTimerList
              state.pxOverflowTimerList current overflow ∨
          ProcessTimerNow xNewPeriod (later xTimeNow xNewPeriod) xTimeNow xTimeNow ∧
            current = state.pxCurrentTimerList ∧ overflow = state.pxOverflowTimerList) :
      Served state { state with
        control := Function.update state.control timer
          ⟨xNewPeriod, (state.control timer).uxAutoReload⟩
        pxCurrentTimerList := current
        pxOverflowTimerList := overflow
        pc := .receiveCommand }
  | stopped (message : Message Time Timer) (xTimeNow : Time)
      (hpc : state.pc = .obeyCommand message xTimeNow)
      (hstop : message.command = .stop ∨ message.command = .delete) :
      Served state { state with pc := .receiveCommand }
  | restarted (timer : Timer) (xMessageValue : Time)
      (hpc : state.pc = .restart timer xMessageValue) :
      Served state { state with
        xTimerQueue :=
          offer ⟨.start (later xMessageValue (state.control timer).xTimerPeriodInTicks), timer⟩
            state.xTimerQueue
        pc := .receiveCommand }

theorem insertTimerInActiveList_eq (state : State Time Timer Sender) (timer : Timer)
    (xNextExpiryTime xTimeNow xCommandTime : Time) :
    ProcessTimerNow (state.control timer).xTimerPeriodInTicks xNextExpiryTime xTimeNow
          xCommandTime ∧
        state.insertTimerInActiveList timer xNextExpiryTime xTimeNow xCommandTime =
          (true, state) ∨
      ∃ current overflow,
        ¬ ProcessTimerNow (state.control timer).xTimerPeriodInTicks xNextExpiryTime xTimeNow
            xCommandTime ∧
          Placed ⟨xNextExpiryTime, timer⟩ xTimeNow state.pxCurrentTimerList
            state.pxOverflowTimerList current overflow ∧
          state.insertTimerInActiveList timer xNextExpiryTime xTimeNow xCommandTime =
            (false, { state with
              pxCurrentTimerList := current, pxOverflowTimerList := overflow }) := by
  unfold ProcessTimerNow State.insertTimerInActiveList
  by_cases hexpiry : shown xNextExpiryTime ≤ shown xTimeNow
  · simp only [if_pos hexpiry]
    split
    case isTrue hperiod => exact .inl ⟨hperiod, rfl⟩
    case isFalse hperiod => exact .inr ⟨_, _, hperiod, .overflow hexpiry, rfl⟩
  · simp only [if_neg hexpiry]
    split
    case isTrue hwrapped => exact .inl ⟨hwrapped, rfl⟩
    case isFalse hwrapped =>
      exact .inr ⟨_, _, hwrapped, .current (BitVec.not_le.mp hexpiry), rfl⟩

variable [DecidableEq Timer] {state next : State Time Timer Sender}

theorem served_sampleTimeNow {caller : Caller Time Timer}
    (hpc : state.pc = .sampleTimeNow caller) : Served state (state.sampleTimeNow caller) := by
  rw [State.sampleTimeNow]
  split
  case isTrue hwrapped => exact .wrapped caller hpc hwrapped
  case isFalse hsame =>
    cases caller with
    | receivedCommand message => exact .sampled message hpc hsame
    | processTimer xNextExpireTime =>
        have hwait : ∀ hahead : ∀ expireTime, xNextExpireTime = some expireTime →
              ¬ shown expireTime ≤ shown state.xTickCount,
            Served state ({ state with xLastTime := state.xTickCount }.waitForMessage
              state.xTickCount (xNextExpireTime.elim 0 shown - shown state.xTickCount)) := by
          intro hahead
          rw [State.waitForMessage]
          split
          case h_1 hempty => exact .slept xNextExpireTime hpc hsame hahead hempty
          case h_2 hqueue =>
            exact .stayed xNextExpireTime hpc hsame hahead fun hempty =>
              List.cons_ne_nil _ _ (hqueue.symm.trans hempty)
        cases xNextExpireTime with
        | none => exact hwait (by simp)
        | some expireTime =>
            simp only [State.returnTimeNow, Bool.false_eq_true, if_false,
              State.processTimerOrBlockTask]
            split
            case isTrue hdue => exact .due expireTime hpc hsame hdue
            case isFalse hahead =>
              apply hwait
              intro other hother
              rwa [← Option.some.inj hother]

theorem served_switchTimerLists {xTimeNow : Time} {caller : Caller Time Timer}
    (hpc : state.pc = .switchTimerLists xTimeNow caller) :
    Served state (state.switchTimerLists xTimeNow caller) := by
  rw [State.switchTimerLists]
  split
  case h_1 hcurrent =>
    have hswitched := Served.switched xTimeNow caller hpc hcurrent
    cases caller with
    | processTimer => exact hswitched
    | receivedCommand => exact hswitched
  case h_2 item rest hcurrent => exact .switchCalled xTimeNow caller item rest hpc hcurrent

theorem served_switchReload {item : ListItem Time Timer} {xTimeNow : Time}
    {caller : Caller Time Timer} (hpc : state.pc = .switchReload item xTimeNow caller) :
    Served state (state.switchReload item xTimeNow caller) := by
  simp only [State.switchReload]
  split
  case isTrue hreload => exact .switchReinserted item xTimeNow caller hpc hreload
  case isFalse hwrapped => exact .switchResent item xTimeNow caller hpc hwrapped

theorem served_processExpiredTimer {xNextExpireTime xTimeNow : Time}
    (hpc : state.pc = .expiredTimer xNextExpireTime xTimeNow)
    (hnext : state.processExpiredTimer xNextExpireTime xTimeNow = some next) :
    Served state next := by
  rw [State.processExpiredTimer] at hnext
  split at hnext
  case h_1 => cases hnext
  case h_2 item rest hcurrent =>
    obtain rfl := Option.some.inj hnext
    split
    case isFalse honce =>
      exact .expired xNextExpireTime xTimeNow item rest hpc hcurrent (by simpa using honce)
    case isTrue hreload =>
      rw [State.reloadTimer]
      rcases insertTimerInActiveList_eq
          { state with pxCurrentTimerList := rest, pc := .receiveCommand } item.pvOwner
          (later xNextExpireTime (state.control item.pvOwner).xTimerPeriodInTicks) xTimeNow
          xNextExpireTime with
        ⟨hnow, hinsert⟩ | ⟨current, overflow, hahead, hplaced, hinsert⟩
      · simp only [hinsert, if_true]
        exact .expiredResent xNextExpireTime xTimeNow item rest hpc hcurrent hreload hnow
      · simp only [hinsert, Bool.false_eq_true, if_false]
        exact .expiredPlaced xNextExpireTime xTimeNow item rest current overflow hpc hcurrent
          hreload hahead hplaced

theorem served_receiveCommand (hpc : state.pc = .receiveCommand) :
    Served state state.receiveCommand := by
  rw [State.receiveCommand]
  split
  case h_1 hempty => exact .emptied hpc hempty
  case h_2 message messages hqueue => exact .received message messages hpc hqueue

theorem served_obeyCommand {message : Message Time Timer} {xTimeNow : Time}
    (hpc : state.pc = .obeyCommand message xTimeNow) :
    Served state (state.obeyCommand message xTimeNow) := by
  obtain ⟨command, timer⟩ := message
  cases command with
  | stop => exact .stopped _ xTimeNow hpc (.inl rfl)
  | delete => exact .stopped _ xTimeNow hpc (.inr rfl)
  | start xMessageValue =>
      simp only [State.obeyCommand]
      rcases insertTimerInActiveList_eq state timer
          (later xMessageValue (state.control timer).xTimerPeriodInTicks) xTimeNow
          xMessageValue with
        ⟨hnow, hinsert⟩ | ⟨current, overflow, hahead, hplaced, hinsert⟩
      · simp only [hinsert, if_true]
        exact .startedLate timer xMessageValue xTimeNow hpc hnow
      · simp only [hinsert, Bool.false_eq_true, if_false]
        exact .started timer xMessageValue xTimeNow current overflow hpc hahead hplaced
  | changePeriod xNewPeriod =>
      simp only [State.obeyCommand]
      rcases insertTimerInActiveList_eq
          { state with
            control := Function.update state.control timer
              ⟨xNewPeriod, (state.control timer).uxAutoReload⟩
            pc := .receiveCommand } timer (later xTimeNow xNewPeriod) xTimeNow xTimeNow with
        ⟨hnow, hinsert⟩ | ⟨current, overflow, hahead, hplaced, hinsert⟩
      · rw [hinsert]
        simp only [Function.update_self] at hnow
        exact .periodChanged timer xNewPeriod xTimeNow _ _ hpc (.inr ⟨hnow, rfl, rfl⟩)
      · rw [hinsert]
        simp only [Function.update_self] at hahead
        exact .periodChanged timer xNewPeriod xTimeNow _ _ hpc (.inl ⟨hahead, hplaced⟩)

theorem served_of_serve (hserve : state.serve = some next) : Served state next := by
  rw [State.serve] at hserve
  split at hserve
  case h_1 hpc =>
    obtain rfl := Option.some.inj hserve
    exact .queried hpc
  case h_2 caller hpc =>
    obtain rfl := Option.some.inj hserve
    exact served_sampleTimeNow hpc
  case h_3 xTimeNow caller hpc =>
    obtain rfl := Option.some.inj hserve
    exact served_switchTimerLists hpc
  case h_4 item xTimeNow caller hpc =>
    obtain rfl := Option.some.inj hserve
    exact served_switchReload hpc
  case h_5 xNextExpireTime xTimeNow hpc => exact served_processExpiredTimer hpc hserve
  case h_6 => cases hserve
  case h_7 hpc =>
    obtain rfl := Option.some.inj hserve
    exact served_receiveCommand hpc
  case h_8 message xTimeNow hpc =>
    obtain rfl := Option.some.inj hserve
    exact served_obeyCommand hpc
  case h_9 timer xMessageValue hpc =>
    obtain rfl := Option.some.inj hserve
    exact .restarted timer xMessageValue hpc

theorem callbacks_served (hserved : Served state next) : state.callbacks <+: next.callbacks := by
  cases hserved with
  | switchCalled | expired | expiredPlaced | expiredResent | startedLate =>
      exact List.prefix_append _ _
  | _ => exact List.prefix_rfl

omit [DecidableEq Timer] in
theorem ServicePc.tick_eq_or (pc : ServicePc Time Timer) (xTickCount : Time) :
    pc.tick xTickCount = .receiveCommand ∨ pc.tick xTickCount = pc := by
  cases pc with
  | blocked since xTicksToWait =>
      rw [ServicePc.tick]
      split
      · exact .inl rfl
      · exact .inr rfl
  | _ => exact .inr rfl

omit [TickType Time] [DecidableEq Timer] in
theorem ServicePc.ready_eq_or (pc : ServicePc Time Timer) :
    pc.ready = .receiveCommand ∨ pc.ready = pc := by
  cases pc with
  | blocked => exact .inl rfl
  | _ => exact .inr rfl

/-- What a step does. -/
inductive Effect [DecidableEq Sender] (state : State Time Timer Sender) :
    Action Timer Sender → State Time Timer Sender → Prop
  | ticked : Effect state .tick state.tick
  | commanded (sender : Sender) (timer : Timer) (request : Request)
      (hidle : state.sending sender = none) :
      Effect state (.command sender timer request) { state with
        sending :=
          Function.update state.sending sender (some ⟨state.request request, timer⟩) }
  | sent (sender : Sender) (message : Message Time Timer)
      (hsending : state.sending sender = some message)
      (hroom : state.xTimerQueue.length < 10) :
      Effect state (.send sender) { state with
        xTimerQueue := state.xTimerQueue ++ [message]
        sending := Function.update state.sending sender none
        pc := state.pc.ready }
  | gaveUp (sender : Sender) (message : Message Time Timer)
      (hsending : state.sending sender = some message) :
      Effect state (.giveUp sender) { state with
        sending := Function.update state.sending sender none }
  | served (next : State Time Timer Sender) (hserved : Served state next) :
      Effect state .service next

theorem step_effect [DecidableEq Sender] {action : Action Timer Sender}
    (hstep : step state action = some next) : Effect state action next := by
  cases action with
  | tick =>
      obtain rfl := Option.some.inj hstep
      exact .ticked
  | command sender timer request =>
      rw [step, Option.ite_none_right_eq_some, Option.isNone_iff_eq_none] at hstep
      obtain ⟨hidle, hnext⟩ := hstep
      obtain rfl := Option.some.inj hnext
      exact .commanded sender timer request hidle
  | send sender =>
      simp only [step, State.send, Option.bind_eq_some_iff,
        Option.ite_none_right_eq_some] at hstep
      obtain ⟨message, hsending, hroom, hnext⟩ := hstep
      obtain rfl := Option.some.inj hnext
      exact .sent sender message hsending hroom
  | giveUp sender =>
      rw [step, Option.ite_none_right_eq_some, Option.isSome_iff_exists] at hstep
      obtain ⟨⟨message, hsending⟩, hnext⟩ := hstep
      obtain rfl := Option.some.inj hnext
      exact .gaveUp sender message hsending
  | service => exact .served next (served_of_serve hstep)

/-! ## A run -/

/-- A timer of two ticks that does not reload -/
def twoTicks : Unit → TimerControl := fun _ => ⟨2, false⟩

/-- The timer is started; the service carries out the start and goes to sleep. -/
def carriedOut : List (Action Unit Unit) :=
  [.command () () .start, .send ()] ++ List.replicate 8 .service

/-- Two ticks wake the service, and it has the callback called. -/
def calledBack : List (Action Unit Unit) :=
  carriedOut ++ [.tick, .tick] ++ List.replicate 4 .service

end FrequencyRelay.Timers
