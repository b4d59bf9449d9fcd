import FrequencyRelay.Kernel.Timers

/-!
# The timer service with true times

The program only reads the words of its times, so the service with true times makes the
same steps.  Every run of the program is the view of a run with true times, which can say
when something happened however often the tick count has wrapped around.
-/

namespace FrequencyRelay.Timers

open FrequencyRelay.Runs
open FrequencyRelay.SortedInsertion
open FrequencyRelay.Ticks

variable {Time Timer Sender : Type*} [TickType Time]

/-- With its times as the program sees them -/
def Command.seen : Command Time → Command (BitVec 32)
  | .start xMessageValue => .start (shown xMessageValue)
  | .stop => .stop
  | .changePeriod xMessageValue => .changePeriod xMessageValue
  | .delete => .delete

def Message.seen (message : Message Time Timer) : Message (BitVec 32) Timer :=
  ⟨message.command.seen, message.pxTimer⟩

def Callback.seen (callback : Callback Time Timer) : Callback (BitVec 32) Timer :=
  ⟨callback.timer, shown callback.due, shown callback.called⟩

def Caller.seen : Caller Time Timer → Caller (BitVec 32) Timer
  | .processTimer xNextExpireTime => .processTimer (xNextExpireTime.map shown)
  | .receivedCommand xMessage => .receivedCommand xMessage.seen

def ServicePc.seen : ServicePc Time Timer → ServicePc (BitVec 32) Timer
  | .nextExpireTime => .nextExpireTime
  | .sampleTimeNow caller => .sampleTimeNow caller.seen
  | .switchTimerLists xTimeNow caller => .switchTimerLists (shown xTimeNow) caller.seen
  | .switchReload item xTimeNow caller =>
      .switchReload item.seen (shown xTimeNow) caller.seen
  | .expiredTimer xNextExpireTime xTimeNow =>
      .expiredTimer (shown xNextExpireTime) (shown xTimeNow)
  | .blocked since xTicksToWait => .blocked (shown since) xTicksToWait
  | .receiveCommand => .receiveCommand
  | .obeyCommand xMessage xTimeNow => .obeyCommand xMessage.seen (shown xTimeNow)
  | .restart pxTimer xMessageValue => .restart pxTimer (shown xMessageValue)

def State.seen (state : State Time Timer Sender) : State (BitVec 32) Timer Sender where
  xTickCount := shown state.xTickCount
  xLastTime := shown state.xLastTime
  control := state.control
  pxCurrentTimerList := state.pxCurrentTimerList.map ListItem.seen
  pxOverflowTimerList := state.pxOverflowTimerList.map ListItem.seen
  xTimerQueue := state.xTimerQueue.map Message.seen
  sending sender := (state.sending sender).map Message.seen
  pc := state.pc.seen
  callbacks := state.callbacks.map Callback.seen

namespace State

variable (state : State Time Timer Sender)

theorem genericCommand_seen (message : Message Time Timer) :
    state.seen.genericCommand message.seen = (state.genericCommand message).seen := by
  by_cases hroom : state.xTimerQueue.length < 10
  · simp [genericCommand, offer, seen, hroom]
  · simp [genericCommand, offer, seen, hroom]

theorem insertTimerInActiveList_seen (timer : Timer)
    (xNextExpiryTime xTimeNow xCommandTime : Time) :
    state.seen.insertTimerInActiveList timer (shown xNextExpiryTime) (shown xTimeNow)
        (shown xCommandTime) =
      Prod.map id State.seen
        (state.insertTimerInActiveList timer xNextExpiryTime xTimeNow xCommandTime) := by
  simp only [insertTimerInActiveList, apply_ite (Prod.map id State.seen), Prod.map_apply,
    seen, map_seen_insertByKey]
  rfl

theorem waitForMessage_seen (xTimeNow : Time) (xTicksToWait : BitVec 32) :
    state.seen.waitForMessage (shown xTimeNow) xTicksToWait =
      (state.waitForMessage xTimeNow xTicksToWait).seen := by
  unfold waitForMessage
  cases hqueue : state.xTimerQueue <;> simp [seen, hqueue, ServicePc.seen]

theorem returnTimeNow_seen (xTimeNow : Time) (listsWereSwitched : Bool)
    (caller : Caller Time Timer) :
    state.seen.returnTimeNow (shown xTimeNow) listsWereSwitched caller.seen =
      (state.returnTimeNow xTimeNow listsWereSwitched caller).seen := by
  cases caller with
  | receivedCommand message => rfl
  | processTimer xNextExpireTime =>
      cases listsWereSwitched with
      | true => rfl
      | false =>
          have hwait := waitForMessage_seen { state with xLastTime := xTimeNow } xTimeNow
          cases xNextExpireTime with
          | none => exact hwait _
          | some expireTime =>
              simp only [returnTimeNow, Caller.seen, processTimerOrBlockTask,
                Option.map_some, shown_word, Bool.false_eq_true, if_false]
              split
              · rfl
              · exact hwait _

theorem sampleTimeNow_seen (caller : Caller Time Timer) :
    state.seen.sampleTimeNow caller.seen = (state.sampleTimeNow caller).seen := by
  rw [sampleTimeNow, sampleTimeNow, apply_ite State.seen, ← returnTimeNow_seen]
  rfl

theorem callCallback_seen (timer : Timer) (due : Time) :
    state.seen.callCallback timer (shown due) = (state.callCallback timer due).seen := by
  simp [callCallback, seen, Callback.seen]

theorem switchTimerLists_seen (xTimeNow : Time) (caller : Caller Time Timer) :
    state.seen.switchTimerLists (shown xTimeNow) caller.seen =
      (state.switchTimerLists xTimeNow caller).seen := by
  unfold switchTimerLists
  cases hcurrent : state.pxCurrentTimerList with
  | nil =>
      rw [← returnTimeNow_seen]
      simp [seen, hcurrent]
  | cons item rest =>
      rw [← callCallback_seen]
      simp only [seen, hcurrent, List.map_cons, apply_ite ServicePc.seen]
      rfl

theorem switchReload_seen (item : ListItem Time Timer) (xTimeNow : Time)
    (caller : Caller Time Timer) :
    state.seen.switchReload item.seen (shown xTimeNow) caller.seen =
      (state.switchReload item xTimeNow caller).seen := by
  simp only [switchReload, apply_ite State.seen, ← genericCommand_seen]
  simp only [seen, map_seen_insertByKey, ListItem.seen, shown_later]
  rfl

theorem reloadTimer_seen (timer : Timer) (xNextExpireTime xTimeNow : Time) :
    state.seen.reloadTimer timer (shown xNextExpireTime) (shown xTimeNow) =
      (state.reloadTimer timer xNextExpireTime xTimeNow).seen := by
  have hdue : later (shown xNextExpireTime) (state.seen.control timer).xTimerPeriodInTicks =
      shown (later xNextExpireTime (state.control timer).xTimerPeriodInTicks) :=
    (shown_later _ _).symm
  simp only [reloadTimer, hdue, insertTimerInActiveList_seen, Prod.map_fst, Prod.map_snd,
    id, apply_ite State.seen, ← genericCommand_seen]
  rfl

theorem processExpiredTimer_seen (xNextExpireTime xTimeNow : Time) :
    state.seen.processExpiredTimer (shown xNextExpireTime) (shown xTimeNow) =
      (state.processExpiredTimer xNextExpireTime xTimeNow).map State.seen := by
  unfold processExpiredTimer
  cases hcurrent : state.pxCurrentTimerList with
  | nil => simp [seen, hcurrent]
  | cons item rest =>
      simp only [Option.map_some, ← callCallback_seen, apply_ite State.seen,
        ← reloadTimer_seen]
      simp only [seen, hcurrent, List.map_cons]
      rfl

variable [DecidableEq Timer]

theorem map_seen_listRemove (timer : Timer) (items : List (ListItem Time Timer)) :
    (listRemove timer items).map ListItem.seen = listRemove timer (items.map ListItem.seen) := by
  rw [listRemove, listRemove, List.filter_map]
  rfl

theorem receiveCommand_seen : state.seen.receiveCommand = state.receiveCommand.seen := by
  unfold receiveCommand
  cases hqueue : state.xTimerQueue with
  | nil => simp [seen, hqueue, ServicePc.seen]
  | cons message messages =>
      simp only [seen, hqueue, List.map_cons, map_seen_listRemove]
      rfl

theorem obeyCommand_seen (message : Message Time Timer) (xTimeNow : Time) :
    state.seen.obeyCommand message.seen (shown xTimeNow) =
      (state.obeyCommand message xTimeNow).seen := by
  obtain ⟨command, timer⟩ := message
  cases command with
  | start xMessageValue =>
      have hdue : later (shown xMessageValue) (state.seen.control timer).xTimerPeriodInTicks =
          shown (later xMessageValue (state.control timer).xTimerPeriodInTicks) :=
        (shown_later _ _).symm
      simp only [obeyCommand, Message.seen, Command.seen, hdue,
        insertTimerInActiveList_seen, Prod.map_fst, Prod.map_snd, id, apply_ite State.seen,
        ← callCallback_seen]
      simp only [seen, apply_ite ServicePc.seen]
      rfl
  | changePeriod xNewPeriod =>
      have hinsert := insertTimerInActiveList_seen
        { state with
          control := Function.update state.control timer
            ⟨xNewPeriod, (state.control timer).uxAutoReload⟩
          pc := .receiveCommand } timer (later xTimeNow xNewPeriod) xTimeNow xTimeNow
      rw [shown_later] at hinsert
      exact congrArg Prod.snd hinsert
  | stop => rfl
  | delete => rfl

theorem serve_seen : state.seen.serve = state.serve.map State.seen := by
  unfold serve
  cases hpc : state.pc with
  | nextExpireTime =>
      simp only [seen, hpc, ServicePc.seen, Option.map_some]
      cases state.pxCurrentTimerList <;> rfl
  | sampleTimeNow caller =>
      simp only [Option.map_some, ← sampleTimeNow_seen]
      simp only [seen, hpc]
      rfl
  | switchTimerLists xTimeNow caller =>
      simp only [Option.map_some, ← switchTimerLists_seen]
      simp only [seen, hpc]
      rfl
  | switchReload item xTimeNow caller =>
      simp only [Option.map_some, ← switchReload_seen]
      simp only [seen, hpc]
      rfl
  | expiredTimer xNextExpireTime xTimeNow =>
      simp only [← processExpiredTimer_seen]
      simp only [seen, hpc]
      rfl
  | blocked since xTicksToWait => simp [seen, hpc, ServicePc.seen]
  | receiveCommand =>
      simp only [Option.map_some, ← receiveCommand_seen]
      simp only [seen, hpc]
      rfl
  | obeyCommand message xTimeNow =>
      simp only [Option.map_some, ← obeyCommand_seen]
      simp only [seen, hpc]
      rfl
  | restart timer xMessageValue =>
      simp only [Option.map_some, ← genericCommand_seen]
      simp only [seen, hpc, ServicePc.seen, Message.seen, Command.seen, shown_later]
      rfl

omit [DecidableEq Timer]

theorem tick_seen : state.seen.tick = state.tick.seen := by
  have hpc : (state.pc.seen.tick (later (shown state.xTickCount) 1)) =
      (state.pc.tick (later state.xTickCount 1)).seen := by
    cases state.pc with
    | blocked since xTicksToWait =>
        simp only [ServicePc.tick, apply_ite ServicePc.seen, shown_later]
        rfl
    | _ => rfl
  simp only [tick, seen, shown_later, ← hpc]
  rfl

theorem request_seen (request : Request) :
    state.seen.request request = (state.request request).seen := by
  cases request <;> rfl

variable [DecidableEq Sender]

theorem seen_update_sending (sender : Sender) (message : Option (Message Time Timer)) :
    (fun other => (Function.update state.sending sender message other).map Message.seen) =
      Function.update state.seen.sending sender (message.map Message.seen) := by
  funext other
  by_cases hother : other = sender
  · rw [hother, Function.update_self, Function.update_self]
  · rw [Function.update_of_ne hother, Function.update_of_ne hother]
    rfl

theorem send_seen (sender : Sender) :
    state.seen.send sender = (state.send sender).map State.seen := by
  have hpc : state.pc.seen.ready = state.pc.ready.seen := by
    cases state.pc <;> rfl
  cases hsending : state.sending sender with
  | none => simp [send, seen, hsending]
  | some message =>
      by_cases hroom : state.xTimerQueue.length < 10
      · simp [send, seen, hsending, hroom, ← hpc, seen_update_sending]
      · simp [send, seen, hsending, hroom]

end State

theorem step_seen [DecidableEq Timer] [DecidableEq Sender] (state : State Time Timer Sender)
    (action : Action Timer Sender) :
    step state.seen action = (step state action).map State.seen := by
  cases action with
  | tick => exact congrArg some state.tick_seen
  | command sender timer request =>
      cases hsending : state.sending sender with
      | none =>
          simp [step, State.seen, hsending, State.seen_update_sending, ← State.request_seen,
            Message.seen]
      | some message => simp [step, State.seen, hsending]
  | send sender => exact state.send_seen sender
  | giveUp sender =>
      cases hsending : state.sending sender with
      | none => simp [step, State.seen, hsending]
      | some message =>
          simp [step, State.seen, hsending, State.seen_update_sending]
  | service => exact state.serve_seen

/-- The runs of the program are the runs with true times, as the program sees them. -/
theorem path_word_iff [DecidableEq Timer] [DecidableEq Sender]
    {control : Timer → TimerControl}
    {trace : Trace (State (BitVec 32) Timer Sender) (Action Timer Sender)}
    {state : State (BitVec 32) Timer Sender} :
    Path step (initial 0 control) trace state ↔
      ∃ (timed : Trace (State ℕ Timer Sender) (Action Timer Sender))
        (finish : State ℕ Timer Sender),
        Path step (initial 0 control) timed finish ∧
          trace = timed.map (Transition.seen State.seen) ∧ state = finish.seen := by
  have hinitial : (initial 0 control : State (BitVec 32) Timer Sender) =
      (initial 0 control : State ℕ Timer Sender).seen := rfl
  rw [hinitial, path_seen_iff step_seen]

end FrequencyRelay.Timers
