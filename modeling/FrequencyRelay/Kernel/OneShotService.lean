import FrequencyRelay.Core.OneShotTimer
import FrequencyRelay.Kernel.TimerLinks

/-!
# A one-shot timer as its users see it

To the tasks that use it, a timer that does not reload is a `OneShotTimer`, and
`xTimerIsTimerActive` is what they read of it: its commands are carried out in the order
in which they have been queued, a running timer reads as dormant while the service works
on one of them, and only a running timer expires.  The lists, the samples of the tick
count and the other timers do not show.
-/

namespace FrequencyRelay.Timers

open FrequencyRelay.OneShotTimer
open FrequencyRelay.Runs
open FrequencyRelay.SortedInsertion
open FrequencyRelay.Ticks

variable {Time Timer Sender : Type*} [TickType Time] [DecidableEq Timer]

/-- What happens to one timer; in an `overrun`, its period is over by the time at which
the service would start it. -/
inductive TimerEvent
  | send (command : OneShotTimer.Command)
  | process
  | expire
  | overrun
  deriving DecidableEq

/-- The timer has expired. -/
def TimerEvent.expires : TimerEvent → Bool
  | .expire | .overrun => true
  | .send _ | .process => false

/-- An overrun is a start and an expiry with nothing in between. -/
def oneShotStep (timer : OneShotTimer.Timer) : TimerEvent → Option OneShotTimer.Timer
  | .send command => some (timer.send command)
  | .process => timer.process
  | .expire => timer.expire
  | .overrun => timer.process.bind OneShotTimer.Timer.expire

/-- Only a change to a period of zero ticks leaves a timer stopped. -/
def Command.oneShot : Command Time → OneShotTimer.Command
  | .start _ => .reset
  | .changePeriod xNewPeriod => if xNewPeriod = 0 then .stop else .reset
  | .stop | .delete => .stop

/-- The command for a timer in a message -/
def Message.concerns (timer : Timer) (message : Message Time Timer) :
    Option OneShotTimer.Command :=
  if message.pxTimer = timer then some message.command.oneShot else none

/-- `xTimerIsTimerActive` -/
def State.isTimerActive (state : State Time Timer Sender) (timer : Timer) : Bool :=
  0 < listed timer state.pxCurrentTimerList + listed timer state.pxOverflowTimerList

/-- The command for a timer that the service is working on -/
def ServicePc.command (timer : Timer) (pc : ServicePc Time Timer) :
    Option OneShotTimer.Command :=
  pc.message.bind (Message.concerns timer)

/-- The timer as its users see it; the command that the service is working on is the
first of its commands. -/
def State.oneShot (timer : Timer) (state : State Time Timer Sender) : OneShotTimer.Timer where
  active := state.isTimerActive timer
  carrying := (state.pc.command timer).isSome
  commands :=
    (state.pc.command timer).toList ++ state.xTimerQueue.filterMap (Message.concerns timer)

instance (period : BitVec 32) (xNextExpiryTime xTimeNow xCommandTime : Time) :
    Decidable (ProcessTimerNow period xNextExpiryTime xTimeNow xCommandTime) :=
  inferInstanceAs (Decidable
    (if shown xNextExpiryTime ≤ shown xTimeNow then
      period ≤ shown xTimeNow - shown xCommandTime
    else shown xTimeNow < shown xCommandTime ∧ shown xCommandTime ≤ shown xNextExpiryTime))

/-- The timer at the head of the current list expires. -/
def State.headExpires (timer : Timer) (state : State Time Timer Sender) : Option TimerEvent :=
  match state.pxCurrentTimerList with
  | [] => none
  | item :: _ => if item.pvOwner = timer then some .expire else none

/-- What carrying out a command means for its timer, at the time at which the service has
sampled the tick count. -/
def Command.event (control : TimerControl) (xTimeNow : Time) : Command Time → TimerEvent
  | .start xMessageValue =>
      let period := control.xTimerPeriodInTicks
      if ProcessTimerNow period (later xMessageValue period) xTimeNow xMessageValue then
        .overrun
      else .process
  | _ => .process

/-- What a step means for a timer. -/
def State.event (timer : Timer) (state : State Time Timer Sender) :
    Action Timer Sender → Option TimerEvent
  | .send sender =>
      ((state.sending sender).bind (Message.concerns timer)).map .send
  | .service =>
      match state.pc with
      | .receiveCommand =>
          (state.xTimerQueue.head?.bind (Message.concerns timer)).map fun _ => .process
      | .switchTimerLists _ _ | .expiredTimer _ _ => state.headExpires timer
      | .obeyCommand message xTimeNow =>
          (message.concerns timer).map fun _ =>
            message.command.event (state.control message.pxTimer) xTimeNow
      | _ => none
  | _ => none

/-- What the view of a timer that does not reload depends on. -/
structure OneShot (timer : Timer) (state : State Time Timer Sender) : Prop where
  once : (state.control timer).uxAutoReload = false
  linked : ∀ other, state.links other ≤ 1
  reloads : ∀ item now caller, state.pc = .switchReload item now caller → item.pvOwner ≠ timer
  restarts : ∀ time, state.pc ≠ .restart timer time

variable {state next : State Time Timer Sender} {timer : Timer}

omit [TickType Time] in
theorem oneShot_congr
    (hqueue : next.xTimerQueue.filterMap (Message.concerns timer) =
      state.xTimerQueue.filterMap (Message.concerns timer))
    (hcommand : next.pc.command timer = state.pc.command timer)
    (hlisted : listed timer next.pxCurrentTimerList + listed timer next.pxOverflowTimerList =
      listed timer state.pxCurrentTimerList + listed timer state.pxOverflowTimerList) :
    next.oneShot timer = state.oneShot timer := by
  rw [State.oneShot, State.oneShot, State.isTimerActive, State.isTimerActive, hqueue,
    hcommand, hlisted]

omit [TickType Time] in
theorem filterMap_offer_of_ne {message : Message Time Timer} {queue : List (Message Time Timer)}
    (hother : message.pxTimer ≠ timer) :
    (offer message queue).filterMap (Message.concerns timer) =
      queue.filterMap (Message.concerns timer) := by
  rw [offer]
  split
  · simp [Message.concerns, hother]
  · rfl

omit [TickType Time] in
theorem listed_listRemove_of_ne {other : Timer} {items : List (ListItem Time Timer)}
    (hother : timer ≠ other) :
    listed timer (State.listRemove other items) = listed timer items := by
  induction items with
  | nil => rfl
  | cons item items ih =>
      rw [State.listRemove, List.filter_cons]
      split
      case isTrue => rw [listed_cons, listed_cons, ← ih, State.listRemove]
      case isFalse hremoved =>
        have howner : item.pvOwner = other := by simpa using hremoved
        rw [listed_cons, howner, List.count_eq_zero.mpr (by simpa using hother), ← ih,
          State.listRemove, Nat.add_zero]

/-- A period that begins now is over at once only if it is empty. -/
theorem processTimerNow_now_iff (period : BitVec 32) (now : Time) :
    ProcessTimerNow period (later now period) now now ↔ period = 0 := by
  rw [ProcessTimerNow, BitVec.sub_self]
  simp only [BitVec.lt_irrefl, false_and]
  split
  case isTrue => simp
  case isFalse hlater =>
    refine iff_of_false id ?_
    rintro rfl
    apply hlater
    rw [shown_later]
    simp

omit [TickType Time] in
/-- A timer that the service holds is in no list. -/
theorem OneShot.listed_eq_zero (hinv : OneShot timer state) (hheld : state.pc.held = [timer]) :
    listed timer state.pxCurrentTimerList + listed timer state.pxOverflowTimerList = 0 := by
  have hlinked := hinv.linked timer
  rw [State.links, hheld, List.count_singleton_self] at hlinked
  omega

omit [TickType Time] in
theorem concerns_of_eq {message : Message Time Timer} (htimer : message.pxTimer = timer) :
    message.concerns timer = some message.command.oneShot := if_pos htimer

omit [TickType Time] in
theorem concerns_of_ne {message : Message Time Timer} (hother : message.pxTimer ≠ timer) :
    message.concerns timer = none := if_neg hother

omit [TickType Time] in
theorem command_obeyCommand (message : Message Time Timer) (xTimeNow : Time) :
    (ServicePc.obeyCommand message xTimeNow).command timer = message.concerns timer := rfl

omit [TickType Time] in
theorem command_receiveCommand :
    (ServicePc.receiveCommand : ServicePc Time Timer).command timer = none := rfl

omit [TickType Time] in
/-- The timer while the service does not work on a command for it -/
theorem oneShot_of_free (hcommand : state.pc.command timer = none) :
    state.oneShot timer =
      ⟨state.isTimerActive timer, false,
        state.xTimerQueue.filterMap (Message.concerns timer)⟩ := by
  rw [State.oneShot, hcommand]
  rfl

omit [TickType Time] in
/-- The timer while it does -/
theorem oneShot_of_command {command : OneShotTimer.Command}
    (hcommand : state.pc.command timer = some command) :
    state.oneShot timer =
      ⟨state.isTimerActive timer, true,
        command :: state.xTimerQueue.filterMap (Message.concerns timer)⟩ := by
  rw [State.oneShot, hcommand]
  rfl

omit [TickType Time] [DecidableEq Timer] in
theorem message_held {pc : ServicePc Time Timer} {message : Message Time Timer}
    (hmessage : pc.message = some message) : message.pxTimer ∈ pc.held := by
  have hcaller : ∀ caller : Caller Time Timer, caller.message = some message →
      message.pxTimer ∈ caller.held := by
    intro caller hmessage
    cases caller with
    | processTimer => cases hmessage
    | receivedCommand =>
        obtain rfl := Option.some.inj hmessage
        exact List.mem_singleton_self _
  cases pc with
  | sampleTimeNow caller | switchTimerLists _ caller => exact hcaller caller hmessage
  | switchReload _ _ caller => exact List.mem_cons_of_mem _ (hcaller caller hmessage)
  | obeyCommand =>
      obtain rfl := Option.some.inj hmessage
      exact List.mem_singleton_self _
  | _ => cases hmessage

omit [TickType Time] in
/-- The service does not work on a command for a timer in a list. -/
theorem OneShot.command_eq_none (hinv : OneShot timer state)
    (hlisted : 0 < listed timer state.pxCurrentTimerList) : state.pc.command timer = none := by
  cases hmessage : state.pc.message with
  | none => rw [ServicePc.command, hmessage, Option.bind_none]
  | some message =>
      rw [ServicePc.command, hmessage, Option.bind_some]
      apply concerns_of_ne
      rintro rfl
      have hheld := List.count_pos_iff.mpr (message_held hmessage)
      have hlinked := hinv.linked message.pxTimer
      rw [State.links] at hlinked
      omega

omit [TickType Time] in
/-- Taking the head of the current list is an expiry of the timer there, and nothing to
the others. -/
theorem simulates_headExpires (hinv : OneShot timer state) {item : ListItem Time Timer}
    {rest : List (ListItem Time Timer)} (hcurrent : state.pxCurrentTimerList = item :: rest)
    (hqueue : next.xTimerQueue.filterMap (Message.concerns timer) =
      state.xTimerQueue.filterMap (Message.concerns timer))
    (hcommand : next.pc.command timer = state.pc.command timer)
    (hlisted : listed timer next.pxCurrentTimerList + listed timer next.pxOverflowTimerList =
      listed timer rest + listed timer state.pxOverflowTimerList) :
    Simulates oneShotStep (State.oneShot timer) (state.headExpires timer) state next := by
  have hlinked := hinv.linked timer
  rw [State.links, hcurrent, listed_cons] at hlinked
  rw [State.headExpires, hcurrent]
  by_cases howner : item.pvOwner = timer
  · rw [howner, List.count_singleton_self] at hlinked
    have hhead : 0 < listed timer state.pxCurrentTimerList := by
      rw [hcurrent, listed_cons, howner, List.count_singleton_self]
      omega
    have hfree := hinv.command_eq_none hhead
    simp only [if_pos howner]
    have hactive : state.isTimerActive timer = true := decide_eq_true (by omega)
    have hdormant : next.isTimerActive timer = false := by
      rw [State.isTimerActive, hlisted]
      exact decide_eq_false (by omega)
    apply OneShotTimer.Timer.expire_eq_some_iff.mpr
    rw [oneShot_of_free hfree, oneShot_of_free (hcommand.trans hfree), hqueue]
    exact ⟨⟨hactive, rfl⟩, congrArg (OneShotTimer.Timer.mk · false _) hdormant⟩
  · simp only [if_neg howner]
    apply oneShot_congr hqueue hcommand
    rw [hlisted, hcurrent, listed_cons,
      List.count_eq_zero.mpr (by simpa using Ne.symm howner), Nat.add_zero]

omit [TickType Time] in
/-- The service takes up a command for the timer. -/
theorem oneShot_received {command : OneShotTimer.Command}
    (hbefore : state.pc.command timer = none)
    (hqueue : state.xTimerQueue.filterMap (Message.concerns timer) =
      command :: next.xTimerQueue.filterMap (Message.concerns timer))
    (hafter : next.pc.command timer = some command)
    (hdormant : next.isTimerActive timer = false) :
    oneShotStep (state.oneShot timer) .process = some (next.oneShot timer) := by
  apply OneShotTimer.Timer.process_eq_some_iff.mpr
  rw [oneShot_of_free hbefore, oneShot_of_command hafter, hqueue, hdormant]
  exact ⟨_, _, rfl, .inr ⟨rfl, rfl⟩⟩

omit [TickType Time] in
/-- The service finishes it, and the timer is what the command asks for. -/
theorem oneShot_obeyed {message : Message Time Timer} {now : Time}
    (hpc : state.pc = .obeyCommand message now) (htimer : message.pxTimer = timer)
    (hqueue : next.xTimerQueue = state.xTimerQueue) (hnext : next.pc = .receiveCommand)
    (hactive : next.isTimerActive timer = message.command.oneShot.starts) :
    oneShotStep (state.oneShot timer) .process = some (next.oneShot timer) := by
  have hbefore : state.pc.command timer = some message.command.oneShot := by
    rw [hpc, command_obeyCommand, concerns_of_eq htimer]
  have hafter : next.pc.command timer = none := by
    rw [hnext]
    exact command_receiveCommand
  apply OneShotTimer.Timer.process_eq_some_iff.mpr
  rw [oneShot_of_command hbefore, oneShot_of_free hafter, hqueue, hactive]
  exact ⟨_, _, rfl, .inl ⟨rfl, rfl⟩⟩

/-- The step that carries out a command means something to its timer only. -/
theorem event_obeyCommand {message : Message Time Timer} {now : Time}
    (hpc : state.pc = .obeyCommand message now) :
    state.event timer (Action.service : Action Timer Sender) =
      if message.pxTimer = timer then
        some (message.command.event (state.control message.pxTimer) now)
      else none := by
  simp only [State.event, hpc, Message.concerns]
  split
  · rfl
  · rfl

theorem simulates_served (hinv : OneShot timer state) (hserved : Served state next) :
    Simulates oneShotStep (State.oneShot timer) (state.event timer .service) state next := by
  cases hserved with
  | queried hpc | wrapped _ hpc | due _ hpc | slept _ hpc | stayed _ hpc | sampled _ hpc =>
      have hevent : state.event timer .service = none := by simp only [State.event, hpc]
      rw [hevent]
      exact oneShot_congr rfl (by rw [hpc]; rfl) rfl
  | switchReinserted item now caller hpc hreload =>
      have hevent : state.event timer .service = none := by simp only [State.event, hpc]
      rw [hevent]
      refine oneShot_congr rfl (by rw [hpc]; rfl) ?_
      have hother := hinv.reloads item now caller hpc
      rw [listed_insertByKey, List.count_eq_zero.mpr (by simpa using hother.symm),
        Nat.add_zero]
  | switchResent item now caller hpc =>
      have hevent : state.event timer .service = none := by simp only [State.event, hpc]
      rw [hevent]
      exact oneShot_congr (filterMap_offer_of_ne (hinv.reloads item now caller hpc))
        (by rw [hpc]; rfl) rfl
  | restarted restarted value hpc =>
      have hevent : state.event timer .service = none := by simp only [State.event, hpc]
      rw [hevent]
      refine oneShot_congr (filterMap_offer_of_ne ?_) (by rw [hpc]; rfl) rfl
      rintro rfl
      exact hinv.restarts value hpc
  | emptied hpc hempty =>
      have hevent : state.event timer .service = none := by
        simp only [State.event, hpc, hempty]
        rfl
      rw [hevent]
      exact oneShot_congr rfl (by rw [hpc]; rfl) rfl
  | switchCalled now caller item rest hpc hcurrent =>
      have hevent : state.event timer .service = state.headExpires timer := by
        simp only [State.event, hpc]
      rw [hevent]
      refine simulates_headExpires hinv hcurrent rfl ?_ rfl
      simp only [hpc, apply_ite (ServicePc.command timer)]
      exact ite_id _
  | switched now caller hpc hcurrent =>
      have hevent : state.event timer .service = none := by
        simp only [State.event, hpc, State.headExpires, hcurrent]
      rw [hevent]
      refine oneShot_congr rfl ?_ ?_
      · rw [hpc]
        cases caller <;> rfl
      · simp only [hcurrent, listed_nil, Nat.add_comm]
  | expired next now item rest hpc hcurrent =>
      have hevent : state.event timer .service = state.headExpires timer := by
        simp only [State.event, hpc]
      rw [hevent]
      exact simulates_headExpires hinv hcurrent rfl (by rw [hpc]; rfl) rfl
  | expiredPlaced next now item rest current overflow hpc hcurrent hreload hahead hplaced =>
      have hevent : state.event timer .service = state.headExpires timer := by
        simp only [State.event, hpc]
      rw [hevent]
      refine simulates_headExpires hinv hcurrent rfl (by rw [hpc]; rfl) ?_
      have hother : timer ∉ [item.pvOwner] := by
        rw [List.mem_singleton]
        rintro rfl
        exact Bool.false_ne_true (hinv.once.symm.trans hreload)
      rw [listed_placed hplaced timer, List.count_eq_zero.mpr hother, Nat.add_zero]
  | expiredResent next now item rest hpc hcurrent hreload =>
      have hevent : state.event timer .service = state.headExpires timer := by
        simp only [State.event, hpc]
      rw [hevent]
      refine simulates_headExpires hinv hcurrent (filterMap_offer_of_ne ?_)
        (by rw [hpc]; rfl) rfl
      rintro rfl
      exact Bool.false_ne_true (hinv.once.symm.trans hreload)
  | received message messages hpc hqueue =>
      have hevent : state.event timer .service =
          (message.concerns timer).map fun _ => .process := by
        simp only [State.event, hpc, hqueue, List.head?_cons, Option.bind_some]
      rw [hevent]
      by_cases htimer : message.pxTimer = timer
      · rw [concerns_of_eq htimer]
        apply oneShot_received
        · rw [hpc]
          exact command_receiveCommand
        · rw [hqueue, List.filterMap_cons, concerns_of_eq htimer]
        · exact concerns_of_eq htimer
        · rw [State.isTimerActive, htimer, listed_listRemove_self, listed_listRemove_self]
          rfl
      · rw [concerns_of_ne htimer]
        refine oneShot_congr ?_ ?_ ?_
        · rw [hqueue, List.filterMap_cons, concerns_of_ne htimer]
        · rw [hpc]
          exact concerns_of_ne htimer
        · rw [listed_listRemove_of_ne (Ne.symm htimer),
            listed_listRemove_of_ne (Ne.symm htimer)]
  | started started value now current overflow hpc hahead hplaced =>
      have hlisted := listed_placed hplaced timer
      rw [event_obeyCommand hpc]
      by_cases htimer : started = timer
      · rw [if_pos htimer, Command.event, if_neg hahead]
        apply oneShot_obeyed hpc htimer
        · rfl
        · rfl
        rw [htimer, List.count_singleton_self] at hlisted
        exact decide_eq_true ((Nat.succ_pos _).trans_eq hlisted.symm)
      · rw [if_neg htimer]
        refine oneShot_congr rfl ?_ ?_
        · rw [hpc]
          exact (concerns_of_ne htimer).symm
        · rw [hlisted, List.count_eq_zero.mpr (by simpa using Ne.symm htimer), Nat.add_zero]
  | startedLate started value now hpc hnow =>
      rw [event_obeyCommand hpc]
      by_cases htimer : started = timer
      · subst htimer
        have hzero := hinv.listed_eq_zero (by rw [hpc]; rfl)
        have hbefore : state.pc.command started = some .reset := by
          rw [hpc]
          exact concerns_of_eq rfl
        have hdormant : state.isTimerActive started = false := decide_eq_false hzero.not_gt
        rw [if_pos rfl, Command.event, if_pos hnow, Simulates, oneShot_of_command hbefore]
        simp only [hinv.once, Bool.false_eq_true, if_false]
        rw [oneShot_of_free command_receiveCommand]
        exact congrArg (fun active => some (OneShotTimer.Timer.mk active false _))
          hdormant.symm
      · rw [if_neg htimer]
        refine oneShot_congr rfl ?_ rfl
        rw [hpc, command_obeyCommand, concerns_of_ne htimer]
        simp only [apply_ite (ServicePc.command timer)]
        exact ite_id _
  | periodChanged changed period now current overflow hpc hplaced =>
      rw [processTimerNow_now_iff] at hplaced
      rw [event_obeyCommand hpc]
      by_cases htimer : changed = timer
      · have hzero := hinv.listed_eq_zero (by rw [hpc, ← htimer]; rfl)
        rw [if_pos htimer]
        apply oneShot_obeyed hpc htimer
        · rfl
        · rfl
        rcases hplaced with ⟨hperiod, hplaced⟩ | ⟨hperiod, rfl, rfl⟩
        · have hlisted := listed_placed hplaced timer
          rw [htimer, List.count_singleton_self] at hlisted
          rw [Command.oneShot, if_neg hperiod]
          exact decide_eq_true ((Nat.succ_pos _).trans_eq hlisted.symm)
        · rw [Command.oneShot, if_pos hperiod]
          exact decide_eq_false hzero.not_gt
      · rw [if_neg htimer]
        refine oneShot_congr rfl ?_ ?_
        · rw [hpc]
          exact (concerns_of_ne htimer).symm
        · rcases hplaced with ⟨-, hplaced⟩ | ⟨-, rfl, rfl⟩
          · rw [listed_placed hplaced timer,
              List.count_eq_zero.mpr (by simpa using Ne.symm htimer), Nat.add_zero]
          · rfl
  | stopped message now hpc hstop =>
      rw [event_obeyCommand hpc]
      by_cases htimer : message.pxTimer = timer
      · have hzero := hinv.listed_eq_zero (by rw [hpc, ← htimer]; rfl)
        have hevent : message.command.event (state.control message.pxTimer) now =
            .process := by
          rcases hstop with hstop | hstop <;> rw [hstop] <;> rfl
        rw [if_pos htimer, hevent]
        apply oneShot_obeyed hpc htimer
        · rfl
        · rfl
        rcases hstop with hstop | hstop <;> rw [hstop, Command.oneShot] <;>
          exact decide_eq_false hzero.not_gt
      · rw [if_neg htimer]
        refine oneShot_congr rfl ?_ rfl
        rw [hpc]
        exact (concerns_of_ne htimer).symm

variable [DecidableEq Sender]

theorem simulates_step (hinv : OneShot timer state) {action : Action Timer Sender}
    (hstep : step state action = some next) :
    Simulates oneShotStep (State.oneShot timer) (state.event timer action) state next := by
  cases step_effect hstep with
  | served _ hserved => exact simulates_served hinv hserved
  | ticked =>
      have hcommand : state.tick.pc.command timer = state.pc.command timer := by
        rw [State.tick, ServicePc.command, message_tick, ← ServicePc.command]
      have hsame : state.tick.oneShot timer = state.oneShot timer :=
        oneShot_congr rfl hcommand rfl
      exact hsame
  | commanded | gaveUp => exact rfl
  | sent sender message hsending hroom =>
      have hcommand : state.pc.ready.command timer = state.pc.command timer := by
        rw [ServicePc.command, message_ready, ← ServicePc.command]
      rw [State.event, hsending, Option.bind_some]
      by_cases htimer : message.pxTimer = timer
      · rw [concerns_of_eq htimer]
        refine congrArg some ?_
        simp only [OneShotTimer.Timer.send, State.oneShot, hcommand, List.filterMap_append,
          List.filterMap_cons, concerns_of_eq htimer, List.filterMap_nil, List.append_assoc]
        rfl
      · rw [concerns_of_ne htimer]
        refine oneShot_congr ?_ hcommand rfl
        rw [List.filterMap_append, List.filterMap_cons, concerns_of_ne htimer]
        exact List.append_nil _

omit [DecidableEq Sender] in
theorem oneShot_served (hinv : OneShot timer state) (hserved : Served state next)
    (hlinked : ∀ other, next.links other ≤ 1) : OneShot timer next := by
  cases hserved with
  | switchCalled now caller item rest =>
      refine { hinv with linked := hlinked, reloads := ?_, restarts := ?_ }
      · intro other now' caller' hpc
        simp only at hpc
        split at hpc
        case isTrue hreload =>
          obtain ⟨rfl, -, -⟩ := ServicePc.switchReload.inj hpc
          rintro rfl
          exact Bool.false_ne_true (hinv.once.symm.trans hreload)
        case isFalse => cases hpc
      · intro time
        simp only
        split <;> simp
  | startedLate started value now =>
      refine { hinv with linked := hlinked, reloads := ?_, restarts := ?_ }
      · intro other now' caller' hpc
        simp only at hpc
        split at hpc <;> cases hpc
      · intro time hpc
        simp only at hpc
        split at hpc
        case isTrue hreload =>
          obtain ⟨rfl, -⟩ := ServicePc.restart.inj hpc
          exact Bool.false_ne_true (hinv.once.symm.trans hreload)
        case isFalse => cases hpc
  | switched now caller =>
      cases caller with
      | processTimer | receivedCommand =>
          exact { hinv with linked := hlinked, reloads := by simp [Caller.switched],
                            restarts := by simp [Caller.switched] }
  | periodChanged changed =>
      refine { hinv with once := ?_, linked := hlinked, reloads := by simp, restarts := by simp }
      by_cases htimer : timer = changed
      · simp only [← htimer, Function.update_self]
        exact hinv.once
      · simp only [Function.update_of_ne htimer]
        exact hinv.once
  | _ => exact { hinv with linked := hlinked, reloads := by simp, restarts := by simp }

/-- No step makes a timer reload, and the service only reloads timers that do. -/
theorem oneShot_step (hinv : OneShot timer state) {action : Action Timer Sender}
    (hstep : step state action = some next) : OneShot timer next := by
  have hlinked : ∀ other, next.links other ≤ 1 := by
    intro other
    have hkept := links_step hstep other
    have hbefore := hinv.linked other
    omega
  cases step_effect hstep with
  | served _ hserved => exact oneShot_served hinv hserved hlinked
  | ticked =>
      refine { hinv with linked := hlinked, reloads := ?_, restarts := ?_ }
      · rcases state.pc.tick_eq_or (later state.xTickCount 1) with hpc | hpc <;>
          simp only [State.tick, hpc]
        · simp
        · exact hinv.reloads
      · rcases state.pc.tick_eq_or (later state.xTickCount 1) with hpc | hpc <;>
          simp only [State.tick, hpc]
        · simp
        · exact hinv.restarts
  | sent =>
      refine { hinv with linked := hlinked, reloads := ?_, restarts := ?_ }
      · rcases state.pc.ready_eq_or with hpc | hpc <;> simp only [hpc]
        · simp
        · exact hinv.reloads
      · rcases state.pc.ready_eq_or with hpc | hpc <;> simp only [hpc]
        · simp
        · exact hinv.restarts
  | commanded | gaveUp => exact { hinv with linked := hlinked }

omit [TickType Time] [DecidableEq Sender] in
theorem oneShot_initial {zero : Time} {control : Timer → TimerControl}
    (honce : (control timer).uxAutoReload = false) :
    OneShot timer (initial zero control : State Time Timer Sender) where
  once := honce
  linked := by simp [State.links, initial, ServicePc.held]
  reloads := by simp [initial]
  restarts := by simp [initial]

/-! ## Callbacks -/

/-- How often the callback of a timer has been called. -/
def State.called (state : State Time Timer Sender) (timer : Timer) : ℕ :=
  state.callbacks.countP fun callback => callback.timer = timer

omit [TickType Time] [DecidableEq Sender] in
theorem called_append_one (last : Callback Time Timer) :
    (state.callbacks ++ [last]).countP (fun callback => callback.timer = timer) =
      state.called timer + if last.timer = timer then 1 else 0 := by
  rw [List.countP_append, State.called, List.countP_singleton]
  simp only [decide_eq_true_eq]

/-- A step makes the timer expire. -/
def State.expires (timer : Timer) (state : State Time Timer Sender)
    (action : Action Timer Sender) : Bool :=
  (state.event timer action).any TimerEvent.expires

omit [DecidableEq Sender] in
theorem expires_of_event {action : Action Timer Sender} {event : Option TimerEvent}
    (hevent : state.event timer action = event) :
    state.expires timer action = event.any TimerEvent.expires := by
  rw [State.expires, hevent]

omit [TickType Time] [DecidableEq Sender] in
theorem expires_headExpires {item : ListItem Time Timer} {rest : List (ListItem Time Timer)}
    (hcurrent : state.pxCurrentTimerList = item :: rest) :
    (state.headExpires timer).any TimerEvent.expires = decide (item.pvOwner = timer) := by
  rw [State.headExpires, hcurrent]
  by_cases howner : item.pvOwner = timer
  · simp only [if_pos howner, decide_eq_true howner]
    rfl
  · simp only [if_neg howner, decide_eq_false howner]
    rfl

omit [DecidableEq Sender] in
/-- Carrying out a command is an expiry only where a start comes too late. -/
theorem expires_obeyCommand {message : Message Time Timer} {now : Time}
    (hpc : state.pc = .obeyCommand message now) :
    state.expires timer .service =
      (decide (message.pxTimer = timer) &&
        (message.command.event (state.control message.pxTimer) now).expires) := by
  rw [expires_of_event (event_obeyCommand hpc)]
  by_cases htimer : message.pxTimer = timer
  · rw [if_pos htimer, decide_eq_true htimer]
    rfl
  · rw [if_neg htimer, decide_eq_false htimer]
    rfl

omit [DecidableEq Sender] in
/-- A step of the service calls the callback of a timer exactly if the timer expires. -/
theorem called_served (hserved : Served state next) :
    next.called timer =
      state.called timer + if state.expires timer .service then 1 else 0 := by
  cases hserved with
  | switchCalled now caller item rest hpc hcurrent
  | expired now next item rest hpc hcurrent
  | expiredResent now next item rest hpc hcurrent =>
      have hevent : state.event timer .service = state.headExpires timer := by
        simp only [State.event, hpc]
      simp only [expires_of_event hevent, expires_headExpires hcurrent, decide_eq_true_eq]
      exact called_append_one _
  | expiredPlaced now next item rest _ _ hpc hcurrent =>
      have hevent : state.event timer .service = state.headExpires timer := by
        simp only [State.event, hpc]
      simp only [expires_of_event hevent, expires_headExpires hcurrent, decide_eq_true_eq]
      exact called_append_one _
  | startedLate started value now hpc hnow =>
      have hlate : (Command.event (state.control started) now (.start value)).expires =
          true := by
        rw [Command.event, if_pos hnow]
        rfl
      simp only [expires_obeyCommand hpc, hlate, Bool.and_true, decide_eq_true_eq]
      exact called_append_one _
  | queried hpc | wrapped _ hpc | due _ hpc | slept _ hpc | stayed _ hpc | sampled _ hpc
  | switchReinserted _ _ _ hpc | switchResent _ _ _ hpc | restarted _ _ hpc =>
      have hevent : state.event timer .service = none := by simp only [State.event, hpc]
      rw [expires_of_event hevent]
      rfl
  | switched now caller hpc hcurrent =>
      have hevent : state.event timer .service = none := by
        simp only [State.event, hpc, State.headExpires, hcurrent]
      rw [expires_of_event hevent]
      rfl
  | emptied hpc hempty =>
      have hevent : state.event timer .service = none := by
        simp only [State.event, hpc, hempty]
        rfl
      rw [expires_of_event hevent]
      rfl
  | received message messages hpc hqueue =>
      have hevent : state.event timer .service =
          (message.concerns timer).map fun _ => .process := by
        simp only [State.event, hpc, hqueue, List.head?_cons, Option.bind_some]
      rw [expires_of_event hevent]
      cases message.concerns timer with
      | none => rfl
      | some command => rfl
  | started started value now current overflow hpc hahead =>
      have hintime : (Command.event (state.control started) now (.start value)).expires =
          false := by
        rw [Command.event, if_neg hahead]
        rfl
      simp only [expires_obeyCommand hpc, hintime, Bool.and_false]
      rfl
  | periodChanged changed period now current overflow hpc =>
      have hintime : (Command.event (state.control changed) now
          (.changePeriod period : Command Time)).expires = false := rfl
      simp only [expires_obeyCommand hpc, hintime, Bool.and_false]
      rfl
  | stopped message now hpc hstop =>
      have hintime : (message.command.event (state.control message.pxTimer) now).expires =
          false := by
        rcases hstop with hstop | hstop <;> rw [hstop] <;> rfl
      rw [expires_obeyCommand hpc, hintime, Bool.and_false]
      rfl

theorem called_step {action : Action Timer Sender} (hstep : step state action = some next) :
    next.called timer = state.called timer + if state.expires timer action then 1 else 0 := by
  cases step_effect hstep with
  | served _ hserved => exact called_served hserved
  | ticked | commanded | gaveUp => rfl
  | sent sender message hsending =>
      have hevent : state.event timer (.send sender) =
          (message.concerns timer).map .send := by
        rw [State.event, hsending, Option.bind_some]
      rw [expires_of_event hevent]
      cases message.concerns timer with
      | none => rfl
      | some command => rfl

/-- The callback of a timer has been called once for each time that the timer expired. -/
theorem called_eq {zero : Time} {control : Timer → TimerControl}
    {trace : Trace (State Time Timer Sender) (Action Timer Sender)}
    (hpath : Path step (initial zero control) trace state) :
    state.called timer =
      (observed (State.oneShot timer) (State.event timer) trace).countP
        fun transition => transition.action.expires := by
  induction hpath with
  | nil => rfl
  | @snoc trace source target action hearlier hstep ih =>
      rw [called_step hstep, ih]
      simp only [observed, List.filterMap_append, List.countP_append]
      congr 1
      cases hevent : source.event timer action with
      | none => simp [State.expires, hevent]
      | some event => simp [State.expires, hevent, List.countP_cons]

/-- A timer that does not reload makes the steps of a `OneShotTimer` that is active
whenever `xTimerIsTimerActive` says so, and its callback is called each time that it
expires. -/
theorem refines_oneShot {zero : Time} {control : Timer → TimerControl}
    {trace : Trace (State Time Timer Sender) (Action Timer Sender)}
    (hpath : Path step (initial zero control) trace state)
    (honce : (control timer).uxAutoReload = false) :
    Path oneShotStep .dormant (observed (State.oneShot timer) (State.event timer) trace)
        (state.oneShot timer) ∧
      state.called timer =
        (observed (State.oneShot timer) (State.event timer) trace).countP
          fun transition => transition.action.expires := by
  refine ⟨?_, called_eq hpath⟩
  apply hpath.observed_of_invariant (OneShot timer) (State.oneShot timer) (State.event timer)
  · exact oneShot_initial honce
  · intro source action target hstep hinv
    exact oneShot_step hinv hstep
  · intro source action target hstep hinv
    exact simulates_step hinv hstep

theorem refines_oneShot_calledBack :
    ∃ run, follow step (initial (0 : BitVec 32) twoTicks) calledBack = some run ∧
      Path oneShotStep .dormant (observed (State.oneShot ()) (State.event ()) run.1)
          (run.2.oneShot ()) ∧
        run.2.called () =
          (observed (State.oneShot ()) (State.event ()) run.1).countP
            fun transition => transition.action.expires :=
  ⟨_, (Option.some_get rfl).symm, refines_oneShot (path_of_schedule rfl) rfl⟩

end FrequencyRelay.Timers
