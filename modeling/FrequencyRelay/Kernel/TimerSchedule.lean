import FrequencyRelay.Kernel.Punctuality
import FrequencyRelay.Kernel.TimerLinks

/-!
# Timers do not drift

A callback is due exactly one period after a moment at which a period of the timer begins:
the tick at which the timer is started, the sample with which the service changes its
period, or, if it reloads, the moment at which an earlier callback was due.  How late the
service is, and how often the tick count has wrapped around, makes no difference.
-/

namespace FrequencyRelay.Timers

open FrequencyRelay.Runs
open FrequencyRelay.SortedInsertion
open FrequencyRelay.Ticks
open FrequencyRelay.WrappedTime

variable {Timer Sender : Type*}

/-- A moment that is one period of a timer later than another at which its period begins -/
def State.EndsPeriod (state : State ℕ Timer Sender) (timer : Timer) (Begins : ℕ → Prop)
    (due : ℕ) : Prop :=
  ∃ time, Begins time ∧ due = time + (state.control timer).xTimerPeriodInTicks.toNat

/-- Everything that the service knows of a timer refers to moments at which one of its
periods begins. -/
structure Scheduled (timer : Timer) (Begins : ℕ → Prop) (state : State ℕ Timer Sender) :
    Prop where
  starts : ∀ message, state.Underway message → message.pxTimer = timer →
    ∀ time, message.command = .start time → Begins time
  items : ∀ item ∈ state.pxCurrentTimerList ++ state.pxOverflowTimerList,
    item.pvOwner = timer → state.EndsPeriod timer Begins item.xItemValue
  reloads : ∀ item now caller, state.pc = .switchReload item now caller →
    item.pvOwner = timer → Begins item.xItemValue
  restarts : ∀ time, state.pc = .restart timer time →
    Begins (time + (state.control timer).xTimerPeriodInTicks.toNat)

section Steps

variable {timer : Timer} {Begins : ℕ → Prop} {base : ℕ}
variable {state next : State ℕ Timer Sender} {message : Message ℕ Timer}

theorem mem_placed {item other : ListItem ℕ Timer} {now : ℕ}
    {current overflow placedCurrent placedOverflow : List (ListItem ℕ Timer)}
    (hplaced : Placed item now current overflow placedCurrent placedOverflow)
    (hother : other ∈ placedCurrent ++ placedOverflow) :
    other = item ∨ other ∈ current ++ overflow := by
  cases hplaced with
  | current | overflow =>
      simp only [List.mem_append, mem_insertByKey] at hother ⊢
      tauto

theorem Scheduled.mono {Ends : ℕ → Prop} (hscheduled : Scheduled timer Begins state)
    (hmono : ∀ time, Begins time → Ends time) : Scheduled timer Ends state where
  starts message hunderway htimer time htime :=
    hmono time (hscheduled.starts message hunderway htimer time htime)
  items item hitem htimer :=
    (hscheduled.items item hitem htimer).imp fun time => And.imp_left (hmono time)
  reloads item now caller hpc htimer := hmono _ (hscheduled.reloads item now caller hpc htimer)
  restarts time hpc := hmono _ (hscheduled.restarts time hpc)

/-- The service is working on the start of a period. -/
theorem Scheduled.start_begins (hscheduled : Scheduled timer Begins state) {value now : ℕ}
    (hpc : state.pc = .obeyCommand ⟨.start value, timer⟩ now) : Begins value := by
  have hunderway : state.Underway ⟨.start value, timer⟩ := by
    rw [State.Underway, hpc]
    exact .inr (.inr rfl)
  exact hscheduled.starts _ hunderway rfl value rfl

variable [DecidableEq Timer]

/-- A callback is due when a period ends. -/
theorem Scheduled.ends_period {callback : Callback ℕ Timer}
    (hscheduled : Scheduled callback.timer Begins state) (hserved : Served state next)
    (hcalled : next.callbacks = state.callbacks ++ [callback]) :
    state.EndsPeriod callback.timer Begins callback.due := by
  have hfirst {item : ListItem ℕ Timer} {rest : List (ListItem ℕ Timer)}
      (hcurrent : state.pxCurrentTimerList = item :: rest)
      (hcallback : callback = ⟨item.pvOwner, item.xItemValue, state.xTickCount⟩) :
      state.EndsPeriod callback.timer Begins callback.due := by
    subst hcallback
    apply hscheduled.items item _ rfl
    rw [hcurrent]
    exact List.mem_cons_self
  have hlast {other : Callback ℕ Timer}
      (hother : state.callbacks ++ [other] = state.callbacks ++ [callback]) :
      callback = other :=
    (List.singleton_inj.mp (List.append_cancel_left hother)).symm
  cases hserved with
  | queried | wrapped | due | slept | stayed | sampled | switchReinserted | switchResent
  | switched | emptied | received | started | periodChanged | stopped | restarted =>
      simp at hcalled
  | switchCalled _ _ item rest _ hcurrent | expired _ _ item rest _ hcurrent
  | expiredPlaced _ _ item rest _ _ _ hcurrent | expiredResent _ _ item rest _ hcurrent =>
      exact hfirst hcurrent (hlast hcalled)
  | startedLate other value now hpc =>
      obtain rfl := hlast hcalled
      exact ⟨value, hscheduled.start_begins hpc, later_eq value _⟩

/-- What a step has to say about the moments at which periods begin: a timer that reloads
begins one where a callback was due, and a change of the period begins one at once. -/
structure Recorded (timer : Timer) (Begins : ℕ → Prop) (state next : State ℕ Timer Sender) :
    Prop where
  reloaded : ∀ callback ∈ next.callbacks, callback.timer = timer →
    (state.control timer).uxAutoReload = true → Begins callback.due
  changed : ∀ period now, state.pc = .obeyCommand ⟨.changePeriod period, timer⟩ now →
    Begins now

/-- A timer that reloads is sent a start for the moment at which its period ends. -/
theorem Scheduled.reloads_begin (hscheduled : Scheduled timer Begins state)
    (hordered : Ordered base state) (hrecorded : Recorded timer Begins state next)
    (hserved : Served state next) (hreloads : state.Reloads message)
    (htimer : message.pxTimer = timer) :
    ∀ time, message.command = .start time → Begins time := by
  intro time htime
  rw [State.Reloads] at hreloads
  split at hreloads
  case h_1 item now caller hpc =>
    subst hreloads
    obtain rfl := Command.start.inj htime
    exact hscheduled.reloads item now caller hpc htimer
  case h_2 expiry now hpc =>
    obtain ⟨item, hhead, hreload, rfl⟩ := hreloads
    obtain rfl := Command.start.inj htime
    subst htimer
    have hinformed := hordered.informed
    rw [hpc, ServicePc.Informed, Option.mem_def.mp hhead] at hinformed
    obtain ⟨-, -, hvalue⟩ := hinformed
    obtain rfl : item.xItemValue = expiry := Option.some.inj hvalue
    have hcalled : ⟨item.pvOwner, item.xItemValue, state.xTickCount⟩ ∈ next.callbacks := by
      cases hserved with
      | expired _ _ head _ hpc' hcurrent | expiredPlaced _ _ head _ _ _ hpc' hcurrent
      | expiredResent _ _ head _ hpc' hcurrent =>
          rw [hcurrent] at hhead
          obtain rfl := Option.some.inj hhead
          exact List.mem_append_right _ List.mem_cons_self
      | _ => cases hpc.symm.trans ‹state.pc = _›
    exact hrecorded.reloaded _ hcalled rfl hreload
  case h_3 restarted value hpc =>
    subst hreloads
    obtain rfl : restarted = timer := htimer
    obtain rfl := Command.start.inj htime
    exact hscheduled.restarts value hpc
  case h_4 => exact hreloads.elim

/-- While the service changes the period of a timer, the timer is in no list. -/
theorem not_listed_of_obeyed (hlinked : state.links timer ≤ 1) {command : Command ℕ} {now : ℕ}
    (hpc : state.pc = .obeyCommand ⟨command, timer⟩ now) {item : ListItem ℕ Timer}
    (hitem : item ∈ state.pxCurrentTimerList ++ state.pxOverflowTimerList) :
    item.pvOwner ≠ timer := by
  rintro rfl
  have howner : item.pvOwner ∈
      (state.pxCurrentTimerList ++ state.pxOverflowTimerList).map ListItem.pvOwner :=
    List.mem_map_of_mem hitem
  rw [List.map_append] at howner
  have hcount := List.count_pos_iff.mpr howner
  rw [List.count_append, ← listed, ← listed] at hcount
  rw [State.links, hpc, ServicePc.held, List.count_singleton_self] at hlinked
  omega

theorem Scheduled.served (hscheduled : Scheduled timer Begins state)
    (hordered : Ordered base state) (hlinked : state.links timer ≤ 1)
    (hrecorded : Recorded timer Begins state next) (hserved : Served state next) :
    Scheduled timer Begins next := by
  have hstarts : ∀ message, next.Underway message → message.pxTimer = timer →
      ∀ time, message.command = .start time → Begins time := by
    intro message hunderway htimer
    rcases underway_served hserved hunderway with hbefore | hreloads
    · exact hscheduled.starts message hbefore htimer
    · exact hscheduled.reloads_begin hordered hrecorded hserved hreloads htimer
  have hreloaded := hrecorded.reloaded
  cases hserved with
  | queried | wrapped | due | slept | stayed | sampled | switchResent | emptied
  | stopped | restarted =>
      exact { hscheduled with
        starts := hstarts
        reloads := by simp
        restarts := by simp }
  | switchCalled now caller item rest hpc hcurrent =>
      have hitems := hscheduled.items
      rw [hcurrent] at hitems
      refine { hscheduled with
        starts := hstarts
        items := fun other hother => hitems other (List.mem_cons_of_mem item hother)
        reloads := ?_
        restarts := ?_ }
      · intro other now' caller' hpc' htimer
        simp only at hpc'
        split at hpc'
        case isTrue hreload =>
          obtain ⟨rfl, -, -⟩ := ServicePc.switchReload.inj hpc'
          rw [htimer] at hreload
          exact hreloaded _ (List.mem_append_right _ List.mem_cons_self) htimer hreload
        case isFalse => cases hpc'
      · intro time hpc'
        simp only at hpc'
        split at hpc' <;> cases hpc'
  | switchReinserted item now caller hpc hreload =>
      refine { hscheduled with
        starts := hstarts
        items := ?_
        reloads := by simp
        restarts := by simp }
      intro other hother htimer
      rcases List.mem_append.mp hother with hother | hother
      · rcases mem_insertByKey.mp hother with rfl | hother
        · subst htimer
          exact ⟨item.xItemValue, hscheduled.reloads item now caller hpc rfl, later_eq _ _⟩
        · exact hscheduled.items other (List.mem_append_left _ hother) htimer
      · exact hscheduled.items other (List.mem_append_right _ hother) htimer
  | switched now caller hpc hcurrent =>
      refine { hscheduled with
        starts := hstarts
        items := ?_
        reloads := ?_
        restarts := ?_ }
      · intro other hother
        rw [List.append_nil] at hother
        exact hscheduled.items other (List.mem_append_right _ hother)
      · cases caller <;> simp [Caller.switched]
      · cases caller <;> simp [Caller.switched]
  | expired next now item rest hpc hcurrent | expiredResent next now item rest hpc hcurrent =>
      have hitems := hscheduled.items
      rw [hcurrent] at hitems
      exact { hscheduled with
        starts := hstarts
        items := fun other hother => hitems other (List.mem_cons_of_mem item hother)
        reloads := by simp
        restarts := by simp }
  | expiredPlaced next now item rest current overflow hpc hcurrent hreload hahead hplaced =>
      have hitems := hscheduled.items
      rw [hcurrent] at hitems
      refine { hscheduled with
        starts := hstarts
        items := ?_
        reloads := by simp
        restarts := by simp }
      intro other hother htimer
      rcases mem_placed hplaced hother with rfl | hother
      · -- The next period begins where this one ends.
        subst htimer
        obtain ⟨-, -, -, hvalue⟩ := hordered.expired_head hpc hcurrent
        refine ⟨item.xItemValue, ?_, by rw [hvalue]; exact later_eq _ _⟩
        exact hreloaded _ (List.mem_append_right _ List.mem_cons_self) rfl hreload
      · exact hitems other (List.mem_cons_of_mem item hother) htimer
  | received message messages hpc hqueue =>
      refine { hscheduled with
        starts := hstarts
        items := ?_
        reloads := by simp
        restarts := by simp }
      intro other hother
      rw [State.listRemove, State.listRemove, ← List.filter_append] at hother
      exact hscheduled.items other (List.mem_of_mem_filter hother)
  | started started value now current overflow hpc hahead hplaced =>
      refine { hscheduled with
        starts := hstarts
        items := ?_
        reloads := by simp
        restarts := by simp }
      intro other hother htimer
      rcases mem_placed hplaced hother with rfl | hother
      · obtain rfl : started = timer := htimer
        exact ⟨value, hscheduled.start_begins hpc, later_eq _ _⟩
      · exact hscheduled.items other hother htimer
  | startedLate started value now hpc hnow =>
      refine { hscheduled with
        starts := hstarts
        reloads := ?_
        restarts := ?_ }
      · intro item now' caller' hpc'
        simp only at hpc'
        split at hpc' <;> cases hpc'
      · intro time hpc'
        simp only at hpc'
        split at hpc'
        case isTrue hreload =>
          obtain ⟨rfl, rfl⟩ := ServicePc.restart.inj hpc'
          exact hreloaded _ (List.mem_append_right _ List.mem_cons_self) rfl hreload
        case isFalse => cases hpc'
  | periodChanged changed period now current overflow hpc hplaced =>
      refine { hscheduled with
        starts := hstarts
        items := ?_
        reloads := by simp
        restarts := by simp }
      intro item hitem htimer
      by_cases hchanged : timer = changed
      · -- Nothing else of this timer is in a list that could have the old period.
        subst hchanged
        have hothers : ∀ other ∈ state.pxCurrentTimerList ++ state.pxOverflowTimerList,
            other.pvOwner ≠ timer := fun _ => not_listed_of_obeyed hlinked hpc
        rcases hplaced with ⟨-, hplaced⟩ | ⟨-, rfl, rfl⟩
        · rcases mem_placed hplaced hitem with rfl | hitem
          · refine ⟨now, hrecorded.changed period now hpc, ?_⟩
            simp only [Function.update_self]
            exact later_eq _ _
          · exact absurd htimer (hothers item hitem)
        · exact absurd htimer (hothers item hitem)
      · simp only [State.EndsPeriod, Function.update_of_ne hchanged]
        rcases hplaced with ⟨-, hplaced⟩ | ⟨-, rfl, rfl⟩
        · rcases mem_placed hplaced hitem with rfl | hitem
          · exact absurd htimer.symm hchanged
          · exact hscheduled.items item hitem htimer
        · exact hscheduled.items item hitem htimer

theorem Scheduled.step [DecidableEq Sender] {action : Action Timer Sender}
    (hscheduled : Scheduled timer Begins state) (hordered : Ordered base state)
    (hlinked : state.links timer ≤ 1)
    (hrecorded : action = .service → Recorded timer Begins state next)
    (hstart : ∀ sender, action = .command sender timer .start → Begins state.xTickCount)
    (hstep : step state action = some next) : Scheduled timer Begins next := by
  cases step_effect hstep with
  | served _ hserved => exact hscheduled.served hordered hlinked (hrecorded rfl) hserved
  | ticked =>
      have hpc := state.pc.tick_eq_or (later state.xTickCount 1)
      refine { hscheduled with
        starts := fun message hunderway =>
          hscheduled.starts message (underway_tick.mp hunderway)
        reloads := ?_
        restarts := ?_ }
      · rcases hpc with hpc | hpc <;> simp only [State.tick, hpc]
        · simp
        · exact hscheduled.reloads
      · rcases hpc with hpc | hpc <;> simp only [State.tick, hpc]
        · simp
        · exact hscheduled.restarts
  | commanded sender other request hidle =>
      refine { hscheduled with starts := ?_ }
      rintro message (⟨waiting, hwaiting⟩ | hbefore) htimer time htime
      · rcases sending_of_update hwaiting with hnew | hbefore
        · obtain rfl := Option.some.inj hnew
          obtain rfl : other = timer := htimer
          cases request with
          | start =>
              rw [← Command.start.inj htime]
              exact hstart sender rfl
          | stop | delete | changePeriod => cases htime
        · exact hscheduled.starts message (.inl ⟨waiting, hbefore⟩) htimer time htime
      · exact hscheduled.starts message (.inr hbefore) htimer time htime
  | sent sender message hsending hroom =>
      refine { hscheduled with
        starts := fun other hunderway =>
          hscheduled.starts other (underway_send hsending hunderway)
        reloads := ?_
        restarts := ?_ }
      · rcases state.pc.ready_eq_or with hpc | hpc <;> simp only [hpc]
        · simp
        · exact hscheduled.reloads
      · rcases state.pc.ready_eq_or with hpc | hpc <;> simp only [hpc]
        · simp
        · exact hscheduled.restarts
  | gaveUp sender message hsending =>
      exact { hscheduled with
        starts := fun other hunderway =>
          hscheduled.starts other (underway_giveUp hunderway) }

end Steps

/-! ## Whole runs -/

section Runs

variable {control : Timer → TimerControl} {state next : State ℕ Timer Sender} {timer : Timer}
variable {trace : Trace (State ℕ Timer Sender) (Action Timer Sender)}

/-- A period of a timer begins: with a start that was sent, with the sample with which the
service has changed the period, or, if the timer reloads, where a callback was due. -/
inductive PeriodBegins (trace : Trace (State ℕ Timer Sender) (Action Timer Sender))
    (state : State ℕ Timer Sender) (timer : Timer) : ℕ → Prop
  | started {start : Transition (State ℕ Timer Sender) (Action Timer Sender)} {sender : Sender}
      (hstart : start ∈ trace) (haction : start.action = .command sender timer .start) :
      PeriodBegins trace state timer start.source.xTickCount
  | changed {change : Transition (State ℕ Timer Sender) (Action Timer Sender)}
      {xNewPeriod : BitVec 32} {xTimeNow : ℕ} (hchange : change ∈ trace)
      (haction : change.action = .service)
      (hpc : change.source.pc = .obeyCommand ⟨.changePeriod xNewPeriod, timer⟩ xTimeNow) :
      PeriodBegins trace state timer xTimeNow
  | reloaded {callback : Callback ℕ Timer} (hcallback : callback ∈ state.callbacks)
      (htimer : callback.timer = timer)
      (hreload : (state.control timer).uxAutoReload = true) :
      PeriodBegins trace state timer callback.due

variable [DecidableEq Timer] [DecidableEq Sender]

theorem uxAutoReload_step {action : Action Timer Sender}
    (hstep : step state action = some next) (timer : Timer) :
    (next.control timer).uxAutoReload = (state.control timer).uxAutoReload := by
  cases step_effect hstep with
  | ticked | commanded | sent | gaveUp => rfl
  | served _ hserved =>
      cases hserved with
      | periodChanged changed =>
          by_cases hchanged : timer = changed
          · subst hchanged
            simp only [Function.update_self]
          · simp only [Function.update_of_ne hchanged]
      | _ => rfl

theorem callbacks_kept {action : Action Timer Sender}
    (hstep : step state action = some next) : state.callbacks <+: next.callbacks := by
  cases step_effect hstep with
  | ticked | commanded | sent | gaveUp => exact List.prefix_rfl
  | served _ hserved => exact callbacks_served hserved

theorem PeriodBegins.snoc {action : Action Timer Sender} {time : ℕ}
    (hstep : step state action = some next) (hbegins : PeriodBegins trace state timer time) :
    PeriodBegins (trace ++ [⟨state, action, next⟩]) next timer time := by
  cases hbegins with
  | started hstart haction => exact .started (List.mem_append_left _ hstart) haction
  | changed hchange haction hpc => exact .changed (List.mem_append_left _ hchange) haction hpc
  | reloaded hcallback htimer hreload =>
      refine .reloaded ((callbacks_kept hstep).subset hcallback) htimer ?_
      rw [uxAutoReload_step hstep, hreload]

omit [DecidableEq Timer] [DecidableEq Sender] in
theorem scheduled_initial {Begins : ℕ → Prop} :
    Scheduled timer Begins (initial 0 control : State ℕ Timer Sender) where
  starts := by simp [State.Underway, initial, ServicePc.message]
  items := by simp [initial]
  reloads := by simp [initial]
  restarts := by simp [initial]

theorem scheduled_of_path (hpath : Path step (initial 0 control) trace state)
    (htimely : ∀ transition ∈ trace, Timely transition.source) :
    state.links timer ≤ 1 ∧ Scheduled timer (PeriodBegins trace state timer) state := by
  induction hpath with
  | nil => exact ⟨by simp [State.links, initial, ServicePc.held], scheduled_initial⟩
  | @snoc trace source target action hearlier hstep ih =>
      have htimelyBefore := fun transition hmem =>
        htimely transition (List.mem_append_left _ hmem)
      obtain ⟨base, hordered⟩ := ordered_of_path hearlier htimelyBefore
      obtain ⟨hlinked, hbefore⟩ := ih htimelyBefore
      have hkept := links_step hstep timer
      refine ⟨by omega, ?_⟩
      have hmono := hbefore.mono fun time => PeriodBegins.snoc hstep
      have hlast : (⟨source, action, target⟩ : Transition _ _) ∈
          trace ++ [⟨source, action, target⟩] := List.mem_append_right _ List.mem_cons_self
      apply hmono.step hordered hlinked ?_ ?_ hstep
      · rintro rfl
        refine ⟨?_, ?_⟩
        · intro callback hcallback htimer hreload
          exact .reloaded hcallback htimer ((uxAutoReload_step hstep timer).trans hreload)
        · intro period now hpc
          exact .changed hlast rfl hpc
      · rintro sender rfl
        exact .started hlast rfl

/-- A callback is not early, and due one period of its timer after a moment at which a
period of the timer has begun. -/
theorem callbacks_on_schedule (hpath : Path step (initial 0 control) trace state)
    (htimely : ∀ transition ∈ trace, Timely transition.source) (hnow : Timely state)
    {action : Action Timer Sender} (hstep : step state action = some next)
    {callback : Callback ℕ Timer} (hcalled : next.callbacks = state.callbacks ++ [callback]) :
    callback.due ≤ callback.called ∧
      ∃ time, PeriodBegins trace state callback.timer time ∧
        callback.due = time + (state.control callback.timer).xTimerPeriodInTicks.toNat := by
  obtain ⟨base, hordered⟩ := ordered_of_path hpath htimely
  obtain ⟨nextBase, hnext⟩ := hordered.step hnow hstep
  refine ⟨hnext.called callback ?_, ?_⟩
  · rw [hcalled]
    exact List.mem_append_right _ List.mem_cons_self
  · cases step_effect hstep with
    | served _ hserved =>
        exact (scheduled_of_path hpath htimely).2.ends_period hserved hcalled
    | ticked | commanded | sent | gaveUp => simp [State.tick] at hcalled

end Runs

/-- A timer of two ticks that reloads -/
def reloading : Unit → TimerControl := fun _ => ⟨2, true⟩

/-- After its first callback, at tick 3, the timer gets a period of three ticks; three ticks
later it is about to expire. -/
def periodOfThree : List (Action Unit Unit) :=
  carriedOut ++ [.tick, .tick] ++ List.replicate 7 .service ++
    [.tick, .command () () (.changePeriod 3), .send ()] ++ List.replicate 6 .service ++
      [.tick, .tick, .tick] ++ List.replicate 3 .service

theorem callbacks_on_schedule_periodOfThree :
    ∃ run, follow step (initial 0 reloading) periodOfThree = some run ∧
      ∃ next, step run.2 .service = some next ∧
        next.callbacks = run.2.callbacks ++ [⟨(), 6, 6⟩] ∧
          ∃ time, PeriodBegins run.1 run.2 () time ∧
            6 = time + (run.2.control ()).xTimerPeriodInTicks.toNat := by
  refine ⟨_, (Option.some_get (by decide +kernel)).symm, _,
    (Option.some_get (by decide +kernel)).symm, by decide +kernel, ?_⟩
  have hbefore : ∀ transition ∈ ((follow step (initial 0 reloading) periodOfThree).get
      (by decide +kernel)).1, transition.source.xTickCount < 2 ^ 32 := by
    decide +kernel
  exact (callbacks_on_schedule (path_of_schedule _)
    (fun transition hmem => timely_of_lt (hbefore transition hmem))
    (timely_of_lt (by decide +kernel))
    (Option.some_get (by decide +kernel) : _ = step _ .service).symm
    (by decide +kernel : _ = _ ++ [⟨(), 6, 6⟩])).2

end FrequencyRelay.Timers
