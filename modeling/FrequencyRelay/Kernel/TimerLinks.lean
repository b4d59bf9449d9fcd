import FrequencyRelay.Kernel.TimerSteps

/-!
# A timer is in one list at most

The list item of a timer is linked into one list at most, and while the service carries
a timer on to another list the item is in none.  So `vListInsert` never gets an item that
is still linked, whatever the senders and the ticks do.
-/

namespace FrequencyRelay.Timers

open FrequencyRelay.Runs
open FrequencyRelay.SortedInsertion
open FrequencyRelay.Ticks

variable {Time Timer Sender : Type*} [TickType Time] [DecidableEq Timer]

/-- The timer of the message that the caller of `prvSampleTimeNow` is working on -/
def Caller.held : Caller Time Timer → List Timer
  | .processTimer _ => []
  | .receivedCommand xMessage => [xMessage.pxTimer]

/-- The timers that the service may put into a list without removing them first -/
def ServicePc.held : ServicePc Time Timer → List Timer
  | .sampleTimeNow caller => caller.held
  | .switchTimerLists _ caller => caller.held
  | .switchReload item _ caller => item.pvOwner :: caller.held
  | .obeyCommand xMessage _ => [xMessage.pxTimer]
  | _ => []

/-- How often a timer is in a list. -/
def listed (timer : Timer) (items : List (ListItem Time Timer)) : ℕ :=
  (items.map ListItem.pvOwner).count timer

/-- How often a timer is in one of the lists or held by the service. -/
def State.links (state : State Time Timer Sender) (timer : Timer) : ℕ :=
  listed timer state.pxCurrentTimerList + listed timer state.pxOverflowTimerList +
    state.pc.held.count timer

section Listed

variable {timer other : Timer} {item : ListItem Time Timer}
variable {items : List (ListItem Time Timer)}

omit [TickType Time] in
@[simp]
theorem listed_nil : listed timer ([] : List (ListItem Time Timer)) = 0 := rfl

omit [TickType Time] in
@[simp]
theorem listed_cons :
    listed timer (item :: items) = listed timer items + [item.pvOwner].count timer := by
  rw [listed, List.map_cons, List.count_cons, List.count_singleton, listed]

@[simp]
theorem listed_insertByKey :
    listed timer (insertByKey itemKey item items) =
      listed timer items + [item.pvOwner].count timer := by
  rw [listed, ((insertByKey_perm item items).map _).count_eq, ← listed, listed_cons]

omit [TickType Time] in
theorem listed_listRemove_self : listed timer (State.listRemove timer items) = 0 := by
  rw [listed, List.count_eq_zero]
  simp [State.listRemove]

omit [TickType Time] in
theorem listed_listRemove_le (timer other : Timer) (items : List (ListItem Time Timer)) :
    listed timer (State.listRemove other items) ≤ listed timer items :=
  (List.filter_sublist.map ListItem.pvOwner).count_le timer

end Listed

theorem listed_placed {item : ListItem Time Timer} {xTimeNow : Time}
    {current overflow placedCurrent placedOverflow : List (ListItem Time Timer)}
    (hplaced : Placed item xTimeNow current overflow placedCurrent placedOverflow)
    (timer : Timer) :
    listed timer placedCurrent + listed timer placedOverflow =
      listed timer current + listed timer overflow + [item.pvOwner].count timer := by
  cases hplaced with
  | current =>
      rw [listed_insertByKey]
      omega
  | overflow =>
      rw [listed_insertByKey]
      omega

variable {state next : State Time Timer Sender}

theorem links_served (hserved : Served state next) (timer : Timer) :
    next.links timer ≤ max 1 (state.links timer) := by
  unfold State.links
  cases hserved with
  | queried hpc | wrapped _ hpc | due _ hpc | slept _ hpc | stayed _ hpc | sampled _ hpc
  | switchResent _ _ _ hpc | emptied hpc | stopped _ _ hpc | restarted _ _ hpc =>
      simp only [hpc, ServicePc.held, Caller.held, List.count_cons, List.count_nil]
      omega
  | startedLate _ _ _ hpc =>
      simp only [hpc, apply_ite ServicePc.held]
      simp only [ServicePc.held, ite_self, List.count_nil]
      omega
  | switchCalled _ caller item rest hpc hcurrent =>
      simp only [hpc, hcurrent, listed_cons, apply_ite ServicePc.held]
      split
      · rw [ServicePc.held, ServicePc.held, List.count_cons, List.count_singleton]
        omega
      · rw [ServicePc.held]
        omega
  | switchReinserted item _ caller hpc =>
      simp only [hpc, ServicePc.held, listed_insertByKey, List.count_cons, List.count_nil]
      omega
  | switched now caller hpc hcurrent =>
      have hheld : (caller.switched now).held = caller.held := by
        cases caller <;> rfl
      simp only [hpc, hcurrent, listed_nil, hheld]
      rw [ServicePc.held]
      omega
  | expired _ _ item rest hpc hcurrent | expiredResent _ _ item rest hpc hcurrent =>
      simp only [hpc, hcurrent, listed_cons, ServicePc.held, List.count_nil]
      omega
  | expiredPlaced _ _ item rest current overflow hpc hcurrent _ _ hplaced =>
      have hlisted := listed_placed hplaced timer
      simp only [hpc, hcurrent, listed_cons, ServicePc.held, List.count_nil] at hlisted ⊢
      omega
  | received message messages hpc =>
      simp only [hpc, ServicePc.held, Caller.held]
      by_cases htimer : timer = message.pxTimer
      · rw [← htimer, listed_listRemove_self, listed_listRemove_self,
          List.count_singleton_self]
        omega
      · have hcurrent := listed_listRemove_le timer message.pxTimer state.pxCurrentTimerList
        have hoverflow := listed_listRemove_le timer message.pxTimer state.pxOverflowTimerList
        rw [List.count_eq_zero.mpr (by simpa using htimer)]
        omega
  | started obeyed _ _ current overflow hpc _ hplaced =>
      have hlisted := listed_placed hplaced timer
      simp only [hpc, ServicePc.held, List.count_nil] at hlisted ⊢
      omega
  | periodChanged obeyed _ _ current overflow hpc hplaced =>
      rcases hplaced with ⟨-, hplaced⟩ | ⟨-, rfl, rfl⟩
      · have hlisted := listed_placed hplaced timer
        simp only [hpc, ServicePc.held, List.count_nil] at hlisted ⊢
        omega
      · simp only [hpc, ServicePc.held, List.count_nil]
        omega

omit [DecidableEq Timer] in
theorem held_tick (pc : ServicePc Time Timer) (xTickCount : Time) :
    (pc.tick xTickCount).held = pc.held := by
  cases pc with
  | blocked =>
      simp only [ServicePc.tick, apply_ite ServicePc.held]
      simp only [ServicePc.held, ite_self]
  | _ => rfl

omit [TickType Time] [DecidableEq Timer] in
theorem held_ready (pc : ServicePc Time Timer) : pc.ready.held = pc.held := by
  cases pc <;> rfl

theorem links_step [DecidableEq Sender] {action : Action Timer Sender}
    (hstep : step state action = some next) (timer : Timer) :
    next.links timer ≤ max 1 (state.links timer) := by
  cases step_effect hstep with
  | served _ hserved => exact links_served hserved timer
  | ticked =>
      rw [State.links, State.tick, held_tick]
      exact le_max_right _ _
  | sent =>
      rw [State.links, held_ready]
      exact le_max_right _ _
  | commanded | gaveUp => exact le_max_right _ _

/-- Whatever happens, a timer is at one place at most. -/
theorem timer_linked_once [DecidableEq Sender] {zero : Time} {control : Timer → TimerControl}
    (hreach : Reachable step (initial zero control : State Time Timer Sender) state)
    (timer : Timer) : state.links timer ≤ 1 := by
  apply hreach.invariant
  · simp [State.links, initial, ServicePc.held]
  · intro source action target hstep hlinks
    have hkept := links_step hstep timer
    omega

theorem timer_linked_once_carriedOut :
    ∃ run, follow step (initial (0 : BitVec 32) twoTicks) carriedOut = some run ∧
      run.2.pxCurrentTimerList = [⟨2, ()⟩] ∧ run.2.links () ≤ 1 :=
  ⟨_, (Option.some_get rfl).symm, rfl, timer_linked_once ⟨_, path_of_schedule rfl⟩ ()⟩

end FrequencyRelay.Timers
