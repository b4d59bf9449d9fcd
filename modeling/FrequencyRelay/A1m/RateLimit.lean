import FrequencyRelay.Core.Runs
import FrequencyRelay.A1m.Model

/-!
# How often a load may change

`LoadManagementTask` limits itself to one change per timer period by doing
nothing while `load_timer` is active.  It arms the timer through a command queue,
and asks the timer, not the queue: a request that arrives before the timer
service has carried out the reset finds the timer dormant and changes a second
load, and so does one that arrives when the timer has run out and its callback has
not yet run, or when a press of the button has stopped it.  Whenever none of this is
under way by the time of the decision, the limit holds.
-/

namespace FrequencyRelay.A1m

open FrequencyRelay.LoadScan
open FrequencyRelay.OneShotTimer
open FrequencyRelay.Runs

variable {numOfLoads : ℕ}

/-- `LoadManagementTask` changes `blocked_loads`. -/
def ChangesBlocked (transition : Transition State Action) : Prop :=
  transition.action = .loadManagement ∧
    transition.target.blockedLoads ≠ transition.source.blockedLoads

/-- `ToggleMaintenanceTask` takes `maintenance_sem`. -/
def TakesPress (transition : Transition State Action) : Prop :=
  transition.action = .toggleMaintenance ∧
    transition.source.toggleMaintenance = .takeSemaphore ∧
      transition.source.maintenanceSem = true

/-- `ToggleMaintenanceTask` toggles the mode, which ends its pass. -/
def EndsPass (transition : Transition State Action) : Prop :=
  transition.action = .toggleMaintenance ∧
    transition.source.toggleMaintenance = .toggle

/-- A stretch of a run contains a whole pass of `ToggleMaintenanceTask`. -/
def MaintenancePass (trace : Trace State Action) : Prop :=
  ∃ before taking between toggling after,
    trace = before ++ taking :: (between ++ toggling :: after) ∧
      TakesPress taking ∧ EndsPass toggling

/-- A stretch of a run contains a run of `LoadControlTimerCallback` or a pass of
`ToggleMaintenanceTask`. -/
def EndsPeriod (trace : Trace State Action) : Prop :=
  (∃ transition ∈ trace, transition.action = .timerCallback) ∨ MaintenancePass trace

instance : DecidablePred ChangesBlocked :=
  fun _ => inferInstanceAs (Decidable (_ ∧ _))

/-- Any two consecutive changes are separated by a run of the callback or a pass of
`ToggleMaintenanceTask`. -/
def OneChangePerPeriod (trace : Trace State Action) : Prop :=
  ∀ before first between second after,
    trace = before ++ first :: (between ++ second :: after) →
      ChangesBlocked first → ChangesBlocked second →
        (∀ transition ∈ between, ¬ ChangesBlocked transition) → EndsPeriod between

/-- Everything but a write of the environment to `unstable_state`. -/
def Action.ofProgram : Action → Bool
  | .setUnstable _ => false
  | _ => true

/-- The steps are those of the tasks, the timer service and the interrupts. -/
def OnlyProgram (trace : Trace State Action) : Prop :=
  ∀ transition ∈ trace, transition.action.ofProgram = true

/-- The timer is dormant with no reset of it on its way, its callback has returned,
and `ToggleMaintenanceTask` is waiting for a press. -/
structure Idle (state : State) : Prop where
  dormant : state.loadTimer.active = false
  carriedOut : Command.reset ∉ state.loadTimer.commands
  returned : state.inCallback = false
  waiting : state.toggleMaintenance = .takeSemaphore

/-- `LoadManagementTask` decides on its requests only while nothing is under way with
the timer or in `ToggleMaintenanceTask`. -/
def DecidesWhenIdle (trace : Trace State Action) : Prop :=
  ∀ transition ∈ trace, transition.action = .loadManagement →
    transition.source.loadManagement = .decide → Idle transition.source

instance : DecidablePred OnlyProgram :=
  fun _ => inferInstanceAs (Decidable (∀ _ ∈ _, _))

theorem idle_iff {state : State} :
    Idle state ↔ state.loadTimer.active = false ∧
      Command.reset ∉ state.loadTimer.commands ∧ state.inCallback = false ∧
        state.toggleMaintenance = .takeSemaphore :=
  ⟨fun hidle => ⟨hidle.dormant, hidle.carriedOut, hidle.returned, hidle.waiting⟩,
    fun ⟨hdormant, hcarriedOut, hreturned, hwaiting⟩ =>
      ⟨hdormant, hcarriedOut, hreturned, hwaiting⟩⟩

instance : DecidablePred Idle := fun _ => decidable_of_iff _ idle_iff.symm

instance : DecidablePred DecidesWhenIdle :=
  fun _ => inferInstanceAs (Decidable (∀ _ ∈ _, _))

/-! ## While a period lasts -/

/-- The timer is bound to run, or is about to be sent the reset that makes it so. -/
def Armed (state : State) : Prop :=
  state.loadManagement = .resetUnstable ∨ state.loadManagement = .resetTurnedOn ∨
    state.loadTimer.settled = true

theorem Idle.settled {state : State} (hidle : Idle state) :
    state.loadTimer.settled = false := by
  rw [Bool.eq_false_iff]
  intro hsettled
  rcases Timer.active_or_reset_of_settled hsettled with hactive | hreset
  · simp [hidle.dormant] at hactive
  · exact hidle.carriedOut hreset

/-- What a change leaves behind, until `seen` ends the period: the timer is armed, has
run out with its callback still to come, or has been stopped by a pass of
`ToggleMaintenanceTask` that has begun since. -/
structure PeriodLasts (seen : Trace State Action) (state : State) : Prop where
  begun : state.toggleMaintenance = .takeSemaphore ∨
    ∃ transition ∈ seen, TakesPress transition
  lasts : EndsPeriod seen ∨ Armed state ∨ state.inCallback = true ∨
    state.toggleMaintenance = .toggle

theorem EndsPeriod.snoc {seen : Trace State Action} (hends : EndsPeriod seen)
    (last : Transition State Action) : EndsPeriod (seen ++ [last]) := by
  rcases hends with ⟨transition, hmem, hcallback⟩ |
    ⟨before, taking, between, toggling, after, rfl, htakes, htoggles⟩
  · exact .inl ⟨transition, List.mem_append_left _ hmem, hcallback⟩
  · exact .inr ⟨before, taking, between, toggling, after ++ [last], by simp, htakes,
      htoggles⟩

/-- A pass that has begun in a stretch is a whole one when it ends. -/
theorem endsPeriod_of_toggled {seen : Trace State Action}
    {last : Transition State Action} (hbegun : ∃ taking ∈ seen, TakesPress taking)
    (hlast : EndsPass last) : EndsPeriod (seen ++ [last]) := by
  obtain ⟨taking, hmem, htakes⟩ := hbegun
  obtain ⟨before, between, rfl⟩ := List.append_of_mem hmem
  exact .inr ⟨before, taking, between, last, [], by simp, htakes, hlast⟩

theorem toggleMaintenance_reconnectOrExit (state : State) :
    (reconnectOrExit state).toggleMaintenance = state.toggleMaintenance := by
  obtain ⟨managing, target, heq, -⟩ := reconnectOrExit_eq state
  rw [heq]

theorem inCallback_reconnectOrExit (state : State) :
    (reconnectOrExit state).inCallback = state.inCallback := by
  obtain ⟨managing, target, heq, -⟩ := reconnectOrExit_eq state
  rw [heq]

theorem step_begun {seen : Trace State Action} {state next : State} {action : Action}
    (hstep : step numOfLoads state action = some next)
    (hbegun : state.toggleMaintenance = .takeSemaphore ∨
      ∃ transition ∈ seen, TakesPress transition) :
    next.toggleMaintenance = .takeSemaphore ∨
      ∃ transition ∈ seen ++ [⟨state, action, next⟩], TakesPress transition := by
  have hkept : next.toggleMaintenance = state.toggleMaintenance →
      next.toggleMaintenance = .takeSemaphore ∨
        ∃ transition ∈ seen ++ [⟨state, action, next⟩], TakesPress transition := by
    intro hsame
    rw [hsame]
    apply hbegun.imp_right
    rintro ⟨transition, hmem, htakes⟩
    exact ⟨transition, List.mem_append_left _ hmem, htakes⟩
  have hmoved : state.toggleMaintenance ≠ .takeSemaphore →
      ∃ transition ∈ seen ++ [⟨state, action, next⟩], TakesPress transition := by
    intro hpc
    obtain ⟨transition, hmem, htakes⟩ := hbegun.resolve_left hpc
    exact ⟨transition, List.mem_append_left _ hmem, htakes⟩
  cases stepReading_effect hstep with
  | maintenanceTaken hpc hpressed =>
      exact .inr ⟨_, List.mem_append_right _ (List.mem_singleton_self _), rfl, hpc, hpressed⟩
  | maintenanceChecked hpc | maintenanceStopped hpc =>
      exact .inr (hmoved (by simp [hpc]))
  | maintenanceToggled => exact .inl rfl
  | turnedOnLast | left => exact hkept (toggleMaintenance_reconnectOrExit _)
  | _ => exact hkept rfl

theorem reconnectOrExit_armed {state : State} (hsettled : state.loadTimer.settled = true) :
    Armed (reconnectOrExit state) := by
  obtain ⟨managing, target, heq, -⟩ := reconnectOrExit_eq state
  rw [heq]
  exact .inr (.inr hsettled)

/-- A step of an armed timer's period: the timer stays armed, runs out, or is stopped. -/
theorem step_armed {state next : State} {action : Action}
    (hstep : step numOfLoads state action = some next) (harmed : Armed state) :
    Armed next ∨ next.inCallback = true ∨ next.toggleMaintenance = .toggle := by
  have hsettled : state.loadManagement ≠ .resetUnstable →
      state.loadManagement ≠ .resetTurnedOn → state.loadTimer.settled = true :=
    fun hunstable hturnedOn => (harmed.resolve_left hunstable).resolve_left hturnedOn
  cases stepReading_effect hstep with
  | managementTaken hpc | managementChecked hpc | managementSent queue hpc =>
      exact .inl (.inr (.inr (hsettled (by simp [hpc]) (by simp [hpc]))))
  | managementReset => exact .inl (.inr (.inr (Timer.settled_send _ _)))
  | turnedOff => exact .inl (.inl rfl)
  | turnedOn => exact .inl (.inr (.inl rfl))
  | turnedOnLast hpc | left hpc =>
      left
      apply reconnectOrExit_armed
      exact hsettled (by simp [hpc]) (by simp [hpc])
  | reported loads hpc =>
      have hother : state.loadManagement ≠ .resetUnstable ∧
          state.loadManagement ≠ .resetTurnedOn := by
        rcases hpc with hpc | ⟨hpc, -⟩
        · simp [hpc]
        · simp [hpc]
      exact .inl (.inr (.inr (hsettled hother.1 hother.2)))
  | maintenanceStopped => exact .inr (.inr rfl)
  | commanded hprocess =>
      left
      simpa [Armed, Timer.settled_process hprocess] using harmed
  | expired => exact .inr (.inl rfl)
  | _ => exact .inl harmed

theorem step_periodLasts {seen : Trace State Action} {state next : State}
    {action : Action} (hstep : step numOfLoads state action = some next)
    (hperiod : PeriodLasts seen state) :
    PeriodLasts (seen ++ [⟨state, action, next⟩]) next := by
  refine ⟨step_begun hstep hperiod.begun, ?_⟩
  rcases hperiod.lasts with hends | harmed | hcallback | htoggle
  · exact .inl (hends.snoc _)
  · exact .inr (step_armed hstep harmed)
  · -- only the callback's own step ends it
    cases stepReading_effect hstep with
    | calledBack =>
        exact .inl (.inl ⟨_, List.mem_append_right _ (List.mem_singleton_self _), rfl⟩)
    | turnedOnLast | left =>
        exact .inr (.inr (.inl ((inCallback_reconnectOrExit _).trans hcallback)))
    | expired => exact .inr (.inr (.inl rfl))
    | _ => exact .inr (.inr (.inl hcallback))
  · -- the pass that has stopped the timer ends with its toggle
    have hbegun := hperiod.begun.resolve_left (by simp [htoggle])
    cases stepReading_effect hstep with
    | maintenanceTaken hpc | maintenanceChecked hpc | maintenanceStopped hpc =>
        simp [htoggle] at hpc
    | maintenanceToggled => exact .inl (endsPeriod_of_toggled hbegun ⟨rfl, htoggle⟩)
    | turnedOnLast | left =>
        exact .inr (.inr (.inr ((toggleMaintenance_reconnectOrExit _).trans htoggle)))
    | _ => exact .inr (.inr (.inr htoggle))

theorem periodLasts_of_path {seen : Trace State Action} {state finish : State}
    (hpath : Path (step numOfLoads) state seen finish) (harmed : Armed state)
    (hwaiting : state.toggleMaintenance = .takeSemaphore) : PeriodLasts seen finish := by
  induction hpath with
  | nil => exact ⟨.inl hwaiting, .inr (.inl harmed)⟩
  | snoc _ hstep ih => exact step_periodLasts hstep ih

/-! ## The step that changes a load -/

/-- `LoadManagementTask` changes the blocked loads only where it decides.  The timer
is reset after that, unless the change restored the last blocked load. -/
theorem ChangesBlocked.decides {state next : State} {action : Action}
    (hchanges : ChangesBlocked ⟨state, action, next⟩)
    (hstep : step numOfLoads state action = some next) :
    state.loadManagement = .decide ∧
      next.toggleMaintenance = state.toggleMaintenance ∧
      (Armed next ∨ state.unstableState = false ∧ state.managingLoadState = true) := by
  obtain ⟨rfl, hchange⟩ := hchanges
  cases stepReading_effect hstep with
  | turnedOff hpc => exact ⟨hpc, rfl, .inl (.inl rfl)⟩
  | turnedOn hpc => exact ⟨hpc, rfl, .inl (.inr (.inl rfl))⟩
  | turnedOnLast hpc hstable hmanaging =>
      exact ⟨hpc, toggleMaintenance_reconnectOrExit _, .inr ⟨hstable, hmanaging⟩⟩
  | left =>
      obtain ⟨managing, target, heq, -⟩ := reconnectOrExit_eq state
      rw [heq] at hchange
      exact absurd rfl hchange
  | external _ _ _ _ _ _ hother => exact absurd rfl hother
  | _ => exact absurd rfl hchange

/-- Consecutive changes of any run are a period apart when the task decides while idle,
the change after a load was restored on a stable grid excepted. -/
theorem changes_period_apart {loadValue : Word} {trace : Trace State Action}
    {state : State} (hpath : Path (step numOfLoads) (initial loadValue) trace state)
    (hidle : DecidesWhenIdle trace)
    {before between after : Trace State Action}
    {first second : Transition State Action}
    (htrace : trace = before ++ first :: (between ++ second :: after))
    (hfirst : ChangesBlocked first) (hsecond : ChangesBlocked second)
    (hkept : ¬ (first.source.unstableState = false ∧
      first.source.managingLoadState = true)) : EndsPeriod between := by
  have hmemFirst : first ∈ trace := by simp [htrace]
  have hmemSecond : second ∈ trace := by simp [htrace]
  obtain ⟨hpcFirst, hsame, harmed⟩ := hfirst.decides (hpath.source_of_mem hmemFirst).2
  obtain ⟨hpcSecond, -, -⟩ := hsecond.decides (hpath.source_of_mem hmemSecond).2
  have hidleFirst := hidle first hmemFirst hfirst.1 hpcFirst
  have hidleSecond := hidle second hmemSecond hsecond.1 hpcSecond
  rw [htrace] at hpath
  obtain ⟨-, -, hrest⟩ := path_append_cons_iff.mp hpath
  obtain ⟨hbetween, -, -⟩ := path_append_cons_iff.mp hrest
  have hperiod := periodLasts_of_path hbetween (harmed.resolve_right hkept)
    (hsame.trans hidleFirst.waiting)
  rcases hperiod.lasts with hends | hstill | hcallback | htoggle
  · exact hends
  · simp [Armed, hpcSecond, hidleSecond.settled] at hstill
  · simp [hidleSecond.returned] at hcallback
  · simp [hidleSecond.waiting] at htoggle

/-! ## The program on its own -/

/-- No task of the program ever declares the grid stable again. -/
def ManagedUnstable (state : State) : Prop :=
  state.managingLoadState = true → state.unstableState = true

theorem ManagedUnstable.reconnectOrExit {state : State}
    (hunstable : ManagedUnstable state) :
    ManagedUnstable (A1m.reconnectOrExit state) := by
  obtain ⟨managing, target, heq, hcase⟩ := reconnectOrExit_eq state
  rw [heq]
  rcases hcase with ⟨-, rfl, -⟩ | ⟨-, rfl, -⟩
  · exact hunstable
  · exact fun hmanaging => by cases hmanaging

theorem step_managedUnstable {state next : State} {action : Action}
    (hstep : step numOfLoads state action = some next)
    (hprogram : action.ofProgram = true)
    (hunstable : ManagedUnstable state) : ManagedUnstable next := by
  cases stepReading_effect hstep with
  | turnedOff _ hstate => exact fun _ => hstate
  | turnedOnLast => exact ManagedUnstable.reconnectOrExit hunstable
  | left => exact hunstable.reconnectOrExit
  | maintenanceToggled => exact fun hmanaging => by cases hmanaging
  | analyzerSet => exact fun _ => rfl
  | external _ _ unstable _ hcase =>
      rcases hcase with rfl | rfl
      · exact hunstable
      · cases hprogram
  | _ => exact hunstable

/-- In every run of the program in which `LoadManagementTask` decides while idle, at most
one load changes per timer period. -/
theorem one_change_per_period {loadValue : Word} {trace : Trace State Action}
    {state : State} (hpath : Path (step numOfLoads) (initial loadValue) trace state)
    (hprogram : OnlyProgram trace) (hidle : DecidesWhenIdle trace) :
    OneChangePerPeriod trace := by
  intro before first between second after htrace hfirst hsecond _
  apply changes_period_apart hpath hidle htrace hfirst hsecond
  rintro ⟨hstable, hmanaging⟩
  subst htrace
  obtain ⟨hearlier, -, -⟩ := path_append_cons_iff.mp hpath
  have hunstable : ManagedUnstable first.source := by
    apply hearlier.preserves
    · simp [ManagedUnstable, initial]
    · intro transition hmem hstep
      exact step_managedUnstable hstep
        (hprogram transition (List.mem_append_left _ hmem))
  simp [hunstable hmanaging] at hstable

/-- A disturbance, the rest of that pass of `LoadManagementTask`, and the timer
period up to the second shed. -/
def onePeriod : List Action :=
  oneDisturbance ++ List.replicate 3 .loadManagement ++
    [.timerCommand, .timerCommand, .timerExpiry, .timerCallback] ++
      List.replicate 3 .loadManagement

theorem one_change_per_period_onePeriod :
    ∃ run, follow (step 5) (initial 31) onePeriod = some run ∧
      run.2.blockedLoads = 3 ∧ OneChangePerPeriod run.1 :=
  ⟨_, (Option.some_get rfl).symm, rfl,
    one_change_per_period (path_of_schedule rfl)
      (by decide) (by decide)⟩

/-- A disturbance, the rest of that pass of `LoadManagementTask`, and a second
disturbance before the timer service has run. -/
def twoDisturbances : List Action :=
  oneDisturbance ++ List.replicate 3 .loadManagement ++ oneDisturbance

/-- Two loads are shed in one timer period. -/
theorem two_changes_in_one_period :
    ¬ ∀ (loadValue : Word) (trace : Trace State Action) (state : State),
      Path (step 5) (initial loadValue) trace state → OnlyProgram trace →
        OneChangePerPeriod trace := by
  intro hclaim
  let run := (follow (step 5) (initial 31) twoDisturbances).get rfl
  have hpath : Path (step 5) (initial 31) run.1 run.2 :=
    path_of_schedule rfl
  have hprogram : OnlyProgram run.1 := by decide
  have hends := hclaim 31 run.1 run.2 hpath hprogram
    (run.1.take 6) (run.1.get ⟨6, by decide⟩) ((run.1.drop 7).take 9)
    (run.1.get ⟨16, by decide⟩) [] rfl (by decide) (by decide) (by decide)
  have hnone : ∀ other ∈ (run.1.drop 7).take 9,
      other.action ≠ .timerCallback ∧ other.action ≠ .toggleMaintenance := by decide
  rcases hends with ⟨transition, hmem, hcallback⟩ |
    ⟨before, taking, between, toggling, after, hsplit, htakes, -⟩
  · exact (hnone transition hmem).1 hcallback
  · exact (hnone taking (by simp [hsplit])).2 htakes.1

end FrequencyRelay.A1m
