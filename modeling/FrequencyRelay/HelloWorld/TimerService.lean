import FrequencyRelay.Core.Runs
import FrequencyRelay.HelloWorld.Model

/-!
# The life of the load-management timer

After the first shed of an episode, everything waits for the timer.  Up to its
first expiry the timer is indeed bound to run whenever loads are managed.  That
expiry makes the timer service enter `loadManagerTask`, which does not return:
from then on no command is carried out, the timer stays dormant, and only a new
verdict can give `loadManagementSemaphore`.
-/

namespace FrequencyRelay.HelloWorld

open FrequencyRelay.LoadScan
open FrequencyRelay.OneShotTimer
open FrequencyRelay.Runs

variable {config : Config} {state next : State} {action : Action}

/-! ## The timer service -/

theorem ne_timerExpiry (hperipheral : action.isPeripheral = true) :
    action ≠ .timerExpiry := by
  intro hexpires
  rw [hexpires] at hperipheral
  cases hperipheral

/-- The service is free until the timer first expires. -/
theorem step_serviceFree (hstep : step config state action = some next) :
    next.serviceFree ↔ state.serviceFree ∧ action ≠ .timerExpiry := by
  have hmoved : ∀ manager pc target, state.loadManagers manager = some pc →
      (Function.update state.loadManagers manager (some target) .callback = none ↔
        state.loadManagers .callback = none) := by
    intro manager pc target hpc
    cases manager with
    | task => rw [Function.update_of_ne (by decide)]
    | callback => simp [hpc]
  unfold State.serviceFree
  cases step_effect hstep with
  | managerTaken manager hpc | managerChecked manager hpc
  | managerReset manager hpc | managed manager hpc | sent manager queue hpc =>
      simpa using hmoved manager _ _ hpc
  | expired => simp
  | peripheral _ _ _ _ _ hperipheral =>
      simp [ne_timerExpiry hperipheral]
  | _ => simp

theorem serviceFree_of_path_iff {start : State} {trace : Trace State Action}
    (hpath : Path (step config) start trace state) :
    state.serviceFree ↔
      start.serviceFree ∧ ∀ transition ∈ trace, transition.action ≠ .timerExpiry := by
  induction hpath with
  | nil => simp
  | snoc hearlier hstep ih =>
      rw [step_serviceFree hstep, ih]
      simp [or_imp, forall_and, and_assoc]

theorem serviceFree_iff {activatedLoads : Word} {trace : Trace State Action}
    (hpath : Path (step config) (initial activatedLoads) trace state) :
    state.serviceFree ↔ ∀ transition ∈ trace, transition.action ≠ .timerExpiry := by
  rw [serviceFree_of_path_iff hpath, and_iff_right]
  rfl

/-! ## The next wake-up of load management -/

/-- `frequencyAnalyserTask`, `maintenanceTask` and every instance of
`loadManagerTask` wait at the top of their loops. -/
structure AtLoopTops (state : State) : Prop where
  frequencyAnalyser : state.frequencyAnalyser = .betweenSamples
  maintenance : state.maintenance = .takeSemaphore
  loadManagers : ∀ manager pc, state.loadManagers manager = some pc →
    pc = .takeSemaphore

/-- A request can be taken, or the timer service will make one: it can run the
callback of a running timer, or has a reset before it that it will carry out. -/
def WakeUpAhead (state : State) : Prop :=
  state.loadManagementSemaphore = true ∨
    state.loadManagementTimer.active = true ∧ state.serviceFree ∨
      Command.reset ∈ state.loadManagementTimer.commands ∧ state.serviceFree

/-- While loads are managed the timer is bound to run, unless `maintenanceTask`
has stopped it on its way to ending load management. -/
def Rearmed (state : State) : Prop :=
  state.serviceFree → state.isManagingLoads = true →
    state.loadManagementTimer.settled = true ∨ state.maintenance = .toggle

theorem step_rearmed (hstep : step config state action = some next)
    (hrearmed : Rearmed state) : Rearmed next := by
  intro hfree hmanaging
  have hbefore := ((step_serviceFree hstep).mp hfree).1
  have hkept := hrearmed hbefore
  cases step_effect hstep with
  | maintenanceTaken hpc => exact .inl ((hkept hmanaging).resolve_right (by simp [hpc]))
  | maintenanceChecked hpc =>
      exact .inl ((hkept hmanaging).resolve_right (by simp [hpc]))
  | maintenanceStopped => exact .inr rfl
  | maintenanceToggled => cases hmanaging
  | managerReset => exact .inl (Timer.settled_send _ _)
  | managed _ _ hmanaged =>
      cases hmanaged with
      | shed | restored => exact .inl (Timer.settled_send _ _)
      | finished | left => cases hmanaging
  | commanded _ hprocess =>
      rw [Timer.settled_process hprocess]
      exact hkept hmanaging
  | expired => simp [State.serviceFree] at hfree
  | _ => exact hkept hmanaging

theorem rearmed_of_path {activatedLoads : Word} {trace : Trace State Action}
    (hpath : Path (step config) (initial activatedLoads) trace state) :
    Rearmed state :=
  hpath.invariant (fun _ hmanaging => by cases hmanaging) fun _ _ _ => step_rearmed

/-- Managed loads with all tasks waiting have a wake-up ahead exactly if the timer
has never expired in the run, or a request is there to be taken. -/
theorem wakeUp_ahead_iff {activatedLoads : Word} {trace : Trace State Action}
    (hpath : Path (step config) (initial activatedLoads) trace state)
    (hmanaging : state.isManagingLoads = true) (htops : AtLoopTops state) :
    WakeUpAhead state ↔
      (∀ transition ∈ trace, transition.action ≠ .timerExpiry) ∨
        state.loadManagementSemaphore = true := by
  rw [← serviceFree_iff hpath]
  constructor
  · rintro (hsemaphore | ⟨-, hfree⟩ | ⟨-, hfree⟩)
    · exact .inr hsemaphore
    · exact .inl hfree
    · exact .inl hfree
  · rintro (hfree | hsemaphore)
    · have hsettled := (rearmed_of_path hpath hfree hmanaging).resolve_right
        (by simp [htops.maintenance])
      rcases Timer.active_or_reset_of_settled hsettled with hactive | hreset
      · exact .inr (.inl ⟨hactive, hfree⟩)
      · exact .inr (.inr ⟨hreset, hfree⟩)
    · exact .inl hsemaphore

/-- A stable and an unstable verdict, each served, and the reset of the timer. -/
def firstShed : List Action :=
  verdict true ++ request ++ verdict false ++ request ++ [.timerCommand, .timerCommand]

theorem wakeUp_ahead_firstShed :
    ∃ run, follow (step ⟨5, 1⟩) afterSetup firstShed = some run ∧
      run.2.loadManagementSemaphore = false ∧ WakeUpAhead run.2 :=
  ⟨_, (Option.some_get rfl).symm, rfl,
    (wakeUp_ahead_iff (path_of_schedule rfl) rfl
      ⟨rfl, rfl, by decide⟩).mpr (.inl (by decide))⟩

/-- After the timer has expired, nothing is left to wake the load manager up. -/
theorem no_wakeUp_after_expiry :
    ¬ ∀ state, Reachable (step ⟨5, 1⟩) afterSetup state →
      state.isManagingLoads = true → AtLoopTops state → WakeUpAhead state := by
  intro hclaim
  let run := (follow (step ⟨5, 1⟩) afterSetup (firstShed ++ [.timerExpiry])).get rfl
  have hreach : Reachable (step ⟨5, 1⟩) afterSetup run.2 :=
    ⟨run.1, path_of_schedule rfl⟩
  have hsemaphore : run.2.loadManagementSemaphore = false := rfl
  have hcaptured : ¬ run.2.serviceFree := by decide
  simpa [WakeUpAhead, hsemaphore, hcaptured] using
    hclaim run.2 hreach rfl ⟨rfl, rfl, by decide⟩

end FrequencyRelay.HelloWorld
