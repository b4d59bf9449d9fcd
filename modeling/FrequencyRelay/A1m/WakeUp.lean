import FrequencyRelay.Core.Runs
import FrequencyRelay.A1m.Model

/-!
# Shed loads are never stranded

After a shed, everything that happens next depends on `LoadManagementTask` being
woken once more.  The wake-up lives in the semaphore, in the running timer, in a
queued command, in the expiry callback, or in a task that is on its way to
produce one of these; every step moves it from one of those places to another.
-/

namespace FrequencyRelay.A1m

open FrequencyRelay.BitMasks
open FrequencyRelay.LoadScan
open FrequencyRelay.OneShotTimer
open FrequencyRelay.Runs

variable {numOfLoads : ℕ}

/-- `LoadManagementTask` has taken a request and has not yet reset the timer or
left load management. -/
def LoadManagementPc.Handling : LoadManagementPc → Prop
  | .checkTimer | .resetActive | .decide | .resetUnstable | .resetTurnedOn => True
  | _ => False

/-- `load_manage_sem` is available, the timer will be active once the queued
commands are processed, the expiry callback is about to give the semaphore,
`FrequencyTaskAnalyzer` is about to give it, `LoadManagementTask` is handling a
request, or `ToggleMaintenanceTask` is about to clear the management state. -/
def WakeUpPending (state : State) : Prop :=
  state.loadManageSem = true ∨
    state.loadTimer.settled = true ∨
      state.inCallback = true ∨
        state.frequencyAnalyzer = .give ∨
          state.loadManagement.Handling ∨
            state.toggleMaintenance = .toggle

/-- A wake-up that is not with `LoadManagementTask` stays when that task moves. -/
theorem WakeUpPending.of_moved {state : State} (hwake : WakeUpPending state)
    (hidle : ¬ state.loadManagement.Handling) (managing : Bool)
    (queue : List LoadValues) (target : LoadManagementPc) :
    WakeUpPending { state with
      managingLoadState := managing, taskQ := queue, loadManagement := target } := by
  rcases hwake with hsem | htimer | hcallback | hgive | hhandling | htoggle
  · exact .inl hsem
  · exact .inr (.inl htimer)
  · exact .inr (.inr (.inl hcallback))
  · exact .inr (.inr (.inr (.inl hgive)))
  · exact absurd hhandling hidle
  · exact .inr (.inr (.inr (.inr (.inr htoggle))))

/-- What every step keeps: only managed loads are blocked, the scanning loops
reach all of them, and a managed state has its next wake-up. -/
structure Supervised (numOfLoads : ℕ) (state : State) : Prop where
  managed : state.managingLoadState = false → state.blockedLoads = 0
  within : members state.blockedLoads ⊆ Finset.range numOfLoads
  pending : state.managingLoadState = true → WakeUpPending state

theorem initial_supervised (loadValue : Word) :
    Supervised numOfLoads (initial loadValue) where
  managed _ := rfl
  within := by simp [initial]
  pending hmanaging := by simp [initial] at hmanaging

/-- Leaving `turn_on_most_important_load` with a load still blocked keeps
management on; with none blocked it ends. -/
theorem reconnectOrExit_supervised (hnum : numOfLoads ≤ 31) {state : State}
    (hwithin : members state.blockedLoads ⊆ Finset.range numOfLoads)
    (hmanaged : state.managingLoadState = false → state.blockedLoads = 0)
    (hpending : state.blockedLoads ≠ 0 → state.managingLoadState = true →
      WakeUpPending (reconnectOrExit state)) :
    Supervised numOfLoads (reconnectOrExit state) := by
  have hpos : 0 < state.blockedLoads.toInt ↔ state.blockedLoads ≠ 0 :=
    toInt_pos_iff (hwithin.trans (Finset.range_subset_range.mpr (by omega)))
  obtain ⟨managing, target, heq, hcase⟩ := reconnectOrExit_eq state
  rw [heq] at hpending ⊢
  rcases hcase with ⟨hblocked, rfl, -⟩ | ⟨hnone, rfl, -⟩
  · exact ⟨hmanaged, hwithin, hpending (hpos.mp hblocked)⟩
  · have hzero : state.blockedLoads = 0 := not_not.mp fun hne => hnone (hpos.mpr hne)
    exact ⟨fun _ => hzero, hwithin, fun hmanaging => by cases hmanaging⟩

theorem step_supervised (hnum : numOfLoads ≤ 31) {state next : State}
    {action : Action} (hstep : step numOfLoads state action = some next)
    (hsup : Supervised numOfLoads state) : Supervised numOfLoads next := by
  have hrestored : members (restoreOne numOfLoads state.blockedLoads) ⊆
      Finset.range numOfLoads := (restoreOne_subset (by omega)).trans hsup.within
  obtain ⟨hmanaged, hwithin, hpending⟩ := hsup
  cases stepReading_effect hstep with
  | managementTaken =>
      exact ⟨hmanaged, hwithin, fun _ => by
        simp [WakeUpPending, LoadManagementPc.Handling]⟩
  | managementChecked =>
      refine ⟨hmanaged, hwithin, fun _ => ?_⟩
      cases state.loadTimer.active <;>
        simp [WakeUpPending, LoadManagementPc.Handling]
  | managementReset =>
      exact ⟨hmanaged, hwithin, fun _ => by simp [WakeUpPending, Command.starts]⟩
  | turnedOff =>
      exact ⟨fun hmanaging => by simp at hmanaging, shedOne_within (by omega) hwithin,
        fun _ => by simp [WakeUpPending, LoadManagementPc.Handling]⟩
  | turnedOn _ _ hmanaging =>
      exact ⟨fun hoff => by simp [hmanaging] at hoff, hrestored,
        fun _ => by simp [WakeUpPending, LoadManagementPc.Handling]⟩
  | turnedOnLast _ _ _ hreset =>
      have hzero := restoreOne_eq_zero (by omega) hwithin hreset
      exact reconnectOrExit_supervised hnum hrestored (fun _ => hzero)
        fun hblocked => absurd hzero hblocked
  | left hpc =>
      -- the reset just queued, or what became of it, is not touched here
      apply reconnectOrExit_supervised hnum hwithin hmanaged
      intro _ hmanaging
      obtain ⟨managing, target, heq, -⟩ := reconnectOrExit_eq state
      rw [heq]
      exact (hpending hmanaging).of_moved (by simp [hpc, LoadManagementPc.Handling])
        _ _ _
  | reported loads hpc =>
      refine ⟨hmanaged, hwithin, fun hmanaging => ?_⟩
      have hsnapshot : state.loadManagement = .snapshot :=
        hpc.resolve_right fun hidle => by
          rw [show state.managingLoadState = true from hmanaging] at hidle
          cases hidle.2
      exact (hpending hmanaging).of_moved
        (by simp [hsnapshot, LoadManagementPc.Handling]) _ _ _
  | managementSent queue hpc =>
      refine ⟨hmanaged, hwithin, fun hmanaging => ?_⟩
      exact (hpending hmanaging).of_moved (by simp [hpc, LoadManagementPc.Handling])
        _ _ _
  | maintenanceTaken hpc =>
      refine ⟨hmanaged, hwithin, fun hmanaging => ?_⟩
      simpa [WakeUpPending, hpc] using hpending hmanaging
  | maintenanceChecked hpc =>
      refine ⟨hmanaged, hwithin, fun hmanaging => ?_⟩
      have hwake := hpending hmanaging
      simp only [WakeUpPending, hpc, reduceCtorEq, or_false] at hwake
      exact hwake.imp_right (Or.imp_right (Or.imp_right (Or.imp_right .inl)))
  | maintenanceStopped =>
      exact ⟨hmanaged, hwithin, fun _ => by simp [WakeUpPending]⟩
  | maintenanceToggled =>
      exact ⟨fun _ => rfl, by simp, fun hmanaging => by simp at hmanaging⟩
  | masked switches _ hmanaging =>
      refine ⟨fun hoff => by simp [hmanaging] at hoff, ?_, hpending⟩
      rw [members_and]
      exact Finset.inter_subset_left.trans hwithin
  | analyzerTaken hpc =>
      refine ⟨hmanaged, hwithin, fun hmanaging => ?_⟩
      simpa [WakeUpPending, hpc] using hpending hmanaging
  | analyzerSet =>
      exact ⟨fun hmanaging => by simp at hmanaging, hwithin,
        fun _ => by simp [WakeUpPending]⟩
  | analyzerGave => exact ⟨hmanaged, hwithin, fun _ => .inl rfl⟩
  | commanded hprocess =>
      -- carrying out a command changes the timer towards where it was bound
      refine ⟨hmanaged, hwithin, fun hmanaging => ?_⟩
      simpa [WakeUpPending, Timer.settled_process hprocess] using hpending hmanaging
  | expired => exact ⟨hmanaged, hwithin, fun _ => by simp [WakeUpPending]⟩
  | calledBack => exact ⟨hmanaged, hwithin, fun _ => .inl rfl⟩
  | managementWaited | maintenanceWaited | polled | analyzerWaited | external =>
      exact ⟨hmanaged, hwithin, hpending⟩

/-- In every reachable state that manages loads or blocks one, a wake-up of
`LoadManagementTask` is pending. -/
theorem shed_loads_never_stranded (hnum : numOfLoads ≤ 30) (loadValue : Word)
    {state : State} (hreach : Reachable (step numOfLoads) (initial loadValue) state)
    (hmanaged : state.managingLoadState = true ∨ state.blockedLoads ≠ 0) :
    WakeUpPending state := by
  have hsup := hreach.invariant (initial_supervised loadValue)
    fun _ _ _ hstep => step_supervised (by omega) hstep
  rcases hmanaged with hmanaging | hblocked
  · exact hsup.pending hmanaging
  · apply hsup.pending
    by_contra hoff
    exact hblocked (hsup.managed (Bool.eq_false_iff.mpr hoff))

theorem shed_loads_never_stranded_firstShed :
    ∃ run, follow (step 5) (initial 31) oneDisturbance = some run ∧
      run.2.blockedLoads = 1 ∧ WakeUpPending run.2 :=
  ⟨_, (Option.some_get rfl).symm, rfl,
    shed_loads_never_stranded (by decide) 31
      ⟨_, path_of_schedule rfl⟩ (.inl rfl)⟩

end FrequencyRelay.A1m
