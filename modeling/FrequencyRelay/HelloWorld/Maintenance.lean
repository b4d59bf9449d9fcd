import FrequencyRelay.Core.Runs
import FrequencyRelay.HelloWorld.Model

/-!
# Load management during maintenance

`maintenanceTask` ends load management when it toggles `inMaintenance`, and
`frequencyAnalyserTask` asks for none while the flag is set.  `loadManagerTask`
does not look at the flag: a request given before the toggle and taken after it
finds the grid unstable and sheds a load.  This is the only way in which
maintenance and load management ever meet.
-/

namespace FrequencyRelay.HelloWorld

open FrequencyRelay.LoadScan
open FrequencyRelay.Runs

variable {config : Config}

/-- No load is managed in maintenance, and none is blocked. -/
def NotManagedInMaintenance (state : State) : Prop :=
  state.inMaintenance = true →
    state.isManagingLoads = false ∧ state.blockedLoads = 0

/-- An instance of `loadManagerTask` enters its mutexes in maintenance and finds
the grid unstable. -/
def ShedsInMaintenance (transition : Transition State Action) : Prop :=
  (∃ manager, transition.action = .loadManager manager ∧
    transition.source.loadManagers manager = some .manage) ∧
  transition.source.inMaintenance = true ∧ transition.source.isStable = false

instance : DecidablePred ShedsInMaintenance :=
  fun _ => inferInstanceAs (Decidable ((∃ _, _) ∧ _ ∧ _))

/-- Every other step keeps maintenance and load management apart. -/
theorem step_notManagedInMaintenance {state next : State} {action : Action}
    (hstep : step config state action = some next)
    (hshed : ¬ ShedsInMaintenance ⟨state, action, next⟩)
    (hinv : NotManagedInMaintenance state) : NotManagedInMaintenance next := by
  cases step_effect hstep with
  | maintenanceToggled => exact fun _ => ⟨rfl, rfl⟩
  | managed manager hpc hmanaged =>
      intro hmaintenance
      obtain ⟨hidle, hnone⟩ := hinv hmaintenance
      cases hmanaged with
      | shed hunstable => exact absurd ⟨⟨manager, rfl, hpc⟩, hmaintenance, hunstable⟩ hshed
      | restored _ hmanaging => simp [hidle] at hmanaging
      | finished _ hmanaging => simp [hidle] at hmanaging
      | left => exact ⟨rfl, hnone⟩
  | _ => exact hinv

/-- The excepted step does break the property. -/
theorem ShedsInMaintenance.managed {transition : Transition State Action}
    (hshed : ShedsInMaintenance transition)
    (hstep : step config transition.source transition.action =
      some transition.target) :
    ¬ NotManagedInMaintenance transition.target := by
  obtain ⟨source, action, target⟩ := transition
  obtain ⟨⟨manager, rfl, hpc⟩, hmaintenance, hunstable⟩ := hshed
  intro hinv
  dsimp only at hpc hmaintenance hunstable hinv hstep
  cases step_effect hstep with
  | managed _ _ hmanaged =>
      have hidle := (hinv hmaintenance).1
      cases hmanaged with
      | shed => cases hidle
      | restored hstable | finished hstable | left hstable =>
          simp [hunstable] at hstable
  | managerWaited _ hother | managerTaken _ hother | managerChecked _ hother
  | managerReset _ hother | sent _ _ hother => simp [hpc] at hother
  | peripheral _ _ _ _ _ hother => cases hother

/-- Loads are managed in maintenance in exactly those runs in which
`loadManagerTask` sheds in maintenance. -/
theorem not_managed_in_maintenance_iff {activatedLoads : Word}
    {trace : Trace State Action} {state : State}
    (hpath : Path (step config) (initial activatedLoads) trace state) :
    (∀ passed ∈ visited (initial activatedLoads) trace,
      NotManagedInMaintenance passed) ↔
      ∀ transition ∈ trace, ¬ ShedsInMaintenance transition := by
  constructor
  · intro hnever transition hmem hshed
    apply hshed.managed (hpath.source_of_mem hmem).2
    apply hnever transition.target
    exact List.mem_cons_of_mem _ (List.mem_map_of_mem hmem)
  · intro hshed passed hpassed
    obtain ⟨before, after, rfl, hearlier⟩ := hpath.prefix_of_visited hpassed
    apply hearlier.preserves
    · intro _
      exact ⟨rfl, rfl⟩
    · intro transition hmem hstep
      exact step_notManagedInMaintenance hstep
        (hshed transition (List.mem_append_left _ hmem))

/-- A stable and an unstable verdict, served before a press. -/
def servedBeforePress : List Action :=
  verdict true ++ request ++ verdict false ++ request ++ press

theorem not_managed_in_maintenance_servedBeforePress :
    ∃ run, follow (step ⟨5, 1⟩) (initial 31) servedBeforePress = some run ∧
      run.2.inMaintenance = true ∧
        ∀ passed ∈ visited (initial 31) run.1, NotManagedInMaintenance passed :=
  ⟨_, (Option.some_get rfl).symm, rfl,
    (not_managed_in_maintenance_iff (path_of_schedule rfl)).mpr
      (by decide)⟩

/-- The same verdicts, the second of them served after the press. -/
def servedAfterPress : List Action :=
  verdict true ++ request ++ verdict false ++ press ++ request

/-- A load is shed in maintenance. -/
theorem load_shed_in_maintenance :
    ¬ ∀ (activatedLoads : Word) (state : State),
      Reachable (step ⟨5, 1⟩) (initial activatedLoads) state →
        NotManagedInMaintenance state := by
  intro hclaim
  let run := (follow (step ⟨5, 1⟩) (initial 31) servedAfterPress).get rfl
  have hreach : Reachable (step ⟨5, 1⟩) (initial 31) run.2 :=
    ⟨run.1, path_of_schedule rfl⟩
  have hmanaging : run.2.isManagingLoads = true := rfl
  simpa [hmanaging] using hclaim 31 run.2 hreach rfl

end FrequencyRelay.HelloWorld
