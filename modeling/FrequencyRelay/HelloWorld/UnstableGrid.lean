import FrequencyRelay.Core.Runs
import FrequencyRelay.HelloWorld.Model

/-!
# An unstable grid outside maintenance

`frequencyAnalyserTask` calls the load manager only when the verdict changes, and
not in maintenance.  Whether an unstable grid is attended to therefore depends on
the verdict it is compared with.  It is overlooked in three ways: the first sample
is compared with an `isStable` that is already false, a change that fell into
maintenance is not called for when maintenance ends, and a request that finds the
timer still active from earlier is spent on a reset.
-/

namespace FrequencyRelay.HelloWorld

open FrequencyRelay.LoadScan
open FrequencyRelay.Runs

variable {config : Config} {state next : State} {action : Action}

/-- `frequencyAnalyserTask` processes a sample. -/
def ProcessesSample (transition : Transition State Action) : Prop :=
  (∃ isStable, transition.action = .frequencyAnalyser isStable) ∧
    transition.source.frequencyAnalyser = .betweenSamples

def Sampled (trace : Trace State Action) : Prop :=
  ∃ transition ∈ trace, ProcessesSample transition

/-- Outside maintenance and between two samples, an unstable grid is being managed,
has a request that can be taken or is being handled, or waits for a press to be
handled. -/
def Attended (trace : Trace State Action) (state : State) : Prop :=
  Sampled trace → state.inMaintenance = false → state.isStable = false →
    state.frequencyAnalyser = .betweenSamples →
      state.isManagingLoads = true ∨ state.loadManagementSemaphore = true ∨
        (∃ manager pc, state.loadManagers manager = some pc ∧ pc ≠ .takeSemaphore) ∨
          state.maintenance ≠ .takeSemaphore

/-- The instance has taken a request and has not yet decided what to do. -/
def Deciding (state : State) (manager : LoadManager) : Prop :=
  state.loadManagers manager = some .checkTimer ∨
    state.loadManagers manager = some .manage

/-- A request has been or is about to be given. -/
def RequestGiven (state : State) : Prop :=
  state.frequencyAnalyser = .callLoadManager ∨
    state.loadManagementSemaphore = true

/-- The first sample is unstable, outside maintenance and with no press handled. -/
def FirstUnstable (before : Trace State Action) (event : Transition State Action) :
    Prop :=
  ¬ Sampled before ∧ event.action = .frequencyAnalyser false ∧
    event.source.frequencyAnalyser = .betweenSamples ∧
    event.source.inMaintenance = false ∧ event.source.maintenance = .takeSemaphore

/-- Maintenance ends on an unstable grid with no request on its way. -/
def LeavesUnstable (before : Trace State Action) (event : Transition State Action) :
    Prop :=
  Sampled before ∧ event.action = .maintenance ∧ event.source.maintenance = .toggle ∧
    event.source.inMaintenance = true ∧ event.source.isStable = false ∧
    ¬ RequestGiven event.source ∧ ∀ manager, ¬ Deciding event.source manager

/-- The only request for an unstable grid that is not managed finds the timer
active. -/
def SpendsRequest (before : Trace State Action) (event : Transition State Action) :
    Prop :=
  Sampled before ∧ event.source.inMaintenance = false ∧
    event.source.isStable = false ∧ event.source.isManagingLoads = false ∧
    event.source.maintenance = .takeSemaphore ∧ ¬ RequestGiven event.source ∧
    event.source.loadManagementTimer.active = true ∧
    ∃ manager, event.action = .loadManager manager ∧
      event.source.loadManagers manager = some .checkTimer ∧
      ∀ other, Deciding event.source other → other = manager

def Overlooks (before : Trace State Action) (event : Transition State Action) : Prop :=
  FirstUnstable before event ∨ LeavesUnstable before event ∨ SpendsRequest before event

instance : DecidablePred ProcessesSample :=
  fun _ => inferInstanceAs (Decidable ((∃ _, _) ∧ _))

instance : DecidablePred Sampled :=
  fun _ => inferInstanceAs (Decidable (∃ _ ∈ _, _))

instance (state : State) : DecidablePred (Deciding state) :=
  fun _ => inferInstanceAs (Decidable (_ ∨ _))

instance : DecidablePred RequestGiven :=
  fun _ => inferInstanceAs (Decidable (_ ∨ _))

instance (before : Trace State Action) : DecidablePred (FirstUnstable before) :=
  fun _ => inferInstanceAs (Decidable (_ ∧ _))

instance (before : Trace State Action) : DecidablePred (LeavesUnstable before) :=
  fun _ => inferInstanceAs (Decidable (_ ∧ _))

instance (before : Trace State Action) : DecidablePred (SpendsRequest before) :=
  fun _ => inferInstanceAs (Decidable (_ ∧ _ ∧ _ ∧ _ ∧ _ ∧ _ ∧ _ ∧ ∃ _, _))

instance (before : Trace State Action) : DecidablePred (Overlooks before) :=
  fun _ => inferInstanceAs (Decidable (_ ∨ _ ∨ _))

/-- An unstable grid is managed, or a request or a press will be decided on. -/
def Engaged (state : State) : Prop :=
  state.isManagingLoads = true ∨ state.maintenance ≠ .takeSemaphore ∨
    RequestGiven state ∨ ∃ manager, Deciding state manager

/-- It stays so when an instance moves that has nothing to decide. -/
theorem Engaged.of_moved {manager : LoadManager} (hengaged : Engaged state)
    (hidle : ¬ Deciding state manager) (pc : LoadManagerPc)
    (timer : OneShotTimer.Timer) (queue : List LoadStatus) :
    Engaged { state with
      loadManagementTimer := timer
      loadControlQueue := queue
      loadManagers := Function.update state.loadManagers manager (some pc) } := by
  apply hengaged.imp_right (Or.imp_right (Or.imp_right _))
  intro hany
  obtain ⟨other, hdeciding⟩ := hany
  have hne : other ≠ manager := by
    intro hsame
    exact hidle (hsame ▸ hdeciding)
  exact ⟨other, by simpa only [Deciding, Function.update_of_ne hne] using hdeciding⟩

/-- The invariant that only an overlooking step breaks. -/
def Watched (trace : Trace State Action) (state : State) : Prop :=
  Sampled trace → state.inMaintenance = false → state.isStable = false →
    Engaged state

theorem Watched.attended {trace : Trace State Action}
    (hwatched : Watched trace state) : Attended trace state := by
  intro hsampled hmaintenance hunstable hanalyser
  rcases hwatched hsampled hmaintenance hunstable with
    hmanaging | hpress | (hcall | hsemaphore) | ⟨manager, hdeciding⟩
  · exact .inl hmanaging
  · exact .inr (.inr (.inr hpress))
  · simp [hanalyser] at hcall
  · exact .inr (.inl hsemaphore)
  · refine .inr (.inr (.inl ⟨manager, ?_⟩))
    rcases hdeciding with hpc | hpc
    · exact ⟨_, hpc, by simp⟩
    · exact ⟨_, hpc, by simp⟩

theorem sampled_snoc {trace : Trace State Action}
    {event : Transition State Action} :
    Sampled (trace ++ [event]) ↔ Sampled trace ∨ ProcessesSample event := by
  simp [Sampled, or_and_right, exists_or]

/-- A verdict is watched unless it is the first one and nothing is under way. -/
theorem judged_watched {before : Trace State Action} {isStable : Bool}
    (hpc : state.frequencyAnalyser = .betweenSamples)
    (hfirst : ¬ FirstUnstable before ⟨state, .frequencyAnalyser isStable, next⟩)
    (hmaintenance : state.inMaintenance = false) (hunstable : isStable = false)
    (hwatched : Watched before state) :
    Engaged { state with
      isStable := isStable
      frequencyAnalyser :=
        if isStable != state.isStable && !state.inMaintenance then .callLoadManager
        else .betweenSamples } := by
  subst hunstable
  cases hstable : state.isStable with
  | true => exact .inr (.inr (.inl (.inl (by simp [hmaintenance]))))
  | false =>
      by_cases hsampled : Sampled before
      · rcases hwatched hsampled hmaintenance hstable with
          hmanaging | hpress | (hcall | hsemaphore) | hdeciding
        · exact .inl hmanaging
        · exact .inr (.inl hpress)
        · simp [hpc] at hcall
        · exact .inr (.inr (.inl (.inr hsemaphore)))
        · exact .inr (.inr (.inr hdeciding))
      · right
        left
        intro htop
        exact hfirst ⟨hsampled, rfl, hpc, hmaintenance, htop⟩

/-- The end of maintenance is watched if a request is on its way. -/
theorem toggled_watched {before : Trace State Action} (hbefore : Sampled before)
    (hpc : state.maintenance = .toggle)
    (hleaves : ¬ LeavesUnstable before ⟨state, .maintenance, next⟩)
    (hin : state.inMaintenance = true) (hunstable : state.isStable = false) :
    Engaged { state with
      inMaintenance := !state.inMaintenance
      isManagingLoads := false
      blockedLoads := 0
      maintenance := .takeSemaphore } := by
  by_contra hnone
  have hgiven : ¬ RequestGiven state :=
    fun hgiven => hnone (.inr (.inr (.inl hgiven)))
  have hdeciding : ∀ manager, ¬ Deciding state manager :=
    fun manager hdeciding => hnone (.inr (.inr (.inr ⟨manager, hdeciding⟩)))
  exact hleaves ⟨hbefore, rfl, hpc, hin, hunstable, hgiven, hdeciding⟩

/-- A request that meets the timer is decided on, unless it is the only one and spent. -/
theorem checked_watched {before : Trace State Action} {manager : LoadManager}
    (hbefore : Sampled before) (hpc : state.loadManagers manager = some .checkTimer)
    (hspends : ¬ SpendsRequest before ⟨state, .loadManager manager, next⟩)
    (hmaintenance : state.inMaintenance = false) (hunstable : state.isStable = false) :
    Engaged { state with
      loadManagers :=
        Function.update state.loadManagers manager
          (some (if state.loadManagementTimer.active then .resetActive else .manage)) } := by
  cases hactive : state.loadManagementTimer.active with
  | false => exact .inr (.inr (.inr ⟨manager, .inr (by simp)⟩))
  | true =>
      by_contra hnone
      simp only [Engaged, not_or, not_not, not_exists] at hnone
      obtain ⟨hmanaging, hpress, hgiven, hdeciding⟩ := hnone
      have honly : ∀ other, Deciding state other → other = manager := by
        intro other hother
        by_contra hne
        apply hdeciding other
        simpa only [Deciding, Function.update_of_ne hne] using hother
      exact hspends ⟨hbefore, hmaintenance, hunstable, Bool.eq_false_iff.mpr hmanaging,
        hpress, hgiven, hactive, manager, rfl, hpc, honly⟩

theorem step_watched {before : Trace State Action}
    (hstep : step config state action = some next)
    (hsees : ¬ Overlooks before ⟨state, action, next⟩)
    (hwatched : Watched before state) :
    Watched (before ++ [⟨state, action, next⟩]) next := by
  intro hsampled hmaintenance hunstable
  rw [sampled_snoc] at hsampled
  have hcarried : (ProcessesSample ⟨state, action, next⟩ → False) →
      state.inMaintenance = false → state.isStable = false → Engaged state :=
    fun hother => hwatched (hsampled.resolve_right hother)
  cases step_effect hstep with
  | maintenanceTaken | maintenanceStopped => exact .inr (.inl (by simp))
  | maintenanceChecked =>
      right
      left
      dsimp only
      split <;> simp
  | maintenanceToggled hpc =>
      have hbefore := hsampled.resolve_right (by simp [ProcessesSample])
      have hin : state.inMaintenance = true := by simpa using hmaintenance
      exact toggled_watched hbefore hpc (fun hleaves => hsees (.inr (.inl hleaves))) hin
        hunstable
  | judged isStable hpc =>
      exact judged_watched hpc (fun hfirst => hsees (.inl hfirst)) hmaintenance
        hunstable hwatched
  | called => exact .inr (.inr (.inl (.inr rfl)))
  | managerTaken manager => exact .inr (.inr (.inr ⟨manager, .inl (by simp)⟩))
  | managerChecked manager hpc =>
      have hbefore := hsampled.resolve_right (by simp [ProcessesSample])
      exact checked_watched hbefore hpc (fun hspends => hsees (.inr (.inr hspends)))
        hmaintenance hunstable
  | managerReset manager hpc =>
      exact (hcarried (by simp [ProcessesSample]) hmaintenance hunstable).of_moved
        (by simp [Deciding, hpc]) _ _ _
  | managed _ _ hmanaged =>
      cases hmanaged with
      | shed => exact .inl rfl
      | restored hstable | finished hstable | left hstable =>
          simp [hstable] at hunstable
  | sent manager queue hpc =>
      exact (hcarried (by simp [ProcessesSample]) hmaintenance hunstable).of_moved
        (by simp [Deciding, hpc]) _ _ _
  | expired hfree =>
      exact (hcarried (by simp [ProcessesSample]) hmaintenance hunstable).of_moved
        (by simp [Deciding, show state.loadManagers .callback = none from hfree]) _ _ _
  | peripheral _ _ _ _ _ hperipheral =>
      apply hcarried _ hmaintenance hunstable
      intro hsample
      obtain ⟨⟨isStable, rfl⟩, -⟩ := hsample
      cases hperipheral
  | maintenanceWaited | managerWaited | commanded =>
      exact hcarried (by simp [ProcessesSample]) hmaintenance hunstable

theorem watched_of_path {activatedLoads : Word} {trace : Trace State Action}
    (hpath : Path (step config) (initial activatedLoads) trace state)
    (hsees : AtEach (fun before event => ¬ Overlooks before event) trace) :
    Watched trace state := by
  induction hpath with
  | nil => exact fun ⟨_, hmem, _⟩ => absurd hmem List.not_mem_nil
  | snoc hearlier hstep ih =>
      exact step_watched hstep (hsees _ _ [] rfl) (ih hsees.of_append)

/-! ## What an overlooking step leaves behind -/

/-- No load management has been asked for, and `isStable` is as it was at first. -/
structure Quiet (state : State) : Prop where
  isStable : state.isStable = false
  isManagingLoads : state.isManagingLoads = false
  loadManagementSemaphore : state.loadManagementSemaphore = false
  frequencyAnalyser : state.frequencyAnalyser = .betweenSamples
  loadManagers : ∀ manager pc, state.loadManagers manager = some pc →
    pc = .takeSemaphore

theorem Quiet.not_engaged (hquiet : Quiet state)
    (hpress : state.maintenance = .takeSemaphore) : ¬ Engaged state := by
  rintro (hmanaging | hbusy | (hcall | hsemaphore) | ⟨manager, hpc | hpc⟩)
  · simp [hquiet.isManagingLoads] at hmanaging
  · exact hbusy hpress
  · simp [hquiet.frequencyAnalyser] at hcall
  · simp [hquiet.loadManagementSemaphore] at hsemaphore
  · cases hquiet.loadManagers manager _ hpc
  · cases hquiet.loadManagers manager _ hpc

theorem step_quiet (hstep : step config state action = some next)
    (hother : ¬ ProcessesSample ⟨state, action, next⟩) (hquiet : Quiet state) :
    Quiet next := by
  obtain ⟨hunstable, hidle, hsemaphore, hanalyser, hmanagers⟩ := hquiet
  cases step_effect hstep with
  | maintenanceToggled => exact ⟨hunstable, rfl, hsemaphore, hanalyser, hmanagers⟩
  | judged isStable hpc => exact absurd ⟨⟨isStable, rfl⟩, hpc⟩ hother
  | called _ hpc => simp [hanalyser] at hpc
  | managerTaken _ _ hgiven => simp [hsemaphore] at hgiven
  | managerChecked manager hpc => cases hmanagers manager _ hpc
  | managerReset manager hpc => cases hmanagers manager _ hpc
  | managed manager hpc => cases hmanagers manager _ hpc
  | sent manager queue hpc => cases hmanagers manager _ hpc
  | expired =>
      refine ⟨hunstable, hidle, hsemaphore, hanalyser, ?_⟩
      intro manager pc hpc
      cases manager with
      | task => exact hmanagers .task pc hpc
      | callback => exact (Option.some.inj hpc).symm
  | _ => exact ⟨hunstable, hidle, hsemaphore, hanalyser, hmanagers⟩

/-- Before the first sample nothing is asked for. -/
theorem quiet_of_path {activatedLoads : Word} {trace : Trace State Action}
    (hpath : Path (step config) (initial activatedLoads) trace state)
    (hnone : ¬ Sampled trace) : Quiet state := by
  apply hpath.preserves
  · refine ⟨rfl, rfl, rfl, rfl, ?_⟩
    intro manager pc hpc
    cases manager with
    | task => exact (Option.some.inj hpc).symm
    | callback => cases hpc
  · intro transition hmem hstep
    exact step_quiet hstep fun hsample => hnone ⟨transition, hmem, hsample⟩

section Overlooking

variable {before : Trace State Action}

theorem FirstUnstable.not_watched {activatedLoads : Word}
    (hpath : Path (step config) (initial activatedLoads) before state)
    (hstep : step config state action = some next)
    (hfirst : FirstUnstable before ⟨state, action, next⟩) :
    ¬ Watched (before ++ [⟨state, action, next⟩]) next := by
  obtain ⟨hnone, rfl, hpc, hmaintenance, hpress⟩ := hfirst
  have hquiet := quiet_of_path hpath hnone
  dsimp only at hpc hmaintenance hpress
  intro hwatched
  have hengaged := hwatched (sampled_snoc.mpr (.inr ⟨⟨false, rfl⟩, hpc⟩))
  cases step_effect hstep with
  | judged =>
      -- `isStable` was false already, so that the verdict is no change
      rcases hengaged hmaintenance rfl with
        hmanaging | hbusy | (hcall | hsemaphore) | hdeciding
      · exact hquiet.not_engaged hpress (.inl hmanaging)
      · exact hbusy hpress
      · simp [hquiet.isStable] at hcall
      · exact hquiet.not_engaged hpress (.inr (.inr (.inl (.inr hsemaphore))))
      · exact hquiet.not_engaged hpress (.inr (.inr (.inr hdeciding)))
  | called _ hother => simp [hpc] at hother
  | peripheral _ _ _ _ _ hother => cases hother

theorem LeavesUnstable.not_watched (hstep : step config state action = some next)
    (hleaves : LeavesUnstable before ⟨state, action, next⟩) :
    ¬ Watched (before ++ [⟨state, action, next⟩]) next := by
  obtain ⟨hsampled, rfl, hpc, hin, hunstable, hgiven, hdeciding⟩ := hleaves
  dsimp only at hpc hin hunstable hgiven hdeciding
  intro hwatched
  have hengaged := hwatched (sampled_snoc.mpr (.inl hsampled))
  cases step_effect hstep with
  | maintenanceToggled =>
      rcases hengaged (by simp [hin]) hunstable with
        hmanaging | hbusy | hrequest | ⟨manager, hmanager⟩
      · cases hmanaging
      · exact hbusy rfl
      · exact hgiven hrequest
      · exact hdeciding manager hmanager
  | maintenanceWaited hother | maintenanceTaken hother
  | maintenanceChecked hother | maintenanceStopped hother => simp [hpc] at hother
  | peripheral _ _ _ _ _ hother => cases hother

theorem SpendsRequest.not_watched (hstep : step config state action = some next)
    (hspends : SpendsRequest before ⟨state, action, next⟩) :
    ¬ Watched (before ++ [⟨state, action, next⟩]) next := by
  obtain ⟨hsampled, hmaintenance, hunstable, hidle, hpress, hgiven, hactive,
    manager, rfl, hpc, honly⟩ := hspends
  dsimp only at hmaintenance hunstable hidle hpress hgiven hactive hpc honly
  intro hwatched
  have hengaged := hwatched (sampled_snoc.mpr (.inl hsampled))
  cases step_effect hstep with
  | managerChecked =>
      rcases hengaged hmaintenance hunstable with
        hmanaging | hbusy | hrequest | ⟨other, hother⟩
      · simp [hidle] at hmanaging
      · exact hbusy hpress
      · exact hgiven hrequest
      · by_cases hsame : other = manager
        · subst hsame
          simp [Deciding, hactive] at hother
        · simp only [Deciding, Function.update_of_ne hsame] at hother
          exact hsame (honly other hother)
  | managerWaited _ hother | managerTaken _ hother | managerReset _ hother
  | managed _ hother | sent _ _ hother => simp [hpc] at hother
  | peripheral _ _ _ _ _ hother => cases hother

/-- An overlooking step leaves an unstable grid outside maintenance with nothing
engaged. -/
theorem overlooks_not_watched {activatedLoads : Word}
    (hpath : Path (step config) (initial activatedLoads) before state)
    (hstep : step config state action = some next)
    (hoverlooks : Overlooks before ⟨state, action, next⟩) :
    ¬ Watched (before ++ [⟨state, action, next⟩]) next := by
  rcases hoverlooks with hfirst | hleaves | hspends
  · exact hfirst.not_watched hpath hstep
  · exact hleaves.not_watched hstep
  · exact hspends.not_watched hstep

end Overlooking

/-- The invariant holds along exactly the runs without an overlooking step. -/
theorem watched_iff {activatedLoads : Word} {trace : Trace State Action}
    (hpath : Path (step config) (initial activatedLoads) trace state) :
    AtEach (fun before event => Watched (before ++ [event]) event.target) trace ↔
      AtEach (fun before event => ¬ Overlooks before event) trace := by
  constructor
  · rintro hwatched before event after rfl hoverlooks
    obtain ⟨hbefore, hstep, -⟩ := path_append_cons_iff.mp hpath
    exact overlooks_not_watched hbefore hstep hoverlooks
      (hwatched before event after rfl)
  · rintro hsees before event after rfl
    obtain ⟨hbefore, hstep, -⟩ := path_append_cons_iff.mp hpath
    rw [List.append_cons] at hsees
    exact watched_of_path (hbefore.snoc hstep) hsees.of_append

/-- In every run without an overlooking step, an unstable grid outside maintenance
is attended to in every state passed. -/
theorem unstable_grid_attended {activatedLoads : Word} {trace : Trace State Action}
    (hpath : Path (step config) (initial activatedLoads) trace state)
    (hsees : AtEach (fun before event => ¬ Overlooks before event) trace) :
    AtEach (fun before event => Attended (before ++ [event]) event.target) trace := by
  rintro before event after rfl
  obtain ⟨hearlier, hstep, -⟩ := path_append_cons_iff.mp hpath
  rw [List.append_cons] at hsees
  exact (watched_of_path (hearlier.snoc hstep) hsees.of_append).attended

/-- A stable and an unstable verdict, each served. -/
def servedVerdicts : List Action :=
  verdict true ++ request ++ verdict false ++ request

theorem unstable_grid_attended_servedVerdicts :
    ∃ run, follow (step ⟨5, 1⟩) afterSetup servedVerdicts = some run ∧
      run.2.isStable = false ∧
        AtEach (fun before event => Attended (before ++ [event]) event.target) run.1 :=
  ⟨_, (Option.some_get rfl).symm, rfl,
    unstable_grid_attended (path_of_schedule rfl) (by decide)⟩

/-- The first sample is unstable, and nothing happens. -/
theorem first_unstable_sample_ignored :
    ¬ ∀ (trace : Trace State Action) (state : State),
      Path (step ⟨5, 1⟩) afterSetup trace state → Attended trace state := by
  intro hclaim
  let run := (follow (step ⟨5, 1⟩) afterSetup [.frequencyAnalyser false]).get rfl
  have hpath : Path (step ⟨5, 1⟩) afterSetup run.1 run.2 :=
    path_of_schedule rfl
  rcases hclaim run.1 run.2 hpath (by decide) rfl rfl rfl with
    hmanaging | hsemaphore | ⟨manager, pc, hpc, hbusy⟩ | hpress
  · cases hmanaging
  · cases hsemaphore
  · cases manager with
    | task => exact hbusy (Option.some.inj hpc).symm
    | callback => cases hpc
  · exact hpress rfl

end FrequencyRelay.HelloWorld
