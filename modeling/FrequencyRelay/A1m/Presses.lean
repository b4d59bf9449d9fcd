import Mathlib.Algebra.Ring.Parity
import FrequencyRelay.A1m.Model
import FrequencyRelay.Core.Runs

/-!
# What becomes of a press

A press of button 0 waits in the edge-capture register, then in the handler, then in
`maintenance_sem`, and at last toggles `maintenance_state`.  It can get lost on the
way in three places: in the register, when the handler clears a bit it has not read;
in the handler, whose test fails if another button was captured as well; and in the
semaphore, which holds one press.
-/

namespace FrequencyRelay.A1m

open FrequencyRelay.BitMasks
open FrequencyRelay.PushButton
open FrequencyRelay.Runs

variable {numOfLoads : ℕ} {state next : State} {action : Action}

/-- Presses of button 0. -/
def presses (trace : Trace State Action) : ℕ :=
  trace.countP fun transition => transition.action = .buttonEdge 0

def Toggles (transition : Transition State Action) : Prop :=
  transition.source.maintenanceState ≠ transition.target.maintenanceState

/-- No edge of button 0 comes while its bit is still set. -/
def EdgesSeparate (trace : Trace State Action) : Prop :=
  ∀ transition ∈ trace, transition.action = .buttonEdge 0 →
    transition.source.button.edgeCapture.getLsbD 0 = false

/-- The next step of the handler forgets a press: it clears the bit without having
read it, has read another button with it, or gives a semaphore that is `available`
already. -/
def forgetsPress (button : Buttons) (available : Bool) : Bool :=
  match button.handler with
  | .idle => false
  | .clearRegister captured =>
      button.edgeCapture.getLsbD 0 && !captured.getLsbD 0
  | .testValue captured => captured.getLsbD 0 && (captured != 1 || available)

def LosesPress (transition : Transition State Action) : Prop :=
  transition.action = .buttonInterrupt ∧
    forgetsPress transition.source.button transition.source.maintenanceSem = true

/-- Nothing is captured, nothing is handled, and no press waits. -/
def AtRest (state : State) : Prop :=
  state.button.edgeCapture = 0 ∧ state.button.handler = .idle ∧
    state.maintenanceSem = false ∧ state.toggleMaintenance = .takeSemaphore

instance : DecidablePred Toggles :=
  fun _ => inferInstanceAs (Decidable (_ ≠ _))

instance : DecidablePred EdgesSeparate :=
  fun _ => inferInstanceAs (Decidable (∀ _ ∈ _, _))

instance : DecidablePred LosesPress :=
  fun _ => inferInstanceAs (Decidable (_ ∧ _))

instance : DecidablePred AtRest :=
  fun _ => inferInstanceAs (Decidable (_ ∧ _))

/-- At every moment of rest, `maintenance_state` says whether button 0 was pressed an
odd number of times. -/
def CountsPresses (numOfLoads : ℕ) (start : State) (trace : Trace State Action) :
    Prop :=
  ∀ before after passed, trace = before ++ after →
    Path (step numOfLoads) start before passed → AtRest passed →
      (passed.maintenanceState = true ↔ Odd (presses before))

/-! ## The way of a press -/

/-- The presses in the register and in the handler. -/
def heldPresses (button : Buttons) : ℕ :=
  (button.edgeCapture.getLsbD 0).toNat +
    match button.handler with
    | .testValue captured => (captured.getLsbD 0).toNat
    | _ => 0

/-- The presses that are still on their way. -/
def pending (state : State) : ℕ :=
  heldPresses state.button + state.maintenanceSem.toNat +
    if state.toggleMaintenance = .takeSemaphore then 0 else 1

/-- What the handler has read is still in the register until it clears it. -/
def ReadIsLatched (button : Buttons) : Prop :=
  ∀ captured, button.handler = .clearRegister captured →
    captured.getLsbD 0 = true → button.edgeCapture.getLsbD 0 = true

/-- The bit of button 0 after an edge. -/
theorem edgeCapture_edge (button : Buttons) (index : Fin 3) :
    (edge button index).edgeCapture.getLsbD 0 =
      (button.edgeCapture.getLsbD 0 || decide (index = 0)) := by
  rw [edge, BitVec.getLsbD_or, BitVec.getLsbD_twoPow]
  by_cases hindex : index = 0
  · subst hindex
    rfl
  · have hval : (index : ℕ) ≠ 0 := fun hzero => hindex (Fin.ext hzero)
    rw [decide_eq_false hindex, decide_eq_false hval, Bool.and_false]

/-- The clearing access clears the bit of button 0. -/
theorem cleared_getLsbD (edgeCapture : BitVec 32) :
    (edgeCapture &&& ~~~7).getLsbD 0 = false := by
  rw [BitVec.getLsbD_and]
  simp

theorem edge_latched {button : Buttons} (index : Fin 3) (hlatched : ReadIsLatched button) :
    ReadIsLatched (edge button index) := by
  intro captured hhandler hread
  rw [edgeCapture_edge, hlatched captured hhandler hread, Bool.true_or]

theorem heldPresses_edge (button : Buttons) (index : Fin 3)
    (hseparate : index = 0 → button.edgeCapture.getLsbD 0 = false) :
    heldPresses (edge button index) =
      heldPresses button + (decide (index = 0)).toNat := by
  rw [heldPresses, heldPresses, edgeCapture_edge]
  by_cases hindex : index = 0
  · rw [hseparate hindex, hindex, Bool.false_or, edge]
    simp [Nat.add_comm]
  · rw [decide_eq_false hindex, Bool.or_false]
    rfl

/-- One step of the handler passes the presses it holds on, or forgets one. -/
theorem heldPresses_buttonInterrupt {button : Buttons} {result : Buttons × Bool}
    (available : Bool) (hlatched : ReadIsLatched button)
    (hstep : PushButton.buttonInterrupt button = some result) :
    ReadIsLatched result.1 ∧
      heldPresses button + available.toNat =
        heldPresses result.1 + (available || result.2).toNat +
          (forgetsPress button available).toNat := by
  obtain ⟨edgeCapture, handler⟩ := button
  cases handler with
  | idle =>
      simp only [PushButton.buttonInterrupt] at hstep
      split at hstep
      · cases hstep
      · obtain rfl := Option.some.inj hstep
        constructor
        · rintro captured hhandler hread
          rwa [← HandlerPc.clearRegister.inj hhandler] at hread
        · simp [heldPresses, forgetsPress]
  | clearRegister captured =>
      obtain rfl := Option.some.inj hstep
      have hread := hlatched captured rfl
      constructor
      · intro other hhandler
        cases hhandler
      · simp only [heldPresses, forgetsPress, cleared_getLsbD]
        cases hcaptured : captured.getLsbD 0 with
        | true =>
            rw [hread hcaptured]
            simp [Nat.add_comm]
        | false => simp [Nat.add_comm]
  | testValue captured =>
      obtain rfl := Option.some.inj hstep
      constructor
      · intro other hhandler
        cases hhandler
      · simp only [heldPresses, forgetsPress]
        by_cases hone : captured = 1
        · subst hone
          cases available <;> simp
        · have hbeq : (captured == 1) = false := beq_eq_false_iff_ne.mpr hone
          rw [bne, hbeq, Bool.or_false, Bool.not_false, Bool.true_or, Bool.and_true]
          omega

/-- The steps of a press on its way. -/
def Action.movesPress : Action → Bool
  | .toggleMaintenance | .buttonInterrupt | .buttonEdge _ => true
  | _ => false

/-- The other parties have nothing to do with presses. -/
theorem step_view (hstep : step numOfLoads state action = some next)
    (hother : action.movesPress = false) :
    next.button = state.button ∧ next.maintenanceSem = state.maintenanceSem ∧
      next.toggleMaintenance = state.toggleMaintenance ∧
      next.maintenanceState = state.maintenanceState := by
  cases action with
  | loadManagement =>
      cases stepReading_effect hstep with
      | turnedOnLast =>
          obtain ⟨_, _, heq, -⟩ :=
            reconnectOrExit_eq (turnOnMostImportantLoad numOfLoads state)
          rw [heq]
          exact ⟨rfl, rfl, rfl, rfl⟩
      | left =>
          obtain ⟨_, _, heq, -⟩ := reconnectOrExit_eq state
          rw [heq]
          exact ⟨rfl, rfl, rfl, rfl⟩
      | external _ _ _ _ _ _ hmanagement => exact absurd rfl hmanagement
      | _ => exact ⟨rfl, rfl, rfl, rfl⟩
  | switchPolling switches =>
      obtain rfl := Option.some.inj hstep
      unfold switchPollingTask
      split
      · dsimp only
        split <;> exact ⟨rfl, rfl, rfl, rfl⟩
      · exact ⟨rfl, rfl, rfl, rfl⟩
  | frequencyAnalyzer =>
      obtain rfl := Option.some.inj hstep
      unfold frequencyTaskAnalyzer
      split
      · split <;> exact ⟨rfl, rfl, rfl, rfl⟩
      · exact ⟨rfl, rfl, rfl, rfl⟩
      · exact ⟨rfl, rfl, rfl, rfl⟩
  | timerCommand | timerExpiry =>
      simp only [step, stepReading] at hstep
      split at hstep
      · cases hstep
      · obtain ⟨timer, -, rfl⟩ := Option.map_eq_some_iff.mp hstep
        exact ⟨rfl, rfl, rfl, rfl⟩
  | timerCallback =>
      simp only [step, stepReading] at hstep
      split at hstep
      · obtain rfl := Option.some.inj hstep
        exact ⟨rfl, rfl, rfl, rfl⟩
      · cases hstep
  | frequencyEvent | setUnstable =>
      obtain rfl := Option.some.inj hstep
      exact ⟨rfl, rfl, rfl, rfl⟩
  | toggleMaintenance | buttonInterrupt | buttonEdge => cases hother

/-- One pass of `ToggleMaintenanceTask` uses up one press. -/
theorem pending_toggleMaintenanceTask (timerActive : Bool) (state : State) :
    let next := toggleMaintenanceTask timerActive state
    next.button = state.button ∧
      pending state = pending next +
        (decide (state.maintenanceState ≠ next.maintenanceState)).toNat := by
  cases hpc : state.toggleMaintenance with
  | takeSemaphore =>
      cases hgiven : state.maintenanceSem with
      | true => simp [toggleMaintenanceTask, pending, hpc, hgiven]
      | false => simp [toggleMaintenanceTask, pending, hpc, hgiven]
  | checkTimer =>
      cases timerActive with
      | true => simp [toggleMaintenanceTask, pending, hpc]
      | false => simp [toggleMaintenanceTask, pending, hpc]
  | stopTimer => simp [toggleMaintenanceTask, pending, hpc]
  | toggle => simp [toggleMaintenanceTask, pending, hpc]

/-- A step accounts for every press: a new one and those on their way are on their way
afterwards, or toggle the state, or are lost. -/
theorem step_accounts (hstep : step numOfLoads state action = some next)
    (hlatched : ReadIsLatched state.button)
    (hseparate : action = .buttonEdge 0 → state.button.edgeCapture.getLsbD 0 = false) :
    ReadIsLatched next.button ∧
      (decide (action = .buttonEdge 0)).toNat + pending state =
        pending next + (decide (Toggles ⟨state, action, next⟩)).toNat +
          (decide (LosesPress ⟨state, action, next⟩)).toNat := by
  cases action with
  | toggleMaintenance =>
      obtain rfl := Option.some.inj hstep
      obtain ⟨hbutton, hpending⟩ :=
        pending_toggleMaintenanceTask state.loadTimer.active state
      refine ⟨hbutton ▸ hlatched, ?_⟩
      have hedge : Action.toggleMaintenance ≠ .buttonEdge 0 := by simp
      have hlost (next : State) : ¬ LosesPress ⟨state, .toggleMaintenance, next⟩ := by
        simp [LosesPress]
      rw [decide_eq_false hedge, decide_eq_false (hlost _), Bool.toNat_false,
        Nat.zero_add, Nat.add_zero]
      exact hpending
  | buttonInterrupt =>
      obtain ⟨result, hresult, rfl⟩ := Option.map_eq_some_iff.mp hstep
      obtain ⟨hnext, hheld⟩ :=
        heldPresses_buttonInterrupt state.maintenanceSem hlatched hresult
      refine ⟨hnext, ?_⟩
      simp [Toggles, LosesPress, pending]
      omega
  | buttonEdge index =>
      obtain rfl := Option.some.inj hstep
      refine ⟨edge_latched index hlatched, ?_⟩
      have hheld := heldPresses_edge state.button index fun hzero =>
        hseparate (congrArg Action.buttonEdge hzero)
      simp [Toggles, LosesPress, pending, hheld]
      omega
  | _ =>
      obtain ⟨hbutton, hsem, hpc, hstate⟩ := step_view hstep rfl
      refine ⟨hbutton ▸ hlatched, ?_⟩
      simp [Toggles, LosesPress, pending, hbutton, hsem, hpc, hstate]

theorem countP_snoc {Event : Type*} (test : Event → Bool) (events : List Event)
    (event : Event) :
    (events ++ [event]).countP test = events.countP test + (test event).toNat := by
  rw [List.countP_append, List.countP_singleton]
  cases test event <;> rfl

/-- Every press of a run is on its way, has toggled the state, or is lost. -/
theorem accounts_of_path {loadValue : LoadScan.Word} {trace : Trace State Action}
    (hpath : Path (step numOfLoads) (initial loadValue) trace state)
    (hseparate : EdgesSeparate trace) :
    ReadIsLatched state.button ∧
      presses trace = pending state + trace.countP (Toggles ·) +
        trace.countP (LosesPress ·) ∧
      (state.maintenanceState = true ↔ Odd (trace.countP (Toggles ·))) := by
  induction hpath with
  | nil =>
      refine ⟨?_, ?_, ?_⟩
      · intro captured hhandler
        cases hhandler
      · simp [presses, pending, heldPresses, initial, maintanenceInit]
      · simp [initial]
  | @snoc trace source target action hearlier hstep ih =>
      obtain ⟨hlatched, haccount, hparity⟩ :=
        ih fun transition hmem => hseparate transition (List.mem_append_left _ hmem)
      obtain ⟨hnext, hstepAccount⟩ :=
        step_accounts hstep hlatched (hseparate ⟨source, action, target⟩ (by simp))
      rw [presses] at haccount
      rw [presses, countP_snoc, countP_snoc, countP_snoc]
      refine ⟨hnext, by dsimp only; omega, ?_⟩
      by_cases htoggles : source.maintenanceState = target.maintenanceState
      · have hkept : ¬ Toggles ⟨source, action, target⟩ := not_not.mpr htoggles
        rw [decide_eq_false hkept, ← htoggles, hparity, Bool.toNat_false, Nat.add_zero]
      · have hturned : Toggles ⟨source, action, target⟩ := htoggles
        rw [decide_eq_true hturned, Bool.toNat_true, Nat.odd_add_one, ← hparity]
        revert htoggles
        cases source.maintenanceState <;> cases target.maintenanceState <;> simp

/-- At rest, the presses that did not toggle the state are those that were lost. -/
theorem maintenanceState_iff_of_path {loadValue : LoadScan.Word}
    {trace : Trace State Action}
    (hpath : Path (step numOfLoads) (initial loadValue) trace state)
    (hseparate : EdgesSeparate trace) (hrest : AtRest state) :
    (state.maintenanceState = true ↔ Odd (presses trace)) ↔
      Even (trace.countP (LosesPress ·)) := by
  obtain ⟨-, haccount, hparity⟩ := accounts_of_path hpath hseparate
  obtain ⟨hcapture, hhandler, hsem, hpc⟩ := hrest
  have hpending : pending state = 0 := by
    simp [pending, heldPresses, hcapture, hhandler, hsem, hpc]
  rw [hparity, haccount, hpending, Nat.zero_add, Nat.odd_add]
  by_cases htoggles : Odd (trace.countP (Toggles ·))
  · simp [htoggles]
  · simp [htoggles]

/-- In a run in which no step loses a press, `maintenance_state` counts presses. -/
theorem presses_counted {loadValue : LoadScan.Word} {trace : Trace State Action}
    (hpath : Path (step numOfLoads) (initial loadValue) trace state)
    (hseparate : EdgesSeparate trace)
    (hkept : ∀ transition ∈ trace, ¬ LosesPress transition) :
    CountsPresses numOfLoads (initial loadValue) trace := by
  rintro before after passed rfl hbefore hrest
  apply (maintenanceState_iff_of_path hbefore ?_ hrest).mpr
  · rw [List.countP_eq_zero.mpr]
    · exact Even.zero
    · intro transition hmem
      simpa using hkept transition (List.mem_append_left after hmem)
  · intro transition hmem
    exact hseparate transition (List.mem_append_left after hmem)

/-- A press of button 0 up to the give of the semaphore, and the pass of
`ToggleMaintenanceTask` that it starts. -/
def servedPress : List Action :=
  .buttonEdge 0 :: List.replicate 3 .buttonInterrupt ++
    List.replicate 3 .toggleMaintenance

theorem presses_counted_served :
    ∃ run, follow (step 5) (initial 0) servedPress = some run ∧
      AtRest run.2 ∧ CountsPresses 5 (initial 0) run.1 :=
  ⟨_, (Option.some_get rfl).symm, by decide,
    presses_counted (path_of_schedule rfl) (by decide) (by decide)⟩

/-- Two buttons are pressed before the handler reads the register, and the press of
button 0 is dropped. -/
theorem press_dropped_with_another :
    ¬ ∀ (loadValue : LoadScan.Word) (trace : Trace State Action) (state : State),
      Path (step 5) (initial loadValue) trace state → EdgesSeparate trace →
        CountsPresses 5 (initial loadValue) trace := by
  intro hclaim
  let schedule : List Action :=
    [.buttonEdge 0, .buttonEdge 1] ++ List.replicate 3 .buttonInterrupt
  let run := (follow (step 5) (initial 0) schedule).get rfl
  have hpath : Path (step 5) (initial 0) run.1 run.2 :=
    path_of_schedule rfl
  have hcounts := hclaim 0 run.1 run.2 hpath (by decide) run.1 [] run.2
    (List.append_nil _).symm hpath (by decide)
  exact absurd (hcounts.mpr (by decide)) (by decide)

end FrequencyRelay.A1m
