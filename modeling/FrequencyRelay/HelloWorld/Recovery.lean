import Mathlib.Data.List.DropRight
import FrequencyRelay.HelloWorld.TimerService

/-!
# When loads come back

A load should come back after the grid has been stable for a whole interval of
`loadManagementTimer`.  `loadManagerTask` does not measure that interval: it asks
whether the timer is dormant, which it also is before the timer service has carried
out the reset that a shed has sent, and after the timer ran out long ago.  The
interval has passed if the question comes late enough: after the timer has run out,
provided that the timer was not yet running when the verdict turned stable, and that
the verdict does not turn stable between the question and what is done on the answer.
-/

namespace FrequencyRelay.HelloWorld

open FrequencyRelay.BitMasks
open FrequencyRelay.LoadScan
open FrequencyRelay.OneShotTimer
open FrequencyRelay.Runs

variable {config : Config} {state next : State} {action : Action}

/-- The steps of `frequencyAnalyserTask`, `loadManagerTask` and the timer service. -/
def Action.ofRecovery : Action → Bool
  | .frequencyAnalyser _ | .loadManager _ | .timerCommand | .timerExpiry => true
  | _ => false

def OnlyRecovery (trace : Trace State Action) : Prop :=
  ∀ transition ∈ trace, transition.action.ofRecovery = true

/-- The timer service starts the timer, running or not, which ends the command. -/
def StartsTimer (transition : Transition State Action) : Prop :=
  transition.action = .timerCommand ∧
    transition.source.loadManagementTimer.carrying = true ∧
      transition.source.loadManagementTimer.commands.head? = some .reset

/-- `loadManagerTask` gives a load back. -/
def GivesLoadBack (transition : Transition State Action) : Prop :=
  (∃ manager, transition.action = .loadManager manager) ∧
    ∃ load ∈ members transition.source.blockedLoads,
      load ∉ members transition.target.blockedLoads

/-- The end of a run in which `isStable` has not changed. -/
def sinceVerdict (trace : Trace State Action) : Trace State Action :=
  trace.rtakeWhile fun transition =>
    transition.source.isStable == transition.target.isStable

/-- A start of the timer is followed by its expiry. -/
def IntervalPassed (trace : Trace State Action) : Prop :=
  ∃ before starting between expiring after,
    trace = before ++ starting :: (between ++ expiring :: after) ∧
      StartsTimer starting ∧ expiring.action = .timerExpiry

/-- Every load that is given back has waited for a whole interval since the last
change of the verdict. -/
def RestoresAfterInterval : Trace State Action → Prop :=
  AtEach fun before giving =>
    GivesLoadBack giving → IntervalPassed (sinceVerdict before)

/-! ## The questions of `loadManagerTask` -/

/-- The timer is dormant. -/
def Dormant (state : State) : Prop := state.loadManagementTimer.active = false

/-- The state in which the verdict was last changed, out of a run and its last state. -/
def verdictState (trace : Trace State Action) (state : State) : State :=
  ((sinceVerdict trace).head?.map Transition.source).getD state

/-- An instance of `loadManagerTask` asks whether the timer is active. -/
def AsksTimer (transition : Transition State Action) : Prop :=
  ∃ manager, transition.action = .loadManager manager ∧
    transition.source.loadManagers manager = some .checkTimer

/-- It is told that the timer is dormant, on a stable grid with loads managed. -/
def FindsDormant (transition : Transition State Action) : Prop :=
  AsksTimer transition ∧ Dormant transition.source ∧
    transition.source.isStable = true ∧ transition.source.isManagingLoads = true

/-- The verdict turns stable with loads managed. -/
def TurnsStable (transition : Transition State Action) : Prop :=
  transition.action = .frequencyAnalyser true ∧
    transition.source.frequencyAnalyser = .betweenSamples ∧
      transition.source.isStable = false ∧ transition.source.isManagingLoads = true

/-- The timer has run out since the verdict, at which it was not running. -/
def RunOutSince (verdict state : State) : Prop :=
  ¬ state.serviceFree ∧ verdict.serviceFree ∧ Dormant verdict

/-- The timer has run out since the last change of the verdict whenever it is found
dormant, and the verdict does not turn stable behind the back of an instance of
`loadManagerTask` that has been told so. -/
structure AsksLate (trace : Trace State Action) : Prop where
  runOut : AtEach (fun before asking =>
    FindsDormant asking → RunOutSince (verdictState before asking.source) asking.source)
      trace
  undisturbed : ∀ transition ∈ trace, TurnsStable transition →
    ∀ manager, transition.source.loadManagers manager ≠ some .manage

instance : DecidablePred OnlyRecovery :=
  fun _ => inferInstanceAs (Decidable (∀ _ ∈ _, _))

instance : DecidablePred StartsTimer :=
  fun _ => inferInstanceAs (Decidable (_ ∧ _))

instance : DecidablePred GivesLoadBack :=
  fun _ => inferInstanceAs (Decidable ((∃ _, _) ∧ ∃ _ ∈ _, _))

instance : DecidablePred Dormant :=
  fun _ => inferInstanceAs (Decidable (_ = _))

instance : DecidablePred FindsDormant :=
  fun _ => inferInstanceAs (Decidable ((∃ _, _) ∧ _))

instance : DecidablePred TurnsStable :=
  fun _ => inferInstanceAs (Decidable (_ ∧ _))

instance (verdict : State) : DecidablePred (RunOutSince verdict) :=
  fun _ => inferInstanceAs (Decidable (_ ∧ _))

/-! ## When the interval has passed -/

/-- Only a start makes a dormant timer active. -/
theorem step_dormant (hstep : step config state action = some next)
    (hother : ¬ StartsTimer ⟨state, action, next⟩)
    (hdormant : Dormant state) : Dormant next := by
  cases step_effect hstep with
  | managed _ _ hmanaged =>
      cases hmanaged with
      | restored _ _ htimer => rcases htimer with rfl | rfl <;> exact hdormant
      | shed | finished | left => exact hdormant
  | commanded _ hprocess =>
      obtain ⟨command, rest, hcommands, hhalf⟩ := Timer.process_eq_some_iff.mp hprocess
      rcases hhalf with ⟨hcarrying, rfl⟩ | ⟨-, rfl⟩
      · cases command with
        | stop => rfl
        | reset => exact absurd ⟨rfl, hcarrying, by simp [hcommands]⟩ hother
      · rfl
  | expired _ hexpire =>
      obtain ⟨-, rfl⟩ := Timer.expire_eq_some_iff.mp hexpire
      rfl
  | _ => exact hdormant

theorem StartsTimer.serviceFree {transition : Transition State Action}
    (hstarts : StartsTimer transition)
    (hstep : step config transition.source transition.action =
      some transition.target) : transition.source.serviceFree := by
  obtain ⟨source, action, target⟩ := transition
  obtain ⟨rfl, -⟩ := hstarts
  dsimp only at hstep ⊢
  cases step_effect hstep with
  | commanded hfree => exact hfree
  | peripheral _ _ _ _ _ hother => cases hother

/-- The timer is active when it expires. -/
theorem active_of_expires {transition : Transition State Action}
    (hexpires : transition.action = .timerExpiry)
    (hstep : step config transition.source transition.action =
      some transition.target) :
    transition.source.loadManagementTimer.active = true := by
  obtain ⟨source, action, target⟩ := transition
  obtain rfl : action = .timerExpiry := hexpires
  dsimp only at hstep ⊢
  cases step_effect hstep with
  | expired _ hexpire => exact (Timer.expire_eq_some_iff.mp hexpire).1.1
  | peripheral _ _ _ _ _ hother => cases hother

/-- An interval has passed in a stretch of a run if and only if the timer has run out in
it and was started in it. -/
theorem intervalPassed_iff {start : State} {trace : Trace State Action}
    (hpath : Path (step config) start trace state) :
    IntervalPassed trace ↔ (¬ state.serviceFree ∧ start.serviceFree) ∧
      ∃ transition ∈ trace, StartsTimer transition := by
  rw [serviceFree_of_path_iff hpath]
  constructor
  · rintro ⟨before, starting, between, expiring, after, rfl, hstarts, hexpires⟩
    obtain ⟨hbefore, hstep, -⟩ := path_append_cons_iff.mp hpath
    have hfree := (serviceFree_of_path_iff hbefore).mp (hstarts.serviceFree hstep)
    refine ⟨⟨?_, hfree.1⟩, starting, by simp, hstarts⟩
    rintro ⟨-, hnone⟩
    exact hnone expiring (by simp) hexpires
  · rintro ⟨⟨hrunOut, hfree⟩, starting, hmem, hstarts⟩
    obtain ⟨before, after, rfl⟩ := List.append_of_mem hmem
    obtain ⟨hbefore, hstep, hafter⟩ := path_append_cons_iff.mp hpath
    have hnone := ((serviceFree_of_path_iff hbefore).mp (hstarts.serviceFree hstep)).2
    obtain ⟨expiring, hexpiring, hexpires⟩ : ∃ transition ∈ after,
        transition.action = .timerExpiry := by
      by_contra hafterwards
      apply hrunOut
      refine ⟨hfree, fun transition htransition => ?_⟩
      rcases List.mem_append.mp htransition with hearlier | hlater
      · exact hnone transition hearlier
      · rcases List.mem_cons.mp hlater with rfl | hlater
        · rw [hstarts.1]
          decide
        · exact fun hexpires => hafterwards ⟨transition, hlater, hexpires⟩
    obtain ⟨between, rest, rfl⟩ := List.append_of_mem hexpiring
    exact ⟨before, starting, between, expiring, rest, rfl, hstarts, hexpires⟩

/-- A timer that was not running and has run out was started in between. -/
theorem RunOutSince.intervalPassed {start : State} {trace : Trace State Action}
    (hrunOut : RunOutSince start state)
    (hpath : Path (step config) start trace state) : IntervalPassed trace := by
  obtain ⟨hcaptured, hfree, hdormant⟩ := hrunOut
  apply (intervalPassed_iff hpath).mpr
  refine ⟨⟨hcaptured, hfree⟩, ?_⟩
  rw [serviceFree_of_path_iff hpath] at hcaptured
  by_contra hnone
  apply hcaptured
  refine ⟨hfree, fun expiring hmem hexpires => ?_⟩
  obtain ⟨before, after, rfl⟩ := List.append_of_mem hmem
  obtain ⟨hbefore, hstep, -⟩ := path_append_cons_iff.mp hpath
  have hstill : Dormant expiring.source := by
    apply hbefore.preserves hdormant
    intro transition htransition hother
    apply step_dormant hother
    intro hstarts
    exact hnone ⟨transition, by simp [htransition], hstarts⟩
  rw [Dormant, active_of_expires hexpires hstep] at hstill
  cases hstill

/-! ## The run since the last change of the verdict -/

theorem sinceVerdict_kept {trace : Trace State Action}
    {last : Transition State Action}
    (hsame : last.target.isStable = last.source.isStable) :
    sinceVerdict (trace ++ [last]) = sinceVerdict trace ++ [last] := by
  rw [sinceVerdict, List.rtakeWhile_concat_pos]
  · rfl
  · simp [hsame]

theorem IntervalPassed.snoc {trace : Trace State Action} (hpassed : IntervalPassed trace)
    (last : Transition State Action) : IntervalPassed (trace ++ [last]) := by
  obtain ⟨before, starting, between, expiring, after, rfl, hstarts, hexpires⟩ := hpassed
  exact ⟨before, starting, between, expiring, after ++ [last], by simp, hstarts, hexpires⟩

/-- The run since the last change of the verdict begins in the state of that change. -/
theorem path_sinceVerdict {start : State} {trace : Trace State Action}
    (hpath : Path (step config) start trace state) :
    Path (step config) (verdictState trace state) (sinceVerdict trace) state := by
  obtain ⟨earlier, hsince⟩ := trace.rtakeWhile_suffix fun transition =>
    transition.source.isStable == transition.target.isStable
  have hsince : earlier ++ sinceVerdict trace = trace := hsince
  rw [← hsince] at hpath
  obtain ⟨middle, -, hlast⟩ := path_append_iff.mp hpath
  have hmiddle : verdictState trace state = middle := by
    rw [verdictState]
    cases hlist : sinceVerdict trace with
    | nil =>
        rw [hlist, path_nil_iff] at hlast
        exact hlast
    | cons first rest =>
        rw [hlist, ← List.nil_append (first :: rest), path_append_cons_iff,
          path_nil_iff] at hlast
        exact hlast.1
  rwa [hmiddle]

/-! ## Every run -/

/-- An instance of `loadManagerTask` that is about to give a load back has been told so
after a whole interval. -/
def ToldLate (trace : Trace State Action) (state : State) : Prop :=
  ∀ manager, state.loadManagers manager = some .manage → state.isStable = true →
    state.isManagingLoads = true → IntervalPassed (sinceVerdict trace)

/-- A step that leaves the verdict alone, makes no instance ready to manage the loads,
and does not begin an episode on a stable grid. -/
theorem ToldLate.kept {trace : Trace State Action} (htold : ToldLate trace state)
    (hsame : next.isStable = state.isStable)
    (hmanagers : ∀ manager, next.loadManagers manager = some .manage →
      state.loadManagers manager = some .manage)
    (hmanaging : next.isStable = true → next.isManagingLoads = true →
      state.isManagingLoads = true) :
    ToldLate (trace ++ [⟨state, action, next⟩]) next := by
  intro manager hpc hstable hmanages
  rw [sinceVerdict_kept hsame]
  exact (htold manager (hmanagers manager hpc) (hsame ▸ hstable)
    (hmanaging hstable hmanages)).snoc _

theorem manage_of_update {managers : LoadManager → Option LoadManagerPc}
    {moved manager : LoadManager} {pc : LoadManagerPc} (hpc : pc ≠ .manage)
    (hmanage : Function.update managers moved (some pc) manager = some .manage) :
    managers manager = some .manage := by
  by_cases hsame : manager = moved
  · rw [hsame, Function.update_self] at hmanage
    exact absurd (Option.some.inj hmanage) hpc
  · rwa [Function.update_of_ne hsame] at hmanage

theorem step_toldLate {start : State} {trace : Trace State Action}
    (hpath : Path (step config) start trace state)
    (hstep : step config state action = some next)
    (hasked : FindsDormant ⟨state, action, next⟩ →
      RunOutSince (verdictState trace state) state)
    (hundisturbed : TurnsStable ⟨state, action, next⟩ →
      ∀ manager, state.loadManagers manager ≠ some .manage)
    (htold : ToldLate trace state) :
    ToldLate (trace ++ [⟨state, action, next⟩]) next := by
  cases step_effect hstep with
  | managerChecked manager hpc =>
      intro other hother hstable hmanaging
      rw [sinceVerdict_kept (by rfl)]
      apply IntervalPassed.snoc
      by_cases hsame : other = manager
      · have hdormant : Dormant state := by
          subst hsame
          simp only [Function.update_self, Option.some.injEq] at hother
          split at hother
          case isTrue => cases hother
          case isFalse hdormant => exact Bool.eq_false_iff.mpr hdormant
        exact (hasked ⟨⟨manager, rfl, hpc⟩, hdormant, hstable, hmanaging⟩).intervalPassed
          (path_sinceVerdict hpath)
      · simp only [Function.update_of_ne hsame] at hother
        exact htold other hother hstable hmanaging
  | judged isStable hpc =>
      intro manager hmanage hstable hmanaging
      have hstable : isStable = true := hstable
      subst hstable
      cases hbefore : state.isStable with
      | true =>
          rw [sinceVerdict_kept (by simp [hbefore])]
          exact (htold manager hmanage hbefore hmanaging).snoc _
      | false => exact absurd hmanage (hundisturbed ⟨rfl, hpc, hbefore, hmanaging⟩ manager)
  | managed manager hpc hmanaged =>
      apply htold.kept
      · rfl
      · exact fun other => manage_of_update (by simp)
      · cases hmanaged with
        | shed hunstable =>
            intro hstable
            simp [hunstable] at hstable
        | restored _ hmanaging | finished _ hmanaging => exact fun _ _ => hmanaging
        | left => exact fun _ hmanaging => by cases hmanaging
  | managerTaken | managerReset | sent | expired =>
      apply htold.kept
      · rfl
      · exact fun other => manage_of_update (by simp)
      · exact fun _ hmanaging => hmanaging
  | maintenanceToggled =>
      apply htold.kept
      · rfl
      · exact fun _ hmanage => hmanage
      · exact fun _ hmanaging => by cases hmanaging
  | _ => exact htold.kept rfl (fun _ hmanage => hmanage) fun _ hmanaging => hmanaging

theorem AsksLate.of_append {left right : Trace State Action}
    (hasks : AsksLate (left ++ right)) : AsksLate left where
  runOut := hasks.runOut.of_append
  undisturbed transition hmem := hasks.undisturbed transition (List.mem_append_left _ hmem)

theorem toldLate_of_path {activatedLoads : Word} {trace : Trace State Action}
    (hpath : Path (step config) (initial activatedLoads) trace state)
    (hasks : AsksLate trace) : ToldLate trace state := by
  induction hpath with
  | nil => exact fun _ _ hstable => by cases hstable
  | snoc hearlier hstep ih =>
      exact step_toldLate hearlier hstep (hasks.runOut _ _ [] rfl)
        (hasks.undisturbed _ (by simp)) (ih hasks.of_append)

/-- A load is given back where the task manages loads on a stable grid. -/
theorem GivesLoadBack.manages {transition : Transition State Action}
    (hgives : GivesLoadBack transition)
    (hstep : step config transition.source transition.action =
      some transition.target) :
    ∃ manager, transition.source.loadManagers manager = some .manage ∧
      transition.source.isStable = true ∧ transition.source.isManagingLoads = true := by
  obtain ⟨source, action, target⟩ := transition
  obtain ⟨⟨manager, rfl⟩, load, hblocked, hgiven⟩ := hgives
  dsimp only at hblocked hgiven hstep ⊢
  cases step_effect hstep with
  | managed _ hpc hmanaged =>
      cases hmanaged with
      | shed => exact absurd (subset_shedOne hblocked) hgiven
      | restored hstable hmanaging | finished hstable hmanaging =>
          exact ⟨manager, hpc, hstable, hmanaging⟩
      | left => exact absurd hblocked hgiven
  | peripheral _ _ _ _ _ hother => cases hother
  | _ => exact absurd hblocked hgiven

/-- A load is shed, and the verdict changes back before the timer is started. -/
def shedThenStable : List Action :=
  verdict true ++ request ++ verdict false ++ request ++ verdict true

theorem verdictState_kept {trace : Trace State Action}
    (hsame : next.isStable = state.isStable) :
    verdictState (trace ++ [⟨state, action, next⟩]) next = verdictState trace state := by
  rw [verdictState, verdictState, sinceVerdict_kept hsame]
  cases sinceVerdict trace with
  | nil => rfl
  | cons first rest => rfl

/-- An instance that is told that the timer is dormant on a stable grid gives a load back
with its next step. -/
theorem restores_when_told (config : Config) {manager : LoadManager}
    (hpc : state.loadManagers manager = some .checkTimer) (hdormant : Dormant state)
    (hstable : state.isStable = true) (hmanaging : state.isManagingLoads = true) :
    ∃ told finish, step config state (.loadManager manager) = some told ∧
      step config told (.loadManager manager) = some finish ∧
        told.isStable = state.isStable ∧ told.blockedLoads = state.blockedLoads ∧
          finish.blockedLoads = restoreOne config.numOfLoads state.blockedLoads := by
  let told : State :=
    { state with
      loadManagers := Function.update state.loadManagers manager (some .manage) }
  have hasks : step config state (.loadManager manager) = some told := by
    have hinactive : state.loadManagementTimer.active = false := hdormant
    simp only [step, hpc, Option.map_some, loadManagerTask, hinactive, Bool.false_eq_true,
      if_false, told]
  obtain ⟨managing, blocked, timer, hmanaged, heq⟩ := manageLoads_managed config told
  let finish : State :=
    { manageLoads config told with
      loadManagers := Function.update told.loadManagers manager
        (some (.send (loadStatus (manageLoads config told)))) }
  have hmanages : step config told (.loadManager manager) = some finish := by
    have hmanage : told.loadManagers manager = some .manage := Function.update_self _ _ _
    simp only [step, hmanage, Option.map_some, loadManagerTask, finish]
  refine ⟨told, finish, hasks, hmanages, rfl, rfl, ?_⟩
  have hfinish : finish.blockedLoads = blocked := by simp only [finish, heq]
  rw [hfinish]
  cases hmanaged with
  | shed hunstable => exact absurd hstable (by simpa [told] using hunstable)
  | restored => rfl
  | finished _ _ hzero => exact hzero.symm
  | left _ hidle => exact absurd hmanaging (by simpa [told] using hidle)

/-- When the timer has not run out since the verdict and is found dormant all the same,
the instance that was told so gives a load back too early with its next step. -/
theorem restores_too_early {activatedLoads : Word} {trace : Trace State Action}
    (hpath : Path (step config) (initial activatedLoads) trace state)
    {manager : LoadManager} (hpc : state.loadManagers manager = some .checkTimer)
    (hdormant : Dormant state) (hstable : state.isStable = true)
    (hmanaging : state.isManagingLoads = true) {load : ℕ}
    (hblocked : load ∈ members state.blockedLoads)
    (hgiven : load ∉ members (restoreOne config.numOfLoads state.blockedLoads))
    (hearly : (verdictState trace state).serviceFree → state.serviceFree) :
    ∃ rest finish, Path (step config) (initial activatedLoads) (trace ++ rest) finish ∧
      (∀ transition ∈ rest, transition.action = .loadManager manager) ∧
        ¬ RestoresAfterInterval (trace ++ rest) := by
  obtain ⟨told, finish, hasks, hmanages, hsame, hkept, hrestored⟩ :=
    restores_when_told config hpc hdormant hstable hmanaging
  have hlater := (hpath.snoc hasks).snoc hmanages
  refine ⟨[⟨state, .loadManager manager, told⟩, ⟨told, .loadManager manager, finish⟩],
    finish, by simpa using hlater, by simp, ?_⟩
  intro hrestores
  have hgives : GivesLoadBack ⟨told, .loadManager manager, finish⟩ :=
    ⟨⟨manager, rfl⟩, load, by rwa [hkept], by rwa [hrestored]⟩
  have hpassed := hrestores (trace ++ [⟨state, .loadManager manager, told⟩]) _ []
    (by simp) hgives
  have hsince := path_sinceVerdict (hpath.snoc hasks)
  rw [intervalPassed_iff hsince, verdictState_kept hsame] at hpassed
  obtain ⟨⟨hcaptured, hfree⟩, -⟩ := hpassed
  rw [step_serviceFree hasks] at hcaptured
  exact hcaptured ⟨hearly hfree, by simp⟩

end FrequencyRelay.HelloWorld
