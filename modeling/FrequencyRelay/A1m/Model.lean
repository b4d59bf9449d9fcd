import FrequencyRelay.Core.OneShotTimer
import FrequencyRelay.Relay.LoadScan
import FrequencyRelay.Relay.PushButton

/-!
# The tasks of `a1m.c`

Every task is a program counter over the globals.  One step is one kernel call
(semaphore, queue or timer) or the whole stretch of code between two such calls.
The undeclared `load_volatility_state` and `load_control_state` of
`FrequencyTaskAnalyzer` are read as `unstable_state` and `managing_load_state`.
-/

namespace FrequencyRelay.A1m

open FrequencyRelay.LoadScan
open FrequencyRelay.OneShotTimer
open FrequencyRelay.PushButton

/-- `struct loadValues`. -/
structure LoadValues where
  loads : Word
  blockedLoads : Word
  deriving DecidableEq

/-- `LoadManagementTask`.  The three resets on the deciding paths are the one
after shedding, the one inside `turn_on_most_important_load`, and the one made
when more loads need reconnecting. -/
inductive LoadManagementPc
  | takeSemaphore
  | checkTimer
  | resetActive
  | decide
  | resetUnstable
  | resetTurnedOn
  | reconnectOrExit
  | resetReconnect
  | snapshot
  | send (loads : LoadValues)
  deriving DecidableEq

/-- `ToggleMaintenanceTask`. -/
inductive ToggleMaintenancePc
  | takeSemaphore
  | checkTimer
  | stopTimer
  | toggle
  deriving DecidableEq

/-- `SwitchPollingTask`; the delay needs no state of its own. -/
inductive SwitchPollingPc
  | poll
  | send (loads : LoadValues)
  deriving DecidableEq

/-- `FrequencyTaskAnalyzer`. -/
inductive FrequencyPc
  | takeSemaphore
  | setFlags
  | give
  deriving DecidableEq

/-- The globals, the kernel objects and the position of every party.  The timer
service is the timer itself, its command queue, and whether it is inside
`LoadControlTimerCallback`. -/
structure State where
  unstableState : Bool
  maintenanceState : Bool
  managingLoadState : Bool
  loadValue : Word
  blockedLoads : Word
  maintenanceSem : Bool
  loadManageSem : Bool
  freqSem : Bool
  loadTimer : Timer
  inCallback : Bool
  taskQ : List LoadValues
  button : Buttons
  loadManagement : LoadManagementPc
  toggleMaintenance : ToggleMaintenancePc
  switchPolling : SwitchPollingPc
  frequencyAnalyzer : FrequencyPc
  deriving DecidableEq

/-- The state in which `main` starts the scheduler, for any `load_value`. -/
def initial (loadValue : Word) : State where
  unstableState := false
  maintenanceState := false
  managingLoadState := false
  loadValue := loadValue
  blockedLoads := 0
  maintenanceSem := false
  loadManageSem := false
  freqSem := false
  loadTimer := .dormant
  inCallback := false
  taskQ := []
  button := maintanenceInit
  loadManagement := .takeSemaphore
  toggleMaintenance := .takeSemaphore
  switchPolling := .poll
  frequencyAnalyzer := .takeSemaphore

variable (numOfLoads : ℕ)

def turnOffLeastImportantLoad (state : State) : State :=
  { state with
    blockedLoads := shedOne numOfLoads state.loadValue state.blockedLoads }

/-- The update made by `turn_on_most_important_load`; its timer reset is the
program counter `resetTurnedOn`. -/
def turnOnMostImportantLoad (state : State) : State :=
  { state with blockedLoads := restoreOne numOfLoads state.blockedLoads }

/-- The message of `LoadManagementTask`, computed after its last timer call. -/
def takeSnapshot (state : State) : State :=
  { state with
    loadManagement :=
      .send ⟨state.loadValue - state.blockedLoads, state.blockedLoads⟩ }

/-- The code after `turn_on_most_important_load` returns. -/
def reconnectOrExit (state : State) : State :=
  if 0 < state.blockedLoads.toInt then
    { state with loadManagement := .resetReconnect }
  else takeSnapshot { state with managingLoadState := false }

/-- The code entered when the timer was found dormant. -/
def decideLoads (state : State) : State :=
  if state.unstableState then
    { turnOffLeastImportantLoad numOfLoads
        { state with managingLoadState := true } with
      loadManagement := .resetUnstable }
  else if state.managingLoadState then
    if restoreResets numOfLoads state.blockedLoads then
      { turnOnMostImportantLoad numOfLoads state with
        loadManagement := .resetTurnedOn }
    else reconnectOrExit (turnOnMostImportantLoad numOfLoads state)
  else takeSnapshot state

/-- The next step of `LoadManagementTask`; `timerActive` is what
`xTimerIsTimerActive` answers if this is the step that asks.  A semaphore that
is not available lets the take time out, and the loop starts again. -/
def loadManagementTask (timerActive : Bool) (state : State) : State :=
  match state.loadManagement with
  | .takeSemaphore =>
      if state.loadManageSem then
        { state with loadManageSem := false, loadManagement := .checkTimer }
      else state
  | .checkTimer =>
      { state with
        loadManagement := if timerActive then .resetActive else .decide }
  | .resetActive =>
      { state with
        loadTimer := state.loadTimer.send .reset, loadManagement := .takeSemaphore }
  | .decide => decideLoads numOfLoads state
  | .resetUnstable =>
      { state with
        loadTimer := state.loadTimer.send .reset, loadManagement := .snapshot }
  | .resetTurnedOn =>
      { state with
        loadTimer := state.loadTimer.send .reset
        loadManagement := .reconnectOrExit }
  | .reconnectOrExit => reconnectOrExit state
  | .resetReconnect =>
      { state with
        loadTimer := state.loadTimer.send .reset, loadManagement := .snapshot }
  | .snapshot => takeSnapshot state
  | .send loads =>
      { state with
        taskQ := state.taskQ ++ [loads], loadManagement := .takeSemaphore }

/-- The next step of `ToggleMaintenanceTask`. -/
def toggleMaintenanceTask (timerActive : Bool) (state : State) : State :=
  match state.toggleMaintenance with
  | .takeSemaphore =>
      if state.maintenanceSem then
        { state with maintenanceSem := false, toggleMaintenance := .checkTimer }
      else state
  | .checkTimer =>
      { state with
        toggleMaintenance := if timerActive then .stopTimer else .toggle }
  | .stopTimer =>
      { state with
        loadTimer := state.loadTimer.send .stop, toggleMaintenance := .toggle }
  | .toggle =>
      { state with
        maintenanceState := !state.maintenanceState
        managingLoadState := false
        blockedLoads := 0
        toggleMaintenance := .takeSemaphore }

/-- The next step of `SwitchPollingTask`, with what the switches read. -/
def switchPollingTask (switches : Word) (state : State) : State :=
  match state.switchPolling with
  | .poll =>
      let reading := switches &&& loadMask numOfLoads
      if state.managingLoadState = false then
        { state with switchPolling := .send ⟨reading, 0⟩ }
      else
        let blocked := state.blockedLoads &&& reading
        let loads := state.loadValue &&& reading
        { state with
          blockedLoads := blocked
          loadValue := loads
          switchPolling := .send ⟨loads - blocked, blocked⟩ }
  | .send loads =>
      { state with taskQ := state.taskQ ++ [loads], switchPolling := .poll }

/-- The next step of `FrequencyTaskAnalyzer`. -/
def frequencyTaskAnalyzer (state : State) : State :=
  match state.frequencyAnalyzer with
  | .takeSemaphore =>
      if state.freqSem then
        { state with freqSem := false, frequencyAnalyzer := .setFlags }
      else state
  | .setFlags =>
      { state with
        unstableState := true
        managingLoadState := true
        frequencyAnalyzer := .give }
  | .give =>
      { state with loadManageSem := true, frequencyAnalyzer := .takeSemaphore }

/-! ## Interleavings -/

/-- One step of some party.  `frequencyEvent`, `buttonEdge` and `setUnstable`
are the environment: a give of `freq_sem`, a press of a button, a write to
`unstable_state`. -/
inductive Action
  | loadManagement
  | toggleMaintenance
  | switchPolling (switches : Word)
  | frequencyAnalyzer
  | timerCommand
  | timerExpiry
  | timerCallback
  | buttonInterrupt
  | buttonEdge (index : Fin 3)
  | frequencyEvent
  | setUnstable (unstable : Bool)
  deriving DecidableEq

/-- One event of the frequency unit from an idle state, up to and including the
step in which `LoadManagementTask` sheds for it. -/
def oneDisturbance : List Action :=
  [.frequencyEvent, .frequencyAnalyzer, .frequencyAnalyzer, .frequencyAnalyzer,
    .loadManagement, .loadManagement, .loadManagement]

/-- One step with a given answer of `xTimerIsTimerActive`. -/
def stepReading (timerActive : Bool) (state : State) : Action → Option State
  | .loadManagement => some (loadManagementTask numOfLoads timerActive state)
  | .toggleMaintenance => some (toggleMaintenanceTask timerActive state)
  | .switchPolling switches => some (switchPollingTask numOfLoads switches state)
  | .frequencyAnalyzer => some (frequencyTaskAnalyzer state)
  | .timerCommand =>
      if state.inCallback then none
      else state.loadTimer.process.map fun timer => { state with loadTimer := timer }
  | .timerExpiry =>
      if state.inCallback then none
      else state.loadTimer.expire.map fun timer =>
        { state with loadTimer := timer, inCallback := true }
  | .timerCallback =>
      -- LoadControlTimerCallback gives the semaphore and returns
      if state.inCallback then
        some { state with loadManageSem := true, inCallback := false }
      else none
  | .buttonInterrupt =>
      (PushButton.buttonInterrupt state.button).map fun result =>
        { state with
          button := result.1, maintenanceSem := state.maintenanceSem || result.2 }
  | .buttonEdge index => some { state with button := edge state.button index }
  | .frequencyEvent => some { state with freqSem := true }
  | .setUnstable unstable => some { state with unstableState := unstable }

/-- One step of the program, where the timer answers for itself. -/
def step (state : State) (action : Action) : Option State :=
  stepReading numOfLoads state.loadTimer.active state action

/-- One step with the timer's answer left to the environment. -/
def freeStep (state : State) (action : Action × Bool) : Option State :=
  stepReading numOfLoads action.2 state action.1

/-! ## What a step can do -/

/-- Where `LoadManagementTask` is after each of its four timer resets. -/
def LoadManagementPc.afterReset : LoadManagementPc → Option LoadManagementPc
  | .resetActive => some .takeSemaphore
  | .resetUnstable | .resetReconnect => some .snapshot
  | .resetTurnedOn => some .reconnectOrExit
  | _ => none

/-- Every way in which a step changes the state, `timerActive` being the answer of
`xTimerIsTimerActive` if the step asks for it. -/
inductive Effect (numOfLoads : ℕ) (timerActive : Bool) (state : State) :
    Action → State → Prop
  | managementWaited : state.loadManagement = .takeSemaphore →
      Effect numOfLoads timerActive state .loadManagement state
  | managementTaken : state.loadManagement = .takeSemaphore →
      state.loadManageSem = true →
        Effect numOfLoads timerActive state .loadManagement
          { state with loadManageSem := false, loadManagement := .checkTimer }
  | managementChecked : state.loadManagement = .checkTimer →
      Effect numOfLoads timerActive state .loadManagement
        { state with
          loadManagement := if timerActive then .resetActive else .decide }
  | managementReset {target : LoadManagementPc} :
      state.loadManagement.afterReset = some target →
        Effect numOfLoads timerActive state .loadManagement
          { state with
            loadTimer := state.loadTimer.send .reset, loadManagement := target }
  | turnedOff : state.loadManagement = .decide → state.unstableState = true →
      Effect numOfLoads timerActive state .loadManagement
        { state with
          managingLoadState := true
          blockedLoads := shedOne numOfLoads state.loadValue state.blockedLoads
          loadManagement := .resetUnstable }
  | turnedOn : state.loadManagement = .decide → state.unstableState = false →
      state.managingLoadState = true →
        restoreResets numOfLoads state.blockedLoads = true →
          Effect numOfLoads timerActive state .loadManagement
            { state with
              blockedLoads := restoreOne numOfLoads state.blockedLoads
              loadManagement := .resetTurnedOn }
  | turnedOnLast : state.loadManagement = .decide → state.unstableState = false →
      state.managingLoadState = true →
        restoreResets numOfLoads state.blockedLoads = false →
          Effect numOfLoads timerActive state .loadManagement
            (reconnectOrExit (turnOnMostImportantLoad numOfLoads state))
  | left : state.loadManagement = .reconnectOrExit →
      Effect numOfLoads timerActive state .loadManagement (reconnectOrExit state)
  | reported (loads : LoadValues) :
      state.loadManagement = .snapshot ∨
        state.loadManagement = .decide ∧ state.managingLoadState = false →
      Effect numOfLoads timerActive state .loadManagement
        { state with loadManagement := .send loads }
  | managementSent {loads : LoadValues} (queue : List LoadValues) :
      state.loadManagement = .send loads →
        Effect numOfLoads timerActive state .loadManagement
          { state with taskQ := queue, loadManagement := .takeSemaphore }
  | maintenanceWaited : state.toggleMaintenance = .takeSemaphore →
      Effect numOfLoads timerActive state .toggleMaintenance state
  | maintenanceTaken : state.toggleMaintenance = .takeSemaphore →
      state.maintenanceSem = true →
        Effect numOfLoads timerActive state .toggleMaintenance
          { state with maintenanceSem := false, toggleMaintenance := .checkTimer }
  | maintenanceChecked : state.toggleMaintenance = .checkTimer →
      Effect numOfLoads timerActive state .toggleMaintenance
        { state with
          toggleMaintenance := if timerActive then .stopTimer else .toggle }
  | maintenanceStopped : state.toggleMaintenance = .stopTimer →
      Effect numOfLoads timerActive state .toggleMaintenance
        { state with
          loadTimer := state.loadTimer.send .stop, toggleMaintenance := .toggle }
  | maintenanceToggled : state.toggleMaintenance = .toggle →
      Effect numOfLoads timerActive state .toggleMaintenance
        { state with
          maintenanceState := !state.maintenanceState
          managingLoadState := false
          blockedLoads := 0
          toggleMaintenance := .takeSemaphore }
  | polled (switches : Word) (queue : List LoadValues) (pc : SwitchPollingPc) :
      Effect numOfLoads timerActive state (.switchPolling switches)
        { state with taskQ := queue, switchPolling := pc }
  | masked (switches : Word) (pc : SwitchPollingPc) :
      state.managingLoadState = true →
        Effect numOfLoads timerActive state (.switchPolling switches)
          { state with
            blockedLoads := state.blockedLoads &&& (switches &&& loadMask numOfLoads)
            loadValue := state.loadValue &&& (switches &&& loadMask numOfLoads)
            switchPolling := pc }
  | analyzerWaited : state.frequencyAnalyzer = .takeSemaphore →
      Effect numOfLoads timerActive state .frequencyAnalyzer state
  | analyzerTaken : state.frequencyAnalyzer = .takeSemaphore →
      state.freqSem = true →
        Effect numOfLoads timerActive state .frequencyAnalyzer
          { state with freqSem := false, frequencyAnalyzer := .setFlags }
  | analyzerSet : state.frequencyAnalyzer = .setFlags →
      Effect numOfLoads timerActive state .frequencyAnalyzer
        { state with
          unstableState := true
          managingLoadState := true
          frequencyAnalyzer := .give }
  | analyzerGave : state.frequencyAnalyzer = .give →
      Effect numOfLoads timerActive state .frequencyAnalyzer
        { state with loadManageSem := true, frequencyAnalyzer := .takeSemaphore }
  | commanded {timer : Timer} : state.loadTimer.process = some timer →
      state.inCallback = false →
        Effect numOfLoads timerActive state .timerCommand
          { state with loadTimer := timer }
  | expired {timer : Timer} : state.loadTimer.expire = some timer →
      state.inCallback = false →
        Effect numOfLoads timerActive state .timerExpiry
          { state with loadTimer := timer, inCallback := true }
  | calledBack : state.inCallback = true →
      Effect numOfLoads timerActive state .timerCallback
        { state with loadManageSem := true, inCallback := false }
  | external {action : Action} (pressed event unstable : Bool) (button : Buttons) :
      (unstable = state.unstableState ∨ action = .setUnstable unstable) →
        action ≠ .timerExpiry → action ≠ .loadManagement →
          Effect numOfLoads timerActive state action
            { state with
              unstableState := unstable
              maintenanceSem := pressed
              freqSem := event
              button := button }

variable {numOfLoads} {timerActive : Bool} {state next : State} {action : Action}

theorem loadManagementTask_effect :
    Effect numOfLoads timerActive state .loadManagement
      (loadManagementTask numOfLoads timerActive state) := by
  cases hpc : state.loadManagement with
  | takeSemaphore =>
      simp only [loadManagementTask, hpc]
      split
      case isTrue hgiven => exact .managementTaken hpc hgiven
      case isFalse => exact .managementWaited hpc
  | checkTimer =>
      simp only [loadManagementTask, hpc]
      exact .managementChecked hpc
  | decide =>
      simp only [loadManagementTask, hpc, decideLoads]
      split
      case isTrue hunstable => exact .turnedOff hpc hunstable
      case isFalse hstable =>
        have hstable := Bool.eq_false_iff.mpr hstable
        split
        case isTrue hmanaging =>
          split
          case isTrue hreset => exact .turnedOn hpc hstable hmanaging hreset
          case isFalse hreset =>
            exact .turnedOnLast hpc hstable hmanaging (Bool.eq_false_iff.mpr hreset)
        case isFalse hidle =>
          exact .reported _ (.inr ⟨hpc, Bool.eq_false_iff.mpr hidle⟩)
  | resetActive | resetUnstable | resetTurnedOn | resetReconnect =>
      simp only [loadManagementTask, hpc]
      exact .managementReset (by rw [hpc]; rfl)
  | reconnectOrExit =>
      simp only [loadManagementTask, hpc]
      exact .left hpc
  | snapshot =>
      simp only [loadManagementTask, hpc]
      exact .reported _ (.inl hpc)
  | send loads =>
      simp only [loadManagementTask, hpc]
      exact .managementSent _ hpc

theorem toggleMaintenanceTask_effect :
    Effect numOfLoads timerActive state .toggleMaintenance
      (toggleMaintenanceTask timerActive state) := by
  cases hpc : state.toggleMaintenance with
  | takeSemaphore =>
      simp only [toggleMaintenanceTask, hpc]
      split
      case isTrue hgiven => exact .maintenanceTaken hpc hgiven
      case isFalse => exact .maintenanceWaited hpc
  | checkTimer =>
      simp only [toggleMaintenanceTask, hpc]
      exact .maintenanceChecked hpc
  | stopTimer =>
      simp only [toggleMaintenanceTask, hpc]
      exact .maintenanceStopped hpc
  | toggle =>
      simp only [toggleMaintenanceTask, hpc]
      exact .maintenanceToggled hpc

theorem switchPollingTask_effect (switches : Word) :
    Effect numOfLoads timerActive state (.switchPolling switches)
      (switchPollingTask numOfLoads switches state) := by
  cases hpc : state.switchPolling with
  | poll =>
      simp only [switchPollingTask, hpc]
      split
      · exact .polled switches _ _
      case isFalse hmanaging => exact .masked switches _ (by simpa using hmanaging)
  | send loads =>
      simp only [switchPollingTask, hpc]
      exact .polled switches _ _

theorem frequencyTaskAnalyzer_effect :
    Effect numOfLoads timerActive state .frequencyAnalyzer
      (frequencyTaskAnalyzer state) := by
  cases hpc : state.frequencyAnalyzer with
  | takeSemaphore =>
      simp only [frequencyTaskAnalyzer, hpc]
      split
      case isTrue hgiven => exact .analyzerTaken hpc hgiven
      case isFalse => exact .analyzerWaited hpc
  | setFlags =>
      simp only [frequencyTaskAnalyzer, hpc]
      exact .analyzerSet hpc
  | give =>
      simp only [frequencyTaskAnalyzer, hpc]
      exact .analyzerGave hpc

theorem stepReading_effect
    (hstep : stepReading numOfLoads timerActive state action = some next) :
    Effect numOfLoads timerActive state action next := by
  cases action with
  | loadManagement =>
      obtain rfl := Option.some.inj hstep
      exact loadManagementTask_effect
  | toggleMaintenance =>
      obtain rfl := Option.some.inj hstep
      exact toggleMaintenanceTask_effect
  | switchPolling switches =>
      obtain rfl := Option.some.inj hstep
      exact switchPollingTask_effect switches
  | frequencyAnalyzer =>
      obtain rfl := Option.some.inj hstep
      exact frequencyTaskAnalyzer_effect
  | timerCommand =>
      simp only [stepReading] at hstep
      split at hstep
      case isTrue => cases hstep
      case isFalse hfree =>
        obtain ⟨timer, htimer, rfl⟩ := Option.map_eq_some_iff.mp hstep
        exact .commanded htimer (Bool.eq_false_iff.mpr hfree)
  | timerExpiry =>
      simp only [stepReading] at hstep
      split at hstep
      case isTrue => cases hstep
      case isFalse hfree =>
        obtain ⟨timer, htimer, rfl⟩ := Option.map_eq_some_iff.mp hstep
        exact .expired htimer (Bool.eq_false_iff.mpr hfree)
  | timerCallback =>
      simp only [stepReading] at hstep
      split at hstep
      case isTrue hcallback =>
        obtain rfl := Option.some.inj hstep
        exact .calledBack hcallback
      case isFalse => cases hstep
  | buttonInterrupt =>
      obtain ⟨result, -, rfl⟩ := Option.map_eq_some_iff.mp hstep
      exact .external _ _ _ _ (.inl rfl) (by simp) (by simp)
  | buttonEdge | frequencyEvent =>
      obtain rfl := Option.some.inj hstep
      exact .external _ _ _ _ (.inl rfl) (by simp) (by simp)
  | setUnstable unstable =>
      obtain rfl := Option.some.inj hstep
      exact .external _ _ _ _ (.inr rfl) (by simp) (by simp)

/-- What `reconnectOrExit` does: it only moves the task on, and ends load
management if no load is blocked. -/
theorem reconnectOrExit_eq (state : State) :
    ∃ managing target,
      reconnectOrExit state =
        { state with managingLoadState := managing, loadManagement := target } ∧
      (0 < state.blockedLoads.toInt ∧ managing = state.managingLoadState ∧
          target = .resetReconnect ∨
        ¬ 0 < state.blockedLoads.toInt ∧ managing = false ∧
          ∃ loads, target = .send loads) := by
  by_cases hblocked : 0 < state.blockedLoads.toInt
  · exact ⟨_, _, if_pos hblocked, .inl ⟨hblocked, rfl, rfl⟩⟩
  · exact ⟨_, _, if_neg hblocked, .inr ⟨hblocked, rfl, _, rfl⟩⟩

end FrequencyRelay.A1m
