import Mathlib.Data.Fintype.Defs
import Mathlib.Logic.Function.Basic
import FrequencyRelay.Core.OneShotTimer
import FrequencyRelay.Relay.LoadScan
import FrequencyRelay.Relay.PushButton

/-!
# The tasks of `hello_world.c`

Every task is a program counter over the shared states.  What a task does while
it is inside a mutex is one step, and so is every kernel call outside of them.
`setupTimers` registers `loadManagerTask` itself as the callback of
`loadManagementTimer`: at the first expiry the timer service enters a second
instance of the task, which never returns to it.

The misspelt states of `switchPollTask` are read as the declared ones, the toggle
of `maintenanceState` as a toggle of `inMaintenance`, and the `maintenance_sem` of
`pushButtonISR` as `maintenanceSemaphore`.
-/

namespace FrequencyRelay.HelloWorld

open FrequencyRelay.LoadScan
open FrequencyRelay.OneShotTimer
open FrequencyRelay.PushButton

/-- `NUM_OF_LOADS` and the length of `loadControlQueue`, which the source leaves
open. -/
structure Config where
  numOfLoads : ℕ
  queueLength : ℕ

/-- `struct LoadStatus`. -/
structure LoadStatus where
  activatedLoads : Word
  blockedLoads : Word
  deriving DecidableEq

/-- `maintenanceTask`. -/
inductive MaintenancePc
  | takeSemaphore
  | checkTimer
  | stopTimer
  | toggle
  deriving DecidableEq

/-- `frequencyAnalyserTask`, which is between two samples or has found that it
must call the load manager. -/
inductive FrequencyAnalyserPc
  | betweenSamples
  | callLoadManager
  deriving DecidableEq

/-- `loadManagerTask`. -/
inductive LoadManagerPc
  | takeSemaphore
  | checkTimer
  | resetActive
  | manage
  | send (loads : LoadStatus)
  deriving DecidableEq

/-- `loadManagerTask` as the task that `setupTasks` creates, and as the callback
inside the timer service. -/
inductive LoadManager
  | task
  | callback
  deriving DecidableEq

instance : Fintype LoadManager where
  elems := {.task, .callback}
  complete manager := by cases manager <;> decide

/-- The shared states, the kernel objects, the board, and the position of every
party.  `loadManagers` has an entry for each instance that has been started. -/
structure State where
  inMaintenance : Bool
  blockedLoads : Word
  activatedLoads : Word
  isManagingLoads : Bool
  isStable : Bool
  maintenanceSemaphore : Bool
  loadManagementSemaphore : Bool
  loadManagementTimer : Timer
  loadControlQueue : List LoadStatus
  redLeds : Word
  greenLeds : Word
  pushButton : Buttons
  maintenance : MaintenancePc
  frequencyAnalyser : FrequencyAnalyserPc
  loadManagers : LoadManager → Option LoadManagerPc

/-- The state in which `main` starts the scheduler, for any `activatedLoads`.
`setupStates` does not write `activatedLoads`, `isManagingLoads` and `isStable`,
which are zero as all globals are. -/
def initial (activatedLoads : Word) : State where
  inMaintenance := false
  blockedLoads := 0
  activatedLoads := activatedLoads
  isManagingLoads := false
  isStable := false
  maintenanceSemaphore := false
  loadManagementSemaphore := false
  loadManagementTimer := .dormant
  loadControlQueue := []
  redLeds := 0
  greenLeds := 0
  pushButton := maintanenceInit
  maintenance := .takeSemaphore
  frequencyAnalyser := .betweenSamples
  loadManagers
    | .task => some .takeSemaphore
    | .callback => none

/-- The state that `main` really reaches. -/
def afterSetup : State := initial 0

variable (config : Config)

/-- `xTimerReset(loadManagementTimer, 10)`. -/
def resetTimer (state : State) : State :=
  { state with loadManagementTimer := state.loadManagementTimer.send .reset }

/-- `xQueueSendToBack` with no wait: a full queue drops the message. -/
def sendToBack (loads : LoadStatus) (state : State) : State :=
  if state.loadControlQueue.length < config.queueLength then
    { state with loadControlQueue := state.loadControlQueue ++ [loads] }
  else state

def shedLoad (state : State) : State :=
  { state with
    blockedLoads :=
      shedOne config.numOfLoads state.activatedLoads state.blockedLoads }

def activateLoad (state : State) : State :=
  let restored :=
    { state with blockedLoads := restoreOne config.numOfLoads state.blockedLoads }
  if restoreResets config.numOfLoads state.blockedLoads then resetTimer restored
  else restored

/-- What `loadManagerTask` does inside the mutexes. -/
def manageLoads (state : State) : State :=
  if !state.isStable then
    resetTimer (shedLoad config { state with isManagingLoads := true })
  else if state.isStable && state.isManagingLoads then
    let restored := activateLoad config state
    if restored.blockedLoads > 0 then resetTimer restored
    else { restored with isManagingLoads := false }
  else state

/-- The message that reports the loads. -/
def loadStatus (state : State) : LoadStatus :=
  ⟨state.activatedLoads - state.blockedLoads, state.blockedLoads⟩

/-- The next step of an instance of `loadManagerTask`, and where it is then.  A
semaphore that is not available lets the take time out, and the loop starts
again. -/
def loadManagerTask (state : State) : LoadManagerPc → State × LoadManagerPc
  | .takeSemaphore =>
      if state.loadManagementSemaphore then
        ({ state with loadManagementSemaphore := false }, .checkTimer)
      else (state, .takeSemaphore)
  | .checkTimer =>
      (state, if state.loadManagementTimer.active then .resetActive else .manage)
  | .resetActive => (resetTimer state, .takeSemaphore)
  | .manage =>
      let managed := manageLoads config state
      (managed, .send (loadStatus managed))
  | .send loads => (sendToBack config loads state, .takeSemaphore)

/-- The next step of `maintenanceTask`. -/
def maintenanceTask (state : State) : State :=
  match state.maintenance with
  | .takeSemaphore =>
      if state.maintenanceSemaphore then
        { state with maintenanceSemaphore := false, maintenance := .checkTimer }
      else state
  | .checkTimer =>
      { state with
        maintenance :=
          if state.loadManagementTimer.active then .stopTimer else .toggle }
  | .stopTimer =>
      { state with
        loadManagementTimer := state.loadManagementTimer.send .stop
        maintenance := .toggle }
  | .toggle =>
      { state with
        inMaintenance := !state.inMaintenance
        isManagingLoads := false
        blockedLoads := 0
        maintenance := .takeSemaphore }

/-- The next step of `frequencyAnalyserTask`; `isStable` is the verdict on the
next sample if this is the step that computes it. -/
def frequencyAnalyserTask (isStable : Bool) (state : State) : State :=
  match state.frequencyAnalyser with
  | .betweenSamples =>
      { state with
        isStable := isStable
        frequencyAnalyser :=
          if isStable != state.isStable && !state.inMaintenance then .callLoadManager
          else .betweenSamples }
  | .callLoadManager =>
      { state with
        loadManagementSemaphore := true, frequencyAnalyser := .betweenSamples }

/-- The message of `switchPollTask`.  While loads are managed, what the switches
read is overwritten before it is sent. -/
def pollStatus (switches : Word) (state : State) : LoadStatus :=
  let switchValue := switches &&& loadMask config.numOfLoads
  if !state.isManagingLoads then ⟨switchValue, 0⟩ else loadStatus state

/-- One pass of `switchPollTask`, with what the switches read. -/
def switchPollTask (switches : Word) (state : State) : State :=
  sendToBack config (pollStatus config switches state) state

/-- `ledManagerTask` receives a message and shows it. -/
def ledManagerTask (state : State) : Option State :=
  match state.loadControlQueue with
  | [] => none
  | loads :: rest =>
      some { state with
        loadControlQueue := rest
        redLeds := loads.activatedLoads
        greenLeds := loads.blockedLoads }

/-! ## Interleavings -/

/-- One step of some party; `buttonEdge` is the environment. -/
inductive Action
  | maintenance
  | frequencyAnalyser (isStable : Bool)
  | loadManager (manager : LoadManager)
  | switchPoll (switches : Word)
  | ledManager
  | timerCommand
  | timerExpiry
  | pushButtonISR
  | buttonEdge (index : Fin 3)
  deriving DecidableEq

/-- The timer service can still carry out commands and let the timer expire. -/
def State.serviceFree (state : State) : Prop := state.loadManagers .callback = none

instance (state : State) : Decidable state.serviceFree :=
  inferInstanceAs (Decidable (_ = none))

def step (state : State) : Action → Option State
  | .maintenance => some (maintenanceTask state)
  | .frequencyAnalyser isStable => some (frequencyAnalyserTask isStable state)
  | .loadManager manager =>
      (state.loadManagers manager).map fun pc =>
        let result := loadManagerTask config state pc
        { result.1 with
          loadManagers :=
            Function.update state.loadManagers manager (some result.2) }
  | .switchPoll switches => some (switchPollTask config switches state)
  | .ledManager => ledManagerTask state
  | .timerCommand =>
      if state.serviceFree then
        state.loadManagementTimer.process.map fun timer =>
          { state with loadManagementTimer := timer }
      else none
  | .timerExpiry =>
      -- the callback is `loadManagerTask`, entered at the top of its loop
      if state.serviceFree then
        state.loadManagementTimer.expire.map fun timer =>
          { state with
            loadManagementTimer := timer
            loadManagers :=
              Function.update state.loadManagers .callback (some .takeSemaphore) }
      else none
  | .pushButtonISR =>
      (buttonInterrupt state.pushButton).map fun result =>
        { state with
          pushButton := result.1
          maintenanceSemaphore := state.maintenanceSemaphore || result.2 }
  | .buttonEdge index => some { state with pushButton := edge state.pushButton index }

/-! ## What is sent -/

/-- The message that a step of `loadManagerTask` sends, whether or not the queue has
room for it. -/
def managerMessage (state : State) : Action → Option LoadStatus
  | .loadManager manager =>
      match state.loadManagers manager with
      | some (.send loads) => some loads
      | _ => none
  | _ => none

/-- The message that a step of either sender sends. -/
def sentMessage (state : State) : Action → Option LoadStatus
  | .switchPoll switches => some (pollStatus config switches state)
  | action => managerMessage state action

/-! ## Passes of the tasks on their own -/

/-- One verdict and the call it causes, if it is a change. -/
def verdict (isStable : Bool) : List Action :=
  [.frequencyAnalyser isStable, .frequencyAnalyser isStable]

/-- One request served by the task, from its take to its message. -/
def request : List Action := List.replicate 4 (.loadManager .task)

/-- A press of button 0 up to the give of `maintenanceSemaphore`, and the pass of
`maintenanceTask` that it starts. -/
def press : List Action :=
  .buttonEdge 0 :: List.replicate 3 .pushButtonISR ++ List.replicate 3 .maintenance

/-! ## What a step can do -/

/-- The steps of `switchPollTask`, `ledManagerTask` and the push buttons, which
read the load states and write none of them. -/
def Action.isPeripheral : Action → Bool
  | .switchPoll _ | .ledManager | .pushButtonISR | .buttonEdge _ => true
  | _ => false

/-- What `loadManagerTask` leaves in `isManagingLoads`, `blockedLoads` and the
timer. -/
inductive Managed (config : Config) (state : State) : Bool → Word → Timer → Prop
  | shed : state.isStable = false →
      Managed config state true
        (shedOne config.numOfLoads state.activatedLoads state.blockedLoads)
        (state.loadManagementTimer.send .reset)
  | restored {timer : Timer} : state.isStable = true → state.isManagingLoads = true →
      timer = state.loadManagementTimer ∨
        timer = state.loadManagementTimer.send .reset →
      Managed config state true (restoreOne config.numOfLoads state.blockedLoads)
        (timer.send .reset)
  | finished : state.isStable = true → state.isManagingLoads = true →
      restoreOne config.numOfLoads state.blockedLoads = 0 →
      Managed config state false 0 state.loadManagementTimer
  | left : state.isStable = true → state.isManagingLoads = false →
      Managed config state false state.blockedLoads state.loadManagementTimer

theorem manageLoads_managed (config : Config) (state : State) :
    ∃ managing blocked timer, Managed config state managing blocked timer ∧
      manageLoads config state =
        { state with
          isManagingLoads := managing
          blockedLoads := blocked
          loadManagementTimer := timer } := by
  unfold manageLoads
  split
  case isTrue hunstable =>
    exact ⟨_, _, _, .shed (by simpa using hunstable), rfl⟩
  case isFalse hstable =>
    have hstable : state.isStable = true := by simpa using hstable
    split
    case isFalse hidle =>
      have hidle : state.isManagingLoads = false := by simpa [hstable] using hidle
      exact ⟨_, _, _, .left hstable hidle, by rw [← hidle]⟩
    case isTrue hmanaging =>
      have hmanaging : state.isManagingLoads = true := by
        simpa [hstable] using hmanaging
      unfold activateLoad
      dsimp only
      split
      case isTrue hreset =>
        have hpos : restoreOne config.numOfLoads state.blockedLoads > 0 := by
          rw [restoreResets, Bool.and_eq_true] at hreset
          exact (BitVec.pos_iff_ne_zero _).mpr (by simpa using hreset.2)
        refine ⟨_, _, _, .restored hstable hmanaging (.inr rfl), ?_⟩
        rw [← hmanaging]
        exact if_pos hpos
      case isFalse =>
        split
        · refine ⟨_, _, _, .restored hstable hmanaging (.inl rfl), ?_⟩
          rw [← hmanaging]
          rfl
        case isFalse hzero =>
          have hzero : restoreOne config.numOfLoads state.blockedLoads = 0 := by
            simpa using hzero
          exact ⟨_, _, _, .finished hstable hmanaging hzero, by rw [← hzero]⟩

/-- When an instance of `loadManagerTask` moves on, the messages still to be sent are
those of the other instances and the one it may have now. -/
theorem messages_update {Allowed : LoadStatus → Prop}
    {managers : LoadManager → Option LoadManagerPc} (manager : LoadManager)
    {pc : LoadManagerPc} (hpc : ∀ message, pc = .send message → Allowed message)
    (hothers : ∀ other message, managers other = some (.send message) →
      Allowed message) :
    ∀ other message,
      Function.update managers manager (some pc) other = some (.send message) →
        Allowed message := by
  intro other message hother
  by_cases hne : other = manager
  · subst hne
    rw [Function.update_self] at hother
    exact hpc message (Option.some.inj hother)
  · rw [Function.update_of_ne hne] at hother
    exact hothers other message hother

theorem sendToBack_eq (config : Config) (loads : LoadStatus) (state : State) :
    ∃ queue, sendToBack config loads state = { state with loadControlQueue := queue } := by
  unfold sendToBack
  split
  · exact ⟨_, rfl⟩
  · exact ⟨_, rfl⟩

/-- Every way in which a step changes the state. -/
inductive Effect (config : Config) (state : State) : Action → State → Prop
  | maintenanceWaited : state.maintenance = .takeSemaphore →
      Effect config state .maintenance state
  | maintenanceTaken : state.maintenance = .takeSemaphore →
      state.maintenanceSemaphore = true → Effect config state .maintenance
        { state with maintenanceSemaphore := false, maintenance := .checkTimer }
  | maintenanceChecked : state.maintenance = .checkTimer →
      Effect config state .maintenance
        { state with
          maintenance :=
            if state.loadManagementTimer.active then .stopTimer else .toggle }
  | maintenanceStopped : state.maintenance = .stopTimer →
      Effect config state .maintenance
        { state with
          loadManagementTimer := state.loadManagementTimer.send .stop
          maintenance := .toggle }
  | maintenanceToggled : state.maintenance = .toggle →
      Effect config state .maintenance
        { state with
          inMaintenance := !state.inMaintenance
          isManagingLoads := false
          blockedLoads := 0
          maintenance := .takeSemaphore }
  | judged (isStable : Bool) : state.frequencyAnalyser = .betweenSamples →
      Effect config state (.frequencyAnalyser isStable)
        { state with
          isStable := isStable
          frequencyAnalyser :=
            if isStable != state.isStable && !state.inMaintenance then
              .callLoadManager
            else .betweenSamples }
  | called (isStable : Bool) : state.frequencyAnalyser = .callLoadManager →
      Effect config state (.frequencyAnalyser isStable)
        { state with
          loadManagementSemaphore := true, frequencyAnalyser := .betweenSamples }
  | managerWaited (manager : LoadManager) :
      state.loadManagers manager = some .takeSemaphore →
        Effect config state (.loadManager manager) state
  | managerTaken (manager : LoadManager) :
      state.loadManagers manager = some .takeSemaphore →
      state.loadManagementSemaphore = true →
        Effect config state (.loadManager manager)
          { state with
            loadManagementSemaphore := false
            loadManagers :=
              Function.update state.loadManagers manager (some .checkTimer) }
  | managerChecked (manager : LoadManager) :
      state.loadManagers manager = some .checkTimer →
        Effect config state (.loadManager manager)
          { state with
            loadManagers :=
              Function.update state.loadManagers manager
                (some (if state.loadManagementTimer.active then .resetActive
                  else .manage)) }
  | managerReset (manager : LoadManager) :
      state.loadManagers manager = some .resetActive →
        Effect config state (.loadManager manager)
          { state with
            loadManagementTimer := state.loadManagementTimer.send .reset
            loadManagers :=
              Function.update state.loadManagers manager (some .takeSemaphore) }
  | managed (manager : LoadManager) {managing : Bool} {blocked : Word}
      {timer : Timer} :
      state.loadManagers manager = some .manage →
        Managed config state managing blocked timer →
          Effect config state (.loadManager manager)
            { state with
              isManagingLoads := managing
              blockedLoads := blocked
              loadManagementTimer := timer
              loadManagers :=
                Function.update state.loadManagers manager
                  (some (.send ⟨state.activatedLoads - blocked, blocked⟩)) }
  | sent (manager : LoadManager) {loads : LoadStatus} (queue : List LoadStatus) :
      state.loadManagers manager = some (.send loads) →
        Effect config state (.loadManager manager)
          { state with
            loadControlQueue := queue
            loadManagers :=
              Function.update state.loadManagers manager (some .takeSemaphore) }
  | commanded {timer : Timer} : state.serviceFree →
      state.loadManagementTimer.process = some timer →
        Effect config state .timerCommand { state with loadManagementTimer := timer }
  | expired {timer : Timer} : state.serviceFree →
      state.loadManagementTimer.expire = some timer →
        Effect config state .timerExpiry
          { state with
            loadManagementTimer := timer
            loadManagers :=
              Function.update state.loadManagers .callback (some .takeSemaphore) }
  | peripheral {action : Action} (queue : List LoadStatus) (red green : Word)
      (button : Buttons) (pressed : Bool) : action.isPeripheral = true →
      Effect config state action
        { state with
          loadControlQueue := queue
          redLeds := red
          greenLeds := green
          pushButton := button
          maintenanceSemaphore := pressed }

theorem maintenanceTask_effect (config : Config) (state : State) :
    Effect config state .maintenance (maintenanceTask state) := by
  cases hpc : state.maintenance with
  | takeSemaphore =>
      simp only [maintenanceTask, hpc]
      split
      case isTrue hpressed => exact .maintenanceTaken hpc hpressed
      case isFalse => exact .maintenanceWaited hpc
  | checkTimer =>
      simp only [maintenanceTask, hpc]
      exact .maintenanceChecked hpc
  | stopTimer =>
      simp only [maintenanceTask, hpc]
      exact .maintenanceStopped hpc
  | toggle =>
      simp only [maintenanceTask, hpc]
      exact .maintenanceToggled hpc

theorem frequencyAnalyserTask_effect (config : Config) (isStable : Bool)
    (state : State) :
    Effect config state (.frequencyAnalyser isStable)
      (frequencyAnalyserTask isStable state) := by
  cases hpc : state.frequencyAnalyser with
  | betweenSamples =>
      simp only [frequencyAnalyserTask, hpc]
      exact .judged isStable hpc
  | callLoadManager =>
      simp only [frequencyAnalyserTask, hpc]
      exact .called isStable hpc

theorem loadManagerTask_effect (config : Config) {state : State}
    {manager : LoadManager} {pc : LoadManagerPc}
    (hpc : state.loadManagers manager = some pc) :
    Effect config state (.loadManager manager)
      { (loadManagerTask config state pc).1 with
        loadManagers :=
          Function.update state.loadManagers manager
            (some (loadManagerTask config state pc).2) } := by
  cases pc with
  | takeSemaphore =>
      simp only [loadManagerTask]
      split
      case isTrue hgiven => exact .managerTaken manager hpc hgiven
      case isFalse =>
        rw [← hpc, Function.update_eq_self]
        exact .managerWaited manager hpc
  | checkTimer => exact .managerChecked manager hpc
  | resetActive => exact .managerReset manager hpc
  | manage =>
      obtain ⟨managing, blocked, timer, hmanaged, heq⟩ :=
        manageLoads_managed config state
      simp only [loadManagerTask, heq, loadStatus]
      exact .managed manager hpc hmanaged
  | send loads =>
      obtain ⟨queue, heq⟩ := sendToBack_eq config loads state
      simp only [loadManagerTask, heq]
      exact .sent manager queue hpc

theorem step_effect {config : Config} {state next : State} {action : Action}
    (hstep : step config state action = some next) :
    Effect config state action next := by
  cases action with
  | maintenance =>
      obtain rfl := Option.some.inj hstep
      exact maintenanceTask_effect config state
  | frequencyAnalyser isStable =>
      obtain rfl := Option.some.inj hstep
      exact frequencyAnalyserTask_effect config isStable state
  | loadManager manager =>
      obtain ⟨pc, hpc, rfl⟩ := Option.map_eq_some_iff.mp hstep
      exact loadManagerTask_effect config hpc
  | switchPoll switches =>
      obtain rfl := Option.some.inj hstep
      obtain ⟨queue, heq⟩ :=
        sendToBack_eq config (pollStatus config switches state) state
      rw [switchPollTask, heq]
      exact .peripheral _ _ _ _ _ rfl
  | ledManager =>
      simp only [step, ledManagerTask] at hstep
      split at hstep
      · cases hstep
      · obtain rfl := Option.some.inj hstep
        exact .peripheral _ _ _ _ _ rfl
  | timerCommand =>
      simp only [step] at hstep
      split at hstep
      case isTrue hfree =>
        obtain ⟨timer, htimer, rfl⟩ := Option.map_eq_some_iff.mp hstep
        exact .commanded hfree htimer
      case isFalse => cases hstep
  | timerExpiry =>
      simp only [step] at hstep
      split at hstep
      case isTrue hfree =>
        obtain ⟨timer, htimer, rfl⟩ := Option.map_eq_some_iff.mp hstep
        exact .expired hfree htimer
      case isFalse => cases hstep
  | pushButtonISR =>
      obtain ⟨result, -, rfl⟩ := Option.map_eq_some_iff.mp hstep
      exact .peripheral _ _ _ _ _ rfl
  | buttonEdge index =>
      obtain rfl := Option.some.inj hstep
      exact .peripheral _ _ _ _ _ rfl

/-! ## What a step can do to the loads -/

section Loads

variable {config : Config} {state next : State} {action : Action}

theorem Effect.activatedLoads (heffect : Effect config state action next) :
    next.activatedLoads = state.activatedLoads := by
  cases heffect <;> rfl

/-- Maintenance clears the blocked loads, and `manageLoads` may change them. -/
theorem Effect.blockedLoads (heffect : Effect config state action next)
    (Allowed : Word → Prop) (hstate : Allowed state.blockedLoads)
    (hcleared : Allowed 0)
    (hmanages : ∀ managing blocked timer,
      Managed config state managing blocked timer → Allowed blocked) :
    Allowed next.blockedLoads := by
  cases heffect with
  | maintenanceToggled => exact hcleared
  | managed _ _ hmanaged => exact hmanages _ _ _ hmanaged
  | _ => exact hstate

/-- A message still to be sent is an earlier one or what `manageLoads` has left. -/
theorem Effect.messages {Allowed : LoadStatus → Prop}
    (heffect : Effect config state action next)
    (hstate : ∀ manager message, state.loadManagers manager = some (.send message) →
      Allowed message)
    (hmanages : ∀ managing blocked timer,
      Managed config state managing blocked timer →
        Allowed ⟨state.activatedLoads - blocked, blocked⟩) :
    ∀ manager message, next.loadManagers manager = some (.send message) →
      Allowed message := by
  cases heffect with
  | managed manager _ hmanaged =>
      apply messages_update manager _ hstate
      intro message hmessage
      rw [← LoadManagerPc.send.inj hmessage]
      exact hmanages _ _ _ hmanaged
  | managerChecked manager =>
      apply messages_update manager _ hstate
      intro message hmessage
      split at hmessage <;> cases hmessage
  | managerTaken manager | managerReset manager | sent manager | expired =>
      exact messages_update _ (by simp) hstate
  | _ => exact hstate

end Loads

end FrequencyRelay.HelloWorld
