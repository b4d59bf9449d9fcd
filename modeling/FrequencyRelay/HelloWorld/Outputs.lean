import FrequencyRelay.Core.Delivery
import FrequencyRelay.HelloWorld.Model

/-!
# What the outputs show

A message to `ledManagerTask` carries the pair of values that its sender had copied.
The tasks are followed here step by step between a copy and the output: an instance of
`loadManagerTask` gives `loadManagementState.mutex` before it copies and all mutexes
before it sends, `switchPollTask` sends inside that mutex, and `ledManagerTask` writes
one row of LEDs after the other.  Everything else is as in `HelloWorld.step`.
-/

namespace FrequencyRelay.Outputs

open FrequencyRelay.HelloWorld hiding State step initial
open FrequencyRelay.LoadScan
open FrequencyRelay.Runs

/-- `ledManagerTask`, with what it still has to write. -/
inductive LedManagerPc
  | receive
  | writeRed (loads : LoadStatus)
  | writeGreen (blockedLoads : Word)
  deriving DecidableEq

inductive Sender
  | loadManager (manager : LoadManager)
  | switchPoll
  deriving DecidableEq

instance : Fintype Sender where
  elems := {.loadManager .task, .loadManager .callback, .switchPoll}
  complete sender := by
    cases sender with
    | loadManager manager => cases manager <;> decide
    | switchPoll => decide

/-- `copying` is the instance of `loadManagerTask` that has managed the loads and holds
`blockedLoadState.mutex` and `activatedLoadState.mutex` for its copy, and `polled` the
copy of `switchPollTask`, which holds `loadManagementState.mutex` until it is sent.

The copies are counted by `taken`, and `latest` is the last of them.  The numbers of
those that the senders hold, that wait in `loadControlQueue`, and that `ledManagerTask`
has received last are `number`, `waiting` and `shown`.  No step depends on these. -/
structure State where
  relay : HelloWorld.State
  copying : Option LoadManager
  polled : Option LoadStatus
  ledManager : LedManagerPc
  latest : LoadStatus
  taken : ℕ
  number : Sender → ℕ
  waiting : List ℕ
  shown : ℕ

/-- The scheduler starts; the LEDs are off. -/
def initial (activatedLoads : Word) : State where
  relay := HelloWorld.initial activatedLoads
  copying := none
  polled := none
  ledManager := .receive
  latest := ⟨0, 0⟩
  taken := 0
  number _ := 0
  waiting := []
  shown := 0

variable (config : Config)

/-- A sender takes a copy. -/
def State.takenBy (sender : Sender) (loads : LoadStatus) (state : State) : State :=
  { state with
    latest := loads
    taken := state.taken + 1
    number := Function.update state.number sender (state.taken + 1) }

/-- A sender sends its copy. -/
def State.sentBy (sender : Sender) (state : State) : State :=
  { state with
    waiting :=
      Delivery.enqueueNumber config.queueLength state.relay.loadControlQueue state.waiting
        (state.number sender) }

@[simp]
theorem relay_sentBy (sender : Sender) (state : State) :
    (state.sentBy config sender).relay = state.relay := rfl

/-- A step of the relay that is neither a copy nor an output. -/
def relayStep (state : State) (action : Action) : Option State :=
  (HelloWorld.step config state.relay action).map fun relay =>
    { state with relay := relay }

/-- `loadManagerTask`, which copies the loads in a step of its own. -/
def loadManagerStep (manager : LoadManager) (state : State) : Option State :=
  match state.relay.loadManagers manager with
  | some .manage =>
      if state.copying = some manager then
        let loads := loadStatus state.relay
        let managers :=
          Function.update state.relay.loadManagers manager (some (.send loads))
        some { state.takenBy (.loadManager manager) loads with
          relay := { state.relay with loadManagers := managers }
          copying := none }
      else if state.copying = none ∧ state.polled = none then
        some { state with
          relay := manageLoads config state.relay
          copying := some manager }
      else none
  | some (.send _) =>
      relayStep config (state.sentBy config (.loadManager manager)) (.loadManager manager)
  | _ => relayStep config state (.loadManager manager)

/-- `switchPollTask`, which needs the mutexes of the loads only while they are
managed. -/
def switchPollStep (switches : Word) (state : State) : Option State :=
  match state.polled with
  | none =>
      if state.relay.isManagingLoads ∧ state.copying ≠ none then none
      else
        let loads := pollStatus config switches state.relay
        some { state.takenBy .switchPoll loads with polled := some loads }
  | some loads =>
      some { state.sentBy config .switchPoll with
        relay := sendToBack config loads state.relay
        polled := none }

def ledManagerStep (state : State) : Option State :=
  match state.ledManager with
  | .receive =>
      match state.relay.loadControlQueue with
      | [] => none
      | loads :: rest =>
          some { state with
            relay := { state.relay with loadControlQueue := rest }
            ledManager := .writeRed loads
            waiting := state.waiting.tail
            shown := state.waiting.headD state.shown }
  | .writeRed loads =>
      some { state with
        relay := { state.relay with redLeds := loads.activatedLoads }
        ledManager := .writeGreen loads.blockedLoads }
  | .writeGreen blockedLoads =>
      some { state with
        relay := { state.relay with greenLeds := blockedLoads }
        ledManager := .receive }

def step (state : State) : Action → Option State
  | .loadManager manager => loadManagerStep config manager state
  | .switchPoll switches => switchPollStep config switches state
  | .ledManager => ledManagerStep state
  | .maintenance =>
      -- the toggle waits for the mutexes that the two senders hold
      if state.relay.maintenance = .toggle ∧
          ¬ (state.copying = none ∧ state.polled = none) then none
      else relayStep config state .maintenance
  | action => relayStep config state action

/-! ## What a receiver of the messages sees -/

/-- The copy that a sender has taken and not yet sent. -/
def State.held (state : State) : Sender → Option LoadStatus
  | .loadManager manager => managerMessage state.relay (.loadManager manager)
  | .switchPoll => state.polled

/-- What the LEDs show when `ledManagerTask` has written everything it has received. -/
def State.received (state : State) : LoadStatus :=
  match state.ledManager with
  | .receive => ⟨state.relay.redLeds, state.relay.greenLeds⟩
  | .writeRed loads => loads
  | .writeGreen blockedLoads => ⟨state.relay.redLeds, blockedLoads⟩

/-- The outputs as a delivery of copies. -/
def delivery (state : State) : Delivery.State Sender LoadStatus where
  held := state.held
  queue := state.relay.loadControlQueue
  received := state.received
  latest := state.latest
  taken := state.taken
  number := state.number
  waiting := state.waiting
  shown := state.shown

/-- The part that a step of `loadManagerTask` has in the delivery. -/
def loadManagerEvent (manager : LoadManager) (state : State) :
    Option (Delivery.Action Sender LoadStatus) :=
  match state.relay.loadManagers manager with
  | some .manage =>
      if state.copying = some manager then
        some (.snapshot (.loadManager manager) (loadStatus state.relay))
      else none
  | some (.send _) => some (.send (.loadManager manager))
  | _ => none

def switchPollEvent (switches : Word) (state : State) :
    Option (Delivery.Action Sender LoadStatus) :=
  match state.polled with
  | none => some (.snapshot .switchPoll (pollStatus config switches state.relay))
  | some _ => some (.send .switchPoll)

def event (state : State) : Action → Option (Delivery.Action Sender LoadStatus)
  | .loadManager manager => loadManagerEvent manager state
  | .switchPoll switches => switchPollEvent config switches state
  | .ledManager => if state.ledManager = .receive then some .receive else none
  | _ => none

theorem event_loadManager (manager : LoadManager) (state : State) :
    event config state (.loadManager manager) = loadManagerEvent manager state := rfl

theorem event_switchPoll (switches : Word) (state : State) :
    event config state (.switchPoll switches) = switchPollEvent config switches state :=
  rfl

/-- The queue is empty, `ledManagerTask` is waiting, and no sender is between its copy
and its send. -/
def Quiet (state : State) : Prop :=
  state.relay.loadControlQueue = [] ∧ state.ledManager = .receive ∧
    ∀ sender, state.held sender = none

/-! ## Every step is one of the delivery, or none -/

variable {config : Config} {state next : State} {action : Action}

/-- The message of an instance of `loadManagerTask` at a place in its loop. -/
def message : LoadManagerPc → Option LoadStatus
  | .send loads => some loads
  | _ => none

theorem held_of_pc {manager : LoadManager} {pc : LoadManagerPc}
    (hpc : state.relay.loadManagers manager = some pc) :
    state.held (.loadManager manager) = message pc := by
  rw [State.held, managerMessage, hpc]
  cases pc with
  | send loads => rfl
  | _ => rfl

/-- One instance of `loadManagerTask` has moved on. -/
theorem held_move {manager : LoadManager} (pc : LoadManagerPc)
    (hmanagers : next.relay.loadManagers =
      Function.update state.relay.loadManagers manager (some pc))
    (hpolled : next.polled = state.polled) :
    next.held = Function.update state.held (.loadManager manager) (message pc) := by
  funext sender
  cases sender with
  | switchPoll =>
      rw [Function.update_of_ne (by simp)]
      exact hpolled
  | loadManager other =>
      by_cases hsame : other = manager
      · subst hsame
        rw [Function.update_self]
        apply held_of_pc
        rw [hmanagers, Function.update_self]
      · have hdifferent : Sender.loadManager other ≠ .loadManager manager :=
          fun heq => hsame (Sender.loadManager.inj heq)
        rw [Function.update_of_ne hdifferent, State.held, State.held, managerMessage,
          managerMessage, hmanagers, Function.update_of_ne hsame]

/-- `switchPollTask` has copied or sent. -/
theorem held_poll (hmanagers : next.relay.loadManagers = state.relay.loadManagers) :
    next.held = Function.update state.held .switchPoll next.polled := by
  funext sender
  cases sender with
  | switchPoll =>
      rw [Function.update_self]
      rfl
  | loadManager manager =>
      rw [Function.update_of_ne (by simp), State.held, State.held, managerMessage,
        managerMessage, hmanagers]

theorem received_eq (hred : next.relay.redLeds = state.relay.redLeds)
    (hgreen : next.relay.greenLeds = state.relay.greenLeds)
    (hled : next.ledManager = state.ledManager) : next.received = state.received := by
  rw [State.received, State.received, hled, hred, hgreen]

/-- What is recorded about the copies. -/
def State.record (state : State) : LoadStatus × ℕ × (Sender → ℕ) × List ℕ × ℕ :=
  (state.latest, state.taken, state.number, state.waiting, state.shown)

theorem delivery_of_record {recorded : State} (hrecord : next.record = recorded.record) :
    delivery next = { delivery recorded with
      held := next.held
      queue := next.relay.loadControlQueue
      received := next.received } := by
  simp only [State.record, Prod.mk.injEq] at hrecord
  obtain ⟨hlatest, htaken, hnumber, hwaiting, hshown⟩ := hrecord
  rw [delivery, delivery, hlatest, htaken, hnumber, hwaiting, hshown]

/-- A step that moves no message and writes no LED is not one of the delivery. -/
theorem delivery_eq (hqueue : next.relay.loadControlQueue = state.relay.loadControlQueue)
    (hred : next.relay.redLeds = state.relay.redLeds)
    (hgreen : next.relay.greenLeds = state.relay.greenLeds)
    (hheld : next.held = state.held) (hled : next.ledManager = state.ledManager)
    (hrecord : next.record = state.record) : delivery next = delivery state := by
  rw [delivery_of_record hrecord, hqueue, hheld, received_eq hred hgreen hled]
  rfl

/-- A step that takes a copy. -/
theorem delivery_snapshot {capacity : ℕ} {sender : Sender} {loads : LoadStatus}
    (hnone : state.held sender = none)
    (hheld : next.held = Function.update state.held sender (some loads))
    (hqueue : next.relay.loadControlQueue = state.relay.loadControlQueue)
    (hreceived : next.received = state.received)
    (hrecord : next.record = (state.takenBy sender loads).record) :
    Delivery.step capacity (delivery state) (.snapshot sender loads) =
      some (delivery next) := by
  have hnone : (delivery state).held sender = none := hnone
  rw [Delivery.step, if_pos hnone, delivery_of_record hrecord, hheld, hqueue, hreceived]
  rfl

/-- A step that sends one. -/
theorem delivery_send {config : Config} {sender : Sender} {loads : LoadStatus}
    (hsome : state.held sender = some loads)
    (hheld : next.held = Function.update state.held sender none)
    (hqueue : next.relay.loadControlQueue =
      Delivery.enqueue config.queueLength state.relay.loadControlQueue loads)
    (hreceived : next.received = state.received)
    (hrecord : next.record = (state.sentBy config sender).record) :
    Delivery.step config.queueLength (delivery state) (.send sender) =
      some (delivery next) := by
  have hsome : (delivery state).held sender = some loads := hsome
  rw [Delivery.step, hsome, Option.map_some, delivery_of_record hrecord, hheld, hqueue,
    hreceived]
  rfl

theorem loadControlQueue_sendToBack (loads : LoadStatus) (relay : HelloWorld.State) :
    (sendToBack config loads relay).loadControlQueue =
      Delivery.enqueue config.queueLength relay.loadControlQueue loads := by
  rw [sendToBack, Delivery.enqueue]
  split
  · rfl
  · rfl

/-- Sending changes nothing but the queue. -/
theorem sendToBack_same (config : Config) (loads : LoadStatus) (relay : HelloWorld.State) :
    (sendToBack config loads relay).loadManagers = relay.loadManagers ∧
      (sendToBack config loads relay).redLeds = relay.redLeds ∧
        (sendToBack config loads relay).greenLeds = relay.greenLeds := by
  obtain ⟨queue, heq⟩ := sendToBack_eq config loads relay
  rw [heq]
  exact ⟨rfl, rfl, rfl⟩

/-- The steps of the tasks as steps of the delivery. -/
abbrev Delivers (config : Config) (state next : State) (action : Action) : Prop :=
  Simulates (Delivery.step config.queueLength) delivery (event config state action) state
    next

theorem ledManagerStep_delivers (hstep : ledManagerStep state = some next) :
    Delivers config state next .ledManager := by
  rw [ledManagerStep] at hstep
  cases hled : state.ledManager with
  | receive =>
      have hevent : event config state .ledManager = some .receive := if_pos hled
      rw [Delivers, hevent]
      simp only [hled] at hstep
      cases hqueue : state.relay.loadControlQueue with
      | nil =>
          simp only [hqueue] at hstep
          cases hstep
      | cons loads rest =>
          simp only [hqueue] at hstep
          obtain rfl := Option.some.inj hstep
          simp only [Simulates, Delivery.step, delivery, hqueue]
          rfl
  | writeRed loads =>
      have hevent : event config state .ledManager = none := if_neg (by simp [hled])
      rw [Delivers, hevent]
      simp only [hled] at hstep
      obtain rfl := Option.some.inj hstep
      simp only [Simulates, delivery, State.received, hled]
      rfl
  | writeGreen blockedLoads =>
      have hevent : event config state .ledManager = none := if_neg (by simp [hled])
      rw [Delivers, hevent]
      simp only [hled] at hstep
      obtain rfl := Option.some.inj hstep
      simp only [Simulates, delivery, State.received, hled]
      rfl

theorem switchPollStep_delivers {switches : Word}
    (hstep : switchPollStep config switches state = some next) :
    Delivers config state next (.switchPoll switches) := by
  rw [switchPollStep] at hstep
  cases hpolled : state.polled with
  | none =>
      have hevent : event config state (.switchPoll switches) =
          some (.snapshot .switchPoll (pollStatus config switches state.relay)) := by
        rw [event_switchPoll, switchPollEvent, hpolled]
      rw [Delivers, hevent]
      simp only [hpolled] at hstep
      split at hstep
      case isTrue => cases hstep
      case isFalse =>
        obtain rfl := Option.some.inj hstep
        exact delivery_snapshot hpolled (held_poll (by rfl)) rfl rfl rfl
  | some loads =>
      have hevent : event config state (.switchPoll switches) =
          some (.send .switchPoll) := by
        rw [event_switchPoll, switchPollEvent, hpolled]
      rw [Delivers, hevent]
      simp only [hpolled] at hstep
      obtain rfl := Option.some.inj hstep
      obtain ⟨hmanagers, hred, hgreen⟩ :=
        sendToBack_same config loads state.relay
      exact delivery_send hpolled (held_poll hmanagers)
        (loadControlQueue_sendToBack loads state.relay) (received_eq hred hgreen rfl) rfl

/-- An instance of `loadManagerTask` moves on, without a message before or after. -/
theorem held_silent {manager : LoadManager} {before : LoadManagerPc}
    (hpc : state.relay.loadManagers manager = some before)
    (hbefore : message before = none) (after : LoadManagerPc)
    (hafter : message after = none)
    (hmanagers : next.relay.loadManagers =
      Function.update state.relay.loadManagers manager (some after))
    (hpolled : next.polled = state.polled) : next.held = state.held := by
  rw [held_move after hmanagers hpolled, hafter, ← hbefore, ← held_of_pc hpc,
    Function.update_eq_self]

theorem loadManagerTask_delivery {manager : LoadManager} {pc : LoadManagerPc}
    (hpc : state.relay.loadManagers manager = some pc) (hmessage : message pc = none)
    (hmanage : pc ≠ .manage)
    (hstep : relayStep config state (.loadManager manager) = some next) :
    delivery next = delivery state := by
  obtain ⟨relay, hrelay, rfl⟩ := Option.map_eq_some_iff.mp hstep
  cases step_effect hrelay with
  | managerWaited => rfl
  | managerTaken =>
      exact delivery_eq rfl rfl rfl
        (held_silent hpc hmessage .checkTimer rfl (by rfl) (by rfl)) rfl rfl
  | managerChecked =>
      let after : LoadManagerPc :=
        if state.relay.loadManagementTimer.active then .resetActive else .manage
      have hafter : message after = none := by
        unfold after
        split
        · rfl
        · rfl
      exact delivery_eq rfl rfl rfl
        (held_silent hpc hmessage after hafter (by rfl) (by rfl)) rfl rfl
  | managerReset =>
      exact delivery_eq rfl rfl rfl
        (held_silent hpc hmessage .takeSemaphore rfl (by rfl) (by rfl)) rfl rfl
  | managed _ hpcManage =>
      rw [hpc] at hpcManage
      exact absurd (Option.some.inj hpcManage) hmanage
  | sent _ _ hsent =>
      rw [hpc] at hsent
      obtain rfl := Option.some.inj hsent
      cases hmessage
  | peripheral _ _ _ _ _ hperipheral => cases hperipheral

/-- Managing the loads and copying them. -/
theorem loadManagerStep_manage_delivers {manager : LoadManager}
    (hpc : state.relay.loadManagers manager = some .manage)
    (hstep : loadManagerStep config manager state = some next) :
    Delivers config state next (.loadManager manager) := by
  rw [loadManagerStep] at hstep
  simp only [hpc] at hstep
  split at hstep
  case isTrue hcopying =>
    obtain rfl := Option.some.inj hstep
    have hevent : event config state (.loadManager manager) =
        some (.snapshot (.loadManager manager) (loadStatus state.relay)) := by
      rw [event_loadManager, loadManagerEvent, hpc]
      exact if_pos hcopying
    rw [Delivers, hevent]
    exact delivery_snapshot (held_of_pc hpc)
      (held_move (.send (loadStatus state.relay)) (by rfl) (by rfl)) rfl rfl rfl
  case isFalse hother =>
    have hevent : event config state (.loadManager manager) = none := by
      rw [event_loadManager, loadManagerEvent, hpc]
      exact if_neg hother
    rw [Delivers, hevent]
    split at hstep
    case isTrue =>
      obtain rfl := Option.some.inj hstep
      obtain ⟨managing, blocked, timer, -, heq⟩ := manageLoads_managed config state.relay
      simp only [Simulates, heq]
      rfl
    case isFalse => cases hstep

theorem loadManagerStep_send_delivers {manager : LoadManager} {loads : LoadStatus}
    (hpc : state.relay.loadManagers manager = some (.send loads))
    (hstep : loadManagerStep config manager state = some next) :
    Delivers config state next (.loadManager manager) := by
  have hevent : event config state (.loadManager manager) =
      some (.send (.loadManager manager)) := by
    rw [event_loadManager, loadManagerEvent, hpc]
  rw [loadManagerStep] at hstep
  simp only [hpc, relayStep, relay_sentBy, HelloWorld.step, loadManagerTask,
    Option.map_some] at hstep
  obtain rfl := Option.some.inj hstep
  obtain ⟨-, hred, hgreen⟩ := sendToBack_same config loads state.relay
  rw [Delivers, hevent]
  exact delivery_send (held_of_pc hpc) (held_move .takeSemaphore (by rfl) (by rfl))
    (loadControlQueue_sendToBack loads state.relay) (received_eq hred hgreen rfl) rfl

theorem loadManagerStep_delivers {manager : LoadManager}
    (hstep : loadManagerStep config manager state = some next) :
    Delivers config state next (.loadManager manager) := by
  cases hpc : state.relay.loadManagers manager with
  | none =>
      rw [loadManagerStep] at hstep
      simp only [hpc, relayStep, HelloWorld.step, Option.map_none] at hstep
      cases hstep
  | some pc =>
      cases pc with
      | manage => exact loadManagerStep_manage_delivers hpc hstep
      | send loads => exact loadManagerStep_send_delivers hpc hstep
      | _ =>
          have hevent : event config state (.loadManager manager) = none := by
            rw [event_loadManager, loadManagerEvent, hpc]
          rw [loadManagerStep] at hstep
          simp only [hpc] at hstep
          rw [Delivers, hevent]
          exact loadManagerTask_delivery hpc rfl (by simp) hstep

/-- The timer service enters `loadManagerTask` at the top of its loop. -/
theorem held_expired (hfree : state.relay.serviceFree)
    (hmanagers : next.relay.loadManagers =
      Function.update state.relay.loadManagers .callback (some .takeSemaphore))
    (hpolled : next.polled = state.polled) : next.held = state.held := by
  have hnone : state.held (.loadManager .callback) = none := by
    have hfree : state.relay.loadManagers .callback = none := hfree
    rw [State.held, managerMessage, hfree]
  have hmessage : message .takeSemaphore = none := rfl
  rw [held_move .takeSemaphore hmanagers hpolled, hmessage, ← hnone,
    Function.update_eq_self]

/-- The actions of everything but the senders and `ledManagerTask`. -/
def isSilent : Action → Bool
  | .loadManager _ | .switchPoll _ | .ledManager => false
  | _ => true

theorem relayStep_delivery (hsilent : isSilent action = true)
    (hstep : relayStep config state action = some next) :
    delivery next = delivery state := by
  obtain ⟨relay, hrelay, rfl⟩ := Option.map_eq_some_iff.mp hstep
  cases action with
  | loadManager => cases hsilent
  | switchPoll => cases hsilent
  | ledManager => cases hsilent
  | maintenance =>
      cases step_effect hrelay with
      | peripheral _ _ _ _ _ hperipheral => cases hperipheral
      | _ => rfl
  | frequencyAnalyser isStable =>
      cases step_effect hrelay with
      | peripheral _ _ _ _ _ hperipheral => cases hperipheral
      | _ => rfl
  | timerCommand =>
      cases step_effect hrelay with
      | peripheral _ _ _ _ _ hperipheral => cases hperipheral
      | commanded => rfl
  | timerExpiry =>
      cases step_effect hrelay with
      | peripheral _ _ _ _ _ hperipheral => cases hperipheral
      | expired hfree =>
          exact delivery_eq rfl rfl rfl (held_expired hfree (by rfl) (by rfl)) rfl rfl
  | pushButtonISR =>
      obtain ⟨result, -, rfl⟩ := Option.map_eq_some_iff.mp hrelay
      rfl
  | buttonEdge index =>
      obtain rfl := Option.some.inj hrelay
      rfl

theorem step_delivers (hstep : step config state action = some next) :
    Delivers config state next action := by
  cases action with
  | loadManager manager => exact loadManagerStep_delivers hstep
  | switchPoll switches => exact switchPollStep_delivers hstep
  | ledManager => exact ledManagerStep_delivers hstep
  | maintenance =>
      unfold step at hstep
      dsimp only at hstep
      split at hstep
      case isTrue => cases hstep
      case isFalse => exact relayStep_delivery rfl hstep
  | _ => exact relayStep_delivery rfl hstep

/-! ## Every interleaving -/

/-- The outputs follow the latest decision: quiet LEDs show the copy that was taken last,
copies reach `ledManagerTask` in the order in which they were taken, and the last one is
with its sender, in the queue, or received. -/
structure FollowsLatest (state : State) : Prop where
  shows : Quiet state → state.relay.redLeds = state.latest.activatedLoads ∧
    state.relay.greenLeds = state.latest.blockedLoads
  inOrder : (delivery state).InOrder
  notLost : (delivery state).NotLost

/-- No send of a run is harmful. -/
def HarmlessSends (config : Config) (trace : Trace State Action) : Prop :=
  ∀ transition ∈ trace, ∀ sender,
    event config transition.source transition.action = some (.send sender) →
      Delivery.Harmless config.queueLength (delivery transition.source) sender

instance (config : Config) : DecidablePred (HarmlessSends config) :=
  fun _ => inferInstanceAs (Decidable (∀ _ ∈ _, _))

variable {activatedLoads : Word} {trace : Trace State Action} {finish : State}

theorem orderly_initial (activatedLoads : Word) :
    Delivery.Orderly (delivery (initial activatedLoads)) where
  length_waiting := rfl
  inOrder := List.pairwise_singleton _ _
  numbers_le number hmem := (List.mem_singleton.mp hmem).le
  held_le sender hheld := by
    cases sender with
    | loadManager manager => cases manager <;> exact absurd rfl hheld
    | switchPoll => exact absurd rfl hheld
  held_newer sender hheld := by
    cases sender with
    | loadManager manager => cases manager <;> exact absurd rfl hheld
    | switchPoll => exact absurd rfl hheld
  held_injective sender _ hheld := by
    cases sender with
    | loadManager manager => cases manager <;> exact absurd rfl hheld
    | switchPoll => exact absurd rfl hheld
  newest := .inr ⟨rfl, rfl⟩

/-- Every run is a run of the delivery. -/
theorem orderly_of_harmless
    (hpath : Path (step config) (initial activatedLoads) trace finish)
    (hsends : HarmlessSends config trace) : Delivery.Orderly (delivery finish) := by
  have hdelivery := hpath.observed delivery (event config) fun _ _ _ hstep =>
    step_delivers hstep
  apply Delivery.orderly_run hdelivery (orderly_initial activatedLoads)
  intro seen hseen sender haction
  obtain ⟨transition, hmem, hevent⟩ := List.mem_filterMap.mp hseen
  obtain ⟨action, hsend, rfl⟩ := Option.map_eq_some_iff.mp hevent
  obtain rfl : action = .send sender := haction
  exact hsends transition hmem sender hsend

theorem quiet_of_idle (hqueue : state.relay.loadControlQueue = [])
    (hled : state.ledManager = .receive) (hpolled : state.polled = none)
    (hmanagers : ∀ manager, managerMessage state.relay (.loadManager manager) = none) :
    Quiet state := by
  refine ⟨hqueue, hled, ?_⟩
  intro sender
  cases sender with
  | switchPoll => exact hpolled
  | loadManager manager => exact hmanagers manager

theorem followsLatest_of_orderly (horderly : Delivery.Orderly (delivery state)) :
    FollowsLatest state where
  shows hquiet := by
    obtain ⟨hqueue, hled, hheld⟩ := hquiet
    have hlatest : state.received = state.latest := (horderly.settled hqueue hheld).2
    rw [State.received, hled] at hlatest
    rw [← hlatest]
    exact ⟨rfl, rfl⟩
  inOrder := horderly.inOrder
  notLost := horderly.notLost

/-- While no send is harmful, the outputs follow the latest decision. -/
theorem outputs_follow_latest
    (hpath : Path (step config) (initial activatedLoads) trace finish)
    (hsends : HarmlessSends config trace) : FollowsLatest finish :=
  followsLatest_of_orderly (orderly_of_harmless hpath hsends)

/-- A request that changes nothing is served and reported, up to its copy. -/
def reportCopied : List Action := verdict true ++ List.replicate 4 (.loadManager .task)

/-- `switchPollTask` copies its pair after `loadManagerTask` has sent. -/
theorem outputs_follow_latest_inTurn :
    let run := (follow (step ⟨5, 2⟩) (initial 0)
      (reportCopied ++ [.loadManager .task, .switchPoll 5, .switchPoll 5] ++
        List.replicate 6 .ledManager)).get rfl
    run.2.relay.redLeds = 5 ∧ run.2.relay.greenLeds = 0 ∧ (delivery run.2).InOrder := by
  intro run
  have hfollows : FollowsLatest run.2 :=
    outputs_follow_latest (path_of_schedule rfl) (by decide)
  have hquiet : Quiet run.2 := quiet_of_idle rfl rfl rfl (by decide)
  obtain ⟨hred, hgreen⟩ := hfollows.shows hquiet
  exact ⟨hred, hgreen, hfollows.inOrder⟩

/-- `loadManagerTask` copies its pair before `switchPollTask` does and sends it after. -/
theorem stale_pair_shown :
    ¬ ∀ (config : Config) (activatedLoads : Word) (trace : Trace State Action)
      (finish : State), 1 ≤ config.queueLength →
        Path (step config) (initial activatedLoads) trace finish →
          FollowsLatest finish := by
  intro hall
  let run := (follow (step ⟨5, 2⟩) (initial 0)
    (reportCopied ++ [.switchPoll 5, .switchPoll 5, .loadManager .task] ++
      List.replicate 6 .ledManager)).get rfl
  have hquiet : Quiet run.2 := quiet_of_idle rfl rfl rfl (by decide)
  have hshown := (hall ⟨5, 2⟩ 0 run.1 run.2 (by decide) (path_of_schedule rfl)).shows hquiet
  exact absurd hshown.1 (by decide)

/-! ## What a harmful send leads to -/

/-- The number of steps that `ledManagerTask` can make on its own. -/
def State.remaining (state : State) : ℕ :=
  3 * state.relay.loadControlQueue.length +
    match state.ledManager with
    | .receive => 0
    | .writeRed _ => 2
    | .writeGreen _ => 1

/-- The numbers of the waiting messages are known. -/
def Numbered (state : State) : Prop :=
  state.waiting.length = state.relay.loadControlQueue.length

theorem ledManager_progress (hnumbered : Numbered state)
    (hremaining : 0 < state.remaining) :
    ∃ next, ledManagerStep state = some next ∧ next.remaining + 1 = state.remaining ∧
      Numbered next ∧ (delivery next).pendingNumber = (delivery state).pendingNumber ∧
        next.held = state.held ∧ next.number = state.number := by
  rw [State.remaining] at hremaining
  rw [ledManagerStep, State.remaining]
  cases hled : state.ledManager with
  | receive =>
      cases hqueue : state.relay.loadControlQueue with
      | nil => simp [hled, hqueue] at hremaining
      | cons loads rest =>
          rw [Numbered, hqueue, List.length_cons] at hnumbered
          obtain ⟨number, numbers, hwaiting⟩ :=
            List.exists_cons_of_length_eq_add_one hnumbered
          rw [hwaiting, List.length_cons] at hnumbered
          refine ⟨_, rfl, ?_, ?_, ?_, rfl, rfl⟩
          · simp only [State.remaining, List.length_cons]
            omega
          · rw [Numbered, hwaiting]
            exact Nat.succ.inj hnumbered
          · simp only [Delivery.State.pendingNumber, delivery, hwaiting, List.tail_cons,
              List.headD_cons, List.getLast?_cons, Option.getD_some]
  | writeRed loads => exact ⟨_, rfl, rfl, hnumbered, rfl, rfl, rfl⟩
  | writeGreen blockedLoads => exact ⟨_, rfl, rfl, hnumbered, rfl, rfl, rfl⟩

/-- `ledManagerTask` alone ends up having received what is pending. -/
theorem ledManager_settles (config : Config) (hnumbered : Numbered state) {remaining : ℕ}
    (hremaining : state.remaining = remaining) :
    ∃ trace finish, Path (step config) state trace finish ∧
      finish.relay.loadControlQueue = [] ∧ finish.waiting = [] ∧
        finish.shown = (delivery state).pendingNumber ∧ finish.held = state.held ∧
          finish.number = state.number := by
  induction remaining generalizing state with
  | zero =>
      rw [State.remaining] at hremaining
      have hqueue : state.relay.loadControlQueue = [] := by
        apply List.eq_nil_of_length_eq_zero
        omega
      have hwaiting : state.waiting = [] := by
        apply List.eq_nil_of_length_eq_zero
        rw [hnumbered, hqueue]
        rfl
      refine ⟨[], state, .nil, hqueue, hwaiting, ?_, rfl, rfl⟩
      rw [Delivery.State.pendingNumber, delivery, hwaiting]
      rfl
  | succ remaining ih =>
      have hpositive : 0 < state.remaining := by omega
      obtain ⟨next, hstep, hnext, hnumberedNext, hpending, hheld, hnumber⟩ :=
        ledManager_progress hnumbered hpositive
      have hrest : next.remaining = remaining := by omega
      obtain ⟨trace, finish, hpath, hqueue, hwaiting, hshown, hheldFinish, hnumberFinish⟩ :=
        ih hnumberedNext hrest
      refine ⟨⟨state, .ledManager, next⟩ :: trace, finish, hpath.cons hstep, hqueue,
        hwaiting, ?_, ?_, ?_⟩
      · rw [hshown, hpending]
      · rw [hheldFinish, hheld]
      · rw [hnumberFinish, hnumber]

/-- A sender that holds a copy can send it. -/
theorem send_enabled (config : Config) {sender : Sender} {loads : LoadStatus}
    (hheld : state.held sender = some loads) :
    ∃ action next, step config state action = some next ∧
      event config state action = some (.send sender) := by
  cases sender with
  | switchPoll =>
      have hpolled : state.polled = some loads := hheld
      have hstep : ∃ next, switchPollStep config 0 state = some next := by
        rw [switchPollStep, hpolled]
        exact ⟨_, rfl⟩
      obtain ⟨next, hnext⟩ := hstep
      refine ⟨.switchPoll 0, next, hnext, ?_⟩
      rw [event_switchPoll, switchPollEvent, hpolled]
  | loadManager manager =>
      have hpc : ∃ loads, state.relay.loadManagers manager = some (.send loads) := by
        rw [State.held, managerMessage] at hheld
        split at hheld
        case h_1 other hpc => exact ⟨other, hpc⟩
        case h_2 => cases hheld
      obtain ⟨other, hpc⟩ := hpc
      have hstep : ∃ next, loadManagerStep config manager state = some next := by
        rw [loadManagerStep, hpc]
        simp only [relayStep, HelloWorld.step, relay_sentBy, hpc, Option.map_some]
        exact ⟨_, rfl⟩
      obtain ⟨next, hnext⟩ := hstep
      refine ⟨.loadManager manager, next, hnext, ?_⟩
      rw [event_loadManager, loadManagerEvent, hpc]

/-- When everything else has been received, a copy that is older than the last of it can
follow it. -/
theorem send_overtaken (hcapacity : 1 ≤ config.queueLength) {sender : Sender}
    (hheld : state.held sender ≠ none) (hqueue : state.relay.loadControlQueue = [])
    (hwaiting : state.waiting = []) (holder : state.number sender ≤ state.shown) :
    ∃ action next, step config state action = some next ∧ ¬ (delivery next).InOrder := by
  obtain ⟨loads, hheld⟩ := Option.ne_none_iff_exists'.mp hheld
  obtain ⟨action, next, hsend, hevent⟩ := send_enabled config hheld
  have hdelivers := step_delivers hsend
  rw [Delivers, hevent] at hdelivers
  refine ⟨action, next, hsend, ?_⟩
  have hsent : Delivery.enqueueNumber config.queueLength (delivery state).queue
      (delivery state).waiting ((delivery state).number sender) =
        [state.number sender] := by
    have hempty : (delivery state).queue = [] := hqueue
    have hnone : (delivery state).waiting = [] := hwaiting
    have hroom : ([] : List LoadStatus).length < config.queueLength := hcapacity
    rw [Delivery.enqueueNumber, hempty, hnone, if_pos hroom]
    rfl
  rw [Delivery.send_fields hheld hdelivers, Delivery.State.InOrder,
    Delivery.State.numbers, hsent, List.pairwise_pair]
  exact Nat.not_lt.mpr holder

/-- A run goes wrong with its first harmful send, or can go wrong after it: the last copy
is lost, or `ledManagerTask` receives what there is and the holder of an older copy
sends it then. -/
theorem harmful_send_breaks {sender : Sender} (hcapacity : 1 ≤ config.queueLength)
    (hpath : Path (step config) (initial activatedLoads) trace state)
    (hsends : HarmlessSends config trace)
    (hstep : step config state action = some next)
    (hevent : event config state action = some (.send sender))
    (hharmful : ¬ Delivery.Harmless config.queueLength (delivery state) sender) :
    ∃ rest finish, Path (step config) next rest finish ∧ ¬ FollowsLatest finish := by
  have horderly := orderly_of_harmless hpath hsends
  have hdelivers := step_delivers hstep
  rw [Delivers, hevent] at hdelivers
  have hheld : ∃ loads, (delivery state).held sender = some loads := by
    cases hheld : (delivery state).held sender with
    | some loads => exact ⟨loads, rfl⟩
    | none =>
        rw [Simulates, Delivery.step, hheld] at hdelivers
        cases hdelivers
  obtain ⟨loads, hheld⟩ := hheld
  by_cases hbroken : FollowsLatest next
  case neg => exact ⟨[], next, .nil, hbroken⟩
  rcases Delivery.lost_or_overtaking_of_harmful horderly hheld hdelivers hharmful with
    hlost | ⟨other, hother, number, hmem, holder⟩
  · exact absurd hbroken.notLost hlost
  have hnumbered : Numbered next := by
    have hlength := horderly.length_waiting
    have hsent := Delivery.send_fields hheld hdelivers
    have hwaiting : next.waiting = _ := congrArg Delivery.State.waiting hsent
    have hqueue : next.relay.loadControlQueue = _ := congrArg Delivery.State.queue hsent
    rw [Numbered, hwaiting, hqueue]
    exact Delivery.length_enqueueNumber hlength
  obtain ⟨rest, settled, hrest, hqueue, hwaiting, hshown, hheldSettled, hnumber⟩ :=
    ledManager_settles config hnumbered rfl
  have hotherSettled : settled.held other ≠ none := by rwa [hheldSettled]
  have hnewer : settled.number other ≤ settled.shown := by
    rw [hshown, hnumber]
    exact holder.le.trans (hbroken.inOrder.le_pendingNumber hmem)
  obtain ⟨action, finish, hsend, hovertaken⟩ :=
    send_overtaken hcapacity hotherSettled hqueue hwaiting hnewer
  refine ⟨rest ++ [⟨settled, action, finish⟩], finish, hrest.snoc hsend, ?_⟩
  exact fun hfollows => hovertaken hfollows.inOrder

end FrequencyRelay.Outputs
