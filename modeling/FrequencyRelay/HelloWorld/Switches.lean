import FrequencyRelay.Core.Runs
import FrequencyRelay.HelloWorld.Model

/-!
# Switches during load management

While loads are managed, a switch should only be able to take its load away, for
good.  `switchPollTask` masks the fields of its own message and then overwrites
them, so that the load states never learn what the switches read: a load whose
switch goes off stays activated or blocked.
-/

namespace FrequencyRelay.HelloWorld

open FrequencyRelay.BitMasks
open FrequencyRelay.LoadScan
open FrequencyRelay.Runs

variable (config : Config)

/-- The loads that a message speaks of. -/
def LoadStatus.loads (message : LoadStatus) : Finset ℕ :=
  members message.activatedLoads ∪ members message.blockedLoads

/-- Some poll has read the switch of a load as off. -/
def ReadOff (load : ℕ) (trace : Trace State Action) : Prop :=
  ∃ transition ∈ trace, ∃ switches,
    transition.action = .switchPoll switches ∧ load ∉ members switches

/-- Every message reports only requested loads, and none whose switch was read as
off before it was sent. -/
def OnlyRemoves (requested : Finset ℕ) : Trace State Action → Prop :=
  AtEach fun before sending => ∀ message,
    sentMessage config sending.source sending.action = some message →
      message.loads ⊆ requested ∧
        ∀ load, ReadOff load (before ++ [sending]) → load ∉ message.loads

/-- A step that is no poll, or a poll that reads the switches of all requested loads
as on. -/
def Action.ReadsOn (requested : Finset ℕ) : Action → Prop
  | .switchPoll switches => requested ⊆ members switches
  | _ => True

def AllReadOn (requested : Finset ℕ) (trace : Trace State Action) : Prop :=
  ∀ transition ∈ trace, transition.action.ReadsOn requested

/-- The run stays inside one episode of load management. -/
def StaysManaging (start : State) (trace : Trace State Action) : Prop :=
  ∀ passed ∈ visited start trace, passed.isManagingLoads = true

instance (requested : Finset ℕ) : DecidablePred (Action.ReadsOn requested)
  | .switchPoll switches => inferInstanceAs (Decidable (requested ⊆ members switches))
  | .maintenance | .frequencyAnalyser _ | .loadManager _ | .ledManager | .timerCommand
  | .timerExpiry | .pushButtonISR | .buttonEdge _ => inferInstanceAs (Decidable True)

instance (requested : Finset ℕ) : DecidablePred (AllReadOn requested) :=
  fun _ => inferInstanceAs (Decidable (∀ _ ∈ _, _))

instance (start : State) : DecidablePred (StaysManaging start) :=
  fun _ => inferInstanceAs (Decidable (∀ _ ∈ _, _))

/-- The activated loads are the requested ones, the blocked loads are some of them,
and messages still to be sent speak of no others. -/
structure WithinRequest (requested : Finset ℕ) (state : State) : Prop where
  activatedLoads : members state.activatedLoads = requested
  blockedLoads : members state.blockedLoads ⊆ requested
  messages : ∀ manager message, state.loadManagers manager = some (.send message) →
    message.loads ⊆ requested

variable {config} {state next : State} {action : Action} {requested : Finset ℕ}

theorem shedOne_subset {numOfLoads : ℕ} {activated blocked : Word}
    (hnum : numOfLoads ≤ 32) (hsubset : members blocked ⊆ members activated) :
    members (shedOne numOfLoads activated blocked) ⊆ members activated := by
  unfold shedOne
  split
  case h_1 index hfound =>
    obtain ⟨hindex, hleast⟩ := (leastConnected_eq_some_iff hnum).mp hfound
    rw [members_add_bit (by omega) hleast.1.2]
    exact Finset.insert_subset hleast.1.1 hsubset
  case h_2 => exact hsubset

/-- The two words of a message share out the activated loads. -/
theorem loads_loadStatus (hsubset : members state.blockedLoads ⊆
    members state.activatedLoads) :
    (loadStatus state).loads = members state.activatedLoads := by
  rw [LoadStatus.loads, loadStatus, members_sub hsubset,
    Finset.sdiff_union_of_subset hsubset]

theorem Managed.blocked_subset {managing : Bool} {blocked : Word}
    {timer : OneShotTimer.Timer} (hnum : config.numOfLoads ≤ 32)
    (hmanaged : Managed config state managing blocked timer)
    (hsubset : members state.blockedLoads ⊆ members state.activatedLoads) :
    members blocked ⊆ members state.activatedLoads := by
  cases hmanaged with
  | shed => exact shedOne_subset hnum hsubset
  | restored => exact (restoreOne_subset hnum).trans hsubset
  | finished => simp
  | left => exact hsubset

theorem step_withinRequest (hnum : config.numOfLoads ≤ 32)
    (hstep : step config state action = some next)
    (hwithin : WithinRequest requested state) : WithinRequest requested next := by
  have heffect := step_effect hstep
  obtain ⟨hactivated, hblocked, hmessages⟩ := hwithin
  have hmanages : ∀ managing blocked timer, Managed config state managing blocked timer →
      members blocked ⊆ requested := by
    intro managing blocked timer hmanaged
    rw [← hactivated]
    exact hmanaged.blocked_subset hnum (by rwa [hactivated])
  constructor
  · rw [heffect.activatedLoads, hactivated]
  · exact heffect.blockedLoads (fun blocked => members blocked ⊆ requested) hblocked
      (by simp) hmanages
  · apply heffect.messages hmessages
    intro managing blocked timer hmanaged
    have hsubset := hmanages _ _ _ hmanaged
    rw [LoadStatus.loads, members_sub (by rwa [hactivated]), hactivated]
    exact Finset.union_subset Finset.sdiff_subset hsubset

/-- While loads are managed, every message is about requested loads, and a poll
reports all of them, whatever the switches read. -/
theorem WithinRequest.sentMessage (hwithin : WithinRequest requested state)
    (hmanaging : state.isManagingLoads = true) {message : LoadStatus}
    (hsent : sentMessage config state action = some message) :
    message.loads ⊆ requested ∧
      ∀ switches, action = .switchPoll switches → message.loads = requested := by
  obtain ⟨hactivated, hblocked, hmessages⟩ := hwithin
  cases action with
  | switchPoll switches =>
      have hloads : message.loads = requested := by
        obtain rfl := Option.some.inj hsent
        rw [pollStatus, hmanaging, ← hactivated]
        exact loads_loadStatus (by rwa [hactivated])
      exact ⟨hloads.le, fun _ _ => hloads⟩
  | loadManager manager =>
      simp only [HelloWorld.sentMessage, managerMessage] at hsent
      split at hsent
      case h_1 loads hpc =>
        obtain rfl := Option.some.inj hsent
        exact ⟨hmessages manager loads hpc, by simp⟩
      case h_2 => cases hsent
  | _ => cases hsent

/-- Switches only remove loads during an episode in exactly those runs in which no
poll reads the switch of a requested load as off. -/
theorem only_removes_iff (hnum : config.numOfLoads ≤ 30) {start : State}
    (hsubset : members start.blockedLoads ⊆ members start.activatedLoads)
    (hidle : ∀ manager message, start.loadManagers manager ≠ some (.send message))
    {trace : Trace State Action} (hpath : Path (step config) start trace state)
    (hmanaging : StaysManaging start trace) :
    OnlyRemoves config (members start.activatedLoads) trace ↔
      AllReadOn (members start.activatedLoads) trace := by
  have hevent : ∀ before event after, trace = before ++ event :: after →
      WithinRequest (members start.activatedLoads) event.source ∧
        event.source.isManagingLoads = true := by
    rintro before event after rfl
    obtain ⟨hbefore, -, -⟩ := path_append_cons_iff.mp hpath
    have hstart : WithinRequest (members start.activatedLoads) start :=
      ⟨rfl, hsubset, fun manager message hmessage => absurd hmessage (hidle manager message)⟩
    exact ⟨hbefore.invariant hstart fun _ _ _ => step_withinRequest (by omega),
      hmanaging event.source hpath.source_mem_visited⟩
  constructor
  · intro honly polling hmem
    obtain ⟨before, after, htrace⟩ := List.append_of_mem hmem
    obtain ⟨hwithin, hmanages⟩ := hevent before polling after htrace
    unfold Action.ReadsOn
    split
    case h_2 => trivial
    case h_1 switches haction =>
    intro load hload
    by_contra hoff
    have hsent : sentMessage config polling.source polling.action =
        some (pollStatus config switches polling.source) := by rw [haction]; rfl
    obtain ⟨-, hremoved⟩ := honly before polling after htrace _ hsent
    apply hremoved load ⟨polling, by simp, switches, haction, hoff⟩
    rw [(hwithin.sentMessage hmanages hsent).2 switches haction]
    exact hload
  · intro hon before sending after htrace message hsent
    obtain ⟨hwithin, hmanages⟩ := hevent before sending after htrace
    have hloads := (hwithin.sentMessage hmanages hsent).1
    refine ⟨hloads, ?_⟩
    rintro load ⟨polling, hmem, switches, haction, hoff⟩ hload
    have hpolling : polling ∈ trace := by
      rw [htrace, List.append_cons]
      exact List.mem_append_left after hmem
    have hreads := hon polling hpolling
    rw [haction] at hreads
    exact hoff (hreads (hloads hload))

/-- Load management has shed loads 0 and 1 of three. -/
def twoOfThreeShed : State :=
  { initial 0b111 with blockedLoads := 0b011, isManagingLoads := true }

/-- A poll, and a restore on a stable grid. -/
def pollThenRestore (switches : Word) : List Action :=
  .switchPoll switches :: verdict true ++ request

theorem twoOfThreeShed_idle (manager : LoadManager) (message : LoadStatus) :
    twoOfThreeShed.loadManagers manager ≠ some (.send message) := by
  cases manager with
  | task => intro hsend; cases hsend
  | callback => intro hsend; cases hsend

theorem only_removes_switchesOn :
    ∃ run, follow (step ⟨5, 1⟩) twoOfThreeShed (pollThenRestore 0b111) = some run ∧
      OnlyRemoves ⟨5, 1⟩ (members twoOfThreeShed.activatedLoads) run.1 :=
  ⟨_, (Option.some_get rfl).symm, (only_removes_iff (by decide) (by decide)
    twoOfThreeShed_idle (path_of_schedule rfl)
    (by decide)).mpr (by decide)⟩

/-- The switch of load 1 goes off while the load is shed, and the next restore
connects it again. -/
theorem load_reconnected_switched_off :
    ¬ ∀ (start : State) (trace : Trace State Action) (state : State),
      members start.activatedLoads ⊆ members (loadMask 5) →
      members start.blockedLoads ⊆ members start.activatedLoads →
      (∀ manager message, start.loadManagers manager ≠ some (.send message)) →
      Path (step ⟨5, 1⟩) start trace state → StaysManaging start trace →
        OnlyRemoves ⟨5, 1⟩ (members start.activatedLoads) trace := by
  intro hclaim
  let run := (follow (step ⟨5, 1⟩) twoOfThreeShed (pollThenRestore 0b101)).get rfl
  have hpath : Path (step ⟨5, 1⟩) twoOfThreeShed run.1 run.2 :=
    path_of_schedule rfl
  have honly := hclaim twoOfThreeShed run.1 run.2 (by decide) (by decide)
    twoOfThreeShed_idle hpath (by decide)
  obtain ⟨-, hremoved⟩ :=
    atEach_iff_get.mp honly ⟨6, by decide⟩ ⟨0b110, 0b001⟩ (by decide)
  apply hremoved 1 ⟨_, List.mem_cons_self, 0b101, rfl, by decide⟩
  decide

end FrequencyRelay.HelloWorld
