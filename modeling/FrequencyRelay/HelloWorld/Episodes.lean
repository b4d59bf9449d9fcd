import FrequencyRelay.Core.Runs
import FrequencyRelay.HelloWorld.Model

/-!
# Who records the connected loads

`switchPollTask` sends what the switches read straight to `loadControlQueue`, while
`loadManagerTask` computes its messages from `activatedLoads`.  No task ever writes
that word, so it stays as `setupStates` leaves it: zero.  The load manager sheds
nothing, and its first message of an episode disconnects every load that the last
poll reported.
-/

namespace FrequencyRelay.HelloWorld

open FrequencyRelay.BitMasks
open FrequencyRelay.LoadScan
open FrequencyRelay.Runs

variable (config : Config)

/-- What a step of `switchPollTask` reports as connected. -/
def reported (transition : Transition State Action) : Option Word :=
  match transition.action with
  | .switchPoll switches =>
      some (pollStatus config switches transition.source).activatedLoads
  | _ => none

def lastReport (trace : Trace State Action) : Option Word :=
  trace.reverse.findSome? (reported config)

/-- An episode of load management begins. -/
def Enters (transition : Transition State Action) : Prop :=
  transition.source.isManagingLoads = false ∧
    transition.target.isManagingLoads = true

/-- The rest of an episode, out of what follows its beginning. -/
def episode (after : Trace State Action) : Trace State Action :=
  after.takeWhile fun transition => transition.target.isManagingLoads

/-- `loadManagerTask` has this message to send. -/
def HasToSend (state : State) (action : Action) (message : LoadStatus) : Prop :=
  ∃ manager, action = .loadManager manager ∧
    state.loadManagers manager = some (.send message)

/-- The message moves exactly the least of the connected loads to the blocked ones. -/
def MovesLeast (connected : Finset ℕ) (message : LoadStatus) : Prop :=
  ∃ least, IsLeast (connected : Set ℕ) least ∧
    members message.blockedLoads = {least} ∧
    members message.activatedLoads = connected.erase least

/-- The message has every connected load in exactly one of its two words, the loads
aside whose switch some poll has read off. -/
def Accounts (connected : Finset ℕ) (polls : Trace State Action)
    (message : LoadStatus) : Prop :=
  Disjoint (members message.activatedLoads) (members message.blockedLoads) ∧
    ∀ load ∈ connected,
      (∀ transition ∈ polls, ∀ switches,
        transition.action = .switchPoll switches → load ∈ members switches) →
      load ∈ members message.activatedLoads ∪ members message.blockedLoads

/-- No load that the last poll before an episode reported is lost in it: the first
message moves the least of them, and each message of the episode has all of them. -/
def KeepsConnected (trace : Trace State Action) : Prop :=
  ∀ before entering after report, trace = before ++ entering :: after →
    Enters entering → lastReport config before = some report →
      ((members report).Nonempty → ∃ message,
        HasToSend entering.target entering.action message ∧
          MovesLeast (members report) message) ∧
      ∀ sending ∈ episode after, ∀ message,
        HasToSend sending.source sending.action message →
          Accounts (members report) (episode after) message

/-- If there was a poll before an episode, the last one reported no load. -/
def NoneConnected : Trace State Action → Prop :=
  AtEach fun before entering =>
    Enters entering → lastReport config before = none ∨
      lastReport config before = some 0

/-- No load is activated, none is blocked, and messages say so. -/
structure NothingActivated (state : State) : Prop where
  activatedLoads : state.activatedLoads = 0
  blockedLoads : state.blockedLoads = 0
  messages : ∀ manager message, state.loadManagers manager = some (.send message) →
    message = ⟨0, 0⟩

variable {config} {state next : State} {action : Action}

theorem Managed.blocked_eq_zero {managing : Bool} {blocked : Word}
    {timer : OneShotTimer.Timer} (hmanaged : Managed config state managing blocked timer)
    (hnothing : NothingActivated state) : blocked = 0 := by
  cases hmanaged with
  | shed => rw [hnothing.activatedLoads, shedOne_nothing, hnothing.blockedLoads]
  | restored => rw [hnothing.blockedLoads, restoreOne_nothing]
  | finished => rfl
  | left => exact hnothing.blockedLoads

theorem step_nothingActivated (hstep : step config state action = some next)
    (hnothing : NothingActivated state) : NothingActivated next := by
  have heffect := step_effect hstep
  have hzero : ∀ managing blocked timer,
      Managed config state managing blocked timer → blocked = 0 :=
    fun _ _ _ hmanaged => hmanaged.blocked_eq_zero hnothing
  constructor
  · rw [heffect.activatedLoads, hnothing.activatedLoads]
  · exact heffect.blockedLoads (fun blocked => blocked = 0) hnothing.blockedLoads rfl hzero
  · apply heffect.messages hnothing.messages
    intro managing blocked timer hmanaged
    rw [hnothing.activatedLoads, hzero _ _ _ hmanaged]
    rfl

theorem nothingActivated_of_path {trace : Trace State Action}
    (hpath : Path (step config) afterSetup trace state) : NothingActivated state := by
  have hstart : NothingActivated afterSetup := by
    refine ⟨rfl, rfl, ?_⟩
    intro manager message hmessage
    cases manager <;> cases hmessage
  exact hpath.invariant hstart fun _ _ _ => step_nothingActivated

/-- No message moves any load. -/
theorem not_movesLeast {trace : Trace State Action} {connected : Finset ℕ}
    {message : LoadStatus} (hpath : Path (step config) afterSetup trace state)
    (hsend : HasToSend state action message) : ¬ MovesLeast connected message := by
  obtain ⟨manager, -, hmessage⟩ := hsend
  obtain rfl := (nothingActivated_of_path hpath).messages manager message hmessage
  rintro ⟨least, -, hblocked, -⟩
  simp at hblocked

/-- The loads connected before an episode are kept in exactly those runs in which
there are none. -/
theorem connected_kept_iff {trace : Trace State Action}
    (hpath : Path (step config) afterSetup trace state) :
    KeepsConnected config trace ↔ NoneConnected config trace := by
  constructor
  · intro hkeeps before entering after htrace henters
    cases hreport : lastReport config before with
    | none => exact .inl rfl
    | some report =>
        right
        by_contra hne
        have hsome : (members report).Nonempty := by
          rw [Finset.nonempty_iff_ne_empty]
          exact fun hempty => hne (congrArg some (members_eq_empty_iff.mp hempty))
        obtain ⟨message, hsend, hmoves⟩ :=
          (hkeeps before entering after report htrace henters hreport).1 hsome
        subst htrace
        obtain ⟨hbefore, hstep, -⟩ := path_append_cons_iff.mp hpath
        exact not_movesLeast (hbefore.snoc hstep) hsend hmoves
  · intro hnone before entering after report htrace henters hreport
    have hzero := hnone before entering after htrace henters
    rw [hreport] at hzero
    obtain rfl := Option.some.inj (hzero.resolve_left (Option.some_ne_none report))
    refine ⟨fun hsome => by simp at hsome, ?_⟩
    rintro sending hsending message ⟨manager, -, hmessage⟩
    have hmem : sending ∈ trace := by
      rw [htrace]
      exact List.mem_append_right _
        (List.mem_cons_of_mem _ (List.takeWhile_subset _ hsending))
    obtain ⟨⟨past, hpast⟩, -⟩ := hpath.source_of_mem hmem
    obtain rfl := (nothingActivated_of_path hpast).messages _ _ hmessage
    exact ⟨by simp, by simp⟩

instance : DecidablePred Enters :=
  fun _ => inferInstanceAs (Decidable (_ ∧ _))

instance : DecidablePred (NoneConnected config) :=
  fun _ => inferInstanceAs (Decidable (AtEach _ _))

/-- A poll, and an unstable grid after a stable one, each verdict served. -/
def pollThenUnstable (switches : Word) : List Action :=
  .switchPoll switches ::
    verdict true ++ request ++ verdict false ++ request

theorem connected_kept_noneConnected :
    ∃ run, follow (step ⟨5, 1⟩) afterSetup (pollThenUnstable 32) = some run ∧
      run.2.isManagingLoads = true ∧ KeepsConnected ⟨5, 1⟩ run.1 :=
  ⟨_, (Option.some_get rfl).symm, rfl,
    (connected_kept_iff (path_of_schedule rfl)).mpr (by decide)⟩

/-- The load on switch 0 is gone from the first message of the episode. -/
theorem connected_load_lost :
    ¬ ∀ (trace : Trace State Action) (state : State),
      Path (step ⟨5, 1⟩) afterSetup trace state → KeepsConnected ⟨5, 1⟩ trace := by
  intro hclaim
  let run := (follow (step ⟨5, 1⟩) afterSetup (pollThenUnstable 1)).get rfl
  have hpath : Path (step ⟨5, 1⟩) afterSetup run.1 run.2 :=
    path_of_schedule rfl
  let entering : Fin run.1.length := ⟨11, by decide⟩
  obtain ⟨message, hsend, hmoves⟩ := (hclaim run.1 run.2 hpath _ _ _ 1
    (split_at_event entering) (by decide) rfl).1 (by decide)
  have hsplit := hpath
  rw [split_at_event entering] at hsplit
  obtain ⟨hbefore, hstep, -⟩ := path_append_cons_iff.mp hsplit
  exact not_movesLeast (hbefore.snoc hstep) hsend hmoves

end FrequencyRelay.HelloWorld
