import FrequencyRelay.Core.Runs
import FrequencyRelay.A1m.Model

/-!
# Loads are shed in order of priority

Four tasks rewrite `load_value` and `blocked_loads` by integer arithmetic and
none of them checks what it finds.  Every interleaving nevertheless refines
`PriorityShedding`: the two words always hold an abstract state, whose blocked
loads are an initial segment of the requested ones.
-/

namespace FrequencyRelay.A1m

open FrequencyRelay.BitMasks
open FrequencyRelay.LoadScan
open FrequencyRelay.PriorityShedding
open FrequencyRelay.Runs

variable {numOfLoads : ℕ}

/-- The two load words refine some abstract shedding state. -/
def WordsOrdered (numOfLoads : ℕ) (state : State) : Prop :=
  ∃ abstract, Represents numOfLoads state.loadValue state.blockedLoads abstract

/-- One step of any party, whatever the timer answers, keeps the words ordered. -/
theorem freeStep_ordered (hnum : numOfLoads ≤ 32) {state next : State}
    {action : Action × Bool}
    (hstep : freeStep numOfLoads state action = some next)
    (hordered : WordsOrdered numOfLoads state) :
    WordsOrdered numOfLoads next := by
  obtain ⟨action, timerActive⟩ := action
  obtain ⟨abstract, hrep⟩ := hordered
  cases stepReading_effect hstep with
  | turnedOff => exact hrep.shedOne hnum
  | turnedOn => exact hrep.restoreOne hnum
  | turnedOnLast =>
      obtain ⟨managing, target, heq, -⟩ :=
        reconnectOrExit_eq (turnOnMostImportantLoad numOfLoads state)
      rw [heq]
      exact hrep.restoreOne hnum
  | left =>
      obtain ⟨managing, target, heq, -⟩ := reconnectOrExit_eq state
      rw [heq]
      exact ⟨abstract, hrep⟩
  | maintenanceToggled => exact ⟨_, hrep.cleared⟩
  | masked switches =>
      -- the same switches mask both words
      exact ⟨_, hrep.masked (switches &&& loadMask numOfLoads)⟩
  | _ => exact ⟨abstract, hrep⟩

theorem initial_ordered {loadValue : Word}
    (hload : members loadValue ⊆ Finset.range numOfLoads) :
    WordsOrdered numOfLoads (initial loadValue) :=
  ⟨_, .allConnected hload⟩

/-- In every state of every interleaving the blocked loads are requested loads,
the requested loads are within `LOAD_MASK`, and no blocked load is more
important than a requested load that is still connected. -/
theorem blocked_loads_least_important (hnum : 1 ≤ numOfLoads ∧ numOfLoads ≤ 30)
    {loadValue : Word} (hload : loadValue &&& loadMask numOfLoads = loadValue)
    {state : State}
    (hreach : Reachable (freeStep numOfLoads) (initial loadValue) state) :
    members state.blockedLoads ⊆ members state.loadValue ∧
      members state.loadValue ⊆ members (loadMask numOfLoads) ∧
        ∀ low ∈ members state.blockedLoads, ∀ high ∈ members state.loadValue,
          high ∉ members state.blockedLoads → low < high := by
  have hmask : members (loadMask numOfLoads) = Finset.range numOfLoads := by
    rw [loadMask, members_lowBits, min_eq_right (by omega)]
  have hwithin : members loadValue ⊆ Finset.range numOfLoads := by
    rw [← hload, members_and, hmask]
    exact Finset.inter_subset_right
  obtain ⟨abstract, hrep⟩ := hreach.invariant (initial_ordered hwithin)
    fun _ _ _ hstep => freeStep_ordered (by omega) hstep
  rw [hrep.activated_eq, hrep.blocked_eq, hmask]
  exact ⟨abstract.shed_subset, hrep.within, abstract.shed_below⟩

theorem blocked_loads_least_important_firstShed :
    ∃ run, follow (freeStep 5) (initial 31) (oneDisturbance.map (·, false)) =
        some run ∧
      run.2.blockedLoads = 1 ∧
        members run.2.blockedLoads ⊆ members run.2.loadValue ∧
          members run.2.loadValue ⊆ members (loadMask 5) ∧
            ∀ low ∈ members run.2.blockedLoads, ∀ high ∈ members run.2.loadValue,
              high ∉ members run.2.blockedLoads → low < high :=
  ⟨_, (Option.some_get rfl).symm, rfl,
    blocked_loads_least_important (by decide) (by decide)
      ⟨_, path_of_schedule rfl⟩⟩

end FrequencyRelay.A1m
