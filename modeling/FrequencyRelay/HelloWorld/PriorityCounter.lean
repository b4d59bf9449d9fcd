import FrequencyRelay.A1m.Model
import FrequencyRelay.HelloWorld.Model
import FrequencyRelay.Relay.PriorityCounter

/-!
# One priority counter in two programs

`shedLoad` and `activateLoad` of `hello_world.c`, and the functions of `a1m.c` that
they were copied from, act on the state of their program.  On the blocked loads,
both pairs are the counter.
-/

namespace FrequencyRelay.PriorityCounter

open FrequencyRelay.LoadScan

/-- A call in `hello_world.c`. -/
def helloWorldCall (config : HelloWorld.Config) (state : HelloWorld.State) :
    Operation → HelloWorld.State
  | .shedLoad => HelloWorld.shedLoad config state
  | .activateLoad => HelloWorld.activateLoad config state

/-- The corresponding call in `a1m.c`. -/
def a1mCall (numOfLoads : ℕ) (state : A1m.State) : Operation → A1m.State
  | .shedLoad => A1m.turnOffLeastImportantLoad numOfLoads state
  | .activateLoad => A1m.turnOnMostImportantLoad numOfLoads state

theorem helloWorldCall_loads (config : HelloWorld.Config) (state : HelloWorld.State)
    (operation : Operation) :
    (helloWorldCall config state operation).activatedLoads = state.activatedLoads ∧
      (helloWorldCall config state operation).blockedLoads =
        blockedStep config.numOfLoads state.activatedLoads state.blockedLoads
          operation := by
  cases operation with
  | shedLoad => exact ⟨rfl, rfl⟩
  | activateLoad =>
      simp only [helloWorldCall, HelloWorld.activateLoad]
      split
      · exact ⟨rfl, rfl⟩
      · exact ⟨rfl, rfl⟩

theorem helloWorldCalls_loads (config : HelloWorld.Config) (state : HelloWorld.State)
    (operations : List Operation) :
    (operations.foldl (helloWorldCall config) state).activatedLoads =
        state.activatedLoads ∧
      (operations.foldl (helloWorldCall config) state).blockedLoads =
        operations.foldl (blockedStep config.numOfLoads state.activatedLoads)
          state.blockedLoads := by
  induction operations generalizing state with
  | nil => exact ⟨rfl, rfl⟩
  | cons operation operations ih =>
      obtain ⟨hactivated, hblocked⟩ := helloWorldCall_loads config state operation
      simp only [List.foldl_cons]
      rw [← hblocked, ← hactivated]
      exact ih _

theorem a1mCalls_loads (numOfLoads : ℕ) (state : A1m.State)
    (operations : List Operation) :
    (operations.foldl (a1mCall numOfLoads) state).blockedLoads =
      operations.foldl (blockedStep numOfLoads state.loadValue) state.blockedLoads := by
  induction operations generalizing state with
  | nil => rfl
  | cons operation operations ih =>
      simp only [List.foldl_cons]
      rw [ih]
      cases operation with
      | shedLoad => rfl
      | activateLoad => rfl

/-- After any calls, the blocked loads are the least important of the activated
ones, as many as a counter between 0 and their number says. -/
theorem calls_count_blocked {numOfLoads : ℕ} (hnum : numOfLoads ≤ 30)
    (activated : Word) (operations : List Operation) :
    let count :=
      operations.foldl (countStep (activatedSet numOfLoads activated).card) 0
    (∀ (queueLength : ℕ) (state : HelloWorld.State),
      state.activatedLoads = activated → state.blockedLoads = 0 →
        CountsBlocked numOfLoads activated
          (operations.foldl (helloWorldCall ⟨numOfLoads, queueLength⟩)
            state).blockedLoads count) ∧
    (∀ state : A1m.State, state.loadValue = activated → state.blockedLoads = 0 →
      CountsBlocked numOfLoads activated
        (operations.foldl (a1mCall numOfLoads) state).blockedLoads count) := by
  have hcounted : Counted numOfLoads activated _ _ :=
    counted_run (by omega) operations
  constructor
  · rintro queueLength state rfl hnothing
    have hloads := (helloWorldCalls_loads ⟨numOfLoads, queueLength⟩ state operations).2
    rw [hloads, hnothing]
    exact hcounted.countsBlocked (by omega)
  · rintro state rfl hnothing
    rw [a1mCalls_loads, hnothing]
    exact hcounted.countsBlocked (by omega)

/-- Two loads of three are shed and one of them comes back; bit 31 is not a load. -/
def shedTwoRestoreOne : List Operation := [.shedLoad, .shedLoad, .activateLoad]

theorem calls_count_blocked_restoredSecond :
    let final := shedTwoRestoreOne.foldl (helloWorldCall ⟨5, 1⟩)
      (HelloWorld.initial 0x80000016)
    final.blockedLoads = 0b00010 ∧
      CountsBlocked 5 0x80000016 final.blockedLoads
        (shedTwoRestoreOne.foldl (countStep (activatedSet 5 0x80000016).card) 0) :=
  ⟨by decide, (calls_count_blocked (by decide) 0x80000016 shedTwoRestoreOne).1 1
    (HelloWorld.initial 0x80000016) rfl rfl⟩

end FrequencyRelay.PriorityCounter
