import FrequencyRelay.Relay.LoadScan

/-!
# The scanning loops as a counter

Started with nothing blocked, any mixture of sheddings and restorings leaves the
blocked loads as the least important of the activated ones, so that their number
says all there is to know about them.  Bits of `activated` beyond the scanned ones
have no effect.
-/

namespace FrequencyRelay.PriorityCounter

open FrequencyRelay.BitMasks
open FrequencyRelay.LoadScan
open FrequencyRelay.PriorityShedding

/-- A call of one of the two functions. -/
inductive Operation
  | shedLoad
  | activateLoad
  deriving DecidableEq

/-- The counter: it goes up to the number of loads and down to 0. -/
def countStep (numOfActivated count : ℕ) : Operation → ℕ
  | .shedLoad => min (count + 1) numOfActivated
  | .activateLoad => count - 1

/-- The effect of a call on the blocked loads. -/
def blockedStep (numOfLoads : ℕ) (activated blocked : Word) : Operation → Word
  | .shedLoad => shedOne numOfLoads activated blocked
  | .activateLoad => restoreOne numOfLoads blocked

/-- The activated loads among those that are scanned. -/
def activatedSet (numOfLoads : ℕ) (activated : Word) : Finset ℕ :=
  members activated ∩ Finset.range numOfLoads

/-- The blocked loads are the `count` least important of the activated ones; the
next update of either loop neither carries nor borrows, and each loop undoes the
other unless the counter is at its end. -/
structure CountsBlocked (numOfLoads : ℕ) (activated blocked : Word)
    (count : ℕ) : Prop where
  blocked_eq :
    members blocked = Shedding.least (activatedSet numOfLoads activated) count
  within : members blocked ⊆ Finset.range numOfLoads
  no_carry : ∀ index, leastConnected numOfLoads activated blocked = some index →
    blocked + bit 32 index = blocked ||| bit 32 index
  no_borrow : ∀ index, greatestBlocked blocked numOfLoads = some index →
    blocked - bit 32 index = blocked &&& ~~~ bit 32 index
  restore_shed : count < (activatedSet numOfLoads activated).card →
    restoreOne numOfLoads (shedOne numOfLoads activated blocked) = blocked
  shed_restore : 0 < count →
    shedOne numOfLoads activated (restoreOne numOfLoads blocked) = blocked

variable {numOfLoads : ℕ} {activated blocked : Word} {state : Shedding ℕ}

theorem members_and_loadMask (hnum : numOfLoads ≤ 32) :
    members (activated &&& loadMask numOfLoads) =
      activatedSet numOfLoads activated := by
  rw [members_and, loadMask, members_lowBits, min_eq_right hnum, activatedSet]

/-- The upward loop does not look at the other activated loads. -/
theorem leastConnected_and_loadMask (hnum : numOfLoads ≤ 32) :
    leastConnected numOfLoads (activated &&& loadMask numOfLoads) blocked =
      leastConnected numOfLoads activated blocked := by
  ext index
  rw [leastConnected_eq_some_iff hnum, leastConnected_eq_some_iff hnum]
  apply and_congr_right
  intro hindex
  rw [members_and_loadMask hnum]
  have hscanned : ∀ other, other ∈ (activatedSet numOfLoads activated \
      members blocked : Set ℕ) ↔
        other < numOfLoads ∧ other ∈ (members activated \ members blocked : Set ℕ) := by
    intro other
    simp [activatedSet]
    tauto
  constructor
  · rintro ⟨hmem, hleast⟩
    refine ⟨((hscanned index).mp hmem).2, fun other hother => ?_⟩
    by_cases hlt : other < numOfLoads
    · exact hleast ((hscanned other).mpr ⟨hlt, hother⟩)
    · omega
  · rintro ⟨hmem, hleast⟩
    exact ⟨(hscanned index).mpr ⟨hindex, hmem⟩, fun other hother =>
      hleast ((hscanned other).mp hother).2⟩

theorem shedOne_and_loadMask (hnum : numOfLoads ≤ 32) :
    shedOne numOfLoads (activated &&& loadMask numOfLoads) blocked =
      shedOne numOfLoads activated blocked := by
  rw [shedOne, shedOne, leastConnected_and_loadMask hnum]

/-! ## The counter behind the words -/

/-- The words hold a state of priority shedding in which `count` loads are shed. -/
def Counted (numOfLoads : ℕ) (activated blocked : Word) (count : ℕ) : Prop :=
  ∃ state, Represents numOfLoads (activated &&& loadMask numOfLoads) blocked state ∧
    state.shed.card = count

theorem Represents.requested_card
    (hrep : Represents numOfLoads (activated &&& loadMask numOfLoads) blocked state)
    (hnum : numOfLoads ≤ 32) :
    state.requested.card = (activatedSet numOfLoads activated).card := by
  rw [← hrep.activated_eq, members_and_loadMask hnum]

theorem counted_nothing (hnum : numOfLoads ≤ 32) :
    Counted numOfLoads activated 0 0 := by
  refine ⟨_, Represents.allConnected ?_, Finset.card_empty⟩
  rw [members_and_loadMask hnum]
  exact Finset.inter_subset_right

namespace Counted

variable {count : ℕ} (hcounted : Counted numOfLoads activated blocked count)
variable (hnum : numOfLoads ≤ 32)
include hcounted hnum

/-- The upward loop counts up to the number of activated loads. -/
theorem shedOne : Counted numOfLoads activated
    (LoadScan.shedOne numOfLoads activated blocked)
    (min (count + 1) (activatedSet numOfLoads activated).card) := by
  obtain ⟨state, hrep, rfl⟩ := hcounted
  rw [← shedOne_and_loadMask hnum, ← Represents.requested_card hrep hnum]
  by_cases hconnected : state.connected.Nonempty
  · have hcard := state.connected_nonempty_iff.mp hconnected
    have hleast := state.connected.isLeast_min' hconnected
    refine ⟨_, hrep.afterShed hnum hleast, ?_⟩
    rw [state.card_shedLeast, min_eq_left hcard]
  · have hcard := mt state.connected_nonempty_iff.mpr hconnected
    have hnone : leastConnected numOfLoads (activated &&& loadMask numOfLoads)
        blocked = none := by
      apply Option.eq_none_iff_forall_ne_some.mpr
      intro index hfound
      exact hconnected ⟨index, ((hrep.leastConnected_iff hnum).mp hfound).1⟩
    rw [LoadScan.shedOne, hnone]
    refine ⟨state, hrep, ?_⟩
    rw [min_eq_right (by omega)]
    exact le_antisymm state.shed_card_le (not_lt.mp hcard)

/-- The downward loop counts down to 0. -/
theorem restoreOne : Counted numOfLoads activated
    (LoadScan.restoreOne numOfLoads blocked) (count - 1) := by
  obtain ⟨state, hrep, rfl⟩ := hcounted
  by_cases hshed : state.shed.Nonempty
  · have hgreatest := state.shed.isGreatest_max' hshed
    exact ⟨_, hrep.afterRestore hnum hgreatest, state.card_restoreGreatest _ hgreatest⟩
  · have hnone : greatestBlocked blocked numOfLoads = none := by
      apply Option.eq_none_iff_forall_ne_some.mpr
      intro index hfound
      exact hshed ⟨index, ((hrep.greatestBlocked_iff hnum).mp hfound).1⟩
    rw [LoadScan.restoreOne, hnone]
    refine ⟨state, hrep, ?_⟩
    rw [Finset.not_nonempty_iff_eq_empty.mp hshed]
    rfl

/-- One call moves the words as it moves the counter. -/
theorem step (operation : Operation) : Counted numOfLoads activated
    (blockedStep numOfLoads activated blocked operation)
    (countStep (activatedSet numOfLoads activated).card count operation) := by
  cases operation with
  | shedLoad => exact hcounted.shedOne hnum
  | activateLoad => exact hcounted.restoreOne hnum

theorem blocked_eq :
    members blocked = Shedding.least (activatedSet numOfLoads activated) count := by
  obtain ⟨state, hrep, rfl⟩ := hcounted
  rw [hrep.blocked_eq, ← members_and_loadMask hnum, hrep.activated_eq]
  exact state.shed_eq_least

omit hnum in
theorem within : members blocked ⊆ Finset.range numOfLoads := by
  obtain ⟨state, hrep, -⟩ := hcounted
  exact hrep.blocked_within

/-- The counter determines the word. -/
theorem unique {other : Word} (hother : Counted numOfLoads activated other count) :
    blocked = other := by
  apply members_injective
  rw [hcounted.blocked_eq hnum, hother.blocked_eq hnum]

theorem countsBlocked : CountsBlocked numOfLoads activated blocked count where
  blocked_eq := hcounted.blocked_eq hnum
  within := hcounted.within
  no_carry := by
    intro index hfound
    obtain ⟨hindex, hleast⟩ := (leastConnected_eq_some_iff hnum).mp hfound
    apply BitVec.add_eq_or_of_and_eq_zero
    exact (and_bit_eq_zero_iff (by omega)).mpr hleast.1.2
  no_borrow := by
    intro index hfound
    obtain ⟨-, hmem, -⟩ := (greatestBlocked_eq_some_iff hnum).mp hfound
    exact sub_eq_and_not (by simpa [members_bit (lt_of_mem_members hmem)] using hmem)
  restore_shed := by
    intro hcount
    have hback := (hcounted.shedOne hnum).restoreOne hnum
    rw [min_eq_left hcount, Nat.add_sub_cancel] at hback
    exact hback.unique hnum hcounted
  shed_restore := by
    intro hcount
    have hcard : count ≤ (activatedSet numOfLoads activated).card := by
      obtain ⟨state, hrep, rfl⟩ := hcounted
      rw [← Represents.requested_card hrep hnum]
      exact state.shed_card_le
    have hback := (hcounted.restoreOne hnum).shedOne hnum
    rw [Nat.sub_add_cancel hcount, min_eq_left hcard] at hback
    exact hback.unique hnum hcounted

end Counted

/-- Any sequence of calls moves the words as it moves the counter. -/
theorem counted_run (hnum : numOfLoads ≤ 32) (operations : List Operation) :
    Counted numOfLoads activated
      (operations.foldl (blockedStep numOfLoads activated) 0)
      (operations.foldl (countStep (activatedSet numOfLoads activated).card) 0) := by
  induction operations using List.reverseRecOn with
  | nil => exact counted_nothing hnum
  | append_singleton operations operation ih =>
      rw [List.foldl_append, List.foldl_append]
      exact ih.step hnum operation

end FrequencyRelay.PriorityCounter
