import FrequencyRelay.Core.BitMasks
import FrequencyRelay.Core.PriorityShedding

/-!
# The two scanning loops

`shedLoad` and `activateLoad` of `hello_world.c` are, word for word, the
functions `turn_off_least_important_load` and `turn_on_most_important_load` of
`a1m.c` on other variables.  The loops are modelled here once, over 32-bit words
and any number of loads; `(int)pow(2, i)` is the exact word with bit `i` set as
long as `i < 31`.
-/

namespace FrequencyRelay.LoadScan

open FrequencyRelay.BitMasks
open FrequencyRelay.PriorityShedding

abbrev Word := BitVec 32

/-- `LOAD_MASK`. -/
def loadMask (numOfLoads : ℕ) : Word := lowBits 32 numOfLoads

/-- The upward loop: the first load that is activated and not blocked. -/
def leastConnected (numOfLoads : ℕ) (activated blocked : Word) : Option ℕ :=
  (List.range numOfLoads).find? fun index =>
    blocked &&& bit 32 index == 0 &&
      activated &&& bit 32 index == bit 32 index

/-- The downward loop: the first blocked load from the most important one. -/
def greatestBlocked (blocked : Word) : (numOfLoads : ℕ) → Option ℕ
  | 0 => none
  | index + 1 =>
      if blocked &&& bit 32 index = bit 32 index then some index
      else greatestBlocked blocked index

/-- The blocked loads after one more is shed. -/
def shedOne (numOfLoads : ℕ) (activated blocked : Word) : Word :=
  match leastConnected numOfLoads activated blocked with
  | some index => blocked + bit 32 index
  | none => blocked

/-- The blocked loads after one is given back. -/
def restoreOne (numOfLoads : ℕ) (blocked : Word) : Word :=
  match greatestBlocked blocked numOfLoads with
  | some index => blocked - bit 32 index
  | none => blocked

/-- Whether the restoring loop itself resets the timer, which it does when it
gave a load back and others are still blocked. -/
def restoreResets (numOfLoads : ℕ) (blocked : Word) : Bool :=
  (greatestBlocked blocked numOfLoads).isSome &&
    restoreOne numOfLoads blocked != 0

/-! ## What the loops find -/

section Scans

variable {numOfLoads : ℕ} {activated blocked : Word} {index : ℕ}

theorem leastConnected_eq_some_iff (hnum : numOfLoads ≤ 32) :
    leastConnected numOfLoads activated blocked = some index ↔
      index < numOfLoads ∧
        IsLeast (members activated \ members blocked : Set ℕ) index := by
  have htest : ∀ other < numOfLoads,
      ((blocked &&& bit 32 other == 0 &&
        activated &&& bit 32 other == bit 32 other) = true ↔
          other ∈ members activated ∧ other ∉ members blocked) := by
    intro other hother
    rw [Bool.and_eq_true, beq_iff_eq, beq_iff_eq,
      and_bit_eq_zero_iff (by omega), and_bit_eq_bit_iff (by omega), and_comm]
  rw [leastConnected, List.find?_range_eq_some]
  constructor
  · rintro ⟨hfound, hrange, hskipped⟩
    have hindex := List.mem_range.mp hrange
    have hmem := (htest index hindex).mp hfound
    refine ⟨hindex, ⟨hmem.1, hmem.2⟩, fun other hother => ?_⟩
    by_contra hlt
    have hskip := hskipped other (not_le.mp hlt)
    rw [Bool.not_eq_true', ← Bool.not_eq_true, htest other (by omega)] at hskip
    exact hskip hother
  · rintro ⟨hindex, hmem, hleast⟩
    refine ⟨(htest index hindex).mpr hmem, List.mem_range.mpr hindex, ?_⟩
    intro other hother
    rw [Bool.not_eq_true', ← Bool.not_eq_true, htest other (by omega)]
    exact fun hconnected => not_le.mpr hother (hleast hconnected)

theorem greatestBlocked_eq_some_iff (hnum : numOfLoads ≤ 32) :
    greatestBlocked blocked numOfLoads = some index ↔
      index < numOfLoads ∧ index ∈ members blocked ∧
        ∀ other ∈ members blocked, other < numOfLoads → other ≤ index := by
  induction numOfLoads with
  | zero => simp [greatestBlocked]
  | succ count ih =>
      rw [greatestBlocked]
      by_cases hcount : count ∈ members blocked
      · rw [if_pos ((and_bit_eq_bit_iff (by omega)).mpr hcount)]
        constructor
        · rintro ⟨rfl⟩
          exact ⟨by omega, hcount, fun other _ hlt => by omega⟩
        · rintro ⟨hindex, -, hgreatest⟩
          have := hgreatest count hcount (by omega)
          exact congrArg some (by omega)
      · rw [if_neg (mt (and_bit_eq_bit_iff (by omega)).mp hcount),
          ih (by omega)]
        have hne : ∀ other ∈ members blocked, other ≠ count :=
          fun other hother heq => hcount (heq ▸ hother)
        constructor
        · rintro ⟨hindex, hmem, hgreatest⟩
          refine ⟨by omega, hmem, fun other hother hlt => ?_⟩
          have := hne other hother
          exact hgreatest other hother (by omega)
        · rintro ⟨hindex, hmem, hgreatest⟩
          have := hne index hmem
          exact ⟨by omega, hmem, fun other hother hlt =>
            hgreatest other hother (by omega)⟩

theorem greatestBlocked_eq_none_iff (hnum : numOfLoads ≤ 32) :
    greatestBlocked blocked numOfLoads = none ↔
      ∀ other ∈ members blocked, numOfLoads ≤ other := by
  induction numOfLoads with
  | zero => simp [greatestBlocked]
  | succ count ih =>
      rw [greatestBlocked]
      by_cases hcount : count ∈ members blocked
      · rw [if_pos ((and_bit_eq_bit_iff (by omega)).mpr hcount)]
        apply iff_of_false (Option.some_ne_none count)
        intro hall
        exact absurd (hall count hcount) (by omega)
      · rw [if_neg (mt (and_bit_eq_bit_iff (by omega)).mp hcount),
          ih (by omega)]
        apply forall₂_congr
        intro other hother
        have : other ≠ count := fun heq => hcount (heq ▸ hother)
        omega

/-- Shedding only ever adds a load that the loop scans. -/
theorem shedOne_within (hnum : numOfLoads ≤ 32)
    (hwithin : members blocked ⊆ Finset.range numOfLoads) :
    members (shedOne numOfLoads activated blocked) ⊆ Finset.range numOfLoads := by
  unfold shedOne
  split
  case h_1 index hfound =>
    obtain ⟨hindex, hleast⟩ := (leastConnected_eq_some_iff hnum).mp hfound
    rw [members_add_bit (by omega) hleast.1.2]
    exact Finset.insert_subset (Finset.mem_range.mpr hindex) hwithin
  case h_2 => exact hwithin

/-- Shedding gives no load back. -/
theorem subset_shedOne : members blocked ⊆ members (shedOne numOfLoads activated blocked) := by
  unfold shedOne
  split
  case h_1 index hfound =>
    have htest := List.find?_some hfound
    rw [Bool.and_eq_true, beq_iff_eq] at htest
    rw [BitVec.add_eq_or_of_and_eq_zero _ _ htest.1, members_or]
    exact Finset.subset_union_left
  case h_2 => exact Finset.Subset.rfl

theorem restoreOne_subset (hnum : numOfLoads ≤ 32) :
    members (restoreOne numOfLoads blocked) ⊆ members blocked := by
  unfold restoreOne
  split
  case h_1 index hfound =>
    obtain ⟨-, hmem, -⟩ := (greatestBlocked_eq_some_iff hnum).mp hfound
    rw [members_sub_bit hmem]
    exact Finset.erase_subset index (members blocked)
  case h_2 => exact Finset.Subset.rfl

/-- Restoring a load without a timer reset means that it was the last one. -/
theorem restoreOne_eq_zero_of_ne (hreset : restoreResets numOfLoads blocked = false)
    (hchange : restoreOne numOfLoads blocked ≠ blocked) :
    restoreOne numOfLoads blocked = 0 := by
  rw [restoreResets, Bool.and_eq_false_iff] at hreset
  rcases hreset with hnone | hzero
  · rw [Option.isSome_eq_false_iff, Option.isNone_iff_eq_none] at hnone
    exact absurd (by rw [restoreOne, hnone]) hchange
  · simpa using hzero

/-- The restoring loop returns without a timer reset only when it has emptied
the blocked loads. -/
theorem restoreOne_eq_zero (hnum : numOfLoads ≤ 32)
    (hwithin : members blocked ⊆ Finset.range numOfLoads)
    (hreset : restoreResets numOfLoads blocked = false) :
    restoreOne numOfLoads blocked = 0 := by
  by_cases hchange : restoreOne numOfLoads blocked = blocked
  · by_contra hkept
    rw [hchange] at hkept
    have hnone : greatestBlocked blocked numOfLoads = none := by
      by_contra hsome
      rw [restoreResets, hchange, Option.isSome_iff_ne_none.mpr hsome] at hreset
      exact hkept (by simpa using hreset)
    have habove := (greatestBlocked_eq_none_iff hnum).mp hnone
    apply hkept
    apply members_eq_empty_iff.mp
    apply Finset.eq_empty_of_forall_notMem
    intro index hmem
    exact absurd (Finset.mem_range.mp (hwithin hmem))
      (not_lt.mpr (habove index hmem))
  · exact restoreOne_eq_zero_of_ne hreset hchange

/-- With no load activated there is nothing to shed. -/
theorem shedOne_nothing : shedOne numOfLoads 0 blocked = blocked := by
  unfold shedOne
  split
  case h_1 index hfound =>
    have htest := List.find?_some hfound
    simp only [Bool.and_eq_true, beq_iff_eq] at htest
    rw [← htest.2]
    simp
  case h_2 => rfl

/-- With no load blocked there is nothing to restore. -/
theorem restoreOne_nothing : restoreOne numOfLoads 0 = 0 := by
  have hzero : ∀ index, greatestBlocked 0 numOfLoads = some index →
      bit 32 index = 0 := by
    induction numOfLoads with
    | zero => simp [greatestBlocked]
    | succ count ih =>
        intro index hfound
        rw [greatestBlocked] at hfound
        split at hfound
        case isTrue htest =>
          obtain rfl := Option.some.inj hfound
          rw [← htest]
          exact BitVec.zero_and
        case isFalse => exact ih index hfound
  unfold restoreOne
  split
  case h_1 index hfound => exact congrArg (0 - ·) (hzero index hfound)
  case h_2 => rfl

end Scans

/-! ## Refinement of priority shedding -/

/-- The words hold the requested and the shed loads of an abstract state, all
of them among the first `numOfLoads` bits. -/
structure Represents (numOfLoads : ℕ) (activated blocked : Word)
    (state : Shedding ℕ) : Prop where
  activated_eq : members activated = state.requested
  blocked_eq : members blocked = state.shed
  within : state.requested ⊆ Finset.range numOfLoads

namespace Represents

variable {numOfLoads : ℕ} {activated blocked : Word} {state : Shedding ℕ}

theorem allConnected (hwithin : members activated ⊆ Finset.range numOfLoads) :
    Represents numOfLoads activated 0 (.allConnected (members activated)) :=
  ⟨rfl, members_zero, hwithin⟩

theorem cleared (hrep : Represents numOfLoads activated blocked state) :
    Represents numOfLoads activated 0 (.allConnected state.requested) :=
  ⟨hrep.activated_eq, members_zero, hrep.within⟩

/-- The words masked by the same switches represent the restricted state. -/
theorem masked (hrep : Represents numOfLoads activated blocked state)
    (switches : Word) :
    Represents numOfLoads (activated &&& switches) (blocked &&& switches)
      (state.restrict (members switches)) where
  activated_eq := by rw [members_and, hrep.activated_eq]; rfl
  blocked_eq := by rw [members_and, hrep.blocked_eq]; rfl
  within := Finset.inter_subset_left.trans hrep.within

theorem blocked_within (hrep : Represents numOfLoads activated blocked state) :
    members blocked ⊆ Finset.range numOfLoads :=
  hrep.blocked_eq ▸ state.shed_subset.trans hrep.within

theorem coe_connected (hrep : Represents numOfLoads activated blocked state) :
    (members activated \ members blocked : Set ℕ) = state.connected := by
  rw [hrep.activated_eq, hrep.blocked_eq, Shedding.connected, Finset.coe_sdiff]

theorem leastConnected_iff (hrep : Represents numOfLoads activated blocked state)
    (hnum : numOfLoads ≤ 32) {index : ℕ} :
    leastConnected numOfLoads activated blocked = some index ↔
      IsLeast (state.connected : Set ℕ) index := by
  rw [leastConnected_eq_some_iff hnum, hrep.coe_connected, and_iff_right_iff_imp]
  intro hleast
  have hload := Shedding.mem_connected.mp (Finset.mem_coe.mp hleast.1)
  exact Finset.mem_range.mp (hrep.within hload.1)

theorem greatestBlocked_iff (hrep : Represents numOfLoads activated blocked state)
    (hnum : numOfLoads ≤ 32) {index : ℕ} :
    greatestBlocked blocked numOfLoads = some index ↔
      IsGreatest (state.shed : Set ℕ) index := by
  rw [greatestBlocked_eq_some_iff hnum, ← hrep.blocked_eq]
  have hscanned : ∀ other ∈ members blocked, other < numOfLoads :=
    fun other hother => Finset.mem_range.mp (hrep.blocked_within hother)
  constructor
  · rintro ⟨-, hmem, hgreatest⟩
    exact ⟨hmem, fun other hother => hgreatest other hother (hscanned other hother)⟩
  · rintro ⟨hmem, hgreatest⟩
    exact ⟨hscanned index hmem, hmem, fun other hother _ => hgreatest hother⟩

theorem afterShed (hrep : Represents numOfLoads activated blocked state)
    (hnum : numOfLoads ≤ 32) {index : ℕ}
    (hleast : IsLeast (state.connected : Set ℕ) index) :
    Represents numOfLoads activated
      (LoadScan.shedOne numOfLoads activated blocked)
      (state.shedLeast index hleast) := by
  have hload := Shedding.mem_connected.mp (Finset.mem_coe.mp hleast.1)
  have hindex := Finset.mem_range.mp (hrep.within hload.1)
  refine ⟨hrep.activated_eq, ?_, hrep.within⟩
  rw [← hrep.blocked_eq] at hload
  rw [LoadScan.shedOne, (hrep.leastConnected_iff hnum).mpr hleast]
  simp only
  rw [members_add_bit (by omega) hload.2, hrep.blocked_eq]
  rfl

theorem afterRestore (hrep : Represents numOfLoads activated blocked state)
    (hnum : numOfLoads ≤ 32) {index : ℕ}
    (hgreatest : IsGreatest (state.shed : Set ℕ) index) :
    Represents numOfLoads activated (LoadScan.restoreOne numOfLoads blocked)
      (state.restoreGreatest index hgreatest) := by
  have hload := Finset.mem_coe.mp hgreatest.1
  rw [← hrep.blocked_eq] at hload
  refine ⟨hrep.activated_eq, ?_, hrep.within⟩
  rw [LoadScan.restoreOne, (hrep.greatestBlocked_iff hnum).mpr hgreatest]
  simp only
  rw [members_sub_bit hload, hrep.blocked_eq]
  rfl

/-- The upward loop sheds the least important connected load, if there is one. -/
theorem shedOne (hrep : Represents numOfLoads activated blocked state)
    (hnum : numOfLoads ≤ 32) :
    ∃ next, Represents numOfLoads activated
      (LoadScan.shedOne numOfLoads activated blocked) next := by
  cases hfound : leastConnected numOfLoads activated blocked with
  | some index =>
      exact ⟨_, hrep.afterShed hnum ((hrep.leastConnected_iff hnum).mp hfound)⟩
  | none =>
      rw [LoadScan.shedOne, hfound]
      exact ⟨state, hrep⟩

/-- The downward loop restores the most important shed load, if there is one. -/
theorem restoreOne (hrep : Represents numOfLoads activated blocked state)
    (hnum : numOfLoads ≤ 32) :
    ∃ next, Represents numOfLoads activated
      (LoadScan.restoreOne numOfLoads blocked) next := by
  cases hfound : greatestBlocked blocked numOfLoads with
  | some index =>
      exact ⟨_, hrep.afterRestore hnum ((hrep.greatestBlocked_iff hnum).mp hfound)⟩
  | none =>
      rw [LoadScan.restoreOne, hfound]
      exact ⟨state, hrep⟩

end Represents

end FrequencyRelay.LoadScan
