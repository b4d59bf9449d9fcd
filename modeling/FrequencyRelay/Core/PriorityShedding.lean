import Mathlib.Data.Finset.Max
import Mathlib.Data.Finset.Card

/-!
# Shedding in order of priority

A user requests a finite set of loads, ordered by importance.  A controller may
shed some of them, and it must give up the less important ones first: the shed
loads form an initial segment of the requested ones.  The structure carries that
rule as a field, so every operation below is also a proof that it is kept.
-/

namespace FrequencyRelay.PriorityShedding

/-- Requested loads together with an initial segment of them that is shed. -/
structure Shedding (Load : Type*) [LinearOrder Load] where
  requested : Finset Load
  shed : Finset Load
  shed_subset : shed ⊆ requested
  shed_below : ∀ low ∈ shed, ∀ high ∈ requested, high ∉ shed → low < high

namespace Shedding

variable {Load : Type*} [LinearOrder Load]

/-- The requested loads that still draw power. -/
def connected (state : Shedding Load) : Finset Load :=
  state.requested \ state.shed

@[simp]
theorem mem_connected {state : Shedding Load} {load : Load} :
    load ∈ state.connected ↔ load ∈ state.requested ∧ load ∉ state.shed := by
  simp [connected]

/-- Nothing is shed. -/
def allConnected (requested : Finset Load) : Shedding Load where
  requested := requested
  shed := ∅
  shed_subset := Finset.empty_subset requested
  shed_below := by simp

/-- Give up one more load, the least important connected one. -/
def shedLeast (state : Shedding Load) (load : Load)
    (hleast : IsLeast (state.connected : Set Load) load) : Shedding Load where
  requested := state.requested
  shed := insert load state.shed
  shed_subset := by
    have hload := mem_connected.mp (Finset.mem_coe.mp hleast.1)
    exact Finset.insert_subset hload.1 state.shed_subset
  shed_below := by
    intro low hlow high hhigh hkept
    rw [Finset.mem_insert, not_or] at hkept
    rcases Finset.mem_insert.mp hlow with rfl | hlow
    · have hle := hleast.2 (mem_connected.mpr ⟨hhigh, hkept.2⟩)
      exact lt_of_le_of_ne hle (Ne.symm hkept.1)
    · exact state.shed_below low hlow high hhigh hkept.2

/-- Give back one load, the most important shed one. -/
def restoreGreatest (state : Shedding Load) (load : Load)
    (hgreatest : IsGreatest (state.shed : Set Load) load) : Shedding Load where
  requested := state.requested
  shed := state.shed.erase load
  shed_subset := (Finset.erase_subset load state.shed).trans state.shed_subset
  shed_below := by
    intro low hlow high hhigh hkept
    obtain ⟨hne, hlowShed⟩ := Finset.mem_erase.mp hlow
    by_cases hhighShed : high ∈ state.shed
    · have hhighLoad : high = load := by
        by_contra hother
        exact hkept (Finset.mem_erase.mpr ⟨hother, hhighShed⟩)
      subst hhighLoad
      exact lt_of_le_of_ne (hgreatest.2 (Finset.mem_coe.mpr hlowShed)) hne
    · exact state.shed_below low hlowShed high hhigh hhighShed

/-- Withdraw every request outside `kept`, whether the load is shed or not. -/
def restrict (state : Shedding Load) (kept : Finset Load) : Shedding Load where
  requested := state.requested ∩ kept
  shed := state.shed ∩ kept
  shed_subset := Finset.inter_subset_inter_right state.shed_subset
  shed_below := by
    intro low hlow high hhigh hkept
    obtain ⟨hhigh, hmem⟩ := Finset.mem_inter.mp hhigh
    apply state.shed_below low (Finset.mem_inter.mp hlow).1 high hhigh
    intro hshed
    exact hkept (Finset.mem_inter.mpr ⟨hshed, hmem⟩)

/-! ## A controller as a counter -/

/-- The `count` least important of the requested loads. -/
def least (requested : Finset Load) (count : ℕ) : Finset Load :=
  requested.filter fun load => (requested.filter (· < load)).card < count

theorem shed_card_le (state : Shedding Load) :
    state.shed.card ≤ state.requested.card :=
  Finset.card_le_card state.shed_subset

/-- What is shed is determined by how much is shed. -/
theorem shed_eq_least (state : Shedding Load) :
    state.shed = least state.requested state.shed.card := by
  ext load
  rw [least, Finset.mem_filter]
  constructor
  · intro hshed
    refine ⟨state.shed_subset hshed, Finset.card_lt_card ?_⟩
    apply Finset.ssubset_iff_of_subset _ |>.mpr ⟨load, hshed, by simp⟩
    intro low hlow
    obtain ⟨hlow, hlt⟩ := Finset.mem_filter.mp hlow
    by_contra hkept
    exact lt_asymm hlt (state.shed_below load hshed low hlow hkept)
  · rintro ⟨hload, hcard⟩
    by_contra hkept
    apply not_lt.mpr (Finset.card_le_card _) hcard
    intro low hlow
    exact Finset.mem_filter.mpr
      ⟨state.shed_subset hlow, state.shed_below low hlow load hload hkept⟩

theorem card_shedLeast (state : Shedding Load) (load : Load)
    (hleast : IsLeast (state.connected : Set Load) load) :
    (state.shedLeast load hleast).shed.card = state.shed.card + 1 :=
  Finset.card_insert_of_notMem (mem_connected.mp (Finset.mem_coe.mp hleast.1)).2

theorem card_restoreGreatest (state : Shedding Load) (load : Load)
    (hgreatest : IsGreatest (state.shed : Set Load) load) :
    (state.restoreGreatest load hgreatest).shed.card = state.shed.card - 1 :=
  Finset.card_erase_of_mem (Finset.mem_coe.mp hgreatest.1)

/-- A load is connected exactly as long as not all of them are shed. -/
theorem connected_nonempty_iff (state : Shedding Load) :
    state.connected.Nonempty ↔ state.shed.card < state.requested.card := by
  rw [connected, Finset.sdiff_nonempty]
  constructor
  · intro hkept
    exact Finset.card_lt_card (state.shed_subset.ssubset_of_not_subset hkept)
  · intro hcard hall
    exact not_lt.mpr (Finset.card_le_card hall) hcard

end Shedding

end FrequencyRelay.PriorityShedding
