import Mathlib.Tactic.FieldSimp
import Mathlib.Tactic.Ring
import FrequencyRelay.Draw.Model

/-!
# Where a sample is in the history

After `n` samples the ring holds the last 100 of them in known slots, with their rates
of change, and the drawing loop meets them in the order in which they were received:
it joins each of them to the next, and never the newest to the oldest.
-/

namespace FrequencyRelay.Draw

open FrequencyRelay.FrequencyHistory
open FrequencyRelay.RingBuffers

/-- The change between two samples over the mean of their periods. -/
def meanPeriodRate (newer older : ℚ) : ℚ := (newer - older) / ((1 / newer + 1 / older) / 2)

variable {s : ℕ → ℚ} {n : ℕ}

theorem rateOfChange_eq {newer older : ℚ} (hnewer : 0 < newer) (holder : 0 < older) :
    rateOfChange newer older = meanPeriodRate newer older := by
  rw [rateOfChange, meanPeriodRate]
  field_simp
  ring

theorem limitedRate_eq {newer older : ℚ} (hnewer : 0 < newer) (holder : 0 < older) :
    limitedRate newer older = min 100 (meanPeriodRate newer older) := by
  rw [limitedRate, rateOfChange_eq hnewer holder]
  split
  case isTrue habove => exact (min_eq_left habove.le).symm
  case isFalse hbelow => exact (min_eq_right (not_lt.mp hbelow)).symm

/-- What the drawing loop draws at the column `j` between two samples with their rates
of change. -/
def segment (j : ℕ) (first second firstRate secondRate : ℚ) : Option (Line × Line) :=
  if aboveMinimum first ∧ aboveMinimum second then
    some
      (⟨plotX j, freqPlotY first, plotX (j + 1), freqPlotY second⟩,
      ⟨plotX j, rocPlotY firstRate, plotX (j + 1), rocPlotY secondRate⟩)
  else none

/-! ## The columns of the drawing loop -/

section Columns

variable {history : History} {freq dfreq : Fin 100 → ℚ}
variable (hhistory : history = (samples s n).foldl History.receive (initial freq dfreq))
include hhistory

/-- The slots that the drawing loop joins at a column are those of successive samples. -/
theorem slots_of_column (hn : 100 ≤ n) (j : ℕ) :
    slot 100 (history.i + j) = slot 100 (98 + (n - 99 + j)) ∧
      slot 100 (history.i + j + 1) = slot 100 (98 + (n - 98 + j)) := by
  constructor
  · rw [hhistory]
    exact slot_drawn rfl (by omega)
  · rw [hhistory, Nat.add_assoc]
    exact slot_drawn rfl (by omega)

theorem samples_of_column (hn : 100 ≤ n) {j : ℕ} (hj : j ≤ 98) :
    history.freq (slot 100 (history.i + j)) = s (n - 99 + j) ∧
      history.freq (slot 100 (history.i + j + 1)) = s (n - 98 + j) := by
  obtain ⟨hfirst, hsecond⟩ := slots_of_column hhistory hn j
  rw [hfirst, hsecond, hhistory]
  exact ⟨freq_of_sample rfl (by omega) (by omega) (by omega),
    freq_of_sample rfl (by omega) (by omega) (by omega)⟩

/-- The drawing loop draws the segments of successive samples and no others. -/
theorem drawnLines_of_samples (hn : 100 ≤ n) :
    drawnLines history =
      (List.range 99).filterMap fun j =>
        segment j (s (n - 99 + j)) (s (n - 98 + j))
          (history.dfreq (slot 100 (98 + (n - 99 + j))))
          (history.dfreq (slot 100 (98 + (n - 98 + j)))) := by
  rw [drawnLines]
  apply List.filterMap_congr
  intro j hj
  have hle : j ≤ 98 := Nat.le_of_lt_succ (List.mem_range.mp hj)
  obtain ⟨hfirst, hsecond⟩ := samples_of_column hhistory hn hle
  obtain ⟨hfirstSlot, hsecondSlot⟩ := slots_of_column hhistory hn j
  dsimp only
  rw [hfirst, hsecond, hfirstSlot, hsecondSlot, segment]

end Columns

/-- The history after any number of passes: the slot that is written next, the last
samples, their rates of change, and what the drawing loop joins to what: each of the
last 100 samples to the one received after it. -/
theorem history_slots (hpos : ∀ k, 1 ≤ k → k ≤ n → 0 < s k) {batches : List (List ℚ)}
    (hbatches : batches.flatten = samples s n) (freq dfreq : Fin 100 → ℚ) :
    let history := batches.foldl drainQueue (initial freq dfreq)
    (history.i : ℕ) = (99 + n) % 100 ∧
      (∀ k, max 1 (n - 99) ≤ k → k ≤ n → history.freq (slot 100 (98 + k)) = s k) ∧
      (∀ k, max 2 (n - 99) ≤ k → k ≤ n →
        history.dfreq (slot 100 (98 + k)) = min 100 (meanPeriodRate (s k) (s (k - 1)))) ∧
      (100 ≤ n →
        (∀ j ≤ 98,
          history.freq (slot 100 (history.i + j)) = s (n - 99 + j) ∧
            history.freq (slot 100 (history.i + j + 1)) = s (n - 98 + j)) ∧
        drawnLines history =
          (List.range 99).filterMap fun j =>
            segment j (s (n - 99 + j)) (s (n - 98 + j))
              (history.dfreq (slot 100 (98 + (n - 99 + j))))
              (history.dfreq (slot 100 (98 + (n - 98 + j))))) := by
  intro history
  have hhistory : history = (samples s n).foldl History.receive (initial freq dfreq) := by
    rw [← hbatches, ← foldl_drainQueue]
  refine ⟨?_, ?_, ?_, ?_⟩
  · rw [hhistory, i_foldl_receive, length_samples]
    rfl
  · intro k hk hnewest
    rw [hhistory]
    exact freq_of_sample rfl (by omega) (by omega) hnewest
  · intro k hk hnewest
    rw [hhistory, dfreq_of_sample rfl (by omega) (by omega) hnewest]
    exact limitedRate_eq (hpos k (by omega) hnewest) (hpos (k - 1) (by omega) (by omega))
  · intro hn
    exact ⟨fun j hj => samples_of_column hhistory hn hj, drawnLines_of_samples hhistory hn⟩

/-- The samples 1 to 120 in two passes: the rate of the oldest that is kept, whose
predecessor is overwritten, the newest two as they are drawn, and every segment. -/
theorem history_slots_twoPasses :
    let s : ℕ → ℚ := fun k => k
    let history := [(samples s 120).take 60, (samples s 120).drop 60].foldl drainQueue
      (initial (fun _ => 0) fun _ => 0)
    history.dfreq (slot 100 (98 + 21)) = min 100 (meanPeriodRate 21 20) ∧
      history.freq (slot 100 (history.i + 98)) = 119 ∧
      history.freq (slot 100 (history.i + 98 + 1)) = 120 ∧
      drawnLines history =
        (List.range 99).filterMap fun j =>
          segment j (s (21 + j)) (s (22 + j)) (history.dfreq (slot 100 (98 + (21 + j))))
            (history.dfreq (slot 100 (98 + (22 + j)))) := by
  intro s history
  have hpos : ∀ k, 1 ≤ k → k ≤ 120 → 0 < s k := by
    intro k hk _
    exact Nat.cast_pos.mpr hk
  have hbatches :
      [(samples s 120).take 60, (samples s 120).drop 60].flatten = samples s 120 := by
    rw [List.flatten_cons, List.flatten_singleton, List.take_append_drop]
  obtain ⟨-, -, hdfreq, hdrawn⟩ :=
    history_slots hpos hbatches (fun _ => 0) fun _ => 0
  obtain ⟨hpair, hlines⟩ := hdrawn (by decide)
  have hrate := hdfreq 21 (by decide) (by decide)
  have hnewest := hpair 98 (by decide)
  norm_num [s] at hrate hnewest
  exact ⟨hrate, hnewest.1, hnewest.2, hlines⟩

end FrequencyRelay.Draw
