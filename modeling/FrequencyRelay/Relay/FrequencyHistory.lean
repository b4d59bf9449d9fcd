import Mathlib.Algebra.Order.Ring.Rat
import FrequencyRelay.Core.RingBuffers

/-!
# The frequency history

The receiving loop of `PRVGADraw_Task` in `main.c` is also that of
`frequencyAnalyserTask` in `hello_world.c`, up to the names of the two arrays.  It is
modelled here once, over exact rational numbers and with `i = ++i % 100` read as
`i := (i + 1) % 100`.  Division by zero is zero in this module; where it matters
whether a divisor is zero, it is asked for separately.
-/

namespace FrequencyRelay.FrequencyHistory

open FrequencyRelay.RingBuffers

/-- The length of the arrays. -/
instance historyLength : NeZero 100 := ⟨by decide⟩

/-- `freq`, `dfreq` and `i` of `main.c`; `freqHistory`, `freqRocHistory` and `i` of
`hello_world.c`. -/
structure History where
  freq : Fin 100 → ℚ
  dfreq : Fin 100 → ℚ
  i : Fin 100

/-- The rate of change between two consecutive samples. -/
def rateOfChange (newer older : ℚ) : ℚ :=
  (newer - older) * 2 * newer * older / (newer + older)

/-- The rate of change as it is stored, with its upper limit. -/
def limitedRate (newer older : ℚ) : ℚ :=
  if rateOfChange newer older > 100 then 100 else rateOfChange newer older

/-- The slot whose sample is taken for the previous one. -/
def previousSlot (i : Fin 100) : Fin 100 := if i = 0 then 99 else slot 100 (i - 1)

namespace History

/-- One pass of the receiving loop. -/
def receive (history : History) (sample : ℚ) : History :=
  let freq := Function.update history.freq history.i sample
  { freq := freq
    dfreq :=
      Function.update history.dfreq history.i
        (limitedRate (freq history.i) (freq (previousSlot history.i)))
    i := slot 100 (history.i + 1) }

/-- What that pass divides by. -/
def divisor (history : History) (sample : ℚ) : ℚ :=
  let freq := Function.update history.freq history.i sample
  freq history.i + freq (previousSlot history.i)

/-- The two arrays as rings. -/
def freqRing (history : History) : Ring 100 ℚ := ⟨history.freq, history.i⟩

def dfreqRing (history : History) : Ring 100 ℚ := ⟨history.dfreq, history.i⟩

/-- The sample received last. -/
def newest (history : History) : ℚ := history.freqRing.window 99

theorem previousSlot_eq (i : Fin 100) : previousSlot i = slot 100 (i + 99) := by
  unfold previousSlot
  split
  case isTrue hzero =>
    subst hzero
    rfl
  case isFalse hpos =>
    have hval : (i : ℕ) ≠ 0 := fun hzero => hpos (Fin.ext hzero)
    apply Fin.ext
    simp only [slot, Fin.ofNat]
    omega

theorem freqRing_receive (history : History) (sample : ℚ) :
    (history.receive sample).freqRing = history.freqRing.push sample := rfl

/-- The slot taken for the previous sample holds the previous sample. -/
theorem previous_sample (history : History) (sample : ℚ) :
    Function.update history.freq history.i sample (previousSlot history.i) =
      history.newest := by
  have hprevious : previousSlot history.i ≠ history.i := by
    rw [previousSlot_eq]
    exact Ring.slot_ne (by decide) (by decide)
  rw [Function.update_of_ne hprevious, previousSlot_eq]
  rfl

theorem dfreqRing_receive (history : History) (sample : ℚ) :
    (history.receive sample).dfreqRing =
      history.dfreqRing.push (limitedRate sample history.newest) := by
  rw [dfreqRing, receive, Ring.push]
  simp only [Function.update_self, history.previous_sample]
  rfl

theorem divisor_eq (history : History) (sample : ℚ) :
    history.divisor sample = sample + history.newest := by
  simp only [divisor, Function.update_self, history.previous_sample]

theorem newest_receive (history : History) (sample : ℚ) :
    (history.receive sample).newest = sample :=
  history.freqRing.window_push_last sample rfl

end History

/-- The rates that are stored for a list of samples. -/
def limitedRates (older : ℚ) : List ℚ → List ℚ
  | [] => []
  | sample :: samples => limitedRate sample older :: limitedRates sample samples

@[simp]
theorem length_limitedRates (older : ℚ) (samples : List ℚ) :
    (limitedRates older samples).length = samples.length := by
  induction samples generalizing older with
  | nil => rfl
  | cons sample samples ih => rw [limitedRates, List.length_cons, ih, List.length_cons]

/-- The rate stored for a sample is that between it and the one before. -/
theorem getElem?_limitedRates {older newer previous : ℚ} {samples : List ℚ} {index : ℕ}
    (hnewer : samples[index]? = some newer)
    (hprevious : (older :: samples)[index]? = some previous) :
    (limitedRates older samples)[index]? = some (limitedRate newer previous) := by
  induction samples generalizing older index with
  | nil => cases hnewer
  | cons sample samples ih =>
      cases index with
      | zero =>
          obtain rfl := Option.some.inj hnewer
          obtain rfl := Option.some.inj hprevious
          rfl
      | succ index => exact ih hnewer hprevious

/-- The slot that is written next, after a list of samples. -/
theorem i_foldl_receive (history : History) (samples : List ℚ) :
    ((samples.foldl History.receive history).i : ℕ) =
      (history.i + samples.length) % 100 := by
  induction samples generalizing history with
  | nil => exact (Nat.mod_eq_of_lt history.i.isLt).symm
  | cons sample samples ih =>
      rw [List.foldl_cons, ih, List.length_cons, History.receive, slot]
      simp only [Fin.ofNat]
      omega

/-- Both arrays after a list of samples. -/
theorem rings_foldl_receive (history : History) (samples : List ℚ) :
    (samples.foldl History.receive history).freqRing =
        samples.foldl Ring.push history.freqRing ∧
      (samples.foldl History.receive history).dfreqRing =
        (limitedRates history.newest samples).foldl Ring.push history.dfreqRing := by
  induction samples generalizing history with
  | nil => exact ⟨rfl, rfl⟩
  | cons sample samples ih =>
      obtain ⟨hfreq, hdfreq⟩ := ih (history.receive sample)
      rw [history.freqRing_receive] at hfreq
      rw [history.newest_receive, history.dfreqRing_receive] at hdfreq
      exact ⟨hfreq, hdfreq⟩

/-- The sample at an offset from the slot that is written next, if it was written. -/
theorem freq_written (history : History) (samples : List ℚ) {offset : ℕ}
    (hoffset : offset < 100) (hwritten : 100 ≤ samples.length + offset) :
    some ((samples.foldl History.receive history).freqRing.window offset) =
      samples[samples.length + offset - 100]? := by
  rw [(rings_foldl_receive history samples).1]
  exact Ring.window_foldl_push_written _ _ hoffset hwritten

/-- The rate at an offset from the slot that is written next. -/
theorem dfreq_written (history : History) (samples : List ℚ) {offset : ℕ}
    (hoffset : offset < 100) (hwritten : 100 ≤ samples.length + offset) :
    some ((samples.foldl History.receive history).dfreqRing.window offset) =
      (limitedRates history.newest samples)[samples.length + offset - 100]? := by
  rw [(rings_foldl_receive history samples).2,
    Ring.window_foldl_push_written _ _ hoffset (by rwa [length_limitedRates]),
    length_limitedRates]

/-! ## Sequences of samples -/

/-- The first `n` samples of a sequence that is counted from 1. -/
def samples (s : ℕ → ℚ) (n : ℕ) : List ℚ := (List.range n).map fun index => s (index + 1)

variable {s : ℕ → ℚ} {n : ℕ}

@[simp]
theorem length_samples : (samples s n).length = n := by simp [samples]

theorem getElem?_samples {k : ℕ} (hpos : 1 ≤ k) (hk : k ≤ n) :
    (samples s n)[k - 1]? = some (s k) := by
  have hlt : k - 1 < n := by omega
  simp [samples, hlt, Nat.sub_add_cancel hpos]

section Slots

variable {history : History} (hstart : history.i = 99)
include hstart

/-- The slot of the sample `k`, counted from the slot that is written next. -/
theorem slot_of_sample {k : ℕ} (holdest : n ≤ k + 99) (hk : k ≤ n) :
    slot 100 (98 + k) =
      slot 100 (((samples s n).foldl History.receive history).i + (k + 99 - n)) := by
  apply Fin.ext
  simp only [slot, Fin.ofNat, i_foldl_receive, hstart, length_samples]
  simp
  omega

theorem freq_of_sample {k : ℕ} (hpos : 1 ≤ k) (holdest : n ≤ k + 99) (hk : k ≤ n) :
    ((samples s n).foldl History.receive history).freq (slot 100 (98 + k)) = s k := by
  have hoffset : k + 99 - n < 100 := by omega
  have hposition : n + (k + 99 - n) - 100 = k - 1 := by omega
  have hwindow := freq_written history (samples s n) hoffset
    (by rw [length_samples]; omega)
  rw [length_samples, hposition, getElem?_samples hpos hk] at hwindow
  rw [slot_of_sample hstart holdest hk]
  exact Option.some.inj hwindow

theorem dfreq_of_sample {k : ℕ} (hpos : 2 ≤ k) (holdest : n ≤ k + 99) (hk : k ≤ n) :
    ((samples s n).foldl History.receive history).dfreq (slot 100 (98 + k)) =
      limitedRate (s k) (s (k - 1)) := by
  have hoffset : k + 99 - n < 100 := by omega
  have hposition : n + (k + 99 - n) - 100 = k - 1 := by omega
  have hnewer : (samples s n)[k - 1]? = some (s k) := getElem?_samples (by omega) hk
  have holder : (history.newest :: samples s n)[k - 1]? = some (s (k - 1)) := by
    obtain ⟨earlier, rfl⟩ : ∃ earlier, k = earlier + 2 := ⟨k - 2, by omega⟩
    exact getElem?_samples (k := earlier + 1) (by omega) (by omega)
  have hwindow := dfreq_written history (samples s n) hoffset
    (by rw [length_samples]; omega)
  rw [length_samples, hposition, getElem?_limitedRates hnewer holder] at hwindow
  rw [slot_of_sample hstart holdest hk]
  exact Option.some.inj hwindow

/-- The slot at an offset of the drawing loop. -/
theorem slot_drawn {k offset : ℕ} (hk : k + 99 = n + offset) :
    slot 100 (((samples s n).foldl History.receive history).i + offset) =
      slot 100 (98 + k) := by
  apply Fin.ext
  simp only [slot, Fin.ofNat, i_foldl_receive, hstart, length_samples]
  simp
  omega

end Slots

/-! ## From a history of zeros -/

/-- The history as `setupStates` leaves it; the arrays of globals are zero. -/
def zeroFilled : History := ⟨fun _ => 0, fun _ => 0, 99⟩

/-- The oldest of the last 100 samples, zero as long as there are fewer. -/
def oldest (s : ℕ → ℚ) (n : ℕ) : ℚ := if n < 100 then 0 else s (n - 99)

/-- The rate of change that was stored with it. -/
def oldestRate (s : ℕ → ℚ) (n : ℕ) : ℚ :=
  if n ≤ 100 then 0 else limitedRate (s (n - 99)) (s (n - 100))

theorem limitedRate_zero (newer : ℚ) : limitedRate newer 0 = 0 := by
  have hrate : rateOfChange newer 0 = 0 := by simp [rateOfChange]
  rw [limitedRate, hrate, if_neg (by decide)]

variable (s n)

/-- The slot that is written next holds the oldest sample. -/
theorem freq_next :
    ((samples s n).foldl History.receive zeroFilled).freq
        ((samples s n).foldl History.receive zeroFilled).i = oldest s n := by
  refine (Ring.window_zero (History.freqRing _)).symm.trans ?_
  rw [oldest]
  split
  case isTrue hfew =>
    rw [(rings_foldl_receive zeroFilled _).1,
      Ring.window_foldl_push_kept _ _ (by rwa [length_samples])]
    rfl
  case isFalse hmany =>
    have hposition : n + 0 - 100 = n - 99 - 1 := by omega
    have hwindow := freq_written zeroFilled (samples s n) (show 0 < 100 by decide)
      (by rw [length_samples]; omega)
    rw [length_samples, hposition, getElem?_samples (by omega) (by omega)] at hwindow
    exact Option.some.inj hwindow

theorem dfreq_next :
    ((samples s n).foldl History.receive zeroFilled).dfreq
        ((samples s n).foldl History.receive zeroFilled).i = oldestRate s n := by
  refine (Ring.window_zero (History.dfreqRing _)).symm.trans ?_
  by_cases hlt : n < 100
  · rw [(rings_foldl_receive zeroFilled _).2, oldestRate, if_pos hlt.le,
      Ring.window_foldl_push_kept _ _ (by rwa [length_limitedRates, length_samples])]
    rfl
  · have hnewer : (samples s n)[n - 100]? = some (s (n - 99)) := by
      obtain ⟨later, rfl⟩ : ∃ later, n = later + 100 := ⟨n - 100, by omega⟩
      exact getElem?_samples (k := later + 1) (by omega) (by omega)
    have hwindow := dfreq_written zeroFilled (samples s n) (show 0 < 100 by decide)
      (by rw [length_samples]; omega)
    rw [length_samples, Nat.add_zero] at hwindow
    rw [oldestRate]
    split
    case isTrue hfew =>
      have holder : (zeroFilled.newest :: samples s n)[n - 100]? = some 0 := by
        rw [Nat.sub_eq_zero_of_le hfew]
        rfl
      rw [getElem?_limitedRates hnewer holder, limitedRate_zero] at hwindow
      exact Option.some.inj hwindow
    case isFalse hmany =>
      have holder :
          (zeroFilled.newest :: samples s n)[n - 100]? = some (s (n - 100)) := by
        obtain ⟨later, rfl⟩ : ∃ later, n = later + 101 := ⟨n - 101, by omega⟩
        exact getElem?_samples (k := later + 1) (by omega) (by omega)
      rw [getElem?_limitedRates hnewer holder] at hwindow
      exact Option.some.inj hwindow

end FrequencyRelay.FrequencyHistory
