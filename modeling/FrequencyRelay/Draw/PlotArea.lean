import Mathlib.Tactic.Linarith
import Mathlib.Tactic.NormNum
import Mathlib.Tactic.Positivity
import FrequencyRelay.Draw.HistorySlots

/-!
# Whether lines stay inside the plots

Only frequencies above the minimum are drawn, but nothing keeps the drawn ones below
the top of the frequency plot: 54 Hz and a half is drawn, 55 Hz is drawn above the
screen.  A rate of change is limited from above only, and a fall of 82 Hz/s or more is
drawn below its plot.  The sample counts for which neither happens can be told apart
exactly.
-/

namespace FrequencyRelay.Draw

open FrequencyRelay.FrequencyHistory
open FrequencyRelay.RingBuffers
open FrequencyRelay.Truncation

/-- The ends of a line are between two columns and between two rows, as the `int`s
that `alt_up_pixel_buffer_dma_draw_line` takes them for. -/
def Line.Within (line : Line) (left right top bottom : ℤ) : Prop :=
  (left ≤ line.x1.toInt ∧ line.x1.toInt ≤ right) ∧
    (left ≤ line.x2.toInt ∧ line.x2.toInt ≤ right) ∧
    (top ≤ line.y1.toInt ∧ line.y1.toInt ≤ bottom) ∧
    (top ≤ line.y2.toInt ∧ line.y2.toInt ≤ bottom)

/-- The lines of the two plots are inside the boxes that are cleared for them. -/
def InsidePlots (lines : Line × Line) : Prop :=
  lines.1.Within 101 639 0 199 ∧ lines.2.Within 101 639 201 299

/-- A drawing pass draws nothing outside the plots. -/
def DrawsInside (history : History) : Prop :=
  ∀ lines ∈ drawnLines history, InsidePlots lines

/-- A sample count of less than 55 Hz, and a fall of less than 82 Hz/s since the
previous one. -/
def Tame (previous count : ℕ) : Prop :=
  291 ≤ count ∧
    256000000 * ((count : ℤ) - previous) < 41 * (count * previous * (count + previous))

instance (previous count : ℕ) : Decidable (Tame previous count) :=
  inferInstanceAs (Decidable (_ ∧ _))

/-- Every two neighbours out of the last 100 of `n` counts that are both above 46 Hz
are tame. -/
def TameWhereDrawn (count : ℕ → ℕ) (n : ℕ) : Prop :=
  ∀ j ≤ 98, count (n - 99 + j) ≤ 347 → count (n - 98 + j) ≤ 347 →
    Tame (count (n - 100 + j)) (count (n - 99 + j)) ∧
      Tame (count (n - 99 + j)) (count (n - 98 + j))

/-! ## One point -/

theorem freqRelay_pos {count : ℕ} (hcount : 0 < count) : 0 < freqRelay count := by
  have : (0 : ℚ) < count := by exact_mod_cast hcount
  rw [freqRelay]
  positivity

theorem freqRelay_le {count : ℕ} (hcount : 0 < count) : freqRelay count ≤ 16000 := by
  have : (1 : ℚ) ≤ count := by exact_mod_cast hcount
  rw [freqRelay, div_le_iff₀ (by linarith)]
  linarith

theorem aboveMinimum_iff {count : ℕ} (hcount : 0 < count) :
    aboveMinimum (freqRelay count) ↔ count ≤ 347 := by
  have hpos : (0 : ℚ) < count := by exact_mod_cast hcount
  have hcast : (45 : ℚ) < (truncate (freqRelay count) : ℚ) ↔
      45 < truncate (freqRelay count) := by exact_mod_cast Iff.rfl
  rw [aboveMinimum, gt_iff_lt, hcast, lt_truncate_iff (by decide), freqRelay,
    le_div_iff₀ hpos]
  constructor
  · intro habove
    have hcounts : ((46 * count : ℕ) : ℚ) ≤ (16000 : ℕ) := by
      push_cast at habove ⊢
      linarith
    have := Nat.cast_le.mp hcounts
    omega
  · intro hle
    have : (count : ℚ) ≤ 347 := by exact_mod_cast hle
    push_cast
    linarith

/-- Coordinates of this size survive the conversion to `unsigned int`. -/
theorem toInt_ofInt_truncate {value : ℚ} (hlower : -2147483648 ≤ value)
    (hupper : value ≤ 2147483647) :
    (BitVec.ofInt 32 (truncate value)).toInt = truncate value := by
  apply BitVec.toInt_ofInt_eq_self (by decide)
  · exact le_truncate_of_le (by exact_mod_cast hlower)
  · have : truncate value ≤ 2147483647 := truncate_le_of_le (by exact_mod_cast hupper)
    exact Int.lt_of_le_sub_one this

theorem freqPlotY_inside_iff {count : ℕ} (hcount : 0 < count) (hdrawn : count ≤ 347) :
    (0 ≤ (freqPlotY (freqRelay count)).toInt ∧
      (freqPlotY (freqRelay count)).toInt ≤ 199) ↔ 291 ≤ count := by
  have hpos : (0 : ℚ) < count := by exact_mod_cast hcount
  have hfreq := freqRelay_pos hcount
  have hfast := freqRelay_le hcount
  have hle : truncate (199 - 20 * (freqRelay count - 45)) ≤ 199 := by
    apply truncate_le_of_le
    have hmin : 46 ≤ freqRelay count := by
      have : (count : ℚ) ≤ 347 := by exact_mod_cast hdrawn
      rw [freqRelay, le_div_iff₀ hpos]
      linarith
    push_cast
    linarith
  rw [freqPlotY, toInt_ofInt_truncate (by linarith) (by linarith),
    and_iff_left hle, truncate_nonneg_iff]
  have hbelow : -1 < 199 - 20 * (freqRelay count - 45) ↔ freqRelay count < 55 := by
    constructor
    · intro hlt
      linarith
    · intro hlt
      linarith
  rw [hbelow, freqRelay, div_lt_iff₀ hpos]
  constructor
  · intro hlt
    have hcounts : ((16000 : ℕ) : ℚ) < ((55 * count : ℕ) : ℚ) := by exact_mod_cast hlt
    have := Nat.cast_lt.mp hcounts
    omega
  · intro hge
    have : (291 : ℚ) ≤ count := by exact_mod_cast hge
    linarith

theorem rateOfChange_ge {newer older : ℚ} (hnewer : 0 < newer) (holder : 0 < older)
    (hnewerLe : newer ≤ 16000) (holderLe : older ≤ 16000) :
    -512000000 ≤ rateOfChange newer older := by
  have hproduct : newer * older ≤ 256000000 := by nlinarith
  rw [rateOfChange, le_div_iff₀ (by linarith)]
  nlinarith [mul_pos hnewer holder]

theorem limitedRate_bounds {newer older : ℚ} (hnewer : 0 < newer) (holder : 0 < older)
    (hnewerLe : newer ≤ 16000) (holderLe : older ≤ 16000) :
    -512000000 ≤ limitedRate newer older ∧ limitedRate newer older ≤ 100 := by
  have hrate := rateOfChange_ge hnewer holder hnewerLe holderLe
  unfold limitedRate
  split
  case isTrue => norm_num
  case isFalse hbelow => exact ⟨hrate, not_lt.mp hbelow⟩

theorem lt_limitedRate_iff {newer older : ℚ} :
    -82 < limitedRate newer older ↔ -82 < rateOfChange newer older := by
  unfold limitedRate
  split
  case isTrue habove =>
    apply iff_of_true
    · norm_num
    · linarith
  case isFalse => exact Iff.rfl

/-- The rate of change in terms of the two sample counts. -/
theorem rateOfChange_freqRelay {count previous : ℕ} (hcount : 0 < count)
    (hprevious : 0 < previous) :
    rateOfChange (freqRelay count) (freqRelay previous) =
      512000000 * ((previous : ℚ) - count) / (count * previous * (count + previous)) := by
  have hcountPos : (0 : ℚ) < count := by exact_mod_cast hcount
  have hpreviousPos : (0 : ℚ) < previous := by exact_mod_cast hprevious
  rw [rateOfChange, freqRelay, freqRelay]
  field_simp
  ring

theorem rocPlotY_inside_iff {count previous : ℕ} (hcount : 0 < count)
    (hprevious : 0 < previous) :
    (201 ≤ (rocPlotY (limitedRate (freqRelay count) (freqRelay previous))).toInt ∧
      (rocPlotY (limitedRate (freqRelay count) (freqRelay previous))).toInt ≤ 299) ↔
        256000000 * ((count : ℤ) - previous) <
          41 * (count * previous * (count + previous)) := by
  have hcountPos : (0 : ℚ) < count := by exact_mod_cast hcount
  have hpreviousPos : (0 : ℚ) < previous := by exact_mod_cast hprevious
  obtain ⟨hlower, hupper⟩ := limitedRate_bounds (freqRelay_pos hcount)
    (freqRelay_pos hprevious) (freqRelay_le hcount) (freqRelay_le hprevious)
  have hge : 201 ≤ truncate
      (259 - 1 / 2 * limitedRate (freqRelay count) (freqRelay previous)) := by
    apply le_truncate_of_le
    push_cast
    linarith
  rw [rocPlotY, toInt_ofInt_truncate (by linarith) (by linarith), and_iff_right hge,
    truncate_le_iff (by decide)]
  have habove : 259 - 1 / 2 * limitedRate (freqRelay count) (freqRelay previous) <
      ((299 : ℤ) : ℚ) + 1 ↔
        -82 < limitedRate (freqRelay count) (freqRelay previous) := by
    push_cast
    constructor
    · intro hlt
      linarith
    · intro hlt
      linarith
  rw [habove, lt_limitedRate_iff, rateOfChange_freqRelay hcount hprevious,
    lt_div_iff₀ (by positivity)]
  constructor
  · intro hlt
    have hcounts : ((256000000 * ((count : ℤ) - previous) : ℤ) : ℚ) <
        ((41 * (count * previous * (count + previous)) : ℤ) : ℚ) := by
      push_cast
      linarith
    exact_mod_cast hcounts
  · intro hlt
    have hcounts : ((256000000 * ((count : ℤ) - previous) : ℤ) : ℚ) <
        ((41 * (count * previous * (count + previous)) : ℤ) : ℚ) := by
      exact_mod_cast hlt
    push_cast at hcounts
    linarith

theorem plotX_inside {j : ℕ} (hj : j ≤ 99) :
    101 ≤ (plotX j).toInt ∧ (plotX j).toInt ≤ 639 := by
  have hval : (plotX j).toInt = 101 + 5 * j := by
    have hnat : (plotX j).toNat = 101 + 5 * j := by
      rw [plotX, BitVec.toNat_ofNat, Nat.mod_eq_of_lt (by omega)]
    rw [BitVec.toInt_eq_toNat_of_lt (by omega), hnat]
    push_cast
    rfl
  omega

/-! ## One pass -/

/-- The lines between two neighbours, the first of which comes after `previous`. -/
def linesBetween (j : ℕ) (previous first second : ℚ) : Line × Line :=
  (⟨plotX j, freqPlotY first, plotX (j + 1), freqPlotY second⟩,
    ⟨plotX j, rocPlotY (limitedRate first previous),
      plotX (j + 1), rocPlotY (limitedRate second first)⟩)

section Pass

variable {s : ℕ → ℚ} {n : ℕ} {batches : List (List ℚ)}
variable (hbatches : batches.flatten = samples s n) (hn : 101 ≤ n)
include hbatches hn

/-- What the drawing loop reads, in terms of the samples received so far. -/
theorem drawn_values (freq dfreq : Fin 100 → ℚ) {j : ℕ} (hj : j ≤ 98) :
    let history := batches.foldl drainQueue (initial freq dfreq)
    history.freq (slot 100 (history.i + j)) = s (n - 99 + j) ∧
      history.freq (slot 100 (history.i + j + 1)) = s (n - 98 + j) ∧
      history.dfreq (slot 100 (history.i + j)) =
        limitedRate (s (n - 99 + j)) (s (n - 100 + j)) ∧
      history.dfreq (slot 100 (history.i + j + 1)) =
        limitedRate (s (n - 98 + j)) (s (n - 99 + j)) := by
  intro history
  have hhistory : history = (samples s n).foldl History.receive (initial freq dfreq) := by
    rw [← hbatches, ← foldl_drainQueue]
  have hfreq : ∀ offset k, k + 99 = n + offset → k ≤ n →
      history.freq (slot 100 (history.i + offset)) = s k := by
    intro offset k hoffset hk
    rw [hhistory, slot_drawn rfl hoffset]
    exact freq_of_sample rfl (by omega) (by omega) hk
  have hdfreq : ∀ offset k, k + 1 + 99 = n + offset → k + 1 ≤ n →
      history.dfreq (slot 100 (history.i + offset)) = limitedRate (s (k + 1)) (s k) := by
    intro offset k hoffset hk
    rw [hhistory, slot_drawn rfl hoffset]
    exact dfreq_of_sample rfl (by omega) (by omega) hk
  have hprevious : n - 99 + j = n - 100 + j + 1 := by omega
  have hnext : n - 98 + j = n - 99 + j + 1 := by omega
  refine ⟨hfreq j _ (by omega) (by omega), hfreq (j + 1) _ (by omega) (by omega), ?_, ?_⟩
  · rw [hprevious]
    exact hdfreq j _ (by omega) (by omega)
  · rw [hnext]
    exact hdfreq (j + 1) _ (by omega) (by omega)

theorem mem_drawnLines_iff (freq dfreq : Fin 100 → ℚ) (lines : Line × Line) :
    lines ∈ drawnLines (batches.foldl drainQueue (initial freq dfreq)) ↔
      ∃ j ≤ 98, (aboveMinimum (s (n - 99 + j)) ∧ aboveMinimum (s (n - 98 + j))) ∧
        linesBetween j (s (n - 100 + j)) (s (n - 99 + j)) (s (n - 98 + j)) = lines := by
  rw [drawnLines, List.mem_filterMap]
  apply exists_congr
  intro j
  rw [List.mem_range, Nat.lt_succ_iff]
  apply and_congr_right
  intro hj
  obtain ⟨hfirst, hsecond, hfirstRate, hsecondRate⟩ :=
    drawn_values hbatches hn freq dfreq hj
  simp only [hfirst, hsecond, hfirstRate, hsecondRate]
  rw [Option.ite_none_right_eq_some, Option.some.injEq]
  rfl

end Pass

/-- The lines between two neighbours above the minimum are inside if and only if both
are tame. -/
theorem linesBetween_inside_iff {j previous first second : ℕ} (hj : j ≤ 98)
    (hprevious : 0 < previous) (hfirst : 0 < first) (hsecond : 0 < second)
    (hfirstDrawn : first ≤ 347) (hsecondDrawn : second ≤ 347) :
    InsidePlots
        (linesBetween j (freqRelay previous) (freqRelay first) (freqRelay second)) ↔
      Tame previous first ∧ Tame first second := by
  have hleft := plotX_inside (j := j) (by omega)
  have hright := plotX_inside (j := j + 1) (by omega)
  simp only [InsidePlots, linesBetween, Line.Within, Tame, hleft, hright, true_and,
    and_true, freqPlotY_inside_iff hfirst hfirstDrawn,
    freqPlotY_inside_iff hsecond hsecondDrawn, rocPlotY_inside_iff hfirst hprevious,
    rocPlotY_inside_iff hsecond hfirst]
  tauto

/-- A drawing pass stays inside the plots if and only if all neighbours it draws are
tame. -/
theorem drawsInside_iff {count : ℕ → ℕ} {n : ℕ} {batches : List (List ℚ)}
    (hpos : ∀ k, 1 ≤ k → k ≤ n → 0 < count k)
    (hbatches : batches.flatten = samples (fun k => freqRelay (count k)) n)
    (hn : 101 ≤ n) (freq dfreq : Fin 100 → ℚ) :
    DrawsInside (batches.foldl drainQueue (initial freq dfreq)) ↔
      TameWhereDrawn count n := by
  have hcounts : ∀ j ≤ 98,
      0 < count (n - 100 + j) ∧ 0 < count (n - 99 + j) ∧ 0 < count (n - 98 + j) :=
    fun j hj => ⟨hpos _ (by omega) (by omega), hpos _ (by omega) (by omega),
      hpos _ (by omega) (by omega)⟩
  have hmem := mem_drawnLines_iff hbatches hn freq dfreq
  constructor
  · intro hinside j hj hfirst hsecond
    obtain ⟨hzero, hone, htwo⟩ := hcounts j hj
    apply (linesBetween_inside_iff hj hzero hone htwo hfirst hsecond).mp
    apply hinside
    exact (hmem _).mpr ⟨j, hj,
      ⟨(aboveMinimum_iff hone).mpr hfirst, (aboveMinimum_iff htwo).mpr hsecond⟩, rfl⟩
  · intro htame lines hlines
    obtain ⟨j, hj, ⟨hfirst, hsecond⟩, rfl⟩ := (hmem lines).mp hlines
    obtain ⟨hzero, hone, htwo⟩ := hcounts j hj
    rw [aboveMinimum_iff hone] at hfirst
    rw [aboveMinimum_iff htwo] at hsecond
    exact (linesBetween_inside_iff hj hzero hone htwo hfirst hsecond).mpr
      (htame j hj hfirst hsecond)

/-- A grid at 50 Hz. -/
theorem drawsInside_steady :
    DrawsInside ([samples (fun _ => freqRelay 320) 101].foldl drainQueue
      (initial (fun _ => 0) fun _ => 0)) :=
  (drawsInside_iff (fun _ _ _ => by decide) (List.append_nil _) (le_refl 101) _ _).mpr
    fun _ _ _ _ => ⟨by decide, by decide⟩

/-- A grid at 80 Hz is drawn above the screen. -/
theorem draws_above_screen :
    ¬ ∀ (count : ℕ → ℕ) (n : ℕ) (batches : List (List ℚ)) (freq dfreq : Fin 100 → ℚ),
      (∀ k, 1 ≤ k → k ≤ n → 0 < count k) →
      batches.flatten = samples (fun k => freqRelay (count k)) n → 101 ≤ n →
        DrawsInside (batches.foldl drainQueue (initial freq dfreq)) := by
  intro hclaim
  let batches := [samples (fun _ => freqRelay 200) 101]
  have hbatches : batches.flatten = samples (fun _ => freqRelay 200) 101 :=
    List.append_nil _
  have hinside := hclaim (fun _ => 200) 101 batches (fun _ => 0) (fun _ => 0)
    (fun _ _ _ => by decide) hbatches (le_refl 101)
  have habove : aboveMinimum (freqRelay 200) :=
    (aboveMinimum_iff (by decide)).mpr (by decide)
  have hmem := mem_drawnLines_iff hbatches (le_refl 101) (fun _ => 0) (fun _ => 0)
  have hlines := (hmem _).mpr ⟨0, by decide, ⟨habove, habove⟩, rfl⟩
  obtain ⟨htame, -⟩ := (linesBetween_inside_iff (by decide) (by decide) (by decide)
    (by decide) (by decide) (by decide)).mp (hinside _ hlines)
  exact absurd htame.1 (by decide)

end FrequencyRelay.Draw
