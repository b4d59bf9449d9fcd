import Mathlib.Data.List.Chain
import FrequencyRelay.Relay.FrequencyHistory
import FrequencyRelay.Relay.LoadScan

/-!
# Division by zero on the way of a measurement

`frequencyDetectorISR` divides by the sample count of the hardware, and
`frequencyAnalyserTask` by the sum of two neighbouring samples.  A count of zero stops
the first.  A count above 16000, a signal below 1 Hz, gives the sample 0, and two such
samples in a row stop the second; so does one at the start, because the history starts
with zeros.
-/

namespace FrequencyRelay.HelloWorld

open FrequencyRelay.FrequencyHistory
open FrequencyRelay.LoadScan

/-- `SAMPLING_FREQUENCY / numberOfSamples`, an unsigned division, unless it divides by
zero. -/
def signalFrequency (numberOfSamples : Word) : Option Word :=
  if numberOfSamples = 0 then none else some (16000 / numberOfSamples)

/-- One measurement, from the interrupt to the history, unless one of its two divisions
is by zero. -/
def measure (history : History) (numberOfSamples : Word) : Option History := do
  let frequency ← signalFrequency numberOfSamples
  let sample : ℚ := frequency.toInt
  if history.divisor sample = 0 then none else some (history.receive sample)

/-- No two measurements in a row are slower than 1 Hz, and the first is not. -/
def NeverSlowTwice (counts : List Word) : Prop :=
  (∀ first ∈ counts.head?, first ≤ 16000) ∧
    counts.IsChain fun earlier later => earlier ≤ 16000 ∨ later ≤ 16000

/-! ## One measurement -/

variable {history : History} {numberOfSamples : Word}

theorem toNat_quotient :
    (16000 / numberOfSamples).toNat = 16000 / numberOfSamples.toNat :=
  BitVec.toNat_udiv

theorem toInt_quotient :
    (16000 / numberOfSamples).toInt = (16000 / numberOfSamples).toNat := by
  apply BitVec.toInt_eq_toNat_of_lt
  have hle : (16000 / numberOfSamples).toNat ≤ 16000 := by
    rw [toNat_quotient]
    exact Nat.div_le_self _ _
  omega

/-- The quotient is zero exactly for a signal below 1 Hz. -/
theorem toNat_quotient_eq_zero_iff (hcount : numberOfSamples ≠ 0) :
    (16000 / numberOfSamples).toNat = 0 ↔ ¬ numberOfSamples ≤ 16000 := by
  have hpos : numberOfSamples.toNat ≠ 0 := fun hzero =>
    hcount (BitVec.eq_of_toNat_eq hzero)
  have hle : numberOfSamples ≤ 16000 ↔ numberOfSamples.toNat ≤ 16000 := Iff.rfl
  rw [toNat_quotient, Nat.div_eq_zero_iff, or_iff_right hpos, hle, not_le]

/-- A measurement succeeds unless the count is zero, or this sample and the one before
are both zero. -/
theorem measure_eq {before : ℕ} (hnewest : history.newest = before)
    (hcount : numberOfSamples ≠ 0) :
    measure history numberOfSamples =
      if ¬ numberOfSamples ≤ 16000 ∧ before = 0 then none
      else some (history.receive ((16000 / numberOfSamples).toNat : ℕ)) := by
  have hdivisor : history.divisor ((16000 / numberOfSamples).toNat : ℕ) = 0 ↔
      ¬ numberOfSamples ≤ 16000 ∧ before = 0 := by
    rw [History.divisor_eq, hnewest, ← toNat_quotient_eq_zero_iff hcount]
    norm_cast
    exact Nat.add_eq_zero_iff
  simp only [measure, signalFrequency, if_neg hcount, Option.bind_eq_bind,
    Option.bind_some, toInt_quotient, Int.cast_natCast, hdivisor]

theorem measure_zero (history : History) : measure history 0 = none := rfl

/-! ## Every sequence of counts -/

/-- From a history whose newest sample is `before`. -/
theorem foldlM_measure_isSome_iff {before : ℕ} {counts : List Word}
    (hnewest : history.newest = before) :
    (counts.foldlM measure history).isSome ↔
      (∀ count ∈ counts, count ≠ 0) ∧
        (before = 0 → ∀ first ∈ counts.head?, first ≤ 16000) ∧
          counts.IsChain fun earlier later => earlier ≤ 16000 ∨ later ≤ 16000 := by
  induction counts generalizing history before with
  | nil => simp
  | cons count counts ih =>
      rw [List.foldlM_cons]
      by_cases hcount : count = 0
      · rw [hcount, measure_zero]
        simp
      · have hslow := toNat_quotient_eq_zero_iff hcount
        rw [measure_eq hnewest hcount]
        by_cases hstop : ¬ count ≤ 16000 ∧ before = 0
        · rw [if_pos hstop]
          constructor
          · intro hsome
            cases hsome
          · intro hgood
            exact absurd (hgood.2.1 hstop.2 count rfl) hstop.1
        · have hfirst : before = 0 → ∀ first ∈ (count :: counts).head?, first ≤ 16000 := by
            intro hzero first hmem
            obtain rfl := Option.some.inj hmem
            exact by_contra fun hslow => hstop ⟨hslow, hzero⟩
          have hnext : (¬ count ≤ 16000 → ∀ first ∈ counts.head?, first ≤ 16000) ↔
              ∀ first ∈ counts.head?, count ≤ 16000 ∨ first ≤ 16000 := by
            constructor
            · intro hall first hmem
              exact or_iff_not_imp_left.mpr fun hslow => hall hslow first hmem
            · intro hall hslow first hmem
              exact (hall first hmem).resolve_left hslow
          rw [if_neg hstop, Option.bind_eq_bind, Option.bind_some,
            ih (History.newest_receive _ _), hslow, hnext, List.isChain_cons,
            List.forall_mem_cons, and_iff_right hcount, and_iff_right hfirst]

/-- `foldlM_measure_isSome_iff` for the history that the tasks start with. -/
theorem divides_iff (counts : List Word) :
    (counts.foldlM measure zeroFilled).isSome ↔
      (∀ count ∈ counts, count ≠ 0) ∧ NeverSlowTwice counts := by
  have hnewest : zeroFilled.newest = (0 : ℕ) := rfl
  rw [foldlM_measure_isSome_iff hnewest, NeverSlowTwice]
  simp

/-- A dead signal: the count is zero. -/
theorem divides_by_zero_count :
    ¬ ∀ counts : List Word, (counts.foldlM measure zeroFilled).isSome := by
  intro hall
  exact absurd (hall [0]) (by decide)

end FrequencyRelay.HelloWorld
