import Mathlib.Data.Rat.Floor
import FrequencyRelay.Core.Truncation
import FrequencyRelay.Relay.FrequencyHistory

/-!
# The drawing task of `main.c`

`freq_relay` sends a frequency for every sample count that the hardware reports.
`PRVGADraw_Task` drains the queue into its history and then draws the history, oldest
sample first, as one line of frequencies and one line of rates of change.
-/

namespace FrequencyRelay.Draw

open FrequencyRelay.FrequencyHistory
open FrequencyRelay.RingBuffers
open FrequencyRelay.Truncation

/-- `SAMPLING_FREQ/(double)IORD(FREQUENCY_ANALYSER_BASE, 0)`, for a count that is
positive as an `int`. -/
def freqRelay (count : ℕ) : ℚ := 16000 / count

/-- `Line`; the coordinates are of type `unsigned int`. -/
structure Line where
  x1 : BitVec 32
  y1 : BitVec 32
  x2 : BitVec 32
  y2 : BitVec 32
  deriving DecidableEq

/-- `FREQPLT_ORI_X + FREQPLT_GRID_SIZE_X * j`, and the same with the constants of
the other plot. -/
def plotX (j : ℕ) : BitVec 32 := BitVec.ofNat 32 (101 + 5 * j)

/-- `(int)(FREQPLT_ORI_Y - FREQPLT_FREQ_RES * (freq - MIN_FREQ))`. -/
def freqPlotY (freq : ℚ) : BitVec 32 :=
  BitVec.ofInt 32 (truncate (199 - 20 * (freq - 45)))

/-- `(int)(ROCPLT_ORI_Y - ROCPLT_ROC_RES * dfreq)`. -/
def rocPlotY (dfreq : ℚ) : BitVec 32 :=
  BitVec.ofInt 32 (truncate (259 - 1 / 2 * dfreq))

/-- `(int)(freq) > MIN_FREQ`. -/
def aboveMinimum (freq : ℚ) : Prop := (truncate freq : ℚ) > 45

instance : DecidablePred aboveMinimum :=
  fun _ => inferInstanceAs (Decidable (_ > _))

/-- What the task draws: a line of the frequency plot and one of the rate-of-change
plot for every two neighbours that are above the minimum. -/
def drawnLines (history : History) : List (Line × Line) :=
  (List.range 99).filterMap fun j =>
    let first := slot 100 (history.i + j)
    let second := slot 100 (history.i + j + 1)
    if aboveMinimum (history.freq first) ∧ aboveMinimum (history.freq second) then
      some
        (⟨plotX j, freqPlotY (history.freq first),
          plotX (j + 1), freqPlotY (history.freq second)⟩,
        ⟨plotX j, rocPlotY (history.dfreq first),
          plotX (j + 1), rocPlotY (history.dfreq second)⟩)
    else none

/-- The state before the first pass; the arrays are not initialised. -/
def initial (freq dfreq : Fin 100 → ℚ) : History := ⟨freq, dfreq, 99⟩

/-- One pass of the outer loop over the samples that are in the queue.  Drawing does
not change the history. -/
def drainQueue (history : History) (batch : List ℚ) : History :=
  batch.foldl History.receive history

/-- How samples are spread over the passes makes no difference to the history. -/
theorem foldl_drainQueue (history : History) (batches : List (List ℚ)) :
    batches.foldl drainQueue history = batches.flatten.foldl History.receive history := by
  rw [List.foldl_flatten]
  rfl

end FrequencyRelay.Draw
