import FrequencyRelay.HelloWorld.Verdict

/-!
# The measurement on the display

`vgaRefreshTask` looks for the newest measurement one slot before the one that is
written next.  It computes that slot with the `%` of C, which truncates toward zero, so
that a step back from slot 0 leaves the arrays instead of going around their end.  Its
passes are followed here through every run of the relay.
-/

namespace FrequencyRelay.HelloWorld.Display

open FrequencyRelay.FrequencyHistory
open FrequencyRelay.RingBuffers
open FrequencyRelay.Runs

/-- An element of an array, where there is one. -/
def element (array : Fin 100 → ℚ) (index : ℤ) : Option ℚ :=
  if 0 ≤ index ∧ index ≤ 99 then some (array (slot 100 index.toNat)) else none

/-- The arguments of `alt_up_char_buffer_string`, before the coordinates become
`unsigned int`. -/
structure CharBufferString where
  text : String
  x : ℚ
  y : ℚ

/-- The texts of one pass.  The measurements are where a column belongs. -/
def statusTexts (threshold frequency rate : ℚ) : List CharBufferString :=
  [⟨"Lower threshold:", 5, 40⟩, ⟨"43.7 Hz", frequency, 40⟩,
    ⟨"RoC threshold:", threshold, 42⟩, ⟨"0.6 Hz/sec", rate, 42⟩,
    ⟨"System status", 50, 40⟩, ⟨"Stable", 54, 42⟩]

/-- `(frequencyHistoryState.i - 1) % 100`, of type `int`; `Int.tmod` is the remainder of
C. -/
def currentIndex (history : History) : ℤ := ((history.i : ℤ) - 1).tmod 100

/-- A pass of `vgaRefreshTask`: its index, what it reads there from `freqHistory` and
`freqRocHistory`, and its texts. -/
structure Refresh where
  currentIndex : ℤ
  frequency : Option ℚ
  rate : Option ℚ
  texts : Option (List CharBufferString)

/-- One pass of `vgaRefreshTask`, up to the drawing of the graph.  A read outside the
arrays is undefined, and so are the texts after it. -/
def vgaRefreshTask (threshold : ℚ) (history : History) : Refresh :=
  let frequency := element history.freq (currentIndex history)
  let rate := element history.dfreq (currentIndex history)
  { currentIndex := currentIndex history
    frequency
    rate
    texts := do return statusTexts threshold (← frequency) (← rate) }

/-- The relay with its history, and the last pass of `vgaRefreshTask`. -/
structure Displayed where
  measured : Measured
  refresh : Refresh

/-- Some other task makes a step, or `vgaRefreshTask` makes a pass.  The pass is within
`frequencyHistoryState.mutex`, and so between two samples. -/
inductive Turn
  | relay (event : Event)
  | vgaRefresh

def takeTurn (config : Config) (threshold : ℚ) (state : Displayed) :
    Turn → Option Displayed
  | .relay event =>
      (judge config threshold state.measured event).map fun measured =>
        { state with measured }
  | .vgaRefresh =>
      some { state with refresh := vgaRefreshTask threshold state.measured.history }

def Turn.event : Turn → Option Event
  | .relay event => some event
  | .vgaRefresh => none

/-- A run without the passes of `vgaRefreshTask`. -/
def relayRun (trace : Trace Displayed Turn) : Trace Measured Event :=
  observed Displayed.measured (fun _ turn => turn.event) trace

/-- The index is inside the arrays, and at it are the frequency and the rate of change
that were stored for the last of the samples. -/
structure ReadsNewest (start : History) (samples : List ℚ) (refresh : Refresh) :
    Prop where
  inside : 0 ≤ refresh.currentIndex ∧ refresh.currentIndex ≤ 99
  frequency : refresh.frequency = samples.getLast?
  rate : refresh.rate = (limitedRates start.newest samples).getLast?

variable {config : Config} {threshold : ℚ}

/-! ## One pass -/

section Pass

variable (history : History)

/-- The remainder never does anything: what it is taken of is between -1 and 98. -/
theorem currentIndex_eq : currentIndex history = (history.i : ℤ) - 1 := by
  unfold currentIndex
  have hlt := history.i.isLt
  by_cases hzero : (history.i : ℕ) = 0
  · rw [hzero]
    rfl
  · exact Int.tmod_eq_of_lt (by omega) (by omega)

theorem inside_iff :
    0 ≤ currentIndex history ∧ currentIndex history ≤ 99 ↔ (history.i : ℕ) ≠ 0 := by
  have hlt := history.i.isLt
  rw [currentIndex_eq]
  omega

/-- The pass reads the slot before the one that is written next, if there is one. -/
theorem element_currentIndex (array : Fin 100 → ℚ) :
    element array (currentIndex history) =
      if (history.i : ℕ) = 0 then none
      else some ((⟨array, history.i⟩ : Ring 100 ℚ).window 99) := by
  by_cases hzero : (history.i : ℕ) = 0
  · rw [element, if_neg (mt (inside_iff history).mp (not_not.mpr hzero)), if_pos hzero]
  · have hslot : slot 100 (currentIndex history).toNat = slot 100 (history.i + 99) := by
      apply Fin.ext
      rw [currentIndex_eq]
      simp only [slot, Fin.ofNat]
      omega
    rw [element, if_pos ((inside_iff history).mpr hzero), if_neg hzero, hslot]
    rfl

theorem frequency_eq :
    (vgaRefreshTask threshold history).frequency =
      if (history.i : ℕ) = 0 then none else some (history.freqRing.window 99) :=
  element_currentIndex history history.freq

theorem rate_eq :
    (vgaRefreshTask threshold history).rate =
      if (history.i : ℕ) = 0 then none else some (history.dfreqRing.window 99) :=
  element_currentIndex history history.dfreq

theorem texts_eq :
    (vgaRefreshTask threshold history).texts = do
      return statusTexts threshold (← (vgaRefreshTask threshold history).frequency)
        (← (vgaRefreshTask threshold history).rate) := rfl

end Pass

/-! ## After a list of samples -/

section Samples

variable {start : History} {samples : List ℚ}

theorem next_slot_zero_iff (hstart : start.i = 99) :
    ((samples.foldl History.receive start).i : ℕ) = 0 ↔ samples.length % 100 = 1 := by
  have hi : (start.i : ℕ) = 99 := congrArg Fin.val hstart
  rw [i_foldl_receive, hi]
  omega

/-- Wherever the rings stand, their last slots hold the newest measurement. -/
theorem newest_measurement (start : History) (hsamples : samples ≠ []) :
    some ((samples.foldl History.receive start).freqRing.window 99) =
        samples.getLast? ∧
      some ((samples.foldl History.receive start).dfreqRing.window 99) =
        (limitedRates start.newest samples).getLast? := by
  obtain ⟨hfreq, hdfreq⟩ := rings_foldl_receive start samples
  have hrates : limitedRates start.newest samples ≠ [] := by
    rw [← List.length_pos_iff, length_limitedRates]
    exact List.length_pos_iff.mpr hsamples
  rw [hfreq, hdfreq]
  exact ⟨Ring.window_last_foldl_push _ hsamples rfl,
    Ring.window_last_foldl_push _ hrates rfl⟩

/-- What a pass after the samples reads. -/
theorem reads_after (threshold : ℚ) (hstart : start.i = 99) (hsamples : samples ≠ []) :
    let refresh := vgaRefreshTask threshold (samples.foldl History.receive start)
    refresh.frequency =
        (if samples.length % 100 = 1 then none else samples.getLast?) ∧
      refresh.rate =
        if samples.length % 100 = 1 then none
        else (limitedRates start.newest samples).getLast? := by
  intro refresh
  obtain ⟨hfrequency, hrate⟩ := newest_measurement start hsamples
  constructor
  · rw [frequency_eq, hfrequency]
    simp only [next_slot_zero_iff hstart]
  · rw [rate_eq, hrate]
    simp only [next_slot_zero_iff hstart]

theorem readsNewest_after_iff (hstart : start.i = 99) (hsamples : samples ≠ []) :
    ReadsNewest start samples
        (vgaRefreshTask threshold (samples.foldl History.receive start)) ↔
      samples.length % 100 ≠ 1 := by
  obtain ⟨hfrequency, hrate⟩ := reads_after threshold hstart hsamples
  constructor
  · intro hreads hlast
    exact (inside_iff _).mp hreads.inside ((next_slot_zero_iff hstart).mpr hlast)
  · intro hlast
    constructor
    · exact (inside_iff _).mpr (mt (next_slot_zero_iff hstart).mp hlast)
    · rw [hfrequency, if_neg hlast]
    · rw [hrate, if_neg hlast]

end Samples

/-! ## Every run -/

variable {start finish : Displayed} {trace : Trace Displayed Turn}

/-- A pass leaves the relay and its history as they are. -/
theorem takeTurn_simulates {source target : Displayed} {turn : Turn}
    (hstep : takeTurn config threshold source turn = some target) :
    Simulates (judge config threshold) Displayed.measured turn.event source target := by
  cases turn with
  | relay event =>
      obtain ⟨measured, hjudge, rfl⟩ := Option.map_eq_some_iff.mp hstep
      exact hjudge
  | vgaRefresh =>
      obtain rfl := Option.some.inj hstep
      rfl

/-- The history after a run is that of its samples, however they are spread over the
passes. -/
theorem history_of_run (hpath : Path (takeTurn config threshold) start trace finish) :
    finish.measured.history =
      (received (relayRun trace)).foldl History.receive start.measured.history := by
  have hrelay := hpath.observed Displayed.measured (fun _ turn => turn.event)
    fun _ _ _ hstep => takeTurn_simulates hstep
  exact (judged_run hrelay).1

variable {before after : Trace Displayed Turn} {pass : Transition Displayed Turn}

/-- A pass is one over the history of the samples before it. -/
theorem refresh_of_run
    (hpath : Path (takeTurn config threshold) start (before ++ pass :: after) finish)
    (hpass : pass.action = .vgaRefresh) :
    pass.target.refresh =
      vgaRefreshTask threshold
        ((received (relayRun before)).foldl History.receive start.measured.history) := by
  obtain ⟨hbefore, hstep, -⟩ := path_append_cons_iff.mp hpath
  rw [hpass] at hstep
  rw [← history_of_run hbefore, ← Option.some.inj hstep]

/-- What a pass after at least one sample writes. -/
theorem texts_of_run (hstart : start.measured.history.i = 99)
    (hpath : Path (takeTurn config threshold) start (before ++ pass :: after) finish)
    (hpass : pass.action = .vgaRefresh) (hsamples : received (relayRun before) ≠ []) :
    let samples := received (relayRun before)
    pass.target.refresh.texts =
      if samples.length % 100 = 1 then none
      else do
        return statusTexts threshold (← samples.getLast?)
          (← (limitedRates start.measured.history.newest samples).getLast?) := by
  intro samples
  obtain ⟨hfrequency, hrate⟩ := reads_after threshold hstart hsamples
  rw [refresh_of_run hpath hpass, texts_eq, hfrequency, hrate]
  split
  case isTrue => rfl
  case isFalse => rfl

/-- A pass after at least one sample reads the newest measurement exactly when the
number of samples is not one more than a multiple of the length of the arrays. -/
theorem reads_newest_iff (hstart : start.measured.history.i = 99)
    (hpath : Path (takeTurn config threshold) start (before ++ pass :: after) finish)
    (hpass : pass.action = .vgaRefresh) (hsamples : received (relayRun before) ≠ []) :
    ReadsNewest start.measured.history (received (relayRun before))
        pass.target.refresh ↔
      (received (relayRun before)).length % 100 ≠ 1 := by
  rw [refresh_of_run hpath hpass]
  exact readsNewest_after_iff hstart hsamples

/-- Before the first pass. -/
def notRefreshed : Displayed := ⟨⟨afterSetup, zeroFilled⟩, ⟨0, none, none, none⟩⟩

/-- A pass after each of two samples; the second one reads the second sample. -/
theorem reads_newest_second :
    let run := (follow (takeTurn ⟨5, 1⟩ 0) notRefreshed
      [.relay (.sample 50), .vgaRefresh, .relay (.sample 49), .vgaRefresh]).get rfl
    ReadsNewest zeroFilled [50, 49] run.2.refresh := by
  intro run
  have hpath : Path (takeTurn ⟨5, 1⟩ 0) notRefreshed run.1 run.2 :=
    path_of_schedule rfl
  let pass : Fin run.1.length := ⟨3, by decide⟩
  rw [split_at_event pass] at hpath
  exact (reads_newest_iff rfl hpath rfl (by decide)).mpr (by decide)

/-- The pass after the first sample reads what is before the arrays. -/
theorem first_sample_not_read :
    ¬ ∀ (config : Config) (threshold : ℚ) (start finish : Displayed)
      (before after : Trace Displayed Turn) (pass : Transition Displayed Turn),
      start.measured.history = zeroFilled →
        Path (takeTurn config threshold) start (before ++ pass :: after) finish →
        pass.action = .vgaRefresh → received (relayRun before) ≠ [] →
          ReadsNewest start.measured.history (received (relayRun before))
            pass.target.refresh := by
  intro hall
  let run := (follow (takeTurn ⟨5, 1⟩ 0) notRefreshed
    [.relay (.sample 50), .vgaRefresh]).get rfl
  have hpath : Path (takeTurn ⟨5, 1⟩ 0) notRefreshed run.1 run.2 :=
    path_of_schedule rfl
  let pass : Fin run.1.length := ⟨1, by decide⟩
  rw [split_at_event pass] at hpath
  have hreads := hall _ _ _ _ _ _ _ rfl hpath rfl (by decide)
  exact absurd hreads.inside.1 (by decide)

end FrequencyRelay.HelloWorld.Display
