import Mathlib.Data.Rat.Floor
import Mathlib.Tactic.NormNum
import FrequencyRelay.Core.Runs
import FrequencyRelay.Core.Truncation
import FrequencyRelay.HelloWorld.Model
import FrequencyRelay.Relay.FrequencyHistory

/-!
# The verdict on stability

`frequencyAnalyserTask` advances `i` before it looks at the history, so its verdict is
about the oldest sample that is kept and not about the one it has just received.  It
also calls a grid stable whose frequency is above the threshold or whose rate of change
is.  The task is followed here through every run of the relay, and so through every
division of the samples into drain loops.
-/

namespace FrequencyRelay.HelloWorld

open FrequencyRelay.FrequencyHistory
open FrequencyRelay.Runs
open FrequencyRelay.Truncation

/-- The relay, and `frequencyHistoryState`. -/
structure Measured where
  relay : State
  history : History

/-- The test of `frequencyAnalyserTask`, when `i` has been advanced.  `abs` takes an
`int`; the rates of frequencies up to `SAMPLING_FREQUENCY` are within its range. -/
def stabilityVerdict (threshold : ℚ) (history : History) : Bool :=
  history.freq history.i > 5 || |(truncate (history.dfreq history.i) : ℚ)| > threshold

/-- `frequencyAnalyserTask` takes a sample from the queue, or some task makes a step
that takes none. -/
inductive Event
  | sample (frequency : ℚ)
  | other (action : Action)

def Action.isFrequencyAnalyser : Action → Bool
  | .frequencyAnalyser _ => true
  | _ => false

/-- The relay with the verdicts that the history gives. -/
def judge (config : Config) (threshold : ℚ) (state : Measured) : Event → Option Measured
  | .sample frequency =>
      if state.relay.frequencyAnalyser = .betweenSamples then
        let history := state.history.receive frequency
        let isStable := stabilityVerdict threshold history
        some ⟨frequencyAnalyserTask isStable state.relay, history⟩
      else none
  | .other action =>
      if state.relay.frequencyAnalyser = .betweenSamples ∧ action.isFrequencyAnalyser then
        none
      else
        (step config state.relay action).map fun relay => ⟨relay, state.history⟩

/-- The sample that an event takes. -/
def Event.received : Event → List ℚ
  | .sample frequency => [frequency]
  | .other _ => []

/-- The samples of a run, in the order in which they were taken. -/
def received (trace : Trace Measured Event) : List ℚ :=
  trace.flatMap fun transition => transition.action.received

/-- Unstable below the frequency threshold or at a rate above its own threshold, stable
above the one and below the other. -/
def FollowsNewest (threshold newest rate : ℚ) (isStable : Bool) : Prop :=
  (newest < 5 ∨ |rate| > threshold → isStable = false) ∧
    (newest > 5 ∧ |rate| < threshold → isStable = true)

/-- The oldest of the last 100 samples has neither a frequency nor a whole rate above
the thresholds where the newest sample is unstable, and one of them where it is
stable. -/
def OldestAgrees (threshold : ℚ) (s : ℕ → ℚ) (n : ℕ) : Prop :=
  (s n < 5 ∨ |limitedRate (s n) (s (n - 1))| > threshold →
      oldest s n ≤ 5 ∧ |(truncate (oldestRate s n) : ℚ)| ≤ threshold) ∧
    (s n > 5 ∧ |limitedRate (s n) (s (n - 1))| < threshold →
      oldest s n > 5 ∨ |(truncate (oldestRate s n) : ℚ)| > threshold)

variable {config : Config} {threshold : ℚ}

/-! ## One step -/

/-- Only the verdict on a sample writes `isStable`. -/
theorem step_isStable {state next : State} {action : Action}
    (hstep : step config state action = some next)
    (hother : ¬ (state.frequencyAnalyser = .betweenSamples ∧ action.isFrequencyAnalyser)) :
    next.isStable = state.isStable := by
  cases step_effect hstep with
  | judged isStable hpc => exact absurd ⟨hpc, rfl⟩ hother
  | _ => rfl

/-- A step that takes a sample receives it and judges the history; any other step
changes neither the history nor the verdict. -/
theorem judge_cases {state next : Measured} {event : Event}
    (hstep : judge config threshold state event = some next) :
    next.history = event.received.foldl History.receive state.history ∧
      next.relay.isStable =
        if event.received = [] then state.relay.isStable
        else stabilityVerdict threshold next.history := by
  cases event with
  | sample frequency =>
      rw [judge] at hstep
      split at hstep
      case isTrue hpc =>
        obtain rfl := Option.some.inj hstep
        constructor
        · rfl
        · rw [Event.received, if_neg (List.cons_ne_nil _ _), frequencyAnalyserTask, hpc]
      case isFalse => cases hstep
  | other action =>
      rw [judge] at hstep
      split at hstep
      case isTrue => cases hstep
      case isFalse hother =>
        obtain ⟨relay, hrelay, rfl⟩ := Option.map_eq_some_iff.mp hstep
        constructor
        · rfl
        · rw [Event.received, if_pos rfl]
          exact step_isStable hrelay hother

/-! ## Every run -/

variable {start finish : Measured} {trace : Trace Measured Event}

/-- After a run the history has all samples of the run, and the last verdict was on
that history. -/
theorem judged_run (hpath : Path (judge config threshold) start trace finish) :
    finish.history = (received trace).foldl History.receive start.history ∧
      (received trace ≠ [] →
        finish.relay.isStable = stabilityVerdict threshold finish.history) := by
  induction hpath with
  | nil =>
      constructor
      · rfl
      · intro hsome
        exact absurd rfl hsome
  | @snoc trace source target event hearlier hstep ih =>
      obtain ⟨hhistory, hverdict⟩ := ih
      obtain ⟨htarget, hjudged⟩ := judge_cases hstep
      have hreceived : received (trace ++ [⟨source, event, target⟩]) =
          received trace ++ event.received := by
        simp [received]
      rw [hreceived, List.foldl_append, ← hhistory, htarget]
      constructor
      · rfl
      · intro hsome
        rw [hjudged]
        split
        case isTrue hnone =>
          rw [hnone, List.append_nil] at hsome
          rw [hverdict hsome, hnone]
          rfl
        case isFalse => rw [htarget]

/-- The verdict after all samples is about the oldest one that is kept. -/
theorem verdict_oldest {s : ℕ → ℚ} {n : ℕ} (hn : n ≠ 0) {relay : State}
    (hpath : Path (judge config threshold) ⟨relay, zeroFilled⟩ trace finish)
    (hreceived : received trace = samples s n) :
    finish.relay.isStable = true ↔
      oldest s n > 5 ∨ |(truncate (oldestRate s n) : ℚ)| > threshold := by
  obtain ⟨hhistory, hverdict⟩ := judged_run hpath
  have hsome : received trace ≠ [] := by
    rw [hreceived, ← List.length_pos_iff, length_samples]
    exact Nat.pos_of_ne_zero hn
  rw [hverdict hsome, hhistory, hreceived, stabilityVerdict, freq_next, dfreq_next]
  simp

/-- The verdict after a run is that on its newest sample exactly when the oldest
sample that is kept would have the same one. -/
theorem verdict_follows_newest_iff {s : ℕ → ℚ} {n : ℕ} (hn : 2 ≤ n) {relay : State}
    (hpath : Path (judge config threshold) ⟨relay, zeroFilled⟩ trace finish)
    (hreceived : received trace = samples s n) :
    FollowsNewest threshold (s n) (limitedRate (s n) (s (n - 1)))
        finish.relay.isStable ↔
      OldestAgrees threshold s n := by
  have hstable := verdict_oldest (by omega) hpath hreceived
  have hunstable : finish.relay.isStable = false ↔
      oldest s n ≤ 5 ∧ |(truncate (oldestRate s n) : ℚ)| ≤ threshold := by
    rw [← Bool.not_eq_true, hstable, not_or, gt_iff_lt, gt_iff_lt, not_lt, not_lt]
  rw [FollowsNewest, OldestAgrees, hstable, hunstable]

/-- A fall below the frequency threshold, two samples after the start. -/
theorem verdict_follows_newest_falling :
    let run := (follow (judge ⟨5, 1⟩ 1) ⟨afterSetup, zeroFilled⟩
      [.sample 60, .sample 4]).get rfl
    FollowsNewest 1 4 (limitedRate 4 60) run.2.relay.isStable := by
  intro run
  let s : ℕ → ℚ := fun k => if k = 1 then 60 else 4
  have hreceived : received run.1 = samples s 2 := rfl
  have hagrees : OldestAgrees 1 s 2 := by
    constructor
    · intro _
      exact ⟨by decide, by decide⟩
    · intro hstable
      exact absurd hstable.1 (by decide)
  exact (verdict_follows_newest_iff (by decide)
    (path_of_schedule rfl) hreceived).mpr hagrees

/-- A steady 50 Hz from the start is called unstable. -/
theorem steady_called_unstable :
    ¬ ∀ (config : Config) (threshold : ℚ) (relay : State) (trace : Trace Measured Event)
      (finish : Measured) (s : ℕ → ℚ) (n : ℕ), 0 ≤ threshold → 2 ≤ n →
        (∀ k, 1 ≤ k → k ≤ n → 0 < s k) →
        Path (judge config threshold) ⟨relay, zeroFilled⟩ trace finish →
        received trace = samples s n →
          FollowsNewest threshold (s n) (limitedRate (s n) (s (n - 1)))
            finish.relay.isStable := by
  intro hall
  let run := (follow (judge ⟨5, 1⟩ 1) ⟨afterSetup, zeroFilled⟩
    [.sample 50, .sample 50]).get rfl
  have hfollows := hall ⟨5, 1⟩ 1 afterSetup run.1 run.2 (fun _ => 50) 2 (by decide)
    (by decide) (fun _ _ _ => by decide) (path_of_schedule rfl) rfl
  have hsteady : |limitedRate 50 50| < 1 := by norm_num [limitedRate, rateOfChange]
  exact absurd (hfollows.2 ⟨by decide, hsteady⟩) (by decide)

end FrequencyRelay.HelloWorld
