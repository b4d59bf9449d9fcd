import FrequencyRelay.Core.Doubles
import FrequencyRelay.Core.Runs
import FrequencyRelay.Draw.Model
import FrequencyRelay.HelloWorld.Divisors

/-!
# The way of a frequency through `frequencyQueue`

`frequencyDetectorISR` gives the address of an `int` to a queue whose items have the
size of a `double`, so an item is that `int` and the word behind it on the stack.  The
processor stores the least significant byte first: the `int` becomes the low word of
the `double` that `frequencyAnalyserTask` reads, and the word behind it becomes sign,
exponent and the upper part of the fraction.

The misspelt `frequencyHistory` is read as `freqHistory`.
-/

namespace FrequencyRelay.Transport

open FrequencyRelay.Doubles
open FrequencyRelay.Draw
open FrequencyRelay.HelloWorld (signalFrequency toNat_quotient)
open FrequencyRelay.LoadScan
open FrequencyRelay.RingBuffers
open FrequencyRelay.Runs

/-- What an interrupt meets: the count in the register, and the word behind
`signalFrequency`. -/
structure Sampling where
  numberOfSamples : Word
  behind : Word
  deriving DecidableEq

/-- `frequencyQueue`, with its items as they were copied, and `freqHistory` with
`i`. -/
structure State where
  frequencyQueue : List (List Byte)
  freqHistory : Ring 100 (BitVec 64)

/-- The empty queue, and the history as `setupStates` leaves it. -/
def initial : State := ⟨[], ⟨fun _ => 0, 99⟩⟩

/-- The `sizeof(double)` bytes at the address of an `int`. -/
def itemAt (int behind : Word) : List Byte :=
  bytesOf 4 int.toNat ++ bytesOf 4 behind.toNat

/-- The `double` that an item is copied to. -/
def readDouble (item : List Byte) : BitVec 64 := BitVec.ofNat 64 (littleEndian item)

/-- `frequencyDetectorISR`.  A full queue drops the item. -/
def frequencyDetectorISR (sampling : Sampling) (state : State) : Option State :=
  (signalFrequency sampling.numberOfSamples).map fun frequency =>
    if state.frequencyQueue.length < 100 then
      { state with
        frequencyQueue := state.frequencyQueue ++ [itemAt frequency sampling.behind] }
    else state

/-- `xQueueReceive` in `frequencyAnalyserTask`, and the step to the next slot. -/
def receiveFrequency (state : State) : Option State :=
  match state.frequencyQueue with
  | [] => none
  | item :: rest => some ⟨rest, state.freqHistory.push (readDouble item)⟩

inductive Action
  | sample (sampling : Sampling)
  | receive
  deriving DecidableEq

def step (state : State) : Action → Option State
  | .sample sampling => frequencyDetectorISR sampling state
  | .receive => receiveFrequency state

/-- What a step stores in `freqHistory`. -/
def storedBy : Transition State Action → List (Option ℚ)
  | ⟨source, .receive, target⟩ =>
      [value (target.freqHistory.slots source.freqHistory.next)]
  | ⟨_, .sample _, _⟩ => []

def stored (trace : Trace State Action) : List (Option ℚ) := trace.flatMap storedBy

/-- The samplings of a run. -/
def samplings (trace : Trace State Action) : List Sampling :=
  trace.flatMap fun transition =>
    match transition.action with
    | .sample sampling => [sampling]
    | .receive => []

/-- The queue has room whenever a frequency is sent. -/
def HasRoom (trace : Trace State Action) : Prop :=
  ∀ transition ∈ trace, transition.action ≠ .receive →
    transition.source.frequencyQueue.length < 100

instance (trace : Trace State Action) : Decidable (HasRoom trace) :=
  inferInstanceAs (Decidable (∀ _ ∈ trace, _))

/-- A signal below 1 Hz, and behind the frequency happens to be the upper word of the
double that is its frequency. -/
def BehindIsFrequency (sampling : Sampling) : Prop :=
  16000 < sampling.numberOfSamples.toNat ∧
    (2 ^ 20 + sampling.behind.toNat % 2 ^ 20) * 2 ^ (sampling.behind.toNat / 2 ^ 20) *
      sampling.numberOfSamples.toNat = 16000 * 2 ^ 1043

/-! ## One item -/

/-- The double that the history gets for a sampling. -/
def transported (sampling : Sampling) : BitVec 64 :=
  readDouble (itemAt (16000 / sampling.numberOfSamples) sampling.behind)

variable {sampling : Sampling}

theorem toNat_transported :
    (transported sampling).toNat =
      16000 / sampling.numberOfSamples.toNat + 2 ^ 32 * sampling.behind.toNat := by
  have hquotient : 16000 / sampling.numberOfSamples.toNat ≤ 16000 := Nat.div_le_self _ _
  have hbehind := sampling.behind.isLt
  rw [transported, readDouble, itemAt, littleEndian_append, littleEndian_bytesOf,
    littleEndian_bytesOf, length_bytesOf, BitVec.toNat_ofNat, toNat_quotient]
  generalize 16000 / sampling.numberOfSamples.toNat = quotient at hquotient
  omega

/-- The three fields, and the sign, in terms of the quotient and the word behind it. -/
theorem fields_transported (sampling : Sampling) :
    fraction (transported sampling) =
        16000 / sampling.numberOfSamples.toNat +
          2 ^ 32 * (sampling.behind.toNat % 2 ^ 20) ∧
      exponent (transported sampling) = sampling.behind.toNat / 2 ^ 20 % 2 ^ 11 ∧
      (transported sampling).msb = decide (2 ^ 31 ≤ sampling.behind.toNat) := by
  have hquotient : 16000 / sampling.numberOfSamples.toNat ≤ 16000 := Nat.div_le_self _ _
  rw [fraction, exponent, BitVec.msb_eq_decide, decide_eq_decide, toNat_transported]
  generalize 16000 / sampling.numberOfSamples.toNat = quotient at hquotient
  refine ⟨?_, ?_, ?_⟩
  · omega
  · omega
  · omega

/-- A subnormal number is below every frequency. -/
theorem subnormal_ne {bits : BitVec 64} {count power : ℕ} (hcount : count < 2 ^ 32)
    (hpower : 85 ≤ power) (hsubnormal : exponent bits = 0) :
    significand bits * 2 ^ scale bits * count ≠ 16000 * 2 ^ power := by
  apply Nat.ne_of_lt
  calc
    significand bits * 2 ^ scale bits * count < 2 ^ 53 * 2 ^ 32 :=
      Nat.mul_lt_mul_of_lt_of_lt (subnormal_lt hsubnormal) hcount
    _ = 2 ^ 85 := by decide
    _ ≤ 2 ^ power := Nat.pow_le_pow_right (by decide) hpower
    _ ≤ 16000 * 2 ^ power := Nat.le_mul_of_pos_left _ (by decide)

/-- With a quotient in its low word, a significand has too many odd factors for a
divisor of 16000 times a power of two. -/
theorem quotient_ne {count power : ℕ} (hcount : count < 2 ^ 32) (hpower : 85 ≤ power)
    (hquotient : 16000 / sampling.numberOfSamples.toNat ≠ 0) :
    significand (transported sampling) * 2 ^ scale (transported sampling) * count ≠
      16000 * 2 ^ power := by
  intro heq
  obtain ⟨hfraction, -, -⟩ := fields_transported sampling
  have hle : 16000 / sampling.numberOfSamples.toNat ≤ 16000 := Nat.div_le_self _ _
  have hodd : ¬ 2 ^ (13 + 1) ∣ significand (transported sampling) := by
    rw [significand, hfraction]
    generalize 16000 / sampling.numberOfSamples.toNat = quotient at hquotient hle
    split
    · omega
    · omega
  have hdvd : significand (transported sampling) ∣ 125 * 2 ^ (7 + power) := by
    have hfactors : 125 * 2 ^ (7 + power) = 16000 * 2 ^ power := by
      rw [pow_add]
      omega
    rw [hfactors, ← heq, mul_assoc]
    exact dvd_mul_right _ _
  have hsmall := le_of_dvd_mul_two_pow (by decide) hdvd hodd
  have hsubnormal : exponent (transported sampling) = 0 := by
    by_contra hnormal
    have hlarge := le_significand hnormal
    omega
  exact subnormal_ne hcount hpower hsubnormal heq

/-- The exponent behind the frequency is that of a normal number. -/
theorem exponent_of_frequency {count top exponent power : ℕ} (hpositive : 0 < count)
    (hcount : count < 2 ^ 32) (htop : top < 2 ^ 20) (hpower : 53 ≤ power)
    (heq : (2 ^ 20 + top) * 2 ^ exponent * count = 16000 * 2 ^ power) :
    0 < exponent ∧ exponent < power := by
  constructor
  · apply Nat.pos_of_ne_zero
    rintro rfl
    rw [pow_zero, mul_one] at heq
    have hlarge : 2 ^ 53 ≤ 2 ^ power := Nat.pow_le_pow_right (by decide) hpower
    have hsmall : (2 ^ 20 + top) * count < 2 ^ 21 * 2 ^ 32 :=
      Nat.mul_lt_mul_of_lt_of_lt (by omega) hcount
    omega
  · by_contra hlarge
    have hpow : 2 ^ power ≤ 2 ^ exponent :=
      Nat.pow_le_pow_right (by decide) (not_lt.mp hlarge)
    have hproduct : 2 ^ 20 * 2 ^ power ≤ (2 ^ 20 + top) * 2 ^ exponent * count :=
      calc
        2 ^ 20 * 2 ^ power ≤ (2 ^ 20 + top) * 2 ^ exponent :=
          Nat.mul_le_mul (Nat.le_add_right _ _) hpow
        _ ≤ (2 ^ 20 + top) * 2 ^ exponent * count := Nat.le_mul_of_pos_right _ hpositive
    have hpositive := Nat.two_pow_pos power
    omega

/-- With the quotient zero and the exponent of a normal number, the low word is a factor
of the significand. -/
theorem slow_equation_iff {count power : ℕ}
    (hquotient : 16000 / sampling.numberOfSamples.toNat = 0)
    (hnormal : sampling.behind.toNat / 2 ^ 20 ≠ 0)
    (hpositive : sampling.behind.toNat / 2 ^ 20 < 2 ^ 11) :
    significand (transported sampling) * 2 ^ scale (transported sampling) * count =
        16000 * 2 ^ (32 + power) ↔
      (2 ^ 20 + sampling.behind.toNat % 2 ^ 20) * 2 ^ (sampling.behind.toNat / 2 ^ 20) *
        count = 16000 * 2 ^ power := by
  obtain ⟨hfraction, hexponent, -⟩ := fields_transported sampling
  rw [hquotient, Nat.zero_add] at hfraction
  rw [Nat.mod_eq_of_lt hpositive] at hexponent
  have hscale : scale (transported sampling) = sampling.behind.toNat / 2 ^ 20 := by
    rw [scale, hexponent]
    exact max_eq_right (Nat.one_le_iff_ne_zero.mpr hnormal)
  have hsignificand : significand (transported sampling) =
      2 ^ 32 * (2 ^ 20 + sampling.behind.toNat % 2 ^ 20) := by
    rw [significand, hexponent, if_neg hnormal, hfraction]
    omega
  rw [hscale, hsignificand, pow_add, mul_assoc, mul_assoc, mul_left_comm 16000,
    mul_right_inj' (by decide), mul_assoc]

/-- With the quotient zero, the double is made of the word behind alone. -/
theorem value_of_slow {count power : ℕ} (hpositive : 0 < count) (hcount : count < 2 ^ 32)
    (hpower : 53 ≤ power) (hlimit : power ≤ 2047)
    (hquotient : 16000 / sampling.numberOfSamples.toNat = 0) :
    (exponent (transported sampling) ≠ 2047 ∧ (transported sampling).msb = false ∧
        significand (transported sampling) * 2 ^ scale (transported sampling) * count =
          16000 * 2 ^ (32 + power)) ↔
      (2 ^ 20 + sampling.behind.toNat % 2 ^ 20) * 2 ^ (sampling.behind.toNat / 2 ^ 20) *
        count = 16000 * 2 ^ power := by
  obtain ⟨-, hexponent, hmsb⟩ := fields_transported sampling
  have hbehind := sampling.behind.isLt
  constructor
  · rintro ⟨-, hsign, heq⟩
    have hnonzero : exponent (transported sampling) ≠ 0 := fun hsubnormal =>
      subnormal_ne hcount (by omega) hsubnormal heq
    rw [hmsb, decide_eq_false_iff_not] at hsign
    rw [hexponent] at hnonzero
    exact (slow_equation_iff hquotient (by omega) (by omega)).mp heq
  · intro heq
    obtain ⟨hnormal, hlt⟩ := exponent_of_frequency hpositive hcount
      (Nat.mod_lt _ (by decide)) hpower heq
    have hsmall : sampling.behind.toNat / 2 ^ 20 < 2 ^ 11 := by omega
    refine ⟨?_, ?_, (slow_equation_iff hquotient hnormal.ne' hsmall).mpr heq⟩
    · rw [hexponent]
      omega
    · rw [hmsb, decide_eq_false_iff_not]
      omega

/-- When the history gets the frequency of a sampling. -/
theorem value_transported_iff (hpositive : sampling.numberOfSamples ≠ 0) :
    value (transported sampling) = some (freqRelay sampling.numberOfSamples.toNat) ↔
      BehindIsFrequency sampling := by
  have hcount := sampling.numberOfSamples.isLt
  have hpos : 0 < sampling.numberOfSamples.toNat := Nat.pos_of_ne_zero fun hzero =>
    hpositive (BitVec.eq_of_toNat_eq hzero)
  have hfraction : value (transported sampling) =
        some (freqRelay sampling.numberOfSamples.toNat) ↔ _ :=
    value_eq_div_iff (by decide : 0 < 16000) hpos
  have hpowers : 1075 = 32 + 1043 := rfl
  rw [hfraction, BehindIsFrequency, hpowers]
  generalize hpower : 1043 = power
  by_cases hquotient : 16000 / sampling.numberOfSamples.toNat = 0
  · have hslow : 16000 < sampling.numberOfSamples.toNat := by
      rcases Nat.div_eq_zero_iff.mp hquotient with hzero | hlt
      · exact absurd hzero hpos.ne'
      · exact hlt
    rw [and_iff_right hslow]
    exact value_of_slow hpos hcount (by omega) (by omega) hquotient
  · have hfast : ¬ 16000 < sampling.numberOfSamples.toNat := fun hslow =>
      hquotient (Nat.div_eq_of_lt hslow)
    constructor
    · intro hequation
      exact absurd hequation.2.2 (quotient_ne hcount (by omega) hquotient)
    · intro hbehind
      exact absurd hbehind.1 hfast

/-! ## Every run -/

/-- The values that are still in the queue. -/
def queued (state : State) : List (Option ℚ) :=
  state.frequencyQueue.map fun item => value (readDouble item)

/-- What a step stores and queues, in terms of what was queued. -/
theorem step_conserves {state next : State} {action : Action}
    (hstep : step state action = some next)
    (hroom : action ≠ .receive → state.frequencyQueue.length < 100) :
    storedBy ⟨state, action, next⟩ ++ queued next =
      queued state ++ (samplings [⟨state, action, next⟩]).map fun sampling =>
        value (transported sampling) := by
  cases action with
  | sample sampling =>
      obtain ⟨frequency, hfrequency, rfl⟩ := Option.map_eq_some_iff.mp hstep
      have hquotient : frequency = 16000 / sampling.numberOfSamples := by
        rw [signalFrequency] at hfrequency
        split at hfrequency
        case isTrue => cases hfrequency
        case isFalse => exact (Option.some.inj hfrequency).symm
      rw [if_pos (hroom (by simp)), hquotient]
      simp [storedBy, queued, samplings, transported]
  | receive =>
      rw [step, receiveFrequency] at hstep
      split at hstep
      case h_1 => cases hstep
      case h_2 item rest hqueue =>
        obtain rfl := Option.some.inj hstep
        simp [storedBy, queued, samplings, hqueue, Ring.push]

/-- Everything sampled has been stored or is still queued, in order. -/
theorem stored_append_queued {trace : Trace State Action} {finish : State}
    (hpath : Path step initial trace finish) (hroom : HasRoom trace) :
    stored trace ++ queued finish =
      (samplings trace).map fun sampling => value (transported sampling) := by
  induction hpath with
  | nil => rfl
  | @snoc trace source target action hearlier hstep ih =>
      have hbefore := ih fun transition hmem => hroom transition (by simp [hmem])
      have hlast := step_conserves hstep (hroom ⟨source, action, target⟩ (by simp))
      have hstored : stored (trace ++ [⟨source, action, target⟩]) =
          stored trace ++ storedBy ⟨source, action, target⟩ := by
        simp [stored]
      have hsamplings : samplings (trace ++ [⟨source, action, target⟩]) =
          samplings trace ++ samplings [⟨source, action, target⟩] := by
        simp [samplings]
      calc
        stored (trace ++ [⟨source, action, target⟩]) ++ queued target =
            stored trace ++ (queued source ++
              (samplings [⟨source, action, target⟩]).map fun sampling =>
                value (transported sampling)) := by
          rw [hstored, List.append_assoc, hlast]
        _ = (samplings (trace ++ [⟨source, action, target⟩])).map fun sampling =>
              value (transported sampling) := by
          rw [hsamplings, List.map_append, ← hbefore, List.append_assoc]

/-- An interrupt that returns has not divided by zero. -/
theorem samplings_ne_zero {trace : Trace State Action} {finish : State}
    (hpath : Path step initial trace finish) :
    ∀ sampling ∈ samplings trace, sampling.numberOfSamples ≠ 0 := by
  intro sampling hmem hzero
  obtain ⟨transition, htransition, hsampling⟩ := List.mem_flatMap.mp hmem
  obtain ⟨-, hstep⟩ := hpath.source_of_mem htransition
  cases haction : transition.action with
  | receive => simp [haction] at hsampling
  | sample sampled =>
      have hsame : sampling = sampled := by simpa [haction] using hsampling
      rw [haction, ← hsame, step, frequencyDetectorISR, signalFrequency,
        if_pos hzero] at hstep
      cases hstep

/-- The history gets the frequencies of a run exactly when every one of them was behind
the integer that was sent. -/
theorem transport_exact_iff {trace : Trace State Action} {finish : State}
    (hpath : Path step initial trace finish) (hroom : HasRoom trace)
    (hdrained : finish.frequencyQueue = []) :
    stored trace =
        (samplings trace).map (fun sampling =>
          some (freqRelay sampling.numberOfSamples.toNat)) ↔
      ∀ sampling ∈ samplings trace, BehindIsFrequency sampling := by
  have hstored := stored_append_queued hpath hroom
  rw [queued, hdrained, List.map_nil, List.append_nil] at hstored
  rw [hstored, List.map_inj_left]
  have hpositive := samplings_ne_zero hpath
  constructor
  · intro hexact sampling hmem
    exact (value_transported_iff (hpositive sampling hmem)).mp (hexact sampling hmem)
  · intro hbehind sampling hmem
    exact (value_transported_iff (hpositive sampling hmem)).mpr (hbehind sampling hmem)

/-- Half a hertz, with the upper word of one half behind the quotient. -/
theorem transport_exact_iff_half :
    let run := (follow step initial [.sample ⟨32000, 0x3FE00000⟩, .receive]).get rfl
    stored run.1 = [some (freqRelay 32000)] := by
  intro run
  have hroom : HasRoom run.1 := by decide
  have hbehind : ∀ sampling ∈ samplings run.1, BehindIsFrequency sampling := by
    intro sampling hmem
    obtain rfl := List.mem_singleton.mp hmem
    have htop : (0x3FE00000 : Word).toNat % 2 ^ 20 = 0 := rfl
    have hexponent : (0x3FE00000 : Word).toNat / 2 ^ 20 = 1022 := rfl
    have hcount : (32000 : Word).toNat = 32000 := rfl
    have hpowers : 1043 = 21 + 1022 := rfl
    rw [BehindIsFrequency, htop, hexponent, hcount, hpowers]
    generalize 1022 = power
    rw [Nat.pow_add]
    omega
  exact (transport_exact_iff (path_of_schedule rfl) hroom rfl).mpr
    hbehind

/-- 320 samples are 50 Hz, but the history does not get 50. -/
theorem fifty_not_transported :
    ¬ ∀ (trace : Trace State Action) (finish : State), Path step initial trace finish →
      HasRoom trace → finish.frequencyQueue = [] →
        stored trace = (samplings trace).map fun sampling =>
          some (freqRelay sampling.numberOfSamples.toNat) := by
  intro hall
  let sampling : Sampling := ⟨320, 0⟩
  let run := (follow step initial [.sample sampling, .receive]).get rfl
  have hroom : HasRoom run.1 := by decide
  have hstored := hall run.1 run.2 (path_of_schedule rfl) hroom rfl
  have hvalue : value (transported sampling) =
      some (freqRelay sampling.numberOfSamples.toNat) := (List.cons.inj hstored).1
  have hbehind := (value_transported_iff (by decide)).mp hvalue
  exact absurd hbehind.1 (by decide)

end FrequencyRelay.Transport
