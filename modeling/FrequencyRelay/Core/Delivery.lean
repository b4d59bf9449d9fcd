import Mathlib.Data.Fintype.Defs
import Mathlib.Data.List.Basic
import Mathlib.Logic.Function.Basic
import FrequencyRelay.Core.Runs

/-!
# Snapshots through a bounded queue

Several senders take a snapshot of something, and each sends it later, by value, to one
receiver.  The queue between them is bounded and drops what does not fit.  The snapshots
arrive in the order in which they were taken, and the newest is never lost, as long as
no send is harmful: a snapshot must not go into the queue while another sender still
holds an older one, and there must be room for the newest.
-/

namespace FrequencyRelay.Delivery

open FrequencyRelay.Runs

variable {Sender Value : Type*} [DecidableEq Sender]

/-- The snapshots are counted by `taken`, and `latest` is the last of them.  The numbers
of those that the senders hold, that are in the queue, and that the receiver got last
are `number`, `waiting` and `shown`.  No step depends on any of these. -/
structure State (Sender Value : Type*) where
  held : Sender → Option Value
  queue : List Value
  received : Value
  latest : Value
  taken : ℕ
  number : Sender → ℕ
  waiting : List ℕ
  shown : ℕ

inductive Action (Sender Value : Type*)
  | snapshot (sender : Sender) (value : Value)
  | send (sender : Sender)
  | receive
  deriving DecidableEq

/-- A bounded queue, after a value was sent that may not fit. -/
def enqueue (capacity : ℕ) (queue : List Value) (value : Value) : List Value :=
  if queue.length < capacity then queue ++ [value] else queue

/-- The numbers of the snapshots in the queue after the same. -/
def enqueueNumber (capacity : ℕ) (queue : List Value) (waiting : List ℕ) (number : ℕ) :
    List ℕ :=
  if queue.length < capacity then waiting ++ [number] else waiting

def step (capacity : ℕ) (state : State Sender Value) :
    Action Sender Value → Option (State Sender Value)
  | .snapshot sender value =>
      if state.held sender = none then
        some { state with
          held := Function.update state.held sender (some value)
          latest := value
          taken := state.taken + 1
          number := Function.update state.number sender (state.taken + 1) }
      else none
  | .send sender =>
      (state.held sender).map fun value =>
        { state with
          held := Function.update state.held sender none
          queue := enqueue capacity state.queue value
          waiting :=
            enqueueNumber capacity state.queue state.waiting (state.number sender) }
  | .receive =>
      match state.queue with
      | [] => none
      | value :: rest =>
          some { state with
            queue := rest
            received := value
            waiting := state.waiting.tail
            shown := state.waiting.headD state.shown }

namespace State

/-- The numbers of what the receiver got last and of what it will get. -/
def numbers (state : State Sender Value) : List ℕ := state.shown :: state.waiting

/-- No snapshot is overtaken by an older one. -/
def InOrder (state : State Sender Value) : Prop := state.numbers.Pairwise (· < ·)

/-- The newest snapshot is with its sender, in the queue, or with the receiver. -/
def NotLost (state : State Sender Value) : Prop :=
  (∃ sender, state.held sender ≠ none ∧ state.number sender = state.taken) ∨
    state.taken ∈ state.numbers

/-- What the receiver gets last if nothing else is sent, and its number -/
def pending (state : State Sender Value) : Value :=
  state.queue.getLast?.getD state.received

def pendingNumber (state : State Sender Value) : ℕ :=
  state.waiting.getLast?.getD state.shown

end State

instance : DecidablePred (State.InOrder : State Sender Value → Prop) :=
  fun _ => inferInstanceAs (Decidable (List.Pairwise _ _))

/-- Snapshots get to the receiver in their order, and the newest is still with its
sender, or is what the receiver gets last. -/
structure Orderly (state : State Sender Value) : Prop where
  length_waiting : state.waiting.length = state.queue.length
  inOrder : state.InOrder
  numbers_le : ∀ number ∈ state.numbers, number ≤ state.taken
  held_le : ∀ sender, state.held sender ≠ none → state.number sender ≤ state.taken
  held_newer : ∀ sender, state.held sender ≠ none → ∀ number ∈ state.numbers,
    number < state.number sender
  held_injective : ∀ sender other, state.held sender ≠ none → state.held other ≠ none →
    state.number sender = state.number other → sender = other
  newest : (∃ sender, state.held sender = some state.latest ∧
      state.number sender = state.taken) ∨
    state.pendingNumber = state.taken ∧ state.pending = state.latest

/-- Sending a snapshot now does no harm: if it goes into the queue, no other sender holds
an older one, and if it is the newest, it does. -/
def Harmless (capacity : ℕ) (state : State Sender Value) (sender : Sender) : Prop :=
  (state.queue.length < capacity → ∀ other, state.held other ≠ none →
      state.number sender ≤ state.number other) ∧
    (state.number sender = state.taken → state.queue.length < capacity)

instance [Fintype Sender] [DecidableEq Value] (capacity : ℕ) (state : State Sender Value) :
    DecidablePred (Harmless capacity state) :=
  fun _ => inferInstanceAs (Decidable (_ ∧ _))

/-! ## What is pending -/

variable {capacity : ℕ} {state next : State Sender Value} {sender : Sender}
variable {value : Value}

omit [DecidableEq Sender] in
theorem State.pendingNumber_mem (state : State Sender Value) :
    state.pendingNumber ∈ state.numbers := by
  rw [State.pendingNumber, State.numbers]
  cases hlast : state.waiting.getLast? with
  | none => exact List.mem_cons_self
  | some number => exact List.mem_cons_of_mem _ (List.mem_of_getLast? hlast)

omit [DecidableEq Sender] in
theorem Orderly.notLost (horderly : Orderly state) : state.NotLost := by
  rcases horderly.newest with ⟨sender, hheld, hnumber⟩ | ⟨hnumber, -⟩
  · exact .inl ⟨sender, by simp [hheld], hnumber⟩
  · exact .inr (hnumber ▸ state.pendingNumber_mem)

/-- The numbers in the queue stay as many as the snapshots in it. -/
theorem length_enqueueNumber {queue : List Value} {waiting : List ℕ} {number : ℕ}
    (hlength : waiting.length = queue.length) :
    (enqueueNumber capacity queue waiting number).length =
      (enqueue capacity queue value).length := by
  rw [enqueueNumber, enqueue]
  split
  · rw [List.length_append, List.length_append, hlength, List.length_singleton,
      List.length_singleton]
  · exact hlength

omit [DecidableEq Sender] in
/-- What the receiver gets last has the greatest number. -/
theorem State.InOrder.le_pendingNumber (hinOrder : state.InOrder) {number : ℕ}
    (hmem : number ∈ state.numbers) : number ≤ state.pendingNumber := by
  have hlast : state.numbers.getLast? = some state.pendingNumber := by
    rw [State.numbers, List.getLast?_cons]
    rfl
  obtain ⟨init, hinit⟩ := List.getLast?_eq_some_iff.mp hlast
  rw [hinit, List.mem_append, List.mem_singleton] at hmem
  rcases hmem with hmem | rfl
  · rw [State.InOrder, hinit, List.pairwise_append] at hinOrder
    exact (hinOrder.2.2 number hmem _ (List.mem_singleton_self _)).le
  · exact le_refl _

/-! ## One step -/

/-- A send, as far as the order depends on it. -/
theorem send_fields (hheld : state.held sender = some value)
    (hstep : step capacity state (.send sender) = some next) :
    next = { state with
      held := Function.update state.held sender none
      queue := enqueue capacity state.queue value
      waiting :=
        enqueueNumber capacity state.queue state.waiting (state.number sender) } := by
  rw [step, hheld] at hstep
  exact (Option.some.inj hstep).symm

theorem orderly_snapshot (horderly : Orderly state)
    (hstep : step capacity state (.snapshot sender value) = some next) :
    Orderly next := by
  rw [step] at hstep
  split at hstep
  case isFalse => cases hstep
  case isTrue hnone =>
  obtain rfl := Option.some.inj hstep
  have hother : ∀ other, other ≠ sender →
      Function.update state.held sender (some value) other = state.held other :=
    fun other hne => Function.update_of_ne hne _ _
  have hnumber : ∀ other, other ≠ sender →
      Function.update state.number sender (state.taken + 1) other = state.number other :=
    fun other hne => Function.update_of_ne hne _ _
  refine ⟨horderly.length_waiting, horderly.inOrder, ?_, ?_, ?_, ?_, ?_⟩
  · intro number hmem
    exact (horderly.numbers_le number hmem).trans (Nat.le_succ _)
  · intro other hheld
    by_cases hsame : other = sender
    · simp [hsame]
    · simp only [hother other hsame] at hheld
      simp only [hnumber other hsame]
      exact (horderly.held_le other hheld).trans (Nat.le_succ _)
  · intro other hheld number hmem
    by_cases hsame : other = sender
    · simp only [hsame, Function.update_self]
      exact Nat.lt_succ_of_le (horderly.numbers_le number hmem)
    · simp only [hother other hsame] at hheld
      simp only [hnumber other hsame]
      exact horderly.held_newer other hheld number hmem
  · intro first second hfirst hsecond heq
    by_cases hfirstSame : first = sender <;> by_cases hsecondSame : second = sender
    · rw [hfirstSame, hsecondSame]
    · simp only [hother second hsecondSame] at hsecond
      simp only [hfirstSame, Function.update_self, hnumber second hsecondSame] at heq
      have hle := horderly.held_le second hsecond
      omega
    · simp only [hother first hfirstSame] at hfirst
      simp only [hsecondSame, Function.update_self, hnumber first hfirstSame] at heq
      have hle := horderly.held_le first hfirst
      omega
    · simp only [hother first hfirstSame] at hfirst
      simp only [hother second hsecondSame] at hsecond
      simp only [hnumber first hfirstSame, hnumber second hsecondSame] at heq
      exact horderly.held_injective first second hfirst hsecond heq
  · exact .inl ⟨sender, Function.update_self _ _ _, Function.update_self _ _ _⟩

theorem orderly_receive (horderly : Orderly state)
    (hstep : step capacity state .receive = some next) : Orderly next := by
  rw [step] at hstep
  split at hstep
  case h_1 => cases hstep
  case h_2 message rest hqueue =>
  obtain rfl := Option.some.inj hstep
  have hlength := horderly.length_waiting
  rw [hqueue] at hlength
  obtain ⟨number, numbers, hwaiting⟩ :=
    List.exists_cons_of_length_eq_add_one (hlength.trans List.length_cons)
  have hsub : ∀ other ∈ number :: numbers, other ∈ state.numbers := by
    intro other hmem
    rw [State.numbers, hwaiting]
    exact List.mem_cons_of_mem _ hmem
  have hsorted := horderly.inOrder
  rw [State.InOrder, State.numbers, hwaiting] at hsorted
  constructor
  · rw [hwaiting] at hlength ⊢
    simpa using hlength
  · rw [State.InOrder, State.numbers, hwaiting]
    exact hsorted.tail
  · intro other hmem
    rw [State.numbers, hwaiting] at hmem
    exact horderly.numbers_le other (hsub other hmem)
  · exact horderly.held_le
  · intro sender hheld other hmem
    rw [State.numbers, hwaiting] at hmem
    exact horderly.held_newer sender hheld other (hsub other hmem)
  · exact horderly.held_injective
  · apply horderly.newest.imp_right
    rw [State.pendingNumber, State.pending, State.pendingNumber, State.pending, hqueue,
      hwaiting, List.getLast?_cons, List.getLast?_cons]
    exact id

/-- Who still holds a snapshot after a send -/
theorem held_of_sent {other : Sender}
    (hother : Function.update state.held sender none other ≠ none) :
    other ≠ sender ∧ state.held other ≠ none := by
  by_cases hsame : other = sender
  · simp [hsame] at hother
  · rw [Function.update_of_ne hsame] at hother
    exact ⟨hsame, hother⟩

/-- A snapshot goes into the queue, behind everything that is there. -/
theorem Orderly.enqueued (horderly : Orderly state) (hheld : state.held sender = some value)
    (hfirst : ∀ other, state.held other ≠ none →
      state.number sender ≤ state.number other) :
    Orderly { state with
      held := Function.update state.held sender none
      queue := state.queue ++ [value]
      waiting := state.waiting ++ [state.number sender] } := by
  have hsome : state.held sender ≠ none := by simp [hheld]
  have hnumbers : ∀ number ∈ state.shown :: (state.waiting ++ [state.number sender]),
      number ∈ state.numbers ∨ number = state.number sender := by
    intro number hmem
    rwa [← List.cons_append, List.mem_append, List.mem_singleton] at hmem
  constructor
  · simp [horderly.length_waiting]
  · rw [State.InOrder, State.numbers, ← List.cons_append, List.pairwise_append]
    refine ⟨horderly.inOrder, List.pairwise_singleton _ _, ?_⟩
    intro number hmem last hlast
    rw [List.mem_singleton.mp hlast]
    exact horderly.held_newer sender hsome number hmem
  · intro number hmem
    rcases hnumbers number hmem with hmem | rfl
    · exact horderly.numbers_le number hmem
    · exact horderly.held_le sender hsome
  · intro other hother
    exact horderly.held_le other (held_of_sent hother).2
  · intro other hother number hmem
    obtain ⟨hne, hheldOther⟩ := held_of_sent hother
    rcases hnumbers number hmem with hmem | rfl
    · exact horderly.held_newer other hheldOther number hmem
    · apply lt_of_le_of_ne (hfirst other hheldOther)
      intro heq
      exact hne (horderly.held_injective sender other hsome hheldOther heq).symm
  · intro first second hfirstHeld hsecondHeld heq
    exact horderly.held_injective first second (held_of_sent hfirstHeld).2
      (held_of_sent hsecondHeld).2 heq
  · rw [State.pendingNumber, State.pending, List.getLast?_concat, List.getLast?_concat]
    rcases horderly.newest with ⟨newest, hlatest, hnumber⟩ | ⟨hnumber, -⟩
    · by_cases hsame : newest = sender
      · subst hsame
        exact .inr ⟨hnumber, Option.some.inj (hheld.symm.trans hlatest)⟩
      · exact .inl ⟨newest, (Function.update_of_ne hsame _ _).trans hlatest, hnumber⟩
    · have hlt := horderly.held_newer sender hsome _ state.pendingNumber_mem
      have hle := horderly.held_le sender hsome
      omega

/-- A snapshot that is not the newest is dropped. -/
theorem Orderly.dropped (horderly : Orderly state)
    (hother : state.number sender ≠ state.taken) :
    Orderly { state with held := Function.update state.held sender none } where
  length_waiting := horderly.length_waiting
  inOrder := horderly.inOrder
  numbers_le := horderly.numbers_le
  held_le other hheld := horderly.held_le other (held_of_sent hheld).2
  held_newer other hheld := horderly.held_newer other (held_of_sent hheld).2
  held_injective first second hfirst hsecond heq :=
    horderly.held_injective first second (held_of_sent hfirst).2 (held_of_sent hsecond).2 heq
  newest := by
    apply horderly.newest.imp_left
    rintro ⟨newest, hlatest, hnumber⟩
    have hne : newest ≠ sender := by
      rintro rfl
      exact hother hnumber
    exact ⟨newest, (Function.update_of_ne hne _ _).trans hlatest, hnumber⟩

/-- If the newest snapshot is dropped, it is lost. -/
theorem Orderly.not_notLost_of_dropped (horderly : Orderly state)
    (hheld : state.held sender ≠ none) (hnewest : state.number sender = state.taken) :
    ¬ State.NotLost { state with held := Function.update state.held sender none } := by
  rintro (⟨other, hother, hnumber⟩ | hmem)
  · obtain ⟨hne, hheldOther⟩ := held_of_sent hother
    exact hne (horderly.held_injective other sender hheldOther hheld
      (hnumber.trans hnewest.symm))
  · have hlt : state.taken < state.number sender :=
      horderly.held_newer sender hheld _ hmem
    omega

/-- A send keeps the snapshots in their order and the newest from being lost exactly when
it is harmless. -/
theorem orderly_send_iff (horderly : Orderly state) (hheld : state.held sender = some value)
    (hstep : step capacity state (.send sender) = some next) :
    Orderly next ↔ Harmless capacity state sender := by
  obtain rfl := send_fields hheld hstep
  have hsome : state.held sender ≠ none := by simp [hheld]
  rw [enqueue, enqueueNumber]
  by_cases hroom : state.queue.length < capacity
  · rw [if_pos hroom, if_pos hroom]
    constructor
    · intro hnext
      refine ⟨fun _ other hother => ?_, fun _ => hroom⟩
      by_cases hsame : other = sender
      · rw [hsame]
      · apply le_of_lt
        apply hnext.held_newer other
        · simpa [Function.update_of_ne hsame] using hother
        · simp [State.numbers]
    · intro hharmless
      exact horderly.enqueued hheld (hharmless.1 hroom)
  · rw [if_neg hroom, if_neg hroom]
    constructor
    · intro hnext
      refine ⟨fun hlt => absurd hlt hroom, fun hnewest => ?_⟩
      exact absurd hnext.notLost (horderly.not_notLost_of_dropped hsome hnewest)
    · intro hharmless
      exact horderly.dropped fun hnewest => hroom (hharmless.2 hnewest)

/-- After a harmful send the newest snapshot is lost, or another sender still holds a
snapshot that is older than one that it will follow into the queue. -/
theorem lost_or_overtaking_of_harmful (horderly : Orderly state)
    (hheld : state.held sender = some value)
    (hstep : step capacity state (.send sender) = some next)
    (hharmful : ¬ Harmless capacity state sender) :
    ¬ next.NotLost ∨ ∃ other, next.held other ≠ none ∧
      ∃ number ∈ next.numbers, next.number other < number := by
  obtain rfl := send_fields hheld hstep
  have hsome : state.held sender ≠ none := by simp [hheld]
  rw [enqueue, enqueueNumber]
  by_cases hroom : state.queue.length < capacity
  · right
    simp only [Harmless, hroom, forall_const, implies_true, and_true, not_forall,
      not_le] at hharmful
    obtain ⟨other, hother, holder⟩ := hharmful
    have hne : other ≠ sender := by
      rintro rfl
      exact lt_irrefl _ holder
    refine ⟨other, ?_, state.number sender, ?_, holder⟩
    · simpa [Function.update_of_ne hne] using hother
    · simp [State.numbers, if_pos hroom]
  · left
    simp only [Harmless, hroom, false_implies, true_and, Classical.not_imp, not_false_eq_true,
      and_true] at hharmful
    rw [if_neg hroom, if_neg hroom]
    exact horderly.not_notLost_of_dropped hsome hharmful

/-! ## Every run -/

/-- Every send of a run is harmless. -/
def HarmlessRun (capacity : ℕ)
    (trace : Trace (State Sender Value) (Action Sender Value)) : Prop :=
  ∀ transition ∈ trace, ∀ sender, transition.action = .send sender →
    Harmless capacity transition.source sender

theorem orderly_run {start finish : State Sender Value}
    {trace : Trace (State Sender Value) (Action Sender Value)}
    (hpath : Path (step capacity) start trace finish) (hstart : Orderly start)
    (hharmless : HarmlessRun capacity trace) : Orderly finish := by
  apply hpath.preserves hstart
  intro transition hmem hstep hsource
  cases haction : transition.action with
  | snapshot sender value =>
      rw [haction] at hstep
      exact orderly_snapshot hsource hstep
  | receive =>
      rw [haction] at hstep
      exact orderly_receive hsource hstep
  | send sender =>
      rw [haction] at hstep
      cases hheld : transition.source.held sender with
      | none =>
          rw [step, hheld] at hstep
          cases hstep
      | some value =>
          exact (orderly_send_iff hsource hheld hstep).mpr
            (hharmless transition hmem sender haction)

omit [DecidableEq Sender] in
/-- When everything has been sent and received, the receiver has the newest snapshot. -/
theorem Orderly.settled (horderly : Orderly state) (hqueue : state.queue = [])
    (hheld : ∀ sender, state.held sender = none) :
    state.shown = state.taken ∧ state.received = state.latest := by
  have hwaiting : state.waiting = [] := by
    apply List.eq_nil_of_length_eq_zero
    rw [horderly.length_waiting, hqueue]
    rfl
  rcases horderly.newest with ⟨sender, hlatest, -⟩ | hpending
  · rw [hheld sender] at hlatest
    cases hlatest
  · rw [State.pendingNumber, State.pending, hqueue, hwaiting] at hpending
    exact hpending

end FrequencyRelay.Delivery
