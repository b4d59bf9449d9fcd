import Mathlib.Data.Finset.Card
import Mathlib.Data.Fintype.Basic
import Mathlib.Logic.Relation
import FrequencyRelay.Core.Runs

/-!
# Looping tasks that take and give locks

Each task repeats one iteration forever, and of an iteration only the takes, the
gives and the data-dependent branches are kept.  A lock is a binary semaphore.
A take waits for a token; where takes have a finite timeout it may also go on
without one.  Deadlock is a cycle of the waits-for relation, and is excluded in
any state whose locks can be ranked so that every waiting task wants a lock
above those it is inside.
-/

namespace FrequencyRelay.LockPrograms

open FrequencyRelay.Runs

/-- What is left of an iteration. -/
inductive Code (Lock : Type*)
  | done
  | take (lock : Lock) (rest : Code Lock)
  | give (lock : Lock) (rest : Code Lock)
  | branch (left right : Code Lock)
  deriving DecidableEq

inductive Choice
  | proceed
  | timeOut
  | left
  | right
  deriving DecidableEq

/-- Which locks exist, and whether a take may give up waiting. -/
structure Kernel (Lock : Type*) where
  created : Lock → Bool
  takesTimeOut : Bool

/-- `inside task` are the locks between whose take and give the task is, whether
or not the take obtained the token. -/
structure State (Task Lock : Type*) where
  code : Task → Code Lock
  inside : Task → Finset Lock
  tokens : Lock → ℕ

variable {Task Lock : Type*} [DecidableEq Task] [DecidableEq Lock]

/-- All tasks at the top of their loops. -/
def start (program : Task → Code Lock) (tokens : Lock → ℕ) : State Task Lock :=
  ⟨program, fun _ => ∅, tokens⟩

/-- The lock a task asks for next. -/
def Code.wants : Code Lock → Option Lock
  | .take lock _ => some lock
  | _ => none

/-- The iteration once that lock is taken. -/
def Code.rest : Code Lock → Code Lock
  | .take _ rest => rest
  | code => code

/-- One step of one task.  A call on a lock that was never created is undefined
and ends the run. -/
def step (kernel : Kernel Lock) (program : Task → Code Lock)
    (state : State Task Lock) (action : Task × Choice) : Option (State Task Lock) :=
  let (task, choice) := action
  let goTo (code : Code Lock) := Function.update state.code task code
  match state.code task, choice with
  | .done, .proceed => some { state with code := goTo (program task) }
  | .take lock rest, .proceed =>
      if kernel.created lock = true ∧ 0 < state.tokens lock then
        some ⟨goTo rest,
          Function.update state.inside task (insert lock (state.inside task)),
          Function.update state.tokens lock (state.tokens lock - 1)⟩
      else none
  | .take lock rest, .timeOut =>
      if kernel.created lock = true ∧ kernel.takesTimeOut = true ∧
          state.tokens lock = 0 then
        some { state with
          code := goTo rest
          inside :=
            Function.update state.inside task (insert lock (state.inside task)) }
      else none
  | .give lock rest, .proceed =>
      if kernel.created lock = true then
        some ⟨goTo rest,
          Function.update state.inside task ((state.inside task).erase lock),
          Function.update state.tokens lock 1⟩
      else none
  | .branch left _, .left => some { state with code := goTo left }
  | .branch _ right, .right => some { state with code := goTo right }
  | _, _ => none

/-- What one step does to the task that makes it, and to the tokens. -/
inductive Moved (kernel : Kernel Lock) (program : Task → Code Lock)
    (state : State Task Lock) (task : Task) (choice : Choice) :
    Code Lock → Finset Lock → (Lock → ℕ) → Prop
  | restarted : state.code task = .done →
      Moved kernel program state task choice (program task) (state.inside task)
        state.tokens
  | took {lock : Lock} {rest : Code Lock} : state.code task = .take lock rest →
      kernel.created lock = true → 0 < state.tokens lock →
        Moved kernel program state task choice rest
          (insert lock (state.inside task))
          (Function.update state.tokens lock (state.tokens lock - 1))
  | timedOut {lock : Lock} {rest : Code Lock} : state.code task = .take lock rest →
      choice = .timeOut → kernel.created lock = true →
        kernel.takesTimeOut = true → state.tokens lock = 0 →
          Moved kernel program state task choice rest
            (insert lock (state.inside task)) state.tokens
  | gave {lock : Lock} {rest : Code Lock} : state.code task = .give lock rest →
      kernel.created lock = true →
        Moved kernel program state task choice rest
          ((state.inside task).erase lock) (Function.update state.tokens lock 1)
  | chose {left right next : Code Lock} : state.code task = .branch left right →
      next = left ∨ next = right →
        Moved kernel program state task choice next (state.inside task)
          state.tokens

theorem step_moved {kernel : Kernel Lock} {program : Task → Code Lock}
    {state next : State Task Lock} {task : Task} {choice : Choice}
    (hstep : step kernel program state (task, choice) = some next) :
    ∃ code inside, Moved kernel program state task choice code inside
      next.tokens ∧
      next.code = Function.update state.code task code ∧
        next.inside = Function.update state.inside task inside := by
  have hsame := (Function.update_eq_self task state.inside).symm
  simp only [step] at hstep
  split at hstep
  case h_1 hcode =>
    obtain rfl := Option.some.inj hstep
    exact ⟨_, _, .restarted hcode, rfl, hsame⟩
  case h_2 hcode =>
    split at hstep
    case isTrue henabled =>
      obtain rfl := Option.some.inj hstep
      exact ⟨_, _, .took hcode henabled.1 henabled.2, rfl, rfl⟩
    case isFalse => cases hstep
  case h_3 hcode =>
    split at hstep
    case isTrue henabled =>
      obtain rfl := Option.some.inj hstep
      obtain ⟨hcreated, htimes, hempty⟩ := henabled
      exact ⟨_, _, .timedOut hcode rfl hcreated htimes hempty, rfl, rfl⟩
    case isFalse => cases hstep
  case h_4 hcode =>
    split at hstep
    case isTrue hcreated =>
      obtain rfl := Option.some.inj hstep
      exact ⟨_, _, .gave hcode hcreated, rfl, rfl⟩
    case isFalse => cases hstep
  case h_5 hcode =>
    obtain rfl := Option.some.inj hstep
    exact ⟨_, _, .chose hcode (.inl rfl), rfl, hsame⟩
  case h_6 hcode =>
    obtain rfl := Option.some.inj hstep
    exact ⟨_, _, .chose hcode (.inr rfl), rfl, hsame⟩
  case h_7 => cases hstep

/-- The tasks that do not make a step stay where they are. -/
theorem step_other {kernel : Kernel Lock} {program : Task → Code Lock}
    {state next : State Task Lock} {task other : Task} {choice : Choice}
    (hstep : step kernel program state (task, choice) = some next)
    (hother : other ≠ task) :
    next.code other = state.code other ∧ next.inside other = state.inside other := by
  obtain ⟨code, inside, -, hcode, hinside⟩ := step_moved hstep
  rw [hcode, hinside, Function.update_of_ne hother, Function.update_of_ne hother]
  exact ⟨rfl, rfl⟩

/-- Where takes wait, a task that asks for a lock moves only by taking it. -/
theorem step_wanting {kernel : Kernel Lock} {program : Task → Code Lock}
    {state next : State Task Lock} {task : Task} {choice : Choice} {lock : Lock}
    (hwait : kernel.takesTimeOut = false)
    (hstep : step kernel program state (task, choice) = some next)
    (hwants : (state.code task).wants = some lock) :
    0 < state.tokens lock ∧ next.code task = (state.code task).rest ∧
      next.inside task = insert lock (state.inside task) := by
  obtain ⟨code, inside, hmoved, hcode, hinside⟩ := step_moved hstep
  rw [hcode, hinside, Function.update_self, Function.update_self]
  generalize next.tokens = tokens at hmoved
  cases hmoved with
  | took htake _ hpos =>
      rw [htake] at hwants
      obtain rfl := Option.some.inj hwants
      exact ⟨hpos, by rw [htake]; rfl, rfl⟩
  | timedOut _ _ _ htimes => simp [hwait] at htimes
  | restarted hother | gave hother | chose hother =>
      rw [hother] at hwants
      cases hwants

/-- `task` waits for a lock that `other` is inside. -/
def WaitsFor (state : State Task Lock) (task other : Task) : Prop :=
  ∃ lock, (state.code task).wants = some lock ∧ state.tokens lock = 0 ∧
    lock ∈ state.inside other

/-- Some tasks wait for one another in a circle. -/
def CircularWait (state : State Task Lock) : Prop :=
  ∃ task, Relation.TransGen (WaitsFor state) task task

omit [DecidableEq Task] [DecidableEq Lock] in
/-- Along a chain of waits the ranks grow, so the chain never closes. -/
theorem not_circularWait_of_rank {state : State Task Lock} (rank : Lock → ℕ)
    (hrank : ∀ task lock, (state.code task).wants = some lock →
      ∀ held ∈ state.inside task, rank held < rank lock) :
    ¬ CircularWait state := by
  have hchain : ∀ task other, Relation.TransGen (WaitsFor state) task other →
      ∃ wanted, (state.code task).wants = some wanted ∧
        ∃ held ∈ state.inside other, rank wanted ≤ rank held := by
    intro task other hwaits
    induction hwaits with
    | single hwait =>
        obtain ⟨lock, hwants, -, hinside⟩ := hwait
        exact ⟨lock, hwants, lock, hinside, le_rfl⟩
    | tail _ hwait ih =>
        obtain ⟨wanted, hwants, held, hheld, hle⟩ := ih
        obtain ⟨lock, hwantsNext, -, hinside⟩ := hwait
        have hlt := hrank _ lock hwantsNext held hheld
        exact ⟨wanted, hwants, lock, hinside, hle.trans hlt.le⟩
  rintro ⟨task, hcycle⟩
  obtain ⟨wanted, hwants, held, hheld, hle⟩ := hchain task task hcycle
  exact absurd (hrank task wanted hwants held hheld) (not_lt.mpr hle)

/-! ## Points of an iteration -/

/-- Every point of an iteration with the locks it lies inside of. -/
def Code.points : Code Lock → Finset Lock → List (Code Lock × Finset Lock)
  | .done, held => [(.done, held)]
  | .take lock rest, held =>
      (.take lock rest, held) :: rest.points (insert lock held)
  | .give lock rest, held =>
      (.give lock rest, held) :: rest.points (held.erase lock)
  | .branch left right, held =>
      (.branch left right, held) :: (left.points held ++ right.points held)

theorem Code.self_mem_points (code : Code Lock) (held : Finset Lock) :
    (code, held) ∈ code.points held := by
  cases code <;> simp [points]

/-- Points are closed under the steps of the iteration. -/
theorem Code.points_trans {code next : Code Lock} {held inner : Finset Lock}
    {point : Code Lock × Finset Lock} (hnext : (next, inner) ∈ code.points held)
    (hpoint : point ∈ next.points inner) : point ∈ code.points held := by
  induction code generalizing held with
  | done =>
      obtain ⟨rfl, rfl⟩ := Prod.mk.inj (List.mem_singleton.mp hnext)
      exact hpoint
  | take lock rest ih =>
      rcases List.mem_cons.mp hnext with heq | hrest
      · obtain ⟨rfl, rfl⟩ := Prod.mk.inj heq
        exact hpoint
      · exact List.mem_cons_of_mem _ (ih hrest)
  | give lock rest ih =>
      rcases List.mem_cons.mp hnext with heq | hrest
      · obtain ⟨rfl, rfl⟩ := Prod.mk.inj heq
        exact hpoint
      · exact List.mem_cons_of_mem _ (ih hrest)
  | branch left right ihLeft ihRight =>
      rcases List.mem_cons.mp hnext with heq | hrest
      · obtain ⟨rfl, rfl⟩ := Prod.mk.inj heq
        exact hpoint
      · apply List.mem_cons_of_mem
        exact List.mem_append.mpr
          ((List.mem_append.mp hrest).imp ihLeft ihRight)

/-- A point keeps the discipline of locks: it never takes a lock it is inside
of, gives only such a lock, and ends an iteration outside of all of them. -/
def Proper (point : Code Lock × Finset Lock) : Prop :=
  match point.1 with
  | .done => point.2 = ∅
  | .take lock _ => lock ∉ point.2
  | .give lock _ => lock ∈ point.2
  | .branch _ _ => True

instance : DecidablePred (@Proper Lock)
  | (.done, held) => inferInstanceAs (Decidable (held = ∅))
  | (.take lock _, held) => inferInstanceAs (Decidable (lock ∉ held))
  | (.give lock _, held) => inferInstanceAs (Decidable (lock ∈ held))
  | (.branch _ _, _) => inferInstanceAs (Decidable True)

def Disciplined (program : Task → Code Lock) : Prop :=
  ∀ task, ∀ point ∈ (program task).points ∅, Proper point

/-- Every task is at a point of its iteration. -/
def AtPoints (program : Task → Code Lock) (state : State Task Lock) : Prop :=
  ∀ task, (state.code task, state.inside task) ∈ (program task).points ∅

omit [DecidableEq Task] in
theorem start_atPoints (program : Task → Code Lock) (tokens : Lock → ℕ) :
    AtPoints program (start program tokens) :=
  fun task => (program task).self_mem_points ∅

omit [DecidableEq Task] in
theorem AtPoints.proper {program : Task → Code Lock} {state : State Task Lock}
    (hpoints : AtPoints program state) (hdisciplined : Disciplined program)
    (task : Task) : Proper (state.code task, state.inside task) :=
  hdisciplined task _ (hpoints task)

section Invariants

variable {kernel : Kernel Lock} {program : Task → Code Lock}
variable {state next : State Task Lock} {action : Task × Choice}

theorem step_atPoints (hdisciplined : Disciplined program)
    (hstep : step kernel program state action = some next)
    (hpoints : AtPoints program state) : AtPoints program next := by
  obtain ⟨task, choice⟩ := action
  obtain ⟨code, inside, hmoved, hcode, hinside⟩ := step_moved hstep
  intro other
  rw [hcode, hinside]
  by_cases hother : other = task
  · subst hother
    simp only [Function.update_self]
    have hpoint := hpoints other
    have hproper := hpoints.proper hdisciplined other
    generalize next.tokens = tokens at hmoved
    cases hmoved with
    | restarted hdone =>
        rw [hdone] at hproper
        rw [show state.inside other = ∅ from hproper]
        exact (program other).self_mem_points ∅
    | took htake | timedOut htake | gave htake =>
        rw [htake] at hpoint
        exact Code.points_trans hpoint
          (List.mem_cons_of_mem _ (Code.self_mem_points _ _))
    | chose hbranch hnext =>
        rw [hbranch] at hpoint
        apply Code.points_trans hpoint
        apply List.mem_cons_of_mem
        rw [List.mem_append]
        rcases hnext with rfl | rfl
        · exact .inl (Code.self_mem_points _ _)
        · exact .inr (Code.self_mem_points _ _)
  · simpa only [Function.update_of_ne hother] using hpoints other

theorem atPoints_of_path {tokens : Lock → ℕ}
    {trace : Trace (State Task Lock) (Task × Choice)}
    (hdisciplined : Disciplined program)
    (hpath : Path (step kernel program) (start program tokens) trace state) :
    AtPoints program state :=
  hpath.invariant (start_atPoints program tokens)
    fun _ _ _ => step_atPoints hdisciplined

/-! ## Conservation of tokens -/

variable [Fintype Task]

/-- The tasks between their take and their give of a lock. -/
def holders (state : State Task Lock) (lock : Lock) : Finset Task :=
  Finset.univ.filter fun task => lock ∈ state.inside task

/-- The tokens in a semaphore plus the tasks inside it. -/
def account (state : State Task Lock) (lock : Lock) : ℕ :=
  state.tokens lock + (holders state lock).card

omit [DecidableEq Task] in
@[simp]
theorem mem_holders {lock : Lock} {task : Task} :
    task ∈ holders state lock ↔ lock ∈ state.inside task := by
  simp [holders]

omit [DecidableEq Task] in
theorem account_start (tokens : Lock → ℕ) (lock : Lock) :
    account (start program tokens) lock = tokens lock := by
  simp [account, holders, start]

/-- Only the task that moves enters or leaves the holders. -/
theorem holders_update {task : Task} {inside : Finset Lock} {lock : Lock}
    (hinside : next.inside = Function.update state.inside task inside) :
    holders next lock =
      if lock ∈ inside then insert task (holders state lock)
      else (holders state lock).erase task := by
  ext other
  rw [mem_holders, hinside]
  by_cases hother : other = task
  · subst hother
    by_cases hmem : lock ∈ inside <;> simp [hmem]
  · by_cases hmem : lock ∈ inside <;> simp [hmem, hother]

theorem holders_same {task : Task} {inside : Finset Lock} {lock : Lock}
    (hinside : next.inside = Function.update state.inside task inside)
    (hsame : lock ∈ inside ↔ lock ∈ state.inside task) :
    holders next lock = holders state lock := by
  rw [holders_update hinside]
  by_cases hmem : lock ∈ inside
  · rw [if_pos hmem, Finset.insert_eq_of_mem (mem_holders.mpr (hsame.mp hmem))]
  · rw [if_neg hmem, Finset.erase_eq_of_notMem]
    rw [mem_holders, ← hsame]
    exact hmem

/-- A step in which no take of `lock` gives up neither makes nor loses a token of
it: at most one moves between the semaphore and a task. -/
theorem step_account (hdisciplined : Disciplined program) {lock : Lock}
    (hwait : action.2 = .timeOut → kernel.takesTimeOut = true →
      kernel.created lock = false)
    (hstep : step kernel program state action = some next)
    (hpoints : AtPoints program state)
    (hle : account state lock ≤ 1) : account next lock = account state lock := by
  obtain ⟨task, choice⟩ := action
  obtain ⟨code, inside, hmoved, -, hinside⟩ := step_moved hstep
  have hproper := hpoints.proper hdisciplined task
  have hsame : (lock ∈ inside ↔ lock ∈ state.inside task) →
      holders next lock = holders state lock := holders_same hinside
  generalize htokens : next.tokens = tokens at hmoved
  simp only [account] at hle ⊢
  rw [htokens]
  cases hmoved with
  | restarted hdone => rw [hsame Iff.rfl]
  | chose hbranch hnext => rw [hsame Iff.rfl]
  | @timedOut taken rest htake hchoice hcreated htimes hempty =>
      have hne : lock ≠ taken := by
        rintro rfl
        simp [hwait hchoice htimes] at hcreated
      rw [hsame (by simp [hne])]
  | @took taken rest htake _ hpos =>
      by_cases heq : lock = taken
      · subst heq
        have houtside : task ∉ holders state lock := by
          rw [htake] at hproper
          exact mt mem_holders.mp hproper
        rw [holders_update hinside, if_pos (Finset.mem_insert_self lock _),
          Finset.card_insert_of_notMem houtside, Function.update_self]
        omega
      · rw [hsame (by simp [heq]), Function.update_of_ne heq]
  | @gave given rest hgive =>
      by_cases heq : lock = given
      · subst heq
        have hheld : task ∈ holders state lock := by
          rw [hgive] at hproper
          exact mem_holders.mpr hproper
        have hpos := Finset.card_pos.mpr ⟨task, hheld⟩
        rw [holders_update hinside, if_neg (Finset.notMem_erase lock _),
          Finset.card_erase_of_mem hheld, Function.update_self]
        omega
      · rw [hsame (by simp [heq]), Function.update_of_ne heq]

/-- All tasks are at points of their iterations, and `lock` has `count` tokens
between its semaphore and its holders. -/
structure Conserved (program : Task → Code Lock) (lock : Lock) (count : ℕ)
    (state : State Task Lock) : Prop where
  atPoints : AtPoints program state
  account_eq : account state lock = count

/-- In a run in which no take of `lock` gives up, its tokens are conserved. -/
theorem account_of_path {tokens : Lock → ℕ} {lock : Lock}
    {trace : Trace (State Task Lock) (Task × Choice)}
    (hdisciplined : Disciplined program) (htokens : tokens lock ≤ 1)
    (hpath : Path (step kernel program) (start program tokens) trace state)
    (hwait : ∀ transition ∈ trace, transition.action.2 = .timeOut →
      kernel.takesTimeOut = true → kernel.created lock = false) :
    account state lock = tokens lock := by
  have hconserved : Conserved program lock (tokens lock) state := by
    apply hpath.preserves
    · exact ⟨start_atPoints program tokens, account_start tokens lock⟩
    · intro transition hmem hstep hbefore
      have hle : account transition.source lock ≤ 1 :=
        hbefore.account_eq.trans_le htokens
      refine ⟨step_atPoints hdisciplined hstep hbefore.atPoints, ?_⟩
      calc account transition.target lock
          = account transition.source lock :=
            step_account hdisciplined (hwait transition hmem) hstep
              hbefore.atPoints hle
        _ = tokens lock := hbefore.account_eq
  exact hconserved.account_eq

end Invariants

end FrequencyRelay.LockPrograms
