import FrequencyRelay.Core.LockPrograms

/-!
# The mutexes of `hello_world.c`

Seven structures of shared state carry a mutex each, and five tasks take up to
four of them in nested sections.  Only the takes and gives are kept here, with a
branch wherever the data decides which of them follow.

Two kernels matter: the one the tasks are written for, where every mutex exists,
is available at first and is waited for, and the one `main` really sets up.
-/

namespace FrequencyRelay.HelloWorld.Locks

open FrequencyRelay.Runs
open FrequencyRelay.LockPrograms

inductive Mutex
  | maintenanceState
  | frequencyHistoryState
  | thresholdState
  | blockedLoadState
  | activatedLoadState
  | loadManagementState
  | stabilityState
  deriving DecidableEq

instance : Fintype Mutex where
  elems := {.maintenanceState, .frequencyHistoryState, .thresholdState,
    .blockedLoadState, .activatedLoadState, .loadManagementState, .stabilityState}
  complete mutex := by cases mutex <;> decide

inductive Task
  | maintenanceTask
  | frequencyAnalyserTask
  | loadManagerTask
  | switchPollTask
  | vgaRefreshTask
  deriving DecidableEq

instance : Fintype Task where
  elems := {.maintenanceTask, .frequencyAnalyserTask, .loadManagerTask,
    .switchPollTask, .vgaRefreshTask}
  complete task := by cases task <;> decide

/-- An iteration in which `maintenanceSemaphore` was not available takes nothing. -/
def maintenanceTask : Code Mutex :=
  .branch .done <|
    .take .maintenanceState <|
    .take .loadManagementState <|
    .take .blockedLoadState <|
    .give .loadManagementState <|
    .give .maintenanceState <|
    .give .blockedLoadState <|
    .done

/-- One round of the inner loop, or none when `frequencyQueue` is empty. -/
def frequencyAnalyserTask : Code Mutex :=
  .branch .done <|
    .take .frequencyHistoryState <|
    .take .thresholdState <|
    .give .thresholdState <|
    .take .stabilityState <|
    .take .maintenanceState <|
    .give .maintenanceState <|
    .give .stabilityState <|
    .give .frequencyHistoryState <|
    .done

/-- Nothing is taken without a request, nor while the timer is active. -/
def loadManagerTask : Code Mutex :=
  .branch .done <|
    .take .blockedLoadState <|
    .take .activatedLoadState <|
    .take .stabilityState <|
    .take .loadManagementState <|
    .give .loadManagementState <|
    .give .stabilityState <|
    .give .blockedLoadState <|
    .give .activatedLoadState <|
    .done

/-- The branch is on `isManagingLoads`. -/
def switchPollTask : Code Mutex :=
  .take .loadManagementState <|
    .branch
      (.give .loadManagementState .done) <|
      .take .activatedLoadState <|
      .take .blockedLoadState <|
      .give .activatedLoadState <|
      .give .blockedLoadState <|
      .give .loadManagementState <|
      .done

def vgaRefreshTask : Code Mutex :=
  .take .frequencyHistoryState <|
    .take .thresholdState <|
    .give .thresholdState <|
    .give .frequencyHistoryState <|
    .done

def Task.program : Task → Code Mutex
  | .maintenanceTask => Locks.maintenanceTask
  | .frequencyAnalyserTask => Locks.frequencyAnalyserTask
  | .loadManagerTask => Locks.loadManagerTask
  | .switchPollTask => Locks.switchPollTask
  | .vgaRefreshTask => Locks.vgaRefreshTask

abbrev LockState := LockPrograms.State Task Mutex
abbrev LockTrace := Trace LockState (Task × Choice)

/-- No task takes a mutex twice or gives one that it has not taken. -/
theorem program_disciplined : Disciplined Task.program := by
  intro task
  cases task <;> decide

/-! ## Circular waiting -/

/-- Every mutex exists, and `portMAX_DELAY` waits until it is available. -/
def waiting : Kernel Mutex := ⟨fun _ => true, false⟩

def available : LockState := start Task.program fun _ => 1

/-- `loadManagerTask` is inside `blockedLoadState` and not yet inside
`loadManagementState`, while `maintenanceTask` or `switchPollTask`, which take the
two in the other order, is between them. -/
def Crossed (state : LockState) : Prop :=
  .blockedLoadState ∈ state.inside .loadManagerTask ∧
    (state.code .loadManagerTask).wants.isSome = true ∧
      ((state.code .maintenanceTask).wants = some .blockedLoadState ∨
        (state.code .switchPollTask).wants = some .activatedLoadState ∨
        (state.code .switchPollTask).wants = some .blockedLoadState)

instance : DecidablePred Crossed :=
  fun _ => inferInstanceAs (Decidable (_ ∧ _))

/-- The order of `maintenanceTask` and `switchPollTask`. -/
def managementFirst : Mutex → ℕ
  | .frequencyHistoryState => 0
  | .stabilityState => 1
  | .maintenanceState => 2
  | .loadManagementState => 3
  | .activatedLoadState => 4
  | .blockedLoadState => 5
  | .thresholdState => 6

/-- The order of `loadManagerTask`. -/
def managementLast : Mutex → ℕ
  | .frequencyHistoryState => 0
  | .blockedLoadState => 1
  | .activatedLoadState => 2
  | .stabilityState => 3
  | .maintenanceState => 4
  | .loadManagementState => 5
  | .thresholdState => 6

/-- At this point of an iteration the mutex asked for ranks above those held. -/
def Ascends (rank : Mutex → ℕ) (point : Code Mutex × Finset Mutex) : Prop :=
  ∀ lock, point.1.wants = some lock → ∀ held ∈ point.2, rank held < rank lock

instance (rank : Mutex → ℕ) : DecidablePred (Ascends rank) :=
  fun _ => inferInstanceAs (Decidable (∀ _, _))

/-- Outside `blockedLoadState`, all tasks follow the first order. -/
theorem ascends_managementFirst (task : Task) :
    ∀ point ∈ task.program.points ∅,
      ¬ (task = .loadManagerTask ∧ .blockedLoadState ∈ point.2 ∧
        point.1.wants.isSome = true) →
      Ascends managementFirst point := by
  cases task <;> decide

/-- Where no task is between the two mutexes, all tasks follow the second. -/
theorem ascends_managementLast (task : Task) :
    ∀ point ∈ task.program.points ∅,
      ¬ (task = .maintenanceTask ∧ point.1.wants = some .blockedLoadState) →
      ¬ (task = .switchPollTask ∧ (point.1.wants = some .activatedLoadState ∨
        point.1.wants = some .blockedLoadState)) →
      Ascends managementLast point := by
  cases task <;> decide

/-- A state in which the two orders have not crossed has no circular wait. -/
theorem not_circularWait_of_not_crossed {state : LockState}
    (hpoints : AtPoints Task.program state) (hcrossed : ¬ Crossed state) :
    ¬ CircularWait state := by
  by_cases hmanager : .blockedLoadState ∈ state.inside .loadManagerTask ∧
      (state.code .loadManagerTask).wants.isSome = true
  · apply not_circularWait_of_rank managementLast
    intro task
    apply ascends_managementLast task _ (hpoints task)
    · rintro ⟨rfl, hwants⟩
      exact hcrossed ⟨hmanager.1, hmanager.2, .inl hwants⟩
    · rintro ⟨rfl, hwants⟩
      exact hcrossed ⟨hmanager.1, hmanager.2, .inr hwants⟩
  · apply not_circularWait_of_rank managementFirst
    intro task
    apply ascends_managementFirst task _ (hpoints task)
    rintro ⟨rfl, hinside⟩
    exact hmanager hinside

/-- A run in which the two orders never cross meets no circular wait. -/
theorem circularWait_free_of_uncrossed {trace : LockTrace} {state : LockState}
    (hpath : Path (step waiting Task.program) available trace state)
    (huncrossed : ∀ passed ∈ visited available trace, ¬ Crossed passed) :
    ∀ passed ∈ visited available trace, ¬ CircularWait passed := by
  intro passed hpassed
  obtain ⟨before, after, -, hearlier⟩ := hpath.prefix_of_visited hpassed
  exact not_circularWait_of_not_crossed
    (atPoints_of_path program_disciplined hearlier) (huncrossed passed hpassed)

/-- A pass of `maintenanceTask`, and after it one of `loadManagerTask` up to its
last take. -/
def onePassEach : List (Task × Choice) :=
  (.maintenanceTask, .right) :: List.replicate 6 (.maintenanceTask, .proceed) ++
    (.loadManagerTask, .right) :: List.replicate 4 (.loadManagerTask, .proceed)

theorem circularWait_free_onePassEach :
    ∃ run, follow (step waiting Task.program) available onePassEach = some run ∧
      .loadManagementState ∈ run.2.inside .loadManagerTask ∧
        ∀ passed ∈ visited available run.1, ¬ CircularWait passed :=
  ⟨_, (Option.some_get rfl).symm, by decide,
    circularWait_free_of_uncrossed (path_of_schedule rfl)
      (by decide)⟩

/-- `loadManagerTask` takes `blockedLoadState` and `maintenanceTask` takes
`loadManagementState`, each on its way to the other. -/
def oppositeOrders : List (Task × Choice) :=
  (.loadManagerTask, .right) :: List.replicate 3 (.loadManagerTask, .proceed) ++
    (.maintenanceTask, .right) :: List.replicate 2 (.maintenanceTask, .proceed)

/-- The two tasks wait for one another. -/
theorem circularWait_reachable :
    ¬ ∀ state, Reachable (step waiting Task.program) available state →
      ¬ CircularWait state := by
  intro hclaim
  let run := (follow (step waiting Task.program) available oppositeOrders).get rfl
  have hreach : Reachable (step waiting Task.program) available run.2 :=
    ⟨run.1, path_of_schedule rfl⟩
  have hmanager : WaitsFor run.2 .loadManagerTask .maintenanceTask :=
    ⟨.loadManagementState, rfl, rfl, by decide⟩
  have hmaintenance : WaitsFor run.2 .maintenanceTask .loadManagerTask :=
    ⟨.blockedLoadState, rfl, rfl, by decide⟩
  exact hclaim run.2 hreach ⟨.loadManagerTask, .tail (.single hmanager) hmaintenance⟩

/-! ## Crossed orders stay crossed -/

theorem account_waiting {trace : LockTrace} {state : LockState}
    (hpath : Path (step waiting Task.program) available trace state)
    (mutex : Mutex) : account state mutex = 1 :=
  account_of_path program_disciplined le_rfl hpath fun _ _ _ htimes => by
    cases htimes

/-- Two tasks are never inside one mutex. -/
theorem mutual_exclusion {state : LockState}
    (hreach : Reachable (step waiting Task.program) available state)
    {mutex : Mutex} {first second : Task} (hfirst : mutex ∈ state.inside first)
    (hsecond : mutex ∈ state.inside second) : first = second := by
  obtain ⟨trace, hpath⟩ := hreach
  have haccount := account_waiting hpath mutex
  have hone : (holders state mutex).card ≤ 1 := by
    unfold account at haccount
    omega
  exact Finset.card_le_one.mp hone first (mem_holders.mpr hfirst) second
    (mem_holders.mpr hsecond)

/-- A mutex that some task is inside of has no token. -/
theorem tokens_eq_zero_of_inside {state : LockState}
    (hreach : Reachable (step waiting Task.program) available state)
    {mutex : Mutex} {task : Task} (hinside : mutex ∈ state.inside task) :
    state.tokens mutex = 0 := by
  obtain ⟨trace, hpath⟩ := hreach
  have haccount := account_waiting hpath mutex
  have hheld := Finset.card_pos.mpr ⟨task, mem_holders.mpr hinside⟩
  unfold account at haccount
  omega

/-- Inside `blockedLoadState`, one take of `loadManagerTask` follows the other up to
`loadManagementState`. -/
theorem loadManagerTask_takes :
    ∀ point ∈ loadManagerTask.points ∅, .blockedLoadState ∈ point.2 →
      point.1.wants.isSome = true → point.1.wants ≠ some .loadManagementState →
        point.1.rest.wants.isSome = true := by
  decide

/-- `maintenanceTask` takes `blockedLoadState` inside `loadManagementState`. -/
theorem maintenanceTask_takes :
    ∀ point ∈ maintenanceTask.points ∅, point.1.wants = some .blockedLoadState →
      .loadManagementState ∈ point.2 := by
  decide

/-- So does `switchPollTask`, after it took `activatedLoadState` there. -/
theorem switchPollTask_takes :
    ∀ point ∈ switchPollTask.points ∅, point.1.wants = some .activatedLoadState ∨
      point.1.wants = some .blockedLoadState →
        .loadManagementState ∈ point.2 ∧
          (point.1.wants = some .activatedLoadState →
            point.1.rest.wants = some .blockedLoadState) := by
  decide

/-- While the orders are crossed, `loadManagementState` is not to be had. -/
theorem Crossed.tokens {state : LockState}
    (hreach : Reachable (step waiting Task.program) available state)
    (hcrossed : Crossed state) : state.tokens .loadManagementState = 0 := by
  obtain ⟨trace, hpath⟩ := hreach
  have hpoints := atPoints_of_path program_disciplined hpath
  rcases hcrossed.2.2 with hmaintenance | hpoll
  · exact tokens_eq_zero_of_inside ⟨trace, hpath⟩
      (maintenanceTask_takes _ (hpoints .maintenanceTask) hmaintenance)
  · exact tokens_eq_zero_of_inside ⟨trace, hpath⟩
      (switchPollTask_takes _ (hpoints .switchPollTask) hpoll).1

/-- No step uncrosses the orders: `loadManagerTask` keeps `blockedLoadState` until
it has `loadManagementState`, and the other task keeps that one until it has
`blockedLoadState`. -/
theorem step_crossed {state next : LockState} {action : Task × Choice}
    (hreach : Reachable (step waiting Task.program) available state)
    (hstep : step waiting Task.program state action = some next)
    (hcrossed : Crossed state) : Crossed next := by
  obtain ⟨task, choice⟩ := action
  have hpoints : AtPoints Task.program state := by
    obtain ⟨trace, hpath⟩ := hreach
    exact atPoints_of_path program_disciplined hpath
  have hmanagement := hcrossed.tokens hreach
  obtain ⟨hinside, hwants, hother⟩ := hcrossed
  have hblocked := tokens_eq_zero_of_inside hreach hinside
  have hkept : ∀ other, other ≠ task → next.code other = state.code other :=
    fun other hne => (step_other hstep hne).1
  have hmanager : .blockedLoadState ∈ next.inside .loadManagerTask ∧
      (next.code .loadManagerTask).wants.isSome = true := by
    by_cases htask : task = .loadManagerTask
    · subst htask
      obtain ⟨lock, hlock⟩ := Option.isSome_iff_exists.mp hwants
      obtain ⟨hpos, hcode, htaken⟩ := step_wanting rfl hstep hlock
      have hne : (state.code .loadManagerTask).wants ≠ some .loadManagementState := by
        rintro heq
        obtain rfl := Option.some.inj (hlock.symm.trans heq)
        omega
      rw [htaken, hcode]
      exact ⟨Finset.mem_insert_of_mem hinside,
        loadManagerTask_takes _ (hpoints .loadManagerTask) hinside hwants hne⟩
    · obtain ⟨hcode, hsame⟩ := step_other hstep (Ne.symm htask)
      rw [hcode, hsame]
      exact ⟨hinside, hwants⟩
  refine ⟨hmanager.1, hmanager.2, ?_⟩
  rcases hother with hmaintenance | hpoll
  · left
    rw [hkept]
    · exact hmaintenance
    · rintro rfl
      have := (step_wanting rfl hstep hmaintenance).1
      omega
  · right
    by_cases htask : task = .switchPollTask
    · subst htask
      rcases hpoll with hactivated | hwantsBlocked
      · right
        rw [(step_wanting rfl hstep hactivated).2.1]
        exact (switchPollTask_takes _ (hpoints .switchPollTask)
          (.inl hactivated)).2 hactivated
      · have := (step_wanting rfl hstep hwantsBlocked).1
        omega
    · rw [hkept .switchPollTask (Ne.symm htask)]
      exact hpoll

/-- Once the orders have crossed, `loadManagerTask` never ends its iteration. -/
theorem crossed_forever {trace later : LockTrace} {state final : LockState}
    (hpath : Path (step waiting Task.program) available trace state)
    (hlater : Path (step waiting Task.program) state later final)
    (hcrossed : Crossed state) : Crossed final := by
  induction hlater with
  | nil => exact hcrossed
  | snoc hearlier hstep ih =>
      exact step_crossed ⟨_, path_append_iff.mpr ⟨state, hpath, hearlier⟩⟩ hstep ih

/-! ## The mutexes that `main` sets up -/

/-- `setupStates` creates every mutex but that of `stabilityState`, and a take
waits for a finite time only. -/
def fromMain : Kernel Mutex := ⟨fun mutex => mutex != .stabilityState, true⟩

/-- A new binary semaphore is empty, and none is given before the tasks run. -/
def created : LockState := start Task.program fun _ => 0

/-- Already the first state of a run has no token of any mutex.  None appears
before a take has given up, and none of `stabilityState` ever. -/
theorem mutex_tokens_not_conserved (mutex : Mutex) {trace : LockTrace}
    {state : LockState}
    (hpath : Path (step fromMain Task.program) created trace state) :
    ¬ (∀ passed ∈ visited created trace, account passed mutex = 1) ∧
      ((mutex ≠ .stabilityState →
        ∀ transition ∈ trace, transition.action.2 ≠ .timeOut) →
          account state mutex = 0) := by
  constructor
  · intro hconserved
    have hfirst := hconserved created List.mem_cons_self
    rw [created, account_start] at hfirst
    exact absurd hfirst (by decide)
  · intro hwaits
    apply account_of_path program_disciplined (by decide) hpath
    intro transition hmem htimeOut _
    by_cases hmutex : mutex = .stabilityState
    · rw [hmutex]
      rfl
    · exact absurd htimeOut (hwaits hmutex transition hmem)

/-- `frequencyAnalyserTask` and `vgaRefreshTask` stop waiting for
`frequencyHistoryState` and go on. -/
def twoTimeOuts : List (Task × Choice) :=
  [(.frequencyAnalyserTask, .right), (.frequencyAnalyserTask, .timeOut),
    (.vgaRefreshTask, .timeOut)]

theorem mutex_tokens_not_conserved_twoTimeOuts :
    ∃ run, follow (step fromMain Task.program) created twoTimeOuts = some run ∧
      (¬ ∀ passed ∈ visited created run.1, account passed .stabilityState = 1) ∧
        account run.2 .stabilityState = 0 :=
  ⟨_, (Option.some_get rfl).symm,
    (mutex_tokens_not_conserved .stabilityState
      (path_of_schedule rfl)).1,
    (mutex_tokens_not_conserved .stabilityState
      (path_of_schedule rfl)).2 fun hmutex => absurd rfl hmutex⟩

/-- Two tasks are inside one mutex. -/
theorem mutex_held_twice :
    ¬ ∀ mutex state, Reachable (step fromMain Task.program) created state →
      account state mutex = 1 := by
  intro hclaim
  let run := (follow (step fromMain Task.program) created twoTimeOuts).get rfl
  have htwice : account run.2 .frequencyHistoryState = 2 := by decide
  have hone := hclaim .frequencyHistoryState run.2
    ⟨run.1, path_of_schedule rfl⟩
  exact absurd (htwice.symm.trans hone) (by decide)

end FrequencyRelay.HelloWorld.Locks
