import Mathlib.Data.Finset.Sort
import FrequencyRelay.Core.Runs
import FrequencyRelay.HelloWorld.Model

/-!
# How long reconnecting takes

Requests that find the grid stable and the timer dormant give the blocked loads
back, the most important one first.  There is one request for each of them, and the
last one leaves load management without starting the timer again.
-/

namespace FrequencyRelay.HelloWorld

open FrequencyRelay.BitMasks
open FrequencyRelay.LoadScan
open FrequencyRelay.OneShotTimer
open FrequencyRelay.Runs

variable (config : Config)

/-- What `loadManagerTask` sends in a run. -/
def managerMessages (trace : Trace State Action) : List LoadStatus :=
  trace.filterMap fun transition => managerMessage transition.source transition.action

/-- The blocked loads in the order in which they come back. -/
def restoreOrder (blocked : Word) : List ℕ := (members blocked).sort (· ≥ ·)

/-- The next request is found with the loads as they were left, on a stable grid, by
the waiting task and with the timer dormant.  Everything else is arbitrary. -/
structure Resumes (left found : State) : Prop where
  activatedLoads : found.activatedLoads = left.activatedLoads
  blockedLoads : found.blockedLoads = left.blockedLoads
  isManagingLoads : found.isManagingLoads = left.isManagingLoads
  isStable : found.isStable = true
  dormant : found.loadManagementTimer.active = false
  given : found.loadManagementSemaphore = true
  waiting : found.loadManagers .task = some .takeSemaphore

instance (left found : State) : Decidable (Resumes left found) :=
  decidable_of_iff
    (found.activatedLoads = left.activatedLoads ∧
      found.blockedLoads = left.blockedLoads ∧
      found.isManagingLoads = left.isManagingLoads ∧ found.isStable = true ∧
      found.loadManagementTimer.active = false ∧
      found.loadManagementSemaphore = true ∧
      found.loadManagers .task = some .takeSemaphore)
    ⟨fun ⟨hactivated, hblocked, hmanaging, hstable, hdormant, hgiven, hwaiting⟩ =>
      ⟨hactivated, hblocked, hmanaging, hstable, hdormant, hgiven, hwaiting⟩,
    fun ⟨hactivated, hblocked, hmanaging, hstable, hdormant, hgiven, hwaiting⟩ =>
      ⟨hactivated, hblocked, hmanaging, hstable, hdormant, hgiven, hwaiting⟩⟩

/-- One request from the state in which it is found, if the task can come to it. -/
def handleRequest (left found : State) : Option State :=
  if Resumes left found then (follow (step config) found request).map Prod.snd
  else none

/-- How many requests the recovery takes. -/
def requestsNeeded (blocked : Word) : ℕ := max 1 (members blocked).card

/-- The request after those of `before` gives back the next load in order, reports the
set difference of the two masks, and starts the timer if it is not the last one. -/
structure RestoresNext (start : State) (before : Trace State State)
    (handled : Transition State State) : Prop where
  restoredUpTo : restoreOrder handled.source.blockedLoads =
    (restoreOrder start.blockedLoads).drop before.length
  restoresNext : restoreOrder handled.target.blockedLoads =
    (restoreOrder start.blockedLoads).drop (before.length + 1)
  isManagingLoads : handled.target.isManagingLoads =
    decide (before.length + 1 < requestsNeeded start.blockedLoads)
  message : ∃ run loads, follow (step config) handled.action request = some run ∧
    managerMessages run.1 = [loads] ∧
    members loads.activatedLoads =
      members handled.target.activatedLoads \ members handled.target.blockedLoads ∧
    loads.blockedLoads = handled.target.blockedLoads
  resets : ∃ resets, handled.target.loadManagementTimer.commands =
      handled.action.loadManagementTimer.commands ++ List.replicate resets .reset ∧
    (0 < resets ↔ before.length + 1 < requestsNeeded start.blockedLoads)

/-- What `loadManagerTask` finds when it enters the mutexes for a request. -/
def admitted (found : State) : State :=
  { found with
    loadManagementSemaphore := false
    loadManagers := Function.update found.loadManagers .task (some .manage) }

/-- What it leaves there, with its message still to send. -/
def decided (found : State) : State :=
  let managed := manageLoads config (admitted found)
  { managed with
    loadManagers :=
      Function.update (admitted found).loadManagers .task
        (some (.send (loadStatus managed))) }

/-- What it leaves when its message is sent. -/
def answered (found : State) : State :=
  { sendToBack config (loadStatus (decided config found)) (decided config found) with
    loadManagers :=
      Function.update (decided config found).loadManagers .task
        (some .takeSemaphore) }

variable {config} {state next found : State}

/-! ## One request -/

theorem follow_request (config : Config) {found : State}
    (hgiven : found.loadManagementSemaphore = true)
    (hdormant : found.loadManagementTimer.active = false)
    (hwaiting : found.loadManagers .task = some .takeSemaphore) :
    ∃ run, follow (step config) found request = some run ∧
      run.2 = answered config found ∧
      managerMessages run.1 = [loadStatus (decided config found)] := by
  let taken : State := { found with
    loadManagementSemaphore := false
    loadManagers := Function.update found.loadManagers .task (some .checkTimer) }
  have htake : step config found (.loadManager .task) = some taken := by
    simp [step, hwaiting, loadManagerTask, hgiven, taken]
  have hcheck : step config taken (.loadManager .task) = some (admitted found) := by
    simp [step, loadManagerTask, hdormant, taken, admitted]
  have hmanage : step config (admitted found) (.loadManager .task) =
      some (decided config found) := by
    simp [step, loadManagerTask, admitted, decided]
  have hsend : step config (decided config found) (.loadManager .task) =
      some (answered config found) := by
    simp [step, loadManagerTask, decided, answered, loadStatus]
  have hrun : follow (step config) found request =
      some ([⟨found, .loadManager .task, taken⟩,
        ⟨taken, .loadManager .task, admitted found⟩,
        ⟨admitted found, .loadManager .task, decided config found⟩,
        ⟨decided config found, .loadManager .task, answered config found⟩],
        answered config found) := by
    simp only [request, List.replicate, follow, htake, hcheck, hmanage, hsend,
      Option.bind_some, Option.map_some]
  refine ⟨_, hrun, rfl, ?_⟩
  simp [managerMessages, managerMessage, hwaiting, taken, admitted, decided, loadStatus]

/-- What `loadManagerTask` does to the loads and the timer when the grid is stable. -/
theorem manageLoads_stable (hnum : config.numOfLoads ≤ 32)
    (hwithin : members state.blockedLoads ⊆ Finset.range config.numOfLoads)
    (hstable : state.isStable = true) (hmanaging : state.isManagingLoads = true) :
    manageLoads config state =
      if restoreOne config.numOfLoads state.blockedLoads = 0 then
        { state with blockedLoads := 0, isManagingLoads := false }
      else
        { state with
          blockedLoads := restoreOne config.numOfLoads state.blockedLoads
          loadManagementTimer :=
            (state.loadManagementTimer.send .reset).send .reset } := by
  split
  case isTrue hlast =>
    have hreset : restoreResets config.numOfLoads state.blockedLoads = false := by
      simp [restoreResets, hlast]
    simp [manageLoads, hstable, hmanaging, activateLoad, hreset, hlast]
  case isFalse hmore =>
    have hreset : restoreResets config.numOfLoads state.blockedLoads = true := by
      by_contra hnever
      exact hmore (restoreOne_eq_zero hnum hwithin (by simpa using hnever))
    have hpos := (BitVec.pos_iff_ne_zero _).mpr hmore
    simp [manageLoads, hstable, hmanaging, activateLoad, hreset, hpos, resetTimer]

/-- One request on a stable grid, seen from outside: the message, the loads, and the
commands for the timer. -/
theorem answered_stable (hnum : config.numOfLoads ≤ 32)
    (hwithin : members found.blockedLoads ⊆ Finset.range config.numOfLoads)
    (hstable : found.isStable = true) (hmanaging : found.isManagingLoads = true) :
    (answered config found).activatedLoads = found.activatedLoads ∧
      (answered config found).blockedLoads =
        restoreOne config.numOfLoads found.blockedLoads ∧
      (answered config found).isManagingLoads =
        (restoreOne config.numOfLoads found.blockedLoads != 0) ∧
      (answered config found).loadManagementTimer.commands =
        found.loadManagementTimer.commands ++
          (if restoreOne config.numOfLoads found.blockedLoads = 0 then []
            else [.reset, .reset]) ∧
      loadStatus (decided config found) = loadStatus (answered config found) := by
  obtain ⟨queue, hqueue⟩ :=
    sendToBack_eq config (loadStatus (decided config found)) (decided config found)
  have hmanaged : manageLoads config (admitted found) = _ :=
    manageLoads_stable hnum hwithin hstable hmanaging
  rw [answered, hqueue, decided, hmanaged]
  by_cases hlast : restoreOne config.numOfLoads found.blockedLoads = 0
  · rw [if_pos (show restoreOne _ (admitted found).blockedLoads = 0 from hlast)]
    simp [admitted, hlast, loadStatus]
  · rw [if_neg (show restoreOne _ (admitted found).blockedLoads ≠ 0 from hlast),
      if_neg hlast]
    simpa [admitted, loadStatus, hmanaging] using hlast

/-! ## The order of the loads -/

theorem toFinset_restoreOrder (blocked : Word) :
    (restoreOrder blocked).toFinset = members blocked :=
  Finset.sort_toFinset (members blocked) (· ≥ ·)

theorem restoreOrder_eq_nil_iff {blocked : Word} :
    restoreOrder blocked = [] ↔ blocked = 0 := by
  rw [← List.toFinset_eq_empty_iff, toFinset_restoreOrder]
  exact members_eq_empty_iff

theorem length_restoreOrder (blocked : Word) :
    (restoreOrder blocked).length = (members blocked).card :=
  Finset.length_sort (· ≥ ·)

/-- The downward loop gives back the first load of the order. -/
theorem restoreOrder_restoreOne {numOfLoads : ℕ} {blocked : Word}
    (hnum : numOfLoads ≤ 32) (hwithin : members blocked ⊆ Finset.range numOfLoads) :
    restoreOrder (restoreOne numOfLoads blocked) = (restoreOrder blocked).tail := by
  have hsorted : (restoreOrder blocked).Pairwise (· ≥ ·) := Finset.pairwise_sort _ _
  have hnodup : (restoreOrder blocked).Nodup := Finset.sort_nodup _ _
  have hset := toFinset_restoreOrder blocked
  cases horder : restoreOrder blocked with
  | nil =>
      obtain rfl := restoreOrder_eq_nil_iff.mp horder
      rw [restoreOne_nothing, horder]
      rfl
  | cons greatest rest =>
      rw [horder, List.toFinset_cons] at hset
      rw [horder, List.pairwise_cons] at hsorted
      rw [horder, List.nodup_cons] at hnodup
      have hmem : greatest ∈ members blocked := by simp [← hset]
      have hfound : greatestBlocked blocked numOfLoads = some greatest := by
        apply (greatestBlocked_eq_some_iff hnum).mpr
        refine ⟨Finset.mem_range.mp (hwithin hmem), hmem, fun other hother _ => ?_⟩
        rw [← hset, Finset.mem_insert, List.mem_toFinset] at hother
        rcases hother with rfl | hother
        · exact le_refl other
        · exact hsorted.1 other hother
      rw [restoreOne, hfound, restoreOrder]
      simp only
      rw [members_sub_bit hmem, ← hset, Finset.erase_insert (by simpa using hnodup.1)]
      exact (List.toFinset_sort _ hnodup.2).mpr hsorted.2

/-! ## The requests of a recovery -/

/-- The loads after `count` requests. -/
structure AfterRequests (start : State) (count : ℕ) (state : State) : Prop where
  activatedLoads : state.activatedLoads = start.activatedLoads
  restoreOrder : restoreOrder state.blockedLoads =
    (restoreOrder start.blockedLoads).drop count
  isManagingLoads : state.isManagingLoads =
    decide (count < requestsNeeded start.blockedLoads)

theorem handleRequest_eq_some_iff {left : State} :
    handleRequest config left found = some next ↔
      Resumes left found ∧ next = answered config found := by
  rw [handleRequest]
  split
  case isTrue hresumes =>
    obtain ⟨run, hrun, hnext, -⟩ := follow_request config hresumes.given
      hresumes.dormant hresumes.waiting
    rw [hrun, Option.map_some, Option.some.injEq, hnext]
    exact ⟨fun heq => ⟨hresumes, heq.symm⟩, fun heq => heq.2.symm⟩
  case isFalse hnever =>
    apply iff_of_false
    · simp
    · exact fun heq => hnever heq.1

/-- A request found with the loads as they were left -/
def State.requested (left : State) : State :=
  { left with
    isStable := true
    loadManagementSemaphore := true
    loadManagementTimer := .dormant
    loadManagers := fun _ => some .takeSemaphore }

/-- Requests can always be found. -/
theorem exists_path (start : State) (count : ℕ) : ∃ trace finish,
    Path (handleRequest config) start trace finish ∧ trace.length = count := by
  induction count with
  | zero => exact ⟨[], start, .nil, rfl⟩
  | succ count ih =>
      obtain ⟨trace, left, hpath, hlength⟩ := ih
      have hresumes : Resumes left left.requested := ⟨rfl, rfl, rfl, rfl, rfl, rfl, rfl⟩
      exact ⟨_, _, hpath.snoc (handleRequest_eq_some_iff.mpr ⟨hresumes, rfl⟩), by
        simp [hlength]⟩

theorem members_subset_of_restoreOrder_drop {blocked other : Word} {count : ℕ}
    (hdrop : restoreOrder other = (restoreOrder blocked).drop count) :
    members other ⊆ members blocked := by
  rw [← toFinset_restoreOrder, ← toFinset_restoreOrder blocked, hdrop]
  intro load hload
  exact List.mem_toFinset.mpr (List.mem_of_mem_drop (List.mem_toFinset.mp hload))

section Recovery

variable {start : State} {count : ℕ}

/-- No load is blocked any more exactly after the last request. -/
theorem blocked_eq_zero_iff {blocked : Word}
    (hdrop : restoreOrder blocked = (restoreOrder start.blockedLoads).drop (count + 1)) :
    blocked = 0 ↔ ¬ count + 1 < requestsNeeded start.blockedLoads := by
  rw [← restoreOrder_eq_nil_iff, hdrop, List.drop_eq_nil_iff, length_restoreOrder,
    requestsNeeded]
  omega

variable (hnum : config.numOfLoads ≤ 30)
variable (hwithin : members start.blockedLoads ⊆ Finset.range config.numOfLoads)
include hnum hwithin

/-- What one request of a recovery does. -/
theorem AfterRequests.answered (hafter : AfterRequests start count state)
    (hcount : count < requestsNeeded start.blockedLoads)
    (hresumes : Resumes state found) :
    AfterRequests start (count + 1) (answered config found) ∧
      (HelloWorld.answered config found).loadManagementTimer.commands =
        found.loadManagementTimer.commands ++
          (if count + 1 < requestsNeeded start.blockedLoads then [.reset, .reset]
            else []) ∧
      loadStatus (decided config found) =
        loadStatus (HelloWorld.answered config found) := by
  have hblocked : HelloWorld.restoreOrder found.blockedLoads = _ :=
    hresumes.blockedLoads ▸ hafter.restoreOrder
  have hmanaging : found.isManagingLoads = true := by
    rw [hresumes.isManagingLoads, hafter.isManagingLoads]
    simpa using hcount
  have hscanned := (members_subset_of_restoreOrder_drop hblocked).trans hwithin
  obtain ⟨hactivated, hrest, hmanages, hcommands, hmessage⟩ :=
    answered_stable (by omega) hscanned hresumes.isStable hmanaging
  have horder : HelloWorld.restoreOrder (restoreOne config.numOfLoads found.blockedLoads) =
      (HelloWorld.restoreOrder start.blockedLoads).drop (count + 1) := by
    rw [restoreOrder_restoreOne (by omega) hscanned, hblocked, List.tail_drop]
  have hlast := blocked_eq_zero_iff horder
  rw [← hrest] at horder hlast hmanages hcommands
  have hloads := hactivated.trans (hresumes.activatedLoads.trans hafter.activatedLoads)
  by_cases hmore : count + 1 < requestsNeeded start.blockedLoads
  · have hkept := mt hlast.mp (not_not.mpr hmore)
    rw [if_neg hkept] at hcommands
    rw [bne_iff_ne.mpr hkept] at hmanages
    rw [if_pos hmore]
    exact ⟨⟨hloads, horder, hmanages.trans (decide_eq_true hmore).symm⟩, hcommands,
      hmessage⟩
  · have hdone := hlast.mpr hmore
    rw [if_pos hdone] at hcommands
    rw [bne_eq_false_iff_eq.mpr hdone] at hmanages
    rw [if_neg hmore]
    exact ⟨⟨hloads, horder, hmanages.trans (decide_eq_false hmore).symm⟩, hcommands,
      hmessage⟩

variable (hmanaging : start.isManagingLoads = true)
include hmanaging

/-- The loads after every run of requests that is no longer than needed. -/
theorem afterRequests_of_path {trace : Trace State State} {finish : State}
    (hpath : Path (handleRequest config) start trace finish)
    (hlength : trace.length ≤ requestsNeeded start.blockedLoads) :
    AfterRequests start trace.length finish := by
  induction hpath with
  | nil => 
      refine ⟨rfl, rfl, ?_⟩
      rw [hmanaging]
      simp [requestsNeeded]
  | snoc hearlier hstep ih =>
      rw [List.length_append, List.length_singleton] at hlength ⊢
      obtain ⟨hresumes, rfl⟩ := handleRequest_eq_some_iff.mp hstep
      exact ((ih (by omega)).answered hnum hwithin (by omega) hresumes).1

theorem restoresNext_of_path {trace : Trace State State} {finish : State}
    (hsubset : members start.blockedLoads ⊆ members start.activatedLoads)
    (hpath : Path (handleRequest config) start trace finish)
    (hlength : trace.length ≤ requestsNeeded start.blockedLoads) :
    AtEach (RestoresNext config start) trace := by
  rintro before ⟨left, found, next⟩ after rfl
  obtain ⟨hbefore, hstep, -⟩ := path_append_cons_iff.mp hpath
  rw [List.length_append, List.length_cons] at hlength
  dsimp only at hstep hbefore
  obtain ⟨hresumes, rfl⟩ := handleRequest_eq_some_iff.mp hstep
  have hafter : AfterRequests start before.length left :=
    afterRequests_of_path hnum hwithin hmanaging hbefore (by omega)
  obtain ⟨hnext, hcommands, hmessage⟩ :=
    hafter.answered hnum hwithin (by omega) hresumes
  obtain ⟨run, hrun, -, hsent⟩ := follow_request config hresumes.given
    hresumes.dormant hresumes.waiting
  refine ⟨hafter.restoreOrder, hnext.restoreOrder, hnext.isManagingLoads,
    ⟨run, _, hrun, hsent, ?_, ?_⟩, ?_⟩
  · rw [hmessage]
    apply members_sub
    rw [hnext.activatedLoads]
    exact (members_subset_of_restoreOrder_drop hnext.restoreOrder).trans hsubset
  · rw [hmessage]
    rfl
  · dsimp only
    rw [hcommands]
    split
    case isTrue hmore => exact ⟨2, rfl, by simp [hmore]⟩
    case isFalse hdone => exact ⟨0, rfl, by simp [hdone]⟩

end Recovery

/-- Recovery gives the blocked loads back in order, one for each request, and takes
no request more. -/
theorem recovery_exact (hnum : config.numOfLoads ≤ 30) {start : State}
    (hmanaging : start.isManagingLoads = true)
    (hsubset : members start.blockedLoads ⊆ members start.activatedLoads)
    (hwithin : members start.blockedLoads ⊆ Finset.range config.numOfLoads) :
    (∀ trace finish, Path (handleRequest config) start trace finish →
      trace.length ≤ requestsNeeded start.blockedLoads →
        AtEach (RestoresNext config start) trace ∧
        (trace.length < requestsNeeded start.blockedLoads →
          finish.isManagingLoads = true) ∧
        (trace.length = requestsNeeded start.blockedLoads →
          finish.isManagingLoads = false ∧ finish.blockedLoads = 0)) ∧
    ∃ trace finish, Path (handleRequest config) start trace finish ∧
      trace.length = requestsNeeded start.blockedLoads := by
  refine ⟨fun trace finish hpath hlength => ?_, exists_path start _⟩
  have hafter := afterRequests_of_path hnum hwithin hmanaging hpath hlength
  refine ⟨restoresNext_of_path hnum hwithin hmanaging hsubset hpath hlength, ?_, ?_⟩
  · intro hmore
    rw [hafter.isManagingLoads, decide_eq_true hmore]
  · intro hlast
    refine ⟨by rw [hafter.isManagingLoads, hlast]; simp, ?_⟩
    apply restoreOrder_eq_nil_iff.mp
    rw [hafter.restoreOrder, List.drop_eq_nil_iff, length_restoreOrder, hlast,
      requestsNeeded]
    omega

/-- Loads 1 and 4 are blocked out of loads 0, 1 and 4. -/
def twoBlocked : State :=
  { initial 0b10011 with blockedLoads := 0b10010, isManagingLoads := true }

/-- One request after the other -/
def twoRequests : List State :=
  [twoBlocked.requested,
    ((handleRequest ⟨5, 1⟩ twoBlocked twoBlocked.requested).getD twoBlocked).requested]

theorem recovery_exact_twoBlocked :
    requestsNeeded twoBlocked.blockedLoads = 2 ∧
      (∃ run, follow (handleRequest ⟨5, 1⟩) twoBlocked twoRequests = some run ∧
        AtEach (RestoresNext ⟨5, 1⟩ twoBlocked) run.1 ∧
          run.2.isManagingLoads = false ∧ run.2.blockedLoads = 0) ∧
        ∃ trace finish, Path (handleRequest ⟨5, 1⟩) twoBlocked trace finish ∧
          trace.length = requestsNeeded twoBlocked.blockedLoads := by
  have hrecovery := @recovery_exact ⟨5, 1⟩ (by decide) twoBlocked rfl (by decide) (by decide)
  have hpath := @path_of_schedule _ _ (handleRequest ⟨5, 1⟩) twoBlocked twoRequests rfl
  refine ⟨by decide, ⟨_, (Option.some_get rfl).symm, ?_⟩, hrecovery.2⟩
  obtain ⟨hrestores, -, hlast⟩ := hrecovery.1 _ _ hpath (by decide +kernel)
  exact ⟨hrestores, hlast (by decide +kernel)⟩

end FrequencyRelay.HelloWorld
