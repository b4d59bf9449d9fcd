import FrequencyRelay.Kernel.TaskSteps

/-!
# Delays end in time

With true times: the list of delayed tasks holds those that are due before the tick count
wraps around, the other list those that are due after that.  No delay is missed at a wrap,
and each ends with the tick that it was to end with.
-/

namespace FrequencyRelay.Tasks

open FrequencyRelay.SortedInsertion
open FrequencyRelay.Ticks

variable {Task : Type*}

/-- The items of the blocked tasks -/
def Scheduler.items {Time : Type*} (scheduler : Scheduler Time Task) :
    List (ListItem Time Task) :=
  scheduler.pxDelayedTaskList ++ scheduler.pxOverflowDelayedTaskList

/-- The lists and the counters of the scheduler fit the true time, at which some delays may
be just due. -/
structure Counted (scheduler : Scheduler ℕ Task) : Prop where
  current : ∀ item ∈ scheduler.pxDelayedTaskList,
    scheduler.xTickCount ≤ item.xItemValue ∧
      item.xItemValue / 2 ^ 32 = scheduler.xTickCount / 2 ^ 32
  overflow : ∀ item ∈ scheduler.pxOverflowDelayedTaskList,
    item.xItemValue / 2 ^ 32 = scheduler.xTickCount / 2 ^ 32 + 1
  ascending : Ascending itemKey scheduler.pxDelayedTaskList
  overflowAscending : Ascending itemKey scheduler.pxOverflowDelayedTaskList
  next : ∀ item ∈ scheduler.pxDelayedTaskList,
    scheduler.xNextTaskUnblockTime ≤ shown item.xItemValue
  overflows : scheduler.xNumOfOverflows = BitVec.ofNat 32 (scheduler.xTickCount / 2 ^ 32)

/-- No delay is due. -/
structure OnTime (scheduler : Scheduler ℕ Task) : Prop extends Counted scheduler where
  notDue : ∀ item ∈ scheduler.pxDelayedTaskList, scheduler.xTickCount < item.xItemValue

variable {scheduler : Scheduler ℕ Task} {item : ListItem ℕ Task} {task : Task}

theorem onTime_initial {first : ℕ} (hfirst : first < 2 ^ 32) :
    OnTime (Scheduler.initial first : Scheduler ℕ Task) where
  current := nofun
  overflow := nofun
  ascending := .nil
  overflowAscending := .nil
  next := nofun
  overflows := by
    change 0 = BitVec.ofNat 32 (first / 2 ^ 32)
    rw [Nat.div_eq_of_lt hfirst]
    rfl
  notDue := nofun

/-- These fields do not matter. -/
theorem OnTime.withControl (honTime : OnTime scheduler) (suspendedBy : Option Task)
    (uxPendedTicks : ℕ) (xPendingReadyList : List Task) :
    OnTime { scheduler with
      suspendedBy := suspendedBy
      uxPendedTicks := uxPendedTicks
      xPendingReadyList := xPendingReadyList } :=
  ⟨⟨honTime.current, honTime.overflow, honTime.ascending, honTime.overflowAscending,
    honTime.next, honTime.overflows⟩, honTime.notDue⟩

theorem mem_items : item ∈ scheduler.items ↔
    item ∈ scheduler.pxDelayedTaskList ∨ item ∈ scheduler.pxOverflowDelayedTaskList :=
  List.mem_append

theorem OnTime.lt_of_mem (honTime : OnTime scheduler) (hitem : item ∈ scheduler.items) :
    scheduler.xTickCount < item.xItemValue := by
  rcases mem_items.mp hitem with hcurrent | hoverflow
  · exact honTime.notDue item hcurrent
  · have := honTime.overflow item hoverflow
    omega

theorem shown_eq_zero_iff {time : ℕ} : shown time = 0 ↔ time % 2 ^ 32 = 0 := by
  rw [← BitVec.toNat_inj, toNat_shown]
  rfl

theorem resetNextTaskUnblockTime_le {items : List (ListItem ℕ Task)}
    (hascending : Ascending itemKey items) (hitem : item ∈ items) :
    resetNextTaskUnblockTime items ≤ shown item.xItemValue := by
  cases items with
  | nil => cases hitem
  | cons head tail =>
      rw [resetNextTaskUnblockTime]
      rcases List.mem_cons.mp hitem with rfl | htail
      · exact BitVec.le_refl _
      · exact BitVec.le_def.mpr ((List.pairwise_cons.mp hascending).1 item htail)

/-! ## A tick -/

/-- `taskSWITCH_DELAYED_LISTS` asserts that nobody is left in the list of delayed tasks. -/
theorem OnTime.empty_of_wrap (honTime : OnTime scheduler)
    (hwrap : shown (later scheduler.xTickCount 1) = 0) : scheduler.pxDelayedTaskList = [] := by
  rw [shown_eq_zero_iff, later_eq] at hwrap
  apply List.eq_nil_iff_forall_not_mem.mpr
  intro item hitem
  have hlater := honTime.notDue item hitem
  have hturn := (honTime.current item hitem).2
  have hone : (1 : BitVec 32).toNat = 1 := rfl
  omega

theorem xTickCount_countTick :
    scheduler.countTick.xTickCount = scheduler.xTickCount + 1 := by
  rw [Scheduler.countTick]
  split <;> rfl

theorem items_countTick : item ∈ scheduler.countTick.items ↔ item ∈ scheduler.items := by
  rw [Scheduler.countTick, mem_items, mem_items]
  split
  case isTrue => exact or_comm
  case isFalse => exact Iff.rfl

theorem OnTime.countTick (honTime : OnTime scheduler) : Counted scheduler.countTick := by
  rw [Scheduler.countTick]
  split
  case isTrue hwrap =>
    have hempty := honTime.empty_of_wrap hwrap
    have hzero : (scheduler.xTickCount + 1) % 2 ^ 32 = 0 := shown_eq_zero_iff.mp hwrap
    refine ⟨?_, ?_, honTime.overflowAscending, honTime.ascending, ?_, ?_⟩
    · intro item hitem
      have hoverflow := honTime.overflow item hitem
      change scheduler.xTickCount + 1 ≤ _ ∧ _ = (scheduler.xTickCount + 1) / 2 ^ 32
      omega
    · intro item hitem
      exact absurd hitem (by
        change item ∉ scheduler.pxDelayedTaskList
        rw [hempty]
        exact List.not_mem_nil)
    · intro item hitem
      exact resetNextTaskUnblockTime_le honTime.overflowAscending hitem
    · change scheduler.xNumOfOverflows + 1 =
        BitVec.ofNat 32 ((scheduler.xTickCount + 1) / 2 ^ 32)
      have hnext : (scheduler.xTickCount + 1) / 2 ^ 32 = scheduler.xTickCount / 2 ^ 32 + 1 := by
        omega
      rw [hnext, BitVec.ofNat_add, honTime.overflows]
      rfl
  case isFalse hstay =>
    have hnot : (scheduler.xTickCount + 1) % 2 ^ 32 ≠ 0 :=
      fun hzero => hstay (shown_eq_zero_iff.mpr hzero)
    have hturn : (scheduler.xTickCount + 1) / 2 ^ 32 = scheduler.xTickCount / 2 ^ 32 := by
      omega
    refine ⟨?_, ?_, honTime.ascending, honTime.overflowAscending, honTime.next, ?_⟩
    · intro item hitem
      have hlater := honTime.notDue item hitem
      have hcurrent := (honTime.current item hitem).2
      exact ⟨hlater, hcurrent.trans hturn.symm⟩
    · intro item hitem
      exact (honTime.overflow item hitem).trans (congrArg (· + 1) hturn.symm)
    · exact honTime.overflows.trans (congrArg (BitVec.ofNat 32) hturn.symm)

/-- Whoever is due is unblocked, and nobody else. -/
theorem Counted.split (hcounted : Counted scheduler) :
    ∃ expired, scheduler.pxDelayedTaskList =
        expired ++ (unblockTasks (shown scheduler.xTickCount)
          scheduler.pxDelayedTaskList).2 ∧
      (unblockTasks (shown scheduler.xTickCount) scheduler.pxDelayedTaskList).1 =
        expired.map ListItem.pvOwner ∧
      (∀ item ∈ expired, item.xItemValue = scheduler.xTickCount) ∧
      ∀ item ∈ (unblockTasks (shown scheduler.xTickCount)
        scheduler.pxDelayedTaskList).2, scheduler.xTickCount < item.xItemValue := by
  obtain ⟨expired, hsplit, howners, hexpired, hhead⟩ :=
    unblockTasks_split (shown scheduler.xTickCount) scheduler.pxDelayedTaskList
  generalize hrest : (unblockTasks (shown scheduler.xTickCount)
    scheduler.pxDelayedTaskList).2 = rest at *
  have hascending := hcounted.ascending
  have hcurrent := hcounted.current
  rw [hsplit] at hascending hcurrent
  refine ⟨expired, hsplit, howners, ?_, ?_⟩
  · intro item hitem
    have hdue := shown_le_shown_iff.mp (hexpired item hitem)
    have hturn := hcurrent item (List.mem_append_left _ hitem)
    omega
  · intro item hitem
    have hturn := hcurrent item (List.mem_append_right _ hitem)
    cases rest with
    | nil => cases hitem
    | cons head tail =>
        have hlater := shown_lt_shown_iff.mp (hhead head rfl)
        rcases List.mem_cons.mp hitem with rfl | htail
        · omega
        · have hbehind := (List.pairwise_cons.mp (List.pairwise_append.mp hascending).2.1).1
            item htail
          rw [itemKey, itemKey, toNat_shown, toNat_shown] at hbehind
          omega

theorem Counted.unblockExpired (hcounted : Counted scheduler) :
    OnTime scheduler.unblockExpired.2 ∧
      ∀ item, item ∈ scheduler.unblockExpired.2.items ↔
        item ∈ scheduler.items ∧ scheduler.xTickCount < item.xItemValue := by
  rw [Scheduler.unblockExpired]
  split
  case isTrue hnext =>
    obtain ⟨expired, hsplit, -, hexpired, hrest⟩ := hcounted.split
    have hsuffix : (unblockTasks (shown scheduler.xTickCount)
        scheduler.pxDelayedTaskList).2 <:+ scheduler.pxDelayedTaskList :=
      ⟨expired, hsplit.symm⟩
    have hascending : Ascending itemKey (unblockTasks (shown scheduler.xTickCount)
        scheduler.pxDelayedTaskList).2 := hcounted.ascending.sublist hsuffix.sublist
    refine ⟨⟨⟨?_, hcounted.overflow, hascending, hcounted.overflowAscending, ?_,
      hcounted.overflows⟩, hrest⟩, ?_⟩
    · exact fun item hitem => hcounted.current item (hsuffix.subset hitem)
    · exact fun item hitem => resetNextTaskUnblockTime_le hascending hitem
    · intro item
      rw [mem_items, mem_items]
      constructor
      · rintro (hcurrent | hoverflow)
        · exact ⟨.inl (hsuffix.subset hcurrent), hrest item hcurrent⟩
        · have hturn := hcounted.overflow item hoverflow
          exact ⟨.inr hoverflow, by omega⟩
      · rintro ⟨hcurrent | hoverflow, hlater⟩
        · rw [hsplit] at hcurrent
          rcases List.mem_append.mp hcurrent with hgone | hstays
          · have := hexpired item hgone
            omega
          · exact .inl hstays
        · exact .inr hoverflow
  case isFalse hnext =>
    have hlater : ∀ item ∈ scheduler.pxDelayedTaskList,
        scheduler.xTickCount < item.xItemValue := by
      intro item hitem
      have hbefore := hcounted.next item hitem
      have hturn := hcounted.current item hitem
      rw [BitVec.le_def] at hnext hbefore
      rw [toNat_shown] at hnext hbefore
      omega
    refine ⟨⟨hcounted, hlater⟩, ?_⟩
    intro item
    refine ⟨fun hitem => ⟨hitem, ?_⟩, And.left⟩
    exact OnTime.lt_of_mem ⟨hcounted, hlater⟩ hitem

/-- A tick takes the items out that are due. -/
theorem OnTime.incrementTick (honTime : OnTime scheduler) :
    OnTime scheduler.incrementTick.2 ∧
      ∀ item, item ∈ scheduler.incrementTick.2.items ↔
        item ∈ scheduler.items ∧
          scheduler.incrementTick.2.xTickCount < item.xItemValue := by
  rw [Scheduler.incrementTick]
  split
  case h_1 =>
    refine ⟨honTime.withControl .., fun item => ⟨fun hitem => ⟨hitem, ?_⟩, And.left⟩⟩
    exact honTime.lt_of_mem hitem
  case h_2 =>
    obtain ⟨hnext, hitems⟩ := honTime.countTick.unblockExpired
    have hcount : scheduler.countTick.unblockExpired.2.xTickCount =
        scheduler.countTick.xTickCount := by
      rw [Scheduler.unblockExpired]
      split <;> rfl
    refine ⟨hnext, ?_⟩
    intro item
    rw [hitems, items_countTick, hcount]

theorem xTickCount_incrementTick :
    scheduler.xTickCount ≤ scheduler.incrementTick.2.xTickCount := by
  rw [Scheduler.incrementTick]
  split
  case h_1 => exact le_rfl
  case h_2 =>
    have hcount : scheduler.countTick.unblockExpired.2.xTickCount =
        scheduler.countTick.xTickCount := by
      rw [Scheduler.unblockExpired]
      split <;> rfl
    rw [hcount, xTickCount_countTick]
    exact Nat.le_succ _

theorem OnTime.unwindPendedTicks (honTime : OnTime scheduler) (count : ℕ) :
    OnTime (Scheduler.unwindPendedTicks count scheduler).2 ∧
      scheduler.xTickCount ≤ (Scheduler.unwindPendedTicks count scheduler).2.xTickCount ∧
      ∀ item, item ∈ (Scheduler.unwindPendedTicks count scheduler).2.items ↔
        item ∈ scheduler.items ∧
          (Scheduler.unwindPendedTicks count scheduler).2.xTickCount < item.xItemValue := by
  induction count generalizing scheduler with
  | zero => exact ⟨honTime, le_rfl, fun item =>
      ⟨fun hitem => ⟨hitem, honTime.lt_of_mem hitem⟩, And.left⟩⟩
  | succ count ih =>
      rw [Scheduler.unwindPendedTicks]
      obtain ⟨hticked, hitems⟩ := honTime.incrementTick
      obtain ⟨hlast, hcount, hrest⟩ := ih (hticked.withControl
        scheduler.incrementTick.2.suspendedBy (scheduler.incrementTick.2.uxPendedTicks - 1)
        scheduler.incrementTick.2.xPendingReadyList)
      refine ⟨hlast, xTickCount_incrementTick.trans hcount, ?_⟩
      intro item
      refine (hrest item).trans ?_
      constructor
      · rintro ⟨hitem, hlater⟩
        exact ⟨((hitems item).mp hitem).1, hlater⟩
      · rintro ⟨hitem, hlater⟩
        exact ⟨(hitems item).mpr ⟨hitem, hcount.trans_lt hlater⟩, hlater⟩

/-- The states in which `unwindPendedTicks` calls `xTaskIncrementTick` -/
def Scheduler.unwound {Time : Type*} [TickType Time] :
    ℕ → Scheduler Time Task → List (Scheduler Time Task)
  | 0, _ => []
  | count + 1, scheduler =>
      scheduler :: unwound count
        { scheduler.incrementTick.2 with
          uxPendedTicks := scheduler.incrementTick.2.uxPendedTicks - 1 }

theorem OnTime.unwound (honTime : OnTime scheduler) {count : ℕ} {passed : Scheduler ℕ Task}
    (hpassed : passed ∈ Scheduler.unwound count scheduler) : OnTime passed := by
  induction count generalizing scheduler with
  | zero => cases hpassed
  | succ count ih =>
      rcases List.mem_cons.mp hpassed with rfl | hlater
      · exact honTime
      · exact ih (honTime.incrementTick.1.withControl
          scheduler.incrementTick.2.suspendedBy (scheduler.incrementTick.2.uxPendedTicks - 1)
          scheduler.incrementTick.2.xPendingReadyList) hlater

/-! ## Delays that begin, and events -/

/-- The time to wake is less than a turn away, and goes to the list of its turn. -/
theorem OnTime.addCurrentTaskToDelayedList (honTime : OnTime scheduler) (task : Task)
    {xTicksToWait : BitVec 32} (hticks : xTicksToWait ≠ 0) :
    OnTime (scheduler.addCurrentTaskToDelayedList task xTicksToWait) := by
  have hpositive : 0 < xTicksToWait.toNat := by
    rw [Nat.pos_iff_ne_zero]
    exact fun hzero => hticks (BitVec.toNat_inj.mp hzero)
  have hspan : xTicksToWait.toNat < 2 ^ 32 := xTicksToWait.isLt
  have htime := later_eq scheduler.xTickCount xTicksToWait
  rw [Scheduler.addCurrentTaskToDelayedList]
  split
  case isTrue hwrap =>
    rw [shown_lt_shown_iff, htime] at hwrap
    refine ⟨⟨honTime.current, ?_, honTime.ascending,
      ascending_insertByKey honTime.overflowAscending, honTime.next, honTime.overflows⟩,
      honTime.notDue⟩
    intro item hitem
    rcases mem_insertByKey.mp hitem with rfl | hitem
    · change (scheduler.xTickCount + xTicksToWait.toNat) / 2 ^ 32 =
        scheduler.xTickCount / 2 ^ 32 + 1
      omega
    · exact honTime.overflow item hitem
  case isFalse hstay =>
    rw [shown_lt_shown_iff, htime] at hstay
    have hnew : scheduler.xTickCount < scheduler.xTickCount + xTicksToWait.toNat ∧
        (scheduler.xTickCount + xTicksToWait.toNat) / 2 ^ 32 =
          scheduler.xTickCount / 2 ^ 32 := by
      omega
    refine ⟨⟨?_, honTime.overflow, ascending_insertByKey honTime.ascending,
      honTime.overflowAscending, ?_, honTime.overflows⟩, ?_⟩
    · intro item hitem
      rcases mem_insertByKey.mp hitem with rfl | hitem
      · exact ⟨hnew.1.le, hnew.2⟩
      · exact honTime.current item hitem
    · intro item hitem
      rcases mem_insertByKey.mp hitem with rfl | hitem
      · simp only
        split
        case isTrue => exact BitVec.le_refl _
        case isFalse hnext => exact BitVec.not_lt.mp hnext
      · have hnext := honTime.next item hitem
        simp only
        split
        case isTrue hearlier => exact BitVec.le_trans (BitVec.le_of_lt hearlier) hnext
        case isFalse => exact hnext
    · intro item hitem
      rcases mem_insertByKey.mp hitem with rfl | hitem
      · exact hnew.1
      · exact honTime.notDue item hitem

theorem items_addCurrentTaskToDelayedList (xTicksToWait : BitVec 32) :
    item ∈ (scheduler.addCurrentTaskToDelayedList task xTicksToWait).items ↔
      item = ⟨scheduler.xTickCount + xTicksToWait.toNat, task⟩ ∨ item ∈ scheduler.items := by
  rw [Scheduler.addCurrentTaskToDelayedList, mem_items, mem_items]
  split
  case isTrue =>
    simp only [mem_insertByKey]
    exact or_left_comm
  case isFalse =>
    simp only [mem_insertByKey]
    exact or_assoc

theorem xTickCount_addCurrentTaskToDelayedList (xTicksToWait : BitVec 32) :
    (scheduler.addCurrentTaskToDelayedList task xTicksToWait).xTickCount =
      scheduler.xTickCount := by
  rw [Scheduler.addCurrentTaskToDelayedList]
  split <;> rfl

/-! ## Time limits -/

section TimeOuts

variable {pxTimeOut since : TimeOut ℕ} {xTicksToWait left : BitVec 32}

/-- The elapsed ticks are counted modulo a turn, and so never too many. -/
theorem elapsed_le (hsince : pxTimeOut.xTimeOnEntering ≤ scheduler.xTickCount) :
    (shown scheduler.xTickCount - shown pxTimeOut.xTimeOnEntering).toNat +
        pxTimeOut.xTimeOnEntering ≤ scheduler.xTickCount ∧
      (scheduler.xTickCount < pxTimeOut.xTimeOnEntering + 2 ^ 32 →
        (shown scheduler.xTickCount - shown pxTimeOut.xTimeOnEntering).toNat +
          pxTimeOut.xTimeOnEntering = scheduler.xTickCount) := by
  rw [toNat_shown_sub]
  omega

/-- `xTaskCheckForTimeOut` does not find too early that the time is up. -/
theorem OnTime.checkForTimeOut_none (honTime : OnTime scheduler)
    (hsince : pxTimeOut.xTimeOnEntering ≤ scheduler.xTickCount)
    (hturn : pxTimeOut.xOverflowCount =
      BitVec.ofNat 32 (pxTimeOut.xTimeOnEntering / 2 ^ 32))
    (hcheck : scheduler.checkForTimeOut pxTimeOut xTicksToWait = none) :
    pxTimeOut.xTimeOnEntering + xTicksToWait.toNat ≤ scheduler.xTickCount := by
  have hticks : xTicksToWait.toNat < 2 ^ 32 := xTicksToWait.isLt
  rw [Scheduler.checkForTimeOut] at hcheck
  split at hcheck
  case isTrue hpassed =>
    have hturns : pxTimeOut.xTimeOnEntering / 2 ^ 32 ≠ scheduler.xTickCount / 2 ^ 32 := by
      intro hsame
      exact hpassed.1 (by rw [honTime.overflows, hturn, hsame])
    have hshown := shown_le_shown_iff.mp hpassed.2
    omega
  case isFalse =>
    rw [ite_eq_right_iff] at hcheck
    have hnot : ¬ shown scheduler.xTickCount - shown pxTimeOut.xTimeOnEntering <
        xTicksToWait := fun hless => nomatch hcheck hless
    rw [BitVec.lt_def] at hnot
    have helapsed := (elapsed_le hsince).1
    omega

/-- The ticks that are left lead to the same time, unless a whole turn has passed; and they
never lead to an earlier one. -/
theorem checkForTimeOut_some (hsince : pxTimeOut.xTimeOnEntering ≤ scheduler.xTickCount)
    (hcheck : scheduler.checkForTimeOut pxTimeOut xTicksToWait = some (since, left)) :
    since = scheduler.setTimeOutState ∧ left ≠ 0 ∧
      pxTimeOut.xTimeOnEntering + xTicksToWait.toNat ≤ scheduler.xTickCount + left.toNat ∧
      (scheduler.xTickCount < pxTimeOut.xTimeOnEntering + 2 ^ 32 →
        scheduler.xTickCount + left.toNat =
          pxTimeOut.xTimeOnEntering + xTicksToWait.toNat) := by
  rw [Scheduler.checkForTimeOut] at hcheck
  split at hcheck
  case isTrue => cases hcheck
  case isFalse =>
    rw [Option.ite_none_right_eq_some] at hcheck
    obtain ⟨hless, hpair⟩ := hcheck
    obtain ⟨rfl, rfl⟩ := Prod.mk.inj (Option.some.inj hpair)
    have hleft := BitVec.toNat_sub_of_le (BitVec.le_of_lt hless)
    rw [BitVec.lt_def] at hless
    obtain ⟨hmost, hexact⟩ := elapsed_le hsince
    refine ⟨rfl, ?_, ?_, ?_⟩
    · intro hzero
      rw [hzero] at hleft
      have hnone : (0 : BitVec 32).toNat = 0 := rfl
      omega
    · omega
    · intro hturn
      have hsame := hexact hturn
      omega

end TimeOuts

variable [DecidableEq Task]

theorem OnTime.removeDelayed (honTime : OnTime scheduler) (tasks : List Task) :
    OnTime (scheduler.removeDelayed tasks) := by
  have hmem {items : List (ListItem ℕ Task)} {item : ListItem ℕ Task}
      (hitem : item ∈ items.filter fun item => item.pvOwner ∉ tasks) : item ∈ items :=
    List.mem_of_mem_filter hitem
  exact ⟨⟨fun item hitem => honTime.current item (hmem hitem),
    fun item hitem => honTime.overflow item (hmem hitem),
    honTime.ascending.sublist List.filter_sublist,
    honTime.overflowAscending.sublist List.filter_sublist,
    fun item hitem => honTime.next item (hmem hitem), honTime.overflows⟩,
    fun item hitem => honTime.notDue item (hmem hitem)⟩

theorem items_removeDelayed (tasks : List Task) :
    item ∈ (scheduler.removeDelayed tasks).items ↔
      item ∈ scheduler.items ∧ item.pvOwner ∉ tasks := by
  simp only [mem_items, Scheduler.removeDelayed, List.mem_filter, decide_eq_true_eq]
  exact or_and_right.symm

theorem OnTime.removeFromEventList (honTime : OnTime scheduler) (task : Task) :
    OnTime (scheduler.removeFromEventList task) := by
  rw [Scheduler.removeFromEventList]
  split
  case h_1 => exact honTime.removeDelayed [task]
  case h_2 => exact honTime.withControl ..

theorem items_removeFromEventList :
    item ∈ (scheduler.removeFromEventList task).items ↔
      item ∈ scheduler.items ∧ (scheduler.suspendedBy = none → item.pvOwner ≠ task) := by
  rw [Scheduler.removeFromEventList]
  split
  case h_1 hrunning =>
    rw [items_removeDelayed, List.mem_singleton]
    simp [hrunning]
  case h_2 hsuspended =>
    rw [hsuspended]
    simp [Scheduler.items]

theorem xTickCount_removeFromEventList :
    (scheduler.removeFromEventList task).xTickCount = scheduler.xTickCount := by
  rw [Scheduler.removeFromEventList]
  split <;> rfl

theorem OnTime.readyPending (honTime : OnTime scheduler) : OnTime scheduler.readyPending :=
  (honTime.removeDelayed scheduler.xPendingReadyList).withControl none
    scheduler.uxPendedTicks []

/-- The ticks that have been put off are made up for, and the tasks that events have
readied are not blocked any more. -/
theorem OnTime.resumeAll (honTime : OnTime scheduler) :
    OnTime scheduler.resumeAll.2 ∧
      scheduler.xTickCount ≤ scheduler.resumeAll.2.xTickCount ∧
      ∀ item, item ∈ scheduler.resumeAll.2.items ↔
        item ∈ scheduler.items ∧ item.pvOwner ∉ scheduler.xPendingReadyList ∧
          scheduler.resumeAll.2.xTickCount < item.xItemValue := by
  obtain ⟨hlast, hcount, hitems⟩ :=
    honTime.readyPending.unwindPendedTicks scheduler.uxPendedTicks
  refine ⟨hlast, hcount, ?_⟩
  intro item
  refine (hitems item).trans ?_
  rw [← and_assoc, ← items_removeDelayed]
  rfl

end FrequencyRelay.Tasks
