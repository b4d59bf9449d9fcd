import FrequencyRelay.Core.WrappedTime
import FrequencyRelay.Kernel.TimerSteps

/-!
# Timers are punctual

The tick count wraps around after 2 ^ 32 ticks.  The service keeps the timers that are due
before the next wrap apart from those that are due after it, and so knows the order of
their true times, as long as it samples the tick count and carries out the starts that
were sent less than 2 ^ 32 ticks ago.  Then no callback is early, and the service never
sleeps through the moment at which a timer is due.
-/

namespace FrequencyRelay.Timers

open FrequencyRelay.Runs
open FrequencyRelay.SortedInsertion
open FrequencyRelay.Ticks
open FrequencyRelay.WrappedTime

variable {Timer Sender : Type*}

theorem processTimerNow_iff {period : BitVec 32} {command now : ℕ} (hle : command ≤ now)
    (hlt : now < command + 2 ^ 32) :
    ProcessTimerNow period (later command period) now command ↔
      command + period.toNat ≤ now := by
  rw [← shownPassed_iff period.isLt hle hlt, ProcessTimerNow, ShownPassed]
  simp only [BitVec.le_def, BitVec.lt_def, toNat_shown, toNat_shown_sub, later_eq]

/-! ## The invariant -/

/-- A start carries a moment that is not in the future. -/
def Message.Issued (now : ℕ) (message : Message ℕ Timer) : Prop :=
  ∀ time, message.command = .start time → time ≤ now

/-- A message on its way from a sender to being carried out -/
def State.Underway (state : State ℕ Timer Sender) (message : Message ℕ Timer) : Prop :=
  (∃ sender, state.sending sender = some message) ∨ message ∈ state.xTimerQueue ∨
    state.pc.message = some message

/-- What the service relies on: it has sampled the tick count, and the starts that it has
not carried out have been sent, less than 2 ^ 32 ticks ago. -/
structure Timely (state : State ℕ Timer Sender) : Prop where
  sampled : state.xTickCount < state.xLastTime + 2 ^ 32
  issued : ∀ message time, state.Underway message → message.command = .start time →
    state.xTickCount < time + 2 ^ 32

theorem timely_of_lt {state : State ℕ Timer Sender} (hlt : state.xTickCount < 2 ^ 32) :
    Timely state where
  sampled := hlt.trans_le (Nat.le_add_left _ _)
  issued _ _ _ _ := hlt.trans_le (Nat.le_add_left _ _)

/-- What the service knows of the time where it is. -/
def ServicePc.Informed (base : ℕ) (state : State ℕ Timer Sender) :
    ServicePc ℕ Timer → Prop
  | .sampleTimeNow (.processTimer xNextExpireTime) =>
      xNextExpireTime = state.pxCurrentTimerList.head?.map ListItem.xItemValue
  | .switchTimerLists xTimeNow caller =>
      InTurn (2 ^ 32) (base + 2 ^ 32) xTimeNow ∧ xTimeNow ≤ state.xTickCount ∧
        ∀ message, caller.message = some message → message.Issued xTimeNow
  | .switchReload item xTimeNow caller =>
      InTurn (2 ^ 32) base item.xItemValue ∧
        InTurn (2 ^ 32) (base + 2 ^ 32) xTimeNow ∧ xTimeNow ≤ state.xTickCount ∧
          ∀ message, caller.message = some message → message.Issued xTimeNow
  | .expiredTimer xNextExpireTime xTimeNow =>
      xTimeNow = state.xLastTime ∧ xNextExpireTime ≤ xTimeNow ∧
        state.pxCurrentTimerList.head?.map ListItem.xItemValue = some xNextExpireTime
  | .blocked since xTicksToWait =>
      state.xTimerQueue = [] ∧ since = state.xLastTime ∧
        (state.xTickCount = since ∨ state.xTickCount < since + xTicksToWait.toNat) ∧
          ∀ item ∈ state.pxCurrentTimerList ++ state.pxOverflowTimerList,
            since < item.xItemValue ∧ since + xTicksToWait.toNat ≤ item.xItemValue
  | .obeyCommand message xTimeNow => xTimeNow = state.xLastTime ∧ message.Issued xTimeNow
  | .restart timer xMessageValue =>
      xMessageValue + (state.control timer).xTimerPeriodInTicks.toNat ≤ state.xTickCount
  | _ => True

/-- The current list holds what is due in this turn of the tick count, the other one
what is due in the next, each in the order of true times. -/
structure ListsOrdered (base : ℕ) (current overflow : List (ListItem ℕ Timer)) : Prop where
  current_turn : ∀ item ∈ current, InTurn (2 ^ 32) base item.xItemValue
  overflow_turn : ∀ item ∈ overflow, InTurn (2 ^ 32) (base + 2 ^ 32) item.xItemValue
  current_ascending : Ascending ListItem.xItemValue current
  overflow_ascending : Ascending ListItem.xItemValue overflow

/-- The invariant of the service; its last sample lies in the turn of the tick count that
began at `base`. -/
structure Ordered (base : ℕ) (state : State ℕ Timer Sender) : Prop where
  base_dvd : 2 ^ 32 ∣ base
  sampled_turn : InTurn (2 ^ 32) base state.xLastTime
  sampled_le : state.xLastTime ≤ state.xTickCount
  lists : ListsOrdered base state.pxCurrentTimerList state.pxOverflowTimerList
  issued : ∀ message, state.Underway message → message.Issued state.xTickCount
  called : ∀ callback ∈ state.callbacks, callback.due ≤ callback.called
  informed : state.pc.Informed base state

/-! ## Lists in the order of true times -/

section Lists

variable {base now command : ℕ} {item : ListItem ℕ Timer}
variable {items current overflow placedCurrent placedOverflow : List (ListItem ℕ Timer)}

theorem ascending_insert (hbase : 2 ^ 32 ∣ base) (hitem : InTurn (2 ^ 32) base item.xItemValue)
    (hturn : ∀ other ∈ items, InTurn (2 ^ 32) base other.xItemValue)
    (hitems : Ascending ListItem.xItemValue items) :
    Ascending ListItem.xItemValue (insertByKey itemKey item items) := by
  have hsame : insertByKey itemKey item items =
      insertByKey ListItem.xItemValue item items := by
    apply insertByKey_congr
    intro earlier hearlier
    have hfrom := hturn earlier hearlier
    rw [itemKey, itemKey, toNat_shown, toNat_shown, shown_eq hbase hfrom,
      shown_eq hbase hitem]
    unfold InTurn at hfrom hitem
    omega
  rw [hsame]
  exact ascending_insertByKey hitems

theorem turn_insert (hitem : InTurn (2 ^ 32) base item.xItemValue)
    (hturn : ∀ other ∈ items, InTurn (2 ^ 32) base other.xItemValue) :
    ∀ other ∈ insertByKey itemKey item items, InTurn (2 ^ 32) base other.xItemValue := by
  intro other hother
  rcases mem_insertByKey.mp hother with rfl | hother
  · exact hitem
  · exact hturn other hother

/-- A timer that is still to come is put where its true time belongs. -/
theorem ListsOrdered.placed (hlists : ListsOrdered base current overflow)
    (hbase : 2 ^ 32 ∣ base) (hnow : InTurn (2 ^ 32) base now) {period : BitVec 32}
    (hitem : item.xItemValue = command + period.toNat) (hle : command ≤ now)
    (hahead : now < command + period.toNat)
    (hplaced : Placed item now current overflow placedCurrent placedOverflow) :
    ListsOrdered base placedCurrent placedOverflow := by
  have hturn := deadline_turn hbase hnow hle period.isLt hahead
  rw [← hitem] at hturn
  cases hplaced with
  | current hlater =>
      rw [shown_lt_shown_iff] at hlater
      rw [if_neg (Nat.not_le.mpr hlater)] at hturn
      exact { hlists with
        current_turn := turn_insert hturn hlists.current_turn
        current_ascending :=
          ascending_insert hbase hturn hlists.current_turn hlists.current_ascending }
  | overflow hshown =>
      rw [shown_le_shown_iff] at hshown
      rw [if_pos hshown] at hturn
      exact { hlists with
        overflow_turn := turn_insert hturn hlists.overflow_turn
        overflow_ascending :=
          ascending_insert (dvd_next hbase) hturn hlists.overflow_turn
            hlists.overflow_ascending }

theorem ListsOrdered.tail (hlists : ListsOrdered base (item :: items) overflow) :
    ListsOrdered base items overflow where
  current_turn other hother := hlists.current_turn other (List.mem_cons_of_mem item hother)
  overflow_turn := hlists.overflow_turn
  current_ascending := (List.pairwise_cons.mp hlists.current_ascending).2
  overflow_ascending := hlists.overflow_ascending

theorem ListsOrdered.listRemove [DecidableEq Timer] (timer : Timer)
    (hlists : ListsOrdered base current overflow) :
    ListsOrdered base (State.listRemove timer current) (State.listRemove timer overflow) where
  current_turn other hother := hlists.current_turn other (List.mem_of_mem_filter hother)
  overflow_turn other hother := hlists.overflow_turn other (List.mem_of_mem_filter hother)
  current_ascending := hlists.current_ascending.filter _
  overflow_ascending := hlists.overflow_ascending.filter _

theorem ListsOrdered.switched (hlists : ListsOrdered base [] overflow) :
    ListsOrdered (base + 2 ^ 32) overflow [] where
  current_turn := hlists.overflow_turn
  overflow_turn := by simp
  current_ascending := hlists.overflow_ascending
  overflow_ascending := .nil

/-- The head of the current list is due first. -/
theorem ListsOrdered.head_le (hlists : ListsOrdered base (item :: items) overflow) :
    ∀ other ∈ items ++ overflow, item.xItemValue ≤ other.xItemValue := by
  intro other hother
  rcases List.mem_append.mp hother with hother | hother
  · exact (List.pairwise_cons.mp hlists.current_ascending).1 other hother
  · have hitem := hlists.current_turn item List.mem_cons_self
    have hlater := hlists.overflow_turn other hother
    unfold InTurn at hitem hlater
    omega

end Lists

/-! ## Messages on their way -/

section Underway

variable {state next : State ℕ Timer Sender} {message : Message ℕ Timer}

/-- The start that the service may send for a timer that reloads -/
def State.Reloads (state : State ℕ Timer Sender) (message : Message ℕ Timer) : Prop :=
  match state.pc with
  | .switchReload item _ _ => message = ⟨.start item.xItemValue, item.pvOwner⟩
  | .expiredTimer xNextExpireTime _ =>
      ∃ item ∈ state.pxCurrentTimerList.head?,
        (state.control item.pvOwner).uxAutoReload = true ∧
          message = ⟨.start xNextExpireTime, item.pvOwner⟩
  | .restart timer xMessageValue =>
      message =
        ⟨.start (later xMessageValue (state.control timer).xTimerPeriodInTicks), timer⟩
  | _ => False

theorem mem_offer {other : Message ℕ Timer} {queue : List (Message ℕ Timer)}
    (hmem : message ∈ offer other queue) : message = other ∨ message ∈ queue := by
  rw [offer] at hmem
  split at hmem
  · simpa [or_comm] using hmem
  · exact .inr hmem

theorem sending_served [DecidableEq Timer] (hserved : Served state next) :
    next.sending = state.sending := by
  cases hserved <;> rfl

theorem queue_served [DecidableEq Timer] (hserved : Served state next)
    (hmem : message ∈ next.xTimerQueue) :
    message ∈ state.xTimerQueue ∨ state.Reloads message := by
  cases hserved with
  | switchResent item now caller hpc =>
      rw [State.Reloads, hpc]
      exact (mem_offer hmem).symm
  | expiredResent next now item rest hpc hcurrent hreload =>
      rw [State.Reloads, hpc, hcurrent]
      exact (mem_offer hmem).symm.imp_right fun hmessage => ⟨item, rfl, hreload, hmessage⟩
  | restarted timer value hpc =>
      rw [State.Reloads, hpc]
      exact (mem_offer hmem).symm
  | received first messages hpc hqueue =>
      rw [hqueue]
      exact .inl (List.mem_cons_of_mem first hmem)
  | _ => exact .inl hmem

theorem message_served [DecidableEq Timer] (hserved : Served state next)
    (hmessage : next.pc.message = some message) :
    state.pc.message = some message ∨ message ∈ state.xTimerQueue := by
  cases hserved with
  | wrapped _ hpc | sampled _ hpc | switchReinserted _ _ _ hpc | switchResent _ _ _ hpc =>
      rw [hpc]
      exact .inl hmessage
  | switchCalled _ _ item _ hpc =>
      rw [hpc]
      simp only [apply_ite ServicePc.message] at hmessage
      simp only [ServicePc.message, ite_self] at hmessage
      exact .inl hmessage
  | switched _ caller hpc =>
      rw [hpc]
      cases caller with
      | processTimer => cases hmessage
      | receivedCommand => exact .inl hmessage
  | received first messages hpc hqueue =>
      obtain rfl := Option.some.inj hmessage
      rw [hqueue]
      exact .inr List.mem_cons_self
  | startedLate timer value now hpc =>
      simp only [apply_ite ServicePc.message] at hmessage
      simp only [ServicePc.message, ite_self] at hmessage
      cases hmessage
  | _ => cases hmessage

/-- A message on its way has been so before, or is the start of a timer that reloads. -/
theorem underway_served [DecidableEq Timer] (hserved : Served state next)
    (hunderway : next.Underway message) :
    state.Underway message ∨ state.Reloads message := by
  rcases hunderway with ⟨sender, hsending⟩ | hqueue | hmessage
  · rw [sending_served hserved] at hsending
    exact .inl (.inl ⟨sender, hsending⟩)
  · exact (queue_served hserved hqueue).imp_left fun hmem => .inr (.inl hmem)
  · rcases message_served hserved hmessage with hsame | hmem
    · exact .inl (.inr (.inr hsame))
    · exact .inl (.inr (.inl hmem))

end Underway

/-! ## The steps of the service -/

section Steps

variable {base : ℕ} {state next : State ℕ Timer Sender} {message : Message ℕ Timer}

theorem Ordered.reloads_issued (hordered : Ordered base state) (hreloads : state.Reloads message) :
    message.Issued state.xTickCount := by
  have hsampled := hordered.sampled_le
  have hturn := hordered.sampled_turn
  have hinformed := hordered.informed
  intro time htime
  rw [State.Reloads] at hreloads
  split at hreloads
  case h_1 item now caller hpc =>
    rw [hpc] at hinformed
    obtain ⟨hitem, hnow, hle, -⟩ := hinformed
    subst hreloads
    obtain rfl := Command.start.inj htime
    unfold InTurn at hitem hnow
    omega
  case h_2 next now hpc =>
    rw [hpc] at hinformed
    obtain ⟨hnow, hle, -⟩ := hinformed
    obtain ⟨item, -, -, rfl⟩ := hreloads
    obtain rfl := Command.start.inj htime
    omega
  case h_3 timer value hpc =>
    rw [hpc] at hinformed
    subst hreloads
    obtain rfl := Command.start.inj htime
    exact hinformed
  case h_4 => exact hreloads.elim

theorem tickCount_served [DecidableEq Timer] (hserved : Served state next) :
    next.xTickCount = state.xTickCount := by
  cases hserved <;> rfl

theorem Ordered.issued_served [DecidableEq Timer] (hordered : Ordered base state)
    (hserved : Served state next) :
    ∀ message, next.Underway message → message.Issued next.xTickCount := by
  intro message hunderway
  rw [tickCount_served hserved]
  rcases underway_served hserved hunderway with hbefore | hreloads
  · exact hordered.issued message hbefore
  · exact hordered.reloads_issued hreloads

/-- The tick count has not wrapped around since the last sample. -/
theorem Ordered.tick_turn (hordered : Ordered base state) (htimely : Timely state)
    (hsame : ¬ shown state.xTickCount < shown state.xLastTime) :
    InTurn (2 ^ 32) base state.xTickCount := by
  rw [shown_lt_shown_iff, shown_lt_iff hordered.base_dvd hordered.sampled_turn
    hordered.sampled_le htimely.sampled] at hsame
  have hturn := hordered.sampled_turn
  have hle := hordered.sampled_le
  unfold InTurn at *
  omega

theorem Ordered.wrapped_turn (hordered : Ordered base state) (htimely : Timely state)
    (hwrapped : shown state.xTickCount < shown state.xLastTime) :
    InTurn (2 ^ 32) (base + 2 ^ 32) state.xTickCount := by
  rw [shown_lt_shown_iff, shown_lt_iff hordered.base_dvd hordered.sampled_turn
    hordered.sampled_le htimely.sampled] at hwrapped
  have hturn := hordered.sampled_turn
  have hlt := htimely.sampled
  unfold InTurn at *
  omega

theorem called_append (hcalled : ∀ callback ∈ state.callbacks, callback.due ≤ callback.called)
    {timer : Timer} {due : ℕ} (hdue : due ≤ state.xTickCount) :
    ∀ callback ∈ state.callbacks ++ [⟨timer, due, state.xTickCount⟩],
      callback.due ≤ callback.called := by
  intro callback hmem
  rcases List.mem_append.mp hmem with hmem | hmem
  · exact hcalled callback hmem
  · obtain rfl := List.mem_singleton.mp hmem
    exact hdue

/-- A service that goes to sleep is woken before a timer is due. -/
theorem Ordered.slept (hordered : Ordered base state) (htimely : Timely state)
    {xNextExpireTime : Option ℕ}
    (hpc : state.pc = .sampleTimeNow (.processTimer xNextExpireTime))
    (hsame : ¬ shown state.xTickCount < shown state.xLastTime)
    (hahead : ∀ expireTime, xNextExpireTime = some expireTime →
      ¬ shown expireTime ≤ shown state.xTickCount) :
    ∀ item ∈ state.pxCurrentTimerList ++ state.pxOverflowTimerList,
      state.xTickCount < item.xItemValue ∧
        state.xTickCount +
            (xNextExpireTime.elim 0 shown - shown state.xTickCount : BitVec 32).toNat ≤
          item.xItemValue := by
  have hturn := hordered.tick_turn htimely hsame
  have hinformed := hordered.informed
  rw [hpc, ServicePc.Informed] at hinformed
  have hlists := hordered.lists
  cases hcurrent : state.pxCurrentTimerList with
  | nil =>
      -- The service wakes up when the tick count wraps around.
      rw [hcurrent] at hinformed
      obtain rfl : xNextExpireTime = none := hinformed
      intro item hitem
      have hlater := hlists.overflow_turn item (by simpa using hitem)
      have hzero : (0 : BitVec 32).toNat = 0 := rfl
      rw [Option.elim_none, BitVec.toNat_sub, toNat_shown, hzero,
        shown_eq hordered.base_dvd hturn]
      unfold InTurn at hturn hlater
      omega
  | cons head rest =>
      -- The service wakes up when the first timer is due.
      rw [hcurrent] at hinformed hlists
      obtain rfl : xNextExpireTime = some head.xItemValue := hinformed
      have hhead := hlists.current_turn head List.mem_cons_self
      have hlater := hahead head.xItemValue rfl
      rw [shown_le_shown_iff, shown_eq hordered.base_dvd hhead,
        shown_eq hordered.base_dvd hturn] at hlater
      rw [Option.elim_some, BitVec.toNat_sub, toNat_shown, toNat_shown,
        shown_eq hordered.base_dvd hturn, shown_eq hordered.base_dvd hhead]
      intro item hitem
      have hfirst : head.xItemValue ≤ item.xItemValue := by
        rcases List.mem_cons.mp hitem with rfl | hitem
        · exact le_rfl
        · exact hlists.head_le item hitem
      unfold InTurn at hturn hhead
      omega

theorem Ordered.head_turn (hordered : Ordered base state) {first : ℕ}
    (hfirst : state.pxCurrentTimerList.head?.map ListItem.xItemValue = some first) :
    InTurn (2 ^ 32) base first := by
  obtain ⟨item, hhead, rfl⟩ := Option.map_eq_some_iff.mp hfirst
  exact hordered.lists.current_turn item (List.mem_of_mem_head? hhead)

/-- The timer that the service takes from the head of the list is due. -/
theorem Ordered.expired_head (hordered : Ordered base state) {next now : ℕ}
    {item : ListItem ℕ Timer} {rest : List (ListItem ℕ Timer)}
    (hpc : state.pc = .expiredTimer next now)
    (hcurrent : state.pxCurrentTimerList = item :: rest) :
    now = state.xLastTime ∧ next ≤ now ∧ now < next + 2 ^ 32 ∧ item.xItemValue = next := by
  have hinformed := hordered.informed
  rw [hpc, ServicePc.Informed] at hinformed
  obtain ⟨hnow, hdue, hfirst⟩ := hinformed
  have hturn := hordered.head_turn hfirst
  have hsampled := hordered.sampled_turn
  rw [hcurrent] at hfirst
  refine ⟨hnow, hdue, ?_, Option.some.inj hfirst⟩
  unfold InTurn at hturn hsampled
  omega

/-- The start that the service carries out is not older than the tick count can tell. -/
theorem Ordered.start_issued (hordered : Ordered base state) (htimely : Timely state)
    {timer : Timer} {value now : ℕ} (hpc : state.pc = .obeyCommand ⟨.start value, timer⟩ now) :
    now = state.xLastTime ∧ value ≤ now ∧ now < value + 2 ^ 32 := by
  have hinformed := hordered.informed
  rw [hpc] at hinformed
  obtain ⟨hnow, hissued⟩ := hinformed
  have hunderway : state.Underway ⟨.start value, timer⟩ := by
    rw [State.Underway, hpc]
    exact .inr (.inr rfl)
  have hrecent := htimely.issued _ value hunderway rfl
  have hle := hordered.sampled_le
  refine ⟨hnow, hissued value rfl, ?_⟩
  omega

theorem Ordered.served [DecidableEq Timer] (hordered : Ordered base state)
    (htimely : Timely state) (hserved : Served state next) :
    ∃ base, Ordered base next := by
  have hissued := hordered.issued_served hserved
  have hinformed := hordered.informed
  have hlists := hordered.lists
  have hsampled := hordered.sampled_turn
  have hle := hordered.sampled_le
  cases hserved with
  | queried hpc => exact ⟨base, { hordered with issued := hissued, informed := rfl }⟩
  | wrapped caller hpc hwrapped =>
      refine ⟨base, { hordered with issued := hissued, informed := ?_ }⟩
      refine ⟨hordered.wrapped_turn htimely hwrapped, le_rfl, ?_⟩
      intro message hmessage
      apply hordered.issued message
      rw [State.Underway, hpc]
      exact .inr (.inr hmessage)
  | due expireTime hpc hsame hdue =>
      rw [hpc] at hinformed
      have hturn := hordered.tick_turn htimely hsame
      have hfirst := hordered.head_turn hinformed.symm
      rw [shown_le_shown_iff, shown_eq hordered.base_dvd hfirst,
        shown_eq hordered.base_dvd hturn] at hdue
      refine ⟨base, { hordered with
        sampled_turn := hturn
        sampled_le := le_rfl
        issued := hissued
        informed := ⟨rfl, ?_, hinformed.symm⟩ }⟩
      unfold InTurn at hturn hfirst
      omega
  | slept next hpc hsame hahead hempty =>
      exact ⟨base, { hordered with
        sampled_turn := hordered.tick_turn htimely hsame
        sampled_le := le_rfl
        issued := hissued
        informed := ⟨hempty, rfl, .inl rfl, hordered.slept htimely hpc hsame hahead⟩ }⟩
  | stayed next hpc hsame =>
      exact ⟨base, { hordered with
        sampled_turn := hordered.tick_turn htimely hsame
        sampled_le := le_rfl
        issued := hissued
        informed := trivial }⟩
  | sampled message hpc hsame =>
      refine ⟨base, { hordered with
        sampled_turn := hordered.tick_turn htimely hsame
        sampled_le := le_rfl
        issued := hissued
        informed := ⟨rfl, hordered.issued message ?_⟩ }⟩
      rw [State.Underway, hpc]
      exact .inr (.inr rfl)
  | switchCalled now caller item rest hpc hcurrent =>
      rw [hpc] at hinformed
      obtain ⟨hnow, hnowLe, hcaller⟩ := hinformed
      rw [hcurrent] at hlists
      have hitem := hlists.current_turn item List.mem_cons_self
      refine ⟨base, { hordered with
        lists := hlists.tail
        issued := hissued
        called := called_append hordered.called ?_
        informed := ?_ }⟩
      · unfold InTurn at hitem hnow
        omega
      · simp only
        split
        · exact ⟨hitem, hnow, hnowLe, hcaller⟩
        · exact ⟨hnow, hnowLe, hcaller⟩
  | switchReinserted item now caller hpc hreload =>
      rw [hpc] at hinformed
      obtain ⟨hitem, hnow⟩ := hinformed
      -- The reload time has not wrapped around, or it would show less.
      have hturn : InTurn (2 ^ 32) base
          (item.xItemValue + (state.control item.pvOwner).xTimerPeriodInTicks.toNat) := by
        have hperiod := (state.control item.pvOwner).xTimerPeriodInTicks.isLt
        rw [later_eq, shown_lt_shown_iff] at hreload
        have hsame := (shown_lt_iff hordered.base_dvd hitem (Nat.le_add_right _ _)
          (Nat.add_lt_add_left hperiod _)).not.mp hreload.asymm
        unfold InTurn at hitem ⊢
        omega
      refine ⟨base, { hordered with
        lists := { hlists with
          current_turn := turn_insert hturn hlists.current_turn
          current_ascending := ascending_insert hordered.base_dvd hturn
            hlists.current_turn hlists.current_ascending }
        issued := hissued
        informed := hnow }⟩
  | switchResent item now caller hpc =>
      rw [hpc] at hinformed
      exact ⟨base, { hordered with issued := hissued, informed := hinformed.2 }⟩
  | switched now caller hpc hcurrent =>
      rw [hpc] at hinformed
      obtain ⟨hnow, hnowLe, hcaller⟩ := hinformed
      rw [hcurrent] at hlists
      refine ⟨base + 2 ^ 32, { hordered with
        base_dvd := dvd_next hordered.base_dvd
        sampled_turn := hnow
        sampled_le := hnowLe
        lists := hlists.switched
        issued := hissued
        informed := ?_ }⟩
      cases caller with
      | processTimer => trivial
      | receivedCommand message => exact ⟨rfl, hcaller message rfl⟩
  | expired next now item rest hpc hcurrent =>
      obtain ⟨hnow, hdue, hlt, rfl⟩ := hordered.expired_head hpc hcurrent
      rw [hcurrent] at hlists
      exact ⟨base, { hordered with
        lists := hlists.tail
        issued := hissued
        called := called_append hordered.called (hdue.trans (hnow ▸ hle))
        informed := trivial }⟩
  | expiredPlaced next now item rest current overflow hpc hcurrent hreload hahead hplaced =>
      obtain ⟨rfl, hdue, hlt, rfl⟩ := hordered.expired_head hpc hcurrent
      rw [hcurrent] at hlists
      rw [processTimerNow_iff hdue hlt, not_le] at hahead
      exact ⟨base, { hordered with
        lists := hlists.tail.placed hordered.base_dvd hsampled rfl hdue hahead hplaced
        issued := hissued
        called := called_append hordered.called (hdue.trans hle)
        informed := trivial }⟩
  | expiredResent next now item rest hpc hcurrent =>
      obtain ⟨rfl, hdue, hlt, rfl⟩ := hordered.expired_head hpc hcurrent
      rw [hcurrent] at hlists
      exact ⟨base, { hordered with
        lists := hlists.tail
        issued := hissued
        called := called_append hordered.called (hdue.trans hle)
        informed := trivial }⟩
  | emptied hpc => exact ⟨base, { hordered with issued := hissued, informed := trivial }⟩
  | received message messages hpc hqueue =>
      exact ⟨base, { hordered with
        lists := hlists.listRemove message.pxTimer
        issued := hissued
        informed := trivial }⟩
  | started timer value now current overflow hpc hahead hplaced =>
      obtain ⟨rfl, hissue, hlt⟩ := hordered.start_issued htimely hpc
      rw [processTimerNow_iff hissue hlt, not_le] at hahead
      exact ⟨base, { hordered with
        lists := hlists.placed hordered.base_dvd hsampled rfl hissue hahead hplaced
        issued := hissued
        informed := trivial }⟩
  | startedLate timer value now hpc hnow =>
      obtain ⟨rfl, hissue, hlt⟩ := hordered.start_issued htimely hpc
      rw [processTimerNow_iff hissue hlt] at hnow
      refine ⟨base, { hordered with
        issued := hissued
        called := called_append hordered.called (hnow.trans hle)
        informed := ?_ }⟩
      simp only
      split
      · exact hnow.trans hle
      · trivial
  | periodChanged timer period now current overflow hpc hplaced =>
      rw [hpc] at hinformed
      obtain ⟨rfl, -⟩ := hinformed
      refine ⟨base, { hordered with
        lists := ?_
        issued := hissued
        informed := trivial }⟩
      rcases hplaced with ⟨hahead, hplaced⟩ | ⟨-, rfl, rfl⟩
      · rw [processTimerNow_iff le_rfl (by omega), not_le] at hahead
        exact hlists.placed hordered.base_dvd hsampled rfl le_rfl hahead hplaced
      · exact hlists
  | stopped message now hpc =>
      exact ⟨base, { hordered with issued := hissued, informed := trivial }⟩
  | restarted timer value hpc =>
      exact ⟨base, { hordered with issued := hissued, informed := trivial }⟩

/-! ## The other steps -/

theorem underway_tick : state.tick.Underway message ↔ state.Underway message := by
  simp only [State.Underway, State.tick, message_tick]

theorem tickCount_tick (state : State ℕ Timer Sender) :
    later state.xTickCount 1 = state.xTickCount + 1 := rfl

/-- A service that is asleep is readied by the tick up to which it waits. -/
theorem informed_tick (hsampled : state.xLastTime ≤ state.xTickCount)
    (hinformed : state.pc.Informed base state) :
    state.tick.pc.Informed base state.tick := by
  have hle : state.xTickCount ≤ state.xTickCount + 1 := Nat.le_add_right _ _
  simp only [State.tick, tickCount_tick]
  generalize state.pc = pc at hinformed
  cases pc with
  | blocked since ticks =>
      obtain ⟨hempty, hsince, hasleep, hitems⟩ := hinformed
      have hticks := ticks.isLt
      rw [ServicePc.tick]
      split
      case isTrue => trivial
      case isFalse hnot =>
        rw [BitVec.le_def, toNat_shown_sub, shown_sub (by omega) (by omega) (by omega)]
          at hnot
        refine ⟨hempty, hsince, .inr ?_, hitems⟩
        simp only
        omega
  | sampleTimeNow caller =>
      cases caller with
      | processTimer | receivedCommand => exact hinformed
  | switchTimerLists now caller =>
      obtain ⟨hnow, hnowLe, hcaller⟩ := hinformed
      exact ⟨hnow, hnowLe.trans hle, hcaller⟩
  | switchReload item now caller =>
      obtain ⟨hitem, hnow, hnowLe, hcaller⟩ := hinformed
      exact ⟨hitem, hnow, hnowLe.trans hle, hcaller⟩
  | restart timer value => exact Nat.le_trans hinformed hle
  | nextExpireTime | receiveCommand => trivial
  | expiredTimer | obeyCommand => exact hinformed

/-- A message in the queue only matters to a service that is asleep, and it is readied. -/
theorem informed_send (hinformed : state.pc.Informed base state)
    (queue : List (Message ℕ Timer)) (sending : Sender → Option (Message ℕ Timer)) :
    state.pc.ready.Informed base { state with
      xTimerQueue := queue, sending := sending, pc := state.pc.ready } := by
  cases hpc : state.pc with
  | blocked => trivial
  | sampleTimeNow caller =>
      rw [hpc] at hinformed
      cases caller with
      | processTimer | receivedCommand => exact hinformed
  | _ =>
      rw [hpc] at hinformed
      exact hinformed

theorem issued_request {timer : Timer} (request : Request) :
    Message.Issued state.xTickCount ⟨state.request request, timer⟩ := by
  intro time htime
  cases request with
  | start => exact (Command.start.inj htime).ge
  | stop | changePeriod | delete => cases htime

theorem sending_of_update [DecidableEq Sender] {sender waiting : Sender}
    {sending : Sender → Option (Message ℕ Timer)} {value : Option (Message ℕ Timer)}
    (hwaiting : Function.update sending sender value waiting = some message) :
    value = some message ∨ sending waiting = some message := by
  by_cases hsame : waiting = sender
  · rw [hsame, Function.update_self] at hwaiting
    exact .inl hwaiting
  · rw [Function.update_of_ne hsame] at hwaiting
    exact .inr hwaiting

theorem underway_send [DecidableEq Sender] {sender : Sender} {other : Message ℕ Timer}
    (hsending : state.sending sender = some message)
    (hunderway : State.Underway { state with
      xTimerQueue := state.xTimerQueue ++ [message]
      sending := Function.update state.sending sender none
      pc := state.pc.ready } other) : state.Underway other := by
  rcases hunderway with ⟨waiting, hwaiting⟩ | hqueue | hheld
  · exact .inl ⟨waiting, (sending_of_update hwaiting).resolve_left (by simp)⟩
  · rcases List.mem_append.mp hqueue with hqueue | hlast
    · exact .inr (.inl hqueue)
    · obtain rfl := List.mem_singleton.mp hlast
      exact .inl ⟨sender, hsending⟩
  · rw [message_ready] at hheld
    exact .inr (.inr hheld)

theorem underway_giveUp [DecidableEq Sender] {sender : Sender}
    (hunderway : State.Underway { state with
      sending := Function.update state.sending sender none } message) :
    state.Underway message := by
  rcases hunderway with ⟨waiting, hwaiting⟩ | hbefore
  · exact .inl ⟨waiting, (sending_of_update hwaiting).resolve_left (by simp)⟩
  · exact .inr hbefore

theorem Ordered.step [DecidableEq Timer] [DecidableEq Sender] (hordered : Ordered base state)
    (htimely : Timely state) {action : Action Timer Sender}
    (hstep : step state action = some next) : ∃ base, Ordered base next := by
  cases step_effect hstep with
  | served _ hserved => exact hordered.served htimely hserved
  | ticked =>
      refine ⟨base, { hordered with
        sampled_le := hordered.sampled_le.trans (Nat.le_add_right _ _)
        issued := ?_
        informed := informed_tick hordered.sampled_le hordered.informed }⟩
      intro message hunderway time htime
      rw [underway_tick] at hunderway
      exact (hordered.issued message hunderway time htime).trans (Nat.le_add_right _ _)
  | commanded sender timer request hidle =>
      refine ⟨base, { hordered with
        issued := ?_
        informed := hordered.informed }⟩
      rintro message (⟨other, hsending⟩ | hbefore)
      · rcases sending_of_update hsending with hnew | hbefore
        · obtain rfl := Option.some.inj hnew
          exact issued_request request
        · exact hordered.issued message (.inl ⟨other, hbefore⟩)
      · exact hordered.issued message (.inr hbefore)
  | sent sender message hsending hroom =>
      exact ⟨base, { hordered with
        issued := fun other hunderway =>
          hordered.issued other (underway_send hsending hunderway)
        informed := informed_send hordered.informed _ _ }⟩
  | gaveUp sender message hsending =>
      exact ⟨base, { hordered with
        issued := fun other hunderway => hordered.issued other (underway_giveUp hunderway)
        informed := hordered.informed }⟩

end Steps

/-! ## Whole runs -/

theorem ordered_initial {control : Timer → TimerControl} :
    Ordered 0 (initial 0 control : State ℕ Timer Sender) where
  base_dvd := dvd_zero _
  sampled_turn := ⟨le_rfl, by simp [initial]⟩
  sampled_le := le_rfl
  lists := ⟨by simp [initial], by simp [initial], .nil, .nil⟩
  issued := by simp [State.Underway, initial, ServicePc.message]
  called := by simp [initial]
  informed := trivial

/-- While the service sleeps no timer is due. -/
theorem Ordered.not_due {base : ℕ} {state : State ℕ Timer Sender}
    (hordered : Ordered base state) {since : ℕ} {xTicksToWait : BitVec 32}
    (hblocked : state.pc = .blocked since xTicksToWait) :
    ∀ item ∈ state.pxCurrentTimerList ++ state.pxOverflowTimerList,
      state.xTickCount < item.xItemValue := by
  have hinformed := hordered.informed
  rw [hblocked] at hinformed
  obtain ⟨-, -, hasleep, hitems⟩ := hinformed
  intro item hitem
  obtain ⟨hsince, hwait⟩ := hitems item hitem
  omega

section Runs

variable [DecidableEq Timer] [DecidableEq Sender] {control : Timer → TimerControl}
variable {trace : Trace (State ℕ Timer Sender) (Action Timer Sender)}
variable {state : State ℕ Timer Sender}

theorem ordered_of_path (hpath : Path step (initial 0 control) trace state)
    (htimely : ∀ transition ∈ trace, Timely transition.source) :
    ∃ base, Ordered base state := by
  apply hpath.preserves ⟨0, ordered_initial⟩
  rintro transition hmem hstep ⟨base, hordered⟩
  exact hordered.step (htimely transition hmem) hstep

/-- The service does not sleep through the moment at which a timer is due. -/
theorem asleep_before_due (hpath : Path step (initial 0 control) trace state)
    (htimely : ∀ transition ∈ trace, Timely transition.source) {since : ℕ}
    {xTicksToWait : BitVec 32} (hblocked : state.pc = .blocked since xTicksToWait) :
    ∀ item ∈ state.pxCurrentTimerList ++ state.pxOverflowTimerList,
      state.xTickCount < item.xItemValue := by
  obtain ⟨base, hordered⟩ := ordered_of_path hpath htimely
  exact hordered.not_due hblocked

theorem asleep_before_due_carriedOut :
    ∃ run, follow step (initial 0 twoTicks) (carriedOut ++ [.tick]) = some run ∧
      run.2.pxCurrentTimerList = [⟨2, ()⟩] ∧
        ∀ item ∈ run.2.pxCurrentTimerList ++ run.2.pxOverflowTimerList,
          run.2.xTickCount < item.xItemValue := by
  let run := (follow step (initial 0 twoTicks) (carriedOut ++ [.tick])).get rfl
  have hpath : Path step (initial 0 twoTicks) run.1 run.2 := path_of_schedule rfl
  have hshort : ∀ transition ∈ run.1, transition.source.xTickCount < 2 ^ 32 := by
    decide +kernel
  have hblocked : run.2.pc = .blocked 0 2 := rfl
  exact ⟨run, (Option.some_get rfl).symm, rfl,
    asleep_before_due hpath (fun transition hmem => timely_of_lt (hshort transition hmem))
      hblocked⟩

end Runs

end FrequencyRelay.Timers
