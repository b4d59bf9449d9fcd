import Mathlib.Algebra.Order.Ring.Nat
import Mathlib.Tactic.Ring.Basic

/-!
# Counters that wrap around

A clock that shows the time modulo a span.  `base` is a moment at which it showed zero;
the times from `base` on, up to the next such moment, make one turn of the clock.
Within a turn the clock shows the order of two times, and from the differences that it
shows for times less than a span apart nothing is lost.
-/

namespace FrequencyRelay.WrappedTime

variable {span base time now earlier : ℕ}

/-- A time within the turn that begins at `base`. -/
def InTurn (span base time : ℕ) : Prop := base ≤ time ∧ time < base + span

theorem shown_eq (hbase : span ∣ base) (hturn : InTurn span base time) :
    time % span = time - base := by
  obtain ⟨count, rfl⟩ := hbase
  obtain ⟨hfrom, hto⟩ := hturn
  obtain ⟨shown, rfl⟩ := Nat.exists_eq_add_of_le hfrom
  rw [Nat.mul_add_mod, Nat.mod_eq_of_lt (by omega)]
  omega

/-- The turn of a time. -/
theorem inTurn_start (hspan : 0 < span) (time : ℕ) :
    span ∣ span * (time / span) ∧ InTurn span (span * (time / span)) time := by
  have hsplit := Nat.div_add_mod time span
  have hlt := Nat.mod_lt time hspan
  refine ⟨Nat.dvd_mul_right _ _, ?_, ?_⟩ <;> omega

theorem inTurn_of_lt_add (hearlier : InTurn span base earlier) (hle : earlier ≤ now)
    (hlt : now < earlier + span) :
    InTurn span base now ∨ InTurn span (base + span) now := by
  unfold InTurn at *
  omega

theorem dvd_next (hbase : span ∣ base) : span ∣ base + span :=
  Nat.dvd_add hbase (Nat.dvd_refl span)

/-- Less than a span later, the clock has gone on to its next turn exactly when it
shows less than before. -/
theorem shown_lt_iff (hbase : span ∣ base) (hearlier : InTurn span base earlier)
    (hle : earlier ≤ now) (hlt : now < earlier + span) :
    now % span < earlier % span ↔ base + span ≤ now := by
  rw [shown_eq hbase hearlier]
  rcases inTurn_of_lt_add hearlier hle hlt with hturn | hturn
  · rw [shown_eq hbase hturn]
    unfold InTurn at *
    omega
  · rw [shown_eq (dvd_next hbase) hturn]
    unfold InTurn at *
    omega

/-- The difference that the clock shows. -/
theorem shown_sub (hspan : 0 < span) (hle : earlier ≤ now) (hlt : now < earlier + span) :
    (span - earlier % span + now % span) % span = now - earlier := by
  obtain ⟨hbase, hearlier⟩ := inTurn_start hspan earlier
  rw [shown_eq hbase hearlier]
  generalize span * (earlier / span) = base at *
  rcases inTurn_of_lt_add hearlier hle hlt with hturn | hturn
  · rw [shown_eq hbase hturn]
    unfold InTurn at *
    have hsum : span - (earlier - base) + (now - base) = now - earlier + span := by omega
    rw [hsum, Nat.add_mod_right, Nat.mod_eq_of_lt (by omega)]
  · rw [shown_eq (dvd_next hbase) hturn]
    unfold InTurn at *
    have hsum : span - (earlier - base) + (now - (base + span)) = now - earlier := by omega
    rw [hsum, Nat.mod_eq_of_lt (by omega)]

/-! ## Deadlines -/

section Deadlines

variable {command period : ℕ}

/-- A period that began less than a span ago, as the clock shows it: it has passed if
the end is shown as past and the whole period too, or if the end is shown as still to
come and the clock has gone on to a new turn before it. -/
def ShownPassed (span command period now : ℕ) : Prop :=
  if (command + period) % span ≤ now % span then
    period ≤ (span - command % span + now % span) % span
  else now % span < command % span ∧ command % span ≤ (command + period) % span

/-- The clock shows correctly whether the period has passed. -/
theorem shownPassed_iff (hperiod : period < span)
    (hle : command ≤ now) (hlt : now < command + span) :
    ShownPassed span command period now ↔ command + period ≤ now := by
  have hspan : 0 < span := by omega
  obtain ⟨hbase, hcommand⟩ := inTurn_start hspan command
  rw [ShownPassed, shown_sub hspan hle hlt, shown_eq hbase hcommand]
  generalize span * (command / span) = base at *
  have hend := inTurn_of_lt_add hcommand (Nat.le_add_right command period)
    (Nat.add_lt_add_left hperiod command)
  have hnow := inTurn_of_lt_add hcommand hle hlt
  rcases hend with hend | hend <;> rcases hnow with hnow | hnow
  · rw [shown_eq hbase hend, shown_eq hbase hnow]
    unfold InTurn at *
    split <;> omega
  · rw [shown_eq hbase hend, shown_eq (dvd_next hbase) hnow]
    unfold InTurn at *
    split <;> omega
  · rw [shown_eq (dvd_next hbase) hend, shown_eq hbase hnow]
    unfold InTurn at *
    split <;> omega
  · rw [shown_eq (dvd_next hbase) hend, shown_eq (dvd_next hbase) hnow]
    unfold InTurn at *
    split <;> omega

/-- A period that has not passed ends in the next turn exactly when its end is shown
as past. -/
theorem deadline_turn (hbase : span ∣ base) (hnow : InTurn span base now)
    (hle : command ≤ now) (hperiod : period < span) (hnot : now < command + period) :
    if (command + period) % span ≤ now % span then
      InTurn span (base + span) (command + period)
    else InTurn span base (command + period) := by
  have hend : InTurn span base (command + period) ∨
      InTurn span (base + span) (command + period) := by
    unfold InTurn at *
    omega
  rw [shown_eq hbase hnow]
  rcases hend with hend | hend
  · rw [shown_eq hbase hend, if_neg (by unfold InTurn at *; omega)]
    exact hend
  · rw [shown_eq (dvd_next hbase) hend, if_pos (by unfold InTurn at *; omega)]
    exact hend

end Deadlines

end FrequencyRelay.WrappedTime
