import Mathlib.Data.List.Basic

/-!
# A one-shot timer behind a command queue

Clients never touch the timer.  They append commands to a queue that a service
task works off later, in order; a query reads the timer itself and therefore
does not see the commands still waiting.  The service takes two steps over each:
it unlinks the timer, which then reads as dormant, and does what the command
asks for.  `settled` is what the timer will be once the service has caught up,
and is the quantity that clients really control.
-/

namespace FrequencyRelay.OneShotTimer

inductive Command
  | reset
  | stop
  deriving DecidableEq

/-- A reset starts the timer, running or not; a stop makes it dormant. -/
def Command.starts : Command → Bool
  | .reset => true
  | .stop => false

/-- The oldest command stays first while the service is `carrying` it out. -/
structure Timer where
  active : Bool
  carrying : Bool
  commands : List Command
  deriving DecidableEq

namespace Timer

def dormant : Timer := ⟨false, false, []⟩

/-- Append a command for the service task. -/
def send (timer : Timer) (command : Command) : Timer :=
  { timer with commands := timer.commands ++ [command] }

/-- The service task takes up the oldest command, or finishes it. -/
def process (timer : Timer) : Option Timer :=
  match timer.commands with
  | [] => none
  | command :: rest =>
      if timer.carrying then some ⟨command.starts, false, rest⟩
      else some { timer with active := false, carrying := true }

/-- A running timer runs out and becomes dormant. -/
def expire (timer : Timer) : Option Timer :=
  if timer.active && !timer.carrying then some { timer with active := false } else none

/-- The timer's state after the commands already queued. -/
def settled (timer : Timer) : Bool :=
  timer.commands.foldl (fun _ command => command.starts) timer.active

@[simp]
theorem commands_send (timer : Timer) (command : Command) :
    (timer.send command).commands = timer.commands ++ [command] := rfl

@[simp]
theorem settled_send (timer : Timer) (command : Command) :
    (timer.send command).settled = command.starts := by
  simp [send, settled]

theorem process_eq_some_iff {timer next : Timer} :
    timer.process = some next ↔ ∃ command rest, timer.commands = command :: rest ∧
      (timer.carrying = true ∧ next = ⟨command.starts, false, rest⟩ ∨
        timer.carrying = false ∧ next = ⟨false, true, command :: rest⟩) := by
  cases hcommands : timer.commands with
  | nil => simp [process, hcommands]
  | cons command rest =>
      cases hcarrying : timer.carrying with
      | true => simp [process, hcommands, hcarrying, @eq_comm _ next]
      | false => simp [process, hcommands, hcarrying, @eq_comm _ next]

theorem expire_eq_some_iff {timer next : Timer} :
    timer.expire = some next ↔
      (timer.active = true ∧ timer.carrying = false) ∧
        next = { timer with active := false } := by
  cases hactive : timer.active <;> cases hcarrying : timer.carrying <;>
    simp [expire, hactive, hcarrying, @eq_comm _ next]

/-- Half of a command or all of it, the timer stays bound for the same state. -/
theorem settled_process {timer next : Timer} (hprocess : timer.process = some next) :
    next.settled = timer.settled := by
  obtain ⟨command, rest, hcommands, hhalf⟩ := process_eq_some_iff.mp hprocess
  rcases hhalf with ⟨-, rfl⟩ | ⟨-, rfl⟩
  · simp [settled, hcommands]
  · simp [settled, hcommands]

/-- A timer bound to run is running, or a reset is still on its way to it. -/
theorem active_or_reset_of_settled {timer : Timer} (hsettled : timer.settled = true) :
    timer.active = true ∨ Command.reset ∈ timer.commands := by
  rcases List.eq_nil_or_concat timer.commands with hnil | ⟨rest, last, hlast⟩
  · left
    simpa [settled, hnil] using hsettled
  · right
    cases last with
    | reset => simp [hlast]
    | stop => simp [settled, hlast, Command.starts] at hsettled

end Timer

end FrequencyRelay.OneShotTimer
