import FrequencyRelay.Core.Runs

/-!
# Bounded queues

What a bounded queue is to its users: a list of items, changed by one operation after
another.  An event names the item that was sent or received, so that a run says what
was received, not only how the queue changed.
-/

namespace FrequencyRelay.BoundedQueue

open FrequencyRelay.Runs

variable {Item : Type*}

/-- An operation with its result -/
inductive Event (Item : Type*)
  | sentToBack (item : Item)
  | sentToFront (item : Item)
  | overwritten (item : Item)
  | received (item : Item)
  | peeked (item : Item)
  | foundFull
  | foundEmpty

/-- The queue after an operation, if that result is possible. -/
def step [DecidableEq Item] (capacity : ℕ) (items : List Item) :
    Event Item → Option (List Item)
  | .sentToBack item => if items.length < capacity then some (items ++ [item]) else none
  | .sentToFront item => if items.length < capacity then some (item :: items) else none
  | .overwritten item => if capacity = 1 then some [item] else none
  | .received item => if items.head? = some item then some items.tail else none
  | .peeked item => if items.head? = some item then some items else none
  | .foundFull => if items.length = capacity then some items else none
  | .foundEmpty => if items = [] then some items else none

/-- The item that an event adds behind the others -/
def Event.sent : Event Item → Option Item
  | .sentToBack item => some item
  | _ => none

/-- The item that an event takes out -/
def Event.taken : Event Item → Option Item
  | .received item => some item
  | _ => none

/-- An event that keeps the order of the items -/
def Event.InOrder : Event Item → Prop
  | .sentToFront _ | .overwritten _ => False
  | _ => True

instance : (event : Event Item) → Decidable event.InOrder
  | .sentToFront _ | .overwritten _ => .isFalse id
  | .sentToBack _ | .received _ | .peeked _ | .foundFull | .foundEmpty => .isTrue trivial

variable [DecidableEq Item] {capacity : ℕ} {items next : List Item} {event : Event Item}

/-- What an event that keeps the order does to the items -/
theorem step_in_order (hstep : step capacity items event = some next)
    (horder : event.InOrder) :
    items ++ event.sent.toList = event.taken.toList ++ next := by
  cases event with
  | sentToFront | overwritten => exact horder.elim
  | sentToBack item =>
      rw [step, Option.ite_none_right_eq_some] at hstep
      exact Option.some.inj hstep.2
  | received item =>
      rw [step, Option.ite_none_right_eq_some, List.head?_eq_some_iff] at hstep
      obtain ⟨⟨tail, rfl⟩, hnext⟩ := hstep
      obtain rfl := Option.some.inj hnext
      exact List.append_nil _
  | peeked | foundFull | foundEmpty =>
      rw [step, Option.ite_none_right_eq_some] at hstep
      obtain rfl := Option.some.inj hstep.2
      exact List.append_nil _

/-- First in, first out: everything that was sent has been received in the same order, or
is still in the queue. -/
theorem sent_eq_taken_append {trace : Trace (List Item) (Event Item)} {start finish : List Item}
    (hpath : Path (step capacity) start trace finish)
    (horder : ∀ transition ∈ trace, transition.action.InOrder) :
    start ++ trace.filterMap (fun transition => transition.action.sent) =
      trace.filterMap (fun transition => transition.action.taken) ++ finish := by
  induction hpath with
  | nil => simp
  | @snoc trace source target action hearlier hstep ih =>
      have hlast := step_in_order hstep
        (horder ⟨source, action, target⟩ (List.mem_append_right _ (List.mem_singleton_self _)))
      have hbefore := ih fun transition hmem => horder transition (List.mem_append_left _ hmem)
      rw [List.filterMap_append, List.filterMap_append, ← List.append_assoc, hbefore,
        List.append_assoc, List.append_assoc]
      exact congrArg (List.append _) hlast

end FrequencyRelay.BoundedQueue
