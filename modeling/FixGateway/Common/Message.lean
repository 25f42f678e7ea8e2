import FixGateway.Application.PriorityQueueContainer
import Mathlib.Tactic.Abel

/-! # Messages on their way out

A `Message` carries a serialised payload and its priority from the queues to the
senders. Messages are passed on as pointers; here a message is its value, and what
`Message::destroy` was called with is a history variable of the component that calls it.
-/

namespace FixGateway.Application

/-- The numeric values of `Priority`. -/
def Priority.value : Priority → Int
  | .critical => 0
  | .high => 1
  | .medium => 2
  | .low => 3

theorem Priority.value_injective : Function.Injective Priority.value := by
  intro first second same
  cases first <;> cases second <;> first | rfl | cases same

/-- The sum of what there is for each priority. -/
def Priority.total {α : Type*} [AddCommMonoid α] (value : Priority → α) : α :=
  value .critical + value .high + value .medium + value .low

theorem Priority.total_update {α : Type*} [AddCommMonoid α] (value : Priority → α)
    (priority : Priority) (new : α) :
    total (Function.update value priority new) + value priority = total value + new := by
  cases priority <;> simp [total, Function.update] <;> abel

end FixGateway.Application

namespace FixGateway.Common

open Application ByteScan

structure Message where
  messageId : Bytes
  payload : Bytes
  priority : Priority := .low
  queueEntryTime : Nat := 0
  deriving DecidableEq, Repr

end FixGateway.Common
