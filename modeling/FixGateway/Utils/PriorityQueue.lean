import FixGateway.Common.Message
import FixGateway.Concurrency.Transition
import FixGateway.Memory.MaxContainer
import Mathlib.Data.Int.Order.Basic

/-! # The mutex-based priority queue

`PriorityQueue` keeps its messages in a `std::priority_queue`, which gives up a message
that is maximal for `MessagePriorityComparator`. The comparator takes a message with a
larger number for the more urgent one, but CRITICAL has the smallest number and LOW the
largest.

Every operation holds the mutex, so it is one step. A call that waits on a condition
variable takes its step when the wait is over: a push of policy BLOCK that is woken up
finds room and is like any other push, and one that times out finds the queue full; a pop
that times out finds it empty. Counting latencies and logging are left out.
-/

namespace FixGateway.Utils

open Application Common

/-- `MessagePriorityComparator`. -/
def messagePriorityComparator (lhs rhs : Message) : Prop :=
  lhs.priority.value < rhs.priority.value

inductive OverflowPolicy where
  | dropOldest
  | dropNewest
  | block
  | reject
  deriving DecidableEq, Repr

/-- A queue over an implementation of `std::priority_queue`. -/
structure PriorityQueue (heap : MaxContainer messagePriorityComparator) where
  queue : heap.Carrier := heap.empty
  maxSize : Nat := 10000
  overflowPolicy : OverflowPolicy := .dropOldest
  isShutdown : Bool := false
  totalPushed : Nat := 0
  totalPopped : Nat := 0
  totalDropped : Nat := 0
  peakSize : Nat := 0
  /-- A history variable: what `Message::destroy` was called with, newest first. -/
  destroyed : List Message := []

namespace PriorityQueue

variable {heap : MaxContainer messagePriorityComparator} {queue : PriorityQueue heap}
  {message : Message} {rounds : Nat} {priority : Priority}

/-- The messages in the queue. -/
def messages (queue : PriorityQueue heap) : Multiset Message := heap.contents queue.queue

def size (queue : PriorityQueue heap) : Nat := queue.messages.card

/-- `Message::destroy`. -/
def destroy (queue : PriorityQueue heap) (message : Message) : PriorityQueue heap :=
  { queue with destroyed := message :: queue.destroyed }

/-- Remove the top message and destroy it. -/
def discardTop (queue : PriorityQueue heap) : PriorityQueue heap :=
  match heap.pop queue.queue with
  | none => queue
  | some (top, rest) => destroy { queue with queue := rest } top

/-- Remove the top message, destroy it, and count it as dropped. -/
def dropTop (queue : PriorityQueue heap) : PriorityQueue heap :=
  { queue.discardTop with totalDropped := queue.totalDropped + 1 }

/-- `handleOverflow`. What it drops under the policy DROP_OLDEST is the top message. -/
def handleOverflow (queue : PriorityQueue heap) : Bool × PriorityQueue heap :=
  if queue.overflowPolicy = .dropOldest ∧ 0 < queue.size then (true, queue.dropTop)
  else (false, queue)

/-- The push itself, with its counters. -/
def insert (queue : PriorityQueue heap) (message : Message) : PriorityQueue heap :=
  let queue :=
    { queue with
      queue := heap.push queue.queue message
      totalPushed := queue.totalPushed + 1 }
  { queue with peakSize := max queue.peakSize queue.size }

/-- `push` at the given time; a null pointer is `none`. -/
def push (queue : PriorityQueue heap) (now : Nat) : Option Message → Bool × PriorityQueue heap
  | none => (false, queue)
  | some message =>
    if queue.isShutdown then (false, queue.destroy message)
    else
      let message := { message with queueEntryTime := now }
      if queue.maxSize ≤ queue.size then
        match queue.overflowPolicy with
        | .dropOldest =>
          match queue.handleOverflow with
          | (true, queue) => (true, queue.insert message)
          | (false, queue) => (false, queue.destroy message)
        | .dropNewest | .reject =>
          (false, destroy { queue with totalDropped := queue.totalDropped + 1 } message)
        | .block => (false, queue.destroy message)
      else (true, queue.insert message)

/-- `tryPop`. -/
def tryPop (queue : PriorityQueue heap) : Option Message × PriorityQueue heap :=
  match heap.pop queue.queue with
  | none => (none, queue)
  | some (top, rest) =>
    (some top, { queue with queue := rest, totalPopped := queue.totalPopped + 1 })

/-- `pop`, once it has stopped waiting. -/
def pop (queue : PriorityQueue heap) : Option Message × PriorityQueue heap := queue.tryPop

/-- The loop of `clear`, for at most the given number of rounds. -/
def clearUpTo : Nat → PriorityQueue heap → PriorityQueue heap
  | 0, queue => queue
  | rounds + 1, queue => if 0 < queue.size then clearUpTo rounds queue.discardTop else queue

def clear (queue : PriorityQueue heap) : PriorityQueue heap := queue.clearUpTo queue.size

/-- The loop of `setMaxSize`, for at most the given number of rounds. -/
def shrinkUpTo : Nat → PriorityQueue heap → PriorityQueue heap
  | 0, queue => queue
  | rounds + 1, queue =>
    if queue.maxSize < queue.size ∧ queue.overflowPolicy = .dropOldest then
      shrinkUpTo rounds queue.dropTop
    else queue

def setMaxSize (queue : PriorityQueue heap) (maxSize : Nat) : PriorityQueue heap :=
  shrinkUpTo queue.size { queue with maxSize := maxSize }

def setOverflowPolicy (queue : PriorityQueue heap) (policy : OverflowPolicy) :
    PriorityQueue heap :=
  { queue with overflowPolicy := policy }

def shutdown (queue : PriorityQueue heap) : PriorityQueue heap :=
  { queue with isShutdown := true }

/-! ## Runs -/

inductive Operation where
  | push (now : Nat) (message : Option Message)
  | pop
  | tryPop
  | clear
  | setMaxSize (maxSize : Nat)
  | setOverflowPolicy (policy : OverflowPolicy)
  | shutdown
  deriving DecidableEq, Repr

def step (queue : PriorityQueue heap) : Operation → PriorityQueue heap
  | .push now message => (queue.push now message).2
  | .pop => queue.pop.2
  | .tryPop => queue.tryPop.2
  | .clear => queue.clear
  | .setMaxSize maxSize => queue.setMaxSize maxSize
  | .setOverflowPolicy policy => queue.setOverflowPolicy policy
  | .shutdown => queue.shutdown

/-- The message that an operation returns. -/
def returned (queue : PriorityQueue heap) : Operation → Option Message
  | .pop => queue.pop.1
  | .tryPop => queue.tryPop.1
  | _ => none

/-! ## The most urgent message -/

/-- CRITICAL is more urgent than HIGH, HIGH than MEDIUM, and MEDIUM than LOW. -/
def urgency : Priority → Nat
  | .critical => 3
  | .high => 2
  | .medium => 1
  | .low => 0

theorem urgency_le_iff (first second : Priority) :
    urgency first ≤ urgency second ↔ second.value ≤ first.value := by
  cases first <;> cases second <;> decide

/-- What an operation returns is at least as urgent as every message in the queue. -/
def MostUrgentFirst (queue : PriorityQueue heap) (operation : Operation) : Prop :=
  ∀ message ∈ queue.returned operation, ∀ other ∈ queue.messages,
    urgency other.priority ≤ urgency message.priority

/-- When an operation returns a message, all messages in the queue have one priority. -/
def OnePriority (queue : PriorityQueue heap) (operation : Operation) : Prop :=
  (queue.returned operation).isSome → ∀ first ∈ queue.messages, ∀ second ∈ queue.messages,
    first.priority = second.priority

theorem tryPop_fst (queue : PriorityQueue heap) :
    queue.tryPop.1 = (heap.pop queue.queue).map Prod.fst := by
  unfold tryPop
  split
  · rename_i none
    rw [none]
    rfl
  · rename_i top rest popped
    rw [popped]
    rfl

theorem tryPop_none (refused : queue.tryPop.1 = none) : queue.tryPop.2 = queue := by
  unfold tryPop at refused ⊢
  split
  · rfl
  · rename_i top rest popped
    rw [popped] at refused
    cases refused

theorem size_of_tryPop {after : PriorityQueue heap}
    (popped : queue.tryPop = (some message, after)) : queue.size = after.size + 1 := by
  unfold tryPop at popped
  split at popped
  · cases popped
  · rename_i top rest taken
    cases popped
    rw [size, messages, heap.contents_of_pop taken, Multiset.card_cons]
    rfl

/-- The top message is a least urgent one, so it is most urgent only among equals. -/
theorem top_most_urgent_iff {top : Message} {rest : heap.Carrier}
    (popped : heap.pop queue.queue = some (top, rest)) :
    (∀ other ∈ queue.messages, urgency other.priority ≤ urgency top.priority) ↔
      ∀ first ∈ queue.messages, ∀ second ∈ queue.messages, first.priority = second.priority := by
  have numbers : ∀ first second : Priority, first = second ↔ first.value = second.value :=
    fun _ _ => Priority.value_injective.eq_iff.symm
  simp only [urgency_le_iff, numbers]
  exact MaxContainer.pop_least_iff heap popped

theorem tryPop_most_urgent_iff (queue : PriorityQueue heap) :
    (∀ message ∈ queue.tryPop.1, ∀ other ∈ queue.messages,
      urgency other.priority ≤ urgency message.priority) ↔
      (queue.tryPop.1.isSome → ∀ first ∈ queue.messages, ∀ second ∈ queue.messages,
        first.priority = second.priority) := by
  rw [tryPop_fst]
  cases popped : heap.pop queue.queue with
  | none => simp
  | some taken =>
    obtain ⟨top, rest⟩ := taken
    simp only [Option.map_some, Option.mem_some_iff, forall_eq', Option.isSome_some, true_implies]
    exact top_most_urgent_iff popped

theorem mostUrgentFirst_iff (queue : PriorityQueue heap) (operation : Operation) :
    queue.MostUrgentFirst operation ↔ queue.OnePriority operation := by
  cases operation with
  | pop => exact queue.tryPop_most_urgent_iff
  | tryPop => exact queue.tryPop_most_urgent_iff
  | push now message => simp [MostUrgentFirst, OnePriority, returned]
  | clear => simp [MostUrgentFirst, OnePriority, returned]
  | setMaxSize maxSize => simp [MostUrgentFirst, OnePriority, returned]
  | setOverflowPolicy policy => simp [MostUrgentFirst, OnePriority, returned]
  | shutdown => simp [MostUrgentFirst, OnePriority, returned]

/-- In a run, every message is returned before all less urgent ones exactly when it is returned
from a queue in which all messages have its priority. -/
theorem run_most_urgent_first_iff (queue : PriorityQueue heap) (operations : List Operation) :
    Transition.Permits step MostUrgentFirst queue operations ↔
      Transition.Permits step OnePriority queue operations :=
  Transition.permits_congr mostUrgentFirst_iff queue operations

/-- A queue as the constructor makes it, over a list. -/
def sampleQueue : PriorityQueue (MaxContainer.ofKey fun message : Message =>
    message.priority.value) := {}

def sampleLow : Message := { messageId := [1], payload := [] }

def sampleCritical : Message := { messageId := [2], payload := [], priority := .critical }

/-- A CRITICAL message is pushed and then a LOW one, and `tryPop` returns the LOW one. -/
theorem low_message_first :
    let queue := Transition.execute step sampleQueue
      [.push 0 (some sampleCritical), .push 0 (some sampleLow)]
    queue.tryPop.1 = some sampleLow ∧ sampleCritical ∈ queue.messages ∧
      ¬ queue.MostUrgentFirst .tryPop := by
  intro queue
  have popped : queue.tryPop.1 = some sampleLow := by decide +kernel
  have waiting : sampleCritical ∈ queue.messages := by decide +kernel
  refine ⟨popped, waiting, fun first => ?_⟩
  exact absurd (first sampleLow popped sampleCritical waiting) (by decide)

theorem handleOverflow_cases (queue : PriorityQueue heap) :
    queue.handleOverflow = (true, queue.dropTop) ∨ queue.handleOverflow = (false, queue) := by
  unfold handleOverflow
  split
  · exact .inl rfl
  · exact .inr rfl

/-- Whatever is pushed has the given priority. -/
def Pushes (priority : Priority) (_ : PriorityQueue heap) : Operation → Prop
  | .push _ message => ∀ pushed ∈ message, pushed.priority = priority
  | _ => True

end PriorityQueue

end FixGateway.Utils
