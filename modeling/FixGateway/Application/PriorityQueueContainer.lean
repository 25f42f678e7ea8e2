import FixGateway.Utils.LockFreeQueue
import Mathlib.Logic.Function.Basic

/-! # The outbound queues

One queue of message pointers for each priority. A pointer is the index of a
slot of the message pool.
-/

namespace FixGateway.Application

open Utils

inductive Priority where
  | critical
  | high
  | medium
  | low
  deriving DecidableEq, Repr

structure PriorityQueueContainer where
  queues : Priority → LockFreeQueue Nat

namespace PriorityQueueContainer

/-- The queue sizes of the constructor. -/
def queueSize : Priority → Nat
  | .critical => 2048
  | .high => 2048
  | .medium => 1024
  | .low => 512

def new : PriorityQueueContainer where
  queues := fun priority => LockFreeQueue.new Nat (queueSize priority)

def getQueue (container : PriorityQueueContainer) (priority : Priority) : LockFreeQueue Nat :=
  container.queues priority

/-- `push` into the queue that `getQueue` points to. -/
def push (container : PriorityQueueContainer) (priority : Priority) (slot : Nat) :
    Bool × PriorityQueueContainer :=
  let (enqueued, queue) := (container.getQueue priority).push slot
  (enqueued, { queues := Function.update container.queues priority queue })

end PriorityQueueContainer

end FixGateway.Application
