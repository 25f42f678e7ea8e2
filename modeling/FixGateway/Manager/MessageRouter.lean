import FixGateway.Application.PriorityQueueContainer
import FixGateway.Protocol.FixMsgType

/-! # The message router

`MessageRouter::routeMessage` pushes the pointer of an inbound message into the queue
that its type belongs to. When the queue is full or shut down the router only counts the
drop: the message is not given back to the pool, and since the function is `noexcept`
and returns nothing, its caller cannot tell.

The type is read through the cache of the message, which for a message of the parser
agrees with its MsgType field. Times are not modelled.
-/

namespace FixGateway.Manager

open Application Protocol Utils

structure RouterStats where
  messagesRouted : Nat := 0
  messagesDropped : Nat := 0
  routingErrors : Nat := 0
  /-- `critical_routed`, `high_routed`, `medium_routed` and `low_routed`. -/
  routed : Priority → Nat := fun _ => 0
  /-- `critical_dropped`, `high_dropped`, `medium_dropped` and `low_dropped`. -/
  dropped : Priority → Nat := fun _ => 0

structure MessageRouter where
  queues : PriorityQueueContainer
  stats : RouterStats := {}

namespace MessageRouter

def getMessagePriority (message : FixMessage) : Priority :=
  match FixMessage.typeOf message.fields with
  | .executionReport => .critical
  | .heartbeat => .low
  | .orderCancelReject | .newOrderSingle | .orderCancelRequest | .orderCancelReplaceRequest
  | .orderStatusRequest => .critical
  | .marketDataRequest | .marketDataSnapshot | .marketDataIncrementalRefresh
  | .marketDataRequestReject => .high
  | .testRequest | .resendRequest | .reject | .sequenceReset | .logout | .logon => .medium
  | .unknown => .low

def tryRouteToQueue (router : MessageRouter) (slot : Nat) (priority : Priority) :
    Bool × MessageRouter :=
  let (enqueued, queues) := router.queues.push priority slot
  (enqueued, { router with queues := queues })

def recordRoutingSuccess (router : MessageRouter) (priority : Priority) : MessageRouter :=
  { router with
    stats := { router.stats with
      messagesRouted := router.stats.messagesRouted + 1
      routed := Function.update router.stats.routed priority
        (router.stats.routed priority + 1) } }

def recordRoutingFailure (router : MessageRouter) (priority : Priority) : MessageRouter :=
  { router with
    stats := { router.stats with
      messagesDropped := router.stats.messagesDropped + 1
      dropped := Function.update router.stats.dropped priority
        (router.stats.dropped priority + 1) } }

/-- `routeMessage` of a pointer and the message it points to; `none` is a null pointer. -/
def routeMessage (router : MessageRouter) : Option (Nat × FixMessage) → MessageRouter
  | none =>
    { router with
      stats := { router.stats with routingErrors := router.stats.routingErrors + 1 } }
  | some (slot, message) =>
    let priority := getMessagePriority message
    let (enqueued, router) := router.tryRouteToQueue slot priority
    if enqueued then router.recordRoutingSuccess priority
    else router.recordRoutingFailure priority

/-- `routeMessages`; `none` is a null array. -/
def routeMessages (router : MessageRouter) :
    Option (List (Option (Nat × FixMessage))) → MessageRouter
  | none => router
  | some messages => messages.foldl routeMessage router

/-! ## Routed or dropped -/

/-- The queue of the message's priority is running and has room. -/
def Accepts (router : MessageRouter) (message : FixMessage) : Prop :=
  let queue := router.queues.getQueue (getMessagePriority message)
  queue.isShutdown = false ∧ queue.entries.length ≠ queue.capacity - 1

instance (router : MessageRouter) (message : FixMessage) : Decidable (router.Accepts message) :=
  inferInstanceAs (Decidable (_ ∧ _))

/-- The pointers that wait in the queue of a priority. -/
def waiting (router : MessageRouter) (priority : Priority) : List Nat :=
  (router.queues.getQueue priority).entries

variable {router : MessageRouter} {slot : Nat} {message : FixMessage}

theorem routeMessage_waiting (router : MessageRouter) (slot : Nat) (message : FixMessage) :
    (router.routeMessage (some (slot, message))).waiting =
      Function.update router.waiting (getMessagePriority message)
        ((router.queues.getQueue (getMessagePriority message)).push slot).2.entries := by
  funext priority
  have pushed : (router.routeMessage (some (slot, message))).queues =
      (router.queues.push (getMessagePriority message) slot).2 := by
    unfold routeMessage
    dsimp only
    split <;> rfl
  unfold waiting
  rw [pushed]
  simp only [PriorityQueueContainer.push, PriorityQueueContainer.getQueue]
  by_cases same : priority = getMessagePriority message
  · subst same
    simp
  · simp [same]

theorem routeMessage_accepted (accepts : router.Accepts message) :
    (router.routeMessage (some (slot, message))).waiting =
      Function.update router.waiting (getMessagePriority message)
        (router.waiting (getMessagePriority message) ++ [slot]) := by
  obtain ⟨running, room⟩ := accepts
  rw [routeMessage_waiting]
  congr 1
  unfold LockFreeQueue.push
  rw [if_neg (by rw [running]; exact Bool.false_ne_true), dif_neg room]
  rfl

theorem routeMessage_dropped (refused : ¬ router.Accepts message) :
    (router.routeMessage (some (slot, message))).waiting = router.waiting := by
  rw [routeMessage_waiting, Function.update_eq_self_iff]
  unfold LockFreeQueue.push
  split
  · rfl
  · rename_i running
    split
    · rfl
    · rename_i room
      exact absurd ⟨Bool.not_eq_true _ |>.mp running, room⟩ refused

end MessageRouter

end FixGateway.Manager
