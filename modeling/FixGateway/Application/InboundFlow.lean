import FixGateway.Application.InboundPipeline

/-! # What goes through the inbound pipeline

Two results about all interleavings of the receiving thread with the managers. What the
managers take from a queue is what the router put into it, in the same order, whatever the
managers do with it and whichever of them polls. And when session managers handle the
messages, no slot of the pool is ever given back.
-/

namespace FixGateway.Application.InboundPipeline

open ByteScan Common Manager Protocol Transition
open MessagePool MessageRouter PriorityQueueContainer StreamFixParser

variable {count : Nat} {machine : InboundPipeline count} {move : Move count} {index : Fin count}
  {handling : Handling}

/-! ## The order of the queues -/

/-- What a step puts into the queue of a priority. -/
def enqueued (priority : Priority) (machine : InboundPipeline count) : Move count → List Nat
  | .route =>
    match machine.routing, machine.beingRouted with
    | some slot, some message =>
      if getMessagePriority message = priority ∧ machine.gateway.messageRouter.Accepts message
      then [slot] else []
    | _, _ => []
  | _ => []

/-- What a step takes from the queue of a priority into the hands of a manager. -/
def dequeued (priority : Priority) (machine : InboundPipeline count) : Move count → List Nat
  | .poll index =>
    if (machine.managers index).inboundQueue = some priority ∧ machine.hands index = none
    then ((machine.poll index).hands index).toList else []
  | _ => []

theorem route_waiting (machine : InboundPipeline count) (priority : Priority) :
    machine.content (.queue priority) ++ machine.enqueued priority .route =
      machine.route.content (.queue priority) := by
  cases routed : machine.routing with
  | none => simp [route_of_none routed, enqueued, routed]
  | some slot =>
    cases found : machine.messagePool.objects slot with
    | none =>
      have unread : machine.gateway.messagePool.objects slot = none := found
      simp [enqueued, routed, beingRouted, found, route, content, Gateway.processParsedMessage,
        unread, routeMessage, MessageRouter.waiting]
    | some message =>
      have router := (route_books routed found).2
      by_cases accepts : machine.gateway.messageRouter.Accepts message
      · by_cases same : getMessagePriority message = priority
        · subst same
          simp [enqueued, routed, beingRouted, found, accepts, content, router,
            routeMessage_accepted accepts]
        · simp [enqueued, routed, beingRouted, found, same, Ne.symm same, content, router,
            routeMessage_accepted accepts]
      · simp [enqueued, routed, beingRouted, found, accepts, content, router,
          routeMessage_dropped accepts]

theorem poll_waiting (machine : InboundPipeline count) (index : Fin count) (priority : Priority) :
    machine.content (.queue priority) =
      machine.dequeued priority (.poll index) ++
        (machine.poll index).content (.queue priority) := by
  -- a poll that takes nothing leaves the machine as it is
  have idle (same : machine.poll index = machine) : machine.content (.queue priority) =
      machine.dequeued priority (.poll index) ++
        (machine.poll index).content (.queue priority) := by
    by_cases free : machine.hands index = none
    · simp [dequeued, same, free]
    · simp [dequeued, same, free]
  by_cases busy : (machine.managers index).running = false ∨ (machine.hands index).isSome
  · exact idle (if_pos busy)
  cases connected : (machine.managers index).inboundQueue with
  | none => exact idle (by simp [poll, connected])
  | some other =>
    cases popped : (machine.gateway.messageRouter.queues.getQueue other).tryPop with
    | mk taken queue =>
      cases taken with
      | none => exact idle (by simp [poll, connected, popped])
      | some slot =>
        have front := Utils.LockFreeQueue.entries_of_tryPop popped
        have free : machine.hands index = none :=
          Option.not_isSome_iff_eq_none.mp (not_or.mp busy).2
        have taken : machine.poll index =
            { machine with
              gateway.messageRouter.queues.queues := Function.update
                machine.gateway.messageRouter.queues.queues other queue
              hands := Function.update machine.hands index (some slot) } := by
          unfold poll
          dsimp only
          rw [if_neg busy, connected]
          dsimp only
          rw [popped]
        simp only [dequeued, taken, connected]
        by_cases same : other = priority
        · subst same
          simpa [free, content, MessageRouter.waiting, getQueue] using front
        · simp [same, Ne.symm same, content, MessageRouter.waiting, getQueue]

/-- A step adds at the end of a queue what it puts there, and takes from its front. -/
theorem step_waiting (priority : Priority) (machine : InboundPipeline count) (move : Move count) :
    machine.content (.queue priority) ++ machine.enqueued priority move =
      machine.dequeued priority move ++ (machine.step move).content (.queue priority) := by
  cases move with
  | receive clock outside buffer =>
    have same : (machine.receive clock outside buffer).content (.queue priority) =
        machine.content (.queue priority) := by
      unfold receive
      split
      · rfl
      · split
        · rfl
        · rename_i ok
          simp [content, (parse_ok ok).2]
    exact (List.append_nil _).trans same.symm
  | route => exact machine.route_waiting priority
  | poll index => exact (List.append_nil _).trans (machine.poll_waiting index priority)
  | process index handling =>
    have same : (machine.process index handling).content (.queue priority) =
        machine.content (.queue priority) := by
      unfold process
      split <;> rfl
    exact (List.append_nil _).trans same.symm
  | start index => exact List.append_nil _
  | stop index => exact List.append_nil _
  | shutdown other =>
    have same : (machine.shutdown other).books.content (.queue priority) =
        machine.books.content (.queue priority) := by
      rw [shutdown_books]
    exact (List.append_nil _).trans same.symm

/-- Whatever the threads do, the managers take from the queue of a priority what lay in it and
what the router has put there, in this order, and the rest still waits. -/
theorem taken_in_order (machine : InboundPipeline count) (moves : List (Move count))
    (priority : Priority) :
    machine.content (.queue priority) ++ outputs step (enqueued priority) machine moves =
      outputs step (dequeued priority) machine moves ++
        (execute step machine moves).content (.queue priority) :=
  outputs_queue (step_waiting priority) machine moves

/-! ## The pool of a gateway with session managers -/

/-- Messages are processed by session managers, each in some state. -/
def Served (machine : InboundPipeline count) : Move count → Prop
  | .process index handling =>
    ∃ session clock, handling = machine.handledBy session clock index
  | _ => True

theorem process_grown (served : machine.Served (.process index handling)) :
    machine.messagePool.Grown (machine.process index handling).messagePool := by
  have frees : handling.frees = false := by
    obtain ⟨session, clock, rfl⟩ := served
    unfold handledBy
    split
    · exact session.handling_keeps ..
    · rfl
  have same : (machine.process index handling).messagePool = machine.messagePool := by
    cases held : machine.hands index with
    | none => rw [process_of_none held]
    | some slot =>
      refine (congrArg Books.pool (process_books handling held)).trans ?_
      cases found : machine.messagePool.objects slot with
      | none => simp [InboundMessageManager.processMessage, found]
      | some message =>
        refine InboundMessageManager.processMessage_kept found fun discharges => ?_
        exact Bool.false_ne_true (frees.symm.trans discharges.2.2)
  rw [same]
  exact .refl _

/-- No step of a thread gives a slot back. -/
theorem step_grown (served : machine.Served move) :
    machine.messagePool.Grown (machine.step move).messagePool := by
  cases move with
  | receive clock outside buffer =>
    simp only [step, receive]
    split
    · exact .refl _
    · split
      · exact .refl _
      · rename_i ok
        exact (parse_takes (parse_ok ok).1).1
  | route =>
    simp only [step, route, Gateway.processParsedMessage]
    split <;> exact .refl _
  | poll index =>
    simp only [step, poll]
    split
    · exact .refl _
    · split
      · exact .refl _
      · split <;> exact .refl _
  | process index handling => exact process_grown served
  | start index => exact .refl _
  | stop index => exact .refl _
  | shutdown priority => exact .refl _

/-- With session managers for handlers, a slot that was ever taken stays taken, whatever the
threads do: the slots that are free at the start are all that the gateway ever gets. -/
theorem taken_for_good {moves : List (Move count)} (served : Permits step Served machine moves) :
    machine.messagePool.Grown (execute step machine moves).messagePool := by
  induction moves generalizing machine with
  | nil => exact .refl _
  | cons move moves ih => exact (step_grown served.1).trans (ih served.2)

/-- A heartbeat that is received, routed, polled and handled. -/
def sampleServed : List (Move 1) :=
  sampleArrival ++
    [.process (.last 0) ((execute step samplePipeline sampleArrival).handledBy sampleSession
      ⟨0, ⟨2025, 1, 1, 0, 0, 0, 0⟩⟩ (.last 0))]

theorem taken_for_good_heartbeat :
    samplePipeline.messagePool.Grown (execute step samplePipeline sampleServed).messagePool ∧
      (execute step samplePipeline sampleServed).messagePool.allocatedCount = 1 := by
  have served : Permits step Served samplePipeline sampleServed := by
    refine ⟨trivial, trivial, trivial, ⟨sampleSession, ⟨0, ⟨2025, 1, 1, 0, 0, 0, 0⟩⟩, ?_⟩, trivial⟩
    generalize samplePipeline = machine
    rfl
  exact ⟨taken_for_good served, by decide +kernel⟩

end FixGateway.Application.InboundPipeline
