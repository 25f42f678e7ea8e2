import FixGateway.Utils.PriorityQueueOwnership

/-! # Handing a message to the senders

`AsyncSenderManager::sendMessage` pushes a message into the queue for its priority, and
destroys the message when the push fails. The lock-free queue leaves a message that it
refuses alone, but the mutex-based one destroys it, so it is then destroyed twice. A manager
that is not running returns false and leaves the message alone.

A push into a mutex-based queue that has to wait ends in `resumeSend`, with the manager as
the other threads have left it by then.
-/

namespace FixGateway.Manager

open Application Common Utils

inductive QueueType where
  | mutexBased
  | lockFree
  deriving DecidableEq, Repr

/-- The queue sizes of the default configuration. -/
def defaultQueueSize : Priority → Nat
  | .critical => 1024
  | .high => 2048
  | .medium => 4096
  | .low => 8192

structure AsyncSenderManager (heap : MaxContainer messagePriorityComparator) where
  queueType : QueueType := .mutexBased
  queueSize : Priority → Nat := defaultQueueSize
  running : Bool := false
  /-- The maps from a priority to its queue. -/
  priorityQueues : Priority → Option (PriorityQueue heap) := fun _ => none
  lockFreeQueues : Priority → Option (LockFreeQueue Message) := fun _ => none
  /-- A history variable: what `sendMessage` has destroyed itself, newest first. -/
  destroyed : List Message := []

namespace AsyncSenderManager

variable {heap : MaxContainer messagePriorityComparator}

def createQueuesAndSenders (manager : AsyncSenderManager heap) : AsyncSenderManager heap :=
  match manager.queueType with
  | .mutexBased =>
    { manager with
      priorityQueues := fun priority =>
        some { maxSize := manager.queueSize priority, overflowPolicy := .dropOldest } }
  | .lockFree =>
    { manager with
      lockFreeQueues := fun priority =>
        some (LockFreeQueue.new Message (manager.queueSize priority)) }

def start (manager : AsyncSenderManager heap) : AsyncSenderManager heap :=
  if manager.running then manager else { manager.createQueuesAndSenders with running := true }

/-- A mutex-based queue has answered. -/
def withPriorityQueue (manager : AsyncSenderManager heap) (priority : Priority)
    (result : Bool × PriorityQueue heap) : Bool × AsyncSenderManager heap :=
  (result.1,
    { manager with
      priorityQueues := Function.update manager.priorityQueues priority (some result.2) })

/-- A lock-free queue has answered. -/
def withLockFreeQueue (manager : AsyncSenderManager heap) (priority : Priority)
    (result : Bool × LockFreeQueue Message) : Bool × AsyncSenderManager heap :=
  (result.1,
    { manager with
      lockFreeQueues := Function.update manager.lockFreeQueues priority (some result.2) })

def pushToQueue (manager : AsyncSenderManager heap) (now : Nat) (priority : Priority)
    (message : Message) : Bool × AsyncSenderManager heap :=
  match manager.queueType with
  | .mutexBased =>
    match manager.priorityQueues priority with
    | some queue => manager.withPriorityQueue priority (queue.push now (some message))
    | none => (false, manager)
  | .lockFree =>
    match manager.lockFreeQueues priority with
    | some queue => manager.withLockFreeQueue priority (queue.push message)
    | none => (false, manager)

/-- What `sendMessage` does when the push has returned. -/
def finishSend (message : Message) :
    Bool × AsyncSenderManager heap → Bool × AsyncSenderManager heap
  | (true, manager) => (true, manager)
  | (false, manager) => (false, { manager with destroyed := message :: manager.destroyed })

/-- `sendMessage` at the given time; a null pointer is `none`. -/
def sendMessage (manager : AsyncSenderManager heap) (now : Nat) (priority : Priority) :
    Option Message → Bool × AsyncSenderManager heap
  | none => (false, manager)
  | some message =>
    if manager.running then finishSend message (manager.pushToQueue now priority message)
    else (false, manager)

/-- The rest of `sendMessage` after a push into this queue has waited for room. -/
def resumeSend (manager : AsyncSenderManager heap) (priority : Priority)
    (queue : PriorityQueue heap) (message : Message) : Bool × AsyncSenderManager heap :=
  finishSend message (manager.withPriorityQueue priority (queue.wake message))

/-! ## Who owns the message -/

/-- The messages in all queues. -/
def queued (manager : AsyncSenderManager heap) : Multiset Message :=
  Priority.total (fun priority =>
    (manager.priorityQueues priority).elim 0 PriorityQueue.messages) +
    Priority.total fun priority =>
      (manager.lockFreeQueues priority).elim 0 fun queue => (queue.entries : Multiset Message)

/-- What the manager and its queues have destroyed. -/
def allDestroyed (manager : AsyncSenderManager heap) : Multiset Message :=
  (manager.destroyed : Multiset Message) +
    Priority.total fun priority =>
      (manager.priorityQueues priority).elim 0 fun queue => (queue.destroyed : Multiset Message)

/-- The result of a call tells who owns the message. If it is true, the message is in one queue
and the call has destroyed only messages that were queued before. If it is false, the call has
destroyed the message, once, and nothing else. -/
inductive Owned (before after : AsyncSenderManager heap) (message : Message) : Bool → Prop where
  | queued {stamped : Message} {gone : Multiset Message}
      (same : stamped.unstamped = message.unstamped) (others : gone ≤ before.queued)
      (queued : after.queued + gone = stamped ::ₘ before.queued)
      (destroyed : after.allDestroyed = gone + before.allDestroyed) :
      Owned before after message true
  | destroyed {stamped : Message} (same : stamped.unstamped = message.unstamped)
      (queued : after.queued = before.queued)
      (destroyed : after.allDestroyed = stamped ::ₘ before.allDestroyed) :
      Owned before after message false

/-- The manager is running, and a mutex-based queue for the priority accepts the message. -/
def Keeps (manager : AsyncSenderManager heap) (priority : Priority) : Prop :=
  manager.running = true ∧
    (manager.queueType = .mutexBased → ∀ queue ∈ manager.priorityQueues priority, queue.Accepts)

section Queues

variable {manager : AsyncSenderManager heap} {priority : Priority}

/-- Only the part of the sum that belongs to the changed queue changes. -/
theorem total_update_queue {α : Type} {queues : Priority → Option α} {old : α}
    (part : α → Multiset Message) (there : queues priority = some old) (new : α) :
    Priority.total (fun other => (Function.update queues priority (some new) other).elim 0 part) +
        part old =
      Priority.total (fun other => (queues other).elim 0 part) + part new := by
  have moved := Priority.total_update ((fun queue : Option α => queue.elim 0 part) ∘ queues)
    priority (part new)
  have here : ((fun queue : Option α => queue.elim 0 part) ∘ queues) priority = part old := by
    rw [Function.comp, there]
    rfl
  rw [here] at moved
  refine Eq.trans ?_ moved
  exact congrArg (Priority.total · + part old)
    (Function.comp_update (fun queue : Option α => queue.elim 0 part) queues priority (some new))

variable {queue : PriorityQueue heap}

theorem withPriorityQueue_queued (result : Bool × PriorityQueue heap)
    (there : manager.priorityQueues priority = some queue) :
    (manager.withPriorityQueue priority result).2.queued + queue.messages =
      manager.queued + result.2.messages := by
  have moved := total_update_queue PriorityQueue.messages there result.2
  rw [queued, queued, add_right_comm, add_right_comm _ _ result.2.messages]
  exact congrArg (· + _) moved

theorem withPriorityQueue_allDestroyed (result : Bool × PriorityQueue heap)
    (there : manager.priorityQueues priority = some queue) :
    (manager.withPriorityQueue priority result).2.allDestroyed + queue.destroyed =
      manager.allDestroyed + result.2.destroyed := by
  have moved := total_update_queue
    (fun queue : PriorityQueue heap => (queue.destroyed : Multiset Message)) there result.2
  rw [allDestroyed, allDestroyed, add_assoc, add_assoc]
  exact congrArg (_ + ·) moved

theorem finishSend_refused {result : Bool × AsyncSenderManager heap} (message : Message)
    (refused : result.1 = false) :
    finishSend message result =
      (false, { result.2 with destroyed := message :: result.2.destroyed }) := by
  obtain ⟨_, after⟩ := result
  cases refused
  rfl

theorem allDestroyed_cons (manager : AsyncSenderManager heap) (message : Message) :
    allDestroyed { manager with destroyed := message :: manager.destroyed } =
      message ::ₘ manager.allDestroyed := by
  rw [allDestroyed, allDestroyed, ← Multiset.cons_coe, Multiset.cons_add]

theorem messages_le_queued (there : manager.priorityQueues priority = some queue) :
    queue.messages ≤ manager.queued := by
  have emptied := withPriorityQueue_queued (true, {}) there
  have none : PriorityQueue.messages ({} : PriorityQueue heap) = 0 := heap.contents_empty
  rw [none, add_zero] at emptied
  rw [← emptied]
  exact Multiset.le_add_left _ _

/-- The queue accepts the message, or the message is destroyed twice. -/
theorem finishSend_owned_iff {message stamped : Message} {refused : Nat}
    {result : Bool × PriorityQueue heap} (there : manager.priorityQueues priority = some queue)
    (same : stamped.unstamped = message.unstamped)
    (ends : PriorityQueue.PushEnds queue stamped refused result) :
    Owned manager (finishSend message (manager.withPriorityQueue priority result)).2 message
        (finishSend message (manager.withPriorityQueue priority result)).1 ↔ result.1 = true := by
  have content := withPriorityQueue_queued result there
  have history := withPriorityQueue_allDestroyed result there
  cases ends with
  | @failed after fails dropped =>
    apply iff_of_false _ Bool.false_ne_true
    intro owned
    cases owned with
    | destroyed _ _ destroyed =>
      -- one destruction in the queue and one in the manager
      have twice := congrArg Multiset.card destroyed
      rw [finishSend_refused message rfl, allDestroyed_cons, Multiset.card_cons,
        Multiset.card_cons] at twice
      have once := congrArg Multiset.card history
      rw [fails.destroyed, Multiset.card_add, Multiset.card_add, Multiset.coe_card,
        Multiset.coe_card, List.length_cons] at once
      omega
  | @queued room gone discards dropped accepted =>
    apply iff_of_true _ rfl
    have inserted : (room.insert stamped).messages = stamped ::ₘ room.messages :=
      Custody.insert_messages room stamped
    have others : (gone : Multiset Message) ≤ manager.queued := by
      refine le_trans ?_ (messages_le_queued there)
      rw [discards.messages]
      exact Multiset.le_add_right _ _
    refine .queued same others ?_ ?_
    · change (manager.withPriorityQueue priority (true, room.insert stamped)).2.queued + _ = _
      apply add_right_cancel (b := room.messages)
      rw [add_assoc, ← discards.messages, content, inserted]
      simp only [← Multiset.singleton_add]
      abel
    · change (manager.withPriorityQueue priority (true, room.insert stamped)).2.allDestroyed = _
      apply add_right_cancel (b := (queue.destroyed : Multiset Message))
      rw [history]
      change _ + (room.destroyed : Multiset Message) = _
      rw [discards.destroyed, ← Multiset.coe_add]
      abel

theorem withLockFreeQueue_queued {queue : LockFreeQueue Message}
    (result : Bool × LockFreeQueue Message) (there : manager.lockFreeQueues priority = some queue) :
    (manager.withLockFreeQueue priority result).2.queued + queue.entries =
      manager.queued + result.2.entries := by
  have moved := total_update_queue
    (fun queue : LockFreeQueue Message => (queue.entries : Multiset Message)) there result.2
  rw [queued, queued, add_assoc, add_assoc]
  exact congrArg (_ + ·) moved

/-- A lock-free queue takes the message or leaves it to the manager. -/
theorem finishSend_lockFree {queue : LockFreeQueue Message}
    (there : manager.lockFreeQueues priority = some queue) (message : Message) :
    Owned manager (finishSend message
        (manager.withLockFreeQueue priority (queue.push message))).2 message
      (finishSend message (manager.withLockFreeQueue priority (queue.push message))).1 := by
  rcases queue.push_cases message with ⟨accepted, added⟩ | refused
  · have result : finishSend message
        (manager.withLockFreeQueue priority (queue.push message)) =
        (true, (manager.withLockFreeQueue priority (queue.push message)).2) := by
      rw [withLockFreeQueue, accepted]
      rfl
    rw [result]
    refine .queued rfl (Multiset.zero_le _) ?_ (zero_add _).symm
    apply add_right_cancel (b := (queue.entries : Multiset Message))
    rw [add_zero, withLockFreeQueue_queued _ there, added, ← Multiset.coe_add,
      ← Multiset.singleton_add]
    change _ + (_ + {message}) = _
    abel
  · have same : (manager.withLockFreeQueue priority (false, queue)).2 = manager := by
      rw [withLockFreeQueue, ← there, Function.update_eq_self]
    rw [refused, finishSend_refused message rfl, same]
    exact .destroyed rfl rfl (allDestroyed_cons manager message)

end Queues

/-- A call tells who owns the message exactly when the manager is running and a mutex-based queue
for the priority, if there is one, accepts the message; after a wait, exactly when that queue has
room and is not shut down. -/
theorem sendMessage_owned_iff (manager : AsyncSenderManager heap) (priority : Priority)
    (message : Message) :
    (∀ now, Owned manager (manager.sendMessage now priority (some message)).2 message
      (manager.sendMessage now priority (some message)).1 ↔ manager.Keeps priority) ∧
      ∀ queue, manager.priorityQueues priority = some queue →
        (Owned manager (manager.resumeSend priority queue message).2 message
          (manager.resumeSend priority queue message).1 ↔
          queue.size < queue.maxSize ∧ queue.isShutdown = false) := by
  constructor
  · intro now
    rw [sendMessage, Keeps]
    cases running : manager.running with
    | false =>
      apply iff_of_false _ fun keeps => Bool.false_ne_true keeps.1
      intro owned
      cases owned with
      | destroyed _ _ destroyed =>
        have once := congrArg Multiset.card destroyed
        rw [Multiset.card_cons] at once
        exact absurd once (Nat.ne_of_lt (Nat.lt_succ_self _))
    | true =>
      rw [if_pos rfl, pushToQueue]
      cases kind : manager.queueType with
      | lockFree =>
        apply iff_of_true _ ⟨rfl, by rintro ⟨⟩⟩
        dsimp only
        cases there : manager.lockFreeQueues priority with
        | none => exact .destroyed rfl rfl (allDestroyed_cons manager message)
        | some queue => exact finishSend_lockFree there message
      | mutexBased =>
        dsimp only
        cases there : manager.priorityQueues priority with
        | none =>
          apply iff_of_true (.destroyed rfl rfl (allDestroyed_cons manager message))
          exact ⟨rfl, by rintro - queue ⟨⟩⟩
        | some queue =>
          obtain ⟨stamped, same, ends⟩ := queue.push_ends now message
          rw [finishSend_owned_iff there same ends, queue.push_accepted_iff]
          constructor
          · rintro accepts
            exact ⟨rfl, by rintro - queue ⟨⟩; exact accepts⟩
          · intro keeps
            exact keeps.2 rfl queue rfl
  · intro queue there
    rw [resumeSend, finishSend_owned_iff there rfl (queue.wake_ends message),
      queue.wake_accepted_iff]

/-- A manager over lists as queues. -/
abbrev Sample := AsyncSenderManager (MaxContainer.ofKey fun message : Message =>
  message.priority.value)

def sampleMessage : Message := { messageId := [1], payload := [], priority := .critical }

/-- A manager that has started accepts a message, also after a wait. -/
theorem sendMessage_owned_iff_started :
    let manager : Sample := start {}
    Owned manager (manager.sendMessage 5 .critical (some sampleMessage)).2 sampleMessage
      (manager.sendMessage 5 .critical (some sampleMessage)).1 ∧
      Owned manager (manager.resumeSend .critical { maxSize := 1024 } sampleMessage).2 sampleMessage
        (manager.resumeSend .critical { maxSize := 1024 } sampleMessage).1 := by
  intro manager
  obtain ⟨sends, resumes⟩ := sendMessage_owned_iff manager .critical sampleMessage
  constructor
  · apply (sends 5).mpr
    refine ⟨rfl, ?_⟩
    rintro - queue ⟨⟩
    exact ⟨rfl, .inl (Nat.succ_pos 1023)⟩
  · exact (resumes _ rfl).mpr ⟨Nat.succ_pos 1023, rfl⟩

/-- A manager that was not started returns false and destroys nothing. One whose queue for
CRITICAL messages has the size zero returns false and has destroyed the message twice. -/
theorem refused_message_destroyed_twice :
    let idle : Sample := {}
    let full : Sample := start { queueSize := fun _ => 0 }
    ((idle.sendMessage 5 .critical (some sampleMessage)).1 = false ∧
      (idle.sendMessage 5 .critical (some sampleMessage)).2.allDestroyed = 0) ∧
    ((full.sendMessage 5 .critical (some sampleMessage)).1 = false ∧
      (full.sendMessage 5 .critical (some sampleMessage)).2.allDestroyed =
        {sampleMessage, { sampleMessage with queueEntryTime := 5 }}) ∧
    ¬ Owned full (full.sendMessage 5 .critical (some sampleMessage)).2 sampleMessage
      (full.sendMessage 5 .critical (some sampleMessage)).1 := by
  intro idle full
  have returned : (full.sendMessage 5 .critical (some sampleMessage)).1 = false := by
    decide +kernel
  have twice : (full.sendMessage 5 .critical (some sampleMessage)).2.allDestroyed =
      {sampleMessage, { sampleMessage with queueEntryTime := 5 }} := by
    decide +kernel
  refine ⟨⟨rfl, by decide +kernel⟩, ⟨returned, twice⟩, ?_⟩
  rw [returned]
  intro owned
  cases owned with
  | destroyed _ _ destroyed =>
    have cards := congrArg Multiset.card (twice.symm.trans destroyed)
    have none : full.allDestroyed = 0 := by decide +kernel
    rw [none] at cards
    cases cards

end AsyncSenderManager

end FixGateway.Manager
