import FixGateway.Common.Message
import FixGateway.Manager.MessageRouter

/-! # Routing a batch

`routeMessages` routes the messages of an array one after the other. With no consumer, the queue of
each priority ends up as if the messages of that priority had been pushed into it
(`routeMessages_getQueue`), and each counter grows by what the queues have taken or refused
(`Tallied`).
-/

namespace FixGateway.Manager

open Application Protocol Utils

namespace MessageRouter

/-- The pointers of the messages of a priority, in the order of the array. -/
def addressed (priority : Priority) (messages : List (Option (Nat × FixMessage))) : List Nat :=
  messages.filterMap fun entry =>
    (entry.filter fun message => getMessagePriority message.2 = priority).map Prod.fst

/-- Of these, the ones for which the queue has room. -/
def appended (router : MessageRouter) (priority : Priority)
    (messages : List (Option (Nat × FixMessage))) : List Nat :=
  (addressed priority messages).take ((router.queues.getQueue priority).capacity - 1 -
    (router.waiting priority).length)

section Addressed

variable {priority : Priority} {messages : List (Option (Nat × FixMessage))} {message : FixMessage}

theorem addressed_same (slot : Nat) (same : getMessagePriority message = priority) :
    addressed priority (some (slot, message) :: messages) =
      slot :: addressed priority messages := by
  simp [addressed, same]

theorem addressed_other (slot : Nat) (other : ¬ getMessagePriority message = priority) :
    addressed priority (some (slot, message) :: messages) = addressed priority messages := by
  simp [addressed, other]

theorem total_length_addressed (messages : List (Option (Nat × FixMessage))) :
    Priority.total (fun priority => (addressed priority messages).length) =
      (messages.filter Option.isSome).length := by
  induction messages with
  | nil => rfl
  | cons entry rest ih =>
    cases entry with
    | none => exact ih
    | some pair =>
      obtain ⟨slot, message⟩ := pair
      have grown : (fun priority => (addressed priority (some (slot, message) :: rest)).length) =
          Function.update (fun priority => (addressed priority rest).length)
            (getMessagePriority message)
            ((addressed (getMessagePriority message) rest).length + 1) := by
        funext priority
        by_cases same : priority = getMessagePriority message
        · rw [same, Function.update_self, addressed_same slot rfl, List.length_cons]
        · rw [Function.update_of_ne same, addressed_other slot (Ne.symm same)]
      have moved := Priority.total_update (fun priority => (addressed priority rest).length)
        (getMessagePriority message)
        ((addressed (getMessagePriority message) rest).length + 1)
      rw [← grown, ih] at moved
      rw [List.filter_cons_of_pos rfl, List.length_cons]
      omega

end Addressed

/-! ## The queues -/

theorem routeMessage_getQueue (router : MessageRouter) (priority : Priority) (slot : Nat)
    (message : FixMessage) :
    (router.routeMessage (some (slot, message))).queues.getQueue priority =
      if getMessagePriority message = priority then
        ((router.queues.getQueue priority).push slot).2
      else router.queues.getQueue priority := by
  have pushed : (router.routeMessage (some (slot, message))).queues =
      (router.queues.push (getMessagePriority message) slot).2 := by
    unfold routeMessage
    dsimp only
    split <;> rfl
  rw [pushed]
  by_cases same : getMessagePriority message = priority
  · subst same
    simp [PriorityQueueContainer.push, PriorityQueueContainer.getQueue]
  · simp [PriorityQueueContainer.push, PriorityQueueContainer.getQueue, same, Ne.symm same]

theorem routeMessages_getQueue (router : MessageRouter) (priority : Priority)
    (messages : List (Option (Nat × FixMessage))) :
    (router.routeMessages (some messages)).queues.getQueue priority =
      (router.queues.getQueue priority).pushAll (addressed priority messages) := by
  induction messages generalizing router with
  | nil => rfl
  | cons entry rest ih =>
    change ((router.routeMessage entry).routeMessages (some rest)).queues.getQueue priority = _
    rw [ih]
    cases entry with
    | none => rfl
    | some pair =>
      obtain ⟨slot, message⟩ := pair
      rw [routeMessage_getQueue]
      by_cases same : getMessagePriority message = priority
      · rw [if_pos same, addressed_same slot same]
        rfl
      · rw [if_neg same, addressed_other slot same]

/-! ## The counters -/

/-- What was counted while the messages were routed: each queue's growth as routed, the rest of its
messages as dropped, and the null pointers as errors. -/
structure Tallied (before after : MessageRouter) (messages : List (Option (Nat × FixMessage))) :
    Prop where
  routed : ∀ priority, after.stats.routed priority + (before.waiting priority).length =
    before.stats.routed priority + (after.waiting priority).length
  dropped : ∀ priority, after.stats.dropped priority + (after.waiting priority).length =
    before.stats.dropped priority + (before.waiting priority).length +
      (addressed priority messages).length
  messagesRouted : after.stats.messagesRouted + Priority.total before.stats.routed =
    before.stats.messagesRouted + Priority.total after.stats.routed
  messagesDropped : after.stats.messagesDropped + Priority.total before.stats.dropped =
    before.stats.messagesDropped + Priority.total after.stats.dropped
  routingErrors : after.stats.routingErrors =
    before.stats.routingErrors + (messages.filter Option.isNone).length

section Tallied

variable {router : MessageRouter} {slot : Nat} {message : FixMessage}

theorem routeMessage_stats_accepted (accepts : router.Accepts message) :
    (router.routeMessage (some (slot, message))).stats =
      (router.recordRoutingSuccess (getMessagePriority message)).stats := by
  obtain ⟨running, room⟩ := accepts
  have stays : ¬ (router.queues.getQueue (getMessagePriority message)).isShutdown = true := by
    rw [running]
    exact Bool.false_ne_true
  simp only [routeMessage, tryRouteToQueue, PriorityQueueContainer.push, LockFreeQueue.push,
    if_neg stays, dif_neg room, if_true]
  rfl

theorem routeMessage_stats_dropped (refused : ¬ router.Accepts message) :
    (router.routeMessage (some (slot, message))).stats =
      (router.recordRoutingFailure (getMessagePriority message)).stats := by
  have answer : ((router.queues.getQueue (getMessagePriority message)).push slot).1 = false := by
    unfold LockFreeQueue.push
    split
    · rfl
    · rename_i running
      split
      · rfl
      · rename_i room
        exact absurd ⟨Bool.not_eq_true _ |>.mp running, room⟩ refused
  simp only [routeMessage, tryRouteToQueue, PriorityQueueContainer.push, answer,
    Bool.false_eq_true, if_false]
  rfl

theorem tallied_nil (router : MessageRouter) : Tallied router router [] where
  routed _ := rfl
  dropped _ := rfl
  messagesRouted := rfl
  messagesDropped := rfl
  routingErrors := rfl

theorem tallied_accepted (slot : Nat) (accepts : router.Accepts message) :
    Tallied router (router.routeMessage (some (slot, message))) [some (slot, message)] := by
  have stats : (router.routeMessage (some (slot, message))).stats =
      (router.recordRoutingSuccess (getMessagePriority message)).stats :=
    routeMessage_stats_accepted accepts
  have waiting : (router.routeMessage (some (slot, message))).waiting =
      Function.update router.waiting (getMessagePriority message)
        (router.waiting (getMessagePriority message) ++ [slot]) :=
    routeMessage_accepted accepts
  have total := Priority.total_update router.stats.routed (getMessagePriority message)
    (router.stats.routed (getMessagePriority message) + 1)
  constructor
  · intro priority
    rw [stats, waiting]
    by_cases same : priority = getMessagePriority message
    · subst same
      simp only [recordRoutingSuccess, Function.update_self, List.length_append,
        List.length_singleton]
      omega
    · simp [recordRoutingSuccess, same]
  · intro priority
    rw [stats, waiting]
    by_cases same : priority = getMessagePriority message
    · subst same
      rw [addressed_same slot rfl, Function.update_self, List.length_append, List.length_singleton]
      exact (Nat.add_assoc _ _ 1).symm
    · rw [addressed_other slot (Ne.symm same), Function.update_of_ne same]
      rfl
  · rw [stats]
    simp only [recordRoutingSuccess]
    omega
  · rw [stats]
    rfl
  · rw [stats]
    rfl

theorem tallied_dropped (slot : Nat) (refused : ¬ router.Accepts message) :
    Tallied router (router.routeMessage (some (slot, message))) [some (slot, message)] := by
  have stats : (router.routeMessage (some (slot, message))).stats =
      (router.recordRoutingFailure (getMessagePriority message)).stats :=
    routeMessage_stats_dropped refused
  have waiting : (router.routeMessage (some (slot, message))).waiting = router.waiting :=
    routeMessage_dropped refused
  have total := Priority.total_update router.stats.dropped (getMessagePriority message)
    (router.stats.dropped (getMessagePriority message) + 1)
  constructor
  · intro priority
    rw [stats, waiting]
    rfl
  · intro priority
    rw [stats, waiting]
    by_cases same : priority = getMessagePriority message
    · subst same
      rw [addressed_same slot rfl]
      simp only [recordRoutingFailure, Function.update_self, List.length_cons]
      change _ = _ + _ + (0 + 1)
      omega
    · rw [addressed_other slot (Ne.symm same)]
      simp only [recordRoutingFailure, Function.update_of_ne same]
      rfl
  · rw [stats]
    rfl
  · rw [stats]
    simp only [recordRoutingFailure]
    omega
  · rw [stats]
    rfl

/-- The step: one message is routed. -/
theorem tallied_routeMessage (router : MessageRouter) (entry : Option (Nat × FixMessage)) :
    Tallied router (router.routeMessage entry) [entry] := by
  cases entry with
  | none => exact ⟨fun _ => rfl, fun _ => rfl, rfl, rfl, rfl⟩
  | some pair =>
    obtain ⟨slot, message⟩ := pair
    by_cases accepts : router.Accepts message
    · exact tallied_accepted slot accepts
    · exact tallied_dropped slot accepts

theorem Tallied.cons {before middle after : MessageRouter} {entry : Option (Nat × FixMessage)}
    {rest : List (Option (Nat × FixMessage))} (first : Tallied before middle [entry])
    (others : Tallied middle after rest) : Tallied before after (entry :: rest) where
  routed priority := by
    have one := first.routed priority
    have more := others.routed priority
    omega
  dropped priority := by
    have one := first.dropped priority
    have more := others.dropped priority
    have split : addressed priority (entry :: rest) =
        addressed priority [entry] ++ addressed priority rest :=
      List.filterMap_append (l := [entry])
    rw [split, List.length_append]
    omega
  messagesRouted := by
    have one := first.messagesRouted
    have more := others.messagesRouted
    omega
  messagesDropped := by
    have one := first.messagesDropped
    have more := others.messagesDropped
    omega
  routingErrors := by
    have split : (entry :: rest).filter Option.isNone =
        [entry].filter Option.isNone ++ rest.filter Option.isNone :=
      List.filter_append [entry] rest
    rw [split, List.length_append, others.routingErrors, first.routingErrors, Nat.add_assoc]

/-- The run: all messages are routed. -/
theorem tallied_routeMessages (router : MessageRouter) (messages : List (Option (Nat × FixMessage)))
    : Tallied router (router.routeMessages (some messages)) messages := by
  induction messages generalizing router with
  | nil => exact tallied_nil router
  | cons entry rest ih => exact (tallied_routeMessage router entry).cons (ih _)

end Tallied

/-! ## The whole batch -/

/-- The counters of the priorities add up to the totals. -/
def Balanced (router : MessageRouter) : Prop :=
  Priority.total router.stats.routed = router.stats.messagesRouted ∧
    Priority.total router.stats.dropped = router.stats.messagesDropped

theorem total_eq_add {sum first second : Priority → Nat}
    (each : ∀ priority, sum priority = first priority + second priority) :
    Priority.total sum = Priority.total first + Priority.total second := by
  simp only [Priority.total, each]
  omega

/-- The number of messages of the batch that the queues take. -/
def appendedCount (router : MessageRouter) (messages : List (Option (Nat × FixMessage))) : Nat :=
  Priority.total fun priority => (router.appended priority messages).length

theorem routeMessages_waiting {router : MessageRouter} {priority : Priority}
    (running : (router.queues.getQueue priority).isShutdown = false)
    (messages : List (Option (Nat × FixMessage))) :
    (router.routeMessages (some messages)).waiting priority =
      router.waiting priority ++ router.appended priority messages := by
  have holding : (router.queues.getQueue priority).Holding
      (router.queues.getQueue priority).capacity (router.waiting priority) := ⟨rfl, rfl, running⟩
  unfold waiting
  rw [routeMessages_getQueue]
  exact holding.pushAll_take.entries

/-- Each queue grows by the messages of its priority, cut off once it is full; the messages taken,
the other messages and the null pointers are counted as routed, as dropped and as errors, in total
and for each priority. -/
theorem routeMessages_accounts (router : MessageRouter)
    (running : ∀ priority, (router.queues.getQueue priority).isShutdown = false)
    (messages : List (Option (Nat × FixMessage))) :
    let after := router.routeMessages (some messages)
    let taken := router.appendedCount messages
    let refused := (messages.filter Option.isSome).length - taken
    let missing := (messages.filter Option.isNone).length
    (∀ priority, after.waiting priority =
      router.waiting priority ++ router.appended priority messages) ∧
    after.stats.messagesRouted = router.stats.messagesRouted + taken ∧
    after.stats.messagesDropped = router.stats.messagesDropped + refused ∧
    after.stats.routingErrors = router.stats.routingErrors + missing ∧
    taken + refused + missing = messages.length ∧
    (∀ priority, after.stats.routed priority = router.stats.routed priority +
        (router.appended priority messages).length ∧
      after.stats.dropped priority = router.stats.dropped priority +
        ((addressed priority messages).length - (router.appended priority messages).length)) ∧
    (router.Balanced → after.Balanced) := by
  intro after taken refused missing
  have waiting : ∀ priority, after.waiting priority =
      router.waiting priority ++ router.appended priority messages :=
    fun priority => routeMessages_waiting (running priority) messages
  have tallied : Tallied router after messages := tallied_routeMessages router messages
  have fewer : ∀ priority, (router.appended priority messages).length ≤
      (addressed priority messages).length := by
    intro priority
    rw [appended, List.length_take]
    exact Nat.min_le_right _ _
  have routed : ∀ priority, after.stats.routed priority =
      router.stats.routed priority + (router.appended priority messages).length := by
    intro priority
    have counted := tallied.routed priority
    rw [waiting, List.length_append] at counted
    omega
  have dropped : ∀ priority, after.stats.dropped priority = router.stats.dropped priority +
      ((addressed priority messages).length - (router.appended priority messages).length) := by
    intro priority
    have counted := tallied.dropped priority
    have some := fewer priority
    rw [waiting, List.length_append] at counted
    omega
  have all := total_length_addressed messages
  have parted := total_eq_add fun priority => (Nat.sub_add_cancel (fewer priority)).symm
  have length : (messages.filter Option.isSome).length + missing = messages.length := by
    have parts := List.length_eq_length_filter_add (l := messages) Option.isSome
    simp only [Option.not_isSome] at parts
    exact parts.symm
  have routedTotal := total_eq_add routed
  have droppedTotal := total_eq_add dropped
  have messagesRouted := tallied.messagesRouted
  have messagesDropped := tallied.messagesDropped
  rw [all] at parted
  refine ⟨waiting, ?_, ?_, tallied.routingErrors, ?_, fun priority =>
    ⟨routed priority, dropped priority⟩, ?_⟩
  · change _ = _ + router.appendedCount messages
    unfold appendedCount
    omega
  · change _ = _ + (_ - router.appendedCount messages)
    unfold appendedCount
    omega
  · change router.appendedCount messages + (_ - router.appendedCount messages) + _ = _
    unfold appendedCount
    omega
  · rintro ⟨routedBefore, droppedBefore⟩
    constructor
    · omega
    · omega

/-- A router whose queues have room for one message. -/
def sampleRouter : MessageRouter where
  queues := ⟨fun _ => LockFreeQueue.new Nat 2⟩

/-- Two messages of unknown type and a null pointer. -/
def sampleBatch : List (Option (Nat × FixMessage)) :=
  [some (0, FixMessage.empty), none, some (1, FixMessage.empty)]

/-- The first message is routed, the second one is dropped. -/
theorem routeMessages_accounts_sample :
    (sampleRouter.routeMessages (some sampleBatch)).waiting .low = [0] ∧
      (sampleRouter.routeMessages (some sampleBatch)).stats.messagesRouted = 1 ∧
      (sampleRouter.routeMessages (some sampleBatch)).stats.messagesDropped = 1 ∧
      (sampleRouter.routeMessages (some sampleBatch)).stats.routingErrors = 1 ∧
      (sampleRouter.routeMessages (some sampleBatch)).Balanced := by
  obtain ⟨waiting, routed, dropped, errors, -, -, balanced⟩ :=
    routeMessages_accounts sampleRouter (fun _ => rfl) sampleBatch
  have appended : sampleRouter.appended .low sampleBatch = [0] := by decide +kernel
  have count : sampleRouter.appendedCount sampleBatch = 1 := by decide +kernel
  have fresh : sampleRouter.waiting .low = [] := rfl
  rw [count] at routed dropped
  refine ⟨?_, routed, dropped, errors, balanced ⟨rfl, rfl⟩⟩
  rw [waiting, fresh, appended, List.nil_append]

end MessageRouter

end FixGateway.Manager
