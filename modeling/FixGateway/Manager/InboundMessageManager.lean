import FixGateway.Manager.FixSessionManager

/-! # Processing inbound messages

`InboundMessageManager::processMessage` validates a message, asks the derived class whether
it supports the message, and lets it handle it. On every one of its ways out it leaves the
message to somebody else: it never gives it back to the pool. So the message goes back
only if the handler of the derived class does that itself.

A derived class enters as what it does with the message (`Handling`). `FixSessionManager`
is the only one in the repository. Its handler takes slots for its replies and gives none
back, so the handled message stays allocated (`handling_keeps`).
-/

namespace FixGateway.Manager

open Application ByteScan Common Protocol

structure InboundMessageManager where
  /-- The priority whose queue `setInboundQueue` has connected. -/
  inboundQueue : Option Priority := none
  /-- Whether `setOutboundQueues` was called. -/
  hasOutboundQueues : Bool := false
  running : Bool := false
  totalMessagesProcessed : Nat := 0
  totalProcessingErrors : Nat := 0
  deriving DecidableEq, Repr

/-- What a derived class does with a message. -/
structure Handling where
  /-- `isMessageSupported`. -/
  supported : Bool
  /-- What `handleMessage` returns, or nothing if an exception leaves it. -/
  result : Option Bool
  /-- Whether `handleMessage` gives the message back to the pool. -/
  frees : Bool
  deriving DecidableEq, Repr

namespace InboundMessageManager

def start (manager : InboundMessageManager) : InboundMessageManager :=
  if manager.running then manager
  else if manager.inboundQueue = none ∨ manager.hasOutboundQueues = false then manager
  else { manager with running := true }

def stop (manager : InboundMessageManager) : InboundMessageManager :=
  { manager with running := false }

/-- `validateMessage`: the four fields are there and not empty, and the number is positive. -/
def validateMessage (message : FixMessage) : Bool :=
  match message.getField FixFields.msgType, message.getField FixFields.senderCompID,
    message.getField FixFields.targetCompID, message.getField FixFields.msgSeqNum with
  | some msgType, some senderCompId, some targetCompId, some seqNum =>
    if msgType = [] ∨ senderCompId = [] ∨ targetCompId = [] ∨ seqNum = [] then false
    else
      match stoi seqNum with
      | none => false
      | some seq => decide (0 < seq)
  | _, _, _, _ => false

/-- `processMessage` of a pointer into the pool, with what the derived class does. A pointer
to no message cannot be followed. -/
def processMessage (manager : InboundMessageManager) (pool : MessagePool FixMessage)
    (handling : Handling) (slot : Nat) :
    Bool × MessagePool FixMessage × InboundMessageManager :=
  match pool.objects slot with
  | none => (false, pool, manager)
  | some message =>
    if validateMessage message = false then (false, pool, manager)
    else if handling.supported = false then (false, pool, manager)
    else
      let pool := if handling.frees then pool.deallocate slot else pool
      if handling.result = some true then
        (true, pool, { manager with totalMessagesProcessed := manager.totalMessagesProcessed + 1 })
      else
        (false, pool, { manager with totalProcessingErrors := manager.totalProcessingErrors + 1 })

/-- The message gets as far as the handler, and this gives it back. -/
def Discharges (message : FixMessage) (handling : Handling) : Prop :=
  validateMessage message = true ∧ handling.supported = true ∧ handling.frees = true

instance (message : FixMessage) (handling : Handling) : Decidable (Discharges message handling) :=
  inferInstanceAs (Decidable (_ ∧ _ ∧ _))

section Processing

variable {manager : InboundMessageManager} {pool : MessagePool FixMessage} {handling : Handling}
  {slot : Nat} {message : FixMessage}

theorem processMessage_discharged (found : pool.objects slot = some message)
    (discharges : Discharges message handling) :
    (manager.processMessage pool handling slot).2.1 = pool.deallocate slot := by
  obtain ⟨valid, supported, frees⟩ := discharges
  simp only [processMessage, found, valid, supported, frees, Bool.true_eq_false, if_false, if_true]
  split <;> rfl

theorem processMessage_kept (found : pool.objects slot = some message)
    (stays : ¬ Discharges message handling) :
    (manager.processMessage pool handling slot).2.1 = pool := by
  simp only [processMessage, found]
  split
  · rfl
  · rename_i valid
    split
    · rfl
    · rename_i supported
      have frees : handling.frees = false := by
        by_contra frees
        exact stays ⟨Bool.not_eq_false _ |>.mp valid, Bool.not_eq_false _ |>.mp supported,
          Bool.not_eq_false _ |>.mp frees⟩
      simp only [frees, Bool.false_eq_true, if_false]
      split <;> rfl

end Processing

end InboundMessageManager

/-! ## The session manager -/

namespace FixSessionManager

/-- `isMessageSupported`. -/
def isMessageSupported (message : FixMessage) : Bool :=
  match message.getField FixFields.msgType with
  | none => false
  | some msgType =>
    decide (msgType ∈ [ascii "A", ascii "5", ascii "0", ascii "1", ascii "2", ascii "4", ascii "3"])

/-- The slot is live in the pool that the manager uses. -/
def holds (session : FixSessionManager) (slot : Nat) : Bool :=
  session.messagePool.any fun pool => decide (pool.live slot)

/-- What the session manager does with the message at a slot of its pool. -/
def handling (session : FixSessionManager) (clock : SessionClock) (slot : Nat)
    (message : FixMessage) : Handling where
  supported := isMessageSupported message
  result := some (session.handleMessage clock (some message)).1
  frees := session.holds slot && !(session.handleMessage clock (some message)).2.holds slot

/-- Every slot that was live in the pool still is. -/
def KeepsSlots (before after : FixSessionManager) : Prop :=
  ∀ slot, before.holds slot = true → after.holds slot = true

section Slots

variable {session before middle after : FixSessionManager} {clock : SessionClock}

theorem KeepsSlots.of_pool (same : after.messagePool = before.messagePool) :
    KeepsSlots before after := by
  intro slot held
  unfold holds at held ⊢
  rw [same]
  exact held

theorem KeepsSlots.trans (first : KeepsSlots before middle) (second : KeepsSlots middle after) :
    KeepsSlots before after :=
  fun slot held => second slot (first slot held)

theorem KeepsSlots.of_grown {pool left : MessagePool FixMessage}
    (used : before.messagePool = some pool) (leaves : after.messagePool = some left)
    (grown : pool.Grown left) : KeepsSlots before after := by
  intro slot held
  unfold holds at held ⊢
  rw [used, Option.any_some, decide_eq_true_iff] at held
  rw [leaves, Option.any_some, decide_eq_true_iff]
  exact grown.live slot held

theorem createMessage_keepsSlots (session : FixSessionManager) (clock : SessionClock)
    (msgType : Bytes) (fields : List (Int × Bytes)) :
    KeepsSlots session (session.createMessage clock msgType fields).2 := by
  unfold createMessage
  split
  · exact .of_pool rfl
  · rename_i pool used
    have grown := pool.grown_allocate (FixMessage.new clock.utc)
    split
    · rename_i left allocated
      rw [allocated] at grown
      exact .of_grown used rfl grown
    · rename_i slot left allocated
      rw [allocated] at grown
      exact .of_grown used rfl (grown.trans (left.grown_store slot _))

theorem tolerates_keepsSlots : Tolerates KeepsSlots where
  trans := .trans
  created := createMessage_keepsSlots
  routed := by
    intro session slot priority
    unfold routeToOutbound
    split <;> exact .of_pool rfl
  counted := fun _ _ _ _ _ => .of_pool rfl

theorem stopHeartbeatTimer_messagePool :
    session.stopHeartbeatTimer.messagePool = session.messagePool := by
  unfold stopHeartbeatTimer
  split <;> rfl

theorem startHeartbeatTimer_messagePool :
    session.startHeartbeatTimer.messagePool = session.messagePool := by
  unfold startHeartbeatTimer
  split <;> rfl

theorem handleLogout_keepsSlots : KeepsSlots session (session.handleLogout clock).2 := by
  refine .trans (.of_pool stopHeartbeatTimer_messagePool) ?_
  unfold handleLogout
  dsimp only
  split
  · have sent := tolerates_keepsSlots.sendLogout session.stopHeartbeatTimer clock
      (ascii "Logout acknowledged")
    exact sent.trans (.of_pool rfl)
  · exact .of_pool rfl

theorem dispatch_keepsSlots {msgType : Bytes} {message : FixMessage} :
    KeepsSlots session (session.dispatch clock msgType message).2 := by
  by_cases logon : msgType = ascii "A"
  · subst logon
    exact .of_pool startHeartbeatTimer_messagePool
  by_cases logout : msgType = ascii "5"
  · subst logout
    exact handleLogout_keepsSlots
  by_cases reset : msgType = ascii "4"
  · subst reset
    change KeepsSlots session (session.handleSequenceReset message).2
    unfold handleSequenceReset
    split <;> exact .of_pool rfl
  exact tolerates_keepsSlots.dispatch session clock message logon logout reset

/-- Handling a message gives no slot back. -/
theorem handleMessage_keepsSlots (session : FixSessionManager) (clock : SessionClock)
    (message : Option FixMessage) : KeepsSlots session (session.handleMessage clock message).2 := by
  obtain ⟨time, expected, gapManager, checked⟩ := session.receive_frame clock message
  have checking : KeepsSlots session (session.receive clock message).2 := by
    rw [checked]
    exact .of_pool rfl
  rw [handleMessage_eq_receive]
  generalize session.receive clock message = received at checking ⊢
  obtain ⟨passed, received⟩ := received
  cases passed with
  | none => exact checking
  | some passed => exact checking.trans dispatch_keepsSlots

/-- The session manager keeps every message that it handles. -/
theorem handling_keeps (session : FixSessionManager) (clock : SessionClock) (slot : Nat)
    (message : FixMessage) : (session.handling clock slot message).frees = false := by
  have kept := session.handleMessage_keepsSlots clock (some message) slot
  unfold handling
  dsimp only
  cases held : session.holds slot with
  | false => rfl
  | true => rw [kept held]; rfl

end Slots

end FixSessionManager

end FixGateway.Manager
