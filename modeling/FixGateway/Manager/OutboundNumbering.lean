import FixGateway.Manager.FixSessionManager

/-! # The numbers of outgoing messages

Every message of the session manager takes its number from `getNextOutgoingSeqNum`
when it is created, before it is known whether it can be pushed. The counter starts
at 1 and is incremented before it is read, so the first number is 2, and the number
of a message that cannot be pushed is lost.

What one operation does to the counter and to the messages sent is said once
(`perform_outbound`); the rest is about runs of such steps.
-/

namespace FixGateway.Manager

open Application ByteScan Common Protocol

/-- The counter of the outgoing numbers and the messages sent, newest first. -/
structure OutboundView where
  outgoing : Int
  sent : List (Priority × FixMessage)

namespace OutboundView

/-- A number is taken, and the message that carries it is pushed or lost. -/
inductive Takes (before after : OutboundView) : Prop where
  | lost (outgoing : after.outgoing = wrapInt (before.outgoing + 1))
      (sent : after.sent = before.sent)
  | pushed (priority : Priority) (message : FixMessage)
      (outgoing : after.outgoing = wrapInt (before.outgoing + 1))
      (sent : after.sent = (priority, message) :: before.sent)
      (numbered : message.getField FixFields.msgSeqNum = some (signedDecimal after.outgoing))

/-- At most one number is taken. -/
def Step (before after : OutboundView) : Prop := after = before ∨ Takes before after

end OutboundView

namespace FixSessionManager

def outboundView (session : FixSessionManager) : OutboundView :=
  ⟨session.outgoingSeqNum, session.sent⟩

/-! ## What a send does -/

section Send

variable (session : FixSessionManager) (clock : SessionClock)

/-- A message that was created: it is in its slot and carries the number taken for it. -/
structure Created (slot : Nat) (after : FixSessionManager) : Prop where
  outgoing : after.outgoingSeqNum = wrapInt (session.outgoingSeqNum + 1)
  sent : after.sent = session.sent
  stored : ∃ pool message, after.messagePool = some pool ∧ pool.objects slot = some message ∧
    message.getField FixFields.msgSeqNum = some (signedDecimal after.outgoingSeqNum)

/-- Nothing was created and no number was taken, or a message was created. -/
def Creates (created : Option Nat × FixSessionManager) : Prop :=
  created.1 = none ∧ created.2.outboundView = session.outboundView ∨
    ∃ slot, created.1 = some slot ∧ session.Created slot created.2

theorem createMessage_creates (msgType : Bytes) {fields : List (Int × Bytes)}
    (plain : FixMessage.lastValue FixFields.msgSeqNum fields = none) :
    session.Creates (session.createMessage clock msgType fields) := by
  unfold createMessage
  split
  · exact .inl ⟨rfl, rfl⟩
  · rename_i pool attached
    split
    · exact .inl ⟨rfl, rfl⟩
    · rename_i slot taken allocated
      refine .inr ⟨slot, rfl, rfl, rfl, _, _, rfl,
        MessagePool.store_objects_self (MessagePool.live_of_allocate allocated), ?_⟩
      rw [FixMessage.getField_setFields, FixMessage.lastValue_append, plain]
      rfl

theorem createTestRequestMessage_creates :
    session.Creates (session.createTestRequestMessage clock) := by
  have creates : session.Creates (session.createMessage clock (ascii "1")
      [(FixFields.testReqID, session.createTestRequestId.1)]) :=
    session.createMessage_creates clock _ rfl
  unfold createTestRequestMessage
  dsimp only
  generalize session.createMessage clock (ascii "1")
    [(FixFields.testReqID, session.createTestRequestId.1)] = created at creates ⊢
  obtain ⟨slot, after⟩ := created
  obtain ⟨rfl, same⟩ | ⟨slot, rfl, made⟩ := creates
  · exact .inl ⟨rfl, same⟩
  · exact .inr ⟨slot, rfl, made.outgoing, made.sent, made.stored⟩

variable {session}

/-- A created message is pushed with the number it carries, or its number is lost. -/
theorem Created.route {slot : Nat} {created : FixSessionManager}
    (made : session.Created slot created) (priority : Priority) :
    OutboundView.Takes session.outboundView
      (created.routeToOutbound slot priority).2.outboundView := by
  obtain ⟨outgoing, sent, pool, message, attached, stored, numbered⟩ := made
  unfold routeToOutbound
  split
  · exact .lost outgoing sent
  · rename_i queues connected
    dsimp only
    cases pushed : (queues.push priority slot).1 with
    | false => exact .lost outgoing sent
    | true =>
      refine .pushed priority message outgoing ?_ numbered
      change ((created.messagePool.bind fun pool => pool.objects slot).map _).toList ++
        created.sent
        = _
      rw [attached, Option.bind_some, stored, sent]
      rfl

theorem Creates.send {created : Option Nat × FixSessionManager} (creates : session.Creates created)
    {priority : Priority} {count : FixSessionManager → FixSessionManager}
    (counting : ∀ session, (count session).outboundView = session.outboundView) :
    OutboundView.Step session.outboundView (sendCreated created priority count).2.outboundView := by
  obtain ⟨slot, created⟩ := created
  obtain ⟨rfl, same⟩ | ⟨slot, rfl, made⟩ := creates
  · exact .inl same
  · have routed := made.route priority
    refine .inr ?_
    simp only [sendCreated]
    split
    · rw [counting]
      exact routed
    · exact routed

end Send

/-- The messages that the session manager sends of itself. -/
inductive Send where
  | logon
  | logout (reason : Bytes)
  | heartbeat (testReqId : Bytes)
  | testRequest
  | reject (refSeqNum : Int) (reason : Bytes)
  | sequenceReset (newSeqNum : Int) (gapFill : Bool)

def send (session : FixSessionManager) (clock : SessionClock) : Send → Bool × FixSessionManager
  | .logon => session.sendLogon clock
  | .logout reason => session.sendLogout clock reason
  | .heartbeat testReqId => session.sendHeartbeat clock testReqId
  | .testRequest => session.sendTestRequest clock
  | .reject refSeqNum reason => session.sendReject clock refSeqNum reason
  | .sequenceReset newSeqNum gapFill => session.sendSequenceReset clock newSeqNum gapFill

/-- Every send takes at most one number, and pushes at most the message that carries it. -/
theorem send_outbound (session : FixSessionManager) (clock : SessionClock) (request : Send) :
    OutboundView.Step session.outboundView (session.send clock request).2.outboundView := by
  cases request with
  | logon =>
    refine (session.createMessage_creates clock _ ?_).send fun _ => rfl
    split <;> rfl
  | logout reason =>
    refine (session.createMessage_creates clock _ ?_).send fun _ => rfl
    split <;> rfl
  | heartbeat testReqId =>
    refine (session.createMessage_creates clock _ ?_).send fun _ => rfl
    split <;> rfl
  | testRequest => exact (session.createTestRequestMessage_creates clock).send fun _ => rfl
  | reject refSeqNum reason =>
    refine (session.createMessage_creates clock _ ?_).send fun _ => rfl
    split <;> rfl
  | sequenceReset newSeqNum gapFill =>
    refine (session.createMessage_creates clock _ ?_).send fun _ => rfl
    split <;> rfl

/-! ## What an operation does -/

/-- What the threads of the gateway do with a session manager. -/
inductive Operation where
  | initiateLogon
  | initiateLogout (reason : Bytes)
  | handleMessage (message : Option FixMessage)
  | timerHeartbeat
  | timerTestRequest

def perform (session : FixSessionManager) (clock : SessionClock) : Operation → FixSessionManager
  | .initiateLogon => (session.initiateLogon clock).2
  | .initiateLogout reason => (session.initiateLogout clock reason).2
  | .handleMessage message => (session.handleMessage clock message).2
  | .timerHeartbeat => session.timerHeartbeat clock
  | .timerTestRequest => session.timerTestRequest clock

section Perform

variable (session : FixSessionManager) (clock : SessionClock)

theorem initiateLogon_outbound :
    OutboundView.Step session.outboundView (session.initiateLogon clock).2.outboundView := by
  have sent : OutboundView.Step session.outboundView
      ((session.updateSessionState .logonSent).sendLogon clock).2.outboundView :=
    (session.updateSessionState .logonSent).send_outbound clock .logon
  unfold initiateLogon
  split
  · exact .inl rfl
  · split <;> rename_i returned <;> rw [returned] at sent <;> exact sent

theorem initiateLogout_outbound (reason : Bytes) :
    OutboundView.Step session.outboundView
      (session.initiateLogout clock reason).2.outboundView := by
  have sent : OutboundView.Step session.outboundView
      ((session.updateSessionState .logoutSent).sendLogout clock reason).2.outboundView :=
    (session.updateSessionState .logoutSent).send_outbound clock (.logout reason)
  unfold initiateLogout
  split
  · exact .inl rfl
  · split <;> rename_i returned <;> rw [returned] at sent <;> exact sent

theorem handleLogout_outbound :
    OutboundView.Step session.outboundView (session.handleLogout clock).2.outboundView := by
  have stopped : session.stopHeartbeatTimer.outboundView = session.outboundView := by
    unfold stopHeartbeatTimer
    split <;> rfl
  rw [← stopped]
  unfold handleLogout
  dsimp only
  split
  · exact session.stopHeartbeatTimer.send_outbound clock (.logout _)
  · exact .inl rfl

theorem dispatch_outbound (msgType : Bytes) (message : FixMessage) :
    OutboundView.Step session.outboundView
      (session.dispatch clock msgType message).2.outboundView := by
  unfold dispatch
  split_ifs
  · refine .inl ?_
    unfold handleLogon startHeartbeatTimer
    dsimp only
    split <;> rfl
  · exact session.handleLogout_outbound clock
  · refine .inl ?_
    unfold handleHeartbeat
    dsimp only
    split <;> rfl
  · unfold handleTestRequest
    dsimp only
    split
    · exact .inl rfl
    · rename_i testReqId found
      exact send_outbound _ clock (.heartbeat testReqId)
  · unfold handleResendRequest
    split
    · exact session.send_outbound clock (.sequenceReset _ true)
    · exact .inl rfl
  · refine .inl ?_
    unfold handleSequenceReset
    split <;> rfl
  · exact .inl rfl
  · exact .inl rfl

theorem validateSequenceNumber_outboundView (message : FixMessage) :
    (session.validateSequenceNumber clock message).2.outboundView = session.outboundView := by
  obtain ⟨expected, gapManager, -, checked⟩ := session.validateSequenceNumber_frame clock message
  rw [checked]
  rfl

theorem handleMessage_outbound (message : Option FixMessage) :
    OutboundView.Step session.outboundView
      (session.handleMessage clock message).2.outboundView := by
  cases message with
  | none => exact .inl rfl
  | some message =>
    have checked := validateSequenceNumber_outboundView
      { session with lastMessageReceived := clock.now } clock message
    unfold handleMessage
    dsimp only
    split
    · exact .inl rfl
    · split_ifs
      · exact .inl rfl
      · have handled := dispatch_outbound (validateSequenceNumber
          { session with lastMessageReceived := clock.now } clock message).2 clock
        rw [checked] at handled
        exact handled _ message
      · exact .inl checked
      · exact dispatch_outbound _ clock _ message

/-- Every operation takes at most one number. -/
theorem perform_outbound (operation : Operation) :
    OutboundView.Step session.outboundView (session.perform clock operation).outboundView := by
  cases operation with
  | initiateLogon => exact session.initiateLogon_outbound clock
  | initiateLogout reason => exact session.initiateLogout_outbound clock reason
  | handleMessage message => exact session.handleMessage_outbound clock message
  | timerHeartbeat =>
    change OutboundView.Step _ (session.timerHeartbeat clock).outboundView
    unfold timerHeartbeat
    split
    · exact session.send_outbound clock (.heartbeat [])
    · exact .inl rfl
  | timerTestRequest =>
    change OutboundView.Step _ (session.timerTestRequest clock).outboundView
    unfold timerTestRequest
    split
    · exact session.send_outbound clock .testRequest
    · exact .inl rfl

end Perform

end FixSessionManager

/-! ## Numbers from a counter -/

/-- The MsgSeqNum fields `texts`, newest first, carry these numbers, which a counter
gave in ascending order from `first` on. It gives `next` next. -/
structure Numbering (first next : Int) (texts : List (Option Bytes)) (numbers : List Int) :
    Prop where
  carried : texts = numbers.map fun number => some (signedDecimal number)
  descending : numbers.Pairwise (· > ·)
  bounds : ∀ number ∈ numbers, first ≤ number ∧ number < next
  ordered : first ≤ next

namespace Numbering

variable {first next : Int} {texts : List (Option Bytes)} {numbers : List Int}

theorem nil (first : Int) : Numbering first first [] [] := ⟨rfl, .nil, nofun, le_refl _⟩

theorem lost (numbering : Numbering first next texts numbers) :
    Numbering first (next + 1) texts numbers where
  carried := numbering.carried
  descending := numbering.descending
  bounds := fun number member => by
    have bounds := numbering.bounds number member
    omega
  ordered := by
    have ordered := numbering.ordered
    omega

theorem given (numbering : Numbering first next texts numbers) :
    Numbering first (next + 1) (some (signedDecimal next) :: texts) (next :: numbers) where
  carried := by rw [numbering.carried, List.map_cons]
  descending :=
    List.pairwise_cons.mpr ⟨fun number member => (numbering.bounds number member).2,
      numbering.descending⟩
  bounds := fun number member => by
    obtain rfl | member := List.mem_cons.mp member
    · exact ⟨numbering.ordered, by omega⟩
    · exact numbering.lost.bounds number member
  ordered := numbering.lost.ordered

end Numbering

/-! ## Runs -/

namespace OutboundView

/-- The MsgSeqNum fields of the messages sent, newest first. -/
def numberTexts (view : OutboundView) : List (Option Bytes) :=
  view.sent.map fun pushed => pushed.2.getField FixFields.msgSeqNum

/-- The messages sent are numbered 1, 2, 3 and so on, in the order of the pushes. -/
def GapFree (view : OutboundView) : Prop :=
  view.numberTexts.reverse =
    (List.range view.sent.length).map fun index => some (decimal (index + 1))

instance (view : OutboundView) : Decidable view.GapFree := inferInstanceAs (Decidable (_ = _))

/-- The messages sent carry these numbers, which the counter gave from 2 on. -/
def Numbered (view : OutboundView) (numbers : List Int) : Prop :=
  Numbering 2 (view.outgoing + 1) view.numberTexts numbers

section Lemmas

variable {before after : OutboundView} {numbers : List Int}

theorem numbered_fresh : Numbered ⟨1, []⟩ [] := .nil 2

/-- With room for one more number, a step keeps the numbers or adds the one it takes. -/
theorem Numbered.step (numbered : before.Numbered numbers) (room : before.outgoing < 2 ^ 31 - 1)
    (step : Step before after) :
    after.Numbered numbers ∨ after.Numbered ((before.outgoing + 1) :: numbers) := by
  have positive := numbered.ordered
  have next : wrapInt (before.outgoing + 1) = before.outgoing + 1 :=
    wrapInt_of_bounds (by omega) (by omega)
  rcases step with rfl | ⟨outgoing, sent⟩ | ⟨priority, message, outgoing, sent, carried⟩
  · exact .inl numbered
  · left
    unfold Numbered numberTexts
    rw [outgoing, next, sent]
    exact numbered.lost
  · right
    rw [next] at outgoing
    unfold Numbered numberTexts
    rw [sent, List.map_cons, carried, outgoing]
    exact numbered.given

theorem Numbered.sent_eq_nil (numbered : before.Numbered numbers) (gapFree : before.GapFree) :
    before.sent = [] := by
  by_contra nonempty
  obtain ⟨count, length⟩ := Nat.exists_eq_succ_of_ne_zero
    (fun empty => nonempty (List.length_eq_zero_iff.mp empty))
  have first : some (decimal 1) ∈ before.numberTexts := by
    rw [← List.mem_reverse, gapFree, length]
    exact List.mem_map.mpr ⟨0, List.mem_range.mpr (Nat.succ_pos count), rfl⟩
  rw [numbered.carried] at first
  obtain ⟨number, member, same⟩ := List.mem_map.mp first
  have low := (numbered.bounds number member).1
  obtain ⟨count, rfl⟩ := Int.eq_ofNat_of_zero_le (by omega : 0 ≤ number)
  have one : count = 1 := decimal_injective (Option.some.inj same)
  omega

end Lemmas

end OutboundView

namespace FixSessionManager

/-- Runs of a new session manager: any operations in any order. Between two of them
the pool, the queues and everything else but the numbering may change. `permitted`
restricts the states in which an operation starts. -/
inductive OutboundRun (permitted : FixSessionManager → Prop) : FixSessionManager → Prop where
  | start {session : FixSessionManager} (fresh : session.outboundView = ⟨1, []⟩) :
      OutboundRun permitted session
  | perform {session : FixSessionManager} (run : OutboundRun permitted session)
      (clock : SessionClock) (operation : Operation) (allowed : permitted session) :
      OutboundRun permitted (session.perform clock operation)
  | interleave {session other : FixSessionManager} (run : OutboundRun permitted session)
      (same : other.outboundView = session.outboundView) : OutboundRun permitted other

/-- The counter has not reached the largest `int`. -/
def HasRoom (session : FixSessionManager) : Prop := session.outgoingSeqNum < 2 ^ 31 - 1

theorem OutboundRun.numbered {session : FixSessionManager} (run : OutboundRun HasRoom session) :
    ∃ numbers, session.outboundView.Numbered numbers := by
  induction run with
  | start fresh =>
    rw [fresh]
    exact ⟨[], OutboundView.numbered_fresh⟩
  | perform _ clock operation allowed ih =>
    obtain ⟨numbers, numbered⟩ := ih
    rcases numbered.step allowed (perform_outbound _ clock operation) with kept | grown
    · exact ⟨numbers, kept⟩
    · exact ⟨_, grown⟩
  | interleave _ same ih =>
    rw [same]
    exact ih

/-- The outgoing numbers are gap-free from 1 only as long as nothing was pushed: the
first number is 2. The converse needs fewer than 2 ^ 31 numbers to be taken. -/
theorem outgoing_gapFree_iff (session : FixSessionManager) :
    (session.sent = [] → session.outboundView.GapFree) ∧
      (OutboundRun HasRoom session → session.outboundView.GapFree → session.sent = []) := by
  refine ⟨fun silent => ?_, fun run gapFree => ?_⟩
  · unfold OutboundView.GapFree OutboundView.numberTexts
    change (session.sent.map _).reverse = (List.range session.sent.length).map _
    rw [silent]
    rfl
  · obtain ⟨numbers, numbered⟩ := run.numbered
    exact numbered.sent_eq_nil gapFree

/-- A new session with a pool and outbound queues. -/
def sampleSession : FixSessionManager where
  config := { senderCompId := ascii "CLIENT", targetCompId := ascii "BROKER" }
  messagePool := some (MessagePool.new FixMessage 2 Nat.two_pos)
  outboundQueues := some PriorityQueueContainer.new

def sampleTime : SessionClock := ⟨0, ⟨2025, 1, 1, 0, 0, 0, 0⟩⟩

theorem outgoing_gapFree_iff_logon :
    sampleSession.outboundView.GapFree ∧
      ¬ (sampleSession.perform sampleTime .initiateLogon).outboundView.GapFree := by
  have run : OutboundRun HasRoom (sampleSession.perform sampleTime .initiateLogon) :=
    (OutboundRun.start rfl).perform sampleTime .initiateLogon (by unfold HasRoom; decide)
  have pushed : (sampleSession.perform sampleTime .initiateLogon).sent.length = 1 := by
    decide +kernel
  refine ⟨(outgoing_gapFree_iff sampleSession).1 rfl, fun gapFree => ?_⟩
  rw [(outgoing_gapFree_iff _).2 run gapFree] at pushed
  cases pushed

/-- The first message of a new session carries the number 2. -/
theorem first_logon_numbered_two :
    (sampleSession.perform sampleTime .initiateLogon).outboundView.numberTexts =
        [some (ascii "2")] ∧
      ¬ (sampleSession.perform sampleTime .initiateLogon).outboundView.GapFree := by
  decide +kernel

end FixSessionManager

end FixGateway.Manager
