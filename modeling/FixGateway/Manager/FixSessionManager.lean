import FixGateway.Manager.SequenceNumGapManager
import Mathlib.Data.Int.Range

/-! # The session manager

`FixSessionManager::handleMessage` checks an inbound message, moves the expected
sequence number and runs the handler of its type. A handler may answer with a
message of its own, which it allocates from the pool and pushes into an outbound
queue. Here a method returns its result together with the manager it leaves
behind, and what the pool and the queues hold is part of the manager.

The heartbeat thread is present as the flag that starts and stops it, and as the
two sends that a round of its loop may make. Logging has no effect and is left out.
-/

namespace FixGateway.Manager

open Application ByteScan Common Protocol

inductive SessionState where
  | disconnected
  | connecting
  | logonSent
  | loggedOn
  | logoutSent
  | disconnecting
  deriving DecidableEq, Repr

structure SessionConfig where
  senderCompId : Bytes
  targetCompId : Bytes
  /-- In seconds. -/
  heartbeatInterval : Int := 30
  resetSequenceNumbers : Bool := false
  validateSequenceNumbers : Bool := true
  deriving DecidableEq, Repr

structure SessionStats where
  heartbeatsSent : Nat := 0
  heartbeatsReceived : Nat := 0
  testRequestsSent : Nat := 0
  testRequestsReceived : Nat := 0
  logonsSent : Nat := 0
  logoutsSent : Nat := 0
  sequenceResetsSent : Nat := 0
  rejectsSent : Nat := 0
  lastHeartbeatTime : Nat := 0
  currentState : SessionState := .disconnected
  deriving DecidableEq, Repr

/-- The routing counters of `InboundMessageManager::ProcessingStats`. -/
structure ProcessingStats where
  totalMessagesRouted : Nat := 0
  totalRoutingErrors : Nat := 0
  /-- `critical_routed`, `high_routed`, `medium_routed` and `low_routed`. -/
  routed : Priority → Nat := fun _ => 0

/-- The clock readings of one call: the steady clock in nanoseconds, and the
system clock. -/
structure SessionClock where
  now : Nat
  utc : UtcTime

structure FixSessionManager where
  config : SessionConfig
  sequenceNumGapManager : Option SequenceNumGapManager := none
  messagePool : Option (MessagePool FixMessage) := none
  outboundQueues : Option PriorityQueueContainer := none
  sessionState : SessionState := .disconnected
  outgoingSeqNum : Int := 1
  expectedIncomingSeqNum : Int := 1
  heartbeatTimerRunning : Bool := false
  lastHeartbeatSent : Nat := 0
  lastMessageReceived : Nat := 0
  pendingTestRequestId : Bytes := []
  testRequestSentTime : Nat := 0
  testReqIdCounter : Nat := 1
  sessionStats : SessionStats := {}
  stats : ProcessingStats := {}
  /-- A history variable: the messages pushed into the outbound queues, newest first. -/
  sent : List (Priority × FixMessage) := []

namespace FixSessionManager

variable (session : FixSessionManager) (clock : SessionClock) (message : Option FixMessage)

/-! ## Messages out -/

/-- `getNextOutgoingSeqNum`, which increments before it reads. -/
def getNextOutgoingSeqNum (session : FixSessionManager) : Int × FixSessionManager :=
  let next := wrapInt (session.outgoingSeqNum + 1)
  (next, { session with outgoingSeqNum := next })

/-- `std::put_time` with the format `%Y%m%d-%H:%M:%S`. -/
def sendingTime (time : UtcTime) : Bytes :=
  padded 4 time.year ++ padded 2 time.month ++ padded 2 time.day ++ ascii "-" ++
    padded 2 time.hour ++ ascii ":" ++ padded 2 time.minute ++ ascii ":" ++ padded 2 time.second

/-- Allocate a message of the given type and write the standard header and then
the given fields into it. The result is its slot. -/
def createMessage (session : FixSessionManager) (clock : SessionClock) (msgType : Bytes)
    (fields : List (Int × Bytes)) : Option Nat × FixSessionManager :=
  match session.messagePool with
  | none => (none, session)
  | some pool =>
    match pool.allocate (FixMessage.new clock.utc) with
    | (none, pool) => (none, { session with messagePool := some pool })
    | (some slot, pool) =>
      let (seqNum, session) := session.getNextOutgoingSeqNum
      let header :=
        [(FixFields.beginString, ascii "FIX.4.4"), (FixFields.msgType, msgType),
          (FixFields.senderCompID, session.config.senderCompId),
          (FixFields.targetCompID, session.config.targetCompId),
          (FixFields.msgSeqNum, signedDecimal seqNum),
          (FixFields.sendingTime, sendingTime clock.utc)]
      let message := (FixMessage.new clock.utc).setFields (header ++ fields)
      (some slot, { session with messagePool := some (pool.store slot message) })

def createLogonMessage (session : FixSessionManager) (clock : SessionClock) :
    Option Nat × FixSessionManager :=
  session.createMessage clock (ascii "A")
    ((FixFields.heartBtInt, signedDecimal session.config.heartbeatInterval) ::
      if session.config.resetSequenceNumbers then [(FixFields.resetSeqNumFlag, ascii "Y")] else [])

def createLogoutMessage (session : FixSessionManager) (clock : SessionClock) (reason : Bytes) :
    Option Nat × FixSessionManager :=
  session.createMessage clock (ascii "5") (if reason = [] then [] else [(FixFields.text, reason)])

def createHeartbeatMessage (session : FixSessionManager) (clock : SessionClock)
    (testReqId : Bytes) : Option Nat × FixSessionManager :=
  session.createMessage clock (ascii "0")
    (if testReqId = [] then [] else [(FixFields.testReqID, testReqId)])

/-- `createTestRequestId`. -/
def createTestRequestId (session : FixSessionManager) : Bytes × FixSessionManager :=
  (ascii "TEST_" ++ decimal session.testReqIdCounter,
    { session with testReqIdCounter := wrapSize (session.testReqIdCounter + 1) })

/-- The id is drawn and becomes the pending one only once a message was allocated. -/
def createTestRequestMessage (session : FixSessionManager) (clock : SessionClock) :
    Option Nat × FixSessionManager :=
  let (testReqId, numbered) := session.createTestRequestId
  match session.createMessage clock (ascii "1") [(FixFields.testReqID, testReqId)] with
  | (none, session) => (none, session)
  | (some slot, session) =>
    (some slot,
      { session with
        testReqIdCounter := numbered.testReqIdCounter
        pendingTestRequestId := testReqId })

def createRejectMessage (session : FixSessionManager) (clock : SessionClock) (refSeqNum : Int)
    (reason : Bytes) : Option Nat × FixSessionManager :=
  session.createMessage clock (ascii "3")
    ((FixFields.refSeqNum, signedDecimal refSeqNum) ::
      if reason = [] then [] else [(FixFields.text, reason)])

def createSequenceResetMessage (session : FixSessionManager) (clock : SessionClock)
    (newSeqNum : Int) (gapFill : Bool) : Option Nat × FixSessionManager :=
  session.createMessage clock (ascii "4")
    ((FixFields.newSeqNo, signedDecimal newSeqNum) ::
      if gapFill then [(FixFields.gapFillFlag, ascii "Y")] else [])

/-- `routeToOutbound` of an allocated message. -/
def routeToOutbound (session : FixSessionManager) (slot : Nat) (priority : Priority) :
    Bool × FixSessionManager :=
  match session.outboundQueues with
  | none => (false, session)
  | some queues =>
    let (enqueued, queues) := queues.push priority slot
    let stats :=
      if enqueued then
        { session.stats with
          totalMessagesRouted := session.stats.totalMessagesRouted + 1
          routed := Function.update session.stats.routed priority
            (session.stats.routed priority + 1) }
      else
        { session.stats with totalRoutingErrors := session.stats.totalRoutingErrors + 1 }
    let pushed :=
      if enqueued then
        ((session.messagePool.bind fun pool => pool.objects slot).map (priority, ·)).toList
      else []
    (enqueued,
      { session with
        outboundQueues := some queues
        stats := stats
        sent := pushed ++ session.sent })

/-- Route a message that was created, and count it when that succeeds. -/
def sendCreated (created : Option Nat × FixSessionManager) (priority : Priority)
    (count : FixSessionManager → FixSessionManager) : Bool × FixSessionManager :=
  match created with
  | (none, session) => (false, session)
  | (some slot, session) =>
    let (success, session) := session.routeToOutbound slot priority
    (success, if success then count session else session)

def sendLogon (session : FixSessionManager) (clock : SessionClock) : Bool × FixSessionManager :=
  sendCreated (session.createLogonMessage clock) .critical fun session =>
    { session with sessionStats.logonsSent := session.sessionStats.logonsSent + 1 }

def sendLogout (session : FixSessionManager) (clock : SessionClock) (reason : Bytes) :
    Bool × FixSessionManager :=
  sendCreated (session.createLogoutMessage clock reason) .critical fun session =>
    { session with sessionStats.logoutsSent := session.sessionStats.logoutsSent + 1 }

def sendHeartbeat (session : FixSessionManager) (clock : SessionClock) (testReqId : Bytes) :
    Bool × FixSessionManager :=
  sendCreated (session.createHeartbeatMessage clock testReqId) .high fun session =>
    { session with
      sessionStats.heartbeatsSent := session.sessionStats.heartbeatsSent + 1
      lastHeartbeatSent := clock.now }

def sendTestRequest (session : FixSessionManager) (clock : SessionClock) :
    Bool × FixSessionManager :=
  sendCreated (session.createTestRequestMessage clock) .high fun session =>
    { session with
      sessionStats.testRequestsSent := session.sessionStats.testRequestsSent + 1
      testRequestSentTime := clock.now }

def sendReject (session : FixSessionManager) (clock : SessionClock) (refSeqNum : Int)
    (reason : Bytes) : Bool × FixSessionManager :=
  sendCreated (session.createRejectMessage clock refSeqNum reason) .medium fun session =>
    { session with sessionStats.rejectsSent := session.sessionStats.rejectsSent + 1 }

def sendSequenceReset (session : FixSessionManager) (clock : SessionClock) (newSeqNum : Int)
    (gapFill : Bool) : Bool × FixSessionManager :=
  sendCreated (session.createSequenceResetMessage clock newSeqNum gapFill) .critical fun session =>
    { session with sessionStats.sequenceResetsSent := session.sessionStats.sequenceResetsSent + 1 }

/-! ## Session operations -/

def updateSessionState (session : FixSessionManager) (state : SessionState) : FixSessionManager :=
  { session with sessionState := state, sessionStats.currentState := state }

/-- `initiateLogon` counts a Logon that `sendLogon` has counted already. -/
def initiateLogon (session : FixSessionManager) (clock : SessionClock) :
    Bool × FixSessionManager :=
  if session.sessionState ≠ .disconnected then (false, session)
  else
    match (session.updateSessionState .logonSent).sendLogon clock with
    | (true, session) =>
      (true, { session with sessionStats.logonsSent := session.sessionStats.logonsSent + 1 })
    | (false, session) => (false, session.updateSessionState .disconnected)

def initiateLogout (session : FixSessionManager) (clock : SessionClock) (reason : Bytes) :
    Bool × FixSessionManager :=
  if session.sessionState ≠ .loggedOn ∧ session.sessionState ≠ .logonSent then (false, session)
  else
    match (session.updateSessionState .logoutSent).sendLogout clock reason with
    | (true, session) =>
      (true, { session with sessionStats.logoutsSent := session.sessionStats.logoutsSent + 1 })
    | (false, session) => (false, session)

/-- Whole seconds between two readings of the steady clock. -/
def secondsSince (now time : Nat) : Int := Int.tdiv ((now : Int) - time) 1000000000

def shouldSendHeartbeat (session : FixSessionManager) (now : Nat) : Bool :=
  session.config.heartbeatInterval ≤ secondsSince now session.lastHeartbeatSent

def shouldSendTestRequest (session : FixSessionManager) (now : Nat) : Bool :=
  wrapInt (session.config.heartbeatInterval * 2) ≤ secondsSince now session.lastMessageReceived

/-- The first send of a round of `heartbeatTimerFunction`. -/
def timerHeartbeat (session : FixSessionManager) (clock : SessionClock) : FixSessionManager :=
  if session.shouldSendHeartbeat clock.now then (session.sendHeartbeat clock []).2 else session

/-- The second send of a round of `heartbeatTimerFunction`. -/
def timerTestRequest (session : FixSessionManager) (clock : SessionClock) : FixSessionManager :=
  if session.shouldSendTestRequest clock.now then (session.sendTestRequest clock).2 else session

/-! ## The handlers -/

def startHeartbeatTimer (session : FixSessionManager) : FixSessionManager :=
  if session.heartbeatTimerRunning then session
  else { session with heartbeatTimerRunning := true }

def stopHeartbeatTimer (session : FixSessionManager) : FixSessionManager :=
  if session.heartbeatTimerRunning then { session with heartbeatTimerRunning := false }
  else session

/-- The heartbeat interval that a Logon asks for, if it has a positive one. -/
def requestedInterval (message : FixMessage) : Option Int :=
  ((message.getField FixFields.heartBtInt).bind stoi).filter (0 < ·)

def handleLogon (session : FixSessionManager) (message : FixMessage) : Bool × FixSessionManager :=
  let interval := (requestedInterval message).getD session.config.heartbeatInterval
  let session := { session with config.heartbeatInterval := interval }
  (true, (session.updateSessionState .loggedOn).startHeartbeatTimer)

def handleLogout (session : FixSessionManager) (clock : SessionClock) :
    Bool × FixSessionManager :=
  let session := session.stopHeartbeatTimer
  let session :=
    if session.sessionState = .loggedOn then
      (session.sendLogout clock (ascii "Logout acknowledged")).2
    else session
  (true, session.updateSessionState .disconnected)

def handleHeartbeat (session : FixSessionManager) (clock : SessionClock) (message : FixMessage) :
    Bool × FixSessionManager :=
  let session :=
    { session with
      sessionStats.heartbeatsReceived := session.sessionStats.heartbeatsReceived + 1
      sessionStats.lastHeartbeatTime := clock.now }
  if message.getField FixFields.testReqID = some session.pendingTestRequestId then
    (true, { session with pendingTestRequestId := [] })
  else (true, session)

def handleTestRequest (session : FixSessionManager) (clock : SessionClock)
    (message : FixMessage) : Bool × FixSessionManager :=
  let session :=
    { session with
      sessionStats.testRequestsReceived := session.sessionStats.testRequestsReceived + 1 }
  match message.getField FixFields.testReqID with
  | none => (false, session)
  | some testReqId => session.sendHeartbeat clock testReqId

/-- `handleResendRequest` fills the whole range: nothing is stored to be resent. -/
def handleResendRequest (session : FixSessionManager) (clock : SessionClock)
    (message : FixMessage) : Bool × FixSessionManager :=
  match (message.getField FixFields.beginSeqNo).bind stoi,
    (message.getField FixFields.endSeqNo).bind stoi with
  | some _, some endSeq => session.sendSequenceReset clock (wrapInt (endSeq + 1)) true
  | _, _ => (false, session)

def handleSequenceReset (session : FixSessionManager) (message : FixMessage) :
    Bool × FixSessionManager :=
  match (message.getField FixFields.newSeqNo).bind stoi with
  | none => (false, session)
  | some newSeq => (true, { session with expectedIncomingSeqNum := newSeq })

/-- `handleReject` only logs. -/
def handleReject (session : FixSessionManager) : Bool × FixSessionManager := (true, session)

/-! ## Messages in -/

def isValidSenderCompId (session : FixSessionManager) (senderCompId : Bytes) : Bool :=
  senderCompId = session.config.targetCompId

def isValidTargetCompId (session : FixSessionManager) (targetCompId : Bytes) : Bool :=
  targetCompId = session.config.senderCompId

def validateSessionMessage (session : FixSessionManager) (message : FixMessage) : Bool :=
  match message.getField FixFields.senderCompID, message.getField FixFields.targetCompID with
  | some senderCompId, some targetCompId =>
    session.isValidSenderCompId senderCompId && session.isValidTargetCompId targetCompId
  | _, _ => false

/-- The flag `is_resend`: the message has PossDupFlag `Y`. -/
def isResend (message : FixMessage) : Bool :=
  message.getField FixFields.possDupFlag = some (ascii "Y")

def validateSequenceNumber (session : FixSessionManager) (clock : SessionClock)
    (message : FixMessage) : Bool × FixSessionManager :=
  match message.getField FixFields.msgSeqNum with
  | none => (false, session)
  | some seqNumText =>
    match stoi seqNumText with
    | none => (false, session)
    | some received =>
      let expected := session.expectedIncomingSeqNum
      if received = expected then
        (true, { session with expectedIncomingSeqNum := wrapInt (expected + 1) })
      else if expected < received then
        if isResend message then
          (true, { session with expectedIncomingSeqNum := wrapInt (received + 1) })
        else
          (false,
            { session with
              sequenceNumGapManager := session.sequenceNumGapManager.map fun manager =>
                manager.addGapEntries clock.now (Int.range expected received) })
      else (isResend message, session)

/-- The check changes at most the expected number and the gaps that are tracked. -/
theorem validateSequenceNumber_frame (message : FixMessage) :
    ∃ expected gapManager, gapManager.isSome = session.sequenceNumGapManager.isSome ∧
      (session.validateSequenceNumber clock message).2 =
        { session with
          expectedIncomingSeqNum := expected
          sequenceNumGapManager := gapManager } := by
  unfold validateSequenceNumber
  split
  · exact ⟨_, _, rfl, rfl⟩
  · split
    · exact ⟨_, _, rfl, rfl⟩
    · dsimp only
      split_ifs
      · exact ⟨_, _, rfl, rfl⟩
      · exact ⟨_, _, rfl, rfl⟩
      · exact ⟨_, _, Option.isSome_map, rfl⟩
      · exact ⟨_, _, rfl, rfl⟩

/-- The handler for a message type. -/
def dispatch (session : FixSessionManager) (clock : SessionClock) (msgType : Bytes)
    (message : FixMessage) : Bool × FixSessionManager :=
  if msgType = ascii "A" then session.handleLogon message
  else if msgType = ascii "5" then session.handleLogout clock
  else if msgType = ascii "0" then session.handleHeartbeat clock message
  else if msgType = ascii "1" then session.handleTestRequest clock message
  else if msgType = ascii "2" then session.handleResendRequest clock message
  else if msgType = ascii "4" then session.handleSequenceReset message
  else if msgType = ascii "3" then session.handleReject
  else (false, session)

/-- `handleMessage`; a null pointer is `none`. -/
def handleMessage (session : FixSessionManager) (clock : SessionClock) :
    Option FixMessage → Bool × FixSessionManager
  | none => (false, session)
  | some message =>
    let session := { session with lastMessageReceived := clock.now }
    match message.getField FixFields.msgType with
    | none => (false, session)
    | some msgType =>
      if session.validateSessionMessage message = false then (false, session)
      else if session.config.validateSequenceNumbers then
        let (valid, session) := session.validateSequenceNumber clock message
        if valid then session.dispatch clock msgType message else (false, session)
      else session.dispatch clock msgType message

/-- The checks of `handleMessage`: the message and its type if it passes them, and the
manager that they leave. -/
def receive (session : FixSessionManager) (clock : SessionClock) :
    Option FixMessage → Option (Bytes × FixMessage) × FixSessionManager
  | none => (none, session)
  | some message =>
    let session := { session with lastMessageReceived := clock.now }
    match message.getField FixFields.msgType with
    | none => (none, session)
    | some msgType =>
      if session.validateSessionMessage message = false then (none, session)
      else if session.config.validateSequenceNumbers then
        let (valid, session) := session.validateSequenceNumber clock message
        (if valid then some (msgType, message) else none, session)
      else (some (msgType, message), session)

/-- `handleMessage` makes its checks and then runs the handler. -/
theorem handleMessage_eq_receive :
    session.handleMessage clock message =
      match session.receive clock message with
      | (none, session) => (false, session)
      | (some (msgType, message), session) => session.dispatch clock msgType message := by
  cases message with
  | none => rfl
  | some message =>
    simp only [handleMessage, receive]
    cases message.getField FixFields.msgType with
    | none => rfl
    | some msgType =>
      dsimp only
      split_ifs <;> rfl

/-- The checks change at most the time of the last message, the expected number and the gaps
that are tracked. -/
theorem receive_frame :
    ∃ time expected gapManager, (session.receive clock message).2 =
      { session with
        lastMessageReceived := time
        expectedIncomingSeqNum := expected
        sequenceNumGapManager := gapManager } := by
  cases message with
  | none => exact ⟨_, _, _, rfl⟩
  | some message =>
    simp only [receive]
    cases message.getField FixFields.msgType with
    | none => exact ⟨_, _, _, rfl⟩
    | some msgType =>
      dsimp only
      split
      · exact ⟨_, _, _, rfl⟩
      · split
        · obtain ⟨expected, gapManager, -, checked⟩ := validateSequenceNumber_frame
            { session with lastMessageReceived := clock.now } clock message
          exact ⟨_, expected, gapManager, checked⟩
        · exact ⟨_, _, _, rfl⟩

/-! ## What sending and handling leave alone -/

/-- A relation between the managers before and after, which sends and counts keep. -/
structure Tolerates (related : FixSessionManager → FixSessionManager → Prop) : Prop where
  trans : ∀ {first second third}, related first second → related second third →
    related first third
  created : ∀ session clock msgType fields,
    related session (session.createMessage clock msgType fields).2
  routed : ∀ session slot priority, related session (session.routeToOutbound slot priority).2
  counted : ∀ session sessionStats lastHeartbeatSent testRequestSentTime pendingTestRequestId,
    related session
      { session with
        sessionStats := sessionStats
        lastHeartbeatSent := lastHeartbeatSent
        testRequestSentTime := testRequestSentTime
        pendingTestRequestId := pendingTestRequestId }

namespace Tolerates

variable {related : FixSessionManager → FixSessionManager → Prop} (tolerates : Tolerates related)
  (session : FixSessionManager) (clock : SessionClock)

include tolerates

theorem refl : related session session := tolerates.counted session _ _ _ _

theorem sendCreated {created : Option Nat × FixSessionManager} {priority : Priority}
    {count : FixSessionManager → FixSessionManager} (creating : related session created.2)
    (counting : ∀ session, related session (count session)) :
    related session (sendCreated created priority count).2 := by
  obtain ⟨slot, created⟩ := created
  cases slot with
  | none => exact creating
  | some slot =>
    have routing := tolerates.routed created slot priority
    simp only [FixSessionManager.sendCreated]
    split
    · exact tolerates.trans creating (tolerates.trans routing (counting _))
    · exact tolerates.trans creating routing

theorem sendMessage {msgType : Bytes} {fields : List (Int × Bytes)} {priority : Priority}
    {count : FixSessionManager → FixSessionManager}
    (counting : ∀ session, related session (count session)) :
    related session (FixSessionManager.sendCreated (session.createMessage clock msgType fields)
      priority count).2 :=
  tolerates.sendCreated session (tolerates.created session clock msgType fields) counting

theorem sendLogon : related session (session.sendLogon clock).2 :=
  tolerates.sendMessage session clock fun session => tolerates.counted session _ _ _ _

theorem sendLogout (reason : Bytes) : related session (session.sendLogout clock reason).2 :=
  tolerates.sendMessage session clock fun session => tolerates.counted session _ _ _ _

theorem sendHeartbeat (testReqId : Bytes) :
    related session (session.sendHeartbeat clock testReqId).2 :=
  tolerates.sendMessage session clock fun session => tolerates.counted session _ _ _ _

theorem sendSequenceReset (newSeqNum : Int) (gapFill : Bool) :
    related session (session.sendSequenceReset clock newSeqNum gapFill).2 :=
  tolerates.sendMessage session clock fun session => tolerates.counted session _ _ _ _

/-- Only the handlers of Logon, Logout and SequenceReset do more than sending and counting. -/
theorem dispatch {msgType : Bytes} (message : FixMessage) (noLogon : msgType ≠ ascii "A")
    (noLogout : msgType ≠ ascii "5") (noReset : msgType ≠ ascii "4") :
    related session (session.dispatch clock msgType message).2 := by
  unfold FixSessionManager.dispatch
  rw [if_neg noLogon, if_neg noLogout]
  split_ifs
  · unfold handleHeartbeat
    dsimp only
    split <;> exact tolerates.counted session _ _ _ _
  · unfold handleTestRequest
    dsimp only
    split
    · exact tolerates.counted session _ _ _ _
    · refine tolerates.trans ?_ (tolerates.sendHeartbeat _ clock _)
      exact tolerates.counted session _ _ _ _
  · unfold handleResendRequest
    split
    · exact tolerates.sendSequenceReset session clock _ true
    · exact tolerates.refl session
  · exact tolerates.refl session
  · exact tolerates.refl session

end Tolerates

/-- A view of the manager that does not depend on what a send moves: the pool, the number
of the message, the queues and the counts of the routing. -/
def FreeOfSends {α : Type*} (view : FixSessionManager → α) : Prop :=
  ∀ session pool outgoing queues stats sent,
    view
      { session with
        messagePool := pool
        outgoingSeqNum := outgoing
        outboundQueues := queues
        stats := stats
        sent := sent } = view session

theorem FreeOfSends.createMessage {α : Type*} {view : FixSessionManager → α}
    (free : FreeOfSends view) (session : FixSessionManager) (clock : SessionClock)
    (msgType : Bytes) (fields : List (Int × Bytes)) :
    view (session.createMessage clock msgType fields).2 = view session := by
  unfold FixSessionManager.createMessage
  split
  · rfl
  · split <;> exact free session ..

/-- Such a view is kept if it does not depend on what is counted either. -/
theorem FreeOfSends.tolerates {α : Type*} {view : FixSessionManager → α} (free : FreeOfSends view)
    (counted : ∀ session sessionStats lastHeartbeatSent testRequestSentTime pendingTestRequestId,
      view
        { session with
          sessionStats := sessionStats
          lastHeartbeatSent := lastHeartbeatSent
          testRequestSentTime := testRequestSentTime
          pendingTestRequestId := pendingTestRequestId } = view session) :
    Tolerates fun before after => view after = view before where
  trans := fun first second => second.trans first
  created := free.createMessage
  routed := by
    intro session slot priority
    unfold routeToOutbound
    split
    · rfl
    · exact free ..
  counted := counted

/-- What the sequence check depends on and moves: whether it is made, the
expected number, and the calls of `addGapEntry` if there is a gap manager. -/
structure InboundView where
  validates : Bool
  expected : Int
  requested : Option (List Int)
  deriving DecidableEq, Repr

def inboundView (session : FixSessionManager) : InboundView where
  validates := session.config.validateSequenceNumbers
  expected := session.expectedIncomingSeqNum
  requested := session.sequenceNumGapManager.map SequenceNumGapManager.requested

theorem tolerates_inboundView :
    Tolerates fun before after => after.inboundView = before.inboundView :=
  FreeOfSends.tolerates (fun _ _ _ _ _ _ => rfl) fun _ _ _ _ _ => rfl

section InboundView

variable (session : FixSessionManager) (clock : SessionClock)

theorem startHeartbeatTimer_inboundView :
    session.startHeartbeatTimer.inboundView = session.inboundView := by
  unfold startHeartbeatTimer
  split <;> rfl

theorem stopHeartbeatTimer_inboundView :
    session.stopHeartbeatTimer.inboundView = session.inboundView := by
  unfold stopHeartbeatTimer
  split <;> rfl

theorem handleLogout_inboundView :
    (session.handleLogout clock).2.inboundView = session.inboundView := by
  rw [← session.stopHeartbeatTimer_inboundView]
  unfold handleLogout
  dsimp only
  split
  · exact tolerates_inboundView.sendLogout ..
  · rfl

/-- Only the handler of SequenceReset touches the inbound side. -/
theorem dispatch_inboundView {msgType : Bytes} {message : FixMessage} (other : msgType ≠ ascii "4")
    : (session.dispatch clock msgType message).2.inboundView = session.inboundView := by
  by_cases logon : msgType = ascii "A"
  · unfold dispatch
    rw [if_pos logon]
    exact startHeartbeatTimer_inboundView _
  · by_cases logout : msgType = ascii "5"
    · unfold dispatch
      rw [if_neg logon, if_pos logout]
      exact handleLogout_inboundView ..
    · exact tolerates_inboundView.dispatch session clock message logon logout other

end InboundView

end FixSessionManager

end FixGateway.Manager
