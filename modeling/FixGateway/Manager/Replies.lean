import FixGateway.Concurrency.Transition
import FixGateway.Manager.InboundNumbering
import FixGateway.Manager.OutboundNumbering

/-! # The replies of a session

A call of `handleMessage` answers an accepted TestRequest with a Heartbeat, an accepted
ResendRequest with a SequenceReset, and an accepted Logout with a Logout if the session
was logged on. `Reply` says what such an answer is, without the pool, the queues and
the counters, and `replyTo` which one is due.

When every answer can be allocated and pushed, a run of calls pushes exactly the
answers that were due, in their order, and the last accepted Logon or Logout decides
in which state the session ends (`run_replies`).
-/

namespace FixGateway.Manager

open Application ByteScan Common Protocol FixMessage FixFields

/-- An answer of the session manager to an inbound message. -/
inductive Reply where
  | heartbeat (testReqId : Bytes)
  | sequenceReset (newSeqNum : Int)
  | logout
  deriving DecidableEq, Repr

namespace Reply

def priority : Reply → Priority
  | .heartbeat _ => .high
  | .sequenceReset _ => .critical
  | .logout => .critical

def msgType : Reply → Bytes
  | .heartbeat _ => ascii "0"
  | .sequenceReset _ => ascii "4"
  | .logout => ascii "5"

/-- The fields of an answer behind the standard header. -/
def body : Reply → List (Int × Bytes)
  | .heartbeat testReqId => if testReqId = [] then [] else [(FixFields.testReqID, testReqId)]
  | .sequenceReset newSeqNum =>
    [(FixFields.newSeqNo, signedDecimal newSeqNum), (FixFields.gapFillFlag, ascii "Y")]
  | .logout => [(FixFields.text, ascii "Logout acknowledged")]

/-- The tags of the standard header. -/
def headerTags : List Int :=
  [FixFields.beginString, FixFields.msgType, FixFields.senderCompID, FixFields.targetCompID,
    FixFields.msgSeqNum, FixFields.sendingTime]

/-- A message that conveys an answer: it has the given ids and number in its header, and
exactly the fields of the answer behind it. -/
structure Conveys (senderCompId targetCompId : Bytes) (number : Int) (reply : Reply)
    (message : FixMessage) : Prop where
  msgType : message.getField FixFields.msgType = some reply.msgType
  senderCompID : message.getField FixFields.senderCompID = some senderCompId
  targetCompID : message.getField FixFields.targetCompID = some targetCompId
  msgSeqNum : message.getField FixFields.msgSeqNum = some (signedDecimal number)
  body : ∀ tag, tag ∉ headerTags → message.getField tag = FixMessage.lastValue tag reply.body

theorem lastValue_body_eq_none (reply : Reply) {tag : Int} (header : tag ∈ headerTags) :
    lastValue tag reply.body = none := by
  have foreign : ∀ field ∈ [testReqID, newSeqNo, gapFillFlag,
      FixFields.text], field ∉ headerTags := by decide
  apply lastValue_eq_none
  intro field member same
  refine foreign field.1 ?_ (same ▸ header)
  cases reply with
  | heartbeat testReqId =>
    by_cases empty : testReqId = []
    · rw [body, if_pos empty] at member
      cases member
    · rw [body, if_neg empty, List.mem_singleton] at member
      simp [member]
  | sequenceReset newSeqNum =>
    rw [body, List.mem_pair] at member
    rcases member with rfl | rfl <;> simp
  | logout =>
    rw [body, List.mem_singleton] at member
    simp [member]

end Reply

namespace FixSessionManager

variable {session : FixSessionManager} (outgoing : Int) (count : Nat)

/-! ## What is due -/

/-- A message that passes the checks of `handleMessage`, so that its handler runs. -/
def accepts (session : FixSessionManager) (clock : SessionClock) (message : FixMessage) : Bool :=
  session.reachesCheck message &&
    (!session.config.validateSequenceNumbers || (session.validateSequenceNumber clock message).1)

/-- BeginSeqNo and EndSeqNo of a message, if both are numbers. -/
def resendRange (message : FixMessage) : Option (Int × Int) :=
  match (message.getField FixFields.beginSeqNo).bind stoi,
    (message.getField FixFields.endSeqNo).bind stoi with
  | some beginSeq, some endSeq => some (beginSeq, endSeq)
  | _, _ => none

/-- The answer to an accepted message in the given state. -/
def replyTo (state : SessionState) (message : FixMessage) : Option Reply :=
  if message.getField FixFields.msgType = some (ascii "1") then
    (message.getField FixFields.testReqID).map .heartbeat
  else if message.getField FixFields.msgType = some (ascii "2") then
    ((resendRange message).filter (·.2 < 2 ^ 31 - 1)).map fun range =>
      .sequenceReset (range.2 + 1)
  else if message.getField FixFields.msgType = some (ascii "5") then
    if state = .loggedOn then some .logout else none
  else none

/-- The state that an accepted message puts the session in, if it is a Logon or a Logout. -/
def stateBy (message : FixMessage) : Option SessionState :=
  if message.getField FixFields.msgType = some (ascii "A") then some .loggedOn
  else if message.getField FixFields.msgType = some (ascii "5") then some .disconnected
  else none

/-- The next message can be allocated and pushed into the queue of this priority. -/
def canSend (session : FixSessionManager) (clock : SessionClock) (priority : Priority) : Bool :=
  match session.messagePool, session.outboundQueues with
  | some pool, some queues =>
    match (pool.allocate (FixMessage.new clock.utc)).1 with
    | some slot => (queues.push priority slot).1
    | none => false
  | _, _ => false

/-! ## What one call pushes -/

/-- What the replies depend on and move. -/
structure ReplyView where
  state : SessionState
  senderCompId : Bytes
  targetCompId : Bytes
  outgoing : Int
  sent : List (Priority × FixMessage)

def replyView (session : FixSessionManager) : ReplyView where
  state := session.sessionState
  senderCompId := session.config.senderCompId
  targetCompId := session.config.targetCompId
  outgoing := session.outgoingSeqNum
  sent := session.sent

/-- Push a message under the next number. -/
def ReplyView.push (view : ReplyView) (reply : Reply) (message : FixMessage) : ReplyView :=
  { view with
    outgoing := wrapInt (view.outgoing + 1)
    sent := (reply.priority, message) :: view.sent }

/-- Pushes that convey these answers in their order, with numbers from a counter that
stands at the given one. -/
inductive Delivers (senderCompId targetCompId : Bytes) :
    Int → List Reply → List (Priority × FixMessage) → Prop where
  | nil (outgoing : Int) : Delivers senderCompId targetCompId outgoing [] []
  | cons {outgoing : Int} {reply : Reply} {replies : List Reply} {message : FixMessage}
      {pushed : List (Priority × FixMessage)}
      (conveys : reply.Conveys senderCompId targetCompId (wrapInt (outgoing + 1)) message)
      (rest : Delivers senderCompId targetCompId (wrapInt (outgoing + 1)) replies pushed) :
      Delivers senderCompId targetCompId outgoing (reply :: replies)
        ((reply.priority, message) :: pushed)

/-- The counter after it gave some numbers. -/
def advance (outgoing : Int) : Nat → Int
  | 0 => outgoing
  | count + 1 => wrapInt (advance outgoing count + 1)

/-- These answers, and nothing else, were pushed on the way from one view to another. -/
structure ReplyView.Replied (before after : ReplyView) (replies : List Reply) : Prop where
  senderCompId : after.senderCompId = before.senderCompId
  targetCompId : after.targetCompId = before.targetCompId
  outgoing : after.outgoing = advance before.outgoing replies.length
  sent : ∃ pushed, after.sent = pushed.reverse ++ before.sent ∧
    Delivers before.senderCompId before.targetCompId before.outgoing replies pushed

theorem advance_succ : advance outgoing (count + 1) = advance (wrapInt (outgoing + 1)) count := by
  induction count with
  | zero => rfl
  | succ count ih => exact congrArg (fun number => wrapInt (number + 1)) ih

theorem advance_add (first second : Nat) :
    advance outgoing (first + second) = advance (advance outgoing first) second := by
  induction second with
  | zero => rfl
  | succ second ih => exact congrArg (fun number => wrapInt (number + 1)) ih

theorem advance_succ_eq :
    advance outgoing (count + 1) = wrapInt (outgoing + (count + 1 : Nat)) := by
  induction count with
  | zero => rfl
  | succ count ih =>
    rw [advance, ih, wrapInt_succ]
    congr 1
    omega

namespace Delivers

variable {senderCompId targetCompId : Bytes} {outgoing : Int} {replies more : List Reply}
  {pushed others : List (Priority × FixMessage)}

theorem append (first : Delivers senderCompId targetCompId outgoing replies pushed)
    (second : Delivers senderCompId targetCompId (advance outgoing replies.length) more others) :
    Delivers senderCompId targetCompId outgoing (replies ++ more) (pushed ++ others) := by
  induction first with
  | nil outgoing => exact second
  | cons conveys rest ih =>
    rw [List.length_cons, advance_succ] at second
    exact .cons conveys (ih second)

theorem length_eq (delivers : Delivers senderCompId targetCompId outgoing replies pushed) :
    pushed.length = replies.length := by
  induction delivers with
  | nil => rfl
  | cons _ _ ih => rw [List.length_cons, List.length_cons, ih]

theorem getElem? (delivers : Delivers senderCompId targetCompId outgoing replies pushed)
    {index : Nat} {reply : Reply} (due : replies[index]? = some reply) :
    ∃ message, pushed[index]? = some (reply.priority, message) ∧
      reply.Conveys senderCompId targetCompId (wrapInt (outgoing + (index + 1 : Nat))) message := by
  rw [← advance_succ_eq]
  induction delivers generalizing index with
  | nil => cases due
  | @cons outgoing first replies message pushed conveys rest ih =>
    cases index with
    | zero =>
      cases due
      exact ⟨message, rfl, conveys⟩
    | succ index =>
      obtain ⟨message, found, conveys⟩ := ih due
      rw [← advance_succ] at conveys
      exact ⟨message, found, conveys⟩

end Delivers

namespace ReplyView.Replied

variable {before middle after : ReplyView} {replies more : List Reply}

theorem refl (view : ReplyView) : view.Replied view [] := ⟨rfl, rfl, rfl, [], rfl, .nil _⟩

theorem trans (first : before.Replied middle replies) (second : middle.Replied after more) :
    before.Replied after (replies ++ more) := by
  obtain ⟨pushed, sent, delivers⟩ := first.sent
  obtain ⟨others, sentAfter, deliversAfter⟩ := second.sent
  rw [first.senderCompId, first.targetCompId, first.outgoing] at deliversAfter
  refine ⟨second.senderCompId.trans first.senderCompId,
    second.targetCompId.trans first.targetCompId, ?_, pushed ++ others, ?_,
    delivers.append deliversAfter⟩
  · rw [second.outgoing, first.outgoing, List.length_append, advance_add]
  · rw [sentAfter, sent, List.reverse_append, List.append_assoc]

end ReplyView.Replied

section Call

variable {session : FixSessionManager} {clock : SessionClock} {after other : FixSessionManager}
  {state : SessionState} {message : FixMessage}

theorem canSend_iff {priority : Priority} :
    session.canSend clock priority = true ↔
      ∃ pool queues slot, session.messagePool = some pool ∧
        session.outboundQueues = some queues ∧
        (pool.allocate (FixMessage.new clock.utc)).1 = some slot ∧
        (queues.push priority slot).1 = true := by
  unfold canSend
  split
  · rename_i pool queues attached connected
    split
    · rename_i slot allocated
      simp [attached, connected, allocated]
    · rename_i refused
      simp [attached, connected, refused]
  · rename_i missing
    refine ⟨nofun, ?_⟩
    rintro ⟨pool, queues, slot, attached, connected, -⟩
    exact absurd connected (missing pool queues attached)

/-- The standard header of the next message. -/
def replyHeader (session : FixSessionManager) (clock : SessionClock) (reply : Reply) :
    List (Int × Bytes) :=
  [(FixFields.beginString, ascii "FIX.4.4"), (FixFields.msgType, reply.msgType),
    (FixFields.senderCompID, session.config.senderCompId),
    (FixFields.targetCompID, session.config.targetCompId),
    (FixFields.msgSeqNum, signedDecimal (wrapInt (session.outgoingSeqNum + 1))),
    (FixFields.sendingTime, sendingTime clock.utc)]

/-- The message that `createMessage` writes for an answer. -/
def replyMessage (session : FixSessionManager) (clock : SessionClock) (reply : Reply) :
    FixMessage :=
  (FixMessage.new clock.utc).setFields (session.replyHeader clock reply ++ reply.body)

theorem replyMessage_conveys (session : FixSessionManager) (clock : SessionClock) (reply : Reply) :
    reply.Conveys session.config.senderCompId session.config.targetCompId
      (wrapInt (session.outgoingSeqNum + 1)) (session.replyMessage clock reply) := by
  have written : ∀ tag ∈ Reply.headerTags, (session.replyMessage clock reply).getField tag =
      (lastValue tag (session.replyHeader clock reply)).or
        ((FixMessage.new clock.utc).getField tag) := fun tag member => by
    rw [replyMessage, getField_setFields, lastValue_append,
      reply.lastValue_body_eq_none member, Option.none_or]
  refine ⟨?_, ?_, ?_, ?_, fun tag foreign => ?_⟩
  · exact written FixFields.msgType (by decide)
  · exact written FixFields.senderCompID (by decide)
  · exact written FixFields.targetCompID (by decide)
  · exact written FixFields.msgSeqNum (by decide)
  · have unwritten : lastValue tag (session.replyHeader clock reply) = none := by
      apply lastValue_eq_none
      intro assignment member same
      refine foreign (same ▸ ?_)
      exact List.mem_map_of_mem (f := Prod.fst) member
    have unstamped : (FixMessage.new clock.utc).getField tag = none := by
      rw [FixMessage.new, setSendingTime, getField_setField, if_neg]
      · rfl
      · rintro rfl
        exact foreign (by decide)
    rw [replyMessage, getField_setFields, lastValue_append, unwritten,
      unstamped, Option.or_none, Option.or_none]

theorem sendCreated_push (reply : Reply) (able : session.canSend clock reply.priority = true)
    {count : FixSessionManager → FixSessionManager}
    (counting : ∀ session, (count session).replyView = session.replyView) :
    (sendCreated (session.createMessage clock reply.msgType reply.body) reply.priority
      count).2.replyView = session.replyView.push reply (session.replyMessage clock reply) := by
  obtain ⟨pool, queues, slot, attached, connected, allocated, pushes⟩ := canSend_iff.mp able
  have created : session.createMessage clock reply.msgType reply.body =
      (some slot,
        { session with
          outgoingSeqNum := wrapInt (session.outgoingSeqNum + 1)
          messagePool := some ((pool.allocate (FixMessage.new clock.utc)).2.store slot
            (session.replyMessage clock reply)) }) := by
    simp only [createMessage, attached]
    rw [← Prod.mk.eta (p := pool.allocate (FixMessage.new clock.utc)), allocated]
    rfl
  have stored : ((pool.allocate (FixMessage.new clock.utc)).2.store slot
      (session.replyMessage clock reply)).objects slot = some (session.replyMessage clock reply) :=
    MessagePool.store_objects_self (MessagePool.live_of_allocate (Prod.ext allocated rfl))
  rw [created]
  simp only [sendCreated, routeToOutbound, connected, pushes, if_true, Option.bind_some, stored]
  rw [counting]
  rfl

theorem sendLogout_push (able : session.canSend clock .critical = true) :
    (session.sendLogout clock (ascii "Logout acknowledged")).2.replyView =
      session.replyView.push .logout (session.replyMessage clock .logout) :=
  sendCreated_push .logout able fun _ => rfl

theorem sendHeartbeat_push (able : session.canSend clock .high = true) (testReqId : Bytes) :
    (session.sendHeartbeat clock testReqId).2.replyView =
      session.replyView.push (.heartbeat testReqId)
        (session.replyMessage clock (.heartbeat testReqId)) :=
  sendCreated_push (.heartbeat testReqId) able fun _ => rfl

theorem sendSequenceReset_push (able : session.canSend clock .critical = true) (newSeqNum : Int) :
    (session.sendSequenceReset clock newSeqNum true).2.replyView =
      session.replyView.push (.sequenceReset newSeqNum)
        (session.replyMessage clock (.sequenceReset newSeqNum)) :=
  sendCreated_push (.sequenceReset newSeqNum) able fun _ => rfl

/-- The answer was pushed if there is one, and the session is left in the given state. -/
structure Handles (session after : FixSessionManager) (reply : Option Reply)
    (state : SessionState) : Prop where
  replied : session.replyView.Replied after.replyView reply.toList
  state : after.sessionState = state

theorem Handles.silent (same : after.replyView = { session.replyView with state := state }) :
    session.Handles after none state := by
  refine ⟨?_, congrArg ReplyView.state same⟩
  rw [same]
  exact ⟨rfl, rfl, rfl, [], rfl, .nil _⟩

/-- A call that pushes an answer. -/
theorem Handles.push {sender : FixSessionManager} {reply : Reply}
    (same : sender.replyView = session.replyView) (pushed : after.replyView =
      { sender.replyView.push reply (sender.replyMessage clock reply) with state := state }) :
    session.Handles after (some reply) state := by
  have conveys := sender.replyMessage_conveys clock reply
  change reply.Conveys sender.replyView.senderCompId sender.replyView.targetCompId
    (wrapInt (sender.replyView.outgoing + 1)) (sender.replyMessage clock reply) at conveys
  refine ⟨?_, congrArg ReplyView.state pushed⟩
  rw [pushed, ← same]
  exact ⟨rfl, rfl, rfl, [(reply.priority, sender.replyMessage clock reply)], rfl,
    .cons conveys (.nil _)⟩

section Handlers

variable {message : FixMessage}

theorem handleLogon_handles (session : FixSessionManager) (message : FixMessage) :
    session.Handles (session.handleLogon message).2 none .loggedOn := by
  apply Handles.silent
  unfold handleLogon startHeartbeatTimer
  dsimp only
  split <;> rfl

theorem handleLogout_handles
    (able : session.sessionState = .loggedOn → session.canSend clock .critical = true) :
    session.Handles (session.handleLogout clock).2
      (if session.sessionState = .loggedOn then some .logout else none) .disconnected := by
  have same : session.stopHeartbeatTimer.replyView = session.replyView := by
    unfold stopHeartbeatTimer
    split <;> rfl
  have ready : session.stopHeartbeatTimer.canSend clock .critical =
      session.canSend clock .critical := by
    unfold stopHeartbeatTimer
    split <;> rfl
  unfold handleLogout
  dsimp only
  generalize session.stopHeartbeatTimer = stopped at same ready ⊢
  have state : stopped.sessionState = session.sessionState := congrArg ReplyView.state same
  by_cases active : session.sessionState = .loggedOn
  · rw [if_pos active, if_pos (state.trans active)]
    have pushed := sendLogout_push (ready.trans (able active))
    apply Handles.push same
    exact congrArg (fun view : ReplyView => { view with state := .disconnected }) pushed
  · rw [if_neg active, if_neg (state ▸ active)]
    apply Handles.silent
    exact congrArg (fun view : ReplyView => { view with state := .disconnected }) same

theorem handleHeartbeat_handles (session : FixSessionManager) (clock : SessionClock)
    (message : FixMessage) :
    session.Handles (session.handleHeartbeat clock message).2 none session.sessionState := by
  apply Handles.silent
  unfold handleHeartbeat
  dsimp only
  split <;> rfl

theorem handleTestRequest_handles (able : ∀ testReqId, message.getField testReqID = some testReqId →
      session.canSend clock .high = true) :
    session.Handles (session.handleTestRequest clock message).2
      ((message.getField testReqID).map .heartbeat) session.sessionState := by
  unfold handleTestRequest
  dsimp only
  split
  · rename_i missing
    rw [missing]
    exact .silent rfl
  · rename_i testReqId found
    rw [found]
    refine .push ?same (sendHeartbeat_push ?ready testReqId)
    case same => rfl
    case ready => exact able testReqId found

theorem handleResendRequest_handles (able : ∀ range, resendRange message = some range →
      range.2 < 2 ^ 31 - 1 ∧ session.canSend clock .critical = true) :
    session.Handles (session.handleResendRequest clock message).2
      (((resendRange message).filter (·.2 < 2 ^ 31 - 1)).map fun range =>
        .sequenceReset (range.2 + 1)) session.sessionState := by
  unfold handleResendRequest
  split
  · rename_i beginSeq endSeq beginRead endRead
    have range : resendRange message = some (beginSeq, endSeq) := by
      rw [resendRange, beginRead, endRead]
    obtain ⟨small, ready⟩ := able _ range
    have low : -2 ^ 31 ≤ endSeq := by
      obtain ⟨text, -, read⟩ := Option.bind_eq_some_iff.mp endRead
      exact (stoi_bounds read).1
    have next : wrapInt (endSeq + 1) = endSeq + 1 :=
      wrapInt_of_bounds (by omega) (by simp only at small; omega)
    rw [range, next, Option.filter_some_pos (by simpa using small)]
    exact .push rfl (sendSequenceReset_push ready (endSeq + 1))
  · rename_i unread
    have missing : resendRange message = none := by
      unfold resendRange
      split
      · rename_i beginSeq endSeq beginRead endRead
        exact absurd endRead (unread beginSeq endSeq beginRead)
      · rfl
    rw [missing]
    exact .silent rfl

end Handlers

/-- The answer to an accepted message can be sent, and EndSeqNo of a ResendRequest has a
successor. -/
structure Answerable (session : FixSessionManager) (clock : SessionClock) (message : FixMessage) :
    Prop where
  able : ∀ reply ∈ replyTo session.sessionState message,
    session.canSend clock reply.priority = true
  defined : message.getField FixFields.msgType = some (ascii "2") →
    ∀ range ∈ resendRange message, range.2 < 2 ^ 31 - 1

instance (session : FixSessionManager) (clock : SessionClock) (message : FixMessage) :
    Decidable (session.Answerable clock message) :=
  decidable_of_iff
    ((∀ reply ∈ replyTo session.sessionState message, session.canSend clock reply.priority = true) ∧
      (message.getField FixFields.msgType = some (ascii "2") →
        ∀ range ∈ resendRange message, range.2 < 2 ^ 31 - 1))
    ⟨fun ⟨able, defined⟩ => ⟨able, defined⟩, fun ⟨able, defined⟩ => ⟨able, defined⟩⟩

/-- The handler of an accepted message pushes the answer that is due, and only a Logon or
a Logout changes the state. -/
theorem dispatch_handles {msgType : Bytes}
    (typed : message.getField FixFields.msgType = some msgType)
    (answerable : session.Answerable clock message) :
    session.Handles (session.dispatch clock msgType message).2
      (replyTo session.sessionState message)
      ((stateBy message).getD session.sessionState) := by
  obtain ⟨able, defined⟩ := answerable
  unfold replyTo at able ⊢
  unfold stateBy dispatch
  simp only [typed, Option.some.injEq] at able defined ⊢
  -- The handlers are tried in the order of `dispatch`.
  by_cases logon : msgType = ascii "A"
  · subst logon
    exact session.handleLogon_handles message
  by_cases logout : msgType = ascii "5"
  · subst logout
    simp only [if_neg (show ¬ ascii "5" = ascii "1" by decide),
      if_neg (show ¬ ascii "5" = ascii "2" by decide), if_neg logon, if_true] at able ⊢
    refine handleLogout_handles fun active => ?_
    exact able .logout (if_pos active)
  by_cases testRequest : msgType = ascii "1"
  · subst testRequest
    refine handleTestRequest_handles fun testReqId found => ?_
    exact able (.heartbeat testReqId) (by simp [found])
  by_cases resendRequest : msgType = ascii "2"
  · subst resendRequest
    refine handleResendRequest_handles fun range read => ?_
    have small := defined rfl range read
    refine ⟨small, able (.sequenceReset (range.2 + 1)) ?_⟩
    rw [if_neg testRequest, if_pos rfl, read, Option.filter_some_pos (by simpa using small)]
    rfl
  rw [if_neg testRequest, if_neg resendRequest, if_neg logout, if_neg logon, if_neg logout,
    if_neg logon, if_neg logout, if_neg testRequest, if_neg resendRequest]
  split_ifs
  · exact session.handleHeartbeat_handles clock message
  · apply Handles.silent
    unfold handleSequenceReset
    split <;> rfl
  · exact .silent rfl
  · exact .silent rfl

/-- The message of a call, if it is accepted. -/
def accepted (session : FixSessionManager) (clock : SessionClock) (message : Option FixMessage) :
    Option FixMessage :=
  message.filter (session.accepts clock)

/-- Two managers that agree on what an answer depends on. -/
structure Agrees (session other : FixSessionManager) : Prop where
  view : other.replyView = session.replyView
  able : ∀ clock priority, other.canSend clock priority = session.canSend clock priority

theorem Agrees.handles {reply : Option Reply} (agrees : session.Agrees other)
    (handles : other.Handles after reply state) : session.Handles after reply state :=
  ⟨agrees.view ▸ handles.replied, handles.state⟩

theorem Agrees.answerable (agrees : session.Agrees other)
    (answerable : session.Answerable clock message) : other.Answerable clock message := by
  have state : other.sessionState = session.sessionState := congrArg ReplyView.state agrees.view
  refine ⟨fun reply due => ?_, answerable.defined⟩
  rw [agrees.able]
  exact answerable.able reply (state ▸ due)

/-- The checks of a call change nothing that an answer depends on. -/
theorem receive_agrees (session : FixSessionManager) (clock : SessionClock)
    (message : Option FixMessage) : session.Agrees (session.receive clock message).2 := by
  obtain ⟨time, expected, gapManager, received⟩ := session.receive_frame clock message
  rw [received]
  exact ⟨rfl, fun _ _ => rfl⟩

theorem receive_fst (session : FixSessionManager) (clock : SessionClock) (message : FixMessage) :
    (session.receive clock (some message)).1 =
      if session.accepts clock message then
        (message.getField FixFields.msgType).map (·, message)
      else none := by
  have valid : validateSessionMessage { session with lastMessageReceived := clock.now } message =
      session.validateSessionMessage message := rfl
  unfold accepts reachesCheck hasField
  simp only [receive, validateSequenceNumber_stamped, valid]
  cases message.getField FixFields.msgType with
  | none => rfl
  | some msgType =>
    cases session.validateSessionMessage message with
    | false => rfl
    | true =>
      cases session.config.validateSequenceNumbers with
      | false => rfl
      | true => rfl

/-- A call pushes the answer to an accepted message and nothing else, and only an accepted
Logon or Logout changes the state. -/
theorem handleMessage_handles (session : FixSessionManager) (clock : SessionClock)
    (message : Option FixMessage)
    (answerable : ∀ accepted ∈ session.accepted clock message, session.Answerable clock accepted) :
    session.Handles (session.handleMessage clock message).2
      ((session.accepted clock message).bind (replyTo session.sessionState))
      (((session.accepted clock message).bind stateBy).getD session.sessionState) := by
  have agrees := session.receive_agrees clock message
  rw [handleMessage_eq_receive]
  cases message with
  | none => exact .silent rfl
  | some message =>
    have received := session.receive_fst clock message
    generalize session.receive clock (some message) = checked at agrees received ⊢
    obtain ⟨passed, checked⟩ := checked
    have state : checked.sessionState = session.sessionState := congrArg ReplyView.state agrees.view
    cases accepts : session.accepts clock message with
    | true =>
      have accepted : session.accepted clock (some message) = some message :=
        Option.filter_some_pos accepts
      obtain ⟨present, -⟩ := Bool.and_eq_true_iff.mp (Bool.and_eq_true_iff.mp accepts).1
      obtain ⟨msgType, typed⟩ := Option.isSome_iff_exists.mp present
      rw [accepts, typed] at received
      cases received
      rw [accepted, Option.bind_some, Option.bind_some, ← state]
      exact agrees.handles
        (dispatch_handles typed (agrees.answerable (answerable message accepted)))
    | false =>
      have refused : session.accepted clock (some message) = none :=
        Option.filter_some_neg (by simp [accepts])
      rw [accepts] at received
      cases received
      rw [refused]
      exact .silent agrees.view

end Call

/-! ## Runs -/

/-- A call of `handleMessage`, with the pool and the queues as it finds them. -/
structure Call where
  clock : SessionClock
  message : Option FixMessage
  pool : Option (MessagePool FixMessage)
  queues : Option PriorityQueueContainer

/-- The manager at the start of a call. -/
def supplied (session : FixSessionManager) (call : Call) : FixSessionManager :=
  { session with messagePool := call.pool, outboundQueues := call.queues }

def take (session : FixSessionManager) (call : Call) : FixSessionManager :=
  ((session.supplied call).handleMessage call.clock call.message).2

/-- The message of a call, if it is accepted. -/
def acceptedIn (session : FixSessionManager) (call : Call) : Option FixMessage :=
  (session.supplied call).accepted call.clock call.message

/-- The answers that are due in a run, in their order. -/
def repliesDue : FixSessionManager → List Call → List Reply
  | _, [] => []
  | session, call :: calls =>
    ((session.acceptedIn call).bind (replyTo session.sessionState)).toList ++
      repliesDue (session.take call) calls

/-- The states that the accepted Logons and Logouts of a run stand for, in their order. -/
def statesDue : FixSessionManager → List Call → List SessionState
  | _, [] => []
  | session, call :: calls =>
    ((session.acceptedIn call).bind stateBy).toList ++ statesDue (session.take call) calls

/-- The allocation and the push that the answer to a call needs succeed. -/
def Succeeds (session : FixSessionManager) (call : Call) : Prop :=
  ∀ message ∈ session.acceptedIn call, (session.supplied call).Answerable call.clock message

instance (session : FixSessionManager) (call : Call) : Decidable (session.Succeeds call) :=
  inferInstanceAs (Decidable (∀ message ∈ session.acceptedIn call, _))

theorem take_handles {call : Call} (succeeds : session.Succeeds call) :
    session.Handles (session.take call)
      ((session.acceptedIn call).bind (replyTo session.sessionState))
      (((session.acceptedIn call).bind stateBy).getD session.sessionState) := by
  obtain ⟨replied, state⟩ :=
    (session.supplied call).handleMessage_handles call.clock call.message succeeds
  exact ⟨replied, state⟩

theorem getLast_states (first : Option SessionState) (states : List SessionState)
    (initial : SessionState) :
    (first.toList ++ states).getLast?.getD initial = states.getLast?.getD (first.getD initial) := by
  cases first with
  | none => rfl
  | some state => simp [List.getLast?_cons]

theorem execute_replied {calls : List Call}
    (succeed : Transition.Permits take Succeeds session calls) :
    session.replyView.Replied (Transition.execute take session calls).replyView
        (session.repliesDue calls) ∧
      (Transition.execute take session calls).sessionState =
        (session.statesDue calls).getLast?.getD session.sessionState := by
  induction calls generalizing session with
  | nil => exact ⟨.refl _, rfl⟩
  | cons call calls ih =>
    obtain ⟨replied, state⟩ := take_handles succeed.1
    obtain ⟨repliedAfter, stateAfter⟩ := ih succeed.2
    refine ⟨replied.trans repliedAfter, ?_⟩
    rw [statesDue, getLast_states, ← state]
    exact stateAfter

/-- A run of calls whose allocations and pushes succeed pushes exactly the answers that were
due, each under the next number, and ends in the state of the last accepted Logon or
Logout. The counter is an `int`: the numbers are consecutive up to its overflow. -/
theorem run_replies (session : FixSessionManager) (calls : List Call)
    (succeed : Transition.Permits take Succeeds session calls) :
    let after := Transition.execute take session calls
    let replies := session.repliesDue calls
    (∃ pushed : List (Priority × FixMessage), after.sent = pushed.reverse ++ session.sent ∧
      pushed.length = replies.length ∧
      ∀ (index : Nat) (reply : Reply), replies[index]? = some reply →
        ∃ message, pushed[index]? = some (reply.priority, message) ∧
          reply.Conveys session.config.senderCompId session.config.targetCompId
            (wrapInt (session.outgoingSeqNum + (index + 1 : Nat))) message) ∧
    (-2 ^ 31 ≤ session.outgoingSeqNum → session.outgoingSeqNum + replies.length < 2 ^ 31 →
      ∀ index < replies.length, wrapInt (session.outgoingSeqNum + (index + 1 : Nat)) =
        session.outgoingSeqNum + (index + 1 : Nat)) ∧
    after.sessionState = (session.statesDue calls).getLast?.getD session.sessionState := by
  obtain ⟨replied, state⟩ := execute_replied succeed
  obtain ⟨pushed, sent, delivers⟩ := replied.sent
  refine ⟨⟨pushed, sent, delivers.length_eq, fun index reply due => delivers.getElem? due⟩,
    fun low high index below => ?_, state⟩
  apply wrapInt_of_bounds <;> omega

/-- A call with a message from the broker, and with room for an answer. -/
def sampleCall (number : Nat) (msgType : Bytes) (body : List (Int × Bytes)) : Call where
  clock := sampleTime
  message := some (FixMessage.empty.setFields
    ([(FixFields.msgType, msgType), (FixFields.senderCompID, ascii "BROKER"),
      (FixFields.targetCompID, ascii "CLIENT"), (FixFields.msgSeqNum, decimal number)] ++ body))
  pool := sampleSession.messagePool
  queues := sampleSession.outboundQueues

/-- A Logon, a TestRequest, a ResendRequest and a Logout. -/
def sampleCalls : List Call :=
  [sampleCall 1 (ascii "A") [], sampleCall 2 (ascii "1") [(FixFields.testReqID, ascii "T")],
    sampleCall 3 (ascii "2") [(FixFields.beginSeqNo, ascii "5"), (FixFields.endSeqNo, ascii "7")],
    sampleCall 4 (ascii "5") []]

theorem run_replies_logout :
    sampleSession.repliesDue sampleCalls = [.heartbeat (ascii "T"), .sequenceReset 8, .logout] ∧
      (Transition.execute take sampleSession sampleCalls).sent.length = 3 ∧
      (Transition.execute take sampleSession sampleCalls).sessionState = .disconnected := by
  have replies : sampleSession.repliesDue sampleCalls =
      [.heartbeat (ascii "T"), .sequenceReset 8, .logout] := by decide +kernel
  have states : sampleSession.statesDue sampleCalls = [.loggedOn, .disconnected] := by
    decide +kernel
  obtain ⟨⟨pushed, sent, length, -⟩, -, state⟩ :=
    run_replies sampleSession sampleCalls (by decide +kernel)
  refine ⟨replies, ?_, ?_⟩
  · rw [sent, List.length_append, List.length_reverse, length, replies]
    rfl
  · rw [state, states]
    rfl

/-- The number after the largest `int` is the smallest one. -/
theorem replies_not_consecutive :
    let session := { sampleSession with outgoingSeqNum := 2 ^ 31 - 2 }
    let calls := [sampleCall 1 (ascii "1") [(FixFields.testReqID, ascii "T")],
      sampleCall 2 (ascii "1") [(FixFields.testReqID, ascii "U")]]
    Transition.Permits take Succeeds session calls ∧
      session.repliesDue calls = [.heartbeat (ascii "T"), .heartbeat (ascii "U")] ∧
      (Transition.execute take session calls).outboundView.numberTexts.map (·.bind stoi) =
        [some (-2 ^ 31), some (2 ^ 31 - 1)] := by
  decide +kernel

end FixSessionManager

end FixGateway.Manager
