import FixGateway.Manager.Replies

/-! # The answer to a ResendRequest

`handleResendRequest` stores nothing to resend, so it answers with a SequenceReset that skips
the whole range: NewSeqNo is the successor of EndSeqNo, computed as an `int`. BeginSeqNo and
the numbers that the session has used do not enter into it. An EndSeqNo of 0, which asks for
everything from BeginSeqNo on, is no exception, and its successor is 1.
-/

namespace FixGateway.Manager

open Application ByteScan Common Protocol

namespace FixSessionManager

/-- A message with this number was pushed. -/
def Used (session : FixSessionManager) (number : Int) : Prop :=
  ∃ entry ∈ session.sent, entry.2.getField FixFields.msgSeqNum = some (signedDecimal number)

/-- NewSeqNo is a sum that does not overflow, and it moves the peer past BeginSeqNo and past the
numbers of the range that were used. -/
structure MovesForward (session : FixSessionManager) (beginSeq endSeq newSeqNo : Int) : Prop where
  defined : endSeq + 1 < 2 ^ 31
  past : beginSeq < newSeqNo
  used : ∀ number, session.Used number → beginSeq ≤ number → endSeq = 0 ∨ number ≤ endSeq →
    number < newSeqNo

variable {session : FixSessionManager} {clock : SessionClock}

theorem canSend_of_sendCreated {msgType : Bytes} {fields : List (Int × Bytes)} {priority : Priority}
    {count : FixSessionManager → FixSessionManager}
    (success : (sendCreated (session.createMessage clock msgType fields) priority count).1 = true) :
    session.canSend clock priority = true := by
  rw [canSend_iff]
  unfold createMessage at success
  split at success
  · cases success
  · rename_i pool attached
    split at success
    · cases success
    · rename_i slot taken allocated
      simp only [sendCreated, routeToOutbound, getNextOutgoingSeqNum] at success
      split at success
      · cases success
      · rename_i queues connected
        exact ⟨pool, queues, slot, attached, connected, congrArg Prod.fst allocated, success⟩

theorem handleResendRequest_answer {message : FixMessage} {beginSeq endSeq : Int}
    (range : resendRange message = some (beginSeq, endSeq))
    (success : (session.handleResendRequest clock message).1 = true) :
    ∃ reply, (session.handleResendRequest clock message).2.sent =
        (.critical, reply) :: session.sent ∧
      reply.getField FixFields.msgType = some (ascii "4") ∧
      reply.getField FixFields.gapFillFlag = some (ascii "Y") ∧
      reply.getField FixFields.newSeqNo = some (signedDecimal (wrapInt (endSeq + 1))) := by
  have answered : session.handleResendRequest clock message =
      session.sendSequenceReset clock (wrapInt (endSeq + 1)) true := by
    unfold resendRange at range
    split at range
    · rename_i beginRead endRead
      cases range
      rw [handleResendRequest, beginRead, endRead]
    · cases range
  rw [answered] at success ⊢
  have pushed := sendSequenceReset_push (canSend_of_sendCreated success) (wrapInt (endSeq + 1))
  have conveys := session.replyMessage_conveys clock (.sequenceReset (wrapInt (endSeq + 1)))
  refine ⟨_, congrArg ReplyView.sent pushed, conveys.msgType, ?_, ?_⟩
  · rw [conveys.body FixFields.gapFillFlag (by decide)]
    rfl
  · rw [conveys.body FixFields.newSeqNo (by decide)]
    rfl

/-- The answer moves the peer forward exactly if EndSeqNo is neither 0 nor the largest `int`. -/
theorem gapFill_forward_iff {message : FixMessage} {beginSeq endSeq : Int}
    (range : resendRange message = some (beginSeq, endSeq)) (positive : 1 ≤ beginSeq)
    (ordered : beginSeq ≤ endSeq ∨ endSeq = 0)
    (success : (session.handleResendRequest clock message).1 = true) :
    ∃ reply newSeqNo, (session.handleResendRequest clock message).2.sent =
        (.critical, reply) :: session.sent ∧
      reply.getField FixFields.msgType = some (ascii "4") ∧
      reply.getField FixFields.gapFillFlag = some (ascii "Y") ∧
      reply.getField FixFields.newSeqNo = some (signedDecimal newSeqNo) ∧
      (session.MovesForward beginSeq endSeq newSeqNo ↔ endSeq ≠ 0 ∧ endSeq ≠ 2 ^ 31 - 1) := by
  obtain ⟨reply, sent, type, fill, new⟩ := handleResendRequest_answer range success
  have bounds : -2 ^ 31 ≤ endSeq ∧ endSeq < 2 ^ 31 := by
    unfold resendRange at range
    split at range
    · rename_i endRead
      cases range
      obtain ⟨text, -, read⟩ := Option.bind_eq_some_iff.mp endRead
      exact stoi_bounds read
    · cases range
  refine ⟨reply, wrapInt (endSeq + 1), sent, type, fill, new, ?_⟩
  constructor
  · intro forward
    refine ⟨fun open' => ?_, fun largest => ?_⟩
    · have past := forward.past
      rw [open', wrapInt_of_bounds (by omega) (by omega)] at past
      omega
    · have defined := forward.defined
      omega
  · rintro ⟨closed, small⟩
    rw [wrapInt_of_bounds (by omega) (by omega)]
    refine ⟨by omega, by omega, fun number _ _ within => ?_⟩
    omega

/-- A ResendRequest from the broker. -/
def sampleResendRequest (beginSeq endSeq : Bytes) : FixMessage :=
  FixMessage.empty.setFields
    [(FixFields.msgType, ascii "2"), (FixFields.beginSeqNo, beginSeq), (FixFields.endSeqNo, endSeq)]

/-- A session that has sent Logon 2 and Heartbeats 3 and 4. -/
def busySession : FixSessionManager :=
  let session :=
    { sampleSession with
      messagePool := some (MessagePool.new FixMessage 8 (Nat.succ_pos 7)) }
  ((((session.sendLogon sampleTime).2.sendHeartbeat sampleTime []).2).sendHeartbeat
    sampleTime []).2

theorem gapFill_forward_closed :
    ∃ reply newSeqNo, (busySession.handleResendRequest sampleTime
        (sampleResendRequest (ascii "2") (ascii "3"))).2.sent =
          (.critical, reply) :: busySession.sent ∧
      reply.getField FixFields.newSeqNo = some (signedDecimal newSeqNo) ∧
      busySession.MovesForward 2 3 newSeqNo := by
  obtain ⟨reply, newSeqNo, sent, -, -, new, forward⟩ :=
    @gapFill_forward_iff busySession sampleTime (sampleResendRequest (ascii "2") (ascii "3")) 2 3
      (by decide +kernel) (by decide) (by decide) (by decide +kernel)
  exact ⟨reply, newSeqNo, sent, new, forward.mpr (by decide)⟩

/-- Everything from 2 on is asked for, where 2, 3 and 4 were used. The answer says that the next
message is 1. -/
theorem open_range_moves_back :
    ∃ reply, (busySession.handleResendRequest sampleTime
        (sampleResendRequest (ascii "2") (ascii "0"))).1 = true ∧
      (busySession.handleResendRequest sampleTime
        (sampleResendRequest (ascii "2") (ascii "0"))).2.sent =
          (.critical, reply) :: busySession.sent ∧
      reply.getField FixFields.newSeqNo = some (ascii "1") ∧ busySession.Used 4 ∧
      ¬ busySession.MovesForward 2 0 1 := by
  have success : (busySession.handleResendRequest sampleTime
      (sampleResendRequest (ascii "2") (ascii "0"))).1 = true := by
    decide +kernel
  have range : resendRange (sampleResendRequest (ascii "2") (ascii "0")) = some (2, 0) := by
    decide +kernel
  obtain ⟨reply, sent, -, -, new⟩ := handleResendRequest_answer range success
  have used : busySession.Used 4 := by
    unfold Used
    decide +kernel
  refine ⟨reply, success, sent, new, used, fun forward => ?_⟩
  have past := forward.past
  omega

end FixSessionManager

end FixGateway.Manager
