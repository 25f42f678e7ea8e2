import FixGateway.Manager.OutboundNumbering

/-! # Two counters for one session

The session manager and the gap manager attached to it push into the same outbound
queues, and each numbers its messages by a counter of its own. The session manager
gives 2, 3 and so on, the gap manager 1, 2 and so on. The numbers stay apart as long
as no counter gives a number that the other one has passed.
-/

namespace FixGateway.Manager

open Application ByteScan Common Protocol Utils FastStringConversion

/-! ## What a resend request does -/

namespace ResendSide

variable (side : ResendSide) (utc : UtcTime) (seqNum : Int)

theorem getField_resendRequest (number : Int) :
    (side.resendRequest utc seqNum number).getField FixFields.msgSeqNum =
      some (intToString number) := by
  change (((FixMessage.new utc).setFields _).setField FixFields.sendingTime
    utc.format).getField FixFields.msgSeqNum = _
  rw [FixMessage.getField_setField_of_ne (by decide), FixMessage.getField_setFields]
  rfl

/-- The MsgSeqNum fields of the requests sent, newest first. -/
def numberTexts : List (Option Bytes) :=
  side.sent.map fun message => message.getField FixFields.msgSeqNum

/-- The requests sent carry these numbers, which the counter gave from 1 on. -/
def Numbered (numbers : List Int) : Prop :=
  Numbering 1 side.context.outgoingSeqNum side.numberTexts numbers

variable {side}

/-- With room for one more number, a request keeps the numbers or adds the one it takes. -/
theorem Numbered.sendResendRequest {numbers : List Int} (numbered : side.Numbered numbers)
    (room : side.context.outgoingSeqNum < 2 ^ 31 - 1) :
    (side.sendResendRequest utc seqNum).Numbered numbers ∨
      (side.sendResendRequest utc seqNum).Numbered
        (side.context.outgoingSeqNum :: numbers) := by
  have positive := numbered.ordered
  have next : wrapInt (side.context.outgoingSeqNum + 1) = side.context.outgoingSeqNum + 1 :=
    wrapInt_of_bounds (by omega) (by omega)
  have text : intToString side.context.outgoingSeqNum = signedDecimal side.context.outgoingSeqNum :=
    intToString_eq (by omega) (by omega)
  unfold ResendSide.sendResendRequest
  split
  · exact .inl numbered
  · dsimp only [SessionContext.getNextSeqNum]
    split
    · right
      unfold Numbered numberTexts
      rw [List.map_cons, getField_resendRequest, text]
      change Numbering 1 (wrapInt (side.context.outgoingSeqNum + 1)) _ _
      rw [next]
      exact numbered.given
    · left
      unfold Numbered
      change Numbering 1 (wrapInt (side.context.outgoingSeqNum + 1)) _ _
      rw [next]
      exact numbered.lost

end ResendSide

/-! ## Session manager and gap manager together -/

/-- A session manager, the session context and the pool of the gap manager attached to
it, and the resend requests sent, newest first. Both push into the queues of the
session manager. -/
structure SharedSession where
  session : FixSessionManager
  context : SessionContext
  gapPool : MessagePool FixMessage
  resent : List FixMessage

namespace SharedSession

variable {shared : SharedSession}

/-- An operation of the session manager. -/
def perform (shared : SharedSession) (clock : SessionClock)
    (operation : FixSessionManager.Operation) : SharedSession :=
  { shared with session := shared.session.perform clock operation }

/-- `sendResendRequest` of the gap manager. -/
def request (shared : SharedSession) (utc : UtcTime) (seqNum : Int) : SharedSession :=
  match shared.session.outboundQueues with
  | none => shared
  | some queues =>
    let side := ResendSide.sendResendRequest
      ⟨shared.context, shared.gapPool, queues, shared.resent⟩ utc seqNum
    { session := { shared.session with outboundQueues := some side.outboundQueues }
      context := side.context
      gapPool := side.messagePool
      resent := side.sent }

/-- The requests of a pass, one after the other. -/
def requests (shared : SharedSession) (utc : UtcTime) (seqNums : List Int) : SharedSession :=
  seqNums.foldl (fun shared seqNum => shared.request utc seqNum) shared

/-- A pass of `processGaps` with nothing in between. -/
def pass (shared : SharedSession) (utc : UtcTime)
    (readings : Nat → SequenceNumGapManager.GapReading) : SharedSession :=
  match shared.session.sequenceNumGapManager with
  | none => shared
  | some manager =>
    let (seqNums, manager) := manager.processGaps readings
    { shared with
      session := { shared.session with sequenceNumGapManager := some manager } }.requests
        utc seqNums

/-- The MsgSeqNum fields of all messages pushed into the outbound queues. -/
def numberTexts (shared : SharedSession) : List (Option Bytes) :=
  shared.session.outboundView.numberTexts ++
    shared.resent.map fun message => message.getField FixFields.msgSeqNum

/-- What the numbering depends on. -/
def numbering (shared : SharedSession) : OutboundView × Int × List FixMessage :=
  (shared.session.outboundView, shared.context.outgoingSeqNum, shared.resent)

/-- Runs of a new session manager with a new gap manager: operations of the one and
requests of the other in any order. Between two of them everything but the numbering
may change. The two conditions restrict the states in which an operation and in which
a request starts. -/
inductive Run (operates requests : SharedSession → Prop) : SharedSession → Prop where
  | start {shared : SharedSession} (fresh : shared.numbering = (⟨1, []⟩, 1, [])) :
      Run operates requests shared
  | perform {shared : SharedSession} (run : Run operates requests shared) (clock : SessionClock)
      (operation : FixSessionManager.Operation) (allowed : operates shared) :
      Run operates requests (shared.perform clock operation)
  | request {shared : SharedSession} (run : Run operates requests shared) (utc : UtcTime)
      (seqNum : Int) (allowed : requests shared) :
      Run operates requests (shared.request utc seqNum)
  | interleave {shared other : SharedSession} (run : Run operates requests shared)
      (same : other.numbering = shared.numbering) : Run operates requests other

theorem Run.pass (run : Run (fun _ => True) (fun _ => True) shared)
    (utc : UtcTime) (readings : Nat → SequenceNumGapManager.GapReading) :
    Run (fun _ => True) (fun _ => True) (shared.pass utc readings) := by
  have each : ∀ (seqNums : List Int) {shared : SharedSession},
      Run (fun _ => True) (fun _ => True) shared →
        Run (fun _ => True) (fun _ => True) (shared.requests utc seqNums) := by
    intro seqNums
    induction seqNums with
    | nil => exact id
    | cons seqNum rest ih => exact fun run => ih (run.request utc seqNum trivial)
  unfold SharedSession.pass
  split
  · exact run
  · exact each _ (run.interleave rfl)

/-- The gap manager has not passed the number that the session manager gives next. -/
def SessionAhead (shared : SharedSession) : Prop :=
  shared.context.outgoingSeqNum ≤ shared.session.outgoingSeqNum + 1 ∧
    shared.session.outgoingSeqNum < 2 ^ 31 - 1

/-- The session manager has not passed the number that the gap manager gives next. -/
def GapAhead (shared : SharedSession) : Prop :=
  (shared.context.outgoingSeqNum = 1 ∨
      shared.session.outgoingSeqNum < shared.context.outgoingSeqNum) ∧
    shared.context.outgoingSeqNum < 2 ^ 31 - 1

instance (shared : SharedSession) : Decidable shared.SessionAhead :=
  inferInstanceAs (Decidable (_ ∧ _))

instance (shared : SharedSession) : Decidable shared.GapAhead :=
  inferInstanceAs (Decidable (_ ∧ _))

/-- Both counters number their messages, and no number is given by both. -/
structure Apart (shared : SharedSession) (sessionNumbers gapNumbers : List Int) : Prop where
  session : shared.session.outboundView.Numbered sessionNumbers
  gaps : Numbering 1 shared.context.outgoingSeqNum
    (shared.resent.map fun message => message.getField FixFields.msgSeqNum) gapNumbers
  disjoint : sessionNumbers.Disjoint gapNumbers

namespace Apart

variable {shared : SharedSession} {sessionNumbers gapNumbers : List Int}

theorem perform (apart : shared.Apart sessionNumbers gapNumbers) (ahead : shared.SessionAhead)
    (clock : SessionClock) (operation : FixSessionManager.Operation) :
    ∃ sessionNumbers, (shared.perform clock operation).Apart sessionNumbers gapNumbers := by
  rcases apart.session.step ahead.2 (shared.session.perform_outbound clock operation)
    with kept | grown
  · exact ⟨sessionNumbers, kept, apart.gaps, apart.disjoint⟩
  · refine ⟨_, grown, apart.gaps, List.disjoint_cons_left.mpr ⟨fun member => ?_, apart.disjoint⟩⟩
    have below := (apart.gaps.bounds _ member).2
    have passed := ahead.1
    exact absurd (lt_of_lt_of_le below passed) (lt_irrefl _)

theorem request (apart : shared.Apart sessionNumbers gapNumbers) (ahead : shared.GapAhead)
    (utc : UtcTime) (seqNum : Int) :
    ∃ gapNumbers, (shared.request utc seqNum).Apart sessionNumbers gapNumbers := by
  unfold SharedSession.request
  split
  · exact ⟨gapNumbers, apart⟩
  · rename_i queues connected
    have numbered : ResendSide.Numbered
      ⟨shared.context, shared.gapPool, queues, shared.resent⟩ gapNumbers := apart.gaps
    rcases numbered.sendResendRequest utc seqNum ahead.2 with kept | grown
    · exact ⟨gapNumbers, apart.session, kept, apart.disjoint⟩
    · refine ⟨_, apart.session, grown,
        List.disjoint_cons_right.mpr ⟨fun member => ?_, apart.disjoint⟩⟩
      obtain ⟨low, high⟩ := apart.session.bounds _ member
      have passed := ahead.1
      change shared.context.outgoingSeqNum < shared.session.outgoingSeqNum + 1 at high
      change 2 ≤ shared.context.outgoingSeqNum at low
      omega

theorem nodup (apart : shared.Apart sessionNumbers gapNumbers) : shared.numberTexts.Nodup := by
  have distinct : (sessionNumbers ++ gapNumbers).Nodup := by
    refine List.nodup_append'.mpr ⟨?_, ?_, apart.disjoint⟩
    · exact apart.session.descending.imp fun above => ne_of_gt above
    · exact apart.gaps.descending.imp fun above => ne_of_gt above
  have positive : ∀ number ∈ sessionNumbers ++ gapNumbers, 0 ≤ number := by
    intro number member
    rcases List.mem_append.mp member with member | member
    · have low := (apart.session.bounds number member).1
      omega
    · have low := (apart.gaps.bounds number member).1
      omega
  unfold numberTexts
  rw [apart.session.carried, apart.gaps.carried, ← List.map_append]
  refine distinct.map_on fun first firstMember second secondMember same => ?_
  obtain ⟨first, rfl⟩ := Int.eq_ofNat_of_zero_le (positive first firstMember)
  obtain ⟨second, rfl⟩ := Int.eq_ofNat_of_zero_le (positive second secondMember)
  have texts : decimal first = decimal second := Option.some.inj same
  rw [decimal_injective texts]

end Apart

theorem Run.apart (run : Run SessionAhead GapAhead shared) :
    ∃ sessionNumbers gapNumbers, shared.Apart sessionNumbers gapNumbers := by
  induction run with
  | @start shared fresh =>
    obtain ⟨session, counter, resent⟩ : shared.session.outboundView = ⟨1, []⟩ ∧
        shared.context.outgoingSeqNum = 1 ∧ shared.resent = [] := by
      simpa [numbering] using fresh
    refine ⟨[], [], ?_, ?_, List.disjoint_nil_left []⟩
    · rw [session]
      exact OutboundView.numbered_fresh
    · rw [counter, resent]
      exact .nil 1
  | perform _ clock operation allowed ih =>
    obtain ⟨_, gapNumbers, apart⟩ := ih
    obtain ⟨sessionNumbers, apart⟩ := apart.perform allowed clock operation
    exact ⟨sessionNumbers, gapNumbers, apart⟩
  | request _ utc seqNum allowed ih =>
    obtain ⟨sessionNumbers, _, apart⟩ := ih
    obtain ⟨gapNumbers, apart⟩ := apart.request allowed utc seqNum
    exact ⟨sessionNumbers, gapNumbers, apart⟩
  | @interleave shared other _ same ih =>
    obtain ⟨sessionNumbers, gapNumbers, apart⟩ := ih
    obtain ⟨session, counter, resent⟩ : other.session.outboundView = shared.session.outboundView ∧
        other.context.outgoingSeqNum = shared.context.outgoingSeqNum ∧
          other.resent = shared.resent := by
      simpa [numbering] using same
    refine ⟨sessionNumbers, gapNumbers, ?_, ?_, apart.disjoint⟩
    · rw [session]
      exact apart.session
    · rw [counter, resent]
      exact apart.gaps

/-- As long as each counter gives only numbers that the other one has not passed, no two
messages carry the same number. -/
theorem numbers_unique {shared : SharedSession} (run : Run SessionAhead GapAhead shared) :
    shared.numberTexts.Nodup := by
  obtain ⟨_, _, apart⟩ := run.apart
  exact apart.nodup

/-- A gap manager that waits for the numbers 5 and 6. -/
def sampleGaps : SequenceNumGapManager :=
  (SequenceNumGapManager.new.addGapEntry 0 5).addGapEntry 0 6

/-- A new session with the gap manager attached. -/
def sampleShared : SharedSession where
  session := { FixSessionManager.sampleSession with sequenceNumGapManager := some sampleGaps }
  context := { senderCompId := ascii "CLIENT", targetCompId := ascii "BROKER" }
  gapPool := MessagePool.new FixMessage 2 Nat.two_pos
  resent := []

/-- A request for number 5 and then a logon: they carry the numbers 1 and 2. -/
theorem numbers_unique_logon :
    (((sampleShared.request FixSessionManager.sampleTime.utc 5).perform
        FixSessionManager.sampleTime .initiateLogon).numberTexts =
      [some (ascii "2"), some (ascii "1")]) ∧
    ((sampleShared.request FixSessionManager.sampleTime.utc 5).perform
        FixSessionManager.sampleTime .initiateLogon).numberTexts.Nodup := by
  have run : Run SessionAhead GapAhead ((sampleShared.request
      FixSessionManager.sampleTime.utc 5).perform FixSessionManager.sampleTime .initiateLogon) :=
    ((Run.start rfl).request _ 5 (by decide)).perform _ .initiateLogon (by decide +kernel)
  exact ⟨by decide +kernel, numbers_unique run⟩

/-- A logon and then a pass that requests two numbers: the logon and the second
request both carry the number 2. -/
theorem counters_share_number :
    ∃ shared : SharedSession, Run (fun _ => True) (fun _ => True) shared ∧
      shared.numberTexts = [some (ascii "2"), some (ascii "2"), some (ascii "1")] ∧
        ¬ shared.numberTexts.Nodup := by
  refine ⟨(sampleShared.perform FixSessionManager.sampleTime .initiateLogon).pass
    FixSessionManager.sampleTime.utc fun _ => ⟨20000000000, 20000000000⟩, ?_, by decide +kernel⟩
  exact ((Run.start rfl).perform _ .initiateLogon trivial).pass _ _

end SharedSession

end FixGateway.Manager
