import FixGateway.Application.PriorityQueueContainer
import FixGateway.Common.MessagePool
import FixGateway.Protocol.FixMessage
import FixGateway.Utils.FastStringConversion

/-! # The gap manager

`SequenceNumGapManager` queues an entry for every missing inbound sequence
number. Looking through the queue means popping every entry and pushing it back.
`requested` is a history variable: the numbers that `addGapEntry` was called
with, newest first. No function reads it.

A pass of `processGaps` takes every entry out of the queue, asks for the timed out
ones to be resent, and pushes back those that it still waits for. The requests go
to the outbound queues under a numbering of the gap manager's own.
-/

namespace FixGateway.Manager

open Application ByteScan Common Protocol Utils

/-- An entry of the gap queue. Its times are readings of the steady clock in nanoseconds. -/
structure GapQueueEntry where
  seqNum : Int
  timestamp : Nat
  timeoutDeadline : Nat
  retryCount : Int := 0
  isResolved : Bool := false
  deriving DecidableEq, Repr

structure SequenceNumGapManager where
  gapQueue : LockFreeQueue GapQueueEntry
  requested : List Int

namespace SequenceNumGapManager

/-- `kGapQueueSize`. -/
def gapQueueSize : Nat := 1024

/-- `kGapTimeoutMs`. -/
def gapTimeoutMs : Nat := 10000

def new : SequenceNumGapManager where
  gapQueue := LockFreeQueue.new GapQueueEntry gapQueueSize
  requested := []

/-- `kMaxRetryCount`. -/
def maxRetryCount : Int := 5

/-- `hasGap`: whether an unresolved entry for the number is queued. -/
def hasGap (manager : SequenceNumGapManager) (seqNum : Int) : Bool × SequenceNumGapManager :=
  let (entries, gapQueue) := manager.gapQueue.popAll
  (entries.any fun entry => entry.seqNum = seqNum && !entry.isResolved,
    { manager with gapQueue := gapQueue.pushAll entries })

/-- `addGapEntry` at time `now`. -/
def addGapEntry (manager : SequenceNumGapManager) (now : Nat) (seqNum : Int) :
    SequenceNumGapManager :=
  let (tracked, manager) := { manager with requested := seqNum :: manager.requested }.hasGap seqNum
  if tracked then manager
  else
    let entry : GapQueueEntry :=
      { seqNum := seqNum, timestamp := now, timeoutDeadline := now + gapTimeoutMs * 1000000 }
    { manager with gapQueue := (manager.gapQueue.push entry).2 }

/-- A loop that adds an entry for each number of a list. -/
def addGapEntries (manager : SequenceNumGapManager) (now : Nat) (seqNums : List Int) :
    SequenceNumGapManager :=
  seqNums.foldl (fun manager seqNum => manager.addGapEntry now seqNum) manager

/-- `resolveGapEntry` pops up to the first unresolved entry for the number, drops that
one and pushes back those before it. -/
def resolveGapEntry (manager : SequenceNumGapManager) (seqNum : Int) :
    Bool × SequenceNumGapManager :=
  let (before, found, gapQueue) := manager.gapQueue.popUntil fun entry =>
    entry.seqNum = seqNum && !entry.isResolved
  (found.isSome, { manager with gapQueue := gapQueue.pushAll before })

/-- `escalateGapEntry` pops up to the first entry for the number and pushes that one back with
one retry more. The entries before it are not pushed back. -/
def escalateGapEntry (manager : SequenceNumGapManager) (seqNum : Int) : SequenceNumGapManager :=
  match manager.gapQueue.popUntil fun entry => entry.seqNum = seqNum with
  | (_, none, gapQueue) => { manager with gapQueue := gapQueue }
  | (_, some entry, gapQueue) =>
    let escalated := { entry with retryCount := wrapInt (entry.retryCount + 1) }
    { manager with gapQueue := (gapQueue.push escalated).2 }

/-- `getGapCount`. -/
def getGapCount (manager : SequenceNumGapManager) : Nat := manager.gapQueue.size

/-- `clearAllGaps`. -/
def clearAllGaps (manager : SequenceNumGapManager) : SequenceNumGapManager :=
  { manager with gapQueue := manager.gapQueue.popAll.2 }

/-- The two readings of the steady clock for one entry of a pass: by `isTimeout`, and for
the new deadline. -/
structure GapReading where
  check : Nat
  renew : Nat

/-- `isTimeout`. -/
def isTimeout (reading : GapReading) (entry : GapQueueEntry) : Bool :=
  entry.timeoutDeadline < reading.check

/-- What a pass does with an entry: whether it requests the message, and the entry to
push back, if it still waits for it. -/
def processEntry (reading : GapReading) (entry : GapQueueEntry) : Bool × Option GapQueueEntry :=
  if entry.isResolved then (false, none)
  else if isTimeout reading entry then
    if entry.retryCount < maxRetryCount then
      (true, some
        { entry with
          retryCount := entry.retryCount + 1
          timeoutDeadline := reading.renew + gapTimeoutMs * 1000000 })
    else (false, none)
  else (false, some entry)

/-- The loop of a pass over the entries it pops: the numbers it requests and the
entries to push back. -/
def processEntries (readings : Nat → GapReading) :
    List GapQueueEntry → List Int × List GapQueueEntry
  | [] => ([], [])
  | entry :: entries =>
    let (request, kept) := processEntry (readings 0) entry
    let (requests, requeued) := processEntries (fun index => readings (index + 1)) entries
    ((if request then [entry.seqNum] else []) ++ requests, kept.toList ++ requeued)

/-- `processGaps`, with the numbers that it calls `sendResendRequest` for. -/
def processGaps (manager : SequenceNumGapManager) (readings : Nat → GapReading) :
    List Int × SequenceNumGapManager :=
  let (entries, gapQueue) := manager.gapQueue.popAll
  let (requests, requeued) := processEntries readings entries
  (requests, { manager with gapQueue := gapQueue.pushAll requeued })

theorem addGapEntry_requested (manager : SequenceNumGapManager) (now : Nat) (seqNum : Int) :
    (manager.addGapEntry now seqNum).requested = seqNum :: manager.requested := by
  unfold addGapEntry hasGap
  dsimp only
  split <;> rfl

/-- Whether it adds an entry or skips a duplicate, the loop makes its calls. -/
theorem addGapEntries_requested (manager : SequenceNumGapManager) (now : Nat) (seqNums : List Int) :
    (manager.addGapEntries now seqNums).requested = seqNums.reverse ++ manager.requested := by
  induction seqNums generalizing manager with
  | nil => rfl
  | cons first rest ih =>
    change ((manager.addGapEntry now first).addGapEntries now rest).requested = _
    rw [ih, addGapEntry_requested, List.reverse_cons, List.append_assoc, List.singleton_append]

end SequenceNumGapManager

/-! ## Resend requests -/

structure SessionContext where
  senderCompId : Bytes
  targetCompId : Bytes
  outgoingSeqNum : Int := 1

/-- `getNextSeqNum`, which reads before it increments. -/
def SessionContext.getNextSeqNum (context : SessionContext) : Int × SessionContext :=
  (context.outgoingSeqNum, { context with outgoingSeqNum := wrapInt (context.outgoingSeqNum + 1) })

/-- What the gap manager sends with. `sent` is a history variable: the messages that it
pushed, newest first. -/
structure ResendSide where
  context : SessionContext
  messagePool : MessagePool FixMessage
  outboundQueues : PriorityQueueContainer
  sent : List FixMessage

namespace ResendSide

/-- The message that `sendResendRequest` builds under the given number. -/
def resendRequest (side : ResendSide) (utc : UtcTime) (seqNum number : Int) : FixMessage :=
  (((FixMessage.new utc).setFields
    [(FixFields.msgType, ascii "2"),
      (FixFields.beginSeqNo, FastStringConversion.intToString seqNum),
      (FixFields.endSeqNo, FastStringConversion.intToString seqNum),
      (FixFields.senderCompID, side.context.senderCompId),
      (FixFields.targetCompID, side.context.targetCompId),
      (FixFields.msgSeqNum, FastStringConversion.intToString number)]).setSendingTime
        utc).invalidateCache

/-- `sendResendRequest` at the given time. -/
def sendResendRequest (side : ResendSide) (utc : UtcTime) (seqNum : Int) : ResendSide :=
  match side.messagePool.allocate (FixMessage.new utc) with
  | (none, pool) => { side with messagePool := pool }
  | (some slot, pool) =>
    let (number, context) := side.context.getNextSeqNum
    let message := side.resendRequest utc seqNum number
    match side.outboundQueues.push .critical slot with
    | (true, queues) =>
      { context := context
        messagePool := pool.store slot message
        outboundQueues := queues
        sent := message :: side.sent }
    | (false, queues) =>
      { side with
        context := context
        messagePool := pool.deallocate slot
        outboundQueues := queues }

end ResendSide

end FixGateway.Manager
