import FixGateway.Manager.GapCalls

/-! # The retries of a gap

A pass of `processGaps` calls `sendResendRequest` for an entry that has timed out, and counts
the retry whether or not a request could be sent: `sendResendRequest` returns nothing, and it
gives up silently when the pool has no message or the CRITICAL queue no room. After
`kMaxRetryCount` retries the next timeout drops the entry.

A log beside the gap manager records when entries are made, every call of
`sendResendRequest` with the pool and the queues that it finds, and what is dropped. The pool
and the queues belong to the whole gateway, so they may be any at each call.
-/

namespace FixGateway.Manager

open Application ByteScan Common KeyedList Protocol SequenceNumGapManager Utils

variable {event : GapEvent} {entries : List GapQueueEntry} {log : List GapEvent}

/-! ## Sending a request -/

namespace ResendSide

/-- A message can be allocated, and the CRITICAL queue accepts it. -/
structure Able (side : ResendSide) : Prop where
  pool : side.messagePool.available 1
  running : (side.outboundQueues.getQueue .critical).isShutdown = false
  room : (side.outboundQueues.getQueue .critical).entries.length <
    (side.outboundQueues.getQueue .critical).capacity - 1

instance (side : ResendSide) : Decidable side.Able :=
  decidable_of_iff
    (side.messagePool.available 1 ∧
      (side.outboundQueues.getQueue .critical).isShutdown = false ∧
      (side.outboundQueues.getQueue .critical).entries.length <
        (side.outboundQueues.getQueue .critical).capacity - 1)
    ⟨fun ⟨pool, running, room⟩ => ⟨pool, running, room⟩,
      fun ⟨pool, running, room⟩ => ⟨pool, running, room⟩⟩

variable {side : ResendSide}

theorem push_of_able (able : side.Able) (slot : Nat) :
    (side.outboundQueues.push .critical slot).1 = true := by
  have holding : (side.outboundQueues.getQueue .critical).Holding _ _ := ⟨rfl, rfl, able.running⟩
  have room := able.room
  exact (holding.push (by omega) slot).1

theorem push_of_not_able (available : side.messagePool.available 1) (unable : ¬ side.Able)
    (slot : Nat) : (side.outboundQueues.push .critical slot).1 = false := by
  cases stopped : (side.outboundQueues.getQueue .critical).isShutdown with
  | true =>
    simp only [PriorityQueueContainer.push, LockFreeQueue.push, stopped, if_true]
  | false =>
    have holding : (side.outboundQueues.getQueue .critical).Holding _ _ := ⟨rfl, rfl, stopped⟩
    have bound := holding.length_le
    have full : (side.outboundQueues.getQueue .critical).entries.length =
        (side.outboundQueues.getQueue .critical).capacity - 1 := by
      by_contra space
      exact unable ⟨available, stopped, by omega⟩
    exact congrArg Prod.fst (holding.push_full full slot)

theorem sendResendRequest_exhausted (exhausted : ¬ side.messagePool.available 1) (utc : UtcTime)
    (seqNum : Int) : (side.sendResendRequest utc seqNum).sent = side.sent := by
  unfold sendResendRequest
  rw [MessagePool.allocate_eq_none exhausted]

theorem sendResendRequest_allocated (available : side.messagePool.available 1) (utc : UtcTime)
    (seqNum : Int) :
    ∃ slot, (side.sendResendRequest utc seqNum).sent =
      if (side.outboundQueues.push .critical slot).1 then
        side.resendRequest utc seqNum side.context.outgoingSeqNum :: side.sent
      else side.sent := by
  obtain ⟨slot, rest, chain, -⟩ := MessagePool.exists_chain available
  refine ⟨slot, ?_⟩
  unfold sendResendRequest
  rw [MessagePool.allocate_eq_take available.1 chain]
  dsimp only
  split
  · rename_i queues pushed
    rw [pushed]
    rfl
  · rename_i queues refused
    rw [refused]
    rfl

theorem resendRequest_fields (side : ResendSide) (utc : UtcTime) {seqNum : Int} (number : Int)
    (inRange : -2 ^ 31 ≤ seqNum ∧ seqNum < 2 ^ 31) :
    (side.resendRequest utc seqNum number).getField FixFields.msgType = some (ascii "2") ∧
      (side.resendRequest utc seqNum number).getField FixFields.beginSeqNo =
        some (signedDecimal seqNum) ∧
      (side.resendRequest utc seqNum number).getField FixFields.endSeqNo =
        some (signedDecimal seqNum) := by
  have unstamped : ∀ {tag : Int}, tag ≠ FixFields.sendingTime → ∀ message : FixMessage,
      (message.setSendingTime utc).invalidateCache.getField tag = message.getField tag :=
    fun differs message => FixMessage.getField_setField_of_ne differs
  unfold resendRequest
  rw [unstamped (by decide), unstamped (by decide), unstamped (by decide),
    FastStringConversion.intToString_eq inRange.1 inRange.2]
  refine ⟨?_, ?_, ?_⟩
  · exact FixMessage.getField_setFields _
  · exact FixMessage.getField_setFields _
  · exact FixMessage.getField_setFields _

/-- The request is pushed if the side is able, and otherwise nothing is. -/
theorem sendResendRequest_of_able (able : side.Able) (utc : UtcTime) (seqNum : Int) :
    (side.sendResendRequest utc seqNum).sent =
      side.resendRequest utc seqNum side.context.outgoingSeqNum :: side.sent := by
  obtain ⟨slot, sent⟩ := side.sendResendRequest_allocated able.pool utc seqNum
  rw [sent, push_of_able able, if_pos rfl]

theorem sendResendRequest_of_not_able (unable : ¬ side.Able) (utc : UtcTime) (seqNum : Int) :
    (side.sendResendRequest utc seqNum).sent = side.sent := by
  by_cases available : side.messagePool.available 1
  · obtain ⟨slot, sent⟩ := side.sendResendRequest_allocated available utc seqNum
    rw [sent, push_of_not_able available unable, if_neg Bool.false_ne_true]
  · exact sendResendRequest_exhausted available utc seqNum

end ResendSide

/-! ## The log -/

/-- What a pass meets when it comes to an entry: the readings of the clocks, and what it would
send with. -/
structure Circumstance where
  reading : GapReading
  utc : UtcTime
  side : ResendSide

/-- A call of `sendResendRequest`. -/
structure Attempt extends Circumstance where
  seqNum : Int

namespace Attempt

/-- The messages that the call pushes to the CRITICAL queue. -/
def pushed (attempt : Attempt) : List FixMessage :=
  let sent := (attempt.side.sendResendRequest attempt.utc attempt.seqNum).sent
  sent.take (sent.length - attempt.side.sent.length)

/-- The call pushes a ResendRequest for its number and no other. -/
def requests (attempt : Attempt) : Bool :=
  attempt.pushed.any fun message =>
    message.getField FixFields.msgType = some (ascii "2") &&
      message.getField FixFields.beginSeqNo = some (signedDecimal attempt.seqNum) &&
      message.getField FixFields.endSeqNo = some (signedDecimal attempt.seqNum)

theorem requests_iff {attempt : Attempt}
    (inRange : -2 ^ 31 ≤ attempt.seqNum ∧ attempt.seqNum < 2 ^ 31) :
    attempt.requests = true ↔ attempt.side.Able := by
  unfold requests pushed
  by_cases able : attempt.side.Able
  · refine iff_of_true ?_ able
    rw [ResendSide.sendResendRequest_of_able able]
    dsimp only
    rw [List.length_cons, Nat.add_sub_cancel_left, List.take_succ_cons, List.take_zero]
    obtain ⟨type, first, last⟩ := attempt.side.resendRequest_fields attempt.utc
      attempt.side.context.outgoingSeqNum inRange
    simp only [List.any_cons, type, first, last, decide_true, Bool.and_self, Bool.true_or]
  · refine iff_of_false ?_ able
    rw [ResendSide.sendResendRequest_of_not_able able]
    dsimp only
    rw [Nat.sub_self, List.take_zero]
    exact Bool.false_ne_true

end Attempt

inductive GapEvent where
  /-- An entry was made for the number. -/
  | added (seqNum : Int) (now : Nat)
  | attempted (attempt : Attempt)
  /-- The entry for the number was dropped for good. -/
  | dropped (seqNum : Int)

def GapEvent.seqNum : GapEvent → Int
  | .added seqNum _ => seqNum
  | .attempted attempt => attempt.seqNum
  | .dropped seqNum => seqNum

namespace GapLog

/-- The attempts for a number since an entry was last made for it, newest first like the log. -/
def attempts (seqNum : Int) : List GapEvent → List Attempt
  | [] => []
  | .added number _ :: log => if number = seqNum then [] else attempts seqNum log
  | .attempted attempt :: log =>
    if attempt.seqNum = seqNum then attempt :: attempts seqNum log else attempts seqNum log
  | .dropped _ :: log => attempts seqNum log

/-- The time when an entry was last made for a number. -/
def createdAt (seqNum : Int) : List GapEvent → Option Nat
  | [] => none
  | .added number now :: log => if number = seqNum then some now else createdAt seqNum log
  | _ :: log => createdAt seqNum log

/-- The attempts that pushed a request for the number. -/
def requests (seqNum : Int) (log : List GapEvent) : List Attempt :=
  (attempts seqNum log).filter Attempt.requests

/-- The time from which an entry waits: that of the last attempt, or of its creation. -/
def waitsSince (created : Nat) : List Attempt → Nat
  | [] => created
  | attempt :: _ => attempt.reading.renew

/-- Each attempt is made more than ten seconds after the one before it was finished, and the first
one more than ten seconds after the creation. -/
def Spaced (created : Nat) : List Attempt → Prop
  | [] => True
  | attempt :: earlier =>
    waitsSince created earlier + gapTimeoutMs * 1000000 < attempt.reading.check ∧
      Spaced created earlier

variable {log : List GapEvent} {event : GapEvent} {seqNum : Int}

theorem attempts_cons_of_ne (differs : event.seqNum ≠ seqNum) :
    attempts seqNum (event :: log) = attempts seqNum log := by
  cases event with
  | added number now => exact if_neg differs
  | attempted attempt => exact if_neg differs
  | dropped number => rfl

theorem createdAt_cons_of_ne (differs : event.seqNum ≠ seqNum) :
    createdAt seqNum (event :: log) = createdAt seqNum log := by
  cases event with
  | added number now => exact if_neg differs
  | attempted attempt => rfl
  | dropped number => rfl

theorem append_of_ne {events : List GapEvent} (differ : ∀ event ∈ events, event.seqNum ≠ seqNum) :
    attempts seqNum (events ++ log) = attempts seqNum log ∧
      createdAt seqNum (events ++ log) = createdAt seqNum log := by
  induction events with
  | nil => exact ⟨rfl, rfl⟩
  | cons event events ih =>
    rw [List.forall_mem_cons] at differ
    obtain ⟨tried, made⟩ := ih differ.2
    rw [List.cons_append, attempts_cons_of_ne differ.1, createdAt_cons_of_ne differ.1]
    exact ⟨tried, made⟩

theorem seqNum_of_mem_attempts {attempt : Attempt} (member : attempt ∈ attempts seqNum log) :
    attempt.seqNum = seqNum := by
  induction log with
  | nil => cases member
  | cons event log ih =>
    cases event with
    | added number now =>
      rw [attempts] at member
      split at member
      · cases member
      · exact ih member
    | attempted other =>
      rw [attempts] at member
      split at member
      · rename_i same
        rcases List.mem_cons.mp member with here | later
        · rw [here]
          exact same
        · exact ih later
      · exact ih member
    | dropped number => exact ih member

end GapLog

/-! ## What a pass records -/

/-- What a pass records for an entry, by the cases of `processEntry`. -/
def entryEvents (met : Circumstance) (entry : GapQueueEntry) : List GapEvent :=
  if entry.isResolved then []
  else if isTimeout met.reading entry then
    if entry.retryCount < maxRetryCount then
      [.attempted { toCircumstance := met, seqNum := entry.seqNum }]
    else [.dropped entry.seqNum]
  else []

/-- What a pass over these entries records, newest first. -/
def passEvents (met : Nat → Circumstance) : List GapQueueEntry → List GapEvent
  | [] => []
  | entry :: entries =>
    passEvents (fun index => met (index + 1)) entries ++ entryEvents (met 0) entry

/-- The number of a recorded attempt. -/
def GapEvent.attempted? : GapEvent → Option Int
  | .attempted attempt => some attempt.seqNum
  | _ => none

/-- The number of a recorded drop. -/
def GapEvent.dropped? : GapEvent → Option Int
  | .dropped seqNum => some seqNum
  | _ => none

theorem passEvents_requests (met : Nat → Circumstance) (entries : List GapQueueEntry) :
    (passEvents met entries).reverse.filterMap GapEvent.attempted? =
      (processEntries (fun index => (met index).reading) entries).1 := by
  induction entries generalizing met with
  | nil => rfl
  | cons entry entries ih =>
    have first : (entryEvents (met 0) entry).reverse.filterMap GapEvent.attempted? =
        if (processEntry (met 0).reading entry).1 then [entry.seqNum] else [] := by
      unfold entryEvents processEntry
      by_cases resolved : entry.isResolved = true
      · simp [resolved]
      by_cases late : isTimeout (met 0).reading entry = true
      · by_cases left : entry.retryCount < maxRetryCount
        · simp [resolved, late, left, GapEvent.attempted?]
        · simp [resolved, late, left, GapEvent.attempted?]
      · simp [resolved, late]
    rw [passEvents, List.reverse_append, List.filterMap_append, first, ih]
    rfl

theorem seqNum_of_mem_entryEvents {met : Circumstance} {entry : GapQueueEntry}
    (member : event ∈ entryEvents met entry) : event.seqNum = entry.seqNum := by
  unfold entryEvents at member
  split_ifs at member
  · cases member
  · rw [List.mem_singleton.mp member]
    rfl
  · rw [List.mem_singleton.mp member]
    rfl
  · cases member

theorem seqNum_of_mem_passEvents {met : Nat → Circumstance}
    (member : event ∈ passEvents met entries) :
    event.seqNum ∈ entries.map GapQueueEntry.seqNum := by
  induction entries generalizing met with
  | nil => cases member
  | cons entry entries ih =>
    rw [List.map_cons, List.mem_cons]
    rcases List.mem_append.mp member with later | here
    · exact .inr (ih later)
    · exact .inl (seqNum_of_mem_entryEvents here)

/-- The log accounts for an entry: it has all its attempts, with the time between them, and the
deadline is ten seconds after the last. -/
structure Recorded (log : List GapEvent) (entry : GapQueueEntry) : Prop where
  created : GapLog.createdAt entry.seqNum log = some entry.timestamp
  counted : ((GapLog.attempts entry.seqNum log).length : Int) = entry.retryCount
  within : entry.retryCount ≤ maxRetryCount
  spaced : GapLog.Spaced entry.timestamp (GapLog.attempts entry.seqNum log)
  deadline : entry.timeoutDeadline =
    GapLog.waitsSince entry.timestamp (GapLog.attempts entry.seqNum log) + gapTimeoutMs * 1000000
  inRange : -2 ^ 31 ≤ entry.seqNum ∧ entry.seqNum < 2 ^ 31

/-- The log before a number is dropped: all retries were attempted, with the time between them. -/
structure GivenUp (log : List GapEvent) (seqNum : Int) (created : Nat) : Prop where
  made : GapLog.createdAt seqNum log = some created
  counted : ((GapLog.attempts seqNum log).length : Int) = maxRetryCount
  spaced : GapLog.Spaced created (GapLog.attempts seqNum log)
  inRange : -2 ^ 31 ≤ seqNum ∧ seqNum < 2 ^ 31

/-- Every number that was dropped had been given up. -/
def Justified (log : List GapEvent) : Prop :=
  ∀ newer older seqNum, log = newer ++ .dropped seqNum :: older →
    ∃ created, GivenUp older seqNum created

theorem Justified.cons (justified : Justified log)
    (reason : ∀ seqNum, event = .dropped seqNum → ∃ created, GivenUp log seqNum created) :
    Justified (event :: log) := by
  intro newer older seqNum split
  cases newer with
  | nil =>
    rw [List.nil_append, List.cons.injEq] at split
    rw [← split.2]
    exact reason seqNum split.1
  | cons first newer =>
    rw [List.cons_append, List.cons.injEq] at split
    exact justified newer older seqNum split.2

namespace Recorded

variable {log : List GapEvent} {entry : GapQueueEntry}

theorem append (recorded : Recorded log entry) {events : List GapEvent}
    (differ : ∀ event ∈ events, event.seqNum ≠ entry.seqNum) : Recorded (events ++ log) entry := by
  obtain ⟨tried, made⟩ := @GapLog.append_of_ne log entry.seqNum events differ
  constructor
  · rw [made]
    exact recorded.created
  · rw [tried]
    exact recorded.counted
  · exact recorded.within
  · rw [tried]
    exact recorded.spaced
  · rw [tried]
    exact recorded.deadline
  · exact recorded.inRange

theorem cons (recorded : Recorded log entry) {event : GapEvent}
    (differs : event.seqNum ≠ entry.seqNum) : Recorded (event :: log) entry := by
  have one : ∀ other ∈ [event], other.seqNum ≠ entry.seqNum := by
    intro other member
    rw [List.mem_singleton.mp member]
    exact differs
  exact recorded.append one

theorem fresh (log : List GapEvent) (now : Nat) {seqNum : Int}
    (inRange : -2 ^ 31 ≤ seqNum ∧ seqNum < 2 ^ 31) :
    Recorded (.added seqNum now :: log) (GapQueueEntry.fresh now seqNum) := by
  have made : GapLog.createdAt seqNum (.added seqNum now :: log) = some now := if_pos rfl
  have none : GapLog.attempts seqNum (.added seqNum now :: log) = [] := if_pos rfl
  constructor
  · exact made
  · change ((GapLog.attempts seqNum (.added seqNum now :: log)).length : Int) = 0
    rw [none]
    rfl
  · change (0 : Int) ≤ maxRetryCount
    decide
  · change GapLog.Spaced now (GapLog.attempts seqNum (.added seqNum now :: log))
    rw [none]
    trivial
  · change now + gapTimeoutMs * 1000000 =
      GapLog.waitsSince now (GapLog.attempts seqNum (.added seqNum now :: log)) +
        gapTimeoutMs * 1000000
    rw [none]
    rfl
  · exact inRange

theorem retried (recorded : Recorded log entry) (met : Circumstance)
    (late : entry.timeoutDeadline < met.reading.check) (left : entry.retryCount < maxRetryCount) :
    Recorded (.attempted { toCircumstance := met, seqNum := entry.seqNum } :: log)
      { entry with
        retryCount := entry.retryCount + 1
        timeoutDeadline := met.reading.renew + gapTimeoutMs * 1000000 } := by
  have tried : GapLog.attempts entry.seqNum
      (.attempted { toCircumstance := met, seqNum := entry.seqNum } :: log) =
        { toCircumstance := met, seqNum := entry.seqNum } :: GapLog.attempts entry.seqNum log :=
    if_pos rfl
  have counted := recorded.counted
  constructor
  · exact recorded.created
  · rw [tried, List.length_cons]
    push_cast
    rw [counted]
  · exact left
  · rw [tried]
    refine ⟨?_, recorded.spaced⟩
    have deadline := recorded.deadline
    rw [deadline] at late
    exact late
  · rw [tried]
    rfl
  · exact recorded.inRange

theorem givenUp (recorded : Recorded log entry) (spent : ¬ entry.retryCount < maxRetryCount) :
    GivenUp log entry.seqNum entry.timestamp where
  made := recorded.created
  counted := by
    have within := recorded.within
    rw [recorded.counted]
    omega
  spaced := recorded.spaced
  inRange := recorded.inRange

theorem process (recorded : Recorded log entry) (justified : Justified log) (met : Circumstance) :
    Justified (entryEvents met entry ++ log) ∧
      ∀ kept ∈ (processEntry met.reading entry).2,
        Recorded (entryEvents met entry ++ log) kept := by
  unfold entryEvents processEntry isTimeout
  split
  · refine ⟨justified, fun kept member => ?_⟩
    cases member
  · split
    · rename_i late
      rw [decide_eq_true_eq] at late
      split
      · rename_i left
        refine ⟨justified.cons fun seqNum dropped => ?_, fun kept member => ?_⟩
        · cases dropped
        · cases member
          exact recorded.retried met late left
      · rename_i spent
        refine ⟨justified.cons fun seqNum dropped => ?_, fun kept member => ?_⟩
        · cases dropped
          exact ⟨_, recorded.givenUp spent⟩
        · cases member
    · refine ⟨justified, fun kept member => ?_⟩
      cases member
      exact recorded

end Recorded

theorem passEvents_recorded
    (met : Nat → Circumstance) (distinct : (entries.map GapQueueEntry.seqNum).Nodup)
    (recorded : ∀ entry ∈ entries, Recorded log entry) (justified : Justified log) :
    Justified (passEvents met entries ++ log) ∧
      ∀ kept ∈ (processEntries (fun index => (met index).reading) entries).2,
        Recorded (passEvents met entries ++ log) kept := by
  induction entries generalizing met log with
  | nil =>
    refine ⟨justified, fun kept member => ?_⟩
    cases member
  | cons entry entries ih =>
    rw [List.map_cons, List.nodup_cons] at distinct
    rw [List.forall_mem_cons] at recorded
    obtain ⟨right, keeps⟩ := recorded.1.process justified (met 0)
    have others : ∀ other ∈ entries, Recorded (entryEvents (met 0) entry ++ log) other := by
      intro other member
      apply (recorded.2 other member).append
      intro event here same
      apply distinct.1
      rw [← seqNum_of_mem_entryEvents here, same]
      exact List.mem_map_of_mem member
    obtain ⟨rightAll, keepsAll⟩ := ih (fun index => met (index + 1)) distinct.2 others right
    rw [passEvents, List.append_assoc]
    refine ⟨rightAll, fun kept member => ?_⟩
    rcases List.mem_append.mp member with here | later
    · have stays := Option.mem_toList.mp here
      apply (keeps kept stays).append
      intro event there same
      apply distinct.1
      rw [← (processEntry_frame (met 0).reading entry).2 kept stays |>.1, ← same]
      exact seqNum_of_mem_passEvents there
    · exact keepsAll kept later

/-! ## Runs -/

/-- The gap manager and the log of what it did, newest first. -/
structure Retrying where
  manager : SequenceNumGapManager
  log : List GapEvent

inductive RetryCall where
  | addGapEntry (now : Nat) (seqNum : Int)
  | hasGap (seqNum : Int)
  | resolveGapEntry (seqNum : Int)
  | clearAllGaps
  | processGaps (met : Nat → Circumstance)

namespace Retrying

variable {state : Retrying}

def step (state : Retrying) : RetryCall → Retrying
  | .addGapEntry now seqNum =>
    let manager := state.manager.addGapEntry now seqNum
    { manager := manager
      log := if state.manager.getGapCount < manager.getGapCount then
        .added seqNum now :: state.log else state.log }
  | .hasGap seqNum => { state with manager := (state.manager.hasGap seqNum).2 }
  | .resolveGapEntry seqNum => { state with manager := (state.manager.resolveGapEntry seqNum).2 }
  | .clearAllGaps => { state with manager := state.manager.clearAllGaps }
  | .processGaps met =>
    { manager := (state.manager.processGaps fun index => (met index).reading).2
      log := passEvents met state.manager.gapQueue.popAll.1 ++ state.log }

/-- The attempts that a pass records are its calls of `sendResendRequest`. -/
theorem processGaps_attempts (state : Retrying) (met : Nat → Circumstance) :
    ∃ events, (state.step (.processGaps met)).log = events ++ state.log ∧
      events.reverse.filterMap GapEvent.attempted? =
        (state.manager.processGaps fun index => (met index).reading).1 :=
  ⟨_, rfl, passEvents_requests met _⟩

def Initial (state : Retrying) : Prop := state.manager = .new ∧ state.log = []

/-- A number is an `int`. -/
def Typed (_ : Retrying) : RetryCall → Prop
  | .addGapEntry _ seqNum => -2 ^ 31 ≤ seqNum ∧ seqNum < 2 ^ 31
  | _ => True

/-- The log accounts for every entry of the queue, and for every number that was dropped. -/
structure Accounted (state : Retrying) (map : GapMap) (entries : List GapQueueEntry) : Prop where
  tracks : state.manager.Tracks map entries
  recorded : ∀ entry ∈ entries, Recorded state.log entry
  justified : Justified state.log

namespace Accounted

variable {state : Retrying} {map : GapMap} {entries : List GapQueueEntry}
  (accounted : state.Accounted map entries) {seqNum : Int}

include accounted

/-- Where the number is tracked or the queue is full, nothing happens. -/
theorem addGapEntry_skips {now : Nat}
    (skips : tracked entries seqNum = true ∨ entries.length = gapQueueSize - 1) :
    (state.step (.addGapEntry now seqNum)).Accounted map entries := by
  have holding := accounted.tracks.holding
  have after := addGapEntry_holding holding now seqNum
  have unchanged : (if tracked entries seqNum then [] else [GapQueueEntry.fresh now seqNum]).take
      (gapQueueSize - 1 - entries.length) = [] := by
    rcases skips with known | full
    · rw [if_pos known, List.take_nil]
    · rw [full, Nat.sub_self, List.take_zero]
  rw [unchanged, List.append_nil] at after
  have same : ¬ state.manager.getGapCount < (state.manager.addGapEntry now seqNum).getGapCount := by
    unfold getGapCount LockFreeQueue.size
    rw [after.entries, holding.entries]
    exact lt_irrefl _
  refine ⟨⟨after, accounted.tracks.represents, accounted.tracks.unresolved⟩, ?_, ?_⟩
  · rw [step, if_neg same]
    exact accounted.recorded
  · rw [step, if_neg same]
    exact accounted.justified

theorem addGapEntry_adds {now : Nat} (inRange : -2 ^ 31 ≤ seqNum ∧ seqNum < 2 ^ 31)
    (absent : tracked entries seqNum = false) (room : entries.length < gapQueueSize - 1) :
    (state.step (.addGapEntry now seqNum)).Accounted (map.add now seqNum)
      (entries ++ [GapQueueEntry.fresh now seqNum]) := by
  have unknown : (map seqNum).isSome = false := by
    rw [← accounted.tracks.tracked_eq]
    exact absent
  have tracks := accounted.tracks.addGapEntry now seqNum (.inr room)
  rw [unknown, if_neg Bool.false_ne_true] at tracks
  have grown : state.manager.getGapCount < (state.manager.addGapEntry now seqNum).getGapCount := by
    unfold getGapCount LockFreeQueue.size
    rw [tracks.holding.entries, accounted.tracks.holding.entries, List.length_append]
    exact Nat.lt_succ_self _
  refine ⟨tracks, ?_, ?_⟩
  · rw [step, if_pos grown]
    intro entry member
    rcases List.mem_append.mp member with before | made
    · have other : seqNum ≠ entry.seqNum := by
        rintro rfl
        rw [((accounted.tracks.represents.mem_iff entry).mp before)] at unknown
        cases unknown
      exact (accounted.recorded entry before).cons other
    · rw [List.mem_singleton.mp made]
      exact .fresh state.log now inRange
  · rw [step, if_pos grown]
    refine accounted.justified.cons fun dropped same => ?_
    cases same

theorem resolveGapEntry (seqNum : Int) :
    ∃ kept, (state.step (.resolveGapEntry seqNum)).Accounted (map.resolve seqNum) kept := by
  obtain ⟨-, kept, tracks⟩ := accounted.tracks.resolveGapEntry seqNum
  refine ⟨kept, tracks, fun entry member => ?_, accounted.justified⟩
  have found := (tracks.represents.mem_iff entry).mp member
  unfold GapMap.resolve at found
  by_cases same : entry.seqNum = seqNum
  · rw [same, Function.update_self] at found
    cases found
  · rw [Function.update_of_ne same] at found
    exact accounted.recorded entry ((accounted.tracks.represents.mem_iff entry).mpr found)

theorem processGaps (met : Nat → Circumstance) :
    ∃ map kept, (state.step (.processGaps met)).Accounted map kept := by
  obtain ⟨kept, tracks⟩ := accounted.tracks.processGaps fun index => (met index).reading
  have holding := accounted.tracks.holding
  obtain ⟨justified, recorded⟩ := passEvents_recorded met accounted.tracks.represents.nodup
    accounted.recorded accounted.justified
  have requeued : kept = (processEntries (fun index => (met index).reading) entries).2 :=
    tracks.holding.entries.symm.trans (processGaps_holding holding _).2.entries
  refine ⟨_, kept, tracks, ?_, ?_⟩
  · rw [step, holding.popAll.1, requeued]
    exact recorded
  · rw [step, holding.popAll.1]
    exact justified

theorem step {call : RetryCall} (typed : state.Typed call) :
    ∃ map entries, (state.step call).Accounted map entries := by
  cases call with
  | addGapEntry now seqNum =>
    by_cases skips : tracked entries seqNum = true ∨ entries.length = gapQueueSize - 1
    · exact ⟨map, entries, accounted.addGapEntry_skips skips⟩
    · rw [not_or, Bool.not_eq_true] at skips
      have bound := accounted.tracks.holding.length_le
      exact ⟨_, _, accounted.addGapEntry_adds typed skips.1 (lt_of_le_of_ne bound skips.2)⟩
  | hasGap seqNum =>
    exact ⟨map, entries, (accounted.tracks.hasGap seqNum).2, accounted.recorded,
      accounted.justified⟩
  | resolveGapEntry seqNum => exact ⟨_, accounted.resolveGapEntry seqNum⟩
  | clearAllGaps =>
    refine ⟨_, [], accounted.tracks.clearAllGaps, fun entry member => ?_, accounted.justified⟩
    cases member
  | processGaps met => exact accounted.processGaps met

end Accounted

theorem accounted_of_initial (initial : state.Initial) :
    ∃ map entries, state.Accounted map entries := by
  obtain ⟨manager, log⟩ := state
  obtain ⟨rfl, rfl⟩ := initial
  refine ⟨GapMap.clear, [], ⟨⟨GapTracking.capacity_eq, rfl, rfl⟩, represents_nil _, ?_⟩, ?_, ?_⟩
  · intro entry member
    cases member
  · intro entry member
    cases member
  · intro newer older seqNum split
    cases newer <;> cases split

theorem run_justified (run : Transition.Run Initial step Typed state) : Justified state.log := by
  have accounted : ∃ map entries, state.Accounted map entries := by
    refine run.invariant (fun state => ∃ map entries, state.Accounted map entries)
      (fun state => accounted_of_initial) ?_
    rintro state call ⟨map, entries, accounted⟩ typed
    exact accounted.step typed
  obtain ⟨map, entries, accounted⟩ := accounted
  exact accounted.justified

/-- Whenever a number is dropped, its entry was tried five times, each time more than ten seconds
after the time before. It was requested five times like that exactly if every try found a message
in the pool and room in the CRITICAL queue. -/
theorem dropped_after_requests_iff {state : Retrying}
    (run : Transition.Run Initial step Typed state) {newer older : List GapEvent} {seqNum : Int}
    (dropped : state.log = newer ++ .dropped seqNum :: older) :
    ∃ created, GapLog.createdAt seqNum older = some created ∧
      ((GapLog.attempts seqNum older).length : Int) = maxRetryCount ∧
      GapLog.Spaced created (GapLog.attempts seqNum older) ∧
      (((GapLog.requests seqNum older).length : Int) = maxRetryCount ∧
          GapLog.Spaced created (GapLog.requests seqNum older) ↔
        ∀ attempt ∈ GapLog.attempts seqNum older, attempt.side.Able) := by
  obtain ⟨created, givenUp⟩ := run_justified run newer older seqNum dropped
  refine ⟨created, givenUp.made, givenUp.counted, givenUp.spaced, ?_⟩
  have requests : ∀ attempt ∈ GapLog.attempts seqNum older,
      (attempt.requests = true ↔ attempt.side.Able) := by
    intro attempt member
    apply Attempt.requests_iff
    rw [GapLog.seqNum_of_mem_attempts member]
    exact givenUp.inRange
  constructor
  · rintro ⟨all, -⟩ attempt member
    have same : (GapLog.requests seqNum older).length = (GapLog.attempts seqNum older).length := by
      have counted := givenUp.counted
      omega
    exact (requests attempt member).mp (List.length_filter_eq_length_iff.mp same attempt member)
  · intro able
    have all : GapLog.requests seqNum older = GapLog.attempts seqNum older :=
      List.filter_eq_self.mpr fun attempt member =>
        (requests attempt member).mpr (able attempt member)
    rw [all]
    exact ⟨givenUp.counted, givenUp.spaced⟩

/-- A pass at the given time, in seconds, that sends with the given side. -/
def passAt (side : ResendSide) (seconds : Nat) : RetryCall :=
  .processGaps fun _ =>
    { reading := ⟨seconds * 1000000000, seconds * 1000000000⟩
      utc := ⟨2025, 1, 1, 0, 0, 0, 0⟩
      side := side }

/-- Number 7 is missing, and a pass is made every twenty seconds. -/
def sevenMissing (side : ResendSide) : List RetryCall :=
  .addGapEntry 0 7 :: [20, 40, 60, 80, 100, 120].map (passAt side)

/-- The gap manager before the calls. -/
def start : Retrying where
  manager := .new
  log := []

theorem sevenMissing_run (side : ResendSide) :
    Transition.Run Initial step Typed (Transition.execute step start (sevenMissing side)) := by
  refine (Transition.Run.start ⟨rfl, rfl⟩).execute ?_
  exact ⟨⟨by decide, by decide⟩, trivial, trivial, trivial, trivial, trivial, trivial, trivial⟩

/-- What is logged before the last event. -/
def sevenTried (side : ResendSide) : List GapEvent :=
  (Transition.execute step start (sevenMissing side)).log.tail

theorem dropped_of_head {log : List GapEvent} {seqNum : Int}
    (last : log.head?.bind GapEvent.dropped? = some seqNum) :
    log = [] ++ .dropped seqNum :: log.tail := by
  cases log with
  | nil => cases last
  | cons event log =>
    cases event with
    | added number now => cases last
    | attempted attempt => cases last
    | dropped number =>
      cases last
      rfl

/-- The pool has a message and the CRITICAL queue has room. -/
def ableSide : ResendSide := GapTracking.sampleTracking.side

theorem dropped_after_requests_able :
    (GapLog.attempts 7 (sevenTried ableSide)).length = 5 ∧
      (GapLog.requests 7 (sevenTried ableSide)).length = 5 := by
  have dropped := @dropped_of_head
    (Transition.execute step start (sevenMissing ableSide)).log 7 (by decide +kernel)
  obtain ⟨created, made, counted, -, requested⟩ :=
    dropped_after_requests_iff (sevenMissing_run ableSide) dropped
  have all := (requested.mpr (by decide +kernel)).1
  unfold maxRetryCount at counted all
  unfold sevenTried
  omega

/-- The pool is empty. -/
def exhaustedSide : ResendSide :=
  { ableSide with messagePool := (ableSide.messagePool.allocate FixMessage.empty).2 }

/-- Number 7 is dropped after five tries, and no request for it was ever pushed. -/
theorem dropped_without_request :
    (Transition.execute step start (sevenMissing exhaustedSide)).log =
        .dropped 7 :: sevenTried exhaustedSide ∧
      (GapLog.attempts 7 (sevenTried exhaustedSide)).length = 5 ∧
      (GapLog.requests 7 (sevenTried exhaustedSide)).length = 0 := by
  refine ⟨dropped_of_head (by decide +kernel), by decide +kernel, by decide +kernel⟩

end Retrying

end FixGateway.Manager
