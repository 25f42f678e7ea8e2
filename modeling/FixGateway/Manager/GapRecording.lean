import FixGateway.Manager.GapCalls
import FixGateway.Manager.SequenceAcceptance

/-! # The gaps that a session records

The sequence check hands the numbers that it finds missing to the gap manager, one call of
`addGapEntry` for each. What else `handleMessage` does has no effect on the gap manager. So
a gap is recorded as far as the queue has room (`handleMessage_records_iff`), and a number
stays tracked when the message with it arrives (`closesGaps_iff`).
-/

namespace FixGateway.Manager

open ByteScan Protocol SequenceNumGapManager

namespace FixSessionManager

variable {manager : SequenceNumGapManager}

/-! ## What a call does to the gap manager -/

section Frame

variable (session : FixSessionManager) (clock : SessionClock)

theorem tolerates_gapManager : Tolerates fun before after =>
    after.sequenceNumGapManager = before.sequenceNumGapManager :=
  FreeOfSends.tolerates (fun _ _ _ _ _ _ => rfl) fun _ _ _ _ _ => rfl

theorem startHeartbeatTimer_gapManager :
    session.startHeartbeatTimer.sequenceNumGapManager = session.sequenceNumGapManager := by
  unfold startHeartbeatTimer
  split <;> rfl

theorem handleLogout_gapManager :
    (session.handleLogout clock).2.sequenceNumGapManager = session.sequenceNumGapManager := by
  have stopped : session.stopHeartbeatTimer.sequenceNumGapManager =
      session.sequenceNumGapManager := by
    unfold stopHeartbeatTimer
    split <;> rfl
  rw [← stopped]
  unfold handleLogout
  dsimp only
  split
  · exact tolerates_gapManager.sendLogout ..
  · rfl

theorem dispatch_gapManager (msgType : Bytes) (message : FixMessage) :
    (session.dispatch clock msgType message).2.sequenceNumGapManager =
      session.sequenceNumGapManager := by
  by_cases logon : msgType = ascii "A"
  · unfold dispatch
    rw [if_pos logon]
    exact startHeartbeatTimer_gapManager _
  by_cases logout : msgType = ascii "5"
  · unfold dispatch
    rw [if_neg logon, if_pos logout]
    exact handleLogout_gapManager ..
  by_cases reset : msgType = ascii "4"
  · rw [reset]
    change (session.handleSequenceReset message).2.sequenceNumGapManager = _
    unfold handleSequenceReset
    split <;> rfl
  · exact tolerates_gapManager.dispatch session clock message logon logout reset

end Frame

/-- The numbers that the sequence check of a call finds missing. -/
def missing (session : FixSessionManager) (message : Option FixMessage) : List Int :=
  match session.arrival message with
  | none => []
  | some arrival =>
    if arrival.resent then [] else Int.range session.expectedIncomingSeqNum arrival.number

theorem nodup_range (low high : Int) : (Int.range low high).Nodup :=
  List.nodup_range.map fun first second same => by
    simpa using same

theorem nodup_missing (session : FixSessionManager) (message : Option FixMessage) :
    (session.missing message).Nodup := by
  unfold missing
  split
  · exact List.nodup_nil
  · split
    · exact List.nodup_nil
    · exact nodup_range _ _

theorem range_eq_nil {low high : Int} (empty : high ≤ low) : Int.range low high = [] := by
  rw [List.eq_nil_iff_forall_not_mem]
  intro number member
  have bounds := Int.mem_range_iff.mp member
  omega

theorem map_addGapEntries_nil (gapManager : Option SequenceNumGapManager) (now : Nat) :
    (gapManager.map fun manager => manager.addGapEntries now []) = gapManager := by
  cases gapManager <;> rfl

section Call

variable {session : FixSessionManager} {message : FixMessage}

/-- The check hands the missing numbers to the gap manager, if there is one. -/
theorem validateSequenceNumber_gapManager (clock : SessionClock)
    (reached : session.reachesCheck message = true) :
    (session.validateSequenceNumber clock message).2.sequenceNumGapManager =
      session.sequenceNumGapManager.map fun manager =>
        manager.addGapEntries clock.now (session.missing (some message)) := by
  unfold missing
  cases read : msgSeqNum message with
  | none =>
    rw [validateSequenceNumber_unread read, arrival_of_unread read]
    exact (map_addGapEntries_nil _ _).symm
  | some number =>
    rw [arrival_of_read reached read]
    obtain ⟨text, present, parsed⟩ := Option.bind_eq_some_iff.mp read
    unfold validateSequenceNumber
    simp only [present, parsed]
    by_cases ahead : session.expectedIncomingSeqNum < number
    · rw [if_neg (by omega), if_pos ahead]
      cases isResend message with
      | true => exact (map_addGapEntries_nil _ _).symm
      | false => rfl
    · rw [range_eq_nil (by omega), ite_self, map_addGapEntries_nil]
      split_ifs <;> rfl

theorem handleMessage_gapManager (validates : session.config.validateSequenceNumbers = true)
    (clock : SessionClock) (message : Option FixMessage) :
    (session.handleMessage clock message).2.sequenceNumGapManager =
      session.sequenceNumGapManager.map fun manager =>
        manager.addGapEntries clock.now (session.missing message) := by
  cases message with
  | none => exact (map_addGapEntries_nil _ _).symm
  | some message =>
    cases reached : session.reachesCheck message with
    | false =>
      have unseen : session.missing (some message) = [] := by
        simp [missing, arrival, reached]
      rw [unseen, map_addGapEntries_nil, handleMessage_of_unreached reached]
    | true =>
      obtain ⟨msgType, typed, called⟩ := handleMessage_of_reached clock validates reached
      rw [called, ← validateSequenceNumber_gapManager clock reached]
      dsimp only
      split
      · exact dispatch_gapManager ..
      · rfl

end Call

/-! ## Recording a gap -/

/-- A list without repetitions is among its first elements only if it has no others. -/
theorem length_le_of_subset_take {values : List Int} (distinct : values.Nodup) {count : Nat}
    (among : ∀ value ∈ values, value ∈ values.take count) : values.length ≤ count := by
  have short := (List.subperm_of_subset distinct among).length_le
  rw [List.length_take] at short
  omega

/-- The numbers of a range that are not tracked. -/
def untracked (manager : SequenceNumGapManager) (low high : Int) : List Int :=
  (Int.range low high).filter fun seqNum => !(manager.hasGap seqNum).1

theorem untracked_eq_nil_iff {low high : Int} :
    untracked manager low high = [] ↔
      ∀ seqNum, low ≤ seqNum → seqNum < high → (manager.hasGap seqNum).1 = true := by
  unfold untracked
  rw [List.filter_eq_nil_iff]
  simp only [Int.mem_range_iff, Bool.not_eq_true, Bool.not_eq_false', and_imp]

/-- All numbers of a range are tracked after the loop over it exactly if there is room for those
that were not. -/
theorem addGapEntries_all_iff (reached : manager.Reachable) (now : Nat) (low high : Int) :
    (∀ seqNum, low ≤ seqNum → seqNum < high →
        ((manager.addGapEntries now (Int.range low high)).hasGap seqNum).1 = true) ↔
      manager.getGapCount + (untracked manager low high).length ≤ gapQueueSize - 1 := by
  have bound : manager.getGapCount ≤ gapQueueSize - 1 := reached.holding.length_le
  have after := tracked_addGapEntries reached now (nodup_range low high)
  constructor
  · intro all
    have among : ∀ seqNum ∈ untracked manager low high,
        seqNum ∈ (untracked manager low high).take (gapQueueSize - 1 - manager.getGapCount) := by
      intro seqNum member
      obtain ⟨inside, absent⟩ := List.mem_filter.mp member
      obtain ⟨least, below⟩ := Int.mem_range_iff.mp inside
      rcases (after seqNum).mp (all seqNum least below) with before | added
      · rw [before] at absent
        cases absent
      · exact added
    have distinct : (untracked manager low high).Nodup := (nodup_range low high).filter _
    have short := length_le_of_subset_take distinct among
    omega
  · intro room seqNum least below
    apply (after seqNum).mpr
    cases before : (manager.hasGap seqNum).1 with
    | true => exact .inl rfl
    | false =>
      right
      change seqNum ∈ (untracked manager low high).take _
      rw [List.take_of_length_le (by omega)]
      exact List.mem_filter.mpr ⟨Int.mem_range_iff.mpr ⟨least, below⟩, by rw [before]; rfl⟩

/-- A live message has every number from the expected one up to its own tracked, and no number
forgotten, exactly if all were tracked before or it gets as far as the sequence check and the
queue has room for the others. -/
theorem handleMessage_records_iff {session : FixSessionManager}
    {manager : SequenceNumGapManager} (attached : session.sequenceNumGapManager = some manager)
    (reached : manager.Reachable) (validates : session.config.validateSequenceNumbers = true)
    (clock : SessionClock) {message : FixMessage} {received : Int}
    (numbered : msgSeqNum message = some received) (live : isResend message = false) :
    ∃ after, (session.handleMessage clock (some message)).2.sequenceNumGapManager = some after ∧
      ((∀ seqNum, session.expectedIncomingSeqNum ≤ seqNum → seqNum < received →
          (after.hasGap seqNum).1 = true) ∧
        (∀ seqNum, (manager.hasGap seqNum).1 = true → (after.hasGap seqNum).1 = true) ↔
      untracked manager session.expectedIncomingSeqNum received = [] ∨
        session.reachesCheck message = true ∧
          manager.getGapCount +
            (untracked manager session.expectedIncomingSeqNum received).length ≤
              gapQueueSize - 1) := by
  have called := handleMessage_gapManager validates clock (some message)
  rw [attached, Option.map_some] at called
  refine ⟨_, called, ?_⟩
  cases checked : session.reachesCheck message with
  | false =>
    have unseen : session.missing (some message) = [] := by
      simp [missing, arrival, checked]
    rw [unseen, untracked_eq_nil_iff]
    constructor
    · intro kept
      exact .inl kept.1
    · rintro (all | ⟨unchecked, -⟩)
      · exact ⟨all, fun _ before => before⟩
      · cases unchecked
  | true =>
    have found : session.missing (some message) =
        Int.range session.expectedIncomingSeqNum received := by
      simp [missing, arrival_of_read checked numbered, live]
    rw [found, addGapEntries_all_iff reached]
    have bound : manager.getGapCount ≤ gapQueueSize - 1 := reached.holding.length_le
    have kept : ∀ seqNum, (manager.hasGap seqNum).1 = true →
        ((manager.addGapEntries clock.now (Int.range session.expectedIncomingSeqNum
          received)).hasGap seqNum).1 = true :=
      fun seqNum before =>
        (tracked_addGapEntries reached clock.now (nodup_range _ _) seqNum).mpr (.inl before)
    constructor
    · rintro ⟨room, -⟩
      exact .inr ⟨rfl, room⟩
    · rintro (none | ⟨-, room⟩)
      · rw [none]
        exact ⟨bound, kept⟩
      · exact ⟨room, kept⟩

/-- A new session with a gap manager. -/
def gapSession : FixSessionManager := Journal.sampleJournal.session

/-- Heartbeat 4 arrives where 1 is expected. -/
theorem handleMessage_records_three :
    ∃ after, (gapSession.handleMessage Journal.sampleClock
        (some (Journal.sampleHeartbeat 4 false))).2.sequenceNumGapManager = some after ∧
      ∀ seqNum, 1 ≤ seqNum → seqNum < 4 → (after.hasGap seqNum).1 = true := by
  have fresh : SequenceNumGapManager.new.Reachable := .start rfl
  obtain ⟨after, called, records⟩ :=
    @handleMessage_records_iff gapSession _ rfl fresh rfl Journal.sampleClock
      (Journal.sampleHeartbeat 4 false) 4 (by decide +kernel) (by decide +kernel)
  exact ⟨after, called, (records.mpr (.inr ⟨by decide +kernel, by decide +kernel⟩)).1⟩

/-- Message 1025 arrives where 1 is expected, and 1024 is not recorded as missing. -/
theorem last_gap_not_recorded :
    ∃ after, (gapSession.handleMessage Journal.sampleClock
        (some (Journal.sampleHeartbeat 1025 false))).2.sequenceNumGapManager = some after ∧
      (after.hasGap 1024).1 = false := by
  have fresh : SequenceNumGapManager.new.Reachable := .start rfl
  have none : ∀ seqNum, (SequenceNumGapManager.new.hasGap seqNum).1 = false :=
    fun seqNum => (hasGap_holding fresh.holding seqNum).1
  have called := @handleMessage_gapManager gapSession rfl Journal.sampleClock
    (some (Journal.sampleHeartbeat 1025 false))
  have found : gapSession.missing (some (Journal.sampleHeartbeat 1025 false)) =
      Int.range 1 1025 := by
    have numbered : msgSeqNum (Journal.sampleHeartbeat 1025 false) = some 1025 := by
      decide +kernel
    have live : isResend (Journal.sampleHeartbeat 1025 false) = false := by decide +kernel
    rw [missing, arrival_of_read (by decide +kernel) numbered, live]
    rfl
  rw [found] at called
  refine ⟨_, called, ?_⟩
  rw [← Bool.not_eq_true, tracked_addGapEntries fresh _ (nodup_range _ _)]
  simp only [none, Bool.not_false, List.filter_true, Bool.false_eq_true, false_or]
  intro member
  unfold Int.range at member
  rw [← List.map_take, List.take_range] at member
  obtain ⟨offset, below, last⟩ := List.mem_map.mp member
  have few : offset < 1023 := lt_of_lt_of_le (List.mem_range.mp below) (Nat.min_le_left _ _)
  omega

/-! ## Closing a gap -/

/-- What happens to a session with a gap manager: an inbound message is handled, or the thread of
the gap manager makes a pass. -/
inductive Traffic where
  | handleMessage (clock : SessionClock) (message : Option FixMessage)
  | processGaps (readings : Nat → GapReading)

def traffic (session : FixSessionManager) : Traffic → FixSessionManager
  | .handleMessage clock message => (session.handleMessage clock message).2
  | .processGaps readings =>
    { session with
      sequenceNumGapManager := session.sequenceNumGapManager.map fun manager =>
        (manager.processGaps readings).2 }

/-- The number that the sequence check accepts. -/
def acceptedBy (session : FixSessionManager) : Traffic → Option Int
  | .handleMessage clock message => session.acceptedNumber clock message
  | .processGaps _ => none

/-- The numbers that are found missing. -/
def detectedBy (session : FixSessionManager) : Traffic → List Int
  | .handleMessage _ message => session.missing message
  | .processGaps _ => []

/-- The numbers that a pass requests. -/
def requestedBy (session : FixSessionManager) : Traffic → List Int
  | .handleMessage _ _ => []
  | .processGaps readings =>
    session.sequenceNumGapManager.elim [] fun manager => (manager.processGaps readings).1

/-- What `hasGap` of the gap manager returns. -/
def tracks (session : FixSessionManager) (seqNum : Int) : Bool :=
  session.sequenceNumGapManager.any fun manager => (manager.hasGap seqNum).1

/-- The session after the first calls of a list. -/
abbrev afterFirst (session : FixSessionManager) (calls : List Traffic) (count : Nat) :
    FixSessionManager :=
  Transition.execute traffic session (calls.take count)

/-- Once a number is accepted it is not tracked, and no later pass requests it before it is found
missing again. -/
def ClosesGaps (session : FixSessionManager) (calls : List Traffic) : Prop :=
  ∀ index call seqNum, calls[index]? = some call →
    (session.afterFirst calls index).acceptedBy call = some seqNum →
      (session.afterFirst calls (index + 1)).tracks seqNum = false ∧
      ∀ later pass, index < later → calls[later]? = some pass →
        seqNum ∈ (session.afterFirst calls later).requestedBy pass →
          ∃ between again, index < between ∧ between < later ∧ calls[between]? = some again ∧
            seqNum ∈ (session.afterFirst calls between).detectedBy again

/-- Sequence numbers are checked, and a gap manager is attached. -/
structure Recording (session : FixSessionManager) (manager : SequenceNumGapManager) : Prop where
  validates : session.config.validateSequenceNumbers = true
  attached : session.sequenceNumGapManager = some manager
  reached : manager.Reachable

section Close

variable {session : FixSessionManager} {manager : SequenceNumGapManager} {seqNum : Int}
  {calls : List Traffic}

theorem missing_of_accepted {clock : SessionClock} {message : Option FixMessage}
    (accepted : session.acceptedNumber clock message = some seqNum) :
    session.missing message = [] := by
  cases message with
  | none => rfl
  | some message =>
    simp only [acceptedNumber] at accepted
    split at accepted
    · rename_i passed
      have arrives := arrival_of_read passed.1 accepted
      obtain ⟨returned, -⟩ := validateSequenceNumber_of_arrival clock arrives
      rw [passed.2, eq_comm, decide_eq_true_eq] at returned
      rw [missing, arrives]
      rcases returned with same | resent
      · dsimp only
        rw [range_eq_nil (le_of_eq same), ite_self]
      · exact if_pos resent
    · cases accepted

namespace Recording

variable (recording : session.Recording manager) {call : Traffic}

include recording

theorem traffic (call : Traffic) : ∃ after, (session.traffic call).Recording after := by
  cases call with
  | handleMessage clock message =>
    have called := handleMessage_gapManager recording.validates clock message
    rw [recording.attached] at called
    refine ⟨_, ?_, called, recording.reached.addGapEntries _ _⟩
    cases message with
    | none => exact recording.validates
    | some message => exact handleMessage_validates recording.validates
  | processGaps readings =>
    have called : (session.traffic (.processGaps readings)).sequenceNumGapManager =
        some (manager.processGaps readings).2 := by
      rw [FixSessionManager.traffic, recording.attached]
      rfl
    exact ⟨_, recording.validates, called, recording.reached.step (.processGaps readings) trivial⟩

theorem afterFirst (calls : List Traffic) (count : Nat) :
    ∃ after, (session.afterFirst calls count).Recording after := by
  induction calls generalizing session manager count with
  | nil =>
    rw [FixSessionManager.afterFirst, List.take_nil]
    exact ⟨manager, recording⟩
  | cons call calls ih =>
    cases count with
    | zero => exact ⟨manager, recording⟩
    | succ count =>
      obtain ⟨after, next⟩ := recording.traffic call
      exact ih next count

theorem tracks_eq (seqNum : Int) : session.tracks seqNum = (manager.hasGap seqNum).1 := by
  unfold tracks
  rw [recording.attached]
  rfl

theorem tracks_traffic (undetected : seqNum ∉ session.detectedBy call)
    (found : (session.traffic call).tracks seqNum = true) : session.tracks seqNum = true := by
  rw [recording.tracks_eq]
  cases call with
  | handleMessage clock message =>
    have called := handleMessage_gapManager recording.validates clock message
    rw [recording.attached] at called
    have after : (session.traffic (.handleMessage clock message)).tracks seqNum =
        ((manager.addGapEntries clock.now (session.missing message)).hasGap seqNum).1 := by
      rw [FixSessionManager.traffic, tracks, called]
      rfl
    rw [after, tracked_addGapEntries recording.reached _ (nodup_missing _ _)] at found
    rcases found with before | added
    · exact before
    · exact absurd (List.mem_of_mem_filter (List.mem_of_mem_take added)) undetected
  | processGaps readings =>
    apply (processGaps_tracked recording.reached readings).2
    rw [FixSessionManager.traffic, tracks, recording.attached] at found
    exact found

theorem tracks_requested (requested : seqNum ∈ session.requestedBy call) :
    session.tracks seqNum = true := by
  cases call with
  | handleMessage clock message => cases requested
  | processGaps readings =>
    rw [recording.tracks_eq]
    apply (processGaps_tracked recording.reached readings).1
    rw [requestedBy, recording.attached] at requested
    exact requested

theorem tracks_accepted (accepted : session.acceptedBy call = some seqNum) (other : Int) :
    (session.traffic call).tracks other = session.tracks other := by
  cases call with
  | handleMessage clock message =>
    have called := handleMessage_gapManager recording.validates clock message
    rw [missing_of_accepted accepted, map_addGapEntries_nil] at called
    rw [FixSessionManager.traffic, tracks, called]
    rfl
  | processGaps readings => cases accepted

end Recording

theorem afterFirst_succ {index : Nat} {call : Traffic} (here : calls[index]? = some call) :
    session.afterFirst calls (index + 1) = (session.afterFirst calls index).traffic call := by
  rw [afterFirst, List.take_add_one, here]
  exact List.foldl_append

/-- A number that is tracked later was found missing in between. -/
theorem Recording.detected_between (recording : session.Recording manager)
    {first last : Nat} (forgotten : (session.afterFirst calls first).tracks seqNum = false)
    (behind : first ≤ last) (within : last ≤ calls.length)
    (tracked : (session.afterFirst calls last).tracks seqNum = true) :
    ∃ between again, first ≤ between ∧ between < last ∧ calls[between]? = some again ∧
      seqNum ∈ (session.afterFirst calls between).detectedBy again := by
  induction last, behind using Nat.le_induction with
  | base =>
    rw [forgotten] at tracked
    cases tracked
  | succ last behind ih =>
    obtain ⟨call, here⟩ : ∃ call, calls[last]? = some call := ⟨_, List.getElem?_eq_getElem within⟩
    obtain ⟨after, recording⟩ := recording.afterFirst calls last
    by_cases detected : seqNum ∈ (session.afterFirst calls last).detectedBy call
    · exact ⟨last, call, behind, Nat.lt_succ_self last, here, detected⟩
    · rw [afterFirst_succ here] at tracked
      obtain ⟨between, again, since, before, there, missing⟩ :=
        ih (Nat.le_of_lt within) (recording.tracks_traffic detected tracked)
      exact ⟨between, again, since, Nat.lt_succ_of_lt before, there, missing⟩

/-- A run closes its gaps exactly if no number is tracked when it is accepted: accepting a message
does not touch the entry for its number. -/
theorem closesGaps_iff (recording : session.Recording manager) (calls : List Traffic) :
    session.ClosesGaps calls ↔
      ∀ index call seqNum, calls[index]? = some call →
        (session.afterFirst calls index).acceptedBy call = some seqNum →
          (session.afterFirst calls index).tracks seqNum = false := by
  constructor
  · intro closes index call seqNum here accepted
    obtain ⟨after, recording⟩ := recording.afterFirst calls index
    rw [← recording.tracks_accepted accepted, ← afterFirst_succ here]
    exact (closes index call seqNum here accepted).1
  · intro untracked index call seqNum here accepted
    have forgotten : (session.afterFirst calls (index + 1)).tracks seqNum = false := by
      obtain ⟨after, recording⟩ := recording.afterFirst calls index
      rw [afterFirst_succ here, recording.tracks_accepted accepted]
      exact untracked index call seqNum here accepted
    refine ⟨forgotten, fun later pass behind passes requested => ?_⟩
    have short : later < calls.length := (List.getElem?_eq_some_iff.mp passes).1
    obtain ⟨after, still⟩ := recording.afterFirst calls later
    exact recording.detected_between forgotten behind short.le (still.tracks_requested requested)

/-- Heartbeats with these numbers, and a pass after twenty seconds. -/
def sampleTraffic (numbers : List Nat) : List Traffic :=
  (numbers.map fun number =>
    .handleMessage Journal.sampleClock (some (Journal.sampleHeartbeat number false))) ++
      [.processGaps fun _ => ⟨20000000000, 20000000000⟩]

theorem gapSession_recording : gapSession.Recording SequenceNumGapManager.new :=
  ⟨rfl, rfl, .start rfl⟩

/-- Heartbeat 1 is accepted, and 4 opens a gap. -/
theorem closesGaps_open : gapSession.ClosesGaps (sampleTraffic [1, 4]) := by
  apply (closesGaps_iff gapSession_recording _).mpr
  intro index call seqNum here accepted
  match index with
  | 0 =>
    cases here
    have one : (gapSession.afterFirst (sampleTraffic [1, 4]) 0).acceptedBy
        (.handleMessage Journal.sampleClock (some (Journal.sampleHeartbeat 1 false))) = some 1 := by
      decide +kernel
    cases one.symm.trans accepted
    decide +kernel
  | 1 =>
    cases here
    have none : (gapSession.afterFirst (sampleTraffic [1, 4]) 1).acceptedBy
        (.handleMessage Journal.sampleClock (some (Journal.sampleHeartbeat 4 false))) = none := by
      decide +kernel
    cases none.symm.trans accepted
  | 2 =>
    cases here
    cases accepted
  | index + 3 => cases here

/-- Heartbeat 3 opens a gap, and heartbeat 1 arrives in order. It stays tracked, and the next pass
requests it again. -/
theorem filled_gap_requested_again :
    (gapSession.afterFirst (sampleTraffic [3, 1]) 1).acceptedBy
        (.handleMessage Journal.sampleClock (some (Journal.sampleHeartbeat 1 false))) = some 1 ∧
      (gapSession.afterFirst (sampleTraffic [3, 1]) 2).tracks 1 = true ∧
      (gapSession.afterFirst (sampleTraffic [3, 1]) 2).requestedBy
        (.processGaps fun _ => ⟨20000000000, 20000000000⟩) = [1, 2] ∧
      ¬ gapSession.ClosesGaps (sampleTraffic [3, 1]) := by
  have accepted : (gapSession.afterFirst (sampleTraffic [3, 1]) 1).acceptedBy
      (.handleMessage Journal.sampleClock (some (Journal.sampleHeartbeat 1 false))) = some 1 := by
    decide +kernel
  have tracked : (gapSession.afterFirst (sampleTraffic [3, 1]) 2).tracks 1 = true := by
    decide +kernel
  refine ⟨accepted, tracked, by decide +kernel, fun closes => ?_⟩
  have forgotten := (closes 1 _ 1 rfl accepted).1
  rw [tracked] at forgotten
  cases forgotten

end Close

end FixSessionManager

end FixGateway.Manager
