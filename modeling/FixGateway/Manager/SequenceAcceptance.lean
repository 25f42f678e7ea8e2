import FixGateway.Manager.InboundNumbering

/-! # Which messages the sequence check accepts

The sequence check accepts a live message exactly when it carries the expected
number, and a resent one always. As long as no SequenceReset interferes, the
expected number is then determined by the accepted numbers (`acceptance_exact`).
A SequenceReset stores its NewSeqNo without looking at the expected number; where
it does not move that number back, nothing is accepted twice
(`reset_reopens_nothing`).

The results do not need a gap manager.
-/

namespace FixGateway.Manager

open ByteScan Protocol

/-! ## One arrival -/

namespace Arrival

variable (arrival : Arrival) (expected : Int)

/-- The check accepts the arrival. -/
def Accepted : Prop := arrival.number = expected ∨ arrival.resent = true

instance : Decidable (arrival.Accepted expected) := inferInstanceAs (Decidable (_ ∨ _))

/-- The expected number after the check. -/
def next : Int :=
  if arrival.number = expected then wrapInt (expected + 1)
  else if expected < arrival.number ∧ arrival.resent = true then wrapInt (arrival.number + 1)
  else expected

variable {arrival expected}

/-- Below the largest `int`, an accepted arrival moves the expected number past its
own, and never back. -/
theorem next_of_accepted (accepted : arrival.Accepted expected)
    (small : arrival.number < 2 ^ 31 - 1) :
    arrival.next expected = max (arrival.number + 1) expected := by
  obtain ⟨low, high⟩ := arrival.inRange
  unfold next
  split_ifs with same ahead
  · rw [← same, wrapInt_of_bounds (by omega) (by omega)]
    omega
  · rw [wrapInt_of_bounds (by omega) (by omega)]
    omega
  · have resent := accepted.resolve_left same
    have behind : ¬ expected < arrival.number := fun ahead' => ahead ⟨ahead', resent⟩
    omega

theorem next_of_not_accepted (refused : ¬ arrival.Accepted expected) :
    arrival.next expected = expected := by
  unfold Accepted at refused
  unfold next
  rw [if_neg (fun same => refused (.inl same)), if_neg (fun ahead => refused (.inr ahead.2))]

end Arrival

namespace FixSessionManager

section Check

variable {session : FixSessionManager} {clock : SessionClock} {message : FixMessage}
  {arrival : Arrival}

theorem arrival_eq_some (arrives : session.arrival (some message) = some arrival) :
    session.reachesCheck message = true ∧ msgSeqNum message = some arrival.number ∧
      isResend message = arrival.resent := by
  cases reached : session.reachesCheck message with
  | false => simp [FixSessionManager.arrival, reached] at arrives
  | true =>
    cases read : msgSeqNum message with
    | none =>
      rw [arrival_of_unread read] at arrives
      cases arrives
    | some number =>
      rw [arrival_of_read reached read] at arrives
      cases arrives
      exact ⟨rfl, rfl, rfl⟩

theorem validateSequenceNumber_of_arrival (clock : SessionClock)
    (arrives : session.arrival (some message) = some arrival) :
    (session.validateSequenceNumber clock message).1 =
        decide (arrival.Accepted session.expectedIncomingSeqNum) ∧
      (session.validateSequenceNumber clock message).2.expectedIncomingSeqNum =
        arrival.next session.expectedIncomingSeqNum := by
  obtain ⟨-, read, flag⟩ := arrival_eq_some arrives
  obtain ⟨text, present, parsed⟩ := Option.bind_eq_some_iff.mp read
  obtain ⟨number, resent, inRange⟩ := arrival
  unfold validateSequenceNumber Arrival.Accepted Arrival.next
  simp only at present parsed flag ⊢
  simp only [present, parsed, flag]
  by_cases same : number = session.expectedIncomingSeqNum
  · simp [same]
  · by_cases ahead : session.expectedIncomingSeqNum < number
    · cases resent <;> simp [same, ahead]
    · cases resent <;> simp [same, ahead]

theorem validateSequenceNumber_expected_of_fails (reached : session.reachesCheck message = true)
    (fails : (session.validateSequenceNumber clock message).1 = false) :
    (session.validateSequenceNumber clock message).2.expectedIncomingSeqNum =
      session.expectedIncomingSeqNum := by
  cases read : msgSeqNum message with
  | none => rw [validateSequenceNumber_unread read]
  | some number =>
    obtain ⟨returned, moved⟩ :=
      validateSequenceNumber_of_arrival clock (arrival_of_read reached read)
    rw [returned, decide_eq_false_iff_not] at fails
    rw [moved, Arrival.next_of_not_accepted fails]

end Check

/-! ## One call -/

/-- The number that a SequenceReset asks for. -/
def resetTo (message : FixMessage) : Option Int :=
  if message.getField FixFields.msgType = some (ascii "4") then
    (message.getField FixFields.newSeqNo).bind stoi
  else none

section Call

variable {session : FixSessionManager} {clock : SessionClock} {message : FixMessage}
  {arrival : Arrival} {msgType : Bytes}

theorem dispatch_expected (typed : message.getField FixFields.msgType = some msgType) :
    (session.dispatch clock msgType message).2.expectedIncomingSeqNum =
      (resetTo message).getD session.expectedIncomingSeqNum := by
  by_cases reset : msgType = ascii "4"
  · unfold resetTo
    rw [typed, if_pos (by rw [reset]), reset]
    change (session.handleSequenceReset message).2.expectedIncomingSeqNum = _
    unfold handleSequenceReset
    split <;> rename_i read <;> rw [read] <;> rfl
  · unfold resetTo
    rw [if_neg (fun same => reset (Option.some.inj (typed.symm.trans same)))]
    exact congrArg InboundView.expected (session.dispatch_inboundView clock reset)

theorem dispatch_validates :
    (session.dispatch clock msgType message).2.config.validateSequenceNumbers =
      session.config.validateSequenceNumbers := by
  by_cases reset : msgType = ascii "4"
  · rw [reset]
    change (session.handleSequenceReset message).2.config.validateSequenceNumbers = _
    unfold handleSequenceReset
    split <;> rfl
  · exact congrArg InboundView.validates (session.dispatch_inboundView clock reset)

section

variable (validates : session.config.validateSequenceNumbers = true)
include validates

theorem handleMessage_expected_of_no_arrival (absent : session.arrival (some message) = none) :
    (session.handleMessage clock (some message)).2.expectedIncomingSeqNum =
      session.expectedIncomingSeqNum := by
  cases reached : session.reachesCheck message with
  | false => exact congrArg InboundView.expected (handleMessage_unchecked reached)
  | true =>
    have unread : msgSeqNum message = none := by
      by_contra present
      obtain ⟨number, read⟩ := Option.ne_none_iff_exists'.mp present
      rw [arrival_of_read reached read] at absent
      cases absent
    obtain ⟨msgType, -, called⟩ := handleMessage_of_reached clock validates reached
    rw [called, validateSequenceNumber_unread unread]
    rfl

/-- Where a call leaves the expected number. -/
theorem handleMessage_expected (arrives : session.arrival (some message) = some arrival) :
    (session.handleMessage clock (some message)).2.expectedIncomingSeqNum =
      if arrival.Accepted session.expectedIncomingSeqNum then
        (resetTo message).getD (arrival.next session.expectedIncomingSeqNum)
      else session.expectedIncomingSeqNum := by
  obtain ⟨reached, -, -⟩ := arrival_eq_some arrives
  obtain ⟨msgType, typed, called⟩ := handleMessage_of_reached clock validates reached
  obtain ⟨returned, moved⟩ := validateSequenceNumber_of_arrival clock arrives
  rw [called, returned]
  dsimp only
  split_ifs with accepted accepted' accepted'
  · rw [dispatch_expected typed, ← moved]
  · exact absurd (of_decide_eq_true accepted) accepted'
  · exact absurd (decide_eq_true accepted') accepted
  · exact moved.trans (Arrival.next_of_not_accepted accepted')

theorem handleMessage_validates :
    (session.handleMessage clock (some message)).2.config.validateSequenceNumbers = true := by
  cases reached : session.reachesCheck message with
  | false =>
    exact (congrArg InboundView.validates (handleMessage_unchecked reached)).trans validates
  | true =>
    obtain ⟨msgType, -, called⟩ := handleMessage_of_reached clock validates reached
    obtain ⟨expected, gapManager, -, checked⟩ := session.validateSequenceNumber_frame clock message
    rw [called, checked]
    dsimp only
    split
    · rw [dispatch_validates]
      exact validates
    · exact validates

/-- A message that fails the check has no effect on the session and its queues. -/
theorem handleMessage_of_fails (reached : session.reachesCheck message = true)
    (fails : (session.validateSequenceNumber clock message).1 = false) :
    (session.handleMessage clock (some message)).2.expectedIncomingSeqNum =
        session.expectedIncomingSeqNum ∧
      (session.handleMessage clock (some message)).2.sessionState = session.sessionState ∧
      (session.handleMessage clock (some message)).2.outboundQueues = session.outboundQueues := by
  obtain ⟨msgType, -, called⟩ := handleMessage_of_reached clock validates reached
  obtain ⟨expected, gapManager, -, checked⟩ := session.validateSequenceNumber_frame clock message
  have kept := validateSequenceNumber_expected_of_fails reached fails
  rw [checked] at kept
  rw [called, fails, checked]
  exact ⟨kept, rfl, rfl⟩

end

end Call

end FixSessionManager

/-! ## Runs -/

namespace FixSessionManager

variable {session : FixSessionManager} {message : Option FixMessage}

/-- The arrival of a message for which the sequence check of a call returns true. -/
def acceptedArrival (session : FixSessionManager) (clock : SessionClock) :
    Option FixMessage → Option Arrival
  | none => none
  | some message =>
    if (session.validateSequenceNumber clock message).1 then session.arrival (some message)
    else none

theorem acceptedArrival_of_arrival
    {arrival : Arrival} (clock : SessionClock) (arrives : session.arrival message = some arrival) :
    session.acceptedArrival clock message =
      if arrival.Accepted session.expectedIncomingSeqNum then some arrival else none := by
  cases message with
  | none => cases arrives
  | some message =>
    obtain ⟨returned, -⟩ := validateSequenceNumber_of_arrival clock arrives
    unfold acceptedArrival
    simp only [returned, arrives, decide_eq_true_eq]

theorem acceptedArrival_of_no_arrival (clock : SessionClock)
    (absent : session.arrival message = none) : session.acceptedArrival clock message = none := by
  cases message with
  | none => rfl
  | some message =>
    unfold acceptedArrival
    simp only [absent, ite_self]

end FixSessionManager

/-- A session manager with the arrivals that its checks accepted, newest first. -/
structure Acceptance where
  session : FixSessionManager
  accepted : List Arrival

namespace Acceptance

/-- One more call of `handleMessage`. -/
def call (acceptance : Acceptance) (clock : SessionClock) (message : Option FixMessage) :
    Acceptance where
  session := (acceptance.session.handleMessage clock message).2
  accepted := (acceptance.session.acceptedArrival clock message).toList ++ acceptance.accepted

/-- The numbers accepted without PossDupFlag `Y`, newest first. -/
def liveNumbers (acceptance : Acceptance) : List Int :=
  (acceptance.accepted.filter fun arrival => !arrival.resent).map Arrival.number

/-- Calls of `handleMessage` on permitted messages. Between two calls anything may
happen that leaves the expected number and the sequence check alone. -/
inductive Leads (permitted : FixSessionManager → Option FixMessage → Prop)
    (first : Acceptance) : Acceptance → Prop where
  | refl : Leads permitted first first
  | call {second : Acceptance} (leads : Leads permitted first second) (clock : SessionClock)
      {message : Option FixMessage} (allowed : permitted second.session message) :
      Leads permitted first (second.call clock message)
  | interleave {second : Acceptance} (leads : Leads permitted first second)
      {session : FixSessionManager}
      (expected : session.expectedIncomingSeqNum = second.session.expectedIncomingSeqNum)
      (validates : session.config.validateSequenceNumbers =
        second.session.config.validateSequenceNumbers) :
      Leads permitted first { second with session := session }

/-- No SequenceReset, and a number with a successor among the `int` values. -/
def Ordinary (session : FixSessionManager) (message : Option FixMessage) : Prop :=
  Journal.KeepsNumbering message ∧ ∀ arrival ∈ session.arrival message, arrival.number < 2 ^ 31 - 1

instance (session : FixSessionManager) (message : Option FixMessage) :
    Decidable (Ordinary session message) :=
  inferInstanceAs (Decidable (_ ∧ ∀ arrival ∈ _, _ < _))

/-- An accepted SequenceReset does not move the expected number back, and forward if
it is live. Any other accepted message has a number with a successor. -/
def Forward (session : FixSessionManager) (message : Option FixMessage) : Prop :=
  ∀ given ∈ message, ∀ arrival ∈ session.arrival message,
    arrival.Accepted session.expectedIncomingSeqNum →
      (∀ newSeqNo ∈ FixSessionManager.resetTo given,
        session.expectedIncomingSeqNum ≤ newSeqNo ∧
          (arrival.resent = false → session.expectedIncomingSeqNum < newSeqNo)) ∧
      (FixSessionManager.resetTo given = none → arrival.number < 2 ^ 31 - 1)

instance (session : FixSessionManager) (message : Option FixMessage) :
    Decidable (Forward session message) :=
  inferInstanceAs (Decidable (∀ given ∈ _, ∀ arrival ∈ _, _ → (∀ newSeqNo ∈ _, _) ∧ _))

section Lemmas

variable {acceptance first second : Acceptance} {message : Option FixMessage}
  {permitted : FixSessionManager → Option FixMessage → Prop} {session : FixSessionManager}
  {arrival : Arrival}

theorem forward_of_ordinary (ordinary : Ordinary session message) : Forward session message := by
  intro given member arrival arrives _
  have keeps : FixSessionManager.resetTo given = none := if_neg (ordinary.1 given member)
  refine ⟨fun newSeqNo reset => ?_, fun _ => ordinary.2 arrival arrives⟩
  rw [keeps] at reset
  cases reset

/-- A call accepts nothing and leaves the expected number alone, or accepts an arrival. -/
theorem call_cases (acceptance : Acceptance) (clock : SessionClock) (message : Option FixMessage)
    (validates : acceptance.session.config.validateSequenceNumbers = true) :
    ((acceptance.call clock message).accepted = acceptance.accepted ∧
      (acceptance.call clock message).session.expectedIncomingSeqNum =
        acceptance.session.expectedIncomingSeqNum) ∨
    ∃ given arrival, message = some given ∧ acceptance.session.arrival message = some arrival ∧
      arrival.Accepted acceptance.session.expectedIncomingSeqNum ∧
      (acceptance.call clock message).accepted = arrival :: acceptance.accepted ∧
      (acceptance.call clock message).session.expectedIncomingSeqNum =
        (FixSessionManager.resetTo given).getD
          (arrival.next acceptance.session.expectedIncomingSeqNum) := by
  unfold call
  cases message with
  | none => exact .inl ⟨rfl, rfl⟩
  | some given =>
    cases arrives : acceptance.session.arrival (some given) with
    | none =>
      rw [FixSessionManager.acceptedArrival_of_no_arrival clock arrives]
      exact .inl ⟨rfl, FixSessionManager.handleMessage_expected_of_no_arrival validates arrives⟩
    | some arrival =>
      have moved :
          (acceptance.session.handleMessage clock (some given)).2.expectedIncomingSeqNum
          = _ := FixSessionManager.handleMessage_expected validates arrives
      rw [FixSessionManager.acceptedArrival_of_arrival clock arrives]
      by_cases accepted : arrival.Accepted acceptance.session.expectedIncomingSeqNum
      · rw [if_pos accepted] at moved ⊢
        exact .inr ⟨given, arrival, rfl, rfl, accepted, rfl, moved⟩
      · rw [if_neg accepted] at moved ⊢
        exact .inl ⟨rfl, moved⟩

theorem call_validates (clock : SessionClock)
    (validates : acceptance.session.config.validateSequenceNumbers = true) :
    (acceptance.call clock message).session.config.validateSequenceNumbers = true := by
  cases message with
  | none => exact validates
  | some given => exact FixSessionManager.handleMessage_validates validates

theorem Leads.validates (leads : Leads permitted first second)
    (validates : first.session.config.validateSequenceNumbers = true) :
    second.session.config.validateSequenceNumbers = true := by
  induction leads with
  | refl => exact validates
  | call _ clock _ ih => exact call_validates clock ih
  | interleave _ _ same ih => exact same.trans ih

/-- A forward call keeps the expected number or moves it on, past the number of a live
message that it accepts. -/
theorem forward_bounds {given : FixMessage} (forward : Forward acceptance.session (some given))
    (arrives : acceptance.session.arrival (some given) = some arrival)
    (accepted : arrival.Accepted acceptance.session.expectedIncomingSeqNum) :
    acceptance.session.expectedIncomingSeqNum ≤
        (FixSessionManager.resetTo given).getD
          (arrival.next acceptance.session.expectedIncomingSeqNum) ∧
      (arrival.resent = false → arrival.number <
        (FixSessionManager.resetTo given).getD
          (arrival.next acceptance.session.expectedIncomingSeqNum)) := by
  obtain ⟨resets, small⟩ := forward given rfl arrival arrives accepted
  cases reset : FixSessionManager.resetTo given with
  | none =>
    rw [Option.getD_none, Arrival.next_of_accepted accepted (small reset)]
    omega
  | some newSeqNo =>
    have bounds := resets newSeqNo reset
    refine ⟨bounds.1, fun live => ?_⟩
    have same : arrival.number = acceptance.session.expectedIncomingSeqNum :=
      accepted.resolve_right (by rw [live]; exact Bool.false_ne_true)
    rw [same]
    exact bounds.2 live

/-- The expected number never goes back. -/
theorem Leads.expected_le (leads : Leads Forward first second)
    (validates : first.session.config.validateSequenceNumbers = true) :
    first.session.expectedIncomingSeqNum ≤ second.session.expectedIncomingSeqNum := by
  induction leads with
  | refl => exact le_refl _
  | @call second leads clock message allowed ih =>
    obtain ⟨-, same⟩ | ⟨given, arrival, rfl, arrives, accepted, -, moved⟩ :=
      second.call_cases clock message (leads.validates validates)
    · rw [same]
      exact ih
    · rw [moved]
      exact ih.trans (forward_bounds allowed arrives accepted).1
  | interleave _ same _ ih => exact ih.trans same.ge

/-- The live accepted numbers strictly increase, up to the expected one. -/
structure Ordered (acceptance : Acceptance) : Prop where
  below : ∀ number ∈ acceptance.liveNumbers, number < acceptance.session.expectedIncomingSeqNum
  decreasing : acceptance.liveNumbers.Pairwise (· > ·)

theorem liveNumbers_of_resent (same : second.accepted = arrival :: first.accepted)
    (resent : arrival.resent = true) : second.liveNumbers = first.liveNumbers := by
  unfold liveNumbers
  rw [same, List.filter_cons_of_neg (by simp [resent])]

theorem liveNumbers_of_live (same : second.accepted = arrival :: first.accepted)
    (live : arrival.resent = false) : second.liveNumbers = arrival.number :: first.liveNumbers := by
  unfold liveNumbers
  rw [same, List.filter_cons_of_pos (by simp [live]), List.map_cons]

theorem Ordered.call (ordered : acceptance.Ordered) (clock : SessionClock)
    (validates : acceptance.session.config.validateSequenceNumbers = true)
    (forward : Forward acceptance.session message) : (acceptance.call clock message).Ordered := by
  obtain ⟨same, kept⟩ | ⟨given, arrival, rfl, arrives, accepted, grown, moved⟩ :=
    acceptance.call_cases clock message validates
  · have numbers : (acceptance.call clock message).liveNumbers = acceptance.liveNumbers := by
      unfold liveNumbers
      rw [same]
    refine ⟨?_, ?_⟩
    · rw [numbers, kept]
      exact ordered.below
    · rw [numbers]
      exact ordered.decreasing
  · obtain ⟨onward, past⟩ := forward_bounds forward arrives accepted
    rw [← moved] at onward past
    cases resent : arrival.resent with
    | true =>
      have numbers := liveNumbers_of_resent grown resent
      refine ⟨fun number member => ?_, ?_⟩
      · rw [numbers] at member
        exact (ordered.below number member).trans_le onward
      · rw [numbers]
        exact ordered.decreasing
    | false =>
      have numbers := liveNumbers_of_live grown resent
      have same : arrival.number = acceptance.session.expectedIncomingSeqNum :=
        accepted.resolve_right (by rw [resent]; exact Bool.false_ne_true)
      refine ⟨fun number member => ?_, ?_⟩
      · rw [numbers] at member
        obtain rfl | member := List.mem_cons.mp member
        · exact past resent
        · exact (ordered.below number member).trans_le onward
      · rw [numbers, same]
        exact List.pairwise_cons.mpr ⟨ordered.below, ordered.decreasing⟩

theorem Leads.ordered (leads : Leads Forward first second)
    (validates : first.session.config.validateSequenceNumbers = true) (ordered : first.Ordered) :
    second.Ordered := by
  induction leads with
  | refl => exact ordered
  | call leads clock allowed ih => exact ih.call clock (leads.validates validates) allowed
  | interleave _ same _ ih =>
    refine ⟨fun number member => ?_, ih.decreasing⟩
    rw [same]
    exact ih.below number member

theorem Leads.forward (leads : Leads Ordinary first second) : Leads Forward first second := by
  induction leads with
  | refl => exact .refl
  | call _ clock allowed ih => exact ih.call clock (forward_of_ordinary allowed)
  | interleave _ expected validates ih => exact ih.interleave expected validates

/-- The expected number is the first one, or the successor of the largest accepted. -/
theorem Leads.expected_eq (leads : Leads Ordinary ⟨session, []⟩ acceptance)
    (validates : session.config.validateSequenceNumbers = true) :
    acceptance.session.expectedIncomingSeqNum =
      (acceptance.accepted.map fun arrival => arrival.number + 1).foldr max
        session.expectedIncomingSeqNum := by
  induction leads with
  | refl => rfl
  | @call second leads clock message allowed ih =>
    obtain ⟨same, kept⟩ | ⟨given, arrival, rfl, arrives, accepted, grown, moved⟩ :=
      second.call_cases clock message (leads.validates validates)
    · rw [same, kept]
      exact ih
    · have keeps : FixSessionManager.resetTo given = none := if_neg (allowed.1 given rfl)
      rw [grown, moved, keeps, Option.getD_none, List.map_cons, List.foldr_cons, ← ih]
      exact Arrival.next_of_accepted accepted (allowed.2 arrival arrives)
  | interleave _ same _ ih => exact same.trans ih

end Lemmas

/-- The sequence check over runs without SequenceReset, from any expected number: it
equals that number or the successor of the largest accepted one, whichever is larger;
live messages are accepted in strictly increasing order, each when its number is
expected; resent ones are always accepted; and a message that fails the check changes
neither the expected number nor the session state nor the outbound queues. -/
theorem acceptance_exact {session : FixSessionManager} {acceptance : Acceptance}
    (validates : session.config.validateSequenceNumbers = true)
    (leads : Leads Ordinary ⟨session, []⟩ acceptance) :
    acceptance.session.expectedIncomingSeqNum =
        (acceptance.accepted.map fun arrival => arrival.number + 1).foldr max
          session.expectedIncomingSeqNum ∧
      acceptance.liveNumbers.Pairwise (· > ·) ∧
      (∀ clock message arrival, acceptance.session.acceptedArrival clock message = some arrival →
        arrival.resent = false → arrival.number = acceptance.session.expectedIncomingSeqNum) ∧
      (∀ clock message arrival, acceptance.session.arrival message = some arrival →
        arrival.resent = true → acceptance.session.acceptedArrival clock message = some arrival) ∧
      ∀ clock message, acceptance.session.reachesCheck message = true →
        (acceptance.session.validateSequenceNumber clock message).1 = false →
          let after := (acceptance.session.handleMessage clock (some message)).2
          after.expectedIncomingSeqNum = acceptance.session.expectedIncomingSeqNum ∧
            after.sessionState = acceptance.session.sessionState ∧
            after.outboundQueues = acceptance.session.outboundQueues := by
  have checks := leads.validates validates
  have ordered := leads.forward.ordered validates ⟨nofun, List.Pairwise.nil⟩
  refine ⟨leads.expected_eq validates, ordered.decreasing, ?_, ?_, ?_⟩
  · intro clock message arrival accepted live
    cases arrives : acceptance.session.arrival message with
    | none =>
      rw [FixSessionManager.acceptedArrival_of_no_arrival clock arrives] at accepted
      cases accepted
    | some other =>
      rw [FixSessionManager.acceptedArrival_of_arrival clock arrives,
        Option.ite_none_right_eq_some] at accepted
      obtain ⟨accepted, same⟩ := accepted
      cases same
      exact accepted.resolve_right (by rw [live]; exact Bool.false_ne_true)
  · intro clock message arrival arrives resent
    rw [FixSessionManager.acceptedArrival_of_arrival clock arrives]
    exact if_pos (.inr resent)
  · intro clock message reached fails
    exact FixSessionManager.handleMessage_of_fails checks reached fails

/-- A new session after heartbeat 1. -/
def sampleFirst : Acceptance :=
  (Acceptance.mk Journal.sampleJournal.session []).call Journal.sampleClock
    (Journal.sampleHeartbeat 1 false)

/-- Heartbeat 3 is refused, and heartbeat 5 resent is accepted. -/
def sampleResent : Acceptance :=
  (sampleFirst.call Journal.sampleClock (Journal.sampleHeartbeat 3 false)).call Journal.sampleClock
    (Journal.sampleHeartbeat 5 true)

theorem acceptance_exact_resent :
    sampleResent.session.expectedIncomingSeqNum = 6 ∧
      sampleResent.session.expectedIncomingSeqNum =
        (sampleResent.accepted.map fun arrival => arrival.number + 1).foldr max 1 := by
  have first : Leads Ordinary ⟨Journal.sampleJournal.session, []⟩ sampleFirst :=
    Leads.refl.call Journal.sampleClock (by decide +kernel)
  have refused : Leads Ordinary ⟨Journal.sampleJournal.session, []⟩
      (sampleFirst.call Journal.sampleClock (Journal.sampleHeartbeat 3 false)) :=
    first.call Journal.sampleClock (by decide +kernel)
  have resent : Leads Ordinary ⟨Journal.sampleJournal.session, []⟩ sampleResent :=
    refused.call Journal.sampleClock (by decide +kernel)
  exact ⟨by decide +kernel, (acceptance_exact rfl resent).1⟩

/-- As long as every accepted SequenceReset moves forward, the expected number never
goes back along a run and no number is accepted live twice. -/
theorem reset_reopens_nothing {session : FixSessionManager} {first second : Acceptance}
    (validates : session.config.validateSequenceNumbers = true)
    (start : Leads Forward ⟨session, []⟩ first) (later : Leads Forward first second) :
    first.session.expectedIncomingSeqNum ≤ second.session.expectedIncomingSeqNum ∧
      second.liveNumbers.Nodup := by
  have checks := start.validates validates
  have ordered := start.ordered validates ⟨nofun, List.Pairwise.nil⟩
  refine ⟨later.expected_le checks, ?_⟩
  have decreasing := (later.ordered checks ordered).decreasing
  exact decreasing.imp fun above => above.ne'

/-- A SequenceReset from the broker. -/
def sampleReset (number newSeqNo : Nat) : FixMessage :=
  (Journal.sampleHeartbeat number false).setFields
    [(FixFields.msgType, ascii "4"), (FixFields.newSeqNo, decimal newSeqNo)]

theorem reset_reopens_nothing_forward :
    sampleFirst.session.expectedIncomingSeqNum ≤
        (sampleFirst.call Journal.sampleClock
          (sampleReset 2 9)).session.expectedIncomingSeqNum ∧
      (sampleFirst.call Journal.sampleClock (sampleReset 2 9)).liveNumbers.Nodup := by
  have first : Leads Forward ⟨Journal.sampleJournal.session, []⟩ sampleFirst :=
    Leads.refl.call Journal.sampleClock (by decide +kernel)
  have reset : Leads Forward sampleFirst
      (sampleFirst.call Journal.sampleClock (sampleReset 2 9)) :=
    Leads.refl.call Journal.sampleClock (by decide +kernel)
  exact reset_reopens_nothing rfl first reset

/-- After a SequenceReset to 1, heartbeat 1 is accepted a second time. -/
theorem reset_reopens_numbers :
    let reset := sampleFirst.call Journal.sampleClock (sampleReset 2 1)
    let again := reset.call Journal.sampleClock (Journal.sampleHeartbeat 1 false)
    reset.session.expectedIncomingSeqNum < sampleFirst.session.expectedIncomingSeqNum ∧
      ¬ again.liveNumbers.Nodup := by
  decide +kernel

end Acceptance

end FixGateway.Manager
