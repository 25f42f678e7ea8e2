import FixGateway.Manager.FixSessionManager

/-! # Inbound sequence numbers over whole runs

A `Ledger` says what the sequence check does to the numbers alone: which were
accepted, which were passed to the gap manager, and which arrived live, that is
without PossDupFlag `Y`. A `Journal` collects the same numbers from the calls of
`handleMessage`, and its calls are the arrivals of the ledger
(`Journal.call_ledger`).

A resent message that is ahead of the expected number moves the expected number
past it, and nothing asks for the numbers in between. So no number is skipped as
long as every such message lies below one that has already arrived live, and the
first one that does not skips a number at once (`Journal.run_covers_numbers`).
-/

namespace FixGateway.Manager

open ByteScan Protocol

/-! ## The ledger -/

/-- A message as the sequence check sees it. -/
structure Arrival where
  number : Int
  /-- The message has PossDupFlag `Y`. -/
  resent : Bool
  inRange : -2 ^ 31 ≤ number ∧ number < 2 ^ 31
  deriving DecidableEq

/-- The numbers of a run so far, newest first. -/
structure Ledger where
  expected : Int
  accepted : List Int
  requested : List Int
  live : List Int
  deriving DecidableEq, Repr

namespace Ledger

/-- Accept a number and expect the given one next. -/
def accept (ledger : Ledger) (number expected : Int) : Ledger :=
  { ledger with expected := expected, accepted := number :: ledger.accepted }

/-- Request every number from the expected one up to the given one. -/
def request (ledger : Ledger) (number : Int) : Ledger :=
  { ledger with
    requested := (Int.range ledger.expected number).reverse ++ ledger.requested }

/-- The effect of the sequence check on an arrival. -/
def check (ledger : Ledger) (arrival : Arrival) : Ledger :=
  if arrival.number = ledger.expected then
    ledger.accept arrival.number (wrapInt (ledger.expected + 1))
  else if ledger.expected < arrival.number then
    if arrival.resent then ledger.accept arrival.number (wrapInt (arrival.number + 1))
    else ledger.request arrival.number
  else if arrival.resent then ledger.accept arrival.number ledger.expected
  else ledger

/-- Check an arrival and note its number if it is live. -/
def arrive (ledger : Ledger) (arrival : Arrival) : Ledger :=
  { ledger.check arrival with
    live := if arrival.resent then ledger.live else arrival.number :: ledger.live }

/-- A number that was accepted or requested. -/
def Covers (ledger : Ledger) (number : Int) : Prop :=
  number ∈ ledger.accepted ∨ number ∈ ledger.requested

/-- Some live arrival had a number at least this large. -/
def SeenLive (ledger : Ledger) (number : Int) : Prop :=
  ∃ live ∈ ledger.live, number ≤ live

/-- An arrival that does not run ahead of the expected number, or is live, or is
resent with a number that the live arrivals have reached. -/
def Grounded (ledger : Ledger) (arrival : Arrival) : Prop :=
  arrival.resent = true → ledger.expected < arrival.number → ledger.SeenLive arrival.number

/-- No number below the expected one is missing, nor one below a live arrival. -/
structure Complete (ledger : Ledger) : Prop where
  belowExpected : ∀ number, 1 ≤ number → number < ledger.expected → ledger.Covers number
  belowLive : ∀ number, 1 ≤ number → ledger.SeenLive (number + 1) → ledger.Covers number

/-- Every accepted number is below the expected one, and every requested number
below a live arrival. -/
structure Tight (ledger : Ledger) : Prop where
  positive : 1 ≤ ledger.expected
  accepted : ∀ number ∈ ledger.accepted, number < ledger.expected
  requested : ∀ number ∈ ledger.requested, ledger.SeenLive (number + 1)

/-- The ledger at the start of a run. -/
def start : Ledger := ⟨1, [], [], []⟩

section Lemmas

variable {ledger : Ledger} {arrival : Arrival} {number : Int}

theorem complete_start : start.Complete := by
  refine ⟨?_, ?_⟩
  · intro number positive below
    change number < 1 at below
    omega
  · rintro number - ⟨live, arrived, -⟩
    cases arrived

theorem tight_start : start.Tight := by
  refine ⟨le_refl _, ?_, ?_⟩ <;> intro number member <;> cases member

/-- What the check can do with an arrival: accept it and expect its successor,
accept it as an old one, request the numbers before it, or ignore it. -/
theorem check_cases (ledger : Ledger) (arrival : Arrival) :
    (ledger.expected ≤ arrival.number ∧ (arrival.number = ledger.expected ∨ arrival.resent) ∧
      ledger.check arrival = ledger.accept arrival.number (wrapInt (arrival.number + 1))) ∨
    (arrival.number < ledger.expected ∧ arrival.resent ∧
      ledger.check arrival = ledger.accept arrival.number ledger.expected) ∨
    (ledger.expected < arrival.number ∧ arrival.resent = false ∧
      ledger.check arrival = ledger.request arrival.number) ∨
    (arrival.number < ledger.expected ∧ arrival.resent = false ∧
      ledger.check arrival = ledger) := by
  unfold check
  split_ifs with same ahead resent resent
  · exact .inl ⟨same.ge, .inl same, by rw [same]⟩
  · exact .inl ⟨ahead.le, .inr resent, rfl⟩
  · exact .inr (.inr (.inl ⟨ahead, Bool.eq_false_of_not_eq_true resent, rfl⟩))
  · exact .inr (.inl ⟨by omega, resent, rfl⟩)
  · exact .inr (.inr (.inr ⟨by omega, Bool.eq_false_of_not_eq_true resent, rfl⟩))

/-- The number after an arrival is the next one, or wraps around to a smaller one. -/
theorem le_of_lt_wrapInt_succ (below : number < wrapInt (arrival.number + 1)) :
    number ≤ arrival.number := by
  obtain ⟨low, high⟩ := arrival.inRange
  by_cases last : arrival.number + 1 < 2 ^ 31
  · rw [wrapInt_of_bounds (by omega) last] at below
    omega
  · have limit := (wrapInt_bounds (arrival.number + 1)).2
    omega

theorem Covers.accept (covered : ledger.Covers number) (other expected : Int) :
    (ledger.accept other expected).Covers number :=
  covered.imp_left (List.mem_cons_of_mem other)

theorem Covers.request (covered : ledger.Covers number) (other : Int) :
    (ledger.request other).Covers number :=
  covered.imp_right (List.mem_append_right _)

theorem mem_requested_request {other : Int} :
    number ∈ (ledger.request other).requested ↔
      ledger.expected ≤ number ∧ number < other ∨ number ∈ ledger.requested := by
  unfold request
  rw [List.mem_append, List.mem_reverse, Int.mem_range_iff]

theorem Covers.check (covered : ledger.Covers number) (arrival : Arrival) :
    (ledger.check arrival).Covers number := by
  obtain ⟨-, -, eq⟩ | ⟨-, -, eq⟩ | ⟨-, -, eq⟩ | ⟨-, -, eq⟩ := ledger.check_cases arrival <;> rw [eq]
  · exact covered.accept ..
  · exact covered.accept ..
  · exact covered.request ..
  · exact covered

/-- A complete ledger covers every number below a grounded arrival that it checks. -/
theorem Complete.covers_below_arrival (complete : ledger.Complete)
    (grounded : ledger.Grounded arrival) (positive : 1 ≤ number) (below : number < arrival.number) :
    (ledger.check arrival).Covers number := by
  by_cases reached : number < ledger.expected
  · exact (complete.belowExpected number positive reached).check arrival
  · -- The arrival is ahead: either it was reached live before, or it requests the number now.
    obtain ⟨-, accepted, -⟩ | ⟨behind, -⟩ | ⟨-, -, eq⟩ | ⟨behind, -⟩ := ledger.check_cases arrival
    · have resent : arrival.resent = true := accepted.resolve_left (by omega)
      obtain ⟨live, arrived, above⟩ := grounded resent (by omega)
      exact (complete.belowLive number positive ⟨live, arrived, by omega⟩).check arrival
    · omega
    · rw [eq]
      exact .inr (mem_requested_request.mpr (.inl ⟨by omega, below⟩))
    · omega

/-- The check covers every number that the expected one moves past. -/
theorem Complete.covers_below_expected (complete : ledger.Complete)
    (grounded : ledger.Grounded arrival) (positive : 1 ≤ number)
    (below : number < (ledger.check arrival).expected) : (ledger.check arrival).Covers number := by
  obtain ⟨-, -, eq⟩ | ⟨-, -, eq⟩ | ⟨-, -, eq⟩ | ⟨-, -, eq⟩ := ledger.check_cases arrival
  · rw [eq] at below
    obtain lower | same := lt_or_eq_of_le (le_of_lt_wrapInt_succ below)
    · exact complete.covers_below_arrival grounded positive lower
    · rw [eq, same]
      exact .inl List.mem_cons_self
  all_goals
    rw [eq] at below
    exact (complete.belowExpected number positive below).check arrival

theorem Complete.arrive (complete : ledger.Complete) (grounded : ledger.Grounded arrival) :
    (ledger.arrive arrival).Complete where
  belowExpected := fun number positive below =>
    complete.covers_below_expected grounded positive below
  belowLive := by
    rintro number positive ⟨live, arrived, above⟩
    unfold Ledger.arrive at arrived
    dsimp only at arrived
    split_ifs at arrived
    · exact (complete.belowLive number positive ⟨live, arrived, above⟩).check arrival
    · obtain rfl | arrived := List.mem_cons.mp arrived
      · exact complete.covers_below_arrival grounded positive (by omega)
      · exact (complete.belowLive number positive ⟨live, arrived, above⟩).check arrival

theorem SeenLive.arrive (seen : ledger.SeenLive number) (arrival : Arrival) :
    (ledger.arrive arrival).SeenLive number := by
  obtain ⟨live, arrived, above⟩ := seen
  refine ⟨live, ?_, above⟩
  unfold Ledger.arrive
  dsimp only
  split_ifs
  · exact arrived
  · exact List.mem_cons_of_mem _ arrived

theorem seenLive_arrive (live : arrival.resent = false) (below : number ≤ arrival.number) :
    (ledger.arrive arrival).SeenLive number := by
  refine ⟨arrival.number, ?_, below⟩
  unfold arrive
  rw [live]
  exact List.mem_cons_self

/-- Below the largest `int` the expected number does not wrap around: it stays
above every accepted one. -/
theorem Tight.accepted_lt (tight : ledger.Tight) (small : arrival.number < 2 ^ 31 - 1) :
    1 ≤ (ledger.check arrival).expected ∧
      ∀ number ∈ (ledger.check arrival).accepted, number < (ledger.check arrival).expected := by
  have positive := tight.positive
  obtain ⟨least, -, eq⟩ | ⟨behind, -, eq⟩ | ⟨-, -, eq⟩ | ⟨-, -, eq⟩ := ledger.check_cases arrival
  · rw [eq, wrapInt_of_bounds (by omega) (by omega)]
    refine ⟨by change 1 ≤ arrival.number + 1; omega, ?_⟩
    intro number member
    change number < arrival.number + 1
    obtain rfl | member := List.mem_cons.mp member
    · omega
    · have below := tight.accepted number member
      omega
  · rw [eq]
    refine ⟨positive, ?_⟩
    intro number member
    obtain rfl | member := List.mem_cons.mp member
    · exact behind
    · exact tight.accepted number member
  all_goals
    rw [eq]
    exact ⟨positive, tight.accepted⟩

/-- What the check requests lies below the live arrival that made it. -/
theorem Tight.requested_seenLive (tight : ledger.Tight)
    (member : number ∈ (ledger.check arrival).requested) :
    (ledger.arrive arrival).SeenLive (number + 1) := by
  obtain ⟨-, -, eq⟩ | ⟨-, -, eq⟩ | ⟨-, live, eq⟩ | ⟨-, -, eq⟩ := ledger.check_cases arrival
  case inr.inr.inl =>
    rw [eq, mem_requested_request] at member
    obtain ⟨-, below⟩ | member := member
    · exact seenLive_arrive live (by omega)
    · exact (tight.requested number member).arrive arrival
  all_goals
    rw [eq] at member
    exact (tight.requested number member).arrive arrival

theorem Tight.arrive (tight : ledger.Tight) (small : arrival.number < 2 ^ 31 - 1) :
    (ledger.arrive arrival).Tight where
  positive := (tight.accepted_lt small).1
  accepted := (tight.accepted_lt small).2
  requested := fun _ member => tight.requested_seenLive member

/-- An arrival that is not grounded leaves the number before it uncovered. -/
theorem Tight.skips (tight : ledger.Tight) (small : arrival.number < 2 ^ 31 - 1)
    (ungrounded : ¬ ledger.Grounded arrival) :
    ∃ number, 1 ≤ number ∧ number < (ledger.arrive arrival).expected ∧
      ¬ (ledger.arrive arrival).Covers number := by
  unfold Grounded at ungrounded
  push Not at ungrounded
  obtain ⟨resent, ahead, unseen⟩ := ungrounded
  have positive := tight.positive
  have moved : ledger.arrive arrival = ledger.accept arrival.number (arrival.number + 1) := by
    unfold Ledger.arrive Ledger.check
    rw [if_neg (by omega), if_pos ahead, if_pos resent, if_pos resent,
      wrapInt_of_bounds (by omega) (by omega)]
    rfl
  rw [moved]
  refine ⟨arrival.number - 1, by omega, by change _ < arrival.number + 1; omega, ?_⟩
  rintro (accepted | requested)
  · obtain same | accepted := List.mem_cons.mp accepted
    · omega
    · have below := tight.accepted _ accepted
      omega
  · exact unseen (by simpa using tight.requested _ requested)

end Lemmas

end Ledger

/-! ## What a call does to the ledger -/

namespace FixSessionManager

/-- The MsgSeqNum of a message, if it can be read as an `int`. -/
def msgSeqNum (message : FixMessage) : Option Int :=
  (message.getField FixFields.msgSeqNum).bind stoi

theorem msgSeqNum_bounds {message : FixMessage} {number : Int}
    (read : msgSeqNum message = some number) : -2 ^ 31 ≤ number ∧ number < 2 ^ 31 := by
  obtain ⟨text, -, read⟩ := Option.bind_eq_some_iff.mp read
  exact stoi_bounds read

/-- `handleMessage` gets as far as the sequence check. -/
def reachesCheck (session : FixSessionManager) (message : FixMessage) : Bool :=
  message.hasField FixFields.msgType && session.validateSessionMessage message

/-- A message as the sequence check of a call sees it, if it reaches the check
with a number. -/
def arrival (session : FixSessionManager) : Option FixMessage → Option Arrival
  | none => none
  | some message =>
    if session.reachesCheck message then
      match read : msgSeqNum message with
      | none => none
      | some number => some ⟨number, isResend message, msgSeqNum_bounds read⟩
    else none

/-- The number of a message for which the sequence check of a call returns true. -/
def acceptedNumber (session : FixSessionManager) (clock : SessionClock) :
    Option FixMessage → Option Int
  | none => none
  | some message =>
    if session.reachesCheck message ∧ (session.validateSequenceNumber clock message).1 then
      msgSeqNum message
    else none

/-- The number of a message without PossDupFlag `Y` that reaches the check. -/
def liveNumber (session : FixSessionManager) : Option FixMessage → Option Int
  | none => none
  | some message =>
    if session.reachesCheck message ∧ isResend message = false then msgSeqNum message else none

/-- The ledger of an inbound view with the given histories. -/
def InboundView.ledger (view : InboundView) (accepted live : List Int) : Ledger where
  expected := view.expected
  accepted := accepted
  requested := view.requested.getD []
  live := live

/-- Sequence numbers are checked and a gap manager is attached. -/
structure InboundView.Tracking (view : InboundView) : Prop where
  validates : view.validates = true
  tracked : view.requested.isSome

section Check

variable {session : FixSessionManager} {clock : SessionClock} {message : FixMessage} {number : Int}

theorem validateSequenceNumber_stamped (session : FixSessionManager) (clock : SessionClock)
    (message : FixMessage) (time : Nat) :
    validateSequenceNumber { session with lastMessageReceived := time } clock message =
      ((session.validateSequenceNumber clock message).1,
        { (session.validateSequenceNumber clock message).2 with lastMessageReceived := time }) := by
  unfold validateSequenceNumber
  split
  · rfl
  · split
    · rfl
    · dsimp only
      split_ifs <;> rfl

theorem validateSequenceNumber_unread (unread : msgSeqNum message = none) :
    session.validateSequenceNumber clock message = (false, session) := by
  unfold msgSeqNum at unread
  unfold validateSequenceNumber
  split
  · rfl
  · rename_i text present
    rw [present] at unread
    rw [show stoi text = none from unread]

/-- The check is the ledger's. -/
theorem validateSequenceNumber_ledger (tracking : session.inboundView.Tracking)
    (read : msgSeqNum message = some number) (clock : SessionClock) (accepted live : List Int) :
    (session.validateSequenceNumber clock message).2.inboundView.ledger
        (if (session.validateSequenceNumber clock message).1 then number :: accepted else accepted)
        live =
      (session.inboundView.ledger accepted live).check
        ⟨number, isResend message, msgSeqNum_bounds read⟩ := by
  obtain ⟨text, present, parsed⟩ := Option.bind_eq_some_iff.mp read
  obtain ⟨manager, attached⟩ :=
    Option.isSome_iff_exists.mp (Option.isSome_map.symm.trans tracking.tracked)
  have expected : (session.inboundView.ledger accepted live).expected =
      session.expectedIncomingSeqNum := rfl
  unfold validateSequenceNumber Ledger.check
  simp only [present, parsed, expected]
  by_cases same : number = session.expectedIncomingSeqNum
  · simp only [if_pos same]
    rfl
  · by_cases ahead : session.expectedIncomingSeqNum < number
    · cases resent : isResend message with
      | true =>
        simp only [if_neg same, if_pos ahead]
        rfl
      | false =>
        simp only [if_neg same, if_pos ahead]
        simp [InboundView.ledger, inboundView, Ledger.request, attached,
          SequenceNumGapManager.addGapEntries_requested]
    · simp only [if_neg same, if_neg ahead]
      cases isResend message <;> rfl

theorem validateSequenceNumber_tracking (tracking : session.inboundView.Tracking) :
    (session.validateSequenceNumber clock message).2.inboundView.Tracking := by
  obtain ⟨expected, gapManager, kept, checked⟩ := session.validateSequenceNumber_frame clock message
  have tracked := Option.isSome_map.symm.trans tracking.tracked
  rw [checked]
  exact ⟨tracking.validates, Option.isSome_map.trans (kept.trans tracked)⟩

theorem arrival_of_read (reached : session.reachesCheck message = true)
    (read : msgSeqNum message = some number) :
    session.arrival (some message) = some ⟨number, isResend message, msgSeqNum_bounds read⟩ := by
  simp only [arrival, reached, if_true]
  split
  · rename_i unread
    rw [unread] at read
    cases read
  · rename_i found
    cases found.symm.trans read
    rfl

theorem arrival_of_unread (unread : msgSeqNum message = none) :
    session.arrival (some message) = none := by
  simp only [arrival]
  split
  · split
    · rfl
    · rename_i found
      rw [unread] at found
      cases found
  · rfl

theorem handleMessage_of_unreached (unreached : session.reachesCheck message = false) :
    (session.handleMessage clock (some message)).2 =
      { session with lastMessageReceived := clock.now } := by
  unfold handleMessage
  dsimp only
  split
  · rfl
  · rename_i msgType typed
    rw [if_pos]
    unfold reachesCheck FixMessage.hasField at unreached
    rw [typed] at unreached
    exact unreached

theorem handleMessage_unchecked (unreached : session.reachesCheck message = false) :
    (session.handleMessage clock (some message)).2.inboundView = session.inboundView := by
  rw [handleMessage_of_unreached unreached]
  rfl

/-- A call runs the check on a message that reaches it, and the handler if the check
returns true. -/
theorem handleMessage_of_reached (clock : SessionClock)
    (validates : session.config.validateSequenceNumbers = true)
    (reached : session.reachesCheck message = true) :
    ∃ msgType, message.getField FixFields.msgType = some msgType ∧
      (session.handleMessage clock (some message)).2 =
        let checked := { (session.validateSequenceNumber clock message).2 with
          lastMessageReceived := clock.now }
        if (session.validateSequenceNumber clock message).1 then
          (checked.dispatch clock msgType message).2
        else checked := by
  unfold reachesCheck FixMessage.hasField at reached
  rw [Bool.and_eq_true] at reached
  obtain ⟨msgType, typed⟩ := Option.isSome_iff_exists.mp reached.1
  have valid : validateSessionMessage { session with lastMessageReceived := clock.now } message =
      true := reached.2
  refine ⟨msgType, typed, ?_⟩
  unfold handleMessage
  simp only [typed, valid, validates, validateSequenceNumber_stamped, Bool.true_eq_false, if_false,
    if_true]
  split <;> rfl

/-- After the check, a call that handles no SequenceReset leaves the inbound side alone. -/
theorem handleMessage_checked (reached : session.reachesCheck message = true)
    (tracking : session.inboundView.Tracking)
    (other : message.getField FixFields.msgType ≠ some (ascii "4")) :
    (session.handleMessage clock (some message)).2.inboundView =
      (session.validateSequenceNumber clock message).2.inboundView := by
  obtain ⟨msgType, typed, called⟩ := handleMessage_of_reached clock tracking.validates reached
  rw [called]
  dsimp only
  split
  · rw [dispatch_inboundView _ _ fun same => other (by rw [typed, same])]
    rfl
  · rfl

end Check

end FixSessionManager

/-! ## Runs -/

/-- A session manager with the numbers that its calls accepted and that arrived
live, newest first. -/
structure Journal where
  session : FixSessionManager
  accepted : List Int
  live : List Int

namespace Journal

/-- The journal after one more call of `handleMessage`. -/
def call (journal : Journal) (clock : SessionClock) (message : Option FixMessage) : Journal where
  session := (journal.session.handleMessage clock message).2
  accepted := (journal.session.acceptedNumber clock message).toList ++ journal.accepted
  live := (journal.session.liveNumber message).toList ++ journal.live

/-- The numbers that were passed to `addGapEntry`. -/
def requested (journal : Journal) : List Int := journal.session.inboundView.requested.getD []

def ledger (journal : Journal) : Ledger :=
  journal.session.inboundView.ledger journal.accepted journal.live

/-- No sequence number below the expected one was skipped silently. -/
def NoneSkipped (journal : Journal) : Prop :=
  ∀ number, 1 ≤ number → number < journal.session.expectedIncomingSeqNum →
    number ∈ journal.accepted ∨ number ∈ journal.requested

instance (journal : Journal) : Decidable journal.NoneSkipped :=
  inferInstanceAs (Decidable (∀ _ : Int, _ → _ → _ ∨ _))

/-- The message is not a SequenceReset. -/
def KeepsNumbering (message : Option FixMessage) : Prop :=
  ∀ given ∈ message, given.getField FixFields.msgType ≠ some (ascii "4")

instance (message : Option FixMessage) : Decidable (KeepsNumbering message) :=
  inferInstanceAs (Decidable (∀ given ∈ message, _ ≠ _))

/-- A resent message that is ahead of the expected number does not go beyond the
numbers that have arrived live. -/
def Grounded (journal : Journal) (message : Option FixMessage) : Prop :=
  ∀ arrival ∈ journal.session.arrival message, arrival.resent = true →
    journal.session.expectedIncomingSeqNum < arrival.number →
      ∃ number ∈ journal.live, arrival.number ≤ number

instance (journal : Journal) (message : Option FixMessage) :
    Decidable (journal.Grounded message) :=
  inferInstanceAs (Decidable (∀ arrival ∈ _, _ → _ → _))

/-- The number of the message has a successor among the `int` values. -/
def HasSuccessor (journal : Journal) (message : Option FixMessage) : Prop :=
  ∀ arrival ∈ journal.session.arrival message, arrival.number < 2 ^ 31 - 1

instance (journal : Journal) (message : Option FixMessage) :
    Decidable (journal.HasSuccessor message) :=
  inferInstanceAs (Decidable (∀ arrival ∈ _, _ < _))

/-- Runs of `handleMessage` on messages other than SequenceReset, with sequence
numbers validated and a gap manager attached. `permitted` restricts the messages.
Between two calls the other operations of the session and the other threads may
do anything that leaves the inbound side alone. -/
inductive Run (permitted : Journal → Option FixMessage → Prop) : Journal → Prop where
  | start {session : FixSessionManager} (view : session.inboundView = ⟨true, 1, some []⟩) :
      Run permitted ⟨session, [], []⟩
  | call {journal : Journal} (run : Run permitted journal) (clock : SessionClock)
      {message : Option FixMessage} (keeps : KeepsNumbering message)
      (allowed : permitted journal message) : Run permitted (journal.call clock message)
  | interleave {journal : Journal} (run : Run permitted journal) {session : FixSessionManager}
      (view : session.inboundView = journal.session.inboundView) :
      Run permitted { journal with session := session }

section Lemmas

open FixSessionManager

variable {journal : Journal} {clock : SessionClock} {message : Option FixMessage}
  {permitted : Journal → Option FixMessage → Prop}

section

variable (tracking : journal.session.inboundView.Tracking)
include tracking

/-- A call whose message reaches the check with a number is the arrival of that number. -/
theorem call_ledger_of_read {message : FixMessage} {number : Int}
    (keeps : KeepsNumbering (some message)) (reached : journal.session.reachesCheck message = true)
    (read : msgSeqNum message = some number) :
    (journal.call clock (some message)).ledger =
      journal.ledger.arrive ⟨number, isResend message, msgSeqNum_bounds read⟩ := by
  have accepted : (journal.call clock (some message)).accepted =
      if (journal.session.validateSequenceNumber clock message).1 then number :: journal.accepted
      else journal.accepted := by
    split_ifs with valid <;> simp [call, acceptedNumber, reached, read, valid]
  have live : (journal.call clock (some message)).live =
      if isResend message then journal.live else number :: journal.live := by
    split_ifs with resent <;> simp [call, liveNumber, reached, read, resent]
  have checked : (journal.call clock (some message)).session.inboundView =
      (journal.session.validateSequenceNumber clock message).2.inboundView :=
    handleMessage_checked reached tracking (keeps message rfl)
  have same := validateSequenceNumber_ledger tracking read clock journal.accepted journal.live
  unfold ledger Ledger.arrive
  rw [← same, checked, accepted, live]
  rfl

theorem call_ledger (keeps : KeepsNumbering message) :
    (journal.call clock message).ledger =
      (journal.session.arrival message).elim journal.ledger journal.ledger.arrive := by
  cases message with
  | none => rfl
  | some message =>
    cases reached : journal.session.reachesCheck message with
    | false =>
      simp [call, ledger, acceptedNumber, liveNumber, arrival, reached,
        handleMessage_unchecked reached]
    | true =>
      cases read : msgSeqNum message with
      | none =>
        have checked :
            (journal.session.handleMessage clock (some message)).2.inboundView = _ :=
          handleMessage_checked reached tracking (keeps message rfl)
        simp [call, ledger, acceptedNumber, liveNumber, read, checked, arrival_of_unread read,
          validateSequenceNumber_unread read]
      | some number =>
        rw [arrival_of_read reached read]
        exact call_ledger_of_read tracking keeps reached read

/-- A call keeps the sequence check and the gap manager in place. -/
theorem call_tracking (keeps : KeepsNumbering message) :
    (journal.call clock message).session.inboundView.Tracking := by
  cases message with
  | none => exact tracking
  | some message =>
    change (journal.session.handleMessage clock (some message)).2.inboundView.Tracking
    cases reached : journal.session.reachesCheck message with
    | false =>
      rw [handleMessage_unchecked reached]
      exact tracking
    | true =>
      rw [handleMessage_checked reached tracking (keeps message rfl)]
      exact validateSequenceNumber_tracking tracking

end

theorem Run.tracking (run : Run permitted journal) : journal.session.inboundView.Tracking := by
  induction run with
  | start view =>
    rw [view]
    exact ⟨rfl, rfl⟩
  | call run clock keeps allowed ih => exact call_tracking ih keeps
  | interleave run view ih =>
    rw [view]
    exact ih

/-- What every permitted arrival preserves holds of the ledger throughout a run. -/
theorem Run.ledger_invariant {invariant : Ledger → Prop} (initial : invariant Ledger.start)
    (step : ∀ journal message, permitted journal message → invariant journal.ledger →
      ∀ arrival ∈ journal.session.arrival message, invariant (journal.ledger.arrive arrival))
    (run : Run permitted journal) : invariant journal.ledger := by
  induction run with
  | start view =>
    unfold ledger
    rw [view]
    exact initial
  | @call journal run clock message keeps allowed ih =>
    rw [call_ledger run.tracking keeps]
    cases seen : journal.session.arrival message with
    | none => exact ih
    | some arrival => exact step journal message allowed ih arrival seen
  | interleave run view ih =>
    unfold ledger
    rw [view]
    exact ih

theorem Run.complete (run : Run Grounded journal) : journal.ledger.Complete :=
  run.ledger_invariant Ledger.complete_start fun _ _ grounded complete arrival seen =>
    complete.arrive (grounded arrival seen)

theorem Run.tight (run : Run HasSuccessor journal) : journal.ledger.Tight :=
  run.ledger_invariant Ledger.tight_start fun _ _ small tight arrival seen =>
    tight.arrive (small arrival seen)

/-- In a run whose resent messages stay within the numbers seen live, no number
is ever skipped. A resent message that goes beyond them skips one at once. -/
theorem run_covers_numbers (journal : Journal) :
    (Run Grounded journal → journal.NoneSkipped) ∧
      ∀ clock message, Run HasSuccessor journal → HasSuccessor journal message →
        KeepsNumbering message → ¬ Grounded journal message →
          ¬ (journal.call clock message).NoneSkipped := by
  refine ⟨fun run => run.complete.belowExpected, ?_⟩
  intro clock message run small keeps ungrounded covered
  unfold Grounded at ungrounded
  push Not at ungrounded
  obtain ⟨arrival, seen, resent, ahead, unseen⟩ := ungrounded
  have moved : (journal.call clock message).ledger = journal.ledger.arrive arrival := by
    rw [call_ledger run.tracking keeps, seen]
    rfl
  obtain ⟨number, positive, below, uncovered⟩ := run.tight.skips (small arrival seen)
    fun grounded => by
      obtain ⟨live, arrived, above⟩ := grounded resent ahead
      exact absurd above (not_le.mpr (unseen live arrived))
  rw [← moved] at below uncovered
  exact uncovered (covered number positive below)

end Lemmas

/-! ## Sample runs -/

/-- A new session with a gap manager. -/
def sampleJournal : Journal where
  session :=
    { config := { senderCompId := ascii "CLIENT", targetCompId := ascii "BROKER" }
      sequenceNumGapManager := some SequenceNumGapManager.new }
  accepted := []
  live := []

def sampleClock : SessionClock := ⟨0, ⟨2025, 1, 1, 0, 0, 0, 0⟩⟩

/-- A heartbeat from the broker. -/
def sampleHeartbeat (number : Nat) (resent : Bool) : FixMessage :=
  FixMessage.empty.setFields
    ([(FixFields.msgType, ascii "0"), (FixFields.senderCompID, ascii "BROKER"),
      (FixFields.targetCompID, ascii "CLIENT"), (FixFields.msgSeqNum, decimal number)] ++
        if resent then [(FixFields.possDupFlag, ascii "Y")] else [])

/-- Live heartbeats 1 and 4, and then heartbeat 3 resent. -/
def sampleResend : Journal :=
  ((sampleJournal.call sampleClock (sampleHeartbeat 1 false)).call sampleClock
    (sampleHeartbeat 4 false)).call sampleClock (sampleHeartbeat 3 true)

theorem run_covers_numbers_resend :
    sampleResend.session.expectedIncomingSeqNum = 4 ∧ sampleResend.NoneSkipped ∧
      ¬ (sampleJournal.call sampleClock (sampleHeartbeat 5 true)).NoneSkipped := by
  have started : Run HasSuccessor sampleJournal := .start rfl
  have one : Run Grounded (sampleJournal.call sampleClock (sampleHeartbeat 1 false)) :=
    (Run.start rfl).call sampleClock (by decide +kernel) (by decide +kernel)
  have two : Run Grounded ((sampleJournal.call sampleClock (sampleHeartbeat 1 false)).call
      sampleClock (sampleHeartbeat 4 false)) :=
    one.call sampleClock (by decide +kernel) (by decide +kernel)
  have three : Run Grounded sampleResend := two.call sampleClock (by decide +kernel)
    (by decide +kernel)
  refine ⟨by decide +kernel, (run_covers_numbers sampleResend).1 three, ?_⟩
  exact (run_covers_numbers sampleJournal).2 _ _ started (by decide +kernel) (by decide +kernel)
    (by decide +kernel)

/-- After a resent heartbeat 5 the new session expects 6, and nothing has asked
for 1 to 4. -/
theorem resend_skips_numbers :
    Run (fun _ _ => True) (sampleJournal.call sampleClock (sampleHeartbeat 5 true)) ∧
      ¬ (sampleJournal.call sampleClock (sampleHeartbeat 5 true)).NoneSkipped := by
  refine ⟨?_, by decide +kernel⟩
  exact (Run.start rfl).call sampleClock (by decide +kernel) trivial

end Journal

end FixGateway.Manager
