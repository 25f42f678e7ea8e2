import FixGateway.Common.Message
import FixGateway.Network.TcpConnection

/-! # Sending with retries

`AsyncSender::sendMessage` attempts to send a message until an attempt ends without an
exception or the retries are used up. An attempt throws when the connection is down or
when `TcpConnection::send` throws. What `send` returns is not looked at: an attempt in
which it returns false counts as a success.

The outcomes of the attempts are an input. The number of retries is a `size_t`, so the
counter of the retries wraps around when it is the largest one, and the loop then ends
only with an attempt that does not throw.
-/

namespace FixGateway.Network

open ByteScan Common

/-- What an attempt meets: `isConnected` returns false, `TcpConnection::send` throws, or it
returns. -/
inductive Attempt where
  | notConnected
  | threw
  | returned (result : Bool)
  deriving DecidableEq, Repr

/-- The attempt ends in the handler of exceptions. -/
def Attempt.throws : Attempt → Bool
  | notConnected | threw => true
  | returned _ => false

theorem Attempt.throws_eq_false {attempt : Attempt} :
    attempt.throws = false ↔ ∃ result, attempt = .returned result := by
  cases attempt <;> simp [throws]

/-- The outcomes of the attempts of one call, in order. -/
abbrev Attempts := Nat → Attempt

structure AsyncSender where
  maxRetries : Nat := 3
  /-- `max_retries_` is a `size_t`. -/
  bounded : maxRetries < 2 ^ 64
  running : Bool := true
  totalSent : Nat := 0
  totalFailed : Nat := 0
  totalRetried : Nat := 0
  /-- A history variable: what `Message::destroy` was called with, newest first. -/
  destroyed : List Message := []

namespace AsyncSender

/-- What the loop of `sendMessage` leaves behind: whether an attempt succeeded, the number of
attempts, and the sender. -/
structure Tried where
  success : Bool
  attempts : Nat
  sender : AsyncSender

/-- The loop of `sendMessage`, from the given number of attempts and of retries on. -/
def attemptLoop (attempts : Attempts) : Nat → Nat → Nat → AsyncSender → Option Tried
  | 0, _, _, _ => none
  | fuel + 1, made, retryCount, sender =>
    if retryCount ≤ sender.maxRetries ∧ sender.running then
      match attempts made with
      | .returned _ => some ⟨true, made + 1, sender⟩
      | .notConnected | .threw =>
        let retryCount := wrapSize (retryCount + 1)
        -- with the last retry gone, `handleSendFailure` only logs, and no callback is ever set
        let sender :=
          if retryCount ≤ sender.maxRetries then
            { sender with totalRetried := sender.totalRetried + 1 }
          else sender
        attemptLoop attempts fuel (made + 1) retryCount sender
    else some ⟨false, made, sender⟩

/-- Count the result and destroy the message, which its `unique_ptr` does on the way out. -/
def finish (sender : AsyncSender) (success : Bool) (message : Message) : AsyncSender :=
  if success then
    { sender with
      totalSent := sender.totalSent + 1
      destroyed := message :: sender.destroyed }
  else
    { sender with
      totalFailed := sender.totalFailed + 1
      destroyed := message :: sender.destroyed }

/-- `sendMessage`, with the number of attempts made. A null pointer is `none`. -/
def sendMessage (sender : AsyncSender) (attempts : Attempts) (fuel : Nat) :
    Option Message → Option (Nat × AsyncSender)
  | none => some (0, sender)
  | some message =>
    (attemptLoop attempts fuel 0 0 sender).map fun tried =>
      (tried.attempts, tried.sender.finish tried.success message)

/-! ## The rounds of the loop -/

/-- The loop can get as far as this attempt. With the largest number of retries there is no last
attempt. -/
def Reaches (sender : AsyncSender) (attempt : Nat) : Prop :=
  attempt ≤ sender.maxRetries ∨ sender.maxRetries + 1 = 2 ^ 64

/-- The same sender with another number of retries counted. -/
def withRetried (sender : AsyncSender) (retried : Nat) : AsyncSender :=
  { sender with totalRetried := retried }

section Rounds

variable {sender : AsyncSender} {attempts : Attempts} {made : Nat}

theorem Reaches.mono {later : Nat} (reaches : sender.Reaches later) (earlier : made ≤ later) :
    sender.Reaches made :=
  reaches.imp_left earlier.trans

theorem Reaches.retryCount_le (reaches : sender.Reaches made) :
    wrapSize made ≤ sender.maxRetries := by
  have bounded := sender.bounded
  rcases reaches with within | unlimited
  · rw [wrapSize_of_bounds (by omega) (by omega)]
    omega
  · have word : wrapSize made < 2 ^ 64 := by
      unfold wrapSize
      omega
    omega

theorem not_reaches_iff :
    ¬ sender.Reaches made ↔ sender.maxRetries < made ∧ sender.maxRetries + 1 < 2 ^ 64 := by
  have bounded := sender.bounded
  unfold Reaches
  omega

theorem retryCount_last (limited : sender.maxRetries + 1 < 2 ^ 64) :
    ¬ wrapSize ((sender.maxRetries + 1 : Nat) : Int) ≤ sender.maxRetries := by
  rw [wrapSize_of_bounds (by omega) (by omega)]
  omega

theorem attemptLoop_returned {result : Bool} (fuel : Nat) (alive : sender.running = true)
    (reaches : sender.Reaches made) (returned : attempts made = .returned result) :
    attemptLoop attempts (fuel + 1) made (wrapSize made) sender =
      some ⟨true, made + 1, sender⟩ := by
  rw [attemptLoop, if_pos ⟨reaches.retryCount_le, alive⟩, returned]

theorem attemptLoop_throws (fuel : Nat) (alive : sender.running = true)
    (reaches : sender.Reaches made) (throws : (attempts made).throws = true) :
    ∃ retried, attemptLoop attempts (fuel + 1) made (wrapSize made) sender =
      attemptLoop attempts fuel (made + 1) (wrapSize ((made + 1 : Nat) : Int))
        (sender.withRetried retried) := by
  have next : wrapSize (wrapSize made + 1) = wrapSize ((made + 1 : Nat) : Int) := by
    rw [wrapSize_add, Nat.cast_succ]
  have retried : ∃ retried,
      (if wrapSize (wrapSize made + 1) ≤ sender.maxRetries then
        { sender with totalRetried := sender.totalRetried + 1 } else sender) =
      sender.withRetried retried := by
    split
    · exact ⟨_, rfl⟩
    · exact ⟨sender.totalRetried, rfl⟩
  obtain ⟨retried, counted⟩ := retried
  refine ⟨retried, ?_⟩
  rw [attemptLoop, if_pos ⟨reaches.retryCount_le, alive⟩]
  cases met : attempts made with
  | returned result =>
    rw [met] at throws
    cases throws
  | notConnected =>
    dsimp only
    rw [counted, next]
  | threw =>
    dsimp only
    rw [counted, next]

theorem attemptLoop_last (fuel : Nat) (limited : sender.maxRetries + 1 < 2 ^ 64) :
    attemptLoop attempts (fuel + 1) (sender.maxRetries + 1)
      (wrapSize ((sender.maxRetries + 1 : Nat) : Int)) sender =
      some ⟨false, sender.maxRetries + 1, sender⟩ := by
  rw [attemptLoop, if_neg fun going => retryCount_last limited going.1]

end Rounds

/-! ## The whole loop -/

section Loop

variable {attempts : Attempts} {sender : AsyncSender} {tried : Tried}

theorem attemptLoop_of_throws (count fuel : Nat) (alive : sender.running = true)
    (throws : ∀ attempt < count, sender.Reaches attempt ∧ (attempts attempt).throws = true) :
    ∃ retried, attemptLoop attempts (fuel + count) 0 0 sender =
      attemptLoop attempts fuel count (wrapSize count) (sender.withRetried retried) := by
  induction count generalizing fuel with
  | zero => exact ⟨sender.totalRetried, rfl⟩
  | succ count ih =>
    obtain ⟨retried, passed⟩ := ih (fuel + 1) fun attempt below => throws attempt (by omega)
    obtain ⟨reaches, last⟩ := throws count (Nat.lt_succ_self count)
    have alive : (sender.withRetried retried).running = true := alive
    obtain ⟨again, next⟩ := attemptLoop_throws fuel alive reaches last
    rw [Nat.add_right_comm] at passed
    exact ⟨again, passed.trans next⟩

/-- How the loop ends if it does: with the first attempt that returns, or with the retries used
up. -/
inductive LoopEnds (sender : AsyncSender) (attempts : Attempts) (made : Nat) : Tried → Prop where
  | returned {count retried : Nat} {result : Bool} (reaches : sender.Reaches (made + count))
      (throws : ∀ attempt, made ≤ attempt → attempt < made + count →
        (attempts attempt).throws = true)
      (returned : attempts (made + count) = .returned result) :
      LoopEnds sender attempts made ⟨true, made + count + 1, sender.withRetried retried⟩
  | exhausted {retried : Nat} (limited : sender.maxRetries + 1 < 2 ^ 64)
      (throws : ∀ attempt, made ≤ attempt → attempt ≤ sender.maxRetries →
        (attempts attempt).throws = true) :
      LoopEnds sender attempts made
        ⟨false, sender.maxRetries + 1, sender.withRetried retried⟩

theorem LoopEnds.cons {made retried : Nat} (throws : (attempts made).throws = true)
    (ends : LoopEnds (sender.withRetried retried) attempts (made + 1) tried) :
    LoopEnds sender attempts made tried := by
  have first : ∀ attempt, made ≤ attempt → made + 1 ≤ attempt ∨ attempt = made := by omega
  cases ends with
  | @returned count again result reaches later returned =>
    have shift : made + 1 + count = made + (count + 1) := by omega
    rw [shift] at reaches later returned ⊢
    refine .returned reaches (fun attempt low high => ?_) returned
    rcases first attempt low with after | same
    · exact later attempt after high
    · rw [same]
      exact throws
  | exhausted limited later =>
    refine .exhausted limited fun attempt low high => ?_
    rcases first attempt low with after | same
    · exact later attempt after high
    · rw [same]
      exact throws

theorem attemptLoop_ends {fuel made : Nat} (alive : sender.running = true)
    (within : sender.Reaches made ∨ made = sender.maxRetries + 1)
    (ended : attemptLoop attempts fuel made (wrapSize made) sender = some tried) :
    LoopEnds sender attempts made tried := by
  induction fuel generalizing made sender with
  | zero => cases ended
  | succ fuel ih =>
    by_cases reaches : sender.Reaches made
    · cases throws : (attempts made).throws with
      | false =>
        obtain ⟨result, returned⟩ := Attempt.throws_eq_false.mp throws
        rw [attemptLoop_returned fuel alive reaches returned] at ended
        cases ended
        have none : ∀ attempt, made ≤ attempt → attempt < made + 0 →
            (attempts attempt).throws = true := by omega
        exact .returned reaches none returned
      | true =>
        obtain ⟨retried, next⟩ := attemptLoop_throws fuel alive reaches throws
        rw [next] at ended
        have alive : (sender.withRetried retried).running = true := alive
        refine (ih alive ?_ ended).cons throws
        rcases reaches with few | unlimited
        · rcases Nat.lt_or_eq_of_le few with fewer | last
          · exact .inl (.inl fewer)
          · exact .inr (congrArg (· + 1) last)
        · exact .inl (.inr unlimited)
    · have last := within.resolve_left reaches
      have limited := (not_reaches_iff.mp reaches).2
      subst last
      rw [attemptLoop_last fuel limited] at ended
      cases ended
      exact .exhausted limited (by omega)

end Loop

/-! ## What is counted -/

/-- The counters tell what happened: a message is counted as sent when `send` returned true in
one of the attempts, and otherwise as failed, after all attempts that the retries allow. Either
way it is destroyed once. -/
structure Counted (sender : AsyncSender) (attempts : Attempts) (message : Message) (made : Nat)
    (after : AsyncSender) : Prop where
  sent : (∃ attempt < made, attempts attempt = .returned true) →
    after.totalSent = sender.totalSent + 1 ∧ after.totalFailed = sender.totalFailed
  failed : (¬ ∃ attempt < made, attempts attempt = .returned true) →
    made = sender.maxRetries + 1 ∧ after.totalSent = sender.totalSent ∧
      after.totalFailed = sender.totalFailed + 1
  destroyed : after.destroyed = message :: sender.destroyed

/-- The first attempt that does not throw, if the loop gets there, has `send` return true; and
with the largest number of retries there is such an attempt. -/
structure Answered (sender : AsyncSender) (attempts : Attempts) : Prop where
  accepts : ∀ attempt, sender.Reaches attempt →
    (∀ earlier < attempt, (attempts earlier).throws = true) → attempts attempt ≠ .returned false
  ends : sender.maxRetries + 1 = 2 ^ 64 → ∃ attempt, (attempts attempt).throws = false

section Count

variable {sender : AsyncSender} {attempts : Attempts} {message : Message} {retried : Nat}

theorem counted_of_returned {count : Nat} (returned : attempts count = .returned true) :
    Counted sender attempts message (count + 1)
      ((sender.withRetried retried).finish true message) where
  sent := fun _ => ⟨rfl, rfl⟩
  failed := fun never => absurd ⟨count, Nat.lt_succ_self count, returned⟩ never
  destroyed := rfl

theorem counted_of_exhausted
    (throws : ∀ attempt ≤ sender.maxRetries, (attempts attempt).throws = true) :
    Counted sender attempts message (sender.maxRetries + 1)
      ((sender.withRetried retried).finish false message) where
  sent := by
    rintro ⟨attempt, below, returned⟩
    have throws := throws attempt (Nat.le_of_lt_succ below)
    rw [returned] at throws
    cases throws
  failed := fun _ => ⟨rfl, rfl, rfl⟩
  destroyed := rfl

/-- The counters of a finished call tell what happened exactly when the attempt that ended it had
`send` return true, or no attempt returned. -/
theorem answered_of_ends {tried : Tried} (ends : LoopEnds sender attempts 0 tried)
    (counted : Counted sender attempts message tried.attempts
      (tried.sender.finish tried.success message)) : sender.Answered attempts := by
  cases ends with
  | @returned count retried result reaches throws returned =>
    rw [Nat.zero_add] at throws returned
    have first : ∀ attempt, (∀ earlier < attempt, (attempts earlier).throws = true) →
        (attempts attempt).throws = false → attempt = count := by
      intro attempt before here
      rcases Nat.lt_trichotomy attempt count with less | same | more
      · rw [throws attempt (Nat.zero_le _) less] at here
        cases here
      · exact same
      · have thrown := before count more
        rw [returned] at thrown
        cases thrown
    have accepted : result = true := by
      by_contra refused
      have never : ¬ ∃ attempt < 0 + count + 1, attempts attempt = .returned true := by
        rintro ⟨attempt, below, accepted⟩
        rcases Nat.lt_or_eq_of_le (show attempt ≤ count by omega) with less | same
        · have thrown := throws attempt (Nat.zero_le _) less
          rw [accepted] at thrown
          cases thrown
        · rw [same, returned] at accepted
          cases accepted
          exact refused rfl
      exact absurd (counted.failed never).2.1 (Nat.succ_ne_self _)
    refine ⟨fun attempt _ before refused => ?_, fun _ => ⟨count, by rw [returned]; rfl⟩⟩
    have same := first attempt before (by rw [refused]; rfl)
    rw [same, returned, accepted] at refused
    cases refused
  | exhausted limited throws =>
    refine ⟨fun attempt reaches _ refused => ?_, fun unlimited => absurd unlimited (by omega)⟩
    rcases reaches with within | unlimited
    · have thrown := throws attempt (Nat.zero_le _) within
      rw [refused] at thrown
      cases thrown
    · omega

/-- A running sender counts every message for what became of it exactly when no attempt ends
with `send` returning false. -/
theorem sendMessage_counted_iff (sender : AsyncSender) (alive : sender.running = true)
    (attempts : Attempts) (message : Message) :
    (∃ fuel made after, sender.sendMessage attempts fuel (some message) = some (made, after) ∧
      Counted sender attempts message made after) ↔ sender.Answered attempts := by
  constructor
  · rintro ⟨fuel, made, after, sent, counted⟩
    obtain ⟨tried, ended, finished⟩ := Option.map_eq_some_iff.mp sent
    cases finished
    exact answered_of_ends (attemptLoop_ends alive (.inl (.inl (Nat.zero_le _))) ended) counted
  · intro answered
    by_cases returns : ∃ attempt, sender.Reaches attempt ∧ (attempts attempt).throws = false
    · -- the first attempt that returns ends the loop
      classical
      obtain ⟨count, ⟨reaches, here⟩, least⟩ :
          ∃ count, (sender.Reaches count ∧ (attempts count).throws = false) ∧
            ∀ earlier < count, ¬ (sender.Reaches earlier ∧ (attempts earlier).throws = false) :=
        ⟨Nat.find returns, Nat.find_spec returns, fun _ below => Nat.find_min returns below⟩
      have throws : ∀ earlier < count, (attempts earlier).throws = true := by
        intro earlier below
        have other := least earlier below
        rw [not_and, Bool.not_eq_false] at other
        exact other (reaches.mono below.le)
      obtain ⟨result, returned⟩ := Attempt.throws_eq_false.mp here
      have accepted : result = true := by
        cases result with
        | true => rfl
        | false => exact absurd returned (answered.accepts count reaches throws)
      subst accepted
      obtain ⟨retried, passed⟩ := attemptLoop_of_throws count 1 alive fun attempt below =>
        ⟨reaches.mono below.le, throws attempt below⟩
      have ended := passed.trans (attemptLoop_returned 0 alive reaches returned)
      exact ⟨_, count + 1, _, congrArg (Option.map _) ended, counted_of_returned returned⟩
    · -- every attempt throws, so there is a last one
      have throws : ∀ attempt, sender.Reaches attempt → (attempts attempt).throws = true := by
        intro attempt reaches
        by_contra here
        exact returns ⟨attempt, reaches, Bool.not_eq_true _ |>.mp here⟩
      have limited : sender.maxRetries + 1 < 2 ^ 64 := by
        have bounded := sender.bounded
        by_contra unlimited
        have largest : sender.maxRetries + 1 = 2 ^ 64 := by omega
        obtain ⟨attempt, here⟩ := answered.ends largest
        rw [throws attempt (.inr largest)] at here
        cases here
      obtain ⟨retried, passed⟩ := attemptLoop_of_throws (sender.maxRetries + 1) 1 alive
        fun attempt below => ⟨.inl (by omega), throws attempt (.inl (by omega))⟩
      have limited : (sender.withRetried retried).maxRetries + 1 < 2 ^ 64 := limited
      have ended := passed.trans (attemptLoop_last 0 limited)
      exact ⟨_, sender.maxRetries + 1, _, congrArg (Option.map _) ended,
        counted_of_exhausted fun attempt within => throws attempt (.inl within)⟩

theorem three_lt_word : 3 < 2 ^ 64 := by decide

/-- A sender with the default number of retries. -/
def sampleSender : AsyncSender := { bounded := three_lt_word }

def sampleMessage : Message := { messageId := ascii "1", payload := ascii "8=FIX.4.4" }

/-- The connection is down at first, and then takes the message. -/
def sampleAttempts : Attempts
  | 0 => .notConnected
  | _ + 1 => .returned true

theorem sendMessage_counted_iff_reconnected :
    sampleSender.running = true ∧
      ∃ fuel made after,
        sampleSender.sendMessage sampleAttempts fuel (some sampleMessage) = some (made, after) ∧
          Counted sampleSender sampleAttempts sampleMessage made after := by
  refine ⟨rfl, (sendMessage_counted_iff sampleSender rfl sampleAttempts sampleMessage).mpr ?_⟩
  constructor
  · intro attempt _ _ refused
    cases attempt with
    | zero => cases refused
    | succ attempt => cases refused
  · exact fun _ => ⟨1, rfl⟩

/-- `send` returns false at once, and the message is counted as sent. -/
theorem refused_message_counted_sent :
    ∃ after, sampleSender.sendMessage (fun _ => .returned false) 1 (some sampleMessage) =
        some (1, after) ∧
      after.totalSent = sampleSender.totalSent + 1 ∧ after.totalFailed = 0 ∧
      ¬ Counted sampleSender (fun _ => .returned false) sampleMessage 1 after := by
  refine ⟨sampleSender.finish true sampleMessage, rfl, rfl, rfl, fun counted => ?_⟩
  have never : ¬ ∃ attempt < 1, Attempt.returned false = .returned true := by
    rintro ⟨_, _, same⟩
    cases same
  exact absurd (counted.failed never).2.1 (Nat.succ_ne_self _)

end Count

/-! ## Over a connection -/

section Connection

variable (connection : TcpConnection) (payload : Bytes) (answers : Nat → Answers)

/-- The connection after a number of attempts to send the payload, with the answers of the
operating system during each. -/
def connectionAfter : Nat → TcpConnection
  | 0 => connection
  | attempt + 1 =>
    let connection := connectionAfter attempt
    if connection.connected then (connection.send payload (answers attempt)).2 else connection

/-- What the attempts meet. `TcpConnection::send` does not throw. -/
def attemptsOver : Attempts := fun attempt =>
  let connection := connectionAfter connection payload answers attempt
  if connection.connected then .returned (connection.send payload (answers attempt)).1
  else .notConnected

/-- When no attempt ends with `send` returning false, a connection that is there transmits the
whole payload in the first attempt. -/
theorem transmitted_of_answered {sender : AsyncSender} (alive : connection.connected = true)
    (answered : sender.Answered (attemptsOver connection payload answers)) :
    (connectionAfter connection payload answers 1).transmitted =
      connection.transmitted ++ payload := by
  have first : attemptsOver connection payload answers 0 =
      .returned (connection.send payload (answers 0)).1 := by
    unfold attemptsOver connectionAfter
    rw [if_pos alive]
  have after : connectionAfter connection payload answers 1 =
      (connection.send payload (answers 0)).2 := by
    unfold connectionAfter connectionAfter
    rw [if_pos alive]
  have accepted := answered.accepts 0 (.inl (Nat.zero_le _)) fun _ below =>
    absurd below (Nat.not_lt_zero _)
  rw [after]
  rcases TcpConnection.send_cases connection payload (answers 0) with ⟨-, whole⟩ | ⟨refused, -⟩
  · exact whole
  · rw [first, refused] at accepted
    exact absurd rfl accepted

end Connection

end AsyncSender

end FixGateway.Network
