import FixGateway.Concurrency.Transition
import FixGateway.Memory.Number
import Mathlib.Algebra.BigOperators.Group.Finset.Basic

/-! # Sending over the TCP connection

`TcpConnection::send` offers a message to the operating system, which accepts any
part of it. `handlePartialSend` offers the rest until everything is accepted or an
attempt fails, and `handleSocketError` decides which failures end the connection.
The others leave it as it is, also when they strike in the middle of a message.

The answers of the operating system to the calls of `::send` are an input. It transmits
exactly what it accepts, and the bytes transmitted so far are a history variable. Timers,
logging and the callbacks are left out.
-/

namespace FixGateway.Network

open ByteScan

/-- The values of `errno` that `handleSocketError` tells apart; `EWOULDBLOCK` and `EAGAIN` are
the same one. Any other value comes with the text that `strerror` has for it. -/
inductive SocketError where
  | connReset
  | pipe
  | wouldBlock
  | notConn
  | intr
  | other (description : String)
  deriving DecidableEq, Repr

namespace SocketError

/-- The text that becomes `last_error_`. -/
def text : SocketError → String
  | connReset => "Connection reset by peer"
  | pipe => "Broken pipe (connection closed)"
  | wouldBlock => "Send would block (non-blocking socket)"
  | notConn => "Socket not connected"
  | intr => "Send interrupted by signal"
  | other description => "Socket error: " ++ description

/-- The errors that end the connection. -/
def closes : SocketError → Bool
  | connReset | pipe | notConn => true
  | wouldBlock | intr | other _ => false

end SocketError

/-- What `::send` returns. A count above the number of bytes offered stands for that number. -/
inductive SendAnswer where
  | accepted (count : Nat)
  | failed (error : SocketError)
  deriving DecidableEq, Repr

/-- The answers to the calls of `::send` that one `TcpConnection::send` makes, in order. -/
abbrev Answers := Nat → SendAnswer

/-- The answers after the first. -/
def Answers.rest (answers : Answers) : Answers := fun call => answers (call + 1)

/-- The answers of a list, and then a count of zero for ever. -/
def Answers.ofList (answers : List SendAnswer) : Answers := fun call =>
  answers.getD call (.accepted 0)

structure TcpConnection where
  /-- The descriptor, unless it is `INVALID_SOCKET`. -/
  socketFd : Option Nat
  connected : Bool
  lastError : String := ""
  /-- The performance counters `BYTES_SENT`, `MESSAGES_SENT` and `CONNECTION_ERRORS`. -/
  bytesSent : Nat := 0
  messagesSent : Nat := 0
  connectionErrors : Nat := 0
  /-- A history variable: the bytes transmitted so far. -/
  transmitted : Bytes := []
  deriving DecidableEq, Repr

namespace TcpConnection

def handleSocketError (connection : TcpConnection) (error : SocketError) : TcpConnection :=
  { connection with
    connected := connection.connected && !error.closes
    lastError := error.text }

/-- The operating system transmits what it has accepted. -/
def transmit (connection : TcpConnection) (accepted : Bytes) : TcpConnection :=
  { connection with transmitted := connection.transmitted ++ accepted }

/-- `sendRaw`: the number of bytes accepted, or nothing for the result -1. -/
def sendRaw (connection : TcpConnection) (data : Bytes) (answer : SendAnswer) :
    Option Nat × TcpConnection :=
  match connection.socketFd with
  | none => (none, connection)
  | some _ =>
    match answer with
    | .failed error => (none, connection.handleSocketError error)
    | .accepted count =>
      (some (min count data.length), connection.transmit (data.take count))

/-- The loop of `handlePartialSend`. A round that goes on has had a byte accepted, so a loop over
the remaining bytes has at most as many rounds as there are bytes. -/
def sendRemaining : Nat → TcpConnection → Bytes → Answers → Bool × TcpConnection
  | 0, connection, _, _ => (true, connection)
  | rounds + 1, connection, remaining, answers =>
    if remaining = [] then (true, connection)
    else
      match connection.sendRaw remaining (answers 0) with
      | (none, connection) => (false, connection)
      | (some 0, connection) => (false, { connection with connected := false })
      | (some (count + 1), connection) =>
        sendRemaining rounds connection (remaining.drop (count + 1)) answers.rest

def handlePartialSend (connection : TcpConnection) (data : Bytes) (bytesSent : Nat)
    (answers : Answers) : Bool × TcpConnection :=
  sendRemaining (data.length - bytesSent) connection (data.drop bytesSent) answers

/-- Count a failed call in `CONNECTION_ERRORS`. -/
def countError (connection : TcpConnection) : TcpConnection :=
  { connection with connectionErrors := connection.connectionErrors + 1 }

/-- Count a message in `BYTES_SENT` and `MESSAGES_SENT`. -/
def countMessage (connection : TcpConnection) (size : Nat) : TcpConnection :=
  { connection with
    bytesSent := connection.bytesSent + size
    messagesSent := connection.messagesSent + 1 }

def send (connection : TcpConnection) (message : Bytes) (answers : Answers) :
    Bool × TcpConnection :=
  if connection.connected = false then (false, connection.countError)
  else if message = [] then (true, connection)
  else
    match connection.sendRaw message (answers 0) with
    | (none, connection) => (false, connection.countError)
    | (some bytesSent, connection) =>
      if bytesSent < message.length then
        -- a failure here is not counted in `CONNECTION_ERRORS`
        match connection.handlePartialSend message bytesSent answers.rest with
        | (true, connection) => (true, connection.countMessage message.length)
        | (false, connection) => (false, connection)
      else (true, connection.countMessage bytesSent)

/-! ## How a call ends -/

end TcpConnection

/-- The bytes that an answer accepts. -/
def SendAnswer.count : SendAnswer → Nat
  | .accepted count => count
  | .failed _ => 0

namespace Answers

/-- The bytes that the first answers accept together. -/
def total (answers : Answers) (calls : Nat) : Nat :=
  ∑ call ∈ Finset.range calls, (answers call).count

@[simp] theorem total_zero (answers : Answers) : answers.total 0 = 0 := Finset.sum_range_zero _

theorem total_succ (answers : Answers) (calls : Nat) :
    answers.total (calls + 1) = (answers 0).count + answers.rest.total calls := by
  rw [total, Finset.sum_range_succ', Nat.add_comm]
  rfl

/-- Each of the first answers accepts something. -/
def Steady (answers : Answers) (calls : Nat) : Prop := ∀ call < calls, 0 < (answers call).count

theorem steady_zero (answers : Answers) : answers.Steady 0 := fun _ below =>
  absurd below (Nat.not_lt_zero _)

theorem steady_succ {answers : Answers} {calls : Nat} :
    answers.Steady (calls + 1) ↔ 0 < (answers 0).count ∧ answers.rest.Steady calls := by
  constructor
  · intro steady
    exact ⟨steady 0 (Nat.succ_pos calls), fun call below => steady (call + 1) (by omega)⟩
  · rintro ⟨first, rest⟩ call below
    cases call with
    | zero => exact first
    | succ call => exact rest call (by omega)

/-- An answer is an error that does not end the connection. -/
def Strikes (answers : Answers) (call : Nat) : Prop :=
  ∃ error, answers call = .failed error ∧ error.closes = false

/-- Such an error strikes after a part of the message was accepted, and before all of it was.
Only the first answer may be a count of zero: the second one ends the connection. -/
def Tears (answers : Answers) (message : Bytes) : Prop :=
  ∃ first calls, answers 0 = .accepted first ∧ answers.rest.Steady calls ∧
    answers.Strikes (calls + 1) ∧ 0 < answers.total (calls + 1) ∧
    answers.total (calls + 1) < message.length

end Answers

namespace TcpConnection

section Calls

variable {connection : TcpConnection} {answers : Answers} {fd : Nat} {data remaining : Bytes}
  {rounds : Nat}

theorem sendRaw_invalid {answer : SendAnswer} (invalid : connection.socketFd = none) :
    connection.sendRaw data answer = (none, connection) := by
  unfold sendRaw
  rw [invalid]

theorem sendRaw_accepted {count : Nat} (valid : connection.socketFd = some fd) :
    connection.sendRaw data (.accepted count) =
      (some (min count data.length), connection.transmit (data.take count)) := by
  rw [sendRaw, valid]

theorem sendRaw_failed {error : SocketError} (valid : connection.socketFd = some fd) :
    connection.sendRaw data (.failed error) = (none, connection.handleSocketError error) := by
  rw [sendRaw, valid]

/-- The ways in which the loop over the remaining bytes ends: all of them were transmitted, the
connection is over, or an error struck that does not end it. -/
inductive Ended (before : TcpConnection) (remaining : Bytes) (answers : Answers) :
    Bool × TcpConnection → Prop where
  | whole {after : TcpConnection}
      (transmitted : after.transmitted = before.transmitted ++ remaining) :
      Ended before remaining answers (true, after)
  | lost {after : TcpConnection} (closed : after.connected = false) :
      Ended before remaining answers (false, after)
  | struck {after : TcpConnection} (calls : Nat) (steady : answers.Steady calls)
      (strikes : answers.Strikes calls) (short : answers.total calls < remaining.length)
      (transmitted : after.transmitted =
        before.transmitted ++ remaining.take (answers.total calls)) :
      Ended before remaining answers (false, after)

theorem Ended.cons {count : Nat} {result : Bool × TcpConnection}
    (first : answers 0 = .accepted count) (positive : 0 < count)
    (ended : Ended (connection.transmit (remaining.take count)) (remaining.drop count)
      answers.rest result) : Ended connection remaining answers result := by
  have counted : (answers 0).count = count := by rw [first]; rfl
  cases ended with
  | whole transmitted =>
    refine .whole ?_
    rw [transmitted, transmit, List.append_assoc, List.take_append_drop]
  | lost closed => exact .lost closed
  | struck calls steady strikes shorter transmitted =>
    rw [List.length_drop] at shorter
    refine .struck (calls + 1) (Answers.steady_succ.mpr ⟨by rw [counted]; exact positive, steady⟩)
      strikes ?_ ?_
    · rw [Answers.total_succ, counted]
      omega
    · rw [transmitted, transmit, Answers.total_succ, counted, List.append_assoc, List.take_add]

theorem sendRemaining_ended
    (valid : connection.socketFd = some fd) (enough : remaining.length ≤ rounds) :
    Ended connection remaining answers (sendRemaining rounds connection remaining answers) := by
  induction rounds generalizing connection remaining answers with
  | zero =>
    have empty : remaining = [] := List.eq_nil_of_length_eq_zero (by omega)
    exact .whole (by rw [empty, List.append_nil])
  | succ rounds ih =>
    rw [sendRemaining]
    split
    · rename_i empty
      exact .whole (by rw [empty, List.append_nil])
    · rename_i nonempty
      have positive := List.length_pos_iff.mpr nonempty
      cases first : answers 0 with
      | failed error =>
        rw [sendRaw_failed valid]
        cases closes : error.closes with
        | true =>
          refine .lost ?_
          simp [handleSocketError, closes]
        | false =>
          refine .struck 0 (Answers.steady_zero _) ⟨error, first, closes⟩ ?_ ?_
          · rw [Answers.total_zero]
            exact positive
          · rw [Answers.total_zero, List.take_zero, List.append_nil]
            rfl
      | accepted count =>
        rw [sendRaw_accepted valid]
        cases accepted : min count remaining.length with
        | zero => exact .lost rfl
        | succ more =>
          have same : remaining.drop (more + 1) = remaining.drop count := by
            rw [← accepted]
            exact List.drop_eq_drop_iff.mpr (by omega)
          dsimp only
          rw [same]
          refine Ended.cons first (by omega) (ih valid ?_)
          rw [← same, List.length_drop]
          omega

/-- While answers accept a part of what remains, the loop goes on with the rest. -/
theorem sendRemaining_steady {calls : Nat} (valid : connection.socketFd = some fd)
    (enough : remaining.length ≤ rounds) (steady : answers.Steady calls)
    (strikes : answers.Strikes calls) (short : answers.total calls < remaining.length) :
    (sendRemaining rounds connection remaining answers).2.connected = connection.connected ∧
      (sendRemaining rounds connection remaining answers).2.transmitted =
        connection.transmitted ++ remaining.take (answers.total calls) := by
  induction rounds generalizing connection remaining answers calls with
  | zero => omega
  | succ rounds ih =>
    have nonempty : remaining ≠ [] := List.length_pos_iff.mp (by omega)
    rw [sendRemaining, if_neg nonempty]
    cases calls with
    | zero =>
      obtain ⟨error, failed, remains⟩ := strikes
      rw [failed, sendRaw_failed valid, Answers.total_zero, List.take_zero, List.append_nil]
      exact ⟨by simp [handleSocketError, remains], rfl⟩
    | succ calls =>
      obtain ⟨positive, rest⟩ := Answers.steady_succ.mp steady
      rw [Answers.total_succ] at short ⊢
      cases first : answers 0 with
      | failed error =>
        rw [first] at positive
        exact absurd positive (Nat.lt_irrefl 0)
      | accepted count =>
        simp only [first, SendAnswer.count] at positive short ⊢
        obtain ⟨more, rfl⟩ : ∃ more, count = more + 1 := ⟨count - 1, by omega⟩
        rw [sendRaw_accepted valid, Nat.min_eq_left (by omega)]
        dsimp only
        have left : (remaining.drop (more + 1)).length = remaining.length - (more + 1) :=
          List.length_drop
        have valid : (connection.transmit (remaining.take (more + 1))).socketFd = some fd := valid
        have fits : (remaining.drop (more + 1)).length ≤ rounds := by omega
        obtain ⟨stays, transmitted⟩ := ih valid fits rest strikes (by omega)
        refine ⟨stays, ?_⟩
        rw [transmitted, transmit, List.append_assoc, ← List.take_add]

end Calls

/-! ## What a call transmits -/

section Send

variable {connection : TcpConnection} {message : Bytes} {answers : Answers}

/-- A call transmits the whole message and returns true, or it returns false. Then it has
transmitted nothing, or the connection is over, or the answers tear the message. -/
theorem send_cases (connection : TcpConnection) (message : Bytes) (answers : Answers) :
    let result := connection.send message answers
    result.1 = true ∧ result.2.transmitted = connection.transmitted ++ message ∨
      result.1 = false ∧ (result.2.connected = false ∨
        result.2.transmitted = connection.transmitted ∨ answers.Tears message) := by
  dsimp only
  unfold send
  split
  · rename_i closed
    exact .inr ⟨rfl, .inl closed⟩
  split
  · rename_i empty
    exact .inl ⟨rfl, by rw [empty, List.append_nil]⟩
  cases valid : connection.socketFd with
  | none =>
    rw [sendRaw_invalid valid]
    exact .inr ⟨rfl, .inr (.inl rfl)⟩
  | some fd =>
    cases first : answers 0 with
    | failed error =>
      rw [sendRaw_failed valid]
      exact .inr ⟨rfl, .inr (.inl rfl)⟩
    | accepted count =>
      rw [sendRaw_accepted valid]
      dsimp only
      split
      · rename_i short
        have less : min count message.length = count := by omega
        rw [less, handlePartialSend]
        have valid : (connection.transmit (message.take count)).socketFd = some fd := valid
        have left : (message.drop count).length = message.length - count := List.length_drop
        have ended : Ended _ _ answers.rest _ := sendRemaining_ended valid left.le
        revert ended
        generalize sendRemaining _ _ _ _ = result
        rintro (transmitted | closed | ⟨calls, steady, strikes, shorter, transmitted⟩)
        · refine .inl ⟨rfl, ?_⟩
          exact transmitted.trans (by rw [transmit, List.append_assoc, List.take_append_drop])
        · exact .inr ⟨rfl, .inl closed⟩
        · refine .inr ⟨rfl, .inr ?_⟩
          have sum : answers.total (calls + 1) = count + answers.rest.total calls := by
            rw [Answers.total_succ, first]
            rfl
          rw [List.length_drop] at shorter
          by_cases started : 0 < answers.total (calls + 1)
          · exact .inr ⟨count, calls, first, steady, strikes, started, by omega⟩
          · refine .inl ?_
            have none : count = 0 ∧ answers.rest.total calls = 0 := by omega
            rw [transmitted, none.1, none.2, transmit]
            simp
      · rename_i long
        have all : message.length ≤ count := by omega
        refine .inl ⟨rfl, ?_⟩
        change connection.transmitted ++ message.take count = _
        rw [List.take_of_length_le all]

/-- Answers that tear a message leave the connection as it is, with a part of the message
transmitted. -/
theorem send_torn {fd : Nat} (alive : connection.connected = true)
    (valid : connection.socketFd = some fd) (torn : answers.Tears message) :
    (connection.send message answers).2.connected = true ∧
      ∃ part rest, part ≠ [] ∧ rest ≠ [] ∧ message = part ++ rest ∧
        (connection.send message answers).2.transmitted = connection.transmitted ++ part := by
  obtain ⟨count, calls, first, steady, strikes, started, short⟩ := torn
  have sum : answers.total (calls + 1) = count + answers.rest.total calls := by
    rw [Answers.total_succ, first]
    rfl
  have nonempty : message ≠ [] := List.length_pos_iff.mp (by omega)
  have less : min count message.length = count := by omega
  have left : (message.drop count).length = message.length - count := List.length_drop
  obtain ⟨stays, transmitted⟩ := sendRemaining_steady
    (show (connection.transmit (message.take count)).socketFd = some fd from valid)
    left.le steady strikes (by omega)
  have ended : (connection.send message answers).2.connected = true ∧
      (connection.send message answers).2.transmitted =
        connection.transmitted ++ message.take (answers.total (calls + 1)) := by
    unfold send
    rw [if_neg (by rw [alive]; exact Bool.true_eq_false.mp), if_neg nonempty, first,
      sendRaw_accepted valid]
    dsimp only
    rw [less, if_pos (by omega), handlePartialSend]
    revert stays transmitted
    generalize sendRemaining _ _ _ _ = result
    obtain ⟨success, after⟩ := result
    intro stays transmitted
    rw [sum, List.take_add, ← List.append_assoc]
    cases success with
    | true => exact ⟨stays.trans alive, transmitted⟩
    | false => exact ⟨stays.trans alive, transmitted⟩
  refine ⟨ended.1, message.take (answers.total (calls + 1)),
    message.drop (answers.total (calls + 1)), ?_, ?_, (List.take_append_drop ..).symm, ended.2⟩
  · exact List.length_pos_iff.mp (by rw [List.length_take]; omega)
  · exact List.length_pos_iff.mp (by rw [List.length_drop]; omega)

theorem send_not_connected (closed : connection.connected = false) :
    (connection.send message answers).2.connected = false := by
  unfold send
  rw [if_pos closed]
  exact closed

end Send

/-! ## The outbound stream -/

/-- A connection with the messages that `send` was called with, in order. -/
structure Outbound where
  connection : TcpConnection
  offered : List Bytes := []

namespace Outbound

/-- A connection that has not been used yet. -/
def Initial (outbound : Outbound) : Prop :=
  outbound.connection.connected = true ∧ outbound.connection.transmitted = [] ∧
    outbound.offered = []

/-- One call of `send`. -/
def step (outbound : Outbound) (call : Bytes × Answers) : Outbound where
  connection := (outbound.connection.send call.1 call.2).2
  offered := outbound.offered ++ [call.1]

/-- The answers do not tear the message. -/
def Untorn (_ : Outbound) (call : Bytes × Answers) : Prop := ¬ call.2.Tears call.1

/-- As long as the connection is there, the bytes transmitted are a concatenation of whole
messages. -/
def InFrame (outbound : Outbound) : Prop :=
  outbound.connection.connected = true →
    ∃ wholes : List Bytes, wholes.Sublist outbound.offered ∧
      outbound.connection.transmitted = wholes.flatten

theorem InFrame.step {outbound : Outbound} {call : Bytes × Answers} (framed : outbound.InFrame)
    (untorn : outbound.Untorn call) : (outbound.step call).InFrame := by
  intro alive
  have before : outbound.connection.connected = true := by
    by_contra closed
    rw [Bool.not_eq_true] at closed
    exact absurd alive (by rw [Outbound.step, send_not_connected closed]; exact Bool.false_ne_true)
  obtain ⟨wholes, sublist, transmitted⟩ := framed before
  have skipped : wholes.Sublist (outbound.offered ++ [call.1]) :=
    sublist.trans (List.sublist_append_left _ _)
  rcases send_cases outbound.connection call.1 call.2 with ⟨-, whole⟩ | ⟨-, closed | nothing | torn⟩
  · refine ⟨wholes ++ [call.1], sublist.append (List.Sublist.refl _), ?_⟩
    rw [Outbound.step, whole, transmitted, List.flatten_append, List.flatten_singleton]
  · exact absurd alive (by rw [Outbound.step, closed]; exact Bool.false_ne_true)
  · exact ⟨wholes, skipped, nothing.trans transmitted⟩
  · exact absurd torn untorn

/-- In every run whose calls meet no answers that tear a message, the stream stays in frame. A
call with such answers on a connection that is still there leaves a part of a message behind. -/
theorem outbound_stream_in_frame {outbound : Outbound}
    (run : Transition.Run Initial step Untorn outbound) :
    outbound.InFrame ∧
      ∀ message answers fd, outbound.connection.connected = true →
        outbound.connection.socketFd = some fd → answers.Tears message →
        (outbound.step (message, answers)).connection.connected = true ∧
          ∃ part rest, part ≠ [] ∧ rest ≠ [] ∧ message = part ++ rest ∧
            (outbound.step (message, answers)).connection.transmitted =
              outbound.connection.transmitted ++ part := by
  refine ⟨run.invariant InFrame ?_ fun outbound call framed untorn => framed.step untorn,
    fun message answers fd alive valid torn => send_torn alive valid torn⟩
  rintro outbound ⟨-, transmitted, -⟩ -
  exact ⟨[], List.nil_sublist _, transmitted⟩

/-- A connection with an open socket. -/
def sampleOutbound : Outbound := { connection := { socketFd := some 3, connected := true } }

theorem sampleOutbound_initial : Initial sampleOutbound := ⟨rfl, rfl, rfl⟩

/-- A message accepted in two parts, and one during which the peer resets the connection. -/
def sampleCalls : List (Bytes × Answers) :=
  [(ascii "8=FIX.4.4", Answers.ofList [.accepted 4, .accepted 5]),
    (ascii "8=FIX.4.2", Answers.ofList [.accepted 4, .failed .connReset])]

theorem sampleCalls_untorn : ∀ call ∈ sampleCalls, ¬ call.2.Tears call.1 := by
  have quiet : ∀ call ∈ sampleCalls, ∀ number, ¬ call.2.Strikes (number + 1) := by
    rintro call member number ⟨error, failed, remains⟩
    simp only [sampleCalls, List.mem_cons, List.not_mem_nil, or_false] at member
    rcases member with rfl | rfl
    · rcases number with _ | number
      · cases failed
      · cases failed
    · rcases number with _ | number
      · cases failed
        cases remains
      · cases failed
  rintro call member ⟨-, calls, -, -, strikes, -⟩
  exact quiet call member calls strikes

theorem outbound_stream_in_frame_reset :
    (Transition.execute step sampleOutbound sampleCalls).InFrame ∧
      (Transition.execute step sampleOutbound (sampleCalls.take 1)).connection.transmitted =
        ascii "8=FIX.4.4" := by
  have allowed : Transition.Permits step Untorn sampleOutbound sampleCalls :=
    ⟨sampleCalls_untorn _ List.mem_cons_self,
      sampleCalls_untorn _ (List.mem_cons_of_mem _ List.mem_cons_self), trivial⟩
  have run := Transition.Run.execute (.start sampleOutbound_initial) allowed
  exact ⟨(outbound_stream_in_frame run).1, by decide +kernel⟩

/-- The socket accepts four bytes of a message and then would block: the connection stays, and
the stream ends in the middle of the message. -/
theorem blocked_send_leaves_part :
    ∃ outbound, Transition.Run Initial step Transition.unrestricted outbound ∧
      outbound.connection.connected = true ∧ outbound.offered = [ascii "8=FIX.4.4"] ∧
      outbound.connection.transmitted = ascii "8=FI" ∧ ¬ outbound.InFrame := by
  refine ⟨Transition.execute step sampleOutbound
    [(ascii "8=FIX.4.4", Answers.ofList [.accepted 4, .failed .wouldBlock])],
    Transition.Run.execute (.start sampleOutbound_initial)
      (Transition.permits_unrestricted ..), by decide +kernel, by decide +kernel,
    by decide +kernel, fun framed => ?_⟩
  obtain ⟨wholes, sublist, transmitted⟩ := framed (by decide +kernel)
  have offered : wholes = [] ∨ wholes = [ascii "8=FIX.4.4"] := List.sublist_singleton.mp sublist
  rcases offered with rfl | rfl
  · exact absurd transmitted (by decide +kernel)
  · exact absurd transmitted (by decide +kernel)

end Outbound

end TcpConnection

end FixGateway.Network
