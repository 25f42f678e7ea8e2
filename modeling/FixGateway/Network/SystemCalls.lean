import FixGateway.Network.TcpConnection

/-! # A send, one system call at a time

Between two calls of `::send`, other threads can use the connection. So a call of
`TcpConnection::send` is cut here into its system calls: `beginSend` is what comes before
the first of them, and `systemCall` is one of them with what follows it up to the next.
A call that nobody disturbs computes what `send` does (`callsAlone_send`), so what every
system call keeps also holds for `send`.

There are two overloads of `send`. They differ in the counters only.
-/

namespace FixGateway.Network

open ByteScan

/-- The overloads of `send`, for a `std::string` and for a `std::vector<char>`. -/
inductive Overload where
  | string
  | vector
  deriving DecidableEq, Repr

/-- Where a call of `send` is: before its first system call, in the loop of `handlePartialSend`,
or at its end. -/
inductive SendPoint where
  | first
  | loop
  | returned (result : Bool)
  deriving DecidableEq, Repr

structure SendCall where
  overload : Overload := .string
  message : Bytes
  /-- The number of bytes accepted so far. -/
  sent : Nat := 0
  point : SendPoint := .first
  deriving DecidableEq, Repr

namespace SendCall

def remaining (call : SendCall) : Bytes := call.message.drop call.sent

def returns (call : SendCall) (result : Bool) : SendCall := { call with point := .returned result }

/-- More bytes were accepted. -/
def advance (call : SendCall) (count : Nat) : SendCall :=
  { call with sent := call.sent + count, point := .loop }

end SendCall

namespace TcpConnection

/-- `send` for a `std::vector<char>`, which keeps no counters. -/
def sendVector (connection : TcpConnection) (data : Bytes) (answers : Answers) :
    Bool × TcpConnection :=
  if connection.connected = false then (false, connection)
  else if data = [] then (true, connection)
  else
    match connection.sendRaw data (answers 0) with
    | (none, connection) => (false, connection)
    | (some bytesSent, connection) =>
      if bytesSent < data.length then connection.handlePartialSend data bytesSent answers.rest
      else (true, connection)

def sendBy : Overload → TcpConnection → Bytes → Answers → Bool × TcpConnection
  | .string => send
  | .vector => sendVector

/-- Count a failed call, in the overload that counts. -/
def noteError (connection : TcpConnection) : Overload → TcpConnection
  | .string => connection.countError
  | .vector => connection

/-- Count a message, in the overload that counts. -/
def noteMessage (connection : TcpConnection) (size : Nat) : Overload → TcpConnection
  | .string => connection.countMessage size
  | .vector => connection

/-- What `send` does before its first system call. -/
def beginSend (connection : TcpConnection) (overload : Overload) (message : Bytes) :
    SendCall × TcpConnection :=
  let call : SendCall := { overload, message }
  if connection.connected = false then (call.returns false, connection.noteError overload)
  else if message = [] then (call.returns true, connection)
  else (call, connection)

/-- One system call, and what follows it up to the next one or to the end of `send`. -/
def systemCall (connection : TcpConnection) (call : SendCall) (answer : SendAnswer) :
    SendCall × TcpConnection :=
  match call.point with
  | .returned _ => (call, connection)
  | .first =>
    match connection.sendRaw call.message answer with
    | (none, connection) => (call.returns false, connection.noteError call.overload)
    | (some bytesSent, connection) =>
      if bytesSent < call.message.length then (call.advance bytesSent, connection)
      else
        ((call.advance bytesSent).returns true, connection.noteMessage bytesSent call.overload)
  | .loop =>
    match connection.sendRaw call.remaining answer with
    | (none, connection) => (call.returns false, connection)
    | (some 0, connection) => (call.returns false, { connection with connected := false })
    | (some (count + 1), connection) =>
      let call := call.advance (count + 1)
      if call.sent < call.message.length then (call, connection)
      else
        (call.returns true, connection.noteMessage call.message.length call.overload)

/-- A number of system calls of a call that no other thread disturbs. -/
def callsAlone : Nat → SendCall × TcpConnection → Answers → SendCall × TcpConnection
  | 0, state, _ => state
  | calls + 1, state, answers =>
    callsAlone calls (state.2.systemCall state.1 (answers 0)) answers.rest

/-! ## A call that is alone -/

/-- Count the message of a call that ends with the given result. -/
def settle (overload : Overload) (size : Nat) (result : Bool × TcpConnection) : TcpConnection :=
  if result.1 then result.2.noteMessage size overload else result.2

section Alone

variable {connection : TcpConnection} {answers : Answers} {call : SendCall} {message : Bytes}
  {after : TcpConnection} {bytesSent : Nat} {overload : Overload}

theorem sendRaw_count {answer : SendAnswer}
    (accepted : connection.sendRaw message answer = (some bytesSent, after)) :
    bytesSent = min answer.count message.length := by
  unfold sendRaw at accepted
  cases valid : connection.socketFd with
  | none =>
    rw [valid] at accepted
    cases accepted
  | some fd =>
    rw [valid] at accepted
    cases answer with
    | failed error => cases accepted
    | accepted count =>
      cases accepted
      rfl

theorem sendBy_in_parts (alive : connection.connected = true) (nonempty : message ≠ [])
    (accepted : connection.sendRaw message (answers 0) = (some bytesSent, after))
    (short : bytesSent < message.length) :
    sendBy overload connection message answers =
      ((after.handlePartialSend message bytesSent answers.rest).1,
        settle overload message.length
          (after.handlePartialSend message bytesSent answers.rest)) := by
  cases overload with
  | string =>
    simp only [sendBy, send, alive, nonempty, accepted, if_pos short, reduceCtorEq, if_false]
    rcases after.handlePartialSend message bytesSent answers.rest with ⟨_ | _, last⟩
    · rfl
    · rfl
  | vector =>
    simp only [sendBy, sendVector, alive, nonempty, accepted, if_pos short, reduceCtorEq,
      if_false]
    rcases after.handlePartialSend message bytesSent answers.rest with ⟨_ | _, last⟩
    · rfl
    · rfl

theorem sendBy_whole (alive : connection.connected = true) (nonempty : message ≠ [])
    (accepted : connection.sendRaw message (answers 0) = (some bytesSent, after))
    (whole : ¬ bytesSent < message.length) :
    sendBy overload connection message answers = (true, after.noteMessage bytesSent overload) := by
  cases overload <;>
    simp [sendBy, send, sendVector, alive, nonempty, accepted, whole, noteMessage]

theorem sendBy_failed (alive : connection.connected = true) (nonempty : message ≠ [])
    (failed : connection.sendRaw message (answers 0) = (none, after)) :
    sendBy overload connection message answers = (false, after.noteError overload) := by
  cases overload <;> simp [sendBy, send, sendVector, alive, nonempty, failed, noteError]

theorem sendRemaining_nil (rounds : Nat) (connection : TcpConnection) (answers : Answers) :
    sendRemaining rounds connection [] answers = (true, connection) := by
  cases rounds with
  | zero => rfl
  | succ rounds => rw [sendRemaining, if_pos rfl]

/-- The system calls of the loop over the remaining bytes, of which there are at most as many as
bytes. -/
theorem callsAlone_loop {rounds : Nat} (point : call.point = .loop)
    (short : call.sent < call.message.length) (enough : call.remaining.length ≤ rounds) :
    ∃ calls ≤ call.remaining.length, ∃ last : SendCall,
      last.point = .returned (sendRemaining rounds connection call.remaining answers).1 ∧
        callsAlone calls (call, connection) answers =
          (last, settle call.overload call.message.length
            (sendRemaining rounds connection call.remaining answers)) := by
  induction rounds generalizing connection call answers with
  | zero =>
    rw [SendCall.remaining, List.length_drop] at enough
    omega
  | succ rounds ih =>
    have length : call.remaining.length = call.message.length - call.sent := List.length_drop
    have nonempty : call.remaining ≠ [] := List.length_pos_iff.mp (by omega)
    have once : callsAlone 1 (call, connection) answers =
        connection.systemCall call (answers 0) := rfl
    rw [sendRemaining, if_neg nonempty]
    rcases accepted : connection.sendRaw call.remaining (answers 0) with ⟨_ | _ | count, after⟩
    · refine ⟨1, by omega, call.returns false, rfl, ?_⟩
      rw [once, systemCall, point, accepted]
      rfl
    · refine ⟨1, by omega, call.returns false, rfl, ?_⟩
      rw [once, systemCall, point, accepted]
      rfl
    · have rest : (call.advance (count + 1)).remaining = call.remaining.drop (count + 1) := by
        rw [SendCall.remaining, SendCall.remaining, List.drop_drop]
        rfl
      dsimp only
      by_cases more : (call.advance (count + 1)).sent < (call.advance (count + 1)).message.length
      · -- the loop goes on with what is left
        have fewer : (call.advance (count + 1)).remaining.length + 1 ≤ call.remaining.length := by
          rw [rest, List.length_drop]
          omega
        obtain ⟨calls, few, last, returned, reached⟩ : ∃ calls ≤ _, ∃ last : SendCall, _ ∧
            callsAlone calls (call.advance (count + 1), after) answers.rest = _ :=
          ih rfl more (by omega)
        rw [rest] at returned reached
        refine ⟨calls + 1, by omega, last, returned, ?_⟩
        rw [callsAlone, systemCall, point, accepted]
        dsimp only
        rw [if_pos more]
        exact reached
      · -- everything is sent
        have done : call.remaining.drop (count + 1) = [] := by
          rw [← rest]
          exact List.drop_eq_nil_of_le (Nat.le_of_not_lt more)
        rw [done, sendRemaining_nil]
        refine ⟨1, by omega, (call.advance (count + 1)).returns true, rfl, ?_⟩
        rw [once, systemCall, point, accepted]
        dsimp only
        rw [if_neg more]
        rfl

/-- A call that no other thread disturbs does what `send` does. Only a first system call that
accepts nothing is one more than there are bytes. -/
theorem callsAlone_send (overload : Overload) (connection : TcpConnection) (message : Bytes)
    (answers : Answers) :
    ∃ calls ≤ message.length + 1, (0 < (answers 0).count → calls ≤ message.length) ∧
      ∃ last : SendCall, last.point = .returned (sendBy overload connection message answers).1 ∧
        callsAlone calls (connection.beginSend overload message) answers =
          (last, (sendBy overload connection message answers).2) := by
  by_cases alive : connection.connected = true
  swap
  · -- nothing is sent without a connection
    rw [Bool.not_eq_true] at alive
    refine ⟨0, Nat.zero_le _, fun _ => Nat.zero_le _,
      { overload, message, point := .returned false }, ?_, ?_⟩
    · cases overload <;> simp [sendBy, send, sendVector, alive]
    · rw [callsAlone, beginSend, if_pos alive]
      cases overload <;> simp [sendBy, send, sendVector, alive, noteError, SendCall.returns]
  by_cases empty : message = []
  · refine ⟨0, Nat.zero_le _, fun _ => Nat.zero_le _,
      { overload, message, point := .returned true }, ?_, ?_⟩
    · cases overload <;> simp [sendBy, send, sendVector, alive, empty]
    · rw [callsAlone, beginSend, if_neg (by rw [alive]; exact Bool.true_eq_false.mp), if_pos empty]
      cases overload <;> simp [sendBy, send, sendVector, alive, empty, SendCall.returns]
  have positive : 0 < message.length := List.length_pos_iff.mpr empty
  have start : connection.beginSend overload message = ({ overload, message }, connection) := by
    rw [beginSend, if_neg (by rw [alive]; exact Bool.true_eq_false.mp), if_neg empty]
  rw [start]
  rcases accepted : connection.sendRaw message (answers 0) with ⟨_ | bytesSent, after⟩
  · rw [sendBy_failed alive empty accepted]
    refine ⟨1, by omega, fun _ => positive, SendCall.returns { overload, message } false, rfl, ?_⟩
    simp only [callsAlone, systemCall, accepted]
  by_cases short : bytesSent < message.length
  swap
  · rw [sendBy_whole alive empty accepted short]
    refine ⟨1, by omega, fun _ => positive,
      (SendCall.advance { overload, message } bytesSent).returns true, rfl, ?_⟩
    simp only [callsAlone, systemCall, accepted, if_neg short]
  · rw [sendBy_in_parts alive empty accepted short]
    have length : (message.drop bytesSent).length = message.length - bytesSent := List.length_drop
    have point : SendCall.point (SendCall.advance { overload, message } bytesSent) = .loop := rfl
    have rest : SendCall.remaining (SendCall.advance { overload, message } bytesSent) =
        message.drop bytesSent := by
      rw [SendCall.remaining, SendCall.advance, Nat.zero_add]
    have left : SendCall.sent (SendCall.advance { overload, message } bytesSent) <
        message.length := by
      rw [SendCall.advance, Nat.zero_add]
      exact short
    obtain ⟨calls, few, last, returned, reached⟩ : ∃ calls ≤ _, ∃ last : SendCall, _ ∧
        callsAlone calls (_, after) answers.rest = _ :=
      callsAlone_loop point left (by rw [rest, length])
    rw [rest] at few returned reached
    refine ⟨calls + 1, by omega, fun some => ?_, last, returned, ?_⟩
    · have count := sendRaw_count accepted
      omega
    · simp only [callsAlone, systemCall, accepted, if_pos short]
      exact reached

end Alone

/-! ## What a call transmits -/

section Step

variable {connection : TcpConnection} {call : SendCall} {fd : Nat}

@[simp] theorem noteError_transmitted (connection : TcpConnection) (overload : Overload) :
    (connection.noteError overload).transmitted = connection.transmitted := by
  cases overload <;> rfl

@[simp] theorem noteError_socketFd (connection : TcpConnection) (overload : Overload) :
    (connection.noteError overload).socketFd = connection.socketFd := by
  cases overload <;> rfl

@[simp] theorem noteMessage_transmitted (connection : TcpConnection) (size : Nat)
    (overload : Overload) :
    (connection.noteMessage size overload).transmitted = connection.transmitted := by
  cases overload <;> rfl

@[simp] theorem noteMessage_socketFd (connection : TcpConnection) (size : Nat) (overload : Overload)
    : (connection.noteMessage size overload).socketFd = connection.socketFd := by
  cases overload <;> rfl

@[simp] theorem noteMessage_connected (connection : TcpConnection) (size : Nat)
    (overload : Overload) :
    (connection.noteMessage size overload).connected = connection.connected := by
  cases overload <;> rfl

/-- A system call that accepts bytes transmits the next ones of the message. -/
theorem systemCall_accepted {count : Nat} (valid : connection.socketFd = some fd)
    (active : call.point = .first ∧ call.sent = 0 ∨ call.point = .loop)
    (some : 0 < min count call.remaining.length) :
    connection.systemCall call (.accepted count) =
      let next := call.advance (min count call.remaining.length)
      let after := connection.transmit (call.remaining.take count)
      if next.sent < call.message.length then (next, after)
      else (next.returns true, after.noteMessage call.message.length call.overload) := by
  dsimp only
  rcases active with ⟨point, unsent⟩ | point
  · have whole : call.remaining = call.message := by
      rw [SendCall.remaining, unsent, List.drop_zero]
    have sent : (call.advance (min count call.message.length)).sent =
        min count call.message.length := by
      rw [SendCall.advance, unsent, Nat.zero_add]
    rw [systemCall, point, sendRaw_accepted valid, whole, sent]
    dsimp only
    split
    · rfl
    · rename_i long
      rw [show min count call.message.length = call.message.length by omega]
  · obtain ⟨more, accepted⟩ : ∃ more, min count call.remaining.length = more + 1 :=
      ⟨min count call.remaining.length - 1, by omega⟩
    have raw : connection.sendRaw call.remaining (.accepted count) =
        (Option.some (more + 1), connection.transmit (call.remaining.take count)) := by
      rw [sendRaw_accepted valid, accepted]
    rw [systemCall, point, accepted]
    dsimp only
    rw [raw]
    rfl

/-- What holds between the system calls of a call over an open socket: the bytes accepted so far
are transmitted, and the call returns true with the last one. -/
structure Progress (before : Bytes) (state : SendCall × TcpConnection) : Prop where
  valid : ∃ fd, state.2.socketFd = some fd
  transmitted : state.2.transmitted = before ++ state.1.message.take state.1.sent
  unsent : state.1.point = .first → state.1.sent = 0
  whole : state.1.point = .returned true ↔ state.1.message.length ≤ state.1.sent

variable {before message : Bytes} {state : SendCall × TcpConnection}

theorem Progress.beginSend (overload : Overload) (message : Bytes)
    (alive : connection.connected = true) (valid : connection.socketFd = some fd) :
    Progress connection.transmitted (connection.beginSend overload message) := by
  rw [TcpConnection.beginSend, if_neg (by rw [alive]; exact Bool.true_eq_false.mp)]
  split
  · rename_i empty
    exact ⟨⟨fd, valid⟩, by simp [SendCall.returns], fun _ => rfl, by simp [SendCall.returns, empty]⟩
  · rename_i nonempty
    have positive := List.length_pos_iff.mpr nonempty
    exact ⟨⟨fd, valid⟩, by simp, fun _ => rfl, by simp; omega⟩

theorem Progress.returns_false {after : TcpConnection} (progress : Progress before state)
    (going : ∀ result, state.1.point ≠ .returned result)
    (socket : after.socketFd = state.2.socketFd)
    (nothing : after.transmitted = state.2.transmitted) :
    Progress before (state.1.returns false, after) where
  valid := by rw [socket]; exact progress.valid
  transmitted := nothing.trans progress.transmitted
  unsent := by rintro ⟨⟩
  whole := iff_of_false (by rintro ⟨⟩) fun sent => going true (progress.whole.mpr sent)

theorem Progress.active (progress : Progress before (call, connection))
    (going : ∀ result, call.point ≠ .returned result) :
    call.sent < call.message.length ∧
      (call.point = .first ∧ call.sent = 0 ∨ call.point = .loop) := by
  refine ⟨Nat.lt_of_not_le fun whole => going true (progress.whole.mpr whole), ?_⟩
  cases point : call.point with
  | first => exact .inl ⟨rfl, progress.unsent point⟩
  | loop => exact .inr rfl
  | returned result => exact absurd point (going result)

theorem Progress.failed {error : SocketError} (progress : Progress before (call, connection))
    (valid : connection.socketFd = some fd) (going : ∀ result, call.point ≠ .returned result)
    (active : call.point = .first ∧ call.sent = 0 ∨ call.point = .loop) :
    Progress before (connection.systemCall call (.failed error)) := by
  rcases active with ⟨point, -⟩ | point
  · rw [TcpConnection.systemCall, point]
    dsimp only
    rw [sendRaw_failed valid]
    exact progress.returns_false going (by simp [handleSocketError]) (by simp [handleSocketError])
  · rw [TcpConnection.systemCall, point]
    dsimp only
    rw [sendRaw_failed valid]
    exact progress.returns_false going rfl rfl

/-- A system call that accepts nothing leads to the loop, and there ends the call. -/
theorem Progress.nothing (progress : Progress before (call, connection))
    (valid : connection.socketFd = some fd) (going : ∀ result, call.point ≠ .returned result)
    (short : call.sent < call.message.length)
    (active : call.point = .first ∧ call.sent = 0 ∨ call.point = .loop) :
    Progress before (connection.systemCall call (.accepted 0)) := by
  rcases active with ⟨point, unsent⟩ | point
  · rw [TcpConnection.systemCall, point]
    dsimp only
    rw [sendRaw_accepted valid]
    dsimp only
    rw [Nat.zero_min, if_pos (by omega)]
    refine ⟨⟨fd, valid⟩, ?_, by rintro ⟨⟩, iff_of_false (by rintro ⟨⟩) ?_⟩
    · have old : connection.transmitted = before ++ call.message.take call.sent :=
        progress.transmitted
      change connection.transmitted ++ [] = _
      rw [List.append_nil, old]
      rfl
    · exact Nat.not_le_of_lt short
  · rw [TcpConnection.systemCall, point]
    dsimp only
    rw [sendRaw_accepted valid, Nat.zero_min]
    exact progress.returns_false going rfl (List.append_nil _)

theorem Progress.accepted {count : Nat} (progress : Progress before (call, connection))
    (valid : connection.socketFd = some fd) (short : call.sent < call.message.length)
    (active : call.point = .first ∧ call.sent = 0 ∨ call.point = .loop) (positive : 0 < count) :
    Progress before (connection.systemCall call (.accepted count)) := by
  have length : call.remaining.length = call.message.length - call.sent := List.length_drop
  have transmitted : connection.transmitted ++ call.remaining.take count =
      before ++ call.message.take (call.sent + min count call.remaining.length) := by
    have old : connection.transmitted = before ++ call.message.take call.sent :=
      progress.transmitted
    have next : call.remaining.take count =
        (call.message.drop call.sent).take (min count call.remaining.length) :=
      List.take_eq_take_min
    rw [old, next, List.append_assoc, ← List.take_add]
  rw [systemCall_accepted valid active (by omega)]
  dsimp only
  split
  · rename_i more
    exact ⟨⟨fd, valid⟩, transmitted, by rintro ⟨⟩,
      iff_of_false (by rintro ⟨⟩) (Nat.not_le_of_lt more)⟩
  · rename_i done
    refine ⟨⟨fd, ?_⟩, ?_, by rintro ⟨⟩, iff_of_true rfl (Nat.le_of_not_lt done)⟩
    · rw [noteMessage_socketFd]
      exact valid
    · rw [noteMessage_transmitted]
      exact transmitted

theorem Progress.systemCall (progress : Progress before state) (answer : SendAnswer) :
    Progress before (state.2.systemCall state.1 answer) := by
  obtain ⟨call, connection⟩ := state
  obtain ⟨fd, valid⟩ := progress.valid
  dsimp only at valid ⊢
  by_cases ended : ∃ result, call.point = .returned result
  · obtain ⟨result, point⟩ := ended
    rw [TcpConnection.systemCall, point]
    exact progress
  have going : ∀ result, call.point ≠ .returned result := not_exists.mp ended
  obtain ⟨short, active⟩ := progress.active going
  cases answer with
  | failed error => exact progress.failed valid going active
  | accepted count =>
    cases count with
    | zero => exact progress.nothing valid going short active
    | succ count => exact progress.accepted valid short active (Nat.succ_pos count)

theorem Progress.callsAlone (progress : Progress before state) (calls : Nat) (answers : Answers) :
    Progress before (callsAlone calls state answers) := by
  induction calls generalizing state answers with
  | zero => exact progress
  | succ calls ih => exact ih (progress.systemCall (answers 0)) answers.rest

/-- A system call that accepts something does not make the call fail. -/
theorem Progress.systemCall_ne_false {answer : SendAnswer} (progress : Progress before state)
    (accepts : 0 < answer.count) (unfailed : state.1.point ≠ .returned false) :
    (state.2.systemCall state.1 answer).1.point ≠ .returned false := by
  obtain ⟨call, connection⟩ := state
  obtain ⟨fd, valid⟩ := progress.valid
  dsimp only at valid unfailed ⊢
  cases answer with
  | failed error => exact absurd accepts (Nat.lt_irrefl 0)
  | accepted count =>
    have positive : 0 < count := accepts
    by_cases ended : ∃ result, call.point = .returned result
    · obtain ⟨result, point⟩ := ended
      rw [TcpConnection.systemCall, point]
      exact unfailed
    obtain ⟨short, active⟩ := progress.active (not_exists.mp ended)
    have length : call.remaining.length = call.message.length - call.sent := List.length_drop
    rw [systemCall_accepted valid active (by omega)]
    dsimp only
    split
    · rintro ⟨⟩
    · rintro ⟨⟩

theorem Progress.callsAlone_ne_false (progress : Progress before state) {answers : Answers}
    (accepts : ∀ call, 0 < (answers call).count) (unfailed : state.1.point ≠ .returned false)
    (calls : Nat) : (TcpConnection.callsAlone calls state answers).1.point ≠ .returned false := by
  induction calls generalizing state answers with
  | zero => exact unfailed
  | succ calls ih =>
    exact ih (progress.systemCall (answers 0)) (fun call => accepts (call + 1))
      (progress.systemCall_ne_false (accepts 0) unfailed)

end Step

theorem systemCall_message (connection : TcpConnection) (call : SendCall) (answer : SendAnswer) :
    (connection.systemCall call answer).1.message = call.message := by
  unfold systemCall
  dsimp only
  repeat' split
  all_goals rfl

theorem callsAlone_message (calls : Nat) (state : SendCall × TcpConnection) (answers : Answers) :
    (callsAlone calls state answers).1.message = state.1.message := by
  induction calls generalizing state answers with
  | zero => rfl
  | succ calls ih => exact (ih _ answers.rest).trans (systemCall_message ..)

theorem beginSend_message (connection : TcpConnection) (overload : Overload) (message : Bytes) :
    (connection.beginSend overload message).1.message = message := by
  unfold beginSend
  repeat' split
  all_goals rfl

theorem beginSend_ne_false {connection : TcpConnection} {overload : Overload} {message : Bytes}
    (alive : connection.connected = true) :
    (connection.beginSend overload message).1.point ≠ .returned false := by
  rw [beginSend, if_neg (by rw [alive]; exact Bool.true_eq_false.mp)]
  split
  · rintro ⟨⟩
  · rintro ⟨⟩

/-- Over an open socket, both overloads of `send` transmit a prefix of the message, all of it
exactly when they return true. When every system call accepts something, there are at most as
many as the message has bytes, and then `send` has returned true. -/
theorem send_transmits_front (overload : Overload) (connection : TcpConnection) (fd : Nat)
    (alive : connection.connected = true) (valid : connection.socketFd = some fd)
    (message : Bytes) (answers : Answers) :
    (∃ part, part <+: message ∧
        (sendBy overload connection message answers).2.transmitted =
          connection.transmitted ++ part ∧
        ((sendBy overload connection message answers).1 = true ↔ part = message)) ∧
      ((∀ call, 0 < (answers call).count) → ∃ calls ≤ message.length, ∃ last : SendCall,
        last.point = .returned true ∧
          callsAlone calls (connection.beginSend overload message) answers =
            (last, (sendBy overload connection message answers).2) ∧
          (sendBy overload connection message answers).1 = true) := by
  have start : Progress connection.transmitted (connection.beginSend overload message) :=
    .beginSend overload message alive valid
  obtain ⟨calls, -, few, last, returned, reached⟩ :=
    callsAlone_send overload connection message answers
  have progress := start.callsAlone calls answers
  have same : last.message = message := by
    rw [← beginSend_message connection overload message,
      ← callsAlone_message calls (connection.beginSend overload message) answers, reached]
  rw [reached] at progress
  constructor
  · refine ⟨message.take last.sent, List.take_prefix .., ?_, ?_⟩
    · have transmitted : _ = _ ++ last.message.take last.sent := progress.transmitted
      rw [same] at transmitted
      exact transmitted
    · have whole : last.point = .returned true ↔ last.message.length ≤ last.sent := progress.whole
      rw [same, returned, SendPoint.returned.injEq] at whole
      rw [whole, List.take_eq_self_iff]
  · intro accepts
    have unfailed := start.callsAlone_ne_false accepts (beginSend_ne_false alive) calls
    have succeeded : (sendBy overload connection message answers).1 = true := by
      rw [reached, returned] at unfailed
      exact (Bool.not_eq_false _).mp fun failed => unfailed (congrArg _ failed)
    exact ⟨calls, few (accepts 0), last, succeeded ▸ returned, reached, succeeded⟩

/-- A message is accepted in three parts. -/
theorem send_transmits_front_parts :
    let connection : TcpConnection := { socketFd := some 3, connected := true }
    let answers : Answers := fun _ => .accepted 4
    ∃ calls ≤ 9, ∃ last : SendCall, last.point = .returned true ∧
      callsAlone calls (connection.beginSend .string (ascii "8=FIX.4.4")) answers =
        (last, (sendBy .string connection (ascii "8=FIX.4.4") answers).2) ∧
      (sendBy .string connection (ascii "8=FIX.4.4") answers).1 = true :=
  (send_transmits_front .string _ 3 rfl rfl (ascii "8=FIX.4.4") _).2 fun _ => Nat.succ_pos 3

end TcpConnection

end FixGateway.Network
