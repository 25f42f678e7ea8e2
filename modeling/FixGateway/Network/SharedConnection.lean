import FixGateway.Common.Message
import FixGateway.Network.SystemCalls
import Mathlib.Algebra.Order.Group.Multiset
import Mathlib.Data.List.Permutation

/-! # Four senders on one connection

`AsyncSenderManager` gives the senders of its four priorities one `TcpConnection`. Nothing
in `TcpConnection::send` keeps two of them apart, so between two system calls of one sender
there can be system calls of the others. Here every system call accepts some part of what
it is given, and none fails.

The stream consists of whole messages as long as a sender makes a system call only when no
message of another sender has been accepted in part.
-/

namespace FixGateway.Network

open Application ByteScan TcpConnection

/-- The connection with the senders that use it. -/
structure SharedConnection where
  connection : TcpConnection
  /-- The call of `TcpConnection::send` that each sender is in. -/
  calls : Priority → Option SendCall := fun _ => none
  /-- History variables: the messages that `send` was called with, and those for which it has
  returned true, in order. -/
  offered : List Bytes := []
  completed : List Bytes := []

namespace SharedConnection

inductive Move where
  /-- A sender calls `send`. -/
  | beginSend (sender : Priority) (message : Bytes)
  /-- The system call of a sender accepts some bytes. -/
  | systemCall (sender : Priority) (count : Nat) (positive : 0 < count)
  deriving DecidableEq, Repr

/-- A sender goes on with its call or is through with it. -/
def proceed (shared : SharedConnection) (sender : Priority) (state : SendCall × TcpConnection) :
    SharedConnection :=
  match state.1.point with
  | .returned result =>
    { shared with
      connection := state.2
      calls := Function.update shared.calls sender none
      completed :=
        if result then shared.completed ++ [state.1.message] else shared.completed }
  | .first | .loop =>
    { shared with
      connection := state.2
      calls := Function.update shared.calls sender (some state.1) }

/-- A sender makes one call at a time. -/
def step (shared : SharedConnection) : Move → SharedConnection
  | .beginSend sender message =>
    match shared.calls sender with
    | some _ => shared
    | none =>
      proceed { shared with offered := shared.offered ++ [message] } sender
        (shared.connection.beginSend .string message)
  | .systemCall sender count _ =>
    match shared.calls sender with
    | none => shared
    | some call => shared.proceed sender (shared.connection.systemCall call (.accepted count))

/-- A connection with an open socket that no sender has used yet. -/
def Initial (shared : SharedConnection) : Prop :=
  shared.connection.connected = true ∧ (∃ fd, shared.connection.socketFd = some fd) ∧
    shared.connection.transmitted = [] ∧ (∀ sender, shared.calls sender = none) ∧
    shared.offered = [] ∧ shared.completed = []

/-- A system call is made while no message of another sender has been accepted in part. -/
def Alone (shared : SharedConnection) : Move → Prop
  | .beginSend _ _ => True
  | .systemCall sender _ _ =>
    ∀ other, ∀ call ∈ shared.calls other, other ≠ sender → call.sent = 0

/-- The stream consists of the completed messages, or of these and a part of the message of one
call. -/
inductive Unmixed (shared : SharedConnection) : Prop where
  | between (quiet : ∀ sender, ∀ call ∈ shared.calls sender, call.sent = 0)
      (transmitted : shared.connection.transmitted = shared.completed.flatten)
  | within (sender : Priority) (call : SendCall) (current : shared.calls sender = some call)
      (started : 0 < call.sent) (short : call.sent < call.message.length)
      (quiet : ∀ other, ∀ call ∈ shared.calls other, other ≠ sender → call.sent = 0)
      (transmitted : shared.connection.transmitted =
        shared.completed.flatten ++ call.message.take call.sent)

/-! ## The invariant -/

/-- The message of a call, if there is one. -/
def heldBy : Option SendCall → Multiset Bytes
  | none => 0
  | some call => {call.message}

/-- The messages of the calls that the senders are in. -/
def underWay (calls : Priority → Option SendCall) : Multiset Bytes :=
  Priority.total fun sender => heldBy (calls sender)

theorem underWay_update (calls : Priority → Option SendCall) (sender : Priority)
    (call : Option SendCall) :
    underWay (Function.update calls sender call) + heldBy (calls sender) =
      underWay calls + heldBy call := by
  have moved := Priority.total_update (heldBy ∘ calls) sender (heldBy call)
  rw [← Function.comp_update] at moved
  exact moved

theorem underWay_idle {calls : Priority → Option SendCall} (idle : ∀ sender, calls sender = none) :
    underWay calls = 0 := by
  simp [underWay, Priority.total, idle, heldBy]

/-- What holds in every run in which the system calls are made alone. -/
structure Serial (shared : SharedConnection) : Prop where
  alive : shared.connection.connected = true
  valid : ∃ fd, shared.connection.socketFd = some fd
  going : ∀ sender, ∀ call ∈ shared.calls sender, ∀ result, call.point ≠ .returned result
  unsent : ∀ sender, ∀ call ∈ shared.calls sender, call.point = .first → call.sent = 0
  short : ∀ sender, ∀ call ∈ shared.calls sender, call.sent < call.message.length
  unmixed : shared.Unmixed
  accounted : (shared.offered : Multiset Bytes) = shared.completed + underWay shared.calls

section Steps

variable {shared : SharedConnection} {sender : Priority}

/-- What holds for the calls that a sender does not touch and for its own holds for all calls. -/
theorem forall_update {calls : Priority → Option SendCall} {new : Option SendCall}
    {property : Priority → SendCall → Prop}
    (others : ∀ other, other ≠ sender → ∀ call ∈ calls other, property other call)
    (own : ∀ call ∈ new, property sender call) :
    ∀ other, ∀ call ∈ Function.update calls sender new other, property other call := by
  intro other call member
  by_cases same : other = sender
  · subst same
    rw [Function.update_self] at member
    exact own call member
  · rw [Function.update_of_ne same] at member
    exact others other same call member

theorem Serial.initial (initial : Initial shared) : shared.Serial := by
  obtain ⟨alive, valid, nothing, idle, unoffered, uncompleted⟩ := initial
  have none : ∀ {property : Priority → SendCall → Prop},
      ∀ sender, ∀ call ∈ shared.calls sender, property sender call := by
    intro property sender call member
    rw [idle sender] at member
    cases member
  have empty := underWay_idle idle
  refine ⟨alive, valid, none, none, none, .between none ?_, ?_⟩
  · rw [nothing, uncompleted]
    rfl
  · rw [unoffered, uncompleted, empty]
    rfl

section

variable (serial : shared.Serial)
include serial

theorem Serial.withCall {after : SharedConnection} {new : Option SendCall}
    (calls : after.calls = Function.update shared.calls sender new)
    (alive : after.connection.connected = true) (valid : ∃ fd, after.connection.socketFd = some fd)
    (going : ∀ call ∈ new, ∀ result, call.point ≠ .returned result)
    (unsent : ∀ call ∈ new, call.point = .first → call.sent = 0)
    (short : ∀ call ∈ new, call.sent < call.message.length) (unmixed : after.Unmixed)
    (accounted : (after.offered : Multiset Bytes) = after.completed + underWay after.calls) :
    after.Serial := by
  refine ⟨alive, valid, ?_, ?_, ?_, unmixed, accounted⟩
  · rw [calls]
    exact forall_update (fun other _ => serial.going other) going
  · rw [calls]
    exact forall_update (fun other _ => serial.unsent other) unsent
  · rw [calls]
    exact forall_update (fun other _ => serial.short other) short

theorem Serial.empty :
    Serial { shared with
      offered := shared.offered ++ [[]]
      completed := shared.completed ++ [[]] } := by
  have stream : (shared.completed ++ [[]]).flatten = shared.completed.flatten := by
    rw [List.flatten_append]
    exact List.append_nil _
  refine ⟨serial.alive, serial.valid, serial.going, serial.unsent, serial.short, ?_, ?_⟩
  · rcases serial.unmixed with ⟨quiet, transmitted⟩ |
      ⟨other, call, current, started, short, quiet, transmitted⟩
    · exact .between quiet (transmitted.trans stream.symm)
    · refine .within other call current started short quiet (transmitted.trans ?_)
      rw [stream]
  · dsimp only
    rw [← Multiset.coe_add, ← Multiset.coe_add, serial.accounted]
    abel

theorem Serial.begins {message : Bytes}
    (idle : shared.calls sender = none) (nonempty : message ≠ []) :
    Serial { shared with
      calls := Function.update shared.calls sender (some { overload := .string, message })
      offered := shared.offered ++ [message] } := by
  have counted := underWay_update shared.calls sender (some { overload := .string, message })
  rw [idle, heldBy, add_zero] at counted
  have fresh : ∀ call ∈ some ({ overload := .string, message } : SendCall), call.sent = 0 := by
    rintro call ⟨⟩
    rfl
  refine serial.withCall rfl serial.alive serial.valid ?_ ?_ ?_ ?_ ?_
  · rintro call ⟨⟩ result ⟨⟩
  · intro call member _
    exact fresh call member
  · rintro call ⟨⟩
    exact List.length_pos_iff.mpr nonempty
  · rcases serial.unmixed with ⟨quiet, transmitted⟩ |
      ⟨other, call, current, started, short, quiet, transmitted⟩
    · exact .between (forall_update (fun other _ => quiet other) fresh) transmitted
    · have differ : other ≠ sender := by
        rintro rfl
        rw [idle] at current
        cases current
      refine .within other call ?_ started short ?_ transmitted
      · exact (Function.update_of_ne differ _ _).trans current
      · exact forall_update (fun third _ => quiet third) fun call member _ => fresh call member
  · dsimp only
    rw [← Multiset.coe_add, serial.accounted, add_assoc, counted]
    rfl

theorem Serial.beginSend (sender : Priority) (message : Bytes) :
    (shared.step (.beginSend sender message)).Serial := by
  cases idle : shared.calls sender with
  | some call =>
    rw [step, idle]
    exact serial
  | none =>
    have connected : ¬ shared.connection.connected = false := by
      rw [serial.alive]
      exact Bool.true_eq_false.mp
    rw [step, idle]
    dsimp only
    rw [TcpConnection.beginSend, if_neg connected]
    by_cases empty : message = []
    · subst empty
      have same : Function.update shared.calls sender none = shared.calls := by
        rw [← idle]
        exact Function.update_eq_self sender shared.calls
      rw [if_pos rfl]
      change Serial { shared with
        calls := Function.update shared.calls sender none
        offered := shared.offered ++ [[]]
        completed := shared.completed ++ [[]] }
      rw [same]
      exact serial.empty
    · rw [if_neg empty]
      exact serial.begins idle empty

theorem Serial.progress {call : SendCall} {count : Nat} {positive : 0 < count}
    (current : shared.calls sender = some call)
    (alone : shared.Alone (.systemCall sender count positive)) :
    TcpConnection.Progress shared.completed.flatten (call, shared.connection) := by
  refine ⟨serial.valid, ?_, serial.unsent sender call current, ?_⟩
  · rcases serial.unmixed with ⟨quiet, transmitted⟩ |
      ⟨other, theirs, active, started, -, -, transmitted⟩
    · rw [quiet sender call current, List.take_zero, List.append_nil]
      exact transmitted
    · by_cases same : other = sender
      · subst same
        rw [current] at active
        cases active
        exact transmitted
      · rw [alone other theirs active same] at started
        exact absurd started (Nat.lt_irrefl 0)
  · exact iff_of_false (serial.going sender call current true)
      (Nat.not_le_of_lt (serial.short sender call current))

/-- A part of the message of one sender is accepted, while there is none of the others. -/
theorem Serial.continues {call next : SendCall} {connection : TcpConnection}
    (current : shared.calls sender = some call)
    (quiet : ∀ other, ∀ call ∈ shared.calls other, other ≠ sender → call.sent = 0)
    (same : next.message = call.message) (point : next.point = .loop) (started : 0 < next.sent)
    (short : next.sent < next.message.length) (alive : connection.connected = true)
    (progress : TcpConnection.Progress shared.completed.flatten (next, connection)) :
    Serial { shared with
      connection := connection
      calls := Function.update shared.calls sender (some next) } := by
  have counted := underWay_update shared.calls sender (some next)
  rw [current, heldBy, heldBy, same] at counted
  refine serial.withCall rfl alive progress.valid ?_ ?_ ?_ ?_ ?_
  · rintro call ⟨⟩ result returned
    rw [point] at returned
    cases returned
  · rintro call ⟨⟩ first
    rw [point] at first
    cases first
  · rintro call ⟨⟩
    exact short
  · refine .within sender next (Function.update_self ..) started short ?_ progress.transmitted
    exact forall_update (fun other _ => quiet other) fun _ _ differ => absurd rfl differ
  · exact serial.accounted.trans (congrArg _ (add_right_cancel counted).symm)

/-- The message of one sender is complete, while there is no part of one of the others. -/
theorem Serial.completes {call : SendCall} {connection : TcpConnection}
    (current : shared.calls sender = some call)
    (quiet : ∀ other, ∀ call ∈ shared.calls other, other ≠ sender → call.sent = 0)
    (alive : connection.connected = true) (valid : ∃ fd, connection.socketFd = some fd)
    (transmitted : connection.transmitted = shared.completed.flatten ++ call.message) :
    Serial { shared with
      connection := connection
      calls := Function.update shared.calls sender none
      completed := shared.completed ++ [call.message] } := by
  have counted := underWay_update shared.calls sender none
  rw [current] at counted
  refine serial.withCall rfl alive valid ?_ ?_ ?_ (.between ?_ ?_) ?_
  · rintro call ⟨⟩
  · rintro call ⟨⟩
  · rintro call ⟨⟩
  · exact forall_update (fun other differ call member => quiet other call member differ)
      (by rintro call ⟨⟩)
  · rw [List.flatten_append, List.flatten_singleton]
    exact transmitted
  · dsimp only
    have moved : underWay shared.calls = ([call.message] : Multiset Bytes) +
        underWay (Function.update shared.calls sender none) :=
      (add_zero _).symm.trans (counted.symm.trans (add_comm ..))
    rw [← Multiset.coe_add, serial.accounted, moved, add_assoc]

theorem Serial.systemCall {count : Nat} {positive : 0 < count}
    (alone : shared.Alone (.systemCall sender count positive)) :
    (shared.step (.systemCall sender count positive)).Serial := by
  cases current : shared.calls sender with
  | none =>
    rw [step, current]
    exact serial
  | some call =>
    have progress := serial.progress current alone
    obtain ⟨fd, valid⟩ := serial.valid
    obtain ⟨short, active⟩ := progress.active (serial.going sender call current)
    have length : call.remaining.length = call.message.length - call.sent := List.length_drop
    have accepted := systemCall_accepted valid active
      (show 0 < min count call.remaining.length by omega)
    have next := progress.systemCall (.accepted count)
    rw [step, current]
    dsimp only at accepted next ⊢
    rw [accepted] at next ⊢
    by_cases more : (call.advance (min count call.remaining.length)).sent < call.message.length
    · rw [if_pos more] at next ⊢
      have started : 0 < (call.advance (min count call.remaining.length)).sent := by
        change 0 < call.sent + min count call.remaining.length
        omega
      exact serial.continues current alone rfl rfl started more serial.alive next
    · rw [if_neg more] at next ⊢
      change Serial { shared with
        connection := (shared.connection.transmit (call.remaining.take count)).noteMessage
          call.message.length call.overload
        calls := Function.update shared.calls sender none
        completed := shared.completed ++ [call.message] }
      refine serial.completes current alone ?_ next.valid ?_
      · rw [noteMessage_connected]
        exact serial.alive
      · have whole : call.message.take (call.advance (min count call.remaining.length)).sent =
            call.message := List.take_of_length_le (Nat.le_of_not_lt more)
        exact next.transmitted.trans (congrArg _ whole)

end

theorem proceed_connection (shared : SharedConnection) (sender : Priority)
    (state : SendCall × TcpConnection) : (shared.proceed sender state).connection = state.2 := by
  unfold proceed
  split <;> rfl

/-- When all senders are through, the stream is a concatenation of all messages. -/
theorem Serial.concatenation (serial : shared.Serial)
    (idle : ∀ sender, shared.calls sender = none) :
    ∃ order : List Bytes, order.Perm shared.offered ∧
      shared.connection.transmitted = order.flatten := by
  have empty := underWay_idle idle
  rcases serial.unmixed with ⟨-, transmitted⟩ | ⟨sender, call, current, -⟩
  · refine ⟨shared.completed, Multiset.coe_eq_coe.mp ?_, transmitted⟩
    rw [serial.accounted, empty, add_zero]
  · rw [idle sender] at current
    cases current

/-- A system call that is not made alone splits the message of the other sender. -/
theorem Serial.splits {call theirs : SendCall} {other : Priority} {count : Nat}
    (positive : 0 < count) (serial : shared.Serial) (current : shared.calls sender = some call)
    (started : 0 < call.sent) (active : shared.calls other = some theirs)
    (differ : other ≠ sender) :
    ∃ part rest, part ≠ [] ∧ rest ≠ [] ∧ call.message = part ++ rest ∧
      theirs.message.take count ≠ [] ∧
      (shared.step (.systemCall other count positive)).connection.transmitted =
        shared.completed.flatten ++ part ++ theirs.message.take count := by
  obtain ⟨fd, valid⟩ := serial.valid
  have short := serial.short sender call current
  have nonempty := serial.short other theirs active
  rcases serial.unmixed with ⟨quiet, -⟩ | ⟨first, call', current', -, -, quiet, transmitted⟩
  · rw [quiet sender call current] at started
    exact absurd started (Nat.lt_irrefl 0)
  have same : sender = first := by
    by_contra apart
    rw [quiet sender call current apart] at started
    exact absurd started (Nat.lt_irrefl 0)
  subst same
  rw [current] at current'
  cases current'
  have unsent : theirs.sent = 0 := quiet other theirs active differ
  have whole : theirs.remaining = theirs.message := by
    rw [SendCall.remaining, unsent, List.drop_zero]
  have going : theirs.point = .first ∧ theirs.sent = 0 ∨ theirs.point = .loop := by
    cases point : theirs.point with
    | first => exact .inl ⟨rfl, unsent⟩
    | loop => exact .inr rfl
    | returned result => exact absurd point (serial.going other theirs active result)
  have sent : (shared.connection.systemCall theirs (.accepted count)).2.transmitted =
      shared.connection.transmitted ++ theirs.message.take count := by
    rw [systemCall_accepted valid going (by rw [whole]; omega), whole]
    dsimp only
    split
    · rfl
    · rw [noteMessage_transmitted]
      rfl
  refine ⟨call.message.take call.sent, call.message.drop call.sent, ?_, ?_,
    (List.take_append_drop ..).symm, ?_, ?_⟩
  · apply List.length_pos_iff.mp
    rw [List.length_take]
    omega
  · apply List.length_pos_iff.mp
    rw [List.length_drop]
    omega
  · apply List.length_pos_iff.mp
    rw [List.length_take]
    omega
  · rw [SharedConnection.step, active]
    dsimp only
    rw [proceed_connection, sent, transmitted]

theorem Serial.step (serial : shared.Serial) (move : Move) (alone : shared.Alone move) :
    (shared.step move).Serial := by
  cases move with
  | beginSend sender message => exact serial.beginSend sender message
  | systemCall sender count positive => exact serial.systemCall alone

end Steps

/-- In every run whose system calls are made alone, the stream consists of whole messages and of
a part of at most one; when all senders are through, it is a concatenation of all messages.
A system call that is not made alone puts bytes of one message behind a part of another. -/
theorem senders_do_not_mix {shared : SharedConnection}
    (run : Transition.Run Initial step Alone shared) :
    shared.Unmixed ∧
      ((∀ sender, shared.calls sender = none) →
        ∃ order : List Bytes, order.Perm shared.offered ∧
          shared.connection.transmitted = order.flatten) ∧
      ∀ sender call other theirs count positive,
        shared.calls sender = some call → 0 < call.sent →
        shared.calls other = some theirs → other ≠ sender →
        ∃ part rest, part ≠ [] ∧ rest ≠ [] ∧ call.message = part ++ rest ∧
          theirs.message.take count ≠ [] ∧
          (shared.step (.systemCall other count positive)).connection.transmitted =
            shared.completed.flatten ++ part ++ theirs.message.take count := by
  have serial : shared.Serial := run.invariant Serial (fun _ => Serial.initial)
    fun _ move serial alone => serial.step move alone
  refine ⟨serial.unmixed, serial.concatenation, ?_⟩
  intro sender call other theirs count positive current started active differ
  exact serial.splits positive current started active differ

/-- A connection with an open socket. -/
def sampleShared : SharedConnection :=
  { connection := { socketFd := some 3, connected := true } }

theorem sampleShared_initial : Initial sampleShared :=
  ⟨rfl, ⟨3, rfl⟩, rfl, fun _ => rfl, rfl, rfl⟩

/-- The message of one sender is accepted in two parts, and then that of the other. -/
theorem senders_do_not_mix_parts : let moves : List Move :=
      [.beginSend .critical (ascii "8=FIX.4.4"), .beginSend .low (ascii "35=D"),
        .systemCall .critical 4 (Nat.succ_pos 3), .systemCall .critical 5 (Nat.succ_pos 4),
        .systemCall .low 4 (Nat.succ_pos 3)]
    let shared := Transition.execute step sampleShared moves
    shared.Unmixed ∧ shared.connection.transmitted = ascii "8=FIX.4.435=D" := by
  intro moves
  have quiet : ∀ call ∈ (some { message := ascii "35=D" } : Option SendCall), call.sent = 0 := by
    rintro call ⟨⟩
    rfl
  have allowed : Transition.Permits step Alone sampleShared moves := by
    refine ⟨trivial, trivial, ?_, ?_, ?_, trivial⟩
    · rintro (_ | _ | _ | _) call member differ
      · exact absurd rfl differ
      · cases member
      · cases member
      · exact quiet call member
    · rintro (_ | _ | _ | _) call member differ
      · exact absurd rfl differ
      · cases member
      · cases member
      · exact quiet call member
    · rintro (_ | _ | _ | _) call member differ
      · cases member
      · cases member
      · cases member
      · exact absurd rfl differ
  have run := Transition.Run.execute (.start sampleShared_initial) allowed
  exact ⟨(senders_do_not_mix run).1, by decide +kernel⟩

/-- The system call of another sender comes between the two parts of a message. -/
theorem message_inside_message :
    ∃ shared, Transition.Run Initial step Transition.unrestricted shared ∧
      (∀ sender, shared.calls sender = none) ∧
      shared.offered = [ascii "8=FIX.4.4", ascii "35=D"] ∧
      shared.connection.transmitted = ascii "8=FI35=DX.4.4" ∧
      ∀ order : List Bytes, order.Perm shared.offered →
        shared.connection.transmitted ≠ order.flatten := by
  refine ⟨Transition.execute step sampleShared
    [.beginSend .critical (ascii "8=FIX.4.4"), .beginSend .low (ascii "35=D"),
      .systemCall .critical 4 (Nat.succ_pos 3), .systemCall .low 4 (Nat.succ_pos 3),
      .systemCall .critical 5 (Nat.succ_pos 4)],
    Transition.Run.execute (.start sampleShared_initial) (Transition.permits_unrestricted ..),
    ?_, by decide +kernel, by decide +kernel, ?_⟩
  · intro sender
    cases sender <;> decide +kernel
  · intro order perm
    rcases List.perm_pair.mp perm with rfl | rfl <;> decide +kernel

end SharedConnection

end FixGateway.Network
