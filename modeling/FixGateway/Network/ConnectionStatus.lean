import FixGateway.Network.SystemCalls

/-! # The life of a connection

`connect` makes a socket, configures it and connects it. It does not set `connected_`, and
neither does any other function, so a connection always reports that it is down: nothing is
ever sent or received over it, and `disconnect` and `cleanup`, which look at `connected_`
first, never close the socket.

The results of all system calls are inputs. Callbacks are left out.
-/

namespace FixGateway.Network

open ByteScan TcpConnection

/-- The calls of `configureSocket` whose failure is an exception, in order. -/
inductive SocketOption where
  | reuseAddr
  | noDelay
  | keepAlive
  | getFlags
  | nonBlocking
  | linger
  deriving DecidableEq, Repr

namespace SocketOption

def all : List SocketOption := [reuseAddr, noDelay, keepAlive, getFlags, nonBlocking, linger]

/-- The text of the exception. -/
def error : SocketOption → String
  | reuseAddr => "Failed to set SO_REUSEADDR"
  | noDelay => "Failed to set TCP_NODELAY"
  | keepAlive => "Failed to set SO_KEEPALIVE"
  | getFlags => "Failed to get socket flags"
  | nonBlocking => "Failed to set non-blocking mode"
  | linger => "Failed to set SO_LINGER"

end SocketOption

/-- The results of the system calls of `connect`. -/
structure ConnectResults where
  /-- The host is an address or has one. -/
  resolves : Bool
  /-- `socket`. -/
  socket : Option Nat
  options : SocketOption → Bool
  /-- `::connect`. -/
  connects : Bool

/-- What `::recv` returns. -/
inductive RecvAnswer where
  | data (bytes : Bytes)
  | closed
  | failed (error : SocketError)
  deriving DecidableEq, Repr

/-- A connection with what its life is about. -/
structure Endpoint where
  connection : TcpConnection
  receiving : Bool := false
  host : String := ""
  port : Int := 0
  /-- History variables: the descriptors that `socket` has returned and for which `close` was not
  called; and whether a `connect` has returned true and neither a disconnect nor the loss of the
  connection came after it. -/
  opened : List Nat := []
  established : Bool := false

namespace Endpoint

/-- A connection as the constructor makes it. -/
def new : Endpoint := { connection := { socketFd := none, connected := false } }

def isConnected (endpoint : Endpoint) : Bool := endpoint.connection.connected

def configureSocket (options : SocketOption → Bool) : Except String Unit :=
  match SocketOption.all.find? fun option => !options option with
  | some option => .error option.error
  | none => .ok ()

/-- `socket_fd_` is assigned. -/
def setSocket (endpoint : Endpoint) (socket : Option Nat) : Endpoint :=
  { endpoint with
    connection := { endpoint.connection with socketFd := socket }
    opened := socket.toList ++ endpoint.opened }

/-- `connect`, with what it returns or throws. -/
def connect (endpoint : Endpoint) (host : String) (port : Int) (results : ConnectResults) :
    Except String Bool × Endpoint :=
  let endpoint := { endpoint with host, port }
  if results.resolves = false then (.error ("Failed to resolve hostname: " ++ host), endpoint)
  else
    let endpoint := endpoint.setSocket results.socket
    match results.socket with
    | none => (.error "Failed to create socket", endpoint)
    | some _ => ((configureSocket results.options).map fun _ => results.connects, endpoint)

def startReceiveLoop (endpoint : Endpoint) : Endpoint :=
  if endpoint.receiving then endpoint
  else if endpoint.connection.connected = false then endpoint
  else { endpoint with receiving := true }

/-- One round of `receiveLoop`, or its end. -/
def receive (endpoint : Endpoint) (answer : RecvAnswer) : Endpoint :=
  if endpoint.receiving ∧ endpoint.connection.connected then
    match answer with
    | .data _ => endpoint
    | .closed =>
      { endpoint with
        connection := { endpoint.connection with connected := false }
        receiving := false }
    | .failed error =>
      let endpoint := { endpoint with connection := endpoint.connection.handleSocketError error }
      if error = .wouldBlock ∨ error = .intr then endpoint
      else { endpoint with receiving := false }
  else { endpoint with receiving := false }

def stopReceiveLoop (endpoint : Endpoint) : Endpoint := { endpoint with receiving := false }

/-- `socket_fd_` is closed, if it is valid. -/
def closeSocket (endpoint : Endpoint) : Endpoint :=
  match endpoint.connection.socketFd with
  | none => endpoint
  | some fd =>
    { endpoint with
      connection := { endpoint.connection with socketFd := none }
      opened := endpoint.opened.erase fd }

def disconnect (endpoint : Endpoint) : Endpoint :=
  if endpoint.connection.connected = false then endpoint
  else
    let endpoint := endpoint.stopReceiveLoop
    closeSocket { endpoint with connection := { endpoint.connection with connected := false } }

def cleanup (endpoint : Endpoint) : Endpoint :=
  let endpoint := endpoint.stopReceiveLoop
  if endpoint.connection.connected then endpoint.disconnect else endpoint

inductive Operation where
  | connect (host : String) (port : Int) (results : ConnectResults)
  | disconnect
  | send (overload : Overload) (message : Bytes) (answers : Answers)
  | startReceiveLoop
  | receive (answer : RecvAnswer)
  | cleanup

/-- The peer has closed the connection or an error was fatal, which clears `connected_`. -/
def lost (before after : Endpoint) : Bool := before.isConnected && !after.isConnected

def step (endpoint : Endpoint) : Operation → Endpoint
  | .connect host port results =>
    match endpoint.connect host port results with
    | (.ok true, endpoint) => { endpoint with established := true }
    | (_, endpoint) => endpoint
  | .disconnect => { endpoint.disconnect with established := false }
  | .send overload message answers =>
    let after :=
      { endpoint with
        connection := (TcpConnection.sendBy overload endpoint.connection message answers).2 }
    { after with established := endpoint.established && !lost endpoint after }
  | .startReceiveLoop => endpoint.startReceiveLoop
  | .receive answer =>
    let after := endpoint.receive answer
    { after with established := endpoint.established && !lost endpoint after }
  | .cleanup => { endpoint.cleanup with established := false }

/-- The status tells the truth: an established connection is reported, and a connection that is
not reported owns no open descriptor. -/
structure Truthful (endpoint : Endpoint) : Prop where
  reported : endpoint.established = true → endpoint.isConnected = true
  released : endpoint.isConnected = false → endpoint.opened = []

/-- No descriptor is obtained. -/
def NoDescriptor (_ : Endpoint) : Operation → Prop
  | .connect _ _ results => results.resolves = false ∨ results.socket = none
  | _ => True

/-! ## A connection that is down -/

section Down

variable {endpoint : Endpoint} {after : Endpoint}

theorem sendBy_not_connected {connection : TcpConnection} {overload : Overload} {message : Bytes}
    {answers : Answers} (down : connection.connected = false) :
    sendBy overload connection message answers = (false, connection.noteError overload) := by
  cases overload with
  | string =>
    rw [sendBy, TcpConnection.send, if_pos down]
    rfl
  | vector =>
    rw [sendBy, sendVector, if_pos down]
    rfl

theorem lost_of_down (down : endpoint.isConnected = false) : lost endpoint after = false := by
  rw [lost, down]
  rfl

/-- The connection stays down and transmits nothing. What is open or established changes only with
a new descriptor. -/
structure StaysDown (before after : Endpoint) (noDescriptor : Prop) : Prop where
  isConnected : after.isConnected = false
  transmitted : after.connection.transmitted = before.connection.transmitted
  kept : noDescriptor → after.opened = before.opened ∧
    (after.established = true → before.established = true)
  obtained : ¬ noDescriptor → ∃ fd, after.opened = fd :: before.opened

theorem StaysDown.of_kept (down : after.isConnected = false)
    (transmitted : after.connection.transmitted = endpoint.connection.transmitted)
    (opened : after.opened = endpoint.opened)
    (established : after.established = true → endpoint.established = true) :
    StaysDown endpoint after True :=
  ⟨down, transmitted, fun _ => ⟨opened, established⟩, fun obtained => absurd trivial obtained⟩

theorem connect_down (down : endpoint.isConnected = false) (host : String) (port : Int)
    (results : ConnectResults) :
    StaysDown endpoint (endpoint.step (.connect host port results))
      (NoDescriptor endpoint (.connect host port results)) := by
  rw [step, connect]
  dsimp only
  cases resolves : results.resolves with
  | false =>
    rw [if_pos rfl]
    exact ⟨down, rfl, fun _ => ⟨rfl, id⟩, fun obtained => absurd (.inl resolves) obtained⟩
  | true =>
    rw [if_neg Bool.true_eq_false.mp]
    cases socket : results.socket with
    | none =>
      exact ⟨down, rfl, fun _ => ⟨rfl, id⟩, fun obtained => absurd (.inr socket) obtained⟩
    | some fd =>
      have obtains : ¬ NoDescriptor endpoint (.connect host port results) := by
        rintro (unresolved | failed)
        · rw [resolves] at unresolved
          cases unresolved
        · rw [socket] at failed
          cases failed
      -- whatever `connect` returns or throws, the descriptor stays open
      rcases (configureSocket results.options).map fun _ => results.connects with
        text | _ | _
      · exact ⟨down, rfl, fun none => absurd none obtains, fun _ => ⟨fd, rfl⟩⟩
      · exact ⟨down, rfl, fun none => absurd none obtains, fun _ => ⟨fd, rfl⟩⟩
      · exact ⟨down, rfl, fun none => absurd none obtains, fun _ => ⟨fd, rfl⟩⟩

theorem step_down (down : endpoint.isConnected = false) (operation : Operation) :
    StaysDown endpoint (endpoint.step operation) (NoDescriptor endpoint operation) := by
  have off : endpoint.connection.connected = false := down
  cases operation with
  | connect host port results => exact connect_down down host port results
  | disconnect =>
    have same : endpoint.disconnect = endpoint := by rw [disconnect, if_pos off]
    rw [step, same]
    exact .of_kept down rfl rfl (by rintro ⟨⟩)
  | send overload message answers =>
    rw [step, sendBy_not_connected off]
    dsimp only
    rw [lost_of_down down]
    refine .of_kept ?_ (noteError_transmitted ..) rfl ?_
    · cases overload <;> exact off
    · rw [Bool.not_false, Bool.and_true]
      exact id
  | startReceiveLoop =>
    have same : endpoint.startReceiveLoop = endpoint := by
      rw [startReceiveLoop, if_pos off, ite_self]
    rw [step, same]
    exact .of_kept down rfl rfl id
  | receive answer =>
    have ends : endpoint.receive answer = { endpoint with receiving := false } := by
      rw [receive.eq_def, if_neg]
      rintro ⟨-, connected⟩
      rw [off] at connected
      cases connected
    rw [step]
    rw [lost_of_down down, ends]
    refine .of_kept down rfl rfl ?_
    rw [Bool.not_false, Bool.and_true]
    exact id
  | cleanup =>
    have stops : endpoint.cleanup = endpoint.stopReceiveLoop := by
      rw [cleanup, if_neg]
      rw [stopReceiveLoop, off]
      exact Bool.false_ne_true
    rw [step, stops]
    exact .of_kept down rfl rfl (by rintro ⟨⟩)

/-- In every run from the constructor, the connection reports that it is down, and nothing is
transmitted. -/
theorem always_down (operations : List Operation) :
    (Transition.execute step new operations).isConnected = false ∧
      (Transition.execute step new operations).connection.transmitted = [] := by
  have run : Transition.Run (new = ·) step Transition.unrestricted
      (Transition.execute step new operations) :=
    Transition.Run.execute (.start rfl) (Transition.permits_unrestricted step new operations)
  refine run.invariant
    (fun endpoint => endpoint.isConnected = false ∧ endpoint.connection.transmitted = []) ?_ ?_
  · rintro _ rfl
    exact ⟨rfl, rfl⟩
  · rintro endpoint operation ⟨down, nothing⟩ -
    obtain ⟨stays, same, -⟩ := step_down down operation
    exact ⟨stays, same.trans nothing⟩

end Down

/-- The status tells the truth all along a run exactly if no `connect` obtains a descriptor. -/
theorem truthful_iff_no_descriptor (operations : List Operation) :
    (∀ count, (Transition.execute step new (operations.take count)).Truthful) ↔
      Transition.Permits step NoDescriptor new operations := by
  have exactly : ∀ endpoint operation, endpoint.isConnected = false ∧ endpoint.Truthful →
      (NoDescriptor endpoint operation ↔
        (endpoint.step operation).isConnected = false ∧ (endpoint.step operation).Truthful) := by
    rintro endpoint operation ⟨down, truthful⟩
    obtain ⟨stays, -, keeps, opens⟩ := step_down down operation
    constructor
    · intro none
      obtain ⟨same, established⟩ := keeps none
      refine ⟨stays, fun later => ?_, fun _ => same.trans (truthful.released down)⟩
      have reported := truthful.reported (established later)
      rw [down] at reported
      cases reported
    · rintro ⟨-, after⟩
      by_contra obtained
      obtain ⟨fd, opened⟩ := opens obtained
      rw [after.released stays] at opened
      cases opened
  have fresh : new.isConnected = false ∧ new.Truthful := ⟨rfl, by rintro ⟨⟩, fun _ => rfl⟩
  rw [Transition.permits_iff_forall_take exactly fresh]
  exact forall_congr' fun count => ⟨fun truthful => ⟨(always_down _).1, truthful⟩, And.right⟩

/-- All system calls of `connect` succeed. -/
def sampleResults : ConnectResults :=
  { resolves := true, socket := some 3, options := fun _ => true, connects := true }

/-- A connection is made, and then `disconnect` is called: `connect` returns true, but the
connection is never reported, and the descriptor stays open. -/
theorem connected_socket_not_reported :
    let connects : Operation := .connect "127.0.0.1" 9878 sampleResults
    let after := Transition.execute step new [connects]
    (new.connect "127.0.0.1" 9878 sampleResults).1 = .ok true ∧
      (after.established = true ∧ after.isConnected = false ∧ after.opened = [3] ∧
        ¬ after.Truthful) ∧
      (Transition.execute step new [connects, .disconnect, .cleanup]).opened = [3] := by
  refine ⟨rfl, ⟨rfl, rfl, rfl, fun truthful => ?_⟩, rfl⟩
  exact absurd (truthful.released rfl) (by rintro ⟨⟩)

end Endpoint

end FixGateway.Network
