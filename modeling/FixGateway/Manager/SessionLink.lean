import FixGateway.Concurrency.Transition
import FixGateway.Manager.OutboundNumbering

/-! # Two session managers that talk to each other

The messages of each manager reach the other one in any order, any number of times or
never. A manager numbers its messages from one above its counter on, because
`getNextOutgoingSeqNum` increments before it reads. So if neither side expects more than
the counter of the other one, as with two new managers, every message is ahead of what is
expected. Then no message is accepted in any interleaving, and no session comes about.
The requests of a gap manager, which has a counter of its own, are not part of this.
-/

namespace FixGateway.Manager

open Application ByteScan Common FixSessionManager Protocol Transition

inductive Side where
  | initiator
  | acceptor
  deriving DecidableEq

def Side.peer : Side → Side
  | .initiator => .acceptor
  | .acceptor => .initiator

/-- A message that arrives has the number of one that the other side has pushed, and no flag
of a possible duplicate, which no session manager writes. The timer runs only if started. -/
def Possible (session peer : FixSessionManager) : Operation → Prop
  | .handleMessage (some received) =>
    isResend received = false ∧ ∃ pushed ∈ peer.sent,
      received.getField FixFields.msgSeqNum = pushed.2.getField FixFields.msgSeqNum
  | .timerHeartbeat | .timerTestRequest => session.heartbeatTimerRunning = true
  | _ => True

/-- A manager that is not logged on, and that the counter and all messages of the other one
are ahead of. -/
structure Stalled (session peer : FixSessionManager) : Prop where
  state : session.sessionState ≠ .loggedOn
  timer : session.heartbeatTimerRunning = false
  validates : session.config.validateSequenceNumbers = true
  positive : 1 ≤ session.expectedIncomingSeqNum
  counter : session.expectedIncomingSeqNum ≤ peer.outgoingSeqNum
  ahead : ∀ pushed ∈ peer.sent, ∃ number, session.expectedIncomingSeqNum < number ∧
    number < 2 ^ 31 ∧ pushed.2.getField FixFields.msgSeqNum = some (signedDecimal number)

/-- What a manager goes by when a message arrives. -/
def listening (session : FixSessionManager) : SessionState × Bool × Bool × Int :=
  (session.sessionState, session.heartbeatTimerRunning, session.config.validateSequenceNumbers,
    session.expectedIncomingSeqNum)

theorem tolerates_listening : Tolerates fun before after => listening after = listening before :=
  FreeOfSends.tolerates (fun _ _ _ _ _ _ => rfl) fun _ _ _ _ _ => rfl

namespace Stalled

variable {session peer after : FixSessionManager} {clock : SessionClock} {state : SessionState}
  {operation : Operation} (stalled : Stalled session peer)

include stalled

theorem listens (off : state ≠ .loggedOn)
    (same : listening after = (state, (listening session).2)) : Stalled after peer := by
  simp only [listening, Prod.mk.injEq] at same
  obtain ⟨rfl, timer, validates, expected⟩ := same
  exact ⟨off, timer.trans stalled.timer, validates.trans stalled.validates,
    expected ▸ stalled.positive, expected ▸ stalled.counter, expected ▸ stalled.ahead⟩

theorem initiateLogon : Stalled (session.initiateLogon clock).2 peer := by
  have sent := tolerates_listening.sendLogon (session.updateSessionState .logonSent) clock
  unfold FixSessionManager.initiateLogon
  split
  · exact stalled
  · split <;> rename_i returned <;> rw [returned] at sent
    · exact stalled.listens (by decide : SessionState.logonSent ≠ _) sent
    · exact stalled.listens (by decide : SessionState.disconnected ≠ _)
        (congrArg (fun view => (SessionState.disconnected, view.2)) sent)

theorem initiateLogout (reason : Bytes) :
    Stalled (session.initiateLogout clock reason).2 peer := by
  have sent := tolerates_listening.sendLogout (session.updateSessionState .logoutSent) clock reason
  unfold FixSessionManager.initiateLogout
  split
  · exact stalled
  · split <;> rename_i returned <;> rw [returned] at sent <;>
      exact stalled.listens (by decide : SessionState.logoutSent ≠ _) sent

/-- A message that is ahead is refused. -/
theorem handleMessage {message : Option FixMessage}
    (possible : Possible session peer (.handleMessage message)) :
    (session.handleMessage clock message).1 = false ∧
      Stalled (session.handleMessage clock message).2 peer := by
  cases message with
  | none => exact ⟨rfl, stalled⟩
  | some received =>
    obtain ⟨live, pushed, member, same⟩ := possible
    obtain ⟨number, ahead, small, numbered⟩ := stalled.ahead pushed member
    have positive := stalled.positive
    have differs : number ≠ session.expectedIncomingSeqNum := by omega
    rw [numbered] at same
    unfold FixSessionManager.handleMessage
    dsimp only
    split
    · exact ⟨rfl, stalled.listens stalled.state rfl⟩
    · split
      · exact ⟨rfl, stalled.listens stalled.state rfl⟩
      · simp only [stalled.validates, validateSequenceNumber, same,
          stoi_signedDecimal (by omega) small, if_neg differs, if_pos ahead, live, if_true,
          Bool.false_eq_true, if_false]
        exact ⟨trivial, stalled.listens stalled.state rfl⟩

/-- What the other side sends is ahead. -/
theorem sends (room : peer.HasRoom)
    (step : OutboundView.Step peer.outboundView after.outboundView) : Stalled session after := by
  have positive := stalled.positive
  have counter := stalled.counter
  have small : peer.outgoingSeqNum < 2 ^ 31 - 1 := room
  have next : wrapInt (peer.outgoingSeqNum + 1) = peer.outgoingSeqNum + 1 :=
    wrapInt_of_bounds (by omega) (by omega)
  rcases step with same | ⟨outgoing, sent⟩ | ⟨priority, message, outgoing, sent, carried⟩
  · have sent : after.sent = peer.sent := congrArg OutboundView.sent same
    have outgoing : after.outgoingSeqNum = _ := congrArg OutboundView.outgoing same
    exact { stalled with counter := counter.trans outgoing.ge, ahead := sent ▸ stalled.ahead }
  · have sent : after.sent = peer.sent := sent
    have outgoing : after.outgoingSeqNum = _ := outgoing.trans next
    exact { stalled with counter := by omega, ahead := sent ▸ stalled.ahead }
  · have sent : after.sent = (priority, message) :: peer.sent := sent
    have outgoing : after.outgoingSeqNum = _ := outgoing.trans next
    refine { stalled with counter := by omega, ahead := fun pushed member => ?_ }
    rw [sent] at member
    obtain rfl | member := List.mem_cons.mp member
    · exact ⟨after.outgoingSeqNum, by omega, by omega, carried⟩
    · exact stalled.ahead pushed member

theorem perform (clock : SessionClock) (possible : Possible session peer operation) :
    Stalled (session.perform clock operation) peer := by
  cases operation with
  | initiateLogon => exact stalled.initiateLogon
  | initiateLogout reason => exact stalled.initiateLogout reason
  | handleMessage message => exact (stalled.handleMessage possible).2
  | timerHeartbeat => exact absurd (stalled.timer.symm.trans possible) Bool.false_ne_true
  | timerTestRequest => exact absurd (stalled.timer.symm.trans possible) Bool.false_ne_true

end Stalled

/-! ## Runs -/

/-- One side runs an operation, after others have used its pool and its queues. -/
structure LinkMove where
  side : Side
  messagePool : Option (MessagePool FixMessage)
  outboundQueues : Option PriorityQueueContainer
  clock : SessionClock
  operation : Operation

/-- The managers at both ends. -/
abbrev SessionLink := Side → FixSessionManager

namespace SessionLink

def step (link : SessionLink) (move : LinkMove) : SessionLink :=
  Function.update link move.side
    ({ link move.side with
      messagePool := move.messagePool
      outboundQueues := move.outboundQueues }.perform move.clock move.operation)

def Permitted (link : SessionLink) (move : LinkMove) : Prop :=
  Possible (link move.side) (link move.side.peer) move.operation ∧ (link move.side).HasRoom

/-- Each side has been left behind by the other one. -/
def Deadlocked (link : SessionLink) : Prop := ∀ side, Stalled (link side) (link side.peer)

variable {link : SessionLink}

theorem Deadlocked.step {move : LinkMove} (stalled : link.Deadlocked)
    (permitted : link.Permitted move) : (link.step move).Deadlocked := by
  obtain ⟨moved, pool, queues, clock, operation⟩ := move
  have here : Stalled { link moved with messagePool := pool, outboundQueues := queues }
      (link moved.peer) := (stalled moved).listens (stalled moved).state rfl
  have acts := here.perform clock permitted.1
  have sends := perform_outbound
    { link moved with messagePool := pool, outboundQueues := queues } clock operation
  intro side
  cases moved <;> cases side
  · exact acts
  · exact (stalled .acceptor).sends permitted.2 sends
  · exact (stalled .initiator).sends permitted.2 sends
  · exact acts

def sampleLogon : LinkMove where
  side := .initiator
  messagePool := sampleSession.messagePool
  outboundQueues := sampleSession.outboundQueues
  clock := sampleTime
  operation := .initiateLogon

end SessionLink

end FixGateway.Manager
