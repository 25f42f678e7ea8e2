import FixGateway.Concurrency.Transition
import FixGateway.Manager.FixSessionManager
import Mathlib.Logic.Relation

/-! # The heartbeat thread beside the session operations

The operations of a session manager are executed one after another, and the heartbeat
thread runs beside them. An operation is cut where it touches what the thread reads or
what it knows of the thread: `session_state_`, `heartbeat_timer_running_` and the
handle `heartbeat_thread_`. Between two such points the thread may take any number of
its own steps, and the pool and the queues may change.

`Life` keeps the state, the flag, the thread and the point where the operation is, and
nothing else. A step of the machine is a step of its life (`step_life`), so what holds
of lives holds of the machine. An operation that the thread does not interrupt does
what the function of the same name does (`call_completes`).

That a thread cannot be created is not modelled.
-/

namespace FixGateway.Manager

open Application ByteScan Common Protocol FixSessionManager

/-- Where the heartbeat thread is in `heartbeatTimerFunction`. -/
inductive HeartbeatThread where
  /-- There is none, and `heartbeat_thread_` is not joinable. -/
  | absent
  /-- Before the load of `heartbeat_timer_running_`. -/
  | checkFlag
  /-- Before the load of `session_state_`. -/
  | checkState
  | sleep
  | heartbeat
  | testRequest
  /-- The loop was left. -/
  | ended
  deriving DecidableEq, Repr

namespace HeartbeatThread

def joinable : HeartbeatThread → Bool
  | .absent => false
  | _ => true

/-- The thread was started and is still inside its loop. -/
def live : HeartbeatThread → Bool
  | .absent => false
  | .ended => false
  | _ => true

end HeartbeatThread

/-- Who called `stopHeartbeatTimer`. -/
inductive StopCaller where
  | handleLogout
  | stop
  | destructor
  deriving DecidableEq, Repr

/-- Where the operation in progress is. -/
inductive Control where
  | idle
  /-- `initiateLogon`: before each change of the state and before the send. -/
  | logonUpdate
  | logonSend
  | logonRevert
  /-- `initiateLogout`: before the change of the state and before the send. -/
  | logoutUpdate (reason : Bytes)
  | logoutSend (reason : Bytes)
  /-- `handleLogon`, before it changes the state. `received` is the state in which the
  message was received. -/
  | logonAccept (received : SessionState)
  /-- `startHeartbeatTimer`: before the load, the store and the assignment of the thread. -/
  | startLoad
  | startStore
  | startAssign
  /-- `stopHeartbeatTimer`: before the load, the store and the join. -/
  | stopLoad (caller : StopCaller)
  | stopStore (caller : StopCaller)
  | stopJoin (caller : StopCaller)
  /-- `handleLogout`, after the timer: before the load of the state and before the answer. -/
  | logoutLoad
  | logoutAnswer
  /-- Before the state becomes `DISCONNECTED` at the end of an operation. -/
  | disconnect (caller : StopCaller)
  /-- The destructor has destroyed the members. -/
  | destroyed
  deriving DecidableEq, Repr

namespace StopCaller

/-- Where the caller goes on after `stopHeartbeatTimer`. -/
def resume : StopCaller → Control
  | .handleLogout => .logoutLoad
  | .stop => .disconnect .stop
  | .destructor => .disconnect .destructor

/-- Where the caller is once the state is `DISCONNECTED`. -/
def finish : StopCaller → Control
  | .handleLogout => .idle
  | .stop => .idle
  | .destructor => .destroyed

end StopCaller

/-! ## The machine -/

/-- The operations, each called by one thread after the other. -/
inductive SessionOperation where
  | initiateLogon
  | initiateLogout (reason : Bytes)
  | handleMessage (message : Option FixMessage)
  | stop
  | destroy

structure HeartbeatMachine where
  session : FixSessionManager
  control : Control := .idle
  thread : HeartbeatThread := .absent
  /-- A history variable: how many messages the thread has pushed. -/
  timerSent : Nat := 0

namespace HeartbeatMachine

/-- Start an operation and go on to the first point at which it touches the thread's world. -/
def begin (machine : HeartbeatMachine) (clock : SessionClock) :
    SessionOperation → HeartbeatMachine
  | .initiateLogon =>
    if machine.session.sessionState ≠ .disconnected then machine
    else { machine with control := .logonUpdate }
  | .initiateLogout reason =>
    if machine.session.sessionState ≠ .loggedOn ∧ machine.session.sessionState ≠ .logonSent then
      machine
    else { machine with control := .logoutUpdate reason }
  | .handleMessage message =>
    match machine.session.receive clock message with
    | (none, session) => { machine with session := session }
    | (some (msgType, message), session) =>
      if msgType = ascii "A" then
        let interval :=
          (FixSessionManager.requestedInterval message).getD session.config.heartbeatInterval
        { machine with
          session := { session with config.heartbeatInterval := interval }
          control := .logonAccept session.sessionState }
      else if msgType = ascii "5" then
        { machine with session := session, control := .stopLoad .handleLogout }
      else { machine with session := (session.dispatch clock msgType message).2 }
  | .stop => { machine with control := .stopLoad .stop }
  | .destroy => { machine with control := .stopLoad .destructor }

/-- The next step of the operation in progress. -/
def proceed (machine : HeartbeatMachine) (clock : SessionClock) : HeartbeatMachine :=
  match machine.control with
  | .idle => machine
  | .logonUpdate =>
    { machine with
      session := machine.session.updateSessionState .logonSent
      control := .logonSend }
  | .logonSend =>
    match machine.session.sendLogon clock with
    | (true, session) =>
      { machine with
        session :=
          { session with sessionStats.logonsSent := session.sessionStats.logonsSent + 1 }
        control := .idle }
    | (false, session) => { machine with session := session, control := .logonRevert }
  | .logonRevert =>
    { machine with
      session := machine.session.updateSessionState .disconnected
      control := .idle }
  | .logoutUpdate reason =>
    { machine with
      session := machine.session.updateSessionState .logoutSent
      control := .logoutSend reason }
  | .logoutSend reason =>
    match machine.session.sendLogout clock reason with
    | (true, session) =>
      { machine with
        session :=
          { session with sessionStats.logoutsSent := session.sessionStats.logoutsSent + 1 }
        control := .idle }
    | (false, session) => { machine with session := session, control := .idle }
  | .logonAccept _ =>
    { machine with
      session := machine.session.updateSessionState .loggedOn
      control := .startLoad }
  | .startLoad =>
    if machine.session.heartbeatTimerRunning then { machine with control := .idle }
    else { machine with control := .startStore }
  | .startStore =>
    { machine with session.heartbeatTimerRunning := true, control := .startAssign }
  | .startAssign => { machine with thread := .checkFlag, control := .idle }
  | .stopLoad caller =>
    if machine.session.heartbeatTimerRunning then { machine with control := .stopStore caller }
    else { machine with control := caller.resume }
  | .stopStore caller =>
    { machine with session.heartbeatTimerRunning := false, control := .stopJoin caller }
  | .stopJoin caller =>
    -- The join waits for a thread that is still in its loop.
    if machine.thread.live then machine
    else { machine with thread := .absent, control := caller.resume }
  | .logoutLoad =>
    if machine.session.sessionState = .loggedOn then { machine with control := .logoutAnswer }
    else { machine with control := .disconnect .handleLogout }
  | .logoutAnswer =>
    { machine with
      session := (machine.session.sendLogout clock (ascii "Logout acknowledged")).2
      control := .disconnect .handleLogout }
  | .disconnect caller =>
    { machine with
      session := machine.session.updateSessionState .disconnected
      control := caller.finish }
  | .destroyed => machine

/-- The thread has taken a step in which the manager became the given one. -/
def thenBeat (machine : HeartbeatMachine) (session : FixSessionManager)
    (thread : HeartbeatThread) : HeartbeatMachine :=
  { machine with
    session := session
    thread := thread
    timerSent := machine.timerSent + (session.sent.length - machine.session.sent.length) }

/-- The next step of the heartbeat thread. -/
def beat (machine : HeartbeatMachine) (clock : SessionClock) : HeartbeatMachine :=
  match machine.thread with
  | .absent => machine
  | .checkFlag =>
    if machine.session.heartbeatTimerRunning then { machine with thread := .checkState }
    else { machine with thread := .ended }
  | .checkState =>
    if machine.session.sessionState = .loggedOn then { machine with thread := .sleep }
    else { machine with thread := .ended }
  | .sleep => { machine with thread := .heartbeat }
  | .heartbeat => machine.thenBeat (machine.session.timerHeartbeat clock) .testRequest
  | .testRequest => machine.thenBeat (machine.session.timerTestRequest clock) .checkFlag
  | .ended => machine

inductive Move where
  /-- Call an operation, unless one is in progress. -/
  | call (operation : SessionOperation)
  | proceed
  | beat
  /-- The pool and the queues change. -/
  | supply (pool : Option (MessagePool FixMessage)) (queues : Option PriorityQueueContainer)

/-- A move, with the clock as it reads then. -/
def step (machine : HeartbeatMachine) (move : SessionClock × Move) : HeartbeatMachine :=
  match move.2 with
  | .call operation =>
    if machine.control = .idle then machine.begin move.1 operation else machine
  | .proceed => machine.proceed move.1
  | .beat => machine.beat move.1
  | .supply pool queues =>
    { machine with session.messagePool := pool, session.outboundQueues := queues }

/-- A new session manager. -/
structure Initial (machine : HeartbeatMachine) : Prop where
  state : machine.session.sessionState = .disconnected
  running : machine.session.heartbeatTimerRunning = false
  control : machine.control = .idle
  thread : machine.thread = .absent

end HeartbeatMachine

/-! ## Lives -/

/-- The state, the flag, the operation in progress and the thread. -/
structure Life where
  state : SessionState
  running : Bool
  control : Control
  thread : HeartbeatThread
  deriving DecidableEq, Repr

/-- An operation as the life sees it. -/
inductive Request where
  | initiateLogon
  | initiateLogout (reason : Bytes)
  | acceptedLogon
  | acceptedLogout
  /-- A message that is not accepted or is neither a Logon nor a Logout. -/
  | other
  | stop
  | destroy
  deriving DecidableEq, Repr

namespace Life

def begin (life : Life) : Request → Life
  | .initiateLogon =>
    if life.state ≠ .disconnected then life else { life with control := .logonUpdate }
  | .initiateLogout reason =>
    if life.state ≠ .loggedOn ∧ life.state ≠ .logonSent then life
    else { life with control := .logoutUpdate reason }
  | .acceptedLogon => { life with control := .logonAccept life.state }
  | .acceptedLogout => { life with control := .stopLoad .handleLogout }
  | .other => life
  | .stop => { life with control := .stopLoad .stop }
  | .destroy => { life with control := .stopLoad .destructor }

/-- The next step of the operation, where `sent` says whether the Logon can be sent. -/
def proceed (life : Life) (sent : Bool) : Life :=
  match life.control with
  | .idle => life
  | .logonUpdate => { life with state := .logonSent, control := .logonSend }
  | .logonSend =>
    if sent then { life with control := .idle } else { life with control := .logonRevert }
  | .logonRevert => { life with state := .disconnected, control := .idle }
  | .logoutUpdate reason => { life with state := .logoutSent, control := .logoutSend reason }
  | .logoutSend _ => { life with control := .idle }
  | .logonAccept _ => { life with state := .loggedOn, control := .startLoad }
  | .startLoad =>
    if life.running then { life with control := .idle } else { life with control := .startStore }
  | .startStore => { life with running := true, control := .startAssign }
  | .startAssign => { life with thread := .checkFlag, control := .idle }
  | .stopLoad caller =>
    if life.running then { life with control := .stopStore caller }
    else { life with control := caller.resume }
  | .stopStore caller => { life with running := false, control := .stopJoin caller }
  | .stopJoin caller =>
    if life.thread.live then life else { life with thread := .absent, control := caller.resume }
  | .logoutLoad =>
    if life.state = .loggedOn then { life with control := .logoutAnswer }
    else { life with control := .disconnect .handleLogout }
  | .logoutAnswer => { life with control := .disconnect .handleLogout }
  | .disconnect caller => { life with state := .disconnected, control := caller.finish }
  | .destroyed => life

def beat (life : Life) : Life :=
  match life.thread with
  | .absent => life
  | .checkFlag =>
    if life.running then { life with thread := .checkState } else { life with thread := .ended }
  | .checkState =>
    if life.state = .loggedOn then { life with thread := .sleep }
    else { life with thread := .ended }
  | .sleep => { life with thread := .heartbeat }
  | .heartbeat => { life with thread := .testRequest }
  | .testRequest => { life with thread := .checkFlag }
  | .ended => life

inductive Move where
  | call (request : Request)
  | proceed (sent : Bool)
  | beat
  | rest
  deriving DecidableEq

def step (life : Life) : Move → Life
  | .call request => if life.control = .idle then life.begin request else life
  | .proceed sent => life.proceed sent
  | .beat => life.beat
  | .rest => life

theorem beat_eq (life : Life) : life.beat = { life with thread := life.beat.thread } := by
  obtain ⟨state, running, control, thread⟩ := life
  cases thread <;> simp only [beat] <;> first | rfl | (split <;> rfl)

end Life

namespace FixSessionManager

/-! ## What a life leaves out -/

/-- The state of the session and the flag of the timer. -/
def lifeView (session : FixSessionManager) : SessionState × Bool :=
  (session.sessionState, session.heartbeatTimerRunning)

theorem lifeView_freeOfSends : FreeOfSends lifeView := fun _ _ _ _ _ _ => rfl

theorem tolerates_lifeView : Tolerates fun before after => after.lifeView = before.lifeView :=
  lifeView_freeOfSends.tolerates fun _ _ _ _ _ => rfl

section LifeView

variable (session : FixSessionManager) (clock : SessionClock)

theorem createTestRequestMessage_lifeView :
    (session.createTestRequestMessage clock).2.lifeView = session.lifeView := by
  have created := lifeView_freeOfSends.createMessage session clock (ascii "1")
    [(FixFields.testReqID, session.createTestRequestId.1)]
  unfold createTestRequestMessage
  dsimp only
  generalize session.createMessage clock (ascii "1")
    [(FixFields.testReqID, session.createTestRequestId.1)] = message at created ⊢
  obtain ⟨slot, after⟩ := message
  cases slot with
  | none => exact created
  | some slot => exact created

theorem sendTestRequest_lifeView : (session.sendTestRequest clock).2.lifeView = session.lifeView :=
  tolerates_lifeView.sendCreated session (session.createTestRequestMessage_lifeView clock)
    fun _ => rfl

theorem timerHeartbeat_lifeView : (session.timerHeartbeat clock).lifeView = session.lifeView := by
  unfold timerHeartbeat
  split
  · exact tolerates_lifeView.sendHeartbeat session clock []
  · rfl

theorem timerTestRequest_lifeView :
    (session.timerTestRequest clock).lifeView = session.lifeView := by
  unfold timerTestRequest
  split
  · exact session.sendTestRequest_lifeView clock
  · rfl

theorem receive_lifeView (message : Option FixMessage) :
    (session.receive clock message).2.lifeView = session.lifeView := by
  obtain ⟨time, expected, gapManager, received⟩ := session.receive_frame clock message
  rw [received]
  rfl

/-- Only the handlers of Logon and Logout touch the life of the session. -/
theorem dispatch_lifeView {msgType : Bytes} (message : FixMessage)
    (noLogon : msgType ≠ ascii "A") (noLogout : msgType ≠ ascii "5") :
    (session.dispatch clock msgType message).2.lifeView = session.lifeView := by
  by_cases reset : msgType = ascii "4"
  · subst reset
    change (session.handleSequenceReset message).2.lifeView = session.lifeView
    unfold handleSequenceReset
    split <;> rfl
  · exact tolerates_lifeView.dispatch session clock message noLogon noLogout reset

end LifeView

end FixSessionManager

namespace HeartbeatMachine

def life (machine : HeartbeatMachine) : Life where
  state := machine.session.sessionState
  running := machine.session.heartbeatTimerRunning
  control := machine.control
  thread := machine.thread

theorem Initial.life {machine : HeartbeatMachine} (initial : machine.Initial) :
    machine.life = ⟨.disconnected, false, .idle, .absent⟩ := by
  rw [HeartbeatMachine.life, initial.state, initial.running, initial.control, initial.thread]

/-- How the life sees an operation. -/
def request (machine : HeartbeatMachine) (clock : SessionClock) : SessionOperation → Request
  | .initiateLogon => .initiateLogon
  | .initiateLogout reason => .initiateLogout reason
  | .handleMessage message =>
    match (machine.session.receive clock message).1 with
    | none => .other
    | some (msgType, _) =>
      if msgType = ascii "A" then .acceptedLogon
      else if msgType = ascii "5" then .acceptedLogout
      else .other
  | .stop => .stop
  | .destroy => .destroy

def lifeMove (machine : HeartbeatMachine) (move : SessionClock × Move) : Life.Move :=
  match move.2 with
  | .call operation => .call (machine.request move.1 operation)
  | .proceed => .proceed (machine.session.sendLogon move.1).1
  | .beat => .beat
  | .supply _ _ => .rest

section Life

variable (machine : HeartbeatMachine) (clock : SessionClock)

theorem life_congr {session other : FixSessionManager} (same : session.lifeView = other.lifeView)
    (control : Control) (thread : HeartbeatThread) (timerSent : Nat) :
    (HeartbeatMachine.mk session control thread timerSent).life =
      ⟨other.sessionState, other.heartbeatTimerRunning, control, thread⟩ := by
  have state : session.sessionState = other.sessionState := congrArg Prod.fst same
  have running : session.heartbeatTimerRunning = other.heartbeatTimerRunning :=
    congrArg Prod.snd same
  rw [← state, ← running]
  rfl

theorem begin_life (operation : SessionOperation) :
    (machine.begin clock operation).life =
      machine.life.begin (machine.request clock operation) := by
  cases operation with
  | initiateLogon => exact apply_ite life _ _ _
  | initiateLogout reason => exact apply_ite life _ _ _
  | handleMessage message =>
    have received := machine.session.receive_lifeView clock message
    unfold begin request
    dsimp only
    generalize machine.session.receive clock message = checked at received ⊢
    obtain ⟨passed, session⟩ := checked
    cases passed with
    | none => exact life_congr received _ _ _
    | some accepted =>
      obtain ⟨msgType, message⟩ := accepted
      dsimp only at received ⊢
      by_cases logon : msgType = ascii "A"
      · have state : session.sessionState = machine.session.sessionState :=
          congrArg Prod.fst received
        rw [if_pos logon, if_pos logon]
        refine (life_congr ?_ _ _ _).trans (congrArg (Life.mk _ _ · _) ?_)
        · exact received
        · exact congrArg Control.logonAccept state
      · by_cases logout : msgType = ascii "5"
        · rw [if_neg logon, if_pos logout, if_neg logon, if_pos logout]
          exact life_congr received _ _ _
        · rw [if_neg logon, if_neg logout, if_neg logon, if_neg logout]
          exact life_congr
            ((session.dispatch_lifeView clock message logon logout).trans received) _ _ _
  | stop => rfl
  | destroy => rfl

theorem proceed_life :
    (machine.proceed clock).life = machine.life.proceed (machine.session.sendLogon clock).1 := by
  obtain ⟨session, control, thread, timerSent⟩ := machine
  cases control with
  | logonSend =>
    have sent := FixSessionManager.tolerates_lifeView.sendLogon session clock
    simp only [proceed, Life.proceed, life]
    generalize session.sendLogon clock = returned at sent ⊢
    obtain ⟨success, after⟩ := returned
    cases success with
    | true => exact life_congr sent .idle thread timerSent
    | false => exact life_congr sent .logonRevert thread timerSent
  | logoutSend reason =>
    have sent := FixSessionManager.tolerates_lifeView.sendLogout session clock reason
    simp only [proceed, Life.proceed, life]
    generalize session.sendLogout clock reason = returned at sent ⊢
    obtain ⟨success, after⟩ := returned
    cases success with
    | true => exact life_congr sent .idle thread timerSent
    | false => exact life_congr sent .idle thread timerSent
  | logoutAnswer =>
    have sent := FixSessionManager.tolerates_lifeView.sendLogout session clock
      (ascii "Logout acknowledged")
    exact life_congr sent _ thread timerSent
  | startLoad => exact apply_ite life _ _ _
  | stopLoad caller => exact apply_ite life _ _ _
  | stopJoin caller => exact apply_ite life _ _ _
  | logoutLoad => exact apply_ite life _ _ _
  | idle => rfl
  | logonUpdate => rfl
  | logonRevert => rfl
  | logoutUpdate reason => rfl
  | logonAccept received => rfl
  | startStore => rfl
  | startAssign => rfl
  | stopStore caller => rfl
  | disconnect caller => rfl
  | destroyed => rfl

theorem beat_life : (machine.beat clock).life = machine.life.beat := by
  obtain ⟨session, control, thread, timerSent⟩ := machine
  cases thread with
  | absent => rfl
  | checkFlag => exact apply_ite life _ _ _
  | checkState => exact apply_ite life _ _ _
  | sleep => rfl
  | heartbeat => exact life_congr (session.timerHeartbeat_lifeView clock) control _ _
  | testRequest => exact life_congr (session.timerTestRequest_lifeView clock) control _ _
  | ended => rfl

/-- A move of the machine is a move of its life. -/
theorem step_life (move : SessionClock × Move) :
    (machine.step move).life = machine.life.step (machine.lifeMove move) := by
  obtain ⟨clock, move⟩ := move
  cases move with
  | call operation =>
    unfold step lifeMove
    dsimp only
    by_cases idle : machine.control = .idle
    · rw [if_pos idle, machine.begin_life]
      exact (if_pos idle).symm
    · rw [if_neg idle]
      exact (if_neg idle).symm
  | proceed => exact machine.proceed_life clock
  | beat => exact machine.beat_life clock
  | supply pool queues => rfl

end Life

/-! ## Operations without interruption -/

/-- What an operation does as a whole. -/
def whole (session : FixSessionManager) (clock : SessionClock) :
    SessionOperation → FixSessionManager
  | .initiateLogon => (session.initiateLogon clock).2
  | .initiateLogout reason => (session.initiateLogout clock reason).2
  | .handleMessage message => (session.handleMessage clock message).2
  | .stop => session.stopHeartbeatTimer.updateSessionState .disconnected
  | .destroy => session.stopHeartbeatTimer.updateSessionState .disconnected

/-- The operation in progress takes some steps and nothing else happens. -/
def Proceeds (clock : SessionClock) : HeartbeatMachine → HeartbeatMachine → Prop :=
  Relation.ReflTransGen fun before after => before.proceed clock = after

/-- The operation comes to its end and leaves the given manager. -/
def Completes (machine : HeartbeatMachine) (clock : SessionClock) (session : FixSessionManager) :
    Prop :=
  ∃ after, Proceeds clock machine after ∧ (after.control = .idle ∨ after.control = .destroyed) ∧
    after.session = session

section Completes

variable {machine : HeartbeatMachine} {clock : SessionClock} {session : FixSessionManager}
  {thread : HeartbeatThread} {timerSent : Nat}

theorem Completes.now (idle : machine.control = .idle) :
    machine.Completes clock machine.session := ⟨machine, .refl, .inl idle, rfl⟩

theorem Completes.later {after : HeartbeatMachine} (completes : after.Completes clock session)
    (proceeds : Proceeds clock machine after) : machine.Completes clock session := by
  obtain ⟨last, rest, ended, same⟩ := completes
  exact ⟨last, proceeds.trans rest, ended, same⟩

theorem completes_initiateLogon (free : session.sessionState = .disconnected) :
    (HeartbeatMachine.mk session .logonUpdate thread timerSent).Completes clock
      (session.initiateLogon clock).2 := by
  unfold FixSessionManager.initiateLogon
  rw [if_neg (not_not.mpr free)]
  generalize returned : (session.updateSessionState .logonSent).sendLogon clock = result
  obtain ⟨success, sent⟩ := result
  cases success with
  | true =>
    refine ⟨_, .head rfl (.single rfl), ?_⟩
    simp [proceed, returned]
  | false =>
    refine ⟨_, .head rfl (.head rfl (.single rfl)), ?_⟩
    simp [proceed, returned]

theorem completes_initiateLogout
    (active : ¬ (session.sessionState ≠ .loggedOn ∧ session.sessionState ≠ .logonSent))
    (reason : Bytes) :
    (HeartbeatMachine.mk session (.logoutUpdate reason) thread timerSent).Completes clock
      (session.initiateLogout clock reason).2 := by
  unfold FixSessionManager.initiateLogout
  rw [if_neg active]
  generalize returned : (session.updateSessionState .logoutSent).sendLogout clock reason = result
  obtain ⟨success, sent⟩ := result
  refine ⟨_, .head rfl (.single rfl), ?_⟩
  cases success <;> simp [proceed, returned]

theorem completes_startHeartbeatTimer :
    (HeartbeatMachine.mk session .startLoad thread timerSent).Completes clock
      session.startHeartbeatTimer := by
  by_cases running : session.heartbeatTimerRunning = true
  · refine ⟨_, .single rfl, ?_⟩
    simp [proceed, running, startHeartbeatTimer]
  · refine ⟨_, .head rfl (.head rfl (.single rfl)), ?_⟩
    simp [proceed, running, startHeartbeatTimer]

theorem proceeds_stopHeartbeatTimer (session : FixSessionManager) (clock : SessionClock)
    (quiet : thread.live = false) (caller : StopCaller) :
    ∃ joined, Proceeds clock (HeartbeatMachine.mk session (.stopLoad caller) thread timerSent)
      (HeartbeatMachine.mk session.stopHeartbeatTimer caller.resume joined timerSent) := by
  by_cases running : session.heartbeatTimerRunning = true
  · refine ⟨.absent, .head rfl (.head rfl (.single ?_))⟩
    simp [proceed, running, quiet, stopHeartbeatTimer]
  · refine ⟨thread, .single ?_⟩
    simp [proceed, running, stopHeartbeatTimer]

theorem completes_handleLogout (quiet : thread.live = false) :
    (HeartbeatMachine.mk session (.stopLoad .handleLogout) thread timerSent).Completes clock
      (session.handleLogout clock).2 := by
  obtain ⟨joined, stopped⟩ := proceeds_stopHeartbeatTimer session clock quiet .handleLogout
  refine Completes.later ?_ stopped
  unfold FixSessionManager.handleLogout
  generalize session.stopHeartbeatTimer = session
  by_cases active : session.sessionState = .loggedOn
  · refine ⟨_, .head rfl (.head rfl (.single rfl)), ?_⟩
    simp [proceed, active, StopCaller.resume, StopCaller.finish]
  · refine ⟨_, .head rfl (.single rfl), ?_⟩
    simp [proceed, active, StopCaller.resume, StopCaller.finish]

theorem completes_stop (quiet : thread.live = false) {caller : StopCaller}
    (resumes : caller.resume = .disconnect caller)
    (ends : caller.finish = .idle ∨ caller.finish = .destroyed) :
    (HeartbeatMachine.mk session (.stopLoad caller) thread timerSent).Completes clock
      (session.stopHeartbeatTimer.updateSessionState .disconnected) := by
  obtain ⟨joined, stopped⟩ := proceeds_stopHeartbeatTimer session clock quiet caller
  refine Completes.later ⟨_, .single rfl, ?_⟩ stopped
  rw [resumes]
  exact ⟨ends, rfl⟩

/-- An operation that the thread does not interrupt or hold up does what the function of
the same name does. -/
theorem call_completes (idle : machine.control = .idle) (quiet : machine.thread.live = false)
    (operation : SessionOperation) :
    (machine.begin clock operation).Completes clock (whole machine.session clock operation) := by
  obtain ⟨session, control, thread, timerSent⟩ := machine
  cases idle
  cases operation with
  | initiateLogon =>
    by_cases free : session.sessionState = .disconnected
    · rw [begin, if_neg (not_not.mpr free)]
      exact completes_initiateLogon free
    · rw [begin, if_pos free, whole, FixSessionManager.initiateLogon, if_pos free]
      exact .now rfl
  | initiateLogout reason =>
    by_cases inactive : session.sessionState ≠ .loggedOn ∧ session.sessionState ≠ .logonSent
    · rw [begin, if_pos inactive, whole, FixSessionManager.initiateLogout, if_pos inactive]
      exact .now rfl
    · rw [begin, if_neg inactive]
      exact completes_initiateLogout inactive reason
  | handleMessage message =>
    simp only [begin, whole, handleMessage_eq_receive]
    generalize session.receive clock message = checked
    obtain ⟨passed, session⟩ := checked
    cases passed with
    | none => exact .now rfl
    | some accepted =>
      obtain ⟨msgType, message⟩ := accepted
      dsimp only
      unfold FixSessionManager.dispatch
      split
      · refine Completes.later ?_ (.single rfl)
        exact completes_startHeartbeatTimer
      · split
        · exact completes_handleLogout quiet
        · exact .now rfl
  | stop => exact completes_stop quiet rfl (.inl rfl)
  | destroy => exact completes_stop quiet rfl (.inr rfl)

end Completes

/-! ## A machine to try -/

/-- A new session manager with a pool and queues. -/
def sampleMachine : HeartbeatMachine where
  session :=
    { config := { senderCompId := ascii "CLIENT", targetCompId := ascii "BROKER" }
      messagePool := some (MessagePool.new FixMessage 2 Nat.two_pos)
      outboundQueues := some PriorityQueueContainer.new }

theorem initial_sampleMachine : sampleMachine.Initial := ⟨rfl, rfl, rfl, rfl⟩

theorem call_completes_logon :
    (sampleMachine.begin ⟨0, ⟨2025, 1, 1, 0, 0, 0, 0⟩⟩ .initiateLogon).Completes
      ⟨0, ⟨2025, 1, 1, 0, 0, 0, 0⟩⟩
      (whole sampleMachine.session ⟨0, ⟨2025, 1, 1, 0, 0, 0, 0⟩⟩ .initiateLogon) :=
  call_completes rfl rfl .initiateLogon

/-- A message of the given type from the broker. -/
def sampleMessage (number : Nat) (msgType : String) : FixMessage :=
  FixMessage.empty.setFields
    [(FixFields.msgType, ascii msgType), (FixFields.senderCompID, ascii "BROKER"),
      (FixFields.targetCompID, ascii "CLIENT"), (FixFields.msgSeqNum, decimal number)]

/-- Some moves at one time. -/
def sampleMoves (moves : List Move) : List (SessionClock × Move) :=
  moves.map (⟨0, ⟨2025, 1, 1, 0, 0, 0, 0⟩⟩, ·)

/-- The moves of a Logon that starts the timer. -/
def logonMoves (number : Nat) : List Move :=
  [.call (.handleMessage (sampleMessage number "A")), .proceed, .proceed, .proceed, .proceed]

/-- The moves of `initiateLogout`. -/
def logoutMoves : List Move := [.call (.initiateLogout []), .proceed, .proceed]

end HeartbeatMachine

end FixGateway.Manager
