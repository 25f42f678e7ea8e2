import FixGateway.Manager.HeartbeatThread

/-! # Heartbeats of a session that lives, and of one that does not

`heartbeat_timer_running_` says whether there is a thread, except between its store and
the assignment in `startHeartbeatTimer`, and between its store and the join in
`stopHeartbeatTimer` (`Life.Sound`). It does not say whether the thread is still in its
loop: the thread also leaves when the session is not logged on, and nobody clears the
flag then. A Logon that is accepted after that finds the flag set and starts no thread
(`relogon_without_thread`). Unless that happens, the thread is live whenever the session is
logged on and no operation is in progress (`heartbeat_while_loggedOn`).

The other direction needs no condition: a disconnected session has no thread
(`no_heartbeat_while_disconnected`).
-/

namespace FixGateway.Manager

open ByteScan Protocol

/-- `handleLogon` is about to change the state. -/
def Control.accepting : Control → Bool
  | .logonAccept _ => true
  | _ => false

namespace Life

/-! ## The flag and the thread -/

/-- There is no thread, and the flag says so. -/
structure Quiet (running : Bool) (thread : HeartbeatThread) : Prop where
  running : running = false
  thread : thread = .absent

/-- The flag says whether there is a thread, and there is none before a Logon is accepted. -/
structure Flagged (state : SessionState) (running : Bool) (thread : HeartbeatThread) : Prop where
  flag : thread.joinable = running
  early : state = .disconnected ∨ state = .logonSent → running = false

/-- What the flag and the thread are at each point of an operation. -/
def Sound : Life → Prop
  | ⟨state, running, control, thread⟩ =>
    match control with
    | .startLoad => Flagged state running thread ∧ state = .loggedOn
    | .startStore => Quiet running thread ∧ state = .loggedOn
    | .startAssign => running = true ∧ thread = .absent ∧ state = .loggedOn
    | .stopJoin _ => running = false
    | .logonUpdate => Quiet running thread
    | .logonSend => Quiet running thread
    | .logonRevert => Quiet running thread
    | .logoutLoad => Quiet running thread
    | .logoutAnswer => Quiet running thread
    | .disconnect _ => Quiet running thread
    | .destroyed => Quiet running thread
    | _ => Flagged state running thread

section Sound

variable {state : SessionState} {running : Bool} {thread : HeartbeatThread} {life : Life}

theorem Quiet.flagged (quiet : Quiet running thread) : Flagged state running thread := by
  obtain ⟨rfl, rfl⟩ := quiet
  exact ⟨rfl, fun _ => rfl⟩

theorem absent_of_joinable (none : thread.joinable = false) : thread = .absent := by
  cases thread with
  | absent => rfl
  | _ => cases none

theorem Flagged.quiet (flagged : Flagged state running thread) (clear : running = false) :
    Quiet running thread :=
  ⟨clear, absent_of_joinable (flagged.flag.trans clear)⟩

theorem Flagged.later (flagged : Flagged state running thread) {next : SessionState}
    (later : next = .loggedOn ∨ next = .logoutSent) : Flagged next running thread := by
  refine ⟨flagged.flag, ?_⟩
  rcases later with rfl | rfl <;> simp

theorem Quiet.resume (quiet : Quiet running thread) (caller : StopCaller) :
    Sound ⟨state, running, caller.resume, thread⟩ := by
  cases caller <;> exact quiet

theorem Quiet.finish (quiet : Quiet running thread) (caller : StopCaller) :
    Sound ⟨state, running, caller.finish, thread⟩ := by
  cases caller with
  | handleLogout => exact quiet.flagged
  | stop => exact quiet.flagged
  | destructor => exact quiet

/-- The flag is clear beside a joinable thread only while the thread is being joined. -/
theorem Sound.stopJoin {control : Control} (sound : Sound ⟨state, false, control, thread⟩)
    (joinable : thread.joinable = true) : ∃ caller, control = .stopJoin caller := by
  have flagged : ¬ Flagged state false thread := fun flagged =>
    Bool.noConfusion (flagged.flag.symm.trans joinable)
  have quiet : ¬ Quiet false thread := fun quiet => flagged quiet.flagged
  cases control with
  | stopJoin caller => exact ⟨caller, rfl⟩
  | startAssign => cases sound.1
  | startLoad => exact absurd sound.1 flagged
  | startStore => exact absurd sound.1 quiet
  | logonUpdate => exact absurd sound quiet
  | logonSend => exact absurd sound quiet
  | logonRevert => exact absurd sound quiet
  | logoutLoad => exact absurd sound quiet
  | logoutAnswer => exact absurd sound quiet
  | disconnect caller => exact absurd sound quiet
  | destroyed => exact absurd sound quiet
  | _ => exact absurd sound flagged

theorem Sound.begin (sound : life.Sound) (idle : life.control = .idle) (request : Request) :
    (life.begin request).Sound := by
  obtain ⟨state, running, control, thread⟩ := life
  cases idle
  have flagged : Flagged state running thread := sound
  cases request with
  | initiateLogon =>
    by_cases free : state = .disconnected
    · rw [Life.begin, if_neg (not_not.mpr free)]
      exact flagged.quiet (flagged.early (.inl free))
    · rw [Life.begin, if_pos free]
      exact sound
  | initiateLogout reason =>
    simp only [Life.begin]
    split
    · exact sound
    · exact flagged
  | acceptedLogon => exact flagged
  | acceptedLogout => exact flagged
  | other => exact sound
  | stop => exact flagged
  | destroy => exact flagged

theorem Sound.proceed (sound : life.Sound) (sent : Bool) : (life.proceed sent).Sound := by
  obtain ⟨state, running, control, thread⟩ := life
  cases control with
  | idle => exact sound
  | logonUpdate => exact sound
  | logonSend =>
    cases sent with
    | true => exact Quiet.flagged sound
    | false => exact sound
  | logonRevert => exact Quiet.flagged sound
  | logoutUpdate reason => exact Flagged.later sound (.inr rfl)
  | logoutSend reason => exact sound
  | logonAccept received => exact ⟨Flagged.later sound (.inl rfl), rfl⟩
  | startLoad =>
    obtain ⟨flagged, active⟩ := sound
    cases running with
    | true => exact flagged
    | false => exact ⟨flagged.quiet rfl, active⟩
  | startStore =>
    obtain ⟨quiet, active⟩ := sound
    exact ⟨rfl, quiet.thread, active⟩
  | startAssign =>
    obtain ⟨set, absent, active⟩ := sound
    exact ⟨set.symm, by rw [active]; simp⟩
  | stopLoad caller =>
    cases running with
    | true => exact sound
    | false => exact (Flagged.quiet sound rfl).resume caller
  | stopStore caller => exact rfl
  | stopJoin caller =>
    simp only [Life.proceed]
    split
    · exact sound
    · exact Quiet.resume ⟨sound, rfl⟩ caller
  | logoutLoad =>
    simp only [Life.proceed]
    split <;> exact sound
  | logoutAnswer => exact sound
  | disconnect caller => exact Quiet.finish sound caller
  | destroyed => exact sound

theorem beat_joinable (life : Life) : life.beat.thread.joinable = life.thread.joinable := by
  obtain ⟨state, running, control, thread⟩ := life
  cases thread <;> simp only [beat] <;> first | rfl | (split <;> rfl)

theorem Sound.beat (sound : life.Sound) : life.beat.Sound := by
  have kept := life.beat_joinable
  have same := life.beat_eq
  obtain ⟨state, running, control, thread⟩ := life
  rw [same]
  generalize (Life.beat ⟨state, running, control, thread⟩).thread = after at kept ⊢
  have flagged : Flagged state running thread → Flagged state running after := fun flagged =>
    ⟨kept.trans flagged.flag, flagged.early⟩
  have absent : thread = .absent → after = .absent := fun absent =>
    absent_of_joinable (kept.trans (by rw [absent]; rfl))
  have quiet : Quiet running thread → Quiet running after := fun quiet =>
    ⟨quiet.running, absent quiet.thread⟩
  cases control with
  | startLoad => exact ⟨flagged sound.1, sound.2⟩
  | startStore => exact ⟨quiet sound.1, sound.2⟩
  | startAssign => exact ⟨sound.1, absent sound.2.1, sound.2.2⟩
  | stopJoin caller => exact sound
  | logonUpdate => exact quiet sound
  | logonSend => exact quiet sound
  | logonRevert => exact quiet sound
  | logoutLoad => exact quiet sound
  | logoutAnswer => exact quiet sound
  | disconnect caller => exact quiet sound
  | destroyed => exact quiet sound
  | _ => exact flagged sound

theorem Sound.step (sound : life.Sound) (move : Move) : (life.step move).Sound := by
  cases move with
  | call request =>
    rw [Life.step]
    split
    · exact sound.begin ‹_› request
    · exact sound
  | proceed sent => exact sound.proceed sent
  | beat => exact sound.beat
  | rest => exact sound

end Sound

/-! ## A thread for every session that is logged on -/

/-- The flag is set, the thread runs, and the session is such that it goes on. -/
structure Beating (state : SessionState) (running : Bool) (thread : HeartbeatThread) : Prop where
  running : running = true
  thread : thread.live = true
  state : state = .loggedOn

/-- A session that is logged on has a live thread, unless an operation is just starting or
stopping it. -/
def Attended : Life → Prop
  | ⟨state, running, control, thread⟩ =>
    match control with
    | .startLoad => running = true → Beating state running thread
    | .startStore => True
    | .startAssign => True
    | .stopJoin _ => True
    | .logoutLoad => True
    | .logoutAnswer => True
    | .disconnect _ => True
    | .destroyed => True
    | _ => state = .loggedOn → Beating state running thread

/-- An accepted Logon is about to log the session on, the flag is set and the thread has ended. -/
def Abandoned (life : Life) : Prop :=
  life.control.accepting = true ∧ life.running = true ∧ life.thread = .ended

instance (life : Life) : Decidable life.Abandoned := inferInstanceAs (Decidable (_ ∧ _ ∧ _))

section Attended

variable {state : SessionState} {running : Bool} {thread : HeartbeatThread} {life : Life}

theorem live_of_flagged (flagged : Flagged state running thread) (set : running = true)
    (inside : thread ≠ .ended) : thread.live = true := by
  have joinable := flagged.flag.trans set
  cases thread with
  | absent => cases joinable
  | ended => exact absurd rfl inside
  | _ => rfl

theorem Attended.begin (attended : life.Attended) (idle : life.control = .idle)
    (request : Request) : (life.begin request).Attended := by
  obtain ⟨state, running, control, thread⟩ := life
  cases idle
  have beating : state = .loggedOn → Beating state running thread := attended
  cases request with
  | initiateLogon =>
    simp only [Life.begin]
    split <;> exact beating
  | initiateLogout reason =>
    simp only [Life.begin]
    split <;> exact beating
  | _ => exact beating

theorem Attended.proceed (attended : life.Attended) (sound : life.Sound)
    (kept : ¬ life.Abandoned) (sent : Bool) : (life.proceed sent).Attended := by
  obtain ⟨state, running, control, thread⟩ := life
  cases control with
  | logonUpdate => exact nofun
  | logonSend => cases sent <;> exact attended
  | logonRevert => exact nofun
  | logoutUpdate reason => exact nofun
  | logonAccept received =>
    intro set
    have inside : thread ≠ .ended := fun ended => kept ⟨rfl, set, ended⟩
    exact ⟨set, live_of_flagged sound set inside, rfl⟩
  | startLoad =>
    cases running with
    | true => exact fun _ => attended rfl
    | false => trivial
  | startStore => trivial
  | startAssign =>
    obtain ⟨set, -, active⟩ := sound
    exact fun _ => ⟨set, rfl, active⟩
  | stopLoad caller =>
    cases running with
    | true => exact attended
    | false => cases caller <;> trivial
  | stopStore caller => trivial
  | stopJoin caller =>
    simp only [Life.proceed]
    split
    · trivial
    · cases caller <;> trivial
  | logoutLoad =>
    simp only [Life.proceed]
    split <;> trivial
  | logoutAnswer => trivial
  | disconnect caller => cases caller <;> first | trivial | exact nofun
  | _ => exact attended

theorem Beating.beat (beating : Beating state running thread) (control : Control) :
    Beating state running (Life.beat ⟨state, running, control, thread⟩).thread := by
  obtain ⟨rfl, inside, rfl⟩ := beating
  refine ⟨rfl, ?_, rfl⟩
  cases thread with
  | absent => cases inside
  | ended => cases inside
  | _ => rfl

theorem Attended.beat (attended : life.Attended) : life.beat.Attended := by
  have same := life.beat_eq
  obtain ⟨state, running, control, thread⟩ := life
  rw [same]
  have beating : Beating state running thread → _ := fun beating => beating.beat control
  generalize (Life.beat ⟨state, running, control, thread⟩).thread = after at beating ⊢
  cases control with
  | startLoad => exact fun set => beating (attended set)
  | startStore => trivial
  | startAssign => trivial
  | stopJoin caller => trivial
  | logoutLoad => trivial
  | logoutAnswer => trivial
  | disconnect caller => trivial
  | destroyed => trivial
  | _ => exact fun active => beating (attended active)

theorem Attended.step (attended : life.Attended) (sound : life.Sound) {move : Move}
    (kept : ∀ sent, move = .proceed sent → ¬ life.Abandoned) : (life.step move).Attended := by
  cases move with
  | call request =>
    rw [Life.step]
    split
    · exact attended.begin ‹_› request
    · exact attended
  | proceed sent => exact attended.proceed sound (kept sent rfl) sent
  | beat => exact attended.beat
  | rest => exact attended

end Attended

/-! ## No thread until the next Logon -/

/-- There is no thread, and no operation is about to start one. -/
def Silent : Life → Prop
  | ⟨_, _, control, thread⟩ =>
    thread = .absent ∧
      match control with
      | .logonAccept _ => False
      | .startLoad => False
      | .startStore => False
      | .startAssign => False
      | _ => True

section Silent

variable {life : Life}

theorem Silent.begin (silent : life.Silent) {request : Request}
    (noLogon : request ≠ .acceptedLogon) : (life.begin request).Silent := by
  obtain ⟨state, running, control, thread⟩ := life
  obtain ⟨absent, elsewhere⟩ := silent
  cases request with
  | acceptedLogon => exact absurd rfl noLogon
  | initiateLogon =>
    simp only [Life.begin]
    split
    · exact ⟨absent, elsewhere⟩
    · exact ⟨absent, trivial⟩
  | initiateLogout reason =>
    simp only [Life.begin]
    split
    · exact ⟨absent, elsewhere⟩
    · exact ⟨absent, trivial⟩
  | other => exact ⟨absent, elsewhere⟩
  | _ => exact ⟨absent, trivial⟩

theorem Silent.proceed (silent : life.Silent) (sent : Bool) : (life.proceed sent).Silent := by
  obtain ⟨state, running, control, thread⟩ := life
  obtain ⟨rfl, elsewhere⟩ := silent
  cases control with
  | logonAccept received => cases elsewhere
  | startLoad => cases elsewhere
  | startStore => cases elsewhere
  | startAssign => cases elsewhere
  | logonSend => cases sent <;> exact ⟨rfl, trivial⟩
  | stopLoad caller => cases running <;> cases caller <;> exact ⟨rfl, trivial⟩
  | stopJoin caller => cases caller <;> exact ⟨rfl, trivial⟩
  | logoutLoad =>
    simp only [Life.proceed]
    split <;> exact ⟨rfl, trivial⟩
  | disconnect caller => cases caller <;> exact ⟨rfl, trivial⟩
  | _ => exact ⟨rfl, trivial⟩

theorem Silent.step (silent : life.Silent) {move : Move} (noLogon : move ≠ .call .acceptedLogon) :
    (life.step move).Silent := by
  cases move with
  | call request =>
    rw [Life.step]
    split
    · exact silent.begin fun logon => noLogon (congrArg Move.call logon)
    · exact silent
  | proceed sent => exact silent.proceed sent
  | beat =>
    have absent : life.beat = life := by
      obtain ⟨state, running, control, thread⟩ := life
      obtain ⟨rfl, -⟩ := silent
      rfl
    rw [Life.step, absent]
    exact silent
  | rest => exact silent

end Silent

end Life

namespace HeartbeatMachine

open Transition

variable {machine : HeartbeatMachine}

theorem sound_of_run {permitted : HeartbeatMachine → SessionClock × Move → Prop}
    (run : Run Initial step permitted machine) : machine.life.Sound := by
  refine run.invariant (fun machine => machine.life.Sound) ?_ ?_
  · intro machine initial
    rw [initial.life]
    exact ⟨rfl, fun _ => rfl⟩
  · intro machine move sound _
    rw [step_life]
    exact sound.step _

/-- The move is the next step of the operation in progress. -/
def Move.proceeds : Move → Bool
  | .proceed => true
  | _ => false

/-- No accepted Logon logs the session on while the flag of the timer is set and its thread
has ended. -/
def Unabandoned (machine : HeartbeatMachine) (move : SessionClock × Move) : Prop :=
  move.2.proceeds = true → ¬ machine.life.Abandoned

instance (machine : HeartbeatMachine) (move : SessionClock × Move) :
    Decidable (machine.Unabandoned move) := inferInstanceAs (Decidable (_ → ¬ _))

theorem attended_of_run (run : Run Initial step Unabandoned machine) : machine.life.Attended := by
  refine (run.invariant (fun machine => machine.life.Sound ∧ machine.life.Attended) ?_ ?_).2
  · intro machine initial
    rw [initial.life]
    exact ⟨⟨rfl, fun _ => rfl⟩, nofun⟩
  · rintro machine ⟨clock, move⟩ ⟨sound, attended⟩ allowed
    rw [step_life]
    refine ⟨sound.step _, attended.step sound fun sent proceeds => ?_⟩
    cases move with
    | proceed => exact allowed rfl
    | call operation => cases proceeds
    | beat => cases proceeds
    | supply pool queues => cases proceeds

theorem life_of_abandoned (abandoned : machine.life.Abandoned) (clock : SessionClock) :
    (execute step machine [(clock, .proceed), (clock, .proceed)]).life =
      ⟨.loggedOn, true, .idle, .ended⟩ := by
  rw [execute, List.foldl_cons, List.foldl_cons, List.foldl_nil, step_life, step_life]
  obtain ⟨session, control, thread, timerSent⟩ := machine
  obtain ⟨accepting, set, rfl⟩ := abandoned
  cases control with
  | logonAccept received =>
    rw [show life _ = ⟨session.sessionState, true, .logonAccept received, .ended⟩ from
      congrArg (Life.mk _ · _ _) set]
    rfl
  | _ => cases accepting

/-- The heartbeat thread is live whenever the session is logged on and no operation is in
progress, as long as no Logon finds the flag of an ended thread. One that does leaves
the session logged on without a live thread. -/
theorem heartbeat_while_loggedOn (machine : HeartbeatMachine) :
    (Run Initial step Unabandoned machine → machine.control = .idle →
      machine.session.sessionState = .loggedOn → machine.thread.live = true) ∧
    ∀ clock, machine.control.accepting = true → machine.session.heartbeatTimerRunning = true →
      machine.thread = .ended →
      let after := execute step machine [(clock, .proceed), (clock, .proceed)]
      after.control = .idle ∧ after.session.sessionState = .loggedOn ∧
        after.thread.live = false := by
  refine ⟨fun run idle active => ?_, fun clock accepting set ended => ?_⟩
  · have attended := attended_of_run run
    obtain ⟨session, control, thread, timerSent⟩ := machine
    cases idle
    exact (attended active).thread
  · have after := life_of_abandoned ⟨accepting, set, ended⟩ clock
    exact ⟨congrArg Life.control after, congrArg Life.state after,
      congrArg (fun life => life.thread.live) after⟩

theorem heartbeat_while_loggedOn_logon :
    (execute step sampleMachine (sampleMoves (logonMoves 1))).session.sessionState = .loggedOn ∧
      (execute step sampleMachine (sampleMoves (logonMoves 1))).thread.live = true := by
  have state : (execute step sampleMachine (sampleMoves (logonMoves 1))).session.sessionState =
      .loggedOn := by decide +kernel
  have idle : (execute step sampleMachine (sampleMoves (logonMoves 1))).control = .idle := by
    decide +kernel
  have allowed : Permits step Unabandoned sampleMachine (sampleMoves (logonMoves 1)) := by
    decide +kernel
  have run := (Run.start initial_sampleMachine).execute allowed
  exact ⟨state, (heartbeat_while_loggedOn _).1 run idle state⟩

/-- The thread sees that a Logout was sent and ends, and the next Logon starts no other. -/
theorem relogon_without_thread :
    ∃ machine, Run Initial step unrestricted machine ∧ machine.control = .idle ∧
      machine.session.sessionState = .loggedOn ∧ machine.thread.live = false := by
  let moves := sampleMoves (logonMoves 1 ++ logoutMoves ++ [.beat, .beat] ++ logonMoves 2)
  refine ⟨execute step sampleMachine moves,
    (Run.start initial_sampleMachine).execute (permits_unrestricted _ _ _), ?_⟩
  decide +kernel

/-! ## Disconnected sessions -/

/-- No Logon is accepted. -/
def NoLogon (machine : HeartbeatMachine) (move : SessionClock × Move) : Prop :=
  machine.lifeMove move ≠ .call .acceptedLogon

theorem begin_timerSent (machine : HeartbeatMachine) (clock : SessionClock)
    (operation : SessionOperation) :
    (machine.begin clock operation).timerSent = machine.timerSent := by
  unfold begin
  split
  · split <;> rfl
  · split <;> rfl
  · split
    · rfl
    · split_ifs <;> rfl
  · rfl
  · rfl

theorem proceed_timerSent (machine : HeartbeatMachine) (clock : SessionClock) :
    (machine.proceed clock).timerSent = machine.timerSent := by
  unfold proceed
  split <;> first | rfl | (split <;> rfl)

theorem step_timerSent (silent : machine.life.Silent) (move : SessionClock × Move) :
    (machine.step move).timerSent = machine.timerSent := by
  obtain ⟨clock, move⟩ := move
  cases move with
  | call operation =>
    simp only [step]
    split
    · exact machine.begin_timerSent clock operation
    · rfl
  | proceed => exact machine.proceed_timerSent clock
  | beat =>
    obtain ⟨session, control, thread, timerSent⟩ := machine
    obtain ⟨rfl, -⟩ := silent
    rfl
  | supply pool queues => rfl

theorem execute_timerSent (silent : machine.life.Silent) {moves : List (SessionClock × Move)}
    (noLogon : Permits step NoLogon machine moves) :
    (execute step machine moves).timerSent = machine.timerSent := by
  induction moves generalizing machine with
  | nil => rfl
  | cons move moves ih =>
    have next : (machine.step move).life.Silent := by
      rw [step_life]
      exact silent.step noLogon.1
    exact (ih next noLogon.2).trans (step_timerSent silent move)

/-- A disconnected session has no live thread, and none pushes anything until a Logon is
accepted. The flag is clear while the handle is joinable only inside `stopHeartbeatTimer`,
between the store and the join, so no thread is assigned over or destroyed. -/
theorem no_heartbeat_while_disconnected (machine : HeartbeatMachine)
    (run : Run Initial step unrestricted machine) :
    (machine.control = .idle → machine.session.sessionState = .disconnected →
      machine.thread.live = false ∧
        ∀ moves, Permits step NoLogon machine moves →
          (execute step machine moves).timerSent = machine.timerSent) ∧
    (machine.session.heartbeatTimerRunning = false → machine.thread.joinable = true →
      ∃ caller, machine.control = .stopJoin caller) ∧
    (machine.control = .startAssign → machine.thread.joinable = false) ∧
    (machine.control = .destroyed → machine.thread.joinable = false) := by
  have sound := sound_of_run run
  obtain ⟨session, control, thread, timerSent⟩ := machine
  refine ⟨fun idle free => ?_, fun clear joinable => ?_, fun assigning => ?_, fun destroyed => ?_⟩
  · cases idle
    have quiet := Life.Flagged.quiet sound (sound.early (.inl free))
    obtain rfl : thread = .absent := quiet.thread
    exact ⟨rfl, fun moves noLogon => execute_timerSent ⟨rfl, trivial⟩ noLogon⟩
  · have sound : Life.Sound ⟨session.sessionState, false, control, thread⟩ := clear ▸ sound
    exact sound.stopJoin joinable
  · cases assigning
    obtain rfl : thread = .absent := sound.2.1
    rfl
  · cases destroyed
    obtain rfl : thread = .absent := sound.thread
    rfl

/-- `stop` waits for the thread to see the flag and joins it. -/
theorem no_heartbeat_while_disconnected_stopped :
    ∃ machine, Run Initial step unrestricted machine ∧ machine.control = .idle ∧
      machine.session.sessionState = .disconnected ∧ machine.thread.live = false := by
  let moves := sampleMoves (logonMoves 1 ++
    [.call .stop, .proceed, .proceed, .proceed, .beat, .proceed, .proceed])
  have run : Run Initial step unrestricted (execute step sampleMachine moves) :=
    (Run.start initial_sampleMachine).execute (permits_unrestricted _ _ _)
  have idle : (execute step sampleMachine moves).control = .idle := by decide +kernel
  have state : (execute step sampleMachine moves).session.sessionState = .disconnected := by
    decide +kernel
  exact ⟨_, run, idle, state, ((no_heartbeat_while_disconnected _ run).1 idle state).1⟩

/-- The flag is clear and the thread joinable between the store and the join. -/
theorem joinable_while_stopping :
    ∃ machine, Run Initial step unrestricted machine ∧
      machine.session.heartbeatTimerRunning = false ∧ machine.thread.joinable = true := by
  let moves := sampleMoves (logonMoves 1 ++ [.call .stop, .proceed, .proceed])
  refine ⟨execute step sampleMachine moves,
    (Run.start initial_sampleMachine).execute (permits_unrestricted _ _ _), ?_⟩
  decide +kernel

end HeartbeatMachine

end FixGateway.Manager
