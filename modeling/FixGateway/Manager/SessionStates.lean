import FixGateway.Manager.HeartbeatThread

/-! # The states that a session goes through

`initiateLogon` and `initiateLogout` look at the state before they change it. The handlers
of Logon and Logout do not: a Logon that is accepted while a Logout is on its way makes
the session logged on again (`logon_after_logout`). Without such a Logon a session that
has sent a Logout is next disconnected, and it becomes logged on only by a Logon that it
receives while it is disconnected or has sent a Logon itself (`logout_final`).
-/

namespace FixGateway.Manager

open Application ByteScan Common Protocol

namespace Life

/-- Where an operation that checked the state, or noted it, is about to change it. -/
def Ordered : Life → Prop
  | ⟨state, _, control, _⟩ =>
    state ≠ .connecting ∧ state ≠ .disconnecting ∧
      match control with
      | .logonUpdate => state = .disconnected
      | .logonSend => state = .logonSent
      | .logonRevert => state = .logonSent
      | .logoutUpdate _ => state = .loggedOn ∨ state = .logonSent
      | .logonAccept received => received = state ∧ state ≠ .logoutSent
      | _ => True

section Ordered

variable {life : Life}

theorem Ordered.begin (ordered : life.Ordered) {request : Request}
    (settled : request = .acceptedLogon → life.state ≠ .logoutSent) (idle : life.control = .idle) :
    (life.begin request).Ordered := by
  obtain ⟨state, running, control, thread⟩ := life
  obtain ⟨noConnecting, noDisconnecting, -⟩ := ordered
  cases idle
  cases request with
  | initiateLogon =>
    by_cases free : state = .disconnected
    · rw [Life.begin, if_neg (not_not.mpr free)]
      exact ⟨noConnecting, noDisconnecting, free⟩
    · rw [Life.begin, if_pos free]
      exact ⟨noConnecting, noDisconnecting, trivial⟩
  | initiateLogout reason =>
    by_cases inactive : state ≠ .loggedOn ∧ state ≠ .logonSent
    · rw [Life.begin, if_pos inactive]
      exact ⟨noConnecting, noDisconnecting, trivial⟩
    · rw [Life.begin, if_neg inactive]
      refine ⟨noConnecting, noDisconnecting, ?_⟩
      by_contra neither
      exact inactive (not_or.mp neither)
  | acceptedLogon => exact ⟨noConnecting, noDisconnecting, rfl, settled rfl⟩
  | _ => exact ⟨noConnecting, noDisconnecting, trivial⟩

theorem Ordered.proceed (ordered : life.Ordered) (sent : Bool) : (life.proceed sent).Ordered := by
  obtain ⟨state, running, control, thread⟩ := life
  have kept := ordered
  obtain ⟨noConnecting, noDisconnecting, placed⟩ := ordered
  cases control with
  | idle => exact kept
  | logonUpdate => exact ⟨nofun, nofun, rfl⟩
  | logonSend =>
    cases sent with
    | true => exact ⟨noConnecting, noDisconnecting, trivial⟩
    | false => exact kept
  | logonRevert => exact ⟨nofun, nofun, trivial⟩
  | logoutUpdate reason => exact ⟨nofun, nofun, trivial⟩
  | logonAccept received => exact ⟨nofun, nofun, trivial⟩
  | startLoad => cases running <;> exact ⟨noConnecting, noDisconnecting, trivial⟩
  | stopLoad caller =>
    cases running <;> cases caller <;> exact ⟨noConnecting, noDisconnecting, trivial⟩
  | stopJoin caller =>
    simp only [Life.proceed]
    split
    · exact kept
    · cases caller <;> exact ⟨noConnecting, noDisconnecting, trivial⟩
  | logoutLoad =>
    simp only [Life.proceed]
    split <;> exact ⟨noConnecting, noDisconnecting, trivial⟩
  | disconnect caller => cases caller <;> exact ⟨nofun, nofun, trivial⟩
  | _ => exact ⟨noConnecting, noDisconnecting, trivial⟩

theorem Ordered.step (ordered : life.Ordered) {move : Move}
    (settled : life.control = .idle → move = .call .acceptedLogon → life.state ≠ .logoutSent) :
    (life.step move).Ordered := by
  cases move with
  | call request =>
    rw [Life.step]
    split
    · rename_i idle
      exact ordered.begin (fun logon => settled idle (congrArg Move.call logon)) idle
    · exact ordered
  | proceed sent => exact ordered.proceed sent
  | beat =>
    rw [Life.step, life.beat_eq]
    exact ordered
  | rest => exact ordered

theorem begin_state (life : Life) (request : Request) :
    (life.begin request).state = life.state := by
  cases request with
  | initiateLogon => exact (apply_ite Life.state _ _ _).trans (ite_self _)
  | initiateLogout reason => exact (apply_ite Life.state _ _ _).trans (ite_self _)
  | _ => rfl

/-- What can happen to the state: it stays, or it moves along one of five arrows. -/
theorem Ordered.step_state (ordered : life.Ordered) (move : Move) :
    (life.step move).state = life.state ∨
    life.state = .disconnected ∧ (life.step move).state = .logonSent ∨
    (life.state = .loggedOn ∨ life.state = .logonSent) ∧ (life.step move).state = .logoutSent ∨
    life.control = .logonAccept life.state ∧ life.state ≠ .logoutSent ∧
      (life.step move).state = .loggedOn ∨
    (life.step move).state = .disconnected := by
  cases move with
  | call request =>
    left
    rw [Life.step]
    split
    · exact life.begin_state request
    · rfl
  | beat =>
    left
    rw [Life.step, life.beat_eq]
  | rest => exact .inl rfl
  | proceed sent =>
    obtain ⟨state, running, control, thread⟩ := life
    obtain ⟨-, -, placed⟩ := ordered
    cases control with
    | logonUpdate => exact .inr (.inl ⟨placed, rfl⟩)
    | logoutUpdate reason => exact .inr (.inr (.inl ⟨placed, rfl⟩))
    | logonAccept received =>
      obtain ⟨rfl, unsent⟩ := placed
      exact .inr (.inr (.inr (.inl ⟨rfl, unsent, rfl⟩)))
    | logonRevert => exact .inr (.inr (.inr (.inr rfl)))
    | disconnect caller => exact .inr (.inr (.inr (.inr rfl)))
    | logonSend => cases sent <;> exact .inl rfl
    | startLoad => cases running <;> exact .inl rfl
    | stopLoad caller => cases running <;> exact .inl rfl
    | stopJoin caller => exact .inl ((apply_ite Life.state _ _ _).trans (ite_self _))
    | logoutLoad => exact .inl ((apply_ite Life.state _ _ _).trans (ite_self _))
    | _ => exact .inl rfl

theorem Ordered.from_logoutSent (ordered : life.Ordered) (sent : life.state = .logoutSent)
    (move : Move) :
    (life.step move).state = .logoutSent ∨ (life.step move).state = .disconnected := by
  rcases ordered.step_state move with same | ⟨free, -⟩ | ⟨active, -⟩ | ⟨-, unsent, -⟩ | ended
  · exact .inl (same.trans sent)
  · rw [sent] at free
    cases free
  · rw [sent] at active
    rcases active with active | active <;> cases active
  · exact absurd sent unsent
  · exact .inr ended

/-- A session becomes logged on only by a Logon that it received earlier on. -/
theorem Ordered.to_loggedOn (ordered : life.Ordered) (other : life.state ≠ .loggedOn)
    {move : Move} (entered : (life.step move).state = .loggedOn) :
    life.control = .logonAccept life.state ∧
      (life.state = .disconnected ∨ life.state = .logonSent) := by
  rcases ordered.step_state move with
    same | ⟨-, moved⟩ | ⟨-, moved⟩ | ⟨accepting, unsent, -⟩ | moved
  · exact absurd (same.symm.trans entered) other
  · rw [moved] at entered
    cases entered
  · rw [moved] at entered
    cases entered
  · refine ⟨accepting, ?_⟩
    obtain ⟨state, running, control, thread⟩ := life
    obtain ⟨noConnecting, noDisconnecting, -⟩ := ordered
    cases state with
    | disconnected => exact .inl rfl
    | logonSent => exact .inr rfl
    | connecting => exact absurd rfl noConnecting
    | disconnecting => exact absurd rfl noDisconnecting
    | loggedOn => exact absurd rfl other
    | logoutSent => exact absurd rfl unsent
  · rw [moved] at entered
    cases entered

end Ordered

end Life

namespace HeartbeatMachine

open Transition

def sessionState (machine : HeartbeatMachine) : SessionState := machine.session.sessionState

/-- No Logon is accepted after a Logout was sent. -/
def Settled (machine : HeartbeatMachine) (move : SessionClock × Move) : Prop :=
  machine.control = .idle → machine.lifeMove move = .call .acceptedLogon →
    machine.sessionState ≠ .logoutSent

theorem ordered_step {machine : HeartbeatMachine} {move : SessionClock × Move}
    (ordered : machine.life.Ordered) (settled : machine.Settled move) :
    (machine.step move).life.Ordered := by
  rw [step_life]
  exact ordered.step settled

/-- Without a Logon that is accepted after a Logout was sent, the state `LOGOUT_SENT` is
followed by `DISCONNECTED`, and `LOGGED_ON` is entered only while a Logon is handled that
was received in state `DISCONNECTED` or `LOGON_SENT`. Such a Logon leads from `LOGOUT_SENT`
to `LOGGED_ON`. -/
theorem logout_final (machine : HeartbeatMachine) :
    (Run Initial step Settled machine →
      (∀ moves, Permits step Settled machine moves → machine.sessionState = .logoutSent →
        nextValue step sessionState machine moves = none ∨
          nextValue step sessionState machine moves = some .disconnected) ∧
      ∀ move, Settled machine move → machine.sessionState ≠ .loggedOn →
        (machine.step move).sessionState = .loggedOn →
        ∃ received, machine.control = .logonAccept received ∧
          (received = .disconnected ∨ received = .logonSent)) ∧
    ∀ clock operation, machine.control = .idle → machine.sessionState = .logoutSent →
      machine.request clock operation = .acceptedLogon →
      nextValue step sessionState machine [(clock, .call operation), (clock, .proceed)] =
        some .loggedOn := by
  refine ⟨fun run => ?_, fun clock operation idle sent accepted => ?_⟩
  · have ordered : machine.life.Ordered := by
      refine run.invariant (fun machine => machine.life.Ordered) ?_ ?_
      · intro machine initial
        rw [initial.life]
        exact ⟨nofun, nofun, trivial⟩
      · exact fun machine move => ordered_step
    refine ⟨fun moves allowed sent => ?_, fun move settled other entered => ?_⟩
    · refine nextValue_of_steps (fun machine => machine.life.Ordered)
        (fun machine move => ordered_step) ?_ ordered sent allowed
      intro machine move ordered _ sent
      have stepped := ordered.from_logoutSent sent (machine.lifeMove move)
      rw [← step_life] at stepped
      exact stepped
    · have entered : (machine.life.step (machine.lifeMove move)).state = .loggedOn := by
        rw [← step_life]
        exact entered
      exact ⟨_, ordered.to_loggedOn other entered⟩
  · have called : (machine.step (clock, .call operation)).life =
        { machine.life with control := .logonAccept machine.sessionState } := by
      have move : machine.lifeMove (clock, .call operation) = .call .acceptedLogon :=
        congrArg Life.Move.call accepted
      rw [step_life, move]
      exact if_pos idle
    have kept : (machine.step (clock, .call operation)).sessionState = .logoutSent :=
      (congrArg Life.state called).trans sent
    have logged : ((machine.step (clock, .call operation)).step (clock, .proceed)).sessionState =
        .loggedOn := by
      change ((machine.step (clock, .call operation)).step (clock, .proceed)).life.state = .loggedOn
      rw [step_life, called]
      rfl
    rw [nextValue, if_pos (kept.trans sent.symm), nextValue, logged, kept]
    rfl

instance (machine : HeartbeatMachine) (move : SessionClock × Move) :
    Decidable (machine.Settled move) :=
  inferInstanceAs (Decidable (_ → _ → _))

theorem logout_final_answered :
    ∃ machine, Run Initial step Settled machine ∧ machine.sessionState = .logoutSent ∧
      nextValue step sessionState machine
        (sampleMoves [.call (.handleMessage (sampleMessage 2 "5")), .proceed, .proceed, .proceed,
          .beat, .proceed, .proceed, .proceed]) = some .disconnected := by
  have allowed :
      Permits step Settled sampleMachine (sampleMoves (logonMoves 1 ++ logoutMoves)) := by
    decide +kernel
  have run := (Run.start initial_sampleMachine).execute allowed
  have sent : (execute step sampleMachine
      (sampleMoves (logonMoves 1 ++ logoutMoves))).sessionState = .logoutSent := by
    decide +kernel
  refine ⟨_, run, sent, ?_⟩
  refine (((logout_final _).1 run).1 _ ?_ sent).resolve_left ?_
  · decide +kernel
  · decide +kernel

/-- The broker's Logon crosses the Logout of the client. -/
theorem logon_after_logout :
    ∃ machine, Run Initial step unrestricted machine ∧ machine.sessionState = .logoutSent ∧
      ∃ moves, nextValue step sessionState machine moves = some .loggedOn := by
  refine ⟨_, (Run.start initial_sampleMachine).execute
    (permits_unrestricted step _ (sampleMoves (logonMoves 1 ++ logoutMoves))), ?_,
    sampleMoves (logonMoves 2), ?_⟩
  · decide +kernel
  · decide +kernel

end HeartbeatMachine

end FixGateway.Manager
