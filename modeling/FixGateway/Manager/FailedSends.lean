import FixGateway.Manager.OutboundNumbering

/-! # Sends that fail

A send allocates a message, numbers it and fills it in, and then routes it. Nothing is undone
when the routing fails: the number is used up, and the message stays allocated although no
queue holds it. Only a send that gets no message from the pool leaves things as they were.

`initiateLogon` goes back to the disconnected state when its send fails. `initiateLogout` does
not go back, so its failure shows in the state of the session whatever the reason.
-/

namespace FixGateway.Manager

open Application ByteScan Common Protocol

namespace FixSessionManager

/-- The calls that return whether a message was sent. -/
inductive SendCall where
  | initiateLogon
  | initiateLogout (reason : Bytes)
  | send (request : Send)

def sendCall (session : FixSessionManager) (clock : SessionClock) :
    SendCall → Bool × FixSessionManager
  | .initiateLogon => session.initiateLogon clock
  | .initiateLogout reason => session.initiateLogout clock reason
  | .send request => session.send clock request

/-- What a failed call should leave alone. -/
structure Unchanged (before after : FixSessionManager) : Prop where
  state : after.sessionState = before.sessionState
  outgoing : after.outgoingSeqNum = before.outgoingSeqNum
  pending : after.pendingTestRequestId = before.pendingTestRequestId
  queues : (after.outboundQueues.map fun queues priority => (queues.getQueue priority).entries) =
    before.outboundQueues.map fun queues priority => (queues.getQueue priority).entries
  allocated : after.messagePool.map MessagePool.allocatedCount =
    before.messagePool.map MessagePool.allocatedCount

/-- There is no pool, or it has no message to give. -/
def PoolRefuses (session : FixSessionManager) : Prop :=
  ∀ pool ∈ session.messagePool, ¬ pool.available 1

/-- The call ends before it has changed anything. -/
def EndsEarly (session : FixSessionManager) : SendCall → Prop
  | .initiateLogon => session.sessionState ≠ .disconnected ∨ session.PoolRefuses
  | .initiateLogout _ => session.sessionState ≠ .loggedOn ∧ session.sessionState ≠ .logonSent
  | .send _ => session.PoolRefuses

/-! ## Creating a message -/

section Create

variable {session : FixSessionManager} {clock : SessionClock}

theorem Unchanged.refl (session : FixSessionManager) : Unchanged session session :=
  ⟨rfl, rfl, rfl, rfl, rfl⟩

/-- One message more is allocated. -/
def Allocates (before after : FixSessionManager) : Prop :=
  ∃ pool, before.messagePool = some pool ∧
    after.messagePool.map MessagePool.allocatedCount = some (pool.allocatedCount + 1)

theorem Allocates.not_unchanged {after : FixSessionManager} (allocates : Allocates session after) :
    ¬ Unchanged session after := by
  obtain ⟨pool, attached, grown⟩ := allocates
  intro unchanged
  have same := unchanged.allocated
  rw [grown, attached, Option.map_some, Option.some_inj] at same
  omega

/-- What creating a message comes to: it gets none from the pool and changes nothing, or it
allocates one. -/
structure CreatesOrNot (session : FixSessionManager) (created : Option Nat × FixSessionManager) :
    Prop where
  refused : session.PoolRefuses → created.1 = none ∧ Unchanged session created.2
  allocated : ¬ session.PoolRefuses → created.1.isSome = true ∧ Allocates session created.2

theorem allocatedCount_store {α : Type} (pool : MessagePool α) (slot : Nat) (object : α) :
    (pool.store slot object).allocatedCount = pool.allocatedCount := by
  unfold MessagePool.store
  split <;> rfl

theorem createMessage_createsOrNot (msgType : Bytes) (fields : List (Int × Bytes)) :
    session.CreatesOrNot (session.createMessage clock msgType fields) := by
  cases attached : session.messagePool with
  | none =>
    have missing : session.PoolRefuses := by
      intro pool member
      rw [attached] at member
      cases member
    refine ⟨fun _ => ?_, fun gives => absurd missing gives⟩
    rw [createMessage, attached]
    exact ⟨rfl, .refl session⟩
  | some pool =>
    have refuses : session.PoolRefuses ↔ ¬ pool.available 1 := by
      unfold PoolRefuses
      rw [attached]
      simp
    constructor
    · intro refused
      rw [createMessage, attached]
      dsimp only
      rw [MessagePool.allocate_eq_none (refuses.mp refused)]
      refine ⟨rfl, rfl, rfl, rfl, rfl, ?_⟩
      rw [attached]
      rfl
    · intro gives
      have available : pool.available 1 := not_not.mp fun exhausted => gives (refuses.mpr exhausted)
      obtain ⟨slot, rest, chain, -⟩ := MessagePool.exists_chain available
      rw [createMessage, attached]
      dsimp only
      rw [MessagePool.allocate_eq_take available.1 chain]
      refine ⟨rfl, pool, attached, ?_⟩
      change some _ = _
      rw [allocatedCount_store]
      rfl

theorem createTestRequestMessage_createsOrNot :
    session.CreatesOrNot (session.createTestRequestMessage clock) := by
  have creates := @createMessage_createsOrNot session clock (ascii "1")
    [(FixFields.testReqID, session.createTestRequestId.1)]
  unfold createTestRequestMessage
  dsimp only
  generalize session.createMessage clock (ascii "1")
    [(FixFields.testReqID, session.createTestRequestId.1)] = created at creates ⊢
  obtain ⟨slot, after⟩ := created
  cases slot with
  | none => exact ⟨creates.refused, creates.allocated⟩
  | some slot =>
    refine ⟨fun refused => ?_, fun gives => ⟨rfl, (creates.allocated gives).2⟩⟩
    cases (creates.refused refused).1

theorem CreatesOrNot.sendCreated {created : Option Nat × FixSessionManager}
    (creates : session.CreatesOrNot created) {priority : Priority}
    {count : FixSessionManager → FixSessionManager}
    (failed : (sendCreated created priority count).1 = false) :
    (session.PoolRefuses → Unchanged session (sendCreated created priority count).2) ∧
      (¬ session.PoolRefuses → Allocates session (sendCreated created priority count).2) := by
  obtain ⟨slot, after⟩ := created
  constructor
  · intro refused
    obtain ⟨none, unchanged⟩ := creates.refused refused
    cases none
    exact unchanged
  · intro gives
    obtain ⟨given, pool, attached, grown⟩ := creates.allocated gives
    cases slot with
    | none => cases given
    | some slot =>
      refine ⟨pool, attached, ?_⟩
      have kept : (after.routeToOutbound slot priority).2.messagePool = after.messagePool := by
        unfold routeToOutbound
        split <;> rfl
      simp only [FixSessionManager.sendCreated] at failed ⊢
      rw [failed, if_neg Bool.false_ne_true, kept]
      exact grown

theorem send_of_failed (request : Send) (failed : (session.send clock request).1 = false) :
    (session.PoolRefuses → Unchanged session (session.send clock request).2) ∧
      (¬ session.PoolRefuses → Allocates session (session.send clock request).2) := by
  cases request with
  | logon => exact (createMessage_createsOrNot _ _).sendCreated failed
  | logout reason => exact (createMessage_createsOrNot _ _).sendCreated failed
  | heartbeat testReqId => exact (createMessage_createsOrNot _ _).sendCreated failed
  | testRequest => exact createTestRequestMessage_createsOrNot.sendCreated failed
  | reject refSeqNum reason => exact (createMessage_createsOrNot _ _).sendCreated failed
  | sequenceReset newSeqNum gapFill => exact (createMessage_createsOrNot _ _).sendCreated failed

end Create

/-! ## Any call -/

section Call

variable {session : FixSessionManager} {clock : SessionClock}

theorem initiateLogon_unchanged_iff (failed : (session.initiateLogon clock).1 = false) :
    Unchanged session (session.initiateLogon clock).2 ↔ session.EndsEarly .initiateLogon := by
  by_cases disconnected : session.sessionState = .disconnected
  · have sends := @send_of_failed (session.updateSessionState .logonSent) clock .logon
    change ((session.updateSessionState .logonSent).sendLogon clock).1 = false → _ at sends
    unfold initiateLogon at failed ⊢
    rw [if_neg (not_not.mpr disconnected)] at failed ⊢
    split at failed
    · cases failed
    · rename_i after returned
      have left : ((session.updateSessionState .logonSent).send clock .logon).2 = after :=
        congrArg Prod.snd returned
      obtain ⟨refuses, gives⟩ := sends (congrArg Prod.fst returned)
      rw [left] at refuses gives
      constructor
      · intro unchanged
        right
        by_contra given
        have allocates : Allocates session (after.updateSessionState .disconnected) := gives given
        exact allocates.not_unchanged unchanged
      · intro early
        have unchanged := refuses (early.resolve_left (not_not.mpr disconnected))
        exact ⟨disconnected.symm, unchanged.outgoing, unchanged.pending, unchanged.queues,
          unchanged.allocated⟩
  · unfold initiateLogon
    rw [if_pos disconnected]
    exact iff_of_true (.refl session) (.inl disconnected)

/-- A Logout that is not sent leaves the session in the state of one that is. -/
theorem initiateLogout_unchanged_iff {reason : Bytes}
    (failed : (session.initiateLogout clock reason).1 = false) :
    Unchanged session (session.initiateLogout clock reason).2 ↔
      session.EndsEarly (.initiateLogout reason) := by
  have sent : FreeOfSends fun session => session.sessionState := fun _ _ _ _ _ _ => rfl
  have keeps := (sent.tolerates fun _ _ _ _ _ => rfl).sendLogout
    (session.updateSessionState .logoutSent) clock reason
  by_cases idle : session.sessionState ≠ .loggedOn ∧ session.sessionState ≠ .logonSent
  · unfold initiateLogout
    rw [if_pos idle]
    exact iff_of_true (.refl session) idle
  · unfold initiateLogout at failed ⊢
    rw [if_neg idle] at failed ⊢
    split at failed
    · cases failed
    · rename_i after returned
      rw [returned] at keeps
      refine iff_of_false (fun unchanged => idle ?_) idle
      have state : session.sessionState = .logoutSent := unchanged.state.symm.trans keeps
      rw [state]
      exact ⟨by decide, by decide⟩

/-- A call that fails has no effect exactly if it ends early. -/
theorem failed_unchanged_iff (call : SendCall) (failed : (session.sendCall clock call).1 = false) :
    Unchanged session (session.sendCall clock call).2 ↔ session.EndsEarly call := by
  cases call with
  | initiateLogon => exact initiateLogon_unchanged_iff failed
  | initiateLogout reason => exact initiateLogout_unchanged_iff failed
  | send request =>
    obtain ⟨refuses, gives⟩ := send_of_failed request failed
    constructor
    · intro unchanged
      by_contra given
      exact (gives given).not_unchanged unchanged
    · exact refuses

/-- A session that has no pool. -/
def poollessSession : FixSessionManager := { sampleSession with messagePool := none }

theorem failed_unchanged_poolless :
    (poollessSession.sendCall sampleTime (.send .testRequest)).1 = false ∧
      Unchanged poollessSession (poollessSession.sendCall sampleTime (.send .testRequest)).2 := by
  refine ⟨rfl, (failed_unchanged_iff _ rfl).mpr fun pool member => ?_⟩
  cases member

/-- A session whose outbound queues are not set. -/
def unroutedSession : FixSessionManager :=
  { sampleSession with outboundQueues := none, sessionState := .loggedOn }

/-- The test request is not sent. Its number and its id are used, and its message stays
allocated. A logout that is not sent leaves the session in the state `LOGOUT_SENT`. -/
theorem failed_sends_change :
    (unroutedSession.sendCall sampleTime (.send .testRequest)).1 = false ∧
      (unroutedSession.sendCall sampleTime (.send .testRequest)).2.outgoingSeqNum = 2 ∧
      (unroutedSession.sendCall sampleTime (.send .testRequest)).2.pendingTestRequestId =
        ascii "TEST_1" ∧
      (unroutedSession.sendCall sampleTime (.send .testRequest)).2.messagePool.map
        MessagePool.allocatedCount = some 1 ∧
      (unroutedSession.sendCall sampleTime (.initiateLogout [])).1 = false ∧
      (unroutedSession.sendCall sampleTime (.initiateLogout [])).2.sessionState = .logoutSent ∧
      ¬ Unchanged unroutedSession
        (unroutedSession.sendCall sampleTime (.send .testRequest)).2 := by
  have numbered : (unroutedSession.sendCall sampleTime (.send .testRequest)).2.outgoingSeqNum =
      2 := by
    decide +kernel
  refine ⟨by decide +kernel, numbered, by decide +kernel, by decide +kernel, by decide +kernel,
    by decide +kernel, fun unchanged => ?_⟩
  have same := unchanged.outgoing
  rw [numbered] at same
  cases same

end Call

end FixSessionManager

end FixGateway.Manager
