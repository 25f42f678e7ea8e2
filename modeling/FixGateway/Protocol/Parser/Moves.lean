import FixGateway.Protocol.Parser.Context
import FixGateway.Protocol.Parser.WireStream

/-! # Moving a parser

The move constructor and the move assignment carry over the pool, three settings, the stored bytes
and the statistics. The limit of the circuit breaker, the switch of error recovery, the error count
and the state of the breaker are not carried over: a parser that is made by a move has what happens
to be in its memory, or default values, and one that is assigned to keeps its own.

Error recovery never succeeds, so that these fields have an effect only through the circuit breaker.
The two parsers return the same exactly as long as their breakers let the same calls through.
-/

namespace FixGateway.Protocol

open ByteScan FixGateway.Common

namespace StreamFixParser

/-- What the move constructor does not initialise. -/
structure Uninitialised where
  maxConsecutiveErrors : Nat
  errorRecoveryEnabled : Bool
  circuitBreakerActive : Bool

inductive Move where
  | construct (found : Uninitialised)
  | assign (target : StreamFixParser)
  /-- Assignment of a parser to itself. -/
  | assignSelf

/-- The parser that a parser is moved to. -/
def moved (other : StreamFixParser) : Move → StreamFixParser
  | .construct found =>
    { messagePool := other.messagePool
      config := { other.config with
        maxConsecutiveErrors := found.maxConsecutiveErrors
        errorRecoveryEnabled := found.errorRecoveryEnabled }
      partialBuffer := other.partialBuffer
      stats := other.stats
      context := {}
      circuitBreakerActive := found.circuitBreakerActive
      circuitBreakerLastReset := 0
      fits := other.fits }
  | .assign target =>
    { target with
      messagePool := other.messagePool
      config := { target.config with
        maxMessageSize := other.config.maxMessageSize
        validateChecksum := other.config.validateChecksum
        strictValidation := other.config.strictValidation }
      partialBuffer := other.partialBuffer
      stats := other.stats
      fits := other.fits }
  | .assignSelf => other

/-- The result of a call, if it is defined. -/
def answer (parser : StreamFixParser) (turn : Turn) : Option ParseResult :=
  (parser.takeTurn turn).toOption.map Prod.fst

/-- The results of a run, which ends with a call that is not defined. -/
def answers (parser : StreamFixParser) : List Turn → List (Option ParseResult)
  | [] => []
  | turn :: turns =>
    parser.answer turn ::
      match parser.takeTurn turn with
      | .ok (_, after) => after.answers turns
      | .error _ => []

/-- What the circuit breaker says to a call. -/
def verdict (parser : StreamFixParser) (turn : Turn) : Bool :=
  ((parser.withPool turn.pool).isCircuitBreakerActive turn.clock.now).1

/-- The circuit breakers let the same calls through. -/
def SameVerdicts (left right : StreamFixParser) : List Turn → Prop
  | [] => True
  | turn :: turns =>
    (turn.buffer ≠ [] → left.verdict turn = right.verdict turn) ∧
      ∀ result leftAfter rightAfter, left.takeTurn turn = .ok (result, leftAfter) →
        right.takeTurn turn = .ok (result, rightAfter) → SameVerdicts leftAfter rightAfter turns

/-- Two parsers with the same in everything that a move carries over and that a call reads. -/
structure SameCore (left right : StreamFixParser) : Prop where
  messagePool : right.messagePool = left.messagePool
  maxMessageSize : right.config.maxMessageSize = left.config.maxMessageSize
  validateChecksum : right.config.validateChecksum = left.config.validateChecksum
  strictValidation : right.config.strictValidation = left.config.strictValidation
  partialBuffer : right.partialBuffer = left.partialBuffer

/-- Two parsers with the same in everything that the circuit breaker goes by. -/
structure SameBreaker (left right : StreamFixParser) : Prop where
  maxConsecutiveErrors : right.config.maxConsecutiveErrors = left.config.maxConsecutiveErrors
  errorRecoveryEnabled : right.config.errorRecoveryEnabled = left.config.errorRecoveryEnabled
  errorRecord : right.errorRecord = left.errorRecord

/-- Two calls or rounds keep what is the same. -/
structure Follows (left right leftAfter rightAfter : StreamFixParser) : Prop where
  core : SameCore leftAfter rightAfter
  breaker : SameBreaker left right → SameBreaker leftAfter rightAfter

theorem sameCore_moved (parser : StreamFixParser) (move : Move) :
    SameCore parser (parser.moved move) := by
  cases move <;> exact ⟨rfl, rfl, rfl, rfl, rfl⟩

section Simulation

variable {left right leftAfter rightAfter : StreamFixParser} {clock : Clock} {memory : Memory}
  {length cursor : Nat} {step : LoopStep}

section

variable (same : SameCore left right)
include same

theorem SameCore.symm : SameCore right left :=
  ⟨same.messagePool.symm, same.maxMessageSize.symm, same.validateChecksum.symm,
    same.strictValidation.symm, same.partialBuffer.symm⟩

theorem SameCore.keeps (kept : Keeps left leftAfter) (also : Keeps right rightAfter) :
    SameCore leftAfter rightAfter := by
  refine ⟨?_, ?_, ?_, ?_, ?_⟩
  · rw [kept.messagePool, also.messagePool, same.messagePool]
  · rw [kept.config, also.config, same.maxMessageSize]
  · rw [kept.config, also.config, same.validateChecksum]
  · rw [kept.config, also.config, same.strictValidation]
  · rw [kept.partialBuffer, also.partialBuffer, same.partialBuffer]

theorem SameCore.withPool (pool : MessagePool FixMessage) :
    SameCore (left.withPool pool) (right.withPool pool) :=
  ⟨rfl, same.maxMessageSize, same.validateChecksum, same.strictValidation, same.partialBuffer⟩

theorem SameCore.parseCompleteMessage (frame : Memory) (frameLength : Nat) :
    parseCompleteMessage right.config clock right.messagePool frame frameLength =
      parseCompleteMessage left.config clock left.messagePool frame frameLength := by
  have config : right.config = { left.config with
      maxConsecutiveErrors := right.config.maxConsecutiveErrors
      errorRecoveryEnabled := right.config.errorRecoveryEnabled } := by
    dsimp only
    rw [← same.maxMessageSize, ← same.validateChecksum, ← same.strictValidation]
  rw [config, same.messagePool]
  rfl

theorem parseStep_core (readable : memory.Readable 0 length)
    (inside : cursor ≤ length) (lastSuccess : Option ParseResult)
    (stepped : left.parseStep clock memory length cursor lastSuccess = .ok (step, leftAfter)) :
    ∃ rightAfter, right.parseStep clock memory length cursor lastSuccess = .ok (step, rightAfter) ∧
      SameCore leftAfter rightAfter := by
  cases parseStep_round stepped with
  | @waited framing leftover framed waits sliced fits =>
    rw [← same.maxMessageSize] at framed
    obtain ⟨held, size⟩ := Memory.slice_ok_iff.mp sliced
    rw [Memory.holds_shift, add_zero] at held
    exact ⟨_, parseStep_waited lastSuccess framed waits held size fits, same.messagePool,
      same.maxMessageSize, same.validateChecksum, same.strictValidation, rfl⟩
  | @unframed framing _ framed waits fails kept =>
    rw [← same.maxMessageSize] at framed
    obtain ⟨after, also, unchanged⟩ :=
      parseStep_unframed lastSuccess inside readable framed waits fails
    exact ⟨after, also, same.keeps kept unchanged⟩
  | @threw framing what pool framed success called =>
    rw [← same.maxMessageSize] at framed
    rw [← same.parseCompleteMessage] at called
    exact ⟨_, parseStep_threw lastSuccess framed success called, rfl, same.maxMessageSize,
      same.validateChecksum, same.strictValidation, same.partialBuffer⟩
  | @decoded framing decoded pool framed success called accepted =>
    rw [← same.maxMessageSize] at framed
    rw [← same.parseCompleteMessage] at called
    exact ⟨_, parseStep_decoded lastSuccess framed success called accepted, rfl,
      same.maxMessageSize, same.validateChecksum, same.strictValidation, same.partialBuffer⟩
  | @undecoded framing decoded pool _ framed success called fails kept =>
    rw [← same.maxMessageSize] at framed
    rw [← same.parseCompleteMessage] at called
    obtain ⟨after, also, unchanged⟩ :=
      parseStep_undecoded lastSuccess inside readable framed success called fails
    exact ⟨after, also, (same.withPool pool).keeps kept unchanged⟩

theorem parseStep_follows (readable : memory.Readable 0 length)
    (inside : cursor ≤ length) (lastSuccess : Option ParseResult)
    (stepped : left.parseStep clock memory length cursor lastSuccess = .ok (step, leftAfter)) :
    ∃ rightAfter, right.parseStep clock memory length cursor lastSuccess = .ok (step, rightAfter) ∧
      Follows left right leftAfter rightAfter := by
  obtain ⟨after, also, core⟩ := parseStep_core same readable inside lastSuccess stepped
  refine ⟨after, also, core, fun breaker => ?_⟩
  have kept := (parseStep_round stepped).config_eq
  have unchanged := (parseStep_round also).config_eq
  constructor
  · rw [kept, unchanged, breaker.maxConsecutiveErrors]
  · rw [kept, unchanged, breaker.errorRecoveryEnabled]
  · rw [(parseStep_notes stepped).errors, (parseStep_notes also).errors, breaker.errorRecord]

theorem parseLoop_follows {fuel : Nat} {lastSuccess : Option ParseResult} {exit : DecodeReturn}
    (readable : memory.Readable 0 length)
    (ran : parseLoop clock memory length fuel left cursor lastSuccess = .ok (exit, leftAfter)) :
    ∃ rightAfter,
      parseLoop clock memory length fuel right cursor lastSuccess = .ok (exit, rightAfter) ∧
      Follows left right leftAfter rightAfter := by
  induction fuel generalizing left right cursor lastSuccess with
  | zero => cases ran
  | succ fuel ih =>
    rw [parseLoop] at ran ⊢
    by_cases inside : cursor < length
    · rw [if_pos inside] at ran ⊢
      obtain ⟨⟨step, next⟩, stepped, ran⟩ := bind_ok.mp ran
      obtain ⟨other, also, follows⟩ :=
        parseStep_follows same readable (le_of_lt inside) lastSuccess stepped
      rw [also]
      cases step with
      | leave answer =>
        cases ran
        exact ⟨other, rfl, follows⟩
      | next position result =>
        obtain ⟨last, rest, more⟩ := ih follows.core ran
        exact ⟨last, rest, more.core, fun breaker => more.breaker (follows.breaker breaker)⟩
    · rw [if_neg inside] at ran ⊢
      cases ran
      exact ⟨right, rfl, same, id⟩

theorem parseAvailable_follows {outside : Memory} {bytes : Bytes} {result : ParseResult}
    (ran : left.parseAvailable clock outside bytes = .ok (result, leftAfter)) :
    ∃ rightAfter, right.parseAvailable clock outside bytes = .ok (result, rightAfter) ∧
      Follows left right leftAfter rightAfter := by
  obtain ⟨⟨exit, last⟩, looped, ran⟩ := bind_ok.mp ran
  obtain ⟨other, also, follows⟩ :=
    parseLoop_follows same (Memory.overlay_readable bytes outside) looped
  rw [parseAvailable, same.messagePool, also]
  cases exit with
  | returned answer =>
    cases ran
    exact ⟨other, rfl, follows⟩
  | thrown what =>
    cases ran
    have core := follows.core
    refine ⟨(other.caught what).2, rfl, ⟨core.messagePool, core.maxMessageSize,
      core.validateChecksum, core.strictValidation, core.partialBuffer⟩, fun breaker => ?_⟩
    have breaker := follows.breaker breaker
    exact ⟨breaker.maxConsecutiveErrors, breaker.errorRecoveryEnabled, breaker.errorRecord⟩

end

end Simulation

section Calls

variable {left right leftAfter rightAfter : StreamFixParser} {turn : Turn} {turns : List Turn}
  {result : ParseResult}

theorem SameBreaker.check (breaker : SameBreaker left right) (now : Nat) :
    (right.isCircuitBreakerActive now).1 = (left.isCircuitBreakerActive now).1 ∧
      SameBreaker (left.isCircuitBreakerActive now).2 (right.isCircuitBreakerActive now).2 := by
  obtain ⟨limit, enabled, record⟩ := breaker
  obtain ⟨errors, active, reset⟩ := ErrorRecord.mk.inj record
  unfold isCircuitBreakerActive shouldActivateCircuitBreaker
  rw [limit, enabled, errors, active, reset]
  split
  · exact ⟨rfl, limit, enabled, rfl⟩
  · exact ⟨rfl, limit, enabled, record⟩

theorem checked_follows (same : SameCore left right) (now : Nat) (buffer : Bytes) :
    Follows left right (left.checked now buffer) (right.checked now buffer) := by
  obtain ⟨pool, config, stored, _⟩ := left.isCircuitBreakerActive_keeps now
  obtain ⟨otherPool, otherConfig, otherStored, _⟩ := right.isCircuitBreakerActive_keeps now
  unfold checked
  split
  · exact ⟨same, id⟩
  · refine ⟨⟨?_, ?_, ?_, ?_, ?_⟩, fun breaker => (breaker.check now).2⟩
    · rw [pool, otherPool, same.messagePool]
    · rw [config, otherConfig, same.maxMessageSize]
    · rw [config, otherConfig, same.validateChecksum]
    · rw [config, otherConfig, same.strictValidation]
    · rw [stored, otherStored, same.partialBuffer]

theorem parse_follows {clock : Clock} {outside : Memory} {buffer : Bytes}
    (same : SameCore left right) (agree : buffer ≠ [] → (left.isCircuitBreakerActive clock.now).1 =
      (right.isCircuitBreakerActive clock.now).1)
    (ran : left.parse clock outside buffer = .ok (result, leftAfter)) :
    ∃ rightAfter, right.parse clock outside buffer = .ok (result, rightAfter) ∧
      Follows left right leftAfter rightAfter := by
  have entry : right.entryAnswer (right.isCircuitBreakerActive clock.now).1 buffer =
      left.entryAnswer (left.isCircuitBreakerActive clock.now).1 buffer := by
    unfold entryAnswer
    by_cases empty : buffer.length = 0
    · rw [if_pos empty, if_pos empty]
    · rw [if_neg empty, if_neg empty, same.partialBuffer,
        agree fun nil => empty (List.length_eq_zero_iff.mpr nil)]
  have checks := checked_follows same clock.now buffer
  rw [parse_entry] at ran ⊢
  rw [entry]
  cases answer : left.entryAnswer (left.isCircuitBreakerActive clock.now).1 buffer with
  | some early =>
    rw [answer] at ran
    cases ran
    exact ⟨_, rfl, checks⟩
  | none =>
    rw [answer] at ran
    have cleared : SameCore (left.checked clock.now buffer).clearPartial
        (right.checked clock.now buffer).clearPartial :=
      ⟨checks.core.messagePool, checks.core.maxMessageSize, checks.core.validateChecksum,
        checks.core.strictValidation, rfl⟩
    obtain ⟨after, also, follows⟩ := parseAvailable_follows cleared ran
    rw [same.partialBuffer]
    refine ⟨after, also, follows.core, fun breaker => follows.breaker ?_⟩
    have checked := checks.breaker breaker
    exact ⟨checked.maxConsecutiveErrors, checked.errorRecoveryEnabled, checked.errorRecord⟩

theorem takeTurn_follows (same : SameCore left right)
    (agree : turn.buffer ≠ [] → left.verdict turn = right.verdict turn)
    (ran : left.takeTurn turn = .ok (result, leftAfter)) :
    ∃ rightAfter, right.takeTurn turn = .ok (result, rightAfter) ∧
      Follows left right leftAfter rightAfter := by
  obtain ⟨after, also, follows⟩ := parse_follows (same.withPool turn.pool) agree ran
  refine ⟨after, also, follows.core, fun breaker => follows.breaker ?_⟩
  exact ⟨breaker.maxConsecutiveErrors, breaker.errorRecoveryEnabled, breaker.errorRecord⟩

/-- Only the circuit breaker answers that the data is corrupted. -/
theorem verdict_iff (parser : StreamFixParser) (filled : turn.buffer ≠ []) :
    parser.verdict turn = true ↔
      ∃ result, parser.answer turn = some result ∧ result.status = .corruptedData := by
  have some : turn.buffer.length ≠ 0 := fun empty => filled (List.length_eq_zero_iff.mp empty)
  unfold answer takeTurn verdict
  rw [parse_entry, entryAnswer, if_neg some]
  cases active : ((parser.withPool turn.pool).isCircuitBreakerActive turn.clock.now).1 with
  | true => exact iff_of_true rfl ⟨_, rfl, rfl⟩
  | false =>
    refine iff_of_false Bool.false_ne_true ?_
    rintro ⟨result, given, corrupted⟩
    obtain ⟨⟨_, after⟩, ran, rfl⟩ := Option.map_eq_some_iff.mp given
    have ran := ok_of_toOption ran
    rw [if_neg Bool.false_ne_true] at ran
    split at ran
    · rename_i early answered
      split at answered
      · cases answered
        cases ran
        cases corrupted
      · cases answered
    · exact (parseAvailable_ofRound ran).1 corrupted

/-- The results are the same as long as the circuit breakers agree. -/
theorem answers_eq_iff (same : SameCore left right) :
    right.answers turns = left.answers turns ↔ SameVerdicts left right turns := by
  induction turns generalizing left right with
  | nil => exact iff_of_true rfl trivial
  | cons turn turns ih =>
    rw [answers, answers, List.cons.injEq, SameVerdicts]
    have heads : right.answer turn = left.answer turn →
        turn.buffer ≠ [] → left.verdict turn = right.verdict turn := by
      intro equal filled
      rw [Bool.eq_iff_iff, left.verdict_iff filled, right.verdict_iff filled, equal]
    constructor
    · rintro ⟨equal, rest⟩
      refine ⟨heads equal, fun result leftAfter rightAfter ran also => ?_⟩
      obtain ⟨other, moved, follows⟩ := takeTurn_follows same (heads equal) ran
      cases moved.symm.trans also
      rw [ran, also] at rest
      exact (ih follows.core).mp rest
    · rintro ⟨agree, later⟩
      cases ran : left.takeTurn turn with
      | ok outcome =>
        obtain ⟨result, leftAfter⟩ := outcome
        obtain ⟨rightAfter, also, follows⟩ := takeTurn_follows same agree ran
        unfold answer
        rw [ran, also]
        exact ⟨rfl, (ih follows.core).mpr (later result leftAfter rightAfter ran also)⟩
      | error fault =>
        cases also : right.takeTurn turn with
        | error problem =>
          unfold answer
          rw [ran, also]
          exact ⟨rfl, rfl⟩
        | ok outcome =>
          obtain ⟨back, returned, _⟩ :=
            takeTurn_follows same.symm (fun filled => (agree filled).symm) also
          rw [ran] at returned
          cases returned

theorem sameVerdicts_of_sameBreaker (same : SameCore left right)
    (breaker : SameBreaker left right) : SameVerdicts left right turns := by
  induction turns generalizing left right with
  | nil => trivial
  | cons turn turns ih =>
    have pooled : SameBreaker (left.withPool turn.pool) (right.withPool turn.pool) :=
      ⟨breaker.maxConsecutiveErrors, breaker.errorRecoveryEnabled, breaker.errorRecord⟩
    have agree : left.verdict turn = right.verdict turn := (pooled.check turn.clock.now).1.symm
    refine ⟨fun _ => agree, fun result leftAfter rightAfter ran also => ?_⟩
    obtain ⟨other, moved, follows⟩ := takeTurn_follows same (fun _ => agree) ran
    cases moved.symm.trans also
    exact ih follows.core (follows.breaker breaker)

end Calls

/-- A moved parser returns what the parser would have returned exactly if the two circuit breakers
let the same calls of the run through. They do if the parser that is moved to has the limit, the
switch of error recovery, the error count and the state of the breaker of the other one. -/
theorem moved_answers_iff (parser : StreamFixParser) (move : Move) (turns : List Turn) :
    ((parser.moved move).answers turns = parser.answers turns ↔
      SameVerdicts parser (parser.moved move) turns) ∧
    (SameBreaker parser (parser.moved move) →
      (parser.moved move).answers turns = parser.answers turns) := by
  have same := sameCore_moved parser move
  refine ⟨answers_eq_iff same, fun breaker => ?_⟩
  exact (answers_eq_iff same).mpr (sameVerdicts_of_sameBreaker same breaker)

/-- Bytes that are no message, and then a heartbeat. -/
def sampleTurns : List Turn :=
  [⟨⟨sampleClock, Memory.unmapped, List.replicate 10 88⟩, samplePool⟩,
    ⟨⟨sampleClock, Memory.unmapped, sampleHeartbeat.bytes⟩, samplePool⟩]

/-- A parser with a limit of one error refuses the heartbeat after the error. A parser that is
assigned from it keeps its own limit and lets the heartbeat through, and one that is made from it
may find a limit of zero in its memory and refuses everything. -/
theorem moved_parser_differs :
    let parser := new samplePool { maxConsecutiveErrors := 1 } 0
    let statuses := fun move => ((parser.moved move).answers sampleTurns).map fun answer =>
      answer.map ParseResult.status
    statuses .assignSelf = [some .invalidFormat, some .corruptedData] ∧
      statuses (.assign (new samplePool {} 0)) = [some .invalidFormat, some .success] ∧
      statuses (.construct ⟨0, true, false⟩) = [some .corruptedData, some .corruptedData] := by
  decide +kernel

end StreamFixParser

end FixGateway.Protocol
