import FixGateway.Protocol.Parser.Context
import FixGateway.Protocol.Parser.WireStream

/-! # The circuit breaker

After too many errors in a row the breaker is to refuse calls, and after five seconds it
is to let them through again. The five seconds belong to a flag that nothing sets. What
refuses calls is the error count, and a refused call does not come to the code that sets
the count back, so the breaker never closes again.

The count also has gaps. A call whose bytes do not fit beside the stored ones fails
without being counted, and so does a call that is left by an exception. And a message
that is decoded before the error of the same call sets the count back.
-/

namespace FixGateway.Protocol

open ByteScan FixGateway.Common

namespace StreamFixParser

variable {parser middle after : StreamFixParser} {clock : Clock} {outside : Memory}
  {buffer : Bytes} {result : ParseResult} {memory : Memory} {length cursor : Nat}
  {lastSuccess : Option ParseResult}

/-! ## Refused calls -/

/-- The result of a call that the breaker refuses. -/
def refusal : ParseResult :=
  .without .corruptedData 0 (ascii "Circuit breaker active - too many consecutive errors")
    .errorRecovery

theorem shouldActivate_iff (recovers : parser.config.errorRecoveryEnabled = true) :
    parser.shouldActivateCircuitBreaker = true ↔
      parser.config.maxConsecutiveErrors ≤ parser.context.consecutiveErrors := by
  unfold shouldActivateCircuitBreaker
  rw [recovers, Bool.true_and, decide_eq_true_eq]

theorem parse_refused (unset : parser.circuitBreakerActive = false)
    (reached : parser.shouldActivateCircuitBreaker = true) (filled : buffer ≠ []) :
    parser.parse clock outside buffer = .ok (refusal, parser) := by
  have some : buffer.length ≠ 0 := fun empty => filled (List.length_eq_zero_iff.mp empty)
  unfold parse
  rw [if_neg some, isCircuitBreakerActive_of_unset unset, reached]
  rfl

theorem Accepting.not_refused (accepting : Accepting parser) (filled : buffer ≠ [])
    (ran : parser.parse clock outside buffer = .ok (result, after)) : result ≠ refusal := by
  intro refused
  rw [parse_let_through accepting filled] at ran
  split at ran
  · cases ran
    cases refused
  · have ordinary := parseAvailable_ofRound ran
    rw [refused] at ordinary
    exact ordinary.1 rfl

/-- The breaker does not refuse the call. -/
def Admits (parser : StreamFixParser) (call : Call) : Prop :=
  ∀ result after, parser.parse call.clock call.outside call.buffer = .ok (result, after) →
    result ≠ refusal

/-- Fewer errors in a row are counted than the breaker tolerates. -/
def BelowLimit (parser : StreamFixParser) : Prop :=
  parser.context.consecutiveErrors < parser.config.maxConsecutiveErrors

theorem Reachable.admits_iff (reachable : Reachable parser)
    (recovers : parser.config.errorRecoveryEnabled = true) {call : Call}
    (filled : call.buffer ≠ []) : parser.Admits call ↔ parser.BelowLimit := by
  by_cases reached : parser.shouldActivateCircuitBreaker = true
  · refine iff_of_false ?_ (Nat.not_lt.mpr ((shouldActivate_iff recovers).mp reached))
    intro admits
    exact admits refusal parser (parse_refused reachable.unset reached filled) rfl
  · refine iff_of_true ?_ ?_
    · intro result after ran
      exact Accepting.not_refused ⟨reachable.unset, Bool.not_eq_true _ |>.mp reached⟩ filled ran
    · exact Nat.not_le.mp fun limit => reached ((shouldActivate_iff recovers).mpr limit)

theorem parseAll_refused (unset : parser.circuitBreakerActive = false)
    (reached : parser.shouldActivateCircuitBreaker = true) {calls : List Call}
    (filled : ∀ call ∈ calls, call.buffer ≠ []) :
    parser.parseAll calls = .ok (calls.map fun _ => refusal, parser) := by
  induction calls with
  | nil => rfl
  | cons call calls ih =>
    rw [List.forall_mem_cons] at filled
    exact parseAll_cons (parse_refused unset reached filled.1) (ih filled.2)

/-! ## After the cooling period -/

/-- The condition holds before every call of the run that comes more than the cooling period
after the one before it. -/
def EachLateCall (condition : StreamFixParser → Call → Prop) :
    StreamFixParser → Nat → List Call → Prop :=
  EachCall fun parser previous call =>
    call.buffer ≠ [] → previous + coolingPeriod < call.clock.now → condition parser call

/-- In every run, the calls that come after the cooling period are let through exactly if each
of them is made while fewer errors in a row are counted than the breaker tolerates. Once that
many are counted, every later call is refused at whatever time, and nothing changes. -/
theorem late_calls_admitted_iff (reachable : Reachable parser)
    (recovers : parser.config.errorRecoveryEnabled = true) (previous : Nat) (calls : List Call) :
    (EachLateCall Admits parser previous calls ↔
      EachLateCall (fun parser _ => parser.BelowLimit) parser previous calls) ∧
    (¬ parser.BelowLimit → (∀ call ∈ calls, call.buffer ≠ []) →
      parser.parseAll calls = .ok (calls.map fun _ => refusal, parser)) := by
  constructor
  · apply eachCall_congr _ reachable rfl
    intro parser _ call here same
    refine forall_congr' fun filled => forall_congr' fun _ => ?_
    exact here.admits_iff (same ▸ recovers) filled
  · intro limit filled
    have reached := (shouldActivate_iff recovers).mpr (Nat.not_lt.mp limit)
    exact parseAll_refused reachable.unset reached filled

/-- A heartbeat that comes six seconds after the parser was made. -/
theorem late_calls_admitted_iff_heartbeat :
    let parser := new samplePool {} 0
    let call : Call := ⟨⟨6 * 10 ^ 9, sampleClock.utc⟩, Memory.unmapped, sampleHeartbeat.bytes⟩
    parser.config.errorRecoveryEnabled = true ∧ EachLateCall Admits parser 0 [call] := by
  refine ⟨rfl, (late_calls_admitted_iff (.new samplePool {} 0) rfl 0 _).1.mpr ⟨?_, ?_⟩⟩
  · intro _ _
    exact (by decide : 0 < 10)
  · intro _ _ _ _
    trivial

/-- A breaker that one error opens refuses a heartbeat that comes six seconds after it. -/
theorem late_heartbeat_refused : let calls : List Call :=
      [⟨sampleClock, Memory.unmapped, List.replicate 10 88⟩,
        ⟨⟨6 * 10 ^ 9, sampleClock.utc⟩, Memory.unmapped, sampleHeartbeat.bytes⟩]
    (((new samplePool { maxConsecutiveErrors := 1 } 0).parseAll calls).toOption.map
      fun outcome => outcome.1.map ParseResult.status) =
      some [.invalidFormat, .corruptedData] := by
  decide +kernel

/-! ## Counted failures -/

/-- The decoding of the message at the cursor is left by an exception. -/
def Throws (parser : StreamFixParser) (clock : Clock) (memory : Memory) (length cursor : Nat) :
    Prop :=
  ∃ framing what pool,
    findCompleteMessage (memory.shift cursor) parser.config.maxMessageSize (length - cursor) =
      .ok framing ∧ framing.result.status = .success ∧
    parseCompleteMessage parser.config clock parser.messagePool
      ((memory.shift cursor).shift framing.messageStart)
      (framing.messageEnd - framing.messageStart).toNat = .ok (.thrown what, pool)

theorem throws_iff {step : LoopStep}
    (stepped : parser.parseStep clock memory length cursor lastSuccess = .ok (step, after)) :
    parser.Throws clock memory length cursor ↔ ∃ what, step = .leave (.thrown what) := by
  constructor
  · rintro ⟨framing, what, pool, framed, success, called⟩
    rw [parseStep_threw lastSuccess framed success called] at stepped
    cases stepped
    exact ⟨what, rfl⟩
  · rintro ⟨what, rfl⟩
    cases parseStep_round stepped with
    | threw framed success called => exact ⟨_, _, _, framed, success, called⟩

/-- If the loop is left by returning, then no round of it throws. -/
theorem Passes.not_throws {position : Nat} {cursors others : List Nat} {other : StreamFixParser}
    {answer : ParseResult} (passes : Passes clock memory length parser cursors middle cursor)
    (stepped : middle.parseStep clock memory length cursor lastSuccess =
      .ok (.leave (.returned answer), after))
    (another : Passes clock memory length parser others other position) :
    ¬ other.Throws clock memory length position := by
  intro throws
  rcases passes.goes_on_or_last stepped another with ⟨_, _, _, goes⟩ | ⟨rfl, rfl⟩
  · obtain ⟨what, leaves⟩ := (throws_iff goes).mp throws
    cases leaves
  · obtain ⟨what, leaves⟩ := (throws_iff stepped).mp throws
    cases leaves

/-- If the call fails, its failure is counted: its bytes fit beside the stored ones, no message
that it comes to makes the decoding throw, and none is decoded before, unless a single error is
enough. -/
structure Counted (parser : StreamFixParser) (call : Call) : Prop where
  room : parser.HasRoom call.buffer
  returns : ∀ {cursors middle cursor},
    Passes call.clock (Memory.overlay (parser.partialBuffer ++ call.buffer) call.outside)
      (parser.partialBuffer ++ call.buffer).length parser.clearPartial cursors middle cursor →
    ¬ middle.Throws call.clock
      (Memory.overlay (parser.partialBuffer ++ call.buffer) call.outside)
      (parser.partialBuffer ++ call.buffer).length cursor
  alone : ∀ {cursors middle cursor},
    Passes call.clock (Memory.overlay (parser.partialBuffer ++ call.buffer) call.outside)
      (parser.partialBuffer ++ call.buffer).length parser.clearPartial cursors middle cursor →
    cursors = [] ∨ parser.config.maxConsecutiveErrors = 1

/-- A failed call that comes to the loop has the count of the round that it is left in, and one
more unless it is left by an exception. -/
theorem parseAvailable_fails {bytes : Bytes} (idle : parser.context.currentState = .idle)
    (ok : parser.parseAvailable clock outside bytes = .ok (result, after))
    (fails : result.status ≠ .success) (waits : result.status ≠ .needMoreData) :
    ∃ cursors middle cursor lastSuccess exit left,
      Passes clock (Memory.overlay bytes outside) bytes.length parser cursors middle cursor ∧
      middle.parseStep clock (Memory.overlay bytes outside) bytes.length cursor lastSuccess =
        .ok (.leave exit, left) ∧
      ((∃ what, exit = .thrown what) ∧
          after.context.consecutiveErrors = middle.context.consecutiveErrors ∨
        (∃ answer, exit = .returned answer) ∧
          after.context.consecutiveErrors = middle.context.consecutiveErrors + 1) := by
  obtain ⟨cursors, middle, cursor, exit, left, passes, ends, answer⟩ := parseAvailable_last ok
  cases ends with
  | reached _ status =>
    rcases answer with ⟨same, _⟩ | ⟨what, same, _⟩
    · cases same
      exact absurd status (not_or.mpr ⟨fails, waits⟩)
    · cases same
  | left _ stepped =>
    refine ⟨cursors, middle, cursor, _, exit, left, passes, stepped, ?_⟩
    have tracks := (parseStep_context (passes.context idle).1 stepped).2
    rcases answer with ⟨rfl, rfl⟩ | ⟨what, rfl, caught⟩
    · cases tracks with
      | waits status => exact absurd status waits
      | counts _ counted => exact .inr ⟨⟨_, rfl⟩, counted⟩
    · cases caught
      cases tracks with
      | throws same => exact .inl ⟨⟨_, rfl⟩, same⟩

/-- With one error less than it tolerates, a failing call opens the breaker exactly if its failure
is counted. In general a counted failure opens it or adds one to the count. -/
theorem failing_call (reachable : Reachable parser)
    (recovers : parser.config.errorRecoveryEnabled = true)
    (inactive : parser.shouldActivateCircuitBreaker = false) {call : Call}
    (filled : call.buffer ≠ [])
    (ran : parser.parse call.clock call.outside call.buffer = .ok (result, after))
    (fails : result.status ≠ .success) (waits : result.status ≠ .needMoreData) :
    (parser.Counted call → after.shouldActivateCircuitBreaker = true ∨
      after.context.consecutiveErrors = parser.context.consecutiveErrors + 1) ∧
    (¬ parser.Counted call → after.context.consecutiveErrors ≤ parser.context.consecutiveErrors ∨
      after.context.consecutiveErrors < parser.config.maxConsecutiveErrors) := by
  have same := reachable.parse_config ran
  rw [parse_let_through ⟨reachable.unset, inactive⟩ filled] at ran
  split at ran
  · rename_i beyond
    cases ran
    refine ⟨fun counted => ?_, fun _ => .inl (le_refl _)⟩
    exact absurd beyond (hasRoom_iff.mp counted.room)
  · rename_i within
    have room := hasRoom_iff.mpr within
    have idle : parser.clearPartial.context.currentState = .idle := reachable.idle
    obtain ⟨cursors, middle, cursor, _, exit, left, passes, stepped, count⟩ :=
      parseAvailable_fails idle ran fails waits
    have before : middle.context.consecutiveErrors =
        if cursors = [] then parser.context.consecutiveErrors else 0 := (passes.context idle).2
    rcases count with ⟨⟨what, rfl⟩, count⟩ | ⟨⟨answer, rfl⟩, count⟩
    · refine ⟨fun counted => ?_, fun _ => .inl ?_⟩
      · exact absurd ((throws_iff stepped).mpr ⟨what, rfl⟩) (counted.returns passes)
      · rw [count, before]
        split
        · exact le_refl _
        · exact Nat.zero_le _
    · constructor
      · intro counted
        rcases counted.alone passes with rfl | single
        · rw [if_pos rfl] at before
          exact .inr (count.trans (congrArg (· + 1) before))
        · refine .inl ((shouldActivate_iff (same ▸ recovers)).mpr ?_)
          rw [same, single, count]
          exact Nat.le_add_left 1 _
      · intro uncounted
        have returns : ∀ {cursors middle cursor},
            Passes call.clock (Memory.overlay (parser.partialBuffer ++ call.buffer) call.outside)
              (parser.partialBuffer ++ call.buffer).length parser.clearPartial cursors middle
              cursor →
            ¬ middle.Throws call.clock
              (Memory.overlay (parser.partialBuffer ++ call.buffer) call.outside)
              (parser.partialBuffer ++ call.buffer).length cursor :=
          fun another => passes.not_throws stepped another
        by_cases first : cursors = []
        · refine absurd ⟨room, returns, fun another => .inl ?_⟩ uncounted
          have short := passes.length_le stepped another
          rw [first] at short
          exact List.length_eq_zero_iff.mp (Nat.le_zero.mp short)
        · rw [if_neg first] at before
          have several : parser.config.maxConsecutiveErrors ≠ 1 := fun single =>
            uncounted ⟨room, returns, fun _ => .inr single⟩
          have positive : ¬ parser.config.maxConsecutiveErrors ≤
              parser.context.consecutiveErrors := fun reached =>
            Bool.false_ne_true (inactive.symm.trans ((shouldActivate_iff recovers).mpr reached))
          omega

/-- A number of calls that all failed and met a condition in the state in which they were made.
Between calls the pool may change. -/
inductive FailingRun (condition : StreamFixParser → Call → Prop) (first : StreamFixParser) :
    Nat → StreamFixParser → Prop where
  | start : FailingRun condition first 0 first
  | call {count : Nat} {middle after : StreamFixParser} {call : Call} {result : ParseResult} :
      FailingRun condition first count middle → condition middle call → call.buffer ≠ [] →
      middle.parse call.clock call.outside call.buffer = .ok (result, after) →
      result.status ≠ .success → result.status ≠ .needMoreData →
      FailingRun condition first (count + 1) after
  | usePool {count : Nat} {middle : StreamFixParser} (pool : MessagePool FixMessage) :
      FailingRun condition first count middle →
      FailingRun condition first count (middle.withPool pool)

/-- The failure of a call is counted, unless the breaker is open already. -/
def CountedOrOpen (parser : StreamFixParser) (call : Call) : Prop :=
  parser.shouldActivateCircuitBreaker = true ∨ parser.Counted call

/-- After so many counted failures the breaker is open, or the count has come as far. -/
theorem FailingRun.counts {count : Nat} (reachable : Reachable parser)
    (recovers : parser.config.errorRecoveryEnabled = true)
    (run : FailingRun CountedOrOpen parser count after) :
    Reachable after ∧ after.config = parser.config ∧
      (after.shouldActivateCircuitBreaker = true ∨ count ≤ after.context.consecutiveErrors) := by
  induction run with
  | start => exact ⟨reachable, rfl, .inr (Nat.zero_le _)⟩
  | usePool pool _ ih => exact ⟨ih.1.usePool pool, ih.2⟩
  | @call count middle after call result _ counted filled ran fails waits ih =>
    obtain ⟨here, same, progress⟩ := ih
    refine ⟨.parse here ran, (here.parse_config ran).trans same, ?_⟩
    cases inactive : middle.shouldActivateCircuitBreaker with
    | true =>
      rw [parse_refused here.unset inactive filled] at ran
      cases ran
      exact .inl inactive
    | false =>
      rw [inactive] at progress
      have reached := progress.resolve_left Bool.false_ne_true
      have counts := counted.resolve_left (inactive ▸ Bool.false_ne_true)
      rcases (failing_call here (same ▸ recovers) inactive filled ran fails waits).1 counts
        with opened | more
      · exact .inl opened
      · exact .inr (more ▸ Nat.succ_le_succ reached)

theorem isCircuitBreakerActive_iff (unset : parser.circuitBreakerActive = false)
    (recovers : parser.config.errorRecoveryEnabled = true) (now : Nat) :
    (parser.isCircuitBreakerActive now).1 = true ↔
      parser.config.maxConsecutiveErrors ≤ parser.context.consecutiveErrors := by
  rw [isCircuitBreakerActive_of_unset unset]
  exact shouldActivate_iff recovers

/-- After as many failing calls in a row as the breaker tolerates, each of which was counted, the
breaker is open. And the failure that makes them that many opens it only if it is counted. -/
theorem breaker_opens (reachable : Reachable parser)
    (recovers : parser.config.errorRecoveryEnabled = true) (now : Nat) :
    (∀ after, FailingRun CountedOrOpen parser parser.config.maxConsecutiveErrors after →
      (after.isCircuitBreakerActive now).1 = true) ∧
    ∀ call result after,
      parser.context.consecutiveErrors + 1 = parser.config.maxConsecutiveErrors →
      call.buffer ≠ [] →
      parser.parse call.clock call.outside call.buffer = .ok (result, after) →
      result.status ≠ .success → result.status ≠ .needMoreData →
      ((after.isCircuitBreakerActive now).1 = true ↔ parser.Counted call) := by
  constructor
  · intro after run
    obtain ⟨there, same, progress⟩ := run.counts reachable recovers
    rw [isCircuitBreakerActive_iff there.unset (same ▸ recovers), same]
    rcases progress with opened | reached
    · exact same ▸ (shouldActivate_iff (same ▸ recovers)).mp opened
    · exact reached
  · intro call result after last filled ran fails waits
    have same := reachable.parse_config ran
    have inactive : parser.shouldActivateCircuitBreaker = false := by
      rw [← Bool.not_eq_true, shouldActivate_iff recovers]
      omega
    obtain ⟨opens, keeps⟩ := failing_call reachable recovers inactive filled ran fails waits
    rw [isCircuitBreakerActive_iff (Reachable.parse reachable ran).unset (same ▸ recovers), same]
    constructor
    · intro active
      by_contra uncounted
      have fewer := keeps uncounted
      omega
    · intro counted
      rcases opens counted with opened | more
      · exact same ▸ (shouldActivate_iff (same ▸ recovers)).mp opened
      · omega

/-- Ten bytes without a message are a counted failure and open a breaker that one error opens. -/
theorem breaker_opens_noise :
    let parser := new samplePool { maxConsecutiveErrors := 1 } 0
    parser.config.errorRecoveryEnabled = true ∧
      ∃ after, FailingRun CountedOrOpen parser 1 after ∧
        (after.isCircuitBreakerActive 0).1 = true := by
  intro parser
  let call : Call := ⟨sampleClock, Memory.unmapped, List.replicate 10 88⟩
  have opens := breaker_opens (.new samplePool { maxConsecutiveErrors := 1 } 0) rfl 0
  have outcome : (parser.parse call.clock call.outside call.buffer).toOption.map
      (fun outcome => (outcome.1.status, (outcome.2.isCircuitBreakerActive 0).1)) =
      some (.invalidFormat, true) := by decide +kernel
  obtain ⟨⟨result, after⟩, ran, values⟩ := Option.map_eq_some_iff.mp outcome
  have called := ok_of_toOption ran
  obtain ⟨status, active⟩ := Prod.mk.inj values
  have fails : result.status ≠ .success := fun success => nomatch status.symm.trans success
  have waits : result.status ≠ .needMoreData := fun waits => nomatch status.symm.trans waits
  have counted := (opens.2 call result after rfl nofun called fails waits).mp active
  have run : FailingRun CountedOrOpen parser 1 after :=
    .call .start (.inr counted) nofun called fails waits
  exact ⟨rfl, after, run, opens.1 after run⟩

/-- A heartbeat with letters in place of its checksum makes `std::stoi` throw, and its failure is
not counted. -/
theorem thrown_failure_not_counted :
    (((new samplePool { maxConsecutiveErrors := 1 } 0).parse sampleClock Memory.unmapped
        (sampleHeartbeat.frame ++ ascii "10=abc" ++ [soh])).toOption.map
      fun outcome => (outcome.1.status, (outcome.2.isCircuitBreakerActive 0).1)) =
      some (.invalidFormat, false) := by
  decide +kernel

end StreamFixParser

end FixGateway.Protocol
