import FixGateway.Protocol.Parser.Rounds

/-! # Calls of the parser

`parse` refuses a call while the circuit breaker is active. Nothing ever sets
`circuit_breaker_active_`, so in a reachable state the breaker is active exactly
when there were too many errors in a row.

Between calls other users of the pool may allocate and deallocate messages, so a
run may continue with any pool.
-/

namespace FixGateway.Protocol

open ByteScan FixGateway.Common

namespace StreamFixParser

variable {parser after : StreamFixParser} {clock : Clock} {outside : Memory} {buffer : Bytes}
  {now : Nat} {result : ParseResult} {pool : MessagePool FixMessage} {framing : Framing}
  {bytes : Bytes} {memory : Memory} {length cursor : Nat}

/-! ## Entering the loop -/

/-- The answer to a call that does not come to the loop, where `active` is what the circuit
breaker says. -/
def entryAnswer (parser : StreamFixParser) (active : Bool) (buffer : Bytes) :
    Option ParseResult :=
  if buffer.length = 0 then some (.without .invalidFormat 0 (ascii "Empty buffer") .idle)
  else if active then
    some (.without .corruptedData 0
      (ascii "Circuit breaker active - too many consecutive errors") .errorRecovery)
  else if parser.partialBuffer.length ≠ 0 ∧
      parser.partialBuffer.length + buffer.length > partialBufferSize then
    some (.without .messageTooLarge 0 (ascii "Partial buffer overflow") .errorRecovery)
  else none

/-- The parser after the check of the circuit breaker, which an empty buffer does not come to. -/
def checked (parser : StreamFixParser) (now : Nat) (buffer : Bytes) : StreamFixParser :=
  if buffer.length = 0 then parser else (parser.isCircuitBreakerActive now).2

theorem isCircuitBreakerActive_keeps (parser : StreamFixParser) (now : Nat) :
    (parser.isCircuitBreakerActive now).2.messagePool = parser.messagePool ∧
      (parser.isCircuitBreakerActive now).2.config = parser.config ∧
      (parser.isCircuitBreakerActive now).2.partialBuffer = parser.partialBuffer ∧
      (parser.isCircuitBreakerActive now).2.stats = parser.stats := by
  unfold isCircuitBreakerActive
  split <;> exact ⟨rfl, rfl, rfl, rfl⟩

theorem parse_entry (parser : StreamFixParser) (clock : Clock) (outside : Memory) (buffer : Bytes) :
    parser.parse clock outside buffer =
      match parser.entryAnswer (parser.isCircuitBreakerActive clock.now).1 buffer with
      | some result => .ok (result, parser.checked clock.now buffer)
      | none => (parser.checked clock.now buffer).clearPartial.parseAvailable clock outside
          (parser.partialBuffer ++ buffer) := by
  have stored := (parser.isCircuitBreakerActive_keeps clock.now).2.2.1
  unfold parse entryAnswer checked
  by_cases empty : buffer.length = 0
  · simp only [if_pos empty]
  · simp only [if_neg empty, ← stored]
    cases (parser.isCircuitBreakerActive clock.now).1 with
    | true => rfl
    | false =>
      simp only [Bool.false_eq_true, if_false]
      split
      · rfl
      · rfl

theorem entryAnswer_fails {active : Bool} (answer : parser.entryAnswer active buffer = some result)
    : result.status ≠ .success ∧ result.status ≠ .needMoreData := by
  unfold entryAnswer at answer
  split at answer
  · cases answer
    exact ⟨nofun, nofun⟩
  · split at answer
    · cases answer
      exact ⟨nofun, nofun⟩
    · split at answer
      · cases answer
        exact ⟨nofun, nofun⟩
      · cases answer

/-- The circuit breaker lets calls through. -/
structure Accepting (parser : StreamFixParser) : Prop where
  circuitBreakerActive : parser.circuitBreakerActive = false
  shouldActivate : parser.shouldActivateCircuitBreaker = false

theorem accepting_new {config : ParserConfig} (tolerant : 0 < config.maxConsecutiveErrors) :
    Accepting (new pool config now) := by
  refine ⟨rfl, ?_⟩
  unfold shouldActivateCircuitBreaker
  simp [new, Nat.not_le.mpr tolerant]

/-- A breaker that was never set is active only through the error count. -/
theorem isCircuitBreakerActive_of_unset (unset : parser.circuitBreakerActive = false) :
    parser.isCircuitBreakerActive now = (parser.shouldActivateCircuitBreaker, parser) := by
  unfold isCircuitBreakerActive
  rw [unset, if_neg (fun set => Bool.false_ne_true set.1), Bool.false_or]

/-- The bytes of a call fit beside the stored ones. -/
def HasRoom (parser : StreamFixParser) (buffer : Bytes) : Prop :=
  parser.partialBuffer = [] ∨ parser.partialBuffer.length + buffer.length ≤ partialBufferSize

theorem hasRoom_iff : parser.HasRoom buffer ↔ ¬ (parser.partialBuffer.length ≠ 0 ∧
    parser.partialBuffer.length + buffer.length > partialBufferSize) := by
  rw [HasRoom, not_and_or, not_not, List.length_eq_zero_iff, Nat.not_lt]

/-- A call that comes to the parsing loop. -/
structure Enters (parser : StreamFixParser) (buffer : Bytes) : Prop where
  accepting : Accepting parser
  nonempty : buffer ≠ []
  room : parser.HasRoom buffer

/-- While nothing has set the breaker, a call returns at once or parses the available bytes. -/
theorem parse_cases (unset : parser.circuitBreakerActive = false) (clock : Clock)
    (outside : Memory) (buffer : Bytes) :
    (∃ result, result.bytesConsumed = 0 ∧ result.status ≠ .success ∧
      parser.parse clock outside buffer = .ok (result, parser)) ∨
    parser.Enters buffer ∧ parser.parse clock outside buffer =
      parser.clearPartial.parseAvailable clock outside (parser.partialBuffer ++ buffer) := by
  unfold parse
  rw [isCircuitBreakerActive_of_unset unset]
  dsimp only
  split
  · refine Or.inl ⟨_, rfl, ?_, rfl⟩
    exact nofun
  · rename_i nonempty
    split
    · refine Or.inl ⟨_, rfl, ?_, rfl⟩
      exact nofun
    · rename_i inactive
      split
      · refine Or.inl ⟨_, rfl, ?_, rfl⟩
        exact nofun
      · rename_i room
        have accepting : Accepting parser := ⟨unset, Bool.eq_false_of_not_eq_true inactive⟩
        rw [List.length_eq_zero_iff] at nonempty
        exact Or.inr ⟨⟨accepting, nonempty, hasRoom_iff.mpr room⟩, rfl⟩

/-- A call that is let through parses the stored bytes and the new ones together,
if these fit into the buffer. -/
theorem parse_let_through (accepting : Accepting parser) (nonempty : buffer ≠ []) :
    parser.parse clock outside buffer =
      if parser.partialBuffer.length ≠ 0 ∧
          parser.partialBuffer.length + buffer.length > partialBufferSize then
        .ok (.without .messageTooLarge 0 (ascii "Partial buffer overflow") .errorRecovery, parser)
      else parser.clearPartial.parseAvailable clock outside (parser.partialBuffer ++ buffer) := by
  have checked : parser.isCircuitBreakerActive clock.now = (false, parser) := by
    rw [isCircuitBreakerActive_of_unset accepting.circuitBreakerActive, accepting.shouldActivate]
  unfold parse
  rw [if_neg (fun empty => nonempty (List.length_eq_zero_iff.mp empty)), checked]
  simp only [Bool.false_eq_true, if_false]

theorem parse_accepting (accepting : Accepting parser) (nonempty : buffer ≠ [])
    (room : parser.HasRoom buffer) :
    parser.parse clock outside buffer =
      parser.clearPartial.parseAvailable clock outside (parser.partialBuffer ++ buffer) := by
  rw [parse_let_through accepting nonempty, if_neg (hasRoom_iff.mp room)]

theorem parse_new (pool : MessagePool FixMessage) (now : Nat) (clock : Clock) (outside : Memory)
    (nonempty : buffer ≠ []) :
    (new pool {} now).parse clock outside buffer =
      (new pool {} now).parseAvailable clock outside buffer :=
  parse_accepting (accepting_new (by decide)) nonempty (Or.inl rfl)

/-- The parser after a call that stores the available bytes. -/
def holding (parser : StreamFixParser) (framing : Framing) (bytes : Bytes)
    (fits : bytes.length ≤ partialBufferSize) : StreamFixParser :=
  { parser.noteBodyLength framing with partialBuffer := bytes, fits := fits }

theorem Accepting.holding {fits : bytes.length ≤ partialBufferSize} (accepting : Accepting parser) :
    Accepting (parser.holding framing bytes fits) :=
  ⟨accepting.circuitBreakerActive, accepting.shouldActivate⟩

theorem Accepting.noteDecoded (accepting : Accepting parser) :
    Accepting (parser.noteDecoded clock framing pool) := by
  refine ⟨rfl, ?_⟩
  have under := accepting.shouldActivate
  unfold shouldActivateCircuitBreaker at under ⊢
  rw [Bool.and_eq_false_iff, decide_eq_false_iff_not] at under ⊢
  refine under.imp id fun below reached => below (le_trans reached (Nat.zero_le _))

theorem parse_waits (accepting : Accepting parser) (nonempty : buffer ≠ [])
    (framed : findCompleteMessage (Memory.overlay (parser.partialBuffer ++ buffer) outside)
      parser.config.maxMessageSize (parser.partialBuffer ++ buffer).length = .ok framing)
    (waits : framing.result.status = .needMoreData)
    (fits : (parser.partialBuffer ++ buffer).length ≤ partialBufferSize) :
    parser.parse clock outside buffer =
      .ok (framing.result, parser.holding framing (parser.partialBuffer ++ buffer) fits) := by
  have room : parser.partialBuffer.length + buffer.length ≤ partialBufferSize := by
    rwa [List.length_append] at fits
  have filled : 0 < (parser.partialBuffer ++ buffer).length := by
    have some := List.length_pos_iff.mpr nonempty
    rw [List.length_append]
    omega
  have here : parser.clearPartial.frameAt _ _ 0 = .ok framing := frameAt_zero.trans framed
  rw [parse_accepting accepting nonempty (Or.inr room), parseAvailable, parseLoop, if_pos filled,
    parseStep_waited none here waits (Memory.overlay_holds _ _) rfl fits]
  rfl

/-! ## Reachable states -/

theorem parseLoop_preserves {Property : StreamFixParser → Prop}
    {fuel : Nat} {lastSuccess : Option ParseResult} {exit : DecodeReturn}
    (kept : ∀ {cursor before step after}, Property before →
      Round clock memory length cursor before step after → Property after)
    (initial : Property parser)
    (ok : parseLoop clock memory length fuel parser cursor lastSuccess = .ok (exit, after)) :
    Property after := by
  induction fuel generalizing parser cursor lastSuccess with
  | zero => cases ok
  | succ fuel ih =>
    rw [parseLoop] at ok
    split at ok
    · obtain ⟨⟨step, next⟩, stepped, ok⟩ := bind_ok.mp ok
      have property := kept initial (parseStep_round stepped)
      cases step with
      | leave exit =>
        cases ok
        exact property
      | next cursor lastSuccess => exact ih property ok
    · cases ok
      exact initial

/-- The states of a parser between calls. -/
inductive Reachable : StreamFixParser → Prop where
  | new (pool : MessagePool FixMessage) (config : ParserConfig) (now : Nat) :
      Reachable (new pool config now)
  | parse {parser after : StreamFixParser} {clock : Clock} {outside : Memory} {buffer : Bytes}
      {result : ParseResult} : Reachable parser →
      parser.parse clock outside buffer = .ok (result, after) → Reachable after
  | usePool {parser : StreamFixParser} (pool : MessagePool FixMessage) : Reachable parser →
      Reachable (parser.withPool pool)

theorem Round.unset {step : LoopStep} (unset : parser.circuitBreakerActive = false)
    (round : Round clock memory length cursor parser step after) :
    after.circuitBreakerActive = false := by
  cases round with
  | waited => exact unset
  | unframed _ _ _ kept => exact kept.circuitBreakerActive.trans unset
  | threw => exact unset
  | decoded => rfl
  | undecoded _ _ _ _ kept => exact kept.circuitBreakerActive.trans unset

theorem parseAvailable_unset (unset : parser.circuitBreakerActive = false)
    (ok : parser.parseAvailable clock outside bytes = .ok (result, after)) :
    after.circuitBreakerActive = false := by
  obtain ⟨⟨exit, next⟩, ran, ok⟩ := bind_ok.mp ok
  have kept := parseLoop_preserves (fun unset round => Round.unset unset round) unset ran
  cases exit with
  | returned result =>
    cases ok
    exact kept
  | thrown what =>
    cases ok
    exact kept

/-- Nothing sets the circuit breaker. -/
theorem Reachable.unset (reachable : Reachable parser) : parser.circuitBreakerActive = false := by
  induction reachable with
  | new => rfl
  | usePool pool _ ih => exact ih
  | @parse parser after clock outside buffer result _ ok ih =>
    obtain ⟨_, _, _, returned⟩ | ⟨_, entered⟩ := parse_cases ih clock outside buffer
    · rw [returned] at ok
      cases ok
      exact ih
    · have cleared : parser.clearPartial.circuitBreakerActive = false := ih
      exact parseAvailable_unset cleared (entered.symm.trans ok)

theorem Reachable.accepting (reachable : Reachable parser)
    (inactive : (parser.isCircuitBreakerActive now).1 = false) : Accepting parser := by
  rw [isCircuitBreakerActive_of_unset reachable.unset] at inactive
  exact ⟨reachable.unset, inactive⟩

/-! ## Runs of calls -/

/-- The arguments and the environment of one call. -/
structure Call where
  clock : Clock
  outside : Memory
  buffer : Bytes

/-- A call that finds the pool as the other users of it left it. -/
structure Turn extends Call where
  pool : MessagePool FixMessage

/-- The call of a turn. -/
def takeTurn (parser : StreamFixParser) (turn : Turn) :
    Except Fault (ParseResult × StreamFixParser) :=
  (parser.withPool turn.pool).parse turn.clock turn.outside turn.buffer

/-- One call after the other, with the results in order. -/
def parseAll (parser : StreamFixParser) :
    List Call → Except Fault (List ParseResult × StreamFixParser)
  | [] => .ok ([], parser)
  | call :: calls => do
      let (result, parser) ← parser.parse call.clock call.outside call.buffer
      let (results, parser) ← parser.parseAll calls
      .ok (result :: results, parser)

theorem parseAll_cons {call : Call} {calls : List Call}
    {results : List ParseResult} {middle : StreamFixParser}
    (first : parser.parse call.clock call.outside call.buffer = .ok (result, middle))
    (rest : middle.parseAll calls = .ok (results, after)) :
    parser.parseAll (call :: calls) = .ok (result :: results, after) := by
  rw [parseAll, first]
  simp only [bind, Except.bind, rest]

end StreamFixParser

end FixGateway.Protocol
