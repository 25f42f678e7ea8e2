import FixGateway.Common.MessagePool
import FixGateway.Memory.Reading
import FixGateway.Protocol.FixMessage

/-! # The state of the stream parser

The types of `StreamFixParser`: the states and results of parsing, its
configuration, statistics and context, and the parser object itself. Messages
live in a pool, so a result names its message by a slot.

A parser keeps the bytes of an unfinished message in a buffer of fixed size;
`StreamFixParser.fits` says that they fit. The parse times of the statistics
and the context of the older state machine, which `parse` never enters, are
left out.
-/

namespace FixGateway.Protocol

open ByteScan FixGateway.Common

inductive ParseState where
  | idle
  | parsingBeginString
  | parsingBodyLength
  | parsingTag
  | expectingEquals
  | parsingValue
  | expectingSoh
  | parsingChecksum
  | messageComplete
  | errorRecovery
  | corruptedSkip
  deriving DecidableEq, Repr

inductive ParseStatus where
  | success
  | needMoreData
  | finishedParsingFields
  | invalidFormat
  | checksumError
  | allocationFailed
  | messageTooLarge
  | unsupportedVersion
  | stateTransitionError
  | fieldParseError
  | recoverySuccess
  | corruptedData
  deriving DecidableEq, Repr

structure ParseResult where
  status : ParseStatus
  bytesConsumed : Nat
  /-- The slot of the message in the pool. -/
  parsedMessage : Option Nat
  errorDetail : Bytes
  finalState : ParseState
  errorPosition : Nat
  deriving DecidableEq, Repr

/-- A result without a message. -/
def ParseResult.without (status : ParseStatus) (bytesConsumed : Nat) (errorDetail : Bytes)
    (finalState : ParseState) : ParseResult :=
  ⟨status, bytesConsumed, none, errorDetail, finalState, 0⟩

structure ParserStats where
  messagesParsed : Nat := 0
  parseErrors : Nat := 0
  checksumErrors : Nat := 0
  allocationFailures : Nat := 0
  stateTransitions : Nat := 0
  partialMessagesHandled : Nat := 0
  errorRecoveries : Nat := 0
  corruptedDataSkipped : Nat := 0
  fieldParseErrors : Nat := 0
  errorsByState : ParseState → Nat := fun _ => 0
  errorFrequency : ParseStatus → Nat := fun _ => 0

structure ParseContext where
  currentState : ParseState := .idle
  expectedBodyLength : Nat := 0
  errorCountInSession : Nat := 0
  consecutiveErrors : Nat := 0
  lastErrorTime : Nat := 0

/-- `ParseContext::reset` keeps the error tracking of the circuit breaker. -/
def ParseContext.reset (context : ParseContext) : ParseContext :=
  { context with currentState := .idle, expectedBodyLength := 0 }

structure ParserConfig where
  maxMessageSize : Nat := 8192
  validateChecksum : Bool := true
  strictValidation : Bool := true
  maxConsecutiveErrors : Nat := 10
  errorRecoveryEnabled : Bool := true
  deriving DecidableEq, Repr

/-- `PARTIAL_BUFFER_SIZE`. -/
def partialBufferSize : Nat := 65536

/-- The clock readings of one call: the steady clock in nanoseconds, and the
system clock as the constructor of the pool's next allocations reads it. -/
structure Clock where
  now : Nat
  utc : Nat → UtcTime

structure StreamFixParser where
  messagePool : MessagePool FixMessage
  config : ParserConfig
  /-- The first `partial_buffer_size_` bytes of `partial_buffer_`. -/
  partialBuffer : Bytes
  stats : ParserStats
  context : ParseContext
  circuitBreakerActive : Bool
  circuitBreakerLastReset : Nat
  fits : partialBuffer.length ≤ partialBufferSize

namespace StreamFixParser

/-- A parser as its constructor and its setters leave it. -/
def new (messagePool : MessagePool FixMessage) (config : ParserConfig) (now : Nat) :
    StreamFixParser where
  messagePool := messagePool
  config := config
  partialBuffer := []
  stats := {}
  context := {}
  circuitBreakerActive := false
  circuitBreakerLastReset := now
  fits := Nat.zero_le _

/-- Forget the stored bytes. -/
def clearPartial (parser : StreamFixParser) : StreamFixParser :=
  { parser with partialBuffer := [], fits := Nat.zero_le _ }

/-- Store the unprocessed bytes for the next call. Copying more than the buffer
holds writes past its end. -/
def storePartial (parser : StreamFixParser) (leftover : Bytes) : Except Fault StreamFixParser :=
  if fits : leftover.length ≤ partialBufferSize then
    .ok { parser with partialBuffer := leftover, fits := fits }
  else .error (.overflow leftover.length)

/-! ## Statistics -/

/-- `updateStats`. -/
def updateStats (parser : StreamFixParser) (status : ParseStatus) : StreamFixParser :=
  let stats := parser.stats
  if status = .success then
    { parser with stats := { stats with messagesParsed := stats.messagesParsed + 1 } }
  else
    { parser with
      stats := { stats with
        parseErrors := stats.parseErrors + 1
        checksumErrors := stats.checksumErrors + if status = .checksumError then 1 else 0
        allocationFailures :=
          stats.allocationFailures + if status = .allocationFailed then 1 else 0 } }

/-- `updateErrorStats`. -/
def updateErrorStats (parser : StreamFixParser) (now : Nat) (status : ParseStatus)
    (state : ParseState) : StreamFixParser :=
  let stats := { parser.stats with
    errorFrequency := Function.update parser.stats.errorFrequency status
      (parser.stats.errorFrequency status + 1)
    errorsByState := Function.update parser.stats.errorsByState state
      (parser.stats.errorsByState state + 1) }
  { parser with
    context := { parser.context with
      consecutiveErrors := parser.context.consecutiveErrors + 1
      errorCountInSession := parser.context.errorCountInSession + 1
      lastErrorTime := now }
    stats :=
      match status with
      | .fieldParseError => { stats with fieldParseErrors := stats.fieldParseErrors + 1 }
      | .checksumError => { stats with checksumErrors := stats.checksumErrors + 1 }
      | .allocationFailed => { stats with allocationFailures := stats.allocationFailures + 1 }
      | _ => { stats with parseErrors := stats.parseErrors + 1 } }

/-- `recordErrorRecovery`. -/
def recordErrorRecovery (parser : StreamFixParser) (successful : Bool) : StreamFixParser :=
  if successful then
    { parser with
      stats := { parser.stats with errorRecoveries := parser.stats.errorRecoveries + 1 }
      context := { parser.context with consecutiveErrors := 0 } }
  else parser

/-- `recordPartialMessageHandled`. -/
def recordPartialMessageHandled (parser : StreamFixParser) : StreamFixParser :=
  { parser with
    stats := { parser.stats with
      partialMessagesHandled := parser.stats.partialMessagesHandled + 1 } }

/-- `resetErrorRecovery`. -/
def resetErrorRecovery (parser : StreamFixParser) (now : Nat) : StreamFixParser :=
  { parser with
    context := { parser.context with consecutiveErrors := 0, lastErrorTime := now }
    circuitBreakerActive := false
    circuitBreakerLastReset := now }

/-! ## Circuit breaker -/

/-- `shouldActivateCircuitBreaker`. -/
def shouldActivateCircuitBreaker (parser : StreamFixParser) : Bool :=
  parser.config.errorRecoveryEnabled &&
    parser.config.maxConsecutiveErrors ≤ parser.context.consecutiveErrors

/-- Five seconds on the steady clock. -/
def coolingPeriod : Nat := 5 * 10 ^ 9

/-- `isCircuitBreakerActive`, with the parser it leaves: a set breaker is reset
once its cooling period has passed. -/
def isCircuitBreakerActive (parser : StreamFixParser) (now : Nat) : Bool × StreamFixParser :=
  if parser.circuitBreakerActive = true ∧ now - parser.circuitBreakerLastReset > coolingPeriod then
    (false,
      { parser with
        circuitBreakerActive := false
        context := { parser.context with consecutiveErrors := 0 }
        circuitBreakerLastReset := now })
  else (parser.circuitBreakerActive || parser.shouldActivateCircuitBreaker, parser)

/-! ## State transitions -/

/-- `isValidStateTransition`. -/
def isValidStateTransition : ParseState → ParseState → Bool
  | .idle, next => next = .parsingBeginString || next = .parsingBodyLength || next = .errorRecovery
  | .parsingBeginString, next => next = .parsingBodyLength || next = .errorRecovery
  | .parsingBodyLength, next => next = .parsingTag || next = .errorRecovery
  | .parsingTag, next => next = .expectingEquals || next = .errorRecovery
  | .expectingEquals, next => next = .parsingValue || next = .errorRecovery
  | .parsingValue, next => next = .expectingSoh || next = .errorRecovery
  | .expectingSoh, next => next = .parsingTag || next = .parsingChecksum || next = .errorRecovery
  | .parsingChecksum, next => next = .messageComplete || next = .errorRecovery
  | .messageComplete, next => next = .idle
  | .errorRecovery, next => next = .idle || next = .corruptedSkip
  | .corruptedSkip, next => next = .idle || next = .errorRecovery

/-- `transitionToState`. -/
def transitionToState (parser : StreamFixParser) (next : ParseState) : Bool × StreamFixParser :=
  if isValidStateTransition parser.context.currentState next then
    (true,
      { parser with
        stats := { parser.stats with stateTransitions := parser.stats.stateTransitions + 1 }
        context := { parser.context with currentState := next } })
  else (false, parser)

/-- `canRecoverFromError`. -/
def canRecoverFromError (parser : StreamFixParser) (status : ParseStatus) (state : ParseState) :
    Bool :=
  parser.config.errorRecoveryEnabled &&
    (status = .invalidFormat || status = .fieldParseError || status = .checksumError) &&
    state ≠ .messageComplete

end StreamFixParser

/-- `parseInteger`: the digits between two pointers as a wrapping `int`. -/
def parseInteger (memory : Memory) (first : Int) (length : Nat) : Except Fault (Option Int) :=
  if length = 0 then .ok none else memory.parseDigits first length 0

/-- Decimal text of a number (`std::to_string`). -/
def toText (number : Int) : Bytes := signedDecimal number

end FixGateway.Protocol
