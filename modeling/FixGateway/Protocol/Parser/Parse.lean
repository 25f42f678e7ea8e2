import FixGateway.Protocol.Parser.Frames

/-! # The stream parser

`parse` puts the stored bytes of an unfinished message before the new ones and
goes over them message by message. `parseStep` is one round of its loop: frame a
message at the cursor, decode it, and move on by the number of bytes the decoder
consumed. The loop keeps only the result of the last message it decoded.

Pointer arithmetic is on positions relative to the first available byte. The
memory around the available bytes is an argument, so that a read beyond them is
either a fault or depends on bytes that were not received.
-/

namespace FixGateway.Protocol

open ByteScan FixGateway.Common

namespace StreamFixParser

/-! ## Error recovery -/

/-- The search loop of `skipToNextPotentialMessage`. -/
def skipFrom (memory : Memory) : Nat → Nat → Except Fault (Option Nat)
  | _, 0 => .ok none
  | position, count + 1 => do
      if ← memory.startsAt (ascii "8=FIX") position then .ok (some position)
      else skipFrom memory (position + 1) count

/-- `skipToNextPotentialMessage`. The bound of its loop is an unsigned difference. -/
def skipToNextPotentialMessage (memory : Memory) (length startPos : Nat) : Except Fault Nat := do
  let found ← skipFrom memory startPos (wrapSize (length - 5) - startPos)
  .ok (found.getD length)

/-- `handleErrorRecovery`. -/
def handleErrorRecovery (parser : StreamFixParser) (memory : Memory) (length : Nat) :
    Except Fault (ParseResult × StreamFixParser) := do
  let skipped ← skipToNextPotentialMessage memory length 0
  if skipped ≥ length then
    .ok (.without .needMoreData length (ascii "Skipped corrupted data, need more") .idle,
      { parser with
        stats := { parser.stats with
          corruptedDataSkipped := parser.stats.corruptedDataSkipped + length }
        context := parser.context.reset })
  else
    let parser := { parser with
      stats := { parser.stats with
        corruptedDataSkipped := parser.stats.corruptedDataSkipped + skipped }
      context := parser.context.reset }
    match parser.transitionToState .idle with
    | (false, parser) =>
      .ok (⟨.stateTransitionError, skipped, none,
        ascii "Failed to transition back to IDLE after recovery", .errorRecovery, skipped⟩,
        parser)
    | (true, parser) =>
      .ok (.without .recoverySuccess skipped (ascii "Error recovery successful") .idle, parser)

/-- `attemptErrorRecovery`. -/
def attemptErrorRecovery (parser : StreamFixParser) (memory : Memory) (length : Nat)
    (errorDetail : Bytes) : Except Fault (ParseResult × StreamFixParser) :=
  match parser.transitionToState .errorRecovery with
  | (false, parser) =>
    .ok (.without .stateTransitionError 0
      (ascii "Failed to enter error recovery state: " ++ errorDetail) parser.context.currentState,
      parser)
  | (true, parser) => parser.handleErrorRecovery memory length

/-- Try to recover from an error where that is allowed: the recovery's result if
it succeeds. -/
def recover (parser : StreamFixParser) (memory : Memory) (length : Nat) (error : ParseResult) :
    Except Fault (Option ParseResult × StreamFixParser) :=
  if parser.canRecoverFromError error.status error.finalState then do
    let (recovery, parser) ← parser.attemptErrorRecovery memory length error.errorDetail
    if recovery.status = .recoverySuccess then
      .ok (some recovery, parser.recordErrorRecovery true)
    else .ok (none, parser.recordErrorRecovery false)
  else .ok (none, parser)

/-! ## The message loop -/

/-- How a round of the loop ends: `parse` returns or throws, or the loop goes on. -/
inductive LoopStep where
  | leave (exit : DecodeReturn)
  | next (cursor : Nat) (lastSuccess : Option ParseResult)

/-- Framing failed: recover and go on, or return the error. -/
def frameFailed (parser : StreamFixParser) (clock : Clock) (memory : Memory)
    (available cursor : Nat) (lastSuccess : Option ParseResult) (error : ParseResult) :
    Except Fault (LoopStep × StreamFixParser) := do
  let (recovered, parser) ← parser.recover memory available error
  match recovered with
  | some recovery => .ok (.next (wrapSize (cursor + recovery.bytesConsumed)) lastSuccess, parser)
  | none =>
    .ok (.leave (.returned error), parser.updateErrorStats clock.now error.status error.finalState)

/-- A frame was decoded to the given result. -/
def frameDecoded (parser : StreamFixParser) (clock : Clock) (frame : Memory)
    (frameLength cursor : Nat) (messageEnd : Int) (decoded : ParseResult) :
    Except Fault (LoopStep × StreamFixParser) :=
  let position := wrapSize (cursor + decoded.bytesConsumed)
  let result := { decoded with bytesConsumed := position }
  if decoded.status = .success then
    .ok (.next position (some result),
      ((parser.resetErrorRecovery clock.now).recordPartialMessageHandled).updateStats .success)
  else if decoded.status = .needMoreData then .ok (.leave (.returned result), parser)
  else do
    let parser := (parser.updateErrorStats clock.now decoded.status decoded.finalState).updateStats
      decoded.status
    let (recovered, parser) ← parser.recover frame frameLength decoded
    match recovered with
    | some recovery =>
      .ok (.leave (.returned { recovery with bytesConsumed := wrapSize (cursor + messageEnd) }),
        parser)
    | none => .ok (.leave (.returned result), parser)

/-- Set `expected_body_length` as framing does. -/
def noteBodyLength (parser : StreamFixParser) (framing : Framing) : StreamFixParser :=
  { parser with
    context := { parser.context with
      expectedBodyLength := framing.expectedBodyLength.getD parser.context.expectedBodyLength } }

/-- Use the pool a decoder left. -/
def withPool (parser : StreamFixParser) (pool : MessagePool FixMessage) : StreamFixParser :=
  { parser with messagePool := pool }

/-- One round of the loop at a cursor before the end. -/
def parseStep (parser : StreamFixParser) (clock : Clock) (memory : Memory) (length cursor : Nat)
    (lastSuccess : Option ParseResult) : Except Fault (LoopStep × StreamFixParser) := do
  let here := memory.shift cursor
  let available := length - cursor
  let framing ← findCompleteMessage here parser.config.maxMessageSize available
  let parser := parser.noteBodyLength framing
  if framing.result.status = .needMoreData then
    let leftover ← here.slice 0 available
    let parser ← parser.storePartial leftover
    .ok (.leave (.returned framing.result), parser)
  else if framing.result.status = .success then
    let frame := here.shift framing.messageStart
    let frameLength := (framing.messageEnd - framing.messageStart).toNat
    let (exit, pool) ← parseCompleteMessage parser.config clock parser.messagePool frame frameLength
    let parser := parser.withPool pool
    match exit with
    | .thrown what => .ok (.leave (.thrown what), parser)
    | .returned decoded =>
      parser.frameDecoded clock frame frameLength cursor framing.messageEnd decoded
  else parser.frameFailed clock here available cursor lastSuccess framing.result

/-- The loop. Every round that does not leave it takes a message from the pool,
so the free slots bound the number of rounds. -/
def parseLoop (clock : Clock) (memory : Memory) (length : Nat) :
    Nat → StreamFixParser → Nat → Option ParseResult → Except Fault (DecodeReturn × StreamFixParser)
  | 0, _, _, _ => .error .outOfFuel
  | fuel + 1, parser, cursor, lastSuccess =>
    if cursor < length then do
      match ← parser.parseStep clock memory length cursor lastSuccess with
      | (.leave exit, parser) => .ok (exit, parser)
      | (.next cursor lastSuccess, parser) =>
        parseLoop clock memory length fuel parser cursor lastSuccess
    else
      .ok (.returned (lastSuccess.getD
        (.without .needMoreData cursor (ascii "No complete messages in buffer") .idle)), parser)

/-- The handler of exceptions that leave the loop. -/
def caught (parser : StreamFixParser) (what : Bytes) : ParseResult × StreamFixParser :=
  let parser := parser.updateStats .invalidFormat
  (.without .invalidFormat 0 (ascii "Parse exception: " ++ what) .errorRecovery,
    { parser with
      context := { parser.context with
        errorCountInSession := parser.context.errorCountInSession + 1 } })

/-- Parse the available bytes. -/
def parseAvailable (parser : StreamFixParser) (clock : Clock) (outside : Memory) (bytes : Bytes) :
    Except Fault (ParseResult × StreamFixParser) := do
  match ← parseLoop clock (Memory.overlay bytes outside) bytes.length
      (parser.messagePool.freeList.length + 1) parser 0 none with
  | (.returned result, parser) => .ok (result, parser)
  | (.thrown what, parser) => .ok (parser.caught what)

/-- `parse` of a buffer, with `outside` around the bytes it works on. -/
def parse (parser : StreamFixParser) (clock : Clock) (outside : Memory) (buffer : Bytes) :
    Except Fault (ParseResult × StreamFixParser) :=
  if buffer.length = 0 then
    .ok (.without .invalidFormat 0 (ascii "Empty buffer") .idle, parser)
  else
    let (active, parser) := parser.isCircuitBreakerActive clock.now
    if active then
      .ok (.without .corruptedData 0 (ascii "Circuit breaker active - too many consecutive errors")
        .errorRecovery, parser)
    else if parser.partialBuffer.length ≠ 0 ∧
        parser.partialBuffer.length + buffer.length > partialBufferSize then
      .ok (.without .messageTooLarge 0 (ascii "Partial buffer overflow") .errorRecovery, parser)
    else parser.clearPartial.parseAvailable clock outside (parser.partialBuffer ++ buffer)

/-! ## The rounds of the loop -/

/-- The framing stage at the cursor. -/
def frameAt (parser : StreamFixParser) (memory : Memory) (length cursor : Nat) :
    Except Fault Framing :=
  findCompleteMessage (memory.shift cursor) parser.config.maxMessageSize (length - cursor)

/-- The decoding stage on the frame found at the cursor. -/
def decodeAt (parser : StreamFixParser) (clock : Clock) (memory : Memory) (cursor : Nat)
    (framing : Framing) : Except Fault (DecodeReturn × MessagePool FixMessage) :=
  parseCompleteMessage parser.config clock parser.messagePool
    ((memory.shift cursor).shift framing.messageStart)
    (framing.messageEnd - framing.messageStart).toNat

section Rounds

variable {parser : StreamFixParser} {clock : Clock} {memory : Memory} {length cursor : Nat}
  {lastSuccess : Option ParseResult} {framing : Framing}

theorem frameAt_zero : parser.frameAt memory length 0 =
    findCompleteMessage memory parser.config.maxMessageSize length := by
  rw [frameAt, Nat.cast_zero, Memory.shift_zero, Nat.sub_zero]

section

variable (framed : parser.frameAt memory length cursor = .ok framing)
include framed

theorem parseStep_needMoreData (waits : framing.result.status = .needMoreData) :
    parser.parseStep clock memory length cursor lastSuccess = (do
      let leftover ← (memory.shift cursor).slice 0 (length - cursor)
      let parser ← (parser.noteBodyLength framing).storePartial leftover
      .ok (.leave (.returned framing.result), parser)) := by
  unfold frameAt at framed
  unfold parseStep
  simp only [framed, bind, Except.bind, waits, if_true]

theorem parseStep_success (success : framing.result.status = .success) :
    parser.parseStep clock memory length cursor lastSuccess = (do
      let (exit, pool) ← parser.decodeAt clock memory cursor framing
      match exit with
      | .thrown what => .ok (.leave (.thrown what), (parser.noteBodyLength framing).withPool pool)
      | .returned decoded =>
        ((parser.noteBodyLength framing).withPool pool).frameDecoded clock
          ((memory.shift cursor).shift framing.messageStart)
          (framing.messageEnd - framing.messageStart).toNat cursor framing.messageEnd
          decoded) := by
  unfold frameAt at framed
  unfold parseStep
  simp only [framed, bind, Except.bind, success]
  rfl

theorem parseStep_failed
    (waits : framing.result.status ≠ .needMoreData) (fails : framing.result.status ≠ .success) :
    parser.parseStep clock memory length cursor lastSuccess =
      (parser.noteBodyLength framing).frameFailed clock (memory.shift cursor) (length - cursor)
        cursor lastSuccess framing.result := by
  unfold frameAt at framed
  unfold parseStep
  simp only [framed, bind, Except.bind, waits, fails, if_false]

end

theorem frameDecoded_success {frame : Memory} {frameLength : Nat} {messageEnd : Int}
    {decoded : ParseResult} (success : decoded.status = .success) :
    parser.frameDecoded clock frame frameLength cursor messageEnd decoded =
      .ok (.next (wrapSize (cursor + decoded.bytesConsumed))
        (some { decoded with bytesConsumed := wrapSize (cursor + decoded.bytesConsumed) }),
        ((parser.resetErrorRecovery clock.now).recordPartialMessageHandled).updateStats
          .success) := by
  unfold frameDecoded
  simp only [success, if_true]

end Rounds

end StreamFixParser

end FixGateway.Protocol
