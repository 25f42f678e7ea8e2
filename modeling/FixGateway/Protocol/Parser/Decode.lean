import FixGateway.Protocol.Parser.Fields
import FixGateway.Utils.FastStringConversion

/-! # Decoding a frame

The six `OptimizedParser` specialisations are one decoder with parameters: they
differ in the message type, the least length, the way the structure is checked
and reported, and in whether MsgType is looked up at the end. Every one of them
reads BodyLength again at offset 12, takes the body to end that many bytes
later, and reads the checksum field after it, so it reads beyond the frame it
was given. `parseMessage` is the generic decoder and stays inside the frame.

A decoder takes a message from the pool, fills it, and either returns it or gives
it back. `std::stoi` may throw in between, and then the message stays allocated.
-/

namespace FixGateway.Protocol

open ByteScan FixGateway.Common FixGateway.Utils

/-- How decoding into an allocated message ends: with the message and the number
of bytes consumed, with an error, or with an exception of the given text. -/
inductive DecodeExit (μ : Type) where
  | success (message : μ) (bytesConsumed : Nat) (detail : Bytes)
  | failure (result : ParseResult)
  | thrown (message : μ) (what : Bytes)

def DecodeExit.map {μ ν : Type} (apply : μ → ν) : DecodeExit μ → DecodeExit ν
  | .success message bytesConsumed detail => .success (apply message) bytesConsumed detail
  | .failure result => .failure result
  | .thrown message what => .thrown (apply message) what

/-- How a decoding function is left. -/
inductive DecodeReturn where
  | returned (result : ParseResult)
  | thrown (what : Bytes)

/-- What a decoder that was given the message in `slot` returns, and the pool it
leaves: a message that could not be decoded is given back. -/
def DecodeExit.settle (slot : Nat) (pool : MessagePool FixMessage) :
    DecodeExit FixMessage → DecodeReturn × MessagePool FixMessage
  | .success message bytesConsumed detail =>
    (.returned ⟨.success, bytesConsumed, some slot, detail, .idle, 0⟩, pool.store slot message)
  | .failure result => (.returned result, pool.deallocate slot)
  | .thrown message what => (.thrown what, pool.store slot message)

/-- Allocate a message and decode into it. -/
def withMessage (clock : Clock) (pool : MessagePool FixMessage) (refused : ParseResult)
    (decode : FixMessage → Except Fault (DecodeExit FixMessage)) :
    Except Fault (DecodeReturn × MessagePool FixMessage) :=
  let message := FixMessage.new (clock.utc pool.totalAllocations)
  match pool.allocate message with
  | (none, pool) => .ok (.returned refused, pool)
  | (some slot, pool) => do
      let exit ← decode message
      .ok (exit.settle slot pool)

section WithMessage

variable {clock : Clock} {pool : MessagePool FixMessage} {refused : ParseResult}
  {decode : FixMessage → Except Fault (DecodeExit FixMessage)} {slot : Nat} {rest : List Nat}

theorem withMessage_eq (running : pool.isShutdown = false) (chain : pool.freeList = slot :: rest) :
    withMessage clock pool refused decode = (do
      let exit ← decode (FixMessage.new (clock.utc pool.totalAllocations))
      .ok (exit.settle slot
        (pool.take (FixMessage.new (clock.utc pool.totalAllocations)) slot rest chain))) := by
  unfold withMessage
  simp only [MessagePool.allocate_eq_take running chain]

theorem withMessage_success {message : FixMessage} {bytesConsumed : Nat} {detail : Bytes}
    (running : pool.isShutdown = false) (chain : pool.freeList = slot :: rest)
    (ok : decode (FixMessage.new (clock.utc pool.totalAllocations)) =
      .ok (.success message bytesConsumed detail)) :
    withMessage clock pool refused decode =
      .ok (.returned ⟨.success, bytesConsumed, some slot, detail, .idle, 0⟩,
        pool.take message slot rest chain) := by
  rw [withMessage_eq running chain, ok]
  simp only [bind, Except.bind, DecodeExit.settle, MessagePool.store_take]

theorem withMessage_refused (exhausted : ¬ pool.available 1) :
    withMessage clock pool refused decode = .ok (.returned refused, pool.countFailure) := by
  unfold withMessage
  simp only [MessagePool.allocate_eq_none exhausted]

end WithMessage

/-! ## The specialised decoders -/

/-- The parameters of an `OptimizedParser` specialisation. -/
structure OptimizedParser where
  msgType : Bytes
  name : Bytes
  minimumLength : Nat
  /-- Whether MsgType is looked up again after the fields. -/
  checksMsgType : Bool
  /-- Whether there is one structural check only and errors carry no position. -/
  terse : Bool

namespace OptimizedParser

variable (decoder : OptimizedParser)

/-- The structural checks before a message is allocated. -/
def checkStructure (memory : Memory) (length : Nat) : Except Fault (Option ParseResult) :=
  if length < decoder.minimumLength then
    .ok (some (.without .invalidFormat 0 (ascii "Buffer too small for " ++ decoder.name) .idle))
  else do
    let last ← memory.read (length - 1)
    if decoder.terse then
      let invalid := ParseResult.without .invalidFormat 0
        (ascii "Invalid " ++ decoder.name ++ ascii " structure") .errorRecovery
      if last = soh then
        if ← memory.startsAt fixBeginString 0 then .ok none else .ok (some invalid)
      else .ok (some invalid)
    else if last = soh then
      if ← memory.startsAt fixBeginString 0 then .ok none
      else .ok (some (.without .invalidFormat 0
        (ascii "Invalid " ++ decoder.name ++ ascii " structure - missing BeginString")
        .errorRecovery))
    else .ok (some (.without .needMoreData 0
      (ascii "Incomplete " ++ decoder.name ++ ascii " - missing SOH termination") .parsingTag))

/-- The position an error reports. -/
def reportedPosition (position : Int) : Nat := if decoder.terse then 0 else wrapSize position

/-- The result for a malformed field. -/
def fieldError (position : Int) : FieldProblem → ParseResult
  | .missingEquals =>
    .without .invalidFormat (decoder.reportedPosition position) (ascii "Missing '=' in field")
      .errorRecovery
  | .invalidTag =>
    .without .fieldParseError (decoder.reportedPosition position) (ascii "Invalid field tag")
      .errorRecovery
  | .missingSoh tag valueStart =>
    .without .invalidFormat (decoder.reportedPosition valueStart)
      (ascii "Missing SOH after field" ++
        if decoder.terse then [] else ascii " " ++ toText tag) .errorRecovery

/-- The checksum field after the body, and the end of decoding. -/
def readChecksum (validate : Bool) (memory : Memory) (bodyEnd : Int) (message : FixMessage) :
    Except Fault (DecodeExit FixMessage) :=
  let finish := fun message : FixMessage => DecodeExit.success message (wrapSize (bodyEnd + 7))
    (decoder.name ++ ascii " parsed via optimized template")
  let mismatch := fun detail => DecodeExit.failure
    (.without .checksumError (decoder.reportedPosition bodyEnd) detail .errorRecovery)
  if validate then do
    if ← memory.startsAt (ascii "10=") bodyEnd then
      let checksum ← memory.slice (bodyEnd + 3) 3
      let message := message.setField FixFields.checkSum checksum
      let calculated ← memory.byteSum 0 0 (wrapSize bodyEnd)
      match stoi checksum with
      | none => .ok (.thrown message (ascii "stoi"))
      | some received =>
        if calculated = UInt8.ofInt received then .ok (finish message)
        else .ok (mismatch (ascii "Checksum validation failed"))
    else .ok (mismatch (ascii "Invalid checksum format"))
  else do
    let checksum ← memory.slice (bodyEnd + 3) 3
    .ok (finish (message.setField FixFields.checkSum checksum))

/-- The body, from the first field on. -/
def readBody (validate : Bool) (memory : Memory) (bodyStart bodyEnd : Int) (message : FixMessage) :
    Except Fault (DecodeExit FixMessage) := do
  match ← parseFields memory bodyEnd (fun _ => false) (fieldFuel bodyStart bodyEnd) bodyStart
      message with
  | .malformed position problem => .ok (.failure (decoder.fieldError position problem))
  | .finished message =>
    if decoder.checksMsgType = true ∧ message.hasField FixFields.msgType = false then
      .ok (.failure (.without .invalidFormat 0 (ascii "Missing MsgType field") .errorRecovery))
    else decoder.readChecksum validate memory bodyEnd message

/-- Decode into an allocated message. BodyLength is read at offset 12, where it
stands when BeginString is exactly `8=FIX.4.4`. -/
def decode (validate : Bool) (memory : Memory) (length : Nat) (message : FixMessage) :
    Except Fault (DecodeExit FixMessage) := do
  let message := (message.setField FixFields.beginString fixVersion44).setField FixFields.msgType
    decoder.msgType
  match ← memory.find soh 12 length with
  | none =>
    .ok (.failure (.without .needMoreData 0 (ascii "Incomplete BodyLength field")
      .parsingBodyLength))
  | some bodyLengthEnd =>
    match ← parseInteger memory 12 (bodyLengthEnd - 12).toNat with
    | none =>
      .ok (.failure (.without .invalidFormat 0 (ascii "Invalid BodyLength") .errorRecovery))
    | some bodyLength =>
      let message := message.setField FixFields.bodyLength
        (FastStringConversion.intToString bodyLength)
      decoder.readBody validate memory (bodyLengthEnd + 1) (bodyLengthEnd + 1 + bodyLength)
        message

/-- The whole specialised decoder. -/
def parse (config : ParserConfig) (clock : Clock) (pool : MessagePool FixMessage)
    (memory : Memory) (length : Nat) : Except Fault (DecodeReturn × MessagePool FixMessage) := do
  match ← decoder.checkStructure memory length with
  | some result => .ok (.returned result, pool)
  | none =>
    withMessage clock pool
      (.without .allocationFailed 0 (ascii "MessagePool allocation failed") .errorRecovery)
      (decoder.decode config.validateChecksum memory length)

/-- `OptimizedParser<EXECUTION_REPORT>::parseExecutionReport`. -/
def executionReport : OptimizedParser := ⟨ascii "8", ascii "EXECUTION_REPORT", 40, true, false⟩

/-- `OptimizedParser<HEARTBEAT>::parseHeartbeat`. -/
def heartbeat : OptimizedParser := ⟨ascii "0", ascii "HEARTBEAT", 30, false, false⟩

/-- `OptimizedParser<ORDER_CANCEL_REJECT>::parseOrderCancelReject`. -/
def orderCancelReject : OptimizedParser :=
  ⟨ascii "9", ascii "ORDER_CANCEL_REJECT", 30, true, false⟩

/-- `OptimizedParser<REJECT>::parseReject`. -/
def reject : OptimizedParser := ⟨ascii "3", ascii "REJECT", 25, false, false⟩

/-- `OptimizedParser<TEST_REQUEST>::parseTestRequest`. -/
def testRequest : OptimizedParser := ⟨ascii "1", ascii "TEST_REQUEST", 25, false, true⟩

/-- `OptimizedParser<RESEND_REQUEST>::parseResendRequest`. -/
def resendRequest : OptimizedParser := ⟨ascii "2", ascii "RESEND_REQUEST", 25, false, true⟩

/-- The specialised decoders, in the order in which `parseIntelligent` compares
their message types. -/
def specialised : List OptimizedParser :=
  [executionReport, heartbeat, orderCancelReject, reject, testRequest, resendRequest]

/-- The specialised decoder for a message type, if there is one. -/
def forMsgType (msgType : Bytes) : Option OptimizedParser :=
  specialised.find? fun decoder => decoder.msgType = msgType

variable {decoder} {msgType : Bytes}

theorem forMsgType_msgType (found : forMsgType msgType = some decoder) :
    decoder.msgType = msgType := by
  have same := List.find?_some found
  simpa using same

theorem forMsgType_minimumLength (found : forMsgType msgType = some decoder) :
    25 ≤ decoder.minimumLength ∧ decoder.minimumLength ≤ 40 := by
  have all : ∀ decoder ∈ specialised, 25 ≤ decoder.minimumLength ∧ decoder.minimumLength ≤ 40 := by
    decide
  exact all decoder (List.mem_of_find?_eq_some found)

end OptimizedParser

/-! ## The generic decoder -/

/-- The result of the generic decoder for a malformed field. -/
def genericFieldError (position : Int) : FieldProblem → ParseResult
  | .missingEquals =>
    .without .invalidFormat position.toNat
      (ascii "Missing '=' in field at position " ++ toText position) .idle
  | .invalidTag =>
    .without .invalidFormat position.toNat
      (ascii "Invalid tag number at position " ++ toText position) .idle
  | .missingSoh tag valueStart =>
    .without .invalidFormat valueStart.toNat (ascii "Missing SOH after field " ++ toText tag)
      .idle

/-- `validateParsedMessage`: the required fields are there. -/
def validateParsedMessage (message : FixMessage) : Bool :=
  message.hasField FixFields.beginString && message.hasField FixFields.bodyLength &&
    message.hasField FixFields.msgType && message.hasField FixFields.checkSum

/-- `validateMessageChecksum` of the `length` bytes from `first` on. -/
def validateMessageChecksum (memory : Memory) (first : Int) (length : Nat) : Except Fault Bool :=
  if length < 7 then .ok false
  else do
    let position := first + length - 7
    if ← memory.startsAt (ascii "10=") position then
      let calculated ← memory.byteSum 0 first (length - 7)
      match ← parseInteger memory (position + 3) 3 with
      | none => .ok false
      | some expected => .ok (calculated = UInt8.ofInt expected)
    else .ok false

/-- The generic decoder, into an allocated message. -/
def decodeMessage (config : ParserConfig) (memory : Memory) (startPos endPos : Nat)
    (message : FixMessage) : Except Fault (DecodeExit FixMessage) := do
  match ← parseFields memory endPos (fun tag => tag = FixFields.checkSum)
      (fieldFuel startPos endPos) startPos message with
  | .malformed position problem => .ok (.failure (genericFieldError position problem))
  | .finished message =>
    if config.strictValidation = true ∧ validateParsedMessage message = false then
      .ok (.failure (.without .invalidFormat 0 (ascii "Message validation failed") .idle))
    else if config.validateChecksum then
      if ← validateMessageChecksum memory startPos (endPos - startPos) then
        .ok (.success message (endPos - startPos) [])
      else .ok (.failure (.without .checksumError 0 (ascii "Checksum validation failed") .idle))
    else .ok (.success message (endPos - startPos) [])

/-- `parseMessage`. -/
def parseMessage (config : ParserConfig) (clock : Clock) (pool : MessagePool FixMessage)
    (memory : Memory) (startPos endPos : Nat) :
    Except Fault (DecodeReturn × MessagePool FixMessage) :=
  withMessage clock pool
    (.without .allocationFailed 0 (ascii "MessagePool allocation failed") .idle)
    (decodeMessage config memory startPos endPos)

/-! ## Choosing a decoder -/

/-- `StreamParserUtils::extractMsgType`: what follows the first `35=`. -/
def extractMsgType (memory : Memory) (length : Nat) : Except Fault Bytes := do
  match ← memory.search (ascii "35=") 0 length with
  | none => .ok []
  | some position =>
    match ← memory.find soh (position + 3) length with
    | none => .ok []
    | some stop => memory.slice (position + 3) (stop - (position + 3)).toNat

/-- `parseIntelligent`. -/
def parseIntelligent (config : ParserConfig) (clock : Clock) (pool : MessagePool FixMessage)
    (memory : Memory) (length : Nat) : Except Fault (DecodeReturn × MessagePool FixMessage) := do
  let msgType ← extractMsgType memory length
  match OptimizedParser.forMsgType msgType with
  | some decoder => decoder.parse config clock pool memory length
  | none => parseMessage config clock pool memory 0 length

/-- `parseCompleteMessage`: a frame that the chosen decoder does not accept is
decoded once more by the generic one. -/
def parseCompleteMessage (config : ParserConfig) (clock : Clock) (pool : MessagePool FixMessage)
    (memory : Memory) (length : Nat) : Except Fault (DecodeReturn × MessagePool FixMessage) :=
  if length = 0 then
    .ok (.returned (.without .invalidFormat 0 (ascii "Empty complete message buffer") .idle), pool)
  else do
    match ← parseIntelligent config clock pool memory length with
    | (.thrown what, pool) => .ok (.thrown what, pool)
    | (.returned result, pool) =>
      if result.status = .success then .ok (.returned result, pool)
      else
        match ← parseMessage config clock pool memory 0 length with
        | (.thrown what, pool) => .ok (.thrown what, pool)
        | (.returned fallback, pool) =>
          if fallback.status = .success then
            .ok (.returned { fallback with bytesConsumed := length, finalState := .idle }, pool)
          else .ok (.returned fallback, pool)

end FixGateway.Protocol
