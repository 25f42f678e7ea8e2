import FixGateway.Protocol.Parser.Wire

/-! # Decoding a well-formed message

The specialised decoders are exact on a well-formed message whose checksum field
follows its frame in memory: they store the fields of the message in order and
accept it exactly if the checksum agrees. The generic decoder sees the frame
only, so it never finds the checksum field and, under strict validation, rejects
every well-formed message.
-/

namespace FixGateway.Protocol

open ByteScan FixGateway.Common FixGateway.Utils
open Memory FixFields OptimizedParser FixMessage WireField

variable {number : Nat}

/-- The exit of a first attempt, with a second one where that fails. -/
def DecodeExit.orRetry (retry : Except Fault (DecodeExit FixMessage)) :
    DecodeExit FixMessage → Except Fault (DecodeExit FixMessage)
  | .failure _ => retry
  | exit => .ok exit

/-! ## Any front with a checksum field -/

theorem stoi_padded (small : number < 256) : stoi (padded 3 number) = some (number : Int) := by
  have nonempty : padded 3 number ≠ [] := by
    intro nil
    have size := length_padded (by decide : 0 < 3) (by omega : number < 10 ^ 3)
    rw [nil] at size
    cases size
  have read := stoi_digits nonempty (fun _ => isDigit_of_mem_padded)
    (by rw [value_padded]; omega)
  rwa [value_padded] at read

theorem sum_agrees_iff (small : number < 256) (bytes : Bytes) :
    bytes.sum = UInt8.ofInt number ↔ checksum bytes = number := by
  rw [sum_eq_ofInt_iff]
  omega

namespace OptimizedParser

variable {decoder : OptimizedParser} {memory : Memory} {length : Nat}

/-- A text of enough bytes that starts with BeginString and ends in an SOH passes the structural
checks. -/
theorem checkStructure_ok (long : decoder.minimumLength ≤ length)
    (opened : memory.Holds 0 fixBeginString) (last : memory.read (length - 1) = .ok soh) :
    decoder.checkStructure memory length = .ok none := by
  unfold checkStructure
  rw [if_neg (by omega), last]
  simp [bind, Except.bind, startsAt_true opened]

/-- After the structural checks a specialised decoder allocates a message. -/
theorem parse_ok {config : ParserConfig} {clock : Clock} {pool : MessagePool FixMessage}
    (checked : decoder.checkStructure memory length = .ok none) :
    decoder.parse config clock pool memory length =
      withMessage clock pool
        (.without .allocationFailed 0 (ascii "MessagePool allocation failed") .errorRecovery)
        (decoder.decode config.validateChecksum memory length) := by
  unfold OptimizedParser.parse
  rw [checked]
  rfl

/-- The checksum field at the end of the body is compared with the bytes before it. -/
theorem readChecksum_padded (decoder : OptimizedParser) {validate : Bool} {message : FixMessage}
    {front : Bytes} {number : Nat} (bound : front.length + 7 < 2 ^ 64) (below : number < 256)
    (held : memory.Holds 0 (front ++ (ascii "10=" ++ padded 3 number))) :
    decoder.readChecksum validate memory front.length message =
      .ok (if validate = true ∧ checksum front ≠ number then
        .failure (.without .checksumError (decoder.reportedPosition front.length)
          (ascii "Checksum validation failed") .errorRecovery)
      else
        .success (message.setField checkSum (padded 3 number)) (front.length + 7)
          (decoder.name ++ ascii " parsed via optimized template")) := by
  have three : (ascii "10=").length = 3 := by decide
  have size := length_padded (by decide : 0 < 3) (by omega : number < 10 ^ 3)
  have field : memory.Holds front.length (ascii "10=" ++ padded 3 number) := by
    have tail := held.right
    rwa [zero_add] at tail
  have digits : memory.slice (front.length + 3) 3 = .ok (padded 3 number) := by
    have value := field.right
    rw [three] at value
    exact slice_ok_iff.mpr ⟨value, size⟩
  have total := byteSum_wrapSize (by omega) held.left
  have consumed : wrapSize ((front.length : Int) + 7) = front.length + 7 := by
    rw [wrapSize_of_bounds (by omega) (by omega)]
    omega
  unfold readChecksum
  simp only [consumed]
  cases validate with
  | false => simp [digits, bind, Except.bind]
  | true =>
    simp only [if_true, startsAt_true field.left, bind, Except.bind, digits, total,
      stoi_padded below, sum_agrees_iff below, true_and]
    by_cases same : checksum front = number
    · simp [same]
    · simp [same]

/-- The MsgType that a specialised decoder writes first makes no difference. -/
theorem lastValue_heads (tag : Int) (msgType text : Bytes) :
    lastValue tag
      [(FixFields.beginString, fixVersion44), (FixFields.msgType, msgType),
        (FixFields.bodyLength, text), (FixFields.msgType, msgType)] =
      lastValue tag
        [(FixFields.beginString, fixVersion44), (FixFields.bodyLength, text),
          (FixFields.msgType, msgType)] := by
  by_cases typed : FixFields.msgType = tag <;> simp [lastValue, List.find?_cons, typed]

end OptimizedParser

theorem fieldsText_ends (field : RawField) (fields : List RawField) :
    ∃ front, fieldsText (field :: fields) = front ++ [soh] := by
  induction fields generalizing field with
  | nil => exact ⟨field.digits ++ equals :: field.value, by simp [RawField.text]⟩
  | cons next fields ih =>
    obtain ⟨front, ends⟩ := ih next
    exact ⟨field.text ++ front, by rw [fieldsText_cons, ends, List.append_assoc]⟩

namespace WireMessage

variable {wire : WireMessage} {memory : Memory} {number : Nat} {decoder : OptimizedParser}
  {config : ParserConfig} {message : FixMessage} {validate : Bool}

/-! ## The message type -/

/-- `35=` does not occur in the BodyLength value or across its end. -/
theorem occurrence?_digits {digits rest : Bytes} (all : ∀ byte ∈ digits, isDigit byte = true) :
    Memory.occurrence? (ascii "35=") (digits ++ soh :: (ascii "35=" ++ rest)) =
      some (digits.length + 1) := by
  induction digits with
  | nil => rfl
  | cons first digits ih =>
    rw [List.forall_mem_cons] at all
    have no : (ascii "35=").isPrefixOf (first :: (digits ++ soh :: (ascii "35=" ++ rest))) =
        false := by
      rw [Bool.eq_false_iff, Ne, List.isPrefixOf_iff_prefix]
      rintro ⟨tail, split⟩
      cases digits with
      | nil => cases split
      | cons second digits =>
        cases digits with
        | nil => cases split
        | cons third digits =>
          have digit := all.2 third (by simp)
          have same : equals = third := by
            have heads := congrArg (fun bytes : Bytes => bytes[2]?) split
            exact Option.some.inj heads
          rw [← same] at digit
          exact absurd digit (by decide)
    simp only [List.cons_append, Memory.occurrence?, no, Bool.false_eq_true, if_false, ih all.2,
      Option.map_some, List.length_cons]

theorem search_msgType (held : memory.Holds 0 wire.frame) :
    memory.search (ascii "35=") 0 wire.frame.length = .ok (some wire.header.length) := by
  have front : (51 : UInt8) ∉ fixBeginString ++ [soh] ++ ascii "9=" := by decide
  have passed : ∀ rest : Bytes,
      Memory.occurrence? (ascii "35=") ((fixBeginString ++ [soh] ++ ascii "9=") ++ rest) =
        (Memory.occurrence? (ascii "35=") rest).map (· + 12) :=
    fun _ => Memory.occurrence?_append front
  have split : wire.frame = (fixBeginString ++ [soh] ++ ascii "9=") ++
      (wire.bodyLengthText ++ soh :: (ascii "35=" ++
        (wire.msgType ++ [soh] ++ wire.fields.flatMap WireField.text))) := by
    simp [frame, header, body]
  have found : Memory.occurrence? (ascii "35=") wire.frame = some wire.header.length := by
    rw [split, passed, occurrence?_digits wire.isDigit_of_mem_bodyLengthText, length_header]
    rfl
  rw [search_eq held (by rw [zero_add]), found]
  simp

theorem extractMsgType_frame (held : memory.Holds 0 wire.frame) :
    extractMsgType memory wire.frame.length = .ok wire.msgType := by
  have three : (ascii "35=").length = 3 := by decide
  have size := wire.length_frame
  have front := wire.length_header
  have split : wire.body = ascii "35=" ++ (wire.msgType ++ soh ::
      wire.fields.flatMap WireField.text) := by
    simp [body]
  have bodySize := congrArg List.length split
  simp only [List.length_append, List.length_cons, three] at bodySize
  have content : memory.Holds (wire.header.length + 3) (wire.msgType ++ soh ::
      wire.fields.flatMap WireField.text) := by
    have tail := held.right
    rw [split] at tail
    have value := tail.right
    rwa [three, zero_add] at value
  have scanned : memory.find soh (wire.header.length + 3) wire.frame.length =
      .ok (some (wire.header.length + 3 + wire.msgType.length)) :=
    find_hit content wire.noSoh (by omega)
  have copied : memory.slice (wire.header.length + 3)
      ((wire.header.length : Int) + 3 + wire.msgType.length - (wire.header.length + 3)).toNat =
      .ok wire.msgType :=
    slice_ok_iff.mpr ⟨content.left, by omega⟩
  unfold extractMsgType
  rw [search_msgType held]
  simp only [bind, Except.bind, scanned, copied]

/-! ## The specialised decoders -/

theorem read_last (held : memory.Holds 0 wire.frame) :
    memory.read (wire.frame.length - 1) = .ok soh := by
  obtain ⟨front, ends⟩ := fieldsText_ends wire.typeField.raw (wire.fields.map raw)
  have split : wire.frame = (wire.header ++ front) ++ [soh] := by
    rw [frame, body_eq_fieldsText, List.map_cons, ends, List.append_assoc]
  have size := congrArg List.length split
  rw [List.length_append, List.length_singleton] at size
  rw [split] at held
  have last := held.right.1
  have position : (0 : Int) + (wire.header ++ front).length = wire.frame.length - 1 := by omega
  rw [position] at last
  exact read_eq last

/-- Every specialised decoder accepts the structure of a frame of forty bytes. -/
theorem checkStructure_frame (short : decoder.minimumLength ≤ 40) (held : memory.Holds 0 wire.frame)
    (long : 40 ≤ wire.frame.length) : decoder.checkStructure memory wire.frame.length = .ok none :=
  OptimizedParser.checkStructure_ok (by omega) held.left.left (read_last held)

/-- On such a frame a specialised decoder goes on to allocate a message. -/
theorem parse_frame {clock : Clock}
    {pool : MessagePool FixMessage} (short : decoder.minimumLength ≤ 40)
    (held : memory.Holds 0 wire.frame) (long : 40 ≤ wire.frame.length) :
    decoder.parse config clock pool memory wire.frame.length =
      withMessage clock pool
        (.without .allocationFailed 0 (ascii "MessagePool allocation failed") .errorRecovery)
        (decoder.decode config.validateChecksum memory wire.frame.length) :=
  OptimizedParser.parse_ok (checkStructure_frame short held long)

theorem length_frame_lt (small : wire.body.length < 2 ^ 31) : wire.frame.length < 2 ^ 31 + 23 := by
  have text : wire.bodyLengthText.length ≤ 10 := length_decimal_le (by decide) (by omega)
  have size := wire.length_frame
  omega

/-- What a specialised decoder writes before it comes to the checksum field. -/
def frameWrites (wire : WireMessage) : List (Int × Bytes) :=
  [(FixFields.beginString, fixVersion44), (FixFields.msgType, wire.msgType),
    (FixFields.bodyLength, wire.bodyLengthText)] ++
    (FixFields.msgType, wire.msgType) :: wire.fields.map (fun field => (field.tag, field.value))

/-- What a specialised decoder writes for a well-formed message. -/
def writes (wire : WireMessage) (number : Nat) : List (Int × Bytes) :=
  wire.frameWrites ++ [(FixFields.checkSum, padded 3 number)]

/-- The decoder's writes leave every field with its last value in the message. -/
theorem lastValue_writes (tag : Int) :
    lastValue tag (wire.writes number) = lastValue tag (wire.assignments number) := by
  have left : wire.writes number =
      [(FixFields.beginString, fixVersion44), (FixFields.msgType, wire.msgType),
        (FixFields.bodyLength, wire.bodyLengthText), (FixFields.msgType, wire.msgType)] ++
      (wire.fields.map (fun field => (field.tag, field.value)) ++
        [(checkSum, padded 3 number)]) := by
    simp [writes, frameWrites]
  have right : wire.assignments number =
      [(FixFields.beginString, fixVersion44), (FixFields.bodyLength, wire.bodyLengthText),
        (FixFields.msgType, wire.msgType)] ++
      (wire.fields.map (fun field => (field.tag, field.value)) ++
        [(checkSum, padded 3 number)]) := by
    simp [assignments]
  simp only [left, right, lastValue_append, OptimizedParser.lastValue_heads]

/-- The checksum field after the frame decides about the message. -/
theorem readChecksum_checked (decoder : OptimizedParser) (small : wire.body.length < 2 ^ 31)
    (below : number < 256) (held : memory.Holds 0 (wire.checked number)) :
    decoder.readChecksum validate memory wire.frame.length message =
      .ok (if validate = true ∧ checksum wire.frame ≠ number then
        .failure (.without .checksumError (decoder.reportedPosition wire.frame.length)
          (ascii "Checksum validation failed") .errorRecovery)
      else
        .success (message.setField checkSum (padded 3 number)) (wire.frame.length + 7)
          (decoder.name ++ ascii " parsed via optimized template")) := by
  have bound := wire.length_frame_lt small
  exact decoder.readChecksum_padded (by omega) below held

theorem map_assignment_raw :
    ((wire.typeField :: wire.fields).map raw).map RawField.assignment =
      (FixFields.msgType, wire.msgType) ::
        wire.fields.map (fun field => (field.tag, field.value)) := by
  have same : ∀ field : WireField, field.raw.assignment = (field.tag, field.value) := by
    intro field
    rw [RawField.assignment, raw_tag]
    rfl
  rw [List.map_map, List.map_cons]
  refine congrArg₂ List.cons (same wire.typeField) (List.map_congr_left fun field _ => same field)

/-- A specialised decoder stores the fields of a frame and goes on to the
checksum field after it. -/
theorem decode_frame (typed : decoder.msgType = wire.msgType) (small : wire.body.length < 2 ^ 31)
    (held : memory.Holds 0 wire.frame) :
    decoder.decode validate memory wire.frame.length message =
      decoder.readChecksum validate memory wire.frame.length
        (message.setFields wire.frameWrites) := by
  have size := wire.length_frame
  have positive := wire.body_ne_nil
  have number : foldDigits wire.bodyLengthText = wire.body.length := bodyLengthText_value small
  have text : FastStringConversion.intToString wire.body.length = wire.bodyLengthText := by
    rw [FastStringConversion.intToString_eq (by omega) (by omega)]
    rfl
  have last : (12 : Int) + wire.bodyLengthText.length + 1 + wire.body.length =
      wire.frame.length := by omega
  have body : memory.Holds (12 + wire.bodyLengthText.length + 1)
      (fieldsText ((wire.typeField :: wire.fields).map raw)) := by
    have tail := held.right
    have start : (12 : Int) + wire.bodyLengthText.length + 1 = 0 + wire.header.length := by
      rw [length_header]
      omega
    rwa [start, ← body_eq_fieldsText]
  have length : (fieldsText ((wire.typeField :: wire.fields).map raw)).length =
      (foldDigits wire.bodyLengthText).toNat := by
    rw [← body_eq_fieldsText, number, Int.toNat_natCast]
  have filled : wire.bodyLengthText ≠ [] := decimal_ne_nil _
  rw [decode_fields _ filled wire.isDigit_of_mem_bodyLengthText
    held.left.right.2.right (by omega) body length, number, last, map_assignment_raw,
    headWrites, number, text, typed]
  rfl

/-- A specialised decoder accepts a well-formed message exactly if its checksum
agrees. -/
theorem decode_checked (typed : decoder.msgType = wire.msgType) (small : wire.body.length < 2 ^ 31)
    (below : number < 256) (held : memory.Holds 0 (wire.checked number)) :
    decoder.decode validate memory wire.frame.length message =
      .ok (if validate = true ∧ checksum wire.frame ≠ number then
        .failure (.without .checksumError (decoder.reportedPosition wire.frame.length)
          (ascii "Checksum validation failed") .errorRecovery)
      else
        .success (message.setFields (wire.writes number)) (wire.frame.length + 7)
          (decoder.name ++ ascii " parsed via optimized template")) := by
  rw [decode_frame typed small held.left, readChecksum_checked decoder small below held, writes,
    setFields_append]
  rfl

/-! ## The generic decoder -/

/-- The BeginString field of a frame. -/
def beginField : RawField :=
  ⟨ascii "8", fixVersion44, by decide, by decide +kernel, by decide⟩

/-- The BodyLength field of a frame. -/
def lengthField (wire : WireMessage) : RawField :=
  ⟨ascii "9", wire.bodyLengthText, by decide, by decide +kernel, wire.notMem_bodyLengthText⟩

theorem frame_eq_fieldsText :
    wire.frame = fieldsText (beginField :: wire.lengthField ::
      (wire.typeField :: wire.fields).map raw) := by
  rw [fieldsText_cons, fieldsText_cons, ← body_eq_fieldsText]
  have opening : fixBeginString ++ [soh] = beginField.text := by decide
  rw [frame, header, ← opening]
  simp [RawField.text, lengthField]
  rfl

theorem frame_tag_ne_checkSum (field : RawField)
    (member : field ∈ beginField :: wire.lengthField :: (wire.typeField :: wire.fields).map raw) :
    field.tag ≠ checkSum := by
  rw [List.mem_cons, List.mem_cons, List.mem_map] at member
  obtain rfl | rfl | ⟨field, member, rfl⟩ := member
  · decide
  · exact (by decide : foldDigits (ascii "9") ≠ checkSum)
  · rw [raw_tag]
    obtain rfl | member := List.mem_cons.mp member
    · exact (by decide : (35 : Int) ≠ checkSum)
    · exact (wire.plain field member).2.2.1

/-- What the generic decoder writes for a frame. -/
def genericWrites (wire : WireMessage) : List (Int × Bytes) :=
  (beginField :: wire.lengthField ::
    (wire.typeField :: wire.fields).map WireField.raw).map RawField.assignment

theorem genericWrites_ne_checkSum : ∀ assignment ∈ wire.genericWrites, assignment.1 ≠ checkSum := by
  intro assignment member
  obtain ⟨field, inside, rfl⟩ := List.mem_map.mp member
  exact frame_tag_ne_checkSum field inside

theorem parseFields_frame (held : memory.Holds 0 wire.frame) :
    parseFields memory wire.frame.length (fun tag => tag = checkSum)
      (fieldFuel (0 : Nat) wire.frame.length) (0 : Nat) message =
      .ok (.finished (message.setFields wire.genericWrites)) := by
  refine parseFields_finished _ (frame_eq_fieldsText ▸ held) ?_ ?_ (le_refl _)
  · rw [← frame_eq_fieldsText]
    simp
  · intro field member
    simpa using frame_tag_ne_checkSum field (List.mem_of_mem_dropLast member)

/-- The frame has no checksum field, so strict validation rejects it. -/
theorem decodeMessage_frame {time : UtcTime}
    (strict : config.strictValidation = true) (held : memory.Holds 0 wire.frame) :
    decodeMessage config memory 0 wire.frame.length (FixMessage.new time) =
      .ok (.failure (.without .invalidFormat 0 (ascii "Message validation failed") .idle)) := by
  have missing : ((FixMessage.new time).setFields wire.genericWrites).hasField
      checkSum = false := by
    rw [hasField, getField_setFields, lastValue_eq_none genericWrites_ne_checkSum, getField_new]
    rfl
  have invalid : validateParsedMessage ((FixMessage.new time).setFields wire.genericWrites) =
      false := by
    rw [validateParsedMessage, missing, Bool.and_false]
  unfold decodeMessage
  rw [parseFields_frame held]
  simp only [bind, Except.bind, strict, true_and]
  rw [if_pos invalid]

/-- Without strict validation the last bytes of the frame are taken for the checksum field. -/
theorem decodeMessage_lenient {agrees : Bool} (lenient : config.strictValidation = false)
    (validates : config.validateChecksum = true) (held : memory.Holds 0 wire.frame)
    (checked : validateMessageChecksum memory 0 wire.frame.length = .ok agrees) :
    decodeMessage config memory 0 wire.frame.length message =
      .ok (if agrees then
        .success (message.setFields wire.genericWrites) wire.frame.length []
      else .failure (.without .checksumError 0 (ascii "Checksum validation failed") .idle)) := by
  unfold decodeMessage
  rw [parseFields_frame held]
  simp only [bind, Except.bind, lenient, validates, Nat.sub_zero, Int.natCast_zero, checked]
  cases agrees <;> rfl

/-! ## Both stages -/

section Complete

variable {config : ParserConfig} {clock : Clock} {pool : MessagePool FixMessage}
  {decoder : OptimizedParser} {slot : Nat} {rest : List Nat} {first second : UtcTime}
  {received : Bytes}

/-- A specialised decoder comes to the checksum field of the message. -/
structure DecodedBy (wire : WireMessage) (decoder : OptimizedParser) : Prop where
  found : OptimizedParser.forMsgType wire.msgType = some decoder
  small : wire.body.length < 2 ^ 31
  long : 40 ≤ wire.frame.length

theorem DecodedBy.typed (handled : wire.DecodedBy decoder) : decoder.msgType = wire.msgType :=
  forMsgType_msgType handled.found

theorem DecodedBy.short (handled : wire.DecodedBy decoder) : decoder.minimumLength ≤ 40 :=
  (forMsgType_minimumLength handled.found).2

/-- The message a specialised decoder stores, constructed at the given time. -/
def decoded (wire : WireMessage) (number : Nat) (time : UtcTime) : FixMessage :=
  (FixMessage.new time).setFields (wire.writes number)

/-- A decoded message has the last value of every tag of the wire message, and
otherwise only the constructor's time stamp. -/
theorem getField_decoded (tag : Int) (time : UtcTime) :
    (wire.decoded number time).getField tag =
      (lastValue tag (wire.assignments number)).or
        (if tag = FixFields.sendingTime then some time.format else none) := by
  rw [decoded, getField_setFields, lastValue_writes, getField_new]

/-- The result for a message that a specialised decoder accepts. -/
def acceptance (wire : WireMessage) (decoder : OptimizedParser) (slot : Nat) : ParseResult :=
  ⟨.success, wire.frame.length + 7, some slot,
    decoder.name ++ ascii " parsed via optimized template", .idle, 0⟩

/-- A well-formed message with a specialised decoder takes one slot and is
decoded exactly. -/
theorem parseCompleteMessage_accepted (handled : wire.DecodedBy decoder) (below : number < 256)
    (agrees : config.validateChecksum = true → checksum wire.frame = number)
    (held : memory.Holds 0 (wire.checked number)) (running : pool.isShutdown = false)
    (chain : pool.freeList = slot :: rest) :
    parseCompleteMessage config clock pool memory wire.frame.length =
      .ok (.returned (wire.acceptance decoder slot),
        pool.take (wire.decoded number (clock.utc pool.totalAllocations)) slot rest chain) := by
  have long := handled.long
  have valid : ¬ (config.validateChecksum = true ∧ checksum wire.frame ≠ number) :=
    fun wrong => wrong.2 (agrees wrong.1)
  have decoded : decoder.decode config.validateChecksum memory wire.frame.length
      (FixMessage.new (clock.utc pool.totalAllocations)) = _ :=
    decode_checked handled.typed handled.small below held
  rw [if_neg valid] at decoded
  unfold parseCompleteMessage parseIntelligent
  rw [if_neg (by omega), extractMsgType_frame held.left]
  simp only [bind, Except.bind, handled.found, parse_frame handled.short held.left long,
    withMessage_success running chain decoded]
  rfl

/-- What the decoding stage comes to for a frame of a type with a specialised
decoder: the checksum field after the frame decides, and without it the generic
decoder decides about the frame alone. -/
theorem decodeFrame_fallback {first second : FixMessage} (handled : wire.DecodedBy decoder)
    (held : memory.Holds 0 wire.frame) :
    decodeFrame config memory wire.frame.length first second =
      (decoder.readChecksum config.validateChecksum memory wire.frame.length
        (first.setFields wire.frameWrites) >>=
          DecodeExit.orRetry (decodeMessage config memory 0 wire.frame.length second)) := by
  unfold decodeFrame
  rw [extractMsgType_frame held]
  simp only [bind, Except.bind, handled.found, checkStructure_frame handled.short held handled.long,
    decode_frame handled.typed handled.small held]
  rfl

/-- Strict validation rejects a frame whose checksum field the specialised decoder rejects. -/
theorem decodeFrame_specialised (handled : wire.DecodedBy decoder)
    (strict : config.strictValidation = true) (held : memory.Holds 0 wire.frame) :
    decodeFrame config memory wire.frame.length (FixMessage.new first) (FixMessage.new second) =
      (decoder.readChecksum config.validateChecksum memory wire.frame.length
        ((FixMessage.new first).setFields wire.frameWrites) >>= DecodeExit.orRetry
          (.ok (.failure (.without .invalidFormat 0 (ascii "Message validation failed")
            .idle)))) := by
  rw [decodeFrame_fallback handled held, decodeMessage_frame strict held]

/-- A frame of any other type is rejected: the generic decoder misses the checksum
field, which is not part of the frame. -/
theorem decodeFrame_generic (missing : forMsgType wire.msgType = none)
    (strict : config.strictValidation = true) (held : memory.Holds 0 wire.frame) :
    decodeFrame config memory wire.frame.length (FixMessage.new first) (FixMessage.new second) =
      .ok (.failure (.without .invalidFormat 0 (ascii "Message validation failed") .idle)) := by
  unfold decodeFrame
  rw [extractMsgType_frame held]
  simp only [bind, Except.bind, missing, decodeMessage_frame strict held]

section

variable (handled : wire.DecodedBy decoder)
include handled

theorem decodeFrame_mismatch (strict : config.strictValidation = true)
    (validates : config.validateChecksum = true) (below : number < 256)
    (wrong : checksum wire.frame ≠ number) (held : memory.Holds 0 (wire.checked number)) :
    decodeFrame config memory wire.frame.length (FixMessage.new first) (FixMessage.new second) =
      .ok (.failure (.without .invalidFormat 0 (ascii "Message validation failed") .idle)) := by
  rw [decodeFrame_specialised handled strict held.left,
    readChecksum_checked decoder handled.small below held, if_pos ⟨validates, wrong⟩]
  rfl

/-- Without strict validation the generic decoder decides about a message with a wrong
checksum by the last bytes of its frame. -/
theorem decodeFrame_lenient {first second : FixMessage} {agrees : Bool}
    (lenient : config.strictValidation = false) (validates : config.validateChecksum = true)
    (below : number < 256) (wrong : checksum wire.frame ≠ number)
    (held : memory.Holds 0 (wire.checked number))
    (checked : validateMessageChecksum memory 0 wire.frame.length = .ok agrees) :
    decodeFrame config memory wire.frame.length first second =
      .ok (if agrees then
        .success (second.setFields wire.genericWrites) wire.frame.length []
      else .failure (.without .checksumError 0 (ascii "Checksum validation failed") .idle)) := by
  rw [decodeFrame_fallback handled held.left,
    decodeMessage_lenient lenient validates held.left checked,
    readChecksum_checked decoder handled.small below held, if_pos ⟨validates, wrong⟩]
  rfl

/-- Without a free slot a frame of a type with a specialised decoder is not decoded. -/
theorem parseCompleteMessage_exhausted
    (held : memory.Holds 0 wire.frame) (exhausted : ¬ pool.available 1) :
    ∃ after, parseCompleteMessage config clock pool memory wire.frame.length =
      .ok (.returned (.without .allocationFailed 0 (ascii "MessagePool allocation failed") .idle),
        after) := by
  have long := handled.long
  have still : ¬ pool.countFailure.available 1 := exhausted
  refine ⟨pool.countFailure.countFailure, ?_⟩
  unfold parseCompleteMessage parseIntelligent
  rw [if_neg (by omega), extractMsgType_frame held]
  simp only [bind, Except.bind, handled.found, parse_frame handled.short held long,
    withMessage_refused exhausted, parseMessage_refused still]
  rfl

/-- A frame of a type with a specialised decoder whose checksum field may be
missing: the decoder takes the field to be there, whatever the bytes after the
frame are. -/
theorem decodeFrame_unsealed
    (strict : config.strictValidation = true) (held : memory.Holds 0 wire.frame) :
    Ensures (decodeFrame config memory wire.frame.length (FixMessage.new first)
        (FixMessage.new second))
      (fun exit => match exit with
        | .success _ bytesConsumed _ => bytesConsumed = wire.frame.length + 7
        | .failure result =>
          result = .without .invalidFormat 0 (ascii "Message validation failed") .idle
        | .thrown _ _ => True) := by
  have bound := wire.length_frame_lt handled.small
  have consumed : wrapSize ((wire.frame.length : Int) + 7) = wire.frame.length + 7 := by
    rw [wrapSize_of_bounds (by omega) (by omega)]
    omega
  rw [decodeFrame_specialised handled strict held]
  refine .bind fun exit read => ?_
  cases exit with
  | success message bytesConsumed detail =>
    exact .ok ((readChecksum_consumes _ read _ _ _ rfl).trans consumed)
  | failure result => exact .ok rfl
  | thrown message what => exact .ok trivial

end

/-- A specialised decoder whose checksum field is cut short reads beyond it. -/
theorem readChecksum_overreads {bodyEnd : Int} {message : FixMessage}
    (part : received <+: ascii "10=" ++ padded 3 number) (short : received.length < 6)
    (held : memory.Holds bodyEnd received) (missing : memory (bodyEnd + received.length) = none) :
    ∃ position, decoder.readChecksum true memory bodyEnd message =
      .error (.outOfBounds position) := by
  have three : (ascii "10=").length = 3 := by decide
  unfold readChecksum
  by_cases cut : received.length < 3
  · obtain ⟨rest, split⟩ : received <+: ascii "10=" :=
      List.prefix_of_prefix_length_le part (List.prefix_append _ _) (by omega)
    cases rest with
    | nil =>
      rw [List.append_nil] at split
      rw [split, three] at cut
      omega
    | cons expected rest =>
      refine ⟨bodyEnd + received.length, ?_⟩
      rw [← split, startsAt_overreads held missing]
      rfl
  · obtain ⟨digits, rfl⟩ : ascii "10=" <+: received :=
      List.prefix_of_prefix_length_le (List.prefix_append _ _) part (by omega)
    have value := held.right
    rw [List.length_append, three] at short
    rw [List.length_append, Nat.cast_add, ← add_assoc] at missing
    rw [three] at value missing
    have faulted : memory.slice (bodyEnd + 3) 3 =
        .error (.outOfBounds (bodyEnd + 3 + digits.length)) :=
      slice_overreads value missing (by omega)
    refine ⟨bodyEnd + 3 + digits.length, ?_⟩
    rw [startsAt_true held.left]
    simp only [if_true, bind, Except.bind, faulted]

theorem parseCompleteMessage_overreads (handled : wire.DecodedBy decoder)
    (strict : config.strictValidation = true) (validates : config.validateChecksum = true)
    (free : pool.available 1) (part : received <+: ascii "10=" ++ padded 3 number)
    (short : received.length < 6) (held : memory.Holds 0 (wire.frame ++ received))
    (missing : memory (wire.frame.length + received.length) = none) :
    ∃ position, parseCompleteMessage config clock pool memory wire.frame.length =
      .error (.outOfBounds position) := by
  have long := handled.long
  obtain ⟨slot, rest, chain, _⟩ := MessagePool.exists_chain free
  have behind := held.right
  rw [zero_add] at behind
  obtain ⟨position, faulted⟩ : ∃ position, decoder.readChecksum config.validateChecksum memory
      wire.frame.length ((FixMessage.new (clock.utc pool.totalAllocations)).setFields
        wire.frameWrites) = .error (.outOfBounds position) := by
    rw [validates]
    exact readChecksum_overreads part short behind missing
  refine ⟨position, parseCompleteMessage_faults (by omega) free.1 chain ?_⟩
  rw [decodeFrame_specialised handled strict held.left, faulted]
  rfl

theorem parseCompleteMessage_unsealed (handled : wire.DecodedBy decoder)
    (strict : config.strictValidation = true) (held : memory.Holds 0 wire.frame)
    (free : pool.available 1) :
    Ensures (parseCompleteMessage config clock pool memory wire.frame.length)
      (fun called => ∀ result, called.1 = .returned result →
        result.status = .success ∧ result.bytesConsumed = wire.frame.length + 7 ∨
          result = .without .invalidFormat 0 (ascii "Message validation failed") .idle) := by
  rintro ⟨exit, after⟩ ok result rfl
  have long := handled.long
  obtain ⟨slot, rest, chain, _⟩ := MessagePool.exists_chain free
  obtain ⟨exit, decoded, settles⟩ := parseCompleteMessage_settles (by omega) free.1 chain ok
  have post := decodeFrame_unsealed handled strict held _ decoded
  cases settles with
  | success taken => exact Or.inl ⟨rfl, post⟩
  | failure kept => exact Or.inr post

end Complete

end WireMessage

end FixGateway.Protocol
