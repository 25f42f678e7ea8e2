import FixGateway.Protocol.ChecksumSeal
import FixGateway.Protocol.Parser.Grammar

/-! # The specialised decoders and the generic one

Applied to all bytes of a well-formed message, a specialised decoder reads the
body that BodyLength announces and the generic decoder reads fields until it has
read the checksum field. Both end after the same bytes with the same fields, as
long as BodyLength fits into an `int`.
-/

namespace FixGateway.Protocol

open ByteScan FixGateway.Common FixGateway.Utils WireField FixFields OptimizedParser FixMessage

/-- A well-formed message of a type that has a decoder of its own. Its fields may repeat
MsgType. -/
structure TypedMessage where
  decoder : OptimizedParser
  listed : decoder ∈ OptimizedParser.specialised
  fields : List WireField
  plain : ∀ field ∈ fields, field.tag ≠ 8 ∧ field.tag ≠ 9 ∧ field.tag ≠ 10

namespace TypedMessage

variable (wire : TypedMessage)

theorem msgType_noSoh : soh ∉ wire.decoder.msgType := by
  have all : ∀ decoder ∈ OptimizedParser.specialised, soh ∉ decoder.msgType := by decide
  exact all wire.decoder wire.listed

theorem minimumLength_le : wire.decoder.minimumLength ≤ 40 := by
  have all : ∀ decoder ∈ OptimizedParser.specialised, decoder.minimumLength ≤ 40 := by decide
  exact all wire.decoder wire.listed

theorem typeTag_positive : (1 : Int) ≤ 35 := by decide

theorem typeTag_bounded : (35 : Int) < 2 ^ 31 := by decide

/-- The MsgType field. -/
def typeField : WireField :=
  ⟨35, wire.decoder.msgType, typeTag_positive, typeTag_bounded, wire.msgType_noSoh⟩

/-- The body, from MsgType to the SOH before the checksum field. -/
def body : Bytes := (wire.typeField :: wire.fields).flatMap WireField.text

/-- Everything before the checksum field. -/
def frame : Bytes := headerText (decimal wire.body.length) ++ wire.body

/-- The message with its checksum. -/
def bytes : Bytes := withCheckSum wire.frame (checksum wire.frame)

/-! ## Its fields -/

/-- The fields of the body as the decoders see them. -/
def bodyFields : List RawField := (wire.typeField :: wire.fields).map WireField.raw

theorem nine_ne_nil : ascii "9" ≠ [] := by decide

theorem isDigit_of_mem_nine : ∀ byte ∈ ascii "9", isDigit byte = true := by decide +kernel

theorem ten_ne_nil : ascii "10" ≠ [] := by decide

theorem isDigit_of_mem_ten : ∀ byte ∈ ascii "10", isDigit byte = true := by decide +kernel

/-- The BodyLength field. -/
def lengthField : RawField where
  digits := ascii "9"
  value := decimal wire.body.length
  nonempty := nine_ne_nil
  all := isDigit_of_mem_nine
  noSoh := Numeral.noSoh ⟨decimal_ne_nil _, fun _ => isDigit_of_mem_decimal⟩

/-- The checksum field. -/
def sumField : RawField where
  digits := ascii "10"
  value := padded 3 (checksum wire.frame)
  nonempty := ten_ne_nil
  all := isDigit_of_mem_ten
  noSoh := fun member => absurd (isDigit_of_mem_padded member) (by decide)

/-- The fields before the checksum field. -/
def frameFields : List RawField := WireMessage.beginField :: wire.lengthField :: wire.bodyFields

theorem body_eq : wire.body = fieldsText wire.bodyFields := by
  have same : WireField.text = RawField.text ∘ raw := by
    funext field
    exact (raw_text field).symm
  rw [body, bodyFields, fieldsText, List.flatMap_map, same]
  rfl

theorem frame_eq : wire.frame = fieldsText wire.frameFields := by
  have opening : fixBeginString ++ [soh] = WireMessage.beginField.text := by decide
  rw [frameFields, fieldsText_cons, fieldsText_cons, ← body_eq, ← opening, frame, headerText]
  simp [RawField.text, lengthField]
  rfl

theorem sumField_text :
    wire.sumField.text = ascii "10=" ++ (padded 3 (checksum wire.frame) ++ [soh]) := by
  have label : ascii "10=" = ascii "10" ++ [equals] := by decide
  rw [label, List.append_assoc, List.singleton_append]
  rfl

theorem bytes_eq : wire.bytes = fieldsText (wire.frameFields ++ [wire.sumField]) := by
  have split : fieldsText (wire.frameFields ++ [wire.sumField]) =
      fieldsText wire.frameFields ++ fieldsText [wire.sumField] := List.flatMap_append
  rw [split, ← frame_eq, fieldsText_cons, fieldsText_nil, List.append_nil, sumField_text, bytes,
    withCheckSum]

theorem length_frame :
    wire.frame.length = (decimal wire.body.length).length + 13 + wire.body.length := by
  rw [frame, List.length_append, length_headerText]

theorem length_bytes : wire.bytes.length = wire.frame.length + 7 :=
  length_withTrailer (length_padded (by decide) (lt_trans (checksum_lt _) (by decide)))

theorem frameFields_tag {field : RawField} (member : field ∈ wire.frameFields) :
    field.tag ≠ checkSum := by
  rw [frameFields, bodyFields, List.mem_cons, List.mem_cons, List.mem_map] at member
  rcases member with rfl | rfl | ⟨field, member, rfl⟩
  · decide
  · exact (by decide : foldDigits (ascii "9") ≠ checkSum)
  · rw [raw_tag]
    rcases List.mem_cons.mp member with rfl | member
    · exact (by decide : (35 : Int) ≠ checkSum)
    · exact (wire.plain field member).2.2

theorem typeField_assignment :
    wire.typeField.raw.assignment = (FixFields.msgType, wire.decoder.msgType) := by
  rw [RawField.assignment, raw_tag]
  rfl

theorem bodyLength_value (small : wire.body.length < 2 ^ 31) :
    foldDigits (decimal wire.body.length) = wire.body.length := by
  rw [foldDigits_of_lt (by rw [value_decimal]; omega), value_decimal]

/-! ## What the decoders write -/

variable {wire} {memory : Memory} {message : FixMessage} {config : ParserConfig}

/-- What the generic decoder writes. -/
def genericWrites (wire : TypedMessage) : List (Int × Bytes) :=
  (wire.frameFields ++ [wire.sumField]).map RawField.assignment

/-- What the specialised decoder writes. -/
def specialisedWrites (wire : TypedMessage) : List (Int × Bytes) :=
  wire.decoder.headWrites (decimal wire.body.length) ++
    wire.bodyFields.map RawField.assignment ++ [(FixFields.checkSum, wire.sumField.value)]

theorem decode_bytes (small : wire.body.length < 2 ^ 31) (held : memory.Holds 0 wire.bytes) :
    wire.decoder.decode config.validateChecksum memory wire.bytes.length message =
      .ok (.success (message.setFields wire.specialisedWrites) wire.bytes.length
        (wire.decoder.name ++ ascii " parsed via optimized template")) := by
  have sizes := wire.length_frame
  have total := wire.length_bytes
  have text : (decimal wire.body.length).length ≤ 10 := length_decimal_le (by decide) (by omega)
  have number := wire.bodyLength_value small
  have front : memory.Holds 0 (headerText (decimal wire.body.length) ++ wire.body) := held.left
  have offset : memory.Holds 12 (decimal wire.body.length ++ [soh]) := holds_bodyLength front.left
  have body : memory.Holds (12 + (decimal wire.body.length).length + 1)
      (fieldsText wire.bodyFields) := by
    have start : (12 : Int) + (decimal wire.body.length).length + 1 =
        0 + (headerText (decimal wire.body.length)).length := by
      rw [length_headerText]
      omega
    rw [start, ← body_eq]
    exact front.right
  have size : (fieldsText wire.bodyFields).length =
      (foldDigits (decimal wire.body.length)).toNat := by
    rw [number, ← body_eq, Int.toNat_natCast]
  have stop : (12 : Int) + (decimal wire.body.length).length + 1 + wire.body.length =
      wire.frame.length := by omega
  have checked : memory.Holds 0 (wire.frame ++
      (ascii "10=" ++ padded 3 (checksum wire.frame))) := by
    have whole := held
    rw [bytes, withCheckSum, ← List.append_assoc (ascii "10="), ← List.append_assoc] at whole
    exact whole.left
  rw [decode_fields _ (decimal_ne_nil _) (fun _ => isDigit_of_mem_decimal) offset
    (by omega) body size, number, stop,
    wire.decoder.readChecksum_padded (by omega) (checksum_lt _) checked,
    if_neg fun wrong => wrong.2 rfl, total]
  simp only [specialisedWrites, setFields_append]
  rfl

theorem genericWrites_eq : wire.genericWrites =
    [(FixFields.beginString, fixVersion44), (FixFields.bodyLength, decimal wire.body.length),
      (FixFields.msgType, wire.decoder.msgType)] ++
    ((wire.fields.map raw).map RawField.assignment ++ [(checkSum, wire.sumField.value)]) := by
  have begun : WireMessage.beginField.assignment = (FixFields.beginString, fixVersion44) := by
    decide
  have nine : foldDigits (ascii "9") = FixFields.bodyLength := by decide
  have counted : wire.lengthField.assignment =
      (FixFields.bodyLength, decimal wire.body.length) := by
    rw [← nine]
    rfl
  have ten : foldDigits (ascii "10") = checkSum := by decide
  have summed : wire.sumField.assignment = (checkSum, wire.sumField.value) := by
    rw [← ten]
    rfl
  simp only [genericWrites, frameFields, bodyFields, List.map_append, List.map_cons,
    typeField_assignment, summed, begun, counted, List.map_nil]
  simp

/-- The required fields are among those that the generic decoder writes. -/
theorem validateParsedMessage_generic :
    validateParsedMessage (message.setFields wire.genericWrites) = true := by
  have has : ∀ assignment ∈ wire.genericWrites,
      (message.setFields wire.genericWrites).hasField assignment.1 = true := fun _ member =>
    hasField_setFields member
  simp only [genericWrites_eq, List.forall_mem_append, List.forall_mem_cons] at has
  rw [← genericWrites_eq] at has
  obtain ⟨⟨begun, counted, typed, _⟩, _, summed, _⟩ := has
  rw [validateParsedMessage, begun, counted, typed, summed]
  rfl

theorem decodeMessage_bytes (held : memory.Holds 0 wire.bytes) :
    decodeMessage config memory 0 wire.bytes.length message =
      .ok (.success (message.setFields wire.genericWrites) wire.bytes.length []) := by
  have read : parseFields memory wire.bytes.length (fun tag => tag = checkSum)
      (fieldFuel (0 : Nat) wire.bytes.length) (0 : Nat) message =
      .ok (.finished (message.setFields wire.genericWrites)) := by
    refine parseFields_finished _ (bytes_eq wire ▸ held) ?_ ?_ (le_refl _)
    · rw [← bytes_eq]
      simp
    · intro field member
      rw [List.dropLast_concat] at member
      exact decide_eq_false (wire.frameFields_tag member)
  have sum : validateMessageChecksum memory 0 wire.bytes.length = .ok true := by
    rw [bytes, validateMessageChecksum_withCheckSum (checksum_lt _) held, decide_eq_true rfl]
  unfold decodeMessage
  rw [read]
  simp only [bind, Except.bind, validateParsedMessage_generic, Nat.sub_zero, Int.natCast_zero, sum,
    Bool.true_eq_false, and_false, if_false, if_true]
  split
  · rfl
  · rfl

theorem lastValue_writes (small : wire.body.length < 2 ^ 31) (tag : Int) :
    lastValue tag wire.specialisedWrites = lastValue tag wire.genericWrites := by
  have text : FastStringConversion.intToString wire.body.length = decimal wire.body.length := by
    rw [FastStringConversion.intToString_eq (by omega) (by omega)]
    rfl
  have heads : wire.specialisedWrites =
      [(FixFields.beginString, fixVersion44), (FixFields.msgType, wire.decoder.msgType),
        (FixFields.bodyLength, decimal wire.body.length),
        (FixFields.msgType, wire.decoder.msgType)] ++
      ((wire.fields.map raw).map RawField.assignment ++ [(checkSum, wire.sumField.value)]) := by
    rw [specialisedWrites, headWrites, wire.bodyLength_value small, text,
      bodyFields, List.map_cons, List.map_cons, typeField_assignment]
    simp
  simp only [heads, genericWrites_eq, lastValue_append, lastValue_heads]

theorem lastValue_of_field {field : WireField} (member : field ∈ wire.fields) :
    (lastValue field.tag wire.genericWrites).isSome = true := by
  have written : (field.tag, field.value) ∈ wire.genericWrites := by
    rw [genericWrites_eq, List.mem_append, List.mem_append]
    refine Or.inr (Or.inl (List.mem_map.mpr ⟨field.raw, List.mem_map_of_mem member, ?_⟩))
    rw [RawField.assignment, raw_tag]
    rfl
  exact lastValue_isSome written

/-- Messages constructed at different times agree on what both decoders write. -/
theorem getField_writes (small : wire.body.length < 2 ^ 31) {tag : Int} (time later : UtcTime)
    (stamped : tag = FixFields.sendingTime → ∃ field ∈ wire.fields, field.tag = tag) :
    ((FixMessage.new time).setFields wire.specialisedWrites).getField tag =
      ((FixMessage.new later).setFields wire.genericWrites).getField tag := by
  rw [getField_setFields, getField_setFields, lastValue_writes small]
  by_cases stamp : tag = FixFields.sendingTime
  · obtain ⟨field, member, rfl⟩ := stamped stamp
    obtain ⟨value, last⟩ := Option.isSome_iff_exists.mp (lastValue_of_field member)
    rw [last, Option.some_or, Option.some_or]
  · rw [getField_new, getField_new, if_neg stamp, if_neg stamp]

/-! ## Agreement -/

/-- The call accepts the given number of bytes and leaves the given message in its slot. -/
def Fills (call : Except Fault (DecodeReturn × MessagePool FixMessage)) (count : Nat)
    (message : FixMessage) : Prop :=
  ∃ result slot after, call = .ok (.returned result, after) ∧ result.status = .success ∧
    result.bytesConsumed = count ∧ result.parsedMessage = some slot ∧
    after.objects slot = some message

section Agreement

variable {clock : Clock} {pool : MessagePool FixMessage} {refused : ParseResult}
  {decode : FixMessage → Except Fault (DecodeExit FixMessage)} {count : Nat}

theorem fills_of_success {detail : Bytes} (free : pool.available 1)
    (ok : decode (FixMessage.new (clock.utc pool.totalAllocations)) =
      .ok (.success message count detail)) :
    Fills (withMessage clock pool refused decode) count message := by
  obtain ⟨slot, rest, chain, _⟩ := MessagePool.exists_chain free
  refine ⟨_, slot, _, withMessage_success free.1 chain ok, rfl, rfl, rfl, ?_⟩
  rw [MessagePool.take_objects, Function.update_self]

theorem success_of_fills (free : pool.available 1)
    (honest : ∀ message, Ensures (decode message) DecodeExit.Honest)
    (fills : Fills (withMessage clock pool refused decode) count message) :
    ∃ started accepted detail, decode started = .ok (.success accepted count detail) := by
  obtain ⟨slot, rest, chain, _⟩ := MessagePool.exists_chain free
  obtain ⟨result, taken, after, called, success, counted, _⟩ := fills
  obtain ⟨exit, decoded, settles⟩ := (withMessage_realises free.1 chain).settles called
  cases settles with
  | success taken =>
    dsimp only at counted
    subst counted
    exact ⟨_, _, _, decoded⟩
  | failure same => exact absurd success (honest _ _ decoded).1

theorem checkStructure_bytes (long : 40 ≤ wire.bytes.length) (held : memory.Holds 0 wire.bytes) :
    wire.decoder.checkStructure memory wire.bytes.length = .ok none := by
  have short := wire.minimumLength_le
  have opened : memory.Holds 0 fixBeginString := held.left.left.left
  obtain ⟨front, ends⟩ : ∃ front, wire.bytes = front ++ [soh] :=
    ⟨wire.frame ++ (ascii "10=" ++ padded 3 (checksum wire.frame)), by simp [bytes, withCheckSum]⟩
  have size := congrArg List.length ends
  rw [List.length_append, List.length_singleton] at size
  rw [ends] at held
  have last := held.right.1
  have position : (0 : Int) + front.length = wire.bytes.length - 1 := by omega
  rw [position] at last
  exact checkStructure_ok (by omega) opened (Memory.read_eq last)

/-- A BodyLength that does not fit into an `int` is read as another number, and what the
specialised decoder consumes is not the message. -/
theorem not_fills (long : 40 ≤ wire.bytes.length) (large : 2 ^ 31 ≤ wire.body.length)
    (bound : wire.bytes.length < 2 ^ 63) (held : memory.Holds 0 wire.bytes)
    (free : pool.available 1) :
    ¬ Fills (wire.decoder.parse config clock pool memory wire.bytes.length) wire.bytes.length
      message := by
  intro fills
  rw [OptimizedParser.parse_ok (checkStructure_bytes long held)] at fills
  obtain ⟨started, accepted, detail, decoded⟩ :=
    success_of_fills free (fun _ => decode_honest) fills
  obtain ⟨digits, offset, nonempty, all, inside, consumed⟩ := decode_consumes decoded
  have sizes := wire.length_frame
  have total := wire.length_bytes
  have same : digits = decimal wire.body.length := by
    have own : memory.Holds 12 (decimal wire.body.length ++ [soh]) :=
      holds_bodyLength held.left.left
    have missing : soh ∉ decimal wire.body.length :=
      Numeral.noSoh ⟨decimal_ne_nil _, fun _ => isDigit_of_mem_decimal⟩
    have found : memory.find soh 12 wire.bytes.length = .ok (some (12 + digits.length)) :=
      Memory.find_hit offset (Numeral.noSoh ⟨nonempty, all⟩) (by omega)
    rw [Memory.find_hit own missing (by omega)] at found
    have ends := Option.some.inj (Except.ok.inj found)
    exact offset.left.eq_of_length own.left (by omega)
  subst same
  have wrapped : foldDigits (decimal wire.body.length) = wrapInt wire.body.length := by
    rw [foldDigits_eq, value_decimal]
  have limits := wrapInt_bounds wire.body.length
  have counted : (wire.bytes.length : Int) = _ := congrArg Nat.cast consumed
  rw [wrapSize_cast, wrapped] at counted
  omega

end Agreement

/-- With a body below 2^31 bytes the decoder for the type of a message and the generic one both
accept all its bytes, and they agree on every tag, on SendingTime if it is a field of the
message. With a longer body the specialised decoder does not. -/
theorem decoders_agree (wire : TypedMessage) (long : 40 ≤ wire.bytes.length) (outside : Memory)
    (config : ParserConfig) (clock genericClock : Clock) (pool genericPool : MessagePool FixMessage)
    (free : pool.available 1) (genericFree : genericPool.available 1) :
    let memory := Memory.overlay wire.bytes outside
    let specialised := wire.decoder.parse config clock pool memory wire.bytes.length
    let generic := parseMessage config genericClock genericPool memory 0 wire.bytes.length
    (wire.body.length < 2 ^ 31 →
      ∃ first second, Fills specialised wire.bytes.length first ∧
        Fills generic wire.bytes.length second ∧
        ∀ tag, (tag = FixFields.sendingTime → ∃ field ∈ wire.fields, field.tag = tag) →
          first.getField tag = second.getField tag) ∧
    (2 ^ 31 ≤ wire.body.length → wire.bytes.length < 2 ^ 63 →
      ∀ message, ¬ Fills specialised wire.bytes.length message) := by
  intro memory specialised generic
  have held : memory.Holds 0 wire.bytes := Memory.overlay_holds wire.bytes outside
  constructor
  · intro small
    have started : specialised = withMessage clock pool _ _ :=
      OptimizedParser.parse_ok (checkStructure_bytes long held)
    rw [started]
    exact ⟨_, _, fills_of_success free (decode_bytes small held),
      fills_of_success genericFree (decodeMessage_bytes held),
      fun tag stamped => getField_writes small _ _ stamped⟩
  · intro large bound message
    exact not_fills long large bound held free

/-- A test request that repeats MsgType and has a SendingTime. -/
def sampleTestRequest : TypedMessage where
  decoder := OptimizedParser.testRequest
  listed := by simp [OptimizedParser.specialised]
  fields := [⟨112, ascii "ALIVE", by decide, by decide, by decide⟩,
    ⟨52, ascii "now", by decide, by decide, by decide⟩,
    ⟨35, ascii "X", typeTag_positive, typeTag_bounded, by decide⟩]
  plain := by decide

theorem decoders_agree_testRequest :
    let memory := Memory.overlay sampleTestRequest.bytes Memory.unmapped
    let length := sampleTestRequest.bytes.length
    ∃ first second,
      Fills (OptimizedParser.testRequest.parse {} sampleClock samplePool memory length) length
        first ∧
      Fills (parseMessage {} sampleClock samplePool memory 0 length) length second ∧
      first.getField FixFields.sendingTime = second.getField FixFields.sendingTime := by
  obtain ⟨first, second, fills, others, agree⟩ := (decoders_agree sampleTestRequest
    (by decide +kernel) Memory.unmapped {} sampleClock sampleClock samplePool samplePool (by decide)
    (by decide)).1 (by decide +kernel)
  exact ⟨first, second, fills, others, agree _ fun _ => ⟨_, List.mem_cons_of_mem _
    List.mem_cons_self, rfl⟩⟩

/-- A text of the given length. -/
def textField (count : Nat) : WireField where
  tag := 58
  value := List.replicate count 88
  positive := by decide
  bounded := by decide
  noSoh := fun member => absurd (List.eq_of_mem_replicate member) (by decide)

/-- A heartbeat with such a text. -/
def longHeartbeat (count : Nat) : TypedMessage where
  decoder := OptimizedParser.heartbeat
  listed := by simp [OptimizedParser.specialised]
  fields := [textField count]
  plain := by
    intro field member
    rw [List.mem_singleton] at member
    subst member
    exact (by decide : (58 : Int) ≠ 8 ∧ (58 : Int) ≠ 9 ∧ (58 : Int) ≠ 10)

theorem length_longHeartbeat (count : Nat) : (longHeartbeat count).body.length = count + 9 := by
  have typed : (toText 35 ++ [equals] ++ ascii "0" ++ [soh]).length = 5 := by decide
  have tag : (toText 58).length = 2 := by decide
  have split : (longHeartbeat count).body =
      (toText 35 ++ [equals] ++ ascii "0" ++ [soh]) ++ ((textField count).text ++ []) := rfl
  rw [split, List.length_append, typed]
  simp [WireField.text, textField, tag]
  omega

/-- The heartbeat's body has 2^31 + 9 bytes. Its BodyLength is read as a negative number. -/
theorem long_heartbeat_misread :
    40 ≤ (longHeartbeat (2 ^ 31)).bytes.length ∧ samplePool.available 1 ∧
      ∀ message, ¬ Fills
        (OptimizedParser.heartbeat.parse {} sampleClock samplePool
          (Memory.overlay (longHeartbeat (2 ^ 31)).bytes Memory.unmapped)
          (longHeartbeat (2 ^ 31)).bytes.length)
        (longHeartbeat (2 ^ 31)).bytes.length message := by
  have body := length_longHeartbeat (2 ^ 31)
  have sizes := (longHeartbeat (2 ^ 31)).length_frame
  have total := (longHeartbeat (2 ^ 31)).length_bytes
  have text : (decimal (longHeartbeat (2 ^ 31)).body.length).length ≤ 10 :=
    length_decimal_le (by decide) (by rw [body]; decide)
  have long : 40 ≤ (longHeartbeat (2 ^ 31)).bytes.length := by omega
  have free : samplePool.available 1 := by decide
  refine ⟨long, free, fun message => ?_⟩
  exact not_fills long (by omega) (by omega) (Memory.overlay_holds _ _) free

end TypedMessage

end FixGateway.Protocol
