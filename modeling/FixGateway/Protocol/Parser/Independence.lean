import FixGateway.Protocol.Parser.Frames

/-! # What decoding depends on

Decoding a frame depends on the bytes it reads and on nothing else. It does the
same in every memory that has those bytes, and it does the same to every message
it is given, whenever that was constructed: what it writes is a list of fields
(`Uniform`).
-/

namespace FixGateway.Protocol

open ByteScan FixGateway.Common FixGateway.Utils Memory FixMessage

variable (time : UtcTime) (config : ParserConfig) (memory : Memory)

/-! ## Larger memories -/

section Extension

variable {small large : Memory}

namespace OptimizedParser

variable (decoder : OptimizedParser)

theorem checkStructure_refines (larger : Memory.Extends small large) (length : Nat) :
    Refines (decoder.checkStructure small length) (decoder.checkStructure large length) := by
  refine .ite (.refl _) ((read_refines larger).bind fun _ => .ite ?_ ?_)
  · exact .ite ((startsAt_refines larger).bind fun _ => .refl _) (.refl _)
  · exact .ite ((startsAt_refines larger).bind fun _ => .refl _) (.refl _)

theorem readChecksum_refines (larger : Memory.Extends small large) (validate : Bool)
    (bodyEnd : Int) (message : FixMessage) :
    Refines (decoder.readChecksum validate small bodyEnd message)
      (decoder.readChecksum validate large bodyEnd message) := by
  refine .ite ((startsAt_refines larger).bind fun _ => .ite ?_ (.refl _))
    ((slice_refines larger).bind fun _ => .refl _)
  exact (slice_refines larger).bind fun _ =>
    (byteSum_refines larger).bind fun _ => .refl _

theorem decode_refines (larger : Memory.Extends small large) (validate : Bool) (length : Nat)
    (message : FixMessage) :
    Refines (decoder.decode validate small length message)
      (decoder.decode validate large length message) := by
  refine (find_refines larger).bind fun found => ?_
  cases found with
  | none => exact .refl _
  | some bodyLengthEnd =>
    refine (parseInteger_refines larger _ _).bind fun parsed => ?_
    cases parsed with
    | none => exact .refl _
    | some bodyLength =>
      refine (parseFields_refines larger _ _ _ _ _).bind fun fields => ?_
      cases fields with
      | malformed position problem => exact .refl _
      | finished message => exact .ite (.refl _) (decoder.readChecksum_refines larger _ _ _)

end OptimizedParser

theorem validateMessageChecksum_refines (larger : Memory.Extends small large) (first : Int)
    (length : Nat) :
    Refines (validateMessageChecksum small first length)
      (validateMessageChecksum large first length) := by
  refine .ite (.refl _) ((startsAt_refines larger).bind fun _ => .ite ?_ (.refl _))
  refine (byteSum_refines larger).bind fun _ => ?_
  exact (parseInteger_refines larger _ _).bind fun _ => .refl _

theorem decodeMessage_refines (larger : Memory.Extends small large) (config : ParserConfig)
    (startPos endPos : Nat) (message : FixMessage) :
    Refines (decodeMessage config small startPos endPos message)
      (decodeMessage config large startPos endPos message) := by
  refine (parseFields_refines larger _ _ _ _ _).bind fun fields => ?_
  cases fields with
  | malformed position problem => exact .refl _
  | finished message =>
    refine .ite (.refl _) (.ite ?_ (.refl _))
    exact (validateMessageChecksum_refines larger _ _).bind fun _ => .refl _

theorem extractMsgType_refines (larger : Memory.Extends small large) (length : Nat) :
    Refines (extractMsgType small length) (extractMsgType large length) := by
  refine (search_refines larger).bind fun found => ?_
  cases found with
  | none => exact .refl _
  | some position =>
    refine (find_refines larger).bind fun ended => ?_
    cases ended with
    | none => exact .refl _
    | some stop => exact slice_refines larger

section Pool

variable (config : ParserConfig) (clock : Clock) (pool : MessagePool FixMessage)

theorem withMessage_refines {refused : ParseResult}
    {decode other : FixMessage → Except Fault (DecodeExit FixMessage)}
    (decodes : ∀ message, Refines (decode message) (other message)) :
    Refines (withMessage clock pool refused decode) (withMessage clock pool refused other) := by
  unfold withMessage
  dsimp only
  split
  · exact .refl _
  · exact (decodes _).bind fun _ => .refl _

theorem parseMessage_refines (larger : Memory.Extends small large) (startPos endPos : Nat) :
    Refines (parseMessage config clock pool small startPos endPos)
      (parseMessage config clock pool large startPos endPos) :=
  withMessage_refines clock pool fun message => decodeMessage_refines larger config _ _ message

theorem parseIntelligent_refines (larger : Memory.Extends small large) (length : Nat) :
    Refines (parseIntelligent config clock pool small length)
      (parseIntelligent config clock pool large length) := by
  refine (extractMsgType_refines larger length).bind fun msgType => ?_
  cases OptimizedParser.forMsgType msgType with
  | none => exact parseMessage_refines config clock pool larger 0 length
  | some decoder =>
    refine (decoder.checkStructure_refines larger length).bind fun problem => ?_
    cases problem with
    | some result => exact .refl _
    | none =>
      exact withMessage_refines clock pool fun message =>
        decoder.decode_refines larger _ length message

theorem parseCompleteMessage_refines (larger : Memory.Extends small large) (length : Nat) :
    Refines (parseCompleteMessage config clock pool small length)
      (parseCompleteMessage config clock pool large length) := by
  refine .ite (.refl _)
    ((parseIntelligent_refines config clock pool larger length).bind fun answer => ?_)
  obtain ⟨answer, pool⟩ := answer
  cases answer with
  | thrown what => exact .refl _
  | returned result =>
    refine .ite (.refl _) ((parseMessage_refines config clock pool larger 0 length).bind ?_)
    exact fun _ => .refl _

end Pool

end Extension

/-! ## Different messages -/

/-- Decoding writes the same fields into every message that it may be given. -/
def Uniform (given : FixMessage → Prop)
    (decode : FixMessage → Except Fault (DecodeExit FixMessage)) : Prop :=
  ∃ outcome : Except Fault (DecodeExit (List (Int × Bytes))), ∀ message, given message →
    decode message = outcome.map (DecodeExit.map message.setFields)

section Rules

variable {given : FixMessage → Prop}
  {decode other : FixMessage → Except Fault (DecodeExit FixMessage)}

theorem Uniform.failure (result : ParseResult) : Uniform given fun _ => .ok (.failure result) :=
  ⟨.ok (.failure result), fun _ _ => rfl⟩

theorem Uniform.bind {α : Type} {computation : Except Fault α}
    {next : α → FixMessage → Except Fault (DecodeExit FixMessage)}
    (tail : ∀ intermediate, Uniform given (next intermediate)) :
    Uniform given fun message => computation >>= fun intermediate => next intermediate message := by
  cases computation with
  | error fault => exact ⟨.error fault, fun _ _ => rfl⟩
  | ok intermediate => exact tail intermediate

theorem Uniform.ite {condition : Prop} [Decidable condition] (positive : Uniform given decode)
    (negative : Uniform given other) :
    Uniform given fun message => if condition then decode message else other message := by
  split
  · exact positive
  · exact negative

theorem Uniform.congr (same : ∀ message, given message → decode message = other message)
    (uniform : Uniform given other) : Uniform given decode := by
  obtain ⟨outcome, uniform⟩ := uniform
  exact ⟨outcome, fun message may => (same message may).trans (uniform message may)⟩

theorem Uniform.setFields (assignments : List (Int × Bytes)) {wanted : FixMessage → Prop}
    (meets : ∀ message, given message → wanted (message.setFields assignments))
    (rest : Uniform wanted decode) :
    Uniform given fun message => decode (message.setFields assignments) := by
  obtain ⟨outcome, uniform⟩ := rest
  refine ⟨outcome.map (DecodeExit.map (assignments ++ ·)), fun message may => ?_⟩
  refine (uniform _ (meets message may)).trans ?_
  cases outcome with
  | error fault => rfl
  | ok exit =>
    have same : ∀ fields, (message.setFields assignments).setFields fields =
        message.setFields (assignments ++ fields) := fun fields =>
      (setFields_append assignments fields).symm
    cases exit <;> simp only [Except.map, DecodeExit.map, same]

end Rules

/-- A message as the pool constructs it. -/
def Constructed (message : FixMessage) : Prop := ∃ time, message = FixMessage.new time

theorem hasField_setFields_new {tag : Int} (differs : tag ≠ FixFields.sendingTime)
    (assignments : List (Int × Bytes)) :
    ((FixMessage.new time).setFields assignments).hasField tag =
      (lastValue tag assignments).isSome := by
  unfold hasField
  rw [getField_setFields, getField_new, if_neg differs, Option.or_none]

namespace OptimizedParser

variable (decoder : OptimizedParser) (validate : Bool) (memory : Memory)

theorem readChecksum_uniform (given : FixMessage → Prop) (bodyEnd : Int) :
    Uniform given (decoder.readChecksum validate memory bodyEnd) := by
  have finished : ∀ checksum bytesConsumed detail, Uniform given fun message =>
      .ok (.success (message.setField FixFields.checkSum checksum) bytesConsumed detail) :=
    fun checksum bytesConsumed detail =>
      ⟨.ok (.success [(FixFields.checkSum, checksum)] bytesConsumed detail), fun _ _ => rfl⟩
  refine .ite (.bind fun started => .ite (.bind fun checksum => .bind fun calculated => ?_)
    (.failure _)) (.bind fun checksum => finished checksum _ _)
  cases stoi checksum with
  | none => exact ⟨.ok (.thrown [(FixFields.checkSum, checksum)] (ascii "stoi")), fun _ _ => rfl⟩
  | some received => exact .ite (finished checksum _ _) (.failure _)

/-- The body is decoded the same way into every message that has its MsgType. -/
theorem readBody_uniform (bodyStart bodyEnd : Int) :
    Uniform (fun message => message.hasField FixFields.msgType = true)
      (decoder.readBody validate memory bodyStart bodyEnd) := by
  obtain ⟨outcome, uniform⟩ := parseFields_uniform memory bodyEnd (fun _ => false)
    (fieldFuel bodyStart bodyEnd) bodyStart
  cases outcome with
  | error fault =>
    refine ⟨.error fault, fun message _ => ?_⟩
    rw [readBody, uniform]
    rfl
  | ok exit =>
    cases exit with
    | malformed position problem =>
      refine ⟨.ok (.failure (decoder.fieldError position problem)), fun message _ => ?_⟩
      rw [readBody, uniform]
      rfl
    | finished fields =>
      refine Uniform.congr (fun message typed => ?_) (Uniform.setFields fields
        (fun _ _ => trivial) (decoder.readChecksum_uniform validate memory (fun _ => True)
          bodyEnd))
      have still : (message.setFields fields).hasField FixFields.msgType = true := by
        unfold hasField at typed ⊢
        rw [getField_setFields, Option.isSome_or, typed, Bool.or_true]
      rw [readBody, uniform]
      simp only [bind, Except.bind, Except.map, FieldsExit.map, still, Bool.true_eq_false,
        and_false, if_false]

theorem decode_uniform (given : FixMessage → Prop) (length : Nat) :
    Uniform given (decoder.decode validate memory length) := by
  refine .bind fun found => ?_
  cases found with
  | none => exact .failure _
  | some bodyLengthEnd =>
    refine .bind fun parsed => ?_
    cases parsed with
    | none => exact .failure _
    | some bodyLength =>
      have typed : ∀ message : FixMessage, given message → (message.setFields
          [(FixFields.beginString, fixVersion44), (FixFields.msgType, decoder.msgType),
            (FixFields.bodyLength, FastStringConversion.intToString bodyLength)]).hasField
            FixFields.msgType = true := by
        intro message _
        unfold hasField
        rw [getField_setFields]
        rfl
      have read := Uniform.setFields _ typed
        (decoder.readBody_uniform validate memory (bodyLengthEnd + 1)
          (bodyLengthEnd + 1 + bodyLength))
      exact read

end OptimizedParser

/-- Whether the required fields are among those read. -/
def requiredRead (fields : List (Int × Bytes)) : Bool :=
  (FixMessage.lastValue FixFields.beginString fields).isSome &&
    (FixMessage.lastValue FixFields.bodyLength fields).isSome &&
    (FixMessage.lastValue FixFields.msgType fields).isSome &&
    (FixMessage.lastValue FixFields.checkSum fields).isSome

theorem validateParsedMessage_new (fields : List (Int × Bytes)) :
    validateParsedMessage ((FixMessage.new time).setFields fields) = requiredRead fields := by
  unfold validateParsedMessage
  rw [hasField_setFields_new time (by decide), hasField_setFields_new time (by decide),
    hasField_setFields_new time (by decide), hasField_setFields_new time (by decide)]
  rfl

/-- The generic decoder looks for the required fields only among those it has read. -/
theorem decodeMessage_uniform (startPos endPos : Nat) :
    Uniform Constructed (decodeMessage config memory startPos endPos) := by
  obtain ⟨outcome, uniform⟩ := parseFields_uniform memory endPos
    (fun tag => tag = FixFields.checkSum) (fieldFuel startPos endPos) startPos
  cases outcome with
  | error fault =>
    refine ⟨.error fault, fun message _ => ?_⟩
    rw [decodeMessage, uniform]
    rfl
  | ok exit =>
    cases exit with
    | malformed position problem =>
      refine ⟨.ok (.failure (genericFieldError position problem)), fun message _ => ?_⟩
      rw [decodeMessage, uniform]
      rfl
    | finished fields =>
      have finished : Uniform Constructed fun message =>
          .ok (.success (message.setFields fields) (endPos - startPos) []) :=
        ⟨.ok (.success fields (endPos - startPos) []), fun _ _ => rfl⟩
      have checked : Uniform Constructed fun message =>
          if config.strictValidation = true ∧ requiredRead fields = false then
            .ok (.failure (.without .invalidFormat 0 (ascii "Message validation failed") .idle))
          else if config.validateChecksum then do
            if ← validateMessageChecksum memory startPos (endPos - startPos) then
              .ok (.success (message.setFields fields) (endPos - startPos) [])
            else
              .ok (.failure
                (.without .checksumError 0 (ascii "Checksum validation failed") .idle))
          else .ok (.success (message.setFields fields) (endPos - startPos) []) :=
        .ite (.failure _) (.ite (.bind fun valid => .ite finished (.failure _)) finished)
      refine Uniform.congr ?_ checked
      rintro message ⟨time, rfl⟩
      rw [decodeMessage, uniform]
      simp only [bind, Except.bind, Except.map, FieldsExit.map, validateParsedMessage_new]

theorem attempt_uniform {decode again : FixMessage → Except Fault (DecodeExit FixMessage)}
    (first : Uniform Constructed decode) (second : Uniform Constructed again) :
    ∃ outcome : Except Fault (DecodeExit (List (Int × Bytes))), ∀ earlier later, ∃ time,
      (do
        match ← decode (FixMessage.new earlier) with
        | .failure _ => again (FixMessage.new later)
        | exit => .ok exit) =
        outcome.map (DecodeExit.map (FixMessage.new time).setFields) := by
  obtain ⟨outcome, uniform⟩ := first
  obtain ⟨fallback, uniformly⟩ := second
  cases outcome with
  | error fault =>
    refine ⟨.error fault, fun earlier _ => ⟨earlier, ?_⟩⟩
    rw [uniform _ ⟨earlier, rfl⟩]
    rfl
  | ok exit =>
    cases exit with
    | failure result =>
      refine ⟨fallback, fun earlier later => ⟨later, ?_⟩⟩
      rw [uniform _ ⟨earlier, rfl⟩]
      exact uniformly _ ⟨later, rfl⟩
    | success fields bytesConsumed detail =>
      refine ⟨.ok (.success fields bytesConsumed detail), fun earlier _ => ⟨earlier, ?_⟩⟩
      rw [uniform _ ⟨earlier, rfl⟩]
      rfl
    | thrown fields what =>
      refine ⟨.ok (.thrown fields what), fun earlier _ => ⟨earlier, ?_⟩⟩
      rw [uniform _ ⟨earlier, rfl⟩]
      rfl

/-- What decoding a frame writes depends only on the bytes, whenever the messages
were constructed. -/
theorem decodeFrame_uniform (length : Nat) :
    ∃ outcome : Except Fault (DecodeExit (List (Int × Bytes))), ∀ first second, ∃ time,
      decodeFrame config memory length (FixMessage.new first) (FixMessage.new second) =
        outcome.map (DecodeExit.map (FixMessage.new time).setFields) := by
  have generic := decodeMessage_uniform config memory 0 length
  unfold decodeFrame
  cases extractMsgType memory length with
  | error fault => exact ⟨.error fault, fun first _ => ⟨first, rfl⟩⟩
  | ok msgType =>
    cases found : OptimizedParser.forMsgType msgType with
    | none =>
      simp only [bind, Except.bind, found]
      exact attempt_uniform generic generic
    | some decoder =>
      simp only [bind, Except.bind, found]
      cases decoder.checkStructure memory length with
      | error fault => exact ⟨.error fault, fun first _ => ⟨first, rfl⟩⟩
      | ok problem =>
        cases problem with
        | none => exact attempt_uniform (decoder.decode_uniform _ _ _ _) generic
        | some result =>
          obtain ⟨outcome, uniform⟩ := generic
          exact ⟨outcome, fun first _ => ⟨first, uniform _ ⟨first, rfl⟩⟩⟩

end FixGateway.Protocol
