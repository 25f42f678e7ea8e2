import FixGateway.Protocol.Parser.Calls
import FixGateway.Protocol.Parser.Independence

/-! # Decoding and the loop come to an end

A decoder ends without a fault when the memory has the bytes it reads. The generic
decoder needs the frame only. A specialised one also needs the body as it finds it
from its own BodyLength, the checksum field after that, and all bytes before it
(`BodyReadable`).

The loop takes a slot for every message it decodes, so it ends within its fuel.
Its only other fault is to store more unfinished bytes than the buffer holds.
-/

namespace FixGateway.Protocol

open ByteScan FixGateway.Common Memory

section Decoders

variable {memory : Memory} {length : Nat}

/-- The bytes that a specialised decoder reads once it knows where the body is. -/
structure BodyReadable (memory : Memory) (bodyStart bodyEnd : Int) : Prop where
  body : memory.Readable bodyStart bodyEnd
  trailer : memory.Readable bodyEnd (bodyEnd + 6)
  summed : memory.Readable 0 (wrapSize bodyEnd : Nat)

namespace OptimizedParser

variable {decoder : OptimizedParser} {validate : Bool} {message : FixMessage} {bodyEnd : Int}

theorem checkStructure_total (long : 9 ≤ decoder.minimumLength)
    (readable : memory.Readable 0 length) : Finishes (decoder.checkStructure memory length) := by
  have nine : fixBeginString.length = 9 := by decide
  refine .ite (fun _ => .ok _) fun enough => ?_
  have started : Finishes (memory.startsAt fixBeginString 0) :=
    startsAt_total (readable.mono (le_refl _) (by omega))
  refine (read_total readable (by omega) (by omega)).bind fun last _ => ?_
  refine .ite (fun _ => .ite (fun _ => ?_) fun _ => .ok _) fun _ =>
    .ite (fun _ => ?_) fun _ => .ok _
  · exact started.bind fun _ _ => .ite (fun _ => .ok _) fun _ => .ok _
  · exact started.bind fun _ _ => .ite (fun _ => .ok _) fun _ => .ok _

theorem readChecksum_total (trailer : memory.Readable bodyEnd (bodyEnd + 6))
    (summed : memory.Readable 0 (wrapSize bodyEnd : Nat)) :
    Finishes (decoder.readChecksum validate memory bodyEnd message) := by
  have three : (ascii "10=").length = 3 := by decide
  have digits : Finishes (memory.slice (bodyEnd + 3) 3) :=
    slice_total (trailer.mono (by omega) (by omega))
  refine .ite (fun _ => ?_) fun _ => digits.bind fun _ _ => .ok _
  refine (startsAt_total (trailer.mono (le_refl _) (by omega))).bind fun _ _ => ?_
  refine .ite (fun _ => digits.bind fun checksum _ => ?_) fun _ => .ok _
  refine (byteSum_total (summed.mono (le_refl _) (by omega))).bind fun _ _ => ?_
  cases stoi checksum with
  | none => exact .ok _
  | some received => exact .ite (fun _ => .ok _) fun _ => .ok _

theorem readBody_total {bodyStart : Int} (room : BodyReadable memory bodyStart bodyEnd) :
    Finishes (decoder.readBody validate memory bodyStart bodyEnd message) := by
  refine (parseFields_total room.body (le_refl _)).bind fun fields _ => ?_
  cases fields with
  | malformed position problem => exact .ok _
  | finished message =>
    exact .ite (fun _ => .ok _) fun _ => readChecksum_total room.trailer room.summed

/-- A specialised decoder ends when it can read the body and the checksum field. -/
theorem decode_total (readable : memory.Readable 0 length)
    (room : ∀ digits, memory.Holds 12 (digits ++ [soh]) → digits ≠ [] →
      (∀ byte ∈ digits, isDigit byte = true) → soh ∉ digits →
      BodyReadable memory (12 + digits.length + 1) (12 + digits.length + 1 + foldDigits digits)) :
    Finishes (decoder.decode validate memory length message) := by
  refine (find_total (readable.mono (by omega) (le_refl _))).bind fun found scanned => ?_
  cases found with
  | none => exact .ok _
  | some bodyLengthEnd =>
    obtain ⟨before, held, absent, inside, rfl⟩ := find_some_iff.mp scanned
    have number : memory.Readable 12 (12 + ((12 + (before.length : Int) - 12).toNat : Nat)) :=
      readable.mono (by omega) (by omega)
    refine (parseInteger_total number).bind fun parsed read => ?_
    cases parsed with
    | none => exact .ok _
    | some bodyLength =>
      obtain ⟨digits, also, size, nonempty, all, rfl⟩ := parseInteger_some_iff.mp read
      have same : digits = before := also.eq_of_length held.left (by omega)
      subst same
      exact readBody_total (room digits held nonempty all absent)

end OptimizedParser

theorem validateMessageChecksum_total (readable : memory.Readable 0 length) :
    Finishes (validateMessageChecksum memory 0 length) := by
  have three : (ascii "10=").length = 3 := by decide
  refine .ite (fun _ => .ok _) fun long => ?_
  refine (startsAt_total (readable.mono (by omega) (by omega))).bind fun _ _ => ?_
  refine .ite (fun _ => ?_) fun _ => .ok _
  refine (byteSum_total (readable.mono (by omega) (by omega))).bind fun _ _ => ?_
  refine (parseInteger_total (readable.mono (by omega) (by omega))).bind fun parsed _ => ?_
  cases parsed <;> exact .ok _

theorem decodeMessage_total {config : ParserConfig} {message : FixMessage}
    (readable : memory.Readable 0 length) :
    Finishes (decodeMessage config memory 0 length message) := by
  refine (parseFields_total readable (le_refl _)).bind fun fields _ => ?_
  cases fields with
  | malformed position problem => exact .ok _
  | finished message =>
    refine .ite (fun _ => .ok _) fun _ => .ite (fun _ => ?_) fun _ => .ok _
    exact (validateMessageChecksum_total readable).bind fun _ _ =>
      .ite (fun _ => .ok _) fun _ => .ok _

theorem extractMsgType_total (readable : memory.Readable 0 length) :
    Finishes (extractMsgType memory length) := by
  refine (search_total readable).bind fun found searched => ?_
  cases found with
  | none => exact .ok _
  | some position =>
    obtain ⟨_, low, _, _⟩ := search_some searched
    have rest : memory.Readable (position + 3) length := readable.mono (by omega) (le_refl _)
    refine (find_total rest).bind fun ended scanned => ?_
    cases ended with
    | none => exact .ok _
    | some stop =>
      obtain ⟨before, _, _, inside, rfl⟩ := find_some_iff.mp scanned
      exact slice_total (rest.mono (le_refl _) (by omega))

end Decoders

/-! ## The decoding stage -/

section Pool

variable {config : ParserConfig} {clock : Clock} {pool : MessagePool FixMessage} {memory : Memory}
  {length : Nat}

theorem withMessage_total {refused : ParseResult}
    {decode : FixMessage → Except Fault (DecodeExit FixMessage)}
    (decodes : pool.available 1 → ∀ message, Finishes (decode message)) :
    Finishes (withMessage clock pool refused decode) := by
  by_cases free : pool.available 1
  · obtain ⟨slot, rest, chain, _⟩ := MessagePool.exists_chain free
    rw [withMessage_eq free.1 chain]
    exact (decodes free _).bind fun _ _ => .ok _
  · exact ⟨_, withMessage_refused free⟩

theorem parseMessage_total (readable : memory.Readable 0 length) :
    Finishes (parseMessage config clock pool memory 0 length) :=
  withMessage_total fun _ _ => decodeMessage_total readable

/-- The decoding stage ends when the frame can be read and the specialised decoder,
if there is one and a slot for its message, ends. -/
theorem parseCompleteMessage_total (readable : memory.Readable 0 length)
    (decodes : ∀ msgType decoder, extractMsgType memory length = .ok msgType →
      OptimizedParser.forMsgType msgType = some decoder → pool.available 1 →
      ∀ message, Finishes (decoder.decode config.validateChecksum memory length message)) :
    Finishes (parseCompleteMessage config clock pool memory length) := by
  have attempt : Finishes (parseIntelligent config clock pool memory length) := by
    refine (extractMsgType_total readable).bind fun msgType extracted => ?_
    cases found : OptimizedParser.forMsgType msgType with
    | none => exact parseMessage_total readable
    | some decoder =>
      have long := (OptimizedParser.forMsgType_minimumLength found).1
      have structured : Finishes (decoder.checkStructure memory length) :=
        OptimizedParser.checkStructure_total (by omega) readable
      refine structured.bind fun problem _ => ?_
      cases problem with
      | some result => exact .ok _
      | none => exact withMessage_total (decodes msgType decoder extracted found)
  refine .ite (fun _ => .ok _) fun _ => attempt.bind fun answer _ => ?_
  obtain ⟨answer, pool⟩ := answer
  cases answer with
  | thrown what => exact .ok _
  | returned result =>
    refine .ite (fun _ => .ok _) fun _ => (parseMessage_total readable).bind fun answer _ => ?_
    obtain ⟨answer, pool⟩ := answer
    cases answer with
    | thrown what => exact .ok _
    | returned fallback => exact .ite (fun _ => .ok _) fun _ => .ok _

end Pool

/-! ## The loop -/

namespace StreamFixParser

variable {parser after : StreamFixParser} {clock : Clock} {memory : Memory}
  {length cursor fuel : Nat} {lastSuccess : Option ParseResult}

/-- Wherever a message is framed, the decoding stage ends. -/
def DecodingEnds (config : ParserConfig) (clock : Clock) (memory : Memory) (length : Nat) : Prop :=
  ∀ cursor framing pool, cursor < length →
    findCompleteMessage (memory.shift (cursor : Nat)) config.maxMessageSize (length - cursor) =
      .ok framing → framing.result.status = .success →
    Finishes (parseCompleteMessage config clock pool
      ((memory.shift cursor).shift framing.messageStart)
      (framing.messageEnd - framing.messageStart).toNat)

theorem Round.config_eq {step : LoopStep}
    (round : Round clock memory length cursor parser step after) :
    after.config = parser.config := by
  cases round with
  | waited => rfl
  | unframed _ _ _ kept => exact kept.config
  | threw => rfl
  | decoded => rfl
  | undecoded _ _ _ _ kept => exact kept.config

/-- A round that goes on has taken a slot. -/
theorem Round.takes {next : Nat} {last : Option ParseResult} (inside : cursor ≤ length)
    (readable : memory.Readable 0 length)
    (round : Round clock memory length cursor parser (.next next last) after) :
    after.messagePool.freeList.length < parser.messagePool.freeList.length := by
  cases round with
  | @decoded framing decoded pool framed success called accepted =>
    have long := (frame_readable (readable_from inside readable) framed success).2.1
    obtain ⟨slot, rest, _, chain, taken, _⟩ := parseCompleteMessage_takes (by omega) called accepted
    change pool.freeList.length < _
    rw [chain, List.length_cons, taken.freeList]
    exact Nat.lt_succ_self _

/-- The loop ends within its fuel. -/
theorem parseLoop_outcome {config : ParserConfig} (readable : memory.Readable 0 length)
    (decodes : DecodingEnds config clock memory length)
    (same : parser.config = config) (enough : parser.messagePool.freeList.length < fuel) :
    Finishes (parseLoop clock memory length fuel parser cursor lastSuccess) ∨
      ∃ size, partialBufferSize < size ∧ size ≤ length ∧
        parseLoop clock memory length fuel parser cursor lastSuccess = .error (.overflow size) := by
  induction fuel generalizing parser cursor lastSuccess with
  | zero => exact absurd enough (Nat.not_lt_zero _)
  | succ fuel ih =>
    rw [parseLoop]
    by_cases inside : cursor < length
    · rw [if_pos inside]
      subst same
      have outcome : Finishes (parser.parseStep clock memory length cursor lastSuccess) ∨ _ :=
        parseStep_outcome lastSuccess (le_of_lt inside) readable fun framing framed success =>
          decodes cursor framing parser.messagePool inside framed success
      obtain ⟨⟨step, next⟩, stepped⟩ | ⟨large, overflows⟩ := outcome
      · rw [stepped]
        cases step with
        | leave exit => exact Or.inl (.ok _)
        | next position last =>
          have round := parseStep_round stepped
          have fewer := round.takes (le_of_lt inside) readable
          exact ih round.config_eq (by omega)
      · rw [overflows]
        exact Or.inr ⟨length - cursor, large, Nat.sub_le _ _, rfl⟩
    · rw [if_neg inside]
      exact Or.inl (.ok _)

end StreamFixParser

end FixGateway.Protocol
