import FixGateway.Protocol.Parser.Isolation

/-! # Reads beyond the available bytes

Framing makes sure that the available bytes reach up to the end of the body. A
specialised decoder reads BodyLength again at offset 12, and the checksum field after
the body that this gives. Where the available bytes contain that checksum field
(`Contained`), a call reads and consumes available bytes only. Where they do not, it
reads on behind them.
-/

namespace FixGateway.Protocol

open ByteScan FixGateway.Common OptimizedParser Memory

variable {memory : Memory}

/-! ## Bytes consumed -/

/-- Decoding consumes at most so many bytes. -/
def DecodeExit.Within {μ : Type} (limit : Nat) : DecodeExit μ → Prop
  | .success _ bytesConsumed _ => bytesConsumed ≤ limit
  | .failure result => result.bytesConsumed ≤ limit
  | .thrown _ _ => True

section Consumed

variable {config : ParserConfig} {clock : Clock} {pool : MessagePool FixMessage} {memory : Memory}
  {length limit : Nat}

theorem decodeMessage_within {message : FixMessage} :
    Ensures (decodeMessage config memory 0 length message) (DecodeExit.Within length) := by
  refine .bind fun fields read => ?_
  cases fields with
  | malformed position problem =>
    obtain ⟨inside, valued⟩ := parseFields_malformed read
    refine .ok ?_
    cases problem with
    | missingEquals => exact Int.toNat_le.mpr (le_of_lt inside)
    | invalidTag => exact Int.toNat_le.mpr (le_of_lt inside)
    | missingSoh tag valueStart => exact Int.toNat_le.mpr (valued tag valueStart rfl)
  | finished message =>
    refine .ite (fun _ => .ok (Nat.zero_le _)) fun _ =>
      .ite (fun _ => ?_) fun _ => .ok (le_refl _)
    exact .bind fun _ _ => .ite (fun _ => .ok (le_refl _)) fun _ => .ok (Nat.zero_le _)

/-- A frame that one decoder rejects is decoded by the generic one, so only an
acceptance by the specialised one can consume more than the frame. -/
theorem decodeFrame_within {first second : FixMessage} (frame : length ≤ limit)
    (accepts : ∀ msgType decoder, extractMsgType memory length = .ok msgType →
      forMsgType msgType = some decoder → ∀ message bytesConsumed detail,
      decoder.decode config.validateChecksum memory length first =
        .ok (.success message bytesConsumed detail) → bytesConsumed ≤ limit) :
    Ensures (decodeFrame config memory length first second) (DecodeExit.Within limit) := by
  intro exit ok
  cases decodeFrame_decided _ ok with
  | specialised extracted found _ decoded failing =>
    cases exit with
    | success message bytesConsumed detail =>
      exact accepts _ _ extracted found _ _ _ decoded
    | failure result => exact absurd rfl (failing result)
    | thrown message what => trivial
  | generic decoded _ =>
    have within := decodeMessage_within exit decoded
    cases exit with
    | success message bytesConsumed detail => exact le_trans within frame
    | failure result => exact le_trans within frame
    | thrown message what => trivial

theorem parseCompleteMessage_within (positive : 0 < length) (within : ∀ first second,
      Ensures (decodeFrame config memory length first second) (DecodeExit.Within limit)) :
    Ensures (parseCompleteMessage config clock pool memory length)
      (fun answer => ∀ result, answer.1 = .returned result → result.bytesConsumed ≤ limit) := by
  rintro ⟨answer, after⟩ called result returned
  dsimp only at returned
  subst returned
  rcases parseCompleteMessage_cases positive called with
    ⟨slot, rest, _, _, exit, chain, decodes, settles⟩ | ⟨refused, _⟩
  · have consumed := within _ _ exit decodes
    cases settles with
    | success taken => exact consumed
    | failure same => exact consumed
  · cases refused
    exact Nat.zero_le _

end Consumed

/-! ## Room for the trailer -/

/-- The body that the digits at offset 12 of a frame announce is followed, within
`rest` bytes of the frame's start, by the seven bytes of a checksum field. -/
def TrailerInside (frame : Memory) (rest : Int) : Prop :=
  ∀ digits, frame.Holds 12 (digits ++ [soh]) → digits ≠ [] →
    (∀ byte ∈ digits, isDigit byte = true) →
    0 ≤ foldDigits digits ∧ 12 + digits.length + 1 + foldDigits digits + 7 ≤ rest

theorem shift_shift (memory : Memory) (offset other : Int) :
    (memory.shift offset).shift other = memory.shift (offset + other) :=
  funext fun position => congrArg memory (add_assoc offset other position).symm

theorem FrameAt.unshift {maxMessageSize : Nat} {offset start stop : Int} {version digits : Bytes}
    (frame : FrameAt (memory.shift offset) maxMessageSize start stop version digits) :
    FrameAt memory maxMessageSize (offset + start) (offset + stop) version digits where
  held := holds_shift.mp frame.held
  noSoh := frame.noSoh
  nonempty := frame.nonempty
  all := frame.all
  positive := frame.positive
  bounded := frame.bounded
  stop_eq := by
    have ends := frame.stop_eq
    omega

namespace OptimizedParser

variable {decoder : OptimizedParser} {validate : Bool} {memory : Memory} {length rest : Nat}
  {message : FixMessage}

end OptimizedParser

theorem parseCompleteMessage_consumes {config : ParserConfig} {clock : Clock}
    {pool next : MessagePool FixMessage} {length rest : Nat} {result : ParseResult}
    (positive : 0 < length) (within : length ≤ rest) (bound : rest < 2 ^ 63)
    (trailer : ∀ msgType decoder, extractMsgType memory length = .ok msgType →
      forMsgType msgType = some decoder → TrailerInside memory rest)
    (called : parseCompleteMessage config clock pool memory length = .ok (.returned result, next)) :
    result.bytesConsumed ≤ rest := by
  refine parseCompleteMessage_within positive (fun first second => ?_) _ called result rfl
  refine decodeFrame_within within ?_
  intro msgType decoder extracted found message bytesConsumed detail accepted
  obtain ⟨digits, held, nonempty, all, _, read⟩ := decode_reads accepted nofun
  obtain ⟨low, high⟩ := trailer msgType decoder extracted found digits held nonempty all
  rw [readBody_consumes _ read _ _ _ rfl, wrapSize_of_bounds (by omega) (by omega)]
  omega

namespace StreamFixParser

variable {config : ParserConfig} {parser after : StreamFixParser} {clock : Clock} {bytes : Bytes}
  {cursor : Nat} {framing : Framing} {result : ParseResult}

end StreamFixParser

end FixGateway.Protocol
