import FixGateway.Application.Gateway
import FixGateway.Protocol.Parser.Delivery
import FixGateway.Protocol.Parser.Passes

/-! # What is reported about a wrong checksum

A specialised decoder finds a wrong checksum, but its verdict is not kept: the generic
decoder runs on the frame, which ends before the checksum field, and its verdict replaces
the first one. With strict validation, which is the default, that verdict is that a
required field is missing, and the gateway reports a format error. Without it the last bytes
of the frame are taken for the checksum field.
-/

namespace FixGateway.Protocol

open ByteScan FixGateway.Common Memory WireMessage

namespace StreamFixParser

variable (pool : MessagePool FixMessage) (now : Nat) (clock : Clock) (outside : Memory)
  {wire : WireMessage} {number : Nat}

theorem parseStep_trailer (parser : StreamFixParser) (lastSuccess : Option ParseResult)
    (below : number < 256) :
    ∃ result after, parser.parseStep clock (overlay (wire.sealed number) outside)
        (wire.sealed number).length wire.frame.length lastSuccess =
        .ok (.leave (.returned result), after) ∧ result.status = .needMoreData := by
  have size := wire.length_sealed (lt_trans below (by decide))
  have split : wire.sealed number = wire.frame ++ (ascii "10=" ++ padded 3 number ++ [soh]) := by
    rw [sealed, WireMessage.checked, List.append_assoc]
  have trailer : (overlay (wire.sealed number) outside).Holds (wire.frame.length : Nat)
      (ascii "10=" ++ padded 3 number ++ [soh]) := by
    have held := overlay_holds (wire.sealed number) outside
    have behind := (split ▸ held : (overlay (wire.sealed number) outside).Holds 0
      (wire.frame ++ (ascii "10=" ++ padded 3 number ++ [soh]))).right
    rwa [zero_add] at behind
  have seven : (ascii "10=" ++ padded 3 number ++ [soh]).length =
      (wire.sealed number).length - wire.frame.length := by
    have sum := congrArg List.length split
    rw [List.length_append] at sum
    omega
  have fits : (ascii "10=" ++ padded 3 number ++ [soh]).length ≤ partialBufferSize := by
    have large : partialBufferSize = 65536 := rfl
    omega
  have framed : parser.frameAt (overlay (wire.sealed number) outside) (wire.sealed number).length
      wire.frame.length = _ := findCompleteMessage_short (by omega)
  exact ⟨_, _, parseStep_waited lastSuccess framed rfl trailer seven fits, rfl⟩

/-- A message that is decoded without its checksum field leaves that field for the next call. -/
theorem parse_leaves_trailer {config : ParserConfig} {decoded : ParseResult}
    {left : MessagePool FixMessage} (tolerant : 0 < config.maxConsecutiveErrors)
    (below : number < 256) (fits : (wire.body.length : Int) ≤ wrapInt config.maxMessageSize)
    (called : parseCompleteMessage config clock pool (overlay (wire.sealed number) outside)
      wire.frame.length = .ok (.returned decoded, left))
    (accepted : decoded.status = .success) (consumed : decoded.bytesConsumed = wire.frame.length) :
    ∃ result after, (new pool config now).parse clock outside (wire.sealed number) =
      .ok (result, after) ∧ result.status = .needMoreData := by
  have limit := (wrapInt_bounds config.maxMessageSize).2
  have size := wire.length_sealed (lt_trans below (by decide))
  have short : wire.frame.length < 2 ^ 31 + 23 := length_frame_lt (by omega)
  have filled : 0 < (wire.sealed number).length := by omega
  have held : (overlay (wire.sealed number) outside).Holds (0 : Nat) (wire.sealed number) :=
    overlay_holds _ _
  obtain ⟨framing, framed, success, same, frameLength⟩ := framed_at
    held.left.left (by omega : 0 + wire.frame.length ≤ (wire.sealed number).length) fits
  have decodes : (new pool config now).decodeAt clock (overlay (wire.sealed number) outside) 0
      framing = .ok (.returned decoded, left) := by
    rw [decodeAt, same, frameLength, Nat.cast_zero, shift_zero]
    exact called
  have position : wrapSize (((0 : Nat) : Int) + decoded.bytesConsumed) = wire.frame.length := by
    rw [consumed, Nat.cast_zero, zero_add, wrapSize_of_bounds (by omega) (by omega),
      Int.toNat_natCast]
  have stepped : (new pool config now).parseStep clock
      (overlay (wire.sealed number) outside) (wire.sealed number).length 0 none = _ :=
    parseStep_decoded none framed success decodes accepted
  rw [position] at stepped
  have passes := Passes.start.round filled stepped
  obtain ⟨lastSuccess, returns, _, _⟩ := passes.last_round (by omega)
  obtain ⟨result, after, waits, unfinished⟩ := parseStep_trailer clock outside
    ((new pool config now).noteDecoded clock framing left) lastSuccess below
  refine ⟨result, after, ?_, unfinished⟩
  rw [parse_accepting (accepting_new tolerant) (List.length_pos_iff.mp filled) (.inl rfl)]
  exact returns result after waits

section Wrong

variable {config : ParserConfig}

/-- Strict validation rejects a message whose checksum is wrong as invalid. -/
theorem parse_wrong_strict (ready : wire.Ready config) (tolerant : 0 < config.maxConsecutiveErrors)
    (validates : config.validateChecksum = true) (strict : config.strictValidation = true)
    (below : number < 256) (wrong : checksum wire.frame ≠ number) (free : pool.available 1) :
    ∃ after, (new pool config now).parse clock outside (wire.sealed number) =
      .ok (.without .invalidFormat 0 (ascii "Message validation failed") .idle, after) := by
  obtain ⟨decoder, handled⟩ := ready.decoder
  obtain ⟨after, ran, _⟩ := parse_rejected pool now clock outside tolerant below ready.fits free
    (nofun : ParseStatus.invalidFormat ≠ .success) fun held _ _ =>
      decodeFrame_mismatch handled strict validates below wrong held
  exact ⟨after, ran⟩

theorem parse_wrong_exhausted (ready : wire.Ready config)
    (tolerant : 0 < config.maxConsecutiveErrors) (below : number < 256)
    (exhausted : ¬ pool.available 1) :
    ∃ after, (new pool config now).parse clock outside (wire.sealed number) =
      .ok (.without .allocationFailed 0 (ascii "MessagePool allocation failed") .idle, after) := by
  have held := overlay_holds (wire.sealed number) outside
  obtain ⟨decoder, handled⟩ := ready.decoder
  obtain ⟨left, called⟩ := parseCompleteMessage_exhausted handled held.left.left exhausted
  obtain ⟨after, ran, _⟩ := parse_unaccepted pool now clock outside tolerant below ready.fits
    (nofun : ParseStatus.allocationFailed ≠ .success) called
  exact ⟨after, ran⟩

/-- Without strict validation the end of the frame decides between a checksum error and an
acceptance that leaves the checksum field over. -/
theorem parse_wrong_lenient {agrees : Bool} (ready : wire.Ready config)
    (tolerant : 0 < config.maxConsecutiveErrors)
    (validates : config.validateChecksum = true) (lenient : config.strictValidation = false)
    (below : number < 256) (wrong : checksum wire.frame ≠ number) (free : pool.available 1)
    (checked : validateMessageChecksum (overlay wire.frame unmapped) 0
      wire.frame.length = .ok agrees) :
    ∃ result after, (new pool config now).parse clock outside (wire.sealed number) =
        .ok (result, after) ∧
      if agrees then result.status = .needMoreData
      else result = .without .checksumError 0 (ascii "Checksum validation failed") .idle := by
  obtain ⟨decoder, handled⟩ := ready.decoder
  have decodes : ∀ {memory : Memory}, memory.Holds 0 (wire.checked number) → ∀ first second,
      decodeFrame config memory wire.frame.length (FixMessage.new first) (FixMessage.new second) =
        .ok (if agrees then
          .success ((FixMessage.new second).setFields wire.genericWrites) wire.frame.length []
        else .failure (.without .checksumError 0 (ascii "Checksum validation failed") .idle)) := by
    intro memory held first second
    have same : validateMessageChecksum memory 0 wire.frame.length = .ok agrees :=
      (validateMessageChecksum_refines held.left.extends 0 _).ok checked
    exact decodeFrame_lenient handled lenient validates below wrong held same
  cases agrees with
  | false =>
    obtain ⟨after, ran, _⟩ := parse_rejected pool now clock outside tolerant below ready.fits free
      (nofun : ParseStatus.checksumError ≠ .success) decodes
    exact ⟨_, after, ran, rfl⟩
  | true =>
    have held := overlay_holds (wire.sealed number) outside
    obtain ⟨slot, rest, chain, _⟩ := MessagePool.exists_chain free
    have positive : 0 < wire.frame.length := by
      have long := ready.long
      omega
    obtain ⟨answer, left, called, settles⟩ :=
      parseCompleteMessage_decodes positive free.1 chain (decodes held.left _ _)
    cases settles
    exact parse_leaves_trailer pool now clock outside tolerant below ready.fits called rfl rfl

end Wrong

end StreamFixParser

end FixGateway.Protocol

namespace FixGateway.Application

open ByteScan Common Memory Protocol StreamFixParser WireMessage

/-- A fresh parser answers a message with a wrong checksum by a checksum error, and the gateway
reports it, exactly if strict validation is off, the pool has a free slot and the frame does not
end in bytes that agree with a checksum field. A default parser never does, and the gateway
reports a format error. -/
theorem checksum_failure_reported_iff (pool : MessagePool FixMessage) (now : Nat) (clock : Clock)
    (outside : Memory) {wire : WireMessage} {number : Nat} (strict : Bool)
    (specialised : wire.msgType ∈
      [ascii "8", ascii "0", ascii "9", ascii "3", ascii "1", ascii "2"])
    (fits : wire.body.length ≤ 8192) (long : 40 ≤ wire.frame.length) (below : number < 256)
    (wrong : checksum wire.frame ≠ number) :
    ((∃ result after, (new pool { strictValidation := strict } now).parse clock outside
          (wire.sealed number) = .ok (result, after) ∧
        result.status = .checksumError ∧ result.parsedMessage = none ∧
        Gateway.errorReport result = some (ascii "Checksum validation failed")) ↔
      strict = false ∧ pool.available 1 ∧
        validateMessageChecksum (Memory.overlay wire.frame Memory.unmapped) 0 wire.frame.length =
          .ok false) ∧
    (pool.available 1 → ∃ result after,
      (new pool {} now).parse clock outside (wire.sealed number) = .ok (result, after) ∧
        result.status = .invalidFormat ∧ result.parsedMessage = none ∧
        Gateway.errorReport result = some (ascii "Parse error: Message validation failed")) := by
  have ready : wire.Ready { strictValidation := strict } := ready_of_le rfl specialised fits long
  have tolerant : 0 < ({ strictValidation := strict } : ParserConfig).maxConsecutiveErrors := by
    change 0 < 10
    decide
  obtain ⟨agrees, checked⟩ : Finishes (validateMessageChecksum
      (overlay wire.frame unmapped) 0 wire.frame.length) :=
    validateMessageChecksum_total (overlay_readable _ _)
  constructor
  · constructor
    · rintro ⟨result, after, ran, status, _⟩
      by_cases free : pool.available 1
      · cases strict with
        | true =>
          obtain ⟨left, rejected⟩ := parse_wrong_strict pool now clock outside ready tolerant rfl
            rfl below wrong free
          cases ran.symm.trans rejected
          cases status
        | false =>
          obtain ⟨answer, left, rejected, told⟩ := parse_wrong_lenient pool now clock outside
            ready tolerant rfl rfl below wrong free checked
          cases ran.symm.trans rejected
          cases agrees with
          | true => cases status.symm.trans told
          | false => exact ⟨rfl, free, checked⟩
      · obtain ⟨left, refused⟩ := parse_wrong_exhausted pool now clock outside ready tolerant below
          free
        cases ran.symm.trans refused
        cases status
    · rintro ⟨rfl, free, disagrees⟩
      obtain ⟨_, after, ran, rfl⟩ := parse_wrong_lenient pool now clock outside ready tolerant rfl
        rfl below wrong free disagrees
      exact ⟨_, after, ran, rfl, rfl, rfl⟩
  · intro free
    have normal : wire.Ready {} := ready_of_le rfl specialised fits long
    obtain ⟨after, rejected⟩ := parse_wrong_strict pool now clock outside normal (by decide) rfl
      rfl below wrong free
    exact ⟨_, after, rejected, rfl, rfl, by decide⟩

/-- A heartbeat with checksum 000: without strict validation that is a checksum error. -/
theorem checksum_failure_reported_lenient :
    checksum sampleHeartbeat.frame ≠ 0 ∧
      ∃ result after, (new samplePool { strictValidation := false } 0).parse sampleClock
          Memory.unmapped (sampleHeartbeat.sealed 0) = .ok (result, after) ∧
        result.status = .checksumError ∧
        Gateway.errorReport result = some (ascii "Checksum validation failed") := by
  have wrong : checksum sampleHeartbeat.frame ≠ 0 := by decide
  obtain ⟨result, after, ran, status, _, told⟩ :=
    (checksum_failure_reported_iff samplePool 0 sampleClock unmapped false
      (by decide : sampleHeartbeat.msgType ∈ _) (by decide) (by decide) (by decide) wrong).1.mpr
      ⟨rfl, by decide, by rfl⟩
  exact ⟨wrong, result, after, ran, status, told⟩

/-- A default parser takes the same heartbeat for a malformed message. -/
theorem wrong_checksum_called_invalid :
    ((new samplePool {} 0).parse sampleClock Memory.unmapped
        (sampleHeartbeat.sealed 0)).toOption.map
      (fun outcome => (outcome.1.status, Gateway.errorReport outcome.1)) =
        some (.invalidFormat, some (ascii "Parse error: Message validation failed")) := by
  decide +kernel

end FixGateway.Application
