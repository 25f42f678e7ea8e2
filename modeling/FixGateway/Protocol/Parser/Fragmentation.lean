import FixGateway.Protocol.Parser.WireStream

/-! # Messages in pieces

What the parser does when a message arrives over several calls. As long as the
last byte of the body is missing, every call stores what there is and uses no slot
of the pool; the call that completes the message then decodes it as if it had come
in one piece.
-/

namespace FixGateway.Protocol

open ByteScan FixGateway.Common Memory WireMessage

namespace StreamFixParser

variable {parser : StreamFixParser} {wire : WireMessage} {buffer : Bytes}

/-- The parser has stored further bytes and changed nothing else that matters. -/
structure Waiting (before after : StreamFixParser) (bytes : Bytes) : Prop where
  messagePool : after.messagePool = before.messagePool
  config : after.config = before.config
  partialBuffer : after.partialBuffer = before.partialBuffer ++ bytes
  accepting : Accepting after

/-- A call that leaves the last byte of the body missing stores its bytes. -/
theorem parse_prefix (accepting : Accepting parser) {clock : Clock} {outside : Memory}
    (nonempty : buffer ≠ [])
    (fits : (wire.body.length : Int) ≤ wrapInt parser.config.maxMessageSize)
    (room : wire.frame.length ≤ partialBufferSize)
    (received : parser.partialBuffer ++ buffer <+: wire.frame)
    (short : (parser.partialBuffer ++ buffer).length < wire.frame.length) :
    ∃ result after, parser.parse clock outside buffer = .ok (result, after) ∧
      result.status = .needMoreData ∧ result.parsedMessage = none ∧
      Waiting parser after buffer := by
  have held : (overlay (parser.partialBuffer ++ buffer) outside).Holds 0
      (wire.frame.take (parser.partialBuffer ++ buffer).length) := by
    rw [← List.prefix_iff_eq_take.mp received]
    exact overlay_holds _ _
  obtain ⟨framing, framed, waits, message⟩ := findCompleteMessage_prefix held short fits
  refine ⟨_, _, parse_waits accepting nonempty framed waits (by omega), waits, message, ?_⟩
  exact ⟨rfl, rfl, rfl, accepting.holding⟩

/-- Calls that leave the last byte of the body missing store their bytes. -/
theorem parseAll_prefix (accepting : Accepting parser) {calls : List Call}
    (nonempty : ∀ call ∈ calls, call.buffer ≠ [])
    (fits : (wire.body.length : Int) ≤ wrapInt parser.config.maxMessageSize)
    (room : wire.frame.length ≤ partialBufferSize)
    (received : parser.partialBuffer ++ calls.flatMap Call.buffer <+: wire.frame)
    (short : (parser.partialBuffer ++ calls.flatMap Call.buffer).length < wire.frame.length) :
    ∃ results after, parser.parseAll calls = .ok (results, after) ∧
      (∀ result ∈ results, result.status = .needMoreData ∧ result.parsedMessage = none) ∧
      results.length = calls.length ∧
      Waiting parser after (calls.flatMap Call.buffer) := by
  induction calls generalizing parser with
  | nil => exact ⟨[], parser, rfl, nofun, rfl, rfl, rfl, (List.append_nil _).symm, accepting⟩
  | cons call calls ih =>
    rw [List.forall_mem_cons] at nonempty
    rw [List.flatMap_cons, ← List.append_assoc] at received short
    have prefixed := (List.prefix_append _ _).trans received
    obtain ⟨result, middle, ran, waits, message, waiting⟩ :=
      parse_prefix accepting nonempty.1 fits room prefixed
        (by rw [List.length_append] at short; omega)
    rw [← waiting.partialBuffer] at received short
    obtain ⟨results, after, rest, all, size, settled⟩ :=
      ih waiting.accepting nonempty.2 (waiting.config ▸ fits) received short
    refine ⟨result :: results, after, parseAll_cons ran rest, ?_, ?_, ?_⟩
    · exact List.forall_mem_cons.mpr ⟨⟨waits, message⟩, all⟩
    · rw [List.length_cons, size, List.length_cons]
    · refine ⟨settled.messagePool.trans waiting.messagePool,
        settled.config.trans waiting.config, ?_, settled.accepting⟩
      rw [settled.partialBuffer, waiting.partialBuffer, List.flatMap_cons, List.append_assoc]

theorem parse_completes (accepting : Accepting parser) (clock : Clock) (outside : Memory)
    {slot : Nat} {rest : List Nat} (nonempty : buffer ≠ [])
    (ready : wire.Ready parser.config) (room : wire.bytes.length ≤ partialBufferSize)
    (complete : parser.partialBuffer ++ buffer = wire.bytes)
    (running : parser.messagePool.isShutdown = false)
    (chain : parser.messagePool.freeList = slot :: rest) :
    ∃ result after, parser.parse clock outside buffer = .ok (result, after) ∧
      result.status = .success ∧ result.bytesConsumed = wire.bytes.length ∧
      result.parsedMessage = some slot ∧
      Delivered clock parser.clearPartial after [wire] [slot] rest := by
  have single : streamBytes [wire] = wire.bytes := List.append_nil _
  have size := congrArg List.length complete
  rw [List.length_append] at size
  have limit : partialBufferSize < 2 ^ 63 := by decide
  have split : parser.clearPartial.messagePool.freeList = [slot] ++ rest := chain
  obtain ⟨result, after, ran, success, consumed, message, delivered⟩ :=
    parseAvailable_wires parser.clearPartial clock outside (List.cons_ne_nil wire [])
      (List.forall_mem_singleton.mpr ready) (by rw [single]; omega) running
      split rfl
  rw [single] at ran consumed
  refine ⟨result, after, ?_, success, consumed, message, delivered⟩
  rw [parse_accepting accepting nonempty (Or.inr (by omega)), complete, ran]

/-- A message with a body of the default limit fits the partial buffer. -/
theorem length_bytes_le (fits : wire.body.length ≤ 8192) :
    wire.bytes.length ≤ partialBufferSize := by
  have text : wire.bodyLengthText.length ≤ 4 := length_decimal_le (by decide) (by omega)
  rw [WireMessage.length_bytes, WireMessage.length_frame, partialBufferSize]
  omega

/-- Reassembly does not depend on fragmentation. A message with a specialised
decoder that is cut anywhere before its last body byte, into any number of
fragments, costs no slot until its last fragment comes, which then returns the
message that one call on the whole message would have returned. -/
theorem parse_reassembles (reachable : Reachable parser) (empty : parser.partialBuffer = [])
    {now : Nat} (inactive : (parser.isCircuitBreakerActive now).1 = false)
    (limit : parser.config.maxMessageSize = 8192) (free : parser.messagePool.available 1)
    (specialised :
      wire.msgType ∈ [ascii "8", ascii "0", ascii "9", ascii "3", ascii "1", ascii "2"])
    (fits : wire.body.length ≤ 8192) (long : 40 ≤ wire.frame.length)
    (calls : List Call) (last : Call) (nonempty : ∀ call ∈ calls, call.buffer ≠ [])
    (pieces : calls.flatMap Call.buffer ++ last.buffer = wire.bytes)
    (cut : (calls.flatMap Call.buffer).length < wire.frame.length) :
    ∃ waits middle result after slot message,
      parser.parseAll calls = .ok (waits, middle) ∧
      waits.length = calls.length ∧
      (∀ wait ∈ waits, wait.status = .needMoreData ∧ wait.parsedMessage = none) ∧
      middle.messagePool = parser.messagePool ∧
      middle.parse last.clock last.outside last.buffer = .ok (result, after) ∧
      result.status = .success ∧ result.bytesConsumed = wire.bytes.length ∧
      result.parsedMessage = some slot ∧ after.messagePool.objects slot = some message ∧
      after.partialBuffer = [] ∧
      (∀ tag, message.getField tag =
        (FixMessage.lastValue tag (wire.assignments (checksum wire.frame))).or
          (if tag = FixFields.sendingTime then
            some (last.clock.utc parser.messagePool.totalAllocations).format else none)) ∧
      ∀ outside, ∃ whole other, parser.parse last.clock outside wire.bytes = .ok (whole, other) ∧
        whole.status = .success ∧ whole.parsedMessage = some slot ∧
        other.messagePool.objects slot = some message := by
  have accepting := reachable.accepting inactive
  have ready : wire.Ready parser.config := ready_of_le limit specialised fits long
  have room := length_bytes_le fits
  have size := wire.length_bytes
  obtain ⟨slot, rest, chain, _⟩ := MessagePool.exists_chain free
  have received : parser.partialBuffer ++ calls.flatMap Call.buffer <+: wire.frame := by
    have front : calls.flatMap Call.buffer <+: wire.bytes := ⟨_, pieces⟩
    rw [empty, List.nil_append]
    exact List.prefix_of_prefix_length_le front wire.frame_prefix_bytes cut.le
  obtain ⟨waits, middle, ran, all, count, waiting⟩ :=
    parseAll_prefix accepting nonempty ready.fits (by omega) received
      (by rw [empty, List.nil_append]; exact cut)
  have complete : middle.partialBuffer ++ last.buffer = wire.bytes := by
    rw [waiting.partialBuffer, empty, List.nil_append, pieces]
  have remaining : last.buffer ≠ [] := by
    intro none
    rw [none, List.append_nil] at pieces
    rw [pieces] at cut
    omega
  obtain ⟨result, after, final, success, consumed, placed, delivered⟩ :=
    parse_completes waiting.accepting last.clock last.outside remaining (waiting.config ▸ ready)
      room complete (by rw [waiting.messagePool]; exact free.1)
      (by rw [waiting.messagePool]; exact chain)
  have object := delivered.delivered 0 wire slot rfl rfl
  have stamped : middle.clearPartial.messagePool.totalAllocations =
      parser.messagePool.totalAllocations := congrArg _ waiting.messagePool
  rw [stamped, Nat.add_zero] at object
  refine ⟨waits, middle, result, after, slot, _, ran, count, all, waiting.messagePool, final,
    success, consumed, placed, object, delivered.partialBuffer,
    fun tag => getField_decoded tag _, ?_⟩
  · intro outside
    obtain ⟨whole, other, direct, accepted, _, same, alone⟩ :=
      parse_completes accepting last.clock outside wire.bytes_ne_nil ready room
        (by rw [empty]; rfl) free.1 chain
    exact ⟨whole, other, direct, accepted, same, alone.delivered 0 wire slot rfl rfl⟩

/-- A heartbeat cut twice. -/
def samplePieces : List Call :=
  [⟨sampleClock, Memory.unmapped, sampleHeartbeat.bytes.take 20⟩,
    ⟨sampleClock, Memory.unmapped, (sampleHeartbeat.bytes.drop 20).take 25⟩]

theorem parse_reassembles_heartbeat :
    ∃ waits middle result after,
      (new samplePool {} 0).parseAll samplePieces = .ok (waits, middle) ∧ waits.length = 2 ∧
      middle.parse sampleClock Memory.unmapped (sampleHeartbeat.bytes.drop 45) =
        .ok (result, after) ∧ result.status = .success ∧ result.bytesConsumed = 55 := by
  obtain ⟨waits, middle, result, after, _, _, ran, count, _, _, final, success, consumed, _⟩ :=
    parse_reassembles (Reachable.new samplePool {} 0) rfl
      (by decide : ((new samplePool {} 0).isCircuitBreakerActive 0).1 = false) rfl (by decide)
      (by decide : sampleHeartbeat.msgType ∈ _) (by decide) (by decide) samplePieces
      ⟨sampleClock, unmapped, sampleHeartbeat.bytes.drop 45⟩ (by decide) (by decide)
      (by decide)
  exact ⟨waits, middle, result, after, ran, count, final, success, consumed.trans (by decide)⟩

/-! ## An incomplete trailer -/

section Trailer

variable {clock : Clock} {memory : Memory} {length cursor : Nat} {received : Bytes}
  (pool : MessagePool FixMessage) (now : Nat)

/-- A round on a frame whose trailer may be missing does not wait for it. -/
theorem Round.unsealed {step : LoopStep} {after : StreamFixParser}
    (round : Round clock memory length cursor parser step after) (ready : wire.Ready parser.config)
    (strict : parser.config.strictValidation = true) (free : parser.messagePool.available 1)
    (held : memory.Holds cursor wire.frame) (inside : cursor + wire.frame.length ≤ length)
    (bound : cursor + wire.frame.length + 7 < 2 ^ 63) :
    after.partialBuffer = parser.partialBuffer ∧
      match step with
      | .leave (.returned result) => result.status = .invalidFormat
      | .leave (.thrown _) => True
      | .next position last => position = cursor + (wire.frame.length + 7) ∧
          ∃ result, last = some result ∧ result.status = .success := by
  have here : (memory.shift cursor).Holds 0 wire.frame := by
    rw [holds_shift, add_zero]
    exact held
  obtain ⟨decoder, handled⟩ := ready.decoder
  obtain ⟨framing, framed, success, same, frameLength⟩ := framed_at held inside ready.fits
  have unique : ∀ {other}, parser.frameAt memory length cursor = .ok other → other = framing :=
    fun again => Except.ok.inj (again.symm.trans framed)
  have post : Ensures (parseCompleteMessage parser.config clock parser.messagePool
      (memory.shift cursor) wire.frame.length) _ :=
    parseCompleteMessage_unsealed handled strict here free
  cases round with
  | waited again waits =>
    rw [unique again, success] at waits
    cases waits
  | unframed again _ fails =>
    rw [unique again] at fails
    exact absurd success fails
  | threw => exact ⟨rfl, trivial⟩
  | decoded again _ called accepted =>
    obtain rfl := unique again
    rw [same, frameLength] at called
    refine ⟨rfl, ?_, _, rfl, accepted⟩
    obtain ⟨_, consumed⟩ | rfl := post _ called _ rfl
    · rw [consumed, wrapSize_of_bounds (by omega) (by omega)]
      omega
    · cases accepted
  | undecoded again _ called fails kept =>
    obtain rfl := unique again
    rw [same, frameLength] at called
    refine ⟨kept.partialBuffer, ?_⟩
    obtain ⟨accepted, _⟩ | rfl := post _ called _ rfl
    · exact absurd accepted fails
    · rfl

/-- A call whose bytes end within the trailer never waits for the rest of it, and
stores nothing. -/
theorem parse_unsealed (clock : Clock)
    (outside : Memory) (ready : wire.Ready {}) (free : pool.available 1)
    (body : wire.frame <+: received) (missing : received.length < wire.bytes.length) :
    Ensures ((new pool {} now).parse clock outside received) (fun outcome =>
      (outcome.1.status = .success ∨ outcome.1.status = .invalidFormat) ∧
        outcome.2.partialBuffer = []) := by
  have size := wire.length_bytes
  have short : wire.frame.length < 2 ^ 31 + 23 := length_frame_lt ready.small
  have long := ready.long
  have least := body.length_le
  have filled : 0 < received.length := by omega
  have held : (overlay received outside).Holds (0 : Nat) wire.frame := by
    obtain ⟨tail, rfl⟩ := body
    exact (overlay_holds _ _).left
  rw [parse_new pool now clock outside (List.length_pos_iff.mp filled), parseAvailable, parseLoop,
    if_pos filled]
  refine .bind fun called ran => ?_
  obtain ⟨⟨step, next⟩, stepped, ran⟩ := bind_ok.mp ran
  obtain ⟨stored, kind⟩ :=
    (parseStep_round stepped).unsealed ready rfl free held (by omega) (by omega)
  cases step with
  | leave exit =>
    cases ran
    cases exit with
    | returned result => exact .ok ⟨Or.inr kind, stored⟩
    | thrown what => exact .ok ⟨Or.inr rfl, stored⟩
  | next position last =>
    -- the position after the missing trailer is beyond the received bytes
    obtain ⟨rfl, result, rfl, success⟩ := kind
    obtain ⟨slot, rest, chain, _⟩ := MessagePool.exists_chain free
    have fuel : (new pool {} now).messagePool.freeList.length = rest.length + 1 := by
      rw [show (new pool {} now).messagePool.freeList = slot :: rest from chain, List.length_cons]
    dsimp only at ran
    rw [fuel, parseLoop, if_neg (by omega)] at ran
    cases ran
    exact .ok ⟨Or.inl success, stored⟩

/-- When two or more bytes of the trailer are missing, the call reads beyond the
received bytes. -/
theorem parse_overreads (clock : Clock)
    (ready : wire.Ready {}) (free : pool.available 1) (part : received <+: wire.bytes)
    (body : wire.frame <+: received) (missing : received.length + 1 < wire.bytes.length) :
    ∃ position, (new pool {} now).parse clock unmapped received =
      .error (.outOfBounds position) := by
  have size := wire.length_bytes
  have long := ready.long
  obtain ⟨tail, rfl⟩ := body
  have total : (wire.frame ++ tail).length = wire.frame.length + tail.length := List.length_append
  have filled : 0 < (wire.frame ++ tail).length := by omega
  have trailer : tail <+: ascii "10=" ++ padded 3 (checksum wire.frame) := by
    have sealed : wire.bytes =
        wire.frame ++ (ascii "10=" ++ padded 3 (checksum wire.frame) ++ [soh]) := by
      rw [WireMessage.bytes, WireMessage.sealed, WireMessage.checked, List.append_assoc]
    have sum := congrArg List.length sealed
    rw [List.length_append, List.length_append, List.length_singleton] at sum
    rw [sealed, List.prefix_append_right_inj] at part
    exact List.prefix_of_prefix_length_le part (List.prefix_append _ _) (by omega)
  have held : (overlay (wire.frame ++ tail) unmapped).Holds (0 : Nat)
      (wire.frame ++ tail) := overlay_holds _ _
  have here : ((overlay (wire.frame ++ tail) unmapped).shift (0 : Nat)).Holds 0
      (wire.frame ++ tail) := by
    rw [holds_shift, add_zero]
    exact held
  have beyond : (overlay (wire.frame ++ tail) unmapped).shift (0 : Nat)
      (wire.frame.length + tail.length) = none :=
    overlay_unmapped (by omega)
  obtain ⟨decoder, handled⟩ := ready.decoder
  obtain ⟨framing, framed, success, same, frameLength⟩ :=
    framed_at held.left (by omega : 0 + wire.frame.length ≤ (wire.frame ++ tail).length)
      ready.fits
  obtain ⟨position, called⟩ : ∃ position, parseCompleteMessage {} clock pool
      ((overlay (wire.frame ++ tail) unmapped).shift (0 : Nat)) wire.frame.length =
        .error (.outOfBounds position) :=
    parseCompleteMessage_overreads handled rfl rfl free trailer (by omega) here beyond
  rw [← frameLength, ← same] at called
  have framed : (new pool {} now).frameAt _ _ 0 = _ := framed
  have faulted : (new pool {} now).decodeAt clock _ 0 framing = _ := called
  refine ⟨position, ?_⟩
  rw [parse_new pool now clock _ (List.length_pos_iff.mp filled), parseAvailable, parseLoop,
    if_pos filled, parseStep_faulted none framed success faulted]
  rfl

/-- When only the last SOH is missing, the message is delivered, and the byte to
come is counted as consumed. -/
theorem parse_early (clock : Clock) (outside : Memory)
    (ready : wire.Ready {}) (free : pool.available 1) :
    ∃ result after, (new pool {} now).parse clock outside (wire.checked (checksum wire.frame)) =
        .ok (result, after) ∧
      result.status = .success ∧ result.bytesConsumed = wire.bytes.length := by
  have size := wire.length_bytes
  have long := ready.long
  have short : wire.frame.length < 2 ^ 31 + 23 := length_frame_lt ready.small
  have total := wire.length_checked (lt_trans (checksum_lt wire.frame) (by decide : 256 < 1000))
  have filled : 0 < (wire.checked (checksum wire.frame)).length := by omega
  have held : (overlay (wire.checked (checksum wire.frame)) outside).Holds (0 : Nat)
      (wire.checked (checksum wire.frame)) := overlay_holds _ _
  obtain ⟨slot, rest, chain, _⟩ := MessagePool.exists_chain free
  have fuel : (new pool {} now).messagePool.freeList.length = rest.length + 1 :=
    congrArg List.length chain
  obtain ⟨result, after, stepped, success, consumed, _⟩ :
      ∃ result after, (new pool {} now).parseStep clock _ _ 0 none = _ ∧ _ :=
    parseStep_wire clock none ready held
      (by omega : 0 + wire.frame.length ≤ (wire.checked (checksum wire.frame)).length) (by omega)
      free.1 chain
  refine ⟨result, after, ?_, success, by omega⟩
  rw [parse_new pool now clock _ (List.length_pos_iff.mp filled), parseAvailable, fuel, parseLoop,
    if_pos filled, stepped]
  simp only [bind, Except.bind]
  rw [parseLoop, if_neg (by omega)]
  rfl

/-- The parser does not wait for the trailer of a message with a specialised
decoder. Once the body is there, no call reports that it needs more data or stores
its bytes: with one byte missing the message is delivered early, and with more
missing the decoder reads beyond the received bytes. -/
theorem parse_never_waits_for_trailer (pool : MessagePool FixMessage) (now : Nat) (clock : Clock)
    (specialised :
      wire.msgType ∈ [ascii "8", ascii "0", ascii "9", ascii "3", ascii "1", ascii "2"])
    (fits : wire.body.length ≤ 8192) (long : 40 ≤ wire.frame.length) (free : pool.available 1)
    {received : Bytes} (part : received <+: wire.bytes) (body : wire.frame.length ≤ received.length)
    (missing : received.length < wire.bytes.length) :
    (∀ outside result after, (new pool {} now).parse clock outside received = .ok (result, after) →
      result.status ≠ .needMoreData ∧ after.partialBuffer = []) ∧
    (received.length + 1 = wire.bytes.length → ∀ outside, ∃ result after,
      (new pool {} now).parse clock outside received = .ok (result, after) ∧
        result.status = .success ∧ result.bytesConsumed = received.length + 1) ∧
    (received.length + 1 < wire.bytes.length → ∃ position,
      (new pool {} now).parse clock Memory.unmapped received = .error (.outOfBounds position)) := by
  have ready : wire.Ready {} := ready_of_le rfl specialised fits long
  have framed : wire.frame <+: received :=
    List.prefix_of_prefix_length_le wire.frame_prefix_bytes part body
  refine ⟨?_, ?_, parse_overreads pool now clock ready free part framed⟩
  · intro outside result after ok
    obtain ⟨status, stored⟩ := parse_unsealed pool now clock outside ready free framed missing _ ok
    refine ⟨?_, stored⟩
    obtain success | invalid := status
    · rw [success]
      exact nofun
    · rw [invalid]
      exact nofun
  · intro last outside
    have same : received = wire.checked (checksum wire.frame) := by
      have sealed : wire.checked (checksum wire.frame) <+: wire.bytes := List.prefix_append _ _
      have total : wire.bytes.length = (wire.checked (checksum wire.frame)).length + 1 := by
        rw [WireMessage.bytes, WireMessage.sealed, List.length_append]
        rfl
      exact (List.prefix_of_prefix_length_le part sealed (by omega)).eq_of_length (by omega)
    obtain ⟨result, after, ran, success, consumed⟩ := parse_early pool now clock outside ready free
    rw [same]
    refine ⟨result, after, ran, success, ?_⟩
    rw [consumed, ← last, same]

theorem parse_never_waits_for_trailer_heartbeat :
    ∃ position, (new samplePool {} 0).parse sampleClock Memory.unmapped
      (sampleHeartbeat.bytes.take 50) = .error (.outOfBounds position) :=
  (parse_never_waits_for_trailer samplePool 0 sampleClock
    (by decide : sampleHeartbeat.msgType ∈ _) (by decide) (by decide) (by decide)
    (List.take_prefix 50 _) (by decide) (by decide)).2.2 (by decide)

/-- A heartbeat without its last byte is delivered. -/
theorem parse_heartbeat_early :
    ((new samplePool {} 0).parse sampleClock Memory.unmapped
      (sampleHeartbeat.bytes.take 54)).toOption.map (fun outcome =>
        (outcome.1.status, outcome.1.bytesConsumed, outcome.2.partialBuffer)) =
      some (.success, 55, []) := by
  decide +kernel

end Trailer

end StreamFixParser

end FixGateway.Protocol
