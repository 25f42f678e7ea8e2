import FixGateway.Protocol.Parser.WireStream

/-! # Whole messages in one call

A fresh parser that is given whole messages in one call. Messages of the six types
with a specialised decoder are all decoded, in order and exactly. A message of any
other type is rejected: framing ends the frame where the checksum field starts, and
the generic decoder, which stays inside the frame, then misses that field.

Nothing is assumed about the memory around the buffer, which may fault on every
read, so the results also say that only the buffer is read.
-/

namespace FixGateway.Protocol

open ByteScan FixGateway.Common WireMessage Memory

namespace StreamFixParser

variable (pool : MessagePool FixMessage) (now : Nat) (clock : Clock) (outside : Memory)
  {config : ParserConfig} {wire : WireMessage} {number : Nat} {status : ParseStatus}
  {detail : Bytes}

/-- Messages of the types with a specialised decoder are decoded exactly: one call
on their concatenation decodes all of them in order, each into a slot of its own,
with the last value of every tag of the message and no other field than the time
stamp of the constructor, and returns the last one. -/
theorem parse_delivers_stream {wires : List WireMessage} (nonempty : wires ≠ [])
    (specialised : ∀ wire ∈ wires,
      wire.msgType ∈ [ascii "8", ascii "0", ascii "9", ascii "3", ascii "1", ascii "2"])
    (fits : ∀ wire ∈ wires, wire.body.length ≤ 8192) (long : ∀ wire ∈ wires, 40 ≤ wire.frame.length)
    (bound : (streamBytes wires).length < 2 ^ 63) (free : pool.available wires.length) :
    ∃ result after slots,
      (new pool {} now).parse clock outside (streamBytes wires) = .ok (result, after) ∧
      result.status = .success ∧ result.bytesConsumed = (streamBytes wires).length ∧
      result.parsedMessage = slots.getLast? ∧
      slots.length = wires.length ∧ pool.freeList = slots ++ after.messagePool.freeList ∧
      after.messagePool.totalAllocations = pool.totalAllocations + wires.length ∧
      after.messagePool.allocatedCount = pool.allocatedCount + wires.length ∧
      after.stats.messagesParsed = (new pool {} now).stats.messagesParsed + wires.length ∧
      after.partialBuffer = [] ∧
      (∀ index wire slot, wires[index]? = some wire → slots[index]? = some slot →
        ∃ message, after.messagePool.objects slot = some message ∧
          ∀ tag, message.getField tag =
            (FixMessage.lastValue tag (wire.assignments (checksum wire.frame))).or
              (if tag = FixFields.sendingTime then
                some (clock.utc (pool.totalAllocations + index)).format else none)) ∧
      ∀ slot, slot ∉ slots → after.messagePool.objects slot = pool.objects slot := by
  have ready : ∀ wire ∈ wires, wire.Ready (new pool {} now).config := fun wire member =>
    ready_of_le rfl (specialised wire member) (fits wire member) (long wire member)
  have filled : streamBytes wires ≠ [] := by
    obtain ⟨wire, rest, rfl⟩ := List.exists_cons_of_ne_nil nonempty
    rw [streamBytes_cons]
    exact List.append_ne_nil_of_left_ne_nil wire.bytes_ne_nil _
  obtain ⟨result, after, ran, success, consumed, message, delivered⟩ :=
    parseAvailable_wires (new pool {} now) clock outside nonempty ready bound free.1
      (List.take_append_drop wires.length pool.freeList).symm
      (List.length_take_of_le free.2)
  refine ⟨result, after, pool.freeList.take wires.length, ?_, success, consumed, message,
    List.length_take_of_le free.2, ?_, delivered.totalAllocations, delivered.allocatedCount,
    delivered.messagesParsed, delivered.partialBuffer, ?_, delivered.others⟩
  · rw [parse_new pool now clock outside filled, ran]
  · rw [delivered.freeList, List.take_append_drop]
  · intro index wire slot sent taken
    exact ⟨_, delivered.delivered index wire slot sent taken, fun tag => getField_decoded tag _⟩

theorem parse_delivers_stream_heartbeats :
    ∃ result after,
      (new samplePool {} 0).parse sampleClock Memory.unmapped
          (streamBytes [sampleHeartbeat, sampleHeartbeat]) = .ok (result, after) ∧
        result.status = .success ∧ result.bytesConsumed = 110 ∧ after.stats.messagesParsed = 2 := by
  obtain ⟨result, after, slots, ran, success, consumed, _, _, _, _, _, counted, _⟩ :=
    parse_delivers_stream samplePool 0 sampleClock unmapped
      (by decide : [sampleHeartbeat, sampleHeartbeat] ≠ []) (by decide) (by decide) (by decide)
      (by decide) (by decide)
  exact ⟨result, after, ran, success, consumed.trans (by decide), counted⟩

theorem parse_unaccepted {left : MessagePool FixMessage}
    (tolerant : 0 < config.maxConsecutiveErrors) (below : number < 256)
    (fits : (wire.body.length : Int) ≤ wrapInt config.maxMessageSize) (fails : status ≠ .success)
    (called : parseCompleteMessage config clock pool (overlay (wire.sealed number) outside)
      wire.frame.length = .ok (.returned (.without status 0 detail .idle), left)) :
    ∃ after, (new pool config now).parse clock outside (wire.sealed number) =
        .ok (.without status 0 detail .idle, after) ∧
      after.messagePool = left ∧ after.stats.messagesParsed = 0 ∧ after.partialBuffer = [] := by
  have limit := (wrapInt_bounds config.maxMessageSize).2
  have size := wire.length_sealed (lt_trans below (by decide))
  have short : wire.frame.length < 2 ^ 31 + 23 := length_frame_lt (by omega)
  have filled : 0 < (wire.sealed number).length := by omega
  have held : (overlay (wire.sealed number) outside).Holds (0 : Nat) (wire.sealed number) :=
    overlay_holds _ _
  have readable : (overlay (wire.sealed number) outside).Readable 0
      ((wire.sealed number).length : Nat) :=
    held.readable.mono (by omega) (by omega)
  rw [← shift_zero (overlay (wire.sealed number) outside)] at called
  obtain ⟨after, stepped, kept⟩ :=
    parseStep_unaccepted (new pool config now) clock none fits held.left.left
      (by omega : 0 + wire.frame.length ≤ (wire.sealed number).length) (by omega) readable
      called fails
  refine ⟨after, ?_, kept.messagePool, kept.messagesParsed, kept.partialBuffer⟩
  rw [parse_accepting (accepting_new tolerant) (List.length_pos_iff.mp filled) (.inl rfl)]
  change (new pool config now).parseAvailable clock outside (wire.sealed number) = _
  rw [parseAvailable, parseLoop, if_pos filled, stepped]
  rfl

theorem parse_rejected (tolerant : 0 < config.maxConsecutiveErrors) (below : number < 256)
    (fits : (wire.body.length : Int) ≤ wrapInt config.maxMessageSize) (free : pool.available 1)
    (fails : status ≠ .success)
    (rejected : ∀ {memory : Memory}, memory.Holds 0 (wire.checked number) → ∀ first second,
      decodeFrame config memory wire.frame.length (FixMessage.new first) (FixMessage.new second) =
        .ok (.failure (.without status 0 detail .idle))) :
    ∃ after, (new pool config now).parse clock outside (wire.sealed number) =
        .ok (.without status 0 detail .idle, after) ∧
      after.messagePool.objects = pool.objects ∧ after.messagePool.freeList = pool.freeList ∧
      after.stats.messagesParsed = 0 ∧ after.partialBuffer = [] := by
  have held := overlay_holds (wire.sealed number) outside
  have positive : 0 < wire.frame.length := by
    rw [WireMessage.length_frame]
    omega
  obtain ⟨slot, rest, chain, _⟩ := MessagePool.exists_chain free
  obtain ⟨answer, left, called, ⟨⟩ | slots | ⟨⟩⟩ :=
    parseCompleteMessage_decodes positive free.1 chain (rejected held.left _ _)
  obtain ⟨after, ran, rfl, counted, stored⟩ :=
    parse_unaccepted pool now clock outside tolerant below fits fails called
  exact ⟨after, ran, slots.objects, slots.freeList, counted, stored⟩

/-- A message of any other type is rejected: the generic decoder does not find
the checksum field in the frame, and no slot stays in use. -/
theorem parse_rejects_generic {wire : WireMessage}
    (generic : wire.msgType ∉ [ascii "8", ascii "0", ascii "9", ascii "3", ascii "1", ascii "2"])
    (fits : wire.body.length ≤ 8192) (free : pool.available 1) :
    ∃ after, (new pool {} now).parse clock outside wire.bytes =
        .ok (.without .invalidFormat 0 (ascii "Message validation failed") .idle, after) ∧
      after.messagePool.objects = pool.objects ∧ after.messagePool.freeList = pool.freeList ∧
      after.stats.messagesParsed = 0 ∧ after.partialBuffer = [] := by
  have limit : wrapInt ({} : ParserConfig).maxMessageSize = (8192 : Nat) := by decide
  refine parse_rejected pool now clock outside (by decide) (checksum_lt _)
    (limit ▸ Int.ofNat_le.mpr fits) free nofun fun held _ _ => ?_
  exact decodeFrame_generic (forMsgType_of_notMem generic) rfl held.left

theorem parse_rejects_generic_logon :
    ∃ after, (new samplePool {} 0).parse sampleClock Memory.unmapped sampleLogon.bytes =
        .ok (.without .invalidFormat 0 (ascii "Message validation failed") .idle, after) ∧
      after.stats.messagesParsed = 0 := by
  obtain ⟨after, ran, _, _, counted, _⟩ :=
    parse_rejects_generic samplePool 0 sampleClock unmapped
      (by decide : sampleLogon.msgType ∉ _) (by decide) (by decide)
  exact ⟨after, ran, counted⟩

/-- A standard Logon is not decoded. -/
theorem parse_logon_fails :
    ((new samplePool {} 0).parse sampleClock Memory.unmapped sampleLogon.bytes).toOption.map
      (fun outcome => (outcome.1.status, outcome.1.parsedMessage)) =
        some (.invalidFormat, none) := by
  decide +kernel

end StreamFixParser

end FixGateway.Protocol
