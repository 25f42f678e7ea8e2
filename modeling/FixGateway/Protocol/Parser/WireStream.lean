import FixGateway.Protocol.Parser.Calls
import FixGateway.Protocol.Parser.WireDecode

/-! # Streams of well-formed messages

What the message loop does on well-formed messages with a specialised decoder:
one round decodes one message into the next free slot and moves the cursor to the
first byte after it, so a run over a concatenation of messages decodes them in
order, each into a slot of its own.
-/

namespace FixGateway.Protocol

open ByteScan FixGateway.Common OptimizedParser

namespace WireMessage

variable {msgType : Bytes} {wire : WireMessage} {config : ParserConfig}

/-- The message types with a specialised decoder. -/
def specialisedTypes : List Bytes :=
  [ascii "8", ascii "0", ascii "9", ascii "3", ascii "1", ascii "2"]

theorem forMsgType_of_mem (member : msgType ∈ specialisedTypes) :
    ∃ decoder, forMsgType msgType = some decoder := by
  have all : ∀ msgType ∈ specialisedTypes, (forMsgType msgType).isSome := by decide
  exact Option.isSome_iff_exists.mp (all msgType member)

theorem forMsgType_of_notMem (absent : msgType ∉ specialisedTypes) : forMsgType msgType = none := by
  have types : OptimizedParser.specialised.map OptimizedParser.msgType = specialisedTypes := rfl
  unfold forMsgType
  rw [List.find?_eq_none]
  intro decoder member same
  rw [decide_eq_true_eq] at same
  exact absent (same ▸ types ▸ List.mem_map_of_mem member)

/-- A message that the parser decodes with a specialised decoder: its type has
one, its body is within the limit, and it is long enough. -/
structure Ready (wire : WireMessage) (config : ParserConfig) : Prop where
  specialised : wire.msgType ∈ specialisedTypes
  fits : (wire.body.length : Int) ≤ wrapInt config.maxMessageSize
  long : 40 ≤ wire.frame.length

theorem Ready.small (ready : wire.Ready config) : wire.body.length < 2 ^ 31 := by
  have fits := ready.fits
  have limit := (wrapInt_bounds config.maxMessageSize).2
  omega

theorem Ready.decoder (ready : wire.Ready config) : ∃ decoder, wire.DecodedBy decoder := by
  obtain ⟨decoder, found⟩ := forMsgType_of_mem ready.specialised
  exact ⟨decoder, found, ready.small, ready.long⟩

theorem ready_of_le
    (limit : config.maxMessageSize = 8192) (specialised : wire.msgType ∈ specialisedTypes)
    (fits : wire.body.length ≤ 8192) (long : 40 ≤ wire.frame.length) : wire.Ready config := by
  refine ⟨specialised, ?_, long⟩
  have same : wrapInt (8192 : Nat) = (8192 : Nat) := by decide
  rw [limit, same]
  exact Int.ofNat_le.mpr fits

end WireMessage

/-- A heartbeat. -/
def sampleHeartbeat : WireMessage where
  msgType := ascii "0"
  fields := [⟨34, ascii "7", by decide, by decide, by decide⟩,
    ⟨49, ascii "EXCHANGE", by decide, by decide, by decide⟩,
    ⟨56, ascii "GATEWAY", by decide, by decide, by decide⟩]
  typed := by decide
  noSoh := by decide
  plain := by decide

/-- A Logon. -/
def sampleLogon : WireMessage where
  msgType := ascii "A"
  fields := [⟨34, ascii "1", by decide, by decide, by decide⟩,
    ⟨49, ascii "EXCHANGE", by decide, by decide, by decide⟩,
    ⟨56, ascii "GATEWAY", by decide, by decide, by decide⟩,
    ⟨98, ascii "0", by decide, by decide, by decide⟩,
    ⟨108, ascii "30", by decide, by decide, by decide⟩]
  typed := by decide
  noSoh := by decide
  plain := by decide

def samplePool : MessagePool FixMessage := MessagePool.new FixMessage 4 (by decide)

def sampleClock : Clock := ⟨0, fun _ => ⟨2025, 1, 1, 0, 0, 0, 0⟩⟩

namespace StreamFixParser

variable {clock : Clock} {memory : Memory} {length cursor fuel : Nat} {parser : StreamFixParser}
  {lastSuccess : Option ParseResult} {rest slots : List Nat} {wire : WireMessage}
  {before middle after : StreamFixParser} {wires : List WireMessage}

/-- What the loop leaves of a parser that has delivered the given messages into
the given slots. -/
structure Delivered (clock : Clock) (before after : StreamFixParser) (wires : List WireMessage)
    (slots rest : List Nat) : Prop where
  config : after.config = before.config
  partialBuffer : after.partialBuffer = before.partialBuffer
  messagesParsed : after.stats.messagesParsed = before.stats.messagesParsed + wires.length
  accepting : Accepting before → Accepting after
  freeList : after.messagePool.freeList = rest
  isShutdown : after.messagePool.isShutdown = before.messagePool.isShutdown
  totalAllocations :
    after.messagePool.totalAllocations = before.messagePool.totalAllocations + wires.length
  allocatedCount :
    after.messagePool.allocatedCount = before.messagePool.allocatedCount + wires.length
  delivered : ∀ index (wire : WireMessage) (slot : Nat), wires[index]? = some wire →
    slots[index]? = some slot →
      after.messagePool.objects slot = some (wire.decoded (checksum wire.frame)
        (clock.utc (before.messagePool.totalAllocations + index)))
  others : ∀ slot, slot ∉ slots →
    after.messagePool.objects slot = before.messagePool.objects slot

/-- One round that frames a well-formed message delivers it into the next free slot. The cursor
moves on by the length of the message, wherever that was found. -/
theorem parseStep_framed (clock : Clock) (lastSuccess : Option ParseResult) {framing : Framing}
    {slot : Nat} (ready : wire.Ready parser.config)
    (framed : parser.frameAt memory length cursor = .ok framing)
    (success : framing.result.status = .success)
    (frameLength : (framing.messageEnd - framing.messageStart).toNat = wire.frame.length)
    (held : ((memory.shift cursor).shift framing.messageStart).Holds 0
      (wire.checked (checksum wire.frame))) (bound : cursor + wire.frame.length < 2 ^ 63)
    (running : parser.messagePool.isShutdown = false)
    (chain : parser.messagePool.freeList = slot :: rest) :
    ∃ result after, parser.parseStep clock memory length cursor lastSuccess =
        .ok (.next (cursor + (wire.frame.length + 7)) (some result), after) ∧
      result.status = .success ∧ result.bytesConsumed = cursor + (wire.frame.length + 7) ∧
      result.parsedMessage = some slot ∧ Delivered clock parser after [wire] [slot] rest := by
  obtain ⟨decoder, handled⟩ := ready.decoder
  have called :
      parseCompleteMessage parser.config clock parser.messagePool _ wire.frame.length = _ :=
    WireMessage.parseCompleteMessage_accepted handled (checksum_lt wire.frame) (fun _ => rfl) held
      running chain
  rw [← frameLength] at called
  have position : wrapSize (cursor + (wire.acceptance decoder slot).bytesConsumed) =
      cursor + (wire.frame.length + 7) := by
    change wrapSize ((cursor : Int) + (wire.frame.length + 7 : Nat)) = _
    rw [wrapSize_of_bounds (by omega) (by omega)]
    omega
  have stepped : parser.parseStep clock memory length cursor lastSuccess = _ :=
    parseStep_decoded lastSuccess framed success called rfl
  rw [position] at stepped
  refine ⟨_, _, stepped, rfl, position, rfl, ?_⟩
  refine ⟨rfl, rfl, rfl, fun accepting => accepting.noteDecoded, rfl, rfl, rfl, rfl, ?_, ?_⟩
  · intro index other place sent taken
    cases index with
    | zero =>
      cases sent
      cases taken
      exact Function.update_self _ _ _
    | succ index => cases sent
  · intro other absent
    exact Function.update_of_ne (fun same => absent (List.mem_singleton.mpr same)) _ _

/-- One round on a well-formed message delivers it into the next free slot. -/
theorem parseStep_wire (clock : Clock) (lastSuccess : Option ParseResult) {slot : Nat}
    (ready : wire.Ready parser.config)
    (held : memory.Holds cursor (wire.checked (checksum wire.frame)))
    (inside : cursor + wire.frame.length ≤ length) (bound : cursor + wire.frame.length < 2 ^ 63)
    (running : parser.messagePool.isShutdown = false)
    (chain : parser.messagePool.freeList = slot :: rest) :
    ∃ result after, parser.parseStep clock memory length cursor lastSuccess =
        .ok (.next (cursor + (wire.frame.length + 7)) (some result), after) ∧
      result.status = .success ∧ result.bytesConsumed = cursor + (wire.frame.length + 7) ∧
      result.parsedMessage = some slot ∧ Delivered clock parser after [wire] [slot] rest := by
  obtain ⟨framing, framed, success, same, frameLength⟩ :=
    WireMessage.framed_at held.left inside ready.fits
  refine parseStep_framed clock lastSuccess ready framed success frameLength ?_ bound running chain
  rw [same, Memory.holds_shift, add_zero]
  exact held

theorem parseStep_unaccepted (parser : StreamFixParser) (clock : Clock)
    (lastSuccess : Option ParseResult) {status : ParseStatus} {detail : Bytes}
    {pool : MessagePool FixMessage}
    (fits : (wire.body.length : Int) ≤ wrapInt parser.config.maxMessageSize)
    (held : memory.Holds cursor wire.frame) (inside : cursor + wire.frame.length ≤ length)
    (bound : length < 2 ^ 63) (readable : memory.Readable 0 length)
    (called : parseCompleteMessage parser.config clock parser.messagePool (memory.shift cursor)
      wire.frame.length = .ok (.returned (.without status 0 detail .idle), pool))
    (fails : status ≠ .success) :
    ∃ after, parser.parseStep clock memory length cursor lastSuccess =
        .ok (.leave (.returned (.without status cursor detail .idle)), after) ∧
      Keeps (parser.withPool pool) after := by
  obtain ⟨framing, framed, success, same, frameLength⟩ := WireMessage.framed_at held inside fits
  rw [← same, ← frameLength] at called
  obtain ⟨after, ok, kept⟩ := parseStep_undecoded lastSuccess (by omega : cursor ≤ length)
    readable framed success called fails
  have position : wrapSize ((cursor : Int) + (0 : Nat)) = cursor := by
    rw [wrapSize_of_bounds (by omega) (by omega)]
    omega
  refine ⟨after, ?_, kept⟩
  rw [ok, movedTo]
  simp only [ParseResult.without, position]

theorem Delivered.refl (clock : Clock) (parser : StreamFixParser) :
    Delivered clock parser parser [] [] parser.messagePool.freeList := by
  refine ⟨rfl, rfl, rfl, id, rfl, rfl, rfl, rfl, ?_, fun _ _ => rfl⟩
  intro index wire slot sent
  cases sent

theorem Delivered.append {front back : List WireMessage} {others : List Nat}
    (first : Delivered clock before middle front slots (others ++ rest))
    (second : Delivered clock middle after back others rest) (size : slots.length = front.length)
    (disjoint : ∀ slot ∈ slots, slot ∉ others) :
    Delivered clock before after (front ++ back) (slots ++ others) rest := by
  refine ⟨second.config.trans first.config, second.partialBuffer.trans first.partialBuffer, ?_,
    second.accepting ∘ first.accepting, second.freeList, second.isShutdown.trans first.isShutdown,
      ?_, ?_, ?_, ?_⟩
  · rw [second.messagesParsed, first.messagesParsed, List.length_append, Nat.add_assoc]
  · rw [second.totalAllocations, first.totalAllocations, List.length_append, Nat.add_assoc]
  · rw [second.allocatedCount, first.allocatedCount, List.length_append, Nat.add_assoc]
  · intro index wire slot sent taken
    by_cases early : index < front.length
    · rw [List.getElem?_append_left early] at sent
      rw [List.getElem?_append_left (by omega)] at taken
      rw [second.others slot (disjoint slot (List.mem_of_getElem? taken))]
      exact first.delivered index wire slot sent taken
    · rw [List.getElem?_append_right (by omega)] at sent taken
      rw [size] at taken
      have placed := second.delivered _ wire slot sent taken
      rwa [first.totalAllocations, Nat.add_assoc, Nat.add_sub_cancel' (by omega)] at placed
  · intro slot absent
    rw [List.mem_append, not_or] at absent
    rw [second.others slot absent.2, first.others slot absent.1]

theorem Delivered.cons {slot : Nat}
    (first : Delivered clock before middle [wire] [slot] (slots ++ rest))
    (second : Delivered clock middle after wires slots rest)
    (chain : before.messagePool.freeList = slot :: (slots ++ rest)) :
    Delivered clock before after (wire :: wires) (slot :: slots) rest := by
  refine first.append second rfl fun taken same => ?_
  have nodup := before.messagePool.nodup
  rw [chain, List.nodup_cons, List.mem_append, not_or] at nodup
  rw [List.mem_singleton.mp same]
  exact nodup.1.1

/-- The bytes of a list of messages. -/
def streamBytes (wires : List WireMessage) : Bytes := wires.flatMap WireMessage.bytes

@[simp] theorem streamBytes_nil : streamBytes [] = [] := rfl

@[simp] theorem streamBytes_cons (wire : WireMessage) (wires : List WireMessage) :
    streamBytes (wire :: wires) = wire.bytes ++ streamBytes wires :=
  rfl

/-- The loop delivers a concatenation of messages in order, each into the next
free slot, and goes on behind them with the result of the last one. -/
theorem parseLoop_wires (clock : Clock) (fuel : Nat) (wires : List WireMessage)
    (lastSuccess : Option ParseResult) (ready : ∀ wire ∈ wires, wire.Ready parser.config)
    (held : memory.Holds cursor (streamBytes wires))
    (inside : cursor + (streamBytes wires).length ≤ length)
    (bound : cursor + (streamBytes wires).length < 2 ^ 63)
    (running : parser.messagePool.isShutdown = false)
    (chain : parser.messagePool.freeList = slots ++ rest) (size : slots.length = wires.length) :
    ∃ result after, parseLoop clock memory length (wires.length + fuel) parser cursor lastSuccess =
        parseLoop clock memory length fuel after (cursor + (streamBytes wires).length) result ∧
      Delivered clock parser after wires slots rest ∧ (wires = [] → result = lastSuccess) ∧
      (wires ≠ [] → ∃ last, result = some last ∧ last.status = .success ∧
        last.bytesConsumed = cursor + (streamBytes wires).length ∧
        last.parsedMessage = slots.getLast?) := by
  induction wires generalizing parser cursor lastSuccess slots with
  | nil =>
    rw [List.length_nil, List.length_eq_zero_iff] at size
    subst size
    rw [List.nil_append] at chain
    refine ⟨lastSuccess, parser, by simp, ?_, fun _ => rfl, fun nonempty => absurd rfl nonempty⟩
    exact chain ▸ Delivered.refl clock parser
  | cons wire wires ih =>
    cases slots with
    | nil => cases size
    | cons slot slots =>
      rw [List.forall_mem_cons] at ready
      rw [streamBytes_cons] at held inside bound ⊢
      rw [List.length_append, WireMessage.length_bytes] at inside bound ⊢
      obtain ⟨result, middle, stepped, success, consumed, placed, first⟩ :=
        parseStep_wire clock lastSuccess ready.1 held.left.left
          (by omega : cursor + wire.frame.length ≤ length) (by omega) running chain
      have later : ∀ wire ∈ wires, wire.Ready middle.config := by
        rw [first.config]
        exact ready.2
      have behind : memory.Holds (cursor + (wire.frame.length + 7) : Nat)
          (streamBytes wires) := by
        have right := held.right
        rw [WireMessage.length_bytes] at right
        exact_mod_cast right
      obtain ⟨last, after, ran, second, empty, nonempty⟩ := ih (some result) later
        behind (by omega) (by omega) (first.isShutdown.trans running) first.freeList
        (Nat.succ_inj.mp size)
      refine ⟨last, after, ?_, first.cons second chain, (nomatch ·), ?_⟩
      · rw [List.length_cons, Nat.succ_add, parseLoop, if_pos (by omega), stepped]
        simp only [bind, Except.bind, ran, Nat.add_assoc]
      · intro _
        by_cases final : wires = []
        · subst final
          rw [List.length_cons, List.length_cons, Nat.succ_inj, List.length_nil,
            List.length_eq_zero_iff] at size
          subst size
          exact ⟨result, empty rfl, success, by simpa using consumed, by simpa using placed⟩
        · obtain ⟨found, is, succeeded, position, message⟩ := nonempty final
          refine ⟨found, is, succeeded, by omega, ?_⟩
          cases slots with
          | nil => exact absurd (List.length_eq_zero_iff.mp (Nat.succ_inj.mp size).symm) final
          | cons other slots => rw [message, List.getLast?_cons_cons]

theorem parseAvailable_wires (parser : StreamFixParser) (clock : Clock) (outside : Memory)
    (nonempty : wires ≠ []) (ready : ∀ wire ∈ wires, wire.Ready parser.config)
    (bound : (streamBytes wires).length < 2 ^ 63) (running : parser.messagePool.isShutdown = false)
    (chain : parser.messagePool.freeList = slots ++ rest) (size : slots.length = wires.length) :
    ∃ result after, parser.parseAvailable clock outside (streamBytes wires) = .ok (result, after) ∧
      result.status = .success ∧ result.bytesConsumed = (streamBytes wires).length ∧
      result.parsedMessage = slots.getLast? ∧ Delivered clock parser after wires slots rest := by
  have held : (Memory.overlay (streamBytes wires) outside).Holds (0 : Nat) (streamBytes wires) :=
    Memory.overlay_holds _ _
  obtain ⟨last, after, ran, delivered, -, final⟩ :=
    parseLoop_wires clock (rest.length + 1) wires none ready held
      (by omega : 0 + (streamBytes wires).length ≤ (streamBytes wires).length) (by omega) running
      chain size
  obtain ⟨result, rfl, success, consumed, message⟩ := final nonempty
  refine ⟨result, after, ?_, success, by omega, message, delivered⟩
  unfold parseAvailable
  rw [chain, List.length_append, size, Nat.add_assoc, ran, Nat.zero_add, parseLoop,
    if_neg (lt_irrefl _)]
  rfl

end StreamFixParser

end FixGateway.Protocol
