import FixGateway.Protocol.Parser.Independence
import FixGateway.Protocol.Parser.Slots
import FixGateway.Protocol.Parser.WireStream

/-! # What a rejected frame costs

The decoders give their message back on every error that they report. There is one way out
on which they do not: `std::stoi` throws when it finds no number in the checksum field, and
then the slot stays in use. A frame can also be accepted and its message not be returned,
when the bytes that the decoder consumed do not reach the end of the buffer: then the loop
goes on, and a later result replaces the message.
-/

namespace FixGateway.Protocol

open ByteScan FixGateway.Common Memory

section Throwing

variable {decoder : OptimizedParser} {config : ParserConfig} {memory : Memory} {length : Nat}
  {message : FixMessage} {exit : DecodeExit FixMessage} {validate : Bool}

/-- A decoder throws exactly on a checksum field without a number. -/
theorem OptimizedParser.readChecksum_thrown_iff {bodyEnd : Int}
    (ok : decoder.readChecksum validate memory bodyEnd message = .ok exit) :
    (∃ left what, exit = .thrown left what) ↔
      validate = true ∧ ∃ trailer, memory.Holds bodyEnd (ascii "10=" ++ trailer) ∧
        trailer.length = 3 ∧ stoi trailer = none := by
  have label : ((ascii "10=").length : Int) = 3 := by decide
  cases validate with
  | false =>
    obtain ⟨_, _, ok⟩ := bind_ok.mp ok
    cases ok
    exact iff_of_false nofun nofun
  | true =>
    obtain ⟨started, found, ok⟩ := bind_ok.mp ok
    cases started with
    | false =>
      cases ok
      refine iff_of_false nofun ?_
      rintro ⟨_, trailer, held, _⟩
      rw [startsAt_true held.left] at found
      cases found
    | true =>
      obtain ⟨checksum, sliced, ok⟩ := bind_ok.mp ok
      obtain ⟨calculated, _, ok⟩ := bind_ok.mp ok
      obtain ⟨held, three⟩ := slice_ok_iff.mp sliced
      have front := startsAt_true_iff.mp found
      dsimp only at ok
      cases read : stoi checksum with
      | none =>
        rw [read] at ok
        cases ok
        refine iff_of_true ⟨_, _, rfl⟩ ⟨rfl, checksum, ?_, three, read⟩
        rw [holds_append, label]
        exact ⟨front, held⟩
      | some received =>
        rw [read] at ok
        refine iff_of_false ?_ ?_
        · rintro ⟨_, _, rfl⟩
          dsimp only at ok
          split at ok <;> cases ok
        · rintro ⟨_, trailer, both, size, unread⟩
          have right := both.right
          rw [label] at right
          rw [right.eq_of_length held (size.trans three.symm), read] at unread
          cases unread

/-- The checksum field after the body that BodyLength at offset 12 announces, in which
`std::stoi` finds no number. -/
structure Unreadable (memory : Memory) (length : Nat) (digits : Bytes) (fields : List RawField)
    (trailer : Bytes) : Prop where
  nonempty : digits ≠ []
  all : ∀ byte ∈ digits, isDigit byte = true
  offset : memory.Holds 12 (digits ++ [soh])
  inside : 12 + digits.length < length
  body : memory.Holds (12 + digits.length + 1) (fieldsText fields)
  size : (fieldsText fields).length = (foldDigits digits).toNat
  field : memory.Holds (12 + digits.length + 1 + foldDigits digits) (ascii "10=" ++ trailer)
  three : trailer.length = 3
  noNumber : stoi trailer = none

theorem OptimizedParser.decode_thrown_iff
    (ok : decoder.decode validate memory length message = .ok exit) :
    (∃ left what, exit = .thrown left what) ↔
      validate = true ∧
        ∃ digits fields trailer, Unreadable memory length digits fields trailer := by
  constructor
  · rintro ⟨left, what, rfl⟩
    obtain ⟨digits, offset, nonempty, all, inside, ok⟩ := decode_reads ok nofun
    obtain ⟨fields, body, size, ok⟩ := readBody_reads ok nofun
    obtain ⟨validates, trailer, field, three, noNumber⟩ :=
      (readChecksum_thrown_iff ok).mp ⟨left, what, rfl⟩
    rw [add_sub_cancel_left] at size
    exact ⟨validates, digits, fields, trailer, nonempty, all, offset, inside, body, size, field,
      three, noNumber⟩
  · rintro ⟨validates, digits, fields, trailer, bad⟩
    rw [decode_fields fields bad.nonempty bad.all bad.offset bad.inside bad.body bad.size] at ok
    exact (readChecksum_thrown_iff ok).mpr
      ⟨validates, trailer, bad.field, bad.three, bad.noNumber⟩

/-- A specialised decoder comes to an unreadable checksum field of the frame. -/
def ChecksumThrows (config : ParserConfig) (memory : Memory) (length : Nat) : Prop :=
  ∃ msgType decoder, extractMsgType memory length = .ok msgType ∧
    OptimizedParser.forMsgType msgType = some decoder ∧
    decoder.checkStructure memory length = .ok none ∧ config.validateChecksum = true ∧
    ∃ digits fields trailer, Unreadable memory length digits fields trailer

theorem decodeMessage_returns {startPos endPos : Nat} :
    Ensures (decodeMessage config memory startPos endPos message)
      (fun exit => ∀ left what, exit ≠ .thrown left what) := by
  refine .bind fun fields _ => ?_
  cases fields with
  | malformed position problem => exact .ok nofun
  | finished message =>
    refine .ite (fun _ => .ok nofun) fun _ => .ite (fun _ => ?_) fun _ => .ok nofun
    exact .bind fun _ _ => .ite (fun _ => .ok nofun) fun _ => .ok nofun

/-- Decoding a frame throws exactly if a specialised decoder comes to an unreadable field. -/
theorem decodeFrame_thrown_iff {first second : FixMessage}
    (ok : decodeFrame config memory length first second = .ok exit) :
    (∃ left what, exit = .thrown left what) ↔ ChecksumThrows config memory length := by
  cases decodeFrame_decided _ ok with
  | specialised extracted found checked decoded _ =>
    rw [OptimizedParser.decode_thrown_iff decoded]
    constructor
    · intro bad
      exact ⟨_, _, extracted, found, checked, bad⟩
    · rintro ⟨msgType, decoder, also, known, _, bad⟩
      cases extracted.symm.trans also
      cases found.symm.trans known
      exact bad
  | generic decoded refused =>
    refine iff_of_false ?_ ?_
    · rintro ⟨left, what, thrown⟩
      exact decodeMessage_returns _ decoded left what thrown
    · -- a decoder that throws has not failed
      rintro ⟨msgType, decoder, extracted, found, checked, bad⟩
      obtain ⟨result, failed⟩ := refused msgType decoder extracted found checked
      obtain ⟨left, what, thrown⟩ := (OptimizedParser.decode_thrown_iff failed).mpr bad
      cases thrown

end Throwing

/-- One of the decoders accepts the frame and consumes so many bytes. -/
def FrameAccepted (config : ParserConfig) (memory : Memory) (length bytesConsumed : Nat) : Prop :=
  ∃ first second message detail,
    decodeFrame config memory length (FixMessage.new first) (FixMessage.new second) =
      .ok (.success message bytesConsumed detail)

/-- Whether a frame is accepted does not depend on when its message is constructed. -/
theorem frameAccepted_iff {config : ParserConfig} {memory : Memory} {length bytesConsumed : Nat}
    {first second : UtcTime} {exit : DecodeExit FixMessage}
    (ok : decodeFrame config memory length (FixMessage.new first) (FixMessage.new second) =
      .ok exit) :
    FrameAccepted config memory length bytesConsumed ↔
      ∃ message detail, exit = .success message bytesConsumed detail := by
  constructor
  · rintro ⟨earlier, later, message, detail, accepted⟩
    obtain ⟨outcome, uniform⟩ := decodeFrame_uniform config memory length
    obtain ⟨time, here⟩ := uniform first second
    obtain ⟨other, there⟩ := uniform earlier later
    rw [accepted] at there
    rw [ok] at here
    cases outcome with
    | error fault => cases there
    | ok shape =>
      cases shape with
      | success fields consumed text =>
        cases here
        cases there
        exact ⟨_, _, rfl⟩
      | failure result => cases there
      | thrown fields what => cases there
  · rintro ⟨message, detail, rfl⟩
    exact ⟨first, second, message, detail, ok⟩

namespace StreamFixParser

variable {parser next after : StreamFixParser} {clock : Clock} {memory outside : Memory}
  {length cursor : Nat} {result : ParseResult} {framing : Framing} {step : LoopStep} {bytes : Bytes}
  {bytesConsumed : Nat}

theorem Round.called (round : Round clock memory length cursor parser step next)
    (framed : parser.frameAt memory length cursor = .ok framing)
    (success : framing.result.status = .success) :
    ∃ answer, parser.decodeAt clock memory cursor framing = .ok (answer, next.messagePool) := by
  cases round with
  | waited also waits =>
    cases framed.symm.trans also
    cases success.symm.trans waits
  | unframed also _ fails =>
    cases framed.symm.trans also
    exact absurd success fails
  | threw also _ called =>
    cases framed.symm.trans also
    exact ⟨_, called⟩
  | decoded also _ called _ =>
    cases framed.symm.trans also
    exact ⟨_, called⟩
  | undecoded also _ called _ kept =>
    cases framed.symm.trans also
    rw [kept.messagePool]
    exact ⟨_, called⟩

/-- A round on a frame takes a slot exactly if there is one and the frame is accepted or its
checksum throws. -/
theorem Round.takes_iff (round : Round clock memory length cursor parser step next)
    (framed : parser.frameAt memory length cursor = .ok framing)
    (success : framing.result.status = .success) :
    MessagePool.newSlots parser.messagePool next.messagePool = [] ↔
      ¬ (parser.messagePool.available 1 ∧
        (ChecksumThrows parser.config ((memory.shift cursor).shift framing.messageStart)
            (framing.messageEnd - framing.messageStart).toNat ∨
          ∃ bytesConsumed, FrameAccepted parser.config
            ((memory.shift cursor).shift framing.messageStart)
            (framing.messageEnd - framing.messageStart).toNat bytesConsumed)) := by
  have positive := frame_positive framed success
  obtain ⟨answer, called⟩ := round.called framed success
  by_cases free : parser.messagePool.available 1
  · obtain ⟨slot, rest, chain, _⟩ := MessagePool.exists_chain free
    obtain ⟨exit, decodes, settles⟩ := parseCompleteMessage_settles positive free.1 chain called
    simp only [← decodeFrame_thrown_iff decodes, frameAccepted_iff decodes, and_iff_right free]
    cases settles with
    | success taken =>
      rw [taken.newSlots chain]
      exact iff_of_false nofun (not_not.mpr (.inr ⟨_, _, _, rfl⟩))
    | failure same =>
      rw [same.newSlots]
      exact iff_of_true rfl (not_or.mpr ⟨nofun, nofun⟩)
    | thrown taken =>
      rw [taken.newSlots chain]
      exact iff_of_false nofun (not_not.mpr (.inl ⟨_, _, rfl⟩))
  · obtain ⟨_, same⟩ := parseCompleteMessage_refused positive free _ called
    exact iff_of_true same.newSlots fun both => free both.1

theorem parseAvailable_first (filled : 0 < bytes.length)
    (ok : parser.parseAvailable clock outside bytes = .ok (result, after)) :
    ∃ step next, parser.parseStep clock (overlay bytes outside) bytes.length 0 none =
        .ok (step, next) ∧ next.messagePool.Grown after.messagePool ∧
      ((∃ exit, step = .leave exit) → after.messagePool = next.messagePool) := by
  obtain ⟨⟨exit, left⟩, looped, ok⟩ := bind_ok.mp ok
  have kept : after.messagePool = left.messagePool := by
    cases exit with
    | returned answer =>
      cases ok
      rfl
    | thrown what =>
      cases ok
      rfl
  rw [kept]
  rw [parseLoop, if_pos filled] at looped
  obtain ⟨⟨step, next⟩, stepped, looped⟩ := bind_ok.mp looped
  refine ⟨step, next, stepped, ?_⟩
  cases step with
  | leave answer =>
    cases looped
    exact ⟨.refl _, fun _ => rfl⟩
  | next position last =>
    have kept : ∀ {cursor : Nat} {before : StreamFixParser} {step : LoopStep}
        {after : StreamFixParser}, next.messagePool.Grown before.messagePool →
        Round clock (overlay bytes outside) bytes.length cursor before step after →
        next.messagePool.Grown after.messagePool :=
      fun grown round => grown.trans round.takes_slots.1
    refine ⟨parseLoop_preserves kept (.refl _) looped, ?_⟩
    rintro ⟨exit, leaves⟩
    cases leaves

theorem parseAvailable_count_iff
    (ok : parser.parseAvailable clock outside bytes = .ok (result, after))
    (stepped : parser.parseStep clock (overlay bytes outside) bytes.length 0 none =
      .ok (step, next)) (filled : 0 < bytes.length) :
    after.messagePool.allocatedCount = parser.messagePool.allocatedCount ↔
      MessagePool.newSlots parser.messagePool next.messagePool = [] := by
  obtain ⟨_, _, again, later, leaves⟩ := parseAvailable_first filled ok
  cases stepped.symm.trans again
  obtain ⟨grown, takes⟩ := (parseStep_round stepped).takes_slots
  rw [(grown.trans later).allocatedCount, Nat.add_eq_left, List.length_eq_zero_iff]
  constructor
  · intro none
    apply List.eq_nil_iff_forall_not_mem.mpr
    intro slot taken
    obtain ⟨alive, unused⟩ := MessagePool.mem_newSlots.mp taken
    have still := MessagePool.mem_newSlots.mpr ⟨later.live slot alive, unused⟩
    rw [none] at still
    cases still
  · intro none
    cases takes with
    | nothing => rw [leaves ⟨_, rfl⟩, none]
    | lost _ => rw [leaves ⟨_, rfl⟩, none]
    | message _ _ _ new =>
      rw [new] at none
      cases none

theorem decodeFrame_consumes_lt {config : ParserConfig} {first second message : FixMessage}
    {detail : Bytes} (bound : length < 2 ^ 64) (ok : decodeFrame config memory length first second =
      .ok (.success message bytesConsumed detail)) : bytesConsumed < 2 ^ 64 := by
  rcases decodeFrame_success ok with same | ⟨_, decoder, _, _, _, decoded⟩
  · omega
  · obtain ⟨digits, _, _, _, _, read⟩ := OptimizedParser.decode_reads decoded nofun
    rw [OptimizedParser.readBody_consumes _ read _ _ _ rfl]
    exact wrapSize_lt _

/-- A call that returns no message although it has decoded one was not at the end of its
bytes. -/
theorem accepted_before_end (bound : bytes.length < 2 ^ 63)
    (framed : findCompleteMessage ((overlay bytes outside).shift (0 : Nat))
      parser.config.maxMessageSize (bytes.length - 0) = .ok framing)
    (success : framing.result.status = .success) (free : parser.messagePool.available 1)
    (accepted : FrameAccepted parser.config
      (((overlay bytes outside).shift (0 : Nat)).shift framing.messageStart)
      (framing.messageEnd - framing.messageStart).toNat bytesConsumed)
    (ok : parser.parseAvailable clock outside bytes = .ok (result, after))
    (without : result.parsedMessage = none) : bytesConsumed < bytes.length := by
  by_contra beyond
  have filled : 0 < bytes.length := by
    have ten := ten_le_of_framed framed (success ▸ nofun)
    omega
  obtain ⟨step, next, stepped, _⟩ := parseAvailable_first filled ok
  obtain ⟨answer, called⟩ := (parseStep_round stepped).called framed success
  obtain ⟨slot, rest, chain, _⟩ := MessagePool.exists_chain free
  obtain ⟨exit, decodes, settles⟩ :=
    parseCompleteMessage_settles (frame_positive framed success) free.1 chain called
  obtain ⟨message, detail, rfl⟩ := (frameAccepted_iff decodes).mp accepted
  cases settles
  obtain ⟨_, _, short⟩ := frame_readable
    (readable_from (Nat.zero_le _) (overlay_readable bytes outside)) framed success
  have small := decodeFrame_consumes_lt (by omega) decodes
  have position : wrapSize (((0 : Nat) : Int) + bytesConsumed) = bytesConsumed := by
    rw [wrapSize_of_bounds (by omega) (by omega)]
    omega
  have decoded := parseStep_decoded none framed success called rfl
  have last : parser.firstIsLast clock (overlay bytes outside) bytes.length = true := by
    unfold firstIsLast
    rw [decoded]
    simp only [position]
    exact decide_eq_true (Nat.not_lt.mp beyond)
  obtain ⟨grown, _, all⟩ := parseAvailable_takes filled ok
  have none : MessagePool.newSlots parser.messagePool after.messagePool = [] := by
    apply List.eq_nil_iff_forall_not_mem.mpr
    intro taken new
    cases without.symm.trans (all.mpr last taken new)
  have count := grown.allocatedCount
  rw [none, List.length_nil, add_zero] at count
  have untaken := (parseAvailable_count_iff ok stepped filled).mp count
  exact ((parseStep_round stepped).takes_iff framed success).mp untaken
    ⟨free, .inr ⟨bytesConsumed, accepted⟩⟩

/-- A call on one frame that returns no message leaves the pool's count as it was, unless it
came to decode the frame, had a slot for it, and the checksum field threw or the frame was
accepted without the rest of the buffer. -/
theorem rejected_frame_free_iff {buffer : Bytes} (reachable : Reachable parser)
    (empty : parser.partialBuffer = []) (bound : buffer.length < 2 ^ 63)
    (framed : findCompleteMessage (Memory.overlay buffer outside) parser.config.maxMessageSize
      buffer.length = .ok framing) (success : framing.result.status = .success)
    (start : framing.messageStart = 0)
    (ran : parser.parse clock outside buffer = .ok (result, after))
    (without : result.parsedMessage = none) :
    after.messagePool.allocatedCount = parser.messagePool.allocatedCount ↔
      ¬ (parser.Enters buffer ∧ parser.messagePool.available 1 ∧
        (ChecksumThrows parser.config (Memory.overlay buffer outside) framing.messageEnd.toNat ∨
          ∃ bytesConsumed < buffer.length, FrameAccepted parser.config
            (Memory.overlay buffer outside) framing.messageEnd.toNat bytesConsumed)) := by
  have size : (framing.messageEnd - framing.messageStart).toNat = framing.messageEnd.toNat := by
    rw [start, sub_zero]
  have here : ((overlay buffer outside).shift (0 : Nat)).shift framing.messageStart =
      overlay buffer outside := by
    rw [start, shift_zero]
    exact shift_zero _
  by_cases enters : parser.Enters buffer
  · rw [parse_accepting enters.accepting enters.nonempty enters.room, empty, List.nil_append] at ran
    have filled : 0 < buffer.length := List.length_pos_iff.mpr enters.nonempty
    have found : findCompleteMessage ((overlay buffer outside).shift (0 : Nat))
        parser.clearPartial.config.maxMessageSize (buffer.length - 0) = .ok framing :=
      (shift_zero (overlay buffer outside)).symm ▸ framed
    obtain ⟨step, next, stepped, _⟩ := parseAvailable_first filled ran
    have takes := (parseStep_round stepped).takes_iff found success
    have counts := parseAvailable_count_iff ran stepped filled
    rw [here, size] at takes
    have same : after.messagePool.allocatedCount = parser.messagePool.allocatedCount ↔ _ :=
      counts.trans takes
    rw [same, not_iff_not, and_iff_right enters]
    refine and_congr_right fun free => or_congr_right (exists_congr fun bytesConsumed => ?_)
    refine ⟨fun accepted => ⟨?_, accepted⟩, fun both => both.2⟩
    refine accepted_before_end bound found success free ?_ ran without
    rw [here, size]
    exact accepted
  · rcases parse_cases reachable.unset clock outside buffer with ⟨_, _, _, returned⟩ | ⟨entered, _⟩
    · rw [returned] at ran
      cases ran
      exact iff_of_true rfl fun both => enters both.1
    · exact absurd entered enters

/-- A heartbeat with a wrong checksum is rejected and costs no slot. -/
theorem rejected_frame_free_heartbeat :
    let parser := new samplePool {} 0
    let buffer := sampleHeartbeat.sealed 0
    let memory := Memory.overlay buffer Memory.unmapped
    ∃ framing result after,
      findCompleteMessage memory parser.config.maxMessageSize buffer.length = .ok framing ∧
      parser.parse sampleClock Memory.unmapped buffer = .ok (result, after) ∧
      result.parsedMessage = none ∧
      ¬ (parser.Enters buffer ∧ parser.messagePool.available 1 ∧
        (ChecksumThrows parser.config memory framing.messageEnd.toNat ∨
          ∃ bytesConsumed < buffer.length, FrameAccepted parser.config memory
            framing.messageEnd.toNat bytesConsumed)) := by
  have framed : ((findCompleteMessage (overlay (sampleHeartbeat.sealed 0) unmapped)
      8192 (sampleHeartbeat.sealed 0).length).toOption.map fun framing =>
        (framing.result.status, framing.messageStart)) = some (.success, 0) := by
    decide +kernel
  have ran : (((new samplePool {} 0).parse sampleClock unmapped
      (sampleHeartbeat.sealed 0)).toOption.map fun outcome =>
        (outcome.1.parsedMessage, outcome.2.messagePool.allocatedCount)) = some (none, 0) := by
    decide +kernel
  obtain ⟨framing, found, told⟩ := Option.map_eq_some_iff.mp framed
  obtain ⟨⟨result, after⟩, returned, left⟩ := Option.map_eq_some_iff.mp ran
  rw [Prod.mk.injEq] at told left
  refine ⟨framing, result, after, ok_of_toOption found, ok_of_toOption returned, left.1, ?_⟩
  exact (rejected_frame_free_iff (.new samplePool {} 0) rfl (by decide) (ok_of_toOption found)
    told.1 told.2 (ok_of_toOption returned) left.1).mp left.2

/-- A heartbeat with `abc` in its checksum field costs a slot and hands out nothing. -/
theorem unreadable_checksum_costs_slot :
    (((new samplePool {} 0).parse sampleClock Memory.unmapped
        (sampleHeartbeat.frame ++ ascii "10=abc" ++ [soh])).toOption.map fun outcome =>
      (outcome.1.status, outcome.1.parsedMessage, samplePool.allocatedCount,
        outcome.2.messagePool.allocatedCount)) = some (.invalidFormat, none, 0, 1) := by
  decide +kernel

end StreamFixParser

end FixGateway.Protocol
