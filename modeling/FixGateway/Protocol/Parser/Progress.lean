import FixGateway.Protocol.Parser.Context
import FixGateway.Protocol.Parser.Bounds

/-! # Progress of the message loop

A round that goes on moves the cursor by what decoding has consumed. For the generic
decoder that is the frame. A specialised decoder adds up what it reads at offset 12 as
BodyLength, where a number above 2^31 has become a negative one; then the sum need not
be positive, and without checksum validation nothing stands in its way. With validation
the sum of the bytes before the checksum field has to be formed first, and the number of
those bytes has wrapped around to almost 2^64.
-/

namespace FixGateway.Protocol

open ByteScan FixGateway.Common Memory OptimizedParser

variable {cursor : Nat}

/-! ## What a frame consumes -/

/-- A frame goes to a specialised decoder, and that one reads the given digits as BodyLength. -/
structure ReadsLength (memory : Memory) (length : Nat) (decoder : OptimizedParser)
    (digits : Bytes) : Prop where
  chosen : ∃ msgType, extractMsgType memory length = .ok msgType ∧
    OptimizedParser.forMsgType msgType = some decoder
  checked : decoder.checkStructure memory length = .ok none
  offset : memory.Holds 12 (digits ++ [soh])
  nonempty : digits ≠ []
  all : ∀ byte ∈ digits, isDigit byte = true
  inside : 12 + digits.length < length

/-- Where the checksum field after the announced body ends. -/
def announcedEnd (digits : Bytes) : Int := 12 + digits.length + 1 + foldDigits digits + 7

section Consumed

variable {config : ParserConfig} {memory : Memory} {length bytesConsumed : Nat} {detail : Bytes}
  {decoder : OptimizedParser} {first second accepted message : FixMessage} {digits : Bytes}

/-- A decoder that has validated a checksum has read all bytes up to it. -/
theorem OptimizedParser.readChecksum_reads {bodyEnd : Int}
    (ok : decoder.readChecksum true memory bodyEnd message =
      .ok (.success accepted bytesConsumed detail)) : memory.Readable 0 (wrapSize bodyEnd) := by
  unfold readChecksum at ok
  dsimp only at ok
  rw [if_pos rfl] at ok
  obtain ⟨starts, _, ok⟩ := bind_ok.mp ok
  cases starts with
  | false => cases ok
  | true =>
    obtain ⟨checksum, _, ok⟩ := bind_ok.mp ok
    obtain ⟨calculated, summed, _⟩ := bind_ok.mp ok
    obtain ⟨bytes, held, size, _⟩ := byteSum_ok_iff.mp summed
    have readable := held.readable
    rwa [size, zero_add] at readable

/-- An accepted frame is consumed as a whole, or up to the end that a specialised decoder
reads. -/
theorem decodeFrame_consumed (ok : decodeFrame config memory length first second =
      .ok (.success accepted bytesConsumed detail)) :
    bytesConsumed = length ∨ ∃ decoder digits, ReadsLength memory length decoder digits ∧
      bytesConsumed = wrapSize (announcedEnd digits) ∧
      (config.validateChecksum = true →
        memory.Readable 0 (wrapSize (announcedEnd digits - 7))) := by
  rcases decodeFrame_success ok with whole | ⟨msgType, decoder, extracted, found, checked, decoded⟩
  · exact .inl whole
  · obtain ⟨digits, held, nonempty, all, inside, read⟩ := decode_reads decoded nofun
    refine .inr ⟨decoder, digits, ⟨⟨msgType, extracted, found⟩, checked, held, nonempty, all,
      inside⟩, readBody_consumes _ read _ _ _ rfl, ?_⟩
    intro validates
    obtain ⟨fields, _, _, summed⟩ := readBody_reads read nofun
    rw [validates] at summed
    rw [announcedEnd, add_sub_cancel_right]
    exact readChecksum_reads summed

/-- Without validation a body of negative length is accepted wherever it ends. -/
theorem ReadsLength.consumed (reads : ReadsLength memory length decoder digits)
    (skips : config.validateChecksum = false) (backward : announcedEnd digits ≤ 0)
    (ok : decodeFrame config memory length first second =
      .ok (.success accepted bytesConsumed detail)) :
    bytesConsumed = wrapSize (announcedEnd digits) := by
  obtain ⟨msgType, extracted, found⟩ := reads.chosen
  have negative : (fieldsText []).length = (foldDigits digits).toNat := by
    unfold announcedEnd at backward
    rw [fieldsText_nil, List.length_nil]
    omega
  have accepts : ∀ {exit}, decoder.decode config.validateChecksum memory length first = .ok exit →
      ∃ message text, exit = .success message (wrapSize (announcedEnd digits)) text := by
    intro exit decoded
    rw [decode_fields [] reads.nonempty reads.all reads.offset reads.inside trivial
      negative, skips] at decoded
    unfold OptimizedParser.readChecksum at decoded
    dsimp only at decoded
    rw [if_neg Bool.false_ne_true] at decoded
    obtain ⟨checksum, _, decoded⟩ := bind_ok.mp decoded
    cases decoded
    exact ⟨_, _, rfl⟩
  cases decodeFrame_decided _ ok with
  | specialised also known _ decoded _ =>
    cases extracted.symm.trans also
    cases found.symm.trans known
    obtain ⟨message, text, same⟩ := accepts decoded
    cases same
    rfl
  | generic _ refused =>
    obtain ⟨result, failed⟩ := refused msgType decoder extracted found reads.checked
    obtain ⟨message, text, same⟩ := accepts failed
    cases same

end Consumed

/-! ## The cursor -/

/-- A step forward is one by a positive number, or one that wraps around. -/
theorem lt_wrapSize_iff {step : Int} (high : cursor + step < 2 ^ 64)
    (low : -2 ^ 62 < step) (small : cursor < 2 ^ 63) :
    cursor < wrapSize (cursor + wrapSize step) ↔ 0 < step ∨ cursor + step < 0 := by
  have cast := wrapSize_cast (cursor + wrapSize step)
  have inner := wrapSize_cast step
  omega

/-- The bounds within which the end of a frame at a cursor is computed. -/
theorem ReadsLength.bounds {frame : Memory} {size length : Nat} {decoder : OptimizedParser}
    {digits : Bytes} (reads : ReadsLength frame size decoder digits)
    (inside : cursor + size ≤ length) (bound : length < 2 ^ 63) :
    cursor + announcedEnd digits < 2 ^ 64 ∧ -2 ^ 62 < announcedEnd digits := by
  have short := reads.inside
  have limits : -2 ^ 31 ≤ foldDigits digits ∧ foldDigits digits < 2 ^ 31 := by
    rw [foldDigits_eq]
    exact wrapInt_bounds _
  unfold announcedEnd
  omega

namespace StreamFixParser

/-- No specialised decoder without validation takes the cursor back: what it reads as
BodyLength ends the frame after its start, or so far before the start of the buffer that the
position wraps around. -/
def Forward (config : ParserConfig) (memory : Memory) (length cursor : Nat) : Prop :=
  config.validateChecksum = false → ∀ framing decoder digits,
    findCompleteMessage (memory.shift cursor) config.maxMessageSize (length - cursor) =
      .ok framing →
    framing.result.status = .success →
    ReadsLength ((memory.shift cursor).shift framing.messageStart)
      (framing.messageEnd - framing.messageStart).toNat decoder digits →
    0 < announcedEnd digits ∨ cursor + announcedEnd digits < 0

section Progress

variable {clock : Clock} {memory : Memory} {length cursor next : Nat}
  {parser middle after : StreamFixParser} {cursors : List Nat} {result : Option ParseResult}

/-- Not all positions behind the available bytes can be read. -/
def Limited (memory : Memory) (length : Nat) : Prop :=
  ∃ position : Nat, length ≤ position ∧ position < 2 ^ 63 ∧ memory position = none

theorem Limited.not_readable {start last : Int} (limited : Limited memory length)
    (inside : cursor + start ≤ length) (far : 2 ^ 63 ≤ last) (low : 0 ≤ start) :
    ¬ ((memory.shift cursor).shift start).Readable 0 last := by
  obtain ⟨position, behind, below, missing⟩ := limited
  intro readable
  obtain ⟨byte, read⟩ := readable (position - cursor - start) (by omega) (by omega)
  have same : (cursor : Int) + (start + (position - cursor - start)) = position := by omega
  rw [Memory.shift, Memory.shift, same, missing] at read
  cases read

/-- A round that goes on moves the cursor forward exactly if its frame does. -/
theorem Round.forward_iff (inside : cursor < length) (bound : length < 2 ^ 63)
    (readable : memory.Readable 0 length) (limited : Limited memory length)
    (round : Round clock memory length cursor parser (.next next result) after) :
    cursor < next ↔ Forward parser.config memory length cursor := by
  cases round with
  | @decoded framing decoded pool framed success called accepted =>
    obtain ⟨low, high, _⟩ := findCompleteMessage_success framed success
    obtain ⟨_, long, _⟩ := frame_readable (readable_from (le_of_lt inside) readable) framed success
    obtain ⟨slot, rest, message, _, _, first, second, decodes⟩ :=
      parseCompleteMessage_takes (by omega) called accepted
    have within : cursor + (framing.messageEnd - framing.messageStart).toNat ≤ length := by omega
    constructor
    · intro moved skips other decoder digits again _ reads
      cases framed.symm.trans again
      by_contra backward
      rw [not_or] at backward
      obtain ⟨below, above⟩ := reads.bounds within bound
      rw [reads.consumed skips (by omega) decodes, lt_wrapSize_iff below above (by omega)] at moved
      omega
    · intro forward
      rcases decodeFrame_consumed decodes with whole | ⟨decoder, digits, reads, consumed, summed⟩
      · rw [whole, wrapSize_of_bounds (by omega) (by omega)]
        omega
      · obtain ⟨below, above⟩ := reads.bounds within bound
        rw [consumed, lt_wrapSize_iff below above (by omega)]
        by_cases skips : parser.config.validateChecksum = false
        · exact forward skips framing decoder digits framed success reads
        · -- the sum would run over more bytes than can be read
          left
          by_contra backward
          have validates : parser.config.validateChecksum = true :=
            Bool.eq_true_of_not_eq_false skips
          have cast := wrapSize_cast (announcedEnd digits - 7)
          exact limited.not_readable (by omega) (by omega) low (summed validates)

/-- The cursor moves forward in every round that goes on exactly if every frame does. -/
theorem Passes.forward_iff (bound : length < 2 ^ 63) (readable : memory.Readable 0 length)
    (limited : Limited memory length)
    (passes : Passes clock memory length parser cursors middle cursor) :
    (cursors ++ [cursor]).IsChain (· < ·) ↔
      ∀ position ∈ cursors, Forward parser.config memory length position := by
  induction passes with
  | start => exact iff_of_true (List.isChain_singleton 0) (fun _ none => by cases none)
  | round before inside stepped ih =>
    have moved := (parseStep_round stepped).forward_iff inside bound readable limited
    rw [before.config] at moved
    rw [List.append_assoc, List.singleton_append, List.isChain_append_cons_cons, ih, moved,
      List.forall_mem_append, List.forall_mem_singleton,
      and_iff_left (List.isChain_singleton _)]

/-- A rising sequence of cursors inside the buffer is no longer than the buffer. -/
theorem Passes.length_le_of_chain (passes : Passes clock memory length parser cursors middle cursor)
    (rising : (cursors ++ [cursor]).IsChain (· < ·)) :
    cursors.length ≤ cursor ∧ cursors.length ≤ length := by
  induction passes with
  | start => exact ⟨Nat.le_refl 0, Nat.zero_le _⟩
  | round before inside stepped ih =>
    rw [List.append_assoc, List.singleton_append, List.isChain_append_cons_cons] at rising
    obtain ⟨below, _⟩ := ih rising.1
    have higher := rising.2.1
    rw [List.length_append, List.length_singleton]
    omega

/-- Between calls the state is IDLE. In every call the cursor rises with each round that goes on
exactly if every frame that is passed moves forward, and then there are no more rounds than
bytes. A call that does not return ends in a fault of one of its rounds. -/
theorem parse_progress_iff (reachable : Reachable parser) (clock : Clock) (outside : Memory)
    (buffer : Bytes) (bound : (parser.partialBuffer ++ buffer).length < 2 ^ 63)
    (limited : Limited (Memory.overlay (parser.partialBuffer ++ buffer) outside)
      (parser.partialBuffer ++ buffer).length) :
    let bytes := parser.partialBuffer ++ buffer
    let memory := Memory.overlay bytes outside
    parser.context.currentState = .idle ∧
    (∀ cursors middle cursor,
      Passes clock memory bytes.length parser.clearPartial cursors middle cursor →
        ((cursors ++ [cursor]).IsChain (· < ·) ↔
          ∀ position ∈ cursors, Forward parser.config memory bytes.length position) ∧
        ((∀ position ∈ cursors, Forward parser.config memory bytes.length position) →
          cursors.length ≤ bytes.length ∧
            (cursor < bytes.length → cursors.length < bytes.length))) ∧
    ∀ fault, parser.parse clock outside buffer = .error fault →
      ∃ cursors middle cursor lastSuccess,
        Passes clock memory bytes.length parser.clearPartial cursors middle cursor ∧
        cursor < bytes.length ∧
        middle.parseStep clock memory bytes.length cursor lastSuccess = .error fault := by
  intro bytes memory
  have readable : memory.Readable 0 bytes.length := overlay_readable bytes outside
  refine ⟨reachable.idle, ?_, ?_⟩
  · intro cursors middle cursor passes
    have rises := passes.forward_iff bound readable limited
    refine ⟨rises, fun forward => ?_⟩
    obtain ⟨below, within⟩ := passes.length_le_of_chain (rises.mpr forward)
    exact ⟨within, fun inside => lt_of_le_of_lt below inside⟩
  · intro fault faulted
    rcases parse_cases reachable.unset clock outside buffer with
      ⟨result, _, _, returned⟩ | ⟨_, entered⟩
    · rw [returned] at faulted
      cases faulted
    · exact parseAvailable_faults (entered.symm.trans faulted)

/-- A parser that validates checksums has nothing to fear. -/
theorem parse_progress_iff_validating :
    let parser := new samplePool {} 0
    let memory := Memory.overlay sampleHeartbeat.bytes Memory.unmapped
    let length := sampleHeartbeat.bytes.length
    parser.context.currentState = .idle ∧ ∀ cursors middle cursor,
      Passes sampleClock memory length parser.clearPartial cursors middle cursor →
        (cursors ++ [cursor]).IsChain (· < ·) ∧ cursors.length ≤ length := by
  have limited : Limited (overlay sampleHeartbeat.bytes unmapped)
      sampleHeartbeat.bytes.length :=
    ⟨sampleHeartbeat.bytes.length, le_refl _, by decide +kernel, by decide +kernel⟩
  obtain ⟨idle, rounds, _⟩ := parse_progress_iff (Reachable.new samplePool {} 0) sampleClock
    unmapped sampleHeartbeat.bytes (by decide +kernel) limited
  refine ⟨idle, fun cursors middle cursor passes => ?_⟩
  obtain ⟨rises, count⟩ := rounds cursors middle cursor passes
  have forward : ∀ position ∈ cursors, Forward (new samplePool {} 0).config
      (overlay sampleHeartbeat.bytes unmapped) sampleHeartbeat.bytes.length
      position := fun _ _ skips => absurd skips (by decide)
  exact ⟨rises.mpr forward, (count forward).1⟩

/-- Four bytes and a frame whose digits at offset 12 are read as -30. -/
def turningBack : Bytes :=
  ascii "XXXX8=FIX.4.4XYZ4294967266" ++ soh :: (ascii "9=5" ++ soh :: (ascii "35=0" ++ [soh]))

/-- The frame is decoded again and again at cursor 0 until the pool has no slot left. -/
theorem cursor_stands_still :
    (∃ middle, Passes sampleClock (Memory.overlay turningBack Memory.unmapped) turningBack.length
      (new samplePool { validateChecksum := false } 0) [0] middle 0) ∧
    ((new samplePool { validateChecksum := false } 0).parse sampleClock Memory.unmapped
      turningBack).map (fun outcome => (outcome.1.status, outcome.2.messagePool.allocatedCount)) =
        .ok (.allocationFailed, 4) := by
  constructor
  · have stepped : ((new samplePool { validateChecksum := false } 0).parseStep sampleClock
        (overlay turningBack unmapped) turningBack.length 0 none).map
        (fun outcome => match outcome.1 with
          | .next position _ => some position
          | .leave _ => none) = .ok (some 0) := by decide +kernel
    cases taken : (new samplePool { validateChecksum := false } 0).parseStep sampleClock
        (overlay turningBack unmapped) turningBack.length 0 none with
    | error fault =>
      rw [taken] at stepped
      cases stepped
    | ok outcome =>
      obtain ⟨step, after⟩ := outcome
      rw [taken] at stepped
      cases step with
      | leave exit => cases stepped
      | next position result =>
        cases stepped
        exact ⟨after, Passes.start.round (by decide +kernel) taken⟩
  · decide +kernel

end Progress

end StreamFixParser

end FixGateway.Protocol
