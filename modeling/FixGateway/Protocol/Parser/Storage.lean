import FixGateway.Protocol.Parser.Breaker
import FixGateway.Protocol.Parser.Isolation

/-! # The partial buffer

Bytes get into the partial buffer in two ways. On entry the new bytes are put behind the
stored ones, after a check that they fit. On exit the bytes of an unfinished message are
stored, and there is no such check: more bytes than the buffer holds are written past its
end.

A call whose bytes do not fit on entry is rejected and leaves the stored bytes where they
are, so a call of the same length is rejected again.
-/

namespace FixGateway.Protocol

open ByteScan FixGateway.Common Memory

/-! ## Unfinished messages -/

/-- Framing waits for the end of BeginString, however many bytes there are. -/
theorem findCompleteMessage_unterminated {memory : Memory} {rest : Bytes} (maxMessageSize : Nat)
    (held : memory.Holds 0 (fixBeginString ++ rest)) (absent : soh ∉ rest) :
    ∃ framing, findCompleteMessage memory maxMessageSize (fixBeginString ++ rest).length =
      .ok framing ∧ framing.result.status = .needMoreData := by
  have nine : fixBeginString.length = 9 := by decide
  have length : (fixBeginString ++ rest).length = 9 + rest.length := by
    rw [List.length_append, nine]
  by_cases short : (fixBeginString ++ rest).length < 10
  · exact ⟨_, findCompleteMessage_short short, rfl⟩
  · unfold findCompleteMessage
    have opened : memory.Holds 0 (ascii "8=") := held.take 2
    have searched : memory.search (ascii "8=") 0 ((fixBeginString ++ rest).length : Nat) =
        .ok (some 0) :=
      search_here opened (by decide) (by
        have two : (ascii "8=").length = 2 := by decide
        omega)
    have scanned : memory.find soh 0 ((fixBeginString ++ rest).length : Nat) = .ok none := by
      refine find_miss held ?_ (zero_add _).symm
      rw [List.mem_append, not_or]
      exact ⟨by decide, absent⟩
    rw [if_neg short, searched]
    simp only [bind, Except.bind]
    rw [if_neg (by omega), startsAt_true held.left]
    simp only [if_true]
    unfold findBeginStringEnd
    rw [scanned]
    exact ⟨_, rfl, rfl⟩

namespace StreamFixParser

variable {parser middle after : StreamFixParser} {clock : Clock} {memory outside : Memory}
  {length cursor : Nat} {lastSuccess : Option ParseResult} {result : ParseResult} {buffer : Bytes}

/-- Where everything can be read, a round in which framing does not wait ends. -/
theorem parseStep_everywhere {framing : Framing}
    (everywhere : ∀ first last, memory.Readable first last) (inside : cursor < length)
    (framed : parser.frameAt memory length cursor = .ok framing)
    (waits : framing.result.status ≠ .needMoreData) :
    Finishes (parser.parseStep clock memory length cursor lastSuccess) := by
  have shifted : ∀ offset first last, (memory.shift offset).Readable first last :=
    fun offset first last => (everywhere _ _).shift
  by_cases success : framing.result.status = .success
  · have ends : DecodingEnds parser.config clock memory length :=
      decodingEnds_everywhere parser.config everywhere
    obtain ⟨⟨exit, pool⟩, called⟩ := ends cursor framing parser.messagePool inside framed success
    cases exit with
    | thrown what => exact ⟨_, parseStep_threw lastSuccess framed success called⟩
    | returned decoded =>
      have called : parser.decodeAt clock memory cursor framing = _ := called
      rw [parseStep_success framed success, called]
      exact frameDecoded_total (shifted _ _ _).shift
  · rw [parseStep_failed framed waits success]
    refine (recover_total (shifted cursor _ _)).bind fun recovery _ => ?_
    obtain ⟨recovered, next⟩ := recovery
    cases recovered <;> exact .ok _

/-- A round writes past the end of the buffer exactly if it is to store more bytes than fit. -/
theorem parseStep_overflows_iff {size : Nat} (inside : cursor < length)
    (readable : memory.Readable 0 length) :
    parser.parseStep clock memory length cursor lastSuccess = .error (.overflow size) ↔
      ∃ framing, parser.frameAt memory length cursor = .ok framing ∧
        framing.result.status = .needMoreData ∧ size = length - cursor ∧
        partialBufferSize < length - cursor := by
  have whole : memory.Readable cursor (cursor + (length - cursor : Nat)) :=
    readable.mono (by omega) (by omega)
  obtain ⟨leftover, held, count⟩ := whole.holds
  constructor
  · intro overflows
    obtain ⟨framing, framed⟩ : Finishes (parser.frameAt memory length cursor) :=
      findCompleteMessage_total (readable_from (le_of_lt inside) readable)
    by_cases waits : framing.result.status = .needMoreData
    · by_cases fits : leftover.length ≤ partialBufferSize
      · rw [parseStep_waited lastSuccess framed waits held count fits] at overflows
        cases overflows
      · rw [parseStep_overflow lastSuccess framed waits held count fits] at overflows
        cases overflows
        exact ⟨framing, framed, waits, rfl, by omega⟩
    · -- with zeros where nothing can be read the round would end
      have larger := memory.extends_filled
      have same : findCompleteMessage (memory.filled.shift cursor) parser.config.maxMessageSize
          (length - cursor) = .ok framing :=
        (findCompleteMessage_refines (larger.shift cursor) _ _).ok framed
      obtain ⟨outcome, ends⟩ : Finishes (parser.parseStep clock memory.filled length cursor
        lastSuccess) := parseStep_everywhere memory.filled_readable inside same waits
      rcases parser.parseStep_refines clock larger length cursor lastSuccess
        with equal | ⟨position, fault⟩
      · rw [overflows, ends] at equal
        cases equal
      · rw [overflows] at fault
        cases fault
  · rintro ⟨framing, framed, waits, rfl, beyond⟩
    exact parseStep_overflow lastSuccess framed waits held count (by omega)

/-! ## Calls -/

/-- What the call may have to store fits into the buffer: wherever framing asks for more bytes,
no more of them are left than the buffer holds. A call that is turned away stores nothing. -/
def LeftoverFits (parser : StreamFixParser) (call : Call) : Prop :=
  parser.Enters call.buffer →
    ∀ cursors middle cursor framing,
      Passes call.clock (Memory.overlay (parser.partialBuffer ++ call.buffer) call.outside)
        (parser.partialBuffer ++ call.buffer).length parser.clearPartial cursors middle cursor →
      findCompleteMessage
        ((Memory.overlay (parser.partialBuffer ++ call.buffer) call.outside).shift cursor)
        parser.config.maxMessageSize ((parser.partialBuffer ++ call.buffer).length - cursor) =
          .ok framing →
      framing.result.status = .needMoreData →
      (parser.partialBuffer ++ call.buffer).length - cursor ≤ partialBufferSize

/-- A call keeps inside the partial buffer. -/
structure StaysInside (parser : StreamFixParser) (call : Call) : Prop where
  /-- What does not fit beside the stored bytes is not put there. -/
  entering : ¬ parser.HasRoom call.buffer →
    ∃ result, parser.parse call.clock call.outside call.buffer = .ok (result, parser)
  /-- No more bytes are stored than the buffer holds. -/
  leaving : ∀ size, parser.parse call.clock call.outside call.buffer ≠ .error (.overflow size)
  size : ∀ result after, parser.parse call.clock call.outside call.buffer = .ok (result, after) →
    after.partialBuffer.length ≤ partialBufferSize

theorem parseAvailable_overflows_iff {bytes : Bytes} {size : Nat} :
    parser.parseAvailable clock outside bytes = .error (.overflow size) ↔
      ∃ cursors middle cursor framing,
        Passes clock (overlay bytes outside) bytes.length parser cursors middle cursor ∧
        findCompleteMessage ((overlay bytes outside).shift cursor)
          parser.config.maxMessageSize (bytes.length - cursor) = .ok framing ∧
        framing.result.status = .needMoreData ∧ size = bytes.length - cursor ∧
        partialBufferSize < bytes.length - cursor := by
  have readable := overlay_readable bytes outside
  constructor
  · intro overflows
    obtain ⟨_, last, cursor, _, passes, inside, fault⟩ := parseAvailable_faults overflows
    obtain ⟨framing, framed, waits, exact⟩ := (parseStep_overflows_iff inside readable).mp fault
    rw [frameAt, passes.config] at framed
    exact ⟨_, last, cursor, framing, passes, framed, waits, exact⟩
  · rintro ⟨cursors, middle, cursor, framing, passes, framed, waits, exact⟩
    have inside : cursor < bytes.length := by omega
    obtain ⟨lastSuccess, _, _, faults⟩ := passes.last_round inside
    rw [← passes.config] at framed
    apply faults
    exact (parseStep_overflows_iff inside readable).mpr ⟨framing, framed, waits, exact⟩

/-- A call keeps inside the buffer exactly if what it may have to store fits. -/
theorem Reachable.staysInside_iff (reachable : Reachable parser) {call : Call} :
    parser.StaysInside call ↔ parser.LeftoverFits call := by
  constructor
  · intro stays enters cursors middle cursor framing passes framed waits
    by_contra beyond
    apply stays.leaving ((parser.partialBuffer ++ call.buffer).length - cursor)
    rw [parse_accepting enters.accepting enters.nonempty enters.room]
    exact parseAvailable_overflows_iff.mpr
      ⟨cursors, middle, cursor, framing, passes, framed, waits, rfl, Nat.not_le.mp beyond⟩
  · intro leftover
    rcases parse_cases reachable.unset call.clock call.outside call.buffer
      with ⟨result, _, _, returned⟩ | ⟨enters, entered⟩
    · refine ⟨fun _ => ⟨result, returned⟩, fun size overflows => ?_, fun _ after _ => after.fits⟩
      rw [returned] at overflows
      cases overflows
    · refine ⟨fun narrow => absurd enters.room narrow, fun size overflows => ?_,
        fun _ after _ => after.fits⟩
      rw [entered] at overflows
      obtain ⟨cursors, middle, cursor, framing, passes, framed, waits, _, beyond⟩ :=
        parseAvailable_overflows_iff.mp overflows
      have fits := leftover enters cursors middle cursor framing passes framed waits
      exact absurd fits (Nat.not_le.mpr beyond)

/-- A message that begins and never ends. -/
def unfinished (size : Nat) : Bytes :=
  fixBeginString ++ List.replicate (size - fixBeginString.length) 88

theorem unfinished_length {size : Nat} (long : 9 ≤ size) : (unfinished size).length = size := by
  have nine : fixBeginString.length = 9 := by decide
  rw [unfinished, List.length_append, List.length_replicate, nine]
  omega

theorem unfinished_waits {size : Nat} (long : 9 ≤ size) (maxMessageSize : Nat) (outside : Memory) :
    ∃ framing, findCompleteMessage (overlay (unfinished size) outside) maxMessageSize size =
      .ok framing ∧ framing.result.status = .needMoreData := by
  have absent : soh ∉ List.replicate (size - fixBeginString.length) (88 : UInt8) := by
    intro member
    exact absurd (List.eq_of_mem_replicate member) (by decide)
  have held := overlay_holds (unfinished size) outside
  have waits := findCompleteMessage_unterminated maxMessageSize held absent
  rw [← unfinished, unfinished_length long] at waits
  exact waits

/-- A parser with nothing stored writes past the end of its buffer on an unfinished message
that is longer than the buffer. -/
theorem unfinished_overflows {size : Nat} (accepting : Accepting parser)
    (empty : parser.partialBuffer = []) (beyond : partialBufferSize < size) :
    parser.parse clock outside (unfinished size) = .error (.overflow size) := by
  have large : partialBufferSize = 65536 := rfl
  have length : (unfinished size).length = size := unfinished_length (by omega)
  have filled : unfinished size ≠ [] := by
    apply List.ne_nil_of_length_pos
    omega
  obtain ⟨framing, framed, waits⟩ :=
    unfinished_waits (by omega : 9 ≤ size) parser.config.maxMessageSize outside
  have origin : (overlay (unfinished size) outside).shift ((0 : Nat) : Int) =
      overlay (unfinished size) outside := shift_zero _
  rw [parse_accepting accepting filled (.inl empty), empty, List.nil_append,
    parseAvailable_overflows_iff]
  refine ⟨[], parser.clearPartial, 0, framing, .start, ?_, waits, ?_, ?_⟩
  · rw [origin, length, Nat.sub_zero]
    exact framed
  · rw [length, Nat.sub_zero]
  · rw [length, Nat.sub_zero]
    exact beyond

/-- An unfinished message that fits is stored. -/
theorem unfinished_stored {size : Nat} (accepting : Accepting parser)
    (empty : parser.partialBuffer = []) (long : 9 ≤ size) (fits : size ≤ partialBufferSize) :
    ∃ result after, parser.parse clock outside (unfinished size) = .ok (result, after) ∧
      Accepting after ∧ after.partialBuffer.length = size := by
  have length := unfinished_length long
  have filled : unfinished size ≠ [] := by
    apply List.ne_nil_of_length_pos
    omega
  have joined : parser.partialBuffer ++ unfinished size = unfinished size := by
    rw [empty, List.nil_append]
  obtain ⟨framing, framed, waits⟩ := unfinished_waits long parser.config.maxMessageSize outside
  have whole : findCompleteMessage
      (overlay (parser.partialBuffer ++ unfinished size) outside)
      parser.config.maxMessageSize (parser.partialBuffer ++ unfinished size).length =
        .ok framing := by
    rw [joined, length]
    exact framed
  have small : (parser.partialBuffer ++ unfinished size).length ≤ partialBufferSize := by
    rw [joined, length]
    exact fits
  refine ⟨_, _, parse_waits accepting filled whole waits small, accepting.holding, ?_⟩
  exact (congrArg List.length joined).trans length

/-- A run keeps inside the partial buffer exactly if what each of its calls may have to store
fits. It does when no call brings more bytes than the buffer holds, and for every larger size
there are bytes that a parser with nothing stored writes past the end of its buffer. -/
theorem partial_buffer_contained_iff (reachable : Reachable parser) (previous : Nat)
    (calls : List Call) :
    (EachCall (fun parser _ call => parser.StaysInside call) parser previous calls ↔
      EachCall (fun parser _ call => parser.LeftoverFits call) parser previous calls) ∧
    ((∀ call ∈ calls, call.buffer.length ≤ partialBufferSize) →
      EachCall (fun parser _ call => parser.StaysInside call) parser previous calls) ∧
    (Accepting parser → parser.partialBuffer = [] → ∀ size, partialBufferSize < size →
      ∃ buffer : Bytes, buffer.length = size ∧ ∀ clock outside,
        ¬ parser.StaysInside ⟨clock, outside, buffer⟩) := by
  refine ⟨?_, ?_, ?_⟩
  · apply eachCall_congr _ reachable rfl
    intro parser _ call here _
    exact here.staysInside_iff
  · intro small
    apply eachCall_of_forall _ reachable
    intro parser _ here call member
    apply here.staysInside_iff.mpr
    intro enters cursors middle cursor framing _ _ _
    rcases enters.room with empty | room
    · rw [empty, List.nil_append]
      exact le_trans (Nat.sub_le _ _) (small call member)
    · rw [List.length_append]
      exact le_trans (Nat.sub_le _ _) room
  · intro accepting empty size beyond
    have large : partialBufferSize = 65536 := rfl
    refine ⟨unfinished size, unfinished_length (by omega), fun clock outside stays => ?_⟩
    exact stays.leaving size (unfinished_overflows accepting empty beyond)

/-- A call with a heartbeat keeps inside the buffer. -/
theorem partial_buffer_contained_heartbeat :
    let call : Call := ⟨sampleClock, Memory.unmapped, sampleHeartbeat.bytes⟩
    EachCall (fun parser _ call => parser.StaysInside call) (new samplePool {} 0) 0 [call] := by
  apply (partial_buffer_contained_iff (.new samplePool {} 0) 0 _).2.1
  intro call member
  rw [List.mem_singleton.mp member]
  decide

/-- One byte more than the buffer holds, and no end of BeginString among them. -/
theorem unfinished_message_overflows :
    (unfinished 65537).length = 65537 ∧
      (new samplePool {} 0).parse sampleClock Memory.unmapped (unfinished 65537) =
        .error (.overflow 65537) := by
  refine ⟨unfinished_length (by decide), ?_⟩
  exact unfinished_overflows (accepting_new (by decide)) rfl (by decide : partialBufferSize < 65537)

/-! ## Calls that do not fit -/

/-- Bytes that do not fit beside the stored ones are rejected, and nothing changes. -/
theorem parse_narrow (accepting : Accepting parser) (narrow : ¬ parser.HasRoom buffer) :
    parser.parse clock outside buffer =
      .ok (.without .messageTooLarge 0 (ascii "Partial buffer overflow") .errorRecovery,
        parser) := by
  have filled : buffer ≠ [] := by
    rintro rfl
    exact narrow (.inr parser.fits)
  rw [parse_let_through accepting filled, if_pos (not_not.mp (hasRoom_iff.not.mp narrow))]

theorem Reachable.tooLarge_iff (reachable : Reachable parser)
    (ran : parser.parse clock outside buffer = .ok (result, after)) :
    result.status = .messageTooLarge ↔ Accepting parser ∧ ¬ parser.HasRoom buffer := by
  constructor
  · intro large
    by_cases empty : buffer = []
    · subst empty
      cases ran
      cases large
    cases active : parser.shouldActivateCircuitBreaker with
    | true =>
      rw [parse_refused reachable.unset active empty] at ran
      cases ran
      cases large
    | false =>
      have accepting : Accepting parser := ⟨reachable.unset, active⟩
      refine ⟨accepting, fun room => ?_⟩
      rw [parse_accepting accepting empty room] at ran
      exact (parseAvailable_ofRound ran).2 large
  · rintro ⟨accepting, narrow⟩
    rw [parse_narrow accepting narrow] at ran
    cases ran
    rfl

/-- After a rejection nothing has changed, so the next call is rejected as well unless it fits
beside the bytes that are still stored. -/
theorem oversize_given_up_iff {clock' : Clock} {outside' : Memory} {chunk next : Bytes}
    (reachable : Reachable parser) (ran : parser.parse clock outside chunk = .ok (result, after))
    (large : result.status = .messageTooLarge) :
    after = parser ∧
      ((∀ result' after', after.parse clock' outside' next = .ok (result', after') →
          result'.status ≠ .messageTooLarge) ↔
        parser.partialBuffer.length + next.length ≤ partialBufferSize) := by
  obtain ⟨accepting, narrow⟩ := (reachable.tooLarge_iff ran).mp large
  have stored : parser.partialBuffer ≠ [] := fun empty => narrow (.inl empty)
  have fits : parser.HasRoom next ↔
      parser.partialBuffer.length + next.length ≤ partialBufferSize := or_iff_right stored
  rw [parse_narrow accepting narrow] at ran
  cases ran
  refine ⟨rfl, ?_⟩
  rw [← fits]
  constructor
  · intro accepted
    by_contra again
    exact accepted _ _ (parse_narrow accepting again) rfl
  · intro room result' after' ran again
    exact ((reachable.tooLarge_iff ran).mp again).2 room

theorem ten_bytes_rejected :
    ∃ first parser,
      (new samplePool {} 0).parse sampleClock unmapped (unfinished 65530) =
        .ok (first, parser) ∧ parser.partialBuffer.length = 65530 ∧
      parser.parse sampleClock unmapped (List.replicate 10 88) =
        .ok (.without .messageTooLarge 0 (ascii "Partial buffer overflow") .errorRecovery,
          parser) := by
  obtain ⟨first, parser, stored, accepting, size⟩ : ∃ result after,
      (new samplePool {} 0).parse sampleClock unmapped (unfinished 65530) =
        .ok (result, after) ∧ Accepting after ∧ after.partialBuffer.length = 65530 :=
    unfinished_stored (accepting_new (by decide)) rfl (by decide) (by decide)
  refine ⟨first, parser, stored, size, parse_narrow accepting ?_⟩
  rw [hasRoom_iff, not_not, size]
  decide

/-- Six bytes fit where ten did not. -/
theorem oversize_given_up_shorter :
    ∃ parser result after, Reachable parser ∧
      parser.parse sampleClock Memory.unmapped (List.replicate 10 88) = .ok (result, after) ∧
      result.status = .messageTooLarge ∧
      ∀ result' after', after.parse sampleClock Memory.unmapped (List.replicate 6 88) =
        .ok (result', after') → result'.status ≠ .messageTooLarge := by
  obtain ⟨_, parser, stored, size, rejected⟩ := ten_bytes_rejected
  have reachable : Reachable parser := .parse (.new samplePool {} 0) stored
  refine ⟨parser, _, _, reachable, rejected, rfl, ?_⟩
  apply (oversize_given_up_iff reachable rejected rfl).2.mpr
  rw [size]
  decide

/-- Ten bytes that were rejected are rejected again when they are sent again. -/
theorem oversize_rejected_again :
    ∃ first second third stored after,
      (new samplePool {} 0).parse sampleClock Memory.unmapped (unfinished 65530) =
        .ok (first, stored) ∧
      stored.parse sampleClock Memory.unmapped (List.replicate 10 88) = .ok (second, after) ∧
      second.status = .messageTooLarge ∧
      after.parse sampleClock Memory.unmapped (List.replicate 10 88) = .ok (third, after) ∧
      third.status = .messageTooLarge := by
  obtain ⟨first, parser, stored, _, rejected⟩ := ten_bytes_rejected
  exact ⟨first, _, _, parser, parser, stored, rejected, rfl, rejected, rfl⟩

end StreamFixParser

end FixGateway.Protocol
