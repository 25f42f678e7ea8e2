import FixGateway.Protocol.Parser.Grammar

/-! # Noise before a message

Framing skips what comes before the first `8=` and says where the message starts. The
loop does not add that offset to its cursor: it moves on by the bytes that the decoder
consumed. After a message behind noise it therefore goes on before the end of that
message. There it finds the same message once more, or it is inside the message, where
framing finds none.

So a call hands over a message behind noise exactly when the noise is as long as a number
of copies of the message, and it takes a slot for each of them. The noise may start at any
cursor of the loop, its `origin`.
-/

namespace FixGateway.Protocol

open ByteScan FixGateway.Common Memory WireMessage

namespace WireMessage

/-! ## Frames in the bytes of a message -/

section Frames

variable {wire : WireMessage} {memory : Memory} {maxMessageSize : Nat} {start stop : Int}
  {version digits : Bytes}

/-- The checksum field of a message. -/
def trailerField (wire : WireMessage) : RawField :=
  ⟨ascii "10", padded 3 (checksum wire.frame), by decide, by decide +kernel,
    fun member => absurd (isDigit_of_mem_padded member) (by decide)⟩

theorem bytes_eq_fieldsText :
    wire.bytes = fieldsText (beginField :: wire.lengthField ::
      ((wire.typeField :: wire.fields).map WireField.raw ++ [wire.trailerField])) := by
  have trailer : ascii "10=" ++ padded 3 (checksum wire.frame) ++ [soh] =
      wire.trailerField.text := by
    have tag : ascii "10=" = ascii "10" ++ [equals] := by decide
    rw [RawField.text, trailerField, tag]
    simp
  rw [bytes, sealed, checked, List.append_assoc, trailer, frame_eq_fieldsText]
  simp [fieldsText]

theorem digits_ne_nine (wire : WireMessage) {field : RawField}
    (member : field ∈ (wire.typeField :: wire.fields).map WireField.raw ++ [wire.trailerField]) :
    field.digits ≠ ascii "9" := by
  intro nine
  have tag : field.tag = 9 := by
    rw [RawField.tag, nine]
    decide
  rw [List.mem_append, List.mem_map, List.mem_singleton] at member
  obtain ⟨field, member, rfl⟩ | rfl := member
  · rw [WireField.raw_tag] at tag
    obtain rfl | member := List.mem_cons.mp member
    · cases tag
    · exact (wire.plain field member).2.1 tag
  · cases nine

theorem before_bodyLength {before after : Bytes} (text : wire.bytes = before ++ ascii "9=" ++ after)
    (ended : before.getLast? = some soh) : before = fixBeginString ++ [soh] := by
  have opening : fixBeginString ++ [soh] = beginField.text := by decide
  rw [bytes_eq_fieldsText, List.append_assoc] at text
  obtain ⟨front, field, back, split, rfl, nine⟩ :=
    fieldsText_boundary text (Or.inr ended) (by decide : equals ∉ ascii "9")
  cases front with
  | nil => cases ended
  | cons first front =>
    obtain ⟨rfl, behind⟩ := List.cons.inj split
    cases front with
    | nil => rw [fieldsText_cons, fieldsText_nil, List.append_nil, opening]
    | cons second front =>
      refine absurd nine (digits_ne_nine wire ?_)
      rw [(List.cons.inj behind).2]
      exact List.mem_append_right front List.mem_cons_self

/-- A frame within the bytes of a message is the frame of the message. -/
theorem frame_unique (held : memory.Holds start wire.bytes) {offset : Nat}
    (frame : FrameAt memory maxMessageSize (start + offset) stop version digits)
    (inside : stop ≤ start + wire.bytes.length) :
    offset = 0 ∧ version = [] ∧ digits = wire.bodyLengthText := by
  have ends := frame.stop_eq
  have positive := frame.positive
  have nine : fixBeginString.length = 9 := by decide
  have two : (ascii "9=").length = 2 := by decide
  have here : memory.Holds (start + offset) (wire.bytes.drop offset) := held.drop (by omega)
  obtain ⟨rest, split⟩ := frame.held.isPrefix here (by simp; omega)
  have text : wire.bytes = wire.bytes.take offset ++ (fixBeginString ++ version ++ [soh]) ++
      ascii "9=" ++ (digits ++ [soh] ++ rest) := by
    conv_lhs => rw [← List.take_append_drop offset wire.bytes, ← split]
    simp
  have before := before_bodyLength text (by simp)
  have size := congrArg List.length before
  rw [List.length_append, List.length_take_of_le (by omega)] at size
  simp only [List.length_append, List.length_singleton] at size
  have first : offset = 0 := by omega
  subst first
  rw [Nat.cast_zero, add_zero] at frame
  have header : memory.Holds start (headerText wire.bodyLengthText) := held.left.left.left
  exact ⟨rfl, frame.exact header ⟨decimal_ne_nil _, wire.isDigit_of_mem_bodyLengthText⟩⟩

end Frames

/-! ## Framing behind noise -/

section Noise

variable {wire : WireMessage} {noise : Bytes} {memory : Memory}
  {maxMessageSize origin cursor : Nat} {framing : Framing}
  (silent : ¬ ascii "8=" <:+: noise.drop origin) (held : memory.Holds 0 (noise ++ wire.bytes))

include silent

theorem notPrefix_noise {index : Nat} (started : origin ≤ index) (before : index < noise.length) :
    ¬ ascii "8=" <+: (noise ++ wire.bytes).drop index := by
  intro opened
  rw [List.drop_append_of_le_length (le_of_lt before)] at opened
  by_cases short : (noise.drop index).length < 2
  · -- the last byte of the noise is followed by the `8` of the message
    obtain ⟨last, single⟩ : ∃ last, noise.drop index = [last] := by
      refine List.length_eq_one_iff.mp ?_
      rw [List.length_drop] at short ⊢
      omega
    obtain ⟨rest, message⟩ : ∃ rest, wire.bytes = 56 :: rest := ⟨_, rfl⟩
    rw [single, message] at opened
    have second := (List.cons_prefix_cons.mp (List.cons_prefix_cons.mp opened).2).1
    exact absurd second (by decide)
  · have part : noise.drop index <:+ noise.drop origin := by
      obtain ⟨more, rfl⟩ := Nat.exists_eq_add_of_le started
      rw [← List.drop_drop]
      exact List.drop_suffix more _
    refine silent (List.IsInfix.trans ?_ part.isInfix)
    exact (List.prefix_of_prefix_length_le opened (List.prefix_append _ _)
      (Nat.not_lt.mp short)).isInfix

include held

/-- A message behind noise is framed from every position up to its start. -/
theorem framed_behind (started : origin ≤ cursor) (before : cursor ≤ noise.length)
    (fits : (wire.body.length : Int) ≤ wrapInt maxMessageSize) :
    ∃ framing, findCompleteMessage (memory.shift cursor) maxMessageSize
        ((noise ++ wire.bytes).length - cursor) = .ok framing ∧
      framing.result.status = .success := by
  have total : (noise ++ wire.bytes).length = noise.length + (wire.frame.length + 7) := by
    rw [List.length_append, wire.length_bytes]
  have here : (memory.shift cursor).Holds 0 ((noise ++ wire.bytes).drop cursor) := by
    rw [holds_shift, add_zero]
    have tail := held.drop (by omega : cursor ≤ (noise ++ wire.bytes).length)
    rwa [zero_add] at tail
  have length : (((noise ++ wire.bytes).length - cursor : Nat) : Int) =
      0 + ((noise ++ wire.bytes).drop cursor).length := by
    rw [List.length_drop, zero_add]
  have searched : (memory.shift cursor).search (ascii "8=") 0
      ((noise ++ wire.bytes).length - cursor : Nat) = .ok (some (noise.length - cursor)) := by
    have found : Memory.occurrence? (ascii "8=") ((noise ++ wire.bytes).drop cursor) =
        some (noise.length - cursor) := by
      refine Memory.occurrence?_eq ?_ (by decide) fun earlier sooner => ?_
      · rw [List.drop_drop, Nat.add_sub_cancel' before, List.drop_left]
        exact ⟨_, rfl⟩
      · rw [List.drop_drop]
        exact notPrefix_noise silent (by omega) (by omega)
    rw [search_eq here length, found, Option.map_some]
    congr 2
    omega
  have frame : FrameAt (memory.shift cursor) maxMessageSize ((noise.length : Int) - cursor)
      (noise.length - cursor + wire.frame.length) [] wire.bodyLengthText := by
    have header : ((memory.shift cursor).shift ((noise.length : Int) - cursor)).Holds 0
        wire.header := by
      rw [shift_shift, holds_shift]
      have place : (cursor : Int) + (noise.length - cursor) + 0 = 0 + noise.length := by omega
      rw [place]
      exact held.right.left.left.left
    have found := (frameAt header fits).unshift
    rwa [add_zero] at found
  have readable := here.readable
  rw [← length] at readable
  obtain ⟨framing, framed, told⟩ := frame.findCompleteMessage_tells
    (readable.mono (le_refl _) (by omega)) (by omega) fun _ => searched
  have status := told.status
  rw [if_pos (by omega)] at status
  exact ⟨framing, framed, status⟩

/-- Wherever framing succeeds, it has found the message behind the noise. -/
theorem frame_behind (started : origin ≤ cursor)
    (framed : findCompleteMessage (memory.shift cursor) maxMessageSize
      ((noise ++ wire.bytes).length - cursor) = .ok framing)
    (success : framing.result.status = .success) :
    cursor + framing.messageStart = noise.length ∧ 0 ≤ framing.messageStart ∧
      framing.messageEnd - framing.messageStart =
        wire.bodyLengthText.length + 13 + foldDigits wire.bodyLengthText ∧
      0 < foldDigits wire.bodyLengthText ∧
      foldDigits wire.bodyLengthText ≤ wrapInt maxMessageSize := by
  obtain ⟨low, high, version, digits, here⟩ := findCompleteMessage_success framed success
  have frame := here.unshift
  have ends := frame.stop_eq
  have positive := frame.positive
  have total : (noise ++ wire.bytes).length = noise.length + wire.bytes.length := List.length_append
  obtain ⟨place, placed⟩ : ∃ place : Nat, (cursor : Int) + framing.messageStart = place :=
    Int.eq_ofNat_of_zero_le (by omega)
  rw [placed] at frame
  have behind : noise.length ≤ place := by
    by_contra before
    have tail := held.drop (by omega : place ≤ (noise ++ wire.bytes).length)
    rw [zero_add] at tail
    have opened : memory.Holds place (ascii "8=") :=
      (frame.begins.left.left.take 2 : memory.Holds place (fixBeginString.take 2))
    refine notPrefix_noise silent (by omega) (Nat.not_le.mp before) (opened.isPrefix tail ?_)
    have two : (ascii "8=").length = 2 := by decide
    rw [two, List.length_drop]
    omega
  obtain ⟨offset, rfl⟩ := Nat.exists_eq_add_of_le behind
  have message := held.right
  rw [zero_add] at message
  rw [Nat.cast_add] at frame
  obtain ⟨rfl, rfl, rfl⟩ := frame_unique message frame (by omega)
  rw [List.length_nil] at ends
  exact ⟨placed, low, by omega, positive, frame.bounded⟩

end Noise

/-! ## Decoding -/

section Decoding

variable {wire : WireMessage} {config : ParserConfig} {clock : Clock}
  {pool next : MessagePool FixMessage} {memory : Memory} {decoded : ParseResult}

/-- A message takes a slot and is consumed as a whole, unless there is no slot. -/
theorem decoded_whole (ready : wire.Ready config)
    (held : memory.Holds 0 (wire.checked (checksum wire.frame)))
    (called : parseCompleteMessage config clock pool memory wire.frame.length =
      .ok (.returned decoded, next)) :
    decoded.status = .allocationFailed ∨ decoded.status = .success ∧
      decoded.bytesConsumed = wire.bytes.length ∧ pool.available (next.freeList.length + 1) := by
  by_cases free : pool.available 1
  · obtain ⟨slot, rest, chain, _⟩ := MessagePool.exists_chain free
    obtain ⟨decoder, handled⟩ := ready.decoder
    rw [parseCompleteMessage_accepted handled (checksum_lt wire.frame) (fun _ => rfl) held free.1
      chain] at called
    cases called
    refine .inr ⟨rfl, wire.length_bytes.symm, free.1, ?_⟩
    rw [chain]
    exact le_refl _
  · have filled : 0 < wire.frame.length := lt_of_lt_of_le (by decide) ready.long
    obtain ⟨refused, _⟩ := parseCompleteMessage_refused filled free _ called
    cases refused
    exact .inl rfl

/-- With a BodyLength that wraps around to a smaller one, less than the message is consumed. -/
theorem decoded_part {length : Nat} (held : memory.Holds 0 wire.bytes)
    (span : (length : Int) = wire.bodyLengthText.length + 13 + foldDigits wire.bodyLengthText)
    (positive : 0 < foldDigits wire.bodyLengthText)
    (less : foldDigits wire.bodyLengthText < wire.body.length) (bound : wire.bytes.length < 2 ^ 63)
    (called : parseCompleteMessage config clock pool memory length = .ok (.returned decoded, next))
    : decoded.bytesConsumed < wire.bytes.length := by
  have sizes := wire.length_bytes
  have size := wire.length_frame
  have numeral : Numeral wire.bodyLengthText :=
    ⟨decimal_ne_nil _, wire.isDigit_of_mem_bodyLengthText⟩
  have consumed : decoded.bytesConsumed ≤ length + 7 := by
    refine parseCompleteMessage_consumes (by omega) (by omega) (by omega) ?_ called
    intro msgType decoder _ _ digits field nonempty all
    obtain rfl : digits = wire.bodyLengthText :=
      field.unique (holds_bodyLength held.left.left.left) (Numeral.noSoh ⟨nonempty, all⟩)
        numeral.noSoh
    exact ⟨le_of_lt positive, by omega⟩
  omega

end Decoding

end WireMessage

namespace StreamFixParser

/-- A call hands over a message, or it keeps all bytes of this one for the next call. -/
def Kept (wire : WireMessage) (result : ParseResult) (after : StreamFixParser) : Prop :=
  result.status = .success ∨
    result.status = .needMoreData ∧ wire.bytes <:+ after.partialBuffer

/-- A call returns the given message. -/
def Returns (wire : WireMessage) (result : ParseResult) (after : StreamFixParser) : Prop :=
  result.status = .success ∧ ∃ slot message time, result.parsedMessage = some slot ∧
    after.messagePool.objects slot = some message ∧ ∀ tag, message.getField tag =
      (FixMessage.lastValue tag (wire.assignments (checksum wire.frame))).or
        (if tag = FixFields.sendingTime then some (UtcTime.format time) else none)

section Noise

variable (clock : Clock) {wire : WireMessage} {noise : Bytes} {memory : Memory}
  {origin cursor fuel : Nat} {parser after : StreamFixParser} {result : ParseResult}
  (lastSuccess : Option ParseResult) (silent : ¬ ascii "8=" <:+: noise.drop origin)
  (held : memory.Holds 0 (noise ++ wire.bytes)) (bound : (noise ++ wire.bytes).length < 2 ^ 63)
  {rest : List Nat}

theorem holds_behind {start : Int} (held : memory.Holds 0 (noise ++ wire.bytes))
    (place : cursor + start = noise.length) :
    ((memory.shift cursor).shift start).Holds 0 wire.bytes := by
  rw [shift_shift, holds_shift, place, add_zero]
  have message := held.right
  rwa [zero_add] at message

include silent held bound

/-- A round at a position before the message delivers the message, and goes on behind that
position by the length of the message. -/
theorem parseStep_noise {slot : Nat} (ready : wire.Ready parser.config) (started : origin ≤ cursor)
    (before : cursor ≤ noise.length) (running : parser.messagePool.isShutdown = false)
    (chain : parser.messagePool.freeList = slot :: rest) :
    ∃ result after, parser.parseStep clock memory (noise ++ wire.bytes).length cursor lastSuccess =
        .ok (.next (cursor + wire.bytes.length) (some result), after) ∧
      result.status = .success ∧ result.bytesConsumed = cursor + wire.bytes.length ∧
      result.parsedMessage = some slot ∧ Delivered clock parser after [wire] [slot] rest := by
  obtain ⟨framing, framed, success⟩ :=
    WireMessage.framed_behind silent held started before ready.fits
  obtain ⟨place, _, span, _, _⟩ := WireMessage.frame_behind silent held started framed success
  have size := wire.length_frame
  rw [bodyLengthText_value ready.small] at span
  rw [List.length_append, wire.length_bytes] at bound
  rw [wire.length_bytes]
  exact parseStep_framed clock lastSuccess ready framed success (by omega)
    (holds_behind held place).left (by omega) running chain

/-- The loop delivers the message once for each of its lengths before it, and then the message
itself. -/
theorem parseLoop_noise (rounds : Nat) {slots : List Nat} (ready : wire.Ready parser.config)
    (started : origin ≤ cursor) (place : noise.length = cursor + rounds * wire.bytes.length)
    (running : parser.messagePool.isShutdown = false)
    (chain : parser.messagePool.freeList = slots ++ rest) (size : slots.length = rounds + 1) :
    ∃ result after, parseLoop clock memory (noise ++ wire.bytes).length (rounds + fuel + 2) parser
        cursor lastSuccess = .ok (.returned result, after) ∧
      result.status = .success ∧ result.bytesConsumed = (noise ++ wire.bytes).length ∧
      result.parsedMessage = slots.getLast? ∧
      Delivered clock parser after (List.replicate (rounds + 1) wire) slots rest := by
  have total : (noise ++ wire.bytes).length = noise.length + wire.bytes.length := List.length_append
  have positive := List.length_pos_iff.mpr wire.bytes_ne_nil
  induction rounds generalizing parser cursor lastSuccess slots with
  | zero =>
    obtain ⟨slot, rfl⟩ := List.length_eq_one_iff.mp size
    obtain ⟨result, after, stepped, success, consumed, placed, delivered⟩ :=
      parseStep_noise clock lastSuccess silent held bound ready started
        (by omega : cursor ≤ noise.length) running chain
    refine ⟨result, after, ?_, success, by omega, placed, delivered⟩
    rw [parseLoop, if_pos (by omega), stepped]
    simp only [bind, Except.bind]
    rw [Nat.zero_add, parseLoop, if_neg (by omega)]
    rfl
  | succ rounds ih =>
    rw [Nat.succ_mul] at place
    cases slots with
    | nil => cases size
    | cons slot slots =>
      obtain ⟨result, middle, stepped, _, _, _, first⟩ :=
        parseStep_noise clock lastSuccess silent held bound ready started
          (by omega : cursor ≤ noise.length) running chain
      have closer : noise.length = cursor + wire.bytes.length + rounds * wire.bytes.length := by
        omega
      obtain ⟨last, after, ran, success, consumed, placed, second⟩ :=
        ih (some result) (first.config ▸ ready) (by omega) closer
          (first.isShutdown.trans running) first.freeList (Nat.succ_inj.mp size)
      refine ⟨last, after, ?_, success, consumed, ?_, first.cons second chain⟩
      · have count : rounds + 1 + fuel + 2 = rounds + fuel + 2 + 1 := by omega
        rw [count, parseLoop, if_pos (by omega), stepped]
        exact ran
      · cases slots with
        | nil => cases size
        | cons other slots => rw [placed, List.getLast?_cons_cons]

omit bound in
/-- What a round decodes is the message as a whole, unless there is no slot for it. -/
theorem decoded_behind {framing : Framing} {decoded : ParseResult} {pool : MessagePool FixMessage}
    (ready : wire.Ready parser.config) (started : origin ≤ cursor)
    (framed : parser.frameAt memory (noise ++ wire.bytes).length cursor = .ok framing)
    (found : framing.result.status = .success)
    (called : parser.decodeAt clock memory cursor framing = .ok (.returned decoded, pool)) :
    cursor ≤ noise.length ∧ (decoded.status = .allocationFailed ∨
      decoded.status = .success ∧ decoded.bytesConsumed = wire.bytes.length ∧
      parser.messagePool.available (pool.freeList.length + 1)) := by
  have size := wire.length_frame
  obtain ⟨place, low, span, _, _⟩ := WireMessage.frame_behind silent held started framed found
  rw [bodyLengthText_value ready.small] at span
  have frameLength : (framing.messageEnd - framing.messageStart).toNat = wire.frame.length := by
    omega
  rw [decodeAt, frameLength] at called
  exact ⟨by omega, WireMessage.decoded_whole ready (holds_behind held place).left called⟩

omit bound in
/-- The loop is not left where the message is still to come, and not with a message. -/
theorem not_kept_of_leaves (ready : wire.Ready parser.config) (started : origin ≤ cursor)
    (stepped : parser.parseStep clock memory (noise ++ wire.bytes).length cursor lastSuccess =
      .ok (.leave (.returned result), after)) : ¬ Kept wire result after := by
  have total : (noise ++ wire.bytes).length = noise.length + wire.bytes.length := List.length_append
  have positive := List.length_pos_iff.mpr wire.bytes_ne_nil
  intro kept
  cases parseStep_round stepped with
  | @waited framing leftover framed waits sliced fits =>
    rcases kept with success | ⟨_, stored⟩
    · cases waits.symm.trans success
    · -- framing does not wait where all of the message is still ahead
      have ahead := stored.length_le
      have copied := (slice_ok_iff.mp sliced).2
      dsimp only at ahead
      obtain ⟨_, also, found⟩ := WireMessage.framed_behind silent held started (by omega) ready.fits
      cases framed.symm.trans also
      cases waits.symm.trans found
  | unframed _ waits fails =>
    rcases kept with success | ⟨waiting, _⟩
    · exact absurd success fails
    · exact absurd waiting waits
  | undecoded framed found called fails =>
    rcases (decoded_behind clock silent held ready started framed found called).2 with
      exhausted | ⟨accepted, _⟩
    · rcases kept with success | ⟨waiting, _⟩
      · exact absurd success fails
      · cases exhausted.symm.trans waiting
    · exact absurd accepted fails

/-- A round that goes on has taken a slot, and goes on by the length of the message. -/
theorem next_behind {middle : StreamFixParser} {position : Nat} {last : Option ParseResult}
    (ready : wire.Ready parser.config) (started : origin ≤ cursor)
    (stepped : parser.parseStep clock memory (noise ++ wire.bytes).length cursor lastSuccess =
      .ok (.next position last, middle)) :
    cursor ≤ noise.length ∧ position = cursor + wire.bytes.length ∧
      wire.Ready middle.config ∧
      parser.messagePool.available (middle.messagePool.freeList.length + 1) := by
  have total : (noise ++ wire.bytes).length = noise.length + wire.bytes.length := List.length_append
  cases parseStep_round stepped with
  | decoded framed found called accepted =>
    obtain ⟨before, exhausted | ⟨_, consumed, free⟩⟩ :=
      decoded_behind clock silent held ready started framed found called
    · cases exhausted.symm.trans accepted
    · refine ⟨before, ?_, ready, free⟩
      rw [consumed, wrapSize_of_bounds (by omega) (by omega)]
      omega

/-- A loop that hands over the message or keeps it has gone over the noise in steps of the length
of the message. -/
theorem rounds_of_kept (ready : wire.Ready parser.config) (started : origin ≤ cursor)
    (inside : cursor < (noise ++ wire.bytes).length)
    (ran : parseLoop clock memory (noise ++ wire.bytes).length fuel parser cursor lastSuccess =
      .ok (.returned result, after)) (kept : Kept wire result after) :
    ∃ rounds, noise.length = cursor + rounds * wire.bytes.length ∧
      parser.messagePool.available (rounds + 1) := by
  have total : (noise ++ wire.bytes).length = noise.length + wire.bytes.length := List.length_append
  induction fuel generalizing parser cursor lastSuccess with
  | zero => cases ran
  | succ fuel ih =>
    rw [parseLoop, if_pos inside] at ran
    obtain ⟨⟨step, middle⟩, stepped, ran⟩ := bind_ok.mp ran
    cases step with
    | leave exit =>
      cases ran
      exact absurd kept
        (not_kept_of_leaves clock lastSuccess silent held ready started stepped)
    | next position last =>
      obtain ⟨before, rfl, still, free⟩ :=
        next_behind clock lastSuccess silent held bound ready started stepped
      by_cases more : cursor + wire.bytes.length < (noise ++ wire.bytes).length
      · obtain ⟨rounds, closer, room⟩ := ih last still (by omega) more ran
        refine ⟨rounds + 1, ?_, free.1, ?_⟩
        · rw [Nat.succ_mul]
          omega
        · exact le_trans (Nat.succ_le_succ room.2) free.2
      · exact ⟨0, by omega, free.1, le_trans (Nat.le_add_left 1 _) free.2⟩

/-- A loop of a parser with the default limit that ends with a success has found a message within
the limit. -/
theorem fits_of_success (config : parser.config = {}) (started : origin ≤ cursor)
    (inside : cursor < (noise ++ wire.bytes).length)
    (ran : parseLoop clock memory (noise ++ wire.bytes).length fuel parser cursor lastSuccess =
      .ok (.returned result, after)) (success : result.status = .success) :
    wire.body.length ≤ 8192 := by
  have total : (noise ++ wire.bytes).length = noise.length + wire.bytes.length := List.length_append
  have sizes := wire.length_bytes
  have size := wire.length_frame
  by_contra large
  induction fuel generalizing parser cursor lastSuccess with
  | zero => cases ran
  | succ fuel ih =>
    obtain ⟨framing, decoded, pool, framed, found, called, accepted, rest⟩ :=
      parseLoop_decodes inside ran success
    obtain ⟨place, low, span, positive, limit⟩ :=
      WireMessage.frame_behind silent held started framed found
    have message := holds_behind held place
    have same : (parser.noteDecoded clock framing pool).config = {} := config
    have wrapped : foldDigits wire.bodyLengthText < wire.body.length := by
      have exact : wrapInt (8192 : Nat) = 8192 := by decide
      have most : parser.config.maxMessageSize = 8192 := config ▸ rfl
      rw [most, exact] at limit
      omega
    have part := WireMessage.decoded_part message (by omega) positive wrapped (by omega) called
    have moved : wrapSize (cursor + decoded.bytesConsumed) = cursor + decoded.bytesConsumed := by
      rw [wrapSize_of_bounds (by omega) (by omega)]
      omega
    rw [moved] at rest
    exact ih _ same (by omega) (by omega) rest

/-- Behind as much noise as a number of its copies, with slots for all, the message is returned. -/
theorem parseLoop_returns {rounds : Nat} (ready : wire.Ready parser.config)
    (started : origin ≤ cursor) (place : noise.length = cursor + rounds * wire.bytes.length)
    (free : parser.messagePool.available (rounds + 1)) (enough : rounds + 2 ≤ fuel) :
    ∃ result after, parseLoop clock memory (noise ++ wire.bytes).length fuel parser cursor
        lastSuccess = .ok (.returned result, after) ∧ Returns wire result after ∧
      result.bytesConsumed = (noise ++ wire.bytes).length ∧
      after.partialBuffer = parser.partialBuffer := by
  have size : (parser.messagePool.freeList.take (rounds + 1)).length = rounds + 1 :=
    List.length_take_of_le free.2
  have chain : parser.messagePool.freeList = parser.messagePool.freeList.take (rounds + 1) ++
      parser.messagePool.freeList.drop (rounds + 1) := (List.take_append_drop _ _).symm
  obtain ⟨spare, rfl⟩ : ∃ spare, fuel = rounds + spare + 2 := ⟨fuel - rounds - 2, by omega⟩
  obtain ⟨result, after, ran, success, consumed, placed, delivered⟩ :=
    parseLoop_noise clock lastSuccess silent held bound rounds ready started place free.1 chain size
  obtain ⟨slot, last⟩ :
      ∃ slot, (parser.messagePool.freeList.take (rounds + 1))[rounds]? = some slot :=
    ⟨_, List.getElem?_eq_getElem (by omega)⟩
  rw [List.getLast?_eq_getElem?, size] at placed
  exact ⟨result, after, ran, ⟨success, slot, _, _, placed.trans last,
    delivered.delivered rounds wire slot (by simp) last,
    fun tag => getField_decoded tag _⟩, consumed, delivered.partialBuffer⟩

end Noise

/-- A fresh parser hands over a message behind noise exactly when the noise is as long as a number
of copies of the message, the message is not longer than the limit, and the pool has a slot for
each of the copies and for the message. -/
theorem parse_noise_iff (pool : MessagePool FixMessage) (now : Nat) (clock : Clock)
    (outside : Memory) {noise : Bytes} {wire : WireMessage} (silent : ¬ ascii "8=" <:+: noise)
    (specialised :
      wire.msgType ∈ [ascii "8", ascii "0", ascii "9", ascii "3", ascii "1", ascii "2"])
    (long : 40 ≤ wire.frame.length) (bound : (noise ++ wire.bytes).length < 2 ^ 63) :
    (∃ result after slot message time,
      (new pool {} now).parse clock outside (noise ++ wire.bytes) = .ok (result, after) ∧
      result.status = .success ∧ result.bytesConsumed = noise.length + wire.bytes.length ∧
      result.parsedMessage = some slot ∧ after.messagePool.objects slot = some message ∧
      (∀ tag, message.getField tag =
        (FixMessage.lastValue tag (wire.assignments (checksum wire.frame))).or
          (if tag = FixFields.sendingTime then some (UtcTime.format time) else none)) ∧
      after.partialBuffer = []) ↔
    wire.bytes.length ∣ noise.length ∧ wire.body.length ≤ 8192 ∧
      pool.available (noise.length / wire.bytes.length + 1) := by
  have filled : noise ++ wire.bytes ≠ [] :=
    List.append_ne_nil_of_right_ne_nil noise wire.bytes_ne_nil
  have positive := List.length_pos_iff.mpr wire.bytes_ne_nil
  have held := overlay_holds (noise ++ wire.bytes) outside
  have quiet : ¬ ascii "8=" <:+: noise.drop 0 := silent
  rw [parse_new pool now clock outside filled]
  constructor
  · rintro ⟨result, after, _, _, _, ran, success, _⟩
    obtain ⟨⟨exit, next⟩, looped, ran⟩ := bind_ok.mp ran
    cases exit with
    | thrown what =>
      cases ran
      cases success
    | returned returned =>
      cases ran
      have started := List.length_pos_iff.mpr filled
      have fits := fits_of_success clock none quiet held bound rfl (le_refl 0) started looped
        success
      have ready : wire.Ready (new pool {} now).config := ready_of_le rfl specialised fits long
      obtain ⟨rounds, place, free⟩ := rounds_of_kept clock none quiet held bound ready
        (le_refl 0) started looped (.inl success)
      rw [Nat.zero_add] at place
      rw [place, Nat.mul_div_cancel _ positive]
      exact ⟨Nat.dvd_mul_left _ _, fits, free⟩
  · rintro ⟨⟨rounds, place⟩, fits, free⟩
    rw [place, Nat.mul_div_cancel_left _ positive] at free
    have ready : wire.Ready (new pool {} now).config := ready_of_le rfl specialised fits long
    have far : noise.length = 0 + rounds * wire.bytes.length := by
      rw [place, Nat.zero_add, Nat.mul_comm]
    obtain ⟨result, after, ran, ⟨success, slot, message, time, placed, stored, fields⟩, consumed,
      kept⟩ := parseLoop_returns clock none quiet held bound ready (le_refl 0) far free
        (Nat.succ_le_succ free.2)
    refine ⟨result, after, slot, message, time, ?_, success, ?_, placed, stored, fields, kept⟩
    · have looped : parseLoop clock (overlay (noise ++ wire.bytes) outside)
          (noise ++ wire.bytes).length ((new pool {} now).messagePool.freeList.length + 1)
          (new pool {} now) 0 none = .ok (.returned result, after) := ran
      unfold parseAvailable
      rw [looped]
      rfl
    · rw [consumed, List.length_append]

/-- Noise of the length of a heartbeat. -/
theorem parse_noise_iff_heartbeat :
    ¬ ascii "8=" <:+: List.replicate 55 88 ∧
    ∃ result after,
      (new samplePool {} 0).parse sampleClock Memory.unmapped
        (List.replicate 55 88 ++ sampleHeartbeat.bytes) = .ok (result, after) ∧
      result.status = .success ∧ result.bytesConsumed = 55 + sampleHeartbeat.bytes.length := by
  have silent : ¬ ascii "8=" <:+: List.replicate 55 88 := by decide +kernel
  obtain ⟨result, after, _, _, _, ran, success, consumed, _⟩ :=
    (parse_noise_iff samplePool 0 sampleClock unmapped silent
      (by decide : sampleHeartbeat.msgType ∈ _) (by decide) (by decide +kernel)).mpr
        ⟨by decide +kernel, by decide, by decide +kernel⟩
  exact ⟨silent, result, after, ran, success, consumed⟩

/-- After one byte of noise a heartbeat is decoded into slot 0, and then its last byte alone is
looked at: the call waits for more, keeps that byte and hands over nothing. -/
theorem parse_noise_loses_heartbeat :
    ¬ ascii "8=" <:+: ascii "X" ∧ ¬ ascii "8" <:+ ascii "X" ∧ 40 ≤ sampleHeartbeat.frame.length ∧
    ((new samplePool {} 0).parse sampleClock Memory.unmapped
        (ascii "X" ++ sampleHeartbeat.bytes)).toOption.map
      (fun outcome => (outcome.1.status, outcome.1.bytesConsumed, outcome.1.parsedMessage,
        outcome.2.partialBuffer, outcome.2.messagePool.freeList)) =
      some (.needMoreData, 0, none, [soh], [1, 2, 3]) := by
  decide +kernel

end StreamFixParser

end FixGateway.Protocol
