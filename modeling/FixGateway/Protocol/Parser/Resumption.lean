import FixGateway.Protocol.Parser.Passes
import FixGateway.Protocol.Parser.Noise

/-! # The message after an error

A recovery never succeeds, so an error ends the call, and the bytes behind the error are
neither parsed nor stored. More bytes at the end of the buffer do not change this: the
rounds up to the error are the same, and so is the error, if framing had found the start of
a message. If it had found none, the start of a message that follows is the first one, and
the call goes on as with any noise before a message.
-/

namespace FixGateway.Protocol

open ByteScan FixGateway.Common Memory

namespace StreamFixParser

/-! ## More bytes -/

section More

variable {clock : Clock} {small large : Memory} {length later cursor : Nat} {framing : Framing}
  {parser middle after : StreamFixParser} {cursors : List Nat}
  (larger : Memory.Extends small large) (more : length ≤ later)

include larger more

theorem framed_longer {maxMessageSize : Nat} {start : Int}
    (framed : findCompleteMessage (small.shift cursor) maxMessageSize (length - cursor) =
      .ok framing) (settled : framing.result.status ≠ .needMoreData)
    (opened : (small.shift cursor).search (ascii "8=") 0 (length - cursor : Nat) = .ok (some start))
    : findCompleteMessage (large.shift cursor) maxMessageSize (later - cursor) = .ok framing := by
  have here := larger.shift cursor
  apply findCompleteMessage_longer (Nat.sub_le_sub_right more cursor)
  · exact (findCompleteMessage_refines here _ _).ok framed
  · exact settled
  · exact (search_refines here).ok opened

theorem Passes.longer (passes : Passes clock small length parser cursors middle cursor) :
    Passes clock large later parser cursors middle cursor := by
  induction passes with
  | start => exact .start
  | round _ inside stepped ih =>
    cases parseStep_round stepped with
    | decoded framed success called accepted =>
      have settled : _ ≠ ParseStatus.needMoreData := fun waits => by cases success.symm.trans waits
      have again := framed_longer larger more framed settled
        (findCompleteMessage_search framed success)
      have decoded := (parseCompleteMessage_refines _ clock _
        ((larger.shift _).shift _) _).ok called
      exact ih.round (lt_of_lt_of_le inside more)
        (parseStep_decoded none again success decoded accepted)

end More

/-! ## Errors -/

/-- A round ends in an error of a frame. An exception becomes an InvalidFormat. -/
def FrameFails : DecodeReturn → Prop
  | .returned result => result.status = .invalidFormat ∨ result.status = .fieldParseError ∨
      result.status = .checksumError
  | .thrown _ => True

theorem FrameFails.ne {result : ParseResult} {status : ParseStatus}
    (fails : FrameFails (.returned result))
    (other : status ≠ .invalidFormat ∧ status ≠ .fieldParseError ∧ status ≠ .checksumError) :
    result.status ≠ status := by
  rintro rfl
  rcases fails with invalid | field | sum
  · exact other.1 invalid
  · exact other.2.1 field
  · exact other.2.2 sum

/-- Parsing the bytes alone comes to the cursor and ends there in an error. -/
structure FailsAt (parser : StreamFixParser) (clock : Clock) (bytes : Bytes)
    (middle : StreamFixParser) (cursor : Nat) : Prop where
  passes : ∃ cursors, Passes clock (Memory.overlay bytes Memory.unmapped) bytes.length parser
    cursors middle cursor
  inside : cursor < bytes.length
  fails : ∃ lastSuccess exit after, middle.parseStep clock (Memory.overlay bytes Memory.unmapped)
    bytes.length cursor lastSuccess = .ok (.leave exit, after) ∧ FrameFails exit

section Errors

variable {clock : Clock} {small large : Memory} {length later cursor : Nat}
  {parser middle after : StreamFixParser} {exit : DecodeReturn}

theorem fails_longer {lastSuccess : Option ParseResult} {start : Int}
    (larger : Memory.Extends small large) (more : length ≤ later)
    (readable : large.Readable 0 later) (inside : cursor < length)
    (left : middle.parseStep clock small length cursor lastSuccess = .ok (.leave exit, after))
    (fails : FrameFails exit)
    (opened : (small.shift cursor).search (ascii "8=") 0 (length - cursor : Nat) = .ok (some start))
    (other : Option ParseResult) :
    ∃ exit after, middle.parseStep clock large later cursor other = .ok (.leave exit, after) ∧
      FrameFails exit := by
  have within : cursor ≤ later := by omega
  have here := larger.shift cursor
  have settled : ∀ {status : ParseStatus}, status = .success → status ≠ .needMoreData := by
    rintro status rfl
    exact nofun
  cases parseStep_round left with
  | waited _ waits => exact absurd waits (fails.ne (by decide))
  | unframed framed waits failed =>
    obtain ⟨after, stepped, _⟩ := parseStep_unframed other within readable
      (framed_longer larger more framed waits opened) waits failed
    exact ⟨_, after, stepped, fails⟩
  | threw framed success called =>
    have thrown := (parseCompleteMessage_refines _ clock _ (here.shift _) _).ok called
    exact ⟨_, _, parseStep_threw other
      (framed_longer larger more framed (settled success) opened) success thrown, trivial⟩
  | undecoded framed success called failed =>
    have returned := (parseCompleteMessage_refines _ clock _ (here.shift _) _).ok called
    obtain ⟨after, stepped, _⟩ := parseStep_undecoded other within readable
      (framed_longer larger more framed (settled success) opened) success returned failed
    exact ⟨_, after, stepped, fails⟩

theorem parseAvailable_frameFails {outside : Memory} {bytes : Bytes} {cursors : List Nat}
    (passes : Passes clock (overlay bytes outside) bytes.length parser cursors middle cursor)
    (inside : cursor < bytes.length)
    (fails : ∀ lastSuccess, ∃ exit after, middle.parseStep clock (overlay bytes outside)
      bytes.length cursor lastSuccess = .ok (.leave exit, after) ∧ FrameFails exit) :
    ∃ result after, parser.parseAvailable clock outside bytes = .ok (result, after) ∧
      result.status ≠ .success ∧ result.status ≠ .needMoreData := by
  obtain ⟨lastSuccess, returns, throws, _⟩ := passes.last_round inside
  obtain ⟨exit, after, stepped, failed⟩ := fails lastSuccess
  cases exit with
  | returned result =>
    exact ⟨result, after, returns _ _ stepped, failed.ne (by decide), failed.ne (by decide)⟩
  | thrown what => exact ⟨_, _, throws _ _ stepped, nofun, nofun⟩

theorem failsAt_of_parse {buffer : Bytes} {error : ParseResult} (accepting : Accepting parser)
    (nonempty : buffer ≠ []) (alone : parser.parse clock unmapped buffer = .ok (error, after))
    (failed : FrameFails (.returned error)) :
    ∃ middle cursor,
      FailsAt parser.clearPartial clock (parser.partialBuffer ++ buffer) middle cursor := by
  rw [parse_let_through accepting nonempty] at alone
  split at alone
  · cases alone
    exact absurd rfl (failed.ne (by decide : ParseStatus.messageTooLarge ≠ _ ∧ _))
  · obtain ⟨cursors, middle, cursor, exit, left, passes, ends, answer⟩ := parseAvailable_last alone
    cases ends with
    | left inside stepped =>
      refine ⟨middle, cursor, ⟨cursors, passes⟩, inside, _, exit, left, stepped, ?_⟩
      rcases answer with ⟨rfl, _⟩ | ⟨what, rfl, _⟩
      · exact failed
      · trivial
    | reached _ status =>
      rcases answer with ⟨returned, _⟩ | ⟨what, thrown, _⟩
      · cases returned
        rcases status with success | waits
        · exact absurd success (failed.ne (by decide))
        · exact absurd waits (failed.ne (by decide))
      · cases thrown

end Errors

/-! ## The message behind the error -/

/-- A call returns the given message, or it keeps all its bytes for the next call. -/
def Resumes (wire : WireMessage) (call : Except Fault (ParseResult × StreamFixParser)) : Prop :=
  ∃ result after, call = .ok (result, after) ∧ (Returns wire result after ∨
    result.status = .needMoreData ∧ wire.bytes <:+ after.partialBuffer)

section Resumption

variable {clock : Clock} {outside : Memory} {bytes : Bytes} {wire : WireMessage} {cursor : Nat}
  {parser middle : StreamFixParser} {cursors : List Nat}

theorem search_of_infix (inside : cursor ≤ bytes.length)
    (found : ascii "8=" <:+: bytes.drop cursor) :
    ∃ start, ((overlay bytes unmapped).shift cursor).search (ascii "8=") 0
      (bytes.length - cursor : Nat) = .ok (some start) := by
  have held : ((overlay bytes unmapped).shift cursor).Holds 0
      (bytes.drop cursor) := by
    rw [holds_shift, add_zero]
    have tail := (overlay_holds bytes unmapped).drop inside
    rwa [zero_add] at tail
  have size : ((bytes.length - cursor : Nat) : Int) = 0 + (bytes.drop cursor).length := by
    rw [List.length_drop, zero_add]
  rw [search_eq held size]
  cases first : Memory.occurrence? (ascii "8=") (bytes.drop cursor) with
  | none => exact absurd found ((Memory.occurrence?_eq_none_iff (by decide)).mp first)
  | some index => exact ⟨_, rfl⟩

/-- With no `8=` from the cursor on, the bytes are noise before the message. -/
theorem parseAvailable_resumes_iff (ready : wire.Ready parser.config)
    (bound : (bytes ++ wire.bytes).length < 2 ^ 63) (inside : cursor < bytes.length)
    (silent : ¬ ascii "8=" <:+: bytes.drop cursor)
    (passes : Passes clock (overlay (bytes ++ wire.bytes) outside)
      (bytes ++ wire.bytes).length parser cursors middle cursor) :
    Resumes wire (parser.parseAvailable clock outside (bytes ++ wire.bytes)) ↔
      wire.bytes.length ∣ bytes.length - cursor ∧
        middle.messagePool.available ((bytes.length - cursor) / wire.bytes.length + 1) := by
  have held := overlay_holds (bytes ++ wire.bytes) outside
  have positive := List.length_pos_iff.mpr wire.bytes_ne_nil
  have same : wire.Ready middle.config := passes.config ▸ ready
  obtain ⟨fuel, lastSuccess, enough, goesOn⟩ := passes.fuelled
  unfold parseAvailable
  rw [goesOn]
  constructor
  · rintro ⟨result, after, ran, kept⟩
    obtain ⟨⟨exit, left⟩, looped, ran⟩ := bind_ok.mp ran
    cases exit with
    | thrown what =>
      cases ran
      rcases kept with ⟨success, _⟩ | ⟨waits, _⟩
      · cases success
      · cases waits
    | returned answer =>
      cases ran
      have within : cursor < (bytes ++ wire.bytes).length := by
        rw [List.length_append]
        omega
      obtain ⟨rounds, place, free⟩ := rounds_of_kept clock lastSuccess silent held bound same
        (le_refl cursor) within looped (kept.imp_left And.left)
      rw [place, Nat.add_sub_cancel_left, Nat.mul_div_cancel _ positive]
      exact ⟨Nat.dvd_mul_left _ _, free⟩
  · rintro ⟨⟨rounds, place⟩, free⟩
    rw [place, Nat.mul_div_cancel_left _ positive] at free
    have far : bytes.length = cursor + rounds * wire.bytes.length := by
      rw [Nat.mul_comm] at place
      omega
    have slots := free.2
    obtain ⟨result, after, ran, returns, _⟩ := parseLoop_returns clock lastSuccess silent held bound
      same (le_refl cursor) far free (by omega : rounds + 2 ≤ fuel)
    rw [ran]
    exact ⟨result, after, rfl, .inl returns⟩

/-- A message that follows bytes on which the call fails is returned, or kept for the next call,
exactly if the buffer has room, there is no `8=` from the place of the error on, the bytes from
there on are as many as a number of copies of the message, and there is a slot for each. -/
theorem recovery_resumes_iff {faulty : Bytes} {error : ParseResult} {stopped : StreamFixParser}
    (accepting : Accepting parser) (nonempty : faulty ≠ [])
    (alone : parser.parse clock Memory.unmapped faulty = .ok (error, stopped))
    (failed : error.status = .invalidFormat ∨ error.status = .fieldParseError ∨
      error.status = .checksumError) (ready : wire.Ready parser.config)
    (bound : (parser.partialBuffer ++ faulty ++ wire.bytes).length < 2 ^ 63) :
    let bytes := parser.partialBuffer ++ faulty
    (∃ middle cursor, FailsAt parser.clearPartial clock bytes middle cursor) ∧
    ∀ middle cursor, FailsAt parser.clearPartial clock bytes middle cursor → ∀ outside,
      (Resumes wire (parser.parse clock outside (faulty ++ wire.bytes)) ↔
        parser.HasRoom (faulty ++ wire.bytes) ∧ ¬ ascii "8=" <:+: bytes.drop cursor ∧
        wire.bytes.length ∣ bytes.length - cursor ∧
        middle.messagePool.available ((bytes.length - cursor) / wire.bytes.length + 1)) := by
  intro bytes
  refine ⟨failsAt_of_parse accepting nonempty alone failed, ?_⟩
  intro middle cursor failsAt outside
  have filled : faulty ++ wire.bytes ≠ [] := List.append_ne_nil_of_left_ne_nil nonempty _
  by_cases room : parser.HasRoom (faulty ++ wire.bytes)
  · rw [parse_accepting accepting filled room, and_iff_right room, ← List.append_assoc]
    obtain ⟨cursors, alonePasses⟩ := failsAt.passes
    have inside := failsAt.inside
    have whole := overlay_holds (bytes ++ wire.bytes) outside
    have larger := whole.left.extends
    have more : bytes.length ≤ (bytes ++ wire.bytes).length :=
      (List.prefix_append bytes wire.bytes).length_le
    have passes := alonePasses.longer larger more
    by_cases silent : ¬ ascii "8=" <:+: bytes.drop cursor
    · rw [and_iff_right silent]
      exact parseAvailable_resumes_iff ready bound inside silent passes
    · refine iff_of_false ?_ fun both => silent both.1
      obtain ⟨lastSuccess, exit, left, stepped, fails⟩ := failsAt.fails
      obtain ⟨start, opened⟩ := search_of_infix (le_of_lt inside) (not_not.mp silent)
      obtain ⟨result, after, ran, failure, settled⟩ := parseAvailable_frameFails passes
        (lt_of_lt_of_le inside more) fun other => fails_longer larger more
          (overlay_readable _ _) inside stepped fails opened other
      rintro ⟨_, _, again, kept⟩
      rw [ran] at again
      cases again
      rcases kept with ⟨success, _⟩ | ⟨waits, _⟩
      · exact failure success
      · exact settled waits
  · refine iff_of_false ?_ fun both => room both.1
    rw [parse_let_through accepting filled, if_pos (not_not.mp (mt hasRoom_iff.mpr room))]
    rintro ⟨result, after, ran, kept⟩
    cases ran
    rcases kept with ⟨success, _⟩ | ⟨waits, _⟩
    · cases success
    · cases waits

/-- Noise of the length of a heartbeat, before the heartbeat. -/
theorem recovery_resumes_iff_noise :
    let parser := new samplePool {} 0
    (∃ error stopped, parser.parse sampleClock Memory.unmapped (List.replicate 55 88) =
      .ok (error, stopped) ∧ error.status = .invalidFormat) ∧
    Resumes sampleHeartbeat (parser.parse sampleClock Memory.unmapped
      (List.replicate 55 88 ++ sampleHeartbeat.bytes)) := by
  have failed : ((new samplePool {} 0).parse sampleClock unmapped
      (List.replicate 55 88)).toOption.map (fun outcome => outcome.1.status) =
        some .invalidFormat := by decide +kernel
  obtain ⟨⟨error, stopped⟩, found, status⟩ := Option.map_eq_some_iff.mp failed
  have alone := ok_of_toOption found
  have accepting : Accepting (new samplePool {} 0) := accepting_new (by decide)
  have ready : sampleHeartbeat.Ready (new samplePool {} 0).config :=
    WireMessage.ready_of_le rfl (by decide) (by decide) (by decide)
  obtain ⟨_, resumes⟩ := recovery_resumes_iff accepting (by decide) alone (.inl status) ready
    (by decide +kernel)
  have first : ((new samplePool {} 0).clearPartial.parseStep sampleClock
      (overlay (List.replicate 55 88) unmapped) 55 0 none).toOption.map
      (fun outcome => match outcome.1 with
        | .leave (.returned result) => some result.status
        | _ => none) = some (some .invalidFormat) := by decide +kernel
  obtain ⟨⟨step, left⟩, stepped, shape⟩ := Option.map_eq_some_iff.mp first
  have failsAt : FailsAt (new samplePool {} 0).clearPartial sampleClock (List.replicate 55 88)
      (new samplePool {} 0).clearPartial 0 := by
    refine ⟨⟨[], .start⟩, by decide, none, ?_⟩
    cases step with
    | next position result => cases shape
    | leave exit =>
      cases exit with
      | thrown what => cases shape
      | returned result => exact ⟨_, left, ok_of_toOption stepped, .inl (Option.some.inj shape)⟩
  exact ⟨⟨error, stopped, alone, status⟩, (resumes _ 0 failsAt unmapped).mpr
    ⟨.inl rfl, by decide +kernel, by decide +kernel, by decide +kernel⟩⟩

/-- A BeginString and a BodyLength that is no number. -/
def badHeader : Bytes := fixBeginString ++ soh :: (ascii "9=abc" ++ [soh])

/-- The heartbeat behind the bad header is neither returned nor kept. -/
theorem heartbeat_after_error_lost :
    ¬ ascii "8=FIX" <:+: badHeader.drop 1 ∧
    ((new samplePool {} 0).parse sampleClock Memory.unmapped badHeader).toOption.map
      (fun outcome => outcome.1.status) = some .invalidFormat ∧
    ((new samplePool {} 0).parse sampleClock Memory.unmapped
        (badHeader ++ sampleHeartbeat.bytes)).toOption.map
      (fun outcome => (outcome.1.status, outcome.1.parsedMessage, outcome.2.partialBuffer,
        outcome.2.messagePool.allocatedCount)) = some (.invalidFormat, none, [], 0) := by
  decide +kernel

end Resumption

end StreamFixParser

end FixGateway.Protocol
