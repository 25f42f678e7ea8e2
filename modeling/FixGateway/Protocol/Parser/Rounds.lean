import FixGateway.Protocol.Parser.Parse

/-! # Rounds of the message loop

What one round of the loop can do, said once: it waits for more bytes and stores
those it has, or it returns an error, or it decodes a message and moves on, or an
exception leaves it. `Round` lists these cases with everything the round changes.

Error recovery is not among them. `handleErrorRecovery` resets the context to IDLE
before it asks for the transition to IDLE, which is not a valid one, so a recovery
never succeeds and only counts.
-/

namespace FixGateway.Protocol

open ByteScan FixGateway.Common

namespace StreamFixParser

variable {parser after : StreamFixParser} {clock : Clock} {memory : Memory} {length cursor : Nat}
  {before middle : StreamFixParser} {result error decoded : ParseResult} {frame : Memory}
  {frameLength maxMessageSize : Nat} {messageEnd : Int} {step : LoopStep} {framing : Framing}
  {pool : MessagePool FixMessage} {leftover : Bytes} (lastSuccess : Option ParseResult)

/-- The parts of a parser that error handling leaves alone. -/
structure Keeps (before after : StreamFixParser) : Prop where
  messagePool : after.messagePool = before.messagePool
  config : after.config = before.config
  partialBuffer : after.partialBuffer = before.partialBuffer
  messagesParsed : after.stats.messagesParsed = before.stats.messagesParsed
  circuitBreakerActive : after.circuitBreakerActive = before.circuitBreakerActive

theorem Keeps.refl (parser : StreamFixParser) : Keeps parser parser := ⟨rfl, rfl, rfl, rfl, rfl⟩

theorem Keeps.trans (first : Keeps before middle) (second : Keeps middle after) :
    Keeps before after :=
  ⟨second.messagePool.trans first.messagePool, second.config.trans first.config,
    second.partialBuffer.trans first.partialBuffer,
    second.messagesParsed.trans first.messagesParsed,
    second.circuitBreakerActive.trans first.circuitBreakerActive⟩

/-- Error recovery leaves what is counted alone, too. -/
structure KeepsCounts (before after : StreamFixParser) : Prop extends Keeps before after where
  parseErrors : after.stats.parseErrors = before.stats.parseErrors
  checksumErrors : after.stats.checksumErrors = before.stats.checksumErrors
  allocationFailures : after.stats.allocationFailures = before.stats.allocationFailures
  consecutiveErrors : after.context.consecutiveErrors = before.context.consecutiveErrors
  circuitBreakerLastReset : after.circuitBreakerLastReset = before.circuitBreakerLastReset

theorem KeepsCounts.refl (parser : StreamFixParser) : KeepsCounts parser parser :=
  ⟨.refl parser, rfl, rfl, rfl, rfl, rfl⟩

theorem KeepsCounts.trans (first : KeepsCounts before middle) (second : KeepsCounts middle after) :
    KeepsCounts before after :=
  ⟨first.toKeeps.trans second.toKeeps, second.parseErrors.trans first.parseErrors,
    second.checksumErrors.trans first.checksumErrors,
    second.allocationFailures.trans first.allocationFailures,
    second.consecutiveErrors.trans first.consecutiveErrors,
    second.circuitBreakerLastReset.trans first.circuitBreakerLastReset⟩

theorem keeps_noteBodyLength (framing : Framing) : Keeps parser (parser.noteBodyLength framing) :=
  ⟨rfl, rfl, rfl, rfl, rfl⟩

theorem keeps_updateErrorStats (now : Nat) (status : ParseStatus) (state : ParseState) :
    Keeps parser (parser.updateErrorStats now status state) := by
  refine ⟨rfl, rfl, rfl, ?_, rfl⟩
  cases status <;> rfl

theorem keeps_updateStats {status : ParseStatus} (fails : status ≠ .success) :
    Keeps parser (parser.updateStats status) := by
  unfold updateStats
  rw [if_neg fails]
  exact ⟨rfl, rfl, rfl, rfl, rfl⟩

theorem keeps_transitionToState (parser : StreamFixParser) (next : ParseState) :
    KeepsCounts parser (parser.transitionToState next).2 := by
  unfold transitionToState
  split <;> exact ⟨⟨rfl, rfl, rfl, rfl, rfl⟩, rfl, rfl, rfl, rfl, rfl⟩

/-! ## Error recovery -/

theorem skipFrom_total {first count : Nat} (readable : memory.Readable first (first + count + 4)) :
    Finishes (skipFrom memory first count) := by
  induction count generalizing first with
  | zero => exact .ok _
  | succ count ih =>
    have five : (ascii "8=FIX").length = 5 := by decide
    have window : memory.Readable first (first + (ascii "8=FIX").length) :=
      readable.mono (le_refl _) (by push_cast; omega)
    have rest : memory.Readable (first + 1 : Nat) ((first + 1 : Nat) + count + 4) :=
      readable.mono (by push_cast; omega) (by push_cast; omega)
    exact (Memory.startsAt_total window).bind fun _ _ => .ite (fun _ => .ok _) fun _ => ih rest

theorem skipToNextPotentialMessage_total
    (window : memory.Readable 0 (wrapSize ((length : Int) - 5) + 4 : Nat)) :
    Finishes (skipToNextPotentialMessage memory length 0) := by
  have inside : memory.Readable (0 : Nat)
      ((0 : Nat) + (wrapSize ((length : Int) - 5) - 0 : Nat) + 4) :=
    window.mono (by omega) (by omega)
  exact (skipFrom_total inside).bind fun _ _ => .ok _

/-- The search for the next message stays inside the bytes it is given. -/
theorem window_of_readable (long : 5 ≤ length) (readable : memory.Readable 0 length) :
    memory.Readable 0 (wrapSize ((length : Int) - 5) + 4 : Nat) := by
  refine readable.mono (le_refl _) ?_
  unfold wrapSize
  omega

/-- A recovery does not succeed, and ends in IDLE. -/
theorem handleErrorRecovery_spec
    (ok : parser.handleErrorRecovery memory length = .ok (result, after)) :
    result.status ≠ .recoverySuccess ∧ KeepsCounts parser after ∧
      after.context.currentState = .idle := by
  obtain ⟨skipped, _, ok⟩ := bind_ok.mp ok
  dsimp only at ok
  split at ok
  · cases ok
    exact ⟨nofun, ⟨⟨rfl, rfl, rfl, rfl, rfl⟩, rfl, rfl, rfl, rfl, rfl⟩, rfl⟩
  · -- after `reset` the state is IDLE, from which IDLE cannot be entered
    have refused : ∀ parser : StreamFixParser, parser.context.currentState = .idle →
        parser.transitionToState .idle = (false, parser) := by
      intro parser idle
      unfold transitionToState
      rw [idle]
      rfl
    rw [refused _ rfl] at ok
    cases ok
    exact ⟨nofun, ⟨⟨rfl, rfl, rfl, rfl, rfl⟩, rfl, rfl, rfl, rfl, rfl⟩, rfl⟩

theorem attemptErrorRecovery_spec {detail : Bytes}
    (ok : parser.attemptErrorRecovery memory length detail = .ok (result, after)) :
    result.status ≠ .recoverySuccess ∧ KeepsCounts parser after ∧
      (parser.context.currentState = .idle → after.context.currentState = .idle) := by
  have moved := parser.keeps_transitionToState .errorRecovery
  unfold attemptErrorRecovery at ok
  split at ok
  · rename_i next refused
    rw [refused] at moved
    cases ok
    refine ⟨nofun, moved, fun idle => ?_⟩
    rw [transitionToState, idle] at refused
    cases refused
  · rename_i next entered
    rw [entered] at moved
    obtain ⟨fails, kept, idle⟩ := handleErrorRecovery_spec ok
    exact ⟨fails, moved.trans kept, fun _ => idle⟩

theorem recover_spec {recovered : Option ParseResult}
    (ok : parser.recover memory length error = .ok (recovered, after)) :
    recovered = none ∧ KeepsCounts parser after ∧
      (parser.context.currentState = .idle → after.context.currentState = .idle) := by
  unfold recover at ok
  split at ok
  · obtain ⟨⟨recovery, middle⟩, attempted, ok⟩ := bind_ok.mp ok
    obtain ⟨fails, kept⟩ := attemptErrorRecovery_spec attempted
    dsimp only at ok
    rw [if_neg fails] at ok
    cases ok
    exact ⟨rfl, kept⟩
  · cases ok
    exact ⟨rfl, .refl _, id⟩

theorem recover_total (window : memory.Readable 0 (wrapSize ((length : Int) - 5) + 4 : Nat)) :
    Finishes (parser.recover memory length error) := by
  refine .ite (fun _ => ?_) fun _ => .ok _
  have attempted : Finishes (parser.attemptErrorRecovery memory length error.errorDetail) := by
    unfold attemptErrorRecovery
    split
    · exact .ok _
    · refine (skipToNextPotentialMessage_total window).bind fun _ _ => ?_
      refine .ite (fun _ => .ok _) fun _ => ?_
      dsimp only
      split <;> exact .ok _
  exact attempted.bind fun _ _ => .ite (fun _ => .ok _) fun _ => .ok _

/-! ## The cases of a round -/

/-- The parser after a decoded message. -/
def noteDecoded (parser : StreamFixParser) (clock : Clock) (framing : Framing)
    (pool : MessagePool FixMessage) : StreamFixParser :=
  ((((parser.noteBodyLength framing).withPool pool).resetErrorRecovery
    clock.now).recordPartialMessageHandled).updateStats .success

/-- A decoded result with the position after it. -/
def movedTo (decoded : ParseResult) (cursor : Nat) : ParseResult :=
  { decoded with bytesConsumed := wrapSize (cursor + decoded.bytesConsumed) }

/-- What a round at a cursor can do. -/
inductive Round (clock : Clock) (memory : Memory) (length cursor : Nat) (before : StreamFixParser) :
    LoopStep → StreamFixParser → Prop where
  | waited {framing : Framing} {leftover : Bytes} :
      findCompleteMessage (memory.shift cursor) before.config.maxMessageSize (length - cursor) =
        .ok framing →
      framing.result.status = .needMoreData →
      (memory.shift cursor).slice 0 (length - cursor) = .ok leftover →
      ∀ fits : leftover.length ≤ partialBufferSize,
        Round clock memory length cursor before (.leave (.returned framing.result))
          { before.noteBodyLength framing with partialBuffer := leftover, fits := fits }
  | unframed {framing : Framing} {after : StreamFixParser} :
      findCompleteMessage (memory.shift cursor) before.config.maxMessageSize (length - cursor) =
        .ok framing →
      framing.result.status ≠ .needMoreData → framing.result.status ≠ .success →
      Keeps before after →
        Round clock memory length cursor before (.leave (.returned framing.result)) after
  | threw {framing : Framing} {what : Bytes} {pool : MessagePool FixMessage} :
      findCompleteMessage (memory.shift cursor) before.config.maxMessageSize (length - cursor) =
        .ok framing →
      framing.result.status = .success →
      parseCompleteMessage before.config clock before.messagePool
        ((memory.shift cursor).shift framing.messageStart)
        (framing.messageEnd - framing.messageStart).toNat = .ok (.thrown what, pool) →
        Round clock memory length cursor before (.leave (.thrown what))
          ((before.noteBodyLength framing).withPool pool)
  | decoded {framing : Framing} {decoded : ParseResult} {pool : MessagePool FixMessage} :
      findCompleteMessage (memory.shift cursor) before.config.maxMessageSize (length - cursor) =
        .ok framing →
      framing.result.status = .success →
      parseCompleteMessage before.config clock before.messagePool
        ((memory.shift cursor).shift framing.messageStart)
        (framing.messageEnd - framing.messageStart).toNat = .ok (.returned decoded, pool) →
      decoded.status = .success →
        Round clock memory length cursor before
          (.next (wrapSize (cursor + decoded.bytesConsumed)) (some (movedTo decoded cursor)))
          (before.noteDecoded clock framing pool)
  | undecoded {framing : Framing} {decoded : ParseResult} {pool : MessagePool FixMessage}
      {after : StreamFixParser} :
      findCompleteMessage (memory.shift cursor) before.config.maxMessageSize (length - cursor) =
        .ok framing →
      framing.result.status = .success →
      parseCompleteMessage before.config clock before.messagePool
        ((memory.shift cursor).shift framing.messageStart)
        (framing.messageEnd - framing.messageStart).toNat = .ok (.returned decoded, pool) →
      decoded.status ≠ .success → Keeps (before.withPool pool) after →
        Round clock memory length cursor before (.leave (.returned (movedTo decoded cursor))) after

theorem frameDecoded_spec (fails : decoded.status ≠ .success)
    (ok : parser.frameDecoded clock frame frameLength cursor messageEnd decoded = .ok (step, after))
    : step = .leave (.returned (movedTo decoded cursor)) ∧ Keeps parser after := by
  unfold frameDecoded at ok
  dsimp only at ok
  rw [if_neg fails] at ok
  split at ok
  · cases ok
    exact ⟨rfl, .refl _⟩
  · obtain ⟨⟨recovered, middle⟩, attempted, ok⟩ := bind_ok.mp ok
    obtain ⟨rfl, kept, _⟩ := recover_spec attempted
    cases ok
    exact ⟨rfl, (keeps_updateErrorStats _ _ _).trans ((keeps_updateStats fails).trans kept.toKeeps)⟩

theorem frameDecoded_total
    (window : frame.Readable 0 (wrapSize ((frameLength : Int) - 5) + 4 : Nat)) :
    Finishes (parser.frameDecoded clock frame frameLength cursor messageEnd decoded) := by
  refine .ite (fun _ => .ok _) fun _ => .ite (fun _ => .ok _) fun _ => ?_
  refine (recover_total window).bind fun recovery _ => ?_
  obtain ⟨recovered, middle⟩ := recovery
  cases recovered <;> exact .ok _

/-- Every round is one of the cases. -/
theorem parseStep_round {lastSuccess : Option ParseResult}
    (ok : parser.parseStep clock memory length cursor lastSuccess = .ok (step, after)) :
    Round clock memory length cursor parser step after := by
  obtain ⟨framing, framed, _⟩ := bind_ok.mp ok
  by_cases waits : framing.result.status = .needMoreData
  · rw [parseStep_needMoreData framed waits] at ok
    obtain ⟨leftover, sliced, ok⟩ := bind_ok.mp ok
    obtain ⟨stored, kept, ok⟩ := bind_ok.mp ok
    unfold storePartial at kept
    split at kept
    · rename_i fits
      cases kept
      cases ok
      exact .waited framed waits sliced fits
    · cases kept
  by_cases success : framing.result.status = .success
  · rw [parseStep_success framed success] at ok
    obtain ⟨⟨exit, pool⟩, called, ok⟩ := bind_ok.mp ok
    cases exit with
    | thrown what =>
      cases ok
      exact .threw framed success called
    | returned decoded =>
      by_cases accepted : decoded.status = .success
      · dsimp only at ok
        rw [frameDecoded_success accepted] at ok
        cases ok
        exact .decoded framed success called accepted
      · obtain ⟨rfl, kept⟩ := frameDecoded_spec accepted ok
        exact .undecoded framed success called accepted
          ⟨kept.1, kept.2, kept.3, kept.4, kept.5⟩
  · rw [parseStep_failed framed waits success] at ok
    obtain ⟨⟨recovered, middle⟩, attempted, ok⟩ := bind_ok.mp ok
    obtain ⟨rfl, kept, _⟩ := recover_spec attempted
    cases ok
    exact .unframed framed waits success
      ((keeps_noteBodyLength framing).trans (kept.toKeeps.trans (keeps_updateErrorStats _ _ _)))

theorem ten_le_of_framed (framed : findCompleteMessage memory maxMessageSize length = .ok framing)
    (waits : framing.result.status ≠ .needMoreData) : 10 ≤ length := by
  by_contra short
  rw [findCompleteMessage_short (Nat.not_le.mp short)] at framed
  cases framed
  exact waits rfl

theorem readable_from (inside : cursor ≤ length) (readable : memory.Readable 0 length) :
    (memory.shift cursor).Readable 0 (length - cursor : Nat) :=
  Memory.Readable.shift (readable.mono (by omega) (by omega))

theorem frame_positive (framed : findCompleteMessage memory maxMessageSize length = .ok framing)
    (success : framing.result.status = .success) :
    0 < (framing.messageEnd - framing.messageStart).toNat := by
  obtain ⟨low, high, version, digits, frame⟩ := findCompleteMessage_success framed success
  have positive := frame.positive
  have ends := frame.stop_eq
  omega

theorem frame_readable (readable : memory.Readable 0 length)
    (framed : findCompleteMessage memory maxMessageSize length = .ok framing)
    (success : framing.result.status = .success) :
    (memory.shift framing.messageStart).Readable 0
        ((framing.messageEnd - framing.messageStart).toNat : Nat) ∧
      15 ≤ (framing.messageEnd - framing.messageStart).toNat ∧
      (framing.messageEnd - framing.messageStart).toNat ≤ length := by
  obtain ⟨low, high, version, digits, frame⟩ := findCompleteMessage_success framed success
  have positive := frame.positive
  have ends := frame.stop_eq
  have nonempty := List.length_pos_iff.mpr frame.nonempty
  refine ⟨Memory.Readable.shift (readable.mono (by omega) (by omega)), by omega, by omega⟩

section

variable (framed : parser.frameAt memory length cursor = .ok framing)
include framed

theorem parseStep_decoded (success : framing.result.status = .success)
    (called : parser.decodeAt clock memory cursor framing = .ok (.returned decoded, pool))
    (accepted : decoded.status = .success) :
    parser.parseStep clock memory length cursor lastSuccess =
      .ok (.next (wrapSize (cursor + decoded.bytesConsumed)) (some (movedTo decoded cursor)),
        parser.noteDecoded clock framing pool) := by
  rw [parseStep_success framed success]
  simp only [called, bind, Except.bind, frameDecoded_success accepted]
  rfl

theorem parseStep_threw {what : Bytes} (success : framing.result.status = .success)
    (called : parser.decodeAt clock memory cursor framing = .ok (.thrown what, pool)) :
    parser.parseStep clock memory length cursor lastSuccess =
      .ok (.leave (.thrown what), (parser.noteBodyLength framing).withPool pool) := by
  rw [parseStep_success framed success]
  simp only [called, bind, Except.bind]

theorem parseStep_faulted {fault : Fault} (success : framing.result.status = .success)
    (faulted : parser.decodeAt clock memory cursor framing = .error fault) :
    parser.parseStep clock memory length cursor lastSuccess = .error fault := by
  rw [parseStep_success framed success, faulted]
  rfl

end

theorem parseStep_undecoded (inside : cursor ≤ length) (readable : memory.Readable 0 length)
    (framed : parser.frameAt memory length cursor = .ok framing)
    (success : framing.result.status = .success)
    (called : parser.decodeAt clock memory cursor framing = .ok (.returned decoded, pool))
    (fails : decoded.status ≠ .success) :
    ∃ after, parser.parseStep clock memory length cursor lastSuccess =
        .ok (.leave (.returned (movedTo decoded cursor)), after) ∧
      Keeps (parser.withPool pool) after := by
  obtain ⟨frame, long, short⟩ := frame_readable (readable_from inside readable) framed success
  obtain ⟨⟨step, after⟩, ok⟩ : Finishes (((parser.noteBodyLength framing).withPool
      pool).frameDecoded clock ((memory.shift cursor).shift framing.messageStart)
      (framing.messageEnd - framing.messageStart).toNat cursor framing.messageEnd decoded) :=
    frameDecoded_total (window_of_readable (by omega) frame)
  obtain ⟨rfl, kept⟩ := frameDecoded_spec fails ok
  refine ⟨after, ?_, kept.1, kept.2, kept.3, kept.4, kept.5⟩
  rw [parseStep_success framed success]
  simp only [called, bind, Except.bind, ok]

theorem parseStep_unframed (inside : cursor ≤ length) (readable : memory.Readable 0 length)
    (framed : parser.frameAt memory length cursor = .ok framing)
    (waits : framing.result.status ≠ .needMoreData) (fails : framing.result.status ≠ .success) :
    ∃ after, parser.parseStep clock memory length cursor lastSuccess =
        .ok (.leave (.returned framing.result), after) ∧ Keeps parser after := by
  have long := ten_le_of_framed framed waits
  obtain ⟨⟨recovered, middle⟩, attempted⟩ : Finishes ((parser.noteBodyLength framing).recover
      (memory.shift cursor) (length - cursor) framing.result) :=
    recover_total (window_of_readable (by omega) (readable_from inside readable))
  obtain ⟨rfl, kept, _⟩ := recover_spec attempted
  refine ⟨middle.updateErrorStats clock.now framing.result.status framing.result.finalState, ?_,
    (keeps_noteBodyLength framing).trans (kept.toKeeps.trans (keeps_updateErrorStats _ _ _))⟩
  rw [parseStep_failed framed waits fails, frameFailed, attempted]
  rfl

theorem slice_from_cursor (held : memory.Holds cursor leftover)
    (size : leftover.length = length - cursor) :
    (memory.shift cursor).slice 0 (length - cursor) = .ok leftover := by
  apply Memory.slice_ok_iff.mpr
  rw [Memory.holds_shift, add_zero]
  exact ⟨held, size⟩

theorem parseStep_waited (framed : parser.frameAt memory length cursor = .ok framing)
    (waits : framing.result.status = .needMoreData) (held : memory.Holds cursor leftover)
    (size : leftover.length = length - cursor) (fits : leftover.length ≤ partialBufferSize) :
    parser.parseStep clock memory length cursor lastSuccess =
      .ok (.leave (.returned framing.result),
        { parser.noteBodyLength framing with partialBuffer := leftover, fits := fits }) := by
  rw [parseStep_needMoreData framed waits, slice_from_cursor held size]
  simp only [bind, Except.bind, storePartial, dif_pos fits]

/-- A round that waits with more bytes than fit writes past the end of the buffer. -/
theorem parseStep_overflow (framed : parser.frameAt memory length cursor = .ok framing)
    (waits : framing.result.status = .needMoreData) (held : memory.Holds cursor leftover)
    (size : leftover.length = length - cursor) (beyond : ¬ leftover.length ≤ partialBufferSize) :
    parser.parseStep clock memory length cursor lastSuccess =
      .error (.overflow (length - cursor)) := by
  rw [parseStep_needMoreData framed waits, slice_from_cursor held size]
  simp only [bind, Except.bind, storePartial]
  rw [dif_neg beyond, size]

/-- A round ends without a fault when decoding does, unless there are more bytes to
store than the buffer holds. Only decoding may read beyond the available bytes. -/
theorem parseStep_outcome (inside : cursor ≤ length)
    (readable : memory.Readable 0 length) (decodes : ∀ framing,
      parser.frameAt memory length cursor = .ok framing → framing.result.status = .success →
      Finishes (parser.decodeAt clock memory cursor framing)) :
    Finishes (parser.parseStep clock memory length cursor lastSuccess) ∨
      partialBufferSize < length - cursor ∧
        parser.parseStep clock memory length cursor lastSuccess =
          .error (.overflow (length - cursor)) := by
  have here := readable_from inside readable
  obtain ⟨framing, framed⟩ :
      Finishes (parser.frameAt memory length cursor) := findCompleteMessage_total here
  by_cases waits : framing.result.status = .needMoreData
  · have whole : memory.Readable cursor (cursor + (length - cursor : Nat)) :=
      readable.mono (by omega) (by omega)
    obtain ⟨leftover, held, size⟩ := whole.holds
    by_cases fits : leftover.length ≤ partialBufferSize
    · exact Or.inl ⟨_, parseStep_waited lastSuccess framed waits held size fits⟩
    · exact Or.inr ⟨by omega, parseStep_overflow lastSuccess framed waits held size fits⟩
  by_cases success : framing.result.status = .success
  · obtain ⟨⟨exit, pool⟩, called⟩ := decodes framing framed success
    cases exit with
    | thrown what => exact Or.inl ⟨_, parseStep_threw lastSuccess framed success called⟩
    | returned decoded =>
      by_cases accepted : decoded.status = .success
      · exact Or.inl ⟨_, parseStep_decoded lastSuccess framed success called accepted⟩
      · obtain ⟨after, ok, _⟩ :=
          parseStep_undecoded lastSuccess inside readable framed success called accepted
        exact Or.inl ⟨_, ok⟩
  · obtain ⟨after, ok, _⟩ := parseStep_unframed lastSuccess inside readable framed waits success
    exact Or.inl ⟨_, ok⟩

end StreamFixParser

end FixGateway.Protocol
