import FixGateway.Protocol.Parser.Passes

/-! # What the rounds report and count

The rounds of the loop report neither a refused call nor a message that is too large:
these two are said by `parse` alone, before it comes to the loop.

A round that returns an error counts it among the consecutive errors. A round that
decodes a message sets the count back, and a round that waits or that is left by an
exception does not touch it. The state of the context is IDLE before and after every
round, because error recovery resets the context.
-/

namespace FixGateway.Protocol

open ByteScan FixGateway.Common

variable {status : ParseStatus}

/-! ## Reported statuses -/

/-- Not one of the two statuses that only `parse` itself reports. -/
def ParseStatus.OfRound (status : ParseStatus) : Prop :=
  status ≠ .corruptedData ∧ status ≠ .messageTooLarge

/-- The statuses with which framing ends. -/
inductive ParseStatus.OfFraming : ParseStatus → Prop where
  | success : OfFraming .success
  | needMoreData : OfFraming .needMoreData
  | invalidFormat : OfFraming .invalidFormat

/-- The statuses with which the generic decoder rejects a frame. -/
inductive ParseStatus.Rejects : ParseStatus → Prop where
  | invalidFormat : Rejects .invalidFormat
  | checksumError : Rejects .checksumError

theorem ParseStatus.OfFraming.ofRound (framing : status.OfFraming) : status.OfRound := by
  cases framing <;> exact ⟨nofun, nofun⟩

/-- Framing fails in one way only. -/
theorem ParseStatus.OfFraming.failing (framing : status.OfFraming)
    (fails : status ≠ .success) (waits : status ≠ .needMoreData) : status = .invalidFormat := by
  cases framing with
  | success => exact absurd rfl fails
  | needMoreData => exact absurd rfl waits
  | invalidFormat => rfl

theorem ParseStatus.Rejects.ofRound (rejects : status.Rejects) : status.OfRound := by
  cases rejects <;> exact ⟨nofun, nofun⟩

section Statuses

variable {memory : Memory} {maxMessageSize : Nat} {start : Int} {clock : Clock}
  {pool after : MessagePool FixMessage} {result : ParseResult}

theorem messageBoundaries_ofFraming {length bodyLengthEnd bodyLength : Int} :
    Ensures (messageBoundaries memory length start bodyLengthEnd bodyLength)
      (fun framing => framing.result.status.OfFraming) := by
  exact .ite (fun _ => .ok .needMoreData) fun _ => .bind fun _ _ => .ok .success

theorem findBodyLength_ofFraming {length bodyLengthStart : Int} :
    Ensures (findBodyLength memory maxMessageSize length start bodyLengthStart)
      (fun framing => framing.result.status.OfFraming) := by
  refine .bind fun found _ => ?_
  cases found with
  | none => exact .ok .needMoreData
  | some bodyLengthEnd =>
    refine .bind fun parsed _ => ?_
    cases parsed with
    | none => exact .ok .invalidFormat
    | some bodyLength =>
      exact .ite (fun _ => .ok .invalidFormat) fun _ => messageBoundaries_ofFraming

theorem findCompleteMessage_ofFraming {length : Nat} :
    Ensures (findCompleteMessage memory maxMessageSize length)
      (fun framing => framing.result.status.OfFraming) := by
  refine .ite (fun _ => .ok .needMoreData) fun _ => .bind fun found _ => ?_
  cases found with
  | none => exact .ok .invalidFormat
  | some start =>
    refine .ite (fun _ => .ok .needMoreData) fun _ => .bind fun _ _ => ?_
    refine .ite (fun _ => .bind fun found _ => ?_) fun _ => .bind fun _ _ => .ok .invalidFormat
    cases found with
    | none => exact .ok .needMoreData
    | some position =>
      refine .ite (fun _ => .ok .needMoreData) fun _ => .bind fun _ _ => ?_
      exact .ite (fun _ => findBodyLength_ofFraming) fun _ => .ok .invalidFormat

variable {config : ParserConfig} {length : Nat}

theorem decodeMessage_rejects {startPos endPos : Nat} {message : FixMessage} :
    Ensures (decodeMessage config memory startPos endPos message)
      (fun exit => ∀ result, exit = .failure result → result.status.Rejects) := by
  have failure : ∀ {status : ParseStatus} {position : Nat} {detail : Bytes}, status.Rejects →
      ∀ result, DecodeExit.failure (μ := FixMessage) (.without status position detail .idle) =
        .failure result → result.status.Rejects := by
    rintro status position detail rejects result ⟨⟩
    exact rejects
  refine .bind fun fields _ => ?_
  cases fields with
  | malformed position problem => cases problem <;> exact .ok (failure .invalidFormat)
  | finished message =>
    refine .ite (fun _ => .ok (failure .invalidFormat)) fun _ => ?_
    refine .ite (fun _ => .bind fun _ _ => ?_) fun _ => .ok nofun
    exact .ite (fun _ => .ok nofun) fun _ => .ok (failure .checksumError)

/-- The generic decoder has the last word about a frame that is rejected. -/
theorem decodeFrame_rejects {first second : FixMessage} :
    Ensures (decodeFrame config memory length first second)
      (fun exit => ∀ result, exit = .failure result → result.status.Rejects) := by
  intro exit ok result failed
  cases decodeFrame_decided _ ok with
  | specialised _ _ _ _ failing => exact absurd failed (failing result)
  | generic decoded _ => exact decodeMessage_rejects _ decoded result failed

/-- A frame for which there is a slot is decoded or rejected. Without a slot it is neither. -/
theorem parseCompleteMessage_status (positive : 0 < length)
    (called : parseCompleteMessage config clock pool memory length = .ok (.returned result, after))
    :
    pool.available 1 ∧ (result.status = .success ∨ result.status.Rejects) ∨
      ¬ pool.available 1 ∧ result.status = .allocationFailed := by
  by_cases free : pool.available 1
  · obtain ⟨slot, rest, chain, _⟩ := MessagePool.exists_chain free
    obtain ⟨exit, decodes, settles⟩ := parseCompleteMessage_settles positive free.1 chain called
    refine .inl ⟨free, ?_⟩
    cases settles with
    | success => exact .inl rfl
    | failure => exact .inr (decodeFrame_rejects _ decodes _ rfl)
  · have refused := (parseCompleteMessage_refused positive free _ called).1
    cases refused
    exact .inr ⟨free, rfl⟩

theorem parseCompleteMessage_ofRound (positive : 0 < length)
    (called : parseCompleteMessage config clock pool memory length = .ok (.returned result, after))
    : result.status.OfRound := by
  rcases parseCompleteMessage_status positive called with ⟨_, success | rejects⟩ | ⟨_, refused⟩
  · exact success ▸ ⟨nofun, nofun⟩
  · exact rejects.ofRound
  · exact refused ▸ ⟨nofun, nofun⟩

end Statuses

/-- Neither success nor a wait for more bytes. -/
def ParseStatus.fails (status : ParseStatus) : Bool :=
  status ≠ .success && status ≠ .needMoreData

theorem fails_iff : status.fails = true ↔ status ≠ .success ∧ status ≠ .needMoreData := by
  unfold ParseStatus.fails
  rw [Bool.and_eq_true, decide_eq_true_iff, decide_eq_true_iff]

/-- The decoding of a frame ended in the status. -/
def DecodeReturn.endedIn (status : ParseStatus) : DecodeReturn → Bool
  | .returned result => result.status = status
  | .thrown _ => false

namespace StreamFixParser

variable {parser middle after : StreamFixParser} {clock : Clock} {memory : Memory}
  {length cursor : Nat} {cursors : List Nat} {result decoded : ParseResult} {outside : Memory}
  {bytes : Bytes} {step : LoopStep} {lastSuccess : Option ParseResult}

theorem Round.ofRound
    (round : Round clock memory length cursor parser (.leave (.returned result)) after) :
    result.status.OfRound := by
  cases round with
  | waited framed => exact (findCompleteMessage_ofFraming _ framed).ofRound
  | unframed framed => exact (findCompleteMessage_ofFraming _ framed).ofRound
  | @undecoded _ decoded _ _ framed success called =>
    have ordinary : decoded.status.OfRound :=
      parseCompleteMessage_ofRound (frame_positive framed success) called
    exact ordinary

/-- What a call that comes to the loop reports is reported by a round. -/
theorem parseAvailable_ofRound
    (ok : parser.parseAvailable clock outside bytes = .ok (result, after)) :
    result.status.OfRound := by
  obtain ⟨_, _, _, exit, left, _, ends, answer⟩ := parseAvailable_last ok
  obtain ⟨rfl, _⟩ | ⟨what, _, caught⟩ := answer
  · cases ends with
    | left _ stepped => exact (parseStep_round stepped).ofRound
    | reached _ status =>
      obtain status | status := status
      · exact status ▸ ⟨nofun, nofun⟩
      · exact status ▸ ⟨nofun, nofun⟩
  · cases caught
    exact ⟨nofun, nofun⟩

/-! ## What a round counts -/

/-- What came of the frame at the cursor, if there is one. -/
def frameOutcome (parser : StreamFixParser) (clock : Clock) (memory : Memory)
    (length cursor : Nat) : Option DecodeReturn :=
  match parser.frameAt memory length cursor with
  | .error _ => none
  | .ok framing =>
    if framing.result.status = .success then
      (parser.decodeAt clock memory cursor framing).toOption.map Prod.fst
    else none

/-- The calls that fail with the round. An exception is not yet counted as a failure. -/
def LoopStep.failures : LoopStep → Nat
  | .leave (.returned result) => result.status.fails.toNat
  | .leave (.thrown _) | .next _ _ => 0

/-- What the counters gain over a number of frames, in calls of which `failures` fail. -/
structure Books (before after : ParserStats) (frames : List DecodeReturn) (failures : Nat) :
    Prop where
  messagesParsed :
    after.messagesParsed = before.messagesParsed + frames.countP (DecodeReturn.endedIn .success)
  checksumErrors : after.checksumErrors =
    before.checksumErrors + 2 * frames.countP (DecodeReturn.endedIn .checksumError)
  allocationFailures : after.allocationFailures =
    before.allocationFailures + 2 * frames.countP (DecodeReturn.endedIn .allocationFailed)
  parseErrors : after.parseErrors =
    before.parseErrors + failures + frames.countP (DecodeReturn.endedIn .invalidFormat)

/-- What the circuit breaker goes by. -/
structure ErrorRecord where
  consecutiveErrors : Nat
  circuitBreakerActive : Bool
  circuitBreakerLastReset : Nat

def errorRecord (parser : StreamFixParser) : ErrorRecord :=
  ⟨parser.context.consecutiveErrors, parser.circuitBreakerActive, parser.circuitBreakerLastReset⟩

/-- The record after a round. -/
def ErrorRecord.afterRound (record : ErrorRecord) (now : Nat) : LoopStep → ErrorRecord
  | .leave (.returned result) =>
    if result.status = .needMoreData then record
    else { record with consecutiveErrors := record.consecutiveErrors + 1 }
  | .leave (.thrown _) => record
  | .next _ _ => ⟨0, false, now⟩

/-- What a round does to everything that is counted. -/
structure Notes (now : Nat) (before after : StreamFixParser) (frame : Option DecodeReturn)
    (step : LoopStep) : Prop where
  idle : before.context.currentState = .idle → after.context.currentState = .idle
  errors : after.errorRecord = before.errorRecord.afterRound now step
  books : Books before.stats after.stats frame.toList step.failures

theorem Books.trans {before middle after : ParserStats} {frames more : List DecodeReturn}
    {failures further : Nat} (first : Books before middle frames failures)
    (second : Books middle after more further) :
    Books before after (frames ++ more) (failures + further) := by
  constructor
  · rw [second.messagesParsed, first.messagesParsed, List.countP_append]
    omega
  · rw [second.checksumErrors, first.checksumErrors, List.countP_append]
    omega
  · rw [second.allocationFailures, first.allocationFailures, List.countP_append]
    omega
  · rw [second.parseErrors, first.parseErrors, List.countP_append]
    omega

theorem KeepsCounts.books (kept : KeepsCounts parser after) : Books parser.stats after.stats [] 0 :=
  ⟨kept.messagesParsed, kept.checksumErrors, kept.allocationFailures, kept.parseErrors⟩

theorem KeepsCounts.errorRecord (kept : KeepsCounts parser after) :
    after.errorRecord = parser.errorRecord := by
  unfold StreamFixParser.errorRecord
  rw [kept.consecutiveErrors, kept.circuitBreakerActive, kept.circuitBreakerLastReset]

theorem undecoded_books (parser : StreamFixParser) (now : Nat)
    (fails : decoded.status.Rejects ∨ decoded.status = .allocationFailed) :
    decoded.status.fails = true ∧
      Books parser.stats ((parser.updateErrorStats now decoded.status
        decoded.finalState).updateStats decoded.status).stats [.returned decoded] 1 := by
  obtain ⟨status, bytesConsumed, message, detail, state, position⟩ := decoded
  rcases fails with rejects | refused
  · cases rejects <;> exact ⟨rfl, rfl, rfl, rfl, rfl⟩
  · cases refused
    exact ⟨rfl, rfl, rfl, rfl, rfl⟩

theorem updateStats_context (parser : StreamFixParser) (status : ParseStatus) :
    (parser.updateStats status).context = parser.context ∧
      (parser.updateStats status).errorRecord = parser.errorRecord := by
  unfold updateStats
  split <;> exact ⟨rfl, rfl⟩

theorem frameDecoded_notes {frame : Memory} {frameLength : Nat} {messageEnd : Int}
    (status : decoded.status = .success ∨ decoded.status.Rejects ∨
      decoded.status = .allocationFailed)
    (ok : parser.frameDecoded clock frame frameLength cursor messageEnd decoded = .ok (step, after))
    : Notes clock.now parser after (some (.returned decoded)) step := by
  rcases status with accepted | fails
  · rw [frameDecoded_success accepted] at ok
    cases ok
    refine ⟨id, rfl, ?_⟩
    obtain ⟨_, _, _, _, _, _⟩ := decoded
    cases accepted
    exact ⟨rfl, rfl, rfl, rfl⟩
  · obtain ⟨counts, books⟩ := parser.undecoded_books clock.now fails
    obtain ⟨failed, waits⟩ := fails_iff.mp counts
    obtain ⟨same, record⟩ := updateStats_context
      (parser.updateErrorStats clock.now decoded.status decoded.finalState) decoded.status
    unfold frameDecoded at ok
    dsimp only at ok
    rw [if_neg failed, if_neg waits] at ok
    obtain ⟨⟨recovered, middle⟩, attempted, ok⟩ := bind_ok.mp ok
    obtain ⟨rfl, kept, idle⟩ := recover_spec attempted
    cases ok
    refine ⟨fun here => idle ?_, ?_, ?_⟩
    · rw [same]
      exact here
    · rw [kept.errorRecord, record]
      exact (if_neg waits).symm
    · have all := books.trans kept.books
      rw [LoopStep.failures, counts]
      exact all

theorem parseStep_notes
    (ok : parser.parseStep clock memory length cursor lastSuccess = .ok (step, after)) :
    Notes clock.now parser after (parser.frameOutcome clock memory length cursor) step := by
  obtain ⟨framing, framed, _⟩ := bind_ok.mp ok
  have framed : parser.frameAt memory length cursor = .ok framing := framed
  unfold frameOutcome
  rw [framed]
  dsimp only
  by_cases success : framing.result.status = .success
  · rw [if_pos success]
    rw [parseStep_success framed success] at ok
    obtain ⟨⟨exit, pool⟩, called, ok⟩ := bind_ok.mp ok
    rw [called]
    cases exit with
    | thrown what =>
      cases ok
      exact ⟨id, rfl, rfl, rfl, rfl, rfl⟩
    | returned decoded =>
      have status := parseCompleteMessage_status (frame_positive framed success) called
      have notes := frameDecoded_notes
        (status.elim (fun taken => taken.2.imp_right .inl) fun refused => .inr (.inr refused.2))
        ok
      exact ⟨notes.idle, notes.errors, notes.books⟩
  · rw [if_neg success]
    by_cases waits : framing.result.status = .needMoreData
    · rw [parseStep_needMoreData framed waits] at ok
      obtain ⟨leftover, _, ok⟩ := bind_ok.mp ok
      obtain ⟨stored, kept, ok⟩ := bind_ok.mp ok
      unfold storePartial at kept
      split at kept
      · cases kept
        cases ok
        refine ⟨id, ?_, ?_⟩
        · exact (if_pos waits).symm
        · rw [LoopStep.failures, waits]
          exact ⟨rfl, rfl, rfl, rfl⟩
      · cases kept
    · rw [parseStep_failed framed waits success] at ok
      obtain ⟨⟨recovered, middle⟩, attempted, ok⟩ := bind_ok.mp ok
      obtain ⟨rfl, kept, idle⟩ := recover_spec attempted
      cases ok
      have books : Books middle.stats (middle.updateErrorStats clock.now .invalidFormat
          framing.result.finalState).stats [] 1 := ⟨rfl, rfl, rfl, rfl⟩
      have counted := kept.books.trans books
      have same : middle.errorRecord = parser.errorRecord := kept.errorRecord
      rw [(findCompleteMessage_ofFraming _ framed).failing success waits]
      refine ⟨idle, ?_, ?_⟩
      · rw [← same]
        exact (if_neg waits).symm
      · rw [LoopStep.failures, fails_iff.mpr ⟨success, waits⟩]
        exact counted

/-- What a round does to the number of consecutive errors. -/
inductive Tracks (before after : Nat) : LoopStep → Prop where
  | waits {result : ParseResult} : result.status = .needMoreData → after = before →
      Tracks before after (.leave (.returned result))
  | counts {result : ParseResult} : result.status ≠ .needMoreData → after = before + 1 →
      Tracks before after (.leave (.returned result))
  | throws {what : Bytes} : after = before → Tracks before after (.leave (.thrown what))
  | decodes {cursor : Nat} {result : Option ParseResult} : after = 0 →
      Tracks before after (.next cursor result)

theorem Notes.tracks {now : Nat} {frame : Option DecodeReturn}
    (notes : Notes now parser after frame step) :
    Tracks parser.context.consecutiveErrors after.context.consecutiveErrors step := by
  have same := congrArg ErrorRecord.consecutiveErrors notes.errors
  cases step with
  | next cursor result => exact .decodes same
  | leave exit =>
    cases exit with
    | thrown what => exact .throws same
    | returned result =>
      rw [ErrorRecord.afterRound] at same
      by_cases waits : result.status = .needMoreData
      · rw [if_pos waits] at same
        exact .waits waits same
      · rw [if_neg waits] at same
        exact .counts waits same

theorem parseStep_context (idle : parser.context.currentState = .idle)
    (ok : parser.parseStep clock memory length cursor lastSuccess = .ok (step, after)) :
    after.context.currentState = .idle ∧
      Tracks parser.context.consecutiveErrors after.context.consecutiveErrors step :=
  ⟨(parseStep_notes ok).idle idle, (parseStep_notes ok).tracks⟩

/-- Wherever the loop comes to, the state is IDLE, and the count is that before the call
until a message is decoded. -/
theorem Passes.context (idle : parser.context.currentState = .idle)
    (passes : Passes clock memory length parser cursors middle cursor) :
    middle.context.currentState = .idle ∧
      middle.context.consecutiveErrors =
        if cursors = [] then parser.context.consecutiveErrors else 0 := by
  induction passes with
  | start => exact ⟨idle, (if_pos rfl).symm⟩
  | round _ _ stepped ih =>
    obtain ⟨ends, tracks⟩ := parseStep_context ih.1 stepped
    cases tracks with
    | decodes reset =>
      refine ⟨ends, ?_⟩
      rw [if_neg (List.append_ne_nil_of_right_ne_nil _ (List.cons_ne_nil _ _))]
      exact reset

theorem parseAvailable_idle (idle : parser.context.currentState = .idle)
    (ok : parser.parseAvailable clock outside bytes = .ok (result, after)) :
    after.context.currentState = .idle := by
  obtain ⟨_, last, _, exit, left, passes, ends, answer⟩ := parseAvailable_last ok
  have still : left.context.currentState = .idle := by
    cases ends with
    | left _ stepped => exact (parseStep_context (passes.context idle).1 stepped).1
    | reached => exact (passes.context idle).1
  obtain ⟨_, rfl⟩ | ⟨what, _, caught⟩ := answer
  · exact still
  · cases caught
    exact still

/-- Between calls the state is IDLE. -/
theorem Reachable.idle (reachable : Reachable parser) : parser.context.currentState = .idle := by
  induction reachable with
  | new => rfl
  | usePool pool _ ih => exact ih
  | @parse parser after clock outside buffer result before ok ih =>
    obtain ⟨_, _, _, returned⟩ | ⟨_, entered⟩ := parse_cases before.unset clock outside buffer
    · rw [returned] at ok
      cases ok
      exact ih
    · have cleared : parser.clearPartial.context.currentState = .idle := ih
      exact parseAvailable_idle cleared (entered.symm.trans ok)

end StreamFixParser

end FixGateway.Protocol
