import FixGateway.Protocol.Parser.Context
import FixGateway.Protocol.Parser.WireStream

/-! # What the statistics count

Two functions update the counters of the parser, and a frame that is not decoded goes through both
of them. Both count a failed checksum and a failed allocation, so these are counted twice, and
other errors of a frame are counted twice among all errors. A call that is answered before it comes
to the loop is not counted at all. The messages decoded are counted as they should be.
-/

namespace FixGateway.Protocol

open ByteScan FixGateway.Common

namespace StreamFixParser

/-- `resetStats`. -/
def resetStats (parser : StreamFixParser) : StreamFixParser := { parser with stats := {} }

/-! ## Runs with their frames -/

/-- The outcomes of the frames that the loop comes to. -/
def loopFrames (clock : Clock) (memory : Memory) (length : Nat) :
    Nat → StreamFixParser → Nat → Option ParseResult → List DecodeReturn
  | 0, _, _, _ => []
  | fuel + 1, parser, cursor, lastSuccess =>
    if cursor < length then
      (parser.frameOutcome clock memory length cursor).toList ++
        match parser.parseStep clock memory length cursor lastSuccess with
        | .ok (.next cursor lastSuccess, parser) =>
          loopFrames clock memory length fuel parser cursor lastSuccess
        | _ => []
    else []

/-- The outcomes of the frames in the available bytes. -/
def availableFrames (parser : StreamFixParser) (clock : Clock) (outside : Memory)
    (bytes : Bytes) : List DecodeReturn :=
  loopFrames clock (Memory.overlay bytes outside) bytes.length
    (parser.messagePool.freeList.length + 1) parser 0 none

/-- What happened in a call. -/
structure CallRecord where
  result : ParseResult
  /-- The call was answered before it came to the loop. -/
  early : Bool
  frames : List DecodeReturn

/-- What happens in a call that returns the result. -/
def callRecord (parser : StreamFixParser) (turn : Turn) (result : ParseResult) : CallRecord :=
  let parser := parser.withPool turn.pool
  match parser.entryAnswer (parser.isCircuitBreakerActive turn.clock.now).1 turn.buffer with
  | some _ => ⟨result, true, []⟩
  | none =>
    ⟨result, false, (parser.checked turn.clock.now turn.buffer).clearPartial.availableFrames
      turn.clock turn.outside (parser.partialBuffer ++ turn.buffer)⟩

/-- A run of calls, with what happened in each. -/
def takeTurns (parser : StreamFixParser) :
    List Turn → Except Fault (List CallRecord × StreamFixParser)
  | [] => .ok ([], parser)
  | turn :: turns => do
      let (result, after) ← parser.takeTurn turn
      let (records, last) ← after.takeTurns turns
      .ok (parser.callRecord turn result :: records, last)

/-- The frames of a run. -/
def framesOf (records : List CallRecord) : List DecodeReturn := records.flatMap CallRecord.frames

/-- Every event is counted once. -/
structure CountsOnce (stats : ParserStats) (records : List CallRecord) : Prop where
  messagesParsed : stats.messagesParsed = (framesOf records).countP (DecodeReturn.endedIn .success)
  checksumErrors :
    stats.checksumErrors = (framesOf records).countP (DecodeReturn.endedIn .checksumError)
  allocationFailures :
    stats.allocationFailures = (framesOf records).countP (DecodeReturn.endedIn .allocationFailed)
  parseErrors : stats.parseErrors = records.countP (·.result.status.fails)

variable {parser after : StreamFixParser} {clock : Clock} {memory : Memory}
  {length cursor : Nat} {result : ParseResult}

/-! ## What a call counts -/

theorem parseLoop_books {fuel : Nat} {lastSuccess : Option ParseResult} {exit : DecodeReturn}
    (decoded : ∀ result, lastSuccess = some result → result.status = .success)
    (ran : parseLoop clock memory length fuel parser cursor lastSuccess = .ok (exit, after)) :
    Books parser.stats after.stats (loopFrames clock memory length fuel parser cursor lastSuccess)
      (LoopStep.failures (.leave exit)) := by
  induction fuel generalizing parser cursor lastSuccess with
  | zero => cases ran
  | succ fuel ih =>
    rw [parseLoop] at ran
    rw [loopFrames]
    by_cases inside : cursor < length
    · rw [if_pos inside] at ran ⊢
      obtain ⟨⟨step, next⟩, stepped, ran⟩ := bind_ok.mp ran
      have books := (parseStep_notes stepped).books
      rw [stepped]
      cases step with
      | leave exit =>
        cases ran
        rw [List.append_nil]
        exact books
      | next position result =>
        have rest := books.trans (ih ?_ ran)
        · rw [LoopStep.failures, Nat.zero_add] at rest
          exact rest
        · cases parseStep_round stepped with
          | decoded _ _ _ accepted =>
            rintro _ ⟨⟩
            exact accepted
    · rw [if_neg inside] at ran ⊢
      cases ran
      cases lastSuccess with
      | none => exact ⟨rfl, rfl, rfl, rfl⟩
      | some result =>
        rw [LoopStep.failures, Option.getD_some, decoded result rfl]
        exact ⟨rfl, rfl, rfl, rfl⟩

theorem parseAvailable_books {outside : Memory} {bytes : Bytes}
    (ok : parser.parseAvailable clock outside bytes = .ok (result, after)) :
    Books parser.stats after.stats (parser.availableFrames clock outside bytes)
      result.status.fails.toNat := by
  obtain ⟨⟨exit, left⟩, ran, ok⟩ := bind_ok.mp ok
  have books := parseLoop_books (fun _ none => by cases none) ran
  cases exit with
  | returned answer =>
    cases ok
    exact books
  | thrown what =>
    cases ok
    have told : Books left.stats (left.caught what).2.stats [] 1 := ⟨rfl, rfl, rfl, rfl⟩
    have all := books.trans told
    rw [List.append_nil] at all
    exact all

/-- The call failed, and its failure is counted. -/
def CallRecord.counted (record : CallRecord) : Bool :=
  !record.early && record.result.status.fails

theorem takeTurn_books {turn : Turn} (ok : parser.takeTurn turn = .ok (result, after)) :
    Books parser.stats after.stats (parser.callRecord turn result).frames
        (parser.callRecord turn result).counted.toNat ∧
      (parser.callRecord turn result).result = result ∧
      ((parser.callRecord turn result).early = true → result.status.fails = true) := by
  have still : ∀ buffer, ((parser.withPool turn.pool).checked turn.clock.now buffer).stats =
      parser.stats := by
    intro buffer
    unfold checked
    split
    · rfl
    · exact ((parser.withPool turn.pool).isCircuitBreakerActive_keeps turn.clock.now).2.2.2
  unfold takeTurn at ok
  rw [parse_entry] at ok
  unfold callRecord
  dsimp only
  cases entered : (parser.withPool turn.pool).entryAnswer
      ((parser.withPool turn.pool).isCircuitBreakerActive turn.clock.now).1 turn.buffer with
  | some answer =>
    rw [entered] at ok
    cases ok
    refine ⟨?_, rfl, fun _ => fails_iff.mpr (entryAnswer_fails entered)⟩
    rw [still]
    exact ⟨rfl, rfl, rfl, rfl⟩
  | none =>
    rw [entered] at ok
    refine ⟨?_, rfl, nofun⟩
    have books := parseAvailable_books ok
    have kept : ((parser.withPool turn.pool).checked turn.clock.now
      turn.buffer).clearPartial.stats = parser.stats := still turn.buffer
    rw [kept] at books
    exact books

/-- What the counters gain in a run, and how many of the failing calls they miss. -/
theorem takeTurns_books {turns : List Turn} {records : List CallRecord}
    (ok : parser.takeTurns turns = .ok (records, after)) :
    Books parser.stats after.stats (framesOf records) (records.countP CallRecord.counted) ∧
      records.countP (·.result.status.fails) =
        records.countP CallRecord.counted + records.countP CallRecord.early := by
  induction turns generalizing parser records with
  | nil =>
    cases ok
    exact ⟨⟨rfl, rfl, rfl, rfl⟩, rfl⟩
  | cons turn turns ih =>
    obtain ⟨⟨result, middle⟩, first, ok⟩ := bind_ok.mp ok
    obtain ⟨⟨others, last⟩, rest, ok⟩ := bind_ok.mp ok
    cases ok
    obtain ⟨books, same, fails⟩ := takeTurn_books first
    obtain ⟨more, split⟩ := ih rest
    have all := books.trans more
    have number : (parser.callRecord turn result :: others).countP CallRecord.counted =
        (parser.callRecord turn result).counted.toNat + others.countP CallRecord.counted := by
      rw [List.countP_cons, Nat.add_comm]
      cases (parser.callRecord turn result).counted <;> rfl
    refine ⟨number ▸ all, ?_⟩
    rw [number, List.countP_cons, List.countP_cons, split, CallRecord.counted, same]
    cases early : (parser.callRecord turn result).early with
    | true =>
      rw [fails early]
      simp only [Bool.not_true, Bool.false_and, Bool.toNat_false, if_true]
      omega
    | false =>
      cases result.status.fails with
      | true =>
        simp
        omega
      | false => simp

/-- The messages decoded are counted right in every run. The counters of errors are right exactly
if no frame ended in a checksum error or for lack of a slot, and if as many calls were answered
before the loop as frames were found malformed by a decoder. -/
theorem counts_once_iff (parser : StreamFixParser) {turns : List Turn} {records : List CallRecord}
    {last : StreamFixParser} (ran : parser.resetStats.takeTurns turns = .ok (records, last)) :
    last.stats.messagesParsed = (framesOf records).countP (DecodeReturn.endedIn .success) ∧
      (CountsOnce last.stats records ↔
        (∀ frame ∈ framesOf records, ¬ frame.endedIn .checksumError) ∧
        (∀ frame ∈ framesOf records, ¬ frame.endedIn .allocationFailed) ∧
        records.countP CallRecord.early =
          (framesOf records).countP (DecodeReturn.endedIn .invalidFormat)) := by
  obtain ⟨books, split⟩ := takeTurns_books ran
  have parsed := books.messagesParsed
  have checksums := books.checksumErrors
  have allocations := books.allocationFailures
  have errors := books.parseErrors
  simp only [resetStats, Nat.zero_add] at parsed checksums allocations errors
  refine ⟨parsed, ?_⟩
  rw [← List.countP_eq_zero, ← List.countP_eq_zero]
  constructor
  · intro once
    have checksums' := once.checksumErrors
    have allocations' := once.allocationFailures
    have errors' := once.parseErrors
    omega
  · rintro ⟨noChecksum, noAllocation, same⟩
    refine ⟨parsed, ?_, ?_, ?_⟩
    · omega
    · omega
    · omega

/-- A call on the bytes, with four free slots. -/
def sampleTurn (buffer : Bytes) : Turn := ⟨⟨sampleClock, Memory.unmapped, buffer⟩, samplePool⟩

/-- A heartbeat whose checksum is 000. -/
def sampleUnsealed : Bytes :=
  sampleHeartbeat.bytes.take (sampleHeartbeat.bytes.length - 4) ++ ascii "000" ++ [soh]

/-- A heartbeat and then bytes that are no message. -/
theorem counts_once_heartbeat :
    ∃ records last, (new samplePool {} 0).resetStats.takeTurns
        [sampleTurn sampleHeartbeat.bytes, sampleTurn (ascii "INVALID_BEGIN_STRING")] =
          .ok (records, last) ∧
      CountsOnce last.stats records ∧ last.stats.messagesParsed = 1 ∧
      last.stats.parseErrors = 1 := by
  have ran : ((new samplePool {} 0).resetStats.takeTurns
      [sampleTurn sampleHeartbeat.bytes, sampleTurn (ascii "INVALID_BEGIN_STRING")]).toOption.map
        (fun run => ((framesOf run.1).countP (DecodeReturn.endedIn .checksumError),
          (framesOf run.1).countP (DecodeReturn.endedIn .allocationFailed),
          run.1.countP CallRecord.early,
          (framesOf run.1).countP (DecodeReturn.endedIn .invalidFormat),
          run.2.stats.messagesParsed, run.2.stats.parseErrors)) = some (0, 0, 0, 0, 1, 1) := by
    decide +kernel
  obtain ⟨⟨records, last⟩, ran, seen⟩ := Option.map_eq_some_iff.mp ran
  simp only [Prod.mk.injEq, List.countP_eq_zero] at seen
  obtain ⟨checksums, allocations, early, malformed, parsed, errors⟩ := seen
  have ran := ok_of_toOption ran
  refine ⟨records, last, ran, (counts_once_iff _ ran).2.mpr ⟨checksums, allocations, ?_⟩, parsed,
    errors⟩
  rw [List.countP_eq_zero.mpr early, List.countP_eq_zero.mpr malformed]

/-- Without strict validation a wrong checksum is counted twice as such, and with it twice as an
error. -/
theorem wrong_checksum_counted_twice :
    let counters := fun config : ParserConfig =>
      ((new samplePool config 0).resetStats.takeTurns [sampleTurn sampleUnsealed]).toOption.map
        fun run => ((framesOf run.1).countP (DecodeReturn.endedIn .checksumError),
          run.2.stats.checksumErrors, run.1.countP (·.result.status.fails),
          run.2.stats.parseErrors)
    counters { strictValidation := false } = some (1, 2, 1, 1) ∧
      counters {} = some (0, 0, 1, 2) := by
  decide +kernel

end StreamFixParser

end FixGateway.Protocol
