import FixGateway.Protocol.Parser.Totality
import FixGateway.Protocol.Parser.WireStream

/-! # What a call does not depend on

A call that reads only the available bytes does not depend on what is around them:
it does the same in every memory. Nor does it depend on what the parser was used
for before. Two parsers with the same configuration that have stored the same bytes
go through the loop side by side, as long as both have slots to decode into: the
context, the counters and the slots they use differ, and nothing they return does.
-/

namespace FixGateway.Protocol

open ByteScan FixGateway.Common Memory FixMessage

namespace StreamFixParser

/-! ## Other memories -/

section Extension

variable {small large : Memory} (parser : StreamFixParser) (clock : Clock)

section

variable (larger : Memory.Extends small large)
include larger

theorem skipFrom_refines (first count : Nat) :
    Refines (skipFrom small first count) (skipFrom large first count) := by
  induction count generalizing first with
  | zero => exact .refl _
  | succ count ih =>
    exact (startsAt_refines larger).bind fun _ => .ite (.refl _) (ih (first + 1))

theorem recover_refines (length : Nat) (error : ParseResult) :
    Refines (parser.recover small length error) (parser.recover large length error) := by
  have skipped : Refines (skipToNextPotentialMessage small length 0)
      (skipToNextPotentialMessage large length 0) :=
    (skipFrom_refines larger _ _).bind fun _ => .refl _
  have attempted : Refines (parser.attemptErrorRecovery small length error.errorDetail)
      (parser.attemptErrorRecovery large length error.errorDetail) := by
    unfold attemptErrorRecovery
    split
    · exact .refl _
    · exact skipped.bind fun _ => .refl _
  exact .ite (attempted.bind fun _ => .refl _) (.refl _)

theorem frameDecoded_refines (frameLength cursor : Nat) (messageEnd : Int) (decoded : ParseResult) :
    Refines (parser.frameDecoded clock small frameLength cursor messageEnd decoded)
      (parser.frameDecoded clock large frameLength cursor messageEnd decoded) :=
  .ite (.refl _) (.ite (.refl _) ((recover_refines _ larger _ _).bind fun _ => .refl _))

theorem parseStep_refines (length cursor : Nat) (lastSuccess : Option ParseResult) :
    Refines (parser.parseStep clock small length cursor lastSuccess)
      (parser.parseStep clock large length cursor lastSuccess) := by
  have here := larger.shift cursor
  refine (findCompleteMessage_refines here _ _).bind fun framing => ?_
  refine .ite ((slice_refines here).bind fun _ => .refl _) (.ite ?_ ?_)
  · have frame := here.shift framing.messageStart
    refine (parseCompleteMessage_refines _ clock _ frame _).bind fun answer => ?_
    obtain ⟨answer, pool⟩ := answer
    cases answer with
    | thrown what => exact .refl _
    | returned decoded => exact frameDecoded_refines _ clock frame _ _ _ _
  · exact (recover_refines _ here _ _).bind fun _ => .refl _

theorem parseLoop_refines (length fuel cursor : Nat) (lastSuccess : Option ParseResult) :
    Refines (parseLoop clock small length fuel parser cursor lastSuccess)
      (parseLoop clock large length fuel parser cursor lastSuccess) := by
  induction fuel generalizing parser cursor lastSuccess with
  | zero => exact .refl _
  | succ fuel ih =>
    refine .ite ((parseStep_refines parser clock larger length cursor lastSuccess).bind ?_)
      (.refl _)
    rintro ⟨step, next⟩
    cases step with
    | leave exit => exact .refl _
    | next position last => exact ih next position last

end

/-- A call does the same whatever is around the available bytes, unless it reads
beyond them. -/
theorem parse_refines (outside : Memory) (buffer : Bytes) :
    Refines (parser.parse clock unmapped buffer) (parser.parse clock outside buffer) := by
  have larger := overlay_extends
  have available : ∀ (parser : StreamFixParser) bytes,
      Refines (parser.parseAvailable clock unmapped bytes)
        (parser.parseAvailable clock outside bytes) := fun parser bytes =>
    (parseLoop_refines parser clock (larger bytes outside) _ _ _ _).bind fun _ => .refl _
  exact .ite (.refl _) (.ite (.refl _) (.ite (.refl _) (available _ _)))

end Extension

/-! ## Calls that end -/

section Ending

variable {parser : StreamFixParser} {clock : Clock} {bytes : Bytes}

/-- In a memory that can be read everywhere, decoding always ends. -/
theorem decodingEnds_everywhere {memory : Memory} {length : Nat} (config : ParserConfig)
    (everywhere : ∀ first last, memory.Readable first last) :
    DecodingEnds config clock memory length := by
  intro cursor framing pool _ _ _
  have frame : ∀ first last,
      ((memory.shift cursor).shift framing.messageStart).Readable first last :=
    fun first last => Memory.Readable.shift (Memory.Readable.shift (everywhere _ _))
  refine parseCompleteMessage_total (frame _ _) fun msgType decoder _ _ _ message => ?_
  exact OptimizedParser.decode_total (frame _ _) fun _ _ _ _ _ =>
    ⟨frame _ _, frame _ _, frame _ _⟩

/-- A call on at most as many bytes as the buffer holds ends, unless it reads
beyond them. -/
theorem parseAvailable_total (size : bytes.length ≤ partialBufferSize) (inside : ∀ position,
      parser.parseAvailable clock unmapped bytes ≠ .error (.outOfBounds position)) :
    Finishes (parser.parseAvailable clock unmapped bytes) := by
  -- wherever nothing can be read there may be zeros
  have everywhere := (overlay bytes unmapped).filled_readable
  have ended : Finishes (parseLoop clock (overlay bytes unmapped).filled bytes.length
      (parser.messagePool.freeList.length + 1) parser 0 none) := by
    have outcome : Finishes (parseLoop clock (overlay bytes unmapped).filled
        bytes.length (parser.messagePool.freeList.length + 1) parser 0 none) ∨ _ :=
      parseLoop_outcome (everywhere 0 bytes.length)
        (decodingEnds_everywhere parser.config everywhere) rfl (Nat.lt_succ_self _)
    rcases outcome with ended | ⟨beyond, huge, small, _⟩
    · exact ended
    · omega
  rcases parseLoop_refines parser clock (extends_filled (overlay bytes
    unmapped)) bytes.length (parser.messagePool.freeList.length + 1) 0 none
    with same | ⟨position, fault⟩
  · rw [← same] at ended
    refine ended.bind fun answer _ => ?_
    obtain ⟨exit, next⟩ := answer
    cases exit <;> exact .ok _
  · refine absurd ?_ (inside position)
    unfold parseAvailable
    rw [fault]
    rfl

end Ending

end StreamFixParser

/-! ## Two decoding stages -/

section Twins

/-- Two messages with the same fields written into them, constructed at any times. -/
def SameMessage (left right : FixMessage) : Prop :=
  ∃ fields earlier later, left = (FixMessage.new earlier).setFields fields ∧
    right = (FixMessage.new later).setFields fields

/-- Two results that differ at most in the slots of their messages. -/
structure SameResult (leftPool rightPool : MessagePool FixMessage) (left right : ParseResult) :
    Prop where
  status : right.status = left.status
  bytesConsumed : right.bytesConsumed = left.bytesConsumed
  errorDetail : right.errorDetail = left.errorDetail
  message : left.parsedMessage = none ∧ right.parsedMessage = none ∨
    ∃ slot other message copy, left.parsedMessage = some slot ∧ right.parsedMessage = some other ∧
      leftPool.objects slot = some message ∧ rightPool.objects other = some copy ∧
      SameMessage message copy

/-- The same for calls that may throw. -/
inductive SameAnswer (leftPool rightPool : MessagePool FixMessage) :
    DecodeReturn → DecodeReturn → Prop where
  | returned {left right : ParseResult} : SameResult leftPool rightPool left right →
      SameAnswer leftPool rightPool (.returned left) (.returned right)
  | thrown (what : Bytes) : SameAnswer leftPool rightPool (.thrown what) (.thrown what)

variable {pool left right leftAfter rightAfter : MessagePool FixMessage} {slot other : Nat}
  {rest others : List Nat} {answer : DecodeReturn}

theorem sameResult_of_none {result : ParseResult} (unparsed : result.parsedMessage = none) :
    SameResult left right result result :=
  ⟨rfl, rfl, rfl, Or.inl ⟨unparsed, unparsed⟩⟩

theorem Settles.isShutdown_eq {exit : DecodeExit FixMessage} {after : MessagePool FixMessage}
    (settles : Settles pool slot rest exit answer after) : after.isShutdown = pool.isShutdown := by
  cases settles with
  | success taken => exact taken.isShutdown
  | failure same => exact same.isShutdown
  | thrown taken => exact taken.isShutdown

/-- Two exits that write the same fields are settled by the same answer. -/
theorem Settles.same {outcome : DecodeExit (List (Int × Bytes))} {earlier later : UtcTime}
    {reply : DecodeReturn} (honest : (outcome.map (FixMessage.new earlier).setFields).Honest)
    (first : Settles left slot rest (outcome.map (FixMessage.new earlier).setFields) answer
      leftAfter)
    (second : Settles right other others (outcome.map (FixMessage.new later).setFields) reply
      rightAfter) : SameAnswer leftAfter rightAfter answer reply := by
  cases outcome with
  | success fields bytesConsumed detail =>
    cases first with
    | success taken =>
      cases second with
      | success also =>
        refine .returned ⟨rfl, rfl, rfl, Or.inr ⟨slot, other, _, _, rfl, rfl, ?_, ?_,
          fields, earlier, later, rfl, rfl⟩⟩
        · rw [taken.objects, Function.update_self]
        · rw [also.objects, Function.update_self]
  | failure result =>
    cases first with
    | failure same =>
      cases second with
      | failure also => exact .returned (sameResult_of_none honest.2)
  | thrown fields what =>
    cases first with
    | thrown taken =>
      cases second with
      | thrown also => exact .thrown what

/-- Two decoding stages that have a slot answer a frame the same way. -/
theorem parseCompleteMessage_simulates {config : ParserConfig} {leftClock : Clock}
    (rightClock : Clock) {memory : Memory} {length : Nat}
    (positive : 0 < length) (granted : left.available 1) (free : right.available 1)
    (called : parseCompleteMessage config leftClock left memory length = .ok (answer, leftAfter)) :
    ∃ reply rightAfter,
      parseCompleteMessage config rightClock right memory length = .ok (reply, rightAfter) ∧
        SameAnswer leftAfter rightAfter answer reply ∧
        rightAfter.isShutdown = right.isShutdown := by
  obtain ⟨slot, rest, chain, _⟩ := MessagePool.exists_chain granted
  obtain ⟨other, others, second, _⟩ := MessagePool.exists_chain free
  obtain ⟨outcome, uniform⟩ := decodeFrame_uniform config memory length
  obtain ⟨exit, decodes, settles⟩ := parseCompleteMessage_settles positive granted.1 chain called
  have honest := decodeFrame_honest _ decodes
  obtain ⟨earlier, written⟩ := uniform (leftClock.utc left.totalAllocations)
    (leftClock.utc (left.totalAllocations + 1))
  obtain ⟨later, copied⟩ := uniform (rightClock.utc right.totalAllocations)
    (rightClock.utc (right.totalAllocations + 1))
  rw [written] at decodes
  cases outcome with
  | error fault => cases decodes
  | ok outcome =>
    cases decodes
    obtain ⟨reply, rightAfter, replied, also⟩ :=
      parseCompleteMessage_decodes positive free.1 second copied
    exact ⟨reply, rightAfter, replied, settles.same honest also, also.isShutdown_eq⟩

end Twins

namespace StreamFixParser

/-! ## Two runs of the loop -/

section Runs

variable {left right leftAfter : StreamFixParser} {leftClock : Clock}
  {memory : Memory} {length cursor : Nat} {leftPool rightPool leftNext : MessagePool FixMessage}
  {result copy : ParseResult} {framing : Framing} {answer : DecodeReturn} {config : ParserConfig}
  (rightClock : Clock) (lastSuccess : Option ParseResult)

/-- The right pool may run out of slots before the left one does. -/
def Short (left right : MessagePool FixMessage) : Prop :=
  ¬ (right.isShutdown = false ∧ left.freeList.length ≤ right.freeList.length)

/-- A call that failed because there was no slot. -/
def OutOfSlots (answer : DecodeReturn) : Prop :=
  ∃ result, answer = .returned result ∧ result.status = .allocationFailed

/-- Two parsers that are to return the same. -/
structure Twin (left right : StreamFixParser) : Prop where
  config : right.config = left.config
  partialBuffer : right.partialBuffer = left.partialBuffer

theorem Twin.keeps {rightAfter : StreamFixParser} (twin : Twin left right)
    (kept : Keeps left leftAfter) (also : Keeps right rightAfter) : Twin leftAfter rightAfter :=
  ⟨also.config.trans (twin.config.trans kept.config.symm),
    also.partialBuffer.trans (twin.partialBuffer.trans kept.partialBuffer.symm)⟩

/-- Two rounds that end the same way. -/
inductive SameStep (left right leftAfter rightAfter : StreamFixParser) :
    LoopStep → LoopStep → Prop where
  | leave {answer reply : DecodeReturn} :
      SameAnswer leftAfter.messagePool rightAfter.messagePool answer reply →
      SameStep left right leftAfter rightAfter (.leave answer) (.leave reply)
  | next {next : Nat} {result copy : ParseResult} :
      SameResult leftAfter.messagePool rightAfter.messagePool result copy →
      (Short leftAfter.messagePool rightAfter.messagePool →
        Short left.messagePool right.messagePool) →
      SameStep left right leftAfter rightAfter (.next next (some result)) (.next next (some copy))

theorem sameResult_movedTo (same : SameResult leftPool rightPool result copy) (cursor : Nat) :
    SameResult leftPool rightPool (movedTo result cursor) (movedTo copy cursor) := by
  refine ⟨same.status, ?_, same.errorDetail, same.message⟩
  unfold movedTo
  rw [same.bytesConsumed]

theorem parseStep_refused (clock : Clock) (lastSuccess : Option ParseResult)
    (inside : cursor ≤ length) (readable : memory.Readable 0 length)
    (framed : right.frameAt memory length cursor = .ok framing)
    (success : framing.result.status = .success) (exhausted : ¬ right.messagePool.available 1) :
    ∃ answer after, right.parseStep clock memory length cursor lastSuccess =
      .ok (.leave answer, after) ∧ OutOfSlots answer := by
  obtain ⟨frame, long, _⟩ := frame_readable (readable_from inside readable) framed success
  obtain ⟨⟨answer, pool⟩, called⟩ : Finishes (right.decodeAt clock memory cursor framing) :=
    parseCompleteMessage_total frame fun _ _ _ _ free => absurd free exhausted
  obtain ⟨refused, _⟩ := parseCompleteMessage_refused (by omega) exhausted _ called
  dsimp only at refused
  subst refused
  obtain ⟨after, stepped, _⟩ := parseStep_undecoded lastSuccess inside readable framed success
    called nofun
  exact ⟨_, after, stepped, _, rfl, rfl⟩

/-- Where the left parser was given a slot, the right one decodes the same way, or
it has no slot. -/
theorem decoding_simulates (positive : 0 < length) (granted : ¬ OutOfSlots answer)
    (called : parseCompleteMessage config leftClock leftPool memory length = .ok (answer, leftNext))
    :
    (∃ reply rightNext,
      parseCompleteMessage config rightClock rightPool memory length = .ok (reply, rightNext) ∧
        SameAnswer leftNext rightNext answer reply ∧
        rightNext.isShutdown = rightPool.isShutdown) ∨
      ¬ rightPool.available 1 ∧ Short leftPool rightPool := by
  by_cases slots : leftPool.available 1
  · by_cases free : rightPool.available 1
    · exact Or.inl (parseCompleteMessage_simulates rightClock positive slots free called)
    · exact Or.inr ⟨free, fun enough => free ⟨enough.1, le_trans slots.2 enough.2⟩⟩
  · obtain ⟨refused, _⟩ := parseCompleteMessage_refused positive slots _ called
    exact absurd ⟨_, refused, rfl⟩ granted

theorem short_of_taken {rightClock : Clock} {rightNext : MessagePool FixMessage}
    {decoded : ParseResult} (positive : 0 < length)
    (called : parseCompleteMessage config leftClock leftPool memory length =
      .ok (.returned decoded, leftNext)) (accepted : decoded.status = .success)
    (replied : parseCompleteMessage config rightClock rightPool memory length =
      .ok (.returned copy, rightNext)) (also : copy.status = .success)
    (running : rightNext.isShutdown = rightPool.isShutdown) (short : Short leftNext rightNext) :
    Short leftPool rightPool := by
  obtain ⟨_, rest, _, chain, left, _⟩ := parseCompleteMessage_takes positive called accepted
  obtain ⟨_, others, _, second, right, _⟩ := parseCompleteMessage_takes positive replied also
  rintro ⟨alive, enough⟩
  refine short ⟨running.trans alive, ?_⟩
  rw [chain, second, List.length_cons, List.length_cons] at enough
  rw [left.freeList, right.freeList]
  omega

/-- On the frame of the left parser the right one decodes the same way, or its round ends
for lack of a slot. -/
theorem frame_simulates
    {pool : MessagePool FixMessage} (inside : cursor ≤ length) (readable : memory.Readable 0 length)
    (twin : Twin left right) (framed : right.frameAt memory length cursor = .ok framing)
    (success : framing.result.status = .success) (granted : ¬ OutOfSlots answer)
    (called : left.decodeAt leftClock memory cursor framing = .ok (answer, pool)) :
    (∃ reply next, right.decodeAt rightClock memory cursor framing = .ok (reply, next) ∧
      SameAnswer pool next answer reply ∧ next.isShutdown = right.messagePool.isShutdown) ∨
      ∃ other after, right.parseStep rightClock memory length cursor lastSuccess =
        .ok (other, after) ∧ Short left.messagePool right.messagePool ∧
          ∃ refusal, other = .leave refusal ∧ OutOfSlots refusal := by
  rw [decodeAt, ← twin.config] at called
  obtain decoded | ⟨exhausted, short⟩ := decoding_simulates rightClock
    (frame_positive framed success) granted called
  · exact Or.inl decoded
  · obtain ⟨refusal, after, stepped, refused⟩ := parseStep_refused rightClock lastSuccess inside
      readable framed success exhausted
    exact Or.inr ⟨_, after, stepped, short, refusal, rfl, refused⟩

theorem parseStep_simulates
    {step : LoopStep} (inside : cursor ≤ length) (readable : memory.Readable 0 length)
    (twin : Twin left right) (round : Round leftClock memory length cursor left step leftAfter)
    (granted : ∀ answer, step = .leave answer → ¬ OutOfSlots answer) :
    ∃ other rightAfter,
      right.parseStep rightClock memory length cursor lastSuccess = .ok (other, rightAfter) ∧
        (SameStep left right leftAfter rightAfter step other ∧ Twin leftAfter rightAfter ∨
          Short left.messagePool right.messagePool ∧
            ∃ answer, other = .leave answer ∧ OutOfSlots answer) := by
  cases round with
  | @waited framing leftover framed waits sliced fits =>
    rw [← twin.config] at framed
    obtain ⟨held, size⟩ := slice_ok_iff.mp sliced
    rw [holds_shift, add_zero] at held
    exact ⟨_, _, parseStep_waited lastSuccess framed waits held size fits,
      Or.inl ⟨.leave (.returned (sameResult_of_none (findCompleteMessage_modest _ framed).1)),
        twin.config, rfl⟩⟩
  | @unframed framing after framed waits fails kept =>
    rw [← twin.config] at framed
    obtain ⟨after, stepped, also⟩ := parseStep_unframed lastSuccess inside readable framed
      waits fails
    exact ⟨_, after, stepped,
      Or.inl ⟨.leave (.returned (sameResult_of_none (findCompleteMessage_modest _ framed).1)),
        twin.keeps kept also⟩⟩
  | @threw framing what pool framed success called =>
    rw [← twin.config] at framed
    obtain ⟨reply, next, replied, same, _⟩ | ⟨other, after, stepped, refused⟩ :=
      frame_simulates rightClock lastSuccess inside readable twin framed success
        (granted _ rfl) called
    · cases same with
      | thrown => exact ⟨_, _, parseStep_threw lastSuccess framed success replied,
          Or.inl ⟨.leave (.thrown what), twin.config, twin.partialBuffer⟩⟩
    · exact ⟨other, after, stepped, Or.inr refused⟩
  | @decoded framing decoded pool framed success called accepted =>
    have slotted : ¬ OutOfSlots (.returned decoded) := by
      rintro ⟨result, ⟨⟩, failed⟩
      rw [accepted] at failed
      cases failed
    have positive := frame_positive framed success
    rw [← twin.config] at framed
    obtain ⟨reply, next, replied, same, running⟩ | ⟨other, after, stepped, refused⟩ :=
      frame_simulates rightClock lastSuccess inside readable twin framed success slotted
        called
    · cases same with
      | @returned _ copy same =>
        have stepped : right.parseStep rightClock memory length cursor lastSuccess = _ :=
          parseStep_decoded lastSuccess framed success replied (same.status.trans accepted)
        rw [same.bytesConsumed] at stepped
        rw [decodeAt, twin.config] at replied
        have fewer : Short pool next → Short left.messagePool right.messagePool :=
          short_of_taken positive called accepted replied (same.status.trans accepted) running
        exact ⟨_, _, stepped, Or.inl ⟨.next (sameResult_movedTo same cursor) fewer, twin.config,
          twin.partialBuffer⟩⟩
    · exact ⟨other, after, stepped, Or.inr refused⟩
  | @undecoded framing decoded pool after framed success called fails kept =>
    have slotted : ¬ OutOfSlots (.returned decoded) := by
      rintro ⟨result, ⟨⟩, failed⟩
      exact granted _ rfl ⟨_, rfl, failed⟩
    rw [← twin.config] at framed
    obtain ⟨reply, next, replied, same, _⟩ | ⟨other, after, stepped, refused⟩ :=
      frame_simulates rightClock lastSuccess inside readable twin framed success slotted
        called
    · cases same with
      | @returned _ copy same =>
        obtain ⟨after, stepped, also⟩ := parseStep_undecoded lastSuccess inside readable
          framed success replied (same.status ▸ fails)
        have moved := sameResult_movedTo same cursor
        have pools : SameResult leftAfter.messagePool after.messagePool (movedTo decoded cursor)
            (movedTo copy cursor) := by
          rw [kept.messagePool, also.messagePool]
          exact moved
        have pooled : Twin (left.withPool pool) (right.withPool next) :=
          ⟨twin.config, twin.partialBuffer⟩
        exact ⟨_, after, stepped, Or.inl ⟨.leave (.returned pools), pooled.keeps kept also⟩⟩
    · exact ⟨other, after, stepped, Or.inr refused⟩

/-- Two runs of the loop. The last results need only be the same in the pools as
they are, because every further message replaces them. -/
theorem parseLoop_simulates {fuel other : Nat} {lastLeft lastRight : Option ParseResult}
    (readable : memory.Readable 0 length) (twin : Twin left right)
    (last : Option.Rel (SameResult left.messagePool right.messagePool) lastLeft lastRight)
    (enough : right.messagePool.freeList.length < other)
    (ran : parseLoop leftClock memory length fuel left cursor lastLeft = .ok (answer, leftAfter))
    (granted : ¬ OutOfSlots answer) :
    ∃ reply rightAfter,
      parseLoop rightClock memory length other right cursor lastRight = .ok (reply, rightAfter) ∧
        (SameAnswer leftAfter.messagePool rightAfter.messagePool answer reply ∧
            Twin leftAfter rightAfter ∨
          Short left.messagePool right.messagePool ∧ OutOfSlots reply) := by
  induction fuel generalizing left right cursor lastLeft lastRight other with
  | zero => cases ran
  | succ fuel ih =>
    obtain ⟨other, rfl⟩ : ∃ fewer, other = fewer + 1 := ⟨other - 1, by omega⟩
    rw [parseLoop] at ran ⊢
    by_cases inside : cursor < length
    · rw [if_pos inside] at ran ⊢
      obtain ⟨⟨step, next⟩, stepped, ran⟩ := bind_ok.mp ran
      have leaves : ∀ exit, step = .leave exit → ¬ OutOfSlots exit := by
        rintro exit rfl
        cases ran
        exact granted
      obtain ⟨also, after, followed, ⟨same, twin⟩ | ⟨short, refusal, rfl, refused⟩⟩ :=
        parseStep_simulates rightClock lastRight (le_of_lt inside) readable twin
          (parseStep_round stepped) leaves
      · rw [followed]
        cases same with
        | leave same =>
          cases ran
          exact ⟨_, _, rfl, Or.inl ⟨same, twin⟩⟩
        | next same fewer =>
          have taken := (parseStep_round followed).takes (le_of_lt inside) readable
          have room : after.messagePool.freeList.length < other := by omega
          obtain ⟨reply, rightAfter, replied, outcome⟩ := ih twin (.some same) room ran
          exact ⟨reply, rightAfter, replied, outcome.imp id (And.imp fewer id)⟩
      · rw [followed]
        exact ⟨_, _, rfl, Or.inr ⟨short, refused⟩⟩
    · rw [if_neg inside] at ran ⊢
      cases ran
      refine ⟨_, _, rfl, Or.inl ⟨?_, twin⟩⟩
      cases last with
      | none => exact .returned (sameResult_of_none rfl)
      | some same => exact .returned same

theorem parseAvailable_simulates {bytes : Bytes} (twin : Twin left right)
    (ran : left.parseAvailable leftClock unmapped bytes = .ok (result, leftAfter))
    (granted : result.status ≠ .allocationFailed) :
    ∃ copy rightAfter,
      right.parseAvailable rightClock unmapped bytes = .ok (copy, rightAfter) ∧
        (SameResult leftAfter.messagePool rightAfter.messagePool result copy ∧
            rightAfter.partialBuffer = leftAfter.partialBuffer ∨
          Short left.messagePool right.messagePool ∧ copy.status = .allocationFailed) := by
  obtain ⟨⟨answer, next⟩, looped, ran⟩ := bind_ok.mp ran
  have slotted : ¬ OutOfSlots answer := by
    rintro ⟨refused, rfl, failed⟩
    cases ran
    exact granted failed
  obtain ⟨reply, after, followed, ⟨same, twin⟩ | ⟨short, refused, rfl, failed⟩⟩ :=
    parseLoop_simulates rightClock (overlay_readable bytes unmapped) twin .none
      (Nat.lt_succ_self _) looped slotted
  · unfold parseAvailable
    rw [followed]
    cases same with
    | returned same =>
      cases ran
      exact ⟨_, _, rfl, Or.inl ⟨same, twin.partialBuffer⟩⟩
    | thrown what =>
      cases ran
      exact ⟨_, _, rfl, Or.inl ⟨sameResult_of_none rfl, twin.partialBuffer⟩⟩
  · unfold parseAvailable
    rw [followed]
    exact ⟨_, _, rfl, Or.inr ⟨short, failed⟩⟩

end Runs

/-! ## Stored bytes -/

section Stored

variable {parser after : StreamFixParser} {clock : Clock}

theorem parseLoop_stores {memory : Memory} {length fuel cursor : Nat}
    {lastSuccess : Option ParseResult} {answer : DecodeReturn} (empty : parser.partialBuffer = [])
    (ran : parseLoop clock memory length fuel parser cursor lastSuccess = .ok (answer, after))
    (waits : ∀ result, answer = .returned result → result.status ≠ .needMoreData) :
    after.partialBuffer = [] := by
  induction fuel generalizing parser cursor lastSuccess with
  | zero => cases ran
  | succ fuel ih =>
    rw [parseLoop] at ran
    split at ran
    · obtain ⟨⟨step, next⟩, stepped, ran⟩ := bind_ok.mp ran
      have round := parseStep_round stepped
      cases round with
      | waited framed waited =>
        cases ran
        exact absurd waited (waits _ rfl)
      | unframed _ _ _ kept =>
        cases ran
        exact kept.partialBuffer.trans empty
      | threw =>
        cases ran
        exact empty
      | @decoded framing decoded pool =>
        have still : (parser.noteDecoded clock framing pool).partialBuffer = [] := empty
        exact ih still ran
      | undecoded _ _ _ _ kept =>
        cases ran
        exact kept.partialBuffer.trans empty
    · cases ran
      exact empty

/-- A call that was let through and does not ask for more bytes stores none. -/
theorem parse_stores {outside : Memory} {buffer : Bytes} {result : ParseResult}
    (reachable : Reachable parser) (nonempty : buffer ≠ [])
    (inactive : (parser.isCircuitBreakerActive clock.now).1 = false)
    (ran : parser.parse clock outside buffer = .ok (result, after))
    (waits : result.status ≠ .needMoreData) (fits : result.status ≠ .messageTooLarge) :
    after.partialBuffer = [] := by
  rw [parse_let_through (reachable.accepting inactive) nonempty] at ran
  split at ran
  · cases ran
    exact absurd rfl fits
  · obtain ⟨⟨answer, next⟩, looped, ran⟩ := bind_ok.mp ran
    cases answer with
    | returned returned =>
      cases ran
      refine parseLoop_stores rfl looped ?_
      rintro result ⟨⟩
      exact waits
    | thrown what =>
      have stored : next.partialBuffer = [] := parseLoop_stores rfl looped nofun
      cases ran
      exact stored

end Stored

/-! ## Parsers with a history -/

/-- A parser whose breaker lets calls through has a configuration in which a fresh
one lets them through too. -/
theorem Accepting.fresh {parser : StreamFixParser} (accepting : Accepting parser)
    (pool : MessagePool FixMessage) (now : Nat) : Accepting (new pool parser.config now) := by
  refine ⟨rfl, ?_⟩
  have under := accepting.shouldActivate
  unfold shouldActivateCircuitBreaker at under ⊢
  rw [Bool.and_eq_false_iff, decide_eq_false_iff_not] at under ⊢
  exact under.imp id fun below reached => below (le_trans reached (Nat.zero_le _))

/-- A fresh parser and one with a history, in which nothing is stored and the
breaker is inactive, return the same for a buffer that is decoded without reading
beyond it, whatever is around the buffer and whatever the clocks show. Only a lack of
slots makes a difference, and there is none when the second pool has as many free
slots as the first. And a call that does not ask for more bytes leaves none stored. -/
theorem parse_forgets_history {parser : StreamFixParser} (reachable : Reachable parser) :
    (∀ (pool : MessagePool FixMessage) (now : Nat) (leftClock rightClock : Clock)
        (leftOutside rightOutside : Memory) (buffer : Bytes),
      parser.partialBuffer = [] → (parser.isCircuitBreakerActive rightClock.now).1 = false →
      buffer ≠ [] → buffer.length ≤ partialBufferSize →
      (∀ position, (new pool parser.config now).parse leftClock Memory.unmapped buffer ≠
        .error (.outOfBounds position)) →
      ∃ result leftAfter,
        (new pool parser.config now).parse leftClock leftOutside buffer = .ok (result, leftAfter) ∧
        (result.status ≠ .allocationFailed → ∃ copy rightAfter,
          parser.parse rightClock rightOutside buffer = .ok (copy, rightAfter) ∧
          (copy.status = .allocationFailed → Short pool parser.messagePool) ∧
          (copy.status ≠ .allocationFailed →
            SameResult leftAfter.messagePool rightAfter.messagePool result copy ∧
              rightAfter.partialBuffer = leftAfter.partialBuffer))) ∧
    (∀ (clock : Clock) (outside : Memory) (buffer : Bytes) (result : ParseResult)
        (after : StreamFixParser),
      buffer ≠ [] → (parser.isCircuitBreakerActive clock.now).1 = false →
      parser.parse clock outside buffer = .ok (result, after) → result.status ≠ .needMoreData →
      result.status ≠ .messageTooLarge → after.partialBuffer = []) := by
  refine ⟨?_, fun clock outside buffer result after nonempty inactive ran waits fits =>
    parse_stores reachable nonempty inactive ran waits fits⟩
  intro pool now leftClock rightClock leftOutside rightOutside buffer empty inactive nonempty size
    inside
  have accepting := reachable.accepting inactive
  have entered : (new pool parser.config now).parse leftClock unmapped buffer =
      (new pool parser.config now).parseAvailable leftClock unmapped buffer :=
    parse_accepting (accepting.fresh pool now) nonempty (Or.inl rfl)
  have followed : parser.parse rightClock unmapped buffer =
      parser.clearPartial.parseAvailable rightClock unmapped buffer := by
    rw [parse_accepting accepting nonempty (Or.inl empty), empty, List.nil_append]
  rw [entered] at inside
  obtain ⟨⟨result, leftAfter⟩, ran⟩ := parseAvailable_total size inside
  refine ⟨result, leftAfter, (parse_refines _ leftClock leftOutside buffer).ok (entered.trans ran),
    fun granted => ?_⟩
  have twin : Twin (new pool parser.config now) parser.clearPartial := ⟨rfl, rfl⟩
  obtain ⟨copy, rightAfter, also, outcome⟩ := parseAvailable_simulates rightClock twin ran granted
  refine ⟨copy, rightAfter, (parse_refines _ rightClock rightOutside buffer).ok
    (followed.trans also), fun refused => ?_, fun slotted => ?_⟩
  · obtain ⟨same, _⟩ | ⟨short, _⟩ := outcome
    · exact absurd (same.status.symm.trans refused) granted
    · exact short
  · obtain same | ⟨_, refused⟩ := outcome
    · exact same
    · exact absurd refused slotted

theorem parse_garbled :
    ((new samplePool {} 0).parse sampleClock unmapped (ascii "garbled bytes")).toOption.map
      (fun outcome => (outcome.2.config, outcome.2.partialBuffer,
        (outcome.2.isCircuitBreakerActive 0).1, decide (outcome.2.messagePool.available 4),
        outcome.2.context.consecutiveErrors)) =
      some (({} : ParserConfig), [], false, true, 1) := by
  decide +kernel

/-- A heartbeat after such bytes is parsed as a fresh parser does. -/
theorem parse_forgets_history_garbled :
    ∃ parser, Reachable parser ∧ parser.context.consecutiveErrors = 1 ∧
      ∃ result leftAfter copy rightAfter,
        (new samplePool {} 0).parse sampleClock Memory.unmapped sampleHeartbeat.bytes =
          .ok (result, leftAfter) ∧
        parser.parse sampleClock Memory.unmapped sampleHeartbeat.bytes = .ok (copy, rightAfter) ∧
        result.status = .success ∧
        SameResult leftAfter.messagePool rightAfter.messagePool result copy := by
  have accepted : ((new samplePool {} 0).parse sampleClock unmapped
      sampleHeartbeat.bytes).toOption.map (fun outcome => outcome.1.status) = some .success := by
    decide +kernel
  obtain ⟨⟨verdict, parser⟩, garbled, state⟩ := Option.map_eq_some_iff.mp parse_garbled
  obtain ⟨⟨result, leftAfter⟩, ran, success⟩ := Option.map_eq_some_iff.mp accepted
  have reachable : Reachable parser := .parse (.new samplePool {} 0) (ok_of_toOption garbled)
  simp only [Prod.mk.injEq] at state success
  obtain ⟨config, empty, inactive, slots, errors⟩ := state
  have unread : ∀ position, (new samplePool parser.config 0).parse sampleClock unmapped
      sampleHeartbeat.bytes ≠ .error (.outOfBounds position) := by
    intro position fault
    rw [config, ok_of_toOption ran] at fault
    cases fault
  obtain ⟨other, after, called, same⟩ :=
    (parse_forgets_history reachable).1 samplePool 0 sampleClock
    sampleClock unmapped unmapped sampleHeartbeat.bytes empty inactive (by decide)
    (by decide) unread
  rw [config, ok_of_toOption ran] at called
  cases called
  obtain ⟨copy, rightAfter, also, refused, agrees⟩ := same (by rw [success]; decide)
  have enough : ¬ Short samplePool parser.messagePool := by
    have free := of_decide_eq_true slots
    exact fun short => short ⟨free.1, free.2⟩
  exact ⟨parser, reachable, errors, result, leftAfter, copy, rightAfter, ok_of_toOption ran, also,
    success, (agrees fun failed => enough (refused failed)).1⟩

end StreamFixParser

end FixGateway.Protocol
