import FixGateway.Protocol.Parser.Rounds

/-! # What the parser takes from the pool

A call of `parse` never gives a slot back that was live before it. A message that it
returns lies in a slot that the call itself has taken. It may take other slots as
well and tell nobody: those of messages that it decoded before the last one or before
an error, and that of a message whose decoding threw. It takes none of these exactly
if the first message in its bytes also ends them (`Sole`).
-/

namespace FixGateway.Protocol

open ByteScan FixGateway.Common MessagePool

/-- The message of a result, if any, is a success and lies in a new slot. -/
structure Handed (before after : MessagePool FixMessage) (result : ParseResult) : Prop where
  status : ∀ slot, result.parsedMessage = some slot → result.status = .success
  fresh : ∀ slot, result.parsedMessage = some slot → slot ∈ MessagePool.newSlots before after

section Pool

variable {config : ParserConfig} {clock : Clock} {before pool middle after : MessagePool FixMessage}
  {memory : Memory} {length slot : Nat} {rest : List Nat} {message : FixMessage}
  {result : ParseResult}

theorem Handed.of_none (none : result.parsedMessage = none) : Handed before after result := by
  constructor <;>
  · intro slot some
    cases none.symm.trans some

theorem Handed.since (grown : before.Grown middle) (handed : Handed middle after result) :
    Handed before after result := by
  refine ⟨handed.status, fun slot some => ?_⟩
  obtain ⟨alive, unused⟩ := mem_newSlots.mp (handed.fresh slot some)
  exact mem_newSlots.mpr ⟨alive, fun used => unused (grown.live slot used)⟩

/-- The size of a pool can be told from which slots are free and which are live. -/
theorem poolSize_eq_of_slots (same : ∀ slot, slot ∈ after.freeList ∨ after.live slot ↔
      slot ∈ before.freeList ∨ before.live slot) : after.poolSize = before.poolSize := by
  have inside : ∀ slot, slot < after.poolSize ↔ slot < before.poolSize := fun slot => by
    rw [lt_poolSize_iff, lt_poolSize_iff, same]
  have low := (inside before.poolSize).not.mpr (Nat.lt_irrefl _)
  have high := (inside after.poolSize).not.mp (Nat.lt_irrefl _)
  omega

theorem SameSlots.live_iff (same : SameSlots before after) (slot : Nat) :
    after.live slot ↔ before.live slot := by
  rw [MessagePool.live, MessagePool.live, same.objects]

theorem SameSlots.grown (same : SameSlots before after) : before.Grown after := by
  refine ⟨poolSize_eq_of_slots fun slot => ?_, fun slot => (same.live_iff slot).mpr⟩
  rw [same.freeList, same.live_iff]

theorem SameSlots.newSlots (same : SameSlots before after) :
    MessagePool.newSlots before after = [] := by
  refine List.eq_nil_iff_forall_not_mem.mpr fun slot gained => ?_
  obtain ⟨alive, unused⟩ := mem_newSlots.mp gained
  exact unused ((same.live_iff slot).mp alive)

theorem Taken.live_iff (taken : Taken before slot rest message after) (other : Nat) :
    after.live other ↔ other = slot ∨ before.live other := by
  rw [MessagePool.live, MessagePool.live, taken.objects]
  by_cases same : other = slot
  · simp [same]
  · simp [same]

theorem Taken.grown (taken : Taken before slot rest message after)
    (chain : before.freeList = slot :: rest) : before.Grown after := by
  refine ⟨poolSize_eq_of_slots fun other => ?_, fun other alive => (taken.live_iff other).mpr
    (.inr alive)⟩
  rw [taken.freeList, taken.live_iff, chain, List.mem_cons, or_left_comm, or_assoc]

theorem Taken.newSlots (taken : Taken before slot rest message after)
    (chain : before.freeList = slot :: rest) : MessagePool.newSlots before after = [slot] := by
  have unused : ¬ before.live slot := fun alive =>
    notMem_of_live alive (chain ▸ List.mem_cons_self)
  refine List.perm_singleton.mp ((List.perm_ext_iff_of_nodup (nodup_newSlots _ _)
    (List.nodup_singleton slot)).mpr fun other => ?_)
  rw [mem_newSlots, taken.live_iff, List.mem_singleton]
  constructor
  · rintro ⟨same | alive, absent⟩
    · exact same
    · exact absurd alive absent
  · rintro rfl
    exact ⟨.inl rfl, unused⟩

/-- What the decoding stage takes: nothing when it reports an error, and one slot when it
returns a message or throws. -/
inductive DecodeTakes (before after : MessagePool FixMessage) : DecodeReturn → Prop where
  | nothing {result : ParseResult} : result.status ≠ .success → result.parsedMessage = none →
      SameSlots before after → DecodeTakes before after (.returned result)
  | message {result : ParseResult} {slot : Nat} {rest : List Nat} {message : FixMessage} :
      result.status = .success → result.parsedMessage = some slot →
      before.freeList = slot :: rest → Taken before slot rest message after →
      DecodeTakes before after (.returned result)
  | lost {what : Bytes} {slot : Nat} {rest : List Nat} {message : FixMessage} :
      before.freeList = slot :: rest → Taken before slot rest message after →
      DecodeTakes before after (.thrown what)

theorem parseCompleteMessage_takes_slots {answer : DecodeReturn} (positive : 0 < length)
    (called : parseCompleteMessage config clock pool memory length = .ok (answer, after)) :
    DecodeTakes pool after answer := by
  rcases parseCompleteMessage_cases positive called with
    ⟨slot, rest, _, _, exit, chain, decodes, settles⟩ | ⟨refused, same⟩
  · cases settles with
    | success taken => exact .message rfl rfl chain taken
    | failure same =>
      obtain ⟨fails, none⟩ := decodeFrame_honest _ decodes
      exact .nothing fails none same
    | thrown taken => exact .lost chain taken
  · dsimp only at refused same
    subst refused
    exact .nothing nofun rfl same

end Pool

namespace StreamFixParser

variable {parser after : StreamFixParser} {clock : Clock} {memory : Memory} {length cursor : Nat}
  {exit : DecodeReturn} {result : ParseResult} {outside : Memory} {bytes : Bytes}

/-! ## A round -/

/-- What a round takes. -/
inductive RoundTakes (before after : MessagePool FixMessage) : LoopStep → Prop where
  | nothing {result : ParseResult} : result.parsedMessage = none →
      MessagePool.newSlots before after = [] →
      RoundTakes before after (.leave (.returned result))
  | message {result : ParseResult} {cursor slot : Nat} : result.status = .success →
      result.parsedMessage = some slot → before.freeList ≠ [] →
      MessagePool.newSlots before after = [slot] →
      RoundTakes before after (.next cursor (some result))
  | lost {what : Bytes} {slot : Nat} : MessagePool.newSlots before after = [slot] →
      RoundTakes before after (.leave (.thrown what))

theorem Round.takes_slots {before : StreamFixParser} {step : LoopStep}
    (round : Round clock memory length cursor before step after) :
    before.messagePool.Grown after.messagePool ∧
      RoundTakes before.messagePool after.messagePool step := by
  have same : ∀ {pool : MessagePool FixMessage}, pool = before.messagePool →
      before.messagePool.Grown pool ∧ MessagePool.newSlots before.messagePool pool = [] := by
    rintro pool rfl
    exact ⟨.refl _, SameSlots.newSlots ⟨rfl, rfl, rfl⟩⟩
  cases round with
  | waited framed waits sliced fits =>
    obtain ⟨grown, none⟩ := same rfl
    exact ⟨grown, .nothing (findCompleteMessage_modest _ framed).1 none⟩
  | unframed framed waits fails kept =>
    obtain ⟨grown, none⟩ := same kept.messagePool
    exact ⟨grown, .nothing (findCompleteMessage_modest _ framed).1 none⟩
  | threw framed success called =>
    cases parseCompleteMessage_takes_slots (frame_positive framed success) called with
    | lost chain taken => exact ⟨taken.grown chain, .lost (taken.newSlots chain)⟩
  | decoded framed success called accepted =>
    cases parseCompleteMessage_takes_slots (frame_positive framed success) called with
    | nothing fails none same => exact absurd accepted fails
    | message _ some chain taken =>
      refine ⟨taken.grown chain, .message accepted some ?_ (taken.newSlots chain)⟩
      rw [chain]
      exact List.cons_ne_nil _ _
  | undecoded framed success called fails kept =>
    rw [kept.messagePool]
    cases parseCompleteMessage_takes_slots (frame_positive framed success) called with
    | nothing _ none same => exact ⟨same.grown, .nothing none same.newSlots⟩
    | message accepted some chain taken => exact absurd accepted fails

/-! ## The loop -/

/-- The loop gives no slot back and returns a message that it has taken itself. -/
theorem parseLoop_takes (start : MessagePool FixMessage) {fuel : Nat}
    {lastSuccess : Option ParseResult} (grown : start.Grown parser.messagePool)
    (last : length ≤ cursor → ∀ result, lastSuccess = some result →
      Handed start parser.messagePool result)
    (ok : parseLoop clock memory length fuel parser cursor lastSuccess = .ok (exit, after)) :
    start.Grown after.messagePool ∧
      ∀ result, exit = .returned result → Handed start after.messagePool result := by
  induction fuel generalizing parser cursor lastSuccess with
  | zero => cases ok
  | succ fuel ih =>
    unfold parseLoop at ok
    split at ok
    · obtain ⟨⟨step, next⟩, stepped, ok⟩ := bind_ok.mp ok
      obtain ⟨more, takes⟩ := (parseStep_round stepped).takes_slots
      cases takes with
      | nothing none _ =>
        cases ok
        refine ⟨grown.trans more, ?_⟩
        rintro _ ⟨⟩
        exact .of_none none
      | lost _ =>
        cases ok
        exact ⟨grown.trans more, nofun⟩
      | message success some _ new =>
        refine ih (grown.trans more) (fun _ => ?_) ok
        rintro _ ⟨⟩
        refine Handed.since grown ⟨fun _ _ => success, fun slot found => ?_⟩
        cases some.symm.trans found
        rw [new]
        exact List.mem_singleton_self _
    · rename_i reached
      cases ok
      refine ⟨grown, ?_⟩
      rintro _ ⟨⟩
      cases lastSuccess with
      | none => exact .of_none rfl
      | some result => exact last (Nat.le_of_not_lt reached) result rfl

/-- The first message of the bytes, if there is one, ends where they end, and its decoding
does not throw. -/
def firstIsLast (parser : StreamFixParser) (clock : Clock) (memory : Memory) (length : Nat) :
    Bool :=
  match parser.parseStep clock memory length 0 none with
  | .ok (.next cursor _, _) => decide (length ≤ cursor)
  | .ok (.leave (.thrown _), _) => false
  | _ => true

/-- Everything that was taken from the pool is handed over. -/
def HandsOver (before after : MessagePool FixMessage) (result : ParseResult) : Prop :=
  ∀ slot ∈ MessagePool.newSlots before after, result.parsedMessage = some slot

/-- The slots that were taken and not handed over. -/
def unreturnedSlots (before after : MessagePool FixMessage) (result : ParseResult) : List Nat :=
  (MessagePool.newSlots before after).diff result.parsedMessage.toList

section Unreturned

variable {before after : MessagePool FixMessage}

theorem unreturnedSlots_eq_nil_iff :
    unreturnedSlots before after result = [] ↔ HandsOver before after result := by
  unfold unreturnedSlots HandsOver
  cases returned : result.parsedMessage with
  | none => simp [List.eq_nil_iff_forall_not_mem]
  | some slot =>
    have distinct := nodup_newSlots before after
    simp only [Option.toList_some, List.diff_cons, List.diff_nil,
      List.eq_nil_iff_forall_not_mem, distinct.mem_erase_iff, not_and_or, not_not,
      Option.some_inj]
    exact forall_congr' fun other => by rw [or_comm, eq_comm, ← imp_iff_not_or]

theorem length_unreturnedSlots (handed : Handed before after result) :
    (MessagePool.newSlots before after).length =
      result.parsedMessage.toList.length + (unreturnedSlots before after result).length := by
  unfold unreturnedSlots
  cases returned : result.parsedMessage with
  | none => simp
  | some slot =>
    have there := handed.fresh slot returned
    have positive := List.length_pos_of_mem there
    simp only [Option.toList_some, List.diff_cons, List.diff_nil, List.length_singleton,
      List.length_erase_of_mem there]
    omega

end Unreturned

/-- What a call returns when its loop has ended: the loop's result, or nothing after an
exception. -/
structure Concludes (exit : DecodeReturn) (result : ParseResult) : Prop where
  returned : ∀ other, exit = .returned other → other = result
  thrown : ∀ what, exit = .thrown what → result.parsedMessage = none

theorem parseAvailable_loop (ok : parser.parseAvailable clock outside bytes = .ok (result, after)) :
    ∃ exit left, parseLoop clock (Memory.overlay bytes outside) bytes.length
        (parser.messagePool.freeList.length + 1) parser 0 none = .ok (exit, left) ∧
      after.messagePool = left.messagePool ∧ Concludes exit result := by
  obtain ⟨⟨exit, left⟩, looped, ok⟩ := bind_ok.mp ok
  refine ⟨exit, left, looped, ?_⟩
  cases exit with
  | returned returned =>
    cases ok
    refine ⟨rfl, ?_, nofun⟩
    rintro other ⟨⟩
    rfl
  | thrown what =>
    cases ok
    exact ⟨rfl, nofun, fun _ _ => rfl⟩

/-- A message that was taken before is not returned by a loop that goes on. -/
theorem parseLoop_replaces {fuel slot : Nat} {last : Option ParseResult}
    (unfinished : ¬ length ≤ cursor) (alive : parser.messagePool.live slot)
    (looped : parseLoop clock memory length fuel parser cursor last = .ok (exit, after))
    (ends : Concludes exit result) : result.parsedMessage ≠ some slot := by
  intro only
  obtain ⟨-, others⟩ := parseLoop_takes parser.messagePool (.refl _)
    (fun ended => absurd ended unfinished) looped
  cases exit with
  | returned other =>
    obtain rfl := ends.returned other rfl
    have fresh := (others other rfl).fresh slot only
    exact (mem_newSlots.mp fresh).2 alive
  | thrown what => cases (ends.thrown what rfl).symm.trans only

/-- The first round decides: what is decoded in later ones replaces its result. -/
theorem parseLoop_handsOver_iff (nonempty : 0 < length)
    (looped : parseLoop clock memory length (parser.messagePool.freeList.length + 1) parser 0 none =
      .ok (exit, after)) (ends : Concludes exit result) :
    HandsOver parser.messagePool after.messagePool result ↔
      parser.firstIsLast clock memory length = true := by
  unfold parseLoop at looped
  rw [if_pos nonempty] at looped
  obtain ⟨⟨step, next⟩, stepped, looped⟩ := bind_ok.mp looped
  obtain ⟨more, takes⟩ := (parseStep_round stepped).takes_slots
  unfold firstIsLast HandsOver
  rw [stepped]
  cases takes with
  | nothing none new =>
    cases looped
    simp [new]
  | @lost what slot new =>
    cases looped
    simp [new, ends.thrown what rfl]
  | @message first cursor slot success some free new =>
    simp only [decide_eq_true_eq]
    by_cases reached : length ≤ cursor
    · obtain ⟨fuel, enough⟩ : ∃ fuel, parser.messagePool.freeList.length = fuel + 1 :=
        Nat.exists_eq_succ_of_ne_zero fun empty => free (List.length_eq_zero_iff.mp empty)
      dsimp only at looped
      rw [enough, parseLoop, if_neg (Nat.not_lt.mpr reached)] at looped
      cases looped
      obtain rfl := ends.returned _ rfl
      simp [new, some, reached]
    · obtain ⟨later, -⟩ := parseLoop_takes next.messagePool (.refl _)
        (fun ended => absurd ended reached) looped
      have there : slot ∈ MessagePool.newSlots parser.messagePool next.messagePool := by
        rw [new]
        exact List.mem_singleton_self _
      obtain ⟨alive, unused⟩ := mem_newSlots.mp there
      refine iff_of_false (fun all => ?_) reached
      exact parseLoop_replaces reached alive looped ends
        (all slot (mem_newSlots.mpr ⟨later.live slot alive, unused⟩))

theorem parseAvailable_takes (nonempty : 0 < bytes.length)
    (ok : parser.parseAvailable clock outside bytes = .ok (result, after)) :
    parser.messagePool.Grown after.messagePool ∧
      Handed parser.messagePool after.messagePool result ∧
      (HandsOver parser.messagePool after.messagePool result ↔
        parser.firstIsLast clock (Memory.overlay bytes outside) bytes.length = true) := by
  obtain ⟨exit, left, looped, pool, ends⟩ := parseAvailable_loop ok
  obtain ⟨grown, handed⟩ := parseLoop_takes _ (.refl _) (by rintro - _ ⟨⟩) looped
  rw [pool]
  refine ⟨grown, ?_, parseLoop_handsOver_iff nonempty looped ends⟩
  cases exit with
  | returned other =>
    obtain rfl := ends.returned other rfl
    exact handed other rfl
  | thrown what => exact .of_none (ends.thrown what rfl)

/-! ## A call -/

/-- A call that works on its bytes finds in them one message that ends them, or none. -/
def Sole (parser : StreamFixParser) (clock : Clock) (outside : Memory) (buffer : Bytes) : Prop :=
  let entered := parser.isCircuitBreakerActive clock.now
  buffer.length ≠ 0 → entered.1 = false →
    ¬ (entered.2.partialBuffer.length ≠ 0 ∧
      entered.2.partialBuffer.length + buffer.length > partialBufferSize) →
    entered.2.clearPartial.firstIsLast clock
      (Memory.overlay (entered.2.partialBuffer ++ buffer) outside)
      (entered.2.partialBuffer ++ buffer).length = true

instance (parser : StreamFixParser) (clock : Clock) (outside : Memory) (buffer : Bytes) :
    Decidable (parser.Sole clock outside buffer) :=
  inferInstanceAs (Decidable (_ → _ → _ → _))

theorem isCircuitBreakerActive_messagePool (parser : StreamFixParser) (now : Nat) :
    (parser.isCircuitBreakerActive now).2.messagePool = parser.messagePool := by
  unfold isCircuitBreakerActive
  split <;> rfl

/-- A call gives no slot back, returns a message that it has taken itself, and hands over
everything that it has taken exactly if its first message is the only one. -/
theorem parse_takes {buffer : Bytes}
    (ok : parser.parse clock outside buffer = .ok (result, after)) :
    parser.messagePool.Grown after.messagePool ∧
      Handed parser.messagePool after.messagePool result ∧
      (HandsOver parser.messagePool after.messagePool result ↔
        parser.Sole clock outside buffer) := by
  have pool := parser.isCircuitBreakerActive_messagePool clock.now
  -- a call that is turned away touches no slot
  have idle : ∀ {result : ParseResult} {left : StreamFixParser} {condition : Prop},
      left.messagePool = parser.messagePool → result.parsedMessage = none → condition →
      parser.messagePool.Grown left.messagePool ∧
        Handed parser.messagePool left.messagePool result ∧
        (HandsOver parser.messagePool left.messagePool result ↔ condition) := by
    intro result left condition same none holds
    rw [same]
    refine ⟨.refl _, .of_none none, iff_of_true (fun slot gained => ?_) holds⟩
    rw [SameSlots.newSlots ⟨rfl, rfl, rfl⟩] at gained
    cases gained
  unfold parse at ok
  unfold Sole
  generalize parser.isCircuitBreakerActive clock.now = entered at ok pool ⊢
  obtain ⟨active, entered⟩ := entered
  dsimp only at ok pool ⊢
  split at ok
  · rename_i empty
    cases ok
    exact idle rfl rfl fun some => absurd empty some
  · rename_i some
    split at ok
    · rename_i refused
      cases ok
      refine idle pool rfl fun _ admitted => ?_
      rw [refused] at admitted
      cases admitted
    · rename_i admitted
      split at ok
      · rename_i overflow
        cases ok
        exact idle pool rfl fun _ _ fits => absurd overflow fits
      · rename_i fits
        have filled : 0 < (entered.partialBuffer ++ buffer).length := by
          rw [List.length_append]
          omega
        have cleared : entered.clearPartial.messagePool = parser.messagePool := pool
        obtain ⟨grown, handed, all⟩ := parseAvailable_takes filled ok
        rw [cleared] at grown handed all
        refine ⟨grown, handed, all.trans ⟨fun only _ _ _ => only, fun only => ?_⟩⟩
        exact only some (Bool.not_eq_true _ |>.mp admitted) fits

end StreamFixParser

end FixGateway.Protocol
