import FixGateway.Protocol.Parser.Decode

/-! # Decoding a frame without the pool

`decodeFrame` is what the decoding stage computes from a frame: the exit of the
chosen decoder, and if that one fails, the exit of the generic decoder. The two
messages it decodes into are those that the stage constructs, one after the other.

`parseCompleteMessage` realises it in a pool with a free slot: an accepted message
takes the slot, and a rejected one leaves the free list and the objects as they
were. With no free slot it reports that the allocation failed.
-/

namespace FixGateway.Protocol

open ByteScan FixGateway.Common OptimizedParser RawField FixMessage MessagePool

/-- What decoding a frame of the given length comes to. -/
def decodeFrame (config : ParserConfig) (memory : Memory) (length : Nat)
    (first second : FixMessage) : Except Fault (DecodeExit FixMessage) := do
  let msgType ← extractMsgType memory length
  match OptimizedParser.forMsgType msgType with
  | none =>
    match ← decodeMessage config memory 0 length first with
    | .failure _ => decodeMessage config memory 0 length second
    | exit => .ok exit
  | some decoder =>
    match ← decoder.checkStructure memory length with
    | some _ => decodeMessage config memory 0 length first
    | none =>
      match ← decoder.decode config.validateChecksum memory length first with
      | .failure _ => decodeMessage config memory 0 length second
      | exit => .ok exit

/-! ## Failures and acceptances -/

/-- A failure is not reported as a success and hands out no message. -/
def DecodeExit.Honest {μ : Type} : DecodeExit μ → Prop
  | .failure result => result.status ≠ .success ∧ result.parsedMessage = none
  | _ => True

section Exits

variable {decoder : OptimizedParser} {config : ParserConfig} {memory : Memory} {length : Nat}
  {message : FixMessage} {validate : Bool} {bodyEnd bodyStart : Int}
  {startPos endPos bytesConsumed : Nat} {first second accepted : FixMessage}
  {exit : DecodeExit FixMessage} {detail : Bytes}

theorem OptimizedParser.checkStructure_fails :
    Ensures (decoder.checkStructure memory length)
      (fun problem => ∀ result, problem = some result → result.status ≠ .success) := by
  have fails : ∀ status detail state, status ≠ ParseStatus.success →
      ∀ result, some (ParseResult.without status 0 detail state) = some result →
        result.status ≠ .success := by
    rintro status detail state differs result ⟨⟩
    exact differs
  refine .ite (fun _ => .ok (fails _ _ _ nofun)) fun _ => .bind fun last _ => ?_
  refine .ite (fun _ => ?_) fun _ => ?_
  · refine .ite (fun _ => .bind fun _ _ => ?_) fun _ => .ok (fails _ _ _ nofun)
    exact .ite (fun _ => .ok nofun) fun _ => .ok (fails _ _ _ nofun)
  · refine .ite (fun _ => .bind fun _ _ => ?_) fun _ => .ok (fails _ _ _ nofun)
    exact .ite (fun _ => .ok nofun) fun _ => .ok (fails _ _ _ nofun)

theorem OptimizedParser.readChecksum_honest :
    Ensures (decoder.readChecksum validate memory bodyEnd message) DecodeExit.Honest := by
  refine .ite (fun _ => .bind fun _ _ => ?_) fun _ => .bind fun _ _ => .ok trivial
  refine .ite (fun _ => .bind fun checksum _ => .bind fun calculated _ => ?_) fun _ =>
    .ok ⟨nofun, rfl⟩
  cases stoi checksum with
  | none => exact .ok trivial
  | some received => exact .ite (fun _ => .ok trivial) fun _ => .ok ⟨nofun, rfl⟩

theorem OptimizedParser.decode_honest :
    Ensures (decoder.decode validate memory length message) DecodeExit.Honest := by
  refine .bind fun found _ => ?_
  cases found with
  | none => exact .ok ⟨nofun, rfl⟩
  | some bodyLengthEnd =>
    refine .bind fun parsed _ => ?_
    cases parsed with
    | none => exact .ok ⟨nofun, rfl⟩
    | some bodyLength =>
      refine .bind fun fields _ => ?_
      cases fields with
      | malformed position problem => cases problem <;> exact .ok ⟨nofun, rfl⟩
      | finished message => exact .ite (fun _ => .ok ⟨nofun, rfl⟩) fun _ => readChecksum_honest

theorem decodeMessage_honest :
    Ensures (decodeMessage config memory startPos endPos message) DecodeExit.Honest := by
  refine .bind fun fields _ => ?_
  cases fields with
  | malformed position problem => cases problem <;> exact .ok ⟨nofun, rfl⟩
  | finished message =>
    refine .ite (fun _ => .ok ⟨nofun, rfl⟩) fun _ => .ite (fun _ => ?_) fun _ => .ok trivial
    exact .bind fun _ _ => .ite (fun _ => .ok trivial) fun _ => .ok ⟨nofun, rfl⟩

/-- Whose exit decoding a frame has: that of the specialised decoder of its type, if this one does
not fail, and that of the generic decoder otherwise. -/
inductive DecidedBy (config : ParserConfig) (memory : Memory) (length : Nat) (first : FixMessage)
    (exit : DecodeExit FixMessage) : Prop where
  | specialised {msgType : Bytes} {decoder : OptimizedParser} :
      extractMsgType memory length = .ok msgType →
      OptimizedParser.forMsgType msgType = some decoder →
      decoder.checkStructure memory length = .ok none →
      decoder.decode config.validateChecksum memory length first = .ok exit →
      (∀ result, exit ≠ .failure result) → DecidedBy config memory length first exit
  | generic {message : FixMessage} : decodeMessage config memory 0 length message = .ok exit →
      (∀ msgType decoder, extractMsgType memory length = .ok msgType →
        OptimizedParser.forMsgType msgType = some decoder →
        decoder.checkStructure memory length = .ok none →
        ∃ result, decoder.decode config.validateChecksum memory length first =
          .ok (.failure result)) → DecidedBy config memory length first exit

theorem decodeFrame_decided :
    Ensures (decodeFrame config memory length first second)
      (DecidedBy config memory length first) := by
  refine .bind fun msgType extracted => ?_
  cases found : forMsgType msgType with
  | none =>
    have absent : ∀ other decoder, extractMsgType memory length = .ok other →
        forMsgType other = some decoder →
        decoder.checkStructure memory length = .ok none →
        ∃ result, decoder.decode config.validateChecksum memory length first =
          .ok (.failure result) := by
      intro other decoder also known _
      cases extracted.symm.trans also
      cases found.symm.trans known
    refine .bind fun exit decoded => ?_
    cases exit with
    | failure result => exact fun exit again => .generic again absent
    | success message bytesConsumed detail => exact .ok (.generic decoded absent)
    | thrown message what => exact .ok (.generic decoded absent)
  | some decoder =>
    refine .bind fun problem checked => ?_
    cases problem with
    | some result =>
      intro exit decoded
      refine .generic decoded fun other again also known passed => ?_
      cases extracted.symm.trans also
      cases found.symm.trans known
      cases checked.symm.trans passed
    | none =>
      refine .bind fun exit decoded => ?_
      cases exit with
      | failure result =>
        intro exit fallback
        refine .generic fallback fun other again also known _ => ?_
        cases extracted.symm.trans also
        cases found.symm.trans known
        exact ⟨result, decoded⟩
      | success message bytesConsumed detail =>
        exact .ok (.specialised extracted found checked decoded nofun)
      | thrown message what =>
        exact .ok (.specialised extracted found checked decoded nofun)

theorem decodeFrame_honest :
    Ensures (decodeFrame config memory length first second) DecodeExit.Honest := by
  intro exit ok
  cases decodeFrame_decided _ ok with
  | specialised _ _ _ decoded _ => exact decode_honest _ decoded
  | generic decoded _ => exact decodeMessage_honest _ decoded

/-- What a specialised decoder consumes reaches beyond the frame. -/
theorem OptimizedParser.readChecksum_consumes :
    Ensures (decoder.readChecksum validate memory bodyEnd message)
      (fun exit => ∀ message bytesConsumed detail, exit = .success message bytesConsumed detail →
        bytesConsumed = wrapSize (bodyEnd + 7)) := by
  have accepted : ∀ message detail, ∀ other bytesConsumed text,
      DecodeExit.success (μ := FixMessage) message (wrapSize (bodyEnd + 7)) detail =
        .success other bytesConsumed text → bytesConsumed = wrapSize (bodyEnd + 7) := by
    rintro message detail other bytesConsumed text ⟨⟩
    rfl
  refine .ite (fun _ => .bind fun _ _ => ?_) fun _ => .bind fun _ _ => .ok (accepted _ _)
  refine .ite (fun _ => .bind fun checksum _ => .bind fun calculated _ => ?_) fun _ => .ok nofun
  cases stoi checksum with
  | none => exact .ok nofun
  | some received => exact .ite (fun _ => .ok (accepted _ _)) fun _ => .ok nofun

/-- The bytes that an accepting decoder consumes end seven bytes after the body. -/
theorem OptimizedParser.readBody_consumes :
    Ensures (decoder.readBody validate memory bodyStart bodyEnd message)
      (fun exit => ∀ accepted bytesConsumed detail, exit = .success accepted bytesConsumed detail →
        bytesConsumed = wrapSize (bodyEnd + 7)) := by
  refine .bind fun fields _ => ?_
  cases fields with
  | malformed position problem => exact .ok nofun
  | finished message =>
    exact .ite (fun _ => .ok nofun) fun _ => readChecksum_consumes

/-- What a specialised decoder writes before it comes to the fields. -/
def OptimizedParser.headWrites (decoder : OptimizedParser) (digits : Bytes) : List (Int × Bytes) :=
  [(FixFields.beginString, fixVersion44), (FixFields.msgType, decoder.msgType),
    (FixFields.bodyLength, Utils.FastStringConversion.intToString (foldDigits digits))]

/-- A specialised decoder that does not report a failure has read a BodyLength at offset 12 and
goes on with the body. -/
theorem OptimizedParser.decode_reads (ok : decoder.decode validate memory length message = .ok exit)
    (goes : ∀ result, exit ≠ .failure result) :
    ∃ digits, memory.Holds 12 (digits ++ [soh]) ∧ digits ≠ [] ∧
      (∀ byte ∈ digits, isDigit byte = true) ∧ 12 + digits.length < length ∧
      decoder.readBody validate memory (12 + digits.length + 1)
        (12 + digits.length + 1 + foldDigits digits)
        (message.setFields (decoder.headWrites digits)) = .ok exit := by
  obtain ⟨found, scanned, ok⟩ := bind_ok.mp ok
  cases found with
  | none =>
    cases ok
    exact absurd rfl (goes _)
  | some bodyLengthEnd =>
    obtain ⟨before, held, _, inside, rfl⟩ := Memory.find_some_iff.mp scanned
    obtain ⟨parsed, read, ok⟩ := bind_ok.mp ok
    cases parsed with
    | none =>
      cases ok
      exact absurd rfl (goes _)
    | some bodyLength =>
      obtain ⟨digits, also, size, nonempty, all, rfl⟩ := parseInteger_some_iff.mp read
      have same : digits = before := also.eq_of_length held.left (by omega)
      subst same
      exact ⟨digits, held, nonempty, all, by omega, ok⟩

/-- A specialised decoder that accepts consumes what BodyLength says, and the checksum field. -/
theorem OptimizedParser.decode_consumes (ok : decoder.decode validate memory length message =
      .ok (.success accepted bytesConsumed detail)) :
    ∃ digits, memory.Holds 12 (digits ++ [soh]) ∧ digits ≠ [] ∧
      (∀ byte ∈ digits, isDigit byte = true) ∧ 12 + digits.length < length ∧
      bytesConsumed = wrapSize (12 + digits.length + 1 + foldDigits digits + 7) := by
  obtain ⟨digits, held, nonempty, all, inside, read⟩ := decode_reads ok nofun
  exact ⟨digits, held, nonempty, all, inside, readBody_consumes _ read _ _ _ rfl⟩

/-- The body of a frame that a specialised decoder does not reject is a list of fields. -/
theorem OptimizedParser.readBody_reads
    (ok : decoder.readBody validate memory bodyStart bodyEnd message = .ok exit)
    (goes : ∀ result, exit ≠ .failure result) :
    ∃ fields, memory.Holds bodyStart (fieldsText fields) ∧
      (fieldsText fields).length = (bodyEnd - bodyStart).toNat ∧
      decoder.readChecksum validate memory bodyEnd
        (message.setFields (fields.map assignment)) = .ok exit := by
  obtain ⟨outcome, parsed, ok⟩ := bind_ok.mp ok
  cases outcome with
  | malformed position problem =>
    cases ok
    exact absurd rfl (goes _)
  | finished filled =>
    obtain ⟨fields, held, size, rfl⟩ : ∃ fields, memory.Holds bodyStart (fieldsText fields) ∧
        (fieldsText fields).length = (bodyEnd - bodyStart).toNat ∧
        filled = message.setFields (fields.map assignment) := by
      by_cases low : bodyStart ≤ bodyEnd
      · obtain ⟨fields, held, ends, stored⟩ := parseFields_inversion parsed low
        exact ⟨fields, held, by omega, stored⟩
      · -- a negative BodyLength makes the body empty
        unfold fieldFuel at parsed
        rw [parseFields, if_neg (by omega)] at parsed
        cases parsed
        exact ⟨[], trivial, by rw [fieldsText_nil, List.length_nil]; omega, rfl⟩
    dsimp only at ok
    split at ok
    · cases ok
      exact absurd rfl (goes _)
    · exact ⟨fields, held, size, ok⟩

/-- A specialised decoder stores the fields of a body and goes on to the checksum field. -/
theorem OptimizedParser.decode_fields {digits : Bytes} (fields : List RawField)
    (nonempty : digits ≠ []) (all : ∀ byte ∈ digits, isDigit byte = true)
    (offset : memory.Holds 12 (digits ++ [soh])) (inside : 12 + digits.length < length)
    (held : memory.Holds (12 + digits.length + 1) (fieldsText fields))
    (size : (fieldsText fields).length = (foldDigits digits).toNat) :
    decoder.decode validate memory length message =
      decoder.readChecksum validate memory (12 + digits.length + 1 + foldDigits digits)
        (message.setFields (decoder.headWrites digits ++ fields.map assignment)) := by
  have noSoh : soh ∉ digits := fun member => absurd (all soh member) (by decide)
  have scanned : memory.find soh 12 length = .ok (some (12 + digits.length)) :=
    Memory.find_hit offset noSoh (by omega)
  have parsed : parseInteger memory 12 (12 + (digits.length : Int) - 12).toNat =
      .ok (some (foldDigits digits)) :=
    parseInteger_some_iff.mpr ⟨digits, offset.left, by omega, nonempty, all, rfl⟩
  have body : ∀ message, parseFields memory (12 + digits.length + 1 + foldDigits digits)
      (fun _ => false) (fieldFuel (12 + digits.length + 1)
        (12 + digits.length + 1 + foldDigits digits)) (12 + digits.length + 1) message =
      .ok (.finished (message.setFields (fields.map assignment))) := by
    intro message
    by_cases low : 0 ≤ foldDigits digits
    · exact parseFields_finished fields held (by omega) (fun _ _ => rfl) (le_refl _)
    · have empty : fields = [] := by
        cases fields with
        | nil => rfl
        | cons field rest =>
          rw [fieldsText_cons, List.length_append, length_text] at size
          omega
      subst empty
      unfold fieldFuel
      rw [parseFields, if_neg (by omega)]
      rfl
  have has : ((message.setFields (decoder.headWrites digits)).setFields
      (fields.map assignment)).hasField FixFields.msgType = true := by
    have written : (lastValue FixFields.msgType (decoder.headWrites digits)).isSome = true := rfl
    rw [hasField, getField_setFields, getField_setFields,
      Option.isSome_or, Option.isSome_or, written, Bool.true_or, Bool.or_true]
  have started : decoder.decode validate memory length message =
      decoder.readBody validate memory (12 + digits.length + 1)
        (12 + digits.length + 1 + foldDigits digits)
        (message.setFields (decoder.headWrites digits)) := by
    unfold OptimizedParser.decode
    simp only [bind, Except.bind, scanned, parsed]
    rfl
  rw [started]
  unfold readBody
  simp only [body, bind, Except.bind, has, Bool.true_eq_false, and_false, if_false,
    setFields_append]

theorem decodeMessage_consumes :
    Ensures (decodeMessage config memory startPos endPos message)
      (fun exit => ∀ message bytesConsumed detail, exit = .success message bytesConsumed detail →
        bytesConsumed = endPos - startPos) := by
  have accepted : ∀ message detail, ∀ other bytesConsumed text,
      DecodeExit.success (μ := FixMessage) message (endPos - startPos) detail =
        .success other bytesConsumed text → bytesConsumed = endPos - startPos := by
    rintro message detail other bytesConsumed text ⟨⟩
    rfl
  refine .bind fun fields _ => ?_
  cases fields with
  | malformed position problem => exact .ok nofun
  | finished message =>
    refine .ite (fun _ => .ok nofun) fun _ => .ite (fun _ => ?_) fun _ => .ok (accepted _ _)
    exact .bind fun _ _ => .ite (fun _ => .ok (accepted _ _)) fun _ => .ok nofun

/-- A frame is accepted by the generic decoder as a whole, or by the specialised one of its
type. -/
theorem decodeFrame_success (ok : decodeFrame config memory length first second =
      .ok (.success accepted bytesConsumed detail)) :
    bytesConsumed = length ∨ ∃ msgType decoder, extractMsgType memory length = .ok msgType ∧
      forMsgType msgType = some decoder ∧
      decoder.checkStructure memory length = .ok none ∧
      decoder.decode config.validateChecksum memory length first =
        .ok (.success accepted bytesConsumed detail) := by
  cases decodeFrame_decided _ ok with
  | specialised extracted found checked decoded _ =>
    exact .inr ⟨_, _, extracted, found, checked, decoded⟩
  | generic decoded _ => exact .inl (decodeMessage_consumes _ decoded _ _ _ rfl)

end Exits

/-! ## In the pool -/

/-- The pool's slots are as they were. -/
structure SameSlots (before after : MessagePool FixMessage) : Prop where
  freeList : after.freeList = before.freeList
  objects : after.objects = before.objects
  isShutdown : after.isShutdown = before.isShutdown

/-- The pool's next slot holds a message and nothing else has changed. -/
structure Taken (before : MessagePool FixMessage) (slot : Nat) (rest : List Nat)
    (message : FixMessage) (after : MessagePool FixMessage) : Prop where
  freeList : after.freeList = rest
  objects : after.objects = Function.update before.objects slot (some message)
  isShutdown : after.isShutdown = before.isShutdown

/-- What the decoding stage returns for an exit, and what it does to the pool. -/
inductive Settles (pool : MessagePool FixMessage) (slot : Nat) (rest : List Nat) :
    DecodeExit FixMessage → DecodeReturn → MessagePool FixMessage → Prop where
  | success {message : FixMessage} {bytesConsumed : Nat} {detail : Bytes}
      {after : MessagePool FixMessage} : Taken pool slot rest message after →
      Settles pool slot rest (.success message bytesConsumed detail)
        (.returned ⟨.success, bytesConsumed, some slot, detail, .idle, 0⟩) after
  | failure {result : ParseResult} {after : MessagePool FixMessage} : SameSlots pool after →
      Settles pool slot rest (.failure result) (.returned result) after
  | thrown {message : FixMessage} {what : Bytes} {after : MessagePool FixMessage} :
      Taken pool slot rest message after →
      Settles pool slot rest (.thrown message what) (.thrown what) after

/-- A call of the decoding stage does in the pool what decoding comes to. -/
def Realises (pool : MessagePool FixMessage) (slot : Nat) (rest : List Nat) :
    Except Fault (DecodeExit FixMessage) →
      Except Fault (DecodeReturn × MessagePool FixMessage) → Prop
  | .error fault, call => call = .error fault
  | .ok exit, call =>
    ∃ answer after, call = .ok (answer, after) ∧ Settles pool slot rest exit answer after

section Pool

variable {config : ParserConfig} {clock : Clock} {pool middle after : MessagePool FixMessage}
  {memory : Memory} {length slot : Nat} {rest : List Nat} {message : FixMessage}
  {answer : DecodeReturn} {refused : ParseResult}
  {decode : FixMessage → Except Fault (DecodeExit FixMessage)}

theorem SameSlots.of_deallocate (chain : pool.freeList = slot :: rest) :
    SameSlots pool ((pool.take message slot rest chain).deallocate slot) :=
  ⟨deallocate_take_freeList, deallocate_take_objects, deallocate_isShutdown⟩

theorem taken_store {other : FixMessage} (chain : pool.freeList = slot :: rest) :
    Taken pool slot rest message ((pool.take other slot rest chain).store slot message) := by
  rw [store_take]
  exact ⟨rfl, rfl, rfl⟩

theorem SameSlots.trans (first : SameSlots pool middle) (second : SameSlots middle after) :
    SameSlots pool after :=
  ⟨second.freeList.trans first.freeList, second.objects.trans first.objects,
    second.isShutdown.trans first.isShutdown⟩

theorem SameSlots.taken (first : SameSlots pool middle)
    (second : Taken middle slot rest message after) : Taken pool slot rest message after :=
  ⟨second.freeList, first.objects ▸ second.objects, second.isShutdown.trans first.isShutdown⟩

theorem SameSlots.settles {exit : DecodeExit FixMessage}
    (first : SameSlots pool middle) (second : Settles middle slot rest exit answer after) :
    Settles pool slot rest exit answer after := by
  cases second with
  | success taken => exact .success (first.taken taken)
  | failure same => exact .failure (first.trans same)
  | thrown taken => exact .thrown (first.taken taken)

theorem Realises.settles {outcome : Except Fault (DecodeExit FixMessage)}
    {call : Except Fault (DecodeReturn × MessagePool FixMessage)}
    (realised : Realises pool slot rest outcome call) (called : call = .ok (answer, after)) :
    ∃ exit, outcome = .ok exit ∧ Settles pool slot rest exit answer after := by
  cases outcome with
  | error fault =>
    have faulted : call = .error fault := realised
    rw [called] at faulted
    cases faulted
  | ok exit =>
    obtain ⟨other, left, returned, settles⟩ := realised
    rw [called] at returned
    cases returned
    exact ⟨exit, rfl, settles⟩

theorem withMessage_realises
    (running : pool.isShutdown = false) (chain : pool.freeList = slot :: rest) :
    Realises pool slot rest (decode (FixMessage.new (clock.utc pool.totalAllocations)))
      (withMessage clock pool refused decode) := by
  rw [withMessage_eq running chain]
  cases decode (FixMessage.new (clock.utc pool.totalAllocations)) with
  | error fault => rfl
  | ok exit =>
    refine ⟨_, _, rfl, ?_⟩
    cases exit with
    | success message bytesConsumed detail => exact .success (taken_store chain)
    | failure result => exact .failure (.of_deallocate chain)
    | thrown message what => exact .thrown (taken_store chain)

theorem fallback_realises {time : Nat} (same : SameSlots pool middle)
    (running : pool.isShutdown = false) (chain : pool.freeList = slot :: rest)
    (counted : middle.totalAllocations = time) :
    Realises pool slot rest (decodeMessage config memory 0 length (FixMessage.new (clock.utc time)))
      (do
        match ← parseMessage config clock middle memory 0 length with
        | (.thrown what, pool) => .ok (.thrown what, pool)
        | (.returned fallback, pool) =>
          if fallback.status = .success then
            .ok (.returned { fallback with bytesConsumed := length, finalState := .idle }, pool)
          else .ok (.returned fallback, pool)) := by
  have realised : Realises middle slot rest
      (decodeMessage config memory 0 length (FixMessage.new (clock.utc time)))
      (parseMessage config clock middle memory 0 length) :=
    counted ▸ withMessage_realises (same.isShutdown.trans running) (same.freeList.trans chain)
  cases decoded : decodeMessage config memory 0 length (FixMessage.new (clock.utc time)) with
  | error fault =>
    rw [decoded] at realised
    rw [show parseMessage config clock middle memory 0 length = .error fault from realised]
    rfl
  | ok exit =>
    rw [decoded] at realised
    obtain ⟨answer, after, called, settles⟩ := realised
    have settled := same.settles settles
    rw [called]
    cases settled with
    | success taken =>
      obtain rfl := decodeMessage_consumes _ decoded _ _ _ rfl
      exact ⟨_, _, rfl, .success taken⟩
    | failure kept =>
      have fails := (decodeMessage_honest _ decoded).1
      simp only [bind, Except.bind]
      rw [if_neg fails]
      exact ⟨_, _, rfl, .failure kept⟩
    | thrown taken => exact ⟨_, _, rfl, .thrown taken⟩

theorem deallocate_totalAllocations (chain : pool.freeList = slot :: rest) :
    ((pool.take message slot rest chain).deallocate slot).totalAllocations =
      pool.totalAllocations + 1 := by
  unfold MessagePool.deallocate
  rw [dif_pos take_live]
  rfl

theorem attempt_realises (honest : ∀ message, Ensures (decode message) DecodeExit.Honest)
    (running : pool.isShutdown = false) (chain : pool.freeList = slot :: rest) :
    Realises pool slot rest
      (do
        match ← decode (FixMessage.new (clock.utc pool.totalAllocations)) with
        | .failure _ =>
          decodeMessage config memory 0 length
            (FixMessage.new (clock.utc (pool.totalAllocations + 1)))
        | exit => .ok exit)
      (do
        match ← withMessage clock pool refused decode with
        | (.thrown what, pool) => .ok (.thrown what, pool)
        | (.returned result, pool) =>
          if result.status = .success then .ok (.returned result, pool)
          else
            match ← parseMessage config clock pool memory 0 length with
            | (.thrown what, pool) => .ok (.thrown what, pool)
            | (.returned fallback, pool) =>
              if fallback.status = .success then
                .ok (.returned { fallback with bytesConsumed := length, finalState := .idle }, pool)
              else .ok (.returned fallback, pool)) := by
  rw [withMessage_eq running chain]
  cases decoded : decode (FixMessage.new (clock.utc pool.totalAllocations)) with
  | error fault => rfl
  | ok exit =>
    cases exit with
    | success message bytesConsumed detail => exact ⟨_, _, rfl, .success (taken_store chain)⟩
    | thrown message what => exact ⟨_, _, rfl, .thrown (taken_store chain)⟩
    | failure result =>
      have fails : result.status ≠ .success := (honest _ _ decoded).1
      simp only [bind, Except.bind, DecodeExit.settle]
      rw [if_neg fails]
      exact fallback_realises (.of_deallocate chain) running chain
        (deallocate_totalAllocations chain)

/-- The decoding stage does in a pool with a free slot what `decodeFrame` comes to. -/
theorem parseCompleteMessage_realises (positive : 0 < length) (running : pool.isShutdown = false)
    (chain : pool.freeList = slot :: rest) :
    Realises pool slot rest
      (decodeFrame config memory length (FixMessage.new (clock.utc pool.totalAllocations))
        (FixMessage.new (clock.utc (pool.totalAllocations + 1))))
      (parseCompleteMessage config clock pool memory length) := by
  unfold parseCompleteMessage decodeFrame parseIntelligent
  rw [if_neg (Nat.ne_of_gt positive)]
  cases extractMsgType memory length with
  | error fault => rfl
  | ok msgType =>
    cases found : forMsgType msgType with
    | none =>
      simp only [bind, Except.bind, found]
      exact attempt_realises (fun _ => decodeMessage_honest) running chain
    | some decoder =>
      simp only [bind, Except.bind, found, OptimizedParser.parse]
      cases checked : decoder.checkStructure memory length with
      | error fault => rfl
      | ok problem =>
        cases problem with
        | none => exact attempt_realises (fun _ => decoder.decode_honest) running chain
        | some result =>
          have fails := decoder.checkStructure_fails _ checked result rfl
          simp only
          rw [if_neg fails]
          exact fallback_realises ⟨rfl, rfl, rfl⟩ running chain rfl

section Called

variable (positive : 0 < length) (running : pool.isShutdown = false)
  (chain : pool.freeList = slot :: rest)

include positive running chain

/-- A call of the decoding stage that returns has settled what `decodeFrame` comes to. -/
theorem parseCompleteMessage_settles {answer : DecodeReturn}
    (called : parseCompleteMessage config clock pool memory length = .ok (answer, after)) :
    ∃ exit, decodeFrame config memory length (FixMessage.new (clock.utc pool.totalAllocations))
        (FixMessage.new (clock.utc (pool.totalAllocations + 1))) = .ok exit ∧
      Settles pool slot rest exit answer after :=
  (parseCompleteMessage_realises positive running chain).settles called

theorem parseCompleteMessage_decodes {exit : DecodeExit FixMessage}
    (decoded : decodeFrame config memory length
      (FixMessage.new (clock.utc pool.totalAllocations))
      (FixMessage.new (clock.utc (pool.totalAllocations + 1))) = .ok exit) :
    ∃ answer after, parseCompleteMessage config clock pool memory length = .ok (answer, after) ∧
      Settles pool slot rest exit answer after := by
  have realised : Realises pool slot rest _
      (parseCompleteMessage config clock pool memory length) :=
    parseCompleteMessage_realises positive running chain
  rw [decoded] at realised
  exact realised

theorem parseCompleteMessage_faults {fault : Fault} (faulted : decodeFrame config memory length
      (FixMessage.new (clock.utc pool.totalAllocations))
      (FixMessage.new (clock.utc (pool.totalAllocations + 1))) = .error fault) :
    parseCompleteMessage config clock pool memory length = .error fault := by
  have realised : Realises pool slot rest _
      (parseCompleteMessage config clock pool memory length) :=
    parseCompleteMessage_realises positive running chain
  rw [faulted] at realised
  exact realised

end Called

/-! ## Without a free slot -/

theorem parseMessage_refused (exhausted : ¬ pool.available 1) :
    parseMessage config clock pool memory 0 length =
      .ok (.returned (.without .allocationFailed 0 (ascii "MessagePool allocation failed") .idle),
        pool.countFailure) :=
  withMessage_refused exhausted

/-- The decoding stage reports a refused allocation and gives nothing out. -/
def Refused (pool : MessagePool FixMessage) (answer : DecodeReturn × MessagePool FixMessage) :
    Prop :=
  answer.1 = .returned
      (.without .allocationFailed 0 (ascii "MessagePool allocation failed") .idle) ∧
    SameSlots pool answer.2

theorem parseIntelligent_refused (exhausted : ¬ pool.available 1) :
    Ensures (parseIntelligent config clock pool memory length)
      (fun answer => ∃ result, answer.1 = .returned result ∧ result.status ≠ .success ∧
        SameSlots pool answer.2 ∧ ¬ answer.2.available 1) := by
  refine .bind fun msgType _ => ?_
  cases forMsgType msgType with
  | none =>
    rw [parseMessage_refused exhausted]
    exact .ok ⟨_, rfl, nofun, ⟨rfl, rfl, rfl⟩, exhausted⟩
  | some decoder =>
    refine .bind fun problem checked => ?_
    cases problem with
    | some result =>
      exact .ok ⟨result, rfl, decoder.checkStructure_fails _ checked result rfl,
        ⟨rfl, rfl, rfl⟩, exhausted⟩
    | none =>
      rw [withMessage_refused exhausted]
      exact .ok ⟨_, rfl, nofun, ⟨rfl, rfl, rfl⟩, exhausted⟩

theorem parseCompleteMessage_refused (positive : 0 < length) (exhausted : ¬ pool.available 1) :
    Ensures (parseCompleteMessage config clock pool memory length) (Refused pool) := by
  unfold parseCompleteMessage
  rw [if_neg (Nat.ne_of_gt positive)]
  refine .bind fun answer called => ?_
  obtain ⟨answered, middle⟩ := answer
  obtain ⟨result, returned, fails, same, still⟩ := parseIntelligent_refused exhausted _ called
  dsimp only at returned same still
  subst returned
  refine .ite (fun success => absurd success fails) fun _ => ?_
  rw [parseMessage_refused still]
  exact .ok ⟨rfl, same.freeList, same.objects, same.isShutdown⟩

/-- A call of the decoding stage settles in the next free slot what `decodeFrame` comes to, or it
is refused. -/
theorem parseCompleteMessage_cases (positive : 0 < length)
    (called : parseCompleteMessage config clock pool memory length = .ok (answer, after)) :
    (∃ slot rest first second exit, pool.freeList = slot :: rest ∧
      decodeFrame config memory length (FixMessage.new first) (FixMessage.new second) = .ok exit ∧
      Settles pool slot rest exit answer after) ∨ Refused pool (answer, after) := by
  by_cases free : pool.available 1
  · obtain ⟨slot, rest, chain, _⟩ := exists_chain free
    obtain ⟨exit, decodes, settles⟩ := parseCompleteMessage_settles positive free.1 chain called
    exact .inl ⟨slot, rest, _, _, exit, chain, decodes, settles⟩
  · exact .inr (parseCompleteMessage_refused positive free _ called)

/-- A message that the decoding stage returns was decoded into the next free slot. -/
theorem parseCompleteMessage_takes {decoded : ParseResult} (positive : 0 < length)
    (called : parseCompleteMessage config clock pool memory length = .ok (.returned decoded, after))
    (success : decoded.status = .success) :
    ∃ slot rest message, pool.freeList = slot :: rest ∧ Taken pool slot rest message after ∧
      ∃ first second, decodeFrame config memory length first second =
        .ok (.success message decoded.bytesConsumed decoded.errorDetail) := by
  rcases parseCompleteMessage_cases positive called with
    ⟨slot, rest, _, _, exit, chain, decodes, settles⟩ | ⟨refused, _⟩
  · cases settles with
    | success taken => exact ⟨slot, rest, _, chain, taken, _, _, decodes⟩
    | failure same => exact absurd success (decodeFrame_honest _ decodes).1
  · cases refused
    cases success

end Pool

end FixGateway.Protocol
