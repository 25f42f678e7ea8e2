import FixGateway.Protocol.Parser.Basic

/-! # Framing

`findCompleteMessage` looks for the boundaries of one message: the first `8=`,
which must begin `8=FIX.4.4`, the SOH that ends that field, the BodyLength field
after it, and as many bytes as BodyLength says. It reads nothing else, so its
result depends only on the bytes it is given, and it never faults inside a held
buffer.
-/

namespace FixGateway.Protocol

open ByteScan Memory

/-- `FIX_BEGIN_STRING`. -/
def fixBeginString : Bytes := ascii "8=FIX.4.4"

/-- What `findCompleteMessage` returns: its result, the boundaries, and the body
length it leaves in the context. -/
structure Framing where
  result : ParseResult
  messageStart : Int := 0
  messageEnd : Int := 0
  expectedBodyLength : Option Nat := none

/-- A framing that did not get to the boundaries. -/
def Framing.stop (status : ParseStatus) (bytesConsumed : Nat) (errorDetail : Bytes)
    (finalState : ParseState) (messageStart : Int) : Framing :=
  { result := .without status bytesConsumed errorDetail finalState, messageStart := messageStart }

/-- Whether the frame ends in something that looks like a checksum field. -/
def endsWithChecksum (memory : Memory) (messageEnd : Int) : Except Fault Bool :=
  if 7 ≤ messageEnd then do
    if ← memory.startsAt (ascii "10=") (messageEnd - 7) then
      let last ← memory.read (messageEnd - 1)
      .ok (last = soh)
    else .ok false
  else .ok false

/-- The boundaries of a message whose BodyLength has been read. -/
def messageBoundaries (memory : Memory) (length start bodyLengthEnd bodyLength : Int) :
    Except Fault Framing :=
  let headerSize := bodyLengthEnd + 1 - start
  let messageEnd := start + headerSize + bodyLength
  if messageEnd > length then
    .ok { result := .without .needMoreData 0
            (ascii "Need " ++ toText (messageEnd - length) ++
              ascii " more bytes for complete message") .parsingTag
          messageStart := start
          messageEnd := messageEnd
          expectedBodyLength := some bodyLength.toNat }
  else do
    let wellFormed ← endsWithChecksum memory messageEnd
    .ok { result := .without .success 0
            (if wellFormed then ascii "Complete message found"
              else ascii "Message boundaries determined") .idle
          messageStart := start
          messageEnd := messageEnd
          expectedBodyLength := some bodyLength.toNat }

/-- The BodyLength field, whose value starts at `bodyLengthStart`. -/
def findBodyLength (memory : Memory) (maxMessageSize : Nat) (length start bodyLengthStart : Int) :
    Except Fault Framing := do
  match ← memory.find soh bodyLengthStart length with
  | none =>
    .ok (.stop .needMoreData 0 (ascii "Incomplete BodyLength value") .parsingBodyLength start)
  | some bodyLengthEnd =>
    match ← parseInteger memory bodyLengthStart (bodyLengthEnd - bodyLengthStart).toNat with
    | none =>
      .ok (.stop .invalidFormat bodyLengthStart.toNat (ascii "Invalid BodyLength value")
        .errorRecovery start)
    | some bodyLength =>
      if bodyLength ≤ 0 ∨ bodyLength > wrapInt maxMessageSize then
        .ok (.stop .invalidFormat bodyLengthStart.toNat
          (ascii "BodyLength value out of range: " ++ toText bodyLength) .errorRecovery start)
      else messageBoundaries memory length start bodyLengthEnd bodyLength

/-- The end of the BeginString field that starts at `start`, and the tag of
BodyLength after it. -/
def findBeginStringEnd (memory : Memory) (maxMessageSize : Nat) (length start : Int) :
    Except Fault Framing := do
  match ← memory.find soh start length with
  | none =>
    .ok (.stop .needMoreData 0 (ascii "Incomplete BeginString field") .parsingBeginString start)
  | some position =>
    let current := position + 1
    if current + 4 > length then
      .ok (.stop .needMoreData 0 (ascii "Not enough data for BodyLength field")
        .parsingBodyLength start)
    else if ← memory.startsAt (ascii "9=") current then
      findBodyLength memory maxMessageSize length start (current + 2)
    else
      .ok (.stop .invalidFormat current.toNat
        (ascii "BodyLength field not found after BeginString") .errorRecovery start)

/-- `findCompleteMessage` on the `length` bytes from the base pointer on. -/
def findCompleteMessage (memory : Memory) (maxMessageSize length : Nat) : Except Fault Framing :=
  if length < 10 then
    .ok (.stop .needMoreData 0 (ascii "Buffer too small for FIX message") .idle 0)
  else do
    match ← memory.search (ascii "8=") 0 length with
    | none => .ok (.stop .invalidFormat 0 (ascii "Invalid BeginString found") .idle 0)
    | some start =>
      if length - start < fixBeginString.length then
        .ok (.stop .needMoreData 0 (ascii "Incomplete BeginString") .parsingBeginString 0)
      else if ← memory.startsAt fixBeginString start then
        findBeginStringEnd memory maxMessageSize length start
      else do
        let found ← memory.slice start fixBeginString.length
        .ok (.stop .invalidFormat start.toNat
          (ascii "Invalid BeginString format - expected '8=FIX.4.4', found '" ++ found ++ ascii "'")
          .errorRecovery 0)

theorem findCompleteMessage_short {memory : Memory} {maxMessageSize length : Nat}
    (short : length < 10) :
    findCompleteMessage memory maxMessageSize length =
      .ok (.stop .needMoreData 0 (ascii "Buffer too small for FIX message") .idle 0) := by
  unfold findCompleteMessage
  rw [if_pos short]

/-! ## Larger memories -/

section Extension

variable {small large : Memory}

section

variable (larger : Memory.Extends small large)
include larger

theorem parseInteger_refines (first : Int) (length : Nat) :
    Refines (parseInteger small first length) (parseInteger large first length) :=
  .ite (.refl _) (parseDigits_refines larger)

theorem endsWithChecksum_refines (messageEnd : Int) :
    Refines (endsWithChecksum small messageEnd) (endsWithChecksum large messageEnd) :=
  .ite ((startsAt_refines larger).bind fun _ =>
    .ite ((read_refines larger).bind fun _ => .refl _) (.refl _)) (.refl _)

theorem messageBoundaries_refines (length start bodyLengthEnd bodyLength : Int) :
    Refines (messageBoundaries small length start bodyLengthEnd bodyLength)
      (messageBoundaries large length start bodyLengthEnd bodyLength) :=
  .ite (.refl _) ((endsWithChecksum_refines larger _).bind fun _ => .refl _)

theorem findBodyLength_refines (maxMessageSize : Nat) (length start bodyLengthStart : Int) :
    Refines (findBodyLength small maxMessageSize length start bodyLengthStart)
      (findBodyLength large maxMessageSize length start bodyLengthStart) := by
  refine (find_refines larger).bind fun found => ?_
  cases found with
  | none => exact .refl _
  | some bodyLengthEnd =>
    refine (parseInteger_refines larger _ _).bind fun parsed => ?_
    cases parsed with
    | none => exact .refl _
    | some bodyLength => exact .ite (.refl _) (messageBoundaries_refines larger _ _ _ _)

theorem findBeginStringEnd_refines (maxMessageSize : Nat) (length start : Int) :
    Refines (findBeginStringEnd small maxMessageSize length start)
      (findBeginStringEnd large maxMessageSize length start) := by
  refine (find_refines larger).bind fun found => ?_
  cases found with
  | none => exact .refl _
  | some position =>
    refine .ite (.refl _) ((startsAt_refines larger).bind fun _ => ?_)
    exact .ite (findBodyLength_refines larger _ _ _ _) (.refl _)

theorem findCompleteMessage_refines (maxMessageSize length : Nat) :
    Refines (findCompleteMessage small maxMessageSize length)
      (findCompleteMessage large maxMessageSize length) := by
  refine .ite (.refl _) ((search_refines larger).bind fun found => ?_)
  cases found with
  | none => exact .refl _
  | some start =>
    refine .ite (.refl _) ((startsAt_refines larger).bind fun _ => ?_)
    exact .ite (findBeginStringEnd_refines larger _ _ _)
      ((slice_refines larger).bind fun _ => .refl _)

end

end Extension

/-! ## What a framing has read -/

section Reading

variable {memory : Memory} {maxMessageSize : Nat} {length start stop : Int} {framing : Framing}
  {bodyLengthEnd bodyLength bodyLengthStart : Int}

theorem parseInteger_some_iff {first number : Int} {count : Nat} :
    parseInteger memory first count = .ok (some number) ↔
      ∃ digits, memory.Holds first digits ∧ digits.length = count ∧ digits ≠ [] ∧
        (∀ byte ∈ digits, isDigit byte = true) ∧ number = foldDigits digits := by
  unfold parseInteger
  by_cases empty : count = 0
  · rw [if_pos empty]
    constructor
    · intro ok
      cases ok
    · rintro ⟨digits, _, size, nonempty, _⟩
      exact absurd (List.length_eq_zero_iff.mp (size.trans empty)) nonempty
  · rw [if_neg empty, parseDigits_some_iff]
    constructor
    · rintro ⟨digits, held, size, all, rfl⟩
      refine ⟨digits, held, size, fun nil => empty ?_, all, rfl⟩
      rw [← size, nil, List.length_nil]
    · rintro ⟨digits, held, size, _, all, rfl⟩
      exact ⟨digits, held, size, all, rfl⟩

theorem parseInteger_total {first : Int} {count : Nat}
    (readable : memory.Readable first (first + count)) :
    Finishes (parseInteger memory first count) :=
  .ite (fun _ => .ok _) fun _ => parseDigits_total readable

theorem parseInteger_none {first : Int} {count : Nat} {bytes : Bytes}
    (held : memory.Holds first bytes) (size : bytes.length = count)
    (other : ¬ ∀ byte ∈ bytes, isDigit byte = true) :
    parseInteger memory first count = .ok none := by
  have readable := held.readable
  rw [size] at readable
  obtain ⟨read, parsed⟩ := parseInteger_total readable
  cases read with
  | none => exact parsed
  | some number =>
    obtain ⟨digits, also, same, _, all, _⟩ := parseInteger_some_iff.mp parsed
    rw [also.eq_of_length held (same.trans size.symm)] at all
    exact absurd all other

/-- A message header at `start`, with `version` between `8=FIX.4.4` and the SOH
and the given BodyLength `digits`, whose BodyLength ends the message at `stop`. -/
structure FrameAt (memory : Memory) (maxMessageSize : Nat) (start stop : Int)
    (version digits : Bytes) : Prop where
  held : memory.Holds start
    (fixBeginString ++ version ++ soh :: (ascii "9=" ++ (digits ++ [soh])))
  noSoh : soh ∉ version
  nonempty : digits ≠ []
  all : ∀ byte ∈ digits, isDigit byte = true
  positive : 0 < foldDigits digits
  bounded : foldDigits digits ≤ wrapInt maxMessageSize
  stop_eq : stop = start + (version.length + digits.length + 13) + foldDigits digits

theorem messageBoundaries_success
    (ok : messageBoundaries memory length start bodyLengthEnd bodyLength = .ok framing)
    (success : framing.result.status = .success) :
    framing.messageStart = start ∧ framing.messageEnd = bodyLengthEnd + 1 + bodyLength ∧
      framing.messageEnd ≤ length := by
  unfold messageBoundaries at ok
  dsimp only at ok
  split at ok
  · cases ok
    cases success
  · rename_i inside
    obtain ⟨_, _, ok⟩ := bind_ok.mp ok
    cases ok
    refine ⟨rfl, ?_, ?_⟩ <;> dsimp only <;> omega

theorem findBodyLength_success
    (ok : findBodyLength memory maxMessageSize length start bodyLengthStart = .ok framing)
    (success : framing.result.status = .success) :
    ∃ digits, memory.Holds bodyLengthStart (digits ++ [soh]) ∧ digits ≠ [] ∧
      (∀ byte ∈ digits, isDigit byte = true) ∧ 0 < foldDigits digits ∧
      foldDigits digits ≤ wrapInt maxMessageSize ∧ framing.messageStart = start ∧
      framing.messageEnd = bodyLengthStart + digits.length + 1 + foldDigits digits ∧
      framing.messageEnd ≤ length := by
  obtain ⟨found, scanned, ok⟩ := bind_ok.mp ok
  cases found with
  | none =>
    cases ok
    cases success
  | some bodyLengthEnd =>
    obtain ⟨before, held, _, _, rfl⟩ := find_some_iff.mp scanned
    obtain ⟨parsed, read, ok⟩ := bind_ok.mp ok
    cases parsed with
    | none =>
      cases ok
      cases success
    | some bodyLength =>
      obtain ⟨digits, also, size, nonempty, all, rfl⟩ := parseInteger_some_iff.mp read
      have same : digits = before := by
        have short : digits.length = before.length := by omega
        exact also.eq_of_length held.left short
      subst same
      dsimp only at ok
      split at ok
      · cases ok
        cases success
      · rename_i range
        rw [not_or] at range
        obtain ⟨started, ended, inside⟩ := messageBoundaries_success ok success
        exact ⟨digits, held, nonempty, all, by omega, by omega, started, ended, inside⟩

theorem findBeginStringEnd_success (opened : memory.Holds start fixBeginString)
    (ok : findBeginStringEnd memory maxMessageSize length start = .ok framing)
    (success : framing.result.status = .success) :
    framing.messageStart = start ∧ framing.messageEnd ≤ length ∧
      ∃ version digits, FrameAt memory maxMessageSize start framing.messageEnd version digits := by
  obtain ⟨found, scanned, ok⟩ := bind_ok.mp ok
  cases found with
  | none =>
    cases ok
    cases success
  | some position =>
    obtain ⟨before, held, fresh, _, rfl⟩ := find_some_iff.mp scanned
    -- the first SOH comes after the whole of `8=FIX.4.4`, which has none
    obtain ⟨version, rfl⟩ : fixBeginString <+: before := by
      have long : fixBeginString.length ≤ before.length := by
        by_contra short
        have inside := (held.isPrefix opened (by rw [List.length_append]; simp; omega)).subset
        have member : soh ∈ fixBeginString := inside (by simp)
        exact absurd member (by decide)
      exact opened.isPrefix held.left long
    dsimp only at ok
    split at ok
    · cases ok
      cases success
    · obtain ⟨tagged, compared, ok⟩ := bind_ok.mp ok
      cases tagged with
      | false =>
        cases ok
        cases success
      | true =>
        have tag := startsAt_true_iff.mp compared
        obtain ⟨digits, value, nonempty, all, positive, bounded, started, ended, inside⟩ :=
          findBodyLength_success ok success
        refine ⟨started, inside, version, digits, ?_, ?_, nonempty, all, positive, bounded, ?_⟩
        · have field := holds_append.mpr ⟨tag, value⟩
          have all := holds_append.mpr ⟨held, by
            simpa [List.length_append, add_assoc] using field⟩
          simpa [List.append_assoc] using all
        · exact fun member => fresh (List.mem_append_right _ member)
        · rw [ended, List.length_append]
          have nine : fixBeginString.length = 9 := by decide
          push_cast
          omega

theorem findCompleteMessage_inversion {length : Nat}
    (ok : findCompleteMessage memory maxMessageSize length = .ok framing)
    (success : framing.result.status = .success) :
    ∃ start : Int, memory.search (ascii "8=") 0 length = .ok (some start) ∧
      memory.Holds start fixBeginString ∧
      findBeginStringEnd memory maxMessageSize length start = .ok framing := by
  unfold findCompleteMessage at ok
  split at ok
  · cases ok
    cases success
  · obtain ⟨found, searched, ok⟩ := bind_ok.mp ok
    cases found with
    | none =>
      cases ok
      cases success
    | some start =>
      dsimp only at ok
      split at ok
      · cases ok
        cases success
      · obtain ⟨matched, compared, ok⟩ := bind_ok.mp ok
        cases matched with
        | false =>
          obtain ⟨_, _, ok⟩ := bind_ok.mp ok
          cases ok
          cases success
        | true => exact ⟨start, searched, startsAt_true_iff.mp compared, ok⟩

theorem findCompleteMessage_search {length : Nat}
    (ok : findCompleteMessage memory maxMessageSize length = .ok framing)
    (success : framing.result.status = .success) :
    memory.search (ascii "8=") 0 length = .ok (some framing.messageStart) := by
  obtain ⟨start, searched, opened, ok⟩ := findCompleteMessage_inversion ok success
  rw [(findBeginStringEnd_success opened ok success).1]
  exact searched

theorem findCompleteMessage_success {length : Nat}
    (ok : findCompleteMessage memory maxMessageSize length = .ok framing)
    (success : framing.result.status = .success) :
    0 ≤ framing.messageStart ∧ framing.messageEnd ≤ length ∧
      ∃ version digits,
        FrameAt memory maxMessageSize framing.messageStart framing.messageEnd version digits := by
  obtain ⟨start, searched, opened, ok⟩ := findCompleteMessage_inversion ok success
  obtain ⟨_, low, _, _⟩ := search_some searched
  obtain ⟨started, inside, frame⟩ := findBeginStringEnd_success opened ok success
  rw [started]
  exact ⟨low, inside, frame⟩

theorem endsWithChecksum_total {messageEnd : Int} (inside : messageEnd ≤ length)
    (readable : memory.Readable 0 length) : Finishes (endsWithChecksum memory messageEnd) := by
  have three : (ascii "10=").length = 3 := by decide
  refine .ite (fun long => ?_) fun _ => .ok _
  refine (startsAt_total (readable.mono (by omega) (by omega))).bind fun _ _ => ?_
  refine .ite (fun _ => ?_) fun _ => .ok _
  exact (read_total readable (by omega) (by omega)).bind fun _ _ => .ok _

theorem messageBoundaries_total (readable : memory.Readable 0 length) :
    Finishes (messageBoundaries memory length start bodyLengthEnd bodyLength) := by
  refine .ite (fun _ => .ok _) fun inside => ?_
  exact (endsWithChecksum_total (by omega) readable).bind fun _ _ => .ok _

theorem findBodyLength_total (low : 0 ≤ bodyLengthStart) (readable : memory.Readable 0 length) :
    Finishes (findBodyLength memory maxMessageSize length start bodyLengthStart) := by
  refine (find_total (readable.mono low (le_refl _))).bind fun found scanned => ?_
  cases found with
  | none => exact .ok _
  | some bodyLengthEnd =>
    obtain ⟨before, _, _, inside, rfl⟩ := find_some_iff.mp scanned
    refine (parseInteger_total (readable.mono low (by omega))).bind fun parsed _ => ?_
    cases parsed with
    | none => exact .ok _
    | some bodyLength => exact .ite (fun _ => .ok _) fun _ => messageBoundaries_total readable

theorem findBeginStringEnd_total (low : 0 ≤ start) (readable : memory.Readable 0 length) :
    Finishes (findBeginStringEnd memory maxMessageSize length start) := by
  have two : (ascii "9=").length = 2 := by decide
  refine (find_total (readable.mono low (le_refl _))).bind fun found scanned => ?_
  cases found with
  | none => exact .ok _
  | some position =>
    obtain ⟨before, _, _, _, rfl⟩ := find_some_iff.mp scanned
    refine .ite (fun _ => .ok _) fun room => ?_
    refine (startsAt_total (readable.mono (by omega) (by omega))).bind fun _ _ => ?_
    exact .ite (fun _ => findBodyLength_total (by omega) readable) fun _ => .ok _

/-- Framing reads only the bytes it is given. -/
theorem findCompleteMessage_total {length : Nat} (readable : memory.Readable 0 length) :
    Finishes (findCompleteMessage memory maxMessageSize length) := by
  refine .ite (fun _ => .ok _) fun _ => ?_
  refine (search_total readable).bind fun found searched => ?_
  cases found with
  | none => exact .ok _
  | some start =>
    obtain ⟨_, low, _, _⟩ := search_some searched
    refine .ite (fun _ => .ok _) fun room => ?_
    have window : memory.Readable start (start + fixBeginString.length) :=
      readable.mono low (by omega)
    refine (startsAt_total window).bind fun _ _ => ?_
    refine .ite (fun _ => findBeginStringEnd_total low readable) fun _ => ?_
    exact (slice_total window).bind fun _ _ => .ok _

/-- A framing hands out no message and consumes at most the bytes it is given. -/
def Framing.Modest (length : Int) (framing : Framing) : Prop :=
  framing.result.parsedMessage = none ∧ (framing.result.bytesConsumed : Int) ≤ length

theorem messageBoundaries_modest (enough : 0 ≤ length) :
    Ensures (messageBoundaries memory length start bodyLengthEnd bodyLength)
      (Framing.Modest length) :=
  .ite (fun _ => .ok ⟨rfl, enough⟩) fun _ => .bind fun _ _ => .ok ⟨rfl, enough⟩

theorem findBodyLength_modest (low : 0 ≤ bodyLengthStart) (high : bodyLengthStart ≤ length) :
    Ensures (findBodyLength memory maxMessageSize length start bodyLengthStart)
      (Framing.Modest length) := by
  have position : (bodyLengthStart.toNat : Int) ≤ length := by omega
  have enough : 0 ≤ length := le_trans low high
  refine .bind fun found _ => ?_
  cases found with
  | none => exact .ok ⟨rfl, enough⟩
  | some bodyLengthEnd =>
    refine .bind fun parsed _ => ?_
    cases parsed with
    | none => exact .ok ⟨rfl, position⟩
    | some bodyLength =>
      exact .ite (fun _ => .ok ⟨rfl, position⟩) fun _ => messageBoundaries_modest enough

theorem findBeginStringEnd_modest (low : 0 ≤ start) (enough : 0 ≤ length) :
    Ensures (findBeginStringEnd memory maxMessageSize length start) (Framing.Modest length) := by
  refine .bind fun found scanned => ?_
  cases found with
  | none => exact .ok ⟨rfl, enough⟩
  | some position =>
    obtain ⟨before, _, _, _, rfl⟩ := find_some_iff.mp scanned
    refine .ite (fun _ => .ok ⟨rfl, enough⟩) fun room => .bind fun _ _ => ?_
    refine .ite (fun _ => findBodyLength_modest (by omega) (by omega)) fun _ => .ok ⟨rfl, ?_⟩
    change ((start + before.length + 1).toNat : Int) ≤ length
    omega

theorem findCompleteMessage_modest {length : Nat} :
    Ensures (findCompleteMessage memory maxMessageSize length) (Framing.Modest length) := by
  have enough : (0 : Int) ≤ length := Int.natCast_nonneg length
  refine .ite (fun _ => .ok ⟨rfl, enough⟩) fun _ => .bind fun found searched => ?_
  cases found with
  | none => exact .ok ⟨rfl, enough⟩
  | some start =>
    obtain ⟨_, low, before, _⟩ := search_some searched
    refine .ite (fun _ => .ok ⟨rfl, enough⟩) fun _ => .bind fun _ _ => ?_
    refine .ite (fun _ => findBeginStringEnd_modest low enough) fun _ => .bind fun _ _ => ?_
    refine .ok ⟨rfl, ?_⟩
    change (start.toNat : Int) ≤ length
    omega

end Reading

end FixGateway.Protocol
