import FixGateway.Protocol.ChecksumSeal

/-! # Three checks of one checksum

`verifyChecksum` compares the text of the checksum field with the zero-padded byte sum.
`validateMessageChecksum` reads three digits and the specialised decoders read what
`std::stoi` makes of the three bytes, and both truncate the number to a byte. So all three
accept the zero-padded sum, but the second also accepts a number that exceeds the sum by a
multiple of 256, and the third also accepts signs, blanks and trailing characters.
-/

namespace FixGateway.Protocol

open ByteScan

variable {front trailer : Bytes}

/-! ## Each check by itself -/

theorem verifyChecksum_withTrailer (noSoh : soh ∉ trailer)
    (last : rfind (ascii "10=") (withTrailer front trailer) = some front.length) :
    FixMessageUtils.verifyChecksum (withTrailer front trailer) = true ↔
      trailer = padded 3 (checksum front) :=
  (verifyChecksum_of_rfind noSoh last).trans eq_comm

/-- The check of a specialised decoder with the given end of the body accepts. -/
def OptimizedParser.AcceptsChecksum (decoder : OptimizedParser) (memory : Memory) (bodyEnd : Int)
    (message : FixMessage) : Prop :=
  ∃ accepted bytesConsumed detail, decoder.readChecksum true memory bodyEnd message =
    .ok (.success accepted bytesConsumed detail)

/-- A specialised decoder compares what `std::stoi` reads with the sum, modulo 256. -/
theorem acceptsChecksum_withTrailer {memory : Memory} (decoder : OptimizedParser)
    (message : FixMessage) (bound : front.length < 2 ^ 63) (three : trailer.length = 3)
    (held : memory.Holds 0 (withTrailer front trailer)) :
    decoder.AcceptsChecksum memory front.length message ↔
      ∃ received, stoi trailer = some received ∧ received % 256 = checksum front := by
  have label : (ascii "10=").length = 3 := by decide
  have field := held.right
  rw [zero_add] at field
  have read : memory.slice (front.length + 3) 3 = .ok trailer := by
    have value := field.right.left
    rw [label] at value
    exact Memory.slice_ok_iff.mpr ⟨value, three⟩
  have total := Memory.byteSum_wrapSize (by omega) held.left
  unfold OptimizedParser.AcceptsChecksum OptimizedParser.readChecksum
  simp only [if_true, Memory.startsAt_true field.left, bind, Except.bind, read, total]
  cases stoi trailer with
  | none =>
    constructor
    · rintro ⟨_, _, _, ⟨⟩⟩
    · rintro ⟨_, ⟨⟩, _⟩
  | some received =>
    by_cases agrees : received % 256 = checksum front
    · have same := (sum_eq_ofInt_iff front received).mpr agrees
      simp only [same, if_true]
      exact iff_of_true ⟨_, _, _, rfl⟩ ⟨received, rfl, agrees⟩
    · have differs := (sum_eq_ofInt_iff front received).not.mpr agrees
      simp only [differs, if_false]
      constructor
      · rintro ⟨_, _, _, ⟨⟩⟩
      · rintro ⟨_, ⟨⟩, also⟩
        exact absurd also agrees

/-! ## The checks together -/

/-- All three checks accept exactly the zero-padded byte sum, and so agree, as long as `std::stoi`
reads a number that is the sum modulo 256 from no other bytes. -/
theorem checksum_verdicts_agree_iff (bound : front.length < 2 ^ 63) (three : trailer.length = 3)
    (noSoh : soh ∉ trailer)
    (last : rfind (ascii "10=") (withTrailer front trailer) = some front.length)
    (outside : Memory) (decoder : OptimizedParser) (message : FixMessage) :
    let text := withTrailer front trailer
    let memory := Memory.overlay text outside
    ((FixMessageUtils.verifyChecksum text = true ↔ trailer = padded 3 (checksum front)) ∧
      (validateMessageChecksum memory 0 text.length = .ok true ↔
        trailer = padded 3 (checksum front)) ∧
      (decoder.AcceptsChecksum memory front.length message ↔ trailer = padded 3 (checksum front))) ↔
    ∀ received, stoi trailer = some received → received % 256 = checksum front →
      trailer = padded 3 (checksum front) := by
  have held := Memory.overlay_holds (withTrailer front trailer) outside
  have inline := acceptsChecksum_withTrailer decoder message bound three held
  have generic := validateMessageChecksum_withTrailer three held
  have small := checksum_lt front
  have own : trailer = padded 3 (checksum front) →
      (∀ byte ∈ trailer, isDigit byte = true) ∧ value trailer % 256 = checksum front := by
    rintro rfl
    rw [value_padded, Nat.mod_eq_of_lt small]
    exact ⟨fun _ => isDigit_of_mem_padded, rfl⟩
  have read : (∀ byte ∈ trailer, isDigit byte = true) ∧ value trailer % 256 = checksum front →
      ∃ received, stoi trailer = some received ∧ received % 256 = checksum front := by
    rintro ⟨numeric, agrees⟩
    have thousand := value_lt numeric
    rw [three] at thousand
    have filled : trailer ≠ [] := List.ne_nil_of_length_pos (by omega)
    exact ⟨value trailer, stoi_digits filled numeric (by omega), by omega⟩
  dsimp only
  rw [inline, generic, Except.ok.injEq, Bool.and_eq_true, List.all_eq_true, decide_eq_true_eq]
  constructor
  · rintro ⟨_, _, third⟩ received parsed agrees
    exact third.mp ⟨received, parsed, agrees⟩
  · intro exact_sum
    have only : (∃ received, stoi trailer = some received ∧ received % 256 = checksum front) →
        trailer = padded 3 (checksum front) := by
      rintro ⟨received, parsed, agrees⟩
      exact exact_sum received parsed agrees
    exact ⟨verifyChecksum_withTrailer noSoh last, ⟨only ∘ read, own⟩, ⟨only, read ∘ own⟩⟩

/-- A text with its own checksum. -/
theorem checksum_verdicts_agree_sealed :
    let text := withTrailer (ascii "8=FIX.4.4") (ascii "032")
    FixMessageUtils.verifyChecksum text = true ∧
      validateMessageChecksum (Memory.overlay text Memory.unmapped) 0 text.length = .ok true ∧
      OptimizedParser.heartbeat.AcceptsChecksum (Memory.overlay text Memory.unmapped)
        (ascii "8=FIX.4.4").length (FixMessage.new ⟨2024, 1, 2, 3, 4, 5, 6⟩) := by
  have own : ascii "032" = padded 3 (checksum (ascii "8=FIX.4.4")) := by decide
  have verdicts := (checksum_verdicts_agree_iff (by decide) (by decide) (by decide) (by decide)
    Memory.unmapped OptimizedParser.heartbeat (FixMessage.new ⟨2024, 1, 2, 3, 4, 5, 6⟩)).mpr
    fun _ _ _ => own
  exact ⟨verdicts.1.mpr own, verdicts.2.1.mpr own, verdicts.2.2.mpr own⟩

/-- The sum of the byte before the checksum field is 44, and 300 is 44 more than 256. -/
theorem checksum_verdicts_differ :
    let text := withTrailer (ascii ",") (ascii "300")
    FixMessageUtils.verifyChecksum text = false ∧
      validateMessageChecksum (Memory.overlay text Memory.unmapped) 0 text.length = .ok true ∧
      OptimizedParser.heartbeat.AcceptsChecksum (Memory.overlay text Memory.unmapped)
        (ascii ",").length (FixMessage.new ⟨2024, 1, 2, 3, 4, 5, 6⟩) :=
  ⟨by decide, rfl, _, _, _, rfl⟩

end FixGateway.Protocol
