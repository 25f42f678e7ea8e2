import FixGateway.Protocol.Checksum
import FixGateway.Protocol.Parser.Decode

/-! # What the checksum protects

Two functions check a checksum. `FixMessageUtils::verifyChecksum` looks for the last `10=`,
and `StreamFixParser::validateMessageChecksum` takes the last seven bytes. On a text that
ends with a checksum field both compare the byte sum of what comes before with the number
in the field, so that both accept the text that `FixMessageUtils::calculateChecksum`
completes, and both reject it after any change of one byte before the field.
-/

namespace FixGateway.Protocol

open ByteScan

variable {front trailer : Bytes} {memory : Memory} {number : Nat}

/-- A text with the given bytes in its checksum field. -/
def withTrailer (front trailer : Bytes) : Bytes := front ++ (ascii "10=" ++ (trailer ++ [soh]))

theorem length_withTrailer (three : trailer.length = 3) :
    (withTrailer front trailer).length = front.length + 7 := by
  have label : (ascii "10=").length = 3 := by decide
  rw [withTrailer, List.length_append, List.length_append, List.length_append, label, three]
  rfl

/-- `validateMessageChecksum` compares a number of three digits with the sum, modulo 256. -/
theorem validateMessageChecksum_withTrailer
    (three : trailer.length = 3) (held : memory.Holds 0 (withTrailer front trailer)) :
    validateMessageChecksum memory 0 (withTrailer front trailer).length =
      .ok (trailer.all isDigit && decide (value trailer % 256 = checksum front)) := by
  have label : (ascii "10=").length = 3 := by decide
  have field := held.right
  rw [zero_add] at field
  have digits := field.right.left
  rw [label] at digits
  have position : (0 : Int) + (front.length + 7 : Nat) - 7 = front.length := by omega
  unfold validateMessageChecksum
  rw [length_withTrailer three, if_neg (by omega)]
  dsimp only
  rw [position, Nat.add_sub_cancel, Memory.startsAt_true field.left, Memory.byteSum_eq held.left]
  by_cases numeric : ∀ byte ∈ trailer, isDigit byte = true
  · have small := value_lt numeric
    rw [three] at small
    have parsed : parseInteger memory (front.length + 3) 3 = .ok (some (value trailer : Int)) :=
      parseInteger_some_iff.mpr ⟨trailer, digits, three, List.ne_nil_of_length_pos (by omega),
        numeric, (foldDigits_of_lt (by omega)).symm⟩
    have same : (value trailer : Int) % 256 = checksum front ↔
        value trailer % 256 = checksum front := by omega
    simp only [bind, Except.bind, if_true, parsed, zero_add, sum_eq_ofInt_iff, same]
    rw [List.all_eq_true.mpr numeric, Bool.true_and]
  · have parsed : parseInteger memory (front.length + 3) 3 = .ok none :=
      parseInteger_none digits three numeric
    simp only [bind, Except.bind, if_true, parsed]
    rw [Bool.eq_false_iff.mpr (mt List.all_eq_true.mp numeric), Bool.false_and]

/-- A text with a checksum field that holds the given number. -/
def withCheckSum (front : Bytes) (number : Nat) : Bytes :=
  front ++ (ascii "10=" ++ (padded 3 number ++ [soh]))

/-- A text with the checksum field that `calculateChecksum` gives it. -/
def sealedText (front : Bytes) : Bytes :=
  front ++ (ascii "10=" ++ (FixMessageUtils.calculateChecksum front ++ [soh]))

theorem sealedText_eq (front : Bytes) : sealedText front = withCheckSum front (checksum front) :=
  rfl

/-- Changing a byte before the checksum field leaves the field as it is. -/
theorem set_withCheckSum {index : Nat} (inside : index < front.length) (byte : UInt8) :
    (withCheckSum front number).set index byte = withCheckSum (front.set index byte) number :=
  List.set_append_left index byte inside

theorem verifyChecksum_withCheckSum (front : Bytes) (number : Nat) :
    FixMessageUtils.verifyChecksum (withCheckSum front number) =
      decide (checksum front = number) := by
  rw [Bool.eq_iff_iff, decide_eq_true_eq]
  unfold withCheckSum
  rw [verifyChecksum_iff front fun _ member => isDigit_of_mem_padded member]
  exact (padded_injective 3).eq_iff

theorem validateMessageChecksum_withCheckSum
    (small : number < 256) (held : memory.Holds 0 (withCheckSum front number)) :
    validateMessageChecksum memory 0 (withCheckSum front number).length =
      .ok (decide (checksum front = number)) := by
  have three : (padded 3 number).length = 3 := length_padded (by decide) (by omega)
  have numeric : (padded 3 number).all isDigit = true :=
    List.all_eq_true.mpr fun _ => isDigit_of_mem_padded
  have read := validateMessageChecksum_withTrailer three held
  rw [value_padded, Nat.mod_eq_of_lt small, numeric, Bool.true_and,
    decide_eq_decide.mpr eq_comm] at read
  exact read

/-- Both checks accept a text with its own checksum and reject it after any change of one byte
before the checksum field. -/
theorem checksum_exposes_change (front : Bytes) :
    (FixMessageUtils.verifyChecksum (sealedText front) = true ∧
      ∀ outside, validateMessageChecksum (Memory.overlay (sealedText front) outside) 0
        (sealedText front).length = .ok true) ∧
    ∀ (index : Nat) (inside : index < front.length) (byte : UInt8), byte ≠ front[index] →
      let changed := (sealedText front).set index byte
      FixMessageUtils.verifyChecksum changed = false ∧
        ∀ outside, validateMessageChecksum (Memory.overlay changed outside) 0 changed.length =
          .ok false := by
  have small := checksum_lt front
  rw [sealedText_eq]
  constructor
  · refine ⟨?_, fun outside => ?_⟩
    · rw [verifyChecksum_withCheckSum, decide_eq_true rfl]
    · rw [validateMessageChecksum_withCheckSum small (Memory.overlay_holds _ outside),
        decide_eq_true rfl]
  · intro index inside byte differs
    have wrong := checksum_set_ne inside differs
    rw [set_withCheckSum inside]
    refine ⟨?_, fun outside => ?_⟩
    · rw [verifyChecksum_withCheckSum, decide_eq_false wrong]
    · rw [validateMessageChecksum_withCheckSum small (Memory.overlay_holds _ outside),
        decide_eq_false wrong]

/-- A text in which there is a `10=` before the checksum field. -/
theorem checksum_exposes_change_imitated :
    FixMessageUtils.verifyChecksum (sealedText (ascii "10=000")) = true ∧
      FixMessageUtils.verifyChecksum ((sealedText (ascii "10=000")).set 3 49) = false :=
  ⟨(checksum_exposes_change (ascii "10=000")).1.1,
    ((checksum_exposes_change (ascii "10=000")).2 3 (by decide) 49 (by decide)).1⟩

end FixGateway.Protocol
