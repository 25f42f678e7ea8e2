import Mathlib.Data.FinEnum
import FixGateway.Protocol.Parser.Fields

/-! # Reading numbers

`parseInteger` reads a BodyLength, a tag or a checksum digit by digit into an `int` and never looks
at how large it has become. It returns the value of the digits modulo `2 ^ 32`
(`parseInteger_overlay`), which is the value itself exactly as long as that is an `int`
(`parseInteger_exact_iff`).
-/

namespace FixGateway.Protocol

open ByteScan

/-- What a reader of `int`s should make of a byte string: the value of a decimal number that is an
`int`, and nothing of any other string. -/
def exactInteger (bytes : Bytes) : Option Int :=
  if bytes ≠ [] ∧ (∀ byte ∈ bytes, isDigit byte = true) ∧ value bytes ≤ 2 ^ 31 - 1 then
    some (value bytes)
  else none

/-- The reader as it is: the value of a digit string, wrapped around. -/
theorem parseInteger_overlay (bytes : Bytes) (outside : Memory) :
    parseInteger (Memory.overlay bytes outside) 0 bytes.length =
      .ok (if bytes ≠ [] ∧ ∀ byte ∈ bytes, isDigit byte = true then some (wrapInt (value bytes))
        else none) := by
  have held := Memory.overlay_holds bytes outside
  by_cases nonempty : bytes ≠ []
  · by_cases digits : ∀ byte ∈ bytes, isDigit byte = true
    · rw [if_pos ⟨nonempty, digits⟩]
      apply parseInteger_some_iff.mpr
      exact ⟨bytes, held, rfl, nonempty, digits, (foldDigits_eq bytes).symm⟩
    · rw [if_neg fun both => digits both.2]
      exact parseInteger_none held rfl digits
  · rw [if_neg fun both => nonempty both.1, not_ne_iff.mp nonempty]
    rfl

/-- The reader is exact unless the string is a decimal number that is no `int`. -/
theorem parseInteger_exact_iff (bytes : Bytes) :
    (∀ outside, parseInteger (Memory.overlay bytes outside) 0 bytes.length =
        .ok (exactInteger bytes)) ↔
      ¬ ((∀ byte ∈ bytes, isDigit byte = true) ∧ 2 ^ 31 ≤ value bytes) := by
  constructor
  · rintro reads ⟨digits, large⟩
    have nonempty : bytes ≠ [] := by
      rintro rfl
      exact absurd large (by decide)
    have read := reads Memory.unmapped
    rw [parseInteger_overlay, if_pos ⟨nonempty, digits⟩, exactInteger,
      if_neg fun all => by omega] at read
    cases read
  · intro small outside
    rw [parseInteger_overlay, exactInteger]
    by_cases digits : bytes ≠ [] ∧ ∀ byte ∈ bytes, isDigit byte = true
    · have limit : value bytes < 2 ^ 31 := by
        by_contra large
        exact small ⟨digits.2, Nat.le_of_not_lt large⟩
      rw [if_pos digits, if_pos ⟨digits.1, digits.2, by omega⟩,
        wrapInt_of_bounds (by omega) (by omega)]
    · rw [if_neg digits, if_neg fun all => digits ⟨all.1, all.2.1⟩]

/-- A message with five bytes of body whose BodyLength is written as `2 ^ 32 + 5`. -/
def overlongFrame : Bytes :=
  ascii "8=FIX.4.4" ++ [soh] ++ ascii "9=4294967301" ++ [soh] ++ ascii "35=0" ++ [soh]

/-- The tag of a field that was found. -/
def FieldScan.tag : FieldScan → Option Int
  | .field tag _ _ => some tag
  | .malformed _ => none

/-- The number `2 ^ 32 + 5` is read as 5, and framing takes it for the length of a body. The tag
`2 ^ 32 + 35` is stored as 35, and the number after the largest `int` is read as the smallest. -/
theorem overlong_number_accepted :
    exactInteger (ascii "4294967301") = none ∧
      parseInteger (Memory.overlay (ascii "4294967301") Memory.unmapped) 0 10 = .ok (some 5) ∧
      parseInteger (Memory.overlay (ascii "2147483648") Memory.unmapped) 0 10 =
        .ok (some (-2147483648)) ∧
      (findCompleteMessage (Memory.overlay overlongFrame Memory.unmapped) 8192
        overlongFrame.length).toOption.map (fun framing =>
          (framing.result.status, framing.messageEnd)) = some (.success, 28) ∧
      (scanField (Memory.overlay (ascii "4294967331=0" ++ [soh]) Memory.unmapped) 13
        0).toOption.bind FieldScan.tag = some 35 := by
  refine ⟨?_, ?_, ?_, ?_, ?_⟩ <;> decide +kernel

end FixGateway.Protocol
