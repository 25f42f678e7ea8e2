import FixGateway.Memory.Scan
import Mathlib.Data.List.TakeWhile
import Mathlib.Data.Nat.Digits.Lemmas

/-! # Numbers as machine words and as decimal text

Fixed-width integers are integers reduced after every operation (`wrapInt` for
a 32-bit `int`, `wrapSize` for a 64-bit `size_t`). `decimal` writes a number
without leading zeros and `value` reads a digit string back; `stoi` is the
standard library's reader of signed decimal text, with its exceptions as
`none`. Reading digits with 32-bit wrap-around gives the wrapped value of the
whole string (`foldDigits_eq`).
-/

namespace ByteScan

variable {number : Nat} {byte : UInt8} {digits : Bytes}

/-- Two's complement reduction to a 32-bit signed integer. -/
def wrapInt (number : Int) : Int := Int.bmod number (2 ^ 32)

/-- Reduction to a 64-bit unsigned integer. -/
def wrapSize (number : Int) : Nat := (number % 2 ^ 64).toNat

theorem wrapInt_of_bounds {number : Int} (low : -2 ^ 31 ≤ number) (high : number < 2 ^ 31) :
    wrapInt number = number := by
  unfold wrapInt
  apply Int.bmod_eq_of_le <;> omega

theorem wrapInt_bounds (number : Int) : -2 ^ 31 ≤ wrapInt number ∧ wrapInt number < 2 ^ 31 := by
  unfold wrapInt
  have low := Int.le_bmod (x := number) (m := 2 ^ 32) (by decide)
  have high := Int.bmod_lt (x := number) (m := 2 ^ 32) (by decide)
  constructor <;> omega

/-- A count that wrapping around does not make smaller is not changed by it. -/
theorem wrapInt_eq_of_le (grown : (number : Int) ≤ wrapInt number) : wrapInt number = number := by
  have limit := (wrapInt_bounds number).2
  apply wrapInt_of_bounds <;> omega

theorem wrapInt_succ (number : Int) : wrapInt (wrapInt number + 1) = wrapInt (number + 1) := by
  unfold wrapInt
  rw [Int.bmod_add_bmod]

theorem wrapInt_step (number digit : Int) :
    wrapInt (wrapInt number * 10 + digit) = wrapInt (number * 10 + digit) := by
  unfold wrapInt
  rw [← Int.bmod_add_bmod, Int.bmod_mul_bmod, Int.bmod_add_bmod]

theorem wrapSize_of_bounds {number : Int} (low : 0 ≤ number) (high : number < 2 ^ 64) :
    wrapSize number = number.toNat := by
  unfold wrapSize
  rw [Int.emod_eq_of_lt low high]

theorem wrapSize_lt (number : Int) : wrapSize number < 2 ^ 64 := by
  unfold wrapSize
  omega

theorem wrapSize_cast (number : Int) : (wrapSize number : Int) = number % 2 ^ 64 :=
  Int.toNat_of_nonneg (Int.emod_nonneg _ (by decide))

theorem wrapSize_add (number more : Int) :
    wrapSize (wrapSize number + more) = wrapSize (number + more) := by
  rw [wrapSize, wrapSize_cast, Int.emod_add_emod]
  rfl

/-- The difference of two counters is not affected by their wrapping around. -/
theorem wrapSize_sub (first second : Int) :
    wrapSize (wrapSize first - wrapSize second) = wrapSize (first - second) := by
  rw [wrapSize, wrapSize_cast, wrapSize_cast, ← Int.sub_emod]
  rfl

/-! ## Digits -/

/-- ASCII decimal digits. -/
def isDigit (byte : UInt8) : Bool := 48 ≤ byte && byte ≤ 57

/-- The number a digit stands for. -/
def digitValue (byte : UInt8) : Nat := byte.toNat - 48

/-- The digit of a number below ten. -/
def digitByte (digit : Nat) : UInt8 := UInt8.ofNat (48 + digit)

/-- The number a digit string stands for. -/
def value (digits : Bytes) : Nat := digits.foldl (fun sum byte => sum * 10 + digitValue byte) 0

/-- Decimal text of a number, without leading zeros. -/
def decimal (number : Nat) : Bytes :=
  if number = 0 then [48] else ((Nat.digits 10 number).map digitByte).reverse

/-- Decimal text of a signed number. -/
def signedDecimal : Int → Bytes
  | .ofNat number => decimal number
  | .negSucc number => 45 :: decimal (number + 1)

/-- Decimal text filled up with zeros on the left. -/
def padded (width number : Nat) : Bytes := (decimal number).leftpad width 48

theorem isDigit_iff : isDigit byte = true ↔ 48 ≤ byte.toNat ∧ byte.toNat ≤ 57 := by
  simp [isDigit, UInt8.le_iff_toNat_le]

theorem digitByte_toNat {digit : Nat} (small : digit < 10) :
    (digitByte digit).toNat = 48 + digit := by
  unfold digitByte
  rw [UInt8.toNat_ofNat_of_lt' (by change 48 + digit < 256; omega)]

theorem isDigit_digitByte {digit : Nat} (small : digit < 10) :
    isDigit (digitByte digit) = true := by
  rw [isDigit_iff, digitByte_toNat small]
  omega

theorem digitValue_digitByte {digit : Nat} (small : digit < 10) :
    digitValue (digitByte digit) = digit := by
  rw [digitValue, digitByte_toNat small]
  omega

theorem value_append_singleton (digits : Bytes) (byte : UInt8) :
    value (digits ++ [byte]) = value digits * 10 + digitValue byte := by
  simp [value, List.foldl_append]

/-- So many digits write a number below that power of ten. -/
theorem value_lt (all : ∀ byte ∈ digits, isDigit byte = true) :
    value digits < 10 ^ digits.length := by
  induction digits using List.reverseRecOn with
  | nil => decide
  | append_singleton digits byte ih =>
    rw [List.forall_mem_append] at all
    have front := ih all.1
    have last := isDigit_iff.mp (all.2 byte (List.mem_singleton_self byte))
    rw [value_append_singleton, List.length_append, List.length_singleton, Nat.pow_succ, digitValue]
    omega

theorem decimal_of_lt (small : number < 10) : decimal number = [digitByte number] := by
  unfold decimal
  split
  · rename_i zero
    rw [zero]
    rfl
  · rename_i positive
    rw [Nat.digits_of_lt 10 number positive small]
    rfl

/-- The last digit of a number stands after the text of its quotient by ten. -/
theorem decimal_of_le (large : 10 ≤ number) :
    decimal number = decimal (number / 10) ++ [digitByte (number % 10)] := by
  have positive : number ≠ 0 := by omega
  have quotient : number / 10 ≠ 0 := by omega
  unfold decimal
  rw [if_neg positive, if_neg quotient, Nat.digits_def' (by decide) (by omega), List.map_cons,
    List.reverse_cons]

theorem decimal_ne_nil (number : Nat) : decimal number ≠ [] := by
  by_cases small : number < 10
  · rw [decimal_of_lt small]
    exact List.cons_ne_nil _ _
  · rw [decimal_of_le (by omega)]
    exact List.append_ne_nil_of_right_ne_nil _ (List.cons_ne_nil _ _)

theorem isDigit_of_mem_decimal (member : byte ∈ decimal number) : isDigit byte = true := by
  induction number using Nat.strong_induction_on with
  | _ number ih =>
    by_cases small : number < 10
    · rw [decimal_of_lt small, List.mem_singleton] at member
      rw [member]
      exact isDigit_digitByte small
    · rw [decimal_of_le (by omega), List.mem_append, List.mem_singleton] at member
      obtain earlier | last := member
      · exact ih (number / 10) (by omega) earlier
      · rw [last]
        exact isDigit_digitByte (Nat.mod_lt _ (by decide))

/-- Reading the decimal text of a number gives the number back. -/
theorem value_decimal (number : Nat) : value (decimal number) = number := by
  induction number using Nat.strong_induction_on with
  | _ number ih =>
    by_cases small : number < 10
    · rw [decimal_of_lt small]
      simp [value, digitValue_digitByte small]
    · rw [decimal_of_le (by omega), value_append_singleton, ih (number / 10) (by omega),
        digitValue_digitByte (Nat.mod_lt _ (by decide))]
      omega

/-- Only the text of zero starts with a zero. -/
theorem decimal_head (zero : (decimal number).head? = some 48) : decimal number = [48] := by
  induction number using Nat.strong_induction_on with
  | _ number ih =>
    by_cases small : number < 10
    · rw [decimal_of_lt small, List.head?_cons, Option.some_inj] at zero
      rw [decimal_of_lt small, zero]
    · have quotient := decimal_of_le (Nat.le_of_not_lt small)
      rw [quotient, List.head?_append_of_ne_nil _ (decimal_ne_nil _)] at zero
      -- the quotient would have the text of zero, so it would be zero
      have same := congrArg value (ih (number / 10) (by omega) zero)
      rw [value_decimal] at same
      have none : number / 10 = 0 := same
      omega

theorem decimal_injective : Function.Injective decimal := fun first second same => by
  rw [← value_decimal first, same, value_decimal]

theorem length_decimal_le {width : Nat} (positive : 0 < width) (small : number < 10 ^ width) :
    (decimal number).length ≤ width := by
  induction width generalizing number with
  | zero => exact absurd positive (Nat.lt_irrefl 0)
  | succ width ih =>
    by_cases short : number < 10
    · rw [decimal_of_lt short, List.length_singleton]
      omega
    · have quotient : number / 10 < 10 ^ width := by
        rw [pow_succ] at small
        omega
      have room : 0 < width := by
        by_contra none
        have zero : width = 0 := by omega
        rw [zero] at quotient
        omega
      rw [decimal_of_le (by omega), List.length_append, List.length_singleton]
      exact Nat.succ_le_succ (ih room quotient)

/-- Zero-padded text has the width it is padded to. -/
theorem length_padded {width : Nat} (positive : 0 < width) (small : number < 10 ^ width) :
    (padded width number).length = width := by
  unfold padded
  rw [List.length_leftpad]
  exact Nat.max_eq_left (length_decimal_le positive small)

theorem isDigit_of_mem_padded {width : Nat} (member : byte ∈ padded width number) :
    isDigit byte = true := by
  unfold padded List.leftpad at member
  obtain zero | digit := List.mem_append.mp member
  · rw [(List.mem_replicate.mp zero).2]
    decide
  · exact isDigit_of_mem_decimal digit

/-- Leading zeros do not change the value. -/
theorem value_padded (width number : Nat) : value (padded width number) = number := by
  have zeros : ∀ (count : Nat) (digits : Bytes),
      value (List.replicate count 48 ++ digits) = value digits := by
    intro count digits
    induction count with
    | zero => rfl
    | succ count ih => exact ih
  unfold padded List.leftpad
  rw [zeros, value_decimal]

theorem padded_injective (width : Nat) : Function.Injective (padded width) :=
  fun first second same => by rw [← value_padded width first, same, value_padded]

/-- Accumulating digits with 32-bit wrap-around at every step. -/
def foldDigits (digits : Bytes) : Int :=
  digits.foldl (fun sum byte => wrapInt (sum * 10 + digitValue byte)) 0

/-- Wrapping at every step is wrapping once at the end. -/
theorem foldDigits_eq (digits : Bytes) : foldDigits digits = wrapInt (value digits) := by
  induction digits using List.reverseRecOn with
  | nil => decide
  | append_singleton digits byte ih =>
    have step : foldDigits (digits ++ [byte]) =
        wrapInt (foldDigits digits * 10 + digitValue byte) := by
      simp [foldDigits, List.foldl_append]
    rw [step, ih, wrapInt_step, value_append_singleton]
    push_cast
    rfl

theorem foldDigits_of_lt (small : value digits < 2 ^ 31) : foldDigits digits = value digits := by
  rw [foldDigits_eq]
  apply wrapInt_of_bounds <;> omega

/-! ## Byte sums -/

/-- The sum of all bytes modulo 256. -/
def checksum (bytes : Bytes) : Nat := (bytes.map UInt8.toNat).sum % 256

/-- Adding bytes as machine words gives their sum modulo 256. -/
theorem toNat_sum (bytes : Bytes) : bytes.sum.toNat = checksum bytes := by
  induction bytes with
  | nil => rfl
  | cons byte bytes ih =>
    unfold checksum at ih ⊢
    rw [List.sum_cons, UInt8.toNat_add, ih, List.map_cons, List.sum_cons]
    omega

/-- Truncation of a number to a byte. -/
theorem natCast_toNat_ofInt (number : Int) : ((UInt8.ofInt number).toNat : Int) = number % 256 := by
  have small : (number % 2 ^ 8).toNat < 2 ^ 8 := by omega
  unfold UInt8.ofInt
  rw [UInt8.toNat_ofNat_of_lt' small]
  omega

theorem toNat_ofInt (number : Nat) : (UInt8.ofInt number).toNat = number % 256 := by
  have same := natCast_toNat_ofInt number
  omega

/-- A byte sum agrees with a truncated number exactly if they agree modulo 256. -/
theorem sum_eq_ofInt_iff (bytes : Bytes) (number : Int) :
    bytes.sum = UInt8.ofInt number ↔ number % 256 = checksum bytes := by
  rw [← UInt8.toNat_inj, toNat_sum, ← Int.natCast_inj, natCast_toNat_ofInt, eq_comm]

/-- One byte more or less in a sum cannot be made up for by another one. -/
theorem checksum_set_ne {bytes : Bytes} {index : Nat} (inside : index < bytes.length)
    (changed : byte ≠ bytes[index]) : checksum (bytes.set index byte) ≠ checksum bytes := by
  intro same
  rw [← toNat_sum, ← toNat_sum, UInt8.toNat_inj] at same
  have old : bytes = bytes.take index ++ bytes[index] :: bytes.drop (index + 1) := by
    rw [List.getElem_cons_drop, List.take_append_drop]
  have new := List.set_eq_take_append_cons_drop (l := bytes) (i := index) (a := byte)
  rw [if_pos inside] at new
  rw [new] at same
  nth_rewrite 3 [old] at same
  rw [List.sum_append, List.sum_append, List.sum_cons, List.sum_cons] at same
  exact changed (add_right_cancel (add_left_cancel same))

theorem checksum_lt (bytes : Bytes) : checksum bytes < 256 := Nat.mod_lt _ (by decide)

/-! ## Signed decimal text -/

/-- White space of the C locale. -/
def isSpace (byte : UInt8) : Bool := byte = 32 || (9 ≤ byte && byte ≤ 13)

/-- The sign of a number text, and what follows it. -/
def splitSign : Bytes → Bool × Bytes
  | [] => (false, [])
  | byte :: rest => if byte = 45 then (true, rest) else if byte = 43 then (false, rest)
      else (false, byte :: rest)

/-- `std::stoi`: skip white space, read a sign and the longest run of digits, and
ignore the rest. `none` stands for the exceptions it throws when there is no
digit or the number is not an `int`. -/
def stoi (text : Bytes) : Option Int :=
  let signed := splitSign (text.dropWhile isSpace)
  let digits := signed.2.takeWhile isDigit
  let number : Int := if signed.1 then -(value digits : Int) else value digits
  if digits = [] then none
  else if -2 ^ 31 ≤ number ∧ number < 2 ^ 31 then some number else none

/-- `stoi` returns an `int`. -/
theorem stoi_bounds {text : Bytes} {number : Int} (read : stoi text = some number) :
    -2 ^ 31 ≤ number ∧ number < 2 ^ 31 := by
  unfold stoi at read
  dsimp only at read
  rw [Option.ite_none_left_eq_some, Option.ite_none_right_eq_some, Option.some_inj] at read
  obtain ⟨-, fits, same⟩ := read
  rw [← same]
  exact fits

/-- White space and signs are no digits. -/
theorem isDigit_plain (digit : isDigit byte = true) :
    isSpace byte = false ∧ byte ≠ 45 ∧ byte ≠ 43 := by
  have range := isDigit_iff.mp digit
  refine ⟨?_, ?_, ?_⟩
  · rw [Bool.eq_false_iff, Ne]
    simp only [isSpace, Bool.or_eq_true, Bool.and_eq_true, decide_eq_true_eq,
      UInt8.le_iff_toNat_le, ← UInt8.toNat_inj]
    change ¬(byte.toNat = 32 ∨ 9 ≤ byte.toNat ∧ byte.toNat ≤ 13)
    omega
  · rintro rfl
    exact absurd range (by decide)
  · rintro rfl
    exact absurd range (by decide)

/-- Text of decimal digits only is read as its value. -/
theorem stoi_digits (nonempty : digits ≠ []) (all : ∀ byte ∈ digits, isDigit byte = true)
    (small : value digits < 2 ^ 31) : stoi digits = some (value digits : Int) := by
  obtain ⟨head, rest, rfl⟩ := List.exists_cons_of_ne_nil nonempty
  obtain ⟨unspaced, noMinus, noPlus⟩ := isDigit_plain (all head List.mem_cons_self)
  have run : (head :: rest).takeWhile isDigit = head :: rest := List.takeWhile_eq_self_iff.mpr all
  unfold stoi
  rw [List.dropWhile_cons_of_neg (by simp [unspaced])]
  simp only [splitSign, noMinus, noPlus, if_false, run, Bool.false_eq_true, List.cons_ne_nil]
  rw [if_pos (by constructor <;> omega)]

/-- The decimal text of an `int` is read as the number. -/
theorem stoi_signedDecimal {number : Int} (low : -2 ^ 31 ≤ number) (high : number < 2 ^ 31) :
    stoi (signedDecimal number) = some number := by
  cases number with
  | ofNat number =>
    have same : value (decimal number) = number := value_decimal number
    have read := stoi_digits (decimal_ne_nil number) (fun _ => isDigit_of_mem_decimal)
      (by rw [same]; simp at high; omega)
    rw [same] at read
    exact read
  | negSucc number =>
    have same : value (decimal (number + 1)) = number + 1 := value_decimal (number + 1)
    have run : (decimal (number + 1)).takeWhile isDigit = decimal (number + 1) :=
      List.takeWhile_eq_self_iff.mpr fun _ => isDigit_of_mem_decimal
    have negated : -((number + 1 : Nat) : Int) = Int.negSucc number := rfl
    have unspaced : ¬ isSpace 45 = true := by decide
    unfold stoi signedDecimal
    rw [List.dropWhile_cons_of_neg unspaced]
    simp only [splitSign, if_true, run, same, decimal_ne_nil, if_false, negated]
    rw [if_pos ⟨low, high⟩]

/-- The text is the canonical decimal of the number: digits without leading zeros, with a minus sign
in front of them exactly if the number is negative. -/
def CanonicalDecimal (number : Int) (text : Bytes) : Prop :=
  ∃ digits : Bytes, text = (if number < 0 then [45] else []) ++ digits ∧ digits ≠ [] ∧
    (∀ byte ∈ digits, isDigit byte = true) ∧ value digits = number.natAbs ∧
    (digits.head? = some 48 → digits = [48])

theorem signedDecimal_canonical (number : Int) :
    CanonicalDecimal number (signedDecimal number) := by
  cases number with
  | ofNat number =>
    have positive : ¬ Int.ofNat number < 0 := Int.not_lt_of_ge (Int.natCast_nonneg number)
    refine ⟨decimal number, ?_, decimal_ne_nil number, fun _ => isDigit_of_mem_decimal,
      value_decimal number, decimal_head⟩
    rw [if_neg positive]
    rfl
  | negSucc number =>
    refine ⟨decimal (number + 1), ?_, decimal_ne_nil _, fun _ => isDigit_of_mem_decimal,
      value_decimal (number + 1), decimal_head⟩
    rw [if_pos (Int.negSucc_lt_zero number)]
    rfl

/-- The bytes of a decimal text. -/
theorem mem_signedDecimal {number : Int} (member : byte ∈ signedDecimal number) :
    isDigit byte = true ∨ byte = 45 := by
  cases number with
  | ofNat number => exact .inl (isDigit_of_mem_decimal member)
  | negSucc number =>
    obtain sign | digit := List.mem_cons.mp member
    · exact .inr sign
    · exact .inl (isDigit_of_mem_decimal digit)

end ByteScan
