import FixGateway.Memory.Number

/-! # Fast integer formatting

`integer_to_string_internal` writes the digits of a number from the right end of
a 32-byte buffer to the left. On every `int` it writes the canonical decimal
text (`intToString_eq`).

`integerToStringInternal` is the text that is returned. `integerToStringInto` works on
the buffer, where a write outside it is a fault; it returns a view of the same text and
writes nothing outside (`integerToStringInto_eq`).
-/

namespace FixGateway.Utils.FastStringConversion

open ByteScan

variable {number : Int}

/-- `INT_BUFFER_SIZE`. -/
def intBufferSize : Nat := 32

/-- The digit loop: put the last digit in front of `text` and go on with the
quotient, as long as the buffer has `room`. -/
def extractDigits : Nat → Nat → Bytes → Bytes
  | 0, _, text => text
  | room + 1, number, text =>
    if 0 < number then extractDigits room (number / 10) (digitByte (number % 10) :: text)
    else text

/-- `integer_to_string_internal` for a signed type with the given minimum, which
is formatted by `snprintf`. -/
def integerToStringInternal (minimum number : Int) : Bytes :=
  if number = 0 then ascii "0"
  else if number < 0 then
    if number = minimum then signedDecimal number
    else 45 :: extractDigits (intBufferSize - 1) (-number).toNat []
  else extractDigits (intBufferSize - 1) number.toNat []

/-- `int_to_string`. -/
def intToString (number : Int) : Bytes := integerToStringInternal (-2 ^ 31) number

/-- With enough room the digit loop writes the decimal text of a positive number. -/
theorem extractDigits_eq {room number : Nat} {text : Bytes} (positive : 0 < number)
    (small : number < 10 ^ room) : extractDigits room number text = decimal number ++ text := by
  induction room generalizing number text with
  | zero =>
    rw [pow_zero] at small
    omega
  | succ room ih =>
    rw [extractDigits, if_pos positive]
    by_cases short : number < 10
    · have done : ∀ text, extractDigits room 0 text = text := by
        intro text
        cases room with
        | zero => rfl
        | succ room => rfl
      rw [decimal_of_lt short, Nat.div_eq_of_lt short, Nat.mod_eq_of_lt short, done]
      rfl
    · have quotient : number / 10 < 10 ^ room := by
        rw [pow_succ] at small
        omega
      have large : 10 ≤ number := by omega
      rw [ih (by omega) quotient, decimal_of_le large, List.append_assoc]
      rfl

/-- A number of at most as many digits as the buffer has room for is written in full. -/
theorem integerToStringInternal_eq (minimum : Int)
    (small : number.natAbs < 10 ^ (intBufferSize - 1)) :
    integerToStringInternal minimum number = signedDecimal number := by
  cases number with
  | ofNat number =>
    cases number with
    | zero => rfl
    | succ number =>
      have nonzero : ¬ Int.ofNat (number + 1) = 0 := by
        rw [Int.ofNat_eq_natCast]
        omega
      have positive : ¬ Int.ofNat (number + 1) < 0 := by
        rw [Int.ofNat_eq_natCast]
        omega
      rw [integerToStringInternal, if_neg nonzero, if_neg positive]
      change extractDigits _ (number + 1) [] = decimal (number + 1)
      rw [extractDigits_eq (Nat.succ_pos _) small, List.append_nil]
  | negSucc number =>
    have nonzero : ¬ Int.negSucc number = 0 := by simp
    rw [integerToStringInternal, if_neg nonzero, if_pos (Int.negSucc_lt_zero _)]
    by_cases least : Int.negSucc number = minimum
    · rw [if_pos least]
    · rw [if_neg least]
      change 45 :: extractDigits _ (number + 1) [] = 45 :: decimal (number + 1)
      rw [extractDigits_eq (Nat.succ_pos _) small, List.append_nil]

theorem intToString_eq (low : -2 ^ 31 ≤ number) (high : number < 2 ^ 31) :
    intToString number = signedDecimal number := by
  have bound : (2 : Nat) ^ 31 < 10 ^ (intBufferSize - 1) := by decide
  apply integerToStringInternal_eq
  omega

/-! ## The buffer -/

/-- The types that `integer_to_string_internal` is instantiated for. -/
inductive IntegerType where
  | int
  | long
  | unsignedInt
  deriving DecidableEq, Repr

namespace IntegerType

variable {type : IntegerType} {number : Int}

/-- `std::is_signed_v`. -/
def isSigned : IntegerType → Bool
  | .int | .long => true
  | .unsignedInt => false

/-- `std::numeric_limits<T>::min()`. -/
def minimum : IntegerType → Int
  | .int => -2 ^ 31
  | .long => -2 ^ 63
  | .unsignedInt => 0

def maximum : IntegerType → Int
  | .int => 2 ^ 31 - 1
  | .long => 2 ^ 63 - 1
  | .unsignedInt => 2 ^ 32 - 1

/-- The number is a value of the type. -/
def Represents (type : IntegerType) (number : Int) : Prop :=
  type.minimum ≤ number ∧ number ≤ type.maximum

theorem Represents.small (represents : type.Represents number) : number.natAbs < 10 ^ 20 := by
  obtain ⟨low, high⟩ := represents
  cases type with
  | int =>
    simp only [minimum, maximum] at low high
    omega
  | long =>
    simp only [minimum, maximum] at low high
    omega
  | unsignedInt =>
    simp only [minimum, maximum] at low high
    omega

theorem Represents.isSigned (represents : type.Represents number) (negative : number < 0) :
    type.isSigned = true := by
  cases type with
  | int => rfl
  | long => rfl
  | unsignedInt => exact absurd negative (Int.not_lt_of_ge represents.1)

end IntegerType

/-- A `std::string_view` of a buffer. -/
structure View where
  buffer : Bytes
  start : Nat
  length : Nat
  deriving DecidableEq, Repr

/-- The bytes of a view; this is what `make_permanent` copies. -/
def View.text (view : View) : Bytes := (view.buffer.drop view.start).take view.length

/-- Write one byte of a buffer. -/
def store (buffer : Bytes) (position : Int) (byte : UInt8) : Except Fault Bytes :=
  if 0 ≤ position ∧ position < buffer.length then .ok (buffer.set position.toNat byte)
  else .error (.outOfBounds position)

/-- The digit loop on the buffer, with `start` behind the next byte to be written. A round beyond
the size of the buffer would write outside it, so that many rounds are enough. -/
def extractDigitsInto : Nat → Nat → Int → Bytes → Except Fault (Int × Bytes)
  | 0, _, _, _ => .error .outOfFuel
  | rounds + 1, number, start, buffer =>
    if 0 < number then do
      let buffer ← store buffer (start - 1) (digitByte (number % 10))
      extractDigitsInto rounds (number / 10) (start - 1) buffer
    else .ok (start, buffer)

/-- `snprintf` of a text into a buffer: the part of the text that fits, and a zero byte. It returns
the length of the whole text. -/
def snprintf (buffer text : Bytes) : Nat × Bytes :=
  let written := text.take (buffer.length - 1) ++ [0]
  (text.length, (written ++ buffer.drop written.length).take buffer.length)

/-- `integer_to_string_internal` on a buffer. -/
def integerToStringInto (type : IntegerType) (number : Int) (buffer : Bytes) :
    Except Fault View := do
  let last : Int := buffer.length - 1
  if number = 0 then
    let buffer ← store buffer (last - 1) 48
    .ok ⟨buffer, (last - 1).toNat, 1⟩
  else if type.isSigned = true ∧ number < 0 then
    if number = type.minimum then
      let (length, buffer) := snprintf buffer (signedDecimal number)
      .ok ⟨buffer, 0, length⟩
    else
      let (start, buffer) ← extractDigitsInto (buffer.length + 1) (-number).toNat last buffer
      let buffer ← store buffer (start - 1) 45
      .ok ⟨buffer, (start - 1).toNat, (last - (start - 1)).toNat⟩
  else
    let (start, buffer) ← extractDigitsInto (buffer.length + 1) number.toNat last buffer
    .ok ⟨buffer, start.toNat, (last - start).toNat⟩

/-! ## What is written -/

section Writing

variable {buffer : Bytes} {number : Nat}

theorem store_eq {start : Nat} (byte : UInt8) (inside : start < buffer.length) :
    store buffer start byte = .ok (buffer.take start ++ byte :: buffer.drop (start + 1)) := by
  unfold store
  rw [if_pos ⟨Int.natCast_nonneg start, by omega⟩, Int.toNat_natCast,
    List.set_eq_take_append_cons_drop, if_pos inside]

/-- The digits of a number; zero has none. -/
def digitText (number : Nat) : Bytes := if number = 0 then [] else decimal number

theorem digitText_eq (positive : 0 < number) :
    digitText number = digitText (number / 10) ++ [digitByte (number % 10)] := by
  unfold digitText
  rw [if_neg (by omega)]
  by_cases short : number < 10
  · rw [decimal_of_lt short, Nat.div_eq_of_lt short, Nat.mod_eq_of_lt short]
    rfl
  · rw [if_neg (by omega), decimal_of_le (Nat.le_of_not_lt short)]

/-- The digit loop writes the digits to the left of `start`, as long as there is room. -/
theorem extractDigitsInto_eq {rounds start : Nat} (enough : start < rounds)
    (small : number < 10 ^ start) (fits : start ≤ buffer.length) :
    ∃ first, first + (digitText number).length = start ∧
      extractDigitsInto rounds number start buffer =
        .ok ((first : Int), buffer.take first ++ digitText number ++ buffer.drop start) := by
  induction rounds generalizing number start buffer with
  | zero => exact absurd enough (Nat.not_lt_zero start)
  | succ rounds ih =>
    by_cases positive : 0 < number
    · obtain ⟨rest, rfl⟩ : ∃ rest, start = rest + 1 := by
        cases start with
        | zero =>
          rw [pow_zero] at small
          omega
        | succ rest => exact ⟨rest, rfl⟩
      have stored := store_eq (digitByte (number % 10)) (Nat.lt_of_succ_le fits)
      have quotient : number / 10 < 10 ^ rest := by
        rw [pow_succ] at small
        omega
      have size : rest ≤ (buffer.take rest ++
          digitByte (number % 10) :: buffer.drop (rest + 1)).length := by
        rw [List.length_append, List.length_take]
        omega
      obtain ⟨first, split, written⟩ := ih (Nat.lt_of_succ_lt_succ enough) quotient size
      refine ⟨first, ?_, ?_⟩
      · rw [digitText_eq positive, List.length_append, List.length_singleton]
        omega
      · have left : ((rest + 1 : Nat) : Int) - 1 = (rest : Int) := by omega
        have half : (buffer.take rest).length = rest := by
          rw [List.length_take]
          omega
        have before : first ≤ rest := by omega
        unfold extractDigitsInto
        rw [if_pos positive, left, stored]
        change extractDigitsInto rounds (number / 10) rest _ = _
        rw [written, digitText_eq positive, List.take_append_of_le_length (by omega),
          List.take_take, Nat.min_eq_left before, List.drop_append_of_le_length (by omega),
          List.drop_of_length_le (by omega)]
        simp
    · have zero : number = 0 := by omega
      refine ⟨start, ?_, ?_⟩
      · rw [zero]
        rfl
      · unfold extractDigitsInto
        rw [if_neg positive, zero]
        simp [digitText]

theorem text_of_split {front middle back : Bytes} {start length : Nat}
    (begins : front.length = start) (size : middle.length = length) :
    View.text ⟨front ++ middle ++ back, start, length⟩ = middle := by
  subst begins size
  simp [View.text]

theorem snprintf_eq {text : Bytes} (short : text.length < buffer.length) :
    snprintf buffer text = (text.length, text ++ 0 :: buffer.drop (text.length + 1)) := by
  have all : text.take (buffer.length - 1) = text := List.take_of_length_le (by omega)
  have size : (text ++ [(0 : UInt8)] ++ buffer.drop (text ++ [(0 : UInt8)]).length).length =
      buffer.length := by
    rw [List.length_append, List.length_drop, List.length_append, List.length_singleton]
    omega
  unfold snprintf
  dsimp only
  rw [all, List.take_of_length_le (Nat.le_of_eq size), List.length_append, List.length_singleton,
    List.append_assoc, List.singleton_append]

/-- The view of a formatted number lies in the buffer, whose size is unchanged, and shows the
text. -/
structure Formats (buffer : Bytes) (number : Int) (view : View) : Prop where
  size : view.buffer.length = buffer.length
  inside : view.start + view.length ≤ buffer.length
  text : view.text = signedDecimal number

theorem formats_of_written {number : Int} {first : Nat} (sized : buffer.length = intBufferSize)
    (split : first + (signedDecimal number).length = 31) :
    Formats buffer number
      ⟨buffer.take first ++ signedDecimal number ++ buffer.drop 31, first,
        (signedDecimal number).length⟩ := by
  have size : buffer.length = 32 := sized
  constructor
  · change (buffer.take first ++ signedDecimal number ++ buffer.drop 31).length = _
    rw [List.length_append, List.length_append, List.length_take, List.length_drop]
    omega
  · change first + (signedDecimal number).length ≤ _
    omega
  · apply text_of_split _ rfl
    rw [List.length_take]
    omega

/-- The digits of a positive number, with the buffer they are written to. -/
theorem extractDigitsInto_decimal (positive : 0 < number) (small : number < 10 ^ 20)
    (sized : buffer.length = intBufferSize) :
    ∃ first, first + (decimal number).length = 31 ∧ 11 ≤ first ∧
      extractDigitsInto (buffer.length + 1) number ((buffer.length : Int) - 1) buffer =
        .ok ((first : Int), buffer.take first ++ decimal number ++ buffer.drop 31) := by
  have size : buffer.length = 32 := sized
  have room : number < 10 ^ 31 := lt_trans small (by decide)
  have behind : (buffer.length : Int) - 1 = (31 : Nat) := by omega
  have digits : digitText number = decimal number := if_neg (Nat.ne_of_gt positive)
  have enough : 31 < buffer.length + 1 := by omega
  have fits : 31 ≤ buffer.length := by omega
  have wide : 0 < 20 := by decide
  obtain ⟨first, split, written⟩ := extractDigitsInto_eq enough room fits
  have few := length_decimal_le wide small
  rw [digits] at split written
  refine ⟨first, split, by omega, ?_⟩
  rw [behind]
  exact written

theorem store_sign {digits : Bytes} {first : Nat} (sized : buffer.length = intBufferSize)
    (split : first + 1 + digits.length = 31) :
    store (buffer.take (first + 1) ++ digits ++ buffer.drop 31) first 45 =
      .ok (buffer.take first ++ (45 :: digits) ++ buffer.drop 31) := by
  have size : buffer.length = 32 := sized
  have front : (buffer.take (first + 1)).length = first + 1 := by
    rw [List.length_take]
    omega
  have inside : first < (buffer.take (first + 1) ++ digits ++ buffer.drop 31).length := by
    rw [List.length_append, List.length_append]
    omega
  rw [store_eq 45 inside, List.append_assoc, List.take_append_of_le_length (by omega),
    List.take_take, Nat.min_eq_left (Nat.le_succ first), List.drop_append_of_le_length (by omega),
    List.drop_of_length_le (by omega)]
  simp

theorem signedDecimal_neg {digits : Nat} (positive : 0 < digits) :
    signedDecimal (-(digits : Int)) = 45 :: decimal digits := by
  obtain ⟨rest, rfl⟩ : ∃ rest, digits = rest + 1 := ⟨digits - 1, by omega⟩
  rfl

variable {type : IntegerType} {digits : Nat}

theorem integerToStringInto_zero (type : IntegerType) (sized : buffer.length = intBufferSize) :
    ∃ view, integerToStringInto type 0 buffer = .ok view ∧ Formats buffer 0 view := by
  have size : buffer.length = 32 := sized
  have position : (buffer.length : Int) - 1 - 1 = (30 : Nat) := by omega
  have split : 30 + (signedDecimal 0).length = 31 := rfl
  have written := formats_of_written sized split
  rw [List.append_assoc] at written
  unfold integerToStringInto
  rw [if_pos rfl, position, store_eq 48 (show 30 < buffer.length by omega)]
  exact ⟨_, rfl, written⟩

theorem integerToStringInto_positive (type : IntegerType) (positive : 0 < digits)
    (small : digits < 10 ^ 20) (sized : buffer.length = intBufferSize) :
    ∃ view, integerToStringInto type digits buffer = .ok view ∧ Formats buffer digits view := by
  have size : buffer.length = 32 := sized
  obtain ⟨first, split, -, written⟩ := extractDigitsInto_decimal positive small sized
  have length : ((buffer.length : Int) - 1 - first).toNat =
      (signedDecimal (digits : Int)).length := by
    change _ = (decimal digits).length
    omega
  refine ⟨_, ?_, formats_of_written sized split⟩
  unfold integerToStringInto
  rw [if_neg (by omega), if_neg (by omega), Int.toNat_natCast, written]
  simp only [bind, Except.bind, Int.toNat_natCast, length]
  rfl

/-- A negative number other than the least one is written as its absolute value behind a sign. -/
theorem integerToStringInto_negative (positive : 0 < digits) (small : digits < 10 ^ 20)
    (signed : type.isSigned = true) (above : ¬ -(digits : Int) = type.minimum)
    (sized : buffer.length = intBufferSize) :
    ∃ view, integerToStringInto type (-digits) buffer = .ok view ∧
      Formats buffer (-digits) view := by
  have size : buffer.length = 32 := sized
  have text := signedDecimal_neg positive
  obtain ⟨first, split, room, written⟩ := extractDigitsInto_decimal positive small sized
  obtain ⟨before, rfl⟩ : ∃ before, first = before + 1 := ⟨first - 1, by omega⟩
  have toNat : (-(-(digits : Int))).toNat = digits := by omega
  have position : ((before + 1 : Nat) : Int) - 1 = (before : Int) := by omega
  have whole : before + (signedDecimal (-(digits : Int))).length = 31 := by
    rw [text, List.length_cons]
    omega
  have length : ((buffer.length : Int) - 1 - before).toNat =
      (signedDecimal (-(digits : Int))).length := by omega
  have stored := store_sign sized split
  rw [← text] at stored
  refine ⟨_, ?_, formats_of_written sized whole⟩
  unfold integerToStringInto
  rw [if_neg (by omega), if_pos ⟨signed, by omega⟩, if_neg above, toNat, written]
  simp only [bind, Except.bind, position, stored, Int.toNat_natCast, length]

theorem integerToStringInto_least (positive : 0 < digits) (small : digits < 10 ^ 20)
    (signed : type.isSigned = true) (least : -(digits : Int) = type.minimum)
    (sized : buffer.length = intBufferSize) :
    ∃ view, integerToStringInto type (-digits) buffer = .ok view ∧
      Formats buffer (-digits) view := by
  have size : buffer.length = 32 := sized
  have wide : 0 < 20 := by decide
  have few := length_decimal_le wide small
  have short : (signedDecimal (-(digits : Int))).length < buffer.length := by
    rw [signedDecimal_neg positive, List.length_cons]
    omega
  unfold integerToStringInto
  rw [if_neg (by omega), if_pos ⟨signed, by omega⟩, if_pos least, snprintf_eq short]
  refine ⟨_, rfl, ?_, ?_, ?_⟩
  · change (signedDecimal (-(digits : Int)) ++ _).length = _
    rw [List.length_append, List.length_cons, List.length_drop]
    omega
  · change 0 + (signedDecimal (-(digits : Int))).length ≤ _
    omega
  · exact text_of_split (show ([] : Bytes).length = 0 from rfl) rfl

/-- Every value of a type is written inside the buffer, as its decimal text. -/
theorem integerToStringInto_eq {number : Int} (represents : type.Represents number)
    (sized : buffer.length = intBufferSize) :
    ∃ view, integerToStringInto type number buffer = .ok view ∧ Formats buffer number view := by
  have small := represents.small
  rcases lt_trichotomy number 0 with negative | rfl | positive
  · have signed := represents.isSigned negative
    obtain ⟨digits, rfl⟩ : ∃ digits : Nat, number = -(digits : Int) := ⟨number.natAbs, by omega⟩
    have nonzero : 0 < digits := by omega
    have below : digits < 10 ^ 20 := by omega
    by_cases least : -(digits : Int) = type.minimum
    · exact integerToStringInto_least nonzero below signed least sized
    · exact integerToStringInto_negative nonzero below signed least sized
  · exact integerToStringInto_zero type sized
  · obtain ⟨digits, rfl⟩ : ∃ digits : Nat, number = (digits : Int) := ⟨number.natAbs, by omega⟩
    exact integerToStringInto_positive type (by omega) small sized

/-- The view shows the text that the function over texts returns. -/
theorem integerToStringInto_text {number : Int} {view : View}
    (represents : type.Represents number) (sized : buffer.length = intBufferSize)
    (written : integerToStringInto type number buffer = .ok view) :
    view.text = integerToStringInternal type.minimum number := by
  obtain ⟨same, also, formats⟩ := integerToStringInto_eq represents sized
  cases written.symm.trans also
  have small : number.natAbs < 10 ^ (intBufferSize - 1) := lt_trans represents.small (by decide)
  rw [formats.text, integerToStringInternal_eq _ small]

end Writing

end FixGateway.Utils.FastStringConversion
