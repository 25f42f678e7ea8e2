import FixGateway.Protocol.Parser.Framing
import FixGateway.Utils.FastStringConversion

/-! # Integer fields

`setField(int, int)` formats its value in the thread's buffer and stores a copy of the text;
`getField(int, int &)` reads the text with `std::stoi`. The text of a value that is not negative is
also read by the parser's `parseInteger`.
-/

namespace FixGateway.Protocol

open ByteScan Utils.FastStringConversion

namespace FixMessage

/-- `setField(int, int)`, with the buffer of the thread. -/
def setFieldInt (message : FixMessage) (tag number : Int) (buffer : Bytes) :
    Except Fault (FixMessage × Bytes) := do
  let view ← integerToStringInto .int number buffer
  .ok (message.setField tag view.text, view.buffer)

/-- `getField(int, int &)`; `none` is false. -/
def getFieldInt (message : FixMessage) (tag : Int) : Option Int := (message.getField tag).bind stoi

end FixMessage

/-- The parser reads the decimal text of an `int` that is not negative. -/
theorem parseInteger_signedDecimal {number : Int} (low : 0 ≤ number) (high : number < 2 ^ 31)
    (outside : Memory) :
    parseInteger (Memory.overlay (signedDecimal number) outside) 0 (signedDecimal number).length =
      .ok (some number) := by
  obtain ⟨digits, rfl⟩ : ∃ digits : Nat, number = (digits : Int) := ⟨number.toNat, by omega⟩
  apply parseInteger_some_iff.mpr
  refine ⟨decimal digits, Memory.overlay_holds _ _, rfl, decimal_ne_nil digits,
    fun _ => isDigit_of_mem_decimal, ?_⟩
  have read : value (decimal digits) = digits := value_decimal digits
  rw [foldDigits_of_lt (by omega), read]

/-- Every value of the three types is formatted inside the buffer, as its canonical decimal text.
An integer field is read back as it was set, and the parser reads the text of one that is not
negative. -/
theorem integer_fields_read_back (buffer : Bytes) (sized : buffer.length = intBufferSize) :
    (∀ (type : IntegerType) (number : Int), type.Represents number →
      ∃ view, integerToStringInto type number buffer = .ok view ∧
        view.buffer.length = intBufferSize ∧ view.start + view.length ≤ intBufferSize ∧
        CanonicalDecimal number view.text) ∧
    ∀ (message : FixMessage) (tag number : Int), IntegerType.int.Represents number →
      ∃ after left text, message.setFieldInt tag number buffer = .ok (after, left) ∧
        after.getField tag = some text ∧ after.getFieldInt tag = some number ∧
        (0 ≤ number → ∀ outside,
          parseInteger (Memory.overlay text outside) 0 text.length = .ok (some number)) := by
  constructor
  · intro type number represents
    obtain ⟨view, written, formats⟩ := integerToStringInto_eq represents sized
    refine ⟨view, written, formats.size.trans sized, ?_, ?_⟩
    · rw [← sized]
      exact formats.inside
    · rw [formats.text]
      exact signedDecimal_canonical number
  · intro message tag number represents
    obtain ⟨view, written, formats⟩ := integerToStringInto_eq represents sized
    obtain ⟨low, high⟩ := represents
    change -2 ^ 31 ≤ number at low
    change number ≤ 2 ^ 31 - 1 at high
    have set : message.setFieldInt tag number buffer =
        .ok (message.setField tag (signedDecimal number), view.buffer) := by
      unfold FixMessage.setFieldInt
      rw [written, ← formats.text]
      rfl
    have stored : (message.setField tag (signedDecimal number)).getField tag =
        some (signedDecimal number) :=
      FixMessage.getField_setField_self
    refine ⟨_, _, signedDecimal number, set, stored, ?_, ?_⟩
    · unfold FixMessage.getFieldInt
      rw [stored, Option.bind_some]
      exact stoi_signedDecimal low (by omega)
    · intro nonnegative outside
      exact parseInteger_signedDecimal nonnegative (by omega) outside

/-- The least `int` takes 11 of the 32 bytes and is read back. -/
theorem integer_fields_read_back_least :
    (∃ view, integerToStringInto .int (-2 ^ 31) (List.replicate 32 0) = .ok view ∧
      view.buffer.length = intBufferSize ∧ view.start + view.length ≤ intBufferSize ∧
      CanonicalDecimal (-2 ^ 31) view.text) ∧
    ∃ after left text,
      FixMessage.empty.setFieldInt FixFields.msgSeqNum (-2 ^ 31) (List.replicate 32 0) =
        .ok (after, left) ∧
      after.getField FixFields.msgSeqNum = some text ∧
      after.getFieldInt FixFields.msgSeqNum = some (-2 ^ 31) ∧
      ((0 : Int) ≤ -2 ^ 31 → ∀ outside,
        parseInteger (Memory.overlay text outside) 0 text.length = .ok (some (-2 ^ 31))) := by
  have least : IntegerType.int.Represents (-2 ^ 31) := ⟨le_refl _, by decide⟩
  obtain ⟨formats, reads⟩ := integer_fields_read_back (List.replicate 32 0) rfl
  exact ⟨formats .int _ least, reads FixMessage.empty FixFields.msgSeqNum _ least⟩

end FixGateway.Protocol
