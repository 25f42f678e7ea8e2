import FixGateway.Protocol.Parser.Frames
import FixGateway.Protocol.Parser.FramingLaws

/-! # Well-formed messages

`WireMessage` is a message as the FIX 4.4 standard writes it: BeginString,
BodyLength counting the bytes up to the checksum field, MsgType, any further
fields, and the checksum field. The frame that `findCompleteMessage` finds for it
ends where the checksum field starts.
-/

namespace FixGateway.Protocol

open ByteScan

/-- A field with a canonical decimal tag. -/
structure WireField where
  tag : Int
  value : Bytes
  positive : 1 ≤ tag
  bounded : tag < 2 ^ 31
  noSoh : soh ∉ value

namespace WireField

def text (field : WireField) : Bytes := toText field.tag ++ [equals] ++ field.value ++ [soh]

theorem toText_tag (field : WireField) : toText field.tag = decimal field.tag.toNat := by
  obtain ⟨number, same⟩ :=
    Int.eq_ofNat_of_zero_le (by have := field.positive; omega : 0 ≤ field.tag)
  rw [same]
  rfl

/-- The field as the decoders see it. -/
def raw (field : WireField) : RawField where
  digits := toText field.tag
  value := field.value
  nonempty := by
    rw [toText_tag]
    exact decimal_ne_nil _
  all := by
    intro byte member
    rw [toText_tag] at member
    exact isDigit_of_mem_decimal member
  noSoh := field.noSoh

@[simp] theorem raw_tag (field : WireField) : field.raw.tag = field.tag := by
  have low := field.positive
  have high := field.bounded
  have same : ByteScan.value (toText field.tag) = field.tag.toNat := by
    rw [toText_tag, value_decimal]
  change foldDigits (toText field.tag) = field.tag
  rw [foldDigits_of_lt (by omega), same]
  omega

@[simp] theorem raw_text (field : WireField) : field.raw.text = field.text := by
  simp [RawField.text, raw, text]

end WireField

/-- A well-formed message of any type. -/
structure WireMessage where
  msgType : Bytes
  fields : List WireField
  typed : msgType ≠ []
  noSoh : soh ∉ msgType
  plain : ∀ field ∈ fields, field.tag ≠ 8 ∧ field.tag ≠ 9 ∧ field.tag ≠ 10 ∧ field.tag ≠ 35

namespace WireMessage

variable (wire : WireMessage) {number : Nat}

/-- The body, from MsgType to the SOH before the checksum field. -/
def body : Bytes :=
  ascii "35=" ++ wire.msgType ++ [soh] ++ wire.fields.flatMap WireField.text

/-- The decimal text of BodyLength. -/
def bodyLengthText : Bytes := decimal wire.body.length

def header : Bytes :=
  fixBeginString ++ soh :: (ascii "9=" ++ (wire.bodyLengthText ++ [soh]))

/-- Everything before the checksum field. -/
def frame : Bytes := wire.header ++ wire.body

/-- The message with the given number in its checksum field, up to the last SOH. -/
def checked (number : Nat) : Bytes := wire.frame ++ (ascii "10=" ++ padded 3 number)

/-- The message with the given number in its checksum field. -/
def sealed (number : Nat) : Bytes := wire.checked number ++ [soh]

/-- The message with its checksum. -/
def bytes : Bytes := wire.sealed (checksum wire.frame)

/-- The fields of the message in wire order. -/
def assignments (number : Nat) : List (Int × Bytes) :=
  [(FixFields.beginString, fixVersion44), (FixFields.bodyLength, wire.bodyLengthText),
    (FixFields.msgType, wire.msgType)] ++
    wire.fields.map (fun field => (field.tag, field.value)) ++
    [(FixFields.checkSum, padded 3 number)]

/-- The MsgType field. -/
def typeField : WireField := ⟨35, wire.msgType, by decide, by decide, wire.noSoh⟩

theorem body_eq_fieldsText :
    wire.body = fieldsText ((wire.typeField :: wire.fields).map WireField.raw) := by
  have fields : wire.fields.flatMap WireField.text =
      fieldsText (wire.fields.map WireField.raw) := by
    induction wire.fields with
    | nil => rfl
    | cons field fields ih => simp [ih]
  rw [List.map_cons, fieldsText_cons, ← fields, WireField.raw_text]
  rfl

theorem length_header : wire.header.length = wire.bodyLengthText.length + 13 := by
  have nine : fixBeginString.length = 9 := by decide
  have two : (ascii "9=").length = 2 := by decide
  simp [header, nine, two]
  omega

theorem length_frame : wire.frame.length = wire.bodyLengthText.length + 13 + wire.body.length := by
  rw [frame, List.length_append, length_header]

theorem length_checked (small : number < 1000) :
    (wire.checked number).length = wire.frame.length + 6 := by
  have three : (ascii "10=").length = 3 := by decide
  rw [checked, List.length_append, List.length_append, three, length_padded (by decide) (by omega)]

theorem length_sealed (small : number < 1000) :
    (wire.sealed number).length = wire.frame.length + 7 := by
  rw [sealed, List.length_append, length_checked wire small, List.length_singleton]

theorem length_bytes : wire.bytes.length = wire.frame.length + 7 :=
  wire.length_sealed (lt_trans (checksum_lt _) (by decide))

theorem bytes_ne_nil : wire.bytes ≠ [] := by
  intro empty
  have size := wire.length_bytes
  rw [empty] at size
  cases size

theorem frame_prefix_bytes : wire.frame <+: wire.bytes := by
  rw [bytes, sealed, checked, List.append_assoc]
  exact List.prefix_append _ _

theorem body_ne_nil : 0 < wire.body.length := by
  have three : (ascii "35=").length = 3 := by decide
  simp [body, three]

theorem isDigit_of_mem_bodyLengthText : ∀ byte ∈ wire.bodyLengthText, isDigit byte = true :=
  fun _ member => isDigit_of_mem_decimal member

theorem notMem_bodyLengthText : soh ∉ wire.bodyLengthText := fun member =>
  absurd (wire.isDigit_of_mem_bodyLengthText soh member) (by decide)

/-! ## Framing -/

section Framing

variable {memory : Memory} {maxMessageSize length : Nat} {wire}

theorem bodyLengthText_value (small : wire.body.length < 2 ^ 31) :
    foldDigits wire.bodyLengthText = wire.body.length := by
  have same : ByteScan.value wire.bodyLengthText = wire.body.length := value_decimal _
  rw [foldDigits_of_lt (by omega), same]

theorem frameAt (held : memory.Holds 0 wire.header)
    (fits : (wire.body.length : Int) ≤ wrapInt maxMessageSize) :
    FrameAt memory maxMessageSize 0 wire.frame.length [] wire.bodyLengthText := by
  have size := wire.length_frame
  have positive := wire.body_ne_nil
  have limit := (wrapInt_bounds maxMessageSize).2
  have number : foldDigits wire.bodyLengthText = wire.body.length := bodyLengthText_value (by omega)
  refine ⟨?_, List.not_mem_nil, decimal_ne_nil _, wire.isDigit_of_mem_bodyLengthText, ?_, ?_, ?_⟩
  · rw [List.append_nil]
    exact held
  · rw [number]
    omega
  · rw [number]
    exact fits
  · rw [number, List.length_nil]
    omega

/-- The frame of a well-formed message is found as soon as it has arrived. -/
theorem findCompleteMessage_frame (held : memory.Holds 0 wire.frame)
    (inside : wire.frame.length ≤ length)
    (fits : (wire.body.length : Int) ≤ wrapInt maxMessageSize) :
    ∃ framing, findCompleteMessage memory maxMessageSize length = .ok framing ∧
      framing.result.status = .success ∧ framing.messageStart = 0 ∧
      framing.messageEnd = wire.frame.length := by
  have readable := held.readable
  rw [zero_add] at readable
  obtain ⟨framing, framed, told⟩ := (frameAt held.left fits).findCompleteMessage_tells_zero rfl
    readable
  have status := told.status
  rw [if_pos (Int.ofNat_le.mpr inside)] at status
  exact ⟨framing, framed, status, told.boundaries (Int.ofNat_le.mpr inside)⟩

theorem framed_at {cursor : Nat} (held : memory.Holds cursor wire.frame)
    (inside : cursor + wire.frame.length ≤ length)
    (fits : (wire.body.length : Int) ≤ wrapInt maxMessageSize) :
    ∃ framing, findCompleteMessage (memory.shift cursor) maxMessageSize (length - cursor) =
        .ok framing ∧ framing.result.status = .success ∧
      (memory.shift cursor).shift framing.messageStart = memory.shift cursor ∧
      (framing.messageEnd - framing.messageStart).toNat = wire.frame.length := by
  have here : (memory.shift cursor).Holds 0 wire.frame := by
    rw [Memory.holds_shift, add_zero]
    exact held
  obtain ⟨framing, framed, success, start, stop⟩ :=
    findCompleteMessage_frame here (by omega : wire.frame.length ≤ length - cursor) fits
  refine ⟨framing, framed, success, ?_, by omega⟩
  rw [start, Memory.shift_zero]

theorem findCompleteMessage_prefix {count : Nat} (held : memory.Holds 0 (wire.frame.take count))
    (short : count < wire.frame.length) (fits : (wire.body.length : Int) ≤ wrapInt maxMessageSize) :
    ∃ framing, findCompleteMessage memory maxMessageSize count = .ok framing ∧
      framing.result.status = .needMoreData ∧ framing.result.parsedMessage = none := by
  have whole := Memory.overlay_holds wire.frame Memory.unmapped
  obtain ⟨framing, framed, status⟩ :=
    (frameAt whole.left fits).part_waits whole (le_refl _) (Int.ofNat_lt.mpr short) held
  exact ⟨framing, framed, status, (findCompleteMessage_modest _ framed).1⟩

end Framing

end WireMessage

end FixGateway.Protocol
