import FixGateway.Protocol.Serialisation

/-! # The checksum of a serialised message

`FixMessageUtils::verifyChecksum` compares the digits after the last `10=` of a text with
the sum of all bytes before it. `toString` takes its checksum over the stored fields, but
it writes BeginString, BodyLength and MsgType also when they are not stored, and never
writes a stored BodyLength. So the checksum is right only if what is written without
being stored has, modulo 256, the byte sum of the stored BodyLength field.
-/

namespace FixGateway.Protocol

open ByteScan FixGateway.Utils

/-! ## Checking a text -/

/-- `std::string::rfind`: the last position at which the pattern stands. -/
def rfind (pattern : Bytes) : Bytes → Option Nat
  | [] => if pattern = [] then some 0 else none
  | byte :: rest =>
    match rfind pattern rest with
    | some position => some (position + 1)
    | none => if pattern.isPrefixOf (byte :: rest) then some 0 else none

namespace FixMessageUtils

/-- `FixMessageUtils::calculateChecksum`. -/
def calculateChecksum (message : Bytes) : Bytes := padded 3 (checksum message)

/-- `FixMessageUtils::verifyChecksum`. -/
def verifyChecksum (message : Bytes) : Bool :=
  match rfind (ascii "10=") message with
  | none => false
  | some position =>
    let expected := calculateChecksum (message.take position)
    let actual := (message.drop (position + 3)).takeWhile (· ≠ soh)
    expected = actual

end FixMessageUtils

theorem rfind_eq_none {text : Bytes} (absent : equals ∉ text) :
    rfind (ascii "10=") text = none := by
  induction text with
  | nil => rfl
  | cons byte rest ih =>
    rw [List.mem_cons, not_or] at absent
    rw [rfind, ih absent.2]
    have differs : (ascii "10=").isPrefixOf (byte :: rest) = false := by
      rw [← Bool.not_eq_true, List.isPrefixOf_iff_prefix]
      intro starts
      have member : equals ∈ byte :: rest := starts.subset (by decide)
      rcases List.mem_cons.mp member with same | inside
      · exact absent.1 same
      · exact absent.2 inside
    simp only [differs, Bool.false_eq_true, if_false]

/-- A `10=` after which there is no equals sign is the last one. -/
theorem rfind_last (front : Bytes) {back : Bytes} (absent : equals ∉ back) :
    rfind (ascii "10=") (front ++ (ascii "10=" ++ back)) = some front.length := by
  induction front with
  | nil =>
    have starts : (ascii "10=").isPrefixOf (49 :: 48 :: 61 :: back) = true := rfl
    have second : (ascii "10=").isPrefixOf (48 :: 61 :: back) = false := rfl
    have third : (ascii "10=").isPrefixOf (61 :: back) = false := rfl
    change rfind (ascii "10=") (49 :: 48 :: 61 :: back) = some 0
    simp only [rfind, rfind_eq_none absent, starts, second, third, Bool.false_eq_true, if_false,
      if_true]
  | cons byte front ih =>
    rw [List.cons_append, rfind, ih]
    rfl

/-- The check compares what stands after the last `10=` with the sum of what comes before. -/
theorem verifyChecksum_of_rfind {front field : Bytes} (noSoh : soh ∉ field)
    (last : rfind (ascii "10=") (front ++ (ascii "10=" ++ (field ++ [soh]))) = some front.length) :
    FixMessageUtils.verifyChecksum (front ++ (ascii "10=" ++ (field ++ [soh]))) = true ↔
      FixMessageUtils.calculateChecksum front = field := by
  have unended : ∀ byte ∈ field, (fun byte => decide (byte ≠ soh)) byte = true := by
    intro byte inside
    refine decide_eq_true fun same => ?_
    rw [same] at inside
    exact noSoh inside
  have before : (front ++ (ascii "10=" ++ (field ++ [soh]))).take front.length = front :=
    List.take_left
  have after : (front ++ (ascii "10=" ++ (field ++ [soh]))).drop (front.length + 3) =
      field ++ [soh] := by
    rw [List.drop_length_add_append]
    rfl
  have text : (field ++ [soh]).takeWhile (fun byte => decide (byte ≠ soh)) = field := by
    rw [List.takeWhile_append_of_pos unended]
    simp
  unfold FixMessageUtils.verifyChecksum
  rw [last]
  dsimp only
  rw [before, after, text, decide_eq_true_eq]

/-- The check compares the digits of a text's last field with the sum of what comes before. -/
theorem verifyChecksum_iff (front : Bytes) {digits : Bytes}
    (numeric : ∀ byte ∈ digits, isDigit byte = true) :
    FixMessageUtils.verifyChecksum (front ++ (ascii "10=" ++ (digits ++ [soh]))) = true ↔
      FixMessageUtils.calculateChecksum front = digits := by
  have noSoh : soh ∉ digits := fun inside => absurd (numeric soh inside) (by decide)
  have absent : equals ∉ digits ++ [soh] := by
    intro member
    rcases List.mem_append.mp member with inside | last
    · exact absurd (numeric equals inside) (by decide)
    · exact absurd (List.mem_singleton.mp last) (by decide)
  exact verifyChecksum_of_rfind noSoh (rfind_last front absent)

/-! ## Messages of the class's own operations -/

namespace FixFields

def clOrdID : Int := 11
def orderQty : Int := 38
def ordType : Int := 40
def origClOrdID : Int := 41
def price : Int := 44
def side : Int := 54
def symbol : Int := 55
def timeInForce : Int := 59
def encryptMethod : Int := 98

end FixFields

namespace FixMessage

variable {message : FixMessage}

/-- What `createLogon` puts into the slot that it has allocated. -/
def createLogon (time : UtcTime) (senderID targetID : Bytes)
    (heartBeatInterval encryptMethod : Int) : FixMessage :=
  (new time).setFields
    [(FixFields.msgType, ascii "A"), (FixFields.senderCompID, senderID),
      (FixFields.targetCompID, targetID),
      (FixFields.heartBtInt, FastStringConversion.intToString heartBeatInterval),
      (FixFields.encryptMethod, FastStringConversion.intToString encryptMethod)]

/-- What `createHeartbeat` puts into the slot that it has allocated. -/
def createHeartbeat (time : UtcTime) (senderID targetID : Bytes) : FixMessage :=
  (new time).setFields
    [(FixFields.msgType, ascii "0"), (FixFields.senderCompID, senderID),
      (FixFields.targetCompID, targetID)]

/-- What `createNewOrderSingle` puts into the slot that it has allocated. -/
def createNewOrderSingle (time : UtcTime)
    (clOrdID symbol side orderQty price orderType timeInForce : Bytes) : FixMessage :=
  (new time).setFields
    [(FixFields.msgType, ascii "D"), (FixFields.clOrdID, clOrdID), (FixFields.symbol, symbol),
      (FixFields.side, side), (FixFields.orderQty, orderQty), (FixFields.price, price),
      (FixFields.ordType, orderType), (FixFields.timeInForce, timeInForce)]

/-- What `createOrderCancelRequest` puts into the slot that it has allocated. -/
def createOrderCancelRequest (time : UtcTime) (origClOrdID clOrdID symbol side : Bytes) :
    FixMessage :=
  (new time).setFields
    [(FixFields.msgType, ascii "F"), (FixFields.origClOrdID, origClOrdID),
      (FixFields.clOrdID, clOrdID), (FixFields.symbol, symbol), (FixFields.side, side)]

/-- The messages that the constructors, the factory methods and the operations lead to. -/
inductive Built : FixMessage → Prop where
  | new (time : UtcTime) : Built (new time)
  | ofString (time : UtcTime) (rawMessage : Bytes) : Built (ofString time rawMessage)
  | ofFields (fields : FieldMap) : Built (ofFields fields)
  | createLogon (time : UtcTime) (senderID targetID : Bytes)
      (heartBeatInterval encryptMethod : Int) :
      Built (createLogon time senderID targetID heartBeatInterval encryptMethod)
  | createHeartbeat (time : UtcTime) (senderID targetID : Bytes) :
      Built (createHeartbeat time senderID targetID)
  | createNewOrderSingle (time : UtcTime)
      (clOrdID symbol side orderQty price orderType timeInForce : Bytes) :
      Built (createNewOrderSingle time clOrdID symbol side orderQty price orderType timeInForce)
  | createOrderCancelRequest (time : UtcTime) (origClOrdID clOrdID symbol side : Bytes) :
      Built (createOrderCancelRequest time origClOrdID clOrdID symbol side)
  | setField {message : FixMessage} (built : Built message) (tag : Int) (value : Bytes) :
      Built (message.setField tag value)
  | removeField {message : FixMessage} (built : Built message) (tag : Int) :
      Built (message.removeField tag)
  | parseFromString {message : FixMessage} (built : Built message) (rawMessage : Bytes) :
      Built (message.parseFromString rawMessage)
  | updateLengthAndChecksum {message : FixMessage} (built : Built message) :
      Built message.updateLengthAndChecksum

theorem setFields_stringCacheValid {assignments : List (Int × Bytes)}
    (uncached : message.stringCacheValid = false) :
    (message.setFields assignments).stringCacheValid = false := by
  induction assignments generalizing message with
  | nil => exact uncached
  | cons assignment rest ih => exact ih rfl

theorem Built.uncached (built : Built message) : message.stringCacheValid = false := by
  induction built with
  | new time => rfl
  | ofString time rawMessage =>
    unfold FixMessage.ofString
    split <;> rfl
  | ofFields fields => rfl
  | createLogon => exact setFields_stringCacheValid rfl
  | createHeartbeat => exact setFields_stringCacheValid rfl
  | createNewOrderSingle => exact setFields_stringCacheValid rfl
  | createOrderCancelRequest => exact setFields_stringCacheValid rfl
  | setField => rfl
  | removeField built tag ih =>
    unfold FixMessage.removeField
    split
    · rfl
    · exact ih
  | parseFromString => rfl
  | updateLengthAndChecksum => rfl

/-! ## The checksum that is written -/

/-- The fields that `toString` writes and that are not stored: BodyLength with the computed
value, and BeginString and MsgType when they are missing. -/
def unstored (message : FixMessage) (order : FieldOrder message.fields) : Bytes :=
  (if message.hasField FixFields.beginString then []
    else fieldText (FixFields.beginString, fixVersion44)) ++
    fieldText (FixFields.bodyLength, decimal (message.calculateBodyLength order)) ++
    (if message.hasField FixFields.msgType then [] else fieldText (FixFields.msgType, []))

/-- The stored field that `toString` does not write. -/
def unwritten (message : FixMessage) : Bytes :=
  (message.held FixFields.bodyLength).flatMap fieldText

/-- A header field is stored with the value that is written, or not at all. -/
theorem byteWeight_held (message : FixMessage) (tag : Int) (default : Bytes) :
    byteWeight (fieldText (tag, (message.getField tag).getD default)) =
      byteWeight ((message.held tag).flatMap fieldText) +
        byteWeight (if message.hasField tag then [] else fieldText (tag, default)) := by
  unfold held hasField
  cases message.getField tag <;> simp [byteWeight]

/-- The text before the checksum and the stored fields differ by what is written without being
stored and by what is stored without being written. -/
theorem byteWeight_summed (message : FixMessage) (order : FieldOrder message.fields) :
    byteWeight ((message.summed order).flatMap fieldText) + byteWeight message.unwritten =
      byteWeight (message.toStringWithoutChecksum order) + byteWeight (message.unstored order) := by
  have stored : byteWeight (message.toStringWithoutChecksum order) =
      byteWeight ((message.held FixFields.beginString).flatMap fieldText) +
        (byteWeight message.unwritten +
          (byteWeight ((message.held FixFields.msgType).flatMap fieldText) +
            byteWeight ((message.otherFields order).flatMap fieldText))) := by
    rw [toStringWithoutChecksum, byteWeight_fields, ((stored_perm order).map _).sum_eq,
      ← byteWeight_fields, List.flatMap_append, List.flatMap_append, List.flatMap_append,
      byteWeight_append, byteWeight_append, byteWeight_append]
    rfl
  have first := message.byteWeight_held FixFields.beginString fixVersion44
  have type := message.byteWeight_held FixFields.msgType []
  rw [← version_eq] at first
  have typed : message.getMsgType = (message.getField FixFields.msgType).getD [] := rfl
  rw [← typed] at type
  simp only [summed, List.flatMap_cons, byteWeight_append, unstored, stored]
  omega

/-- The checksum of a message that was built by its own operations is right exactly when the
fields written without being stored have, modulo 256, the byte sum of the stored BodyLength
field. -/
theorem verifyChecksum_toString_iff {message : FixMessage} (built : message.Built)
    (order : FieldOrder message.fields) :
    FixMessageUtils.verifyChecksum (message.toString order) = true ↔
      checksum (message.unstored order) = checksum message.unwritten := by
  have digits : ∀ byte ∈ message.calculateChecksum order, isDigit byte = true :=
    fun byte member => isDigit_of_mem_padded member
  have text : message.toString order = (message.summed order).flatMap fieldText ++
      (ascii "10=" ++ (message.calculateChecksum order ++ [soh])) := by
    rw [toString_eq_emitted order built.uncached, emitted, List.flatMap_append,
      List.flatMap_singleton]
    rfl
  have weights := byteWeight_summed message order
  rw [text, verifyChecksum_iff _ digits, calculateChecksum, FixMessageUtils.calculateChecksum,
    (padded_injective 3).eq_iff, checksum_eq, checksum_eq, checksum_eq, checksum_eq]
  omega

/-- A message that stores the BodyLength it has. -/
def measuredMessage : FixMessage :=
  ofFields (((∅ : FieldMap).insert FixFields.beginString fixVersion44).insert FixFields.bodyLength
    (ascii "5") |>.insert FixFields.msgType (ascii "0"))

theorem verifyChecksum_toString_iff_measured :
    measuredMessage.Built ∧ ∃ order : FieldOrder measuredMessage.fields,
      FixMessageUtils.verifyChecksum (measuredMessage.toString order) = true := by
  have built : measuredMessage.Built := .ofFields _
  let order : FieldOrder measuredMessage.fields :=
    FieldOrder.ofTags [8, 35, 9] (by decide) (by decide +kernel)
  exact ⟨built, order, (verifyChecksum_toString_iff built order).mpr (by decide +kernel)⟩

/-- The checksum of a heartbeat as `createHeartbeat` makes it is wrong. -/
theorem created_heartbeat_checksum_wrong :
    ∃ time senderID targetID, ∃ order : FieldOrder (createHeartbeat time senderID targetID).fields,
      FixMessageUtils.verifyChecksum ((createHeartbeat time senderID targetID).toString order) =
        false :=
  ⟨⟨2024, 1, 2, 3, 4, 5, 6⟩, ascii "CLIENT", ascii "BROKER",
    FieldOrder.ofTags [35, 49, 56, 52] (by decide) (by decide +kernel), by decide +kernel⟩

end FixMessage

end FixGateway.Protocol
