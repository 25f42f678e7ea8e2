import FixGateway.Protocol.BuiltSequence

/-! # The text of a message

`toString` goes over the field map three times: `calculateBodyLength` counts, the loop of
`toString` writes, and `calculateChecksum` sums. An unordered map need not be visited in the
same order each time, so here the three traversals have an order each. Only the one of the
writing loop can be seen in the text.

An object may also return a text that it has cached. What it returns is then the text of an
earlier call, possibly one for the object that this one was moved from, and its fields have
not changed since.
-/

namespace FixGateway.Protocol

open ByteScan FixMessage

namespace FixMessage

variable {message : FixMessage}

/-- What `toString` computes, with an order for each of its traversals. -/
def serialise (message : FixMessage) (counting writing summing : FieldOrder message.fields) :
    Bytes :=
  fieldText (FixFields.beginString, message.version) ++
    fieldText (FixFields.bodyLength, decimal (message.calculateBodyLength counting)) ++
    fieldText (FixFields.msgType, message.getMsgType) ++
    (message.otherFields writing).flatMap fieldText ++
    fieldText (FixFields.checkSum, message.calculateChecksum summing)

/-- `toString`, with an order for each of its traversals. -/
def toStringVisiting (message : FixMessage)
    (counting writing summing : FieldOrder message.fields) : Bytes :=
  if message.stringCacheValid then message.cachedString
  else message.serialise counting writing summing

theorem toStringVisiting_same (order : FieldOrder message.fields) :
    message.toStringVisiting order order order = message.toString order := rfl

/-- Only the order of the writing loop shows. -/
theorem serialise_eq_emitted (counting writing summing : FieldOrder message.fields) :
    message.serialise counting writing summing = (message.emitted writing).flatMap fieldText := by
  rw [serialise, calculateBodyLength_order counting writing,
    calculateChecksum_order summing writing]
  simp [emitted, summed, List.append_assoc]

/-- The fields of the text, with those that BodyLength counts in the middle. -/
theorem flatMap_emitted (order : FieldOrder message.fields) :
    (message.emitted order).flatMap fieldText =
      fieldText (FixFields.beginString, message.version) ++
        (fieldText (FixFields.bodyLength, decimal (message.calculateBodyLength order)) ++
          ((fieldText (FixFields.msgType, message.getMsgType) ++
              (message.otherFields order).flatMap fieldText) ++
            fieldText (FixFields.checkSum, message.calculateChecksum order))) := by
  simp [emitted, summed, List.append_assoc]

theorem getField_of_hasField {tag : Int} (present : message.hasField tag = true) :
    message.getField tag = some (message.getFieldValue tag) := by
  obtain ⟨value, found⟩ := Option.isSome_iff_exists.mp present
  rw [getFieldValue, found]
  rfl

/-! ## Reading a text back -/

section Reading

variable (legible : message.AllLegible) (order : FieldOrder message.fields) (now : UtcTime)

include legible

/-- A message with a MsgType and a SendingTime is read back as it was, but for the three fields
that are computed. -/
theorem getField_ofString_of_ne (typed : message.hasField FixFields.msgType = true)
    (stamped : message.hasField FixFields.sendingTime = true) {tag : Int}
    (eight : tag ≠ FixFields.beginString) (nine : tag ≠ FixFields.bodyLength)
    (ten : tag ≠ FixFields.checkSum) :
    (ofString now ((message.emitted order).flatMap fieldText)).getField tag =
      message.getField tag := by
  by_cases held : message.hasField tag = true
  · have stored := getField_of_hasField held
    rw [stored]
    exact (getField_ofString_emitted legible order now).1
      (mem_emitted_of_stored order nine ten stored)
  · have missing : message.getField tag = none := Option.not_isSome_iff_eq_none.mp held
    rw [missing, Option.eq_none_iff_forall_not_mem]
    intro value found
    rcases (getField_ofString_emitted legible order now).2 found with written | stamp
    · rcases mem_emitted.mp written with ⟨is, -⟩ | ⟨is, -⟩ | ⟨is, -⟩ | ⟨stored, -⟩ | ⟨is, -⟩
      · exact eight is
      · exact nine is
      · exact held (is ▸ typed)
      · exact held (congrArg Option.isSome stored)
      · exact ten is
    · exact held (stamp ▸ stamped)

end Reading

end FixMessage

/-! ## The text of an object -/

namespace MessageObject

variable {object : MessageObject}

/-- A cached text is one that the fields would give. -/
def Written (object : MessageObject) : Prop :=
  object.stringCacheValid = true → ∃ order : FieldOrder object.fields,
    object.cachedString = (object.emitted order).flatMap fieldText

theorem Written.toString (written : object.Written) (order : FieldOrder object.fields) :
    (object.toString order).2.Written := by
  unfold MessageObject.toString
  split
  · exact written
  · rename_i uncached
    exact fun _ => ⟨order, toString_eq_emitted order (Bool.not_eq_true _ |>.mp uncached)⟩

theorem Written.getMsgTypeEnum (written : object.Written) : object.getMsgTypeEnum.2.Written := by
  unfold MessageObject.getMsgTypeEnum
  split
  · exact written
  · exact written

theorem cached_written : Objects.Cached Written where
  of_invalid object _ unwritten := fun valid => by
    rw [unwritten] at valid
    cases valid
  moved _ written := written
  toString _ order written := written.toString order
  getMsgTypeEnum _ written := written.getMsgTypeEnum

theorem Written.toStringVisiting (written : object.Written)
    (counting writing summing : FieldOrder object.fields) :
    ∃ order : FieldOrder object.fields,
      object.toStringVisiting counting writing summing =
        (object.emitted order).flatMap fieldText := by
  unfold FixMessage.toStringVisiting
  split
  · rename_i cached
    exact written cached
  · exact ⟨writing, FixMessage.serialise_eq_emitted counting writing summing⟩

end MessageObject

namespace Objects

variable {objects : Objects} {name : Nat} {object : MessageObject}

/-- In every run, whatever is moved where, the cached texts are those of the fields. -/
theorem all_written (run : Transition.Run Initial step Transition.unrestricted objects) :
    All MessageObject.Written objects := by
  refine run.invariant (All MessageObject.Written) (fun objects initial name object member => ?_)
    fun objects operation all _ => ?_
  · rw [initial name] at member
    cases member
  · refine all.step MessageObject.cached_written ?_
    rintro name source leftover rfl differ object present other found
    exact all source other found

/-- The number after `9=` counts the bytes from there to the checksum field, for every object of
every run that has a MsgType, and for every order of the traversals. -/
theorem emitted_bodyLength_exact (run : Transition.Run Initial step Transition.unrestricted objects)
    (alive : object ∈ objects name) (typed : object.hasField FixFields.msgType = true)
    (counting writing summing : FieldOrder object.fields) :
    ∃ order : FieldOrder object.fields, ∃ body : Bytes,
      body = fieldText (FixFields.msgType, object.getMsgType) ++
        (object.otherFields order).flatMap fieldText ∧
      object.toStringVisiting counting writing summing =
        fieldText (FixFields.beginString, object.version) ++
          (fieldText (FixFields.bodyLength, decimal body.length) ++
            (body ++ fieldText (FixFields.checkSum, object.calculateChecksum summing))) := by
  obtain ⟨order, text⟩ :=
    (all_written run name object alive).toStringVisiting counting writing summing
  have type : object.getField FixFields.msgType = some object.getMsgType :=
    FixMessage.getField_of_hasField typed
  refine ⟨order, _, rfl, ?_⟩
  rw [text, FixMessage.flatMap_emitted, calculateBodyLength_eq order type,
    calculateChecksum_order summing order]

/-- An order with stale header fields and a negative tag. -/
def staleFields : FieldMap :=
  (FixMessage.empty.setFields [(35, ascii "D"), (9, ascii "999"), (10, ascii "000"),
    (-7, ascii "a=b"), (52, ascii "20250101-00:00:00.000")]).fields

/-- The order is serialised and then moved to another object, with its text. -/
def moveSerialised : List Operation :=
  [.constructFields 1 staleFields, .toString 1 Building.sampleTraversal,
    .construct 0 ⟨2024, 1, 2, 3, 4, 5, 6⟩, .moveAssign 0 1 ∅]

theorem moveSerialised_run :
    Transition.Run Initial step Transition.unrestricted
      (Transition.execute step noObjects moveSerialised) :=
  Transition.Run.execute (.start noObjects_initial) (Transition.permits_unrestricted ..)

/-- The object that it is moved to. -/
def movedOrder : MessageObject :=
  (MessageObject.new ⟨2024, 1, 2, 3, 4, 5, 6⟩).moveAssign
    ((MessageObject.ofFields staleFields).toString (Building.sampleTraversal _)).2

theorem movedOrder_alive :
    movedOrder ∈ Transition.execute step noObjects moveSerialised 0 := rfl

def movedTraversal : FieldOrder movedOrder.fields := Building.sampleTraversal _

theorem emitted_bodyLength_exact_stale :
    ∃ body : Bytes, movedOrder.toStringVisiting movedTraversal movedTraversal movedTraversal =
      fieldText (FixFields.beginString, movedOrder.version) ++
        (fieldText (FixFields.bodyLength, decimal body.length) ++
          (body ++ fieldText (FixFields.checkSum,
            movedOrder.calculateChecksum movedTraversal))) := by
  obtain ⟨order, body, -, text⟩ := emitted_bodyLength_exact moveSerialised_run movedOrder_alive
    (by decide +kernel) movedTraversal movedTraversal movedTraversal
  exact ⟨body, text⟩

/-- An object is read back as it was. The text has its fields but for BeginString, BodyLength and
the checksum, which the text always has, each with the value that `toString` computes. -/
theorem ofString_toStringVisiting
    (run : Transition.Run Initial step Transition.unrestricted objects)
    (alive : object ∈ objects name) (typed : object.hasField FixFields.msgType = true)
    (stamped : object.hasField FixFields.sendingTime = true)
    (legible : object.toFixMessage.AllLegible)
    (counting writing summing : FieldOrder object.fields) (now : UtcTime) :
    ∃ read, FixMessage.ofString now (object.toStringVisiting counting writing summing) = read ∧
      (∀ tag, read.hasField tag = true ↔ object.hasField tag = true ∨
        tag = FixFields.beginString ∨ tag = FixFields.bodyLength ∨ tag = FixFields.checkSum) ∧
      (∀ tag, tag ≠ FixFields.beginString → tag ≠ FixFields.bodyLength →
        tag ≠ FixFields.checkSum → read.getField tag = object.getField tag) ∧
      read.getField FixFields.beginString =
        some ((object.getField FixFields.beginString).getD fixVersion44) ∧
      (∀ order, read.getField FixFields.bodyLength =
        some (decimal (object.calculateBodyLength order))) ∧
      ∀ order, read.getField FixFields.checkSum = some (object.calculateChecksum order) := by
  obtain ⟨order, text⟩ :=
    (all_written run name object alive).toStringVisiting counting writing summing
  have others := @FixMessage.getField_ofString_of_ne _ legible order now typed stamped
  have computed : ∀ tag value, (tag, value) ∈ object.emitted order →
      (FixMessage.ofString now ((object.emitted order).flatMap fieldText)).getField tag =
        some value :=
    fun tag value written => (getField_ofString_emitted legible order now).1 written
  have version := computed _ _ (mem_emitted.mpr (.inl ⟨rfl, rfl⟩))
  have length := computed _ _ (mem_emitted.mpr (.inr (.inl ⟨rfl, rfl⟩)))
  have sum := computed _ _ (mem_emitted.mpr (.inr (.inr (.inr (.inr ⟨rfl, rfl⟩)))))
  refine ⟨_, rfl, ?_⟩
  rw [text]
  refine ⟨fun tag => ?_, @others, version_eq _ ▸ version, fun other => ?_, fun other => ?_⟩
  · by_cases eight : tag = FixFields.beginString
    · exact iff_of_true (eight ▸ congrArg Option.isSome version) (.inr (.inl eight))
    by_cases nine : tag = FixFields.bodyLength
    · exact iff_of_true (nine ▸ congrArg Option.isSome length) (.inr (.inr (.inl nine)))
    by_cases ten : tag = FixFields.checkSum
    · exact iff_of_true (ten ▸ congrArg Option.isSome sum) (.inr (.inr (.inr ten)))
    · simp only [hasField, others eight nine ten, eight, nine, ten, or_false]
  · rw [calculateBodyLength_order other order]
    exact length
  · rw [calculateChecksum_order other order]
    exact sum

theorem ofString_toStringVisiting_stale :
    (FixMessage.ofString ⟨2025, 1, 1, 0, 0, 0, 0⟩ (movedOrder.toStringVisiting movedTraversal
      movedTraversal movedTraversal)).getField (-7) = some (ascii "a=b") := by
  have legible : movedOrder.toFixMessage.AllLegible := by
    intro tag value found
    have fields : ∀ field ∈ [((35 : Int), ascii "D"), (9, ascii "999"), (10, ascii "000"),
        (-7, ascii "a=b"), (52, ascii "20250101-00:00:00.000")], Legible field := by decide
    have written := (getField_setFields _).symm.trans found
    rcases Option.or_eq_some_iff.mp written with last | ⟨-, initial⟩
    · exact fields _ (mem_of_lastValue last)
    · cases initial
  obtain ⟨read, rfl, -, others, -⟩ := ofString_toStringVisiting moveSerialised_run
    movedOrder_alive (by decide +kernel) (by decide +kernel) legible movedTraversal
    movedTraversal movedTraversal ⟨2025, 1, 1, 0, 0, 0, 0⟩
  rw [others (-7) (by decide) (by decide) (by decide)]
  decide +kernel

end Objects

end FixGateway.Protocol
