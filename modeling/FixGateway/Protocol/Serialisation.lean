import FixGateway.Protocol.FixBuilder

/-! # What serialising a message writes

`toString` writes BeginString, BodyLength and MsgType whether they are stored or not,
then the other stored fields, and the checksum. `emitted` is the list of these fields.
The order of the hash map decides the order of the other fields and nothing else, since
BodyLength and the checksum are sums over all stored fields.
-/

namespace FixGateway.Protocol

open ByteScan

section Serialise

variable {message : FixMessage} {order : FieldOrder message.fields} {value : Bytes}
  {fields : FieldMap}

theorem mem_otherFields {tag : Int} :
    (tag, value) ∈ message.otherFields order ↔
      message.getField tag = some value ∧ tag ≠ 8 ∧ tag ≠ 9 ∧ tag ≠ 35 ∧ tag ≠ 10 := by
  rw [FixMessage.otherFields, List.mem_filter, order.complete, decide_eq_true_eq]
  rfl

theorem FieldOrder.nodup_entries (order : FieldOrder fields) : order.entries.Nodup :=
  List.Nodup.of_map Prod.fst order.nodup

theorem length_fieldText (field : Int × Bytes) :
    (fieldText field).length = (toText field.1).length + 1 + field.2.length + 1 := by
  simp only [fieldText, List.length_append, List.length_singleton]

theorem notMem_signedDecimal {byte : UInt8} (digit : isDigit byte = false) (sign : byte ≠ 45)
    (number : Int) : byte ∉ signedDecimal number := by
  intro member
  rcases mem_signedDecimal member with inside | minus
  · rw [digit] at inside
    cases inside
  · exact sign minus

theorem notMem_format (time : UtcTime) : soh ∉ time.format := by
  have digit : ∀ width number : Nat, soh ∉ padded width number := fun width number member =>
    absurd (isDigit_of_mem_padded member) (by decide)
  have separator : soh ∉ ascii "-" ∧ soh ∉ ascii ":" ∧ soh ∉ ascii "." := by decide
  simp only [UtcTime.format, List.mem_append, digit, separator.1, separator.2.1, separator.2.2,
    or_self, not_false_eq_true]

/-- The sum of the bytes. -/
def byteWeight (bytes : Bytes) : Nat := (bytes.map UInt8.toNat).sum

theorem checksum_eq (bytes : Bytes) : checksum bytes = byteWeight bytes % 256 := rfl

theorem byteWeight_append (front back : Bytes) :
    byteWeight (front ++ back) = byteWeight front + byteWeight back := by
  simp [byteWeight]

theorem byteWeight_fields (fields : List (Int × Bytes)) :
    byteWeight (fields.flatMap fieldText) =
      (fields.map fun field => byteWeight (fieldText field)).sum := by
  induction fields with
  | nil => rfl
  | cons field fields ih =>
    rw [List.flatMap_cons, byteWeight_append, ih, List.map_cons, List.sum_cons]

/-! ## The stored fields -/

/-- The field of a tag, if there is one. -/
def FixMessage.held (message : FixMessage) (tag : Int) : List (Int × Bytes) :=
  (message.getField tag).toList.map fun value => (tag, value)

theorem mem_held {tag other : Int} :
    (other, value) ∈ message.held tag ↔ other = tag ∧ message.getField tag = some value := by
  unfold FixMessage.held
  simp [eq_comm, and_comm]

theorem FixMessage.nodup_held (message : FixMessage) (tag : Int) : (message.held tag).Nodup := by
  unfold held
  cases message.getField tag <;> simp

theorem disjoint_held {tag : Int} {fields : List (Int × Bytes)}
    (absent : ∀ other value, (other, value) ∈ fields → other ≠ tag) :
    (message.held tag).Disjoint fields := by
  rintro ⟨other, value⟩ held member
  exact absent other value member (mem_held.mp held).1

/-- The fields that `toStringWithoutChecksum` writes: the header fields that are stored, and the
others. -/
theorem stored_perm (order : FieldOrder message.fields) :
    (order.entries.filter fun field => field.1 ≠ FixFields.checkSum).Perm
      (message.held FixFields.beginString ++ (message.held FixFields.bodyLength ++
        (message.held FixFields.msgType ++ message.otherFields order))) := by
  have distinct : (message.held FixFields.beginString ++ (message.held FixFields.bodyLength ++
      (message.held FixFields.msgType ++ message.otherFields order))).Nodup := by
    have typed := (message.nodup_held FixFields.msgType).append (order.nodup_entries.filter _)
      (disjoint_held fun _ _ member => (mem_otherFields.mp member).2.2.2.1)
    have counted := (message.nodup_held FixFields.bodyLength).append typed (disjoint_held (by
      intro tag value member
      rcases List.mem_append.mp member with type | other
      · rw [(mem_held.mp type).1]
        decide
      · exact (mem_otherFields.mp other).2.2.1))
    refine (message.nodup_held FixFields.beginString).append counted (disjoint_held ?_)
    intro tag value member
    rcases List.mem_append.mp member with length | member
    · rw [(mem_held.mp length).1]
      decide
    · rcases List.mem_append.mp member with type | other
      · rw [(mem_held.mp type).1]
        decide
      · exact (mem_otherFields.mp other).2.1
  refine (List.perm_ext_iff_of_nodup (order.nodup_entries.filter _) distinct).mpr ?_
  rintro ⟨tag, value⟩
  rw [List.mem_append, List.mem_append, List.mem_append, mem_held, mem_held, mem_held,
    mem_otherFields, List.mem_filter, order.complete, decide_eq_true_eq]
  change message.getField tag = some value ∧ tag ≠ 10 ↔
    tag = 8 ∧ message.getField 8 = some value ∨ tag = 9 ∧ message.getField 9 = some value ∨
      tag = 35 ∧ message.getField 35 = some value ∨
        message.getField tag = some value ∧ tag ≠ 8 ∧ tag ≠ 9 ∧ tag ≠ 35 ∧ tag ≠ 10
  constructor
  · rintro ⟨found, unsummed⟩
    by_cases eight : tag = 8
    · subst eight
      exact .inl ⟨rfl, found⟩
    by_cases nine : tag = 9
    · subst nine
      exact .inr (.inl ⟨rfl, found⟩)
    by_cases type : tag = 35
    · subst type
      exact .inr (.inr (.inl ⟨rfl, found⟩))
    exact .inr (.inr (.inr ⟨found, eight, nine, type, unsummed⟩))
  · rintro (⟨rfl, found⟩ | ⟨rfl, found⟩ | ⟨rfl, found⟩ | ⟨found, -, -, -, unsummed⟩)
    · exact ⟨found, by decide⟩
    · exact ⟨found, by decide⟩
    · exact ⟨found, by decide⟩
    · exact ⟨found, unsummed⟩

theorem calculateBodyLength_eq (order : FieldOrder message.fields) {msgType : Bytes}
    (typed : message.getField FixFields.msgType = some msgType) :
    message.calculateBodyLength order =
      (fieldText (FixFields.msgType, msgType) ++
        (message.otherFields order).flatMap fieldText).length := by
  have counted : (order.entries.filter fun field => field.1 ≠ FixFields.beginString ∧
      field.1 ≠ FixFields.bodyLength ∧ field.1 ≠ FixFields.checkSum).Perm
      ((FixFields.msgType, msgType) :: message.otherFields order) := by
    have distinct : ((FixFields.msgType, msgType) :: message.otherFields order).Nodup :=
      (order.nodup_entries.filter _).cons fun member => (mem_otherFields.mp member).2.2.2.1 rfl
    refine (List.perm_ext_iff_of_nodup (order.nodup_entries.filter _) distinct).mpr ?_
    rintro ⟨tag, value⟩
    rw [List.mem_filter, order.complete, decide_eq_true_eq, List.mem_cons, mem_otherFields]
    change message.getField tag = some value ∧ tag ≠ 8 ∧ tag ≠ 9 ∧ tag ≠ 10 ↔
      (tag, value) = (35, msgType) ∨
        message.getField tag = some value ∧ tag ≠ 8 ∧ tag ≠ 9 ∧ tag ≠ 35 ∧ tag ≠ 10
    constructor
    · rintro ⟨found, eight, nine, ten⟩
      by_cases type : tag = 35
      · subst type
        rw [Option.some_inj.mp (found.symm.trans typed)]
        exact .inl rfl
      · exact .inr ⟨found, eight, nine, type, ten⟩
    · rintro (same | ⟨found, eight, nine, _, ten⟩)
      · cases same
        exact ⟨typed, by decide, by decide, by decide⟩
      · exact ⟨found, eight, nine, ten⟩
  unfold FixMessage.calculateBodyLength
  rw [(counted.map _).sum_eq]
  simp [List.length_flatMap, length_fieldText]

theorem nodup_writtenTags (order : FieldOrder message.fields) :
    ([8, 9, 35] ++ (message.otherFields order).map Prod.fst ++ [10]).Nodup := by
  have keys : ((message.otherFields order).map Prod.fst).Nodup :=
    order.nodup.sublist (List.filter_sublist.map _)
  have plain : ∀ tag ∈ (message.otherFields order).map Prod.fst,
      tag ≠ 8 ∧ tag ≠ 9 ∧ tag ≠ 35 ∧ tag ≠ 10 := by
    intro tag member
    obtain ⟨field, inside, rfl⟩ := List.mem_map.mp member
    exact (mem_otherFields.mp inside).2
  rw [List.nodup_append, List.nodup_append]
  refine ⟨⟨by decide, keys, ?_⟩, List.nodup_singleton _, ?_⟩
  · intro front first tag member same
    subst same
    simp [plain front member] at first
  · intro tag member last ten same
    rw [List.mem_singleton] at ten
    subst ten
    obtain front | member := List.mem_append.mp member
    · subst same
      simp at front
    · exact (plain tag member).2.2.2 same

/-! ## What `toString` writes -/

namespace FixMessage

/-- The value that `toString` writes for BeginString. -/
def version (message : FixMessage) : Bytes :=
  if message.hasField FixFields.beginString then message.getFieldValue FixFields.beginString
  else fixVersion44

theorem version_eq (message : FixMessage) :
    message.version = (message.getField FixFields.beginString).getD fixVersion44 := by
  unfold version getFieldValue hasField
  cases message.getField FixFields.beginString <;> rfl

theorem getField_msgType (typed : message.getMsgType ≠ []) :
    message.getField FixFields.msgType = some message.getMsgType := by
  unfold getMsgType getFieldValue at typed ⊢
  cases found : message.getField FixFields.msgType with
  | none =>
    rw [found] at typed
    exact absurd rfl typed
  | some value => rfl

/-- The fields that `toString` writes before the checksum. -/
def summed (message : FixMessage) (order : FieldOrder message.fields) : List (Int × Bytes) :=
  (FixFields.beginString, message.version) ::
    (FixFields.bodyLength, decimal (message.calculateBodyLength order)) ::
      (FixFields.msgType, message.getMsgType) :: message.otherFields order

/-- The fields that `toString` writes. -/
def emitted (message : FixMessage) (order : FieldOrder message.fields) : List (Int × Bytes) :=
  message.summed order ++ [(FixFields.checkSum, message.calculateChecksum order)]

theorem toString_eq_emitted (order : FieldOrder message.fields)
    (uncached : message.stringCacheValid = false) :
    message.toString order = (message.emitted order).flatMap fieldText := by
  rw [toString, uncached, if_neg Bool.false_ne_true]
  simp [emitted, summed, version, List.append_assoc]

end FixMessage

theorem FieldOrder.perm (first second : FieldOrder fields) : first.entries.Perm second.entries := by
  refine (List.perm_ext_iff_of_nodup first.nodup_entries second.nodup_entries).mpr ?_
  rintro ⟨tag, value⟩
  rw [first.complete, second.complete]

theorem calculateBodyLength_order (first second : FieldOrder message.fields) :
    message.calculateBodyLength first = message.calculateBodyLength second :=
  (((first.perm second).filter _).map _).sum_eq

theorem calculateChecksum_order (first second : FieldOrder message.fields) :
    message.calculateChecksum first = message.calculateChecksum second := by
  have weights : byteWeight (message.toStringWithoutChecksum first) =
      byteWeight (message.toStringWithoutChecksum second) := by
    unfold FixMessage.toStringWithoutChecksum
    rw [byteWeight_fields, byteWeight_fields]
    exact (((first.perm second).filter _).map _).sum_eq
  unfold FixMessage.calculateChecksum
  rw [checksum_eq, checksum_eq, weights]

/-- Whatever the order, the same fields are written. -/
theorem emitted_perm (first second : FieldOrder message.fields) :
    (message.emitted first).Perm (message.emitted second) := by
  unfold FixMessage.emitted FixMessage.summed
  rw [calculateBodyLength_order first second, calculateChecksum_order first second]
  have others : (message.otherFields first).Perm (message.otherFields second) :=
    (first.perm second).filter _
  exact (((others.cons _).cons _).cons _).append_right _

end Serialise

end FixGateway.Protocol
