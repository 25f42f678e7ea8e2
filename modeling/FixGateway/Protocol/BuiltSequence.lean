import FixGateway.Protocol.MessageCache
import Mathlib.Data.Finset.Sort

/-! # Messages that one builder writes

A builder completes the header of a working copy and serialises it. The string
constructor of `FixMessage` reads such a text back field by field, so that it gives the
fields of the message that was built, with a header of its own: stale values of the
header fields are overwritten in the working copy, and BodyLength and the checksum are
written once, from what the copy holds.

A sequence of calls works on the objects in memory. The working copy of a call is an
object of its own, and the calls share the builder's counter.
-/

namespace FixGateway.Protocol

open ByteScan FixGateway.Utils FixMessage FixFields FastStringConversion

/-- A field with an `int` for its tag and without an SOH in its value. -/
def Legible (field : Int × Bytes) : Prop :=
  -2 ^ 31 ≤ field.1 ∧ field.1 < 2 ^ 31 ∧ soh ∉ field.2

instance (field : Int × Bytes) : Decidable (Legible field) :=
  inferInstanceAs (Decidable (_ ∧ _ ∧ _))

theorem Legible.of_clean {tag : Int} {value : Bytes} (range : -2 ^ 31 ≤ tag ∧ tag < 2 ^ 31)
    (clean : soh ∉ value) : Legible (tag, value) :=
  ⟨range.1, range.2, clean⟩

/-- All fields are legible. -/
def FixMessage.AllLegible (message : FixMessage) : Prop :=
  ∀ tag value, message.getField tag = some value → Legible (tag, value)

/-! ## Reading a text back -/

section Reading

variable {message : FixMessage} {fields : List (Int × Bytes)} {tag : Int} {value : Bytes}

theorem parseFields_fieldText {field : Int × Bytes} (legible : Legible field) (rounds : Nat)
    (rest : Bytes) (map : FieldMap) :
    FixMessage.parseFields (rounds + 1) (fieldText field ++ rest) map =
      FixMessage.parseFields rounds rest (map.insert field.1 field.2) := by
  have unequal : ∀ byte ∈ toText field.1, decide (byte ≠ equals) = true := by
    intro byte member
    refine decide_eq_true fun same => ?_
    rw [same] at member
    exact notMem_signedDecimal (by decide) (by decide) field.1 member
  have unended : ∀ byte ∈ field.2, decide (byte ≠ soh) = true := by
    intro byte member
    refine decide_eq_true fun same => ?_
    rw [same] at member
    exact legible.2.2 member
  have split : fieldText field ++ rest = toText field.1 ++ equals :: (field.2 ++ soh :: rest) := by
    simp [fieldText]
  have number : (toText field.1 ++ equals :: (field.2 ++ soh :: rest)).takeWhile (· ≠ equals) =
      toText field.1 := by
    rw [List.takeWhile_append_of_pos unequal]
    simp
  have behind : (toText field.1 ++ equals :: (field.2 ++ soh :: rest)).dropWhile (· ≠ equals) =
      equals :: (field.2 ++ soh :: rest) := by
    rw [List.dropWhile_append_of_pos unequal]
    simp
  have text : (field.2 ++ soh :: rest).takeWhile (· ≠ soh) = field.2 := by
    rw [List.takeWhile_append_of_pos unended]
    simp
  have tail : (field.2 ++ soh :: rest).drop (field.2.length + 1) = rest := by
    rw [List.drop_length_add_append]
    rfl
  rw [FixMessage.parseFields, split, behind]
  dsimp only
  rw [number, text, tail]
  have read : stoi (toText field.1) = some field.1 := stoi_signedDecimal legible.1 legible.2.1
  rw [read]

theorem parseFields_flatMap (legible : ∀ field ∈ fields, Legible field) {rounds : Nat}
    (enough : fields.length ≤ rounds) (message : FixMessage) :
    FixMessage.parseFields rounds (fields.flatMap fieldText) message.fields =
      (message.setFields fields).fields := by
  induction fields generalizing rounds message with
  | nil =>
    cases rounds with
    | zero => rfl
    | succ rounds => rfl
  | cons field fields ih =>
    rw [List.forall_mem_cons] at legible
    cases rounds with
    | zero => cases enough
    | succ rounds =>
      rw [List.flatMap_cons, parseFields_fieldText legible.1]
      exact ih legible.2 (Nat.le_of_succ_le_succ enough) (message.setField field.1 field.2)

theorem length_le_flatMap (fields : List (Int × Bytes)) :
    fields.length ≤ (fields.flatMap fieldText).length := by
  induction fields with
  | nil => exact le_refl _
  | cons field fields ih =>
    rw [List.flatMap_cons, List.length_append, length_fieldText, List.length_cons]
    omega

theorem getField_ofString (legible : ∀ field ∈ fields, Legible field) (now : UtcTime) (tag : Int) :
    (FixMessage.ofString now (fields.flatMap fieldText)).getField tag =
      (lastValue tag fields).or ((FixMessage.new now).getField tag) := by
  have read := parseFields_flatMap legible (length_le_flatMap fields) (FixMessage.new now)
  rw [← getField_setFields]
  unfold FixMessage.ofString
  split
  · rename_i empty
    have none : fields = [] := by
      have short := length_le_flatMap fields
      rw [empty] at short
      exact List.length_eq_zero_iff.mp (Nat.le_zero.mp short)
    rw [none]
    rfl
  · exact congrArg (fun map : FieldMap => map.lookup tag) read

theorem AllLegible.emitted (legible : message.AllLegible) (order : FieldOrder message.fields) :
    ∀ field ∈ message.emitted order, Legible field := by
  have value : ∀ tag, soh ∉ message.getFieldValue tag := by
    intro tag
    unfold getFieldValue
    cases found : message.getField tag with
    | none => exact List.not_mem_nil
    | some value => exact (legible tag value found).2.2
  have version : soh ∉ message.version := by
    unfold FixMessage.version
    split
    · exact value _
    · decide
  have digits : ∀ number : Nat, soh ∉ decimal number := fun number member =>
    absurd (isDigit_of_mem_decimal member) (by decide)
  have sum : soh ∉ message.calculateChecksum order := fun member =>
    absurd (isDigit_of_mem_padded member) (by decide)
  unfold FixMessage.emitted FixMessage.summed
  rw [List.forall_mem_append]
  simp only [List.forall_mem_cons]
  refine ⟨⟨.of_clean (by decide) version, .of_clean (by decide) (digits _),
    .of_clean (by decide) (value _), ?_⟩, .of_clean (by decide) sum, ?_⟩
  · rintro ⟨tag, value⟩ member
    exact legible tag value (mem_otherFields.mp member).1
  · intro field member
    cases member

theorem mem_emitted {order : FieldOrder message.fields} :
    (tag, value) ∈ message.emitted order ↔
      tag = 8 ∧ value = message.version ∨
        tag = 9 ∧ value = decimal (message.calculateBodyLength order) ∨
        tag = 35 ∧ value = message.getMsgType ∨
        (message.getField tag = some value ∧ tag ≠ 8 ∧ tag ≠ 9 ∧ tag ≠ 35 ∧ tag ≠ 10) ∨
        tag = 10 ∧ value = message.calculateChecksum order := by
  have other : (tag, value) ∈ message.otherFields order ↔
      message.getField tag = some value ∧ tag ≠ 8 ∧ tag ≠ 9 ∧ tag ≠ 35 ∧ tag ≠ 10 :=
    mem_otherFields
  rw [← other]
  simp [FixMessage.emitted, FixMessage.summed, FixFields.beginString, FixFields.bodyLength,
    FixFields.msgType, checkSum]

/-- Reading back what was written gives what was written. The only other thing that can be there
is the SendingTime that the constructor sets. -/
theorem getField_ofString_emitted (legible : message.AllLegible)
    (order : FieldOrder message.fields) (now : UtcTime) :
    ((tag, value) ∈ message.emitted order →
      (FixMessage.ofString now ((message.emitted order).flatMap fieldText)).getField tag =
        some value) ∧
    ((FixMessage.ofString now ((message.emitted order).flatMap fieldText)).getField tag =
      some value → (tag, value) ∈ message.emitted order ∨ tag = FixFields.sendingTime) := by
  have distinct : ((message.emitted order).map Prod.fst).Nodup := by
    rw [FixMessage.emitted, List.map_append]
    exact nodup_writtenTags order
  rw [getField_ofString (AllLegible.emitted legible order)]
  constructor
  · intro member
    rw [lastValue_of_mem distinct member]
    rfl
  · intro found
    rcases Option.or_eq_some_iff.mp found with last | ⟨-, initial⟩
    · exact .inl (mem_of_lastValue last)
    · rw [getField_new] at initial
      split at initial
      · rename_i stamp
        exact .inr stamp
      · cases initial

/-- A stored field is written, but for BodyLength and the checksum, which are recomputed. -/
theorem mem_emitted_of_stored (order : FieldOrder message.fields)
    (nine : tag ≠ FixFields.bodyLength) (ten : tag ≠ checkSum)
    (stored : message.getField tag = some value) : (tag, value) ∈ message.emitted order := by
  refine mem_emitted.mpr ?_
  by_cases eight : tag = 8
  · subst eight
    have found : message.hasField FixFields.beginString = true := congrArg Option.isSome stored
    have same : message.getFieldValue FixFields.beginString = value :=
      congrArg (fun field => field.getD []) stored
    exact .inl ⟨rfl, by rw [FixMessage.version, if_pos found, same]⟩
  by_cases type : tag = 35
  · subst type
    have same : message.getMsgType = value := congrArg (fun field => field.getD []) stored
    exact .inr (.inr (.inl ⟨rfl, same.symm⟩))
  · exact .inr (.inr (.inr (.inl ⟨stored, eight, nine, type, ten⟩)))

end Reading

/-! ## One message -/

namespace FixBuilder

/-- What is written into the header has no SOH. -/
structure Clean (config : BuilderConfig) : Prop where
  sender : soh ∉ config.senderCompID
  target : soh ∉ config.targetCompID
  version : soh ∉ config.beginString

/-- The tags that a builder with the default flags decides about. -/
def builderTags : List Int :=
  [FixFields.beginString, FixFields.bodyLength, FixFields.checkSum, FixFields.msgSeqNum,
    FixFields.senderCompID, FixFields.sendingTime, FixFields.targetCompID]

/-- A message that was read from a text carries the content of the message that was built, under
the given sequence number. -/
structure Carries (config : BuilderConfig) (sequence : Int) (message : FixMessage) (text : Bytes)
    (read : FixMessage) : Prop where
  content : ∀ tag value, message.getField tag = some value → tag ∉ builderTags →
    read.getField tag = some value
  only : ∀ tag, read.hasField tag = true →
    message.hasField tag = true ∨ tag ∈ builderTags ∨ tag = FixFields.msgType
  sequence : read.getField FixFields.msgSeqNum = some (signedDecimal sequence)
  sender : read.getField FixFields.senderCompID = some config.senderCompID
  target : read.getField FixFields.targetCompID = some config.targetCompID
  version : read.getField FixFields.beginString = some config.beginString
  /-- The text has one BodyLength field and one checksum field, and BodyLength counts the bytes
  between them. -/
  bodyLength : ∃ (body : List (Int × Bytes)) (sum : Bytes), soh ∉ sum ∧
    (∀ field ∈ body, Legible field ∧ field.1 ≠ FixFields.bodyLength ∧
      field.1 ≠ FixFields.checkSum) ∧
    text = fieldText (FixFields.beginString, config.beginString) ++
      (fieldText (FixFields.bodyLength, decimal (body.flatMap fieldText).length) ++
        (body.flatMap fieldText ++ fieldText (FixFields.checkSum, sum))) ∧
    read.getField FixFields.bodyLength = some (decimal (body.flatMap fieldText).length)

section Build

variable {builder : FixBuilder} {message : FixMessage} {time : UtcTime}

theorem getField_working (time : UtcTime) (automatic : Automatic builder.config)
    (typed : message.getMsgType ≠ []) (tag : Int) :
    (builder.workingMessage message time).1.getField tag =
      (lastValue tag (builder.completedHeader message.getMsgType time)).or
        (message.getField tag) := by
  rw [workingMessage_automatic automatic typed]
  exact getField_setFields _

theorem getField_working_of_notMem (automatic : Automatic builder.config)
    (typed : message.getMsgType ≠ []) {tag : Int} (foreign : tag ∉ builderTags) :
    (builder.workingMessage message time).1.getField tag = message.getField tag := by
  rw [getField_working time automatic typed]
  by_cases type : tag = FixFields.msgType
  · subst type
    rw [getField_msgType typed]
    rfl
  · rw [lastValue_eq_none, Option.none_or]
    simp only [builderTags, List.mem_cons, List.not_mem_nil, or_false, not_or] at foreign
    simp only [completedHeader, List.forall_mem_cons, List.not_mem_nil, false_implies,
      implies_true, and_true]
    exact ⟨Ne.symm foreign.1, Ne.symm type, Ne.symm foreign.2.2.2.2.1,
      Ne.symm foreign.2.2.2.2.2.2, Ne.symm foreign.2.2.2.1, Ne.symm foreign.2.2.2.2.2.1⟩

theorem working_legible (automatic : Automatic builder.config) (clean : Clean builder.config)
    (typed : message.getMsgType ≠ []) (legible : message.AllLegible) :
    (builder.workingMessage message time).1.AllLegible := by
  intro tag value found
  rw [getField_working time automatic typed] at found
  rcases Option.or_eq_some_iff.mp found with last | ⟨-, kept⟩
  · have type := legible _ _ (getField_msgType typed)
    have sequence : soh ∉ intToString builder.nextSeqNum := by
      rw [intToString_eq builder.inRange.1 builder.inRange.2]
      exact notMem_signedDecimal (by decide) (by decide) _
    have header : ∀ field ∈ builder.completedHeader message.getMsgType time, Legible field := by
      simp only [completedHeader, List.forall_mem_cons, List.not_mem_nil, false_implies,
        implies_true, and_true]
      exact ⟨.of_clean (by decide) clean.version, type, .of_clean (by decide) clean.sender,
        .of_clean (by decide) clean.target, .of_clean (by decide) sequence,
        .of_clean (by decide) (notMem_format time)⟩
    exact header _ (mem_of_lastValue last)
  · exact legible tag value kept

/-- A working copy with the header completed. -/
structure Completed (builder : FixBuilder) (message working : FixMessage) : Prop where
  legible : working.AllLegible
  uncached : working.stringCacheValid = false
  foreign : ∀ tag, tag ∉ builderTags → working.getField tag = message.getField tag
  type : working.getField FixFields.msgType = some message.getMsgType
  version : working.getField FixFields.beginString = some builder.config.beginString
  sequence : working.getField FixFields.msgSeqNum = some (signedDecimal builder.nextSeqNum)
  sender : working.getField FixFields.senderCompID = some builder.config.senderCompID
  target : working.getField FixFields.targetCompID = some builder.config.targetCompID

theorem completed_working (automatic : Automatic builder.config) (clean : Clean builder.config)
    (typed : message.getMsgType ≠ []) (legible : message.AllLegible) :
    Completed builder message (builder.workingMessage message time).1 where
  legible := working_legible automatic clean typed legible
  uncached := by
    rw [workingMessage_automatic automatic typed]
    rfl
  foreign _ foreign := getField_working_of_notMem automatic typed foreign
  type := getField_working time automatic typed _
  version := getField_working time automatic typed _
  sequence := by
    rw [← intToString_eq builder.inRange.1 builder.inRange.2]
    exact getField_working time automatic typed _
  sender := getField_working time automatic typed _
  target := getField_working time automatic typed _

namespace Completed

variable {working : FixMessage} (completed : Completed builder message working)

include completed

theorem read (order : FieldOrder working.fields) (now : UtcTime) {tag : Int} {value : Bytes}
    (written : (tag, value) ∈ working.emitted order) :
    (FixMessage.ofString now (working.toString order)).getField tag = some value := by
  rw [toString_eq_emitted order completed.uncached]
  exact (getField_ofString_emitted completed.legible order now).1 written

theorem only (order : FieldOrder working.fields) (now : UtcTime) {tag : Int}
    (found : (FixMessage.ofString now (working.toString order)).hasField tag = true) :
    message.hasField tag = true ∨ tag ∈ builderTags ∨ tag = FixFields.msgType := by
  obtain ⟨value, found⟩ := Option.isSome_iff_exists.mp found
  rw [toString_eq_emitted order completed.uncached] at found
  rcases (getField_ofString_emitted completed.legible order now).2 found with member | stamp
  · rcases mem_emitted.mp member with ⟨rfl, -⟩ | ⟨rfl, -⟩ | ⟨rfl, -⟩ | ⟨stored, -⟩ | ⟨rfl, -⟩
    · exact .inr (.inl (by decide))
    · exact .inr (.inl (by decide))
    · exact .inr (.inr rfl)
    · by_cases own : tag ∈ builderTags
      · exact .inr (.inl own)
      · rw [completed.foreign tag own] at stored
        exact .inl (congrArg Option.isSome stored)
    · exact .inr (.inl (by decide))
  · subst stamp
    exact .inr (.inl (by decide))

/-- The text, with the fields that BodyLength counts in the middle. -/
theorem text (order : FieldOrder working.fields) :
    ∃ body : List (Int × Bytes),
      (∀ field ∈ body, Legible field ∧ field.1 ≠ FixFields.bodyLength ∧ field.1 ≠ checkSum) ∧
      working.calculateBodyLength order = (body.flatMap fieldText).length ∧
      working.toString order = fieldText (FixFields.beginString, builder.config.beginString) ++
        (fieldText (FixFields.bodyLength, decimal (body.flatMap fieldText).length) ++
          (body.flatMap fieldText ++ fieldText (checkSum, working.calculateChecksum order))) := by
  have same : working.getMsgType = message.getMsgType :=
    congrArg (fun field => field.getD []) completed.type
  have found : working.hasField FixFields.beginString = true :=
    congrArg Option.isSome completed.version
  have version : working.version = builder.config.beginString := by
    rw [FixMessage.version, if_pos found]
    exact congrArg (fun field => field.getD []) completed.version
  have length := calculateBodyLength_eq order completed.type
  have joined : ((FixFields.msgType, message.getMsgType) :: working.otherFields order).flatMap
      fieldText = fieldText (FixFields.msgType, message.getMsgType) ++
        (working.otherFields order).flatMap fieldText := List.flatMap_cons
  refine ⟨(FixFields.msgType, message.getMsgType) :: working.otherFields order, ?_, ?_, ?_⟩
  · rw [List.forall_mem_cons]
    have plain : FixFields.msgType ≠ FixFields.bodyLength ∧
        FixFields.msgType ≠ checkSum := by decide
    refine ⟨⟨completed.legible _ _ completed.type, plain⟩, ?_⟩
    rintro ⟨tag, value⟩ member
    obtain ⟨stored, -, nine, -, ten⟩ := mem_otherFields.mp member
    exact ⟨completed.legible tag value stored, nine, ten⟩
  · rw [joined, length]
  · rw [joined, ← length, toString_eq_emitted order completed.uncached,
      FixMessage.emitted, FixMessage.summed, version, same]
    simp only [List.flatMap_append, List.flatMap_cons, List.flatMap_nil, List.append_nil,
      List.append_assoc]

theorem carries (order : FieldOrder working.fields) (now : UtcTime) :
    Carries builder.config builder.nextSeqNum message (working.toString order)
      (FixMessage.ofString now (working.toString order)) where
  content tag value stored foreign := by
    have nine : tag ≠ FixFields.bodyLength := fun same => foreign (by rw [same]; decide)
    have ten : tag ≠ checkSum := fun same => foreign (by rw [same]; decide)
    exact completed.read order now
      (mem_emitted_of_stored order nine ten ((completed.foreign tag foreign).trans stored))
  only tag := completed.only order now
  sequence := completed.read order now
    (mem_emitted_of_stored order (by decide) (by decide) completed.sequence)
  sender := completed.read order now
    (mem_emitted_of_stored order (by decide) (by decide) completed.sender)
  target := completed.read order now
    (mem_emitted_of_stored order (by decide) (by decide) completed.target)
  version := completed.read order now
    (mem_emitted_of_stored order (by decide) (by decide) completed.version)
  bodyLength := by
    obtain ⟨body, plain, length, text⟩ := completed.text order
    have clean : soh ∉ working.calculateChecksum order := fun member =>
      absurd (isDigit_of_mem_padded member) (by decide)
    refine ⟨body, working.calculateChecksum order, clean, plain, text, ?_⟩
    rw [← length]
    exact completed.read order now (mem_emitted.mpr (.inr (.inl ⟨rfl, rfl⟩)))

end Completed

end Build

end FixBuilder

/-! ## A sequence of messages -/

/-- A call of `buildMessage` for the object of the given name. The order in which the map of the
working copy is traversed may be any. -/
structure BuildCall where
  source : Nat
  time : UtcTime
  order : ∀ fields, FieldOrder fields

/-- The builder, the objects in memory and the texts that were returned so far. -/
structure Building where
  builder : FixBuilder
  objects : Objects
  texts : List Bytes

namespace Building

open FixBuilder

/-- One call. Its working copy, with the caches that `toString` leaves in it, is the object named
`copy`. -/
def build (copy : Nat) (state : Building) (call : BuildCall) : Building :=
  match state.objects call.source with
  | none => state
  | some message =>
    let working := (state.builder.workingMessage message.toFixMessage call.time).1
    let (text, builder) :=
      state.builder.buildMessage message.toFixMessage call.time (call.order working.fields)
    let object : MessageObject := { toFixMessage := working }
    { builder
      objects := state.objects.put copy (object.toString (call.order working.fields)).2
      texts := state.texts ++ [text] }

/-- The call is made for an object other than the working copy, and with a message that has a type
and legible fields. -/
def Buildable (copy : Nat) (objects : Objects) (call : BuildCall) : Prop :=
  call.source ≠ copy ∧ ∃ message, objects call.source = some message ∧
    message.toFixMessage.getMsgType ≠ [] ∧ message.toFixMessage.AllLegible

section Run

variable {copy : Nat} {state : Building} {call : BuildCall}

/-- A call uses up one number, returns a text that carries its message, and touches no object but
the working copy. -/
theorem build_spec {message : MessageObject} (automatic : Automatic state.builder.config)
    (clean : Clean state.builder.config) (given : state.objects call.source = some message)
    (typed : message.toFixMessage.getMsgType ≠ []) (legible : message.toFixMessage.AllLegible) :
    (state.build copy call).builder = state.builder.advance ∧
      (∀ name, name ≠ copy → (state.build copy call).objects name = state.objects name) ∧
      ∃ text, (state.build copy call).texts = state.texts ++ [text] ∧
        ∀ now, Carries state.builder.config state.builder.nextSeqNum message.toFixMessage text
          (FixMessage.ofString now text) := by
  have completed : Completed state.builder message.toFixMessage
      (state.builder.workingMessage message.toFixMessage call.time).1 :=
    completed_working automatic clean typed legible
  rw [build, given]
  refine ⟨?_, fun name differs => Function.update_of_ne differs _ _, _, rfl, fun now => ?_⟩
  · change (state.builder.workingMessage message.toFixMessage call.time).2 = _
    rw [workingMessage_automatic automatic typed]
  · exact completed.carries (call.order _) now

theorem Buildable.congr {objects others : Objects}
    (same : ∀ name, name ≠ copy → others name = objects name)
    (buildable : Buildable copy objects call) : Buildable copy others call := by
  obtain ⟨differs, message, given, typed, legible⟩ := buildable
  exact ⟨differs, message, (same call.source differs).trans given, typed, legible⟩

/-- The texts of a sequence of calls carry the messages, under successive numbers, and the
messages stay as they are. -/
theorem sequence_carries (copy : Nat) (state : Building) (calls : List BuildCall)
    (automatic : Automatic state.builder.config) (clean : Clean state.builder.config)
    (room : state.builder.nextSeqNum + calls.length < 2 ^ 31)
    (buildable : ∀ call ∈ calls, Buildable copy state.objects call) :
    (∀ name, name ≠ copy →
      (Transition.execute (build copy) state calls).objects name = state.objects name) ∧
    ∃ texts, (Transition.execute (build copy) state calls).texts = state.texts ++ texts ∧
      texts.length = calls.length ∧
      ∀ (index : Nat) call text message, calls[index]? = some call → texts[index]? = some text →
        state.objects call.source = some message →
        ∀ now, Carries state.builder.config (state.builder.nextSeqNum + index)
          message.toFixMessage text (FixMessage.ofString now text) := by
  induction calls generalizing state with
  | nil =>
    refine ⟨fun _ _ => rfl, [], (List.append_nil _).symm, rfl, ?_⟩
    intro index call text message called
    cases called
  | cons call calls ih =>
    rw [List.forall_mem_cons] at buildable
    obtain ⟨differs, message, given, typed, legible⟩ := buildable.1
    obtain ⟨advanced, untouched, text, returned, carries⟩ :=
      @build_spec copy state call message automatic clean given typed legible
    have bounds := state.builder.inRange
    rw [List.length_cons] at room
    have next : (state.build copy call).builder.nextSeqNum = state.builder.nextSeqNum + 1 := by
      rw [advanced]
      exact wrapInt_of_bounds (by omega) (by omega)
    have config : (state.build copy call).builder.config = state.builder.config := by
      rw [advanced]
      rfl
    obtain ⟨kept, texts, rest, length, all⟩ := ih (state.build copy call)
      (config ▸ automatic) (config ▸ clean) (by omega)
      fun other member => (buildable.2 other member).congr untouched
    refine ⟨fun name other => (kept name other).trans (untouched name other), text :: texts, ?_,
      congrArg Nat.succ length, ?_⟩
    · rw [returned] at rest
      exact rest.trans (List.append_assoc _ _ _)
    · intro index other written source called found present now
      cases index with
      | zero =>
        cases called
        cases found
        rw [given] at present
        cases present
        rw [Nat.cast_zero, add_zero]
        exact carries now
      | succ index =>
        have apart := (buildable.2 other (List.mem_of_getElem? called)).1
        have here := (untouched other.source apart).trans present
        have carried := all index other written source called found here now
        rw [config, next] at carried
        have shifted : state.builder.nextSeqNum + 1 + (index : Int) =
            state.builder.nextSeqNum + (index + 1 : Nat) := by
          push_cast
          omega
        rw [shifted] at carried
        exact carried

end Run

/-- Traverse every map by increasing tags. -/
def sampleTraversal (fields : FieldMap) : FieldOrder fields :=
  .ofTags (fields.keys.sort (· ≤ ·)) (Finset.sort_nodup ..) (Finset.sort_toFinset ..)

/-- A message with a stale sequence number, under the name 1. -/
def sampleBuilding : Building where
  builder :=
    { config := { senderCompID := ascii "GATEWAY", targetCompID := ascii "EXCHANGE" }
      nextSeqNum := 7
      inRange := ⟨by decide, by decide⟩ }
  objects := Objects.put (fun _ => none) 1
    { toFixMessage := FixMessage.empty.setFields [(35, ascii "D"), (34, ascii "3")] }
  texts := []

def sampleCall : BuildCall := ⟨1, ⟨2025, 1, 1, 0, 0, 0, 0⟩, sampleTraversal⟩

/-- The message is built twice. -/
theorem sequence_carries_stale :
    ∃ texts, (Transition.execute (build 0) sampleBuilding [sampleCall, sampleCall]).texts = texts ∧
      texts.length = 2 ∧ ∀ text ∈ texts[1]?, ∀ now,
        (FixMessage.ofString now text).getField FixFields.msgSeqNum = some (ascii "8") := by
  have buildable : Buildable 0 sampleBuilding.objects sampleCall := by
    refine ⟨by decide, _, rfl, by decide, fun tag value found => ?_⟩
    have fields : ∀ field ∈ [((35 : Int), ascii "D"), (34, ascii "3")], Legible field := by decide
    rw [getField_setFields] at found
    rcases Option.or_eq_some_iff.mp found with last | ⟨-, initial⟩
    · exact fields _ (mem_of_lastValue last)
    · cases initial
  obtain ⟨-, texts, written, length, carries⟩ :=
    sequence_carries 0 sampleBuilding [sampleCall, sampleCall]
    ⟨rfl, rfl, rfl, rfl, by decide, by decide⟩ ⟨by decide, by decide, by decide⟩ (by decide)
    (by
      intro call member
      rw [List.mem_pair, or_self] at member
      rw [member]
      exact buildable)
  refine ⟨texts, written, length, fun text found now => ?_⟩
  exact (carries 1 sampleCall text _ rfl found rfl now).sequence

end Building

end FixGateway.Protocol
