import FixGateway.Protocol.Parser.Basic
import FixGateway.Utils.FastStringConversion

/-! # Building messages

`FixMessage::toString` writes BeginString, BodyLength and MsgType, then the other
fields in the order in which the hash map gives them, and then the checksum. It
computes BodyLength and the checksum by two further traversals of the map, and the
one for the checksum goes over the stored fields, not over the text written so
far. `FixBuilder` completes the header of a copy of a message and serialises it.

The order of the hash map is unspecified. `FieldOrder` is an enumeration of a map;
the three traversals of one call see the same one.
-/

namespace FixGateway.Protocol

open ByteScan FixGateway.Utils

/-- An order in which a traversal may visit the fields of a map. -/
structure FieldOrder (fields : FieldMap) where
  entries : List (Int × Bytes)
  nodup : (entries.map Prod.fst).Nodup
  complete : ∀ tag value, (tag, value) ∈ entries ↔ fields.lookup tag = some value

/-- The fields in the order of a list of their tags. -/
def FieldOrder.ofTags {fields : FieldMap} (tags : List Int) (distinct : tags.Nodup)
    (all : tags.toFinset = fields.keys) : FieldOrder fields where
  entries := tags.map fun tag => (tag, (fields.lookup tag).getD [])
  nodup := by
    rw [List.map_map]
    exact distinct.map fun _ _ same => same
  complete := by
    intro tag value
    have keyed : tag ∈ tags ↔ (fields.lookup tag).isSome := by
      rw [← List.mem_toFinset, all, Finmap.mem_keys, Finmap.lookup_isSome]
    rw [List.mem_map]
    constructor
    · rintro ⟨other, member, same⟩
      cases same
      obtain ⟨value, found⟩ := Option.isSome_iff_exists.mp (keyed.mp member)
      rw [found]
      rfl
    · intro found
      exact ⟨tag, keyed.mpr (by rw [found]; rfl), by rw [found]; rfl⟩

/-- A field as `toString` writes it. -/
def fieldText (field : Int × Bytes) : Bytes := toText field.1 ++ [equals] ++ field.2 ++ [soh]

namespace FixMessage

variable (message : FixMessage)

def getMsgType : Bytes := message.getFieldValue FixFields.msgType

/-- `toStringWithoutChecksum`. -/
def toStringWithoutChecksum (order : FieldOrder message.fields) : Bytes :=
  (order.entries.filter fun field => field.1 ≠ FixFields.checkSum).flatMap fieldText

/-- `calculateBodyLength`. -/
def calculateBodyLength (order : FieldOrder message.fields) : Nat :=
  ((order.entries.filter fun field => field.1 ≠ FixFields.beginString ∧
    field.1 ≠ FixFields.bodyLength ∧ field.1 ≠ FixFields.checkSum).map fun field =>
      (toText field.1).length + 1 + field.2.length + 1).sum

/-- `calculateChecksum`. -/
def calculateChecksum (order : FieldOrder message.fields) : Bytes :=
  padded 3 (checksum (message.toStringWithoutChecksum order))

/-- The fields that `toString` writes between MsgType and the checksum. -/
def otherFields (order : FieldOrder message.fields) : List (Int × Bytes) :=
  order.entries.filter fun field => field.1 ≠ FixFields.beginString ∧
    field.1 ≠ FixFields.bodyLength ∧ field.1 ≠ FixFields.msgType ∧ field.1 ≠ FixFields.checkSum

/-- `toString`. -/
def toString (order : FieldOrder message.fields) : Bytes :=
  if message.stringCacheValid then message.cachedString
  else
    let version := if message.hasField FixFields.beginString then
      message.getFieldValue FixFields.beginString else fixVersion44
    fieldText (FixFields.beginString, version) ++
      fieldText (FixFields.bodyLength, decimal (message.calculateBodyLength order)) ++
      fieldText (FixFields.msgType, message.getMsgType) ++
      (message.otherFields order).flatMap fieldText ++
      fieldText (FixFields.checkSum, message.calculateChecksum order)

end FixMessage

/-- `FixBuilder::BuilderConfig`. -/
structure BuilderConfig where
  senderCompID : Bytes
  targetCompID : Bytes
  beginString : Bytes := fixVersion44
  autoSequenceNumber : Bool := true
  autoTimestamp : Bool := true
  autoBodyLength : Bool := true
  autoChecksum : Bool := true

/-- A builder. Its next sequence number is an `int`. -/
structure FixBuilder where
  config : BuilderConfig
  nextSeqNum : Int
  inRange : -2 ^ 31 ≤ nextSeqNum ∧ nextSeqNum < 2 ^ 31

namespace FixBuilder

variable (builder : FixBuilder)

/-- `nextSeqNum_++`. -/
def advance : FixBuilder :=
  { builder with
    nextSeqNum := wrapInt (builder.nextSeqNum + 1)
    inRange := wrapInt_bounds _ }

/-- `addStandardHeader` at the given time. -/
def addStandardHeader (message : FixMessage) (msgType : Bytes) (time : UtcTime) :
    FixMessage × FixBuilder :=
  let message := message.setField FixFields.beginString builder.config.beginString
  let message :=
    if builder.config.autoBodyLength = false ∧ message.hasField FixFields.bodyLength = false then
      message.setField FixFields.bodyLength (ascii "0") else message
  let message := if msgType = [] then message else message.setField FixFields.msgType msgType
  let message :=
    if builder.config.senderCompID = [] then message
    else message.setField FixFields.senderCompID builder.config.senderCompID
  let message :=
    if builder.config.targetCompID = [] then message
    else message.setField FixFields.targetCompID builder.config.targetCompID
  let (message, builder) :=
    if builder.config.autoSequenceNumber then
      (message.setField FixFields.msgSeqNum (FastStringConversion.intToString builder.nextSeqNum),
        builder.advance)
    else (message, builder)
  let message := if builder.config.autoTimestamp then message.setSendingTime time else message
  (message, builder)

/-- `addStandardTrailer`. -/
def addStandardTrailer (message : FixMessage) : FixMessage :=
  if builder.config.autoChecksum = false ∧ message.hasField FixFields.checkSum = false then
    message.setField FixFields.checkSum (ascii "000") else message

/-- The working copy that `buildImpl` serialises. Copying a message does not copy
its cached text. -/
def workingMessage (message : FixMessage) (time : UtcTime) : FixMessage × FixBuilder :=
  let (message, builder) :=
    builder.addStandardHeader message.invalidateCache message.getMsgType time
  let message := builder.addStandardTrailer message
  (if builder.config.autoBodyLength || builder.config.autoChecksum then message.invalidateCache
    else message, builder)

/-- `buildMessage`, with the order of the working copy's fields. -/
def buildMessage (message : FixMessage) (time : UtcTime)
    (order : FieldOrder (builder.workingMessage message time).1.fields) : Bytes × FixBuilder :=
  ((builder.workingMessage message time).1.toString order, (builder.workingMessage message time).2)

/-! ## A builder with the default flags -/

section Standard

variable {builder} {sender target : Bytes} {message : FixMessage} {time : UtcTime}

/-- The flags have their default values, and there is something to write into the header. -/
structure Automatic (config : BuilderConfig) : Prop where
  sequenceNumber : config.autoSequenceNumber = true
  timestamp : config.autoTimestamp = true
  bodyLength : config.autoBodyLength = true
  checksum : config.autoChecksum = true
  sender : config.senderCompID ≠ []
  target : config.targetCompID ≠ []

/-- What `addStandardHeader` writes with the default flags and the configured BeginString. -/
def completedHeader (builder : FixBuilder) (msgType : Bytes) (time : UtcTime) :
    List (Int × Bytes) :=
  [(FixFields.beginString, builder.config.beginString), (FixFields.msgType, msgType),
    (FixFields.senderCompID, builder.config.senderCompID),
    (FixFields.targetCompID, builder.config.targetCompID),
    (FixFields.msgSeqNum, FastStringConversion.intToString builder.nextSeqNum),
    (FixFields.sendingTime, time.format)]

/-- The working copy has the fields of the message and of the completed header. The sequence
number is used up. -/
theorem workingMessage_automatic (automatic : Automatic builder.config)
    (typed : message.getMsgType ≠ []) :
    builder.workingMessage message time =
      ((message.invalidateCache.setFields
        (builder.completedHeader message.getMsgType time)).invalidateCache, builder.advance) := by
  unfold workingMessage addStandardHeader addStandardTrailer completedHeader
  simp [automatic.sequenceNumber, automatic.timestamp, automatic.bodyLength, automatic.checksum,
    automatic.sender, automatic.target, typed, advance]
  rfl

end Standard

end FixBuilder

end FixGateway.Protocol
