import FixGateway.Concurrency.Transition
import FixGateway.Protocol.FixMsgType
import FixGateway.Protocol.Serialisation

/-! # The caches of a message

An object of class `FixMessage` caches its serialisation and its message type, each with
a flag of its own. Every write to the fields clears both flags. The move assignment is
the exception: it takes over the fields and the cached text of its source, and keeps the
cached type of the object that is assigned to.

Objects are named by numbers. What a move leaves in the field map of its source is not
specified, so it is an argument. The flags `checksumValid_` and `lengthValid_` are never
read and are left out.
-/

namespace FixGateway.Protocol

open ByteScan

/-- An object with both of its caches. -/
structure MessageObject extends FixMessage where
  cachedMsgType : FixMsgType := .unknown
  msgTypeCached : Bool := false

namespace MessageObject

/-- `invalidateCache`, for both caches. -/
def invalidate (object : MessageObject) : MessageObject where
  toFixMessage := object.toFixMessage.invalidateCache

/-! ## Constructors -/

def new (time : UtcTime) : MessageObject where
  toFixMessage := FixMessage.new time

def ofString (time : UtcTime) (rawMessage : Bytes) : MessageObject where
  toFixMessage := FixMessage.ofString time rawMessage

def ofFields (fields : FieldMap) : MessageObject where
  toFixMessage := FixMessage.ofFields fields

/-- The copy constructor, which copies no cache. -/
def copy (other : MessageObject) : MessageObject where
  fields := other.fields
  cachedString := []
  stringCacheValid := false

/-- The new object of the move constructor. -/
def moved (other : MessageObject) : MessageObject where
  fields := other.fields
  cachedString := other.cachedString
  stringCacheValid := other.stringCacheValid

/-- What a move makes of its source. -/
def emptied (other : MessageObject) (leftover : FieldMap) : MessageObject :=
  invalidate { other with fields := leftover }

/-! ## Assignments -/

/-- The copy assignment from another object. -/
def copyAssign (object other : MessageObject) : MessageObject :=
  invalidate { object with fields := other.fields }

/-- The move assignment from another object. -/
def moveAssign (object other : MessageObject) : MessageObject :=
  { object with
    fields := other.fields
    cachedString := other.cachedString
    stringCacheValid := other.stringCacheValid }

/-! ## Operations -/

def setField (object : MessageObject) (tag : Int) (value : Bytes) : MessageObject where
  toFixMessage := object.toFixMessage.setField tag value

def removeField (object : MessageObject) (tag : Int) : MessageObject :=
  if object.hasField tag then { toFixMessage := object.toFixMessage.removeField tag } else object

def updateLengthAndChecksum (object : MessageObject) : MessageObject := object.invalidate

/-- `toString`, which keeps what it has computed. -/
def toString (object : MessageObject) (order : FieldOrder object.fields) :
    Bytes × MessageObject :=
  if object.stringCacheValid then (object.cachedString, object)
  else
    let text := object.toFixMessage.toString order
    (text, { object with cachedString := text, stringCacheValid := true })

/-- `getMsgTypeEnum`, which keeps what it has found. -/
def getMsgTypeEnum (object : MessageObject) : FixMsgType × MessageObject :=
  if object.msgTypeCached then (object.cachedMsgType, object)
  else
    let type := FixMessage.typeOf object.fields
    (type, { object with cachedMsgType := type, msgTypeCached := true })

/-! ## Fresh caches -/

/-- What the object says about itself agrees with its fields: the type is that of its MsgType
field, and the text has the fields that a copy without caches writes. -/
structure Fresh (object : MessageObject) : Prop where
  type : object.getMsgTypeEnum.1 = FixMessage.typeOf object.fields
  text : ∀ (order : FieldOrder object.fields) (other : FieldOrder object.copy.fields),
    ∃ fields : List (Int × Bytes), (object.toString order).1 = fields.flatMap fieldText ∧
      fields.Perm (object.copy.emitted other)

/-- A cache that is marked valid holds what would be computed from the fields. -/
structure Sound (object : MessageObject) : Prop where
  type : object.msgTypeCached = true → object.cachedMsgType = FixMessage.typeOf object.fields
  text : object.stringCacheValid = true → ∃ order : FieldOrder object.fields,
    object.cachedString = (object.emitted order).flatMap fieldText

namespace Sound

variable {object other : MessageObject}

theorem fresh (sound : object.Sound) : object.Fresh where
  type := by
    unfold getMsgTypeEnum
    split
    · rename_i cached
      exact sound.type cached
    · rfl
  text := by
    intro order free
    unfold toString
    split
    · rename_i cached
      obtain ⟨written, text⟩ := sound.text cached
      exact ⟨object.emitted written, text, emitted_perm written free⟩
    · rename_i uncached
      refine ⟨object.emitted order, ?_, emitted_perm order free⟩
      exact FixMessage.toString_eq_emitted order (Bool.not_eq_true _ |>.mp uncached)

theorem of_invalid (untyped : object.msgTypeCached = false)
    (unwritten : object.stringCacheValid = false) : object.Sound where
  type := fun cached => by
    rw [untyped] at cached
    cases cached
  text := fun cached => by
    rw [unwritten] at cached
    cases cached

theorem moved (sound : other.Sound) : other.moved.Sound where
  type := fun cached => by cases cached
  text := sound.text

/-- A move assignment keeps a cached type, which has to be that of the new fields. -/
theorem moveAssign (sound : other.Sound) (matching : object.msgTypeCached = true →
      object.cachedMsgType = FixMessage.typeOf other.fields) :
    (object.moveAssign other).Sound where
  type := matching
  text := sound.text

theorem toString (sound : object.Sound) (order : FieldOrder object.fields) :
    (object.toString order).2.Sound := by
  unfold MessageObject.toString
  split
  · exact sound
  · rename_i uncached
    exact ⟨sound.type, fun _ => ⟨order,
      FixMessage.toString_eq_emitted order (Bool.not_eq_true _ |>.mp uncached)⟩⟩

theorem getMsgTypeEnum (sound : object.Sound) : object.getMsgTypeEnum.2.Sound := by
  unfold MessageObject.getMsgTypeEnum
  split
  · exact sound
  · exact ⟨fun _ => rfl, sound.text⟩

end Sound

end MessageObject

/-! ## Any number of objects -/

/-- The objects that are alive, by their names. -/
abbrev Objects := Nat → Option MessageObject

namespace Objects

variable {objects : Objects} {operation : Operation}

inductive Operation where
  | construct (name : Nat) (time : UtcTime)
  | constructString (name : Nat) (time : UtcTime) (rawMessage : Bytes)
  | constructFields (name : Nat) (fields : FieldMap)
  | copyConstruct (name source : Nat)
  | moveConstruct (name source : Nat) (leftover : FieldMap)
  | copyAssign (name source : Nat)
  | moveAssign (name source : Nat) (leftover : FieldMap)
  | setField (name : Nat) (tag : Int) (value : Bytes)
  | removeField (name : Nat) (tag : Int)
  | updateLengthAndChecksum (name : Nat)
  /-- The order in which the map is traversed may be any. -/
  | toString (name : Nat) (order : ∀ fields, FieldOrder fields)
  | getMsgTypeEnum (name : Nat)

/-- Store an object under a name. -/
def put (objects : Objects) (name : Nat) (object : MessageObject) : Objects :=
  Function.update objects name (some object)

/-- Apply an operation to the object of a name, if there is one. -/
def modify (objects : Objects) (name : Nat) (change : MessageObject → MessageObject) : Objects :=
  match objects name with
  | none => objects
  | some object => objects.put name (change object)

/-- Apply an operation that reads another object and leaves it in a new state. An object is not
constructed from itself, and an assignment to itself does nothing. -/
def transfer (objects : Objects) (source : Nat) (after : MessageObject → MessageObject)
    (name : Nat) (change : Option MessageObject → MessageObject → Option MessageObject) :
    Objects :=
  if name = source then objects
  else
    match objects source with
    | none => objects
    | some other =>
      match change (objects name) other with
      | none => objects
      | some object => (objects.put source (after other)).put name object

def step (objects : Objects) : Operation → Objects
  | .construct name time => objects.put name (.new time)
  | .constructString name time rawMessage => objects.put name (.ofString time rawMessage)
  | .constructFields name fields => objects.put name (.ofFields fields)
  | .copyConstruct name source => objects.transfer source id name fun _ other => some other.copy
  | .moveConstruct name source leftover =>
    objects.transfer source (·.emptied leftover) name fun _ other => some other.moved
  | .copyAssign name source =>
    objects.transfer source id name fun object other => object.map (·.copyAssign other)
  | .moveAssign name source leftover =>
    objects.transfer source (·.emptied leftover) name fun object other =>
      object.map (·.moveAssign other)
  | .setField name tag value => objects.modify name (·.setField tag value)
  | .removeField name tag => objects.modify name (·.removeField tag)
  | .updateLengthAndChecksum name => objects.modify name (·.updateLengthAndChecksum)
  | .toString name order => objects.modify name fun object => (object.toString (order _)).2
  | .getMsgTypeEnum name => objects.modify name fun object => object.getMsgTypeEnum.2

/-- A move assignment finds no cached type in the object that is assigned to, or the type of the
fields that it is given. -/
def Matching (objects : Objects) : Operation → Prop
  | .moveAssign name source _ =>
    name ≠ source → ∀ object ∈ objects name, ∀ other ∈ objects source,
      object.msgTypeCached = true → object.cachedMsgType = FixMessage.typeOf other.fields
  | _ => True

/-- All objects have a property. -/
def All (property : MessageObject → Prop) (objects : Objects) : Prop :=
  ∀ name, ∀ object ∈ objects name, property object

/-- A property of objects that depends on their caches only as far as these are marked valid, and
that filling a cache keeps. -/
structure Cached (property : MessageObject → Prop) : Prop where
  of_invalid : ∀ object : MessageObject, object.msgTypeCached = false →
    object.stringCacheValid = false → property object
  moved : ∀ other : MessageObject, property other → property other.moved
  toString : ∀ (object : MessageObject) (order : FieldOrder object.fields), property object →
    property (object.toString order).2
  getMsgTypeEnum : ∀ object : MessageObject, property object → property object.getMsgTypeEnum.2

namespace Cached

variable {property : MessageObject → Prop} (cached : Cached property)

include cached

theorem ofString (time : UtcTime) (rawMessage : Bytes) :
    property (MessageObject.ofString time rawMessage) := by
  refine cached.of_invalid _ rfl ?_
  change (FixMessage.ofString time rawMessage).stringCacheValid = false
  unfold FixMessage.ofString
  split <;> rfl

theorem removeField {object : MessageObject} (holds : property object) (tag : Int) :
    property (object.removeField tag) := by
  unfold MessageObject.removeField
  split
  · rename_i found
    refine cached.of_invalid _ rfl ?_
    change (FixMessage.removeField object.toFixMessage tag).stringCacheValid = false
    unfold FixMessage.removeField
    rw [if_pos found]
    rfl
  · exact holds

end Cached

namespace All

variable {objects : Objects} {property : MessageObject → Prop}

theorem put (all : All property objects) {name : Nat} {object : MessageObject}
    (holds : property object) : All property (objects.put name object) := by
  intro other present member
  unfold Objects.put at member
  by_cases same : other = name
  · rw [same, Function.update_self] at member
    cases member
    exact holds
  · rw [Function.update_of_ne same] at member
    exact all other present member

theorem modify (all : All property objects) {name : Nat} {change : MessageObject → MessageObject}
    (kept : ∀ object, property object → property (change object)) :
    All property (objects.modify name change) := by
  unfold Objects.modify
  split
  · exact all
  · rename_i object found
    exact all.put (kept object (all name object found))

theorem transfer (all : All property objects) {source name : Nat}
    {after : MessageObject → MessageObject}
    {change : Option MessageObject → MessageObject → Option MessageObject}
    (left : ∀ other, property other → property (after other))
    (made : name ≠ source → ∀ other ∈ objects source, ∀ object ∈ change (objects name) other,
      property object) : All property (objects.transfer source after name change) := by
  unfold Objects.transfer
  split
  · exact all
  · rename_i differ
    split
    · exact all
    · rename_i other found
      split
      · exact all
      · rename_i object changed
        exact (all.put (left other (all source other found))).put
          (made differ other found object changed)

/-- Every operation keeps a property of the caches, if the move assignment does. -/
theorem step (all : All property objects) (cached : Cached property) {operation : Operation}
    (assigned : ∀ name source leftover, operation = .moveAssign name source leftover →
      name ≠ source → ∀ object ∈ objects name, ∀ other ∈ objects source,
        property (object.moveAssign other)) : All property (objects.step operation) := by
  have emptied : ∀ leftover (other : MessageObject), property other →
      property (other.emptied leftover) :=
    fun _ _ _ => cached.of_invalid _ rfl rfl
  cases operation with
  | construct name time => exact all.put (cached.of_invalid _ rfl rfl)
  | constructString name time rawMessage => exact all.put (cached.ofString time rawMessage)
  | constructFields name fields => exact all.put (cached.of_invalid _ rfl rfl)
  | copyConstruct name source =>
    rw [Objects.step]
    refine all.transfer (fun _ holds => holds) fun _ other _ object made => ?_
    cases made
    exact cached.of_invalid _ rfl rfl
  | moveConstruct name source leftover =>
    rw [Objects.step]
    refine all.transfer (emptied leftover) fun _ other found object made => ?_
    cases made
    exact cached.moved other (all source other found)
  | copyAssign name source =>
    rw [Objects.step]
    refine all.transfer (fun _ holds => holds) fun _ other _ object made => ?_
    obtain ⟨before, -, rfl⟩ := Option.map_eq_some_iff.mp made
    exact cached.of_invalid _ rfl rfl
  | moveAssign name source leftover =>
    rw [Objects.step]
    refine all.transfer (emptied leftover) fun differ other found object made => ?_
    obtain ⟨before, present, rfl⟩ := Option.map_eq_some_iff.mp made
    exact assigned name source leftover rfl differ before present other found
  | setField name tag value => exact all.modify fun _ _ => cached.of_invalid _ rfl rfl
  | removeField name tag => exact all.modify fun _ holds => cached.removeField holds tag
  | updateLengthAndChecksum name => exact all.modify fun _ _ => cached.of_invalid _ rfl rfl
  | toString name order => exact all.modify fun object holds => cached.toString object _ holds
  | getMsgTypeEnum name => exact all.modify cached.getMsgTypeEnum

end All

/-- All caches of all objects are sound. -/
def AllSound (objects : Objects) : Prop := ∀ name, ∀ object ∈ objects name, object.Sound

theorem cached_sound : Cached MessageObject.Sound where
  of_invalid _ untyped unwritten := .of_invalid untyped unwritten
  moved _ sound := sound.moved
  toString _ order sound := sound.toString order
  getMsgTypeEnum _ sound := sound.getMsgTypeEnum

/-- Every operation keeps the caches sound, if a move assignment meets a matching type. -/
theorem AllSound.step (all : objects.AllSound) (matching : objects.Matching operation) :
    (objects.step operation).AllSound := by
  refine All.step all cached_sound ?_
  rintro name source leftover rfl differ object present other found
  exact (all source other found).moveAssign (matching differ object present other found)

/-- A move assignment that meets another type leaves a stale one behind. -/
theorem stale_of_not_matching (differs : ¬ objects.Matching operation) :
    ∃ name, ∃ object ∈ objects.step operation name, ¬ object.Fresh := by
  cases operation with
  | moveAssign name source leftover =>
    simp only [Matching, not_forall] at differs
    obtain ⟨differ, object, present, other, found, cached, stale⟩ := differs
    refine ⟨name, object.moveAssign other, ?_, fun fresh => stale ?_⟩
    · rw [Option.mem_def] at present found ⊢
      simp only [step, transfer, differ, if_false, found, present, Option.map_some, put,
        Function.update_self]
    · have said := fresh.type
      have kept : (object.moveAssign other).msgTypeCached = true := cached
      rw [MessageObject.getMsgTypeEnum, if_pos kept] at said
      exact said
  | _ => exact absurd trivial differs

/-- No object is alive. -/
def Initial (objects : Objects) : Prop := ∀ name, objects name = none

/-- In every run whose move assignments meet matching types, all objects are fresh in every
state, those that were moved from included. A move assignment that meets another type leaves a
stale object. -/
theorem objects_fresh {objects : Objects} (run : Transition.Run Initial step Matching objects) :
    (∀ name, ∀ object ∈ objects name, object.Fresh) ∧
      ∀ operation, ¬ objects.Matching operation →
        ∃ name, ∃ object ∈ objects.step operation name, ¬ object.Fresh := by
  have all : objects.AllSound := by
    refine run.invariant AllSound (fun objects initial name object member => ?_)
      fun objects operation all matching => all.step matching
    rw [initial name] at member
    cases member
  exact ⟨fun name object member => (all name object member).fresh,
    fun operation differs => stale_of_not_matching differs⟩

def noObjects : Objects := fun _ => none

theorem noObjects_initial : Initial noObjects := fun _ => rfl

/-- An order is assigned to an object that was not asked for its type before. -/
def assignOrder : List Operation :=
  [.construct 0 ⟨2024, 1, 2, 3, 4, 5, 6⟩, .construct 1 ⟨2024, 1, 2, 3, 4, 5, 6⟩,
    .setField 1 FixFields.msgType (ascii "D"), .getMsgTypeEnum 1, .moveAssign 0 1 ∅]

theorem objects_fresh_assigned :
    ∃ object ∈ Transition.execute step noObjects assignOrder 0,
      object.Fresh ∧ object.getMsgTypeEnum.1 = .newOrderSingle := by
  have matching : Matching (Transition.execute step noObjects (assignOrder.take 4))
      (.moveAssign 0 1 ∅) := by
    intro _ object present other found cached
    cases present
    cases cached
  have allowed : Transition.Permits step Matching noObjects assignOrder :=
    ⟨trivial, trivial, trivial, trivial, matching, trivial⟩
  have run := Transition.Run.execute (.start noObjects_initial) allowed
  exact ⟨_, rfl, (objects_fresh run).1 0 _ rfl, by decide +kernel⟩

/-- A heartbeat is asked for its type, and an order is assigned to it. -/
def assignOverHeartbeat : List Operation :=
  [.construct 0 ⟨2024, 1, 2, 3, 4, 5, 6⟩, .setField 0 FixFields.msgType (ascii "0"),
    .getMsgTypeEnum 0, .construct 1 ⟨2024, 1, 2, 3, 4, 5, 6⟩,
    .setField 1 FixFields.msgType (ascii "D"), .moveAssign 0 1 ∅]

/-- The object has the fields of an order and says that it is a heartbeat. -/
theorem assigned_order_says_heartbeat :
    ∃ objects : Objects, Transition.Run Initial step Transition.unrestricted objects ∧
      ∃ object ∈ objects 0, object.getField FixFields.msgType = some (ascii "D") ∧
        object.getMsgTypeEnum.1 = .heartbeat ∧ ¬ object.Fresh := by
  refine ⟨Transition.execute step noObjects assignOverHeartbeat,
    Transition.Run.execute (.start noObjects_initial) (Transition.permits_unrestricted ..),
    _, rfl, by decide +kernel, by decide +kernel, fun fresh => ?_⟩
  exact absurd fresh.type (by decide +kernel)

end Objects

end FixGateway.Protocol
