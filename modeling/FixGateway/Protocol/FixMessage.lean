import FixGateway.Memory.Number
import Mathlib.Data.Finmap

/-! # FIX messages

A `FixMessage` is a finite map from tags to values, together with the cached
text that every write to the map invalidates. The constructor stamps tag 52
(`SendingTime`) with the current time, so a message never starts out empty; the
time it reads is an argument here.

The map of the source is a hash map. Where its iteration order matters, the
order is an argument.
-/

namespace FixGateway.Protocol

open ByteScan

/-- `FIX_SOH`, the field delimiter. -/
def soh : UInt8 := 1

/-- `FIX_EQUALS`, the separator of tag and value. -/
def equals : UInt8 := 61

/-- `FIX_VERSION_44`. -/
def fixVersion44 : Bytes := ascii "FIX.4.4"

namespace FixFields

def beginSeqNo : Int := 7
def beginString : Int := 8
def bodyLength : Int := 9
def checkSum : Int := 10
def endSeqNo : Int := 16
def msgSeqNum : Int := 34
def msgType : Int := 35
def newSeqNo : Int := 36
def possDupFlag : Int := 43
def refSeqNum : Int := 45
def senderCompID : Int := 49
def sendingTime : Int := 52
def targetCompID : Int := 56
def text : Int := 58
def heartBtInt : Int := 108
def testReqID : Int := 112
def gapFillFlag : Int := 123
def resetSeqNumFlag : Int := 141

end FixFields

/-- A UTC time as `gmtime` breaks it down, with its milliseconds. -/
structure UtcTime where
  year : Nat
  month : Nat
  day : Nat
  hour : Nat
  minute : Nat
  second : Nat
  millisecond : Nat
  deriving DecidableEq, Repr

/-- The FIX timestamp format `YYYYMMDD-HH:MM:SS.sss`. -/
def UtcTime.format (time : UtcTime) : Bytes :=
  padded 4 time.year ++ padded 2 time.month ++ padded 2 time.day ++ ascii "-" ++
    padded 2 time.hour ++ ascii ":" ++ padded 2 time.minute ++ ascii ":" ++
    padded 2 time.second ++ ascii "." ++ padded 3 time.millisecond

/-- The fields of a message by tag. -/
abbrev FieldMap := Finmap fun _ : Int => Bytes

/-- A message: its fields, and its serialisation once that was computed. -/
structure FixMessage where
  fields : FieldMap
  cachedString : Bytes
  stringCacheValid : Bool

namespace FixMessage

/-- A message without fields. -/
def empty : FixMessage := ⟨∅, [], false⟩

def getField (message : FixMessage) (tag : Int) : Option Bytes := message.fields.lookup tag

def hasField (message : FixMessage) (tag : Int) : Bool := (message.getField tag).isSome

/-- `getFieldValue`: the value of a field, or the empty string. -/
def getFieldValue (message : FixMessage) (tag : Int) : Bytes := (message.getField tag).getD []

/-- `invalidateCache`. -/
def invalidateCache (message : FixMessage) : FixMessage :=
  { message with cachedString := [], stringCacheValid := false }

def setField (message : FixMessage) (tag : Int) (value : Bytes) : FixMessage :=
  invalidateCache { message with fields := message.fields.insert tag value }

/-- `setSendingTime`. -/
def setSendingTime (message : FixMessage) (time : UtcTime) : FixMessage :=
  message.setField FixFields.sendingTime time.format

/-- The default constructor, run at the given time. -/
def new (time : UtcTime) : FixMessage := empty.setSendingTime time

/-- The constructor from a field map. -/
def ofFields (fields : FieldMap) : FixMessage := ⟨fields, [], false⟩

/-- `removeField`: a field that is not there is not removed. -/
def removeField (message : FixMessage) (tag : Int) : FixMessage :=
  if message.hasField tag then
    invalidateCache { message with fields := message.fields.erase tag }
  else message

/-- `updateLengthAndChecksum` leaves the work to `toString`. -/
def updateLengthAndChecksum (message : FixMessage) : FixMessage := message.invalidateCache

/-- The loop of `parseFromString`, for at most the given number of rounds. A field ends at the
first SOH after its equals sign; one whose tag is not a number is skipped. -/
def parseFields : Nat → Bytes → FieldMap → FieldMap
  | 0, _, fields => fields
  | rounds + 1, rest, fields =>
    match rest.dropWhile (· ≠ equals) with
    | [] => fields
    | _ :: after =>
      let value := after.takeWhile (· ≠ soh)
      let fields :=
        match stoi (rest.takeWhile (· ≠ equals)) with
        | some tag => fields.insert tag value
        | none => fields
      parseFields rounds (after.drop (value.length + 1)) fields

/-- `parseFromString`. A round of its loop goes past an equals sign. -/
def parseFromString (message : FixMessage) (rawMessage : Bytes) : FixMessage :=
  invalidateCache
    { message with fields := parseFields rawMessage.length rawMessage message.fields }

/-- The constructor from a raw string, run at the given time. -/
def ofString (time : UtcTime) (rawMessage : Bytes) : FixMessage :=
  if rawMessage = [] then new time else (new time).parseFromString rawMessage

/-- Write a list of fields, one after the other. -/
def setFields (message : FixMessage) (assignments : List (Int × Bytes)) : FixMessage :=
  assignments.foldl (fun message assignment => message.setField assignment.1 assignment.2) message

section Lemmas

variable {message : FixMessage} {tag other : Int} {value : Bytes} {assignments : List (Int × Bytes)}

@[simp] theorem getField_setField_self : (message.setField tag value).getField tag = some value :=
  Finmap.lookup_insert _

theorem getField_setField_of_ne (differs : other ≠ tag) :
    (message.setField tag value).getField other = message.getField other :=
  Finmap.lookup_insert_of_ne _ differs

theorem getField_setField :
    (message.setField tag value).getField other =
      if other = tag then some value else message.getField other := by
  by_cases same : other = tag
  · rw [if_pos same, same, getField_setField_self]
  · rw [if_neg same, getField_setField_of_ne same]

theorem getField_new (time : UtcTime) :
    (new time).getField tag = if tag = FixFields.sendingTime then some time.format else none :=
  getField_setField

@[simp] theorem setFields_cons (assignment : Int × Bytes) (rest : List (Int × Bytes)) :
    message.setFields (assignment :: rest) =
      (message.setField assignment.1 assignment.2).setFields rest :=
  rfl

theorem setFields_append (front back : List (Int × Bytes)) :
    message.setFields (front ++ back) = (message.setFields front).setFields back :=
  List.foldl_append

/-- The value a tag has last in a list of fields. -/
def lastValue (tag : Int) (assignments : List (Int × Bytes)) : Option Bytes :=
  (assignments.reverse.find? fun assignment => assignment.1 = tag).map Prod.snd

/-- The last write to a tag decides its value. -/
theorem getField_setFields (assignments : List (Int × Bytes)) :
    (message.setFields assignments).getField tag =
      (lastValue tag assignments).or (message.getField tag) := by
  induction assignments using List.reverseRecOn with
  | nil => rfl
  | append_singleton front assignment ih =>
    have step : message.setFields (front ++ [assignment]) =
        (message.setFields front).setField assignment.1 assignment.2 := by
      rw [setFields_append]
      rfl
    rw [step, getField_setField, ih]
    by_cases same : tag = assignment.1
    · simp [lastValue, same]
    · have differs : ¬ assignment.1 = tag := fun equal => same equal.symm
      simp [lastValue, same, differs]

theorem lastValue_append (front back : List (Int × Bytes)) :
    lastValue tag (front ++ back) = (lastValue tag back).or (lastValue tag front) := by
  simp [lastValue, List.find?_append, Option.map_or]

theorem lastValue_eq_none (absent : ∀ assignment ∈ assignments, assignment.1 ≠ tag) :
    lastValue tag assignments = none := by
  unfold lastValue
  rw [Option.map_eq_none_iff, List.find?_eq_none]
  intro assignment member
  simpa using absent assignment (List.mem_reverse.mp member)

theorem mem_of_lastValue (last : lastValue tag assignments = some value) :
    (tag, value) ∈ assignments := by
  unfold lastValue at last
  obtain ⟨⟨other, same⟩, found, rfl⟩ := Option.map_eq_some_iff.mp last
  have matched := List.find?_some found
  rw [decide_eq_true_eq] at matched
  subst matched
  exact List.mem_reverse.mp (List.mem_of_find?_eq_some found)

theorem lastValue_of_mem (distinct : (assignments.map Prod.fst).Nodup)
    (member : (tag, value) ∈ assignments) : lastValue tag assignments = some value := by
  induction assignments using List.reverseRecOn with
  | nil => cases member
  | append_singleton front last ih =>
    rw [List.map_append, List.map_singleton, List.nodup_append] at distinct
    rw [lastValue_append]
    obtain early | only := List.mem_append.mp member
    · have differs : last.1 ≠ tag := fun same =>
        distinct.2.2 tag (List.mem_map_of_mem early) last.1 (List.mem_singleton_self _) same.symm
      have absent : lastValue tag [last] = none :=
        lastValue_eq_none (List.forall_mem_singleton.mpr differs)
      rw [absent, Option.none_or, ih distinct.1 early]
    · rw [List.mem_singleton] at only
      subst only
      simp [lastValue]

theorem lastValue_isSome (member : (tag, value) ∈ assignments) :
    (lastValue tag assignments).isSome = true := by
  rw [lastValue, Option.isSome_map, List.find?_isSome]
  exact ⟨(tag, value), List.mem_reverse.mpr member, decide_eq_true rfl⟩

theorem hasField_setFields (member : (tag, value) ∈ assignments) :
    (message.setFields assignments).hasField tag = true := by
  rw [hasField, getField_setFields, Option.isSome_or, lastValue_isSome member, Bool.true_or]

end Lemmas

end FixMessage

end FixGateway.Protocol
