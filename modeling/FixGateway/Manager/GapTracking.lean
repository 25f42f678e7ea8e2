import FixGateway.Concurrency.Transition
import FixGateway.Manager.SequenceNumGapManager
import FixGateway.Memory.KeyedList

/-! # The gap queue as a finite map

Every function of the gap manager pops entries off the queue and pushes them back.
With nothing running in between, and as long as the queue has room, the queue
represents a finite map from the numbers tracked to their entries: `addGapEntry` adds a
number that is absent, `resolveGapEntry` removes one, `clearAllGaps` removes all, and
`processGaps` renews each entry that has timed out and drops the ones whose retries
are used up. `GapMap` says what the gap manager is for; `queue_refines_map` says that
the queue does this.
-/

namespace FixGateway.Manager

open Application ByteScan Common KeyedList Protocol Utils

/-- The numbers tracked, with their entries. -/
abbrev GapMap := Int → Option GapQueueEntry

/-- The entry that is made for a number at the given time. -/
def GapQueueEntry.fresh (now : Nat) (seqNum : Int) : GapQueueEntry where
  seqNum := seqNum
  timestamp := now
  timeoutDeadline := now + SequenceNumGapManager.gapTimeoutMs * 1000000

namespace GapMap

variable {reading : GapReading} {entry : GapQueueEntry}

open SequenceNumGapManager

/-- Add a number unless it is tracked. -/
def add (map : GapMap) (now : Nat) (seqNum : Int) : GapMap :=
  if (map seqNum).isSome then map
  else Function.update map seqNum (some (GapQueueEntry.fresh now seqNum))

def resolve (map : GapMap) (seqNum : Int) : GapMap := Function.update map seqNum none

def clear : GapMap := fun _ => none

/-- The numbers tracked. -/
def numbers (map : GapMap) : Set Int := {seqNum | (map seqNum).isSome}

/-- What is left of an entry after a pass: it is renewed when it has timed out, and
dropped when it has timed out with all its retries used up. -/
def renew (reading : GapReading) (entry : GapQueueEntry) : Option GapQueueEntry :=
  if entry.timeoutDeadline < reading.check then
    if entry.retryCount < maxRetryCount then
      some
        { entry with
          retryCount := entry.retryCount + 1
          timeoutDeadline := reading.renew + gapTimeoutMs * 1000000 }
    else none
  else some entry

/-- A pass that reads the clock for the entry of each number. -/
def process (map : GapMap) (readings : Int → GapReading) : GapMap :=
  fun seqNum => (map seqNum).bind (renew (readings seqNum))

theorem renew_frame {renewed : GapQueueEntry} (kept : renew reading entry = some renewed) :
    renewed.seqNum = entry.seqNum ∧ renewed.isResolved = entry.isResolved := by
  unfold renew at kept
  split at kept
  · split at kept
    · cases kept
      exact ⟨rfl, rfl⟩
    · cases kept
  · cases kept
    exact ⟨rfl, rfl⟩

theorem renew_isSome (left : entry.retryCount < maxRetryCount) : (renew reading entry).isSome := by
  unfold renew
  rw [if_pos left]
  split <;> rfl

end GapMap

namespace SequenceNumGapManager

variable {entries : List GapQueueEntry} {manager : SequenceNumGapManager}

/-- The readings of the clock in a pass, by number: the pass takes one pair of readings
for each entry of the queue in turn. -/
def readingOf (manager : SequenceNumGapManager) (readings : Nat → GapReading) (seqNum : Int) :
    GapReading :=
  readings ((manager.gapQueue.entries.map GapQueueEntry.seqNum).idxOf seqNum)

theorem processEntries_requeued (readings : Nat → GapReading)
    (nodup : (entries.map GapQueueEntry.seqNum).Nodup)
    (unresolved : ∀ entry ∈ entries, entry.isResolved = false) :
    (processEntries readings entries).2 = entries.filterMap fun entry =>
      GapMap.renew (readings ((entries.map GapQueueEntry.seqNum).idxOf entry.seqNum)) entry := by
  induction entries generalizing readings with
  | nil => rfl
  | cons entry rest ih =>
    have kept : (processEntry (readings 0) entry).2 = GapMap.renew (readings 0) entry := by
      unfold processEntry GapMap.renew isTimeout
      rw [if_neg (by rw [unresolved entry List.mem_cons_self]; exact Bool.false_ne_true)]
      simp only [decide_eq_true_eq]
      split
      · split <;> rfl
      · rfl
    obtain ⟨absent, distinct⟩ := List.nodup_cons.mp nodup
    have later : ∀ other ∈ rest,
        ((entry :: rest).map GapQueueEntry.seqNum).idxOf other.seqNum =
          (rest.map GapQueueEntry.seqNum).idxOf other.seqNum + 1 := by
      intro other member
      refine List.idxOf_cons_ne _ fun same => absent ?_
      exact List.mem_map.mpr ⟨other, member, same.symm⟩
    have tail := ih (fun index => readings (index + 1)) distinct
      fun other member => unresolved other (List.mem_cons_of_mem _ member)
    have renewed : (rest.filterMap fun other => GapMap.renew
        (readings (((entry :: rest).map GapQueueEntry.seqNum).idxOf other.seqNum)) other) =
        rest.filterMap fun other => GapMap.renew
          (readings ((rest.map GapQueueEntry.seqNum).idxOf other.seqNum + 1)) other :=
      List.filterMap_congr fun other member => by rw [later other member]
    change (processEntry (readings 0) entry).2.toList ++
      (processEntries (fun index => readings (index + 1)) rest).2 = _
    rw [kept, tail, List.filterMap_cons, renewed, List.map_cons, List.idxOf_cons_self]
    cases GapMap.renew (readings 0) entry <;> rfl

/-! ## What each call does -/

/-- Whether there is an unresolved entry for the number. -/
def tracked (entries : List GapQueueEntry) (seqNum : Int) : Bool :=
  entries.any fun entry => entry.seqNum = seqNum && !entry.isResolved

/-- What is left of the entries after popping them all fits back in. -/
theorem requeue {kept : List GapQueueEntry}
    (holding : manager.gapQueue.Holding gapQueueSize entries) (fewer : kept.length ≤ entries.length)
    : (manager.gapQueue.popAll.2.pushAll kept).Holding gapQueueSize kept := by
  have bound := holding.length_le
  have room : ([] : List GapQueueEntry).length + kept.length < gapQueueSize := by
    unfold gapQueueSize at bound ⊢
    rw [List.length_nil]
    omega
  exact holding.popAll.2.pushAll room

theorem hasGap_holding (holding : manager.gapQueue.Holding gapQueueSize entries) (seqNum : Int) :
    (manager.hasGap seqNum).1 = tracked entries seqNum ∧
      (manager.hasGap seqNum).2.gapQueue.Holding gapQueueSize entries := by
  unfold hasGap
  dsimp only
  rw [holding.popAll.1]
  exact ⟨rfl, requeue holding (le_refl _)⟩

/-- The queue is running and holds the entries of the map, none of them resolved. -/
structure Tracks (manager : SequenceNumGapManager) (map : GapMap) (entries : List GapQueueEntry) :
    Prop where
  holding : manager.gapQueue.Holding gapQueueSize entries
  represents : Represents GapQueueEntry.seqNum entries map
  unresolved : ∀ entry ∈ entries, entry.isResolved = false

namespace Tracks

variable {manager : SequenceNumGapManager} {map : GapMap} {entries : List GapQueueEntry}
  {entry : GapQueueEntry}

section

variable (tracks : manager.Tracks map entries)
include tracks

theorem length_lt : entries.length < gapQueueSize := by
  have bound := tracks.holding.length_le
  unfold gapQueueSize at bound ⊢
  omega

theorem tracked_eq (seqNum : Int) : tracked entries seqNum = (map seqNum).isSome := by
  unfold tracked
  rw [Bool.eq_iff_iff, tracks.represents.isSome_iff, List.any_eq_true]
  refine exists_congr fun entry => and_congr_right fun member => ?_
  rw [tracks.unresolved entry member]
  simp

theorem hasGap (seqNum : Int) :
    (manager.hasGap seqNum).1 = (map seqNum).isSome ∧
      (manager.hasGap seqNum).2.Tracks map entries := by
  obtain ⟨found, kept⟩ := hasGap_holding tracks.holding seqNum
  exact ⟨found.trans (tracks.tracked_eq seqNum), kept, tracks.represents, tracks.unresolved⟩

theorem add (now : Nat) (seqNum : Int) :
    Represents GapQueueEntry.seqNum
      (if (map seqNum).isSome then entries else entries ++ [GapQueueEntry.fresh now seqNum])
      (map.add now seqNum) := by
  unfold GapMap.add
  split
  · exact tracks.represents
  · rename_i absent
    exact tracks.represents.append (Option.not_isSome_iff_eq_none.mp absent)

theorem addGapEntry (now : Nat) (seqNum : Int)
    (room : (map seqNum).isSome ∨ entries.length < gapQueueSize - 1) :
    (manager.addGapEntry now seqNum).Tracks (map.add now seqNum)
      (if (map seqNum).isSome then entries else entries ++ [GapQueueEntry.fresh now seqNum]) := by
  have asked : SequenceNumGapManager.Tracks
      { manager with requested := seqNum :: manager.requested } map entries := { tracks with }
  obtain ⟨found, kept⟩ := asked.hasGap seqNum
  refine ⟨?_, tracks.add now seqNum, ?_⟩
  · unfold SequenceNumGapManager.addGapEntry
    dsimp only
    rw [found]
    split
    · exact kept.holding
    · rename_i absent
      have space : entries.length < gapQueueSize - 1 := room.resolve_left absent
      exact (kept.holding.push (by omega) _).2
  · split
    · exact tracks.unresolved
    · intro entry member
      rcases List.mem_append.mp member with before | added
      · exact tracks.unresolved entry before
      · rw [List.mem_singleton.mp added]
        rfl

theorem clearAllGaps : manager.clearAllGaps.Tracks GapMap.clear [] := by
  have cleared := tracks.holding.popAll.2
  exact ⟨⟨cleared.capacity, cleared.entries, cleared.running⟩, represents_nil _, nofun⟩

theorem process (readings : Int → GapReading) :
    Represents GapQueueEntry.seqNum
      (entries.filterMap fun entry => GapMap.renew (readings entry.seqNum) entry)
      (map.process readings) := by
  have changed := tracks.represents.filterMap
    (fun entry renewed (kept : GapMap.renew (readings entry.seqNum) entry = some renewed) =>
      (GapMap.renew_frame kept).1)
  have same : map.process readings =
      fun seqNum => (map seqNum).bind fun entry => GapMap.renew (readings entry.seqNum) entry := by
    funext seqNum
    unfold GapMap.process
    cases found : map seqNum with
    | none => rw [Option.bind_none, Option.bind_none]
    | some entry =>
      have named := ((tracks.represents.lookup seqNum entry).mp found).2
      rw [Option.bind_some, Option.bind_some, named]
  rw [same]
  exact changed

theorem processGaps (readings : Nat → GapReading) :
    ∃ kept, (manager.processGaps readings).2.Tracks
      (map.process (manager.readingOf readings)) kept := by
  have popped := tracks.holding.popAll.1
  have requeued : (processEntries readings entries).2 = entries.filterMap fun entry =>
      GapMap.renew (manager.readingOf readings entry.seqNum) entry := by
    unfold SequenceNumGapManager.readingOf
    rw [tracks.holding.entries]
    exact processEntries_requeued readings tracks.represents.nodup tracks.unresolved
  unfold SequenceNumGapManager.processGaps
  dsimp only
  rw [popped, requeued]
  refine ⟨_, requeue tracks.holding (List.length_filterMap_le _ _),
    tracks.process (manager.readingOf readings), ?_⟩
  intro renewed member
  obtain ⟨entry, held, kept⟩ := List.mem_filterMap.mp member
  rw [(GapMap.renew_frame kept).2]
  exact tracks.unresolved entry held

/-- No entry is resolved, so the search looks at the numbers only. -/
theorem wanted (seqNum : Int) (member : entry ∈ entries) :
    (entry.seqNum = seqNum && !entry.isResolved) = decide (entry.seqNum = seqNum) := by
  rw [tracks.unresolved entry member, Bool.not_false, Bool.and_true]

/-- Without an entry for the number `resolveGapEntry` pushes all entries back. -/
theorem resolve_absent {seqNum : Int} (untracked : map seqNum = none) :
    (manager.resolveGapEntry seqNum).1 = false ∧
      (manager.resolveGapEntry seqNum).2.Tracks map entries := by
  have absent : ∀ entry ∈ entries, (entry.seqNum = seqNum && !entry.isResolved) = false := by
    intro entry member
    rw [tracks.wanted seqNum member, decide_eq_false_iff_not]
    intro same
    rw [(tracks.represents.lookup seqNum entry).mpr ⟨member, same⟩] at untracked
    cases untracked
  have room := tracks.length_lt
  obtain ⟨all, none, empty⟩ := tracks.holding.popUntil_absent absent
  unfold SequenceNumGapManager.resolveGapEntry
  dsimp only
  rw [all, none]
  exact ⟨rfl, empty.pushAll (by rw [List.length_nil]; omega), tracks.represents, tracks.unresolved⟩

end

/-- Otherwise it drops the entry and pushes the ones before it back behind the others. -/
theorem resolve_entry {front back : List GapQueueEntry}
    (tracks : manager.Tracks map (front ++ entry :: back)) :
    (manager.resolveGapEntry entry.seqNum).1 = true ∧
      (manager.resolveGapEntry entry.seqNum).2.Tracks (map.resolve entry.seqNum)
        (back ++ front) := by
  have perm : (front ++ entry :: back).Perm (entry :: (back ++ front)) :=
    List.perm_middle.trans (List.perm_append_comm.cons entry)
  have represents := tracks.represents.perm perm.symm
  have before : ∀ other ∈ front, (other.seqNum = entry.seqNum && !other.isResolved) = false := by
    intro other member
    rw [tracks.wanted entry.seqNum (List.mem_append_left _ member), decide_eq_false_iff_not]
    intro same
    have absent := (List.nodup_cons.mp represents.nodup).1
    exact absent (List.mem_map.mpr ⟨other, List.mem_append_right _ member, same⟩)
  have met : (entry.seqNum = entry.seqNum && !entry.isResolved) = true := by
    rw [tracks.wanted entry.seqNum (List.mem_append_right _ List.mem_cons_self)]
    exact decide_eq_true rfl
  have room := tracks.length_lt
  rw [List.length_append, List.length_cons] at room
  obtain ⟨popped, found, left⟩ := tracks.holding.popUntil_split before met
  unfold SequenceNumGapManager.resolveGapEntry
  dsimp only
  rw [popped, found]
  refine ⟨rfl, left.pushAll (by omega), represents.remove, fun other member => ?_⟩
  exact tracks.unresolved other (perm.symm.subset (List.mem_cons_of_mem _ member))

theorem resolveGapEntry (tracks : manager.Tracks map entries) (seqNum : Int) :
    (manager.resolveGapEntry seqNum).1 = (map seqNum).isSome ∧
      ∃ kept, (manager.resolveGapEntry seqNum).2.Tracks (map.resolve seqNum) kept := by
  cases tracked : map seqNum with
  | none =>
    obtain ⟨returned, kept⟩ := tracks.resolve_absent tracked
    refine ⟨returned, entries, ?_⟩
    unfold GapMap.resolve
    rw [Function.update_eq_self_iff.mpr tracked.symm]
    exact kept
  | some entry =>
    obtain ⟨member, rfl⟩ := (tracks.represents.lookup seqNum entry).mp tracked
    obtain ⟨front, back, rfl⟩ := List.append_of_mem member
    obtain ⟨returned, kept⟩ := tracks.resolve_entry
    exact ⟨returned, back ++ front, kept⟩

end Tracks

end SequenceNumGapManager

/-! ## Runs -/

open SequenceNumGapManager

/-- The gap manager with what it sends with, and beside it the numbers that the calls so far
track. -/
structure GapTracking where
  manager : SequenceNumGapManager
  side : ResendSide
  map : GapMap

/-- The calls on the gap manager. Between two of them the rest of the gateway may change
what the gap manager sends with. -/
inductive GapOperation where
  | addGapEntry (now : Nat) (seqNum : Int)
  | hasGap (seqNum : Int)
  | resolveGapEntry (seqNum : Int)
  | getGapCount
  | clearAllGaps
  | processGaps (utc : UtcTime) (readings : Nat → GapReading)
  | traffic (side : ResendSide)

namespace GapTracking

variable {tracking : GapTracking}

/-- Make the call and record its meaning in the map. -/
def step (tracking : GapTracking) : GapOperation → GapTracking
  | .addGapEntry now seqNum =>
    { tracking with
      manager := tracking.manager.addGapEntry now seqNum
      map := tracking.map.add now seqNum }
  | .hasGap seqNum => { tracking with manager := (tracking.manager.hasGap seqNum).2 }
  | .resolveGapEntry seqNum =>
    { tracking with
      manager := (tracking.manager.resolveGapEntry seqNum).2
      map := tracking.map.resolve seqNum }
  | .getGapCount => tracking
  | .clearAllGaps =>
    { tracking with manager := tracking.manager.clearAllGaps, map := GapMap.clear }
  | .processGaps utc readings =>
    let (requests, manager) := tracking.manager.processGaps readings
    { manager := manager
      side := requests.foldl (fun side seqNum => side.sendResendRequest utc seqNum) tracking.side
      map := tracking.map.process (tracking.manager.readingOf readings) }
  | .traffic side => { tracking with side := side }

def Initial (tracking : GapTracking) : Prop :=
  tracking.manager = SequenceNumGapManager.new ∧ tracking.map = GapMap.clear

/-- The call leaves at most 1023 numbers tracked. -/
def Fits (tracking : GapTracking) (operation : GapOperation) : Prop :=
  (tracking.step operation).map.numbers.ncard ≤ gapQueueSize - 1

/-- The queue holds one unresolved entry for each number of the map, and the calls return
and do what the map says. -/
structure Refines (tracking : GapTracking) : Prop where
  nodup : (tracking.manager.gapQueue.entries.map GapQueueEntry.seqNum).Nodup
  unresolved : ∀ entry ∈ tracking.manager.gapQueue.entries, entry.isResolved = false
  lookup : ∀ seqNum entry, tracking.map seqNum = some entry ↔
    entry ∈ tracking.manager.gapQueue.entries ∧ entry.seqNum = seqNum
  getGapCount : tracking.manager.getGapCount = tracking.map.numbers.ncard
  hasGap : ∀ seqNum, (tracking.manager.hasGap seqNum).1 = (tracking.map seqNum).isSome ∧
    (tracking.manager.hasGap seqNum).2.gapQueue.entries = tracking.manager.gapQueue.entries
  addGapEntry : ∀ now seqNum, tracking.Fits (.addGapEntry now seqNum) →
    (tracking.manager.addGapEntry now seqNum).gapQueue.entries =
      if (tracking.map seqNum).isSome then tracking.manager.gapQueue.entries
      else tracking.manager.gapQueue.entries ++ [GapQueueEntry.fresh now seqNum]
  resolveGapEntry : ∀ seqNum,
    (tracking.manager.resolveGapEntry seqNum).1 = (tracking.map seqNum).isSome ∧
      (tracking.manager.resolveGapEntry seqNum).2.gapQueue.entries.Perm
        (tracking.manager.gapQueue.entries.filter fun entry => entry.seqNum ≠ seqNum)
  processGaps : ∀ readings, ∀ entry ∈ tracking.manager.gapQueue.entries,
    entry.retryCount < maxRetryCount →
      ∃ kept ∈ (tracking.manager.processGaps readings).2.gapQueue.entries,
        kept.seqNum = entry.seqNum

/-- The queue holds the entries of the map in some order. -/
def Represented (tracking : GapTracking) : Prop :=
  ∃ entries, tracking.manager.Tracks tracking.map entries

theorem capacity_eq : SequenceNumGapManager.new.gapQueue.capacity = gapQueueSize := by decide

theorem represented_of_initial (initial : tracking.Initial) : tracking.Represented := by
  obtain ⟨manager, side, map⟩ := tracking
  obtain ⟨rfl, rfl⟩ := initial
  exact ⟨[], ⟨capacity_eq, rfl, rfl⟩, represents_nil _, nofun⟩

theorem Fits.room {entries : List GapQueueEntry} {now : Nat} {seqNum : Int}
    (fits : tracking.Fits (.addGapEntry now seqNum))
    (tracks : tracking.manager.Tracks tracking.map entries) :
    (tracking.map seqNum).isSome ∨ entries.length < gapQueueSize - 1 := by
  by_cases tracked : (tracking.map seqNum).isSome
  · exact .inl tracked
  · have added : (tracking.map.add now seqNum).numbers.ncard ≤ gapQueueSize - 1 := fits
    have count := (tracks.add now seqNum).ncard_eq
    rw [if_neg tracked, List.length_append, List.length_singleton] at count
    unfold GapMap.numbers at added
    omega

theorem Represented.step (represented : tracking.Represented) {operation : GapOperation}
    (fits : tracking.Fits operation) : (tracking.step operation).Represented := by
  obtain ⟨entries, tracks⟩ := represented
  cases operation with
  | addGapEntry now seqNum => exact ⟨_, tracks.addGapEntry now seqNum (fits.room tracks)⟩
  | hasGap seqNum => exact ⟨entries, (tracks.hasGap seqNum).2⟩
  | resolveGapEntry seqNum => exact (tracks.resolveGapEntry seqNum).2
  | getGapCount => exact ⟨entries, tracks⟩
  | clearAllGaps => exact ⟨[], tracks.clearAllGaps⟩
  | processGaps utc readings => exact tracks.processGaps readings
  | traffic side => exact ⟨entries, tracks⟩

theorem Represented.refines (represented : tracking.Represented) : tracking.Refines := by
  obtain ⟨entries, tracks⟩ := represented
  have held := tracks.holding.entries
  subst held
  have represents := tracks.represents
  refine
    { nodup := represents.nodup
      unresolved := tracks.unresolved
      lookup := represents.lookup
      getGapCount := represents.ncard_eq.symm
      hasGap := fun seqNum =>
        ⟨(tracks.hasGap seqNum).1, (tracks.hasGap seqNum).2.holding.entries⟩
      addGapEntry := fun now seqNum fits =>
        (tracks.addGapEntry now seqNum (fits.room tracks)).holding.entries
      resolveGapEntry := fun seqNum => ?_
      processGaps := fun readings entry member left => ?_ }
  · obtain ⟨found, kept, after⟩ := tracks.resolveGapEntry seqNum
    refine ⟨found, ?_⟩
    rw [after.holding.entries]
    refine (List.perm_ext_iff_of_nodup after.represents.nodup_entries
      (represents.nodup_entries.filter _)).mpr fun entry => ?_
    rw [after.represents.mem_iff, List.mem_filter, represents.mem_iff, decide_eq_true_eq]
    unfold GapMap.resolve
    by_cases same : entry.seqNum = seqNum
    · rw [same, Function.update_self]
      simp
    · rw [Function.update_of_ne same]
      exact (and_iff_left same).symm
  · obtain ⟨kept, after⟩ := tracks.processGaps readings
    have tracked := (represents.mem_iff entry).mp member
    rw [after.holding.entries, ← after.represents.isSome_iff]
    unfold GapMap.process
    rw [tracked]
    exact GapMap.renew_isSome left

theorem numbers_step (tracking : GapTracking) (operation : GapOperation) :
    ∃ seqNum, (tracking.step operation).map.numbers ⊆ insert seqNum tracking.map.numbers := by
  cases operation with
  | addGapEntry now seqNum =>
    refine ⟨seqNum, fun other tracked => ?_⟩
    by_cases same : other = seqNum
    · exact .inl same
    · right
      change (tracking.map.add now seqNum other).isSome at tracked
      unfold GapMap.add at tracked
      split at tracked
      · exact tracked
      · rwa [Function.update_of_ne same] at tracked
  | resolveGapEntry seqNum =>
    refine ⟨seqNum, fun other tracked => ?_⟩
    by_cases same : other = seqNum
    · exact .inl same
    · right
      change (Function.update tracking.map seqNum none other).isSome at tracked
      rwa [Function.update_of_ne same] at tracked
  | clearAllGaps => exact ⟨0, fun _ tracked => absurd tracked Bool.false_ne_true⟩
  | processGaps utc readings =>
    refine ⟨0, fun other tracked => .inr ?_⟩
    change ((tracking.map other).bind _).isSome at tracked
    exact Option.isSome_of_isSome_bind tracked
  | _ => exact ⟨0, Set.subset_insert _ _⟩

theorem Represented.permits (represented : tracking.Represented) {operations : List GapOperation}
    (few : tracking.map.numbers.ncard + operations.length ≤ gapQueueSize - 1) :
    Transition.Permits GapTracking.step Fits tracking operations := by
  induction operations generalizing tracking with
  | nil => trivial
  | cons operation operations ih =>
    obtain ⟨entries, tracks⟩ := represented
    obtain ⟨seqNum, subset⟩ := tracking.numbers_step operation
    have grown : (tracking.step operation).map.numbers.ncard ≤ tracking.map.numbers.ncard + 1 :=
      (Set.ncard_le_ncard subset (tracks.represents.finite_names.insert seqNum)).trans
        (Set.ncard_insert_le _ _)
    rw [List.length_cons] at few
    have fits : tracking.Fits operation := by
      unfold Fits
      omega
    exact ⟨fits, ih (Represented.step ⟨entries, tracks⟩ fits) (by omega)⟩

/-- In every run that never tracks more than 1023 numbers the queue refines the map. -/
theorem queue_refines_map (run : Transition.Run Initial step Fits tracking) : tracking.Refines :=
  (run.invariant Represented (fun _ => represented_of_initial)
    fun _ _ represented fits => represented.step fits).refines

/-- A new gap manager whose pool has one message. -/
def sampleTracking : GapTracking where
  manager := SequenceNumGapManager.new
  side :=
    { context := { senderCompId := ascii "CLIENT", targetCompId := ascii "BROKER" }
      messagePool := MessagePool.new FixMessage 1 Nat.one_pos
      outboundQueues := PriorityQueueContainer.new
      sent := [] }
  map := GapMap.clear

/-- Numbers 5 and 7 are added, the one twice, and both time out; the pool has a message for
the first request only. Then 5 is resolved. -/
def sampleCalls : List GapOperation :=
  [.addGapEntry 0 5, .addGapEntry 0 7, .addGapEntry 1 5, .hasGap 5,
    .processGaps ⟨2025, 1, 2, 3, 4, 5, 6⟩ fun _ => ⟨20000000000, 20000000000⟩,
    .getGapCount, .resolveGapEntry 5]

theorem queue_refines_map_calls :
    (Transition.execute step sampleTracking sampleCalls).Refines ∧
      (Transition.execute step sampleTracking sampleCalls).side.sent.length = 1 ∧
      (Transition.execute step sampleTracking sampleCalls).manager.gapQueue.entries =
        [⟨7, 0, 30000000000, 1, false⟩] := by
  have initial : sampleTracking.Initial := ⟨rfl, rfl⟩
  have few : sampleTracking.map.numbers.ncard + sampleCalls.length ≤ gapQueueSize - 1 := by
    rw [show sampleTracking.map.numbers = ∅ from
      Set.eq_empty_of_forall_notMem fun _ tracked => Bool.false_ne_true tracked, Set.ncard_empty]
    decide
  have run := (Transition.Run.start initial).execute
    ((represented_of_initial initial).permits few)
  exact ⟨queue_refines_map run, by decide +kernel, by decide +kernel⟩

end GapTracking

end FixGateway.Manager
