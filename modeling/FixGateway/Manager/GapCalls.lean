import FixGateway.Manager.GapTracking

/-! # Calls on the gap queue in any state

Every call on the gap manager pops entries and pushes some of them back, and ignores what
`push` returns. The queue is never shut down, so a push fails only when the queue is full:
what is pushed back after popping fits, and a new entry may not.

`escalateGapEntry` pushes back the entry it looks for and no other. It loses the entries that
it has popped on the way, which is all of them when there is none for the number.
-/

namespace FixGateway.Manager

open ByteScan Utils

namespace SequenceNumGapManager

variable {seqNum : Int} {seqNums : List Int} {manager : SequenceNumGapManager}
  {entries : List GapQueueEntry}

theorem tracked_append (front back : List GapQueueEntry) (seqNum : Int) :
    tracked (front ++ back) seqNum = (tracked front seqNum || tracked back seqNum) :=
  List.any_append

theorem tracked_fresh {now : Nat} :
    tracked (seqNums.map (GapQueueEntry.fresh now)) seqNum = true ↔ seqNum ∈ seqNums := by
  rw [tracked, List.any_map, List.any_eq_true]
  constructor
  · rintro ⟨number, member, named⟩
    rw [Function.comp, Bool.and_eq_true, decide_eq_true_eq] at named
    exact named.1 ▸ member
  · intro member
    exact ⟨seqNum, member, by simp [GapQueueEntry.fresh]⟩

section Holding

variable {manager : SequenceNumGapManager} {entries : List GapQueueEntry}

/-- A number that is tracked changes nothing, and another one is added if there is room. -/
theorem addGapEntry_holding (holding : manager.gapQueue.Holding gapQueueSize entries)
    (now : Nat) (seqNum : Int) :
    (manager.addGapEntry now seqNum).gapQueue.Holding gapQueueSize
      (entries ++ ((if tracked entries seqNum then [] else [GapQueueEntry.fresh now seqNum]).take
        (gapQueueSize - 1 - entries.length))) := by
  have asked : { manager with requested := seqNum :: manager.requested }.gapQueue.Holding
      gapQueueSize entries := holding
  obtain ⟨found, kept⟩ := hasGap_holding asked seqNum
  unfold addGapEntry
  dsimp only
  rw [found]
  split
  · rw [List.take_nil, List.append_nil]
    exact kept
  · have pushed := @LockFreeQueue.Holding.pushAll_take _ _ _ _ [GapQueueEntry.fresh now seqNum] kept
    exact pushed

theorem filter_untracked {now : Nat} {first : Int} {rest : List Int} (absent : first ∉ rest) :
    (rest.filter fun seqNum => !tracked (entries ++ [GapQueueEntry.fresh now first]) seqNum) =
      rest.filter fun seqNum => !tracked entries seqNum := by
  apply List.filter_congr
  intro seqNum member
  have other : tracked [GapQueueEntry.fresh now first] seqNum = false := by
    rw [← Bool.not_eq_true, ← List.map_singleton, tracked_fresh, List.mem_singleton]
    intro same
    exact absent (same ▸ member)
  rw [tracked_append, other, Bool.or_false]

/-- The loop over missing numbers adds those that are not tracked, as long as there is room. -/
theorem addGapEntries_holding (holding : manager.gapQueue.Holding gapQueueSize entries)
    (now : Nat) {seqNums : List Int} (distinct : seqNums.Nodup) :
    (manager.addGapEntries now seqNums).gapQueue.Holding gapQueueSize
      (entries ++ ((seqNums.filter fun seqNum => !tracked entries seqNum).take
        (gapQueueSize - 1 - entries.length)).map (GapQueueEntry.fresh now)) := by
  induction seqNums generalizing manager entries with
  | nil =>
    rw [List.filter_nil, List.take_nil, List.map_nil, List.append_nil]
    exact holding
  | cons first rest ih =>
    obtain ⟨absent, distinct⟩ := List.nodup_cons.mp distinct
    have added := addGapEntry_holding holding now first
    have others := ih added distinct
    change ((manager.addGapEntry now first).addGapEntries now rest).gapQueue.Holding _ _
    by_cases known : tracked entries first = true
    · simp only [known, if_true, List.take_nil, List.append_nil] at others
      simp only [List.filter_cons, known, Bool.not_true, Bool.false_eq_true, if_false]
      exact others
    · rw [Bool.not_eq_true] at known
      simp only [known, Bool.false_eq_true, if_false] at others
      rw [List.filter_cons, known, Bool.not_false, if_pos rfl]
      cases room : gapQueueSize - 1 - entries.length with
      | zero =>
        rw [room, List.take_zero, List.append_nil, room, List.take_zero] at others
        exact others
      | succ more =>
        have fewer : gapQueueSize - 1 - (entries ++ [GapQueueEntry.fresh now first]).length =
            more := by
          rw [List.length_append, List.length_singleton]
          omega
        rw [room, List.take_succ_cons, List.take_nil, fewer, filter_untracked absent,
          List.append_assoc] at others
        rw [List.take_succ_cons, List.map_cons]
        exact others

theorem escalateGapEntry_absent (holding : manager.gapQueue.Holding gapQueueSize entries)
    {seqNum : Int} (absent : ∀ entry ∈ entries, entry.seqNum ≠ seqNum) :
    (manager.escalateGapEntry seqNum).gapQueue.Holding gapQueueSize [] := by
  obtain ⟨-, none, empty⟩ := holding.popUntil_absent fun entry member =>
    decide_eq_false (absent entry member)
  unfold escalateGapEntry
  split
  · rename_i popped
    rw [popped] at empty
    exact empty
  · rename_i popped
    rw [popped] at none
    cases none

/-- Otherwise the entry moves to the end, and the ones before it are lost. -/
theorem escalateGapEntry_present {entry : GapQueueEntry} {front back : List GapQueueEntry}
    (holding : manager.gapQueue.Holding gapQueueSize (front ++ entry :: back))
    (before : ∀ other ∈ front, other.seqNum ≠ entry.seqNum) :
    (manager.escalateGapEntry entry.seqNum).gapQueue.Holding gapQueueSize
      (back ++ [{ entry with retryCount := wrapInt (entry.retryCount + 1) }]) := by
  have bound := holding.length_le
  rw [List.length_append, List.length_cons] at bound
  obtain ⟨-, found, left⟩ := holding.popUntil_split
    (fun other member => decide_eq_false (before other member))
    (decide_eq_true (rfl : entry.seqNum = entry.seqNum))
  unfold escalateGapEntry
  split
  · rename_i popped
    rw [popped] at found
    cases found
  · rename_i popped
    rw [popped] at found left
    cases found
    exact (left.push (by omega) _).2

end Holding

/-! ## Escalating -/

/-- The entry for the number has one retry more, and the other entries are as they were. -/
structure EscalatesOnly (seqNum : Int) (before after : List GapQueueEntry) : Prop where
  escalated : ∀ entry ∈ before, entry.seqNum = seqNum →
    { entry with retryCount := entry.retryCount + 1 } ∈ after
  others : ∀ entry ∈ before, entry.seqNum ≠ seqNum → entry ∈ after

section Escalate

variable {manager : SequenceNumGapManager} {first : GapQueueEntry} {rest : List GapQueueEntry}
  {seqNum : Int}

theorem escalateGapEntry_loses (holding : manager.gapQueue.Holding gapQueueSize (first :: rest))
    (distinct : ((first :: rest).map GapQueueEntry.seqNum).Nodup) (differs : first.seqNum ≠ seqNum)
    : first ∉ (manager.escalateGapEntry seqNum).gapQueue.entries := by
  rw [List.map_cons, List.nodup_cons] at distinct
  obtain ⟨alone, distinct⟩ := distinct
  by_cases present : ∃ entry ∈ rest, entry.seqNum = seqNum
  · obtain ⟨entry, member, rfl⟩ := present
    obtain ⟨front, back, rfl⟩ := List.append_of_mem member
    rw [List.map_append, List.map_cons, List.nodup_middle, List.nodup_cons] at distinct
    have before : ∀ other ∈ first :: front, other.seqNum ≠ entry.seqNum := by
      rw [List.forall_mem_cons]
      refine ⟨differs, fun other inFront same => distinct.1 ?_⟩
      exact List.mem_append_left _ (List.mem_map.mpr ⟨other, inFront, same⟩)
    rw [← List.cons_append] at holding
    rw [(escalateGapEntry_present holding before).entries]
    intro kept
    rcases List.mem_append.mp kept with behind | moved
    · apply alone
      rw [List.map_append, List.map_cons]
      exact List.mem_append_right _ (List.mem_cons_of_mem _ (List.mem_map_of_mem behind))
    · rw [List.mem_singleton] at moved
      rw [moved] at differs
      exact differs rfl
  · have absent : ∀ entry ∈ first :: rest, entry.seqNum ≠ seqNum := by
      rw [List.forall_mem_cons]
      exact ⟨differs, fun entry member same => present ⟨entry, member, same⟩⟩
    rw [(escalateGapEntry_absent holding absent).entries]
    exact List.not_mem_nil

theorem escalateGapEntry_first (holding : manager.gapQueue.Holding gapQueueSize (first :: rest)) :
    (manager.escalateGapEntry first.seqNum).gapQueue.entries =
      rest ++ [{ first with retryCount := wrapInt (first.retryCount + 1) }] := by
  rw [← List.nil_append (first :: rest)] at holding
  have nothing : ∀ other ∈ ([] : List GapQueueEntry), other.seqNum ≠ first.seqNum := by
    intro other member
    cases member
  exact (escalateGapEntry_present holding nothing).entries

/-- An entry that moves to the end is the one that is escalated if its count is right. -/
theorem escalatesOnly_moved_iff (distinct : ((first :: rest).map GapQueueEntry.seqNum).Nodup)
    (count : Int) :
    EscalatesOnly first.seqNum (first :: rest) (rest ++ [{ first with retryCount := count }]) ↔
      count = first.retryCount + 1 := by
  rw [List.map_cons, List.nodup_cons] at distinct
  constructor
  · intro only
    rcases List.mem_append.mp (only.escalated first List.mem_cons_self rfl) with behind | moved
    · exact absurd (List.mem_map.mpr ⟨_, behind, rfl⟩) distinct.1
    · rw [List.mem_singleton] at moved
      exact (congrArg GapQueueEntry.retryCount moved).symm
  · rintro rfl
    constructor
    · intro entry member named
      rcases List.mem_cons.mp member with rfl | behind
      · exact List.mem_append_right _ (List.mem_singleton_self _)
      · exact absurd (List.mem_map.mpr ⟨entry, behind, named⟩) distinct.1
    · intro entry member differs
      rcases List.mem_cons.mp member with rfl | behind
      · exact absurd rfl differs
      · exact List.mem_append_left _ behind

/-- With distinct numbers, escalating leaves the other entries alone exactly if the queue is
empty or the number is that of the first entry, whose count can be increased. -/
theorem escalateGapEntry_escalates_iff {entries : List GapQueueEntry}
    (holding : manager.gapQueue.Holding gapQueueSize entries)
    (distinct : (entries.map GapQueueEntry.seqNum).Nodup)
    (counts : ∀ entry ∈ entries, -2 ^ 31 ≤ entry.retryCount ∧ entry.retryCount < 2 ^ 31)
    (seqNum : Int) :
    EscalatesOnly seqNum entries (manager.escalateGapEntry seqNum).gapQueue.entries ↔
      ∀ entry ∈ entries.head?, entry.seqNum = seqNum ∧ entry.retryCount ≠ 2 ^ 31 - 1 := by
  cases entries with
  | nil =>
    refine iff_of_true ⟨?_, ?_⟩ ?_
    · intro entry member
      cases member
    · intro entry member
      cases member
    · intro entry member
      cases member
  | cons first rest =>
    simp only [List.head?_cons, Option.mem_some_iff, forall_eq']
    by_cases same : first.seqNum = seqNum
    swap
    · refine iff_of_false (fun only => ?_) fun firsts => same firsts.1
      exact escalateGapEntry_loses holding distinct same
        (only.others first List.mem_cons_self same)
    subst same
    rw [escalateGapEntry_first holding, escalatesOnly_moved_iff distinct, and_iff_right rfl]
    have range := counts first List.mem_cons_self
    have bound := (wrapInt_bounds (first.retryCount + 1)).2
    constructor
    · intro grown
      omega
    · intro below
      exact wrapInt_of_bounds (by omega) (by omega)

/-- Numbers 1, 2 and 3 are missing. -/
def threeGaps : SequenceNumGapManager := new.addGapEntries 0 [1, 2, 3]

theorem threeGaps_holding :
    threeGaps.gapQueue.Holding gapQueueSize ([1, 2, 3].map (GapQueueEntry.fresh 0)) := by
  refine ⟨?_, ?_, ?_⟩
  · decide +kernel
  · decide +kernel
  · decide +kernel

/-- The first of three entries is escalated. -/
theorem escalateGapEntry_escalates_first :
    EscalatesOnly 1 ([1, 2, 3].map (GapQueueEntry.fresh 0))
      (threeGaps.escalateGapEntry 1).gapQueue.entries :=
  (escalateGapEntry_escalates_iff threeGaps_holding (by decide) (by decide) 1).mpr (by decide)

/-- Escalating the second entry loses the first, and escalating a number that is not missing
loses all. -/
theorem escalateGapEntry_drops_others :
    (threeGaps.hasGap 1).1 = true ∧ ((threeGaps.escalateGapEntry 2).hasGap 1).1 = false ∧
      (threeGaps.escalateGapEntry 9).getGapCount = 0 ∧
      ¬ EscalatesOnly 2 threeGaps.gapQueue.entries
        (threeGaps.escalateGapEntry 2).gapQueue.entries := by
  refine ⟨by decide +kernel, by decide +kernel, by decide +kernel, fun only => ?_⟩
  have kept : GapQueueEntry.fresh 0 1 ∈ (threeGaps.escalateGapEntry 2).gapQueue.entries :=
    only.others _ (by decide +kernel) (by decide)
  exact absurd kept (by decide +kernel)

end Escalate

/-! ## Any sequence of calls -/

/-- A call on the gap manager that may change its queue. -/
inductive GapCall where
  | addGapEntry (now : Nat) (seqNum : Int)
  | hasGap (seqNum : Int)
  | resolveGapEntry (seqNum : Int)
  | escalateGapEntry (seqNum : Int)
  | clearAllGaps
  | processGaps (readings : Nat → GapReading)

def call (manager : SequenceNumGapManager) : GapCall → SequenceNumGapManager
  | .addGapEntry now seqNum => manager.addGapEntry now seqNum
  | .hasGap seqNum => (manager.hasGap seqNum).2
  | .resolveGapEntry seqNum => (manager.resolveGapEntry seqNum).2
  | .escalateGapEntry seqNum => manager.escalateGapEntry seqNum
  | .clearAllGaps => manager.clearAllGaps
  | .processGaps readings => (manager.processGaps readings).2

/-- Some sequence of calls leads to this state. -/
def Reachable (manager : SequenceNumGapManager) : Prop :=
  Transition.Run (· = new) call Transition.unrestricted manager

theorem call_holding (holding : manager.gapQueue.Holding gapQueueSize entries) (called : GapCall) :
    ∃ left, (manager.call called).gapQueue.Holding gapQueueSize left := by
  cases called with
  | addGapEntry now seqNum => exact ⟨_, addGapEntry_holding holding now seqNum⟩
  | hasGap seqNum => exact ⟨_, (hasGap_holding holding seqNum).2⟩
  | resolveGapEntry seqNum =>
    obtain ⟨-, -, running⟩ := holding.popUntil fun entry =>
      entry.seqNum = seqNum && !entry.isResolved
    exact ⟨_, running.pushAll_take⟩
  | escalateGapEntry seqNum =>
    obtain ⟨-, -, running⟩ := holding.popUntil fun entry => entry.seqNum = seqNum
    change ∃ left, (manager.escalateGapEntry seqNum).gapQueue.Holding gapQueueSize left
    unfold escalateGapEntry
    split
    · rename_i popped
      rw [popped] at running
      exact ⟨_, running⟩
    · rename_i popped
      rw [popped] at running
      exact ⟨_, @LockFreeQueue.Holding.pushAll_take _ _ _ _ [_] running⟩
  | clearAllGaps => exact ⟨[], holding.popAll.2⟩
  | processGaps readings => exact ⟨_, holding.popAll.2.pushAll_take⟩

theorem Reachable.holding (reached : manager.Reachable) :
    manager.gapQueue.Holding gapQueueSize manager.gapQueue.entries := by
  have running : ∃ entries, manager.gapQueue.Holding gapQueueSize entries := by
    refine reached.invariant (fun manager =>
      ∃ entries, manager.gapQueue.Holding gapQueueSize entries) ?_ ?_
    · rintro manager rfl
      exact ⟨[], GapTracking.capacity_eq, rfl, rfl⟩
    · rintro manager called ⟨entries, holding⟩ -
      exact call_holding holding called
  obtain ⟨entries, holding⟩ := running
  exact ⟨holding.capacity, rfl, holding.running⟩

theorem Reachable.addGapEntries (reached : manager.Reachable) (now : Nat) (seqNums : List Int) :
    (manager.addGapEntries now seqNums).Reachable := by
  induction seqNums generalizing manager with
  | nil => exact reached
  | cons first rest ih => exact ih (reached.step (.addGapEntry now first) trivial)

/-- The loop over missing numbers tracks as many of those that were not tracked as fit. -/
theorem tracked_addGapEntries (reached : manager.Reachable)
    (now : Nat) (distinct : seqNums.Nodup) (seqNum : Int) :
    ((manager.addGapEntries now seqNums).hasGap seqNum).1 = true ↔
      (manager.hasGap seqNum).1 = true ∨
        seqNum ∈ (seqNums.filter fun seqNum => !(manager.hasGap seqNum).1).take
          (gapQueueSize - 1 - manager.getGapCount) := by
  have before := fun seqNum => (hasGap_holding reached.holding seqNum).1
  have after := (hasGap_holding (addGapEntries_holding reached.holding now distinct) seqNum).1
  rw [after, before, tracked_append, Bool.or_eq_true, tracked_fresh]
  simp only [before]
  rfl

/-- A pass requests and keeps unresolved entries only, and keeps them under their numbers. -/
theorem processEntry_frame (reading : GapReading) (entry : GapQueueEntry) :
    ((processEntry reading entry).1 = true → entry.isResolved = false) ∧
      ∀ kept ∈ (processEntry reading entry).2,
        kept.seqNum = entry.seqNum ∧ entry.isResolved = false := by
  unfold processEntry
  split
  · refine ⟨fun requested => ?_, fun kept member => ?_⟩
    · cases requested
    · cases member
  · rename_i unresolved
    rw [Bool.not_eq_true] at unresolved
    refine ⟨fun _ => unresolved, fun kept member => ?_⟩
    split at member
    · split at member
      · cases member
        exact ⟨rfl, unresolved⟩
      · cases member
    · cases member
      exact ⟨rfl, unresolved⟩

theorem processEntries_tracked {readings : Nat → GapReading} :
    (seqNum ∈ (processEntries readings entries).1 → tracked entries seqNum = true) ∧
      (tracked (processEntries readings entries).2 seqNum = true →
        tracked entries seqNum = true) := by
  induction entries generalizing readings with
  | nil =>
    refine ⟨fun member => ?_, fun found => found⟩
    cases member
  | cons entry entries ih =>
    obtain ⟨requested, kept⟩ := processEntry_frame (readings 0) entry
    have split : tracked (entry :: entries) seqNum =
        (tracked [entry] seqNum || tracked entries seqNum) :=
      tracked_append [entry] entries seqNum
    have first : entry.isResolved = false → entry.seqNum = seqNum →
        tracked [entry] seqNum = true := by
      intro unresolved named
      simp [tracked, unresolved, named]
    rw [split, Bool.or_eq_true, processEntries]
    dsimp only
    rw [tracked_append, Bool.or_eq_true]
    constructor
    · intro member
      rcases List.mem_append.mp member with now | later
      · split at now
        · rename_i asked
          exact .inl (first (requested asked) (List.mem_singleton.mp now).symm)
        · cases now
      · exact .inr (ih.1 later)
    · rintro (now | later)
      · left
        obtain ⟨other, member, named⟩ := List.any_eq_true.mp now
        obtain ⟨same, unresolved⟩ := kept other (Option.mem_toList.mp member)
        rw [Bool.and_eq_true, decide_eq_true_eq] at named
        exact first unresolved (same.symm.trans named.1)
      · exact .inr (ih.2 later)

theorem length_processEntries (readings : Nat → GapReading) (entries : List GapQueueEntry) :
    (processEntries readings entries).2.length ≤ entries.length := by
  induction entries generalizing readings with
  | nil => exact le_refl _
  | cons entry entries ih =>
    have rest := ih fun index => readings (index + 1)
    rw [processEntries]
    dsimp only
    rw [List.length_append, List.length_cons]
    cases (processEntry (readings 0) entry).2 with
    | none =>
      simp only [Option.toList_none, List.length_nil]
      omega
    | some kept =>
      simp only [Option.toList_some, List.length_singleton]
      omega

theorem processGaps_holding
    (holding : manager.gapQueue.Holding gapQueueSize entries) (readings : Nat → GapReading) :
    (manager.processGaps readings).1 = (processEntries readings entries).1 ∧
      (manager.processGaps readings).2.gapQueue.Holding gapQueueSize
        (processEntries readings entries).2 := by
  unfold processGaps
  dsimp only
  rw [holding.popAll.1]
  exact ⟨rfl, requeue holding (length_processEntries readings _)⟩

theorem processGaps_tracked (reached : manager.Reachable) (readings : Nat → GapReading) :
    (seqNum ∈ (manager.processGaps readings).1 → (manager.hasGap seqNum).1 = true) ∧
      (((manager.processGaps readings).2.hasGap seqNum).1 = true →
        (manager.hasGap seqNum).1 = true) := by
  obtain ⟨requests, after⟩ := processGaps_holding reached.holding readings
  rw [(hasGap_holding reached.holding seqNum).1, (hasGap_holding after seqNum).1, requests]
  exact processEntries_tracked

end SequenceNumGapManager

end FixGateway.Manager
