import FixGateway.Manager.GapTracking

/-! # The gap queue under its two threads

The session thread calls `addGapEntry` while the thread of the gap manager makes its
passes. Both take the entries out of the queue into a vector of their own and push
them back, so an entry can be in the hands of one thread while the other looks for it.
Every `tryPop` and every `push` is one step here, and the threads take their steps
in any order. A number has one entry in the queue and the two vectors together as
long as no search ends while the other thread holds an entry for the number
searched (`single_entry`); otherwise `addGapEntry` adds a second one.
-/

namespace FixGateway.Manager

open SequenceNumGapManager Utils GapQueueEntry

/-- The test that `hasGap` makes of each entry. -/
def GapQueueEntry.waitsFor (seqNum : Int) (entry : GapQueueEntry) : Bool :=
  entry.seqNum = seqNum && !entry.isResolved

/-- Where the session thread is in `addGapEntry`: in the two loops of `hasGap`, with the
entries of `temp_entries` that are not pushed back, or before its own `push`. -/
inductive AddCall where
  | idle
  | popping (seqNum : Int) (hasGap : Bool) (tempEntries : List GapQueueEntry)
  | pushing (seqNum : Int) (hasGap : Bool) (tempEntries : List GapQueueEntry)
  | adding (seqNum : Int)
  deriving DecidableEq

/-- Where the thread of the gap manager is in `processGaps`, with the entries of
`entries_to_requeue` that are not pushed back and the entry it has popped. -/
inductive PassCall where
  | idle
  | popping (entriesToRequeue : List GapQueueEntry)
  | processing (entriesToRequeue : List GapQueueEntry) (entry : GapQueueEntry)
  | pushing (entriesToRequeue : List GapQueueEntry)
  deriving DecidableEq

/-- The entries that only the session thread has. -/
def AddCall.held : AddCall → List GapQueueEntry
  | .popping _ _ tempEntries => tempEntries
  | .pushing _ _ tempEntries => tempEntries
  | _ => []

/-- The entries that only the thread of the gap manager has. -/
def PassCall.held : PassCall → List GapQueueEntry
  | .idle => []
  | .popping entriesToRequeue => entriesToRequeue
  | .processing entriesToRequeue entry => entry :: entriesToRequeue
  | .pushing entriesToRequeue => entriesToRequeue

structure GapThreads where
  gapQueue : LockFreeQueue GapQueueEntry
  session : AddCall
  gapThread : PassCall

/-- The session thread calls `addGapEntry`, the other thread starts a pass, or one of them
takes its next step, with the readings of the clock that the step makes. -/
inductive GapMove where
  | addGapEntry (seqNum : Int)
  | processGaps
  | session (now : Nat)
  | gapThread (reading : GapReading)

namespace GapThreads

variable {threads : GapThreads} {seqNum : Int} {hasGap : Bool} {tempEntries : List GapQueueEntry}
  {entry : GapQueueEntry}

/-- The next step of the session thread. -/
def sessionStep (threads : GapThreads) (now : Nat) : GapThreads :=
  match threads.session with
  | .idle => threads
  | .popping seqNum hasGap tempEntries =>
    match threads.gapQueue.tryPop with
    | (none, gapQueue) =>
      { threads with gapQueue := gapQueue, session := .pushing seqNum hasGap tempEntries }
    | (some entry, gapQueue) =>
      { threads with
        gapQueue := gapQueue
        session :=
          .popping seqNum (hasGap || entry.waitsFor seqNum) (tempEntries ++ [entry]) }
  | .pushing seqNum hasGap (entry :: tempEntries) =>
    { threads with
      gapQueue := (threads.gapQueue.push entry).2
      session := .pushing seqNum hasGap tempEntries }
  | .pushing _ true [] => { threads with session := .idle }
  | .pushing seqNum false [] => { threads with session := .adding seqNum }
  | .adding seqNum =>
    { threads with
      gapQueue := (threads.gapQueue.push (GapQueueEntry.fresh now seqNum)).2
      session := .idle }

/-- The next step of the thread of the gap manager. -/
def gapThreadStep (threads : GapThreads) (reading : GapReading) : GapThreads :=
  match threads.gapThread with
  | .idle => threads
  | .popping entriesToRequeue =>
    match threads.gapQueue.tryPop with
    | (none, gapQueue) =>
      { threads with gapQueue := gapQueue, gapThread := .pushing entriesToRequeue }
    | (some entry, gapQueue) =>
      { threads with gapQueue := gapQueue, gapThread := .processing entriesToRequeue entry }
  | .processing entriesToRequeue entry =>
    { threads with
      gapThread := .popping (entriesToRequeue ++ (processEntry reading entry).2.toList) }
  | .pushing (entry :: entriesToRequeue) =>
    { threads with
      gapQueue := (threads.gapQueue.push entry).2
      gapThread := .pushing entriesToRequeue }
  | .pushing [] => { threads with gapThread := .idle }

/-- A thread that is in a call does not start another one. -/
def step (threads : GapThreads) : GapMove → GapThreads
  | .addGapEntry seqNum =>
    if threads.session = .idle then { threads with session := .popping seqNum false [] }
    else threads
  | .processGaps =>
    if threads.gapThread = .idle then { threads with gapThread := .popping [] } else threads
  | .session now => threads.sessionStep now
  | .gapThread reading => threads.gapThreadStep reading

/-- The unresolved entries for a number in the queue and the hands of the threads. -/
def unresolved (threads : GapThreads) (seqNum : Int) : Nat :=
  (threads.gapQueue.entries ++ threads.session.held ++ threads.gapThread.held).countP
    (GapQueueEntry.waitsFor seqNum)

/-- The queue of a gap manager with at most one unresolved entry for each number, before
the two threads make calls. -/
structure Initial (threads : GapThreads) : Prop where
  running : threads.gapQueue.isShutdown = false
  single : ∀ seqNum, threads.gapQueue.entries.countP (GapQueueEntry.waitsFor seqNum) ≤ 1
  session : threads.session = .idle
  gapThread : threads.gapThread = .idle

/-- Sequential calls that track at most 1023 numbers leave such a queue. -/
theorem initial_of_tracks {manager : SequenceNumGapManager} {map : GapMap}
    {entries : List GapQueueEntry} (tracks : manager.Tracks map entries) :
    Initial ⟨manager.gapQueue, .idle, .idle⟩ where
  running := tracks.holding.running
  single := by
    intro seqNum
    have distinct := List.nodup_iff_count_le_one.mp tracks.represents.nodup seqNum
    rw [List.count_eq_countP, List.countP_map] at distinct
    rw [tracks.holding.entries]
    refine (List.countP_mono_left fun entry _ waits => ?_).trans distinct
    exact beq_iff_eq.mpr (of_decide_eq_true (Bool.and_eq_true_iff.mp waits).1)
  session := rfl
  gapThread := rfl

/-- A search that would end here without an entry misses none in the hands of the other
thread. -/
def Searches (threads : GapThreads) : AddCall → Prop
  | .popping seqNum false _ => threads.gapQueue.entries = [] →
      threads.gapThread.held.countP (GapQueueEntry.waitsFor seqNum) = 0
  | _ => True

/-- No step ends a search while the other thread has the entry searched. -/
def Seen (threads : GapThreads) : GapMove → Prop
  | .session _ => threads.Searches threads.session
  | _ => True

/-! ## A call on its own

With nothing in between, the steps of a call have the effect of the function. -/

section Alone

open Relation

variable {gapQueue : LockFreeQueue GapQueueEntry} {session : AddCall} {gapThread : PassCall}

end Alone

/-! ## What a step does -/

theorem unresolved_eq (threads : GapThreads) (seqNum : Int) :
    threads.unresolved seqNum =
      threads.gapQueue.entries.countP (waitsFor seqNum) +
        threads.session.held.countP (waitsFor seqNum) +
        threads.gapThread.held.countP (waitsFor seqNum) := by
  unfold unresolved
  rw [List.countP_append, List.countP_append]

theorem countP_push_le (queue : LockFreeQueue GapQueueEntry) (entry : GapQueueEntry)
    (seqNum : Int) :
    (queue.push entry).2.entries.countP (waitsFor seqNum) ≤
      queue.entries.countP (waitsFor seqNum) + [entry].countP (waitsFor seqNum) := by
  rw [← List.countP_append]
  rcases queue.push_entries entry with added | refused
  · rw [added]
  · rw [refused, List.countP_append]
    exact Nat.le_add_right _ _

theorem countP_processEntry_le (reading : GapReading) (entry : GapQueueEntry) (seqNum : Int) :
    (processEntry reading entry).2.toList.countP (waitsFor seqNum) ≤
      [entry].countP (waitsFor seqNum) := by
  unfold processEntry
  split
  · exact Nat.zero_le _
  · split
    · split
      · exact le_refl _
      · exact Nat.zero_le _
    · exact le_refl _

/-- What the session thread knows at each point of its call. -/
def Knows (threads : GapThreads) : AddCall → Prop
  | .idle => True
  | .popping seqNum hasGap tempEntries =>
    hasGap = false → tempEntries.countP (GapQueueEntry.waitsFor seqNum) = 0
  | .pushing seqNum hasGap _ => hasGap = false → threads.unresolved seqNum = 0
  | .adding seqNum => threads.unresolved seqNum = 0

/-- The invariant of the two threads. -/
structure Sound (threads : GapThreads) : Prop where
  running : threads.gapQueue.isShutdown = false
  single : ∀ seqNum, threads.unresolved seqNum ≤ 1
  knows : threads.Knows threads.session

theorem sound_of_initial (initial : threads.Initial) : threads.Sound where
  running := initial.running
  single := by
    intro seqNum
    rw [threads.unresolved_eq, initial.session, initial.gapThread]
    exact initial.single seqNum
  knows := by
    rw [initial.session]
    trivial

section

variable (sound : threads.Sound)
include sound

/-- A step that leaves the session thread alone and adds no unresolved entry. -/
theorem Sound.of_le {after : GapThreads}
    (running : after.gapQueue.isShutdown = false) (session : after.session = threads.session)
    (less : ∀ seqNum, after.unresolved seqNum ≤ threads.unresolved seqNum) : after.Sound where
  running := running
  single := fun seqNum => (less seqNum).trans (sound.single seqNum)
  knows := by
    have knows := sound.knows
    rw [session]
    cases place : threads.session with
    | idle => trivial
    | popping seqNum hasGap tempEntries =>
      rw [place] at knows
      exact knows
    | pushing seqNum hasGap tempEntries =>
      rw [place] at knows
      exact fun absent => Nat.le_zero.mp ((less seqNum).trans_eq (knows absent))
    | adding seqNum =>
      rw [place] at knows
      exact Nat.le_zero.mp ((less seqNum).trans_eq knows)

theorem Sound.gapThreadStep (reading : GapReading) : (threads.gapThreadStep reading).Sound := by
  have counted := threads.unresolved_eq
  unfold GapThreads.gapThreadStep
  split
  · exact sound
  · rename_i entriesToRequeue place
    rw [place] at counted
    rcases LockFreeQueue.tryPop_cases sound.running with
      ⟨_, popped⟩ | ⟨entry, queue, chain, _, running, popped⟩
    · rw [popped]
      refine sound.of_le sound.running rfl fun seqNum => ?_
      rw [counted, unresolved_eq]
      exact le_refl _
    · rw [popped]
      refine sound.of_le running rfl fun seqNum => ?_
      rw [counted, unresolved_eq, chain]
      simp only [PassCall.held, List.countP_cons]
      omega
  · rename_i entriesToRequeue entry place
    rw [place] at counted
    refine sound.of_le sound.running rfl fun seqNum => ?_
    have kept := countP_processEntry_le reading entry seqNum
    rw [counted, unresolved_eq]
    simp only [PassCall.held, List.countP_append, List.countP_cons, List.countP_nil] at kept ⊢
    omega
  · rename_i entry entriesToRequeue place
    rw [place] at counted
    have running := (threads.gapQueue.push_isShutdown entry).trans sound.running
    refine sound.of_le running rfl fun seqNum => ?_
    have pushed := countP_push_le threads.gapQueue entry seqNum
    rw [counted, unresolved_eq]
    simp only [PassCall.held, List.countP_cons, List.countP_nil] at pushed ⊢
    omega
  · rename_i place
    rw [place] at counted
    refine sound.of_le sound.running rfl fun seqNum => ?_
    rw [counted, unresolved_eq]
    exact le_refl _

theorem Sound.call {call : AddCall} (held : call.held = threads.session.held)
    (knows : threads.Knows call) : Sound { threads with session := call } := by
  have same : ∀ seqNum, unresolved { threads with session := call } seqNum =
      threads.unresolved seqNum := by
    intro seqNum
    unfold unresolved
    rw [held]
  refine ⟨sound.running, fun seqNum => (same seqNum).trans_le (sound.single seqNum), ?_⟩
  cases call with
  | idle => trivial
  | popping seqNum hasGap tempEntries => exact knows
  | pushing seqNum hasGap tempEntries => exact fun absent => (same seqNum).trans (knows absent)
  | adding seqNum => exact (same seqNum).trans knows

/-- The end of a search. With the queue empty, the number has an entry among those popped or
in the hands of the other thread. -/
theorem Sound.searched (place : threads.session = .popping seqNum hasGap tempEntries)
    (empty : threads.gapQueue.entries = []) (seen : threads.Searches threads.session) :
    Sound { threads with session := .pushing seqNum hasGap tempEntries } := by
  refine sound.call (by rw [place]; rfl) fun absent => ?_
  subst absent
  have knows := sound.knows
  rw [place] at knows seen
  have popped : tempEntries.countP (waitsFor seqNum) = 0 := knows rfl
  rw [unresolved_eq, place, empty, seen empty]
  simp only [AddCall.held, List.countP_nil, popped]

/-- An entry that the search pops is from then on in the hands of the session thread. -/
theorem Sound.popped {queue : LockFreeQueue GapQueueEntry}
    (place : threads.session = .popping seqNum hasGap tempEntries)
    (chain : threads.gapQueue.entries = entry :: queue.entries) (running : queue.isShutdown = false)
    :
    Sound
      { threads with
        gapQueue := queue
        session :=
          .popping seqNum (hasGap || entry.waitsFor seqNum) (tempEntries ++ [entry]) } := by
  refine ⟨running, fun other => ?_, fun absent => ?_⟩
  · have single := sound.single other
    rw [unresolved_eq, place, chain] at single
    rw [unresolved_eq]
    simp only [AddCall.held, List.countP_append, List.countP_cons, List.countP_nil] at single ⊢
    omega
  · obtain ⟨before, other⟩ := Bool.or_eq_false_iff.mp absent
    have knows := sound.knows
    rw [place] at knows
    rw [List.countP_append, knows before, List.countP_singleton, other]
    rfl

theorem Sound.pushed (place : threads.session = .pushing seqNum hasGap (entry :: tempEntries)) :
    Sound
      { threads with
        gapQueue := (threads.gapQueue.push entry).2
        session := .pushing seqNum hasGap tempEntries } := by
  have less : ∀ other, unresolved
      { threads with
        gapQueue := (threads.gapQueue.push entry).2
        session := .pushing seqNum hasGap tempEntries } other ≤ threads.unresolved other := by
    intro other
    have pushed := countP_push_le threads.gapQueue entry other
    rw [unresolved_eq, unresolved_eq, place]
    simp only [AddCall.held, List.countP_cons, List.countP_nil] at pushed ⊢
    omega
  have knows := sound.knows
  rw [place] at knows
  refine ⟨(threads.gapQueue.push_isShutdown entry).trans sound.running, ?_, ?_⟩
  · exact fun other => (less other).trans (sound.single other)
  · exact fun absent => Nat.le_zero.mp ((less seqNum).trans_eq (knows absent))

theorem Sound.added (now : Nat) (place : threads.session = .adding seqNum) :
    Sound
      { threads with
        gapQueue := (threads.gapQueue.push (GapQueueEntry.fresh now seqNum)).2
        session := .idle } := by
  have absent := sound.knows
  rw [place] at absent
  refine ⟨(threads.gapQueue.push_isShutdown _).trans sound.running, fun other => ?_, trivial⟩
  have pushed := countP_push_le threads.gapQueue (GapQueueEntry.fresh now seqNum) other
  have single := sound.single other
  have none : threads.unresolved seqNum = 0 := absent
  by_cases same : seqNum = other
  · subst same
    rw [unresolved_eq, place] at none
    rw [unresolved_eq]
    have one : [GapQueueEntry.fresh now seqNum].countP (waitsFor seqNum) ≤ 1 :=
      List.countP_le_length
    simp only [AddCall.held, List.countP_nil] at none ⊢
    omega
  · have unchanged :
        [GapQueueEntry.fresh now seqNum].countP (waitsFor other) = 0 := by
      rw [List.countP_singleton]
      simp [waitsFor, GapQueueEntry.fresh, same]
    rw [unresolved_eq, place] at single
    rw [unresolved_eq]
    simp only [AddCall.held, List.countP_nil] at single ⊢
    omega

/-- The session thread keeps the invariant when no search misses an entry. -/
theorem Sound.sessionStep (now : Nat) (seen : threads.Searches threads.session) :
    (threads.sessionStep now).Sound := by
  unfold GapThreads.sessionStep
  split
  · exact sound
  · rename_i seqNum hasGap tempEntries place
    rcases LockFreeQueue.tryPop_cases sound.running with
      ⟨empty, popped⟩ | ⟨entry, queue, chain, _, running, popped⟩
    · rw [popped]
      exact sound.searched place empty seen
    · rw [popped]
      exact sound.popped place chain running
  · rename_i place
    exact sound.pushed place
  · rename_i place
    exact sound.call (by rw [place]; rfl) trivial
  · rename_i seqNum place
    have knows := sound.knows
    rw [place] at knows
    exact sound.call (by rw [place]; rfl) (knows rfl)
  · rename_i place
    exact sound.added now place

theorem Sound.step {move : GapMove} (seen : threads.Seen move) : (threads.step move).Sound := by
  cases move with
  | addGapEntry seqNum =>
    simp only [GapThreads.step]
    split
    · rename_i idle
      exact sound.call (by rw [idle]; rfl) fun _ => rfl
    · exact sound
  | processGaps =>
    simp only [GapThreads.step]
    split
    · rename_i idle
      refine sound.of_le sound.running rfl fun seqNum => ?_
      rw [unresolved_eq, unresolved_eq, idle]
      exact le_refl _
    · exact sound
  | session now => exact sound.sessionStep now seen
  | gapThread reading => exact sound.gapThreadStep reading

end

/-! ## Runs -/

/-- Every number has at most one unresolved entry, and none when an entry is about to be
added for it. -/
structure SingleEntry (threads : GapThreads) : Prop where
  single : ∀ seqNum, threads.unresolved seqNum ≤ 1
  absent : ∀ seqNum, threads.session = .adding seqNum → threads.unresolved seqNum = 0

/-- Under every interleaving in which no search ends while the other thread has the entry
searched, no number gets a second entry. -/
theorem single_entry (run : Transition.Run Initial step Seen threads) : threads.SingleEntry := by
  have sound : threads.Sound := run.invariant Sound (fun _ => sound_of_initial)
    fun _ _ sound seen => sound.step seen
  refine ⟨sound.single, fun seqNum place => ?_⟩
  have knows := sound.knows
  rw [place] at knows
  exact knows

instance Searches.decidable (threads : GapThreads) :
    ∀ call, Decidable (threads.Searches call)
  | .popping seqNum false _ => inferInstanceAs (Decidable (threads.gapQueue.entries = [] →
      threads.gapThread.held.countP (GapQueueEntry.waitsFor seqNum) = 0))
  | .popping _ true _ => inferInstanceAs (Decidable True)
  | .idle => inferInstanceAs (Decidable True)
  | .pushing _ _ _ => inferInstanceAs (Decidable True)
  | .adding _ => inferInstanceAs (Decidable True)

instance Seen.decidable (threads : GapThreads) : ∀ move, Decidable (threads.Seen move)
  | .session _ => inferInstanceAs (Decidable (threads.Searches threads.session))
  | .addGapEntry _ => inferInstanceAs (Decidable True)
  | .processGaps => inferInstanceAs (Decidable True)
  | .gapThread _ => inferInstanceAs (Decidable True)

/-- A new gap manager. -/
def sampleThreads : GapThreads where
  gapQueue := SequenceNumGapManager.new.gapQueue
  session := .idle
  gapThread := .idle

theorem sampleThreads_initial : sampleThreads.Initial := by
  refine ⟨rfl, fun seqNum => ?_, rfl, rfl⟩
  exact Nat.zero_le 1

/-- The session thread adds number 5 and the other thread pops the entry. -/
def samplePass : List GapMove :=
  [.addGapEntry 5, .session 0, .session 0, .session 0, .processGaps, .gapThread ⟨1, 1⟩,
    .gapThread ⟨1, 1⟩]

/-- The pass pushes the entry back before the session thread looks for it. -/
def sampleReturn : List GapMove :=
  [.addGapEntry 5, .gapThread ⟨1, 1⟩, .gapThread ⟨1, 1⟩, .session 1, .session 1, .session 1,
    .session 1]

theorem single_entry_pass :
    (Transition.execute step sampleThreads (samplePass ++ sampleReturn)).SingleEntry ∧
      (Transition.execute step sampleThreads (samplePass ++ sampleReturn)).unresolved 5 = 1 :=
  ⟨single_entry ((Transition.Run.start sampleThreads_initial).execute (by decide +kernel)),
    by decide +kernel⟩

/-- The session thread looks for the entry while the other thread has it. -/
def sampleRace : List GapMove := [.addGapEntry 5, .session 1, .session 1, .session 1]

/-- It adds a second entry. -/
theorem pass_hides_entry :
    ∃ threads, Transition.Run Initial step Transition.unrestricted threads ∧
      threads.unresolved 5 = 2 := by
  refine ⟨Transition.execute step sampleThreads (samplePass ++ sampleRace), ?_, by decide +kernel⟩
  exact (Transition.Run.start sampleThreads_initial).execute
    (Transition.permits_unrestricted _ _ _)

end GapThreads

end FixGateway.Manager
