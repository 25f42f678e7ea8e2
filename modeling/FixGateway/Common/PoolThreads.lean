import FixGateway.Common.PoolMemory
import FixGateway.Concurrency.Ownership
import Mathlib.Logic.Relation

/-! # The message pool under many threads

Each atomic load, store and compare-exchange of `allocateRaw` and `deallocateRaw` is a
step of its own, and the threads take their steps in any order. A pop loads the head
and then the successor of the head, and exchanges the head if it still is the index
that was loaded. The index may have been popped and pushed back in between, with
another successor: then the head becomes a slot that is not free. As long as the
successor is the one that was read, the slots stay divided between the free list and
the threads.

The counters are left out: no step reads them.
-/

namespace FixGateway.Common

open ByteScan IndexChain Ownership

/-- Where a thread is in a call. -/
inductive PoolCall where
  | idle
  /-- `allocateRaw` has loaded the head. -/
  | popping (headIndex : Int)
  /-- `allocateRaw` has loaded the successor of the head. -/
  | exchanging (headIndex : Nat) (nextIndex : Int)
  /-- `deallocateRaw` has loaded the head. -/
  | pushing (slotIndex : Nat) (currentHead : Int)
  /-- `deallocateRaw` has linked its slot to that head. -/
  | publishing (slotIndex : Nat) (currentHead : Int)
  deriving DecidableEq, Repr

/-- The slot that a call of `deallocateRaw` gives back. -/
def PoolCall.returning : PoolCall → List Nat
  | .pushing slotIndex _ => [slotIndex]
  | .publishing slotIndex _ => [slotIndex]
  | _ => []

/-- The head that a call of `allocateRaw` is about to exchange, and the successor that it
has read. -/
def PoolCall.exchanged : PoolCall → Option (Nat × Int)
  | .exchanging headIndex nextIndex => some (headIndex, nextIndex)
  | _ => none

/-- What a thread does next: start a call, go on with it, or go on with a
compare-exchange that fails spuriously. -/
inductive PoolMove where
  | allocate
  | deallocate (slotIndex : Nat)
  | proceed
  | fail
  deriving DecidableEq, Repr

/-- A pool with its threads `ι`. -/
structure PoolThreads (ι : Type) where
  poolSize : Nat
  freeListHead : Int
  nextFreeIndex : Nat → Int
  call : ι → PoolCall
  /-- The slots of the messages that a thread holds. -/
  held : ι → List Nat

namespace PoolThreads

variable {ι : Type}

/-- A new pool. -/
def new (ι : Type) (poolSize : Nat) : PoolThreads ι where
  poolSize := poolSize
  freeListHead := 0
  nextFreeIndex := linkSlots poolSize fun _ => -1
  call := fun _ => .idle
  held := fun _ => []

/-- The slots that a thread has in its hands. -/
def owned (threads : PoolThreads ι) (thread : ι) : List Nat :=
  (threads.call thread).returning ++ threads.held thread

variable [DecidableEq ι] {threads : PoolThreads ι}

def setCall (threads : PoolThreads ι) (thread : ι) (call : PoolCall) : PoolThreads ι :=
  { threads with call := Function.update threads.call thread call }

def setHeld (threads : PoolThreads ι) (thread : ι) (held : List Nat) : PoolThreads ι :=
  { threads with held := Function.update threads.held thread held }

def setHead (threads : PoolThreads ι) (freeListHead : Int) : PoolThreads ι :=
  { threads with freeListHead := freeListHead }

def setNext (threads : PoolThreads ι) (slotIndex : Nat) (nextIndex : Int) : PoolThreads ι :=
  { threads with nextFreeIndex := Function.update threads.nextFreeIndex slotIndex nextIndex }

/-- One step of one thread. A move that the thread cannot make changes nothing. -/
def step (threads : PoolThreads ι) : ι × PoolMove → PoolThreads ι
  | (thread, move) =>
    match threads.call thread, move with
    | .idle, .allocate => threads.setCall thread (.popping threads.freeListHead)
    | .idle, .deallocate slotIndex =>
      if slotIndex ∈ threads.held thread then
        (threads.setHeld thread ((threads.held thread).erase slotIndex)).setCall thread
          (.pushing slotIndex threads.freeListHead)
      else threads
    | .popping headIndex, .proceed =>
      -- an empty list ends the call with a null pointer
      if headIndex < 0 then threads.setCall thread .idle
      else
        threads.setCall thread
          (.exchanging headIndex.toNat (threads.nextFreeIndex headIndex.toNat))
    | .exchanging headIndex nextIndex, .proceed =>
      if threads.freeListHead = headIndex then
        ((threads.setHeld thread (headIndex :: threads.held thread)).setCall thread
          .idle).setHead
          nextIndex
      else threads.setCall thread (.popping threads.freeListHead)
    | .exchanging _ _, .fail => threads.setCall thread (.popping threads.freeListHead)
    | .pushing slotIndex currentHead, .proceed =>
      (threads.setCall thread (.publishing slotIndex currentHead)).setNext slotIndex currentHead
    | .publishing slotIndex currentHead, .proceed =>
      if threads.freeListHead = currentHead then
        (threads.setCall thread .idle).setHead (wrapInt slotIndex)
      else threads.setCall thread (.pushing slotIndex threads.freeListHead)
    | .publishing slotIndex _, .fail =>
      threads.setCall thread (.pushing slotIndex threads.freeListHead)
    | _, _ => threads

/-- When a pop succeeds, the successor of the head is still the one that it has read. -/
def Fresh (threads : PoolThreads ι) : ι × PoolMove → Prop
  | (thread, .proceed) =>
    ∀ headIndex ∈ (threads.call thread).exchanged, threads.freeListHead = headIndex.1 →
      threads.nextFreeIndex headIndex.1 = headIndex.2
  | _ => True

instance (threads : PoolThreads ι) : ∀ label, Decidable (threads.Fresh label)
  | (thread, .proceed) => inferInstanceAs (Decidable
      (∀ headIndex ∈ (threads.call thread).exchanged, threads.freeListHead = headIndex.1 →
        threads.nextFreeIndex headIndex.1 = headIndex.2))
  | (_, .allocate) => inferInstanceAs (Decidable True)
  | (_, .deallocate _) => inferInstanceAs (Decidable True)
  | (_, .fail) => inferInstanceAs (Decidable True)

/-! ## The slots are divided -/

/-- Where the slots are: on the free list or in the hands of a thread. -/
def content (threads : PoolThreads ι) (slots : List Nat) : Option ι → List Nat
  | none => slots
  | some thread => threads.owned thread

/-- The free list holds `slots`, each slot is on it or in the hands of one thread, and a
thread that is about to publish a slot has linked it. -/
structure Sound (threads : PoolThreads ι) (slots : List Nat) : Prop where
  small : threads.poolSize ≤ 2 ^ 31
  chain : Chain threads.nextFreeIndex threads.freeListHead slots
  divided : Divided (· < threads.poolSize) (threads.content slots)
  linked : ∀ thread slotIndex currentHead,
    threads.call thread = .publishing slotIndex currentHead →
      threads.nextFreeIndex slotIndex = currentHead

section Lemmas

variable {threads after : PoolThreads ι} {thread other : ι} {slots : List Nat} {call : PoolCall}
  {slotIndex : Nat}

@[simp] theorem setCall_call_self : (threads.setCall thread call).call thread = call :=
  Function.update_self ..

@[simp] theorem setCall_call_of_ne (differs : other ≠ thread) :
    (threads.setCall thread call).call other = threads.call other :=
  Function.update_of_ne differs ..

@[simp] theorem setHeld_held_self (held : List Nat) :
    (threads.setHeld thread held).held thread = held :=
  Function.update_self ..

@[simp] theorem setHeld_held_of_ne (differs : other ≠ thread) (held : List Nat) :
    (threads.setHeld thread held).held other = threads.held other :=
  Function.update_of_ne differs ..

/-- A step of one thread leaves the others where they are. -/
def Others (threads after : PoolThreads ι) (thread : ι) : Prop :=
  ∀ other, other ≠ thread →
    after.call other = threads.call other ∧ after.held other = threads.held other

omit [DecidableEq ι] in
theorem Others.owned (others : Others threads after thread) (differs : other ≠ thread) :
    after.owned other = threads.owned other := by
  unfold PoolThreads.owned
  rw [(others other differs).1, (others other differs).2]

/-- A step of one thread writes only to slots in its own hands, so it disturbs no other
thread. It is left to see to the free list, to the slots and to its own link. -/
theorem Sound.advance (sound : threads.Sound slots) {rest : List Nat}
    (size : after.poolSize = threads.poolSize) (others : Others threads after thread)
    (writes : ∀ slotIndex, slotIndex ∉ threads.owned thread →
      after.nextFreeIndex slotIndex = threads.nextFreeIndex slotIndex)
    (chain : Chain after.nextFreeIndex after.freeListHead rest)
    (divided : Divided (· < threads.poolSize) (after.content rest))
    (linked : ∀ slotIndex currentHead, after.call thread = .publishing slotIndex currentHead →
      after.nextFreeIndex slotIndex = currentHead) : after.Sound rest where
  small := by
    rw [size]
    exact sound.small
  chain := chain
  divided := by
    rw [size]
    exact divided
  linked := by
    intro other slotIndex currentHead publishing
    by_cases moved : other = thread
    · rw [moved] at publishing
      exact linked slotIndex currentHead publishing
    · rw [(others other moved).1] at publishing
      have mine : slotIndex ∈ threads.owned other := by
        rw [PoolThreads.owned, publishing]
        exact List.mem_cons_self
      rw [writes slotIndex fun theirs => sound.divided.disjoint (some other) (some thread)
        (fun same => moved (Option.some.inj same)) mine theirs]
      exact sound.linked other slotIndex currentHead publishing

/-- A step that moves no slot between the free list and the threads. -/
theorem Sound.divided_of_perm (sound : threads.Sound slots) (others : Others threads after thread)
    (mine : (after.owned thread).Perm (threads.owned thread)) :
    Divided (· < threads.poolSize) (after.content slots) := by
  refine sound.divided.perm fun place => ?_
  cases place with
  | none => exact .rfl
  | some other =>
    by_cases moved : other = thread
    · subst moved
      exact mine
    · change (after.owned other).Perm (threads.owned other)
      rw [others.owned moved]

theorem others_setCall (threads : PoolThreads ι) (thread : ι) (call : PoolCall) :
    Others threads (threads.setCall thread call) thread :=
  fun _ differs => ⟨setCall_call_of_ne differs, rfl⟩

section

variable (sound : threads.Sound slots)
include sound

theorem Sound.setCall (same : call.returning = (threads.call thread).returning)
    (unpublished : ∀ slotIndex currentHead, call ≠ .publishing slotIndex currentHead) :
    (threads.setCall thread call).Sound slots := by
  have others := threads.others_setCall thread call
  refine sound.advance rfl others (fun _ _ => rfl) sound.chain
    (sound.divided_of_perm others ?_) fun slotIndex currentHead publishing => ?_
  · unfold owned
    rw [setCall_call_self, same]
    exact .rfl
  · rw [setCall_call_self] at publishing
    exact absurd publishing (unpublished slotIndex currentHead)

theorem Sound.deallocate (idle : threads.call thread = .idle)
    (member : slotIndex ∈ threads.held thread) (currentHead : Int) :
    ((threads.setHeld thread ((threads.held thread).erase slotIndex)).setCall thread
      (.pushing slotIndex currentHead)).Sound slots := by
  have others : Others threads ((threads.setHeld thread
      ((threads.held thread).erase slotIndex)).setCall thread (.pushing slotIndex currentHead))
      thread :=
    fun _ differs => ⟨setCall_call_of_ne differs, setHeld_held_of_ne differs _⟩
  refine sound.advance rfl others (fun _ _ => rfl) sound.chain
    (sound.divided_of_perm others ?_) fun _ _ publishing => ?_
  · unfold owned
    rw [setCall_call_self, idle]
    change (slotIndex :: (threads.setHeld thread _).held thread).Perm (threads.held thread)
    rw [setHeld_held_self]
    exact (List.perm_cons_erase member).symm
  · rw [setCall_call_self] at publishing
    cases publishing

/-- A thread links the slot that it gives back. No other slot is written. -/
theorem Sound.link {currentHead : Int}
    (pushing : threads.call thread = .pushing slotIndex currentHead) :
    ((threads.setCall thread (.publishing slotIndex currentHead)).setNext slotIndex
      currentHead).Sound slots := by
  have mine : slotIndex ∈ threads.owned thread := by
    rw [owned, pushing]
    exact List.mem_cons_self
  have others : Others threads ((threads.setCall thread (.publishing slotIndex currentHead)).setNext
      slotIndex currentHead) thread :=
    fun _ differs => ⟨setCall_call_of_ne differs, rfl⟩
  refine sound.advance rfl others (fun other foreign => ?_) ?_
    (sound.divided_of_perm others ?_) fun other head publishing => ?_
  · have differs : other ≠ slotIndex := fun same => foreign (same ▸ mine)
    exact Function.update_of_ne differs ..
  · exact sound.chain.update (sound.divided.disjoint (some thread) none nofun mine) currentHead
  · unfold owned
    change (((threads.setCall thread _).call thread).returning ++ threads.held thread).Perm _
    rw [setCall_call_self, pushing]
    exact .rfl
  · change (threads.setCall thread _).call thread = _ at publishing
    rw [setCall_call_self] at publishing
    cases publishing
    exact Function.update_self ..

/-- A successful push: the slot goes from the thread to the free list. -/
theorem Sound.publish
    (publishing : threads.call thread = .publishing slotIndex threads.freeListHead) :
    ((threads.setCall thread .idle).setHead (wrapInt slotIndex)).Sound (slotIndex :: slots) := by
  have mine : slotIndex ∈ threads.owned thread := by
    rw [owned, publishing]
    exact List.mem_cons_self
  have inside : slotIndex < threads.poolSize :=
    (sound.divided.covers slotIndex).mpr ⟨some thread, mine⟩
  have small := sound.small
  rw [wrapInt_of_bounds (by omega) (by omega)]
  have others : Others threads ((threads.setCall thread .idle).setHead slotIndex) thread :=
    fun _ differs => ⟨setCall_call_of_ne differs, rfl⟩
  refine sound.advance rfl others (fun _ _ => rfl) ⟨rfl, ?_⟩ ?_ fun _ _ again => ?_
  · change Chain threads.nextFreeIndex (threads.nextFreeIndex slotIndex) slots
    rw [sound.linked thread slotIndex _ publishing]
    exact sound.chain
  · refine sound.divided.move (some thread) none slotIndex nofun ?_ .rfl
      fun place differs empty => ?_
    · change (threads.owned thread).Perm (slotIndex ::
        (((threads.setCall thread .idle).call thread).returning ++ threads.held thread))
      rw [owned, publishing, setCall_call_self]
      exact .rfl
    · cases place with
      | none => exact absurd rfl empty
      | some other => exact others.owned fun same => differs (congrArg some same)
  · change (threads.setCall thread _).call thread = _ at again
    rw [setCall_call_self] at again
    cases again

/-- A successful pop: the head goes from the free list to the thread, and its successor,
if it was read in time, is the new head. -/
theorem Sound.pop {headIndex : Nat} {nextIndex : Int}
    (exchanging : threads.call thread = .exchanging headIndex nextIndex)
    (head : threads.freeListHead = headIndex)
    (fresh : threads.nextFreeIndex headIndex = nextIndex) :
    ∃ rest, (((threads.setHeld thread (headIndex :: threads.held thread)).setCall thread
      .idle).setHead nextIndex).Sound rest := by
  have others : Others threads (((threads.setHeld thread
      (headIndex :: threads.held thread)).setCall thread .idle).setHead nextIndex) thread :=
    fun _ differs => ⟨setCall_call_of_ne differs, setHeld_held_of_ne differs _⟩
  have chain := sound.chain
  rw [head] at chain
  cases slots with
  | nil =>
    have ended : (headIndex : Int) = -1 := chain
    omega
  | cons first rest =>
    obtain ⟨same, chain⟩ := chain
    obtain rfl : headIndex = first := by omega
    rw [fresh] at chain
    refine ⟨rest, sound.advance rfl others (fun _ _ => rfl) chain ?_ fun _ _ again => ?_⟩
    · refine sound.divided.move none (some thread) headIndex nofun .rfl ?_
        fun place empty differs => ?_
      · change (((PoolThreads.setCall _ thread .idle).call thread).returning ++
          (threads.setHeld thread (headIndex :: threads.held thread)).held thread).Perm
            (headIndex :: threads.owned thread)
        rw [setCall_call_self, setHeld_held_self, owned, exchanging]
        exact .rfl
      · cases place with
        | none => exact absurd rfl empty
        | some other => exact others.owned fun same => differs (congrArg some same)
    · change (PoolThreads.setCall _ thread _).call thread = _ at again
      rw [setCall_call_self] at again
      cases again

/-- Every step keeps the slots divided, if a pop exchanges only a head whose successor it
has read in time. -/
theorem Sound.step (label : ι × PoolMove) (fresh : threads.Fresh label) :
    ∃ rest, (threads.step label).Sound rest := by
  obtain ⟨thread, move⟩ := label
  cases place : threads.call thread with
  | idle =>
    cases move with
    | allocate =>
      simp only [PoolThreads.step, place]
      exact ⟨slots, sound.setCall (by rw [place]; rfl) nofun⟩
    | deallocate slotIndex =>
      simp only [PoolThreads.step, place]
      split
      · rename_i member
        exact ⟨slots, sound.deallocate place member _⟩
      · exact ⟨slots, sound⟩
    | proceed => exact ⟨slots, by simpa only [PoolThreads.step, place] using sound⟩
    | fail => exact ⟨slots, by simpa only [PoolThreads.step, place] using sound⟩
  | popping headIndex =>
    cases move with
    | proceed =>
      simp only [PoolThreads.step, place]
      split
      · exact ⟨slots, sound.setCall (by rw [place]; rfl) nofun⟩
      · exact ⟨slots, sound.setCall (by rw [place]; rfl) nofun⟩
    | _ => exact ⟨slots, by simpa only [PoolThreads.step, place] using sound⟩
  | exchanging headIndex nextIndex =>
    cases move with
    | proceed =>
      simp only [PoolThreads.step, place]
      split
      · rename_i head
        have read := fresh (headIndex, nextIndex) (by rw [place]; rfl)
        exact sound.pop place head (read head)
      · exact ⟨slots, sound.setCall (by rw [place]; rfl) nofun⟩
    | fail =>
      simp only [PoolThreads.step, place]
      exact ⟨slots, sound.setCall (by rw [place]; rfl) nofun⟩
    | _ => exact ⟨slots, by simpa only [PoolThreads.step, place] using sound⟩
  | pushing slotIndex currentHead =>
    cases move with
    | proceed =>
      simp only [PoolThreads.step, place]
      exact ⟨slots, sound.link place⟩
    | _ => exact ⟨slots, by simpa only [PoolThreads.step, place] using sound⟩
  | publishing slotIndex currentHead =>
    cases move with
    | proceed =>
      simp only [PoolThreads.step, place]
      split
      · rename_i head
        rw [← head] at place
        exact ⟨slotIndex :: slots, sound.publish place⟩
      · exact ⟨slots, sound.setCall (by rw [place]; rfl) nofun⟩
    | fail =>
      simp only [PoolThreads.step, place]
      exact ⟨slots, sound.setCall (by rw [place]; rfl) nofun⟩
    | _ => exact ⟨slots, by simpa only [PoolThreads.step, place] using sound⟩

end

end Lemmas

/-! ## A call on its own

With no step of another thread in between, the steps of a call have the effect that the
loops of `allocateRaw` and `deallocateRaw` have in memory. -/

section Alone

open Relation

variable {α : Type} {threads : PoolThreads ι} {thread : ι} {memory : PoolMemory α} {slotIndex : Nat}
  {currentHead : Int}

end Alone

/-! ## Runs -/

/-- A new pool whose indices fit in an `int32_t`. -/
def Initial (threads : PoolThreads ι) : Prop :=
  ∃ poolSize, 0 < poolSize ∧ poolSize ≤ 2 ^ 31 ∧ threads = PoolThreads.new ι poolSize

omit [DecidableEq ι] in
theorem Initial.sound (fresh : threads.Initial) : ∃ slots, threads.Sound slots := by
  obtain ⟨poolSize, positive, small, rfl⟩ := fresh
  refine ⟨List.range poolSize, small, linkSlots_chain positive small _, ⟨?_, ?_, ?_⟩, nofun⟩
  · intro place
    cases place with
    | none => exact List.nodup_range
    | some thread => exact List.nodup_nil
  · intro first second differ value here there
    cases first with
    | none =>
      cases second with
      | none => exact differ rfl
      | some thread => cases there
    | some thread => cases here
  · intro slot
    rw [← List.mem_range]
    constructor
    · exact fun free => ⟨none, free⟩
    · rintro ⟨place, there⟩
      cases place with
      | none => exact there
      | some thread => cases there

/-- No slot is held twice, and when no call is running every slot is on the free list or
held. -/
structure Exclusive (threads : PoolThreads ι) : Prop where
  nodup : ∀ thread, (threads.held thread).Nodup
  disjoint : ∀ first second, first ≠ second →
    (threads.held first).Disjoint (threads.held second)
  covers : (∀ thread, threads.call thread = .idle) →
    ∃ slots, Chain threads.nextFreeIndex threads.freeListHead slots ∧
      ∀ slot, slot < threads.poolSize → slot ∈ slots ∨ ∃ thread, slot ∈ threads.held thread

omit [DecidableEq ι] in
theorem Sound.exclusive {slots : List Nat} (sound : threads.Sound slots) : threads.Exclusive := by
  refine ⟨fun thread => ?_, fun first second differ slot here there => ?_, fun idle => ?_⟩
  · exact (List.nodup_append.mp (sound.divided.nodup (some thread))).2.1
  · exact sound.divided.disjoint (some first) (some second)
      (fun same => differ (Option.some.inj same))
      (List.mem_append_right _ here) (List.mem_append_right _ there)
  · refine ⟨slots, sound.chain, fun slot inside => ?_⟩
    obtain ⟨place, there⟩ := (sound.divided.covers slot).mp inside
    cases place with
    | none => exact .inl there
    | some thread =>
      refine .inr ⟨thread, ?_⟩
      change slot ∈ (threads.call thread).returning ++ threads.held thread at there
      rw [idle thread] at there
      exact there

/-- In every run in which each successful pop finds the successor that it has read, no
slot is held twice and none is lost. -/
theorem slots_exclusive {threads : PoolThreads ι}
    (run : Transition.Run Initial step Fresh threads) : threads.Exclusive := by
  have sound : ∃ slots, threads.Sound slots := by
    refine run.invariant (fun threads => ∃ slots, threads.Sound slots)
      (fun threads fresh => fresh.sound) ?_
    rintro threads label ⟨slots, sound⟩ fresh
    exact sound.step label fresh
  obtain ⟨slots, sound⟩ := sound
  exact sound.exclusive

/-- Two pops of which the slower one has to try again, and a push that is tried twice. -/
def sampleTurns : List (Bool × PoolMove) :=
  [(false, .allocate), (true, .allocate), (false, .proceed), (true, .proceed),
    (true, .proceed), (false, .proceed), (false, .proceed), (false, .proceed),
    (true, .deallocate 0), (true, .proceed), (true, .fail), (true, .proceed), (true, .proceed)]

theorem slots_exclusive_turns :
    Transition.Permits step Fresh (PoolThreads.new Bool 2) sampleTurns ∧
      (Transition.execute step (PoolThreads.new Bool 2) sampleTurns).Exclusive := by
  have allowed : Transition.Permits step Fresh (PoolThreads.new Bool 2) sampleTurns := by
    decide +kernel
  exact ⟨allowed, slots_exclusive
    ((Transition.Run.start ⟨2, by decide, by decide, rfl⟩).execute allowed)⟩

/-- Between the loads and the exchange of one pop, another thread pops both slots and
gives the first one back. The exchange then makes the second slot the head, which the
other thread holds, and the next pop hands it out again. -/
def sampleSchedule : List (Bool × PoolMove) :=
  [(false, .allocate), (false, .proceed),
    (true, .allocate), (true, .proceed), (true, .proceed),
    (true, .allocate), (true, .proceed), (true, .proceed),
    (true, .deallocate 0), (true, .proceed), (true, .proceed),
    (false, .proceed),
    (false, .allocate), (false, .proceed), (false, .proceed)]

theorem stale_successor_shares_slot :
    ∃ threads : PoolThreads Bool,
      Transition.Run Initial step Transition.unrestricted threads ∧
        1 ∈ threads.held false ∧ 1 ∈ threads.held true ∧ ¬ threads.Exclusive := by
  refine ⟨Transition.execute step (PoolThreads.new Bool 2) sampleSchedule, ?_, ?_⟩
  · exact (Transition.Run.start ⟨2, by decide, by decide, rfl⟩).execute
      (Transition.permits_unrestricted ..)
  · have first :
        1 ∈ (Transition.execute step (PoolThreads.new Bool 2) sampleSchedule).held false := by
      decide +kernel
    have second :
        1 ∈ (Transition.execute step (PoolThreads.new Bool 2) sampleSchedule).held true := by
      decide +kernel
    exact ⟨first, second, fun exclusive => exclusive.disjoint false true nofun first second⟩

end PoolThreads

end FixGateway.Common
