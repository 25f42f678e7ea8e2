import Mathlib.Data.List.Perm.Subperm
import Mathlib.Logic.Function.Basic

/-! # The message pool

`MessagePool<T>` keeps a fixed array of slots and a free list of slot indices.
A pointer handed out by `allocate` is the index of its slot. The free list is
the chain that starts at `free_list_head_`, read as a list, and a slot holds an
object exactly between its allocation and its deallocation. That the free slots
and the live slots partition the array is carried by the structure, so every
operation keeps it.

The object that placement new constructs is an argument of `allocate`. The
destructor of an object that is not live is undefined in the source; here
`deallocate` ignores such a pointer, as it ignores one of another pool.
-/

namespace FixGateway.Common

/-- A pool of `poolSize` slots for objects of type `α`. -/
structure MessagePool (α : Type) where
  poolSize : Nat
  /-- The slots on the free list, from its head on. -/
  freeList : List Nat
  /-- The objects of the live slots. -/
  objects : Nat → Option α
  allocatedCount : Nat
  totalAllocations : Nat
  totalDeallocations : Nat
  allocationFailures : Nat
  isShutdown : Bool
  nodup : freeList.Nodup
  free_iff : ∀ slot, slot ∈ freeList ↔ slot < poolSize ∧ objects slot = none
  bounded : ∀ slot, poolSize ≤ slot → objects slot = none
  counted : allocatedCount + freeList.length = poolSize

namespace MessagePool

variable {α : Type} {pool : MessagePool α}

/-- `DEFAULT_POOL_SIZE`. -/
def defaultPoolSize : Nat := 8192

/-- A new pool: every slot is free, in index order. The constructor throws on an
empty pool. -/
def new (α : Type) (poolSize : Nat) (_positive : 0 < poolSize) : MessagePool α where
  poolSize := poolSize
  freeList := List.range poolSize
  objects := fun _ => none
  allocatedCount := 0
  totalAllocations := 0
  totalDeallocations := 0
  allocationFailures := 0
  isShutdown := false
  nodup := List.nodup_range
  free_iff := by simp
  bounded := fun _ _ => rfl
  counted := by simp

/-- A slot is live when it holds an object. -/
def live (pool : MessagePool α) (slot : Nat) : Prop := (pool.objects slot).isSome

instance (pool : MessagePool α) (slot : Nat) : Decidable (pool.live slot) :=
  inferInstanceAs (Decidable ((pool.objects slot).isSome = true))

theorem lt_of_live {slot : Nat} (alive : pool.live slot) : slot < pool.poolSize := by
  by_contra outside
  rw [live, pool.bounded slot (by omega)] at alive
  cases alive

theorem notMem_of_live {slot : Nat} (alive : pool.live slot) : slot ∉ pool.freeList := by
  intro member
  rw [live, ((pool.free_iff slot).mp member).2] at alive
  cases alive

theorem length_freeList_lt_of_live {slot : Nat} (alive : pool.live slot) :
    pool.freeList.length < pool.poolSize := by
  have nodup : (slot :: pool.freeList).Nodup :=
    List.nodup_cons.mpr ⟨notMem_of_live alive, pool.nodup⟩
  have subset : slot :: pool.freeList ⊆ List.range pool.poolSize := by
    intro other member
    rw [List.mem_range]
    obtain same | member := List.mem_cons.mp member
    · rw [same]
      exact lt_of_live alive
    · exact ((pool.free_iff other).mp member).1
  have bound := (List.subperm_of_subset nodup subset).length_le
  rw [List.length_cons, List.length_range] at bound
  exact bound

/-- At least `count` further allocations will succeed. -/
def available (pool : MessagePool α) (count : Nat) : Prop :=
  pool.isShutdown = false ∧ count ≤ pool.freeList.length

instance (pool : MessagePool α) (count : Nat) : Decidable (pool.available count) :=
  inferInstanceAs (Decidable (_ ∧ _))

/-- Count a refused allocation. -/
def countFailure (pool : MessagePool α) : MessagePool α :=
  { pool with allocationFailures := pool.allocationFailures + 1 }

/-- Take the head of the free list and construct `object` in it. -/
def take (pool : MessagePool α) (object : α) (slot : Nat) (rest : List Nat)
    (chain : pool.freeList = slot :: rest) : MessagePool α :=
  { pool with
    freeList := rest
    objects := Function.update pool.objects slot (some object)
    allocatedCount := pool.allocatedCount + 1
    totalAllocations := pool.totalAllocations + 1
    nodup := by
      have nodup := pool.nodup
      rw [chain, List.nodup_cons] at nodup
      exact nodup.2
    free_iff := by
      intro other
      have nodup := pool.nodup
      have free := pool.free_iff other
      rw [chain, List.nodup_cons] at nodup
      rw [chain, List.mem_cons] at free
      by_cases same : other = slot
      · rw [same, Function.update_self]
        simp [nodup.1]
      · rw [Function.update_of_ne same]
        simpa [same] using free
    bounded := by
      intro other outside
      have member : slot ∈ pool.freeList := by rw [chain]; exact List.mem_cons_self
      have inside := ((pool.free_iff slot).mp member).1
      rw [Function.update_of_ne (by omega)]
      exact pool.bounded other outside
    counted := by
      have counted := pool.counted
      rw [chain, List.length_cons] at counted
      omega }

/-- `allocate`: the slot of a new object, or nothing when the pool is shut down
or exhausted. -/
def allocate (pool : MessagePool α) (object : α) : Option Nat × MessagePool α :=
  if pool.isShutdown then (none, pool.countFailure)
  else
    match chain : pool.freeList with
    | [] => (none, pool.countFailure)
    | slot :: rest => (some slot, pool.take object slot rest chain)

/-- Destroy the object of a live slot and push the slot on the free list. -/
def release (pool : MessagePool α) (slot : Nat) (alive : pool.live slot) : MessagePool α :=
  { pool with
    freeList := slot :: pool.freeList
    objects := Function.update pool.objects slot none
    allocatedCount := pool.allocatedCount - 1
    totalDeallocations := pool.totalDeallocations + 1
    nodup := List.nodup_cons.mpr ⟨notMem_of_live alive, pool.nodup⟩
    free_iff := by
      intro other
      by_cases same : other = slot
      · rw [same, Function.update_self]
        simp [lt_of_live alive]
      · rw [Function.update_of_ne same, List.mem_cons, ← pool.free_iff other]
        simp [same]
    bounded := by
      intro other outside
      by_cases same : other = slot
      · rw [same, Function.update_self]
      · rw [Function.update_of_ne same]
        exact pool.bounded other outside
    counted := by
      have counted := pool.counted
      have missing := length_freeList_lt_of_live alive
      rw [List.length_cons]
      omega }

/-- `deallocate` of a pointer. -/
def deallocate (pool : MessagePool α) (slot : Nat) : MessagePool α :=
  if alive : pool.live slot then pool.release slot alive else pool

/-- Write an object through the pointer of a live slot. -/
def store (pool : MessagePool α) (slot : Nat) (object : α) : MessagePool α :=
  if alive : pool.live slot then
    { pool with
      objects := Function.update pool.objects slot (some object)
      free_iff := by
        intro other
        by_cases same : other = slot
        · rw [same, Function.update_self]
          simp [notMem_of_live alive]
        · rw [Function.update_of_ne same]
          exact pool.free_iff other
      bounded := by
        intro other outside
        have inside := lt_of_live alive
        rw [Function.update_of_ne (by omega)]
        exact pool.bounded other outside }
  else pool

/-- `shutdown`: refuse all further allocations. -/
def shutdown (pool : MessagePool α) : MessagePool α := { pool with isShutdown := true }

theorem objects_of_drained (drained : pool.allocatedCount = 0) (slot : Nat) :
    pool.objects slot = none := by
  by_contra occupied
  have fewer := length_freeList_lt_of_live
    (show pool.live slot from Option.isSome_iff_ne_none.mpr occupied)
  have counted := pool.counted
  omega

/-- Put the slots of a pool without allocated slots back in index order. -/
def refill (pool : MessagePool α) (drained : pool.allocatedCount = 0) : MessagePool α :=
  { pool with
    freeList := List.range pool.poolSize
    nodup := List.nodup_range
    free_iff := fun slot => by simp [objects_of_drained drained]
    counted := by simp [drained] }

/-- `reset`, which throws on a pool with allocated slots. -/
def reset (pool : MessagePool α) : Except String (MessagePool α) :=
  if used : 0 < pool.allocatedCount then throw "Cannot reset non-empty pool"
  else .ok (pool.refill (Nat.eq_zero_of_not_pos used))

/-! ## Taking a slot and giving it back -/

section Lemmas

variable {pool : MessagePool α} {object other : α} {slot : Nat} {rest : List Nat}
  {chain : pool.freeList = slot :: rest}

theorem allocate_eq_take (running : pool.isShutdown = false) (chain : pool.freeList = slot :: rest)
    : pool.allocate object = (some slot, pool.take object slot rest chain) := by
  unfold allocate
  rw [if_neg (by rw [running]; exact Bool.false_ne_true)]
  split
  · rename_i empty
    rw [chain] at empty
    cases empty
  · rename_i head tail found
    cases chain.symm.trans found
    rfl

theorem allocate_eq_none (exhausted : ¬ pool.available 1) :
    pool.allocate object = (none, pool.countFailure) := by
  unfold allocate
  split
  · rfl
  · rename_i running
    split
    · rfl
    · rename_i head tail found
      refine absurd ⟨by simpa using running, ?_⟩ exhausted
      rw [found, List.length_cons]
      omega

theorem exists_chain {count : Nat} (free : pool.available (count + 1)) :
    ∃ slot rest, pool.freeList = slot :: rest ∧ count ≤ rest.length := by
  cases found : pool.freeList with
  | nil =>
    have room := free.2
    rw [found, List.length_nil] at room
    omega
  | cons slot rest =>
    have room := free.2
    rw [found, List.length_cons] at room
    exact ⟨slot, rest, rfl, by omega⟩

@[simp] theorem take_objects :
    (pool.take object slot rest chain).objects = Function.update pool.objects slot (some object) :=
  rfl

theorem take_live : (pool.take object slot rest chain).live slot := by
  rw [live, take_objects, Function.update_self]
  rfl

theorem live_of_allocate {after : MessagePool α}
    (allocated : pool.allocate object = (some slot, after)) : after.live slot := by
  unfold allocate at allocated
  split at allocated
  · cases allocated
  · split at allocated
    · cases allocated
    · cases allocated
      exact take_live

theorem store_objects_self (alive : pool.live slot) :
    (pool.store slot object).objects slot = some object := by
  unfold store
  rw [dif_pos alive]
  exact Function.update_self ..

/-- Writing through a fresh pointer is the same as having constructed that object. -/
theorem store_take :
    (pool.take object slot rest chain).store slot other = pool.take other slot rest chain := by
  unfold store
  rw [dif_pos take_live]
  simp only [take, Function.update_idem]

theorem deallocate_take_freeList :
    ((pool.take object slot rest chain).deallocate slot).freeList = pool.freeList := by
  unfold deallocate
  rw [dif_pos take_live, chain]
  rfl

theorem deallocate_take_objects :
    ((pool.take object slot rest chain).deallocate slot).objects = pool.objects := by
  have member : slot ∈ pool.freeList := by
    rw [chain]
    exact List.mem_cons_self
  unfold deallocate
  rw [dif_pos take_live]
  change Function.update (Function.update pool.objects slot (some object)) slot none = pool.objects
  rw [Function.update_idem, Function.update_eq_self_iff]
  exact ((pool.free_iff slot).mp member).2.symm

/-- The number of live slots. -/
def liveCount (pool : MessagePool α) : Nat := (List.range pool.poolSize).countP pool.live

/-- `allocated_count_` counts the live slots. -/
theorem allocatedCount_eq_liveCount (pool : MessagePool α) :
    pool.allocatedCount = pool.liveCount := by
  have free : pool.freeList.Perm
      ((List.range pool.poolSize).filter fun slot => ¬ decide (pool.live slot) = true) := by
    refine (List.perm_ext_iff_of_nodup pool.nodup (List.nodup_range.filter _)).mpr fun slot => ?_
    rw [pool.free_iff, List.mem_filter, List.mem_range, decide_eq_true_iff, decide_eq_true_iff]
    unfold live
    rw [Option.not_isSome_iff_eq_none]
  have split : (List.range pool.poolSize).length = _ :=
    List.length_eq_countP_add_countP fun slot => decide (pool.live slot)
  have length := free.length_eq
  have counted := pool.counted
  rw [← List.countP_eq_length_filter] at length
  rw [List.length_range] at split
  unfold liveCount
  omega

/-- Every allocated slot was allocated once more often than it was deallocated. -/
def Balanced (pool : MessagePool α) : Prop :=
  pool.totalAllocations = pool.totalDeallocations + pool.allocatedCount

theorem Balanced.allocate (balanced : pool.Balanced) (object : α) :
    (pool.allocate object).2.Balanced := by
  unfold MessagePool.allocate
  split
  · exact balanced
  · split
    · exact balanced
    · exact congrArg (· + 1) balanced

theorem Balanced.deallocate (balanced : pool.Balanced) (slot : Nat) :
    (pool.deallocate slot).Balanced := by
  unfold MessagePool.deallocate
  split
  · rename_i alive
    have missing := length_freeList_lt_of_live alive
    have counted := pool.counted
    have before : pool.totalAllocations = pool.totalDeallocations + pool.allocatedCount := balanced
    change pool.totalAllocations = pool.totalDeallocations + 1 + (pool.allocatedCount - 1)
    omega
  · exact balanced

@[simp] theorem deallocate_isShutdown : (pool.deallocate slot).isShutdown = pool.isShutdown := by
  unfold deallocate
  split <;> rfl

theorem deallocate_live_iff {other : Nat} (alive : pool.live slot) :
    (pool.deallocate slot).live other ↔ pool.live other ∧ other ≠ slot := by
  unfold deallocate
  rw [dif_pos alive]
  by_cases same : other = slot
  · simp [live, release, same]
  · simp [live, release, same]

theorem deallocate_allocatedCount (alive : pool.live slot) :
    (pool.deallocate slot).allocatedCount + 1 = pool.allocatedCount := by
  have missing := length_freeList_lt_of_live alive
  have counted := pool.counted
  unfold deallocate
  rw [dif_pos alive]
  change pool.allocatedCount - 1 + 1 = pool.allocatedCount
  omega

end Lemmas

/-! ## What is taken from a pool -/

/-- A slot of the pool is free or live. -/
theorem lt_poolSize_iff {slot : Nat} :
    slot < pool.poolSize ↔ slot ∈ pool.freeList ∨ pool.live slot := by
  constructor
  · intro inside
    by_cases free : pool.objects slot = none
    · exact .inl ((pool.free_iff slot).mpr ⟨inside, free⟩)
    · exact .inr (Option.isSome_iff_ne_none.mpr free)
  · rintro (free | alive)
    · exact ((pool.free_iff slot).mp free).1
    · exact lt_of_live alive

/-- Live slots stay live. -/
structure Grown (before after : MessagePool α) : Prop where
  poolSize : after.poolSize = before.poolSize
  live : ∀ slot, before.live slot → after.live slot

/-- The slots that are live afterwards and were not before. -/
def newSlots (before after : MessagePool α) : List Nat :=
  (List.range after.poolSize).filter fun slot => after.live slot ∧ ¬ before.live slot

section Growth

variable {before middle after : MessagePool α} {slot : Nat}

theorem Grown.refl (pool : MessagePool α) : pool.Grown pool := ⟨rfl, fun _ alive => alive⟩

theorem Grown.trans (first : before.Grown middle) (second : middle.Grown after) :
    before.Grown after :=
  ⟨second.poolSize.trans first.poolSize, fun slot alive => second.live slot (first.live slot alive)⟩

theorem mem_newSlots : slot ∈ newSlots before after ↔ after.live slot ∧ ¬ before.live slot := by
  unfold newSlots
  rw [List.mem_filter, List.mem_range, decide_eq_true_iff]
  exact and_iff_right_of_imp fun gained => lt_of_live gained.1

theorem nodup_newSlots (before after : MessagePool α) : (newSlots before after).Nodup :=
  List.nodup_range.filter _

theorem Grown.allocatedCount (grown : before.Grown after) :
    after.allocatedCount = before.allocatedCount + (newSlots before after).length := by
  rw [allocatedCount_eq_liveCount, allocatedCount_eq_liveCount]
  unfold liveCount newSlots
  rw [← List.countP_eq_length_filter, grown.poolSize,
    List.countP_eq_countP_filter_add _ (fun slot => decide (after.live slot))
      (fun slot => decide (before.live slot)), List.countP_filter, List.countP_filter]
  congr 1
  · refine List.countP_congr fun slot _ => ?_
    simpa using fun alive => grown.live slot alive
  · refine List.countP_congr fun slot _ => ?_
    simp

theorem grown_allocate (pool : MessagePool α) (object : α) :
    pool.Grown (pool.allocate object).2 := by
  unfold allocate
  split
  · exact ⟨rfl, fun _ alive => alive⟩
  · split
    · exact ⟨rfl, fun _ alive => alive⟩
    · rename_i taken rest chain
      refine ⟨rfl, fun slot alive => ?_⟩
      by_cases same : slot = taken
      · simp [live, same]
      · simpa [live, same] using alive

theorem grown_store (pool : MessagePool α) (slot : Nat) (object : α) :
    pool.Grown (pool.store slot object) := by
  unfold store
  split
  · refine ⟨rfl, fun other alive => ?_⟩
    by_cases same : other = slot
    · simp [live, same]
    · simpa [live, same] using alive
  · exact .refl pool

end Growth

end MessagePool

end FixGateway.Common
