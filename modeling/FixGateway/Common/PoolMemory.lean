import FixGateway.Common.MessagePool
import FixGateway.Concurrency.Transition
import FixGateway.Memory.Chain
import FixGateway.Memory.Number

/-! # The message pool in memory

`MessagePool` reads the free list as a list and a pointer as the index of a slot.
Here they are what the source has: the free list is threaded through the array
`free_list_nodes_`, a pointer is an address, and the counters are machine words. A
compare-exchange of the free list's head may fail spuriously; how often it does is an
argument of each call, and with nothing running in between it makes no difference.

Every call on the memory does what the call on the list does (`Simulates`), so the
partition into free and live slots, which the list carries as a field, holds of the
memory after every sequence of calls.
-/

namespace FixGateway.Common

open ByteScan IndexChain MessagePool

variable {poolSize : Nat}

/-- Where the slots of a pool lie. Their indices fit in an `int32_t`, and the array ends
below the end of the address space. -/
structure PoolLayout where
  poolSize : Nat
  /-- The address of the first slot. -/
  poolSlots : Nat
  /-- `sizeof(PoolSlot)`. -/
  slotSize : Nat
  positive : 0 < poolSize
  small : poolSize < 2 ^ 31
  nonnull : 0 < poolSlots
  sized : 0 < slotSize
  fits : poolSlots + poolSize * slotSize < 2 ^ 64

namespace PoolLayout

/-- The address of a slot, which is that of the message in it. -/
def address (layout : PoolLayout) (slot : Nat) : Nat := layout.poolSlots + slot * layout.slotSize

theorem address_injective (layout : PoolLayout) : Function.Injective layout.address := by
  intro first second same
  have products : first * layout.slotSize = second * layout.slotSize := Nat.add_left_cancel same
  exact Nat.eq_of_mul_eq_mul_right layout.sized products

theorem address_ne_null (layout : PoolLayout) (slot : Nat) : layout.address slot ≠ 0 := by
  have nonnull := layout.nonnull
  unfold address
  omega

end PoolLayout

/-- The loop of `initializeFreeList`: link each slot to the one after it, and end the
list at the last. -/
def linkSlots (poolSize : Nat) (nextFreeIndex : Nat → Int) : Nat → Int :=
  let linked := (List.range (poolSize - 1)).foldl
    (fun (next : Nat → Int) index => Function.update next index (wrapInt (index + 1))) nextFreeIndex
  Function.update linked (poolSize - 1) (-1)

theorem linkSlots_of_lt (small : poolSize ≤ 2 ^ 31) (nextFreeIndex : Nat → Int)
    {index : Nat} (inside : index + 1 < poolSize) :
    linkSlots poolSize nextFreeIndex index = (index + 1 : Nat) := by
  have linked : ∀ (count : Nat) (next : Nat → Int), index < count →
      (List.range count).foldl
        (fun (next : Nat → Int) index => Function.update next index (wrapInt (index + 1)))
        next index
        = wrapInt (index + 1) := by
    intro count
    induction count with
    | zero => exact fun _ absent => absurd absent (Nat.not_lt_zero _)
    | succ count ih =>
      intro next below
      rw [List.range_succ, List.foldl_append]
      change Function.update _ count _ index = _
      by_cases same : index = count
      · rw [same, Function.update_self]
      · rw [Function.update_of_ne same]
        exact ih next (by omega)
  unfold linkSlots
  rw [Function.update_of_ne (by omega), linked _ _ (by omega)]
  apply wrapInt_of_bounds <;> omega

/-- The free list of a new pool holds all slots in index order. -/
theorem linkSlots_chain (positive : 0 < poolSize) (small : poolSize ≤ 2 ^ 31)
    (nextFreeIndex : Nat → Int) :
    Chain (linkSlots poolSize nextFreeIndex) 0 (List.range poolSize) := by
  obtain ⟨last, rfl⟩ := Nat.exists_eq_succ_of_ne_zero (Nat.ne_of_gt positive)
  rw [List.range_eq_range']
  refine chain_range last 0 (fun index _ below => ?_) ?_
  · exact linkSlots_of_lt small nextFreeIndex (by omega)
  · unfold linkSlots
    rw [Nat.zero_add, Nat.succ_sub_one, Function.update_self]

/-- The memory of a pool. -/
structure PoolMemory (α : Type) where
  layout : PoolLayout
  freeListHead : Int
  nextFreeIndex : Nat → Int
  /-- The objects that are constructed in the slots. -/
  objects : Nat → Option α
  allocatedCount : Nat
  totalAllocations : Nat
  totalDeallocations : Nat
  allocationFailures : Nat
  isShutdown : Bool

namespace PoolMemory

variable {α : Type}

/-- `initializeFreeList`. -/
def initializeFreeList (memory : PoolMemory α) : PoolMemory α :=
  { memory with
    nextFreeIndex := linkSlots memory.layout.poolSize memory.nextFreeIndex
    freeListHead := 0
    allocatedCount := 0 }

/-- The constructor. -/
def new (α : Type) (layout : PoolLayout) : PoolMemory α :=
  initializeFreeList
    { layout := layout
      freeListHead := 0
      nextFreeIndex := fun _ => -1
      objects := fun _ => none
      allocatedCount := 0
      totalAllocations := 0
      totalDeallocations := 0
      allocationFailures := 0
      isShutdown := false }

/-- Count a refused allocation. -/
def countFailure (memory : PoolMemory α) : PoolMemory α :=
  { memory with allocationFailures := wrapSize (memory.allocationFailures + 1) }

/-- The loop that pops the free list, from the head index it has loaded on. The first
`failures` of its compare-exchanges fail and load the head again. It gives the popped
slot and the new head. -/
def popLoop (memory : PoolMemory α) (failures : Nat) (headIndex : Int) : Option (Nat × Int) :=
  if headIndex < 0 then none
  else
    let nextIndex := memory.nextFreeIndex headIndex.toNat
    match failures with
    | 0 => some (headIndex.toNat, nextIndex)
    | failures + 1 => memory.popLoop failures memory.freeListHead

/-- Pop a slot and construct an object in it. The result is its address. -/
def construct (memory : PoolMemory α) (failures : Nat) (object : α) :
    Option Nat × PoolMemory α :=
  match memory.popLoop failures memory.freeListHead with
  | none => (none, memory.countFailure)
  | some (slot, nextIndex) =>
    (some (memory.layout.address slot),
      { memory with
        freeListHead := nextIndex
        allocatedCount := wrapSize (memory.allocatedCount + 1)
        totalAllocations := wrapSize (memory.totalAllocations + 1)
        objects := Function.update memory.objects slot (some object) })

/-- `allocateRaw`, with the object of the default constructor. -/
def allocateRaw (memory : PoolMemory α) (failures : Nat) (object : α) :
    Option Nat × PoolMemory α :=
  memory.construct failures object

/-- `allocateWithArgs`, with the object that is constructed from the arguments. -/
def allocateWithArgs (memory : PoolMemory α) (failures : Nat) (object : α) :
    Option Nat × PoolMemory α :=
  memory.construct failures object

/-- `allocate` without arguments. -/
def allocate (memory : PoolMemory α) (failures : Nat) (object : α) : Option Nat × PoolMemory α :=
  if memory.isShutdown then (none, memory.countFailure) else memory.allocateRaw failures object

/-- `allocate` with arguments. -/
def allocateArgs (memory : PoolMemory α) (failures : Nat) (object : α) :
    Option Nat × PoolMemory α :=
  if memory.isShutdown then (none, memory.countFailure)
  else memory.allocateWithArgs failures object

/-- The loop that pushes a slot, from the head that it has loaded on. -/
def pushLoop (slot : Nat) : Nat → Int → PoolMemory α → PoolMemory α
  | failures, currentHead, memory =>
    let memory :=
      { memory with nextFreeIndex := Function.update memory.nextFreeIndex slot currentHead }
    match failures with
    | 0 => { memory with freeListHead := wrapInt slot }
    | failures + 1 => pushLoop slot failures memory.freeListHead memory

/-- `deallocateRaw` of a pointer. -/
def deallocateRaw (memory : PoolMemory α) (failures : Nat) (msg : Nat) : PoolMemory α :=
  if msg = 0 then memory
  else
    let poolStart := memory.layout.poolSlots
    let poolEnd := wrapSize (poolStart + memory.layout.poolSize * memory.layout.slotSize)
    if msg < poolStart ∨ poolEnd ≤ msg then memory
    else
      let slotIndex := (msg - poolStart) / memory.layout.slotSize
      if memory.layout.poolSize ≤ slotIndex then memory
      else if msg ≠ memory.layout.address slotIndex then memory
      else
        let memory := pushLoop slotIndex failures memory.freeListHead memory
        { memory with
          allocatedCount := wrapSize (memory.allocatedCount - 1)
          totalDeallocations := wrapSize (memory.totalDeallocations + 1) }

/-- Run the destructor of the object at an address. -/
def destroy (memory : PoolMemory α) (msg : Nat) : PoolMemory α :=
  { memory with
    objects := fun slot => if memory.layout.address slot = msg then none else memory.objects slot }

/-- `deallocate` of a pointer. -/
def deallocate (memory : PoolMemory α) (failures : Nat) (msg : Nat) : PoolMemory α :=
  if msg = 0 then memory else (memory.destroy msg).deallocateRaw failures msg

/-- `reset`, which throws on a pool with allocated slots. -/
def reset (memory : PoolMemory α) : Except String (PoolMemory α) :=
  if 0 < memory.allocatedCount then throw "Cannot reset non-empty pool"
  else .ok memory.initializeFreeList

/-- `shutdown`. -/
def shutdown (memory : PoolMemory α) : PoolMemory α := { memory with isShutdown := true }

/-- `capacity`. -/
def capacity (memory : PoolMemory α) : Nat := memory.layout.poolSize

/-- `allocated`. -/
def allocated (memory : PoolMemory α) : Nat := memory.allocatedCount

/-- `available`. -/
def available (memory : PoolMemory α) : Nat :=
  wrapSize (memory.layout.poolSize - memory.allocatedCount)

/-- A slot is live between its allocation and its deallocation. -/
def live (memory : PoolMemory α) (slot : Nat) : Prop := (memory.objects slot).isSome

instance (memory : PoolMemory α) (slot : Nat) : Decidable (memory.live slot) :=
  inferInstanceAs (Decidable ((memory.objects slot).isSome = true))

/-- The number of live slots. -/
def liveCount (memory : PoolMemory α) : Nat :=
  (List.range memory.layout.poolSize).countP memory.live

/-! ## The list behind the memory -/

/-- The memory holds what the pool says: its free list is a chain from the head on, and
its counters are those of the pool, as machine words. -/
structure Simulates (memory : PoolMemory α) (pool : MessagePool α) : Prop where
  poolSize : pool.poolSize = memory.layout.poolSize
  chain : Chain memory.nextFreeIndex memory.freeListHead pool.freeList
  objects : memory.objects = pool.objects
  allocatedCount : memory.allocatedCount = pool.allocatedCount
  totalAllocations : memory.totalAllocations = wrapSize pool.totalAllocations
  totalDeallocations : memory.totalDeallocations = wrapSize pool.totalDeallocations
  allocationFailures : memory.allocationFailures = wrapSize pool.allocationFailures
  isShutdown : memory.isShutdown = pool.isShutdown

section Lemmas

variable {memory : PoolMemory α} {pool : MessagePool α}

/-! ### The loops -/

theorem popLoop_of_negative {headIndex : Int} (failures : Nat) (ended : headIndex < 0) :
    memory.popLoop failures headIndex = none := by
  cases failures with
  | zero => rw [popLoop, if_pos ended]
  | succ failures => rw [popLoop, if_pos ended]

/-- With nothing in between, a failed compare-exchange loads the same head again. -/
theorem popLoop_of_head {slot : Nat} (failures : Nat) (head : memory.freeListHead = slot) :
    memory.popLoop failures slot = some (slot, memory.nextFreeIndex slot) := by
  induction failures with
  | zero => rw [popLoop, if_neg (by omega), Int.toNat_natCast]
  | succ failures ih =>
    rw [popLoop, if_neg (by omega), head]
    exact ih

theorem pushLoop_eq (slot failures : Nat) (memory : PoolMemory α) :
    pushLoop slot failures memory.freeListHead memory =
      { memory with
        nextFreeIndex := Function.update memory.nextFreeIndex slot memory.freeListHead
        freeListHead := wrapInt slot } := by
  induction failures generalizing memory with
  | zero => rfl
  | succ failures ih =>
    rw [pushLoop, ih]
    simp only [Function.update_idem]

/-! ### The calls -/

theorem deallocate_address (memory : PoolMemory α) {slot : Nat}
    (inside : slot < memory.layout.poolSize) (failures : Nat) :
    memory.deallocate failures (memory.layout.address slot) =
      { memory with
        nextFreeIndex := Function.update memory.nextFreeIndex slot memory.freeListHead
        freeListHead := wrapInt slot
        objects := Function.update memory.objects slot none
        allocatedCount := wrapSize (memory.allocatedCount - 1)
        totalDeallocations := wrapSize (memory.totalDeallocations + 1) } := by
  have fits := memory.layout.fits
  have below : (slot + 1) * memory.layout.slotSize ≤
      memory.layout.poolSize * memory.layout.slotSize :=
    Nat.mul_le_mul_right _ inside
  have sized := memory.layout.sized
  rw [Nat.succ_mul] at below
  have poolEnd : wrapSize (memory.layout.poolSlots +
      memory.layout.poolSize * memory.layout.slotSize) =
      memory.layout.poolSlots + memory.layout.poolSize * memory.layout.slotSize := by
    rw [wrapSize_of_bounds (by positivity) (by exact_mod_cast fits)]
    norm_cast
  have index : (memory.layout.address slot - memory.layout.poolSlots) / memory.layout.slotSize =
      slot := by
    unfold PoolLayout.address
    rw [Nat.add_sub_cancel_left, Nat.mul_div_cancel _ sized]
  have destroyed : memory.destroy (memory.layout.address slot) =
      { memory with objects := Function.update memory.objects slot none } := by
    unfold destroy
    congr 1
    funext other
    simp only [Function.update_apply, memory.layout.address_injective.eq_iff]
  have nonnull := memory.layout.address_ne_null slot
  rw [deallocate, if_neg nonnull, destroyed, deallocateRaw, if_neg nonnull]
  simp only [poolEnd, index]
  rw [if_neg (by unfold PoolLayout.address; omega), if_neg (by omega), if_neg (by simp)]
  rw [pushLoop_eq slot failures
    { memory with objects := Function.update memory.objects slot none }]

theorem deallocate_foreign (memory : PoolMemory α) (failures : Nat) {msg : Nat}
    (bounded : ∀ slot, memory.layout.poolSize ≤ slot → memory.objects slot = none)
    (foreign : ∀ slot, slot < memory.layout.poolSize → memory.layout.address slot ≠ msg) :
    memory.deallocate failures msg = memory := by
  have destroyed : memory.destroy msg = memory := by
    unfold destroy
    congr 1
    funext slot
    split
    · rename_i same
      rw [bounded slot (Nat.le_of_not_lt fun inside => foreign slot inside same)]
    · rfl
  rw [deallocate, destroyed]
  unfold deallocateRaw
  dsimp only
  split_ifs with null outside large other
  · rfl
  · rfl
  · rfl
  · rfl
  · exact absurd (foreign _ (Nat.lt_of_not_le large)).symm other

namespace Simulates

section

variable (simulates : memory.Simulates pool)
include simulates

theorem countFailure :
    memory.countFailure.Simulates pool.countFailure where
  poolSize := simulates.poolSize
  chain := simulates.chain
  objects := simulates.objects
  allocatedCount := simulates.allocatedCount
  totalAllocations := simulates.totalAllocations
  totalDeallocations := simulates.totalDeallocations
  allocationFailures := by
    change wrapSize (memory.allocationFailures + 1) = wrapSize (pool.allocationFailures + 1 : Nat)
    rw [simulates.allocationFailures, wrapSize_add]
    rfl
  isShutdown := simulates.isShutdown

/-- `construct` on a running pool gives the address of the slot that `allocate` gives. -/
theorem construct (running : pool.isShutdown = false) (failures : Nat) (object : α) :
    (memory.construct failures object).1 = (pool.allocate object).1.map memory.layout.address ∧
      (memory.construct failures object).2.Simulates (pool.allocate object).2 := by
  cases free : pool.freeList with
  | nil =>
    have ended : memory.freeListHead = -1 := by
      have chain := simulates.chain
      rw [free] at chain
      exact chain
    have exhausted : ¬ pool.available 1 := by
      intro room
      have room := room.2
      rw [free, List.length_nil] at room
      omega
    rw [allocate_eq_none exhausted, PoolMemory.construct, popLoop_of_negative failures (by omega)]
    exact ⟨rfl, simulates.countFailure⟩
  | cons slot rest =>
    have chain := simulates.chain
    rw [free] at chain
    have counted := pool.counted
    have size := simulates.poolSize
    have small := memory.layout.small
    rw [free, List.length_cons] at counted
    rw [allocate_eq_take running free, PoolMemory.construct, chain.1,
      popLoop_of_head failures chain.1]
    refine ⟨rfl, simulates.poolSize, chain.2, ?_, ?_, ?_, simulates.totalDeallocations,
      simulates.allocationFailures, simulates.isShutdown⟩
    · change Function.update memory.objects slot (some object) = _
      rw [simulates.objects]
      rfl
    · change wrapSize (memory.allocatedCount + 1) = pool.allocatedCount + 1
      rw [simulates.allocatedCount, wrapSize_of_bounds (by omega) (by omega)]
      omega
    · change wrapSize (memory.totalAllocations + 1) = wrapSize (pool.totalAllocations + 1 : Nat)
      rw [simulates.totalAllocations, wrapSize_add]
      rfl

theorem allocate (failures : Nat) (object : α) :
    (memory.allocate failures object).1 = (pool.allocate object).1.map memory.layout.address ∧
      (memory.allocate failures object).2.Simulates (pool.allocate object).2 := by
  unfold PoolMemory.allocate
  cases stopped : pool.isShutdown with
  | false =>
    rw [if_neg (by rw [simulates.isShutdown, stopped]; exact Bool.false_ne_true)]
    exact simulates.construct stopped failures object
  | true =>
    have exhausted : ¬ pool.available 1 := fun room =>
      absurd (room.1.symm.trans stopped) Bool.false_ne_true
    rw [if_pos (by rw [simulates.isShutdown, stopped]), allocate_eq_none exhausted]
    exact ⟨rfl, simulates.countFailure⟩

theorem allocateArgs (failures : Nat) (object : α) :
    (memory.allocateArgs failures object).1 = (pool.allocate object).1.map memory.layout.address ∧
      (memory.allocateArgs failures object).2.Simulates (pool.allocate object).2 :=
  simulates.allocate failures object

theorem deallocate {slot : Nat} (alive : pool.live slot) (failures : Nat) :
    (memory.deallocate failures (memory.layout.address slot)).Simulates (pool.deallocate slot) := by
  have inside : slot < memory.layout.poolSize := by
    rw [← simulates.poolSize]
    exact lt_of_live alive
  have small := memory.layout.small
  have index : wrapInt slot = slot := wrapInt_of_bounds (by omega) (by omega)
  rw [memory.deallocate_address inside, index, MessagePool.deallocate, dif_pos alive]
  refine ⟨simulates.poolSize, ?_, ?_, ?_, simulates.totalAllocations, ?_,
    simulates.allocationFailures, simulates.isShutdown⟩
  · exact simulates.chain.push (notMem_of_live alive)
  · change Function.update memory.objects slot none = _
    rw [simulates.objects]
    rfl
  · have counted := pool.counted
    have missing := length_freeList_lt_of_live alive
    have size := simulates.poolSize
    change wrapSize (memory.allocatedCount - 1) = pool.allocatedCount - 1
    rw [simulates.allocatedCount, wrapSize_of_bounds (by omega) (by omega)]
    omega
  · change wrapSize (memory.totalDeallocations + 1) = wrapSize (pool.totalDeallocations + 1 : Nat)
    rw [simulates.totalDeallocations, wrapSize_add]
    rfl

theorem shutdown : memory.shutdown.Simulates pool.shutdown :=
  { simulates with isShutdown := rfl }

/-- `reset` throws on the memory and on the list, or succeeds on both. -/
theorem reset :
    (∃ text, memory.reset = .error text ∧ pool.reset = .error text) ∨
      ∃ drained, memory.reset = .ok memory.initializeFreeList ∧
        pool.reset = .ok (pool.refill drained) ∧
        memory.initializeFreeList.Simulates (pool.refill drained) := by
  unfold PoolMemory.reset MessagePool.reset
  rw [simulates.allocatedCount]
  by_cases used : 0 < pool.allocatedCount
  · left
    rw [if_pos used, dif_pos used]
    exact ⟨_, rfl, rfl⟩
  · right
    have drained : pool.allocatedCount = 0 := Nat.eq_zero_of_not_pos used
    rw [if_neg used, dif_neg used]
    refine ⟨drained, rfl, rfl, simulates.poolSize, ?_, simulates.objects, drained.symm,
      simulates.totalAllocations, simulates.totalDeallocations, simulates.allocationFailures,
      simulates.isShutdown⟩
    change Chain _ _ (List.range pool.poolSize)
    rw [simulates.poolSize]
    exact linkSlots_chain memory.layout.positive (Nat.le_of_lt memory.layout.small) _

end

end Simulates

end Lemmas

/-! ## Sequences of calls -/

/-- The calls on a pool. -/
inductive Operation (α : Type) where
  | allocate (failures : Nat) (object : α)
  | allocateArgs (failures : Nat) (object : α)
  | deallocate (failures : Nat) (msg : Nat)
  | reset
  | shutdown

def perform (memory : PoolMemory α) : Operation α → PoolMemory α
  | .allocate failures object => (memory.allocate failures object).2
  | .allocateArgs failures object => (memory.allocateArgs failures object).2
  | .deallocate failures msg => memory.deallocate failures msg
  | .reset =>
    match memory.reset with
    | .ok memory => memory
    | .error _ => memory
  | .shutdown => memory.shutdown

/-- Only messages that are live are deallocated, and pointers that are no slot. -/
def Permitted (memory : PoolMemory α) : Operation α → Prop
  | .deallocate _ msg =>
    ∀ slot, slot < memory.layout.poolSize → memory.layout.address slot = msg → memory.live slot
  | _ => True

instance (memory : PoolMemory α) : ∀ operation, Decidable (memory.Permitted operation)
  | .allocate _ _ => inferInstanceAs (Decidable True)
  | .allocateArgs _ _ => inferInstanceAs (Decidable True)
  | .deallocate _ msg => inferInstanceAs (Decidable
      (∀ slot, slot < memory.layout.poolSize → memory.layout.address slot = msg → memory.live slot))
  | .reset => inferInstanceAs (Decidable True)
  | .shutdown => inferInstanceAs (Decidable True)

/-- A new pool. -/
def Initial (memory : PoolMemory α) : Prop := ∃ layout, memory = PoolMemory.new α layout

/-- There is a list behind the memory. -/
def Sound (memory : PoolMemory α) : Prop :=
  ∃ pool : MessagePool α, memory.Simulates pool ∧ pool.Balanced

theorem Sound.perform {memory : PoolMemory α} (sound : memory.Sound) (operation : Operation α)
    (permitted : memory.Permitted operation) : (memory.perform operation).Sound := by
  obtain ⟨pool, simulates, balanced⟩ := sound
  cases operation with
  | allocate failures object =>
    exact ⟨_, (simulates.allocate failures object).2, balanced.allocate object⟩
  | allocateArgs failures object =>
    exact ⟨_, (simulates.allocateArgs failures object).2, balanced.allocate object⟩
  | deallocate failures msg =>
    by_cases ours : ∃ slot, slot < memory.layout.poolSize ∧ memory.layout.address slot = msg
    · obtain ⟨slot, inside, rfl⟩ := ours
      have alive : pool.live slot := by
        have alive := permitted slot inside rfl
        rw [live, simulates.objects] at alive
        exact alive
      exact ⟨_, simulates.deallocate alive failures, balanced.deallocate slot⟩
    · have same : memory.perform (.deallocate failures msg) = memory := by
        refine memory.deallocate_foreign failures (fun slot outside => ?_)
          fun slot inside same => ours ⟨slot, inside, same⟩
        rw [simulates.objects]
        exact pool.bounded slot (by rw [simulates.poolSize]; exact outside)
      rw [same]
      exact ⟨pool, simulates, balanced⟩
  | reset =>
    unfold PoolMemory.perform
    rcases simulates.reset with ⟨text, thrown, -⟩ | ⟨drained, reset, -, refilled⟩
    · simp only [thrown]
      exact ⟨pool, simulates, balanced⟩
    · simp only [reset]
      exact ⟨_, refilled, balanced⟩
  | shutdown => exact ⟨_, simulates.shutdown, balanced⟩

/-- What a call of `allocate` in the given state returns: the address of a slot that was
not live, or nothing if all slots are live or the pool is shut down. -/
structure Allocates (memory : PoolMemory α) (returned : Option Nat) : Prop where
  fresh : ∀ address ∈ returned, ∃ slot, slot < memory.layout.poolSize ∧
    address = memory.layout.address slot ∧ ¬ memory.live slot
  refused : returned = none ↔
    (∀ slot, slot < memory.layout.poolSize → memory.live slot) ∨ memory.isShutdown = true

section Lemmas

variable {memory : PoolMemory α} {pool : MessagePool α}

theorem Simulates.live_iff (simulates : memory.Simulates pool) (slot : Nat) :
    memory.live slot ↔ pool.live slot := by
  rw [live, simulates.objects]
  rfl

theorem Simulates.mem_freeList (simulates : memory.Simulates pool) (slot : Nat) :
    slot ∈ pool.freeList ↔ slot < memory.layout.poolSize ∧ ¬ memory.live slot := by
  rw [pool.free_iff, simulates.poolSize, live, simulates.objects, Option.not_isSome_iff_eq_none]

theorem Simulates.allocates (simulates : memory.Simulates pool) (object : α) :
    memory.Allocates ((pool.allocate object).1.map memory.layout.address) := by
  by_cases free : pool.available 1
  · obtain ⟨slot, rest, chain, -⟩ := exists_chain free
    have member : slot ∈ pool.freeList := by
      rw [chain]
      exact List.mem_cons_self
    obtain ⟨inside, dead⟩ := (simulates.mem_freeList slot).mp member
    rw [allocate_eq_take free.1 chain]
    refine ⟨fun address returned => ⟨slot, inside, (Option.mem_some_iff.mp returned).symm, dead⟩,
      nofun, fun refused => ?_⟩
    rcases refused with full | stopped
    · exact absurd (full slot inside) dead
    · rw [simulates.isShutdown, free.1] at stopped
      cases stopped
  · rw [allocate_eq_none free]
    refine ⟨nofun, fun _ => ?_, fun _ => rfl⟩
    by_cases stopped : memory.isShutdown = true
    · exact .inr stopped
    · left
      intro slot inside
      by_contra dead
      have member := (simulates.mem_freeList slot).mpr ⟨inside, dead⟩
      refine free ⟨?_, List.length_pos_of_mem member⟩
      rw [← simulates.isShutdown]
      exact Bool.eq_false_of_not_eq_true stopped

end Lemmas

/-- Fill the pool, give the slots back out of order together with a foreign pointer,
allocate again and shut down. -/
def sampleCalls : List (Operation Nat) :=
  [.reset, .allocate 1 7, .allocateArgs 0 8, .allocate 2 9, .allocate 0 10, .reset,
    .deallocate 1 4160, .deallocate 0 4161, .deallocate 0 4096, .allocate 0 11, .shutdown]

end PoolMemory

end FixGateway.Common
