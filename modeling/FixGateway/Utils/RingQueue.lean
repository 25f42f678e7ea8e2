import FixGateway.Concurrency.Transition
import FixGateway.Utils.LockFreeQueue

/-! # The lock-free queue, one atomic step after another

The ring buffer behind `LockFreeQueue`, with any number of producers `ι` that run `push`
and one consumer that runs `tryPop`. Each load and store of an index, each read and
write of a slot and each count is a step of its own.

The state also records what happened, in lists that no step reads back: the messages
whose push has stored `tail_`, those whose `tryPop` has stored `head_`, and what the
calls returned. The number of messages pending is the difference of the first two.

A push that overlaps another one may write to a slot that is not free. It does not
when, at the time it writes, `tail_` is still the index that it has read, the next
index is not `head_`, and no other push has written its slot without having stored
`tail_` (`Undisturbed`). In runs of such steps the ring holds the messages pending
(`Sound`).
-/

namespace FixGateway.Utils

open ByteScan CellRing

/-- What a push returned: true, or false because of a shutdown or because it found the
queue full, with the number of messages pending when it read `head_`. -/
inductive PushOutcome where
  | accepted
  | stopped
  | full (pending : Nat)
  deriving DecidableEq, Repr

/-- What a `tryPop` returned: a message, or nothing because of a shutdown or because it
found the queue empty, with the number of messages pending when it read `tail_`. -/
inductive PopOutcome (α : Type) where
  | popped (message : α)
  | stopped
  | empty (pending : Nat)
  deriving DecidableEq, Repr

/-- The message that a `tryPop` returned. -/
def PopOutcome.message {α : Type} : PopOutcome α → Option α
  | .popped message => some message
  | _ => none

/-- Where a producer is in `push`, named after the step that comes next. -/
inductive PushCall (α : Type) where
  | idle
  | loading (message : α)
  | checking (message : α) (currentTail : Nat)
  | dropping (message : α) (pending : Nat)
  | writing (message : α) (currentTail : Nat)
  | storing (message : α) (currentTail : Nat)
  | counting (message : α)
  deriving DecidableEq, Repr

/-- Where the consumer is in `tryPop`, named after the step that comes next. -/
inductive PopCall (α : Type) where
  | idle
  | loading
  | examining (currentHead : Nat)
  | reading (currentHead : Nat)
  | advancing (currentHead : Nat) (message : α)
  | counting (message : α)
  deriving DecidableEq, Repr

/-- The message of a push that has stored `tail_` and is about to return. -/
def PushCall.completing {α : Type} : PushCall α → List α
  | .counting message => [message]
  | _ => []

/-- A push that has written its slot and is about to store `tail_`. -/
def PushCall.stores {α : Type} : PushCall α → Bool
  | .storing _ _ => true
  | _ => false

structure RingQueue (ι α : Type) where
  capacity : Nat
  messages : Nat → α
  head : Nat
  tail : Nat
  pushCount : Nat
  popCount : Nat
  dropCount : Nat
  isShutdown : Bool
  producer : ι → PushCall α
  consumer : PopCall α
  /-- The messages whose push has stored `tail_`, with their producers, oldest first. -/
  stored : List (ι × α)
  /-- The messages whose `tryPop` has stored `head_`, oldest first. -/
  taken : List α
  /-- What the pushes returned, oldest first. -/
  pushes : List (ι × α × PushOutcome)
  /-- What the calls of `tryPop` returned, oldest first. -/
  pops : List (PopOutcome α)

/-- The steps: a producer starts a push or goes on with it, the consumer starts a
`tryPop` or goes on with it, or some thread shuts the queue down. -/
inductive RingMove (ι α : Type) where
  | push (thread : ι) (message : α)
  | produce (thread : ι)
  | pop
  | consume
  | shutdown
  deriving DecidableEq, Repr

namespace RingQueue

variable {ι α : Type}

/-- The constructor; the default value of a message is that of `T{}`. -/
def new (ι : Type) {α : Type} [Inhabited α] (maxSize : Nat) : RingQueue ι α where
  capacity := nextPowerOfTwo maxSize
  messages := fun _ => default
  head := 0
  tail := 0
  pushCount := 0
  popCount := 0
  dropCount := 0
  isShutdown := false
  producer := fun _ => .idle
  consumer := .idle
  stored := []
  taken := []
  pushes := []
  pops := []

/-- `mask_`. -/
def mask (ring : RingQueue ι α) : Nat := wrapSize (ring.capacity - 1)

/-- The index after an index. -/
def next (ring : RingQueue ι α) (index : Nat) : Nat := wrapSize (index + 1) &&& ring.mask

theorem next_of_pow {ring : RingQueue ι α} {exponent : Nat} (power : ring.capacity = 2 ^ exponent)
    (word : exponent ≤ 64) (index : Nat) : ring.next index = (index + 1) % ring.capacity := by
  unfold next mask
  rw [and_wrapSize_pow_sub_one power word]
  exact wrapSize_mod power word (index + 1)

/-- The capacity of a ring is the least power of two that is at least the size asked for, and the
index after an index is taken modulo the capacity. -/
theorem capacity_least_and_masks {maxSize : Nat} (low : 1 ≤ maxSize) (high : maxSize ≤ 2 ^ 63) :
    IsLeast {power | maxSize ≤ power ∧ ∃ exponent, power = 2 ^ exponent}
        (nextPowerOfTwo maxSize) ∧
      ∀ ring : RingQueue ι α, ring.capacity = nextPowerOfTwo maxSize →
        ∀ index, ring.next index = (index + 1) % ring.capacity := by
  obtain ⟨exponent, small, power, least⟩ := nextPowerOfTwo_isLeast low high
  refine ⟨least, ?_⟩
  intro ring sized index
  exact next_of_pow (sized.trans power) (by omega) index

/-- A queue for 1000 messages has 1024 cells, and the cell after the last one is the first. -/
theorem capacity_least_and_masks_thousand :
    IsLeast {power | 1000 ≤ power ∧ ∃ exponent, power = 2 ^ exponent} (nextPowerOfTwo 1000) ∧
      (RingQueue.new Unit 1000 : RingQueue Unit Nat).next 1023 = 0 := by
  have low : 1 ≤ 1000 := by decide
  have high : 1000 ≤ 2 ^ 63 := by decide
  obtain ⟨least, masks⟩ := capacity_least_and_masks (ι := Unit) (α := Nat) low high
  refine ⟨least, ?_⟩
  rw [masks (RingQueue.new Unit 1000) rfl]
  decide

/-- `size`. -/
def size (ring : RingQueue ι α) : Nat := wrapSize (ring.tail - ring.head) &&& ring.mask

/-- The number of messages pending. -/
def pending (ring : RingQueue ι α) : Nat := ring.stored.length - ring.taken.length

/-- The messages whose push returned true, with their producers, oldest first. -/
def accepted (ring : RingQueue ι α) : List (ι × α) :=
  (ring.pushes.filter fun returned => returned.2.2 = .accepted).map fun returned =>
    (returned.1, returned.2.1)

/-- The messages that `tryPop` returned, oldest first. -/
def popped (ring : RingQueue ι α) : List α := ring.pops.filterMap PopOutcome.message

/-- A `tryPop` returns. -/
def returnPop (ring : RingQueue ι α) (outcome : PopOutcome α) (popCount : Nat) : RingQueue ι α :=
  { ring with consumer := .idle, popCount := popCount, pops := ring.pops ++ [outcome] }

/-- The first step of `tryPop` loads `is_shutdown_`. -/
def startPop (ring : RingQueue ι α) : RingQueue ι α :=
  match ring.consumer with
  | .idle =>
    if ring.isShutdown then ring.returnPop .stopped ring.popCount
    else { ring with consumer := .loading }
  | _ => ring

/-- The next step of a `tryPop`. -/
def consume (ring : RingQueue ι α) : RingQueue ι α :=
  match ring.consumer with
  | .idle => ring
  | .loading => { ring with consumer := .examining ring.head }
  | .examining currentHead =>
    if currentHead = ring.tail then ring.returnPop (.empty ring.pending) ring.popCount
    else { ring with consumer := .reading currentHead }
  | .reading currentHead =>
    { ring with consumer := .advancing currentHead (ring.messages currentHead) }
  | .advancing currentHead message =>
    { ring with
      consumer := .counting message
      head := ring.next currentHead
      taken := ring.taken ++ [message] }
  | .counting message => ring.returnPop (.popped message) (wrapSize (ring.popCount + 1))

variable [DecidableEq ι]

/-- A producer goes on to another point of `push`. -/
def setProducer (ring : RingQueue ι α) (thread : ι) (call : PushCall α) : RingQueue ι α :=
  { ring with producer := Function.update ring.producer thread call }

@[simp] theorem setProducer_self (ring : RingQueue ι α) (thread : ι) (call : PushCall α) :
    (ring.setProducer thread call).producer thread = call :=
  Function.update_self ..

/-- A push returns. -/
def returnPush (ring : RingQueue ι α) (thread : ι) (message : α) (outcome : PushOutcome) :
    RingQueue ι α :=
  { ring.setProducer thread .idle with pushes := ring.pushes ++ [(thread, message, outcome)] }

@[simp] theorem returnPush_self (ring : RingQueue ι α) (thread : ι) (message : α)
    (outcome : PushOutcome) : (ring.returnPush thread message outcome).producer thread = .idle :=
  ring.setProducer_self thread .idle

/-- The first step of `push` loads `is_shutdown_`. -/
def startPush (ring : RingQueue ι α) (thread : ι) (message : α) : RingQueue ι α :=
  match ring.producer thread with
  | .idle =>
    if ring.isShutdown then ring.returnPush thread message .stopped
    else ring.setProducer thread (.loading message)
  | _ => ring

/-- The next step of a `push`. -/
def produce (ring : RingQueue ι α) (thread : ι) : RingQueue ι α :=
  match ring.producer thread with
  | .idle => ring
  | .loading message => ring.setProducer thread (.checking message ring.tail)
  | .checking message currentTail =>
    if ring.next currentTail = ring.head then
      ring.setProducer thread (.dropping message ring.pending)
    else ring.setProducer thread (.writing message currentTail)
  | .dropping message pending =>
    { ring.returnPush thread message (.full pending) with
      dropCount := wrapSize (ring.dropCount + 1) }
  | .writing message currentTail =>
    { ring.setProducer thread (.storing message currentTail) with
      messages := Function.update ring.messages currentTail message }
  | .storing message currentTail =>
    { ring.setProducer thread (.counting message) with
      tail := ring.next currentTail
      stored := ring.stored ++ [(thread, message)] }
  | .counting message =>
    { ring.returnPush thread message .accepted with
      pushCount := wrapSize (ring.pushCount + 1) }

/-- One step. -/
def step (ring : RingQueue ι α) : RingMove ι α → RingQueue ι α
  | .push thread message => ring.startPush thread message
  | .produce thread => ring.produce thread
  | .pop => ring.startPop
  | .consume => ring.consume
  | .shutdown => { ring with isShutdown := true }

/-- The slot that a push is about to write. -/
def writes (ring : RingQueue ι α) (thread : ι) : Option Nat :=
  match ring.producer thread with
  | .writing _ currentTail => some currentTail
  | _ => none

/-- When a push writes its slot, `tail_` is still the index that it has read, the next
index is not `head_`, and no other push has written its slot without having stored
`tail_`. -/
def Undisturbed (ring : RingQueue ι α) : RingMove ι α → Prop
  | .produce thread =>
    ∀ currentTail ∈ ring.writes thread, currentTail = ring.tail ∧
      ring.next currentTail ≠ ring.head ∧
      ∀ other, other ≠ thread → (ring.producer other).stores = false
  | _ => True

/-- A new queue. -/
def Initial [Inhabited α] (ring : RingQueue ι α) : Prop :=
  ∃ maxSize, 2 ≤ maxSize ∧ maxSize ≤ 2 ^ 63 ∧ ring = RingQueue.new ι maxSize

/-! ## The invariant -/

/-- The ring holds the messages that were stored and not yet taken. -/
structure Laid (ring : RingQueue ι α) : Prop where
  power : ∃ exponent, 0 < exponent ∧ exponent ≤ 63 ∧ ring.capacity = 2 ^ exponent
  head : ring.head = ring.taken.length % ring.capacity
  tail : ring.tail = ring.stored.length % ring.capacity
  holds : Holds ring.messages ring.capacity (ring.stored.map Prod.snd) ring.taken.length
  taken : ring.taken <+: ring.stored.map Prod.snd

/-- At most one push has written its slot without having stored `tail_`, and it has
written the free slot at `tail_`. Each producer's messages were stored in the order in
which its pushes returned. -/
structure Producing (ring : RingQueue ι α) : Prop where
  storing : ∀ thread message currentTail,
    ring.producer thread = .storing message currentTail → currentTail = ring.tail ∧
      ring.messages currentTail = message ∧
      ring.stored.length + 1 < ring.taken.length + ring.capacity
  alone : ∀ first second, (ring.producer first).stores = true →
    (ring.producer second).stores = true → first = second
  stored : ∀ thread, ring.stored.filter (fun entry => entry.1 = thread) =
    ring.accepted.filter (fun entry => entry.1 = thread) ++
      (ring.producer thread).completing.map fun message => (thread, message)
  counted : ring.pushCount = wrapSize ring.accepted.length

/-- What the consumer knows at each point of `tryPop`. -/
def Knows (ring : RingQueue ι α) : PopCall α → Prop
  | .idle => ring.popped = ring.taken
  | .loading => ring.popped = ring.taken
  | .examining currentHead => ring.popped = ring.taken ∧ currentHead = ring.head
  | .reading currentHead => ring.popped = ring.taken ∧ currentHead = ring.head ∧
      ring.taken.length < ring.stored.length
  | .advancing currentHead message => ring.popped = ring.taken ∧ currentHead = ring.head ∧
      (ring.stored.map Prod.snd)[ring.taken.length]? = some message
  | .counting message => ring.popped ++ [message] = ring.taken

structure Consuming (ring : RingQueue ι α) : Prop where
  knows : ring.Knows ring.consumer
  counted : ring.popCount = wrapSize ring.popped.length
  empty : ∀ pending, PopOutcome.empty pending ∈ ring.pops → pending = 0
  stopped : PopOutcome.stopped ∈ ring.pops → ring.isShutdown = true

structure Sound (ring : RingQueue ι α) : Prop where
  laid : ring.Laid
  producing : ring.Producing
  consuming : ring.Consuming

end RingQueue

end FixGateway.Utils
