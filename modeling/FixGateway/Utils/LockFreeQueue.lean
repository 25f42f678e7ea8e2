import FixGateway.Memory.Ring

/-! # The lock-free queue, one call after another

`LockFreeQueue<T>` is a ring buffer whose indices `head_` and `tail_` are equal
when it is empty, so one of its cells is never used. Read sequentially it is the
list of the values between the two indices, and the unused cell is a bound on
the length of that list, which the structure carries.
-/

namespace FixGateway.Utils

open ByteScan CellRing

variable {number : Nat}

/-- `nextPowerOfTwo` on a 64-bit `size_t`. -/
def nextPowerOfTwo (number : Nat) : Nat :=
  if number = 0 then 1
  else
    let number := number - 1
    let number := number ||| number >>> 1
    let number := number ||| number >>> 2
    let number := number ||| number >>> 4
    let number := number ||| number >>> 8
    let number := number ||| number >>> 16
    let number := number ||| number >>> 32
    wrapSize (number + 1)

/-- The shifts double the reach of the highest bit up to the whole word. -/
theorem nextPowerOfTwo_eq_pow (low : 2 ≤ number) (high : number ≤ 2 ^ 63) :
    ∃ top, top < 63 ∧ 2 ^ top < number ∧ number ≤ 2 ^ (top + 1) ∧
      nextPowerOfTwo number = 2 ^ (top + 1) := by
  unfold nextPowerOfTwo
  rw [if_neg (by omega)]
  dsimp only
  generalize start : number - 1 = first
  have reach2 : Spread first (first ||| first >>> 1) 2 := (spread_self first).double
  generalize first ||| first >>> 1 = second at reach2
  have reach4 : Spread first (second ||| second >>> 2) 4 := reach2.double
  generalize second ||| second >>> 2 = third at reach4
  have reach8 : Spread first (third ||| third >>> 4) 8 := reach4.double
  generalize third ||| third >>> 4 = fourth at reach8
  have reach16 : Spread first (fourth ||| fourth >>> 8) 16 := reach8.double
  generalize fourth ||| fourth >>> 8 = fifth at reach16
  have reach32 : Spread first (fifth ||| fifth >>> 16) 32 := reach16.double
  generalize fifth ||| fifth >>> 16 = sixth at reach32
  have reach64 : Spread first (sixth ||| sixth >>> 32) 64 := reach32.double
  obtain ⟨top, set, power⟩ := reach64.eq_pow (by omega) (by omega)
  have grown := reach64.le (by decide)
  have highest := Nat.ge_two_pow_of_testBit set
  have below : top < 63 := lt_of_testBit (by omega) set
  have word : 2 ^ (top + 1) ≤ 2 ^ 63 := Nat.pow_le_pow_right (by decide) below
  refine ⟨top, below, by omega, by omega, ?_⟩
  rw [wrapSize_of_bounds (by omega) (by omega), ← power]
  omega

theorem nextPowerOfTwo_eq (low : 2 ≤ number) (high : number ≤ 2 ^ 63) :
    ∃ exponent, 0 < exponent ∧ exponent ≤ 63 ∧ nextPowerOfTwo number = 2 ^ exponent := by
  obtain ⟨top, below, -, -, power⟩ := nextPowerOfTwo_eq_pow low high
  exact ⟨top + 1, Nat.succ_pos top, below, power⟩

/-- Every size up to the largest power of two in a word is rounded up to the next power of two. -/
theorem nextPowerOfTwo_isLeast (low : 1 ≤ number) (high : number ≤ 2 ^ 63) :
    ∃ exponent ≤ 63, nextPowerOfTwo number = 2 ^ exponent ∧
      IsLeast {power | number ≤ power ∧ ∃ exponent, power = 2 ^ exponent}
        (nextPowerOfTwo number) := by
  rcases Nat.eq_or_lt_of_le low with one | several
  · refine ⟨0, Nat.zero_le 63, ?_, ⟨?_, 0, ?_⟩, ?_⟩
    · rw [← one]
      rfl
    · rw [← one]
      exact Nat.le_refl 1
    · rw [← one]
      rfl
    · rintro power ⟨large, -⟩
      rw [← one] at large ⊢
      exact large
  · obtain ⟨top, below, above, enough, equal⟩ := nextPowerOfTwo_eq_pow several high
    refine ⟨top + 1, below, equal, ⟨?_, top + 1, equal⟩, ?_⟩
    · rw [equal]
      exact enough
    · -- a power of two above `2 ^ top` is at least its double
      rintro power ⟨large, exponent, rfl⟩
      have more : top < exponent :=
        (Nat.pow_lt_pow_iff_right (by decide)).mp (lt_of_lt_of_le above large)
      rw [equal]
      exact Nat.pow_le_pow_right (by decide) more

/-- A queue of values of type `α`. -/
structure LockFreeQueue (α : Type) where
  capacity : Nat
  /-- The values from `head_` to `tail_`. -/
  entries : List α
  isShutdown : Bool
  bounded : entries.length ≤ capacity - 1

namespace LockFreeQueue

variable {α : Type} {queue : LockFreeQueue α}

/-- An empty queue with room for `maxSize` values, rounded up to a power of two. -/
def new (α : Type) (maxSize : Nat) : LockFreeQueue α where
  capacity := nextPowerOfTwo maxSize
  entries := []
  isShutdown := false
  bounded := Nat.zero_le _

/-- `push`: refuse a value when the queue is shut down or full. -/
def push (queue : LockFreeQueue α) (value : α) : Bool × LockFreeQueue α :=
  if queue.isShutdown then (false, queue)
  else if full : queue.entries.length = queue.capacity - 1 then (false, queue)
  else
    (true,
      { queue with
        entries := queue.entries ++ [value]
        bounded := by
          have bounded := queue.bounded
          rw [List.length_append, List.length_singleton]
          omega })

/-- `tryPop`: the oldest value, if the queue is running and has one. -/
def tryPop (queue : LockFreeQueue α) : Option α × LockFreeQueue α :=
  if queue.isShutdown then (none, queue)
  else
    match chain : queue.entries with
    | [] => (none, queue)
    | value :: rest =>
      (some value,
        { queue with
          entries := rest
          bounded := by
            have bounded := queue.bounded
            rw [chain, List.length_cons] at bounded
            omega })

/-- `size`. -/
def size (queue : LockFreeQueue α) : Nat := queue.entries.length

/-- At most `count` rounds of a loop that pops until `tryPop` fails. -/
def popUpTo : Nat → LockFreeQueue α → List α × LockFreeQueue α
  | 0, queue => ([], queue)
  | count + 1, queue =>
    match queue.tryPop with
    | (none, queue) => ([], queue)
    | (some value, queue) =>
      let (values, queue) := popUpTo count queue
      (value :: values, queue)

/-- A loop that pops until `tryPop` fails. -/
def popAll (queue : LockFreeQueue α) : List α × LockFreeQueue α :=
  queue.popUpTo (queue.entries.length + 1)

/-- At most `count` rounds of a loop that pops up to the first value with the given
property. -/
def popUntilUpTo (property : α → Bool) : Nat → LockFreeQueue α → List α × Option α × LockFreeQueue α
  | 0, queue => ([], none, queue)
  | count + 1, queue =>
    match queue.tryPop with
    | (none, queue) => ([], none, queue)
    | (some value, queue) =>
      if property value then ([], some value, queue)
      else
        let (values, found, queue) := popUntilUpTo property count queue
        (value :: values, found, queue)

/-- A loop that pops up to the first value with the given property: the values before
it, the value if there is one, and the queue that is left. -/
def popUntil (property : α → Bool) (queue : LockFreeQueue α) :
    List α × Option α × LockFreeQueue α :=
  queue.popUntilUpTo property (queue.entries.length + 1)

/-- A loop that pushes values and ignores what `push` returns. -/
def pushAll (queue : LockFreeQueue α) (values : List α) : LockFreeQueue α :=
  values.foldl (fun queue value => (queue.push value).2) queue

/-! ## One call -/

theorem tryPop_cases (running : queue.isShutdown = false) :
    (queue.entries = [] ∧ queue.tryPop = (none, queue)) ∨
      ∃ value after, queue.entries = value :: after.entries ∧
        after.capacity = queue.capacity ∧ after.isShutdown = false ∧
        queue.tryPop = (some value, after) := by
  unfold tryPop
  rw [if_neg (by rw [running]; exact Bool.false_ne_true)]
  split
  · rename_i empty
    exact .inl ⟨empty, rfl⟩
  · rename_i value rest chain
    refine .inr ⟨value, _, ?_, ?_, ?_, rfl⟩
    · exact chain
    · rfl
    · exact running

theorem entries_of_tryPop {after : LockFreeQueue α} {value : α}
    (popped : queue.tryPop = (some value, after)) : queue.entries = value :: after.entries := by
  unfold tryPop at popped
  split at popped
  · cases popped
  · split at popped
    · cases popped
    · rename_i first rest chain
      cases popped
      exact chain

theorem tryPop_none (refused : queue.tryPop.1 = none) : queue.tryPop.2 = queue := by
  unfold tryPop at refused ⊢
  split
  · rfl
  · rename_i running
    rw [if_neg running] at refused
    split
    · rfl
    · rename_i value rest chain
      split at refused
      · rename_i empty
        rw [empty] at chain
        cases chain
      · cases refused

theorem push_isShutdown (queue : LockFreeQueue α) (value : α) :
    (queue.push value).2.isShutdown = queue.isShutdown := by
  unfold push
  split
  · rfl
  · split <;> rfl

theorem push_cases (queue : LockFreeQueue α) (value : α) :
    (queue.push value).1 = true ∧ (queue.push value).2.entries = queue.entries ++ [value] ∨
      queue.push value = (false, queue) := by
  unfold push
  split
  · exact .inr rfl
  · split
    · exact .inr rfl
    · exact .inl ⟨rfl, rfl⟩

theorem push_entries (queue : LockFreeQueue α) (value : α) :
    (queue.push value).2.entries = queue.entries ++ [value] ∨
      (queue.push value).2.entries = queue.entries := by
  rcases queue.push_cases value with ⟨-, added⟩ | refused
  · exact .inl added
  · rw [refused]
    exact .inr rfl

/-! ## Calls on a running queue -/

/-- The queue is running and holds these values. -/
structure Holding (queue : LockFreeQueue α) (capacity : Nat) (values : List α) : Prop where
  capacity : queue.capacity = capacity
  entries : queue.entries = values
  running : queue.isShutdown = false

namespace Holding

variable {queue : LockFreeQueue α} {capacity : Nat} {values : List α} {value : α} {more : List α}
  {property : α → Bool}

theorem length_le (holding : queue.Holding capacity values) : values.length ≤ capacity - 1 := by
  have bounded := queue.bounded
  rw [holding.entries, holding.capacity] at bounded
  exact bounded

/-- A push succeeds as long as one cell stays unused. -/
theorem push (holding : queue.Holding capacity values) (room : values.length + 1 < capacity)
    (value : α) :
    (queue.push value).1 = true ∧ (queue.push value).2.Holding capacity (values ++ [value]) := by
  have free : ¬ queue.entries.length = queue.capacity - 1 := by
    rw [holding.entries, holding.capacity]
    omega
  have stays : ¬ queue.isShutdown = true := by
    rw [holding.running]
    exact Bool.false_ne_true
  unfold LockFreeQueue.push
  rw [if_neg stays, dif_neg free]
  refine ⟨rfl, holding.capacity, ?_, holding.running⟩
  rw [← holding.entries]

theorem tryPop_nil (holding : queue.Holding capacity []) : queue.tryPop = (none, queue) := by
  rcases tryPop_cases holding.running with ⟨_, popped⟩ | ⟨first, after, found, _⟩
  · exact popped
  · cases holding.entries.symm.trans found

theorem tryPop_cons (holding : queue.Holding capacity (value :: values)) :
    ∃ after, queue.tryPop = (some value, after) ∧ after.Holding capacity values := by
  rcases tryPop_cases holding.running with ⟨empty, _⟩ | ⟨first, after, found, same, running, popped⟩
  · cases holding.entries.symm.trans empty
  · cases holding.entries.symm.trans found
    exact ⟨after, popped, same.trans holding.capacity, rfl, running⟩

section

variable (holding : queue.Holding capacity values)
include holding

theorem popUpTo {count : Nat} (enough : values.length < count) :
    (queue.popUpTo count).1 = values ∧ (queue.popUpTo count).2.Holding capacity [] := by
  induction count generalizing queue values with
  | zero => exact absurd enough (Nat.not_lt_zero _)
  | succ count ih =>
    cases values with
    | nil =>
      rw [LockFreeQueue.popUpTo, holding.tryPop_nil]
      exact ⟨rfl, holding⟩
    | cons first rest =>
      obtain ⟨after, popped, left⟩ := holding.tryPop_cons
      obtain ⟨all, empty⟩ := ih left (Nat.lt_of_succ_lt_succ enough)
      rw [LockFreeQueue.popUpTo, popped]
      exact ⟨congrArg _ all, empty⟩

theorem popAll : queue.popAll.1 = values ∧ queue.popAll.2.Holding capacity [] := by
  refine holding.popUpTo ?_
  rw [holding.entries]
  exact Nat.lt_succ_self _

theorem push_full (full : values.length = capacity - 1) (value : α) :
    queue.push value = (false, queue) := by
  have same : queue.entries.length = queue.capacity - 1 := by
    rw [holding.entries, holding.capacity]
    exact full
  unfold LockFreeQueue.push
  rw [dif_pos same, ite_self]

theorem pushAll_take :
    (queue.pushAll more).Holding capacity
      (values ++ more.take (capacity - 1 - values.length)) := by
  induction more generalizing queue values with
  | nil =>
    rw [List.take_nil, List.append_nil]
    exact holding
  | cons first rest ih =>
    have bound := holding.length_le
    change ((queue.push first).2.pushAll rest).Holding _ _
    by_cases full : values.length = capacity - 1
    · have stays := ih holding
      rw [holding.push_full full]
      rw [full, Nat.sub_self, List.take_zero] at stays ⊢
      exact stays
    · obtain ⟨room, left⟩ : ∃ room, capacity - 1 - values.length = room + 1 :=
        ⟨capacity - 1 - values.length - 1, by omega⟩
      have all := ih (holding.push (by omega) first).2
      have fewer : capacity - 1 - (values ++ [first]).length = room := by
        rw [List.length_append, List.length_singleton]
        omega
      rw [fewer, List.append_assoc, List.singleton_append] at all
      rw [left, List.take_succ_cons]
      exact all

theorem pushAll (room : values.length + more.length < capacity) :
    (queue.pushAll more).Holding capacity (values ++ more) := by
  have pushed : (queue.pushAll more).Holding capacity
      (values ++ more.take (capacity - 1 - values.length)) := holding.pushAll_take
  rw [List.take_of_length_le (by omega)] at pushed
  exact pushed

end

/-- The loop that pops up to a value with a property gets the values before the first one that
has it, and that value. -/
theorem popUntilUpTo {count : Nat} (property : α → Bool) (holding : queue.Holding capacity values)
    (enough : values.length < count) :
    (queue.popUntilUpTo property count).1 = values.takeWhile (! property ·) ∧
      (queue.popUntilUpTo property count).2.1 = values.find? property ∧
      (queue.popUntilUpTo property count).2.2.Holding capacity
        (values.dropWhile (! property ·)).tail := by
  induction count generalizing queue values with
  | zero => exact absurd enough (Nat.not_lt_zero _)
  | succ count ih =>
    cases values with
    | nil =>
      rw [LockFreeQueue.popUntilUpTo, holding.tryPop_nil]
      exact ⟨rfl, rfl, holding⟩
    | cons first rest =>
      obtain ⟨after, popped, left⟩ := holding.tryPop_cons
      obtain ⟨all, found, running⟩ := ih left (Nat.lt_of_succ_lt_succ enough)
      cases met : property first with
      | true => simp [LockFreeQueue.popUntilUpTo, popped, met, left]
      | false => simp [LockFreeQueue.popUntilUpTo, popped, met, all, found, running]

theorem popUntil (property : α → Bool) (holding : queue.Holding capacity values) :
    (queue.popUntil property).1 = values.takeWhile (! property ·) ∧
      (queue.popUntil property).2.1 = values.find? property ∧
      (queue.popUntil property).2.2.Holding capacity (values.dropWhile (! property ·)).tail := by
  rw [LockFreeQueue.popUntil, holding.entries]
  exact holding.popUntilUpTo property (Nat.lt_succ_self _)

theorem popUntil_absent (holding : queue.Holding capacity values)
    (absent : ∀ value ∈ values, property value = false) :
    (queue.popUntil property).1 = values ∧ (queue.popUntil property).2.1 = none ∧
      (queue.popUntil property).2.2.Holding capacity [] := by
  obtain ⟨all, found, left⟩ := holding.popUntil property
  have whole : ∀ value ∈ values, (! property value) = true := by simpa using absent
  rw [List.takeWhile_eq_self_iff.mpr whole] at all
  rw [List.find?_eq_none.mpr (by simpa using absent)] at found
  rw [List.dropWhile_eq_nil_iff.mpr whole] at left
  exact ⟨all, found, left⟩

theorem popUntil_split {front back : List α}
    (holding : queue.Holding capacity (front ++ value :: back))
    (before : ∀ value ∈ front, property value = false) (met : property value = true) :
    (queue.popUntil property).1 = front ∧ (queue.popUntil property).2.1 = some value ∧
      (queue.popUntil property).2.2.Holding capacity back := by
  obtain ⟨all, found, left⟩ := holding.popUntil property
  have whole : ∀ value ∈ front, (! property value) = true := by simpa using before
  rw [List.takeWhile_append_of_pos whole] at all
  rw [List.find?_append, List.find?_eq_none.mpr (by simpa using before)] at found
  rw [List.dropWhile_append_of_pos whole] at left
  simp only [met, Bool.not_true, List.takeWhile_cons, List.dropWhile_cons, List.find?_cons,
    List.append_nil, if_false, Bool.false_eq_true] at all found left
  exact ⟨all, found, left⟩

end Holding

end LockFreeQueue

end FixGateway.Utils
