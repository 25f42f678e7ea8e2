import FixGateway.Utils.PriorityQueue
import FixGateway.Memory.NumberedHeap

/-! # The order in which a priority queue returns messages

`std::priority_queue` is `std::push_heap` and `std::pop_heap` on a vector. `arrivalHeap` is this
heap with a number beside each message that tells when it was pushed. The queue does not see the
numbers: a queue does the same over two implementations of `std::priority_queue` that do the same
(`step_transport`), in particular over the heap with and without numbers (`execute_forget`).

A heap does not keep messages of one priority in order. In a queue that holds one priority the
order survives as long as messages are taken from queues of at most three. Taking one of four or
more brings the third message to the front while the second one is still there.
-/

namespace FixGateway.Utils

open Application Common

namespace PriorityQueue

/-! ## Queues over another implementation -/

section Transport

variable {source target : MaxContainer messagePriorityComparator}
  (hom : MaxContainer.Hom source target)

/-- The same queue over another implementation of `std::priority_queue`. -/
def transport (queue : PriorityQueue source) : PriorityQueue target where
  queue := hom.map queue.queue
  maxSize := queue.maxSize
  overflowPolicy := queue.overflowPolicy
  isShutdown := queue.isShutdown
  totalPushed := queue.totalPushed
  totalPopped := queue.totalPopped
  totalDropped := queue.totalDropped
  peakSize := queue.peakSize
  destroyed := queue.destroyed

variable (queue : PriorityQueue source)

@[simp] theorem transport_maxSize : (queue.transport hom).maxSize = queue.maxSize := rfl

@[simp] theorem transport_overflowPolicy :
    (queue.transport hom).overflowPolicy = queue.overflowPolicy := rfl

@[simp] theorem transport_isShutdown : (queue.transport hom).isShutdown = queue.isShutdown := rfl

@[simp] theorem transport_size : (queue.transport hom).size = queue.size :=
  congrArg Multiset.card (hom.contents queue.queue)

theorem transport_discardTop :
    (queue.transport hom).discardTop = queue.discardTop.transport hom := by
  have popped : target.pop (queue.transport hom).queue = _ := hom.pop queue.queue
  unfold discardTop
  rw [popped]
  cases source.pop queue.queue with
  | none => rfl
  | some taken => rfl

theorem transport_dropTop : (queue.transport hom).dropTop = queue.dropTop.transport hom := by
  unfold dropTop
  rw [transport_discardTop]
  rfl

theorem transport_tryPop :
    (queue.transport hom).tryPop = (queue.tryPop.1, queue.tryPop.2.transport hom) := by
  have popped : target.pop (queue.transport hom).queue = _ := hom.pop queue.queue
  unfold tryPop
  rw [popped]
  cases source.pop queue.queue with
  | none => rfl
  | some taken => rfl

theorem transport_handleOverflow :
    (queue.transport hom).handleOverflow =
      (queue.handleOverflow.1, queue.handleOverflow.2.transport hom) := by
  unfold handleOverflow
  rw [transport_size, transport_overflowPolicy, transport_dropTop]
  split
  · rfl
  · rfl

theorem transport_insert (message : Message) :
    (queue.transport hom).insert message = (queue.insert message).transport hom := by
  simp only [insert, transport, size, messages, ← hom.push, hom.contents]

theorem transport_push (now : Nat) (message : Option Message) :
    (queue.transport hom).push now message =
      ((queue.push now message).1, (queue.push now message).2.transport hom) := by
  cases message with
  | none => rfl
  | some message =>
    simp only [push, transport_size, transport_isShutdown, transport_maxSize,
      transport_overflowPolicy, transport_handleOverflow, transport_insert]
    by_cases closed : queue.isShutdown = true
    · rw [if_pos closed, if_pos closed]
      rfl
    rw [if_neg closed, if_neg closed]
    by_cases full : queue.maxSize ≤ queue.size
    swap
    · rw [if_neg full, if_neg full]
    rw [if_pos full, if_pos full]
    cases queue.overflowPolicy with
    | dropOldest =>
      rcases queue.handleOverflow_cases with dropped | kept
      · rw [dropped]
        exact congrArg (Prod.mk true) (transport_insert hom ..)
      · rw [kept]
        rfl
    | dropNewest => rfl
    | reject => rfl
    | block => rfl

theorem transport_clearUpTo (rounds : Nat) :
    (queue.transport hom).clearUpTo rounds = (queue.clearUpTo rounds).transport hom := by
  induction rounds generalizing queue with
  | zero => rfl
  | succ rounds ih =>
    rw [clearUpTo, clearUpTo, transport_size, transport_discardTop, ih]
    split
    · rfl
    · rfl

theorem transport_shrinkUpTo (rounds : Nat) :
    (queue.transport hom).shrinkUpTo rounds = (queue.shrinkUpTo rounds).transport hom := by
  induction rounds generalizing queue with
  | zero => rfl
  | succ rounds ih =>
    rw [shrinkUpTo, shrinkUpTo, transport_size, transport_maxSize, transport_overflowPolicy,
      transport_dropTop, ih]
    split
    · rfl
    · rfl

/-- A queue does the same over both implementations. -/
theorem step_transport (operation : Operation) :
    (queue.transport hom).step operation = (queue.step operation).transport hom := by
  cases operation with
  | push now message => exact congrArg Prod.snd (queue.transport_push hom now message)
  | pop => exact congrArg Prod.snd (queue.transport_tryPop hom)
  | tryPop => exact congrArg Prod.snd (queue.transport_tryPop hom)
  | clear =>
    change (queue.transport hom).clearUpTo (queue.transport hom).size = _
    rw [transport_size]
    exact queue.transport_clearUpTo hom _
  | setMaxSize maxSize =>
    change ({ queue with maxSize := maxSize }.transport hom).shrinkUpTo
      (queue.transport hom).size = _
    rw [transport_size]
    exact transport_shrinkUpTo hom _ _
  | setOverflowPolicy policy => rfl
  | shutdown => rfl

theorem returned_transport (operation : Operation) :
    (queue.transport hom).returned operation = queue.returned operation := by
  cases operation with
  | pop => exact congrArg Prod.fst (queue.transport_tryPop hom)
  | tryPop => exact congrArg Prod.fst (queue.transport_tryPop hom)
  | push now message => rfl
  | clear => rfl
  | setMaxSize maxSize => rfl
  | setOverflowPolicy policy => rfl
  | shutdown => rfl

theorem execute_transport (operations : List Operation) :
    Transition.execute step (queue.transport hom) operations =
      (Transition.execute step queue operations).transport hom := by
  induction operations generalizing queue with
  | nil => rfl
  | cons operation operations ih =>
    change Transition.execute step ((queue.transport hom).step operation) operations = _
    rw [step_transport, ih]
    rfl

end Transport

/-! ## The heap with numbers -/

/-- The number by which the heap compares messages. -/
def urgencyKey (message : Message) : Int := message.priority.value

/-- The heap of `std::push_heap` and `std::pop_heap`. -/
def vectorHeap : MaxContainer messagePriorityComparator := BinaryHeap.container urgencyKey

/-- The same heap, with messages numbered in the order in which they are pushed. -/
def arrivalHeap : MaxContainer messagePriorityComparator := BinaryHeap.numbered urgencyKey

/-- The vector of a queue with its numbers, and what was taken out of it. -/
def arrivals (queue : PriorityQueue arrivalHeap) : BinaryHeap.Numbered urgencyKey := queue.queue

/-- Without the numbers it is the heap again. -/
def forgetArrivals : MaxContainer.Hom arrivalHeap vectorHeap := BinaryHeap.forget urgencyKey

/-- The numbers make no difference to a run, and none to what an operation after it returns. -/
theorem execute_forget (queue : PriorityQueue arrivalHeap) (operations : List Operation)
    (operation : Operation) :
    Transition.execute step (queue.transport forgetArrivals) operations =
        (Transition.execute step queue operations).transport forgetArrivals ∧
      (Transition.execute step (queue.transport forgetArrivals) operations).returned operation =
        (Transition.execute step queue operations).returned operation := by
  rw [execute_transport]
  exact ⟨rfl, returned_transport forgetArrivals _ operation⟩

def SamePriority (first second : Message) : Prop := first.priority = second.priority

instance : DecidableRel SamePriority :=
  fun first second => inferInstanceAs (Decidable (first.priority = second.priority))

/-- Messages of one priority have been taken out in the order in which they were pushed. -/
def InOrder (queue : PriorityQueue arrivalHeap) : Prop :=
  BinaryHeap.InOrder SamePriority queue.arrivals.popped queue.arrivals.entries

/-- An operation returns a message. -/
def Takes (queue : PriorityQueue arrivalHeap) (operation : Operation) : Prop :=
  (queue.returned operation).isSome

/-- Only the operations `push`, `pop` and `tryPop`, and no push that finds the queue full. A queue
that is shut down does not look. -/
def WithoutOverflow (queue : PriorityQueue arrivalHeap) : Operation → Prop
  | .push _ (some _) => queue.isShutdown = true ∨ queue.size < queue.maxSize
  | .push _ none | .pop | .tryPop => True
  | .clear | .setMaxSize _ | .setOverflowPolicy _ | .shutdown => False

/-- When an operation returns a message, the front of the vector was pushed before all others of
its priority. -/
def OldestFirst (queue : PriorityQueue arrivalHeap) (operation : Operation) : Prop :=
  queue.Takes operation → BinaryHeap.FrontOldest SamePriority queue.arrivals.entries

/-- Once a message has been taken from a queue of four or more, no other one is taken. -/
def FewUntilLast (queue : PriorityQueue arrivalHeap) : List Operation → Prop
  | [] => True
  | operation :: operations =>
    (queue.Takes operation → 4 ≤ queue.size →
      Transition.Permits step (fun queue operation => ¬ queue.Takes operation)
        (queue.step operation) operations) ∧
      (queue.step operation).FewUntilLast operations

instance WithoutOverflow.decidable (queue : PriorityQueue arrivalHeap) :
    ∀ operation, Decidable (queue.WithoutOverflow operation)
  | .push _ (some _) => inferInstanceAs (Decidable (_ ∨ queue.size < queue.maxSize))
  | .push _ none | .pop | .tryPop => inferInstanceAs (Decidable True)
  | .clear | .setMaxSize _ | .setOverflowPolicy _ | .shutdown => inferInstanceAs (Decidable False)

instance Takes.decidable (queue : PriorityQueue arrivalHeap) (operation : Operation) :
    Decidable (queue.Takes operation) :=
  inferInstanceAs (Decidable (_ = true))

instance FewUntilLast.decidable :
    ∀ (queue : PriorityQueue arrivalHeap) (operations : List Operation),
      Decidable (queue.FewUntilLast operations)
  | _, [] => inferInstanceAs (Decidable True)
  | queue, operation :: operations =>
    have := FewUntilLast.decidable (queue.step operation) operations
    inferInstanceAs (Decidable ((queue.Takes operation → 4 ≤ queue.size → _) ∧ _))

instance InOrder.decidable (queue : PriorityQueue arrivalHeap) : Decidable queue.InOrder :=
  inferInstanceAs (Decidable (BinaryHeap.InOrder ..))

section Order

variable {queue : PriorityQueue arrivalHeap} {operation : Operation}
  {operations : List Operation} {priority : Priority} {message : Message}
  {after : PriorityQueue arrivalHeap} {entry : Nat × Message}

theorem size_eq_length (queue : PriorityQueue arrivalHeap) :
    queue.size = queue.arrivals.entries.length :=
  List.length_map _

/-- What an operation does to the vector if there is no overflow. -/
inductive Change (queue : PriorityQueue arrivalHeap) (operation : Operation) : Prop where
  | still (same : (queue.step operation).arrivals = queue.arrivals)
      (keeps : ¬ queue.Takes operation)
  | pushed {message : Message}
      (given : ∀ priority, queue.Pushes priority operation → message.priority = priority)
      (enters : (queue.step operation).arrivals = queue.arrivals.push message)
      (keeps : ¬ queue.Takes operation)
  | popped {entry : Nat × Message}
      (pops : BinaryHeap.Numbered.Pops queue.arrivals (queue.step operation).arrivals entry)
      (takes : queue.Takes operation)

theorem change_push {now : Nat} {message : Option Message}
    (calm : queue.WithoutOverflow (.push now message)) : Change queue (.push now message) := by
  have keeps : ¬ queue.Takes (.push now message) := by
    intro takes
    cases takes
  cases message with
  | none => exact .still rfl keeps
  | some message =>
    by_cases closed : queue.isShutdown = true
    · have refused : queue.push now (some message) = (false, queue.destroy message) :=
        if_pos closed
      apply Change.still _ keeps
      change (queue.push now (some message)).2.arrivals = queue.arrivals
      rw [refused]
      rfl
    · have room : ¬ queue.maxSize ≤ queue.size := Nat.not_le_of_lt (calm.resolve_left closed)
      apply @Change.pushed queue _ { message with queueEntryTime := now } _ _ keeps
      · exact fun priority pushes => pushes message rfl
      · change (queue.push now (some message)).2.arrivals = _
        rw [push, if_neg closed]
        dsimp only
        rw [if_neg room]
        rfl

theorem tryPop_cases (queue : PriorityQueue arrivalHeap) :
    queue.tryPop = (none, queue) ∨
      ∃ entry, BinaryHeap.Numbered.Pops queue.arrivals queue.tryPop.2.arrivals entry ∧
        queue.tryPop.1 = some entry.2 := by
  cases popped : arrivalHeap.pop queue.queue with
  | none =>
    left
    rw [tryPop, popped]
  | some taken =>
    obtain ⟨top, rest⟩ := taken
    obtain ⟨entry, same, pops⟩ := BinaryHeap.Numbered.pops_of_pop popped
    right
    refine ⟨entry, ?_⟩
    rw [tryPop, popped, same]
    exact ⟨pops, rfl⟩

theorem change_tryPop : Change queue .tryPop := by
  rcases queue.tryPop_cases with none | ⟨entry, pops, given⟩
  · apply Change.still
    · exact congrArg (fun result => result.2.arrivals) none
    · change ¬ queue.tryPop.1.isSome
      rw [none]
      exact Bool.false_ne_true
  · apply Change.popped pops
    change queue.tryPop.1.isSome
    rw [given]
    rfl

theorem WithoutOverflow.change (calm : queue.WithoutOverflow operation) :
    Change queue operation := by
  cases operation with
  | push now message => exact change_push calm
  | pop =>
    rcases @change_tryPop queue with ⟨same, keeps⟩ | ⟨given, enters, keeps⟩ | ⟨pops, takes⟩
    · exact .still same keeps
    · exact .pushed given enters keeps
    · exact .popped pops takes
  | tryPop => exact change_tryPop
  | clear => cases calm
  | setMaxSize maxSize => cases calm
  | setOverflowPolicy policy => cases calm
  | shutdown => cases calm

/-- One operation keeps the order exactly if it takes the oldest message. -/
theorem step_inOrder_iff (calm : queue.WithoutOverflow operation) :
    (queue.step operation).InOrder ↔ queue.InOrder ∧ queue.OldestFirst operation := by
  unfold InOrder
  rcases calm.change with ⟨same, keeps⟩ | ⟨-, enters, keeps⟩ | ⟨pops, takes⟩
  · rw [same]
    exact (and_iff_left fun takes => absurd takes keeps).symm
  · rw [enters, BinaryHeap.Numbered.push_inOrder_iff]
    exact (and_iff_left fun takes => absurd takes keeps).symm
  · rw [BinaryHeap.Numbered.pop_inOrder_iff pops]
    exact and_congr_right fun _ => ⟨fun oldest _ => oldest, fun oldest => oldest takes⟩

theorem execute_inOrder_iff (calm : Transition.Permits step WithoutOverflow queue operations) :
    (Transition.execute step queue operations).InOrder ↔
      queue.InOrder ∧ Transition.Permits step OldestFirst queue operations := by
  induction operations generalizing queue with
  | nil => exact (and_iff_left trivial).symm
  | cons operation operations ih =>
    change (Transition.execute step (queue.step operation) operations).InOrder ↔ _
    rw [ih calm.2, step_inOrder_iff calm.1, and_assoc]
    rfl

/-! ## One priority -/

/-- All messages of the queue have the priority. -/
def OfPriority (priority : Priority) (entries : List (Nat × Message)) : Prop :=
  ∀ entry ∈ entries, entry.2.priority = priority

/-- The messages of one priority, from the oldest to the newest. -/
structure Sorted (priority : Priority) (queue : PriorityQueue arrivalHeap) : Prop where
  same : OfPriority priority queue.arrivals.entries
  sorted : queue.arrivals.entries.Pairwise fun first second => first.1 < second.1

/-- A message of the one priority has overtaken another one. -/
structure Overtaken (priority : Priority) (queue : PriorityQueue arrivalHeap) : Prop where
  same : OfPriority priority queue.arrivals.entries
  overtaken : ∃ front others, queue.arrivals.entries = front :: others ∧
    ∃ older ∈ others, older.1 < front.1

theorem OfPriority.equal {entries : List (Nat × Message)} (same : OfPriority priority entries)
    (given : message.priority = priority) (number : Nat) :
    ∀ entry ∈ entries,
      (urgencyKey ∘ Prod.snd) entry = (urgencyKey ∘ Prod.snd) (number, message) := by
  intro entry member
  change entry.2.priority.value = message.priority.value
  rw [same entry member, given]

/-- A message of the priority is pushed behind the others. -/
theorem OfPriority.push (same : OfPriority priority queue.arrivals.entries)
    (given : message.priority = priority) :
    (queue.arrivals.push message).entries =
        queue.arrivals.entries ++ [(queue.arrivals.next, message)] ∧
      OfPriority priority (queue.arrivals.push message).entries := by
  have behind : (queue.arrivals.push message).entries =
      queue.arrivals.entries ++ [(queue.arrivals.next, message)] :=
    BinaryHeap.pushHeap_equal (same.equal given _)
  refine ⟨behind, ?_⟩
  rw [behind]
  intro entry member
  rcases List.mem_append.mp member with old | new
  · exact same entry old
  · rw [List.mem_singleton.mp new]
    exact given

theorem sorted_of_empty (new : queue.queue = arrivalHeap.empty) (priority : Priority) :
    Sorted priority queue := by
  have empty : queue.arrivals = BinaryHeap.Numbered.empty := new
  constructor
  · rw [empty]
    intro entry member
    cases member
  · rw [empty]
    exact List.Pairwise.nil

theorem Sorted.frontOldest (ordered : Sorted priority queue) (related : Message → Message → Prop) :
    BinaryHeap.FrontOldest related queue.arrivals.entries := by
  have sorted := ordered.sorted
  cases shape : queue.arrivals.entries with
  | nil => trivial
  | cons front others =>
    rw [shape, List.pairwise_cons] at sorted
    exact fun later there _ => sorted.1 later there

theorem Sorted.still (ordered : Sorted priority queue) (same : after.arrivals = queue.arrivals) :
    Sorted priority after := by
  constructor
  · rw [same]
    exact ordered.same
  · rw [same]
    exact ordered.sorted

theorem Sorted.push (ordered : Sorted priority queue) (given : message.priority = priority)
    (enters : after.arrivals = queue.arrivals.push message) : Sorted priority after := by
  obtain ⟨behind, same⟩ := ordered.same.push given
  rw [← enters] at behind same
  refine ⟨same, ?_⟩
  rw [behind, List.pairwise_append]
  refine ⟨ordered.sorted, List.pairwise_singleton .., fun first member second last => ?_⟩
  rw [List.mem_singleton.mp last]
  exact queue.arrivals.arrived.fresh first (List.mem_append_right _ member)

theorem OfPriority.pop (same : OfPriority priority queue.arrivals.entries)
    (pops : BinaryHeap.Numbered.Pops queue.arrivals after.arrivals entry) :
    OfPriority priority after.arrivals.entries :=
  fun other member => same other (pops.perm.mem_iff.mpr (List.mem_cons_of_mem _ member))

/-- A message that is taken from at most three leaves the others in order. -/
theorem Sorted.pop_few (ordered : Sorted priority queue)
    (pops : BinaryHeap.Numbered.Pops queue.arrivals after.arrivals entry) (few : queue.size < 4) :
    Sorted priority after := by
  refine ⟨ordered.same.pop pops, ?_⟩
  have sorted := ordered.sorted
  have same := ordered.same
  have taken := pops.taken
  obtain ⟨others, shape, -⟩ := pops.front
  rw [size_eq_length, shape, List.length_cons] at few
  rw [shape] at sorted same taken
  have equal := same.equal (same entry (List.mem_cons_self ..)) entry.1
  have first := BinaryHeap.popHeap_equal_few
    (fun other member => equal other (List.mem_cons_of_mem _ member))
    (Nat.le_of_lt_succ (Nat.lt_of_succ_lt_succ few))
  have left : others = after.arrivals.entries :=
    (Prod.mk.inj (Option.some.inj (first.symm.trans taken))).2
  rw [← left]
  exact (List.pairwise_cons.mp sorted).2

/-- A message that is taken from four or more lets the third one overtake the second one. -/
theorem Sorted.pop_many (ordered : Sorted priority queue)
    (pops : BinaryHeap.Numbered.Pops queue.arrivals after.arrivals entry) (many : 4 ≤ queue.size) :
    Overtaken priority after := by
  refine ⟨ordered.same.pop pops, ?_⟩
  have sorted := ordered.sorted
  have same := ordered.same
  have taken := pops.taken
  have perm := pops.perm
  rw [size_eq_length] at many
  obtain ⟨first, second, third, fourth, others, shape⟩ : ∃ first second third fourth others,
      queue.arrivals.entries = first :: second :: third :: fourth :: others := by
    match entries : queue.arrivals.entries, many with
    | first :: second :: third :: fourth :: others, _ =>
      exact ⟨first, second, third, fourth, others, rfl⟩
  rw [shape] at sorted same taken perm
  obtain ⟨rest, popped⟩ := BinaryHeap.popHeap_equal_front
    (same.equal (same first (List.mem_cons_self ..)) first.1)
  have outcome := Option.some.inj (popped.symm.trans taken)
  have front : first = entry := (Prod.mk.inj outcome).1
  have left : third :: rest = after.arrivals.entries := (Prod.mk.inj outcome).2
  have older : second.1 < third.1 := by
    simp only [List.pairwise_cons, List.mem_cons] at sorted
    exact sorted.2.1 third (.inl rfl)
  refine ⟨third, rest, left.symm, second, ?_, older⟩
  rw [front, ← left] at perm
  have there := perm.cons_inv.mem_iff.mp (List.mem_cons_self ..)
  rcases List.mem_cons.mp there with equal | member
  · rw [equal] at older
    exact absurd older (Nat.lt_irrefl _)
  · exact member

theorem Overtaken.push (broken : Overtaken priority queue) (given : message.priority = priority)
    (enters : after.arrivals = queue.arrivals.push message) : Overtaken priority after := by
  obtain ⟨behind, same⟩ := broken.same.push given
  rw [← enters] at behind same
  obtain ⟨front, others, shape, older, member, less⟩ := broken.overtaken
  rw [shape, List.cons_append] at behind
  exact ⟨same, front, _, behind, older, List.mem_append_left _ member, less⟩

theorem Overtaken.not_frontOldest (broken : Overtaken priority queue) :
    ¬ BinaryHeap.FrontOldest SamePriority queue.arrivals.entries := by
  have same := broken.same
  obtain ⟨front, others, shape, older, member, less⟩ := broken.overtaken
  rw [shape] at same ⊢
  intro oldest
  have equal : SamePriority front.2 older.2 :=
    (same front (List.mem_cons_self ..)).trans (same older (List.mem_cons_of_mem _ member)).symm
  exact absurd (oldest older member equal) (Nat.lt_asymm less)

/-- After a message has been overtaken, the order is kept as long as no message is taken. -/
theorem Overtaken.permits_iff (broken : Overtaken priority queue)
    (calm : Transition.Permits step WithoutOverflow queue operations)
    (pushes : Transition.Permits step (Pushes priority) queue operations) :
    Transition.Permits step OldestFirst queue operations ↔
      Transition.Permits step (fun queue operation => ¬ queue.Takes operation) queue
        operations := by
  induction operations generalizing queue with
  | nil => exact Iff.rfl
  | cons operation operations ih =>
    rcases calm.1.change with ⟨same, keeps⟩ | ⟨given, enters, keeps⟩ | ⟨pops, takes⟩
    · have next : Overtaken priority (queue.step operation) := by
        constructor
        · rw [same]
          exact broken.same
        · rw [same]
          exact broken.overtaken
      exact and_congr (iff_of_true (fun takes => absurd takes keeps) keeps)
        (ih next calm.2 pushes.2)
    · have next := broken.push (given priority pushes.1) enters
      exact and_congr (iff_of_true (fun takes => absurd takes keeps) keeps)
        (ih next calm.2 pushes.2)
    · exact iff_of_false (fun oldest => broken.not_frontOldest (oldest.1 takes))
        fun untouched => untouched.1 takes

theorem fewUntilLast_of_untouched
    (untouched : Transition.Permits step (fun queue operation => ¬ queue.Takes operation) queue
      operations) : queue.FewUntilLast operations := by
  induction operations generalizing queue with
  | nil => trivial
  | cons operation operations ih =>
    exact ⟨fun takes => absurd takes untouched.1, ih untouched.2⟩

theorem Sorted.permits_iff (ordered : Sorted priority queue)
    (calm : Transition.Permits step WithoutOverflow queue operations)
    (pushes : Transition.Permits step (Pushes priority) queue operations) :
    Transition.Permits step OldestFirst queue operations ↔ queue.FewUntilLast operations := by
  induction operations generalizing queue with
  | nil => exact Iff.rfl
  | cons operation operations ih =>
    have oldest : queue.OldestFirst operation := fun _ => ordered.frontOldest SamePriority
    rcases calm.1.change with ⟨same, keeps⟩ | ⟨given, enters, keeps⟩ | ⟨pops, takes⟩
    · exact and_congr (iff_of_true oldest fun takes => absurd takes keeps)
        (ih (ordered.still same) calm.2 pushes.2)
    · have next := ordered.push (given priority pushes.1) enters
      exact and_congr (iff_of_true oldest fun takes => absurd takes keeps)
        (ih next calm.2 pushes.2)
    · by_cases many : 4 ≤ queue.size
      · -- The next message that is taken has overtaken another one.
        have untouched := (ordered.pop_many pops many).permits_iff calm.2 pushes.2
        constructor
        · intro permits
          have none := untouched.mp permits.2
          exact ⟨fun _ _ => none, fewUntilLast_of_untouched none⟩
        · intro few
          exact ⟨oldest, untouched.mpr (few.1 takes many)⟩
      · have next := ordered.pop_few pops (Nat.lt_of_not_le many)
        exact and_congr (iff_of_true oldest fun _ more => absurd more many)
          (ih next calm.2 pushes.2)

/-- Messages of one priority are returned in the order in which they were pushed exactly if every
message is returned from the front of a vector in which no other one of its priority is older. If
only messages of one priority are pushed, it is exactly if a message that is taken from a queue of
four or more is the last one that is taken. -/
theorem popped_in_order_iff (new : queue.queue = arrivalHeap.empty)
    (calm : Transition.Permits step WithoutOverflow queue operations) :
    ((Transition.execute step queue operations).InOrder ↔
        Transition.Permits step OldestFirst queue operations) ∧
      ∀ priority, Transition.Permits step (Pushes priority) queue operations →
        ((Transition.execute step queue operations).InOrder ↔ queue.FewUntilLast operations) := by
  have empty : queue.arrivals = BinaryHeap.Numbered.empty := new
  have start : queue.InOrder := by
    unfold InOrder
    rw [empty]
    exact BinaryHeap.inOrder_nil ..
  have whole : (Transition.execute step queue operations).InOrder ↔
      Transition.Permits step OldestFirst queue operations :=
    (execute_inOrder_iff calm).trans (and_iff_right start)
  exact ⟨whole, fun priority pushes =>
    whole.trans ((sorted_of_empty new priority).permits_iff calm pushes)⟩

end Order

def sampleMessage (number : UInt8) : Message := { messageId := [number], payload := [] }

/-- A queue as the constructor makes it, over the heap with numbers. -/
def sampleArrivals : PriorityQueue arrivalHeap := {}

def samplePushes : List Operation :=
  [.push 0 (some (sampleMessage 1)), .push 1 (some (sampleMessage 2)),
    .push 2 (some (sampleMessage 3))]

theorem popped_in_order_three :
    (Transition.execute step sampleArrivals (samplePushes ++ [.pop, .tryPop, .pop])).InOrder := by
  have calm : Transition.Permits step WithoutOverflow sampleArrivals
      (samplePushes ++ [.pop, .tryPop, .pop]) := by
    decide +kernel
  have pushes : Transition.Permits step (Pushes .low) sampleArrivals
      (samplePushes ++ [.pop, .tryPop, .pop]) := by
    refine ⟨?_, ?_, ?_, trivial, trivial, trivial, trivial⟩
    · rintro pushed ⟨⟩
      rfl
    · rintro pushed ⟨⟩
      rfl
    · rintro pushed ⟨⟩
      rfl
  exact ((popped_in_order_iff rfl calm).2 .low pushes).mpr (by decide +kernel)

/-- Of four messages of one priority, the third one is returned before the second one. -/
theorem third_before_second :
    let operations := samplePushes ++ [.push 3 (some (sampleMessage 4)), .tryPop, .tryPop, .tryPop]
    let queue := Transition.execute step sampleArrivals operations
    Transition.Permits step WithoutOverflow sampleArrivals operations ∧
      queue.arrivals.popped.map (fun entry => (entry.1, entry.2.priority)) =
        [(1, .low), (2, .low), (0, .low)] ∧ ¬ queue.InOrder := by
  decide +kernel

end PriorityQueue

end FixGateway.Utils
