import FixGateway.Utils.PriorityQueueOrder

/-! # What a priority queue evicts

Under the policy DROP_OLDEST a push into a full queue evicts one message, and `setMaxSize` evicts
messages until the others fit. What is evicted is the front of the vector. It is destroyed and
counted once, and the others stay (`Accounted`). It is a message with a largest priority number
and need not be the oldest one.
-/

namespace FixGateway.Utils

open Application Common BinaryHeap

namespace PriorityQueue

/-- The operations of a run of pushes and pops, in which the size may change. -/
def Operation.Fills : Operation → Prop
  | .push _ _ | .pop | .tryPop | .setMaxSize _ => True
  | .clear | .setOverflowPolicy _ | .shutdown => False

/-- What an operation takes out of the vector, newest first. -/
def removed (queue : PriorityQueue arrivalHeap) (operation : Operation) : List (Nat × Message) :=
  (queue.step operation).arrivals.popped.take
    ((queue.step operation).arrivals.popped.length - queue.arrivals.popped.length)

/-- What it takes out without returning it. -/
def evicted (queue : PriorityQueue arrivalHeap) : Operation → List (Nat × Message)
  | .pop | .tryPop => []
  | operation => queue.removed operation

/-- What it puts into the vector. -/
def entered (queue : PriorityQueue arrivalHeap) : Operation → List (Nat × Message)
  | .push now (some message) =>
    if (queue.push now (some message)).1 then
      [(queue.arrivals.next, { message with queueEntryTime := now })]
    else []
  | _ => []

/-- The message of a push that fails. -/
def refused (queue : PriorityQueue arrivalHeap) : Operation → List Message
  | .push now (some message) =>
    if (queue.push now (some message)).1 then []
    else if queue.isShutdown then [message]
    else [{ message with queueEntryTime := now }]
  | _ => []

/-- What is evicted is destroyed and counted, and nothing else is, apart from the message of a
push that fails. All other messages stay. -/
structure Accounted (queue : PriorityQueue arrivalHeap) (operation : Operation) : Prop where
  kept : (queue.entered operation ++ queue.arrivals.entries).Perm
    (queue.removed operation ++ (queue.step operation).arrivals.entries)
  destroyed : (queue.step operation).destroyed =
    queue.refused operation ++ (queue.evicted operation).map Prod.snd ++ queue.destroyed
  dropped : (queue.step operation).totalDropped =
    queue.totalDropped + (queue.evicted operation).length

def AnyTwo (_ _ : Message) : Prop := True

instance : DecidableRel AnyTwo := fun _ _ => inferInstanceAs (Decidable True)

/-- Each message that an operation evicts is older than those that are evicted after it and those
that stay. -/
def DropsOldest (queue : PriorityQueue arrivalHeap) (operation : Operation) : Prop :=
  BinaryHeap.InOrder AnyTwo (queue.evicted operation) (queue.step operation).arrivals.entries

instance DropsOldest.decidable (queue : PriorityQueue arrivalHeap) (operation : Operation) :
    Decidable (queue.DropsOldest operation) :=
  inferInstanceAs (Decidable (BinaryHeap.InOrder ..))

/-- The states in which an operation evicts a message, for the policy DROP_OLDEST. -/
def evictsFrom (queue : PriorityQueue arrivalHeap) : Operation → List (PriorityQueue arrivalHeap)
  | .push _ (some _) =>
    if queue.isShutdown = false ∧ queue.maxSize ≤ queue.size ∧ 0 < queue.size then [queue] else []
  | .setMaxSize maxSize =>
    (List.range (queue.size - maxSize)).map fun rounds =>
      shrinkUpTo rounds { queue with maxSize := maxSize }
  | _ => []

/-- Whenever an operation evicts a message, the front of the vector is the oldest message. -/
def FrontsOldest (queue : PriorityQueue arrivalHeap) (operation : Operation) : Prop :=
  ∀ state ∈ queue.evictsFrom operation, BinaryHeap.FrontOldest AnyTwo state.arrivals.entries

section Evictions

variable {queue : PriorityQueue arrivalHeap} {operation : Operation}
  {operations : List Operation} {priority : Priority} {gone : List (Nat × Message)}

/-- Messages are taken from the front of the vector, destroyed and counted as dropped. -/
structure Evicts (before after : PriorityQueue arrivalHeap) (gone : List (Nat × Message)) :
    Prop where
  popped : after.arrivals.popped = gone ++ before.arrivals.popped
  next : after.arrivals.next = before.arrivals.next
  kept : before.arrivals.entries.Perm (gone ++ after.arrivals.entries)
  destroyed : after.destroyed = gone.map Prod.snd ++ before.destroyed
  dropped : after.totalDropped = before.totalDropped + gone.length

theorem Evicts.refl (queue : PriorityQueue arrivalHeap) : Evicts queue queue [] :=
  ⟨rfl, rfl, List.Perm.refl _, rfl, rfl⟩

theorem Evicts.trans {first second third : PriorityQueue arrivalHeap} {later : List (Nat × Message)}
    (before : Evicts first second gone) (after : Evicts second third later) :
    Evicts first third (later ++ gone) where
  popped := by rw [after.popped, before.popped, List.append_assoc]
  next := after.next.trans before.next
  kept := by
    have perm := before.kept.trans (after.kept.append_left gone)
    rw [← List.append_assoc] at perm
    exact perm.trans (List.perm_append_comm.append_right _)
  destroyed := by
    rw [after.destroyed, before.destroyed, List.map_append, List.append_assoc]
  dropped := by
    rw [after.dropped, before.dropped, List.length_append]
    omega

theorem dropTop_settings (queue : PriorityQueue arrivalHeap) :
    queue.dropTop.maxSize = queue.maxSize ∧
      queue.dropTop.overflowPolicy = queue.overflowPolicy := by
  unfold dropTop discardTop
  split
  · exact ⟨rfl, rfl⟩
  · exact ⟨rfl, rfl⟩

theorem dropTop_pops (some : 0 < queue.size) :
    ∃ entry, BinaryHeap.Numbered.Pops queue.arrivals queue.dropTop.arrivals entry ∧
      queue.dropTop.destroyed = entry.2 :: queue.destroyed := by
  cases popped : arrivalHeap.pop queue.queue with
  | none =>
    have none : queue.arrivals.entries = [] := BinaryHeap.Numbered.pop_eq_none.mp popped
    rw [size_eq_length, none] at some
    exact absurd some (Nat.lt_irrefl 0)
  | some taken =>
    obtain ⟨top, rest⟩ := taken
    obtain ⟨entry, same, pops⟩ := BinaryHeap.Numbered.pops_of_pop popped
    have outcome : queue.discardTop = destroy { queue with queue := rest } top := by
      rw [discardTop, popped]
    refine ⟨entry, ?_, ?_⟩
    · change BinaryHeap.Numbered.Pops queue.arrivals queue.discardTop.arrivals entry
      rw [outcome]
      exact pops
    · change queue.discardTop.destroyed = _
      rw [outcome, same]
      rfl

/-- One message is evicted, and it is the oldest exactly if the front is. -/
theorem dropTop_evicts (some : 0 < queue.size) :
    ∃ entry, Evicts queue queue.dropTop [entry] ∧
      (BinaryHeap.InOrder AnyTwo [entry] queue.dropTop.arrivals.entries ↔
        BinaryHeap.FrontOldest AnyTwo queue.arrivals.entries) := by
  obtain ⟨entry, pops, destroyed⟩ := dropTop_pops some
  refine ⟨entry, ⟨pops.popped, pops.next, pops.perm, destroyed, rfl⟩, ?_⟩
  obtain ⟨others, shape, perm⟩ := pops.front
  rw [inOrder_cons_iff, and_iff_right (inOrder_nil ..), shape]
  exact ⟨fun oldest later there => oldest later (perm.mem_iff.mp there),
    fun oldest later there => oldest later (perm.mem_iff.mpr there)⟩

theorem size_dropTop (some : 0 < queue.size) : queue.dropTop.size + 1 = queue.size := by
  obtain ⟨entry, pops, -⟩ := dropTop_pops some
  rw [size_eq_length, size_eq_length, pops.perm.length_eq, List.length_cons]

theorem shrinkUpTo_evicts (policy : queue.overflowPolicy = .dropOldest) {rounds : Nat}
    (enough : queue.size ≤ queue.maxSize + rounds) :
    ∃ gone, Evicts queue (queue.shrinkUpTo rounds) gone ∧
      (BinaryHeap.InOrder AnyTwo gone (queue.shrinkUpTo rounds).arrivals.entries ↔
        ∀ round < queue.size - queue.maxSize,
          BinaryHeap.FrontOldest AnyTwo (queue.shrinkUpTo round).arrivals.entries) := by
  induction rounds generalizing queue with
  | zero =>
    refine ⟨[], .refl queue, iff_of_true (inOrder_nil ..) fun round less => ?_⟩
    omega
  | succ rounds ih =>
    rw [shrinkUpTo]
    by_cases large : queue.maxSize < queue.size
    swap
    · rw [if_neg fun shrinks => large shrinks.1]
      refine ⟨[], .refl queue, iff_of_true (inOrder_nil ..) fun round less => ?_⟩
      omega
    rw [if_pos ⟨large, policy⟩]
    have some : 0 < queue.size := Nat.zero_lt_of_lt large
    have smaller := size_dropTop some
    obtain ⟨limit, same⟩ := queue.dropTop_settings
    obtain ⟨entry, first, front⟩ := dropTop_evicts some
    obtain ⟨gone, others, fronts⟩ := @ih queue.dropTop (same.trans policy) (by omega)
    refine ⟨gone ++ [entry], first.trans others, ?_⟩
    have count : queue.size - queue.maxSize = queue.dropTop.size - queue.dropTop.maxSize + 1 := by
      omega
    rw [inOrder_append_iff, ← inOrder_congr others.kept, front, fronts,
      count, Nat.forall_lt_succ_left]
    apply and_congr_right
    intro _
    apply forall₂_congr
    intro round _
    rw [shrinkUpTo, if_pos ⟨large, policy⟩]

/-! ## One operation -/

theorem removed_eq (grown : (queue.step operation).arrivals.popped = gone ++ queue.arrivals.popped)
    : queue.removed operation = gone := by
  unfold removed
  rw [grown, List.length_append, Nat.add_sub_cancel, List.take_left]

/-- An operation that returns nothing takes these messages out of the vector. -/
structure Removes (queue : PriorityQueue arrivalHeap) (operation : Operation)
    (gone : List (Nat × Message)) : Prop where
  popped : (queue.step operation).arrivals.popped = gone ++ queue.arrivals.popped
  kept : (queue.entered operation ++ queue.arrivals.entries).Perm
    (gone ++ (queue.step operation).arrivals.entries)
  destroyed : (queue.step operation).destroyed =
    queue.refused operation ++ gone.map Prod.snd ++ queue.destroyed
  dropped : (queue.step operation).totalDropped = queue.totalDropped + gone.length
  order : BinaryHeap.InOrder AnyTwo gone (queue.step operation).arrivals.entries ↔
    queue.FrontsOldest operation

theorem Removes.accounted (removes : Removes queue operation gone)
    (evicts : queue.evicted operation = queue.removed operation) :
    queue.Accounted operation ∧ (queue.DropsOldest operation ↔ queue.FrontsOldest operation) := by
  have removed := removed_eq removes.popped
  have evicted := evicts.trans removed
  refine ⟨⟨?_, ?_, ?_⟩, ?_⟩
  · rw [removed]
    exact removes.kept
  · rw [evicted]
    exact removes.destroyed
  · rw [evicted]
    exact removes.dropped
  · unfold DropsOldest
    rw [evicted]
    exact removes.order

/-- How a push of the policy DROP_OLDEST ends. -/
inductive Outcome (queue : PriorityQueue arrivalHeap) (now : Nat) (message : Message) : Prop where
  | refused (outcome : queue.push now (some message) = (false, queue.destroy
        (if queue.isShutdown then message else { message with queueEntryTime := now })))
      (calm : queue.evictsFrom (.push now (some message)) = [])
  | entered (outcome : queue.push now (some message) =
        (true, queue.insert { message with queueEntryTime := now }))
      (calm : queue.evictsFrom (.push now (some message)) = [])
  | evicted (waiting : 0 < queue.size)
      (outcome : queue.push now (some message) =
        (true, queue.dropTop.insert { message with queueEntryTime := now }))
      (once : queue.evictsFrom (.push now (some message)) = [queue])

theorem push_outcome (policy : queue.overflowPolicy = .dropOldest) (now : Nat) (message : Message) :
    Outcome queue now message := by
  by_cases closed : queue.isShutdown = true
  · apply Outcome.refused
    · rw [push, if_pos closed, if_pos closed]
    · exact if_neg fun evicts => Bool.false_ne_true (evicts.1.symm.trans closed)
  have opened : queue.isShutdown = false := Bool.eq_false_iff.mpr closed
  by_cases full : queue.maxSize ≤ queue.size
  swap
  · apply Outcome.entered
    · rw [push, if_neg closed]
      exact if_neg full
    · exact if_neg fun evicts => full evicts.2.1
  by_cases waiting : 0 < queue.size
  · apply Outcome.evicted waiting
    · simp only [push, handleOverflow, opened, full, policy, waiting, and_self, if_true,
        Bool.false_eq_true, if_false]
    · exact if_pos ⟨opened, full, waiting⟩
  · apply Outcome.refused
    · simp only [push, handleOverflow, opened, full, policy, waiting, and_false, if_true,
        Bool.false_eq_true, if_false]
    · exact if_neg fun evicts => waiting evicts.2.2

theorem frontsOldest_nil (calm : queue.evictsFrom operation = []) :
    queue.FrontsOldest operation := by
  intro state member
  rw [calm] at member
  cases member

section Push

variable {now : Nat} {message : Message}

theorem refused_removes (outcome : queue.push now (some message) = (false, queue.destroy
      (if queue.isShutdown then message else { message with queueEntryTime := now })))
    (calm : queue.evictsFrom (.push now (some message)) = []) :
    Removes queue (.push now (some message)) [] := by
  have after : queue.step (.push now (some message)) = queue.destroy
      (if queue.isShutdown then message else { message with queueEntryTime := now }) :=
    congrArg Prod.snd outcome
  refine ⟨?_, ?_, ?_, ?_, iff_of_true (inOrder_nil ..) (frontsOldest_nil calm)⟩
  · rw [after]
    rfl
  · rw [after, entered, outcome]
    exact List.Perm.refl _
  · rw [after, refused, outcome]
    cases queue.isShutdown with
    | true => rfl
    | false => rfl
  · rw [after]
    rfl

theorem entered_removes (outcome : queue.push now (some message) =
      (true, queue.insert { message with queueEntryTime := now }))
    (calm : queue.evictsFrom (.push now (some message)) = []) :
    Removes queue (.push now (some message)) [] := by
  have after : queue.step (.push now (some message)) =
      queue.insert { message with queueEntryTime := now } := congrArg Prod.snd outcome
  refine ⟨?_, ?_, ?_, ?_, iff_of_true (inOrder_nil ..) (frontsOldest_nil calm)⟩
  · rw [after]
    rfl
  · rw [after, entered, outcome]
    exact (queue.arrivals.entries_push_perm _).symm
  · rw [after, refused, outcome]
    rfl
  · rw [after]
    rfl

/-- A push that makes room evicts the front. Its own message comes later than all others. -/
theorem evicted_removes (waiting : 0 < queue.size) (outcome : queue.push now (some message) =
      (true, queue.dropTop.insert { message with queueEntryTime := now }))
    (once : queue.evictsFrom (.push now (some message)) = [queue]) :
    ∃ entry, Removes queue (.push now (some message)) [entry] := by
  have after : queue.step (.push now (some message)) =
      queue.dropTop.insert { message with queueEntryTime := now } := congrArg Prod.snd outcome
  obtain ⟨entry, evicts, front⟩ := dropTop_evicts waiting
  have perm : (queue.step (.push now (some message))).arrivals.entries.Perm
      ((queue.arrivals.next, { message with queueEntryTime := now }) ::
        queue.dropTop.arrivals.entries) := by
    rw [after, ← evicts.next]
    exact queue.dropTop.arrivals.entries_push_perm _
  refine ⟨entry, ?_, ?_, ?_, ?_, ?_⟩
  · rw [after]
    exact evicts.popped
  · rw [entered, outcome]
    exact ((evicts.kept.cons _).trans (List.Perm.swap ..)).trans (perm.symm.cons entry)
  · rw [after, refused, outcome]
    exact evicts.destroyed
  · rw [after]
    exact evicts.dropped
  · have fresh : ∀ earlier ∈ [entry], earlier.1 < queue.arrivals.next := by
      intro earlier member
      rw [List.mem_singleton.mp member]
      have there : entry ∈ queue.arrivals.entries := evicts.kept.mem_iff.mpr (List.mem_cons_self ..)
      exact queue.arrivals.arrived.fresh entry (List.mem_append_right _ there)
    unfold FrontsOldest
    rw [inOrder_congr perm, inOrder_later_iff fresh, front, once, List.forall_mem_singleton]

end Push

theorem push_accounted (policy : queue.overflowPolicy = .dropOldest) (now : Nat)
    (message : Option Message) :
    queue.Accounted (.push now message) ∧
      (queue.DropsOldest (.push now message) ↔ queue.FrontsOldest (.push now message)) := by
  cases message with
  | none =>
    have none : Removes queue (.push now none) [] :=
      ⟨rfl, List.Perm.refl _, rfl, rfl,
        iff_of_true (inOrder_nil ..) (frontsOldest_nil rfl)⟩
    exact none.accounted rfl
  | some message =>
    rcases push_outcome policy now message with
      ⟨outcome, calm⟩ | ⟨outcome, calm⟩ | ⟨waiting, outcome, once⟩
    · exact (refused_removes outcome calm).accounted rfl
    · exact (entered_removes outcome calm).accounted rfl
    · obtain ⟨entry, removes⟩ := evicted_removes waiting outcome once
      exact removes.accounted rfl

theorem setMaxSize_accounted (policy : queue.overflowPolicy = .dropOldest) (maxSize : Nat) :
    queue.Accounted (.setMaxSize maxSize) ∧
      (queue.DropsOldest (.setMaxSize maxSize) ↔ queue.FrontsOldest (.setMaxSize maxSize)) := by
  obtain ⟨gone, evicts, fronts⟩ := @shrinkUpTo_evicts { queue with maxSize := maxSize } policy
    queue.size (Nat.le_add_left ..)
  have removes : Removes queue (.setMaxSize maxSize) gone := by
    refine ⟨evicts.popped, evicts.kept, evicts.destroyed, evicts.dropped, fronts.trans ?_⟩
    unfold FrontsOldest evictsFrom
    rw [List.forall_mem_map]
    simp only [List.mem_range]
    rfl
  exact removes.accounted rfl

/-- Taking a message destroys nothing, counts nothing as dropped and keeps the policy. -/
theorem tryPop_frame (queue : PriorityQueue arrivalHeap) :
    queue.tryPop.2.destroyed = queue.destroyed ∧
      queue.tryPop.2.totalDropped = queue.totalDropped ∧
      queue.tryPop.2.overflowPolicy = queue.overflowPolicy := by
  unfold tryPop
  split
  · exact ⟨rfl, rfl, rfl⟩
  · exact ⟨rfl, rfl, rfl⟩

theorem tryPop_accounted (queue : PriorityQueue arrivalHeap) :
    queue.Accounted .tryPop ∧ (queue.DropsOldest .tryPop ↔ queue.FrontsOldest .tryPop) := by
  obtain ⟨destroyed, dropped, -⟩ := queue.tryPop_frame
  refine ⟨⟨?_, destroyed, dropped⟩,
    iff_of_true (inOrder_nil ..) (frontsOldest_nil rfl)⟩
  rcases queue.tryPop_cases with none | ⟨entry, pops, -⟩
  · have same : (queue.step .tryPop).arrivals = queue.arrivals :=
      congrArg (fun result => result.2.arrivals) none
    have removed : queue.removed .tryPop = [] := by
      apply removed_eq
      rw [same]
      rfl
    rw [removed, same]
    exact List.Perm.refl _
  · have removed : queue.removed .tryPop = [entry] := removed_eq pops.popped
    rw [removed]
    exact pops.perm

theorem Operation.Fills.accounted (fills : operation.Fills)
    (policy : queue.overflowPolicy = .dropOldest) :
    queue.Accounted operation ∧ (queue.DropsOldest operation ↔ queue.FrontsOldest operation) := by
  cases operation with
  | push now message => exact push_accounted policy now message
  | pop =>
    obtain ⟨accounted, oldest⟩ := queue.tryPop_accounted
    exact ⟨⟨accounted.kept, accounted.destroyed, accounted.dropped⟩, oldest⟩
  | tryPop => exact queue.tryPop_accounted
  | setMaxSize maxSize => exact setMaxSize_accounted policy maxSize
  | clear => cases fills
  | setOverflowPolicy policy => cases fills
  | shutdown => cases fills

theorem shrinkUpTo_policy (rounds : Nat) (queue : PriorityQueue arrivalHeap) :
    (queue.shrinkUpTo rounds).overflowPolicy = queue.overflowPolicy := by
  induction rounds generalizing queue with
  | zero => rfl
  | succ rounds ih =>
    rw [shrinkUpTo]
    split
    · exact (ih queue.dropTop).trans queue.dropTop_settings.2
    · rfl

theorem Operation.Fills.policy (fills : operation.Fills)
    (policy : queue.overflowPolicy = .dropOldest) :
    (queue.step operation).overflowPolicy = .dropOldest := by
  cases operation with
  | push now message =>
    cases message with
    | none => exact policy
    | some message =>
      change (queue.push now (some message)).2.overflowPolicy = _
      rcases push_outcome policy now message with
        ⟨outcome, -⟩ | ⟨outcome, -⟩ | ⟨-, outcome, -⟩
      · rw [outcome]
        exact policy
      · rw [outcome]
        exact policy
      · rw [outcome]
        exact queue.dropTop_settings.2.trans policy
  | pop => exact queue.tryPop_frame.2.2.trans policy
  | tryPop => exact queue.tryPop_frame.2.2.trans policy
  | setMaxSize maxSize => exact (shrinkUpTo_policy ..).trans policy
  | clear => cases fills
  | setOverflowPolicy policy => cases fills
  | shutdown => cases fills

/-! ## One priority -/

section

variable (ordered : Sorted priority queue)
include ordered

theorem Sorted.dropTop (waiting : 0 < queue.size) (few : queue.size < 4) :
    Sorted priority queue.dropTop := by
  obtain ⟨entry, pops, -⟩ := dropTop_pops waiting
  exact ordered.pop_few pops few

theorem Sorted.shrinkUpTo (few : queue.size < 4) (rounds : Nat) :
    Sorted priority (queue.shrinkUpTo rounds) := by
  induction rounds generalizing queue with
  | zero => exact ordered
  | succ rounds ih =>
    rw [PriorityQueue.shrinkUpTo]
    split
    · rename_i shrinks
      have waiting : 0 < queue.size := Nat.zero_lt_of_lt shrinks.1
      have smaller := size_dropTop waiting
      exact ih (ordered.dropTop waiting few) (by omega)
    · exact ordered

/-- As long as a queue of one priority has at most three messages, they stay in order. -/
theorem Sorted.step (fills : operation.Fills) (policy : queue.overflowPolicy = .dropOldest)
    (pushes : queue.Pushes priority operation) (few : queue.size < 4) :
    Sorted priority (queue.step operation) := by
  have popped : Sorted priority queue.tryPop.2 := by
    rcases queue.tryPop_cases with none | ⟨entry, pops, -⟩
    · exact ordered.still (congrArg (fun result => result.2.arrivals) none)
    · exact ordered.pop_few pops few
  cases operation with
  | push now message =>
    cases message with
    | none => exact ordered
    | some message =>
      have given : { message with queueEntryTime := now }.priority = priority := pushes message rfl
      change Sorted priority (queue.push now (some message)).2
      rcases push_outcome policy now message with
        ⟨outcome, -⟩ | ⟨outcome, -⟩ | ⟨waiting, outcome, -⟩
      · rw [outcome]
        exact ordered.still rfl
      · rw [outcome]
        exact ordered.push given rfl
      · rw [outcome]
        exact (ordered.dropTop waiting few).push given rfl
  | pop => exact popped
  | tryPop => exact popped
  | setMaxSize maxSize =>
    have resized : Sorted priority { queue with maxSize := maxSize } := ordered.still rfl
    exact resized.shrinkUpTo few _
  | clear => cases fills
  | setOverflowPolicy policy => cases fills
  | shutdown => cases fills

end

end Evictions

end PriorityQueue

end FixGateway.Utils
