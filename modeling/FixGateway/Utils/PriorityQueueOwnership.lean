import FixGateway.Utils.PriorityQueue
import Mathlib.Algebra.Order.Group.Multiset

/-! # Who owns a message of the priority queue

A message that is given to `push` is queued, handed out by a pop or destroyed. `Custody`
follows all messages through a run. A push under the policy BLOCK that finds the queue full
waits, and its message belongs to the waiting call until the wait is over: other operations
can come in between, and some of them change the policy or the size.

The queue writes the entry time into a message, so messages are compared apart from it. Two
messages with the same contents are told apart by counting them.
-/

namespace FixGateway.Common

/-- A message apart from its entry time. -/
def Message.unstamped (message : Message) : Message := { message with queueEntryTime := 0 }

end FixGateway.Common

namespace FixGateway.Utils

open Application Common

namespace PriorityQueue

variable {heap : MaxContainer messagePriorityComparator}

/-- A push has to wait. -/
def Blocks (queue : PriorityQueue heap) : Prop :=
  queue.isShutdown = false ∧ queue.maxSize ≤ queue.size ∧ queue.overflowPolicy = .block

instance (queue : PriorityQueue heap) : Decidable queue.Blocks :=
  inferInstanceAs (Decidable (_ ∧ _ ∧ _))

/-- A push is refused and counted as dropped. -/
def Refuses (queue : PriorityQueue heap) : Prop :=
  queue.isShutdown = false ∧ queue.maxSize ≤ queue.size ∧
    (queue.overflowPolicy = .dropNewest ∨ queue.overflowPolicy = .reject)

instance (queue : PriorityQueue heap) : Decidable queue.Refuses :=
  inferInstanceAs (Decidable (_ ∧ _ ∧ _))

/-- A push is accepted at once. -/
def Accepts (queue : PriorityQueue heap) : Prop :=
  queue.isShutdown = false ∧
    (queue.size < queue.maxSize ∨ queue.overflowPolicy = .dropOldest ∧ 0 < queue.size)

/-- The end of a push that has waited: with room, after a shutdown, or because of the timeout. -/
def wake (queue : PriorityQueue heap) (message : Message) : Bool × PriorityQueue heap :=
  let success := queue.size < queue.maxSize ∨ queue.isShutdown
  if ¬ success ∨ queue.isShutdown then (false, queue.destroy message)
  else (true, queue.insert message)

/-! ## What the operations destroy -/

/-- Messages are taken out of the queue and destroyed. -/
structure Discards (before after : PriorityQueue heap) (gone : List Message) : Prop where
  messages : before.messages = (gone : Multiset Message) + after.messages
  destroyed : after.destroyed = gone ++ before.destroyed
  pushed : after.totalPushed = before.totalPushed
  popped : after.totalPopped = before.totalPopped

/-- The message is destroyed instead of being queued. -/
structure Fails (before after : PriorityQueue heap) (message : Message) : Prop where
  messages : after.messages = before.messages
  destroyed : after.destroyed = message :: before.destroyed
  pushed : after.totalPushed = before.totalPushed
  popped : after.totalPopped = before.totalPopped

section Operations

variable {queue : PriorityQueue heap}

theorem Discards.refl (queue : PriorityQueue heap) : Discards queue queue [] :=
  ⟨(zero_add _).symm, rfl, rfl, rfl⟩

theorem Discards.trans {first second third : PriorityQueue heap} {gone later : List Message}
    (before : Discards first second gone) (after : Discards second third later) :
    Discards first third (later ++ gone) where
  messages := by
    rw [before.messages, after.messages, ← Multiset.coe_add]
    abel
  destroyed := by rw [after.destroyed, before.destroyed, List.append_assoc]
  pushed := after.pushed.trans before.pushed
  popped := after.popped.trans before.popped

theorem discardTop_discards (some : 0 < queue.size) :
    ∃ top, Discards queue queue.discardTop [top] ∧
      queue.discardTop.totalDropped = queue.totalDropped := by
  unfold discardTop
  split
  · rename_i none
    rw [size, messages, heap.contents_of_pop_none none] at some
    exact absurd some (Nat.lt_irrefl 0)
  · rename_i top rest popped
    exact ⟨top, ⟨heap.contents_of_pop popped, rfl, rfl, rfl⟩, rfl⟩

theorem dropTop_discards (some : 0 < queue.size) : ∃ top, Discards queue queue.dropTop [top] := by
  obtain ⟨top, discards, -⟩ := discardTop_discards some
  exact ⟨top, discards.messages, discards.destroyed, discards.pushed, discards.popped⟩

theorem clearUpTo_discards (rounds : Nat) (queue : PriorityQueue heap) :
    ∃ gone, Discards queue (queue.clearUpTo rounds) gone ∧
      (queue.clearUpTo rounds).totalDropped = queue.totalDropped := by
  induction rounds generalizing queue with
  | zero => exact ⟨[], .refl queue, rfl⟩
  | succ rounds ih =>
    rw [clearUpTo]
    split
    · rename_i some
      obtain ⟨top, first, kept⟩ := discardTop_discards some
      obtain ⟨gone, rest, same⟩ := ih queue.discardTop
      exact ⟨gone ++ [top], first.trans rest, same.trans kept⟩
    · exact ⟨[], .refl queue, rfl⟩

theorem shrinkUpTo_discards (rounds : Nat) (queue : PriorityQueue heap) :
    ∃ gone, Discards queue (queue.shrinkUpTo rounds) gone ∧
      (queue.shrinkUpTo rounds).totalDropped = queue.totalDropped + gone.length := by
  induction rounds generalizing queue with
  | zero => exact ⟨[], .refl queue, rfl⟩
  | succ rounds ih =>
    rw [shrinkUpTo]
    split
    · rename_i full
      obtain ⟨top, first⟩ := dropTop_discards (Nat.zero_lt_of_lt full.1)
      obtain ⟨gone, rest, counted⟩ := ih queue.dropTop
      refine ⟨gone ++ [top], first.trans rest, ?_⟩
      rw [counted, List.length_append]
      change queue.totalDropped + 1 + gone.length = queue.totalDropped + (gone.length + 1)
      omega
    · exact ⟨[], .refl queue, rfl⟩

/-- How a push ends: its message is destroyed, or it is queued after others made room for it. -/
inductive PushEnds (queue : PriorityQueue heap) (message : Message) (refused : Nat) :
    Bool × PriorityQueue heap → Prop where
  | failed {after : PriorityQueue heap} (fails : Fails queue after message)
      (dropped : after.totalDropped = queue.totalDropped + refused) :
      PushEnds queue message refused (false, after)
  | queued {room : PriorityQueue heap} {gone : List Message} (discards : Discards queue room gone)
      (dropped : room.totalDropped = queue.totalDropped + gone.length) (accepted : refused = 0) :
      PushEnds queue message refused (true, room.insert message)

theorem fails_destroy (queue : PriorityQueue heap) (message : Message) :
    Fails queue (queue.destroy message) message :=
  ⟨rfl, rfl, rfl, rfl⟩

theorem not_refuses_of_policy (keeps : queue.overflowPolicy ≠ .dropNewest)
    (admits : queue.overflowPolicy ≠ .reject) : ¬ queue.Refuses := by
  rintro ⟨-, -, newest | reject⟩
  · exact keeps newest
  · exact admits reject

theorem push_ends (queue : PriorityQueue heap) (now : Nat) (message : Message) :
    ∃ stamped : Message, stamped.unstamped = message.unstamped ∧
      PushEnds queue stamped (if queue.Refuses then 1 else 0) (queue.push now (some message)) := by
  by_cases closed : queue.isShutdown = true
  · refine ⟨message, rfl, ?_⟩
    rw [push, if_pos closed, if_neg fun refuses => by rw [refuses.1] at closed; cases closed]
    exact .failed (fails_destroy queue message) rfl
  · refine ⟨{ message with queueEntryTime := now }, rfl, ?_⟩
    have opened : queue.isShutdown = false := Bool.eq_false_iff.mpr closed
    rw [push, if_neg closed]
    dsimp only
    by_cases full : queue.maxSize ≤ queue.size
    swap
    · rw [if_neg full, if_neg fun refuses => full refuses.2.1]
      exact .queued (.refl queue) rfl rfl
    rw [if_pos full]
    cases policy : queue.overflowPolicy with
    | dropOldest =>
      rw [if_neg (not_refuses_of_policy (by rw [policy]; rintro ⟨⟩)
        (by rw [policy]; rintro ⟨⟩))]
      by_cases some : 0 < queue.size
      · obtain ⟨top, discards⟩ := dropTop_discards some
        rw [handleOverflow, if_pos ⟨policy, some⟩]
        exact .queued discards rfl rfl
      · rw [handleOverflow, if_neg fun room => some room.2]
        exact .failed (fails_destroy queue _) rfl
    | dropNewest =>
      rw [if_pos ⟨opened, full, .inl policy⟩]
      exact .failed ⟨rfl, rfl, rfl, rfl⟩ rfl
    | reject =>
      rw [if_pos ⟨opened, full, .inr policy⟩]
      exact .failed ⟨rfl, rfl, rfl, rfl⟩ rfl
    | block =>
      rw [if_neg (not_refuses_of_policy (by rw [policy]; rintro ⟨⟩)
        (by rw [policy]; rintro ⟨⟩))]
      exact .failed (fails_destroy queue _) rfl

theorem push_accepted_iff (queue : PriorityQueue heap) (now : Nat) (message : Message) :
    (queue.push now (some message)).1 = true ↔ queue.Accepts := by
  unfold push Accepts
  cases queue.isShutdown with
  | true => simp
  | false =>
    by_cases full : queue.maxSize ≤ queue.size
    · have none : ¬ queue.size < queue.maxSize := Nat.not_lt_of_le full
      cases policy : queue.overflowPolicy with
      | dropOldest =>
        by_cases some : 0 < queue.size
        · simp [full, none, handleOverflow, policy, some]
        · simp [full, none, handleOverflow, some]
      | dropNewest => simp [full, none]
      | reject => simp [full, none]
      | block => simp [full, none]
    · simp [full, Nat.lt_of_not_le full]

theorem wake_accepted_iff (queue : PriorityQueue heap) (message : Message) :
    (queue.wake message).1 = true ↔ queue.size < queue.maxSize ∧ queue.isShutdown = false := by
  unfold wake
  cases queue.isShutdown with
  | true => simp
  | false =>
    by_cases room : queue.size < queue.maxSize
    · simp [room]
    · simp [room]

theorem wake_ends (queue : PriorityQueue heap) (message : Message) :
    PushEnds queue message 0 (queue.wake message) := by
  unfold wake
  dsimp only
  split
  · exact .failed (fails_destroy queue message) rfl
  · exact .queued (.refl queue) rfl rfl

end Operations

end PriorityQueue

/-- A queue with the messages that went through it. -/
structure Custody (heap : MaxContainer messagePriorityComparator) where
  queue : PriorityQueue heap
  /-- The messages of the pushes that wait for room. -/
  waiting : Multiset Message := 0
  /-- History variables: the messages given to `push`, those that a pop has returned, those whose
  push has returned false, those removed to make room, and those removed by `clear`. -/
  given : Multiset Message := 0
  handedOut : Multiset Message := 0
  failed : Multiset Message := 0
  evicted : Multiset Message := 0
  cleared : Multiset Message := 0
  /-- The number of pushes that the policies DROP_NEWEST and REJECT have refused. -/
  refused : Nat := 0

namespace Custody

open PriorityQueue

variable {heap : MaxContainer messagePriorityComparator}

inductive Move where
  | operate (operation : Operation)
  /-- The wait of a push is over. -/
  | wake (message : Message)
  deriving DecidableEq, Repr

/-- What was destroyed on the way from one queue to another. -/
def newlyDestroyed (before after : PriorityQueue heap) : Multiset Message :=
  (after.destroyed : Multiset Message) - before.destroyed

/-- A push of the message returns. What it destroys when it succeeds made room for it. -/
def finishPush (custody : Custody heap) (message : Message)
    (result : Bool × PriorityQueue heap) : Custody heap :=
  if result.1 then
    { custody with
      queue := result.2
      evicted := newlyDestroyed custody.queue result.2 + custody.evicted }
  else { custody with queue := result.2, failed := message ::ₘ custody.failed }

/-- A pop returns. -/
def finishPop (custody : Custody heap) (result : Option Message × PriorityQueue heap) :
    Custody heap :=
  { custody with
    queue := result.2
    handedOut := result.1.elim custody.handedOut (· ::ₘ custody.handedOut) }

def step (custody : Custody heap) : Move → Custody heap
  | .operate (.push now none) => { custody with queue := (custody.queue.push now none).2 }
  | .operate (.push now (some message)) =>
    let custody := { custody with given := message ::ₘ custody.given }
    if custody.queue.Blocks then
      { custody with waiting := { message with queueEntryTime := now } ::ₘ custody.waiting }
    else
      let refused := if custody.queue.Refuses then custody.refused + 1 else custody.refused
      finishPush { custody with refused } message (custody.queue.push now (some message))
  | .operate .pop => custody.finishPop custody.queue.pop
  | .operate .tryPop => custody.finishPop custody.queue.tryPop
  | .operate .clear =>
    { custody with
      queue := custody.queue.clear
      cleared := newlyDestroyed custody.queue custody.queue.clear + custody.cleared }
  | .operate (.setMaxSize maxSize) =>
    { custody with
      queue := custody.queue.setMaxSize maxSize
      evicted :=
        newlyDestroyed custody.queue (custody.queue.setMaxSize maxSize) + custody.evicted }
  | .operate (.setOverflowPolicy policy) =>
    { custody with queue := custody.queue.setOverflowPolicy policy }
  | .operate .shutdown => { custody with queue := custody.queue.shutdown }
  | .wake message =>
    if message ∈ custody.waiting then
      finishPush { custody with waiting := custody.waiting.erase message } message
        (custody.queue.wake message)
    else custody

/-- A queue as the constructor makes it, with any size and policy. -/
def Initial (custody : Custody heap) : Prop :=
  custody.queue = { maxSize := custody.queue.maxSize
                    overflowPolicy := custody.queue.overflowPolicy } ∧
    custody = { queue := custody.queue }

/-- The balance of a run. -/
structure Balanced (custody : Custody heap) : Prop where
  /-- A message given to `push` is queued, handed out, destroyed or waits to be queued. -/
  owned : custody.given.map Message.unstamped =
    (custody.queue.messages + custody.handedOut + custody.queue.destroyed +
      custody.waiting).map Message.unstamped
  /-- A message is destroyed when its push fails, or when it is removed from the queue. -/
  destroyed : (custody.queue.destroyed : Multiset Message).map Message.unstamped =
    (custody.failed + custody.evicted + custody.cleared).map Message.unstamped
  popped : custody.queue.totalPopped = custody.handedOut.card
  pushed : custody.queue.totalPushed = custody.queue.totalPopped + custody.queue.size +
    (custody.evicted + custody.cleared).card
  dropped : custody.queue.totalDropped = custody.evicted.card + custody.refused

/-! ## The balance of a run -/

section Balance

variable {custody : Custody heap} {after : PriorityQueue heap} {gone : List Message}
  {message stamped : Message} {refused : Nat}

theorem newlyDestroyed_of_destroyed {before : PriorityQueue heap}
    (destroyed : after.destroyed = gone ++ before.destroyed) :
    newlyDestroyed before after = gone := by
  rw [newlyDestroyed, destroyed, ← Multiset.coe_add]
  exact add_tsub_cancel_right _ _

theorem insert_messages (queue : PriorityQueue heap) (message : Message) :
    (queue.insert message).messages = message ::ₘ queue.messages :=
  heap.contents_push queue.queue message

/-- All is balanced but for one message, whose push has not returned, and for the refusals that
this push adds. -/
structure Owes (custody : Custody heap) (message : Message) (refused : Nat) : Prop where
  owned : custody.given.map Message.unstamped =
    message.unstamped ::ₘ (custody.queue.messages + custody.handedOut + custody.queue.destroyed +
      custody.waiting).map Message.unstamped
  destroyed : (custody.queue.destroyed : Multiset Message).map Message.unstamped =
    (custody.failed + custody.evicted + custody.cleared).map Message.unstamped
  popped : custody.queue.totalPopped = custody.handedOut.card
  pushed : custody.queue.totalPushed = custody.queue.totalPopped + custody.queue.size +
    (custody.evicted + custody.cleared).card
  dropped : custody.queue.totalDropped + refused = custody.evicted.card + custody.refused

theorem Owes.fails (owes : custody.Owes message refused)
    (same : stamped.unstamped = message.unstamped) (fails : Fails custody.queue after stamped)
    (dropped : after.totalDropped = custody.queue.totalDropped + refused) :
    Balanced { custody with queue := after, failed := message ::ₘ custody.failed } := by
  have owned := owes.owned
  have destroyed := owes.destroyed
  constructor
  · dsimp only
    rw [fails.messages, fails.destroyed, ← Multiset.cons_coe]
    simp only [Multiset.map_add, Multiset.map_cons, same] at owned ⊢
    rw [owned]
    simp only [← Multiset.singleton_add]
    abel
  · dsimp only
    rw [fails.destroyed, ← Multiset.cons_coe]
    simp only [Multiset.map_add, Multiset.map_cons, same] at destroyed ⊢
    rw [destroyed]
    simp only [← Multiset.singleton_add]
    abel
  · exact fails.popped.trans owes.popped
  · dsimp only
    rw [fails.pushed, fails.popped, size, fails.messages]
    exact owes.pushed
  · exact dropped.trans owes.dropped

/-- A push that succeeds queues its message, after others made room for it. -/
theorem Owes.queues {room : PriorityQueue heap} (owes : custody.Owes message 0)
    (same : stamped.unstamped = message.unstamped) (discards : Discards custody.queue room gone)
    (dropped : room.totalDropped = custody.queue.totalDropped + gone.length) :
    Balanced { custody with queue := room.insert stamped, evicted := gone + custody.evicted } := by
  have owned := owes.owned
  have destroyed := owes.destroyed
  have pushed := owes.pushed
  rw [size, discards.messages, Multiset.card_add, Multiset.coe_card] at pushed
  rw [discards.messages] at owned
  constructor
  · change _ = Multiset.map _ (_ + _ + (room.destroyed : Multiset Message) + _)
    rw [insert_messages, discards.destroyed, ← Multiset.coe_add]
    simp only [Multiset.map_add, Multiset.map_cons, same] at owned ⊢
    rw [owned]
    simp only [← Multiset.singleton_add]
    abel
  · change Multiset.map _ (room.destroyed : Multiset Message) = _
    rw [discards.destroyed, ← Multiset.coe_add]
    simp only [Multiset.map_add] at destroyed ⊢
    rw [destroyed]
    abel
  · exact discards.popped.trans owes.popped
  · change room.totalPushed + 1 = room.totalPopped + _ + _
    rw [size, insert_messages, discards.pushed, discards.popped, pushed]
    simp only [Multiset.card_cons, Multiset.card_add, Multiset.coe_card]
    omega
  · change room.totalDropped = _ + custody.refused
    have counted := owes.dropped
    rw [dropped, Multiset.card_add, Multiset.coe_card]
    omega

theorem Owes.finishPush {result : Bool × PriorityQueue heap} (owes : custody.Owes message refused)
    (same : stamped.unstamped = message.unstamped)
    (ends : PushEnds custody.queue stamped refused result) :
    (custody.finishPush message result).Balanced := by
  cases ends with
  | failed fails dropped => exact owes.fails same fails dropped
  | @queued room gone discards dropped accepted =>
    subst accepted
    have removed : newlyDestroyed custody.queue (room.insert stamped) = gone :=
      newlyDestroyed_of_destroyed discards.destroyed
    rw [Custody.finishPush, if_pos rfl, removed]
    exact owes.queues same discards dropped

section

variable (balanced : custody.Balanced)
include balanced

theorem Balanced.finishPop : (custody.finishPop custody.queue.tryPop).Balanced := by
  unfold tryPop
  split
  · exact balanced
  · rename_i top rest popped
    have contents : custody.queue.messages = top ::ₘ heap.contents rest :=
      heap.contents_of_pop popped
    have owned := balanced.owned
    have pushed := balanced.pushed
    rw [contents] at owned
    rw [size, contents, Multiset.card_cons] at pushed
    constructor
    · change custody.given.map _ = Multiset.map _ (heap.contents rest +
        (top ::ₘ custody.handedOut) + (custody.queue.destroyed : Multiset Message) +
          custody.waiting)
      simp only [Multiset.map_add, Multiset.map_cons] at owned ⊢
      rw [owned]
      simp only [← Multiset.singleton_add]
      abel
    · exact balanced.destroyed
    · change custody.queue.totalPopped + 1 = (top ::ₘ custody.handedOut).card
      rw [Multiset.card_cons, balanced.popped]
    · change custody.queue.totalPushed = custody.queue.totalPopped + 1 +
        (heap.contents rest).card + (custody.evicted + custody.cleared).card
      rw [pushed]
      omega
    · exact balanced.dropped

/-- Messages that are removed and destroyed are counted as evicted or as cleared. -/
theorem Balanced.discard {evicted cleared : Multiset Message}
    (discards : Discards custody.queue after gone)
    (removed : evicted + cleared = custody.evicted + custody.cleared + gone)
    (dropped : after.totalDropped = evicted.card + custody.refused) :
    Balanced { custody with queue := after, evicted := evicted, cleared := cleared } := by
  have owned := balanced.owned
  have destroyed := balanced.destroyed
  have pushed := balanced.pushed
  rw [discards.messages] at owned
  rw [size, discards.messages, Multiset.card_add] at pushed
  refine ⟨?_, ?_, discards.popped.trans balanced.popped, ?_, dropped⟩
  · dsimp only
    rw [discards.destroyed, ← Multiset.coe_add]
    simp only [Multiset.map_add] at owned ⊢
    rw [owned]
    abel
  · dsimp only
    rw [discards.destroyed, ← Multiset.coe_add, add_assoc, removed]
    simp only [Multiset.map_add] at destroyed ⊢
    rw [destroyed]
    abel
  · dsimp only
    rw [discards.pushed, discards.popped, pushed, removed, size]
    simp only [Multiset.card_add]
    omega

theorem Balanced.clear : (custody.step (.operate .clear)).Balanced := by
  obtain ⟨gone, discards, kept⟩ := clearUpTo_discards custody.queue.size custody.queue
  have cleared : newlyDestroyed custody.queue custody.queue.clear = gone :=
    newlyDestroyed_of_destroyed discards.destroyed
  rw [step, cleared]
  apply balanced.discard discards
  · abel
  · exact kept.trans balanced.dropped

theorem Balanced.setMaxSize (maxSize : Nat) :
    (custody.step (.operate (.setMaxSize maxSize))).Balanced := by
  obtain ⟨gone, shrinks, counted⟩ := shrinkUpTo_discards custody.queue.size
    { custody.queue with maxSize := maxSize }
  have discards : Discards custody.queue (custody.queue.setMaxSize maxSize) gone :=
    ⟨shrinks.messages, shrinks.destroyed, shrinks.pushed, shrinks.popped⟩
  have evicted : newlyDestroyed custody.queue (custody.queue.setMaxSize maxSize) = gone :=
    newlyDestroyed_of_destroyed discards.destroyed
  have dropped : (custody.queue.setMaxSize maxSize).totalDropped =
      custody.queue.totalDropped + gone.length := counted
  rw [step, evicted]
  apply balanced.discard discards
  · abel
  · rw [dropped, balanced.dropped, Multiset.card_add, Multiset.coe_card]
    omega

theorem Balanced.wake (message : Message) : (custody.step (.wake message)).Balanced := by
  rw [step]
  split
  · rename_i member
    have owes : Owes { custody with waiting := custody.waiting.erase message } message 0 := by
      have owned := balanced.owned
      rw [← Multiset.cons_erase member] at owned
      refine ⟨?_, balanced.destroyed, balanced.popped, balanced.pushed, balanced.dropped⟩
      simp only [Multiset.map_add, Multiset.map_cons] at owned ⊢
      rw [owned]
      simp only [← Multiset.singleton_add]
      abel
    exact owes.finishPush rfl (wake_ends custody.queue message)
  · exact balanced

theorem Balanced.push (now : Nat) (pushed : Option Message) :
    (custody.step (.operate (.push now pushed))).Balanced := by
  cases pushed with
  | none => exact balanced
  | some message =>
    rw [step]
    dsimp only
    split
    · -- the message waits
      refine ⟨?_, balanced.destroyed, balanced.popped, balanced.pushed, balanced.dropped⟩
      have owned := balanced.owned
      have same : Message.unstamped { message with queueEntryTime := now } =
          message.unstamped := rfl
      simp only [Multiset.map_add, Multiset.map_cons, same] at owned ⊢
      rw [owned]
      simp only [← Multiset.singleton_add]
      abel
    · obtain ⟨stamped, same, ends⟩ := push_ends custody.queue now message
      have owes : Owes { custody with
          given := message ::ₘ custody.given
          refused := if custody.queue.Refuses then custody.refused + 1 else custody.refused }
          message (if custody.queue.Refuses then 1 else 0) := by
        refine ⟨?_, balanced.destroyed, balanced.popped, balanced.pushed, ?_⟩
        · rw [Multiset.map_cons, balanced.owned]
        · have dropped := balanced.dropped
          dsimp only
          split
          · rw [dropped, Nat.add_assoc]
          · exact dropped
      exact owes.finishPush same ends

theorem Balanced.step (move : Move) : (custody.step move).Balanced := by
  cases move with
  | wake message => exact balanced.wake message
  | operate operation =>
    cases operation with
    | push now pushed => exact balanced.push now pushed
    | pop => exact balanced.finishPop
    | tryPop => exact balanced.finishPop
    | clear => exact balanced.clear
    | setMaxSize maxSize => exact balanced.setMaxSize maxSize
    | setOverflowPolicy policy =>
      exact ⟨balanced.owned, balanced.destroyed, balanced.popped, balanced.pushed, balanced.dropped⟩
    | shutdown =>
      exact ⟨balanced.owned, balanced.destroyed, balanced.popped, balanced.pushed, balanced.dropped⟩

end

theorem Balanced.initial (initial : Initial custody) : custody.Balanced := by
  obtain ⟨fresh, unused⟩ := initial
  have empty : custody.queue.messages = 0 := by
    rw [fresh]
    exact heap.contents_empty
  have nothing : custody.queue.destroyed = [] := by rw [fresh]
  have unpushed : custody.queue.totalPushed = 0 := by rw [fresh]
  have unpopped : custody.queue.totalPopped = 0 := by rw [fresh]
  have undropped : custody.queue.totalDropped = 0 := by rw [fresh]
  rw [unused]
  constructor
  · simp [empty, nothing]
  · simp [nothing]
  · exact unpopped
  · simp [size, empty, unpushed, unpopped]
  · exact undropped

end Balance

/-! ## One message -/

/-- How many of the messages are this one, apart from the entry time. -/
def copies (messages : Multiset Message) (message : Message) : Nat :=
  (messages.map Message.unstamped).count message.unstamped

theorem copies_add (first second : Multiset Message) (message : Message) :
    copies (first + second) message = copies first message + copies second message := by
  rw [copies, Multiset.map_add, Multiset.count_add]
  rfl

/-- A message that was not queued before a push is destroyed in it exactly if the push fails. -/
theorem pushEnds_destroyed_iff {queue : PriorityQueue heap} {message stamped : Message}
    {refused : Nat} {result : Bool × PriorityQueue heap}
    (ends : PushEnds queue stamped refused result)
    (same : stamped.unstamped = message.unstamped) (fresh : copies queue.messages message = 0) :
    result.1 = false ↔ copies (newlyDestroyed queue result.2) message = 1 := by
  cases ends with
  | failed fails dropped =>
    refine iff_of_true rfl ?_
    have only : newlyDestroyed queue _ = ([stamped] : List Message) :=
      newlyDestroyed_of_destroyed fails.destroyed
    rw [only, copies]
    simp [same]
  | @queued room gone discards dropped accepted =>
    refine iff_of_false Bool.noConfusion ?_
    have only : newlyDestroyed queue (room.insert stamped) = gone :=
      newlyDestroyed_of_destroyed discards.destroyed
    rw [discards.messages, copies_add] at fresh
    rw [only]
    omega

/-- In every run of the queue, each message given to `push` is queued, handed out, destroyed or
still waits to be queued, exactly once. It is destroyed by its push exactly if the push returns
false, and otherwise only when it is removed from the queue; and the counters tell how many
messages were removed in which way. -/
theorem messages_owned_once {custody : Custody heap}
    (run : Transition.Run Initial step Transition.unrestricted custody) :
    (∀ message, copies custody.given message =
      copies custody.queue.messages message + copies custody.handedOut message +
        copies custody.queue.destroyed message + copies custody.waiting message) ∧
      (∀ message, copies custody.given message ≤ 1 → 0 < copies custody.queue.destroyed message →
        copies custody.handedOut message = 0) ∧
      (∀ message, copies custody.queue.destroyed message = copies custody.failed message +
        copies (custody.evicted + custody.cleared) message) ∧
      (∀ now message, copies custody.given message = 0 → ¬ custody.queue.Blocks →
        ((custody.queue.push now (some message)).1 = false ↔
          copies (newlyDestroyed custody.queue (custody.queue.push now (some message)).2)
            message = 1)) ∧
      (∀ message ∈ custody.waiting, copies custody.given message = 1 →
        ((custody.queue.wake message).1 = false ↔
          copies (newlyDestroyed custody.queue (custody.queue.wake message).2) message = 1)) ∧
      custody.queue.totalPushed = custody.queue.totalPopped + custody.queue.size +
        (custody.evicted + custody.cleared).card ∧
      custody.queue.totalDropped = custody.evicted.card + custody.refused := by
  have balanced : custody.Balanced := run.invariant Balanced (fun _ => Balanced.initial)
    fun _ move balanced _ => balanced.step move
  have owned : ∀ message, copies custody.given message =
      copies custody.queue.messages message + copies custody.handedOut message +
        copies custody.queue.destroyed message + copies custody.waiting message := by
    intro message
    rw [← copies_add, ← copies_add, ← copies_add]
    exact congrArg (Multiset.count message.unstamped) balanced.owned
  refine ⟨owned, fun message once destroyed => ?_, fun message => ?_,
    fun now message unused _ => ?_, fun message member once => ?_, balanced.pushed,
    balanced.dropped⟩
  · have all := owned message
    omega
  · rw [← copies_add, ← add_assoc]
    exact congrArg (Multiset.count message.unstamped) balanced.destroyed
  · obtain ⟨stamped, same, ends⟩ := push_ends custody.queue now message
    apply pushEnds_destroyed_iff ends same
    have all := owned message
    omega
  · apply pushEnds_destroyed_iff (wake_ends custody.queue message) rfl
    have all := owned message
    have waits : 0 < copies custody.waiting message :=
      Multiset.count_pos.mpr (Multiset.mem_map_of_mem _ member)
    omega

/-- An empty queue with room for one message. -/
def sampleCustody : Custody (MaxContainer.ofKey fun message : Message => message.priority.value) :=
  { queue := { sampleQueue with maxSize := 1 } }

/-- Two messages, of which the second makes room for itself. -/
def sampleMoves : List Move :=
  [.operate (.push 0 (some sampleCritical)), .operate (.push 0 (some sampleLow)), .operate .tryPop]

theorem messages_owned_once_evicting :
    let custody := Transition.execute step sampleCustody sampleMoves
    copies custody.given sampleLow =
      copies custody.queue.messages sampleLow + copies custody.handedOut sampleLow +
        copies custody.queue.destroyed sampleLow + copies custody.waiting sampleLow ∧
      custody.handedOut = {sampleLow} ∧ custody.evicted = {sampleCritical} := by
  have start : Transition.Run Initial step Transition.unrestricted sampleCustody :=
    .start ⟨rfl, rfl⟩
  have run := start.execute (Transition.permits_unrestricted step sampleCustody sampleMoves)
  exact ⟨(messages_owned_once run).1 sampleLow, by decide +kernel, by decide +kernel⟩

end Custody

end FixGateway.Utils
