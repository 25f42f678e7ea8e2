import FixGateway.Utils.RingSound
import Mathlib.Data.Fintype.Defs
import Mathlib.Data.List.Perm.Subperm

/-! # What comes out of the lock-free queue

With one producer no push is ever disturbed, so the queue is a first-in first-out
queue under every interleaving (`queue_fifo`). With several producers it loses no message
as long as their pushes do not disturb each other (`queue_lossless`); two pushes
that read the same `tail_` write the same slot, and one message is lost.
-/

namespace FixGateway.Utils.RingQueue

open ByteScan CellRing

variable {ι α : Type}

/-! ## Results of the invariant -/

section Sound

variable [DecidableEq ι] {ring : RingQueue ι α}

theorem Sound.popped_prefix (sound : ring.Sound) : ring.popped <+: ring.taken := by
  have knows := sound.consuming.knows
  cases place : ring.consumer with
  | counting message =>
    rw [place] at knows
    exact ⟨[message], knows⟩
  | idle =>
    rw [place] at knows
    exact ⟨[], (List.append_nil _).trans knows⟩
  | loading =>
    rw [place] at knows
    exact ⟨[], (List.append_nil _).trans knows⟩
  | _ =>
    rw [place] at knows
    exact ⟨[], (List.append_nil _).trans knows.1⟩

theorem Sound.pending_le (sound : ring.Sound) : ring.pending ≤ ring.capacity - 1 := by
  have room := sound.laid.holds.room
  rw [List.length_map] at room
  unfold pending
  omega

end Sound

/-! ## One producer -/

section Single

variable {ring after : RingQueue Unit α}

/-- What a lone producer knows at each point of `push`. -/
def Steady (ring : RingQueue Unit α) : PushCall α → Prop
  | .checking _ currentTail => currentTail = ring.tail
  | .writing _ currentTail => currentTail = ring.tail ∧
      ring.stored.length + 1 < ring.taken.length + ring.capacity
  | .dropping _ pending => pending = ring.capacity - 1
  | _ => True

/-- The invariant of a ring with one producer. -/
structure Single (ring : RingQueue Unit α) : Prop where
  sound : ring.Sound
  steady : ring.Steady (ring.producer ())
  full : ∀ message pending, ((), message, .full pending) ∈ ring.pushes →
    pending = ring.capacity - 1
  stopped : ∀ message, ((), message, .stopped) ∈ ring.pushes → ring.isShutdown = true

/-- What the consumer does to the state of the producers: nothing, except that it makes
room. -/
structure Consumed (ring after : RingQueue Unit α) : Prop where
  capacity : after.capacity = ring.capacity
  tail : after.tail = ring.tail
  stored : after.stored = ring.stored
  producer : after.producer = ring.producer
  pushes : after.pushes = ring.pushes
  isShutdown : after.isShutdown = ring.isShutdown
  taken : ring.taken.length ≤ after.taken.length

theorem consumed_startPop (ring : RingQueue Unit α) : Consumed ring ring.startPop := by
  unfold startPop
  split
  · split <;> exact ⟨rfl, rfl, rfl, rfl, rfl, rfl, le_refl _⟩
  · exact ⟨rfl, rfl, rfl, rfl, rfl, rfl, le_refl _⟩

theorem consumed_consume (ring : RingQueue Unit α) : Consumed ring ring.consume := by
  have taken : ∀ message, ring.taken.length ≤ (ring.taken ++ [message]).length := by
    intro message
    rw [List.length_append]
    exact Nat.le_add_right _ _
  unfold consume
  split
  · exact ⟨rfl, rfl, rfl, rfl, rfl, rfl, le_refl _⟩
  · exact ⟨rfl, rfl, rfl, rfl, rfl, rfl, le_refl _⟩
  · split <;> exact ⟨rfl, rfl, rfl, rfl, rfl, rfl, le_refl _⟩
  · exact ⟨rfl, rfl, rfl, rfl, rfl, rfl, le_refl _⟩
  · exact ⟨rfl, rfl, rfl, rfl, rfl, rfl, taken _⟩
  · exact ⟨rfl, rfl, rfl, rfl, rfl, rfl, le_refl _⟩

/-- What the producer knows stays true when the consumer makes room. -/
theorem Steady.consumed {call : PushCall α} (steady : ring.Steady call)
    (consumed : Consumed ring after) : after.Steady call := by
  cases call with
  | checking message currentTail => exact Eq.trans steady consumed.tail.symm
  | writing message currentTail =>
    obtain ⟨same, room⟩ := steady
    have taken := consumed.taken
    refine ⟨same.trans consumed.tail.symm, ?_⟩
    rw [consumed.stored, consumed.capacity]
    omega
  | dropping message pending =>
    change pending = after.capacity - 1
    rw [consumed.capacity]
    exact steady
  | _ => trivial

namespace Single

section

variable (single : ring.Single)
include single

theorem undisturbed (move : RingMove Unit α) : ring.Undisturbed move := by
  cases move with
  | produce thread =>
    intro currentTail written
    have steady := single.steady
    unfold writes at written
    split at written
    · rename_i message other writing
      cases written
      rw [writing] at steady
      obtain ⟨rfl, room⟩ := steady
      refine ⟨rfl, fun met => ?_, fun other differs => absurd rfl differs⟩
      have full := single.sound.laid.pending_of_full met
      have positive := single.sound.laid.positive
      unfold pending at full
      omega
    · cases written
  | _ => trivial

theorem consumed (consumed : Consumed ring after) (sound : after.Sound) :
    after.Single where
  sound := sound
  steady := by
    rw [consumed.producer]
    exact single.steady.consumed consumed
  full := by
    rw [consumed.pushes, consumed.capacity]
    exact single.full
  stopped := by
    rw [consumed.pushes, consumed.isShutdown]
    exact single.stopped

theorem setProducer {call : PushCall α}
    (sound : (ring.setProducer () call).Sound) (steady : ring.Steady call) :
    (ring.setProducer () call).Single where
  sound := sound
  steady := by
    rw [setProducer_self]
    cases call <;> exact steady
  full := single.full
  stopped := single.stopped

theorem returnPush {message : α} {outcome : PushOutcome}
    (pushes : after.pushes = ring.pushes ++ [((), message, outcome)])
    (producer : after.producer () = .idle) (capacity : after.capacity = ring.capacity)
    (isShutdown : after.isShutdown = ring.isShutdown) (sound : after.Sound)
    (full : ∀ pending, outcome = .full pending → pending = ring.capacity - 1)
    (stopped : outcome = .stopped → ring.isShutdown = true) : after.Single where
  sound := sound
  steady := by
    rw [producer]
    trivial
  full := by
    intro other pending member
    rw [pushes] at member
    rw [capacity]
    rcases List.mem_append.mp member with before | now
    · exact single.full other pending before
    · exact full pending (congrArg (·.2.2) (List.mem_singleton.mp now)).symm
  stopped := by
    intro other member
    rw [pushes] at member
    rw [isShutdown]
    rcases List.mem_append.mp member with before | now
    · exact single.stopped other before
    · exact stopped (congrArg (·.2.2) (List.mem_singleton.mp now)).symm

theorem startPush (message : α) : (ring.startPush () message).Single := by
  have sound := single.sound.startPush () message
  cases place : ring.producer () with
  | idle =>
    by_cases stopped : ring.isShutdown = true
    · have returns : ring.startPush () message = ring.returnPush () message .stopped := by
        simp only [RingQueue.startPush, place, stopped, if_true]
      rw [returns] at sound ⊢
      exact single.returnPush rfl (ring.returnPush_self () message _) rfl rfl sound nofun
        fun _ => stopped
    · have starts : ring.startPush () message = ring.setProducer () (.loading message) := by
        simp only [RingQueue.startPush, place, stopped, Bool.false_eq_true, if_false]
      rw [starts] at sound ⊢
      exact single.setProducer sound trivial
  | _ =>
    have stays : ring.startPush () message = ring := by
      simp only [RingQueue.startPush, place]
    rw [stays]
    exact single

theorem produce : (ring.produce ()).Single := by
  have sound := single.sound.produce () (single.undisturbed _)
  have steady := single.steady
  unfold RingQueue.produce at sound ⊢
  cases place : ring.producer () with
  | idle => exact single
  | loading message =>
    simp only [place] at sound ⊢
    exact single.setProducer sound rfl
  | checking message currentTail =>
    simp only [place] at sound steady ⊢
    obtain rfl : currentTail = ring.tail := steady
    by_cases met : ring.next ring.tail = ring.head
    · rw [if_pos met] at sound ⊢
      exact single.setProducer sound (single.sound.laid.pending_of_full met)
    · rw [if_neg met] at sound ⊢
      exact single.setProducer sound ⟨rfl, single.sound.laid.room met⟩
  | dropping message pending =>
    simp only [place] at sound steady ⊢
    refine single.returnPush rfl (ring.returnPush_self () message (.full pending)) rfl rfl sound
      (fun other same => ?_) (fun same => ?_)
    · rw [← PushOutcome.full.inj same]
      exact steady
    · cases same
  | writing message currentTail =>
    simp only [place] at sound ⊢
    refine ⟨sound, ?_, single.full, single.stopped⟩
    change Steady _ ((ring.setProducer () _).producer ())
    rw [setProducer_self]
    trivial
  | storing message currentTail =>
    simp only [place] at sound ⊢
    refine ⟨sound, ?_, single.full, single.stopped⟩
    change Steady _ ((ring.setProducer () _).producer ())
    rw [setProducer_self]
    trivial
  | counting message =>
    simp only [place] at sound ⊢
    refine single.returnPush rfl (ring.returnPush_self () message .accepted) rfl rfl sound
      (fun other same => ?_) (fun same => ?_)
    · cases same
    · cases same

theorem step (move : RingMove Unit α) : (ring.step move).Single := by
  cases move with
  | push thread message => exact single.startPush message
  | produce thread => exact single.produce
  | pop => exact single.consumed ring.consumed_startPop single.sound.startPop
  | consume => exact single.consumed ring.consumed_consume single.sound.consume
  | shutdown =>
    refine ⟨single.sound.step .shutdown trivial, ?_, single.full, fun _ _ => rfl⟩
    have steady := single.steady
    change Steady _ (ring.producer ())
    generalize ring.producer () = call at steady ⊢
    cases call <;> exact steady

/-- All messages stored were accepted, except for the one whose push is about to return. -/
theorem stored_eq :
    ring.stored.map Prod.snd = ring.accepted.map Prod.snd ++ (ring.producer ()).completing := by
  have stored := single.sound.producing.stored ()
  rw [List.filter_eq_self.mpr fun entry _ => decide_eq_true rfl,
    List.filter_eq_self.mpr fun entry _ => decide_eq_true rfl] at stored
  rw [stored, List.map_append, List.map_map]
  exact congrArg _ (List.map_id _)

end

end Single

/-- A first-in first-out queue. -/
structure Fifo (ring : RingQueue Unit α) : Prop where
  /-- The messages returned are the first ones of those whose push returned true or has
  stored `tail_` and is about to. -/
  ordered : ring.popped <+: ring.accepted.map Prod.snd ++ (ring.producer ()).completing
  bounded : ring.pending ≤ ring.capacity - 1
  /-- A push fails only on a full queue or after a shutdown. -/
  push_returns : ∀ message outcome, ((), message, outcome) ∈ ring.pushes →
    outcome = .accepted ∨ outcome = .full (ring.capacity - 1) ∨
      outcome = .stopped ∧ ring.isShutdown = true
  /-- A `tryPop` fails only on an empty queue or after a shutdown. -/
  pop_returns : ∀ outcome ∈ ring.pops, (∃ message, outcome = .popped message) ∨
    outcome = .empty 0 ∨ outcome = .stopped ∧ ring.isShutdown = true
  size : ring.producer () = .idle → ring.consumer = .idle →
    ring.size = wrapSize (ring.pushCount - ring.popCount)

/-- In a quiescent state `size` is the difference of the counters. -/
theorem Single.size_eq (single : ring.Single) (idle : ring.producer () = .idle)
    (waiting : ring.consumer = .idle) : ring.size = wrapSize (ring.pushCount - ring.popCount) := by
  have laid := single.sound.laid
  have popped := single.sound.consuming.knows
  rw [waiting] at popped
  have taken : ring.popped.length = ring.taken.length := congrArg List.length popped
  have accepted : ring.accepted.length = ring.stored.length := by
    have stored := congrArg List.length single.stored_eq
    rw [idle, List.length_append, List.length_map, List.length_map] at stored
    exact stored.symm
  have held := laid.holds
  have le := held.le
  have room := held.room
  rw [List.length_map] at le room
  have small := laid.capacity_le
  obtain ⟨exponent, -, word, power⟩ := laid.power
  have length := held.length_sub power (by omega)
  rw [List.length_map, ← laid.tail, ← laid.head] at length
  unfold size
  rw [laid.and_mask, length, single.sound.producing.counted, single.sound.consuming.counted,
    wrapSize_sub, accepted, taken, wrapSize_of_bounds (by omega) (by omega)]
  omega

theorem Single.fifo (single : ring.Single) : ring.Fifo where
  ordered := by
    rw [← single.stored_eq]
    exact single.sound.popped_prefix.trans single.sound.laid.taken
  bounded := single.sound.pending_le
  push_returns := by
    intro message outcome member
    cases outcome with
    | accepted => exact .inl rfl
    | stopped => exact .inr (.inr ⟨rfl, single.stopped message member⟩)
    | full pending => exact .inr (.inl (congrArg _ (single.full message pending member)))
  pop_returns := by
    intro outcome member
    cases outcome with
    | popped message => exact .inl ⟨message, rfl⟩
    | stopped => exact .inr (.inr ⟨rfl, single.sound.consuming.stopped member⟩)
    | empty pending => exact .inr (.inl (congrArg _ (single.sound.consuming.empty pending member)))
  size := single.size_eq

/-- With one producer and one consumer the queue is first-in first-out under every
interleaving. -/
theorem queue_fifo [Inhabited α] (run : Transition.Run Initial step Transition.unrestricted ring) :
    ring.Fifo := by
  have single : ring.Single := by
    refine run.invariant Single ?_ fun ring move single _ => single.step move
    intro ring fresh
    have sound := fresh.sound
    obtain ⟨maxSize, -, -, rfl⟩ := fresh
    exact ⟨sound, trivial, nofun, nofun⟩
  exact single.fifo

/-- Push two messages into a queue of two slots, of which the second does not fit, and
pop twice; the first pop begins while the first push is at work. -/
def sampleTraffic : List (RingMove Unit Nat) :=
  [.push () 7, .pop, .produce (), .produce (), .consume, .produce (), .produce (), .consume,
    .consume, .produce (), .push () 8, .produce (), .consume, .produce (), .consume, .produce (),
    .pop, .consume, .consume]

theorem queue_fifo_traffic :
    (Transition.execute step (RingQueue.new Unit 2) sampleTraffic).Fifo ∧
      (Transition.execute step (RingQueue.new Unit 2) sampleTraffic).popped = [7] := by
  refine ⟨queue_fifo ((Transition.Run.start ⟨2, by decide, by decide, rfl⟩).execute
    (Transition.permits_unrestricted ..)), by decide +kernel⟩

end Single

/-! ## Several producers -/

section Several

variable [DecidableEq ι] {ring : RingQueue ι α}

/-- Lists with the same entries for each producer are the same up to order. -/
theorem perm_of_filter_eq {first second : List (ι × α)}
    (same : ∀ thread, first.filter (fun entry => entry.1 = thread) =
      second.filter (fun entry => entry.1 = thread)) : first.Perm second := by
  classical
  refine List.perm_iff_count.mpr fun entry => ?_
  have kept : decide (entry.1 = entry.1) = true := decide_eq_true rfl
  have counts : ∀ entries : List (ι × α),
      (entries.filter fun other => other.1 = entry.1).count entry = entries.count entry :=
    fun entries => List.count_filter kept
  rw [← counts first, ← counts second, same entry.1]

/-- No message is lost, and none is returned that was not accepted. -/
structure Lossless (ring : RingQueue ι α) : Prop where
  /-- A message returned is one whose push returned true or has stored `tail_` and is about
  to. -/
  genuine : ∀ message ∈ ring.popped, ∃ thread, (thread, message) ∈ ring.accepted ∨
    ring.producer thread = .counting message
  /-- When all pushes have returned, no message was returned more often than accepted. -/
  once : (∀ thread, ring.producer thread = .idle) →
    ring.popped.Subperm (ring.accepted.map Prod.snd)
  /-- When all calls have returned and the queue is empty, the messages returned are those
  accepted. -/
  drained : (∀ thread, ring.producer thread = .idle) → ring.consumer = .idle →
    ring.head = ring.tail → ring.popped.Perm (ring.accepted.map Prod.snd)

theorem Sound.accepted_perm (sound : ring.Sound) (idle : ∀ thread, ring.producer thread = .idle) :
    ring.stored.Perm ring.accepted := by
  refine perm_of_filter_eq fun thread => ?_
  have stored := sound.producing.stored thread
  rw [idle thread] at stored
  exact stored.trans (List.append_nil _)

theorem Sound.lossless (sound : ring.Sound) : ring.Lossless where
  genuine := by
    intro message popped
    have stored := sound.laid.taken.subset (sound.popped_prefix.subset popped)
    obtain ⟨⟨thread, same⟩, member, rfl⟩ := List.mem_map.mp stored
    have mine : (thread, same) ∈ ring.stored.filter fun entry => entry.1 = thread :=
      List.mem_filter.mpr ⟨member, decide_eq_true rfl⟩
    rw [sound.producing.stored thread] at mine
    refine ⟨thread, ?_⟩
    rcases List.mem_append.mp mine with accepted | completing
    · exact .inl (List.mem_filter.mp accepted).1
    · right
      cases place : ring.producer thread with
      | counting message =>
        rw [place] at completing
        cases List.mem_singleton.mp completing
        rfl
      | _ =>
        rw [place] at completing
        cases completing
  once := by
    intro idle
    have stored : ring.popped.Subperm (ring.stored.map Prod.snd) :=
      (sound.popped_prefix.trans sound.laid.taken).sublist.subperm
    exact stored.trans ((sound.accepted_perm idle).map Prod.snd).subperm
  drained := by
    intro idle waiting met
    have popped := sound.consuming.knows
    rw [waiting] at popped
    have all : ring.taken = ring.stored.map Prod.snd := by
      refine sound.laid.taken.eq_of_length ?_
      rw [List.length_map]
      exact sound.laid.head_eq_tail_iff.mp met
    have returned : ring.popped = ring.stored.map Prod.snd := Eq.trans popped all
    rw [returned]
    exact (sound.accepted_perm idle).map Prod.snd

/-- As long as no push is disturbed, the queue loses no message and returns none twice. -/
theorem queue_lossless [Inhabited α] (run : Transition.Run Initial step Undisturbed ring) :
    ring.Lossless :=
  (sound_of_run run).lossless

instance [Fintype ι] (ring : RingQueue ι α) : ∀ move, Decidable (ring.Undisturbed move)
  | .produce thread => inferInstanceAs (Decidable (∀ currentTail ∈ ring.writes thread,
      currentTail = ring.tail ∧ ring.next currentTail ≠ ring.head ∧
        ∀ other, other ≠ thread → (ring.producer other).stores = false))
  | .push _ _ => inferInstanceAs (Decidable True)
  | .pop => inferInstanceAs (Decidable True)
  | .consume => inferInstanceAs (Decidable True)
  | .shutdown => inferInstanceAs (Decidable True)

/-- The steps of a push from the load of `tail_` to the return. -/
def samplePush (thread : Bool) : List (RingMove Bool Nat) := List.replicate 5 (.produce thread)

/-- The steps of a `tryPop`. -/
def samplePop : List (RingMove Bool Nat) := .pop :: List.replicate 5 .consume

/-- Two pushes one after the other, and two pops. -/
def sampleTurns : List (RingMove Bool Nat) :=
  [.push false 7, .push true 8] ++ samplePush false ++ samplePush true ++ samplePop ++ samplePop

theorem queue_lossless_turns :
    Transition.Permits step Undisturbed (RingQueue.new Bool 2048) sampleTurns ∧
      (Transition.execute step (RingQueue.new Bool 2048) sampleTurns).Lossless := by
  have allowed : Transition.Permits step Undisturbed (RingQueue.new Bool 2048) sampleTurns := by
    decide +kernel
  exact ⟨allowed, queue_lossless
    ((Transition.Run.start ⟨2048, by decide, by decide, rfl⟩).execute allowed)⟩

/-- Two pushes that take their steps in turn: they write the same slot and store the same
`tail_`. -/
def sampleRace : List (RingMove Bool Nat) :=
  [.push false 7, .push true 8] ++
    (List.replicate 5 [.produce false, .produce true]).flatten ++ samplePop ++ samplePop

/-- Both pushes returned true and the queue is empty, but only one message came out. -/
theorem race_loses_message :
    ∃ ring : RingQueue Bool Nat, Transition.Run Initial step Transition.unrestricted ring ∧
      (∀ thread, ring.producer thread = .idle) ∧ ring.consumer = .idle ∧ ring.head = ring.tail ∧
      ring.accepted = [(false, 7), (true, 8)] ∧ ring.popped = [8] ∧ ¬ ring.Lossless := by
  have idle : ∀ thread, (Transition.execute step (RingQueue.new Bool 2048) sampleRace).producer
      thread = .idle := by
    decide +kernel
  have waiting :
      (Transition.execute step (RingQueue.new Bool 2048) sampleRace).consumer = .idle := by
    decide +kernel
  have met : (Transition.execute step (RingQueue.new Bool 2048) sampleRace).head =
      (Transition.execute step (RingQueue.new Bool 2048) sampleRace).tail := by
    decide +kernel
  have accepted : (Transition.execute step (RingQueue.new Bool 2048) sampleRace).accepted =
      [(false, 7), (true, 8)] := by
    decide +kernel
  have popped : (Transition.execute step (RingQueue.new Bool 2048) sampleRace).popped = [8] := by
    decide +kernel
  refine ⟨_, (Transition.Run.start ⟨2048, by decide, by decide, rfl⟩).execute
    (Transition.permits_unrestricted ..), idle, waiting, met, accepted, popped, fun lossless => ?_⟩
  have lengths := (lossless.drained idle waiting met).length_eq
  rw [accepted, popped] at lengths
  cases lengths

end Several

end FixGateway.Utils.RingQueue
