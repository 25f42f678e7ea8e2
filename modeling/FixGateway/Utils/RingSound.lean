import FixGateway.Concurrency.Ownership
import FixGateway.Utils.RingQueue

/-! # Every undisturbed step keeps the ring sound

One lemma for each step that writes shared memory; the other steps only move a
producer or the consumer on (`Producing.quiet`, `Consuming`).
-/

namespace FixGateway.Utils.RingQueue

open ByteScan CellRing Ownership

variable {ι α : Type} {ring : RingQueue ι α}

/-! ## Indices -/

namespace Laid

section

variable (laid : ring.Laid)
include laid

theorem positive : 1 < ring.capacity := by
  obtain ⟨exponent, nonzero, -, power⟩ := laid.power
  rw [power]
  exact Nat.one_lt_two_pow (Nat.ne_of_gt nonzero)

theorem capacity_le : ring.capacity ≤ 2 ^ 63 := by
  obtain ⟨exponent, -, small, power⟩ := laid.power
  rw [power]
  exact Nat.pow_le_pow_right (by decide) small

theorem and_mask (index : Nat) : index &&& ring.mask = index % ring.capacity := by
  obtain ⟨exponent, -, small, power⟩ := laid.power
  exact and_wrapSize_pow_sub_one power (by omega) index

theorem next_mod (position : Nat) :
    ring.next (position % ring.capacity) = (position + 1) % ring.capacity := by
  obtain ⟨exponent, -, small, power⟩ := laid.power
  rw [next_of_pow power (by omega), Nat.mod_add_mod]

theorem room (free : ring.next ring.tail ≠ ring.head) :
    ring.stored.length + 1 < ring.taken.length + ring.capacity := by
  have full := laid.holds.mod_succ_eq_iff
  have bound := laid.holds.room
  rw [List.length_map] at full bound
  rw [laid.tail, laid.head, laid.next_mod] at free
  have partly : ring.stored.length + 1 ≠ ring.taken.length + ring.capacity :=
    fun filled => free (full.mpr filled)
  omega

theorem pending_of_full (full : ring.next ring.tail = ring.head) :
    ring.pending = ring.capacity - 1 := by
  have filled := laid.holds.mod_succ_eq_iff
  have le := laid.holds.le
  rw [List.length_map] at filled le
  rw [laid.tail, laid.head, laid.next_mod] at full
  have filled := filled.mp full
  unfold pending
  omega

theorem head_eq_tail_iff : ring.head = ring.tail ↔ ring.taken.length = ring.stored.length := by
  have met := laid.holds.mod_eq_iff
  rw [List.length_map] at met
  rw [laid.head, laid.tail]
  exact met

end

end Laid

/-! ## Steps of the consumer -/

theorem Knows.grow {after : RingQueue ι α} {call : PopCall α} (knows : ring.Knows call)
    (pops : after.pops = ring.pops) (taken : after.taken = ring.taken)
    (head : after.head = ring.head)
    (stored : ring.stored.map Prod.snd <+: after.stored.map Prod.snd) : after.Knows call := by
  have popped : after.popped = ring.popped := by
    unfold RingQueue.popped
    rw [pops]
  have length := stored.length_le
  rw [List.length_map, List.length_map] at length
  cases call with
  | idle => exact popped.trans (Eq.trans knows taken.symm)
  | loading => exact popped.trans (Eq.trans knows taken.symm)
  | examining currentHead =>
    exact ⟨popped.trans (knows.1.trans taken.symm), knows.2.trans head.symm⟩
  | reading currentHead =>
    refine ⟨popped.trans (knows.1.trans taken.symm), knows.2.1.trans head.symm, ?_⟩
    rw [taken]
    exact lt_of_lt_of_le knows.2.2 length
  | advancing currentHead message =>
    refine ⟨popped.trans (knows.1.trans taken.symm), knows.2.1.trans head.symm, ?_⟩
    obtain ⟨more, grown⟩ := stored
    rw [taken, ← grown, List.getElem?_append_left (List.getElem?_eq_some_iff.mp knows.2.2).1]
    exact knows.2.2
  | counting message =>
    change after.popped ++ [message] = after.taken
    rw [popped, taken]
    exact knows

variable [DecidableEq ι]

namespace Sound

theorem setConsumer (sound : ring.Sound) {call : PopCall α} (knows : ring.Knows call) :
    { ring with consumer := call }.Sound where
  laid := { sound.laid with }
  producing := { sound.producing with }
  consuming := by
    refine ⟨?_, sound.consuming.counted, sound.consuming.empty, sound.consuming.stopped⟩
    cases call <;> exact knows

theorem returnPop (sound : ring.Sound) {outcome : PopOutcome α} {count : Nat}
    (popped : ring.popped ++ outcome.message.toList = ring.taken)
    (counted : count = wrapSize ring.taken.length)
    (empty : ∀ pending, outcome = .empty pending → pending = 0)
    (stopped : outcome = .stopped → ring.isShutdown = true) :
    (ring.returnPop outcome count).Sound := by
  have returned : (ring.returnPop outcome count).popped = ring.taken := by
    rw [← popped]
    change (ring.pops ++ [outcome]).filterMap PopOutcome.message = _
    rw [List.filterMap_append]
    cases outcome <;> rfl
  refine ⟨{ sound.laid with }, { sound.producing with }, returned, ?_, ?_, ?_⟩
  · rw [returned]
    exact counted
  · intro pending member
    rcases List.mem_append.mp member with before | now
    · exact sound.consuming.empty pending before
    · exact empty pending (List.mem_singleton.mp now).symm
  · intro member
    rcases List.mem_append.mp member with before | now
    · exact sound.consuming.stopped before
    · exact stopped (List.mem_singleton.mp now).symm

theorem startPop (sound : ring.Sound) : ring.startPop.Sound := by
  have knows := sound.consuming.knows
  have counted := sound.consuming.counted
  unfold RingQueue.startPop
  split
  · rename_i idle
    rw [idle] at knows
    have same : ring.popped = ring.taken := knows
    split
    · rename_i stopped
      exact sound.returnPop (by rw [same]; exact List.append_nil _) (by rw [counted, same]) nofun
        fun _ => stopped
    · exact sound.setConsumer same
  · exact sound

/-- `tryPop` stores `head_`: the first message pending is taken. -/
theorem advance (sound : ring.Sound) {message : α} (popped : ring.popped = ring.taken)
    (first : (ring.stored.map Prod.snd)[ring.taken.length]? = some message) :
    { ring with
      consumer := .counting message
      head := ring.next ring.head
      taken := ring.taken ++ [message] }.Sound := by
  have inside := (List.getElem?_eq_some_iff.mp first).1
  have length : (ring.taken ++ [message]).length = ring.taken.length + 1 := by
    rw [List.length_append, List.length_singleton]
  refine ⟨⟨sound.laid.power, ?_, sound.laid.tail, ?_, ?_⟩,
    ⟨fun thread other currentTail storing => ?_, sound.producing.alone, sound.producing.stored,
      sound.producing.counted⟩,
    ?_, sound.consuming.counted, sound.consuming.empty, sound.consuming.stopped⟩
  · change ring.next ring.head = (ring.taken ++ [message]).length % ring.capacity
    rw [sound.laid.head, sound.laid.next_mod, length]
  · change Holds ring.messages ring.capacity _ (ring.taken ++ [message]).length
    rw [length]
    exact sound.laid.holds.advance inside
  · change ring.taken ++ [message] <+: _
    have before := List.prefix_iff_eq_take.mp sound.laid.taken
    rw [List.prefix_iff_eq_take, length, List.take_add_one, ← before, first]
    rfl
  · obtain ⟨same, written, room⟩ := sound.producing.storing thread other currentTail storing
    refine ⟨same, written, ?_⟩
    change ring.stored.length + 1 < (ring.taken ++ [message]).length + ring.capacity
    omega
  · change ring.popped ++ [message] = ring.taken ++ [message]
    rw [popped]

theorem consume (sound : ring.Sound) : ring.consume.Sound := by
  have knows := sound.consuming.knows
  have counted := sound.consuming.counted
  unfold RingQueue.consume
  split
  · exact sound
  · rename_i loading
    rw [loading] at knows
    exact sound.setConsumer ⟨knows, rfl⟩
  · rename_i currentHead examining
    rw [examining] at knows
    obtain ⟨popped, rfl⟩ := knows
    split
    · rename_i met
      have none : ring.pending = 0 := by
        have same := sound.laid.head_eq_tail_iff.mp met
        unfold pending
        omega
      exact sound.returnPop (by rw [popped]; exact List.append_nil _) (by rw [counted, popped])
        (fun pending same => (PopOutcome.empty.inj same).symm.trans none) nofun
    · rename_i differ
      refine sound.setConsumer ⟨popped, rfl, ?_⟩
      have le := sound.laid.holds.le
      rw [List.length_map] at le
      exact lt_of_le_of_ne le fun met => differ (sound.laid.head_eq_tail_iff.mpr met)
  · rename_i currentHead reading
    rw [reading] at knows
    obtain ⟨popped, rfl, nonempty⟩ := knows
    refine sound.setConsumer ⟨popped, rfl, ?_⟩
    rw [sound.laid.head]
    exact sound.laid.holds.read (by rw [List.length_map]; exact nonempty)
  · rename_i currentHead message advancing
    rw [advancing] at knows
    obtain ⟨popped, rfl, first⟩ := knows
    exact sound.advance popped first
  · rename_i message counting
    rw [counting] at knows
    have taken : ring.popped ++ [message] = ring.taken := knows
    refine sound.returnPop taken ?_ nofun nofun
    rw [counted, wrapSize_add, ← taken, List.length_append, List.length_singleton]
    rfl

end Sound

/-! ## Steps of a producer -/

variable {after : RingQueue ι α} {thread : ι} {call : PushCall α} {message : α}

/-- A step of one producer keeps what the other ones rely on, if it does not write where
another one is about to store `tail_`. -/
theorem Producing.advance (producing : ring.Producing)
    (moved : after.producer = Function.update ring.producer thread call)
    (mine : ∀ message currentTail, call = .storing message currentTail → currentTail = after.tail ∧
      after.messages currentTail = message ∧
      after.stored.length + 1 < after.taken.length + after.capacity)
    (alone : call.stores = true → ∀ other, other ≠ thread → (ring.producer other).stores = false)
    (theirs : ∀ other, other ≠ thread → (ring.producer other).stores = true →
      after.tail = ring.tail ∧ after.messages ring.tail = ring.messages ring.tail ∧
      after.stored.length + 1 < after.taken.length + after.capacity)
    (stored : after.stored.filter (fun entry => entry.1 = thread) =
      after.accepted.filter (fun entry => entry.1 = thread) ++
        call.completing.map fun message => (thread, message)) (others : ∀ other, other ≠ thread →
      after.stored.filter (fun entry => entry.1 = other) =
        ring.stored.filter (fun entry => entry.1 = other) ∧
      after.accepted.filter (fun entry => entry.1 = other) =
        ring.accepted.filter (fun entry => entry.1 = other))
    (counted : after.pushCount = wrapSize after.accepted.length) : after.Producing where
  storing := by
    intro other message currentTail storing
    rw [moved] at storing
    by_cases own : other = thread
    · rw [own, Function.update_self] at storing
      exact mine message currentTail storing
    · rw [Function.update_of_ne own] at storing
      obtain ⟨same, written, -⟩ := producing.storing other message currentTail storing
      obtain ⟨tail, kept, room⟩ := theirs other own (by rw [storing]; rfl)
      rw [same] at written ⊢
      exact ⟨tail.symm, kept.trans written, room⟩
  alone := by
    rw [moved]
    exact exclusive_update producing.alone alone
  stored := by
    intro other
    rw [moved]
    by_cases own : other = thread
    · rw [own, Function.update_self]
      exact stored
    · rw [Function.update_of_ne own, (others other own).1, (others other own).2]
      exact producing.stored other
  counted := counted

/-- A push that has written its slot has written the slot at `tail_`, and there is room. -/
theorem Producing.room (producing : ring.Producing) {other : ι}
    (stores : (ring.producer other).stores = true) :
    ring.stored.length + 1 < ring.taken.length + ring.capacity := by
  cases place : ring.producer other with
  | storing message currentTail => exact (producing.storing other message currentTail place).2.2
  | _ =>
    rw [place] at stores
    cases stores

namespace Sound

theorem setProducer (sound : ring.Sound) (quiet : call.stores = false)
    (same : call.completing = (ring.producer thread).completing) :
    (ring.setProducer thread call).Sound where
  laid := { sound.laid with }
  producing := by
    refine sound.producing.advance rfl (fun message currentTail storing => ?_) (fun stores => ?_)
      (fun other _ stores => ⟨rfl, rfl, sound.producing.room stores⟩) ?_ (fun _ _ => ⟨rfl, rfl⟩)
      sound.producing.counted
    · rw [storing] at quiet
      cases quiet
    · rw [quiet] at stores
      cases stores
    · rw [same]
      exact sound.producing.stored thread
  consuming := { sound.consuming with }

theorem accepted_returnPush (outcome : PushOutcome) :
    (ring.returnPush thread message outcome).accepted =
      ring.accepted ++ if outcome = .accepted then [(thread, message)] else [] := by
  change ((ring.pushes ++ [(thread, message, outcome)]).filter _).map _ = _
  rw [List.filter_append, List.map_append]
  congr 1
  by_cases returned : outcome = .accepted
  · simp [returned]
  · simp [returned]

section

variable (sound : ring.Sound)
include sound

/-- A push returns. It returns true exactly if it has stored `tail_`. -/
theorem returnPush {outcome : PushOutcome} {pushCount dropCount : Nat}
    (completing : (ring.producer thread).completing = if outcome = .accepted then [message] else [])
    (counted : pushCount = wrapSize (ring.returnPush thread message outcome).accepted.length) :
    { ring.returnPush thread message outcome with
      pushCount := pushCount
      dropCount := dropCount }.Sound where
  laid := { sound.laid with }
  producing := by
    have accepted : { ring.returnPush thread message outcome with
        pushCount := pushCount
        dropCount := dropCount }.accepted =
        ring.accepted ++ if outcome = .accepted then [(thread, message)] else [] :=
      accepted_returnPush outcome
    refine sound.producing.advance rfl nofun nofun
      (fun other _ stores => ⟨rfl, rfl, sound.producing.room stores⟩) ?_ (fun other differs => ?_)
      counted
    · have before := sound.producing.stored thread
      rw [completing] at before
      rw [accepted, List.filter_append, List.append_assoc]
      refine before.trans (congrArg _ ?_)
      by_cases returned : outcome = .accepted
      · simp [returned, PushCall.completing]
      · simp [returned, PushCall.completing]
    · refine ⟨rfl, ?_⟩
      rw [accepted, List.filter_append]
      by_cases returned : outcome = .accepted
      · simp [returned, differs.symm]
      · simp [returned]
  consuming := { sound.consuming with }

theorem write (free : ring.next ring.tail ≠ ring.head)
    (writing : (ring.producer thread).completing = [])
    (alone : ∀ other, other ≠ thread → (ring.producer other).stores = false) :
    { ring.setProducer thread (.storing message ring.tail) with
      messages := Function.update ring.messages ring.tail message }.Sound where
  laid := by
    refine ⟨sound.laid.power, sound.laid.head, sound.laid.tail, ?_, sound.laid.taken⟩
    change Holds (Function.update ring.messages ring.tail message) ring.capacity _ _
    have written := sound.laid.holds.write message
    rw [List.length_map, ← sound.laid.tail] at written
    exact written
  producing := by
    refine sound.producing.advance rfl (fun other currentTail storing => ?_) (fun _ => alone)
      (fun other differs stores => ?_) ?_ (fun _ _ => ⟨rfl, rfl⟩) sound.producing.counted
    · cases storing
      exact ⟨rfl, Function.update_self .., sound.laid.room free⟩
    · rw [alone other differs] at stores
      cases stores
    · have before := sound.producing.stored thread
      rw [writing] at before
      exact before
  consuming := { sound.consuming with }

theorem store {currentTail : Nat} (storing : ring.producer thread = .storing message currentTail) :
    { ring.setProducer thread (.counting message) with
      tail := ring.next currentTail
      stored := ring.stored ++ [(thread, message)] }.Sound := by
  obtain ⟨rfl, written, room⟩ := sound.producing.storing thread message currentTail storing
  have messages : (ring.stored ++ [(thread, message)]).map Prod.snd =
      ring.stored.map Prod.snd ++ [message] := by
    rw [List.map_append]
    rfl
  have length : (ring.stored ++ [(thread, message)]).length = ring.stored.length + 1 := by
    rw [List.length_append, List.length_singleton]
  refine ⟨⟨sound.laid.power, sound.laid.head, ?_, ?_, ?_⟩, ?_, ?_, sound.consuming.counted,
    sound.consuming.empty, sound.consuming.stopped⟩
  · change ring.next ring.tail = (ring.stored ++ [(thread, message)]).length % ring.capacity
    rw [sound.laid.tail, sound.laid.next_mod, length]
  · change Holds ring.messages ring.capacity ((ring.stored ++ [(thread, message)]).map Prod.snd) _
    rw [messages]
    refine sound.laid.holds.append ?_ (by rw [List.length_map]; exact room)
    rw [List.length_map, ← sound.laid.tail]
    exact written
  · change ring.taken <+: (ring.stored ++ [(thread, message)]).map Prod.snd
    rw [messages]
    exact sound.laid.taken.trans (List.prefix_append _ _)
  · refine sound.producing.advance rfl nofun nofun (fun other differs stores => ?_) ?_
      (fun other differs => ⟨?_, rfl⟩) sound.producing.counted
    · exact absurd (sound.producing.alone other thread stores (by rw [storing]; rfl)) differs
    · have before := sound.producing.stored thread
      rw [storing] at before
      change (ring.stored ++ [(thread, message)]).filter _ = _
      rw [List.filter_append, before, List.append_assoc]
      refine congrArg _ ?_
      simp [PushCall.completing]
    · change (ring.stored ++ [(thread, message)]).filter _ = _
      rw [List.filter_append]
      simp [differs.symm]
  · refine sound.consuming.knows.grow rfl rfl rfl ?_
    change ring.stored.map Prod.snd <+: (ring.stored ++ [(thread, message)]).map Prod.snd
    rw [messages]
    exact List.prefix_append _ _

theorem startPush (thread : ι) (message : α) : (ring.startPush thread message).Sound := by
  unfold RingQueue.startPush
  split
  · rename_i idle
    split
    · refine sound.returnPush (by rw [idle]; rfl) ?_
      rw [accepted_returnPush, if_neg nofun, List.append_nil]
      exact sound.producing.counted
    · exact sound.setProducer rfl (by rw [idle]; rfl)
  · exact sound

theorem produce (thread : ι) (undisturbed : ring.Undisturbed (.produce thread)) :
    (ring.produce thread).Sound := by
  unfold RingQueue.produce
  split
  · exact sound
  · rename_i message loading
    exact sound.setProducer rfl (by rw [loading]; rfl)
  · rename_i message currentTail checking
    split
    · exact sound.setProducer rfl (by rw [checking]; rfl)
    · exact sound.setProducer rfl (by rw [checking]; rfl)
  · rename_i message pending dropping
    refine sound.returnPush (by rw [dropping]; rfl) ?_
    rw [accepted_returnPush, if_neg nofun, List.append_nil]
    exact sound.producing.counted
  · rename_i message currentTail writing
    have writes : ring.writes thread = some currentTail := by
      unfold RingQueue.writes
      rw [writing]
    obtain ⟨rfl, free, alone⟩ := undisturbed currentTail (Option.mem_def.mpr writes)
    exact sound.write free (by rw [writing]; rfl) alone
  · rename_i message currentTail storing
    exact sound.store storing
  · rename_i message counting
    refine sound.returnPush (by rw [counting]; rfl) ?_
    rw [accepted_returnPush, sound.producing.counted, wrapSize_add, if_pos rfl, List.length_append,
      List.length_singleton]
    rfl

/-- Every undisturbed step keeps the ring sound. -/
theorem step (move : RingMove ι α) (undisturbed : ring.Undisturbed move) :
    (ring.step move).Sound := by
  cases move with
  | push thread message => exact sound.startPush thread message
  | produce thread => exact sound.produce thread undisturbed
  | pop => exact sound.startPop
  | consume => exact sound.consume
  | shutdown =>
    exact ⟨{ sound.laid with }, { sound.producing with },
      { sound.consuming with stopped := fun _ => rfl }⟩

end

end Sound

theorem Initial.sound [Inhabited α] (fresh : ring.Initial) : ring.Sound := by
  obtain ⟨maxSize, low, high, rfl⟩ := fresh
  obtain ⟨exponent, nonzero, small, power⟩ := nextPowerOfTwo_eq low high
  have positive : 0 < nextPowerOfTwo maxSize := by
    rw [power]
    exact Nat.two_pow_pos exponent
  refine ⟨⟨⟨exponent, nonzero, small, power⟩, ?_, ?_, holds_nil _ positive, List.nil_prefix⟩,
    ⟨nofun, nofun, fun _ => rfl, rfl⟩, rfl, rfl, nofun, nofun⟩
  · exact (Nat.zero_mod _).symm
  · exact (Nat.zero_mod _).symm

theorem sound_of_run [Inhabited α] (run : Transition.Run Initial step Undisturbed ring) :
    ring.Sound :=
  run.invariant Sound (fun _ fresh => fresh.sound) fun _ move sound undisturbed =>
    sound.step move undisturbed

end FixGateway.Utils.RingQueue
