import FixGateway.Memory.BinaryHeap

/-! # Heaps with arrival numbers

`Numbered` is a binary heap that numbers the values in the order in which they are pushed and
keeps a record of those that were popped. The numbers stand beside the values in the vector, but
nothing looks at them. Without them it is the heap it was (`forget`).

Whether values leave in the order in which they came is a question about the record and the
numbers that are left (`InOrder`). A push does not change the answer
(`Numbered.push_inOrder_iff`). A pop changes it unless the front came first
(`Numbered.pop_inOrder_iff`).
-/

namespace BinaryHeap

variable {α β : Type} [LinearOrder β]

/-! ## Order of arrival -/

section Arrival

variable {related : α → α → Prop} {entry : Nat × α} {entries popped left others : List (Nat × α)}
  {next : Nat}

/-- The numbers of a list of entries are different, and the next number is new. -/
structure Arrived (next : Nat) (entries : List (Nat × α)) : Prop where
  fresh : ∀ entry ∈ entries, entry.1 < next
  distinct : (entries.map Prod.fst).Nodup

theorem arrived_nil (next : Nat) : Arrived next ([] : List (Nat × α)) := by
  refine ⟨fun entry member => ?_, List.nodup_nil⟩
  cases member

theorem Arrived.perm (arrived : Arrived next entries) (same : entries.Perm others) :
    Arrived next others where
  fresh := fun entry member => arrived.fresh entry (same.mem_iff.mpr member)
  distinct := (same.map Prod.fst).nodup_iff.mp arrived.distinct

/-- The next number goes to a new value. -/
theorem Arrived.cons (arrived : Arrived next entries) (value : α) :
    Arrived (next + 1) ((next, value) :: entries) where
  fresh := by
    rw [List.forall_mem_cons]
    exact ⟨Nat.lt_succ_self next,
      fun entry member => Nat.lt_succ_of_lt (arrived.fresh entry member)⟩
  distinct := by
    rw [List.map_cons, List.nodup_cons]
    refine ⟨fun used => ?_, arrived.distinct⟩
    obtain ⟨entry, member, same⟩ := List.mem_map.mp used
    exact absurd same (arrived.fresh entry member).ne

/-- None of the others that are related to the entry came before it. -/
def Oldest (related : α → α → Prop) (entry : Nat × α) (others : List (Nat × α)) : Prop :=
  ∀ later ∈ others, related entry.2 later.2 → entry.1 < later.1

/-- The front came before all others that are related to it. -/
def FrontOldest (related : α → α → Prop) : List (Nat × α) → Prop
  | [] => True
  | front :: others => Oldest related front others

/-- Of two related values the one that came first is popped first. The record of what was popped
has the newest first, and the other values are still there. -/
def InOrder (related : α → α → Prop) (popped left : List (Nat × α)) : Prop :=
  popped.Pairwise (fun later earlier => related earlier.2 later.2 → earlier.1 < later.1) ∧
    ∀ earlier ∈ popped, Oldest related earlier left

instance Oldest.decidable [DecidableRel related] : Decidable (Oldest related entry others) :=
  inferInstanceAs (Decidable (∀ later ∈ others, related entry.2 later.2 → entry.1 < later.1))

instance FrontOldest.decidable [DecidableRel related] :
    ∀ entries : List (Nat × α), Decidable (FrontOldest related entries)
  | [] => inferInstanceAs (Decidable True)
  | front :: others => inferInstanceAs (Decidable (Oldest related front others))

instance InOrder.decidable [DecidableRel related] : Decidable (InOrder related popped left) :=
  inferInstanceAs (Decidable (_ ∧ ∀ earlier ∈ popped, Oldest related earlier left))

theorem inOrder_nil (related : α → α → Prop) (left : List (Nat × α)) : InOrder related [] left := by
  refine ⟨List.Pairwise.nil, fun earlier member => ?_⟩
  cases member

theorem InOrder.perm (ordered : InOrder related popped left) (same : left.Perm others) :
    InOrder related popped others :=
  ⟨ordered.1, fun earlier member later there => ordered.2 earlier member later
    (same.mem_iff.mpr there)⟩

theorem inOrder_congr (same : left.Perm others) :
    InOrder related popped left ↔ InOrder related popped others :=
  ⟨fun ordered => ordered.perm same, fun ordered => ordered.perm same.symm⟩

/-- What is popped has to be the oldest of what is there. -/
theorem inOrder_cons_iff :
    InOrder related (entry :: popped) left ↔
      InOrder related popped (entry :: left) ∧ Oldest related entry left := by
  unfold InOrder
  rw [List.pairwise_cons, List.forall_mem_cons]
  simp only [Oldest, List.forall_mem_cons]
  constructor
  · rintro ⟨⟨before, ordered⟩, oldest, others⟩
    exact ⟨⟨ordered, fun earlier member => ⟨before earlier member, others earlier member⟩⟩, oldest⟩
  · rintro ⟨⟨ordered, both⟩, oldest⟩
    exact ⟨⟨fun earlier member => (both earlier member).1, ordered⟩, oldest,
      fun earlier member => (both earlier member).2⟩

/-- What was popped first had to be in order with what was popped later, too. -/
theorem inOrder_append_iff {later : List (Nat × α)} :
    InOrder related (later ++ popped) left ↔
      InOrder related popped (later ++ left) ∧ InOrder related later left := by
  induction later generalizing left with
  | nil => exact (and_iff_left (inOrder_nil related left)).symm
  | cons entry later ih =>
    rw [List.cons_append, inOrder_cons_iff, ih, inOrder_cons_iff, List.cons_append,
      inOrder_congr List.perm_middle, and_assoc]

/-- What comes later may be added to what is there. -/
theorem inOrder_later_iff (later : ∀ earlier ∈ popped, earlier.1 < entry.1) :
    InOrder related popped (entry :: left) ↔ InOrder related popped left := by
  unfold InOrder
  simp only [Oldest, List.forall_mem_cons]
  constructor
  · rintro ⟨ordered, both⟩
    exact ⟨ordered, fun earlier member => (both earlier member).2⟩
  · rintro ⟨ordered, others⟩
    exact ⟨ordered, fun earlier member => ⟨fun _ => later earlier member, others earlier member⟩⟩

end Arrival

/-! ## Numbered heaps -/

variable (key : α → β)

/-- A heap that numbers its values, with a record of what was popped, newest first. -/
structure Numbered where
  heap : Heap (key ∘ Prod.snd : Nat × α → β)
  next : Nat
  popped : List (Nat × α)
  arrived : Arrived next (popped ++ heap.values)

namespace Numbered

variable {key} {numbered rest : Numbered key} {value : α} {entry : Nat × α}

/-- The numbered values that are there. -/
def entries (numbered : Numbered key) : List (Nat × α) := numbered.heap.values

def empty : Numbered key where
  heap := ⟨[], ordered_nil _⟩
  next := 0
  popped := []
  arrived := arrived_nil 0

theorem entries_push_perm (numbered : Numbered key) (entry : Nat × α) :
    (numbered.heap.push entry).values.Perm (entry :: numbered.entries) :=
  pushHeap_perm

def push (numbered : Numbered key) (value : α) : Numbered key where
  heap := numbered.heap.push (numbered.next, value)
  next := numbered.next + 1
  popped := numbered.popped
  arrived := (numbered.arrived.cons value).perm
    (((numbered.entries_push_perm _).append_left _).trans List.perm_middle).symm

theorem entries_pop_perm {left : Heap (key ∘ Prod.snd : Nat × α → β)}
    (taken : numbered.heap.pop = some (entry, left)) :
    numbered.entries.Perm (entry :: left.values) :=
  popHeap_perm (Heap.pop_eq_some.mp taken)

def pop (numbered : Numbered key) : Option (α × Numbered key) :=
  match taken : numbered.heap.pop with
  | none => none
  | some (entry, left) =>
    some (entry.2,
      { heap := left
        next := numbered.next
        popped := entry :: numbered.popped
        arrived := numbered.arrived.perm
          (((entries_pop_perm taken).append_left _).trans List.perm_middle) })

theorem pop_eq_none : numbered.pop = none ↔ numbered.entries = [] := by
  unfold entries
  rw [← Heap.pop_eq_none]
  unfold pop
  split
  · rename_i refused
    exact iff_of_true rfl refused
  · rename_i entry left taken
    refine iff_of_false (fun refused => ?_) (fun refused => ?_)
    · cases refused
    · cases taken.symm.trans refused

/-- A pop takes the front and records it. -/
structure Pops (before after : Numbered key) (entry : Nat × α) : Prop where
  taken : popHeap (key ∘ Prod.snd) before.entries = some (entry, after.entries)
  popped : after.popped = entry :: before.popped
  next : after.next = before.next

theorem pops_of_pop (popped : numbered.pop = some (value, rest)) :
    ∃ entry, entry.2 = value ∧ Pops numbered rest entry := by
  unfold pop at popped
  split at popped
  · cases popped
  · rename_i entry left taken
    cases popped
    exact ⟨entry, rfl, Heap.pop_eq_some.mp taken, rfl, rfl⟩

theorem Pops.perm (pops : Pops numbered rest entry) :
    numbered.entries.Perm (entry :: rest.entries) :=
  popHeap_perm pops.taken

/-- The front is what is taken. -/
theorem Pops.front (pops : Pops numbered rest entry) :
    ∃ others, numbered.entries = entry :: others ∧ others.Perm rest.entries := by
  have taken := pops.taken
  have perm := pops.perm
  cases shape : numbered.entries with
  | nil =>
    rw [shape] at taken
    cases taken
  | cons front others =>
    rw [shape] at taken perm
    have same : front = entry := (Prod.mk.inj (Option.some.inj taken)).1
    rw [same] at perm
    exact ⟨others, by rw [same], perm.cons_inv⟩

end Numbered

/-- Numbered heaps, as a container of values. -/
def numbered : MaxContainer fun first second : α => key first < key second where
  Carrier := Numbered key
  contents := fun heap => (heap.entries.map Prod.snd : List α)
  empty := Numbered.empty
  push := Numbered.push
  pop := Numbered.pop
  contents_empty := rfl
  contents_push := fun heap _ => Multiset.coe_eq_coe.mpr ((heap.entries_push_perm _).map Prod.snd)
  contents_of_pop_none := fun refused => by
    rw [Numbered.pop_eq_none.mp refused]
    rfl
  contents_of_pop := fun popped => by
    obtain ⟨entry, rfl, pops⟩ := Numbered.pops_of_pop popped
    exact Multiset.coe_eq_coe.mpr (pops.perm.map Prod.snd)
  maximal := fun popped other member => by
    obtain ⟨entry, rfl, pops⟩ := Numbered.pops_of_pop popped
    obtain ⟨found, there, rfl⟩ := List.mem_map.mp (Multiset.mem_coe.mp member)
    exact Heap.pop_maximal (Heap.pop_eq_some.mpr pops.taken) found there

/-! ## Without the numbers -/

section Forget

variable {key}

/-- The order is one of keys. -/
theorem Ordered.map {γ : Type} {rename : γ → α} {values : List γ}
    (ordered : Ordered (key ∘ rename) values) : Ordered key (values.map rename) := by
  intro index child parent foundChild foundParent
  rw [List.getElem?_map] at foundChild foundParent
  obtain ⟨first, foundFirst, rfl⟩ := Option.map_eq_some_iff.mp foundChild
  obtain ⟨second, foundSecond, rfl⟩ := Option.map_eq_some_iff.mp foundParent
  exact ordered index first second foundFirst foundSecond

def Numbered.forget (numbered : Numbered key) : Heap key :=
  ⟨numbered.entries.map Prod.snd, numbered.heap.ordered.map⟩

theorem Numbered.forget_pop (numbered : Numbered key) :
    numbered.forget.pop = numbered.pop.map (Prod.map id Numbered.forget) := by
  cases popped : numbered.pop with
  | none =>
    have none := Numbered.pop_eq_none.mp popped
    rw [Option.map_none, Heap.pop_eq_none]
    change numbered.entries.map Prod.snd = []
    rw [none, List.map_nil]
  | some taken =>
    obtain ⟨value, rest⟩ := taken
    obtain ⟨entry, rfl, pops⟩ := Numbered.pops_of_pop popped
    rw [Option.map_some, Prod.map, Heap.pop_eq_some]
    change popHeap key (numbered.entries.map Prod.snd) = _
    rw [popHeap_map, pops.taken]
    rfl

variable (key)

/-- Forgetting the numbers leaves a heap that does the same. -/
def forget : MaxContainer.Hom (numbered key) (container key) where
  map := Numbered.forget
  contents := fun _ => rfl
  empty := rfl
  push := fun _ _ => Heap.ext (pushHeap_map key Prod.snd)
  pop := Numbered.forget_pop

end Forget

/-! ## Runs in order -/

namespace Numbered

variable {key} {numbered rest : Numbered key} {related : α → α → Prop}

theorem push_inOrder_iff (numbered : Numbered key) (value : α) :
    InOrder related (numbered.push value).popped (numbered.push value).entries ↔
      InOrder related numbered.popped numbered.entries := by
  have perm : (numbered.push value).entries.Perm ((numbered.next, value) :: numbered.entries) :=
    numbered.entries_push_perm _
  rw [inOrder_congr perm]
  apply inOrder_later_iff
  intro earlier member
  exact numbered.arrived.fresh earlier (List.mem_append_left _ member)

theorem pop_inOrder_iff {entry : Nat × α} (pops : Pops numbered rest entry) :
    InOrder related rest.popped rest.entries ↔
      InOrder related numbered.popped numbered.entries ∧ FrontOldest related numbered.entries := by
  obtain ⟨others, shape, perm⟩ := pops.front
  rw [pops.popped, inOrder_cons_iff, ← inOrder_congr pops.perm, shape]
  apply and_congr_right
  intro _
  exact ⟨fun oldest later there => oldest later (perm.mem_iff.mp there),
    fun oldest later there => oldest later (perm.mem_iff.mpr there)⟩

end Numbered

end BinaryHeap
