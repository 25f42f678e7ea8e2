import FixGateway.Memory.MaxContainer
import Mathlib.Data.List.Induction

/-! # Binary heaps in a vector

The children of index `i` are at `2 * i + 1` and `2 * i + 2`, and no value has a larger key
than its parent. `pushHeap` and `popHeap` move values as `std::push_heap` and `std::pop_heap`
do. Both work with a hole. A value is pushed by letting the hole at the end rise past the
parents with smaller keys. It is popped by letting the hole at the front sink to a leaf, always
to a child with the largest key and to the right one of equals, and then letting it rise with
the value that was at the end.

What is at the index of the hole does not matter. In the course of `popHeap` it is always a
value with which the vector is ordered.

The vector with the hole filled is a permutation of what it was (`popHeap_perm`), and it is
ordered (`Ordered.popHeap`). The functions look at keys only, so they commute with a map that
keeps the keys (`popHeap_map`). They do not keep values with equal keys in their order.
-/

namespace BinaryHeap

variable {α β γ : Type} [LinearOrder β] (key : α → β)

/-! ## The algorithms -/

/-- Let the hole rise past parents with smaller keys, and put the value in. -/
def siftUp (value : α) : Nat → List α → Nat → List α
  | 0, values, hole => values.set hole value
  | fuel + 1, values, hole =>
    match values[(hole - 1) / 2]? with
    | none => values.set hole value
    | some parent =>
      if 0 < hole ∧ key parent < key value then
        siftUp value fuel (values.set hole parent) ((hole - 1) / 2)
      else values.set hole value

/-- `push_back` and `std::push_heap`. -/
def pushHeap (values : List α) (value : α) : List α :=
  siftUp key value values.length (values ++ [value]) values.length

/-- Let the hole sink to a leaf. The result is the vector and the hole. -/
def siftDown : Nat → List α → Nat → List α × Nat
  | 0, values, hole => (values, hole)
  | fuel + 1, values, hole =>
    match values[2 * hole + 1]?, values[2 * hole + 2]? with
    | some left, some right =>
      if key right < key left then siftDown fuel (values.set hole left) (2 * hole + 1)
      else siftDown fuel (values.set hole right) (2 * hole + 2)
    | some left, none => (values.set hole left, 2 * hole + 1)
    | none, _ => (values, hole)

/-- `front`, `std::pop_heap` and `pop_back`. -/
def popHeap : List α → Option (α × List α)
  | [] => none
  | top :: rest =>
    let (values, hole) := siftDown key rest.length (top :: rest).dropLast 0
    some (top, siftUp key (rest.getLastD top) hole values hole)

/-! ## The hole -/

section Hole

variable {key} {value other : α} {values : List α} {fuel hole index : Nat}

/-- Moving a value into the hole moves the hole. -/
theorem set_move_perm (hollow : hole < values.length) (found : values[index]? = some other) :
    ((values.set hole other).set index value).Perm (values.set hole value) := by
  by_cases same : index = hole
  · rw [same, List.set_set]
  · obtain ⟨inside, here⟩ := List.getElem?_eq_some_iff.mp found
    have swapped := @List.set_set_perm _ (values.set hole value) hole index
      (by rw [List.length_set]; exact hollow) (by rw [List.length_set]; exact inside)
    rw [List.getElem_set_self, List.getElem_set_of_ne (Ne.symm same), List.set_set, here] at swapped
    exact swapped

theorem siftUp_perm (hollow : hole < values.length) :
    (siftUp key value fuel values hole).Perm (values.set hole value) := by
  induction fuel generalizing values hole with
  | zero => exact List.Perm.refl _
  | succ fuel ih =>
    rw [siftUp]
    split
    · exact List.Perm.refl _
    · rename_i parent found
      split
      · have inside : (hole - 1) / 2 < (values.set hole parent).length := by
          rw [List.length_set]
          omega
        exact (ih inside).trans (set_move_perm hollow found)
      · exact List.Perm.refl _

/-- A hole that sinks stays a hole of the same values. -/
theorem siftDown_perm (hollow : hole < values.length) :
    ((siftDown key fuel values hole).1.set (siftDown key fuel values hole).2 value).Perm
        (values.set hole value) ∧
      (siftDown key fuel values hole).2 < (siftDown key fuel values hole).1.length := by
  induction fuel generalizing values hole with
  | zero => exact ⟨List.Perm.refl _, hollow⟩
  | succ fuel ih =>
    have inside : ∀ {index : Nat} {child : α}, values[index]? = some child →
        index < (values.set hole child).length := by
      intro index child found
      rw [List.length_set]
      exact (List.getElem?_eq_some_iff.mp found).1
    rw [siftDown]
    split
    · rename_i left right foundLeft foundRight
      split
      · obtain ⟨perm, within⟩ := ih (inside foundLeft)
        exact ⟨perm.trans (set_move_perm hollow foundLeft), within⟩
      · obtain ⟨perm, within⟩ := ih (inside foundRight)
        exact ⟨perm.trans (set_move_perm hollow foundRight), within⟩
    · rename_i left foundLeft _
      exact ⟨set_move_perm hollow foundLeft, inside foundLeft⟩
    · exact ⟨List.Perm.refl _, hollow⟩

end Hole

/-! ## Permutation -/

section Perm

variable {key} {value : α} {values rest : List α}

theorem pushHeap_perm : (pushHeap key values value).Perm (value :: values) := by
  have hollow : values.length < (values ++ [value]).length := by
    rw [List.length_append]
    exact Nat.lt_succ_self _
  have risen : (pushHeap key values value).Perm ((values ++ [value]).set values.length value) :=
    siftUp_perm hollow
  rw [List.set_append_right _ _ (le_refl _), Nat.sub_self] at risen
  exact risen.trans (List.perm_append_singleton ..)

theorem popHeap_eq_none : popHeap key values = none ↔ values = [] := by
  cases values with
  | nil => exact iff_of_true rfl rfl
  | cons top rest => simp [popHeap]

theorem popHeap_singleton (top : α) : popHeap key [top] = some (top, []) := rfl

/-- With more than one value, the last one goes where the hole ends up. -/
theorem popHeap_concat (top : α) (middle : List α) (last : α) :
    popHeap key (top :: (middle ++ [last])) =
      some (top, siftUp key last (siftDown key (middle.length + 1) (top :: middle) 0).2
        (siftDown key (middle.length + 1) (top :: middle) 0).1
        (siftDown key (middle.length + 1) (top :: middle) 0).2) := by
  have front : (top :: (middle ++ [last])).dropLast = top :: middle := by
    rw [← List.cons_append, List.dropLast_concat]
  have back : (middle ++ [last]).getLastD top = last := by
    simp
  rw [popHeap, front, back, List.length_append]
  rfl

theorem popHeap_perm (popped : popHeap key values = some (value, rest)) :
    values.Perm (value :: rest) := by
  cases values with
  | nil => cases popped
  | cons top others =>
    cases others using List.reverseRecOn with
    | nil =>
      rw [popHeap_singleton] at popped
      cases popped
      exact List.Perm.refl _
    | append_singleton middle last =>
      rw [popHeap_concat] at popped
      cases popped
      have sinks : ((siftDown key (middle.length + 1) (value :: middle) 0).1.set
          (siftDown key (middle.length + 1) (value :: middle) 0).2 last).Perm
            (last :: middle) ∧ _ := siftDown_perm (Nat.succ_pos _)
      exact ((siftUp_perm sinks.2).trans (sinks.1.trans
        (List.perm_append_singleton last middle).symm)).symm.cons _

end Perm

/-! ## Order -/

/-- No value has a larger key than its parent. The front is its own parent. -/
def Ordered (values : List α) : Prop :=
  ∀ index child parent, values[index]? = some child → values[(index - 1) / 2]? = some parent →
    key child ≤ key parent

section Order

variable {key} {value top : α} {values rest : List α} {fuel hole : Nat}

/-- A value between the parent and the children of the hole may be put into it. -/
theorem Ordered.set (ordered : Ordered key values)
    (above : 0 < hole → ∀ parent, values[(hole - 1) / 2]? = some parent → key value ≤ key parent)
    (below : ∀ index child, index = 2 * hole + 1 ∨ index = 2 * hole + 2 →
      values[index]? = some child → key child ≤ key value) :
    Ordered key (values.set hole value) := by
  intro index child parent foundChild foundParent
  by_cases here : index = hole
  · subst here
    obtain ⟨inside, -⟩ := List.getElem?_eq_some_iff.mp foundChild
    rw [List.getElem?_set_self (by rwa [List.length_set] at inside)] at foundChild
    cases foundChild
    by_cases front : (index - 1) / 2 = index
    · rw [front, List.getElem?_set_self (by rwa [List.length_set] at inside)] at foundParent
      cases foundParent
      exact le_refl _
    · rw [List.getElem?_set_ne (Ne.symm front)] at foundParent
      exact above (by omega) parent foundParent
  · rw [List.getElem?_set_ne (Ne.symm here)] at foundChild
    by_cases under : (index - 1) / 2 = hole
    · obtain ⟨inside, -⟩ := List.getElem?_eq_some_iff.mp foundParent
      rw [under, List.getElem?_set_self (by rw [List.length_set, under] at inside; exact inside)]
        at foundParent
      cases foundParent
      exact below index child (by omega) foundChild
    · rw [List.getElem?_set_ne (Ne.symm under)] at foundParent
      exact ordered index child parent foundChild foundParent

/-- The parent's value may be put into a hole. -/
theorem Ordered.raise (ordered : Ordered key values) {stale parent : α}
    (hollow : values[hole]? = some stale) (found : values[(hole - 1) / 2]? = some parent) :
    Ordered key (values.set hole parent) := by
  apply ordered.set
  · intro _ other same
    rw [found] at same
    cases same
    exact le_refl _
  · intro index child under foundChild
    have upper : (index - 1) / 2 = hole := by omega
    have first := ordered index child stale foundChild (by rw [upper]; exact hollow)
    exact first.trans (ordered hole stale parent hollow found)

/-- What has to hold of a hole before it rises: the vector is ordered with the parent's value in
the hole, and the value to be put in is not below the children. -/
structure Rises (key : α → β) (values : List α) (hole : Nat) (value : α) : Prop where
  hollow : hole < values.length
  ordered : ∀ parent, values[(hole - 1) / 2]? = some parent →
    Ordered key (values.set hole parent)
  below : ∀ index child, index = 2 * hole + 1 ∨ index = 2 * hole + 2 →
    values[index]? = some child → key child ≤ key value

/-- A hole that rises past a smaller parent may rise further. -/
theorem Rises.move (rises : Rises key values hole value) {parent : α} (low : 0 < hole)
    (found : values[(hole - 1) / 2]? = some parent) (less : key parent < key value) :
    Rises key (values.set hole parent) ((hole - 1) / 2) value := by
  have ordered := rises.ordered parent found
  have kept : (values.set hole parent)[(hole - 1) / 2]? = some parent := by
    rw [List.getElem?_set_ne (by omega)]
    exact found
  refine ⟨?_, fun grand upper => ordered.raise kept upper, fun index child under foundChild => ?_⟩
  · have hollow := rises.hollow
    rw [List.length_set]
    omega
  · have upper : (index - 1) / 2 = (hole - 1) / 2 := by omega
    have bound := ordered index child parent foundChild (by rw [upper]; exact kept)
    exact bound.trans less.le

/-- The value may be put into a hole at the front or under a parent that is not smaller. -/
theorem Rises.stop (rises : Rises key values hole value) {parent : α}
    (found : values[(hole - 1) / 2]? = some parent) (stops : 0 < hole → key value ≤ key parent) :
    Ordered key (values.set hole value) := by
  have filled : Ordered key ((values.set hole parent).set hole value) := by
    apply (rises.ordered parent found).set
    · intro low other upper
      rw [List.getElem?_set_ne (by omega), found] at upper
      cases upper
      exact stops low
    · intro index child under foundChild
      rw [List.getElem?_set_ne (by omega)] at foundChild
      exact rises.below index child under foundChild
  rwa [List.set_set] at filled

theorem Rises.siftUp (rises : Rises key values hole value) (enough : hole ≤ fuel) :
    Ordered key (siftUp key value fuel values hole) := by
  induction fuel generalizing values hole with
  | zero =>
    have hollow := rises.hollow
    obtain ⟨parent, found⟩ : ∃ parent, values[(hole - 1) / 2]? = some parent :=
      ⟨_, List.getElem?_eq_getElem (by omega)⟩
    exact rises.stop found fun low => absurd enough (by omega)
  | succ fuel ih =>
    have hollow := rises.hollow
    obtain ⟨parent, found⟩ : ∃ parent, values[(hole - 1) / 2]? = some parent :=
      ⟨_, List.getElem?_eq_getElem (by omega)⟩
    rw [BinaryHeap.siftUp, found]
    dsimp only
    split
    · rename_i passes
      exact ih (rises.move passes.1 found passes.2) (by omega)
    · rename_i stops
      exact rises.stop found fun low => not_lt.mp fun less => stops ⟨low, less⟩

/-- A value may be added at the end if its parent does not have a smaller key. -/
theorem Ordered.append (ordered : Ordered key values)
    (above : ∀ parent, (values ++ [value])[(values.length - 1) / 2]? = some parent →
      key value ≤ key parent) : Ordered key (values ++ [value]) := by
  intro index child parent foundChild foundParent
  have inside := (List.getElem?_eq_some_iff.mp foundChild).1
  rw [List.length_append, List.length_singleton] at inside
  by_cases last : index = values.length
  · rw [last] at foundChild foundParent
    rw [List.getElem?_concat_length] at foundChild
    cases foundChild
    exact above parent foundParent
  · rw [List.getElem?_append_left (by omega)] at foundChild foundParent
    exact ordered index child parent foundChild foundParent

/-- Pushing keeps the order. -/
theorem Ordered.pushHeap (ordered : Ordered key values) (value : α) :
    Ordered key (pushHeap key values value) := by
  apply Rises.siftUp _ (le_refl _)
  refine ⟨?_, fun parent found => ?_, fun index child under foundChild => ?_⟩
  · rw [List.length_append]
    exact Nat.lt_succ_self _
  · rw [List.set_append_right _ _ (le_refl _), Nat.sub_self]
    apply ordered.append
    intro other upper
    by_cases front : values.length = 0
    · rw [front, List.length_eq_zero_iff.mp front] at upper
      cases upper
      exact le_refl _
    · rw [List.getElem?_append_left (by omega)] at found upper
      cases found.symm.trans upper
      exact le_refl _
  · have inside := (List.getElem?_eq_some_iff.mp foundChild).1
    rw [List.length_append, List.length_singleton] at inside
    omega

/-- A child that is not below the other one may be put into the hole of its parent. -/
theorem Ordered.lower (ordered : Ordered key values) {stale child : α} {index : Nat}
    (hollow : values[hole]? = some stale) (under : index = 2 * hole + 1 ∨ index = 2 * hole + 2)
    (found : values[index]? = some child)
    (largest : ∀ other sibling, other = 2 * hole + 1 ∨ other = 2 * hole + 2 → other ≠ index →
      values[other]? = some sibling → key sibling ≤ key child) :
    Ordered key (values.set hole child) := by
  apply ordered.set
  · intro _ parent upper
    have up : (index - 1) / 2 = hole := by omega
    have first := ordered index child stale found (by rw [up]; exact hollow)
    exact first.trans (ordered hole stale parent hollow upper)
  · intro other sibling beneath foundSibling
    by_cases same : other = index
    · rw [same] at foundSibling
      cases found.symm.trans foundSibling
      exact le_refl _
    · exact largest other sibling beneath same foundSibling

/-- Where a hole that sinks ends up: the vector is ordered, and the hole has no children. -/
structure Sunk (key : α → β) (sunk : List α × Nat) : Prop where
  hollow : sunk.2 < sunk.1.length
  ordered : Ordered key sunk.1
  leaf : sunk.1.length ≤ 2 * sunk.2 + 1

theorem Ordered.siftDown (ordered : Ordered key values) (hollow : hole < values.length)
    (enough : values.length ≤ hole + fuel) : Sunk key (siftDown key fuel values hole) := by
  induction fuel generalizing values hole with
  | zero => exact absurd hollow (by omega)
  | succ fuel ih =>
    obtain ⟨stale, filled⟩ : ∃ stale, values[hole]? = some stale :=
      ⟨_, List.getElem?_eq_getElem hollow⟩
    rw [BinaryHeap.siftDown]
    split
    · rename_i left right foundLeft foundRight
      have inside := (List.getElem?_eq_some_iff.mp foundRight).1
      split
      · rename_i less
        apply ih
        · apply ordered.lower filled (.inl rfl) foundLeft
          rintro other sibling (rfl | rfl) differs foundSibling
          · exact absurd rfl differs
          · cases foundRight.symm.trans foundSibling
            exact less.le
        · rw [List.length_set]
          omega
        · rw [List.length_set]
          omega
      · rename_i least
        apply ih
        · apply ordered.lower filled (.inr rfl) foundRight
          rintro other sibling (rfl | rfl) differs foundSibling
          · cases foundLeft.symm.trans foundSibling
            exact not_lt.mp least
          · exact absurd rfl differs
        · rw [List.length_set]
          omega
        · rw [List.length_set]
          omega
    · rename_i left foundLeft missing
      have inside := (List.getElem?_eq_some_iff.mp foundLeft).1
      have outside := List.getElem?_eq_none_iff.mp missing
      have next : Ordered key (values.set hole left) := by
        apply ordered.lower filled (.inl rfl) foundLeft
        rintro other sibling (rfl | rfl) differs foundSibling
        · exact absurd rfl differs
        · cases missing.symm.trans foundSibling
      rw [← @List.length_set _ values hole left] at inside outside
      exact ⟨inside, next, by dsimp only; omega⟩
    · rename_i missing
      exact ⟨hollow, ordered, List.getElem?_eq_none_iff.mp missing⟩

theorem Sunk.rises {sunk : List α × Nat} (done : Sunk key sunk) (value : α) :
    Rises key sunk.1 sunk.2 value where
  hollow := done.hollow
  ordered := fun parent found =>
    done.ordered.raise (List.getElem?_eq_getElem done.hollow) found
  below := by
    intro index child under found
    have inside := (List.getElem?_eq_some_iff.mp found).1
    have leaf := done.leaf
    omega

/-- The front part of an ordered vector is ordered. -/
theorem Ordered.of_append {front back : List α} (ordered : Ordered key (front ++ back)) :
    Ordered key front := by
  have kept : ∀ {index : Nat} {value : α}, front[index]? = some value →
      (front ++ back)[index]? = some value := by
    intro index value found
    rw [List.getElem?_append_left (List.getElem?_eq_some_iff.mp found).1]
    exact found
  intro index child parent foundChild foundParent
  exact ordered index child parent (kept foundChild) (kept foundParent)

/-- Popping keeps the order. -/
theorem Ordered.popHeap (ordered : Ordered key values)
    (popped : popHeap key values = some (top, rest)) : Ordered key rest := by
  cases values with
  | nil => cases popped
  | cons first others =>
    cases others using List.reverseRecOn with
    | nil =>
      rw [popHeap_singleton] at popped
      cases popped
      intro index child parent found
      cases found
    | append_singleton middle last =>
      rw [popHeap_concat] at popped
      cases popped
      rw [← List.cons_append] at ordered
      have sunk : Sunk key (BinaryHeap.siftDown key (middle.length + 1) (top :: middle) 0) := by
        apply ordered.of_append.siftDown (Nat.succ_pos _)
        rw [List.length_cons]
        omega
      exact (sunk.rises last).siftUp (le_refl _)

/-- The front of an ordered vector has a largest key. -/
theorem Ordered.le_front (ordered : Ordered key (top :: rest)) :
    ∀ other ∈ top :: rest, key other ≤ key top := by
  have climbs : ∀ (index : Nat) (other : α), (top :: rest)[index]? = some other →
      key other ≤ key top := by
    intro index
    induction index using Nat.strongRecOn with
    | ind index ih =>
      intro other found
      by_cases front : index = 0
      · subst front
        cases found
        exact le_refl _
      · have inside := (List.getElem?_eq_some_iff.mp found).1
        obtain ⟨parent, upper⟩ : ∃ parent, (top :: rest)[(index - 1) / 2]? = some parent :=
          ⟨_, List.getElem?_eq_getElem (by omega)⟩
        exact (ordered index other parent found upper).trans
          (ih ((index - 1) / 2) (by omega) parent upper)
  intro other member
  obtain ⟨index, found⟩ := List.mem_iff_getElem?.mp member
  exact climbs index other found

end Order

/-! ## The container -/

theorem ordered_nil : Ordered key [] := by
  intro index child parent found
  cases found

/-- A vector that is ordered. -/
@[ext]
structure Heap where
  values : List α
  ordered : Ordered key values

namespace Heap

variable {key} {heap rest : Heap key} {top : α}

def push (heap : Heap key) (value : α) : Heap key :=
  ⟨pushHeap key heap.values value, heap.ordered.pushHeap value⟩

/-- The front, and the vector without it. -/
def pop (heap : Heap key) : Option (α × Heap key) :=
  match popped : popHeap key heap.values with
  | none => none
  | some (top, rest) => some (top, ⟨rest, heap.ordered.popHeap popped⟩)

theorem pop_eq_none : heap.pop = none ↔ heap.values = [] := by
  rw [← @popHeap_eq_none _ _ _ key]
  unfold pop
  split
  · rename_i refused
    exact iff_of_true rfl refused
  · rename_i first others popped
    refine iff_of_false (fun refused => ?_) (fun refused => ?_)
    · cases refused
    · cases popped.symm.trans refused

theorem pop_eq_some :
    heap.pop = some (top, rest) ↔ popHeap key heap.values = some (top, rest.values) := by
  obtain ⟨left, ordered⟩ := rest
  unfold pop
  split
  · rename_i refused
    refine iff_of_false (fun given => ?_) (fun taken => ?_)
    · cases given
    · cases refused.symm.trans taken
  · rename_i first others popped
    constructor
    · intro given
      cases given
      exact popped
    · intro taken
      cases popped.symm.trans taken
      rfl

/-- What is given up has a largest key. -/
theorem pop_maximal (popped : heap.pop = some (top, rest)) :
    ∀ other ∈ heap.values, ¬ key top < key other := by
  obtain ⟨values, ordered⟩ := heap
  have taken := pop_eq_some.mp popped
  cases values with
  | nil => cases taken
  | cons first others =>
    have front : first = top := (Prod.mk.inj (Option.some.inj taken)).1
    intro other member
    rw [← front]
    exact not_lt.mpr (ordered.le_front other member)

end Heap

/-- Ordered vectors, as a container that gives up the front. -/
def container : MaxContainer fun first second : α => key first < key second where
  Carrier := Heap key
  contents := fun heap => heap.values
  empty := ⟨[], ordered_nil key⟩
  push := Heap.push
  pop := Heap.pop
  contents_empty := rfl
  contents_push := fun _ _ => Multiset.coe_eq_coe.mpr pushHeap_perm
  contents_of_pop_none := fun refused => congrArg _ (Heap.pop_eq_none.mp refused)
  contents_of_pop := fun popped =>
    Multiset.coe_eq_coe.mpr (popHeap_perm (Heap.pop_eq_some.mp popped))
  maximal := fun popped other member => Heap.pop_maximal popped other member

/-! ## Keys only -/

section Map

variable (rename : γ → α) {value : γ} {values : List γ} {fuel hole : Nat}

theorem siftUp_map :
    (siftUp (key ∘ rename) value fuel values hole).map rename =
      siftUp key (rename value) fuel (values.map rename) hole := by
  induction fuel generalizing values hole with
  | zero => exact List.map_set
  | succ fuel ih =>
    rw [siftUp, siftUp, List.getElem?_map]
    cases values[(hole - 1) / 2]? with
    | none => exact List.map_set
    | some parent =>
      simp only [Option.map_some, Function.comp_apply]
      split
      · rw [ih, List.map_set]
      · exact List.map_set

theorem siftDown_map :
    siftDown key fuel (values.map rename) hole =
      ((siftDown (key ∘ rename) fuel values hole).1.map rename,
        (siftDown (key ∘ rename) fuel values hole).2) := by
  induction fuel generalizing values hole with
  | zero => rfl
  | succ fuel ih =>
    rw [siftDown, siftDown, List.getElem?_map, List.getElem?_map]
    cases values[2 * hole + 1]? with
    | none => rfl
    | some left =>
      cases values[2 * hole + 2]? with
      | none =>
        simp only [Option.map_some, Option.map_none, List.map_set]
      | some right =>
        simp only [Option.map_some, Function.comp_apply]
        split
        · rw [← List.map_set, ih]
        · rw [← List.map_set, ih]

theorem pushHeap_map :
    (pushHeap (key ∘ rename) values value).map rename =
      pushHeap key (values.map rename) (rename value) := by
  unfold pushHeap
  rw [siftUp_map, List.map_append, List.length_map, List.map_singleton]

theorem popHeap_map :
    popHeap key (values.map rename) =
      (popHeap (key ∘ rename) values).map (Prod.map rename (List.map rename)) := by
  cases values with
  | nil => rfl
  | cons top rest =>
    cases rest using List.reverseRecOn with
    | nil => rfl
    | append_singleton middle last =>
      have mapped : (top :: (middle ++ [last])).map rename =
          rename top :: (middle.map rename ++ [rename last]) := by
        rw [List.map_cons, List.map_append, List.map_singleton]
      rw [mapped, popHeap_concat, popHeap_concat, List.length_map, ← List.map_cons, siftDown_map]
      simp only [Option.map_some, Prod.map, siftUp_map]

end Map

/-! ## Equal keys -/

section Equal

variable {key} {value top : α} {values rest : List α} {fuel hole index : Nat}

/-- A hole does not rise past an equal parent. -/
theorem siftUp_equal (equal : ∀ other ∈ values, key other = key value) :
    siftUp key value fuel values hole = values.set hole value := by
  cases fuel with
  | zero => rfl
  | succ fuel =>
    rw [siftUp]
    split
    · rfl
    · rename_i parent found
      rw [if_neg]
      intro passes
      exact absurd (equal parent (List.mem_of_getElem? found)) passes.2.ne

/-- A value is pushed behind equal ones. -/
theorem pushHeap_equal (equal : ∀ other ∈ values, key other = key value) :
    pushHeap key values value = values ++ [value] := by
  have all : ∀ other ∈ values ++ [value], key other = key value := by
    rw [List.forall_mem_append]
    refine ⟨equal, fun other member => ?_⟩
    rw [List.mem_singleton.mp member]
  unfold pushHeap
  rw [siftUp_equal all, List.set_append_right _ _ (le_refl _), Nat.sub_self]
  rfl

/-- Of at most three equal values, the first is popped and the others stay in order. -/
theorem popHeap_equal_few (equal : ∀ other ∈ rest, key other = key top) (few : rest.length ≤ 2) :
    popHeap key (top :: rest) = some (top, rest) := by
  rcases rest with _ | ⟨second, _ | ⟨third, _ | ⟨fourth, others⟩⟩⟩
  · rfl
  · rfl
  · have stops : ¬ (0 < 1 ∧ key second < key third) := by
      rw [equal second (by simp), equal third (by simp)]
      exact fun passes => lt_irrefl _ passes.2
    have risen : siftUp key third 1 [second, second] 1 = [second, third] := if_neg stops
    exact congrArg (fun left => some (top, left)) risen
  · simp only [List.length_cons] at few
    omega

/-- A hole that sinks leaves what is before it alone. -/
theorem siftDown_before (before : index < hole) :
    (siftDown key fuel values hole).1[index]? = values[index]? ∧
      hole ≤ (siftDown key fuel values hole).2 := by
  induction fuel generalizing values hole with
  | zero => exact ⟨rfl, le_refl _⟩
  | succ fuel ih =>
    rw [siftDown]
    split
    · split
      · obtain ⟨kept, lower⟩ := @ih (values.set hole _) (2 * hole + 1) (by omega)
        rw [List.getElem?_set_ne (by omega)] at kept
        exact ⟨kept, by omega⟩
      · obtain ⟨kept, lower⟩ := @ih (values.set hole _) (2 * hole + 2) (by omega)
        rw [List.getElem?_set_ne (by omega)] at kept
        exact ⟨kept, by omega⟩
    · exact ⟨List.getElem?_set_ne (by omega), by dsimp only; omega⟩
    · exact ⟨rfl, le_refl _⟩

/-- A hole that sinks moves only values that are there. -/
theorem mem_of_mem_siftDown (member : value ∈ (siftDown key fuel values hole).1) :
    value ∈ values := by
  have moved : ∀ {values : List α} {hole index : Nat} {child : α}, values[index]? = some child →
      value ∈ values.set hole child → value ∈ values := by
    intro values hole index child found member
    rcases List.mem_or_eq_of_mem_set member with kept | equal
    · exact kept
    · rw [equal]
      exact List.mem_of_getElem? found
  induction fuel generalizing values hole with
  | zero => exact member
  | succ fuel ih =>
    rw [siftDown] at member
    split at member
    · rename_i left right foundLeft foundRight
      split at member
      · exact moved foundLeft (ih member)
      · exact moved foundRight (ih member)
    · rename_i left foundLeft _
      exact moved foundLeft member
    · exact member

/-- Of four or more equal values, the third one comes to the front after the first is popped. -/
theorem popHeap_equal_front {first second third fourth : α} {others : List α}
    (equal : ∀ other ∈ first :: second :: third :: fourth :: others, key other = key first) :
    ∃ rest, popHeap key (first :: second :: third :: fourth :: others) =
      some (first, third :: rest) := by
  -- The hole sinks to the right child first, and never comes back to the front.
  obtain ⟨middle, last, split⟩ : ∃ middle last, fourth :: others = middle ++ [last] :=
    ⟨_, _, (List.dropLast_append_getLast (List.cons_ne_nil fourth others)).symm⟩
  rw [split] at equal ⊢
  have sinks : siftDown key ((second :: third :: middle).length + 1)
      (first :: second :: third :: middle) 0 =
        siftDown key (second :: third :: middle).length
          (third :: second :: third :: middle) 2 := by
    have least : ¬ key third < key second := by
      rw [equal second (by simp), equal third (by simp)]
      exact lt_irrefl _
    rw [siftDown]
    exact if_neg least
  obtain ⟨front, low⟩ := @siftDown_before _ _ _ key (third :: second :: third :: middle)
    (second :: third :: middle).length 2 0 (Nat.succ_pos 1)
  have whole : first :: second :: third :: (middle ++ [last]) =
      first :: ((second :: third :: middle) ++ [last]) := rfl
  rw [whole, popHeap_concat, sinks, siftUp_equal]
  · generalize siftDown key (second :: third :: middle).length
      (third :: second :: third :: middle) 2 = sunk at front low ⊢
    obtain ⟨values, hole⟩ := sunk
    have kept : (values.set hole last)[0]? = some third := by
      rw [List.getElem?_set_ne (by dsimp only at low; omega)]
      exact front
    obtain ⟨rest, shape⟩ := List.head?_eq_some_iff.mp (List.head?_eq_getElem?.trans kept)
    exact ⟨rest, congrArg some (congrArg (Prod.mk first) shape)⟩
  · intro other member
    have there := mem_of_mem_siftDown member
    rw [equal other (by simp at there ⊢; tauto), equal last (by simp)]

end Equal

end BinaryHeap
