import Mathlib.Data.Multiset.Basic
import Mathlib.Order.Lattice

/-! # Containers that give up a maximal value

A priority queue is told apart from other containers by what `pop` returns: a value that
is not below any value of the container. Which of several such values it is, and how the
container is laid out, is left to the implementation. `MaxContainer.ofKey` is an
implementation for a comparison of keys.
-/

/-- An implementation of a priority queue for a comparison of values. -/
structure MaxContainer {α : Type} (below : α → α → Prop) where
  Carrier : Type
  contents : Carrier → Multiset α
  empty : Carrier
  push : Carrier → α → Carrier
  pop : Carrier → Option (α × Carrier)
  contents_empty : contents empty = 0
  contents_push : ∀ carrier value, contents (push carrier value) = value ::ₘ contents carrier
  contents_of_pop_none : ∀ {carrier}, pop carrier = none → contents carrier = 0
  contents_of_pop : ∀ {carrier value rest}, pop carrier = some (value, rest) →
    contents carrier = value ::ₘ contents rest
  maximal : ∀ {carrier value rest}, pop carrier = some (value, rest) →
    ∀ other ∈ contents carrier, ¬ below value other

namespace MaxContainer

/-- A map of carriers under which one implementation does what another does. -/
structure Hom {α : Type} {below : α → α → Prop} (source target : MaxContainer below) where
  map : source.Carrier → target.Carrier
  contents : ∀ carrier, target.contents (map carrier) = source.contents carrier
  empty : map source.empty = target.empty
  push : ∀ carrier value, map (source.push carrier value) = target.push (map carrier) value
  pop : ∀ carrier, target.pop (map carrier) = (source.pop carrier).map (Prod.map id map)

variable {α β : Type} [LinearOrder β] {key : α → β} {values : List α}

/-- A value with a largest key, and the other values. -/
def takeMax (key : α → β) : List α → Option (α × List α)
  | [] => none
  | first :: rest =>
    match takeMax key rest with
    | none => some (first, [])
    | some (best, others) =>
      if key first < key best then some (best, first :: others) else some (first, rest)

theorem takeMax_none (none : takeMax key values = none) : values = [] := by
  cases values with
  | nil => rfl
  | cons first rest =>
    rw [takeMax] at none
    split at none
    · cases none
    · split at none <;> cases none

theorem takeMax_some {rest : List α} {best : α} (taken : takeMax key values = some (best, rest)) :
    values.Perm (best :: rest) ∧ ∀ other ∈ values, key other ≤ key best := by
  induction values generalizing best rest with
  | nil => cases taken
  | cons first values ih =>
    rw [takeMax] at taken
    split at taken
    · rename_i none
      cases taken
      rw [takeMax_none none]
      exact ⟨List.Perm.refl _, fun other member => by
        rw [List.mem_singleton.mp member]⟩
    · rename_i top others found
      obtain ⟨perm, bound⟩ := ih found
      split at taken
      · rename_i less
        cases taken
        refine ⟨(perm.cons first).trans (List.Perm.swap ..), fun other member => ?_⟩
        rcases List.mem_cons.mp member with same | member
        · rw [same]
          exact less.le
        · exact bound other member
      · rename_i least
        cases taken
        refine ⟨List.Perm.refl _, fun other member => ?_⟩
        rcases List.mem_cons.mp member with same | member
        · rw [same]
        · exact (bound other member).trans (not_lt.mp least)

/-- Values in a list, of which one with a largest key is given up. -/
def ofKey (key : α → β) : MaxContainer fun first second => key first < key second where
  Carrier := List α
  contents := fun values => values
  empty := []
  push := fun values value => value :: values
  pop := takeMax key
  contents_empty := rfl
  contents_push := fun _ _ => rfl
  contents_of_pop_none := fun none => by rw [takeMax_none none]; rfl
  contents_of_pop := fun taken => Quot.sound (takeMax_some taken).1
  maximal := fun taken other member => not_lt.mpr ((takeMax_some taken).2 other member)

/-- The value given up has a smallest key only if all keys are the same. -/
theorem pop_least_iff (container : MaxContainer fun first second => key first < key second)
    {carrier rest : container.Carrier} {value : α}
    (popped : container.pop carrier = some (value, rest)) :
    (∀ other ∈ container.contents carrier, key value ≤ key other) ↔
      ∀ first ∈ container.contents carrier, ∀ second ∈ container.contents carrier,
        key first = key second := by
  have largest := container.maximal popped
  have member : value ∈ container.contents carrier := by
    rw [container.contents_of_pop popped]
    exact Multiset.mem_cons_self ..
  constructor
  · intro least first inFirst second inSecond
    have same : ∀ other ∈ container.contents carrier, key other = key value :=
      fun other inside => le_antisymm (not_lt.mp (largest other inside)) (least other inside)
    rw [same first inFirst, same second inSecond]
  · intro equal other inside
    exact (equal value member other inside).le

end MaxContainer
