import Mathlib.Data.List.Nodup
import Mathlib.Logic.Function.Basic

/-! # Linked lists in an array of indices

A linked list can be threaded through an array: `next` gives the index after each
index, and -1 ends the list. `Chain next head indices` says that following `next`
from `head` on reads these indices.
-/

namespace IndexChain

def Chain (next : Nat → Int) : Int → List Nat → Prop
  | head, [] => head = -1
  | head, index :: rest => head = index ∧ Chain next (next index) rest

section Lemmas

variable {next : Nat → Int} {head : Int} {indices : List Nat} {index : Nat}

/-- Writing to an index that is not on the list does not change it. -/
theorem Chain.update (chain : Chain next head indices) (absent : index ∉ indices) (value : Int) :
    Chain (Function.update next index value) head indices := by
  induction indices generalizing head with
  | nil => exact chain
  | cons first rest ih =>
    have differs : first ≠ index := fun same => absent (same ▸ List.mem_cons_self)
    refine ⟨chain.1, ?_⟩
    rw [Function.update_of_ne differs]
    exact ih chain.2 fun member => absent (List.mem_cons_of_mem _ member)

/-- Put a new index in front of the list. -/
theorem Chain.push (chain : Chain next head indices) (absent : index ∉ indices) :
    Chain (Function.update next index head) index (index :: indices) := by
  refine ⟨rfl, ?_⟩
  rw [Function.update_self]
  exact chain.update absent head

/-- An array in which each index leads to the one after it, up to the last. -/
theorem chain_range (count start : Nat)
    (forward : ∀ index, start ≤ index → index < start + count → next index = (index + 1 : Nat))
    (last : next (start + count) = -1) : Chain next start (List.range' start (count + 1)) := by
  induction count generalizing start with
  | zero => exact ⟨rfl, last⟩
  | succ count ih =>
    rw [List.range'_succ]
    refine ⟨rfl, ?_⟩
    rw [forward start (Nat.le_refl _) (by omega)]
    refine ih (start + 1) (fun index low high => forward index (by omega) (by omega)) ?_
    rw [← last]
    congr 1
    omega

end Lemmas

end IndexChain
