import Mathlib.Data.List.Nodup
import Mathlib.Data.List.Perm.Basic
import Mathlib.Data.Set.Card

/-! # Lists as finite maps

A list of entries with different keys represents a finite map from keys to entries
(`Represents`). Adding an entry at the end, taking one out and changing all entries
under their keys have the expected effect on the map, and the order of the entries
does not matter.
-/

namespace KeyedList

variable {ε κ : Type*} {key : ε → κ}

structure Represents (key : ε → κ) (entries : List ε) (map : κ → Option ε) : Prop where
  nodup : (entries.map key).Nodup
  lookup : ∀ name entry, map name = some entry ↔ entry ∈ entries ∧ key entry = name

theorem represents_nil (key : ε → κ) : Represents key [] fun _ => none where
  nodup := List.nodup_nil
  lookup := by simp

namespace Represents

variable {entries other : List ε} {map : κ → Option ε} {entry : ε}

section

variable (represents : Represents key entries map)
include represents

theorem perm (same : other.Perm entries) :
    Represents key other map where
  nodup := (same.map key).nodup_iff.mpr represents.nodup
  lookup := fun name entry => by rw [represents.lookup, same.mem_iff]

theorem isSome_iff (name : κ) : (map name).isSome ↔ ∃ entry ∈ entries, key entry = name := by
  rw [Option.isSome_iff_exists]
  exact exists_congr fun entry => represents.lookup name entry

theorem names_eq [DecidableEq κ] :
    {name | (map name).isSome} = ((entries.map key).toFinset : Set κ) := by
  ext name
  rw [Set.mem_ofPred_eq, represents.isSome_iff, List.coe_toFinset, Set.mem_ofPred_eq, List.mem_map]

theorem finite_names : {name | (map name).isSome}.Finite := by
  classical
  rw [represents.names_eq]
  exact Finset.finite_toSet _

/-- The number of names is the number of entries. -/
theorem ncard_eq : {name | (map name).isSome}.ncard = entries.length := by
  classical
  rw [represents.names_eq, Set.ncard_coe_finset, List.toFinset_card_of_nodup represents.nodup,
    List.length_map]

theorem mem_iff (entry : ε) : entry ∈ entries ↔ map (key entry) = some entry := by
  rw [represents.lookup]
  exact (and_iff_left rfl).symm

theorem nodup_entries : entries.Nodup :=
  represents.nodup.of_map key

end

variable [DecidableEq κ]

/-- Add an entry under a new name. -/
theorem append (represents : Represents key entries map) (absent : map (key entry) = none) :
    Represents key (entries ++ [entry]) (Function.update map (key entry) (some entry)) where
  nodup := by
    rw [List.map_append, List.map_singleton, List.nodup_append]
    refine ⟨represents.nodup, List.nodup_singleton _, ?_⟩
    intro name member other single same
    obtain ⟨held, heldMember, heldName⟩ := List.mem_map.mp member
    have found := (represents.lookup name held).mpr ⟨heldMember, heldName⟩
    rw [same, List.mem_singleton.mp single, absent] at found
    cases found
  lookup := by
    intro name found
    by_cases same : name = key entry
    · subst same
      rw [Function.update_self, List.mem_append, List.mem_singleton]
      constructor
      · rintro ⟨⟩
        exact ⟨.inr rfl, rfl⟩
      · rintro ⟨member | rfl, named⟩
        · have held := (represents.lookup (key entry) found).mpr ⟨member, named⟩
          rw [absent] at held
          cases held
        · rfl
    · rw [Function.update_of_ne same, represents.lookup, List.mem_append, List.mem_singleton]
      constructor
      · exact fun held => ⟨.inl held.1, held.2⟩
      · rintro ⟨member | rfl, named⟩
        · exact ⟨member, named⟩
        · exact absurd named.symm same

/-- Take an entry out. -/
theorem remove (represents : Represents key (entry :: entries) map) :
    Represents key entries (Function.update map (key entry) none) where
  nodup := (List.nodup_cons.mp represents.nodup).2
  lookup := by
    intro name found
    by_cases same : name = key entry
    · subst same
      rw [Function.update_self]
      refine ⟨nofun, fun held => ?_⟩
      have absent := (List.nodup_cons.mp represents.nodup).1
      exact absurd (List.mem_map.mpr ⟨found, held.1, held.2⟩) absent
    · rw [Function.update_of_ne same, represents.lookup, List.mem_cons]
      constructor
      · rintro ⟨rfl | member, named⟩
        · exact absurd named.symm same
        · exact ⟨member, named⟩
      · exact fun held => ⟨.inr held.1, held.2⟩

omit [DecidableEq κ] in
/-- Change or drop each entry under its name. -/
theorem filterMap (represents : Represents key entries map) {change : ε → Option ε}
    (keeps : ∀ entry changed, change entry = some changed → key changed = key entry) :
    Represents key (entries.filterMap change) fun name => (map name).bind change where
  nodup := by
    have names : (entries.filterMap change).map key =
        (entries.filter fun entry => (change entry).isSome).map key := by
      clear represents
      induction entries with
      | nil => rfl
      | cons entry rest ih =>
        cases changed : change entry with
        | none => simpa [changed] using ih
        | some other => simpa [changed, keeps entry other changed] using ih
    rw [names]
    exact represents.nodup.sublist (List.filter_sublist.map key)
  lookup := by
    intro name found
    rw [Option.bind_eq_some_iff, List.mem_filterMap]
    constructor
    · rintro ⟨entry, held, changed⟩
      obtain ⟨member, named⟩ := (represents.lookup name entry).mp held
      exact ⟨⟨entry, member, changed⟩, (keeps entry found changed).trans named⟩
    · rintro ⟨⟨entry, member, changed⟩, named⟩
      have same : key entry = name := (keeps entry found changed).symm.trans named
      exact ⟨entry, (represents.lookup name entry).mpr ⟨member, same⟩, changed⟩

end Represents

end KeyedList
