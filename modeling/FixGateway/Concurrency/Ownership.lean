import Mathlib.Data.List.Nodup
import Mathlib.Data.List.Perm.Basic
import Mathlib.Logic.Function.Basic

/-! # Items divided over places

`content` says which items lie at each place: in a shared structure, in the hands of
a thread and so on. When the items are divided, each item lies at exactly one place
and once there. Moving an item from one place to another keeps this (`Divided.move`), and
so do adding an item at a place and removing one (`Divided.insert`, `Divided.remove`).
Likewise, a critical point of a program that only one thread enters at a time is never
shared (`exclusive_update`).
-/

namespace Ownership

variable {ρ π : Type*}

structure Divided (item : ρ → Prop) (content : π → List ρ) : Prop where
  nodup : ∀ place, (content place).Nodup
  disjoint : ∀ first second, first ≠ second → (content first).Disjoint (content second)
  covers : ∀ value, item value ↔ ∃ place, value ∈ content place

section Lemmas

variable {item : ρ → Prop} {content after : π → List ρ} {source target : π} {value : ρ}

section

variable (divided : Divided item content)
include divided

/-- The order of the items at a place does not matter. -/
theorem Divided.perm (same : ∀ place, (after place).Perm (content place)) : Divided item after where
  nodup := fun place => (same place).nodup_iff.mpr (divided.nodup place)
  disjoint := fun first second differ value here there =>
    divided.disjoint first second differ ((same first).mem_iff.mp here)
      ((same second).mem_iff.mp there)
  covers := fun value => by
    rw [divided.covers]
    exact exists_congr fun place => (same place).mem_iff.symm

/-- Where the items are after one of them was moved. -/
theorem Divided.mem_move (differ : source ≠ target)
    (lost : (content source).Perm (value :: after source))
    (gained : (after target).Perm (value :: content target))
    (others : ∀ place, place ≠ source → place ≠ target → after place = content place)
    (place : π) (other : ρ) :
    other ∈ after place ↔
      other = value ∧ place = target ∨ other ≠ value ∧ other ∈ content place := by
  have distinct := (lost.nodup_iff.mp (divided.nodup source))
  rw [List.nodup_cons] at distinct
  have here : value ∈ content source := lost.mem_iff.mpr List.mem_cons_self
  have only : ∀ place, value ∈ content place → place = source := by
    intro place there
    by_contra elsewhere
    exact divided.disjoint place source elsewhere there here
  by_cases given : place = target
  · subst given
    rw [gained.mem_iff, List.mem_cons]
    by_cases same : other = value
    · simp [same]
    · simp [same]
  · by_cases taken : place = source
    · subst taken
      rw [lost.mem_iff, List.mem_cons]
      by_cases same : other = value
      · subst same
        simp [given, distinct.1]
      · simp [same]
    · rw [others place taken given]
      by_cases same : other = value
      · subst same
        simp only [given, and_false, ne_eq, not_true_eq_false, false_and, or_false, iff_false]
        exact fun there => taken (only place there)
      · simp [same]

/-- Moving an item from one place to another keeps the items divided. -/
theorem Divided.move (source target : π) (value : ρ)
    (differ : source ≠ target) (lost : (content source).Perm (value :: after source))
    (gained : (after target).Perm (value :: content target))
    (others : ∀ place, place ≠ source → place ≠ target → after place = content place) :
    Divided item after := by
  have moved := divided.mem_move differ lost gained others
  have here : value ∈ content source := lost.mem_iff.mpr List.mem_cons_self
  refine ⟨fun place => ?_, fun first second apart other here there => ?_, fun other => ?_⟩
  · by_cases given : place = target
    · subst given
      refine gained.nodup_iff.mpr (List.nodup_cons.mpr ⟨fun there => ?_, divided.nodup place⟩)
      exact divided.disjoint source place differ here there
    · by_cases taken : place = source
      · subst taken
        exact (List.nodup_cons.mp (lost.nodup_iff.mp (divided.nodup place))).2
      · rw [others place taken given]
        exact divided.nodup place
  · rcases (moved first other).mp here with ⟨same, atFirst⟩ | ⟨different, here⟩
    · rcases (moved second other).mp there with ⟨-, atSecond⟩ | ⟨different, -⟩
      · exact apart (atFirst.trans atSecond.symm)
      · exact different same
    · rcases (moved second other).mp there with ⟨same, -⟩ | ⟨-, there⟩
      · exact different same
      · exact divided.disjoint first second apart here there
  · rw [divided.covers]
    constructor
    · rintro ⟨place, there⟩
      by_cases same : other = value
      · exact ⟨target, (moved target other).mpr (.inl ⟨same, rfl⟩)⟩
      · exact ⟨place, (moved place other).mpr (.inr ⟨same, there⟩)⟩
    · rintro ⟨place, there⟩
      rcases (moved place other).mp there with ⟨rfl, -⟩ | ⟨-, there⟩
      · exact ⟨source, here⟩
      · exact ⟨place, there⟩

/-- A new item is put at a place. -/
theorem Divided.insert (target : π) (absent : ¬ item value)
    (gained : (after target).Perm (value :: content target))
    (others : ∀ place, place ≠ target → after place = content place) :
    Divided (fun other => other = value ∨ item other) after := by
  have nowhere : ∀ place, value ∉ content place :=
    fun place there => absent ((divided.covers value).mpr ⟨place, there⟩)
  have member : ∀ place other,
      other ∈ after place ↔ other = value ∧ place = target ∨ other ∈ content place := by
    intro place other
    by_cases given : place = target
    · subst given
      simp [gained.mem_iff]
    · simp [others place given, given]
  refine ⟨fun place => ?_, fun first second apart other here there => ?_, fun other => ?_⟩
  · by_cases given : place = target
    · subst given
      exact gained.nodup_iff.mpr (List.nodup_cons.mpr ⟨nowhere place, divided.nodup place⟩)
    · rw [others place given]
      exact divided.nodup place
  · rcases (member first other).mp here with ⟨same, atFirst⟩ | here
    · rcases (member second other).mp there with ⟨-, atSecond⟩ | there
      · exact apart (atFirst.trans atSecond.symm)
      · exact nowhere second (same ▸ there)
    · rcases (member second other).mp there with ⟨same, -⟩ | there
      · exact nowhere first (same ▸ here)
      · exact divided.disjoint first second apart here there
  · simp only [member, divided.covers]
    constructor
    · rintro (same | ⟨place, there⟩)
      · exact ⟨target, .inl ⟨same, rfl⟩⟩
      · exact ⟨place, .inr there⟩
    · rintro ⟨place, ⟨same, -⟩ | there⟩
      · exact .inl same
      · exact .inr ⟨place, there⟩

end

section Remove

variable (source value) (divided : Divided item content)
  (lost : (content source).Perm (value :: after source))
  (others : ∀ place, place ≠ source → after place = content place)

include divided lost others

theorem Divided.mem_remove (place : π) (other : ρ) :
    other ∈ after place ↔ other ∈ content place ∧ other ≠ value := by
  have distinct := lost.nodup_iff.mp (divided.nodup source)
  rw [List.nodup_cons] at distinct
  by_cases taken : place = source
  · subst taken
    rw [lost.mem_iff, List.mem_cons]
    by_cases same : other = value
    · simp [same, distinct.1]
    · simp [same]
  · rw [others place taken]
    refine (and_iff_left_of_imp fun there same => ?_).symm
    have here : value ∈ content source := lost.mem_iff.mpr List.mem_cons_self
    exact divided.disjoint place source taken there (same ▸ here)

/-- An item is taken away from its place. -/
theorem Divided.remove : Divided (fun other => item other ∧ other ≠ value) after := by
  have member := divided.mem_remove source value lost others
  refine ⟨fun place => ?_, fun first second apart other here there => ?_, fun other => ?_⟩
  · by_cases taken : place = source
    · subst taken
      exact (List.nodup_cons.mp (lost.nodup_iff.mp (divided.nodup place))).2
    · rw [others place taken]
      exact divided.nodup place
  · exact divided.disjoint first second apart ((member first other).mp here).1
      ((member second other).mp there).1
  · simp only [member, divided.covers, exists_and_right]

/-- An item that is still there must not be taken from its place. -/
theorem Divided.not_divided : ¬ Divided item after := by
  intro still
  have here : item value := (divided.covers value).mpr ⟨source, lost.mem_iff.mpr List.mem_cons_self⟩
  obtain ⟨place, there⟩ := (still.covers value).mp here
  exact ((divided.mem_remove source value lost others place value).mp there).2 rfl

end Remove

theorem Divided.congr {other : ρ → Prop} (divided : Divided item content)
    (same : ∀ value, other value ↔ item value) : Divided other content :=
  ⟨divided.nodup, divided.disjoint, fun value => (same value).trans (divided.covers value)⟩

end Lemmas

/-- At most one thread is at a point of some kind. This stays so when a thread moves to such
a point only if no other thread is at one. -/
theorem exclusive_update {β : Type*} [DecidableEq π] {point : π → β} {kind : β → Bool} {thread : π}
    {next : β} (exclusive : ∀ first second, kind (point first) = true → kind (point second) = true →
      first = second)
    (alone : kind next = true → ∀ other, other ≠ thread → kind (point other) = false)
    (first second : π) (firstThere : kind (Function.update point thread next first) = true)
    (secondThere : kind (Function.update point thread next second) = true) : first = second := by
  have stayed : ∀ other, other ≠ thread → kind (Function.update point thread next other) = true →
      kind (point other) = true ∧ kind next = false := by
    intro other differs there
    rw [Function.update_of_ne differs] at there
    refine ⟨there, Bool.not_eq_true _ |>.mp fun moved => ?_⟩
    rw [alone moved other differs] at there
    cases there
  by_cases isFirst : first = thread
  · by_cases isSecond : second = thread
    · exact isFirst.trans isSecond.symm
    · rw [isFirst, Function.update_self, (stayed second isSecond secondThere).2] at firstThere
      cases firstThere
  · obtain ⟨there, notMoved⟩ := stayed first isFirst firstThere
    by_cases isSecond : second = thread
    · rw [isSecond, Function.update_self, notMoved] at secondThere
      cases secondThere
    · exact exclusive first second there (stayed second isSecond secondThere).1

end Ownership
