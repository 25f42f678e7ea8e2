import Mathlib.Tactic.TypeStar

/-! # Runs of labelled transition systems

A system has states `σ` and labelled steps. What is not determined by the state, such
as which thread moves, is in the label. A run starts in an initial state and takes
steps that are permitted in the state in which they start. An invariant of all runs
is shown by what one permitted step preserves (`Run.invariant`). A finite list of
labels is executed by `execute`.
-/

namespace Transition

variable {σ κ : Type*}

/-- The states that permitted steps lead to. -/
inductive Run (initial : σ → Prop) (step : σ → κ → σ) (permitted : σ → κ → Prop) : σ → Prop where
  | start {state : σ} (fresh : initial state) : Run initial step permitted state
  | step {state : σ} (run : Run initial step permitted state) (label : κ)
      (allowed : permitted state label) : Run initial step permitted (step state label)

/-- Every step is permitted. -/
def unrestricted (_ : σ) (_ : κ) : Prop := True

/-- Take the steps of a list of labels. -/
def execute (step : σ → κ → σ) (state : σ) (labels : List κ) : σ := labels.foldl step state

/-- Every step of the list is permitted when it is taken. -/
def Permits (step : σ → κ → σ) (permitted : σ → κ → Prop) : σ → List κ → Prop
  | _, [] => True
  | state, label :: labels =>
    permitted state label ∧ Permits step permitted (step state label) labels

instance Permits.decidable (step : σ → κ → σ) (permitted : σ → κ → Prop)
    [∀ state label, Decidable (permitted state label)] :
    ∀ (state : σ) (labels : List κ), Decidable (Permits step permitted state labels)
  | _, [] => inferInstanceAs (Decidable True)
  | state, label :: labels =>
    have := Permits.decidable step permitted (step state label) labels
    inferInstanceAs (Decidable (_ ∧ _))

/-- What the steps of a list put out, in this order. -/
def outputs {α : Type*} (step : σ → κ → σ) (emit : σ → κ → List α) : σ → List κ → List α
  | _, [] => []
  | state, label :: labels => emit state label ++ outputs step emit (step state label) labels

/-- The next value of what is observed, if the steps of the list change it. -/
def nextValue {α : Type*} [DecidableEq α] (step : σ → κ → σ) (observe : σ → α) :
    σ → List κ → Option α
  | _, [] => none
  | state, label :: labels =>
    if observe (step state label) = observe state then
      nextValue step observe (step state label) labels
    else some (observe (step state label))

variable {initial : σ → Prop} {step : σ → κ → σ} {permitted : σ → κ → Prop} {state : σ}
  {labels : List κ} {other : σ → κ → Prop}

/-- What holds initially and is preserved by every permitted step holds in every state of
every run. -/
theorem Run.invariant (run : Run initial step permitted state) (invariant : σ → Prop)
    (base : ∀ state, initial state → invariant state)
    (preserved : ∀ state label, invariant state → permitted state label →
      invariant (step state label)) : invariant state := by
  induction run with
  | start fresh => exact base _ fresh
  | step _ label allowed ih => exact preserved _ label ih allowed

theorem Run.execute (run : Run initial step permitted state)
    (allowed : Permits step permitted state labels) :
    Run initial step permitted (Transition.execute step state labels) := by
  induction labels generalizing state with
  | nil => exact run
  | cons label labels ih => exact ih (run.step label allowed.1) allowed.2

theorem permits_congr (same : ∀ state label, permitted state label ↔ other state label) (state : σ)
    (labels : List κ) : Permits step permitted state labels ↔ Permits step other state labels := by
  induction labels generalizing state with
  | nil => exact Iff.rfl
  | cons label labels ih => exact and_congr (same state label) (ih (step state label))

/-- What an invariant gives for every permitted step holds along a list of permitted steps. -/
theorem Permits.imp (allowed : Permits step permitted state labels) (invariant : σ → Prop)
    (preserved : ∀ state label, invariant state → permitted state label →
      invariant (step state label))
    (gives : ∀ state label, invariant state → permitted state label → other state label)
    (holds : invariant state) : Permits step other state labels := by
  induction labels generalizing state with
  | nil => trivial
  | cons label labels ih =>
    exact ⟨gives state label holds allowed.1, ih allowed.2 (preserved state label holds allowed.1)⟩

theorem permits_unrestricted (step : σ → κ → σ) (state : σ) (labels : List κ) :
    Permits step unrestricted state labels := by
  induction labels generalizing state with
  | nil => trivial
  | cons label labels ih => exact ⟨trivial, ih (step state label)⟩

/-- A property that exactly the permitted steps keep holds all along a list of steps exactly
if every one of them is permitted. -/
theorem permits_iff_forall_take {invariant : σ → Prop} (exact : ∀ state label, invariant state →
      (permitted state label ↔ invariant (step state label))) (holds : invariant state)
    (labels : List κ) :
    Permits step permitted state labels ↔
      ∀ count, invariant (Transition.execute step state (labels.take count)) := by
  induction labels generalizing state with
  | nil =>
    refine iff_of_true trivial fun count => ?_
    rw [List.take_nil]
    exact holds
  | cons label labels ih =>
    constructor
    · rintro ⟨allowed, rest⟩ count
      have next := (exact state label holds).mp allowed
      cases count with
      | zero => exact holds
      | succ count => exact (ih next).mp rest count
    · intro always
      have next : invariant (step state label) := always 1
      exact ⟨(exact state label holds).mpr next, (ih next).mpr fun count => always (count + 1)⟩

/-- A queue: if every step adds at its end and takes from its front, then what a list of steps
takes is what was there and what it adds, in order, up to what is left. -/
theorem outputs_queue {α : Type*} {held : σ → List α} {added taken : σ → κ → List α}
    (balance : ∀ state label,
      held state ++ added state label = taken state label ++ held (step state label))
    (state : σ) (labels : List κ) :
    held state ++ outputs step added state labels =
      outputs step taken state labels ++ held (Transition.execute step state labels) := by
  induction labels generalizing state with
  | nil => exact List.append_nil _
  | cons label labels ih =>
    rw [outputs, outputs, ← List.append_assoc, balance, List.append_assoc, ih, ← List.append_assoc]
    rfl

/-- A value that every permitted step either keeps or changes to one other value. -/
theorem nextValue_of_steps {α : Type*} [DecidableEq α] {observe : σ → α} {before after : α}
    (invariant : σ → Prop) (preserved : ∀ state label, invariant state → permitted state label →
      invariant (step state label))
    (changes : ∀ state label, invariant state → permitted state label → observe state = before →
      observe (step state label) = before ∨ observe (step state label) = after)
    (holds : invariant state) (starts : observe state = before)
    (allowed : Permits step permitted state labels) :
    nextValue step observe state labels = none ∨
      nextValue step observe state labels = some after := by
  induction labels generalizing state with
  | nil => exact .inl rfl
  | cons label labels ih =>
    have next := ih (preserved state label holds allowed.1)
    rw [nextValue, starts]
    split
    · exact next ‹_› allowed.2
    · rename_i changed
      obtain kept | moved := changes state label holds allowed.1 starts
      · exact absurd kept changed
      · exact .inr (congrArg some moved)

end Transition
