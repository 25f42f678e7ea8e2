import FixGateway.Memory.Number
import Mathlib.Data.Nat.Bitwise
import Mathlib.Logic.Function.Basic

/-! # Rings of cells

A ring of `capacity` cells holds the end of a sequence that grows at one end and is
consumed at the other: the element at position `index` lies in the cell
`index % capacity`. One cell always stays unused, so the two ends meet only when
nothing is held (`Holds.mod_eq_iff`), and the ring is full when the next position would
meet the first (`Holds.mod_succ_eq_iff`).

The capacity of a ring with masked indices is a power of two, which is found by
spreading the highest bit of a number to the right (`Spread`). Masking an index with one less
than the capacity is taking it modulo the capacity (`and_wrapSize_pow_sub_one`).
-/

namespace CellRing

open ByteScan

variable {α : Type*} {capacity exponent : Nat}

/-- The cells hold the elements of the sequence from position `first` on. -/
structure Holds (cells : Nat → α) (capacity : Nat) (sequence : List α) (first : Nat) : Prop where
  le : first ≤ sequence.length
  room : sequence.length < first + capacity
  cell : ∀ index value, first ≤ index → sequence[index]? = some value →
    cells (index % capacity) = value

section Holds

variable {cells : Nat → α} {capacity first : Nat} {sequence : List α}

theorem eq_of_mod_eq {low high : Nat} (le : low ≤ high) (near : high < low + capacity)
    (same : low % capacity = high % capacity) : low = high := by
  have multiple : (high - low) % capacity = 0 := Nat.sub_mod_eq_zero_of_mod_eq same.symm
  rw [Nat.mod_eq_of_lt (by omega)] at multiple
  omega

theorem holds_nil (cells : Nat → α) (positive : 0 < capacity) : Holds cells capacity [] 0 where
  le := Nat.le_refl 0
  room := by
    rw [List.length_nil]
    omega
  cell := nofun

namespace Holds

section

variable (holds : Holds cells capacity sequence first)
include holds

/-- The two ends meet exactly when nothing is held. -/
theorem mod_eq_iff : first % capacity = sequence.length % capacity ↔ first = sequence.length :=
  ⟨eq_of_mod_eq holds.le holds.room, congrArg (· % capacity)⟩

/-- The end would meet the front exactly when one cell is left. -/
theorem mod_succ_eq_iff :
    (sequence.length + 1) % capacity = first % capacity ↔
      sequence.length + 1 = first + capacity := by
  have room := holds.room
  have le := holds.le
  constructor
  · intro same
    rw [← Nat.add_mod_right first capacity] at same
    exact eq_of_mod_eq room (by omega) same
  · intro full
    rw [full, Nat.add_mod_right]

/-- The cell at the front holds the first element. -/
theorem read (nonempty : first < sequence.length) :
    sequence[first]? = some (cells (first % capacity)) := by
  have found : sequence[first]? = some sequence[first] := List.getElem?_eq_getElem nonempty
  rw [holds.cell first sequence[first] (Nat.le_refl first) found]
  exact found

/-- Writing the unused cell changes no element. -/
theorem write (value : α) :
    Holds (Function.update cells (sequence.length % capacity) value) capacity sequence first where
  le := holds.le
  room := holds.room
  cell := by
    intro index other low found
    have inside : index < sequence.length := (List.getElem?_eq_some_iff.mp found).1
    have room := holds.room
    have differs : index % capacity ≠ sequence.length % capacity := by
      intro same
      have equal := eq_of_mod_eq (Nat.le_of_lt inside) (by omega) same
      omega
    rw [Function.update_of_ne differs]
    exact holds.cell index other low found

/-- The element in the unused cell becomes part of the sequence. -/
theorem append {value : α} (written : cells (sequence.length % capacity) = value)
    (room : sequence.length + 1 < first + capacity) :
    Holds cells capacity (sequence ++ [value]) first where
  le := by
    have le := holds.le
    rw [List.length_append, List.length_singleton]
    omega
  room := by
    rw [List.length_append, List.length_singleton]
    exact room
  cell := by
    intro index other low found
    by_cases inside : index < sequence.length
    · rw [List.getElem?_append_left inside] at found
      exact holds.cell index other low found
    · have last : index = sequence.length := by
        have bound := (List.getElem?_eq_some_iff.mp found).1
        rw [List.length_append, List.length_singleton] at bound
        omega
      rw [last, List.getElem?_concat_length] at found
      rw [last, written, Option.some.inj found]

/-- The first element is consumed. -/
theorem advance (nonempty : first < sequence.length) :
    Holds cells capacity sequence (first + 1) where
  le := nonempty
  room := by
    have room := holds.room
    omega
  cell := fun index value low found => holds.cell index value (by omega) found

/-- The number of elements that are held, from the two ends as machine words. -/
theorem length_sub {exponent : Nat} (power : capacity = 2 ^ exponent) (word : exponent ≤ 64) :
    wrapSize ((sequence.length % capacity : Nat) - (first % capacity : Nat)) % capacity =
      sequence.length - first := by
  have room := holds.room
  have le := holds.le
  have divides : (2 : Int) ^ exponent ∣ 2 ^ 64 := pow_dvd_pow 2 word
  have integers : ((wrapSize ((sequence.length % capacity : Nat) -
      (first % capacity : Nat)) % capacity : Nat) : Int) = (sequence.length - first : Nat) := by
    rw [Int.natCast_mod, wrapSize_cast, power, Nat.cast_pow, Nat.cast_ofNat,
      Int.emod_emod_of_dvd _ divides, Int.natCast_mod, Int.natCast_mod, Nat.cast_pow,
      Nat.cast_ofNat, ← Int.sub_emod, ← Int.natCast_sub le]
    rw [power] at room
    refine Int.emod_eq_of_lt (Int.natCast_nonneg _) ?_
    have bound : sequence.length - first < 2 ^ exponent := by omega
    exact_mod_cast bound
  exact_mod_cast integers

end

end Holds

end Holds

/-! ## Spreading the highest bit -/

/-- A bit of `spread` is set when `number` has a bit less than `reach` to the left of it. -/
def Spread (number spread reach : Nat) : Prop :=
  ∀ bit, spread.testBit bit = true ↔ ∃ distance < reach, number.testBit (bit + distance) = true

section Spread

variable {number spread reach : Nat}

theorem spread_self (number : Nat) : Spread number number 1 := by
  intro bit
  constructor
  · exact fun set => ⟨0, Nat.one_pos, set⟩
  · rintro ⟨distance, near, set⟩
    rwa [Nat.lt_one_iff.mp near] at set

theorem Spread.double (spreads : Spread number spread reach) :
    Spread number (spread ||| spread >>> reach) (reach + reach) := by
  intro bit
  rw [Nat.testBit_or, Nat.testBit_shiftRight, Bool.or_eq_true, spreads bit, spreads (reach + bit)]
  constructor
  · rintro (⟨distance, near, set⟩ | ⟨distance, near, set⟩)
    · exact ⟨distance, by omega, set⟩
    · refine ⟨reach + distance, by omega, ?_⟩
      rwa [show bit + (reach + distance) = reach + bit + distance by omega]
  · rintro ⟨distance, near, set⟩
    by_cases close : distance < reach
    · exact .inl ⟨distance, close, set⟩
    · refine .inr ⟨distance - reach, by omega, ?_⟩
      rwa [show reach + bit + (distance - reach) = bit + distance by omega]

theorem lt_of_testBit {bit : Nat} (small : number < 2 ^ reach) (set : number.testBit bit = true) :
    bit < reach :=
  (Nat.pow_lt_pow_iff_right (by decide)).mp (lt_of_le_of_lt (Nat.ge_two_pow_of_testBit set) small)

/-- When the reach covers the whole number, all bits up to the highest one are set. -/
theorem Spread.eq_pow (spreads : Spread number spread reach) (nonzero : number ≠ 0)
    (covered : number < 2 ^ reach) :
    ∃ top, number.testBit top = true ∧ spread + 1 = 2 ^ (top + 1) := by
  obtain ⟨top, set, highest⟩ := Nat.exists_most_significant_bit nonzero
  refine ⟨top, set, ?_⟩
  have low : top < reach := lt_of_testBit covered set
  have ones : spread = 2 ^ (top + 1) - 1 := by
    refine Nat.eq_of_testBit_eq fun bit => ?_
    rw [Nat.testBit_two_pow_sub_one, Bool.eq_iff_iff, spreads bit, decide_eq_true_iff]
    constructor
    · rintro ⟨distance, -, here⟩
      by_contra beyond
      rw [highest (bit + distance) (by omega)] at here
      cases here
    · intro inside
      refine ⟨top - bit, by omega, ?_⟩
      rwa [show bit + (top - bit) = top by omega]
  have positive : 0 < 2 ^ (top + 1) := Nat.two_pow_pos _
  omega

/-- Spreading bits sets none to zero. -/
theorem Spread.le (spreads : Spread number spread reach) (positive : 0 < reach) :
    number ≤ spread := by
  have kept : number &&& spread = number := by
    apply Nat.eq_of_testBit_eq
    intro bit
    rw [Nat.testBit_and]
    cases set : number.testBit bit with
    | false => rfl
    | true => exact (spreads bit).mpr ⟨0, positive, set⟩
  rw [← kept]
  exact Nat.and_le_right

end Spread

/-! ## Masks -/

/-- A mask of ones takes an index modulo the power of two above it. -/
theorem and_wrapSize_pow_sub_one (power : capacity = 2 ^ exponent) (word : exponent ≤ 64)
    (index : Nat) : index &&& wrapSize (capacity - 1) = index % capacity := by
  have positive : 0 < capacity := by
    rw [power]
    exact Nat.two_pow_pos exponent
  have bounded : capacity ≤ 2 ^ 64 := by
    rw [power]
    exact Nat.pow_le_pow_right (by decide) word
  have mask : wrapSize (capacity - 1) = capacity - 1 := by
    rw [wrapSize_of_bounds (by omega) (by omega)]
    omega
  rw [mask, power, Nat.and_two_pow_sub_one_eq_mod]

/-- A machine word and the number it was reduced from are the same modulo a power of two that fits
into the word. -/
theorem wrapSize_mod (power : capacity = 2 ^ exponent) (word : exponent ≤ 64) (index : Nat) :
    wrapSize index % capacity = index % capacity := by
  have divides : (2 : Int) ^ exponent ∣ 2 ^ 64 := pow_dvd_pow 2 word
  have integers : ((wrapSize index % capacity : Nat) : Int) = (index % capacity : Nat) := by
    rw [Int.natCast_mod, wrapSize_cast, power, Nat.cast_pow, Nat.cast_ofNat,
      Int.emod_emod_of_dvd _ divides, Int.natCast_mod, Nat.cast_pow, Nat.cast_ofNat]
  exact_mod_cast integers

end CellRing
