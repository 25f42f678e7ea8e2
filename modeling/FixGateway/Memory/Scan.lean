import Mathlib.Data.List.Infix
import Mathlib.Data.UInt

/-! # Reading bytes through pointers

A pointer program reads single bytes at positions relative to a base pointer.
`ByteScan.Memory` says which positions can be read and what they hold; reading
any other position stops the computation with a `ByteScan.Fault`. The scanning
loops of a C library (`find`, `search`, `startsAt`, `slice`, `byteSum`) are
written over single reads, so a scan that leaves the readable range is visible
in its result.

`ByteScan.Memory.Holds` says that a byte string lies in memory at a position.
Under it every scan is the corresponding list operation, and reads nothing else.
-/

namespace ByteScan

/-- The contents of a byte buffer. -/
abbrev Bytes := List UInt8

/-- The bytes of an ASCII text. -/
def ascii (text : String) : Bytes := text.toList.map fun character => UInt8.ofNat character.toNat

/-- The ways a computation over memory can fail to be defined. -/
inductive Fault where
  /-- A read at a position that is not readable, or a write at one that is not writable. -/
  | outOfBounds (position : Int)
  /-- A write of `size` bytes into an object that is smaller than that. -/
  | overflow (size : Nat)
  /-- The step bound of a loop was reached before the loop ended. -/
  | outOfFuel
  deriving DecidableEq, Repr

/-- The readable positions around a base pointer, with the bytes they hold. -/
def Memory := Int → Option UInt8

namespace Memory

/-- Memory in which nothing can be read. -/
def unmapped : Memory := fun _ => none

/-- A buffer at the base pointer, surrounded by `outside`. -/
def overlay (bytes : Bytes) (outside : Memory) : Memory := fun position =>
  if 0 ≤ position ∧ position < bytes.length then bytes[position.toNat]? else outside position

/-- The same memory seen from the pointer `base + offset`. -/
def shift (memory : Memory) (offset : Int) : Memory := fun position => memory (offset + position)

theorem shift_zero (memory : Memory) : memory.shift 0 = memory :=
  funext fun position => congrArg memory (zero_add position)

/-- Read one byte. -/
def read (memory : Memory) (position : Int) : Except Fault UInt8 :=
  match memory position with
  | some byte => .ok byte
  | none => .error (.outOfBounds position)

/-- Look for `byte` at the `count` positions from `first` on. -/
def findFrom (memory : Memory) (byte : UInt8) : Int → Nat → Except Fault (Option Int)
  | _, 0 => .ok none
  | first, count + 1 => do
      let current ← memory.read first
      if current = byte then .ok (some first) else findFrom memory byte (first + 1) count

/-- The first position of `byte` in `[first, last)`, reading up to it. This is
both `std::find` and `memchr`. -/
def find (memory : Memory) (byte : UInt8) (first last : Int) : Except Fault (Option Int) :=
  memory.findFrom byte first (last - first).toNat

/-- Whether the bytes at `position` are `pattern`, reading up to the first
difference. -/
def startsAt (memory : Memory) : Bytes → Int → Except Fault Bool
  | [], _ => .ok true
  | byte :: pattern, position => do
      let current ← memory.read position
      if current = byte then startsAt memory pattern (position + 1) else .ok false

/-- Look for `pattern` at the positions from `first` on that leave room for it
within `count` bytes. -/
def searchFrom (memory : Memory) (pattern : Bytes) : Int → Nat → Except Fault (Option Int)
  | _, 0 => .ok none
  | first, count + 1 =>
    if count + 1 < pattern.length then .ok none
    else do
      if ← memory.startsAt pattern first then .ok (some first)
      else searchFrom memory pattern (first + 1) count

/-- `std::search` for `pattern` in `[first, last)`. -/
def search (memory : Memory) (pattern : Bytes) (first last : Int) : Except Fault (Option Int) :=
  memory.searchFrom pattern first (last - first).toNat

/-- Copy `count` bytes from `first` on. -/
def slice (memory : Memory) : Int → Nat → Except Fault Bytes
  | _, 0 => .ok []
  | first, count + 1 => do
      let byte ← memory.read first
      let rest ← slice memory (first + 1) count
      .ok (byte :: rest)

/-- Add the `count` bytes from `first` on to `sum`, modulo 256. -/
def byteSum (memory : Memory) (sum : UInt8) : Int → Nat → Except Fault UInt8
  | _, 0 => .ok sum
  | first, count + 1 => do
      let byte ← memory.read first
      byteSum memory (sum + byte) (first + 1) count

/-- The byte string lies in memory from the position on. -/
def Holds (memory : Memory) : Int → Bytes → Prop
  | _, [] => True
  | position, byte :: bytes => memory position = some byte ∧ memory.Holds (position + 1) bytes

variable {memory : Memory} {position first last : Int} {byte : UInt8} {bytes pattern : Bytes}
  {front back other before rest : Bytes}

@[simp] theorem holds_nil : memory.Holds position [] := trivial

@[simp] theorem holds_cons :
    memory.Holds position (byte :: bytes) ↔
      memory position = some byte ∧ memory.Holds (position + 1) bytes :=
  Iff.rfl

/-- A concatenation lies in memory when its parts lie next to each other. -/
theorem holds_append :
    memory.Holds position (front ++ back) ↔
      memory.Holds position front ∧ memory.Holds (position + front.length) back := by
  induction front generalizing position with
  | nil => simp
  | cons byte front ih =>
    rw [List.cons_append, holds_cons, holds_cons, ih, and_assoc, List.length_cons]
    have same : position + 1 + (front.length : Int) =
        position + ((front.length + 1 : Nat) : Int) := by
      push_cast
      omega
    rw [same]

theorem Holds.left (held : memory.Holds position (front ++ back)) : memory.Holds position front :=
  (holds_append.mp held).1

theorem Holds.right (held : memory.Holds position (front ++ back)) :
    memory.Holds (position + front.length) back :=
  (holds_append.mp held).2

section

variable (held : memory.Holds position bytes)
include held

theorem Holds.take (count : Nat) : memory.Holds position (bytes.take count) := by
  rw [← List.take_append_drop count bytes] at held
  exact held.left

theorem Holds.drop {count : Nat} (within : count ≤ bytes.length) :
    memory.Holds (position + count) (bytes.drop count) := by
  rw [← List.take_append_drop count bytes] at held
  have back := held.right
  rwa [List.length_take, Nat.min_eq_left within] at back

/-- A held byte string can be read at each of its positions. -/
theorem Holds.at {index : Nat} (within : index < bytes.length) :
    memory (position + index) = some bytes[index] := by
  have tail := held.drop (Nat.le_of_lt within)
  rw [List.drop_eq_getElem_cons within] at tail
  exact tail.1

/-- Two byte strings at the same position agree as far as both go. -/
theorem Holds.isPrefix (also : memory.Holds position other) (short : bytes.length ≤ other.length) :
    bytes <+: other := by
  induction bytes generalizing position other with
  | nil => exact List.nil_prefix
  | cons byte bytes ih =>
    cases other with
    | nil => simp at short
    | cons head other =>
      have same : byte = head := Option.some.inj (held.1.symm.trans also.1)
      rw [same, List.prefix_cons_inj]
      exact ih held.2 also.2 (by simpa using short)

/-- Strings of one length at one place are the same. -/
theorem Holds.eq_of_length
    (also : memory.Holds position other) (size : bytes.length = other.length) : bytes = other :=
  (held.isPrefix also (le_of_eq size)).eq_of_length size

end

/-- Two strings at one place that end with the first occurrence of a byte are the same. -/
theorem Holds.unique (held : memory.Holds position (front ++ [byte]))
    (also : memory.Holds position (other ++ [byte])) (absent : byte ∉ front)
    (missing : byte ∉ other) : front = other := by
  induction front generalizing position other with
  | nil =>
    cases other with
    | nil => rfl
    | cons head other =>
      have same := held.1.symm.trans also.1
      cases same
      exact absurd List.mem_cons_self missing
  | cons head front ih =>
    cases other with
    | nil =>
      have same := held.1.symm.trans also.1
      cases same
      exact absurd List.mem_cons_self absent
    | cons first other =>
      have same := held.1.symm.trans also.1
      cases same
      rw [ih held.2 also.2 (fun member => absent (List.mem_cons_of_mem _ member))
        fun member => missing (List.mem_cons_of_mem _ member)]

theorem holds_shift {offset : Int} :
    (memory.shift offset).Holds position bytes ↔ memory.Holds (offset + position) bytes := by
  induction bytes generalizing position with
  | nil => simp
  | cons byte bytes ih =>
    rw [holds_cons, holds_cons, ih, show offset + (position + 1) = offset + position + 1 by omega]
    rfl

theorem overlay_unmapped (beyond : bytes.length ≤ position) :
    overlay bytes unmapped position = none := by
  unfold overlay
  rw [if_neg (by omega)]
  rfl

/-- An overlaid buffer lies at the base pointer. -/
theorem overlay_holds (bytes : Bytes) (outside : Memory) :
    (overlay bytes outside).Holds 0 bytes := by
  have suffix : ∀ front back : Bytes, bytes = front ++ back →
      (overlay bytes outside).Holds front.length back := by
    intro front back
    induction back generalizing front with
    | nil => intro _; trivial
    | cons byte back ih =>
      intro split
      refine ⟨?_, ?_⟩
      · have within : front.length < bytes.length := by
          rw [split, List.length_append, List.length_cons]
          omega
        have inside : (0 : Int) ≤ front.length ∧ (front.length : Int) < bytes.length := by omega
        have looked : bytes[front.length]? = some byte := by
          rw [split, List.getElem?_append_right (Nat.le_refl _), Nat.sub_self]
          rfl
        unfold overlay
        rw [if_pos inside, Int.toNat_natCast, looked]
      · have tail := ih (front ++ [byte]) (by rw [split, List.append_assoc]; rfl)
        rwa [List.length_append, List.length_singleton, Nat.cast_add, Nat.cast_one] at tail
  exact suffix [] bytes rfl

/-- Reading a held byte. -/
theorem read_eq (held : memory position = some byte) : memory.read position = .ok byte := by
  unfold read
  rw [held]

/-- A read that succeeds reads a readable position. -/
theorem read_ok (ok : memory.read position = .ok byte) : memory position = some byte := by
  unfold read at ok
  split at ok
  · rename_i held
    rw [held, Except.ok.inj ok]
  · cases ok

theorem findFrom_hit {count : Nat} (held : memory.Holds first (before ++ byte :: rest))
    (fresh : byte ∉ before) (within : before.length < count) :
    memory.findFrom byte first count = .ok (some (first + before.length)) := by
  induction before generalizing first count with
  | nil =>
    cases count with
    | zero => exact absurd within (Nat.lt_irrefl 0)
    | succ count =>
      have current := read_eq held.1
      simp [findFrom, current, bind, Except.bind]
  | cons head before ih =>
    rw [List.mem_cons, not_or] at fresh
    cases count with
    | zero => exact absurd within (Nat.not_lt_zero _)
    | succ count =>
      have current := read_eq held.1
      have differs : head ≠ byte := fun same => fresh.1 same.symm
      have rest := ih held.2 fresh.2 (by simpa using within)
      simp only [findFrom, current, bind, Except.bind, differs, if_false, rest]
      rw [List.length_cons]
      congr 2
      push_cast
      omega

theorem findFrom_miss (held : memory.Holds first bytes) (absent : byte ∉ bytes) :
    memory.findFrom byte first bytes.length = .ok none := by
  induction bytes generalizing first with
  | nil => rfl
  | cons head bytes ih =>
    rw [List.mem_cons, not_or] at absent
    have current := read_eq held.1
    have differs : head ≠ byte := fun same => absent.1 same.symm
    simp only [List.length_cons, findFrom, current, bind, Except.bind, differs, if_false,
      ih held.2 absent.2]

/-- A scan stops at the first occurrence of the byte. -/
theorem find_hit (held : memory.Holds first (before ++ byte :: rest))
    (fresh : byte ∉ before) (within : first + before.length < last) :
    memory.find byte first last = .ok (some (first + before.length)) :=
  findFrom_hit held fresh (by omega)

/-- A scan of a byte string without the byte reads all of it and finds nothing. -/
theorem find_miss (held : memory.Holds first bytes) (absent : byte ∉ bytes)
    (exact : last = first + bytes.length) : memory.find byte first last = .ok none := by
  have count : (last - first).toNat = bytes.length := by omega
  unfold find
  rw [count]
  exact findFrom_miss held absent

/-- Comparing with held bytes decides whether the pattern is a prefix of them. -/
theorem startsAt_eq (held : memory.Holds position bytes) (long : pattern.length ≤ bytes.length) :
    memory.startsAt pattern position = .ok (pattern.isPrefixOf bytes) := by
  induction pattern generalizing position bytes with
  | nil => simp [startsAt]
  | cons head pattern ih =>
    cases bytes with
    | nil => simp at long
    | cons byte bytes =>
      have current := read_eq held.1
      by_cases same : byte = head
      · have rest := ih held.2 (by simpa using long)
        simp [startsAt, current, bind, Except.bind, same, rest]
      · have differs : head ≠ byte := fun equal => same equal.symm
        have no : (head == byte) = false := beq_eq_false_iff_ne.mpr differs
        simp [startsAt, current, bind, Except.bind, same, List.isPrefixOf_cons_cons, no]

theorem startsAt_true (held : memory.Holds position pattern) :
    memory.startsAt pattern position = .ok true := by
  rw [startsAt_eq held (Nat.le_refl _), List.isPrefixOf_iff_prefix.mpr (List.prefix_refl _)]

/-- A search succeeds at once where the pattern is. -/
theorem search_here (held : memory.Holds first pattern) (nonempty : pattern ≠ [])
    (room : first + pattern.length ≤ last) :
    memory.search pattern first last = .ok (some first) := by
  have positive := List.length_pos_iff.mpr nonempty
  obtain ⟨count, counted⟩ : ∃ count, (last - first).toNat = count + 1 :=
    ⟨(last - first).toNat - 1, by omega⟩
  have long : ¬ count + 1 < pattern.length := by omega
  unfold search
  rw [counted, searchFrom, if_neg long, startsAt_true held]
  rfl

/-- Copying held bytes. -/
theorem slice_eq (held : memory.Holds first bytes) :
    memory.slice first bytes.length = .ok bytes := by
  induction bytes generalizing first with
  | nil => rfl
  | cons byte bytes ih =>
    simp only [List.length_cons, slice, read_eq held.1, bind, Except.bind, ih held.2]

/-- Summing held bytes. -/
theorem byteSum_eq (held : memory.Holds first bytes) (sum : UInt8) :
    memory.byteSum sum first bytes.length = .ok (sum + bytes.sum) := by
  induction bytes generalizing first sum with
  | nil => simp [byteSum]
  | cons byte bytes ih =>
    simp only [List.length_cons, byteSum, read_eq held.1, bind, Except.bind, ih held.2,
      List.sum_cons, add_assoc]

/-- The index of the first occurrence of `pattern` as a factor of a byte string. -/
def occurrence? (pattern : Bytes) : Bytes → Option Nat
  | [] => none
  | byte :: bytes =>
    if pattern.isPrefixOf (byte :: bytes) then some 0
    else (occurrence? pattern bytes).map (· + 1)

theorem occurrence?_of_short (short : bytes.length < pattern.length) :
    occurrence? pattern bytes = none := by
  induction bytes with
  | nil => rfl
  | cons byte bytes ih =>
    have no : pattern.isPrefixOf (byte :: bytes) = false := by
      rw [Bool.eq_false_iff, Ne, List.isPrefixOf_iff_prefix]
      intro isPrefix
      exact absurd isPrefix.length_le (by omega)
    rw [List.length_cons] at short
    simp only [occurrence?, no, Bool.false_eq_true, if_false, ih (by omega), Option.map_none]

/-- What is found is an occurrence, and there is none before it. -/
theorem occurrence?_first {index : Nat} (found : occurrence? pattern bytes = some index) :
    pattern <+: bytes.drop index ∧ ∀ earlier < index, ¬ pattern <+: bytes.drop earlier := by
  induction bytes generalizing index with
  | nil => cases found
  | cons byte bytes ih =>
    rw [occurrence?] at found
    cases here : pattern.isPrefixOf (byte :: bytes) with
    | true =>
      rw [here, if_pos rfl] at found
      cases found
      refine ⟨List.isPrefixOf_iff_prefix.mp here, fun earlier before => ?_⟩
      exact absurd before (Nat.not_lt_zero earlier)
    | false =>
      rw [here, if_neg Bool.false_ne_true, Option.map_eq_some_iff] at found
      obtain ⟨later, found, rfl⟩ := found
      obtain ⟨there, none⟩ := ih found
      refine ⟨there, fun earlier before isPrefix => ?_⟩
      cases earlier with
      | zero =>
        exact absurd (List.isPrefixOf_iff_prefix.mpr isPrefix) (Bool.eq_false_iff.mp here)
      | succ earlier => exact none earlier (Nat.lt_of_succ_lt_succ before) isPrefix

/-- The first occurrence is what is found. -/
theorem occurrence?_eq {index : Nat} (here : pattern <+: bytes.drop index) (nonempty : pattern ≠ [])
    (none : ∀ earlier < index, ¬ pattern <+: bytes.drop earlier) :
    occurrence? pattern bytes = some index := by
  induction bytes generalizing index with
  | nil =>
    rw [List.drop_nil] at here
    exact absurd (List.prefix_nil.mp here) nonempty
  | cons byte bytes ih =>
    cases index with
    | zero => exact if_pos (List.isPrefixOf_iff_prefix.mpr here)
    | succ index =>
      have later := ih here fun earlier before => none (earlier + 1) (Nat.succ_lt_succ before)
      have no : ¬ pattern.isPrefixOf (byte :: bytes) := fun isPrefix =>
        none 0 (Nat.succ_pos _) (List.isPrefixOf_iff_prefix.mp isPrefix)
      rw [occurrence?, if_neg no, later]
      rfl

/-- Nothing is found exactly if there is no occurrence. -/
theorem occurrence?_eq_none_iff (nonempty : pattern ≠ []) :
    occurrence? pattern bytes = none ↔ ¬ pattern <:+: bytes := by
  induction bytes with
  | nil => exact iff_of_true rfl fun found => nonempty (List.infix_nil.mp found)
  | cons byte bytes ih =>
    rw [List.infix_cons_iff, not_or, ← ih, ← List.isPrefixOf_iff_prefix, occurrence?]
    cases pattern.isPrefixOf (byte :: bytes) with
    | true => simp
    | false => simp

/-- Bytes that differ from the first byte of the pattern are passed over. -/
theorem occurrence?_append {head : UInt8} (absent : head ∉ front) :
    occurrence? (head :: pattern) (front ++ back) =
      (occurrence? (head :: pattern) back).map (· + front.length) := by
  induction front with
  | nil => simp
  | cons byte front ih =>
    rw [List.mem_cons, not_or] at absent
    have no : (head == byte) = false := beq_eq_false_iff_ne.mpr absent.1
    simp only [List.cons_append, occurrence?, List.isPrefixOf_cons_cons, no, Bool.false_and,
      Bool.false_eq_true, if_false, ih absent.2, Option.map_map, List.length_cons]
    rfl

/-- Searching held bytes finds the first occurrence and reads nothing else. -/
theorem search_eq (held : memory.Holds first bytes) (exact : last = first + bytes.length) :
    memory.search pattern first last =
      .ok ((occurrence? pattern bytes).map fun index : Nat => first + (index : Int)) := by
  have count : (last - first).toNat = bytes.length := by omega
  unfold search
  rw [count]
  clear count exact
  induction bytes generalizing first with
  | nil => rfl
  | cons byte bytes ih =>
    rw [List.length_cons, searchFrom]
    by_cases short : bytes.length + 1 < pattern.length
    · rw [if_pos short, occurrence?_of_short (by rwa [List.length_cons])]
      rfl
    · rw [if_neg short]
      have compared : memory.startsAt pattern first = .ok (pattern.isPrefixOf (byte :: bytes)) :=
        startsAt_eq held (by rw [List.length_cons]; omega)
      cases isPrefix : pattern.isPrefixOf (byte :: bytes) with
      | true => simp [compared, bind, Except.bind, isPrefix, occurrence?]
      | false =>
        simp only [compared, bind, Except.bind, isPrefix, Bool.false_eq_true, if_false,
          ih held.2, occurrence?]
        cases occurrence? pattern bytes with
        | none => rfl
        | some index =>
          have same : first + 1 + (index : Int) = first + ((index + 1 : Nat) : Int) := by
            push_cast
            omega
          simp only [Option.map_some, same]

end Memory

end ByteScan
