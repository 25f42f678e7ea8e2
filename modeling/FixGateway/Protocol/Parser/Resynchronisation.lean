import FixGateway.Protocol.Parser.Parse

/-! # The search for the next message

`skipToNextPotentialMessage` looks for `8=FIX` from a position on, at each position `i` with
`i < length - 5`. The bound leaves out the last position at which the pattern fits, and in a buffer
of fewer than five bytes the unsigned difference wraps around, so that the loop leaves the buffer.

The search is exact for all other buffers (`skipToNextPotentialMessage_next_iff`).
-/

namespace FixGateway.Protocol

open ByteScan Memory

namespace StreamFixParser

/-- The five bytes from the index on are `8=FIX`. -/
def MessageAt (bytes : Bytes) (index : Nat) : Prop :=
  index + 5 ≤ bytes.length ∧ (bytes.drop index).take 5 = ascii "8=FIX"

instance (bytes : Bytes) (index : Nat) : Decidable (MessageAt bytes index) :=
  inferInstanceAs (Decidable (_ ∧ _))

/-- The first index from `start` on at which `8=FIX` stands, or the length of the buffer if there is
none. -/
def NextMessage (bytes : Bytes) (start position : Nat) : Prop :=
  (start ≤ position ∧ MessageAt bytes position ∧
      ∀ index, start ≤ index → index < position → ¬ MessageAt bytes index) ∨
    (position = bytes.length ∧ ∀ index, start ≤ index → ¬ MessageAt bytes index)

/-- The first `8=FIX` from `start` on stands at the very end of the buffer. -/
def OnlyAtEnd (bytes : Bytes) (start : Nat) : Prop :=
  start ≤ bytes.length - 5 ∧ MessageAt bytes (bytes.length - 5) ∧
    ∀ index, start ≤ index → index < bytes.length - 5 → ¬ MessageAt bytes index

section Search

variable {bytes : Bytes} {start : Nat}

theorem startsAt_of_inside {index : Nat} (inside : index + 5 ≤ bytes.length) :
    ∃ found, (∀ outside, (overlay bytes outside).startsAt (ascii "8=FIX") index =
        .ok found) ∧ (found = true ↔ MessageAt bytes index) := by
  refine ⟨(ascii "8=FIX").isPrefixOf (bytes.drop index), ?_, ?_⟩
  · intro outside
    have here := (overlay_holds bytes outside).drop (show index ≤ bytes.length by omega)
    rw [zero_add] at here
    apply startsAt_eq here
    rw [List.length_drop]
    change 5 ≤ _
    omega
  · rw [List.isPrefixOf_iff_prefix, List.prefix_iff_eq_take]
    constructor
    · intro same
      exact ⟨inside, same.symm⟩
    · intro found
      exact found.2.symm

/-- What a search over the indices from `first` up to `last` finds. -/
def Finds (bytes : Bytes) (first last : Nat) : Option Nat → Prop
  | some index => first ≤ index ∧ index < last ∧ MessageAt bytes index ∧
      ∀ earlier, first ≤ earlier → earlier < index → ¬ MessageAt bytes earlier
  | none => ∀ index, first ≤ index → index < last → ¬ MessageAt bytes index

theorem Finds.cons {first last : Nat} {found : Option Nat} (absent : ¬ MessageAt bytes first)
    (finds : Finds bytes (first + 1) last found) : Finds bytes first last found := by
  have later : ∀ index, first ≤ index → MessageAt bytes index → first + 1 ≤ index := by
    intro index after there
    rcases Nat.eq_or_lt_of_le after with rfl | above
    · exact absurd there absent
    · exact above
  cases found with
  | some index =>
    obtain ⟨low, high, there, before⟩ := finds
    refine ⟨Nat.le_of_succ_le low, high, there, ?_⟩
    intro earlier after less found
    exact before earlier (later earlier after found) less found
  | none =>
    intro index after less found
    exact finds index (later index after found) less found

theorem skipFrom_finds (first count : Nat)
    (fits : ∀ index, first ≤ index → index < first + count → index + 5 ≤ bytes.length) :
    ∃ found, (∀ outside, skipFrom (overlay bytes outside) first count = .ok found) ∧
      Finds bytes first (first + count) found := by
  induction count generalizing first with
  | zero =>
    refine ⟨none, fun _ => rfl, ?_⟩
    intro index after before
    omega
  | succ count ih =>
    obtain ⟨here, read, meets⟩ := startsAt_of_inside (fits first (le_refl first) (by omega))
    cases here with
    | true =>
      refine ⟨some first, ?_, le_refl first, by omega, meets.mp rfl, ?_⟩
      · intro outside
        rw [skipFrom, read outside]
        rfl
      · intro earlier after before
        omega
    | false =>
      have absent : ¬ MessageAt bytes first := fun there => Bool.false_ne_true (meets.mpr there)
      obtain ⟨found, rest, finds⟩ := ih (first + 1) fun index after before =>
        fits index (by omega) (by omega)
      refine ⟨found, ?_, ?_⟩
      · intro outside
        rw [skipFrom, read outside]
        exact rest outside
      · apply Finds.cons absent
        rw [show first + (count + 1) = first + 1 + count by omega]
        exact finds

/-- In a buffer of at least five bytes the search misses only the last index. -/
theorem skipToNextPotentialMessage_finds (long : 5 ≤ bytes.length)
    (addressable : bytes.length < 2 ^ 64) (start : Nat) :
    ∃ found, (∀ outside,
        skipToNextPotentialMessage (overlay bytes outside) bytes.length start =
          .ok (found.getD bytes.length)) ∧
      Finds bytes start (bytes.length - 5) found := by
  have bound : wrapSize ((bytes.length : Int) - 5) = bytes.length - 5 := by
    rw [wrapSize_of_bounds (by omega) (by omega)]
    omega
  have fits : ∀ index, start ≤ index → index < start + (bytes.length - 5 - start) →
      index + 5 ≤ bytes.length := by
    intro index after before
    omega
  obtain ⟨found, searched, finds⟩ := skipFrom_finds start _ fits
  refine ⟨found, ?_, ?_⟩
  · intro outside
    rw [skipToNextPotentialMessage, bound, searched outside]
    rfl
  · by_cases early : start ≤ bytes.length - 5
    · rw [Nat.add_sub_cancel' early] at finds
      exact finds
    · cases found with
      | some index =>
        obtain ⟨low, high, -⟩ := finds
        omega
      | none =>
        intro index after before
        omega

/-- A search that comes to the end of a readable buffer without having found anything does not
finish. -/
theorem skipFrom_faults (short : bytes.length < 5) {first count : Nat} (low : first ≤ bytes.length)
    (high : bytes.length < first + count) (found : Option Nat) :
    skipFrom (overlay bytes unmapped) first count ≠ .ok found := by
  induction count generalizing first with
  | zero => omega
  | succ count ih =>
    intro ok
    rw [skipFrom, bind_ok] at ok
    obtain ⟨here, read, ok⟩ := ok
    cases here with
    | true =>
      -- the pattern does not fit into the buffer
      have held := startsAt_true_iff.mp read
      obtain ⟨byte, last⟩ := held.readable bytes.length (by omega) (by
        change (bytes.length : Int) < first + 5
        omega)
      rw [overlay_unmapped (le_refl _)] at last
      cases last
    | false =>
      rcases Nat.eq_or_lt_of_le low with rfl | before
      · -- the first byte behind the buffer is read
        have missing := overlay_unmapped (le_refl (bytes.length : Int))
        rw [show ascii "8=FIX" = 56 :: ascii "=FIX" by decide, startsAt,
          read_overreads missing] at read
        cases read
      · exact ih (by omega) (by omega) ok

end Search

/-- The search returns the first `8=FIX` from `start` on, or the length of the buffer, and reads
only the buffer, exactly if the buffer has at least five bytes and the first `8=FIX` does not stand
at its very end. -/
theorem skipToNextPotentialMessage_next_iff (bytes : Bytes) (start : Nat)
    (addressable : bytes.length < 2 ^ 64) (within : start ≤ bytes.length) :
    (∃ position, NextMessage bytes start position ∧ ∀ outside,
        skipToNextPotentialMessage (Memory.overlay bytes outside) bytes.length start =
          .ok position) ↔
      5 ≤ bytes.length ∧ ¬ OnlyAtEnd bytes start := by
  constructor
  · rintro ⟨position, next, returned⟩
    by_cases long : 5 ≤ bytes.length
    · refine ⟨long, ?_⟩
      rintro ⟨low, atEnd, before⟩
      obtain ⟨found, searched, finds⟩ := skipToNextPotentialMessage_finds long addressable start
      cases found with
      | some index =>
        obtain ⟨after, less, there, -⟩ := finds
        exact before index after less there
      | none =>
        -- the length was returned, although there is a message
        cases (returned unmapped).symm.trans (searched unmapped)
        rcases next with ⟨-, beyond, -⟩ | ⟨-, none⟩
        · have inside : bytes.length + 5 ≤ bytes.length := beyond.1
          omega
        · exact none _ low atEnd
    · -- the bound of the loop has wrapped around
      obtain ⟨found, searched, -⟩ := bind_ok.mp (returned unmapped)
      have bound : wrapSize ((bytes.length : Int) - 5) = 2 ^ 64 + bytes.length - 5 := by
        unfold wrapSize
        omega
      rw [bound] at searched
      exact absurd searched (skipFrom_faults (by omega) within (by omega) found)
  · rintro ⟨long, early⟩
    obtain ⟨found, searched, finds⟩ := skipToNextPotentialMessage_finds long addressable start
    refine ⟨_, ?_, searched⟩
    cases found with
    | some index =>
      obtain ⟨low, -, there, before⟩ := finds
      exact .inl ⟨low, there, before⟩
    | none =>
      refine .inr ⟨rfl, ?_⟩
      intro index after there
      have inside : index + 5 ≤ bytes.length := there.1
      by_cases last : index = bytes.length - 5
      · rw [last] at after there
        exact early ⟨after, there, finds⟩
      · exact finds index after (by omega) there

/-- Two bytes of noise are skipped. -/
theorem skipToNextPotentialMessage_next_iff_noise :
    ∃ position, NextMessage (ascii "xx8=FIX.4") 0 position ∧ ∀ outside,
      skipToNextPotentialMessage (Memory.overlay (ascii "xx8=FIX.4") outside)
        (ascii "xx8=FIX.4").length 0 = .ok position := by
  have size : (ascii "xx8=FIX.4").length = 9 := by decide
  apply (skipToNextPotentialMessage_next_iff (ascii "xx8=FIX.4") 0 (by rw [size]; decide)
    (Nat.zero_le _)).mpr
  refine ⟨by rw [size]; decide, ?_⟩
  rintro ⟨-, atEnd, -⟩
  rw [size] at atEnd
  exact absurd atEnd (by decide)

/-- The five bytes `8=FIX` are skipped as a whole, and a buffer of three bytes is left. -/
theorem last_message_skipped :
    NextMessage (ascii "8=FIX") 0 0 ∧
      (∀ outside, skipToNextPotentialMessage (Memory.overlay (ascii "8=FIX") outside) 5 0 = .ok 5) ∧
      skipToNextPotentialMessage (Memory.overlay (ascii "8=F") Memory.unmapped) 3 0 =
        .error (.outOfBounds 3) := by
  refine ⟨.inl ⟨le_refl 0, by decide, ?_⟩, fun _ => rfl, by decide +kernel⟩
  intro index _ before
  exact absurd before (Nat.not_lt_zero index)

end StreamFixParser

end FixGateway.Protocol
