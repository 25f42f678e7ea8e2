import FixGateway.Memory.Number

/-! # What a finished scan has read

A scan that ends without a fault has read a definite byte string. The lemmas
here say which one, for every scan of `ByteScan.Memory` and for the digit
reader `ByteScan.Memory.parseDigits`: each result is equivalent to a statement
with `ByteScan.Memory.Holds`. Two consequences are used everywhere. A scan ends
the same way in every larger memory unless it faults on a read
(`ByteScan.Refines`), and a scan inside a held buffer does not fault.
-/

namespace ByteScan

/-- `smaller` ends as `larger` does, unless it faults on a read. -/
def Refines {α : Type} (smaller larger : Except Fault α) : Prop :=
  smaller = larger ∨ ∃ position, smaller = .error (.outOfBounds position)

theorem Refines.refl {α : Type} (computation : Except Fault α) : Refines computation computation :=
  Or.inl rfl

/-- A result carries over to the larger computation. -/
theorem Refines.ok {α : Type} {smaller larger : Except Fault α} {result : α}
    (refines : Refines smaller larger) (ok : smaller = .ok result) : larger = .ok result := by
  obtain rfl | ⟨position, fault⟩ := refines
  · exact ok
  · rw [ok] at fault
    cases fault

/-- A sequence of two computations ends without a fault when both do. -/
theorem bind_ok {α β : Type} {computation : Except Fault α} {next : α → Except Fault β}
    {result : β} :
    (computation >>= next) = .ok result ↔
      ∃ intermediate, computation = .ok intermediate ∧ next intermediate = .ok result := by
  cases computation with
  | error fault =>
    constructor
    · intro ok
      cases ok
    · rintro ⟨_, ok, _⟩
      cases ok
  | ok intermediate =>
    refine ⟨fun ok => ⟨intermediate, rfl, ok⟩, ?_⟩
    rintro ⟨_, ok, rest⟩
    cases ok
    exact rest

theorem ok_of_toOption {α : Type} {computation : Except Fault α} {result : α}
    (found : computation.toOption = some result) : computation = .ok result := by
  cases computation with
  | error fault => cases found
  | ok other =>
    cases found
    rfl

theorem Refines.bind {α β : Type} {smaller larger : Except Fault α}
    {next following : α → Except Fault β} (head : Refines smaller larger)
    (tail : ∀ intermediate, Refines (next intermediate) (following intermediate)) :
    Refines (smaller >>= next) (larger >>= following) := by
  obtain rfl | ⟨position, fault⟩ := head
  · cases smaller with
    | error fault => exact .refl _
    | ok intermediate => exact tail intermediate
  · rw [fault]
    exact Or.inr ⟨position, rfl⟩

theorem Refines.ite {α : Type} {condition : Prop} [Decidable condition]
    {smaller larger other another : Except Fault α} (positive : Refines smaller larger)
    (negative : Refines other another) :
    Refines (if condition then smaller else other) (if condition then larger else another) := by
  split
  · exact positive
  · exact negative

/-- The computation ends without a fault. -/
def Finishes {α : Type} (computation : Except Fault α) : Prop :=
  ∃ result, computation = .ok result

theorem Finishes.ok {α : Type} (result : α) : Finishes (.ok result) := ⟨result, rfl⟩

theorem Finishes.bind {α β : Type} {computation : Except Fault α} {next : α → Except Fault β}
    (head : Finishes computation)
    (tail : ∀ intermediate, computation = .ok intermediate → Finishes (next intermediate)) :
    Finishes (computation >>= next) := by
  obtain ⟨intermediate, ok⟩ := head
  obtain ⟨result, rest⟩ := tail intermediate ok
  exact ⟨result, bind_ok.mpr ⟨intermediate, ok, rest⟩⟩

theorem Finishes.ite {α : Type} {condition : Prop} [Decidable condition]
    {computation other : Except Fault α} (positive : condition → Finishes computation)
    (negative : ¬ condition → Finishes other) :
    Finishes (if condition then computation else other) := by
  split
  · rename_i holds
    exact positive holds
  · rename_i fails
    exact negative fails

/-- Whatever a computation returns meets the postcondition. -/
def Ensures {α : Type} (computation : Except Fault α) (post : α → Prop) : Prop :=
  ∀ result, computation = .ok result → post result

theorem Ensures.ok {α : Type} {result : α} {post : α → Prop} (holds : post result) :
    Ensures (.ok result) post := by
  intro other same
  cases same
  exact holds

theorem Ensures.bind {α β : Type} {computation : Except Fault α} {next : α → Except Fault β}
    {post : β → Prop}
    (tail : ∀ intermediate, computation = .ok intermediate → Ensures (next intermediate) post) :
    Ensures (computation >>= next) post := by
  intro result ok
  obtain ⟨intermediate, first, rest⟩ := bind_ok.mp ok
  exact tail intermediate first result rest

theorem Ensures.ite {α : Type} {condition : Prop} [Decidable condition]
    {computation other : Except Fault α} {post : α → Prop}
    (positive : condition → Ensures computation post) (negative : ¬ condition → Ensures other post)
    : Ensures (if condition then computation else other) post := by
  split
  · rename_i holds
    exact positive holds
  · rename_i fails
    exact negative fails

namespace Memory

/-- Accumulate the `count` digits from `first` on as a 32-bit integer, stopping
at the first byte that is not a digit. -/
def parseDigits (memory : Memory) : Int → Nat → Int → Except Fault (Option Int)
  | _, 0, number => .ok (some number)
  | first, count + 1, number => do
      let byte ← memory.read first
      if isDigit byte then
        parseDigits memory (first + 1) count (wrapInt (number * 10 + digitValue byte))
      else .ok none

variable {memory : Memory} {position first last : Int} {byte : UInt8} {bytes pattern : Bytes}
  {count : Nat}

theorem findFrom_some_iff :
    memory.findFrom byte first count = .ok (some position) ↔
      ∃ before, memory.Holds first (before ++ [byte]) ∧ byte ∉ before ∧ before.length < count ∧
        position = first + before.length := by
  constructor
  · intro ok
    induction count generalizing first with
    | zero => cases ok
    | succ count ih =>
      rw [findFrom, bind_ok] at ok
      obtain ⟨current, read, ok⟩ := ok
      by_cases same : current = byte
      · rw [if_pos same] at ok
        cases ok
        refine ⟨[], ⟨?_, trivial⟩, List.not_mem_nil, Nat.succ_pos _, ?_⟩
        · rw [read_ok read, same]
        · simp
      · rw [if_neg same] at ok
        obtain ⟨before, held, fresh, short, rfl⟩ := ih ok
        refine ⟨current :: before, ⟨read_ok read, held⟩, ?_, ?_, ?_⟩
        · rw [List.mem_cons, not_or]
          exact ⟨fun equal => same equal.symm, fresh⟩
        · rw [List.length_cons]
          omega
        · rw [List.length_cons]
          push_cast
          omega
  · rintro ⟨before, held, fresh, short, rfl⟩
    exact findFrom_hit held fresh short

/-- A scan that finds the byte has read up to its first occurrence. -/
theorem find_some_iff :
    memory.find byte first last = .ok (some position) ↔
      ∃ before, memory.Holds first (before ++ [byte]) ∧ byte ∉ before ∧
        first + before.length < last ∧ position = first + before.length := by
  unfold find
  rw [findFrom_some_iff]
  refine exists_congr fun before => ?_
  refine and_congr_right fun _ => and_congr_right fun _ => and_congr_left fun _ => ?_
  omega

/-- What is found in a range is found in a longer one. -/
theorem find_longer {later : Int} (found : memory.find byte first last = .ok (some position))
    (longer : last ≤ later) : memory.find byte first later = .ok (some position) := by
  obtain ⟨before, held, fresh, inside, place⟩ := find_some_iff.mp found
  exact find_some_iff.mpr ⟨before, held, fresh, lt_of_lt_of_le inside longer, place⟩

/-- A scan towards the first occurrence of the byte, which may lie behind the range. -/
theorem find_eq {before : Bytes} (held : memory.Holds first (before ++ [byte]))
    (fresh : byte ∉ before) :
    memory.find byte first last =
      .ok (if first + before.length < last then some (first + before.length) else none) := by
  by_cases inside : first + before.length < last
  · rw [if_pos inside]
    exact find_hit held fresh inside
  · rw [if_neg inside]
    by_cases empty : last ≤ first
    · have count : (last - first).toNat = 0 := by omega
      rw [find, count, findFrom]
    · have size : (before.take (last - first).toNat).length = (last - first).toNat := by
        rw [List.length_take]
        omega
      refine find_miss (held.left.take (last - first).toNat) ?_ (by omega)
      exact fun member => fresh (List.mem_of_mem_take member)

theorem startsAt_true_iff :
    memory.startsAt pattern position = .ok true ↔ memory.Holds position pattern := by
  refine ⟨fun ok => ?_, startsAt_true⟩
  induction pattern generalizing position with
  | nil => trivial
  | cons byte pattern ih =>
    rw [startsAt, bind_ok] at ok
    obtain ⟨current, read, ok⟩ := ok
    by_cases same : current = byte
    · rw [if_pos same] at ok
      exact ⟨same ▸ read_ok read, ih ok⟩
    · rw [if_neg same] at ok
      cases ok

theorem slice_ok_iff :
    memory.slice first count = .ok bytes ↔ memory.Holds first bytes ∧ bytes.length = count := by
  constructor
  · intro ok
    induction count generalizing first bytes with
    | zero =>
      cases ok
      exact ⟨trivial, rfl⟩
    | succ count ih =>
      rw [slice, bind_ok] at ok
      obtain ⟨byte, read, ok⟩ := ok
      obtain ⟨rest, copied, ok⟩ := bind_ok.mp ok
      cases ok
      obtain ⟨held, size⟩ := ih copied
      exact ⟨⟨read_ok read, held⟩, by rw [List.length_cons, size]⟩
  · rintro ⟨held, rfl⟩
    exact slice_eq held

theorem byteSum_ok_iff {sum total : UInt8} :
    memory.byteSum sum first count = .ok total ↔
      ∃ bytes, memory.Holds first bytes ∧ bytes.length = count ∧ total = sum + bytes.sum := by
  constructor
  · intro ok
    induction count generalizing first sum with
    | zero =>
      cases ok
      exact ⟨[], trivial, rfl, by simp⟩
    | succ count ih =>
      rw [byteSum, bind_ok] at ok
      obtain ⟨byte, read, ok⟩ := ok
      obtain ⟨bytes, held, size, rfl⟩ := ih ok
      exact ⟨byte :: bytes, ⟨read_ok read, held⟩, by rw [List.length_cons, size],
        by rw [List.sum_cons, add_assoc]⟩
  · rintro ⟨bytes, held, rfl, rfl⟩
    exact byteSum_eq held sum

/-- The sum of all bytes, as many as a `size_t` says. -/
theorem byteSum_wrapSize {bytes : Bytes} (bound : bytes.length < 2 ^ 64)
    (held : memory.Holds 0 bytes) : memory.byteSum 0 0 (wrapSize bytes.length) = .ok bytes.sum := by
  have summed := byteSum_eq held 0
  rw [zero_add] at summed
  rwa [wrapSize_of_bounds (by omega) (by omega), Int.toNat_natCast]

/-- A search that succeeds has found the pattern inside the range. -/
theorem search_some (ok : memory.search pattern first last = .ok (some position)) :
    memory.Holds position pattern ∧ first ≤ position ∧ position < last ∧
      position + pattern.length ≤ last := by
  have found : ∀ count first, memory.searchFrom pattern first count = .ok (some position) →
      memory.Holds position pattern ∧ first ≤ position ∧ position < first + count ∧
        position + pattern.length ≤ first + count := by
    intro count
    induction count with
    | zero =>
      intro first ok
      cases ok
    | succ count ih =>
      intro first ok
      rw [searchFrom] at ok
      by_cases short : count + 1 < pattern.length
      · rw [if_pos short] at ok
        cases ok
      · rw [if_neg short, bind_ok] at ok
        obtain ⟨here, compared, ok⟩ := ok
        cases here with
        | true =>
          cases ok
          refine ⟨startsAt_true_iff.mp compared, le_refl _, ?_, ?_⟩ <;> push_cast <;> omega
        | false =>
          obtain ⟨held, low, high, room⟩ := ih _ ok
          refine ⟨held, ?_, ?_, ?_⟩ <;> push_cast <;> omega
  obtain ⟨held, low, high, room⟩ := found _ _ ok
  have nonempty : first < last := by
    by_contra empty
    have count : (last - first).toNat = 0 := by omega
    unfold search at ok
    rw [count] at ok
    cases ok
  exact ⟨held, low, by omega, by omega⟩

/-- What a search has found it also finds in a longer range. -/
theorem search_longer {later : Int} (found : memory.search pattern first last = .ok (some position))
    (longer : last ≤ later) : memory.search pattern first later = .ok (some position) := by
  have extended : ∀ count more first, memory.searchFrom pattern first count = .ok (some position) →
      memory.searchFrom pattern first (count + more) = .ok (some position) := by
    intro count more
    induction count with
    | zero =>
      intro first found
      cases found
    | succ count ih =>
      intro first found
      rw [Nat.succ_add, searchFrom]
      rw [searchFrom] at found
      by_cases short : count + 1 < pattern.length
      · rw [if_pos short] at found
        cases found
      · rw [if_neg short] at found
        rw [if_neg (by omega)]
        obtain ⟨here, compared, found⟩ := bind_ok.mp found
        refine bind_ok.mpr ⟨here, compared, ?_⟩
        cases here with
        | true => exact found
        | false => exact ih _ found
  obtain ⟨more, counted⟩ : ∃ more, (later - first).toNat = (last - first).toNat + more :=
    ⟨(later - first).toNat - (last - first).toNat, by omega⟩
  unfold search
  rw [counted]
  exact extended _ _ _ found

/-- Reading digits ends with a number exactly on a string of digits. -/
theorem parseDigits_some_iff {number result : Int} :
    memory.parseDigits first count number = .ok (some result) ↔
      ∃ digits, memory.Holds first digits ∧ digits.length = count ∧
        (∀ byte ∈ digits, isDigit byte = true) ∧
        result = digits.foldl (fun sum byte => wrapInt (sum * 10 + digitValue byte)) number := by
  constructor
  · intro ok
    induction count generalizing first number with
    | zero =>
      cases ok
      exact ⟨[], trivial, rfl, fun _ member => absurd member List.not_mem_nil, rfl⟩
    | succ count ih =>
      rw [parseDigits, bind_ok] at ok
      obtain ⟨byte, read, ok⟩ := ok
      by_cases digit : isDigit byte = true
      · rw [if_pos digit] at ok
        obtain ⟨digits, held, size, all, rfl⟩ := ih ok
        exact ⟨byte :: digits, ⟨read_ok read, held⟩, by rw [List.length_cons, size],
          List.forall_mem_cons.mpr ⟨digit, all⟩, rfl⟩
      · rw [if_neg digit] at ok
        cases ok
  · rintro ⟨digits, held, rfl, all, rfl⟩
    induction digits generalizing first number with
    | nil => rfl
    | cons byte digits ih =>
      rw [List.forall_mem_cons] at all
      rw [List.length_cons, parseDigits, read_eq held.1]
      simp only [bind, Except.bind, all.1, if_true, List.foldl_cons]
      exact ih held.2 all.2

/-! ## Readable ranges -/

/-- Every position of `[first, last)` can be read. -/
def Readable (memory : Memory) (first last : Int) : Prop :=
  ∀ position, first ≤ position → position < last → ∃ byte, memory position = some byte

theorem Readable.mono {lower upper : Int} (readable : memory.Readable lower upper)
    (low : lower ≤ first) (high : last ≤ upper) : memory.Readable first last :=
  fun position after before => readable position (by omega) (by omega)

theorem Readable.shift {offset : Int} (readable : memory.Readable (offset + first) (offset + last))
    : (memory.shift offset).Readable first last :=
  fun position after before => readable (offset + position) (by omega) (by omega)

theorem Holds.readable (held : memory.Holds first bytes) :
    memory.Readable first (first + bytes.length) := by
  intro position after before
  have within : (position - first).toNat < bytes.length := by omega
  have found := held.at within
  have same : first + ((position - first).toNat : Int) = position := by omega
  rw [same] at found
  exact ⟨_, found⟩

theorem overlay_readable (bytes : Bytes) (outside : Memory) :
    (overlay bytes outside).Readable 0 bytes.length := by
  have held := (overlay_holds bytes outside).readable
  rwa [zero_add] at held

/-- A readable range holds some byte string. -/
theorem Readable.holds (readable : memory.Readable first (first + count)) :
    ∃ bytes, memory.Holds first bytes ∧ bytes.length = count := by
  induction count generalizing first with
  | zero => exact ⟨[], trivial, rfl⟩
  | succ count ih =>
    obtain ⟨byte, here⟩ := readable first (le_refl _) (by omega)
    have tail : memory.Readable (first + 1) (first + 1 + count) :=
      readable.mono (by omega) (by push_cast; omega)
    obtain ⟨bytes, held, size⟩ := ih tail
    exact ⟨byte :: bytes, ⟨here, held⟩, by rw [List.length_cons, size]⟩

theorem read_total (readable : memory.Readable first last) (low : first ≤ position)
    (high : position < last) : Finishes (memory.read position) := by
  obtain ⟨byte, held⟩ := readable position low high
  exact ⟨byte, read_eq held⟩

theorem find_total (readable : memory.Readable first last) :
    Finishes (memory.find byte first last) := by
  by_cases empty : last ≤ first
  · have count : (last - first).toNat = 0 := by omega
    exact ⟨none, by rw [find, count, findFrom]⟩
  have inside : memory.Readable first (first + (last - first).toNat) :=
    readable.mono (le_refl _) (by omega)
  obtain ⟨bytes, held, size⟩ := inside.holds
  by_cases member : byte ∈ bytes
  · obtain ⟨before, rest, rfl, fresh⟩ := List.eq_append_cons_of_mem member
    rw [List.length_append, List.length_cons] at size
    exact ⟨_, find_hit held fresh (by omega)⟩
  · exact ⟨none, find_miss held member (by omega)⟩

theorem startsAt_total (readable : memory.Readable position (position + pattern.length)) :
    Finishes (memory.startsAt pattern position) := by
  obtain ⟨bytes, held, size⟩ := readable.holds
  exact ⟨_, startsAt_eq held (by omega)⟩

theorem search_total (readable : memory.Readable first last) :
    Finishes (memory.search pattern first last) := by
  by_cases empty : last ≤ first
  · have count : (last - first).toNat = 0 := by omega
    exact ⟨none, by rw [search, count, searchFrom]⟩
  have inside : memory.Readable first (first + (last - first).toNat) :=
    readable.mono (le_refl _) (by omega)
  obtain ⟨bytes, held, size⟩ := inside.holds
  exact ⟨_, search_eq held (by omega)⟩

section

variable (readable : memory.Readable first (first + count))
include readable

theorem slice_total : Finishes (memory.slice first count) := by
  obtain ⟨bytes, held, rfl⟩ := readable.holds
  exact ⟨bytes, slice_eq held⟩

theorem byteSum_total {sum : UInt8} : Finishes (memory.byteSum sum first count) := by
  obtain ⟨bytes, held, rfl⟩ := readable.holds
  exact ⟨_, byteSum_eq held sum⟩

theorem parseDigits_total {number : Int} : Finishes (memory.parseDigits first count number) := by
  induction count generalizing first number with
  | zero => exact .ok _
  | succ count ih =>
    refine (read_total readable (le_refl _) (by omega)).bind fun byte _ => ?_
    refine .ite (fun _ => ih ?_) fun _ => .ok _
    exact readable.mono (by omega) (by push_cast; omega)

end

/-! ## Reads beyond the memory -/

theorem read_overreads (missing : memory position = none) :
    memory.read position = .error (.outOfBounds position) := by
  rw [read, missing]

/-- A comparison that agrees up to a missing byte faults there. -/
theorem startsAt_overreads {before rest : Bytes} {expected : UInt8}
    (held : memory.Holds position before) (missing : memory (position + before.length) = none) :
    memory.startsAt (before ++ expected :: rest) position =
      .error (.outOfBounds (position + before.length)) := by
  induction before generalizing position with
  | nil =>
    rw [List.length_nil, Nat.cast_zero, add_zero] at missing ⊢
    rw [List.nil_append, startsAt, read_overreads missing]
    rfl
  | cons byte before ih =>
    have next : position + (byte :: before).length = position + 1 + before.length := by
      rw [List.length_cons]
      push_cast
      omega
    rw [next] at missing ⊢
    rw [List.cons_append, startsAt, read_eq held.1]
    simp only [bind, Except.bind, if_true]
    exact ih held.2 missing

/-- A copy that runs into a missing byte faults there. -/
theorem slice_overreads (held : memory.Holds first bytes)
    (missing : memory (first + bytes.length) = none) (short : bytes.length < count) :
    memory.slice first count = .error (.outOfBounds (first + bytes.length)) := by
  induction bytes generalizing first count with
  | nil =>
    rw [List.length_nil, Nat.cast_zero, add_zero] at missing ⊢
    obtain ⟨count, rfl⟩ := Nat.exists_eq_add_of_lt short
    rw [slice, read_overreads missing]
    rfl
  | cons byte bytes ih =>
    have next : first + (byte :: bytes).length = first + 1 + bytes.length := by
      rw [List.length_cons]
      push_cast
      omega
    cases count with
    | zero => cases short
    | succ count =>
      rw [next] at missing ⊢
      rw [slice, read_eq held.1]
      simp only [bind, Except.bind, ih held.2 missing (Nat.lt_of_succ_lt_succ short)]

/-! ## Larger memories -/

/-- Everything readable in `small` reads the same in `large`. -/
def Extends (small large : Memory) : Prop :=
  ∀ position byte, small position = some byte → large position = some byte

section Extension

variable {small large : Memory}

/-- A buffer with nothing around it is the least memory that holds it. -/
theorem Holds.extends (held : memory.Holds 0 bytes) : Extends (overlay bytes unmapped) memory := by
  intro position byte found
  unfold overlay at found
  split at found
  · rename_i inside
    have within : position.toNat < bytes.length := by omega
    have here := held.at within
    rw [List.getElem?_eq_getElem within] at found
    have same : (0 : Int) + position.toNat = position := by omega
    rw [← found, ← here, same]
  · cases found

theorem overlay_extends (bytes : Bytes) (outside : Memory) :
    Extends (overlay bytes unmapped) (overlay bytes outside) :=
  (overlay_holds bytes outside).extends

theorem Extends.holds (larger : Extends small large) (held : small.Holds position bytes) :
    large.Holds position bytes := by
  induction bytes generalizing position with
  | nil => trivial
  | cons byte bytes ih => exact ⟨larger position byte held.1, ih held.2⟩

theorem Extends.shift (larger : Extends small large) (offset : Int) :
    Extends (small.shift offset) (large.shift offset) :=
  fun position byte held => larger (offset + position) byte held

/-- The memory with zeros wherever nothing can be read. -/
def filled (memory : Memory) : Memory := fun position => some ((memory position).getD 0)

theorem extends_filled (memory : Memory) : Extends memory memory.filled := by
  intro position byte held
  rw [filled, held]
  rfl

theorem filled_readable (memory : Memory) (first last : Int) : memory.filled.Readable first last :=
  fun _ _ _ => ⟨_, rfl⟩

section

variable (larger : Extends small large)
include larger

theorem read_refines : Refines (small.read position) (large.read position) := by
  cases held : small position with
  | none => exact Or.inr ⟨position, by rw [read, held]⟩
  | some byte => exact Or.inl ((read_eq held).trans (read_eq (larger position byte held)).symm)

theorem findFrom_refines :
    Refines (small.findFrom byte first count) (large.findFrom byte first count) := by
  induction count generalizing first with
  | zero => exact .refl _
  | succ count ih => exact (read_refines larger).bind fun _ => .ite (.refl _) ih

theorem find_refines : Refines (small.find byte first last) (large.find byte first last) :=
  findFrom_refines larger

theorem startsAt_refines :
    Refines (small.startsAt pattern position) (large.startsAt pattern position) := by
  induction pattern generalizing position with
  | nil => exact .refl _
  | cons byte pattern ih => exact (read_refines larger).bind fun _ => .ite ih (.refl _)

theorem search_refines :
    Refines (small.search pattern first last) (large.search pattern first last) := by
  unfold search
  generalize (last - first).toNat = count
  induction count generalizing first with
  | zero => exact .refl _
  | succ count ih =>
    exact .ite (.refl _) ((startsAt_refines larger).bind fun _ => .ite (.refl _) ih)

theorem slice_refines : Refines (small.slice first count) (large.slice first count) := by
  induction count generalizing first with
  | zero => exact .refl _
  | succ count ih =>
    exact (read_refines larger).bind fun _ => ih.bind fun _ => .refl _

theorem byteSum_refines {sum : UInt8} :
    Refines (small.byteSum sum first count) (large.byteSum sum first count) := by
  induction count generalizing first sum with
  | zero => exact .refl _
  | succ count ih => exact (read_refines larger).bind fun _ => ih

theorem parseDigits_refines {number : Int} :
    Refines (small.parseDigits first count number) (large.parseDigits first count number) := by
  induction count generalizing first number with
  | zero => exact .refl _
  | succ count ih => exact (read_refines larger).bind fun _ => .ite ih (.refl _)

end

end Extension

end Memory

end ByteScan
