import FixGateway.Protocol.Parser.Framing

/-! # Framing on different buffers

A message header says where the message ends. With the header in memory, framing
tells whether a buffer of a given length reaches that far
(`FixGateway.Protocol.FrameAt.findCompleteMessage_tells`). Bytes after the message do not
change the result, and a buffer that ends inside the message has framing wait for more.
-/

namespace FixGateway.Protocol

open ByteScan Memory

variable {maxMessageSize : Nat} {bytes version digits : Bytes}

/-- The framing tells whether the first `length` bytes reach to the end of a message. -/
structure Framing.Tells (start stop length : Int) (framing : Framing) : Prop where
  status : framing.result.status = if stop ≤ length then .success else .needMoreData
  boundaries : stop ≤ length → framing.messageStart = start ∧ framing.messageEnd = stop

/-- A computation that ends with what framing has to tell. -/
def Tells (start stop length : Int) (computation : Except Fault Framing) : Prop :=
  ∃ framing, computation = .ok framing ∧ framing.Tells start stop length

section Laws

variable {memory : Memory} {maxMessageSize : Nat} {length start stop : Int}
  {version digits : Bytes}

theorem tells_waiting {framing : Framing} (status : framing.result.status = .needMoreData)
    (beyond : length < stop) : Tells start stop length (.ok framing) := by
  refine ⟨framing, rfl, ?_, fun inside => by omega⟩
  rw [status, if_neg (by omega)]

theorem Tells.ite {condition : Prop} [Decidable condition]
    {computation other : Except Fault Framing}
    (positive : condition → Tells start stop length computation)
    (negative : ¬ condition → Tells start stop length other) :
    Tells start stop length (if condition then computation else other) := by
  split
  · rename_i holds
    exact positive holds
  · rename_i fails
    exact negative fails

theorem messageBoundaries_tells {bodyLengthEnd bodyLength : Int}
    (ends : bodyLengthEnd + 1 + bodyLength = stop) (readable : memory.Readable 0 stop) :
    Tells start stop length
      (messageBoundaries memory length start bodyLengthEnd bodyLength) := by
  have same : start + (bodyLengthEnd + 1 - start) + bodyLength = stop := by omega
  obtain ⟨verdict, checked⟩ := endsWithChecksum_total (le_refl stop) readable
  unfold messageBoundaries
  dsimp only
  rw [same, checked]
  refine .ite (fun beyond => tells_waiting rfl (by omega)) fun inside => ?_
  exact ⟨_, rfl, (if_pos (by omega)).symm, fun _ => ⟨rfl, rfl⟩⟩

namespace FrameAt

variable (frame : FrameAt memory maxMessageSize start stop version digits)

include frame

theorem noSoh_digits : soh ∉ digits := fun member => absurd (frame.all soh member) (by decide)

theorem begins : memory.Holds start (fixBeginString ++ version ++ [soh]) := by
  have held := frame.held
  rw [List.append_cons] at held
  exact held.left

theorem counts :
    memory.Holds (start + version.length + 10) (ascii "9=") ∧
      memory.Holds (start + version.length + 12) (digits ++ [soh]) := by
  have field := frame.held.right.2
  have nine : fixBeginString.length = 9 := by decide
  rw [List.length_append, nine] at field
  have tag := field.left
  have value := field.right
  have two : (ascii "9=").length = 2 := by decide
  rw [two] at value
  have first : start + ((9 + version.length : Nat) : Int) + 1 = start + version.length + 10 := by
    omega
  have second : start + version.length + 10 + ((2 : Nat) : Int) = start + version.length + 12 := by
    omega
  rw [first] at tag value
  rw [second] at value
  exact ⟨tag, value⟩

theorem findBodyLength_tells (readable : memory.Readable 0 stop) :
    Tells start stop length
      (findBodyLength memory maxMessageSize length start (start + version.length + 12)) := by
  have ends := frame.stop_eq
  have positive := frame.positive
  have bounded := frame.bounded
  have value := frame.counts.2
  unfold findBodyLength
  rw [find_eq value frame.noSoh_digits]
  by_cases arrived : start + version.length + 12 + digits.length < length
  · have size : (start + version.length + 12 + digits.length -
        (start + version.length + 12)).toNat = digits.length := by omega
    have parsed : parseInteger memory (start + version.length + 12) digits.length =
        .ok (some (foldDigits digits)) :=
      parseInteger_some_iff.mpr ⟨digits, value.left, rfl, frame.nonempty, frame.all, rfl⟩
    rw [if_pos arrived]
    simp only [bind, Except.bind]
    rw [size, parsed]
    dsimp only
    rw [if_neg (by omega)]
    exact messageBoundaries_tells (by omega) readable
  · rw [if_neg arrived]
    exact tells_waiting rfl (by omega)

theorem findBeginStringEnd_tells (readable : memory.Readable 0 stop) :
    Tells start stop length (findBeginStringEnd memory maxMessageSize length start) := by
  have ends := frame.stop_eq
  have positive := frame.positive
  have nine : (fixBeginString ++ version).length = 9 + version.length := by
    rw [List.length_append]
    rfl
  have some := List.length_pos_iff.mpr frame.nonempty
  have fresh : soh ∉ fixBeginString ++ version := by
    rw [List.mem_append, not_or]
    exact ⟨by decide, frame.noSoh⟩
  unfold findBeginStringEnd
  rw [find_eq frame.begins fresh, nine]
  by_cases arrived : start + ((9 + version.length : Nat) : Int) < length
  · rw [if_pos arrived]
    simp only [bind, Except.bind]
    refine .ite (fun short => tells_waiting rfl (by omega)) fun _ => ?_
    have first : start + ((9 + version.length : Nat) : Int) + 1 = start + version.length + 10 := by
      omega
    have second : start + version.length + 10 + 2 = start + version.length + 12 := by omega
    rw [first, startsAt_true frame.counts.1, second]
    exact frame.findBodyLength_tells readable
  · rw [if_neg arrived]
    exact tells_waiting rfl (by omega)

/-- Framing tells whether the message that starts with the first `8=` has arrived. -/
theorem findCompleteMessage_tells {length : Nat} (readable : memory.Readable 0 stop)
    (low : 0 ≤ start) (first : 10 ≤ length → memory.search (ascii "8=") 0 length = .ok (some start))
    : Tells start stop length (findCompleteMessage memory maxMessageSize length) := by
  have ends := frame.stop_eq
  have positive := frame.positive
  have some := List.length_pos_iff.mpr frame.nonempty
  have nine : fixBeginString.length = 9 := by decide
  refine .ite (fun short => tells_waiting rfl (by omega)) fun long => ?_
  rw [first (by omega)]
  simp only [bind, Except.bind]
  refine .ite (fun short => tells_waiting rfl (by omega)) fun _ => ?_
  rw [startsAt_true frame.begins.left.left]
  exact frame.findBeginStringEnd_tells readable

theorem findCompleteMessage_tells_zero {length : Nat} (here : start = 0)
    (readable : memory.Readable 0 stop) :
    Tells start stop length (findCompleteMessage memory maxMessageSize length) := by
  refine frame.findCompleteMessage_tells readable (le_of_eq here.symm) fun long => ?_
  have two : (ascii "8=").length = 2 := by decide
  have opened : memory.Holds start (ascii "8=") :=
    (frame.begins.left.left.take 2 : memory.Holds start (fixBeginString.take 2))
  rw [← here]
  exact search_here opened (by decide) (by omega)

theorem mono {large : Memory} (larger : Memory.Extends memory large) :
    FrameAt large maxMessageSize start stop version digits :=
  { frame with held := larger.holds frame.held }

end FrameAt

end Laws

/-! ## More bytes

A framing that does not wait has seen all that it looks at, so more bytes do not change it. The
one exception is that it has found no `8=`.
-/

section More

variable {memory : Memory} {maxMessageSize : Nat} {length later start : Int} {framing : Framing}

theorem messageBoundaries_longer {bodyLengthEnd bodyLength : Int} (longer : length ≤ later)
    (ok : messageBoundaries memory length start bodyLengthEnd bodyLength = .ok framing)
    (settled : framing.result.status ≠ .needMoreData) :
    messageBoundaries memory later start bodyLengthEnd bodyLength = .ok framing := by
  unfold messageBoundaries at ok ⊢
  dsimp only at ok ⊢
  split at ok
  · cases ok
    exact absurd rfl settled
  · rw [if_neg (by omega)]
    exact ok

theorem findBodyLength_longer {bodyLengthStart : Int} (longer : length ≤ later)
    (ok : findBodyLength memory maxMessageSize length start bodyLengthStart = .ok framing)
    (settled : framing.result.status ≠ .needMoreData) :
    findBodyLength memory maxMessageSize later start bodyLengthStart = .ok framing := by
  obtain ⟨found, scanned, ok⟩ := bind_ok.mp ok
  cases found with
  | none =>
    cases ok
    exact absurd rfl settled
  | some bodyLengthEnd =>
    refine bind_ok.mpr ⟨some bodyLengthEnd, find_longer scanned longer, ?_⟩
    obtain ⟨parsed, read, ok⟩ := bind_ok.mp ok
    refine bind_ok.mpr ⟨parsed, read, ?_⟩
    cases parsed with
    | none => exact ok
    | some bodyLength =>
      dsimp only at ok ⊢
      split at ok
      · rename_i outOfRange
        rw [if_pos outOfRange]
        exact ok
      · rename_i inRange
        rw [if_neg inRange]
        exact messageBoundaries_longer longer ok settled

theorem findBeginStringEnd_longer (longer : length ≤ later)
    (ok : findBeginStringEnd memory maxMessageSize length start = .ok framing)
    (settled : framing.result.status ≠ .needMoreData) :
    findBeginStringEnd memory maxMessageSize later start = .ok framing := by
  obtain ⟨found, scanned, ok⟩ := bind_ok.mp ok
  cases found with
  | none =>
    cases ok
    exact absurd rfl settled
  | some position =>
    refine bind_ok.mpr ⟨some position, find_longer scanned longer, ?_⟩
    dsimp only at ok ⊢
    split at ok
    · cases ok
      exact absurd rfl settled
    · rw [if_neg (by omega)]
      obtain ⟨tagged, compared, ok⟩ := bind_ok.mp ok
      refine bind_ok.mpr ⟨tagged, compared, ?_⟩
      cases tagged with
      | false => exact ok
      | true => exact findBodyLength_longer longer ok settled

/-- A framing that has found an `8=` and does not wait is the same with more bytes. -/
theorem findCompleteMessage_longer {length later : Nat} (longer : length ≤ later)
    (ok : findCompleteMessage memory maxMessageSize length = .ok framing)
    (settled : framing.result.status ≠ .needMoreData)
    (opened : memory.search (ascii "8=") 0 length = .ok (some start)) :
    findCompleteMessage memory maxMessageSize later = .ok framing := by
  have wider : (length : Int) ≤ later := Int.ofNat_le.mpr longer
  unfold findCompleteMessage at ok ⊢
  split at ok
  · cases ok
    exact absurd rfl settled
  · rw [if_neg (by omega)]
    rw [opened] at ok
    refine bind_ok.mpr ⟨some start, search_longer opened wider, ?_⟩
    simp only [bind, Except.bind] at ok
    dsimp only at ok ⊢
    split at ok
    · cases ok
      exact absurd rfl settled
    · rw [if_neg (by omega)]
      obtain ⟨matched, compared, ok⟩ := bind_ok.mp ok
      refine bind_ok.mpr ⟨matched, compared, ?_⟩
      cases matched with
      | false => exact ok
      | true => exact findBeginStringEnd_longer wider ok settled

end More

/-! ## Buffers -/

/-- A buffer has a result of framing that depends on nothing around the buffer. -/
theorem findCompleteMessage_overlay (maxMessageSize : Nat) (bytes : Bytes) :
    ∃ framing, ∀ memory : Memory, memory.Holds 0 bytes →
      findCompleteMessage memory maxMessageSize bytes.length = .ok framing := by
  obtain ⟨framing, framed⟩ : Finishes
      (findCompleteMessage (overlay bytes unmapped) maxMessageSize bytes.length) :=
    findCompleteMessage_total (overlay_readable bytes unmapped)
  exact ⟨framing, fun memory held => (findCompleteMessage_refines held.extends _ _).ok framed⟩

/-- A buffer that ends inside a message at its beginning has framing wait. -/
theorem FrameAt.part_waits {memory part : Memory} {count : Nat} {stop : Int}
    (frame : FrameAt memory maxMessageSize 0 stop version digits) (held : memory.Holds 0 bytes)
    (inside : stop ≤ bytes.length) (short : count < stop) (cut : part.Holds 0 (bytes.take count)) :
    ∃ framing, findCompleteMessage part maxMessageSize count = .ok framing ∧
      framing.result.status = .needMoreData := by
  have size : (bytes.take count).length = count := by
    rw [List.length_take]
    omega
  obtain ⟨framing, framed⟩ := findCompleteMessage_overlay maxMessageSize (bytes.take count)
  rw [size] at framed
  -- the part has the same result as the whole message read up to the same length
  obtain ⟨same, ok, told⟩ : Tells 0 stop count (findCompleteMessage memory maxMessageSize count) :=
    frame.findCompleteMessage_tells_zero rfl (held.readable.mono (le_refl _) (by omega))
  cases (framed memory (held.take count)).symm.trans ok
  have status := told.status
  rw [if_neg (by omega)] at status
  exact ⟨framing, framed part cut, status⟩

/-- The first message of a byte string, as far as its header tells. -/
structure FirstFrame (maxMessageSize : Nat) (bytes : Bytes) (start stop : Nat) : Prop where
  nonempty : start < stop
  inside : stop ≤ bytes.length
  /-- There is no `8=` before the message. -/
  first : ∀ index < start, ¬ ascii "8=" <+: bytes.drop index
  /-- The BodyLength counts the bytes from behind its SOH to the end. -/
  reads : ∃ version digits rest bodyLength,
    bytes.drop start = fixBeginString ++ version ++ soh :: (ascii "9=" ++ (digits ++ soh :: rest)) ∧
    soh ∉ version ∧ digits ≠ [] ∧ (∀ byte ∈ digits, isDigit byte = true) ∧
    parseInteger (Memory.overlay digits Memory.unmapped) 0 digits.length = .ok (some bodyLength) ∧
    1 ≤ bodyLength ∧ bodyLength ≤ maxMessageSize ∧
    (stop : Int) = start + (fixBeginString.length + version.length + 1 + 2 + digits.length) + 1 +
      bodyLength

theorem FrameAt.firstFrame {start stop : Nat} (bounded : maxMessageSize < 2 ^ 31)
    (frame : FrameAt (overlay bytes unmapped) maxMessageSize start stop version digits)
    (inside : stop ≤ bytes.length) (found : Memory.occurrence? (ascii "8=") bytes = some start) :
    FirstFrame maxMessageSize bytes start stop := by
  have ends := frame.stop_eq
  have positive := frame.positive
  have limit := frame.bounded
  rw [wrapInt_of_bounds (by omega) (by omega)] at limit
  have nine : fixBeginString.length = 9 := by decide
  have two : (ascii "9=").length = 2 := by decide
  refine ⟨by omega, inside, (Memory.occurrence?_first found).2, ?_⟩
  have here : (overlay bytes unmapped).Holds (0 + start) (bytes.drop start) :=
    (overlay_holds bytes unmapped).drop (by omega)
  rw [zero_add] at here
  obtain ⟨rest, split⟩ := frame.held.isPrefix here (by simp; omega)
  refine ⟨version, digits, rest, foldDigits digits, ?_, frame.noSoh, frame.nonempty, frame.all, ?_,
    positive, limit, by omega⟩
  · rw [← split]
    simp
  · exact parseInteger_some_iff.mpr ⟨digits, overlay_holds _ _, rfl, frame.nonempty, frame.all, rfl⟩

/-- Framing reads only the buffer. If it succeeds, its boundaries are those of the first message,
any further bytes leave the result as it is, and any part of a message at the very beginning has
framing wait. -/
theorem findCompleteMessage_frames {maxMessageSize : Nat} (bounded : maxMessageSize < 2 ^ 31)
    (bytes : Bytes) :
    ∃ framing,
      (∀ outside, findCompleteMessage (Memory.overlay bytes outside) maxMessageSize bytes.length =
        .ok framing) ∧
      (framing.result.status = .success →
        ∃ start stop : Nat, framing.messageStart = start ∧ framing.messageEnd = stop ∧
          FirstFrame maxMessageSize bytes start stop ∧
          (∀ more outside, ∃ longer,
            findCompleteMessage (Memory.overlay (bytes ++ more) outside) maxMessageSize
              (bytes ++ more).length = .ok longer ∧
            longer.result.status = .success ∧ longer.messageStart = start ∧
            longer.messageEnd = stop) ∧
          (start = 0 → ∀ count, 0 < count → count < stop → ∀ outside, ∃ shorter,
            findCompleteMessage (Memory.overlay (bytes.take count) outside) maxMessageSize
              (bytes.take count).length = .ok shorter ∧
            shorter.result.status = .needMoreData)) := by
  obtain ⟨framing, framed⟩ := findCompleteMessage_overlay maxMessageSize bytes
  refine ⟨framing, fun outside => framed _ (overlay_holds bytes outside), fun success => ?_⟩
  have bare := framed _ (overlay_holds bytes unmapped)
  obtain ⟨low, inside, version, digits, frame⟩ := findCompleteMessage_success bare success
  have searched := findCompleteMessage_search bare success
  have ends := frame.stop_eq
  have positive := frame.positive
  obtain ⟨start, started⟩ := Int.eq_ofNat_of_zero_le low
  obtain ⟨stop, stopped⟩ := Int.eq_ofNat_of_zero_le (by omega : 0 ≤ framing.messageEnd)
  rw [started] at frame searched ends
  rw [stopped] at frame inside ends
  refine ⟨start, stop, started, stopped, frame.firstFrame bounded (by omega) ?_, ?_, ?_⟩
  · rw [search_eq (overlay_holds bytes unmapped) (zero_add _).symm] at searched
    obtain ⟨index, found, same⟩ := Option.map_eq_some_iff.mp (Except.ok.inj searched)
    rw [found]
    congr 1
    omega
  · intro more outside
    have held := (overlay_holds (bytes ++ more) outside).left
    have grown : bytes.length ≤ (bytes ++ more).length := by
      rw [List.length_append]
      omega
    obtain ⟨longer, ok, told⟩ := (frame.mono held.extends).findCompleteMessage_tells
      (held.readable.mono (le_refl _) (by omega)) (by omega) fun _ =>
        search_longer ((search_refines held.extends).ok searched)
          (Int.ofNat_le.mpr grown)
    have enough : (stop : Int) ≤ (bytes ++ more).length := by omega
    have status := told.status
    rw [if_pos enough] at status
    exact ⟨longer, ok, status, told.boundaries enough⟩
  · rintro rfl count _ short outside
    have size : (bytes.take count).length = count := by
      rw [List.length_take]
      omega
    rw [size]
    exact frame.part_waits (overlay_holds bytes unmapped) inside (by omega)
      (overlay_holds _ outside)

/-- A message with nothing but its type, and the first byte of its checksum field. -/
def sampleFrame : Bytes :=
  fixBeginString ++ soh :: (ascii "9=5" ++ soh :: (ascii "35=1" ++ soh :: ascii "1"))

theorem findCompleteMessage_frames_sample :
    8192 < 2 ^ 31 ∧
    ∃ framing,
      findCompleteMessage (Memory.overlay sampleFrame Memory.unmapped) 8192 20 = .ok framing ∧
      framing.result.status = .success ∧
      ∃ start stop : Nat, framing.messageStart = start ∧ framing.messageEnd = stop ∧
        FirstFrame 8192 sampleFrame start stop := by
  obtain ⟨framing, framed, succeeds⟩ :=
    findCompleteMessage_frames (by decide : 8192 < 2 ^ 31) sampleFrame
  have success : framing.result.status = .success := by
    have found : (findCompleteMessage (overlay sampleFrame unmapped) 8192
        sampleFrame.length).toOption.map (fun framing => framing.result.status) =
          some .success := by decide +kernel
    rw [framed] at found
    exact Option.some.inj found
  obtain ⟨start, stop, started, stopped, first, _⟩ := succeeds success
  exact ⟨by decide, framing, framed _, success, start, stop, started, stopped, first⟩

end FixGateway.Protocol
