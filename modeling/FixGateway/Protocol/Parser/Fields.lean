import FixGateway.Protocol.Parser.Framing

/-! # Reading fields

All decoders run the same loop over `tag=value<SOH>` fields: find the `=`, read
the tag, find the SOH, store the value. `scanField` is one round of it and
`parseFields` the loop, whose fuel bounds the number of rounds. The generic
decoder also leaves the loop after a certain tag.

`RawField` is a field as it stands on the wire. The loop ends without an error
exactly on a concatenation of raw fields, and then it has stored them in order.
-/

namespace FixGateway.Protocol

open ByteScan Memory

/-- The ways a field can be malformed. -/
inductive FieldProblem where
  | missingEquals
  | invalidTag
  | missingSoh (tag valueStart : Int)
  deriving DecidableEq, Repr

/-- What one round of the field loop finds. -/
inductive FieldScan where
  | field (tag : Int) (value : Bytes) (next : Int)
  | malformed (problem : FieldProblem)

/-- How the field loop ends: with all fields stored in the message, or at a
malformed field. -/
inductive FieldsExit (μ : Type) where
  | finished (message : μ)
  | malformed (position : Int) (problem : FieldProblem)

def FieldsExit.map {μ ν : Type} (apply : μ → ν) : FieldsExit μ → FieldsExit ν
  | .finished message => .finished (apply message)
  | .malformed position problem => .malformed position problem

/-- Read the field that starts at `current` and ends before `last`. -/
def scanField (memory : Memory) (last current : Int) : Except Fault FieldScan := do
  match ← memory.find equals current last with
  | none => .ok (.malformed .missingEquals)
  | some position =>
    match ← parseInteger memory current (position - current).toNat with
    | none => .ok (.malformed .invalidTag)
    | some tag =>
      let valueStart := position + 1
      match ← memory.find soh valueStart last with
      | none => .ok (.malformed (.missingSoh tag valueStart))
      | some stop => do
          let value ← memory.slice valueStart (stop - valueStart).toNat
          .ok (.field tag value (stop + 1))

/-- The field loop from `current` to `last`. It is left after a tag that `stops`
it. -/
def parseFields (memory : Memory) (last : Int) (stops : Int → Bool) :
    Nat → Int → FixMessage → Except Fault (FieldsExit FixMessage)
  | 0, _, _ => .error .outOfFuel
  | fuel + 1, current, message =>
    if current < last then do
      match ← scanField memory last current with
      | .malformed problem => .ok (.malformed current problem)
      | .field tag value next =>
        if stops tag then .ok (.finished (message.setField tag value))
        else parseFields memory last stops fuel next (message.setField tag value)
    else .ok (.finished message)

/-- Enough rounds for the bytes between the two positions. -/
def fieldFuel (first last : Int) : Nat := (last - first).toNat + 1

/-- A field as it stands on the wire. -/
structure RawField where
  digits : Bytes
  value : Bytes
  nonempty : digits ≠ []
  all : ∀ byte ∈ digits, isDigit byte = true
  noSoh : soh ∉ value

namespace RawField

/-- The tag a decoder stores the field under. -/
def tag (field : RawField) : Int := foldDigits field.digits

def text (field : RawField) : Bytes := field.digits ++ equals :: (field.value ++ [soh])

/-- What a decoder writes for the field. -/
def assignment (field : RawField) : Int × Bytes := (field.tag, field.value)

theorem noEquals (field : RawField) : equals ∉ field.digits := fun member =>
  absurd (field.all equals member) (by decide)

theorem length_text (field : RawField) :
    field.text.length = field.digits.length + field.value.length + 2 := by
  simp [text]
  omega

end RawField

/-- The bytes of a list of fields. -/
def fieldsText (fields : List RawField) : Bytes := fields.flatMap RawField.text

@[simp] theorem fieldsText_nil : fieldsText [] = [] := rfl

@[simp] theorem fieldsText_cons (field : RawField) (fields : List RawField) :
    fieldsText (field :: fields) = field.text ++ fieldsText fields :=
  rfl

section Reading

variable {memory : Memory} {last current : Int} {message : FixMessage} {stops : Int → Bool}
  {fuel : Nat} {small large : Memory}

theorem scanField_field (field : RawField) (held : memory.Holds current field.text)
    (inside : current + field.text.length ≤ last) :
    scanField memory last current =
      .ok (.field field.tag field.value (current + field.text.length)) := by
  have length := field.length_text
  have digits := held.left
  have value := held.right.2
  have first : memory.find equals current last = .ok (some (current + field.digits.length)) :=
    find_hit held field.noEquals (by omega)
  have parsed : parseInteger memory current
      (current + field.digits.length - current).toNat = .ok (some field.tag) :=
    parseInteger_some_iff.mpr ⟨field.digits, digits, by omega, field.nonempty, field.all, rfl⟩
  have second : memory.find soh (current + field.digits.length + 1) last =
      .ok (some (current + field.digits.length + 1 + field.value.length)) :=
    find_hit value field.noSoh (by omega)
  have copied : memory.slice (current + field.digits.length + 1)
      (current + field.digits.length + 1 + field.value.length -
        (current + field.digits.length + 1)).toNat = .ok field.value :=
    slice_ok_iff.mpr ⟨value.left, by omega⟩
  unfold scanField
  simp only [bind, Except.bind, first, parsed, second, copied]
  congr 2
  omega

theorem scanField_inversion {tag next : Int} {value : Bytes}
    (ok : scanField memory last current = .ok (.field tag value next)) :
    ∃ field : RawField, memory.Holds current field.text ∧ field.assignment = (tag, value) ∧
      next = current + field.text.length ∧ next ≤ last := by
  obtain ⟨found, scanned, ok⟩ := bind_ok.mp ok
  cases found with
  | none => cases ok
  | some position =>
    obtain ⟨before, held, _, _, rfl⟩ := find_some_iff.mp scanned
    obtain ⟨parsed, read, ok⟩ := bind_ok.mp ok
    cases parsed with
    | none => cases ok
    | some number =>
      obtain ⟨digits, also, size, nonempty, all, rfl⟩ := parseInteger_some_iff.mp read
      have same : digits = before := also.eq_of_length held.left (by omega)
      subst same
      obtain ⟨ended, scanned, ok⟩ := bind_ok.mp ok
      cases ended with
      | none => cases ok
      | some stop =>
        obtain ⟨content, rest, noSoh, inside, rfl⟩ := find_some_iff.mp scanned
        obtain ⟨copy, copied, ok⟩ := bind_ok.mp ok
        obtain ⟨copyHeld, copySize⟩ := slice_ok_iff.mp copied
        have same : copy = content := copyHeld.eq_of_length rest.left (by omega)
        subst same
        cases ok
        let field : RawField := ⟨digits, value, nonempty, all, noSoh⟩
        have length := field.length_text
        refine ⟨field, ?_, rfl, ?_, by omega⟩
        · have separator := held.right
          exact holds_append.mpr ⟨held.left, separator.1, rest⟩
        · dsimp only [field] at length ⊢
          omega

/-- The value of an unterminated field starts inside the bytes. -/
theorem scanField_missingSoh {tag valueStart : Int}
    (ok : scanField memory last current = .ok (.malformed (.missingSoh tag valueStart))) :
    valueStart ≤ last := by
  obtain ⟨found, scanned, ok⟩ := bind_ok.mp ok
  cases found with
  | none => cases ok
  | some position =>
    obtain ⟨before, _, _, inside, rfl⟩ := find_some_iff.mp scanned
    obtain ⟨parsed, _, ok⟩ := bind_ok.mp ok
    cases parsed with
    | none => cases ok
    | some number =>
      obtain ⟨ended, _, ok⟩ := bind_ok.mp ok
      cases ended with
      | none =>
        cases ok
        omega
      | some stop =>
        obtain ⟨value, _, ok⟩ := bind_ok.mp ok
        cases ok

/-- The loop stores a concatenation of held fields one after the other. Only the last of them
may stop it. -/
theorem parseFields_finished (fields : List RawField)
    (held : memory.Holds current (fieldsText fields))
    (ends : last = current + (fieldsText fields).length)
    (through : ∀ field ∈ fields.dropLast, stops field.tag = false)
    (enough : fieldFuel current last ≤ fuel) :
    parseFields memory last stops fuel current message =
      .ok (.finished (message.setFields (fields.map RawField.assignment))) := by
  induction fields generalizing current message fuel with
  | nil =>
    cases fuel with
    | zero => exact absurd enough (Nat.not_succ_le_zero _)
    | succ fuel =>
      have atEnd : ¬ current < last := by simp at ends; omega
      rw [parseFields, if_neg atEnd]
      rfl
  | cons field fields ih =>
    cases fuel with
    | zero => exact absurd enough (Nat.not_succ_le_zero _)
    | succ fuel =>
      rw [fieldsText_cons] at held ends
      have length := field.length_text
      rw [List.length_append] at ends
      have before : current < last := by omega
      have inside : current + field.text.length ≤ last := by omega
      have fewer : fieldFuel (current + field.text.length) last ≤ fuel := by
        unfold fieldFuel at enough ⊢
        omega
      have behind : ∀ other ∈ fields.dropLast, stops other.tag = false := by
        intro other member
        cases fields with
        | nil => cases member
        | cons second rest => exact through other (List.mem_cons_of_mem _ member)
      rw [parseFields, if_pos before, scanField_field field held.left inside]
      simp only [bind, Except.bind]
      by_cases stopped : stops field.tag = true
      · -- nothing comes after a field that stops the loop
        cases fields with
        | nil =>
          rw [if_pos stopped]
          rfl
        | cons second rest =>
          rw [through field List.mem_cons_self] at stopped
          cases stopped
      · rw [if_neg stopped]
        exact ih held.right (by omega) behind fewer

/-- A loop that is never left early and ends without an error has read a
concatenation of fields and stored them all. -/
theorem parseFields_inversion {result : FixMessage}
    (ok : parseFields memory last (fun _ => false) fuel current message = .ok (.finished result))
    (low : current ≤ last) :
    ∃ fields : List RawField, memory.Holds current (fieldsText fields) ∧
      last = current + (fieldsText fields).length ∧
      result = message.setFields (fields.map RawField.assignment) := by
  induction fuel generalizing current message with
  | zero => cases ok
  | succ fuel ih =>
    rw [parseFields] at ok
    by_cases before : current < last
    · rw [if_pos before, bind_ok] at ok
      obtain ⟨scan, scanned, ok⟩ := ok
      cases scan with
      | malformed problem => cases ok
      | field tag value next =>
        obtain ⟨field, held, assigned, rfl, inside⟩ := scanField_inversion scanned
        obtain ⟨fields, rest, ends, stored⟩ := ih ok inside
        refine ⟨field :: fields, holds_append.mpr ⟨held, rest⟩, ?_, ?_⟩
        · rw [fieldsText_cons, List.length_append]
          push_cast
          omega
        · rw [stored, List.map_cons, FixMessage.setFields_cons, assigned]
    · rw [if_neg before] at ok
      cases ok
      exact ⟨[], trivial, by simp; omega, rfl⟩

/-- A malformed field is reported inside the bytes that were to be read. -/
theorem parseFields_malformed {position : Int} {problem : FieldProblem}
    (ok : parseFields memory last stops fuel current message = .ok (.malformed position problem)) :
    position < last ∧
      ∀ tag valueStart, problem = .missingSoh tag valueStart → valueStart ≤ last := by
  induction fuel generalizing current message with
  | zero => cases ok
  | succ fuel ih =>
    rw [parseFields] at ok
    by_cases before : current < last
    · rw [if_pos before, bind_ok] at ok
      obtain ⟨scan, scanned, ok⟩ := ok
      cases scan with
      | malformed problem =>
        cases ok
        refine ⟨before, ?_⟩
        rintro tag valueStart rfl
        exact scanField_missingSoh scanned
      | field tag value next =>
        dsimp only at ok
        split at ok
        · cases ok
        · exact ih ok
    · rw [if_neg before] at ok
      cases ok

/-- What the loop stores does not depend on the message it stores it in. -/
theorem parseFields_uniform (memory : Memory) (last : Int) (stops : Int → Bool) (fuel : Nat)
    (current : Int) :
    ∃ outcome : Except Fault (FieldsExit (List (Int × Bytes))), ∀ message,
      parseFields memory last stops fuel current message =
        outcome.map (FieldsExit.map message.setFields) := by
  induction fuel generalizing current with
  | zero => exact ⟨.error .outOfFuel, fun _ => rfl⟩
  | succ fuel ih =>
    by_cases before : current < last
    · cases scanned : scanField memory last current with
      | error fault =>
        refine ⟨.error fault, fun message => ?_⟩
        rw [parseFields, if_pos before, scanned]
        rfl
      | ok scan =>
        cases scan with
        | malformed problem =>
          refine ⟨.ok (.malformed current problem), fun message => ?_⟩
          rw [parseFields, if_pos before, scanned]
          rfl
        | field tag value next =>
          by_cases stop : stops tag = true
          · refine ⟨.ok (.finished [(tag, value)]), fun message => ?_⟩
            rw [parseFields, if_pos before, scanned]
            simp only [bind, Except.bind, stop, if_true]
            rfl
          · obtain ⟨outcome, uniform⟩ := ih next
            refine ⟨outcome.map (FieldsExit.map ((tag, value) :: ·)), fun message => ?_⟩
            rw [parseFields, if_pos before, scanned]
            simp only [bind, Except.bind, stop, uniform]
            cases outcome with
            | error fault => rfl
            | ok exit => cases exit <;> rfl
    · refine ⟨.ok (.finished []), fun message => ?_⟩
      rw [parseFields, if_neg before]
      rfl

theorem scanField_total (readable : memory.Readable current last) :
    Finishes (scanField memory last current) := by
  refine (find_total readable).bind fun found scanned => ?_
  cases found with
  | none => exact .ok _
  | some position =>
    obtain ⟨before, _, _, inside, rfl⟩ := find_some_iff.mp scanned
    have digits : memory.Readable current
        (current + (current + before.length - current).toNat) :=
      readable.mono (le_refl _) (by omega)
    refine (parseInteger_total digits).bind fun parsed _ => ?_
    cases parsed with
    | none => exact .ok _
    | some tag =>
      have values : memory.Readable (current + before.length + 1) last :=
        readable.mono (by omega) (le_refl _)
      refine (find_total values).bind fun ended scanned => ?_
      cases ended with
      | none => exact .ok _
      | some stop =>
        obtain ⟨content, _, _, ends, rfl⟩ := find_some_iff.mp scanned
        refine (slice_total (values.mono (le_refl _) ?_)).bind fun _ _ => .ok _
        omega

/-- The loop ends within its fuel, and reads only up to `last`. -/
theorem parseFields_total (readable : memory.Readable current last)
    (enough : fieldFuel current last ≤ fuel) :
    Finishes (parseFields memory last stops fuel current message) := by
  induction fuel generalizing current message with
  | zero => exact absurd enough (Nat.not_succ_le_zero _)
  | succ fuel ih =>
    refine .ite (fun before => ?_) fun _ => .ok _
    refine (scanField_total readable).bind fun scan scanned => ?_
    cases scan with
    | malformed problem => exact .ok _
    | field tag value next =>
      obtain ⟨field, _, _, rfl, inside⟩ := scanField_inversion scanned
      have length := field.length_text
      refine .ite (fun _ => .ok _) fun _ => ih (readable.mono (by omega) (le_refl _)) ?_
      unfold fieldFuel at enough ⊢
      omega

theorem scanField_refines (larger : Memory.Extends small large) (last current : Int) :
    Refines (scanField small last current) (scanField large last current) := by
  refine (find_refines larger).bind fun found => ?_
  cases found with
  | none => exact .refl _
  | some position =>
    refine (parseInteger_refines larger _ _).bind fun parsed => ?_
    cases parsed with
    | none => exact .refl _
    | some tag =>
      refine (find_refines larger).bind fun ended => ?_
      cases ended with
      | none => exact .refl _
      | some stop => exact (slice_refines larger).bind fun _ => .refl _

theorem parseFields_refines (larger : Memory.Extends small large)
    (last : Int) (stops : Int → Bool) (fuel : Nat) (current : Int) (message : FixMessage) :
    Refines (parseFields small last stops fuel current message)
      (parseFields large last stops fuel current message) := by
  induction fuel generalizing current message with
  | zero => exact .refl _
  | succ fuel ih =>
    refine .ite ((scanField_refines larger last current).bind fun scan => ?_) (.refl _)
    cases scan with
    | malformed problem => exact .refl _
    | field tag value next => exact .ite (.refl _) (ih next _)

end Reading

end FixGateway.Protocol
