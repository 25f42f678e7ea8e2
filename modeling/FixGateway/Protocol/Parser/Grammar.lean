import FixGateway.Protocol.Parser.Bounds

/-! # The frames that are accepted

`FrameGrammar` is the form of a FIX 4.4 message. A parser that returns a single
message from a buffer has checked much of it, but not all: it looks for `8=`
anywhere, compares only `8=FIX.4.4` without the SOH after it, lets BodyLength and tags
wrap around, looks for `35=` also inside other tags, reads the checksum with
`std::stoi` and compares it as a byte, and does not look at the last SOH.

`Conforming` says what it leaves out, and with that the accepted buffer is a frame of
the grammar.
-/

namespace FixGateway.Protocol

open ByteScan FixGateway.Common Memory OptimizedParser

variable {digits rest tail before bytes : Bytes} {memory : Memory} {fields : List RawField}
  {maxMessageSize : Nat} {framing : Framing}

/-! ## The grammar -/

/-- The header of a message with the given BodyLength digits. -/
def headerText (digits : Bytes) : Bytes :=
  fixBeginString ++ soh :: (ascii "9=" ++ (digits ++ [soh]))

/-- A decimal number as text. -/
structure Numeral (digits : Bytes) : Prop where
  nonempty : digits ≠ []
  all : ∀ byte ∈ digits, isDigit byte = true

/-- `8=FIX.4.4<SOH>9=N<SOH>`, a body of N bytes that are fields with a tag 35 among
them, and `10=ddd<SOH>` with the checksum of everything before it. -/
def FrameGrammar (bytes : Bytes) : Prop :=
  ∃ (digits : Bytes) (fields : List RawField) (sum : Bytes),
    bytes = headerText digits ++ (fieldsText fields ++ (ascii "10=" ++ (sum ++ [soh]))) ∧
    Numeral digits ∧ value digits = (fieldsText fields).length ∧
    (∃ field ∈ fields, value field.digits = 35) ∧ Numeral sum ∧ sum.length = 3 ∧
    value sum = checksum (headerText digits ++ fieldsText fields)

/-- A tag 35 at the start of the body or after a SOH. -/
def HasMsgType (body : Bytes) : Prop :=
  ∃ before digits after, body = before ++ (digits ++ equals :: after) ∧
    (before = [] ∨ before.getLast? = some soh) ∧ Numeral digits ∧ value digits = 35

/-- The header is exact, BodyLength counts the bytes up to the last seven, there is a
tag 35, and the last seven bytes are any three, three digits below 256, and a SOH. -/
def Conforming (bytes : Bytes) : Prop :=
  ∃ digits body label sum : Bytes,
    bytes = headerText digits ++ (body ++ (label ++ (sum ++ [soh]))) ∧
    Numeral digits ∧ value digits = body.length ∧ HasMsgType body ∧ label.length = 3 ∧
    Numeral sum ∧ sum.length = 3 ∧ value sum < 256

theorem length_headerText (digits : Bytes) : (headerText digits).length = digits.length + 13 := by
  have nine : fixBeginString.length = 9 := by decide
  have two : (ascii "9=").length = 2 := by decide
  simp only [headerText, List.length_append, List.length_cons, List.length_nil, nine, two]
  omega

/-- The digits of BodyLength are at offset 12, where a specialised decoder reads them. -/
theorem holds_bodyLength (held : memory.Holds 0 (headerText digits)) :
    memory.Holds 12 (digits ++ [soh]) := by
  have nine : fixBeginString.length = 9 := by decide
  have two : (ascii "9=").length = 2 := by decide
  have place : (0 : Int) + fixBeginString.length + 1 + (ascii "9=").length = 12 := by
    rw [nine, two]
    rfl
  rw [← place]
  exact held.right.2.right

theorem Numeral.noSoh (numeral : Numeral digits) : soh ∉ digits :=
  fun member => absurd (numeral.all soh member) (by decide)

theorem Numeral.noEquals (numeral : Numeral digits) : equals ∉ digits :=
  fun member => absurd (numeral.all equals member) (by decide)

/-! ## Tags of a body -/

theorem split_unique {front other : Bytes} {byte : UInt8} (absent : byte ∉ front)
    (missing : byte ∉ other) (same : front ++ byte :: rest = other ++ byte :: tail) :
    front = other ∧ rest = tail := by
  induction front generalizing other with
  | nil =>
    cases other with
    | nil => exact ⟨rfl, (List.cons.inj same).2⟩
    | cons head other =>
      rw [(List.cons.inj same).1] at missing
      exact absurd List.mem_cons_self missing
  | cons head front ih =>
    cases other with
    | nil =>
      rw [(List.cons.inj same).1] at absent
      exact absurd List.mem_cons_self absent
    | cons first other =>
      obtain ⟨rfl, below⟩ := List.cons.inj same
      obtain ⟨rfl, rest⟩ := ih (fun member => absent (List.mem_cons_of_mem _ member))
        (fun member => missing (List.mem_cons_of_mem _ member)) below
      exact ⟨rfl, rest⟩

theorem prefix_of_field {field : RawField}
    (same : field.text ++ rest = before ++ tail) (ended : before.getLast? = some soh) :
    ∃ more, before = field.text ++ more ∧ rest = more ++ tail := by
  obtain ⟨more, split, rest_eq⟩ | ⟨more, split, tail_eq⟩ := List.append_eq_append_iff.mp same
  · exact ⟨more, split, rest_eq⟩
  · cases more using List.reverseRecOn with
    | nil => exact ⟨[], by simpa using split.symm, by simpa using tail_eq.symm⟩
    | append_singleton more last =>
      -- a proper prefix of a field has no SOH
      have text : field.text = (field.digits ++ equals :: field.value) ++ [soh] := by
        simp [RawField.text]
      rw [text, ← List.append_assoc] at split
      have front := (List.append_inj' split rfl).1
      have member : soh ∈ field.digits ++ equals :: field.value :=
        front ▸ List.mem_append_left more (List.mem_of_getLast? ended)
      obtain digit | found := List.mem_append.mp member
      · exact absurd (field.all soh digit) (by decide)
      · obtain same | inside := List.mem_cons.mp found
        · exact absurd same (by decide)
        · exact absurd inside field.noSoh

/-- A tag at the start of a list of fields or after a SOH is the tag of a field. -/
theorem fieldsText_boundary {after : Bytes}
    (text : fieldsText fields = before ++ (digits ++ equals :: after))
    (boundary : before = [] ∨ before.getLast? = some soh) (noEquals : equals ∉ digits) :
    ∃ front field back, fields = front ++ field :: back ∧ fieldsText front = before ∧
      field.digits = digits := by
  induction fields generalizing before with
  | nil =>
    have empty := congrArg List.length text
    simp at empty
  | cons field fields ih =>
    rw [fieldsText_cons] at text
    obtain rfl | ended := boundary
    · have opened : field.text ++ fieldsText fields =
          field.digits ++ equals :: (field.value ++ [soh] ++ fieldsText fields) := by
        simp [RawField.text]
      rw [opened, List.nil_append] at text
      exact ⟨[], field, fields, rfl, rfl, (split_unique field.noEquals noEquals text).1⟩
    · obtain ⟨more, rfl, rest⟩ := prefix_of_field text ended
      have boundary : more = [] ∨ more.getLast? = some soh := by
        by_cases empty : more = []
        · exact Or.inl empty
        · rw [List.getLast?_append_of_ne_nil _ empty] at ended
          exact Or.inr ended
      obtain ⟨front, found, back, rfl, rfl, same⟩ := ih rest boundary
      exact ⟨field :: front, found, back, rfl, rfl, same⟩

/-- A body of fields has a tag 35 exactly when one of them has it. -/
theorem hasMsgType_fieldsText :
    HasMsgType (fieldsText fields) ↔ ∃ field ∈ fields, value field.digits = 35 := by
  constructor
  · rintro ⟨before, digits, after, body, boundary, numeral, number⟩
    obtain ⟨front, field, back, rfl, _, same⟩ := fieldsText_boundary body boundary numeral.noEquals
    exact ⟨field, List.mem_append_right _ List.mem_cons_self, same ▸ number⟩
  · rintro ⟨field, member, number⟩
    obtain ⟨front, back, rfl⟩ := List.append_of_mem member
    refine ⟨fieldsText front, field.digits, field.value ++ [soh] ++ fieldsText back, ?_, ?_,
      ⟨field.nonempty, field.all⟩, number⟩
    · simp [fieldsText, RawField.text]
    · cases front using List.reverseRecOn with
      | nil => exact Or.inl rfl
      | append_singleton front last =>
        refine Or.inr ?_
        have text : fieldsText (front ++ [last]) =
            fieldsText front ++ (last.digits ++ equals :: last.value) ++ [soh] := by
          simp [fieldsText, RawField.text]
        rw [text, List.getLast?_concat]

theorem FrameGrammar.conforming (grammar : FrameGrammar bytes) : Conforming bytes := by
  obtain ⟨digits, fields, sum, text, numeral, length, tag, sumNumeral, three, total⟩ := grammar
  exact ⟨digits, fieldsText fields, ascii "10=", sum, text, numeral, length,
    hasMsgType_fieldsText.mpr tag, by decide, sumNumeral, three, total ▸ checksum_lt _⟩

theorem FrameGrammar.getLast (grammar : FrameGrammar bytes) : bytes.getLast? = some soh := by
  obtain ⟨digits, fields, sum, text, _⟩ := grammar
  rw [text]
  simp only [← List.append_assoc, List.getLast?_concat]

/-! ## Accepted frames -/

section Accepted

variable {config : ParserConfig} {memory : Memory} {length bytesConsumed : Nat}
  {first second accepted : FixMessage} {detail : Bytes} {decoder : OptimizedParser} {bodyEnd : Int}
  {message : FixMessage}

/-- What an accepting decoder has read after the body: a checksum field whose number
is the sum of the bytes before it. -/
theorem OptimizedParser.readChecksum_success
    (ok : decoder.readChecksum true memory bodyEnd message =
      .ok (.success accepted bytesConsumed detail)) :
    memory.Holds bodyEnd (ascii "10=") ∧ ∃ sum received bytes, memory.Holds (bodyEnd + 3) sum ∧
      sum.length = 3 ∧ stoi sum = some received ∧ memory.Holds 0 bytes ∧
      bytes.length = wrapSize bodyEnd ∧ bytes.sum = UInt8.ofInt received := by
  unfold readChecksum at ok
  simp only [if_true] at ok
  obtain ⟨labelled, compared, ok⟩ := bind_ok.mp ok
  cases labelled with
  | false => cases ok
  | true =>
    simp only [if_true] at ok
    obtain ⟨sum, copied, ok⟩ := bind_ok.mp ok
    obtain ⟨calculated, summed, ok⟩ := bind_ok.mp ok
    obtain ⟨held, three⟩ := slice_ok_iff.mp copied
    obtain ⟨bytes, before, size, rfl⟩ := byteSum_ok_iff.mp summed
    refine ⟨startsAt_true_iff.mp compared, sum, ?_⟩
    cases read : stoi sum with
    | none =>
      rw [read] at ok
      cases ok
    | some received =>
      rw [read] at ok
      dsimp only at ok
      split at ok
      · rename_i equal
        rw [zero_add] at equal
        exact ⟨received, bytes, held, three, rfl, before, size, equal⟩
      · cases ok

/-- What an accepting decoder has read: fields up to the end of the body, and the
checksum field. -/
theorem OptimizedParser.readBody_success {bodyStart : Int} (low : bodyStart ≤ bodyEnd)
    (ok : decoder.readBody true memory bodyStart bodyEnd message =
      .ok (.success accepted bytesConsumed detail)) :
    ∃ fields : List RawField, memory.Holds bodyStart (fieldsText fields) ∧
      bodyEnd = bodyStart + (fieldsText fields).length ∧
      ∃ message, decoder.readChecksum true memory bodyEnd message =
        .ok (.success accepted bytesConsumed detail) := by
  obtain ⟨exit, parsed, ok⟩ := bind_ok.mp ok
  cases exit with
  | malformed position problem => cases ok
  | finished message =>
    obtain ⟨fields, held, ends, _⟩ := parseFields_inversion parsed low
    dsimp only at ok
    split at ok
    · cases ok
    · exact ⟨fields, held, ends, message, ok⟩

end Accepted

theorem messageStart_eq_zero {length : Nat}
    (framed : findCompleteMessage memory maxMessageSize length = .ok framing)
    (success : framing.result.status = .success) (opened : memory.Holds 0 (ascii "8=")) :
    framing.messageStart = 0 := by
  have found := findCompleteMessage_search framed success
  obtain ⟨_, low, high, room⟩ := search_some found
  have here : memory.search (ascii "8=") 0 length = .ok (some 0) :=
    search_here opened (by decide) (by omega)
  rw [here] at found
  exact (Option.some.inj (Except.ok.inj found)).symm

theorem FrameAt.exact {start stop : Int} {version header : Bytes}
    (frame : FrameAt memory maxMessageSize start stop version digits)
    (held : memory.Holds start (headerText header)) (numeral : Numeral header) :
    version = [] ∧ digits = header := by
  have noSoh : soh ∉ digits := Numeral.noSoh ⟨frame.nonempty, frame.all⟩
  have behind := frame.held
  rw [List.append_assoc] at behind
  -- both strings have a SOH behind the version, so neither has one
  have short : version = [] := by
    have mine : memory.Holds (start + fixBeginString.length) (version ++ [soh]) := by
      have rest := behind.right
      rw [List.append_cons] at rest
      exact rest.left
    have theirs : memory.Holds (start + fixBeginString.length) ([] ++ [soh]) := by
      have rest := held.right
      rw [List.append_cons] at rest
      exact rest.left
    exact mine.unique theirs frame.noSoh List.not_mem_nil
  subst short
  have mine := behind.right.2.right
  have theirs := held.right.2.right
  exact ⟨rfl, mine.unique theirs noSoh numeral.noSoh⟩

theorem wrapSize_trailer {digits : Nat} {bodyLength : Int} (short : digits < 2 ^ 63)
    (positive : 0 < bodyLength) (limit : bodyLength < 2 ^ 31) :
    (wrapSize (12 + digits + 1 + bodyLength + 7) : Int) = digits + bodyLength + 20 := by
  rw [wrapSize_of_bounds (by omega) (by omega)]
  omega

/-- The parts of a buffer that conforms. -/
structure Parts (memory : Memory) (digits body label sum : Bytes) : Prop where
  held : memory.Holds 0 (headerText digits ++ (body ++ (label ++ (sum ++ [soh]))))
  numeral : Numeral digits
  size : value digits = body.length
  tagged : HasMsgType body
  three : label.length = 3
  sumNumeral : Numeral sum
  sumThree : sum.length = 3
  small : value sum < 256

namespace Parts

variable {memory : Memory} {digits body label sum : Bytes}

/-- What is behind the header, at the place where the decoder looks for it. -/
theorem behind (parts : Parts memory digits body label sum) :
    memory.Holds (12 + digits.length + 1) (body ++ (label ++ (sum ++ [soh]))) := by
  have bodyStart : (0 : Int) + (headerText digits).length = 12 + digits.length + 1 := by
    rw [length_headerText]
    push_cast
    omega
  have held := parts.held.right
  rwa [bodyStart] at held

/-- A body that is read up to its end, with a checksum that is correct, makes the buffer a
frame of the grammar. -/
theorem grammar (parts : Parts memory digits body label sum) {decoder : OptimizedParser}
    {message accepted : FixMessage} {bytesConsumed : Nat} {detail : Bytes}
    (short : digits.length < 2 ^ 63) (limit : (body.length : Int) < 2 ^ 31)
    (read : decoder.readBody true memory (12 + digits.length + 1)
      (12 + digits.length + 1 + body.length) message =
        .ok (.success accepted bytesConsumed detail)) :
    FrameGrammar (headerText digits ++ (body ++ (label ++ (sum ++ [soh])))) := by
  have header := length_headerText digits
  have three := parts.three
  have sumThree := parts.sumThree
  have small := parts.small
  obtain ⟨fields, fieldsHeld, bodyEnd, message, checked⟩ := readBody_success (by omega) read
  have fields_eq : fieldsText fields = body := fieldsHeld.eq_of_length parts.behind.left (by omega)
  obtain ⟨labelled, again, received, before, sumHeld, _, converted, beforeHeld, count, equal⟩ :=
    readChecksum_success checked
  have label_eq : ascii "10=" = label := by
    have ten : (ascii "10=").length = 3 := by decide
    exact labelled.eq_of_length parts.behind.right.left (by omega)
  have sum_eq : again = sum := by
    have place := parts.behind.right.right
    rw [three] at place
    exact sumHeld.eq_of_length place.left (by omega)
  have before_eq : before = headerText digits ++ body := by
    have front : memory.Holds 0 (headerText digits ++ body) :=
      holds_append.mpr ⟨parts.held.left, parts.held.right.left⟩
    refine beforeHeld.eq_of_length front ?_
    rw [count, wrapSize_of_bounds (by omega) (by omega), List.length_append]
    omega
  -- three digits below 256 are read as they are
  have value_eq : received = (value sum : Int) := by
    rw [sum_eq, stoi_digits parts.sumNumeral.nonempty parts.sumNumeral.all (by omega)] at converted
    exact (Option.some.inj converted).symm
  refine ⟨digits, fields, sum, ?_, parts.numeral, ?_, ?_, parts.sumNumeral, sumThree, ?_⟩
  · rw [fields_eq, label_eq]
  · rw [fields_eq]
    exact parts.size
  · exact hasMsgType_fieldsText.mp (fields_eq ▸ parts.tagged)
  · have bytes_eq := congrArg UInt8.toNat equal
    rw [toNat_sum, value_eq, toNat_ofInt, before_eq, Nat.mod_eq_of_lt small] at bytes_eq
    rw [fields_eq]
    exact bytes_eq.symm

/-- BodyLength as the parser reads it wraps, and can only be too small. -/
theorem folded_eq (parts : Parts memory digits body label sum)
    (grown : (body.length : Int) ≤ foldDigits digits) : foldDigits digits = body.length := by
  rw [foldDigits_eq, parts.size] at grown ⊢
  exact wrapInt_eq_of_le grown

end Parts

/-- An accepted buffer that conforms is a frame of the grammar, and is consumed as a
whole. -/
theorem grammar_of_conforming {config : ParserConfig} {bytesConsumed : Nat}
    {first second accepted : FixMessage} {detail : Bytes} (checks : config.validateChecksum = true)
    (bound : bytes.length < 2 ^ 63) (conforming : Conforming bytes)
    (framed : findCompleteMessage (overlay bytes unmapped) config.maxMessageSize
      bytes.length = .ok framing) (found : framing.result.status = .success)
    (decoded : decodeFrame config ((overlay bytes unmapped).shift
      framing.messageStart) (framing.messageEnd - framing.messageStart).toNat first second =
        .ok (.success accepted bytesConsumed detail)) (enough : bytes.length ≤ bytesConsumed) :
    bytesConsumed = bytes.length ∧ FrameGrammar bytes := by
  obtain ⟨digits, body, label, sum, rfl, numeral, size, tagged, three, sumNumeral, sumThree,
    small⟩ := conforming
  have parts : Parts (overlay (headerText digits ++ (body ++ (label ++ (sum ++ [soh]))))
      unmapped) digits body label sum :=
    ⟨overlay_holds _ _, numeral, size, tagged, three, sumNumeral, sumThree, small⟩
  generalize overlay _ unmapped = memory at framed decoded parts
  have total : (headerText digits ++ (body ++ (label ++ (sum ++ [soh])))).length =
      digits.length + 13 + (body.length + 7) := by
    simp only [List.length_append, List.length_cons, List.length_nil, length_headerText, three,
      sumThree]
  rw [total] at bound enough ⊢
  have start : framing.messageStart = 0 := by
    have begins : fixBeginString = ascii "8=" ++ ascii "FIX.4.4" := by decide
    have opened := parts.held.left.left
    rw [begins] at opened
    exact messageStart_eq_zero framed found opened.left
  obtain ⟨_, _, version, written, frame⟩ := findCompleteMessage_success framed found
  rw [start] at frame decoded
  obtain ⟨rfl, rfl⟩ := frame.exact parts.held.left numeral
  have positive := frame.positive
  have ends := frame.stop_eq
  rw [List.length_nil] at ends
  have limit : foldDigits written < 2 ^ 31 := by
    rw [foldDigits_eq]
    exact (wrapInt_bounds _).2
  obtain whole | ⟨_, decoder, _, _, _, decoded⟩ := decodeFrame_success decoded
  · have exact_eq := parts.folded_eq (by omega)
    omega
  · rw [checks, shift_zero] at decoded
    obtain ⟨again, offset, nonempty, all, _, read⟩ := decode_reads decoded nofun
    obtain rfl : again = written :=
      offset.unique (holds_bodyLength parts.held.left) (Numeral.noSoh ⟨nonempty, all⟩)
        numeral.noSoh
    have short : again.length < 2 ^ 63 := by omega
    have consumed := wrapSize_trailer short positive limit
    rw [← readBody_consumes _ read _ _ _ rfl] at consumed
    have exact_eq := parts.folded_eq (by omega)
    rw [exact_eq] at read consumed limit
    exact ⟨by omega, parts.grammar short limit read⟩

/-! ## A single message -/

namespace StreamFixParser

variable {parser after : StreamFixParser} {clock : Clock} {memory : Memory}
  {length fuel cursor : Nat} {lastSuccess : Option ParseResult} {result : ParseResult}

/-- A round after which the loop goes on, or which leaves it with a success, has
decoded a message. -/
theorem Round.decodes {step : LoopStep} (round : Round clock memory length cursor parser step after)
    (goes : ∀ result, step = .leave (.returned result) → result.status = .success)
    (returns : ∀ what, step ≠ .leave (.thrown what)) :
    ∃ framing decoded pool,
      parser.frameAt memory length cursor = .ok framing ∧ framing.result.status = .success ∧
      parser.decodeAt clock memory cursor framing = .ok (.returned decoded, pool) ∧
      decoded.status = .success ∧
      step = .next (wrapSize (cursor + decoded.bytesConsumed)) (some (movedTo decoded cursor)) ∧
      after = parser.noteDecoded clock framing pool := by
  cases round with
  | waited framed waits =>
    have success := goes _ rfl
    rw [waits] at success
    cases success
  | unframed _ _ fails => exact absurd (goes _ rfl) fails
  | threw => exact absurd rfl (returns _)
  | decoded framed success called accepted =>
    exact ⟨_, _, _, framed, success, called, accepted, rfl, rfl⟩
  | undecoded _ _ _ fails => exact absurd (goes _ rfl) fails

theorem parseLoop_decodes (inside : cursor < length)
    (ran : parseLoop clock memory length (fuel + 1) parser cursor lastSuccess =
      .ok (.returned result, after)) (success : result.status = .success) :
    ∃ framing decoded pool,
      parser.frameAt memory length cursor = .ok framing ∧ framing.result.status = .success ∧
      parser.decodeAt clock memory cursor framing = .ok (.returned decoded, pool) ∧
      decoded.status = .success ∧
      parseLoop clock memory length fuel (parser.noteDecoded clock framing pool)
        (wrapSize (cursor + decoded.bytesConsumed)) (some (movedTo decoded cursor)) =
          .ok (.returned result, after) := by
  rw [parseLoop, if_pos inside] at ran
  obtain ⟨⟨step, middle⟩, stepped, ran⟩ := bind_ok.mp ran
  have goes : ∀ returned, step = .leave (.returned returned) → returned.status = .success := by
    rintro returned rfl
    cases ran
    exact success
  have returns : ∀ what, step ≠ .leave (.thrown what) := by
    rintro what rfl
    cases ran
  obtain ⟨framing, decoded, pool, framed, found, called, accepted, rfl, rfl⟩ :=
    (parseStep_round stepped).decodes goes returns
  exact ⟨framing, decoded, pool, framed, found, called, accepted, ran⟩

/-- A loop that ends with a success before its end has decoded a message. -/
theorem parseLoop_counts (inside : cursor < length)
    (ran : parseLoop clock memory length fuel parser cursor lastSuccess =
      .ok (.returned result, after)) (success : result.status = .success) :
    parser.stats.messagesParsed < after.stats.messagesParsed := by
  induction fuel generalizing parser cursor lastSuccess with
  | zero => cases ran
  | succ fuel ih =>
    obtain ⟨framing, decoded, pool, _, _, _, _, rest⟩ := parseLoop_decodes inside ran success
    have counted : (parser.noteDecoded clock framing pool).stats.messagesParsed =
      parser.stats.messagesParsed + 1 := rfl
    by_cases before : wrapSize (cursor + decoded.bytesConsumed) < length
    · have more := ih before rest
      omega
    · cases fuel with
      | zero => cases rest
      | succ fuel =>
        rw [parseLoop, if_neg before] at rest
        cases rest
        omega

/-- A loop that ends with the success of a single message has framed and decoded it, and
consumed all bytes. -/
theorem parseLoop_single (inside : cursor < length)
    (ran : parseLoop clock memory length fuel parser cursor lastSuccess =
      .ok (.returned result, after)) (success : result.status = .success)
    (single : after.stats.messagesParsed = parser.stats.messagesParsed + 1) :
    ∃ framing decoded pool,
      parser.frameAt memory length cursor = .ok framing ∧ framing.result.status = .success ∧
      parser.decodeAt clock memory cursor framing = .ok (.returned decoded, pool) ∧
      decoded.status = .success ∧ result = movedTo decoded cursor ∧
      length ≤ result.bytesConsumed := by
  cases fuel with
  | zero => cases ran
  | succ fuel =>
    obtain ⟨framing, decoded, pool, framed, found, called, accepted, rest⟩ :=
      parseLoop_decodes inside ran success
    have counted : (parser.noteDecoded clock framing pool).stats.messagesParsed =
      parser.stats.messagesParsed + 1 := rfl
    have ended : ¬ wrapSize (cursor + decoded.bytesConsumed) < length := by
      intro before
      have more := parseLoop_counts before rest success
      omega
    cases fuel with
    | zero => cases rest
    | succ fuel =>
      rw [parseLoop, if_neg ended] at rest
      cases rest
      exact ⟨framing, decoded, pool, framed, found, called, accepted, rfl, Nat.not_lt.mp ended⟩

/-- Where a fresh parser that checks checksums returns a single message and reads only
the buffer, the bytes it consumes are a frame of the grammar exactly when the buffer
conforms. -/
theorem parse_accepts_grammar_iff {pool : MessagePool FixMessage} {config : ParserConfig}
    {now : Nat} {buffer : Bytes} (checks : config.validateChecksum = true)
    (bound : buffer.length < 2 ^ 63)
    (ran : (new pool config now).parse clock Memory.unmapped buffer = .ok (result, after))
    (success : result.status = .success) (single : after.stats.messagesParsed = 1) :
    result.bytesConsumed ≤ buffer.length ∧ FrameGrammar (buffer.take result.bytesConsumed) ↔
      Conforming buffer := by
  have looped : parseLoop clock (overlay buffer unmapped) buffer.length
      (pool.freeList.length + 1) (new pool config now) 0 none = .ok (.returned result, after) := by
    obtain ⟨other, _, fails, returned⟩ | ⟨_, entered⟩ :=
      parse_cases (Reachable.new pool config now).unset clock unmapped buffer
    · rw [returned] at ran
      cases ran
      exact absurd success fails
    · rw [entered] at ran
      obtain ⟨⟨answer, next⟩, looped, ran⟩ := bind_ok.mp ran
      cases answer with
      | returned answered =>
        cases ran
        exact looped
      | thrown what =>
        cases ran
        cases success
  have filled : 0 < buffer.length := by
    by_contra empty
    rw [parseLoop, if_neg empty] at looped
    cases looped
    cases success
  obtain ⟨framing, decoded, next, framed, found, called, accepted, rfl, enough⟩ :=
    parseLoop_single filled looped success single
  rw [frameAt_zero] at framed
  rw [decodeAt, Nat.cast_zero, shift_zero] at called
  have positive : 0 < (framing.messageEnd - framing.messageStart).toNat := by
    have long := (frame_readable (overlay_readable buffer unmapped) framed found).2.1
    omega
  obtain ⟨_, _, message, _, _, first, second, decodes⟩ :=
    parseCompleteMessage_takes positive called accepted
  have consumed : (movedTo decoded 0).bytesConsumed = decoded.bytesConsumed % 2 ^ 64 := by
    change wrapSize (0 + decoded.bytesConsumed) = _
    unfold wrapSize
    omega
  constructor
  · rintro ⟨_, grammar⟩
    rw [List.take_of_length_le enough] at grammar
    exact grammar.conforming
  · intro conforming
    obtain ⟨all, grammar⟩ :=
      grammar_of_conforming checks bound conforming framed found decodes (by omega)
    rw [List.take_of_length_le enough]
    exact ⟨by omega, grammar⟩

theorem conforming_heartbeat : Conforming sampleHeartbeat.bytes :=
  ⟨ascii "33", sampleHeartbeat.body, ascii "10=", padded 3 (checksum sampleHeartbeat.frame),
    by decide +kernel, ⟨by decide, by decide +kernel⟩, by decide +kernel,
    ⟨[], ascii "35", (sampleHeartbeat.body).drop 3, by decide +kernel, Or.inl rfl,
      ⟨by decide, by decide +kernel⟩, by decide⟩,
    by decide, ⟨by decide +kernel, by decide +kernel⟩, by decide +kernel, by decide +kernel⟩

theorem parse_accepts_grammar_iff_heartbeat :
    ∃ result after, (new samplePool {} 0).parse sampleClock Memory.unmapped sampleHeartbeat.bytes =
        .ok (result, after) ∧ result.status = .success ∧
      FrameGrammar (sampleHeartbeat.bytes.take result.bytesConsumed) := by
  have accepted : ((new samplePool {} 0).parse sampleClock unmapped
      sampleHeartbeat.bytes).toOption.map (fun outcome =>
        (outcome.1.status, outcome.2.stats.messagesParsed)) = some (.success, 1) := by
    decide +kernel
  obtain ⟨⟨result, after⟩, ran, facts⟩ := Option.map_eq_some_iff.mp accepted
  obtain ⟨success, single⟩ := Prod.mk.inj facts
  have called := ok_of_toOption ran
  exact ⟨result, after, called, success, ((parse_accepts_grammar_iff rfl (by decide +kernel) called
    success single).mpr conforming_heartbeat).2⟩

/-- A heartbeat whose last byte is an X. -/
def sampleUnterminated : Bytes := sampleHeartbeat.bytes.dropLast ++ [88]

/-- It is accepted and consumed as a whole. -/
theorem parse_accepts_unterminated :
    ((new samplePool {} 0).parse sampleClock Memory.unmapped sampleUnterminated).toOption.map
      (fun outcome => (outcome.1.status, outcome.1.bytesConsumed, outcome.2.stats.messagesParsed)) =
        some (.success, 55, 1) ∧ ¬ FrameGrammar (sampleUnterminated.take 55) := by
  refine ⟨by decide +kernel, fun grammar => ?_⟩
  have last := grammar.getLast
  revert last
  decide +kernel

end StreamFixParser

end FixGateway.Protocol
