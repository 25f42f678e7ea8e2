import FixGateway.Protocol.Parser.Totality

/-! # The rounds of a call

A call that works on its bytes runs through a number of rounds that go on, each of which
decodes a message and takes a slot for it. Then it leaves the loop: in a round that
returns or throws, or because the cursor has reached the end. `Passes` says through which
cursors the loop has gone and with which parser and cursor it goes on.

What a call comes to is what its last round comes to (`parseLoop_last`), and conversely
the loop goes on from every point that it passes (`Passes.resumes`).
-/

namespace FixGateway.Protocol

open ByteScan FixGateway.Common Memory

namespace StreamFixParser

/-- The loop over `length` bytes has gone on in rounds at the given cursors, and has come to
a parser and a cursor. -/
inductive Passes (clock : Clock) (memory : Memory) (length : Nat) (first : StreamFixParser) :
    List Nat → StreamFixParser → Nat → Prop where
  | start : Passes clock memory length first [] first 0
  | round {cursors : List Nat} {middle after : StreamFixParser} {cursor next : Nat}
      {lastSuccess result : Option ParseResult} :
      Passes clock memory length first cursors middle cursor → cursor < length →
      middle.parseStep clock memory length cursor lastSuccess = .ok (.next next result, after) →
      Passes clock memory length first (cursors ++ [cursor]) after next

section Rounds

variable {clock : Clock} {memory : Memory} {length cursor : Nat}
  {first middle after : StreamFixParser} {cursors : List Nat} {exit : DecodeReturn}
  {lastSuccess : Option ParseResult} {others : List Nat} {other : StreamFixParser} {position : Nat}

theorem parseStep_next {next : Nat} {result : Option ParseResult}
    (stepped : middle.parseStep clock memory length cursor lastSuccess =
      .ok (.next next result, after)) (other : Option ParseResult) :
    middle.parseStep clock memory length cursor other = .ok (.next next result, after) := by
  cases parseStep_round stepped with
  | decoded framed success called accepted =>
    exact parseStep_decoded other framed success called accepted

theorem Passes.preserves (Property : StreamFixParser → Prop)
    (passes : Passes clock memory length first cursors middle cursor) (initial : Property first)
    (kept : ∀ {cursor before step after}, Property before →
      Round clock memory length cursor before step after → Property after) : Property middle := by
  induction passes with
  | start => exact initial
  | round _ _ stepped ih => exact kept ih (parseStep_round stepped)

theorem Passes.config (passes : Passes clock memory length first cursors middle cursor) :
    middle.config = first.config :=
  passes.preserves (fun parser => parser.config = first.config) rfl
    fun same round => round.config_eq.trans same

/-- The rounds behind the loop have taken a slot each. -/
theorem Passes.takes (readable : memory.Readable 0 length)
    (passes : Passes clock memory length first cursors middle cursor) :
    middle.messagePool.freeList.length + cursors.length ≤ first.messagePool.freeList.length := by
  induction passes with
  | start => exact le_refl _
  | round _ inside stepped ih =>
    have fewer := (parseStep_round stepped).takes (le_of_lt inside) readable
    rw [List.length_append, List.length_singleton]
    omega

section

variable (passes : Passes clock memory length first cursors middle cursor)
include passes

theorem Passes.resumes (fuel : Nat) :
    ∃ lastSuccess, parseLoop clock memory length (cursors.length + fuel) first 0 none =
      parseLoop clock memory length fuel middle cursor lastSuccess := by
  induction passes generalizing fuel with
  | start => exact ⟨none, by rw [List.length_nil, Nat.zero_add]⟩
  | @round cursors middle after cursor next _ result _ inside stepped ih =>
    obtain ⟨lastSuccess, same⟩ := ih (fuel + 1)
    refine ⟨result, ?_⟩
    have count : (cursors ++ [cursor]).length + fuel = cursors.length + (fuel + 1) := by
      rw [List.length_append, List.length_singleton]
      omega
    rw [count, same, parseLoop, if_pos inside, parseStep_next stepped lastSuccess]
    rfl

theorem Passes.unique (again : Passes clock memory length first others other position)
    (same : cursors.length = others.length) : middle = other ∧ cursor = position := by
  induction passes generalizing others other position with
  | start =>
    cases again with
    | start => exact ⟨rfl, rfl⟩
    | round => simp at same
  | round _ _ stepped ih =>
    cases again with
    | start => simp at same
    | round earlier _ againStepped =>
      rw [List.length_append, List.length_append] at same
      obtain ⟨rfl, rfl⟩ := ih earlier (Nat.add_right_cancel same)
      rw [parseStep_next stepped] at againStepped
      cases againStepped
      exact ⟨rfl, rfl⟩

theorem Passes.goes_on (earlier : Passes clock memory length first others other position)
    (fewer : others.length < cursors.length) :
    ∃ next result after, other.parseStep clock memory length position none =
      .ok (.next next result, after) := by
  induction passes with
  | start => exact absurd fewer (Nat.not_lt_zero _)
  | @round cursors _ _ _ _ _ _ before _ stepped ih =>
    rw [List.length_append, List.length_singleton] at fewer
    by_cases last : others.length = cursors.length
    · obtain ⟨rfl, rfl⟩ := earlier.unique before last
      exact ⟨_, _, _, parseStep_next stepped none⟩
    · exact ih (by omega)

/-- The loop comes no further than to the round in which it is left. -/
theorem Passes.length_le
    (left : middle.parseStep clock memory length cursor lastSuccess = .ok (.leave exit, after))
    (another : Passes clock memory length first others other position) :
    others.length ≤ cursors.length := by
  by_contra more
  obtain ⟨next, result, after, stepped⟩ := another.goes_on passes (Nat.not_le.mp more)
  rw [parseStep_next stepped] at left
  cases left

theorem Passes.goes_on_or_last
    (left : middle.parseStep clock memory length cursor lastSuccess = .ok (.leave exit, after))
    (another : Passes clock memory length first others other position) :
    (∃ next result after, other.parseStep clock memory length position none =
      .ok (.next next result, after)) ∨ other = middle ∧ position = cursor := by
  rcases Nat.lt_or_eq_of_le (passes.length_le left another) with fewer | same
  · exact .inl (passes.goes_on another fewer)
  · exact .inr (another.unique passes same)

end

/-- How the loop ends: in a round that leaves it, or with what it has at the end. -/
inductive Ends (clock : Clock) (memory : Memory) (length : Nat) (last : StreamFixParser)
    (cursor : Nat) : DecodeReturn → StreamFixParser → Prop where
  | left {lastSuccess : Option ParseResult} {exit : DecodeReturn} {after : StreamFixParser} :
      cursor < length →
      last.parseStep clock memory length cursor lastSuccess = .ok (.leave exit, after) →
      Ends clock memory length last cursor exit after
  | reached {result : ParseResult} : length ≤ cursor →
      result.status = .success ∨ result.status = .needMoreData →
      Ends clock memory length last cursor (.returned result) last

theorem parseLoop_last {fuel : Nat}
    (decoded : ∀ result, lastSuccess = some result → result.status = .success)
    (passes : Passes clock memory length first cursors middle cursor)
    (ran : parseLoop clock memory length fuel middle cursor lastSuccess = .ok (exit, after)) :
    ∃ cursors last cursor, Passes clock memory length first cursors last cursor ∧
      Ends clock memory length last cursor exit after := by
  induction fuel generalizing middle cursor cursors lastSuccess with
  | zero => cases ran
  | succ fuel ih =>
    rw [parseLoop] at ran
    by_cases inside : cursor < length
    · rw [if_pos inside] at ran
      obtain ⟨⟨step, next⟩, stepped, ran⟩ := bind_ok.mp ran
      cases step with
      | leave exit =>
        cases ran
        exact ⟨cursors, middle, cursor, passes, .left inside stepped⟩
      | next position result =>
        refine ih ?_ (passes.round inside stepped) ran
        cases parseStep_round stepped with
        | decoded _ _ _ accepted =>
          rintro _ ⟨⟩
          exact accepted
    · rw [if_neg inside] at ran
      cases ran
      refine ⟨cursors, _, cursor, passes, .reached (Nat.le_of_not_lt inside) ?_⟩
      cases lastSuccess with
      | none => exact .inr rfl
      | some result => exact .inl (decoded result rfl)

theorem parseLoop_faults {fuel : Nat} {fault : Fault}
    (readable : memory.Readable 0 length) (enough : middle.messagePool.freeList.length < fuel)
    (passes : Passes clock memory length first cursors middle cursor)
    (ran : parseLoop clock memory length fuel middle cursor lastSuccess = .error fault) :
    ∃ cursors last cursor lastSuccess,
      Passes clock memory length first cursors last cursor ∧ cursor < length ∧
      last.parseStep clock memory length cursor lastSuccess = .error fault := by
  induction fuel generalizing middle cursor cursors lastSuccess with
  | zero => exact absurd enough (Nat.not_lt_zero _)
  | succ fuel ih =>
    rw [parseLoop] at ran
    by_cases inside : cursor < length
    · rw [if_pos inside] at ran
      cases stepped : middle.parseStep clock memory length cursor lastSuccess with
      | error problem =>
        rw [stepped] at ran
        cases ran
        exact ⟨cursors, middle, cursor, lastSuccess, passes, inside, stepped⟩
      | ok outcome =>
        rw [stepped] at ran
        obtain ⟨step, next⟩ := outcome
        cases step with
        | leave exit => cases ran
        | next position result =>
          have fewer := (parseStep_round stepped).takes (le_of_lt inside) readable
          exact ih (by omega) (passes.round inside stepped) ran
    · rw [if_neg inside] at ran
      cases ran

end Rounds

/-! ## Of a whole call -/

section Available

variable {clock : Clock} {outside : Memory} {bytes : Bytes} {parser middle after : StreamFixParser}
  {cursors : List Nat} {cursor : Nat} {result : ParseResult}

theorem parseAvailable_last (ok : parser.parseAvailable clock outside bytes = .ok (result, after)) :
    ∃ cursors last cursor exit left,
      Passes clock (overlay bytes outside) bytes.length parser cursors last cursor ∧
      Ends clock (overlay bytes outside) bytes.length last cursor exit left ∧
      (exit = .returned result ∧ left = after ∨
        ∃ what, exit = .thrown what ∧ left.caught what = (result, after)) := by
  obtain ⟨⟨exit, left⟩, ran, ok⟩ := bind_ok.mp ok
  obtain ⟨cursors, last, cursor, passes, ends⟩ :=
    parseLoop_last (fun _ none => by cases none) .start ran
  refine ⟨cursors, last, cursor, exit, left, passes, ends, ?_⟩
  cases exit with
  | returned answer =>
    cases ok
    exact .inl ⟨rfl, rfl⟩
  | thrown what => exact .inr ⟨what, rfl, Except.ok.inj ok⟩

theorem parseAvailable_faults {fault : Fault}
    (faulted : parser.parseAvailable clock outside bytes = .error fault) :
    ∃ cursors last cursor lastSuccess,
      Passes clock (overlay bytes outside) bytes.length parser cursors last cursor ∧
      cursor < bytes.length ∧
      last.parseStep clock (overlay bytes outside) bytes.length cursor lastSuccess =
        .error fault := by
  unfold StreamFixParser.parseAvailable at faulted
  cases ran : parseLoop clock (overlay bytes outside) bytes.length
      (parser.messagePool.freeList.length + 1) parser 0 none with
  | error problem =>
    rw [ran] at faulted
    cases faulted
    exact parseLoop_faults (overlay_readable bytes outside) (Nat.lt_succ_self _) .start ran
  | ok outcome =>
    rw [ran] at faulted
    obtain ⟨exit, next⟩ := outcome
    cases exit <;> cases faulted

/-- From every point that it passes, the loop of a call has enough fuel to go on. -/
theorem Passes.fuelled
    (passes : Passes clock (overlay bytes outside) bytes.length parser cursors middle cursor) :
    ∃ fuel lastSuccess, middle.messagePool.freeList.length < fuel ∧
      parseLoop clock (overlay bytes outside) bytes.length
          (parser.messagePool.freeList.length + 1) parser 0 none =
        parseLoop clock (overlay bytes outside) bytes.length fuel middle cursor
          lastSuccess := by
  have taken := passes.takes (overlay_readable bytes outside)
  obtain ⟨fuel, count⟩ : ∃ fuel, parser.messagePool.freeList.length + 1 =
      cursors.length + fuel := Nat.exists_eq_add_of_le (by omega)
  obtain ⟨lastSuccess, same⟩ := passes.resumes fuel
  exact ⟨fuel, lastSuccess, by omega, by rw [count, same]⟩

theorem Passes.last_round
    (passes : Passes clock (overlay bytes outside) bytes.length parser cursors middle cursor)
    (inside : cursor < bytes.length) :
    ∃ lastSuccess,
      (∀ result after, middle.parseStep clock (overlay bytes outside) bytes.length cursor
          lastSuccess = .ok (.leave (.returned result), after) →
        parser.parseAvailable clock outside bytes = .ok (result, after)) ∧
      (∀ what after, middle.parseStep clock (overlay bytes outside) bytes.length cursor
          lastSuccess = .ok (.leave (.thrown what), after) →
        parser.parseAvailable clock outside bytes = .ok (after.caught what)) ∧
      ∀ fault, middle.parseStep clock (overlay bytes outside) bytes.length cursor
          lastSuccess = .error fault →
        parser.parseAvailable clock outside bytes = .error fault := by
  obtain ⟨fuel, lastSuccess, enough, same⟩ := passes.fuelled
  obtain ⟨fuel, rfl⟩ := Nat.exists_eq_succ_of_ne_zero (Nat.ne_of_gt (Nat.zero_lt_of_lt enough))
  unfold StreamFixParser.parseAvailable
  rw [same, parseLoop, if_pos inside]
  refine ⟨lastSuccess, ?_, ?_, ?_⟩
  · intro result after stepped
    rw [stepped]
    rfl
  · intro what after stepped
    rw [stepped]
    rfl
  · intro fault stepped
    rw [stepped]
    rfl

theorem parseAvailable_config (ok : parser.parseAvailable clock outside bytes = .ok (result, after))
    : after.config = parser.config := by
  obtain ⟨_, last, _, exit, left, passes, ends, answer⟩ := parseAvailable_last ok
  have same : left.config = parser.config := by
    cases ends with
    | left _ stepped => exact (parseStep_round stepped).config_eq.trans passes.config
    | reached => exact passes.config
  rcases answer with ⟨_, rfl⟩ | ⟨what, _, caught⟩
  · exact same
  · cases caught
    exact same

theorem Reachable.parse_config {buffer : Bytes} (reachable : Reachable parser)
    (ran : parser.parse clock outside buffer = .ok (result, after)) :
    after.config = parser.config := by
  rcases parse_cases reachable.unset clock outside buffer with ⟨_, _, _, returned⟩ | ⟨_, entered⟩
  · rw [returned] at ran
    cases ran
    rfl
  · have same := parseAvailable_config (entered.symm.trans ran)
    exact same

end Available

/-! ## Runs of calls -/

section Runs

variable {parser : StreamFixParser} {calls : List Call}
  {condition other : StreamFixParser → Nat → Call → Prop}

/-- The condition holds before every call of a run, for the parser and the time of the call
before it. Each call finds the pool as the other users of it left it. -/
def EachCall (condition : StreamFixParser → Nat → Call → Prop) :
    StreamFixParser → Nat → List Call → Prop
  | _, _, [] => True
  | parser, previous, call :: calls =>
    condition parser previous call ∧
      ∀ result after, parser.parse call.clock call.outside call.buffer = .ok (result, after) →
        ∀ pool, EachCall condition (after.withPool pool) call.clock.now calls

/-- Conditions that agree in the reachable states of a configuration agree along every run. -/
theorem eachCall_congr {config : ParserConfig}
    (same : ∀ {parser previous call}, Reachable parser → parser.config = config →
      (condition parser previous call ↔ other parser previous call))
    (reachable : Reachable parser) (configured : parser.config = config) (previous : Nat) :
    EachCall condition parser previous calls ↔ EachCall other parser previous calls := by
  induction calls generalizing parser previous with
  | nil => exact Iff.rfl
  | cons call calls ih =>
    refine and_congr (same reachable configured) (forall_congr' fun result =>
      forall_congr' fun after => forall_congr' fun ran => forall_congr' fun pool => ?_)
    exact ih ((Reachable.parse reachable ran).usePool pool)
      ((reachable.parse_config ran).trans configured) _

/-- A condition that holds for each call in every reachable state holds along the run. -/
theorem eachCall_of_forall
    (holds : ∀ {parser previous}, Reachable parser → ∀ call ∈ calls, condition parser previous call)
    (reachable : Reachable parser) (previous : Nat) : EachCall condition parser previous calls := by
  induction calls generalizing parser previous with
  | nil => trivial
  | cons call calls ih =>
    refine ⟨holds reachable call List.mem_cons_self, fun result after ran pool => ?_⟩
    apply ih
    · intro parser previous here other member
      exact holds here other (List.mem_cons_of_mem call member)
    · exact (Reachable.parse reachable ran).usePool pool

end Runs

end StreamFixParser

end FixGateway.Protocol
