import FixGateway.Protocol.Parser.Fragmentation

/-! # Which messages are handed over

A call returns one result, and the loop keeps the result of the last message only.
A call that decodes several messages therefore hands over the last of them, and
none at all when an unfinished message follows: the others stay allocated in the
pool without a pointer to them. Nothing is lost in a run whose calls are paced, so
that each of them ends with one whole message or early in one.
-/

namespace FixGateway.Protocol

open ByteScan FixGateway.Common

namespace StreamFixParser

variable {wires : List WireMessage} {slots rest : List Nat} {next : WireMessage} {tail : Bytes}

/-- A run of calls that receives the given messages, in which every call ends
with exactly one whole message available, or with a part of one that ends before
its last body byte. -/
inductive Paced : Bytes → List WireMessage → List Call → Prop where
  | done (stored : Bytes) : Paced stored [] []
  | whole {stored : Bytes} {wire : WireMessage} {wires : List WireMessage} {call : Call}
      {calls : List Call} : call.buffer ≠ [] → wire.Ready {} → stored ++ call.buffer = wire.bytes →
      Paced [] wires calls → Paced stored (wire :: wires) (call :: calls)
  | part {stored : Bytes} {wire : WireMessage} {wires : List WireMessage} {call : Call}
      {calls : List Call} : call.buffer ≠ [] → wire.Ready {} →
      stored ++ call.buffer <+: wire.frame →
      (stored ++ call.buffer).length < wire.frame.length →
      Paced (stored ++ call.buffer) wires calls → Paced stored wires (call :: calls)

/-- The messages are in the slots, in order, and no other slot has changed. -/
structure HandedOver (before after : StreamFixParser) (wires : List WireMessage)
    (slots : List Nat) : Prop where
  freeList : before.messagePool.freeList = slots ++ after.messagePool.freeList
  messages : ∀ (index : Nat) (wire : WireMessage) (slot : Nat), wires[index]? = some wire →
    slots[index]? = some slot →
    ∃ time, after.messagePool.objects slot = some (wire.decoded (checksum wire.frame) time)
  others : ∀ slot, slot ∉ slots →
    after.messagePool.objects slot = before.messagePool.objects slot

theorem HandedOver.cons {before middle after : StreamFixParser} {clock : Clock} {wire : WireMessage}
    {slot : Nat} (chain : before.messagePool.freeList = slot :: rest)
    (first : Delivered clock before.clearPartial middle [wire] [slot] rest)
    (second : HandedOver middle after wires slots) :
    HandedOver before after (wire :: wires) (slot :: slots) := by
  have split : rest = slots ++ after.messagePool.freeList := first.freeList ▸ second.freeList
  have fresh : slot ∉ slots := by
    have nodup := before.messagePool.nodup
    rw [chain, split, List.nodup_cons, List.mem_append, not_or] at nodup
    exact nodup.1.1
  refine ⟨by rw [chain, split, List.cons_append], ?_, ?_⟩
  · intro index other place sent taken
    cases index with
    | zero =>
      cases sent
      cases taken
      exact ⟨_, (second.others slot fresh).trans (first.delivered 0 wire slot rfl rfl)⟩
    | succ index => exact second.messages index other place sent taken
  · intro place absent
    rw [List.mem_cons, not_or] at absent
    rw [second.others place absent.2]
    exact first.others place fun member => absent.1 (List.mem_singleton.mp member)

/-- A paced run hands over its messages, from any state between calls. -/
theorem parseAll_paced {stored : Bytes} {calls : List Call} (paced : Paced stored wires calls)
    {parser : StreamFixParser} (accepting : Accepting parser) (config : parser.config = {})
    (holds : parser.partialBuffer = stored) (free : parser.messagePool.available wires.length) :
    ∃ results after, parser.parseAll calls = .ok (results, after) ∧
      HandedOver parser after wires (results.filterMap ParseResult.parsedMessage) ∧
      (results.filterMap ParseResult.parsedMessage).length = wires.length := by
  induction paced generalizing parser with
  | done stored => exact ⟨[], parser, rfl, ⟨rfl, nofun, fun _ _ => rfl⟩, rfl⟩
  | @whole stored wire wires call calls nonempty ready complete _ ih =>
    obtain ⟨slot, rest, chain, room⟩ := MessagePool.exists_chain free
    have fits := length_bytes_le (Int.ofNat_le.mp ready.fits)
    obtain ⟨result, middle, ran, _, _, placed, delivered⟩ :=
      parse_completes accepting call.clock call.outside nonempty (config ▸ ready) fits
        (holds ▸ complete) free.1 chain
    obtain ⟨results, after, rest, handed, size⟩ :=
      ih (delivered.accepting ⟨accepting.1, accepting.2⟩) (delivered.config.trans config)
        delivered.partialBuffer
        ⟨delivered.isShutdown.trans free.1, by rw [delivered.freeList]; exact room⟩
    refine ⟨result :: results, after, parseAll_cons ran rest, ?_, ?_⟩
    · rw [List.filterMap_cons_some placed]
      exact handed.cons chain delivered
    · rw [List.filterMap_cons_some placed, List.length_cons, List.length_cons, size]
  | @part stored wire wires call calls nonempty ready received short _ ih =>
    have fits := length_bytes_le (Int.ofNat_le.mp ready.fits)
    have size := wire.length_bytes
    obtain ⟨result, middle, ran, _, none, waiting⟩ :=
      parse_prefix accepting nonempty (config ▸ ready.fits) (by omega) (holds ▸ received)
        (holds ▸ short)
    obtain ⟨results, after, rest, handed, size⟩ :=
      ih waiting.accepting (waiting.config.trans config) (holds ▸ waiting.partialBuffer)
        (waiting.messagePool ▸ free)
    refine ⟨result :: results, after, parseAll_cons ran rest, ?_, ?_⟩
    · rw [List.filterMap_cons_none none]
      refine ⟨?_, handed.messages, ?_⟩
      · rw [← waiting.messagePool]
        exact handed.freeList
      · rw [← waiting.messagePool]
        exact handed.others
    · rw [List.filterMap_cons_none none, size]

/-- No message of a paced run is lost: the pointers that its calls return are the
next free slots of the pool, each once, and hold the messages of the stream in
order, and no other slot was taken. -/
theorem parse_hands_over_paced (pool : MessagePool FixMessage) (now : Nat)
    {wires : List WireMessage} {calls : List Call} (paced : Paced [] wires calls)
    (free : pool.available wires.length) :
    ∃ results after, (new pool {} now).parseAll calls = .ok (results, after) ∧
      results.filterMap ParseResult.parsedMessage = pool.freeList.take wires.length ∧
      (results.filterMap ParseResult.parsedMessage).Nodup ∧
      (∀ (index : Nat) (wire : WireMessage) (slot : Nat), wires[index]? = some wire →
        (results.filterMap ParseResult.parsedMessage)[index]? = some slot →
          ∃ message time, after.messagePool.objects slot = some message ∧
            ∀ tag, message.getField tag =
              (FixMessage.lastValue tag (wire.assignments (checksum wire.frame))).or
                (if tag = FixFields.sendingTime then some (UtcTime.format time) else none)) ∧
      ∀ slot, slot ∉ results.filterMap ParseResult.parsedMessage →
        after.messagePool.objects slot = pool.objects slot := by
  obtain ⟨results, after, ran, handed, size⟩ :=
    parseAll_paced paced (accepting_new (by decide) : Accepting (new pool {} now)) rfl rfl free
  have split : pool.freeList =
      results.filterMap ParseResult.parsedMessage ++ after.messagePool.freeList := handed.freeList
  refine ⟨results, after, ran, ?_, ?_, ?_, handed.others⟩
  · rw [split, ← size, List.take_left]
  · have nodup := pool.nodup
    rw [split] at nodup
    exact nodup.of_append_left
  · intro index wire slot sent taken
    obtain ⟨time, held⟩ := handed.messages index wire slot sent taken
    exact ⟨_, time, held, fun tag => WireMessage.getField_decoded tag time⟩

/-- Two heartbeats in three paced calls. -/
def sampleCalls : List Call :=
  [⟨sampleClock, Memory.unmapped, sampleHeartbeat.bytes.take 20⟩,
    ⟨sampleClock, Memory.unmapped, sampleHeartbeat.bytes.drop 20⟩,
    ⟨sampleClock, Memory.unmapped, sampleHeartbeat.bytes⟩]

theorem sampleHeartbeat_ready : sampleHeartbeat.Ready {} :=
  ⟨by decide, by decide, by decide⟩

theorem parse_hands_over_paced_heartbeats :
    ∃ results after, (new samplePool {} 0).parseAll sampleCalls = .ok (results, after) ∧
      results.filterMap ParseResult.parsedMessage = [0, 1] := by
  have paced : Paced [] [sampleHeartbeat, sampleHeartbeat] sampleCalls :=
    .part (by decide) sampleHeartbeat_ready (by decide) (by decide)
      (.whole (by decide) sampleHeartbeat_ready (by decide)
        (.whole (by decide) sampleHeartbeat_ready (by decide) (.done [])))
  obtain ⟨results, after, ran, handed, _⟩ := parse_hands_over_paced samplePool 0 paced (by decide)
  exact ⟨results, after, ran, handed⟩

/-- Two heartbeats in one call: the first one is decoded into slot 0 and stays
there, and the caller is given slot 1 only. -/
theorem parse_loses_heartbeat :
    ((new samplePool {} 0).parse sampleClock Memory.unmapped
      (streamBytes [sampleHeartbeat, sampleHeartbeat])).toOption.map (fun outcome =>
        (outcome.1.status, outcome.1.parsedMessage, outcome.2.messagePool.freeList)) =
      some (.success, some 1, [2, 3]) := by
  decide +kernel

end StreamFixParser

end FixGateway.Protocol
