import FixGateway.Application.Gateway
import FixGateway.Concurrency.Ownership
import FixGateway.Concurrency.Transition
import FixGateway.Manager.InboundMessageManager
import FixGateway.Protocol.Parser.Slots
import FixGateway.Protocol.Parser.WireStream

/-! # Inbound messages from the parser to the handlers

The gateway's receiving thread parses and routes, and each manager's thread takes
messages from its queue and processes them. The calls of the threads on the queues, the
parser and the pool are the steps; between them the threads interleave in any order.

A message that `parse` has returned and nobody has given back is outstanding. It should
lie at exactly one place: in a queue, in the hands of the receiving thread or in those of
a manager (`Accounted`). The router lets go of a message that its queue refuses, and
`processMessage` lets go of every message that its handler does not give back. So the
messages are accounted for exactly as long as no queue refuses one and every processed
message gets to a handler that gives it back (`Keeps`). The handler of the session manager
never does.
-/

namespace FixGateway.Application

open ByteScan Common Manager Ownership Protocol Transition
open MessagePool MessageRouter PriorityQueueContainer StreamFixParser

structure InboundPipeline (count : Nat) where
  gateway : Gateway
  managers : Fin count → InboundMessageManager
  /-- The message that the receiving thread is about to route. -/
  routing : Option Nat
  /-- The message that each manager is processing. -/
  hands : Fin count → Option Nat
  /-- A history variable: what `parse` has returned and nobody has given back. -/
  outstanding : List Nat
  /-- A history variable: what `parse` has taken from the pool and not returned. -/
  unreturned : List Nat

namespace InboundPipeline

variable {count : Nat}

/-! ## The steps -/

def messagePool (machine : InboundPipeline count) : MessagePool FixMessage :=
  machine.gateway.messagePool

/-- The first half of `onTcpDataReceived`, up to the return of `parse`. The thread must have
ended its last call. A call that reads beyond its bytes is undefined and no step. -/
def receive (machine : InboundPipeline count) (clock : Clock) (outside : Memory)
    (buffer : Bytes) : InboundPipeline count :=
  if machine.routing.isSome then machine
  else
    match machine.gateway.parse clock outside buffer with
    | .error _ => machine
    | .ok (result, gateway) =>
      { machine with
        gateway := gateway
        routing := Gateway.toProcess result
        outstanding := result.parsedMessage.toList ++ machine.outstanding
        unreturned :=
          StreamFixParser.unreturnedSlots machine.messagePool gateway.messagePool result ++
            machine.unreturned }

/-- The second half of `onTcpDataReceived`. -/
def route (machine : InboundPipeline count) : InboundPipeline count :=
  { machine with
    gateway := machine.gateway.processParsedMessage machine.routing
    routing := none }

/-- A manager polls its queue in `processMessages`. -/
def poll (machine : InboundPipeline count) (index : Fin count) : InboundPipeline count :=
  let manager := machine.managers index
  if manager.running = false ∨ (machine.hands index).isSome then machine
  else
    match manager.inboundQueue with
    | none => machine
    | some priority =>
      let queues := machine.gateway.messageRouter.queues
      match (queues.getQueue priority).tryPop with
      | (none, _) => machine
      | (some slot, queue) =>
        { machine with
          gateway.messageRouter.queues.queues := Function.update queues.queues priority queue
          hands := Function.update machine.hands index (some slot) }

/-- A manager runs `processMessage`. -/
def process (machine : InboundPipeline count) (index : Fin count) (handling : Handling) :
    InboundPipeline count :=
  match machine.hands index with
  | none => machine
  | some slot =>
    let (_, pool, manager) :=
      (machine.managers index).processMessage machine.messagePool handling slot
    { machine with
      gateway := machine.gateway.withPool pool
      managers := Function.update machine.managers index manager
      hands := Function.update machine.hands index none
      outstanding :=
        machine.outstanding.filter fun other => other ≠ slot ∨ pool.live slot }

/-- `shutdown` of a queue. -/
def shutdown (machine : InboundPipeline count) (priority : Priority) : InboundPipeline count :=
  let queues := machine.gateway.messageRouter.queues
  { machine with
    gateway.messageRouter.queues.queues := Function.update queues.queues priority
      { queues.getQueue priority with isShutdown := true } }

inductive Move (count : Nat) where
  | receive (clock : Clock) (outside : Memory) (buffer : Bytes)
  | route
  | poll (index : Fin count)
  | process (index : Fin count) (handling : Handling)
  | start (index : Fin count)
  | stop (index : Fin count)
  | shutdown (priority : Priority)

def step (machine : InboundPipeline count) : Move count → InboundPipeline count
  | .receive clock outside buffer => machine.receive clock outside buffer
  | .route => machine.route
  | .poll index => machine.poll index
  | .process index handling => machine.process index handling
  | .start index =>
    { machine with
      managers := Function.update machine.managers index (machine.managers index).start }
  | .stop index =>
    { machine with
      managers := Function.update machine.managers index (machine.managers index).stop }
  | .shutdown priority => machine.shutdown priority

end InboundPipeline

/-! ## The books -/

/-- Where a message can be while it is outstanding. -/
inductive Place (count : Nat) where
  | queue (priority : Priority)
  | routing
  | hand (index : Fin count)
  deriving DecidableEq

/-- Which messages are outstanding, which slots were not returned, what lies at each place,
and the pool. -/
structure Books (count : Nat) where
  outstanding : List Nat
  unreturned : List Nat
  content : Place count → List Nat
  pool : MessagePool FixMessage

namespace Books

variable {count : Nat} {start : MessagePool FixMessage} {before after : Books count}

/-- Every outstanding message is allocated and lies at exactly one place. -/
structure Accounted (books : Books count) : Prop where
  placed : Divided (· ∈ books.outstanding) books.content
  live : ∀ slot ∈ books.outstanding, books.pool.live slot

/-- The pool has allocated what it had at the start, the outstanding messages and the slots
that were not returned. -/
structure Balanced (start : MessagePool FixMessage) (books : Books count) : Prop where
  nodup : books.outstanding.Nodup
  allocatedCount :
    books.pool.allocatedCount =
      start.allocatedCount + books.outstanding.length + books.unreturned.length

/-- The changes that keep the books in order. -/
inductive Change (before : Books count) : Books count → Prop where
  | nothing : Change before before
  | received {result : ParseResult} {pool : MessagePool FixMessage} :
      before.content .routing = [] → before.pool.Grown pool → Handed before.pool pool result →
      Change before
        { outstanding := result.parsedMessage.toList ++ before.outstanding
          unreturned :=
            StreamFixParser.unreturnedSlots before.pool pool result ++ before.unreturned
          content := Function.update before.content .routing result.parsedMessage.toList
          pool := pool }
  | moved {source target : Place count} {slot : Nat} {rest : List Nat} : source ≠ target →
      before.content source = slot :: rest →
      Change before
        { before with
          content := Function.update (Function.update before.content source rest) target
            (before.content target ++ [slot]) }
  | released {source : Place count} {slot : Nat} {rest : List Nat} :
      before.content source = slot :: rest →
      Change before
        { before with
          outstanding := before.outstanding.filter (· ≠ slot)
          content := Function.update before.content source rest
          pool := before.pool.deallocate slot }

/-- A message is let go. -/
inductive Loss (before : Books count) : Books count → Prop where
  | lost {source : Place count} {slot : Nat} {rest : List Nat} :
      before.content source = slot :: rest →
      Loss before { before with content := Function.update before.content source rest }

theorem Accounted.mem {source : Place count} {slot : Nat} {rest : List Nat}
    (accounted : before.Accounted) (there : before.content source = slot :: rest) :
    slot ∈ before.outstanding :=
  (accounted.placed.covers slot).mpr ⟨source, there ▸ List.mem_cons_self⟩

theorem Accounted.fresh {result : ParseResult} {pool : MessagePool FixMessage} {slot : Nat}
    (accounted : before.Accounted) (handed : Handed before.pool pool result)
    (returned : result.parsedMessage = some slot) : slot ∉ before.outstanding := by
  intro already
  have unused := (mem_newSlots.mp (handed.fresh slot returned)).2
  exact unused (accounted.live slot already)

theorem Change.accounted (accounted : before.Accounted) (change : Change before after) :
    after.Accounted := by
  cases change with
  | nothing => exact accounted
  | @received result pool free grown handed =>
    cases returned : result.parsedMessage with
    | none =>
      have same : Function.update before.content .routing [] = before.content := by
        rw [Function.update_eq_self_iff]
        exact free.symm
      refine ⟨?_, fun slot there => grown.live slot (accounted.live slot there)⟩
      simp only [Option.toList_none, List.nil_append, same]
      exact accounted.placed
    | some slot =>
      have absent := accounted.fresh handed returned
      constructor
      · refine (accounted.placed.insert .routing absent ?_ fun place other => ?_).congr ?_
        · simp [free]
        · simp [other]
        · intro value
          simp
      · intro other there
        obtain same | there : other = slot ∨ other ∈ before.outstanding := by
          simpa using there
        · rw [same]
          exact (mem_newSlots.mp (handed.fresh slot returned)).1
        · exact grown.live other (accounted.live other there)
  | @moved source target slot rest apart there =>
    refine ⟨accounted.placed.move source target slot apart ?_ ?_ ?_, accounted.live⟩
    · simp [apart, there]
    · simp
    · intro place notSource notTarget
      simp [notSource, notTarget]
  | @released source slot rest there =>
    constructor
    · refine (accounted.placed.remove source slot ?_ ?_).congr ?_
      · simp [there]
      · intro place other
        simp [other]
      · intro value
        simp
    · intro other still
      obtain ⟨still, differs⟩ : other ∈ before.outstanding ∧ other ≠ slot := by
        simpa using still
      have alive := accounted.live slot (accounted.mem there)
      exact (deallocate_live_iff alive).mpr ⟨accounted.live other still, differs⟩

theorem Loss.not_accounted (accounted : before.Accounted) (loss : Loss before after) :
    ¬ after.Accounted := by
  cases loss with
  | @lost source slot rest there =>
    intro still
    refine accounted.placed.not_divided source slot ?_ ?_ still.placed
    · simp [there]
    · intro place other
      simp [other]

theorem Change.balanced (accounted : before.Accounted) (balanced : before.Balanced start)
    (change : Change before after) : after.Balanced start := by
  have counted := balanced.allocatedCount
  cases change with
  | nothing => exact balanced
  | @received result pool free grown handed =>
    constructor
    · cases returned : result.parsedMessage with
      | none => exact balanced.nodup
      | some slot =>
        exact List.nodup_cons.mpr ⟨accounted.fresh handed returned, balanced.nodup⟩
    · have more := grown.allocatedCount
      have split := length_unreturnedSlots handed
      simp only [List.length_append]
      omega
  | moved apart there => exact ⟨balanced.nodup, counted⟩
  | @released source slot rest there =>
    have outstanding := accounted.mem there
    have fewer := deallocate_allocatedCount (accounted.live slot outstanding)
    have positive := List.length_pos_of_mem outstanding
    have filtered : before.outstanding.filter (· ≠ slot) = before.outstanding.erase slot := by
      rw [balanced.nodup.erase_eq_filter]
      exact List.filter_congr fun other _ => by rw [Bool.eq_iff_iff]; simp
    constructor
    · exact balanced.nodup.filter _
    · simp only [filtered, List.length_erase_of_mem outstanding]
      omega

end Books

namespace InboundPipeline

variable {count : Nat} {machine : InboundPipeline count} {gateway : Gateway} {clock : Clock}
  {outside : Memory} {buffer : Bytes} {message : FixMessage} {index : Fin count}
  {handling : Handling} {move : Move count}

/-- What lies at each place. -/
def content (machine : InboundPipeline count) : Place count → List Nat
  | .queue priority => machine.gateway.messageRouter.waiting priority
  | .routing => machine.routing.toList
  | .hand index => (machine.hands index).toList

def books (machine : InboundPipeline count) : Books count where
  outstanding := machine.outstanding
  unreturned := machine.unreturned
  content := machine.content
  pool := machine.messagePool

/-- Every message that `parse` has returned is back in the pool or lies at exactly one place. -/
def Accounted (machine : InboundPipeline count) : Prop := machine.books.Accounted

/-- Nothing is under way; the pool may have allocated slots for others. -/
structure Initial (machine : InboundPipeline count) : Prop where
  outstanding : machine.outstanding = []
  unreturned : machine.unreturned = []
  empty : ∀ place, machine.content place = []

/-- All queues and hands are empty. -/
def Idle (machine : InboundPipeline count) : Prop := ∀ place, machine.content place = []

/-- The message that the receiving thread is about to route. -/
def beingRouted (machine : InboundPipeline count) : Option FixMessage :=
  machine.routing.bind machine.messagePool.objects

/-- The message that a manager is processing. -/
def inHand (machine : InboundPipeline count) (index : Fin count) : Option FixMessage :=
  (machine.hands index).bind machine.messagePool.objects

/-- A message is routed only to a queue that accepts it, and processed only by a handler that
gives it back. -/
def Keeps (machine : InboundPipeline count) : Move count → Prop
  | .route => ∀ message ∈ machine.beingRouted, machine.gateway.messageRouter.Accepts message
  | .process index handling =>
    ∀ message ∈ machine.inHand index, InboundMessageManager.Discharges message handling
  | _ => True

instance (machine : InboundPipeline count) (move : Move count) : Decidable (machine.Keeps move) :=
  match move with
  | .route => inferInstanceAs (Decidable (∀ message ∈ machine.beingRouted, _))
  | .process index _ => inferInstanceAs (Decidable (∀ message ∈ machine.inHand index, _))
  | .receive .. | .poll _ | .start _ | .stop _ | .shutdown _ => inferInstanceAs (Decidable True)

/-- The bytes of a call hold one message that ends them, or none. -/
def Returns (machine : InboundPipeline count) : Move count → Prop
  | .receive clock outside buffer =>
    machine.routing = none → (machine.gateway.parse clock outside buffer).isOk = true →
      machine.gateway.fixParser.Sole clock outside buffer
  | _ => True

instance (machine : InboundPipeline count) (move : Move count) : Decidable (machine.Returns move) :=
  match move with
  | .receive .. => inferInstanceAs (Decidable (_ → _ → StreamFixParser.Sole ..))
  | .route | .poll _ | .process .. | .start _ | .stop _ | .shutdown _ =>
    inferInstanceAs (Decidable True)

/-! ## Each step -/

theorem object_of_accounted {source : Place count} {slot : Nat} {rest : List Nat}
    (accounted : machine.Accounted) (there : machine.content source = slot :: rest) :
    ∃ message, machine.messagePool.objects slot = some message :=
  Option.isSome_iff_exists.mp (accounted.live slot (Books.Accounted.mem accounted there))

theorem parse_ok {after : Gateway}
    {result : ParseResult} (ok : gateway.parse clock outside buffer = .ok (result, after)) :
    gateway.fixParser.parse clock outside buffer = .ok (result, after.fixParser) ∧
      after.messageRouter = gateway.messageRouter := by
  obtain ⟨⟨returned, parser⟩, parsed, ok⟩ := bind_ok.mp ok
  cases ok
  exact ⟨parsed, rfl⟩

theorem receive_change (clock : Clock) (outside : Memory) (buffer : Bytes) :
    Books.Change machine.books (machine.receive clock outside buffer).books := by
  unfold receive
  split
  · exact .nothing
  · rename_i free
    split
    · exact .nothing
    · rename_i result gateway ok
      obtain ⟨parsed, router⟩ := parse_ok ok
      obtain ⟨grown, handed, -⟩ := parse_takes parsed
      have idle : machine.routing = none := Option.not_isSome_iff_eq_none.mp free
      have hands : Gateway.toProcess result = result.parsedMessage := by
        unfold Gateway.toProcess
        cases returned : result.parsedMessage with
        | none => exact ite_self none
        | some slot => rw [if_pos (handed.status slot returned)]
      have empty : machine.books.content .routing = [] := by
        simp [books, content, idle]
      have change := Books.Change.received empty grown handed
      convert change using 1
      simp only [books, Books.mk.injEq, true_and]
      refine ⟨rfl, ?_, rfl⟩
      funext place
      cases place with
      | queue priority => simp [content, router]
      | routing => simp [content, hands]
      | hand index => simp [content]

theorem route_books {slot : Nat} (routed : machine.routing = some slot)
    (found : machine.messagePool.objects slot = some message) :
    machine.route.messagePool = machine.messagePool ∧
      machine.route.gateway.messageRouter =
        machine.gateway.messageRouter.routeMessage (some (slot, message)) := by
  have read : machine.gateway.fixParser.messagePool.objects slot = some message := found
  simp [route, routed, Gateway.processParsedMessage, messagePool, Gateway.messagePool, read]

theorem route_of_none (idle : machine.routing = none) : machine.route = machine := by
  cases machine
  cases idle
  rfl

theorem route_change (accounted : machine.Accounted) (keeps : machine.Keeps .route) :
    Books.Change machine.books machine.route.books := by
  cases routed : machine.routing with
  | none =>
    rw [route_of_none routed]
    exact .nothing
  | some slot =>
    have there : machine.content .routing = [slot] := by simp [content, routed]
    obtain ⟨message, found⟩ := object_of_accounted accounted there
    have accepts := keeps message (by simp [beingRouted, routed, found])
    obtain ⟨pool, router⟩ := route_books routed found
    have change := Books.Change.moved
      (show Place.routing ≠ .queue (getMessagePriority message) from nofun)
      (show machine.books.content .routing = slot :: [] from there)
    convert change using 1
    simp only [books, Books.mk.injEq, pool, and_true]
    refine ⟨rfl, rfl, ?_⟩
    funext place
    cases place with
    | queue priority =>
      simp only [content, router, routeMessage_accepted accepts]
      by_cases same : priority = getMessagePriority message
      · subst same
        simp
      · simp [same, content]
    | routing => simp [content, route]
    | hand index => simp [content, route]

theorem route_loss (refused : ¬ machine.Keeps .route) :
    Books.Loss machine.books machine.route.books := by
  obtain ⟨message, here, refused⟩ : ∃ message ∈ machine.beingRouted,
      ¬ machine.gateway.messageRouter.Accepts message := by
    simpa [Keeps] using refused
  obtain ⟨slot, routed, found⟩ := Option.bind_eq_some_iff.mp here
  have there : machine.content .routing = [slot] := by simp [content, routed]
  obtain ⟨pool, router⟩ := route_books routed found
  have loss := Books.Loss.lost (show machine.books.content .routing = slot :: [] from there)
  convert loss using 1
  simp only [books, Books.mk.injEq, pool, and_true]
  refine ⟨rfl, rfl, ?_⟩
  funext place
  cases place with
  | queue priority => simp [content, router, routeMessage_dropped refused]
  | routing => simp [content, route]
  | hand index => simp [content, route]

theorem poll_change (index : Fin count) :
    Books.Change machine.books (machine.poll index).books := by
  unfold poll
  dsimp only
  split
  · exact .nothing
  · rename_i ready
    have free : machine.hands index = none := by
      rw [not_or, Option.not_isSome_iff_eq_none] at ready
      exact ready.2
    split
    · exact .nothing
    · rename_i priority connected
      split
      · exact .nothing
      · rename_i slot queue popped
        have there : machine.books.content (.queue priority) = slot :: queue.entries :=
          Utils.LockFreeQueue.entries_of_tryPop popped
        have change := Books.Change.moved
          (show Place.queue priority ≠ .hand index from nofun) there
        convert change using 1
        simp only [books, Books.mk.injEq, true_and]
        refine ⟨?_, rfl⟩
        funext place
        cases place with
        | queue other =>
          by_cases same : other = priority
          · subst same
            simp [content, MessageRouter.waiting, getQueue]
          · simp [content, MessageRouter.waiting, getQueue, same]
        | routing => simp [content]
        | hand other =>
          by_cases same : other = index
          · subst same
            simp [content, free]
          · simp [content, same]

theorem process_books {slot : Nat} (handling : Handling) (held : machine.hands index = some slot) :
    let pool := ((machine.managers index).processMessage machine.messagePool handling slot).2.1
    (machine.process index handling).books =
      { outstanding := machine.outstanding.filter fun other => other ≠ slot ∨ pool.live slot
        unreturned := machine.unreturned
        content := Function.update machine.content (.hand index) []
        pool := pool } := by
  dsimp only
  unfold process
  rw [held]
  simp only [books, Books.mk.injEq, true_and]
  refine ⟨?_, rfl⟩
  funext place
  cases place with
  | queue priority => simp [content, Gateway.withPool]
  | routing => simp [content]
  | hand other =>
    by_cases same : other = index
    · subst same
      simp [content]
    · simp [content, same]

theorem process_of_none (free : machine.hands index = none) :
    machine.process index handling = machine := by
  unfold process
  rw [free]

theorem process_change (accounted : machine.Accounted)
    (keeps : machine.Keeps (.process index handling)) :
    Books.Change machine.books (machine.process index handling).books := by
  cases held : machine.hands index with
  | none =>
    rw [process_of_none held]
    exact .nothing
  | some slot =>
    have there : machine.content (.hand index) = [slot] := by simp [content, held]
    obtain ⟨message, found⟩ := object_of_accounted accounted there
    have discharges := keeps message (by simp [inHand, held, found])
    have alive : machine.messagePool.live slot := Option.isSome_iff_exists.mpr ⟨message, found⟩
    have gone : ¬ (machine.messagePool.deallocate slot).live slot := fun still =>
      ((deallocate_live_iff alive).mp still).2 rfl
    have fewer : (machine.outstanding.filter fun other =>
        other ≠ slot ∨ (machine.messagePool.deallocate slot).live slot) =
          machine.outstanding.filter (· ≠ slot) := by
      simp [gone]
    rw [process_books handling held,
      InboundMessageManager.processMessage_discharged found discharges, fewer]
    exact .released there

theorem process_loss (refused : ¬ machine.Keeps (.process index handling)) :
    Books.Loss machine.books (machine.process index handling).books := by
  obtain ⟨message, here, stays⟩ : ∃ message ∈ machine.inHand index,
      ¬ InboundMessageManager.Discharges message handling := by
    simpa [Keeps] using refused
  obtain ⟨slot, held, found⟩ := Option.bind_eq_some_iff.mp here
  have there : machine.content (.hand index) = [slot] := by simp [content, held]
  have alive : machine.messagePool.live slot := Option.isSome_iff_exists.mpr ⟨message, found⟩
  have same : (machine.outstanding.filter fun other =>
      other ≠ slot ∨ machine.messagePool.live slot) = machine.outstanding := by
    simp [alive]
  rw [process_books handling held, InboundMessageManager.processMessage_kept found stays, same]
  exact .lost there

theorem shutdown_books (priority : Priority) :
    (machine.shutdown priority).books = machine.books := by
  simp only [books, Books.mk.injEq]
  refine ⟨rfl, rfl, ?_, rfl⟩
  funext place
  cases place with
  | queue other =>
    by_cases same : other = priority
    · subst same
      simp [content, shutdown, MessageRouter.waiting, getQueue]
    · simp [content, shutdown, MessageRouter.waiting, getQueue, same]
  | routing => rfl
  | hand index => rfl

theorem step_change (accounted : machine.Accounted) (keeps : machine.Keeps move) :
    Books.Change machine.books (machine.step move).books := by
  cases move with
  | receive clock outside buffer => exact receive_change clock outside buffer
  | route => exact route_change accounted keeps
  | poll index => exact poll_change index
  | process index handling => exact process_change accounted keeps
  | start index => exact .nothing
  | stop index => exact .nothing
  | shutdown priority =>
    rw [step, shutdown_books]
    exact .nothing

theorem step_loss (refused : ¬ machine.Keeps move) :
    Books.Loss machine.books (machine.step move).books := by
  cases move with
  | route => exact route_loss refused
  | process index handling => exact process_loss refused
  | receive clock outside buffer => exact absurd trivial refused
  | poll index => exact absurd trivial refused
  | start index => exact absurd trivial refused
  | stop index => exact absurd trivial refused
  | shutdown priority => exact absurd trivial refused

/-- Exactly the steps that keep the messages leave them accounted for. -/
theorem step_accounted_iff (accounted : machine.Accounted) (move : Move count) :
    machine.Keeps move ↔ (machine.step move).Accounted := by
  constructor
  · intro keeps
    exact (step_change accounted keeps).accounted accounted
  · intro after
    by_contra refused
    exact (step_loss refused).not_accounted accounted after

theorem receive_unreturned_iff (clock : Clock) (outside : Memory) (buffer : Bytes) :
    (machine.receive clock outside buffer).unreturned = [] ↔
      machine.unreturned = [] ∧ machine.Returns (.receive clock outside buffer) := by
  unfold receive Returns
  split
  · rename_i busy
    refine (and_iff_left fun idle => ?_).symm
    rw [idle] at busy
    cases busy
  · rename_i free
    have idle : machine.routing = none := Option.not_isSome_iff_eq_none.mp free
    split
    · rename_i fault failed
      refine (and_iff_left fun _ ok => ?_).symm
      rw [failed] at ok
      cases ok
    · rename_i result gateway ok
      obtain ⟨parsed, -⟩ := parse_ok ok
      obtain ⟨-, -, sole⟩ := parse_takes parsed
      have returned : unreturnedSlots machine.messagePool gateway.messagePool
          result = [] ↔ machine.gateway.fixParser.Sole clock outside buffer :=
        unreturnedSlots_eq_nil_iff.trans sole
      rw [List.append_eq_nil_iff, returned, and_comm]
      simp [idle, ok, Except.isOk, Except.toBool]

theorem poll_unreturned (index : Fin count) :
    (machine.poll index).unreturned = machine.unreturned := by
  unfold poll
  dsimp only
  split
  · rfl
  · split
    · rfl
    · split <;> rfl

theorem process_unreturned (index : Fin count) (handling : Handling) :
    (machine.process index handling).unreturned = machine.unreturned := by
  unfold process
  split <;> rfl

theorem step_unreturned_iff (machine : InboundPipeline count) (move : Move count) :
    (machine.step move).unreturned = [] ↔ machine.unreturned = [] ∧ machine.Returns move := by
  cases move with
  | receive clock outside buffer => exact receive_unreturned_iff clock outside buffer
  | poll index =>
    rw [step, poll_unreturned]
    exact (and_iff_left trivial).symm
  | process index handling =>
    rw [step, process_unreturned]
    exact (and_iff_left trivial).symm
  | route => exact (and_iff_left trivial).symm
  | start index => exact (and_iff_left trivial).symm
  | stop index => exact (and_iff_left trivial).symm
  | shutdown priority => exact (and_iff_left trivial).symm

/-- The two halves together are `onTcpDataReceived`. -/
theorem receive_route {report : Option Bytes} (idle : machine.routing = none)
    (ok : machine.gateway.onTcpDataReceived clock outside buffer = .ok (report, gateway)) :
    (machine.receive clock outside buffer).route.gateway = gateway := by
  obtain ⟨⟨result, parsed⟩, called, ok⟩ := bind_ok.mp ok
  cases ok
  unfold receive
  rw [idle, called]
  rfl

/-! ## Runs -/

theorem Initial.accounted (fresh : machine.Initial) : machine.Accounted := by
  have none : ∀ slot place, slot ∉ machine.books.content place := by
    intro slot place there
    rw [show machine.books.content place = [] from fresh.empty place] at there
    cases there
  refine ⟨⟨fun place => ?_, fun first second _ slot here => absurd here (none slot first),
    fun slot => ?_⟩, fun slot there => ?_⟩
  · rw [show machine.books.content place = [] from fresh.empty place]
    exact List.nodup_nil
  · have absent : slot ∉ machine.books.outstanding := by
      simp [books, fresh.outstanding]
    exact iff_of_false absent fun ⟨place, there⟩ => none slot place there
  · simp [books, fresh.outstanding] at there

theorem Initial.balanced (fresh : machine.Initial) :
    machine.books.Balanced machine.messagePool := by
  constructor
  · simp [books, fresh.outstanding]
  · simp [books, fresh.outstanding, fresh.unreturned]

/-- Steps that keep the messages keep the count of the pool in order. -/
theorem execute_balanced (fresh : machine.Initial) {moves : List (Move count)}
    (keeps : Permits step Keeps machine moves) :
    (execute step machine moves).Accounted ∧
      (execute step machine moves).books.Balanced machine.messagePool := by
  have run : Run (machine = ·) step Keeps (execute step machine moves) :=
    (Run.start rfl).execute keeps
  refine run.invariant
    (fun state => state.Accounted ∧ state.books.Balanced machine.messagePool) ?_ ?_
  · rintro state rfl
    exact ⟨fresh.accounted, fresh.balanced⟩
  · rintro state move ⟨accounted, balanced⟩ keeps
    have change := step_change accounted keeps
    exact ⟨change.accounted accounted, change.balanced accounted balanced⟩

theorem execute_unreturned_iff (machine : InboundPipeline count) (moves : List (Move count)) :
    (execute step machine moves).unreturned = [] ↔
      machine.unreturned = [] ∧ Permits step Returns machine moves := by
  induction moves generalizing machine with
  | nil => exact (and_iff_left trivial).symm
  | cons move moves ih =>
    refine (ih (machine.step move)).trans ?_
    rw [step_unreturned_iff, and_assoc]
    rfl

theorem outstanding_of_idle (accounted : machine.Accounted) (idle : machine.Idle) :
    machine.outstanding = [] := by
  refine List.eq_nil_iff_forall_not_mem.mpr fun slot there => ?_
  obtain ⟨place, here⟩ := (accounted.placed.covers slot).mp there
  rw [show machine.books.content place = [] from idle place] at here
  cases here

/-! ## The session manager -/

/-- What a session manager does with the message that a manager is processing. -/
def handledBy (machine : InboundPipeline count) (session : FixSessionManager)
    (clock : SessionClock) (index : Fin count) : Handling :=
  match machine.hands index, machine.inHand index with
  | some slot, some message => session.handling clock slot message
  | _, _ => ⟨false, some false, false⟩

/-! ## A heartbeat -/

/-- A gateway with a pool of four messages, and a manager at the queue of heartbeats. -/
def samplePipeline : InboundPipeline 1 where
  gateway := Gateway.new 4 (Nat.succ_pos 3) none 0
  managers := fun _ => { inboundQueue := some .low, hasOutboundQueues := true, running := true }
  routing := none
  hands := fun _ => none
  outstanding := []
  unreturned := []

theorem initial_samplePipeline : samplePipeline.Initial := by
  refine ⟨rfl, rfl, fun place => ?_⟩
  cases place with
  | queue priority => rfl
  | routing => rfl
  | hand index => rfl

/-- A heartbeat arrives, is routed and taken from its queue. -/
def sampleArrival : List (Move 1) :=
  [.receive sampleClock Memory.unmapped sampleHeartbeat.bytes, .route, .poll 0]

/-- A handler that gives the message back. -/
def sampleFreeing : List (Move 1) := sampleArrival ++ [.process 0 ⟨true, some true, true⟩]

def sampleSession : FixSessionManager where
  config := { senderCompId := ascii "GATEWAY", targetCompId := ascii "EXCHANGE" }

/-- The session manager processes the heartbeat. -/
def sampleProcessed : InboundPipeline 1 :=
  let arrived := execute step samplePipeline sampleArrival
  arrived.step (.process 0 (arrived.handledBy sampleSession ⟨0, ⟨2025, 1, 1, 0, 0, 0, 0⟩⟩ 0))

theorem idle_of_contents {machine : InboundPipeline 1}
    (empty : [Place.queue .critical, .queue .high, .queue .medium, .queue .low, .routing,
      .hand 0].map machine.content = List.replicate 6 []) : machine.Idle := by
  simp only [List.map_cons, List.map_nil, List.replicate_succ, List.replicate_zero, List.cons.injEq,
    and_true] at empty
  obtain ⟨critical, high, medium, low, routing, hand⟩ := empty
  intro place
  cases place with
  | queue priority => cases priority <;> assumption
  | routing => exact routing
  | hand index =>
    rw [Subsingleton.elim index 0]
    exact hand

/-- The messages that `parse` returns are accounted for at every point of a run exactly if
no queue refuses one and every handler gives back the one that it is called with. In such a
run, once the queues and the hands are empty, the pool has allocated as much as at the start
exactly if every call of `parse` found one message that ended its bytes, or none. -/
theorem inbound_accounted_iff (fresh : machine.Initial) (moves : List (Move count)) :
    ((∀ number, (execute step machine (moves.take number)).Accounted) ↔
        Permits step Keeps machine moves) ∧
      (Permits step Keeps machine moves → (execute step machine moves).Idle →
        ((execute step machine moves).messagePool.allocatedCount =
            machine.messagePool.allocatedCount ↔
          Permits step Returns machine moves)) := by
  constructor
  · have exact : ∀ (state : InboundPipeline count) (move : Move count), state.Accounted →
        (state.Keeps move ↔ (state.step move).Accounted) :=
      fun _ move accounted => step_accounted_iff accounted move
    exact (permits_iff_forall_take exact fresh.accounted moves).symm
  · intro keeps idle
    obtain ⟨accounted, balanced⟩ := execute_balanced fresh keeps
    have none := outstanding_of_idle accounted idle
    have counted : (execute step machine moves).messagePool.allocatedCount =
        machine.messagePool.allocatedCount + (execute step machine moves).outstanding.length +
          (execute step machine moves).unreturned.length := balanced.allocatedCount
    have returned := execute_unreturned_iff machine moves
    rw [← List.length_eq_zero_iff] at returned
    rw [none, List.length_nil] at counted
    rw [counted]
    constructor
    · intro same
      exact (returned.mp (by omega)).2
    · intro sole
      have all := returned.mpr ⟨fresh.unreturned, sole⟩
      omega

theorem inbound_accounted_iff_heartbeat :
    samplePipeline.Initial ∧
      (∀ number, (execute step samplePipeline (sampleFreeing.take number)).Accounted) ∧
      (execute step samplePipeline sampleFreeing).messagePool.allocatedCount =
        samplePipeline.messagePool.allocatedCount := by
  have keeps : Permits step Keeps samplePipeline sampleFreeing := by decide +kernel
  have returns : Permits step Returns samplePipeline sampleFreeing := by decide +kernel
  have idle : (execute step samplePipeline sampleFreeing).Idle :=
    idle_of_contents (by decide +kernel)
  obtain ⟨always, drained⟩ := inbound_accounted_iff initial_samplePipeline sampleFreeing
  exact ⟨initial_samplePipeline, always.mpr keeps, (drained keeps idle).mpr returns⟩

/-- Nothing is under way and the heartbeat is still allocated. -/
theorem processed_heartbeat_lost :
    samplePipeline.Initial ∧ sampleProcessed.Idle ∧ ¬ sampleProcessed.Accounted ∧
      samplePipeline.messagePool.allocatedCount = 0 ∧
      sampleProcessed.messagePool.allocatedCount = 1 := by
  have idle : sampleProcessed.Idle := idle_of_contents (by decide +kernel)
  have outstanding : sampleProcessed.outstanding = [0] := by decide +kernel
  refine ⟨initial_samplePipeline, idle, fun accounted => ?_, rfl, by decide +kernel⟩
  rw [outstanding_of_idle accounted idle] at outstanding
  cases outstanding

end InboundPipeline

end FixGateway.Application
