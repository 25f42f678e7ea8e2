import FixGateway.Network.AsyncSender
import FixGateway.Utils.PriorityQueue

/-! # Stopping a sender

The thread of an `AsyncSender` takes messages from its queue and sends them as long as
`running_` is set, and then drains the queue. `stop` clears `running_`, and `shutdown` first
sets `shutdown_requested_`; both then wait for the thread. But `sendMessage` attempts nothing
while `running_` is not set, so what is drained after that is destroyed without being sent.

The thread, and the two stores of the call that stops it, are interleaved in any way. The
connection stays up, and `TcpConnection::send` returns true. `popMessage` and `tryPopMessage`
differ in how long they wait only.
-/

namespace FixGateway.Network

open Common Utils

/-- The queue of a sender. -/
inductive SenderQueue (heap : MaxContainer messagePriorityComparator) where
  | mutexBased (queue : PriorityQueue heap)
  | lockFree (queue : LockFreeQueue Message)

namespace SenderQueue

variable {heap : MaxContainer messagePriorityComparator} {queue after : SenderQueue heap}

/-- `tryPopMessage`. -/
def tryPop : SenderQueue heap → Option Message × SenderQueue heap
  | .mutexBased queue => (queue.tryPop.1, .mutexBased queue.tryPop.2)
  | .lockFree queue => (queue.tryPop.1, .lockFree queue.tryPop.2)

/-- What a number of pops yields. -/
def yieldUpTo : Nat → PriorityQueue heap → List Message
  | 0, _ => []
  | count + 1, queue =>
    match queue.tryPop with
    | (none, _) => []
    | (some message, queue) => message :: yieldUpTo count queue

/-- The messages in the queue, in the order in which it yields them. -/
def contents : SenderQueue heap → List Message
  | .mutexBased queue => yieldUpTo queue.size queue
  | .lockFree queue => queue.entries

theorem contents_of_tryPop {message : Message} (popped : queue.tryPop = (some message, after)) :
    queue.contents = message :: after.contents := by
  cases queue with
  | lockFree queue =>
    obtain ⟨taken, rfl⟩ := Prod.mk.inj popped
    exact LockFreeQueue.entries_of_tryPop (Prod.ext taken rfl)
  | mutexBased queue =>
    obtain ⟨taken, rfl⟩ := Prod.mk.inj popped
    have yields : queue.tryPop = (some message, queue.tryPop.2) := Prod.ext taken rfl
    rw [contents, PriorityQueue.size_of_tryPop yields, yieldUpTo, yields]
    rfl

theorem tryPop_none (popped : queue.tryPop = (none, after)) : after = queue := by
  cases queue with
  | lockFree queue =>
    obtain ⟨refused, rfl⟩ := Prod.mk.inj popped
    exact congrArg lockFree (LockFreeQueue.tryPop_none refused)
  | mutexBased queue =>
    obtain ⟨refused, rfl⟩ := Prod.mk.inj popped
    exact congrArg mutexBased (PriorityQueue.tryPop_none refused)

end SenderQueue

/-- Where the thread is. In the call of `sendMessage` it is before the test of `running_` or in
the attempt that follows it, either in the main loop or while it drains the queue. -/
inductive ThreadPoint where
  | top
  | pop
  | test (draining : Bool) (message : Message)
  | attempt (draining : Bool) (message : Message)
  | check
  | drain
  | finished
  deriving DecidableEq, Repr

/-- A sender with its thread. -/
structure SenderThread (heap : MaxContainer messagePriorityComparator) where
  sender : AsyncSender
  shutdownRequested : Bool := false
  queue : SenderQueue heap
  point : ThreadPoint := .top
  /-- A history variable: the messages passed to `TcpConnection::send`, in order. -/
  passed : List Message := []

namespace SenderThread

variable {heap : MaxContainer messagePriorityComparator}

inductive Move where
  | thread
  /-- `shutdown_requested_.store(true)`. -/
  | requestShutdown
  /-- `running_.store(false)`. -/
  | clearRunning
  deriving DecidableEq, Repr

/-- Where the thread goes on after `sendMessage`. -/
def afterSend : Bool → ThreadPoint
  | false => .check
  | true => .drain

/-- The next step of the thread. -/
def advance (thread : SenderThread heap) : SenderThread heap :=
  match thread.point with
  | .top => { thread with point := if thread.sender.running then .pop else .drain }
  | .pop =>
    match thread.queue.tryPop with
    | (some message, queue) => { thread with queue, point := .test false message }
    | (none, queue) => { thread with queue, point := .check }
  | .test draining message =>
    if thread.sender.running then { thread with point := .attempt draining message }
    else
      { thread with
        sender := thread.sender.finish false message
        point := afterSend draining }
  | .attempt draining message =>
    { thread with
      sender := thread.sender.finish true message
      passed := thread.passed ++ [message]
      point := afterSend draining }
  | .check => { thread with point := if thread.shutdownRequested then .drain else .top }
  | .drain =>
    match thread.queue.tryPop with
    | (some message, queue) => { thread with queue, point := .test true message }
    | (none, queue) => { thread with queue, point := .finished }
  | .finished => thread

def step (thread : SenderThread heap) : Move → SenderThread heap
  | .thread => thread.advance
  | .requestShutdown => { thread with shutdownRequested := true }
  | .clearRunning => { thread with sender := { thread.sender with running := false } }

/-! ## What is still to be sent -/

/-- The messages of which the thread has not seen yet whether it may send them. -/
def untested (thread : SenderThread heap) : List Message :=
  match thread.point with
  | .test _ message => message :: thread.queue.contents
  | _ => thread.queue.contents

/-- The message that the thread sends next, whatever happens. -/
def committed (thread : SenderThread heap) : List Message :=
  match thread.point with
  | .attempt _ message => [message]
  | _ => []

/-- The messages that are to be sent, in order. -/
def unsent (thread : SenderThread heap) : List Message := thread.committed ++ thread.untested

/-- Everything that was to be sent has been passed on, once and in order, and only then destroyed.
-/
structure Flushed (start after : SenderThread heap) : Prop where
  passed : after.passed = start.passed ++ start.unsent
  destroyed : after.sender.destroyed = start.unsent.reverse ++ start.sender.destroyed

/-- `running_` is cleared when the thread has got every message past the test of it. -/
def ClearsLast (thread : SenderThread heap) (move : Move) : Prop :=
  move = .clearRunning → thread.untested = []

instance (thread : SenderThread heap) (move : Move) : Decidable (thread.ClearsLast move) :=
  inferInstanceAs (Decidable (_ → _))

section Steps

variable {start thread : SenderThread heap} {message : Message} {draining : Bool}

/-- As long as all is well: what was to be sent is passed on and destroyed or still to be sent,
and once `running_` is cleared nothing is left to be tested. -/
structure Orderly (start thread : SenderThread heap) : Prop where
  progress : ∃ done, thread.passed = start.passed ++ done ∧
    thread.sender.destroyed = done.reverse ++ start.sender.destroyed ∧
    done ++ thread.unsent = start.unsent
  tested : thread.sender.running = false → thread.untested = []

section

variable (orderly : Orderly start thread)
include orderly

theorem Orderly.keep {after : SenderThread heap} (sender : after.sender = thread.sender)
    (passed : after.passed = thread.passed) (committed : after.committed = thread.committed)
    (untested : after.untested = thread.untested) : Orderly start after := by
  obtain ⟨⟨done, sent, destroyed, rest⟩, tested⟩ := orderly
  refine ⟨⟨done, passed.trans sent, ?_, ?_⟩, ?_⟩
  · rw [sender, destroyed]
  · rw [unsent, committed, untested]
    exact rest
  · rw [sender, untested]
    exact tested

theorem Orderly.pops {queue : SenderQueue heap}
    (popped : thread.queue.tryPop = (some message, queue)) (draining : Bool)
    (idle : thread.committed = []) (waiting : thread.untested = thread.queue.contents) :
    Orderly start { thread with queue, point := .test draining message } := by
  refine orderly.keep rfl rfl ?_ ?_
  · exact idle.symm
  · rw [waiting, SenderQueue.contents_of_tryPop popped]
    rfl

/-- A message that passes the test is sent next, and without `running_` there is none. -/
theorem Orderly.tests (point : thread.point = .test draining message) :
    Orderly start thread.advance := by
  rw [SenderThread.advance, point]
  dsimp only
  split
  · rename_i running
    obtain ⟨⟨done, sent, destroyed, rest⟩, -⟩ := orderly
    refine ⟨⟨done, sent, destroyed, ?_⟩, ?_⟩
    · simp only [unsent, committed, untested, point] at rest ⊢
      exact rest
    · intro stopped
      exact absurd (running.symm.trans stopped) Bool.true_eq_false.mp
  · rename_i stopped
    have none := orderly.tested (Bool.eq_false_iff.mpr stopped)
    simp only [untested, point] at none
    cases none

theorem Orderly.sends (point : thread.point = .attempt draining message) :
    Orderly start thread.advance := by
  obtain ⟨⟨done, sent, destroyed, rest⟩, tested⟩ := orderly
  simp only [unsent, committed, untested, point] at rest tested
  have going : thread.advance.committed = [] ∧ thread.advance.untested = thread.queue.contents := by
    rw [SenderThread.advance, point]
    cases draining <;> exact ⟨rfl, rfl⟩
  have after : thread.advance.passed = thread.passed ++ [message] ∧
      thread.advance.sender = thread.sender.finish true message := by
    rw [SenderThread.advance, point]
    exact ⟨rfl, rfl⟩
  refine ⟨⟨done ++ [message], ?_, ?_, ?_⟩, ?_⟩
  · rw [after.1, sent, List.append_assoc]
  · rw [after.2]
    change message :: thread.sender.destroyed = _
    rw [destroyed, List.reverse_append]
    rfl
  · rw [unsent, going.1, going.2, List.append_assoc]
    exact rest
  · rw [after.2, going.2]
    exact tested

theorem Orderly.advance : Orderly start thread.advance := by
  cases point : thread.point with
  | top =>
    rw [SenderThread.advance, point]
    dsimp only
    split
    · refine orderly.keep rfl rfl ?_ ?_ <;> simp only [committed, untested, point]
    · refine orderly.keep rfl rfl ?_ ?_ <;> simp only [committed, untested, point]
  | pop =>
    rw [SenderThread.advance, point]
    dsimp only
    split
    · rename_i message queue popped
      apply orderly.pops popped <;> simp only [committed, untested, point]
    · rename_i queue popped
      rw [SenderQueue.tryPop_none popped]
      refine orderly.keep rfl rfl ?_ ?_ <;> simp only [committed, untested, point]
  | test draining message => exact orderly.tests point
  | attempt draining message => exact orderly.sends point
  | check =>
    rw [SenderThread.advance, point]
    dsimp only
    split
    · refine orderly.keep rfl rfl ?_ ?_ <;> simp only [committed, untested, point]
    · refine orderly.keep rfl rfl ?_ ?_ <;> simp only [committed, untested, point]
  | drain =>
    rw [SenderThread.advance, point]
    dsimp only
    split
    · rename_i message queue popped
      apply orderly.pops popped <;> simp only [committed, untested, point]
    · rename_i queue popped
      rw [SenderQueue.tryPop_none popped]
      refine orderly.keep rfl rfl ?_ ?_ <;> simp only [committed, untested, point]
  | finished =>
    rw [SenderThread.advance, point]
    exact orderly

theorem Orderly.step {move : Move} (clears : thread.ClearsLast move) :
    Orderly start (thread.step move) := by
  cases move with
  | thread => exact orderly.advance
  | requestShutdown => exact ⟨orderly.progress, orderly.tested⟩
  | clearRunning => exact ⟨orderly.progress, fun _ => clears rfl⟩

end

/-- The number of messages that will have been passed on when no other message gets past the
test. -/
def assured (thread : SenderThread heap) : Nat := thread.passed.length + thread.committed.length

theorem finish_running (sender : AsyncSender) (success : Bool) (message : Message) :
    (sender.finish success message).running = sender.running := by
  unfold AsyncSender.finish
  split <;> rfl

theorem advance_assured (stopped : thread.sender.running = false) :
    thread.advance.sender.running = false ∧ thread.advance.assured = thread.assured := by
  have off : ¬ thread.sender.running = true := Bool.eq_false_iff.mp stopped
  unfold advance
  cases point : thread.point with
  | top =>
    dsimp only
    rw [if_neg off]
    exact ⟨stopped, by simp only [assured, committed, point]⟩
  | pop =>
    dsimp only
    split <;> exact ⟨stopped, by simp only [assured, committed, point]⟩
  | test draining message =>
    dsimp only
    rw [if_neg off]
    refine ⟨(finish_running ..).trans stopped, ?_⟩
    cases draining <;> simp only [assured, committed, point, afterSend]
  | attempt draining message =>
    refine ⟨(finish_running ..).trans stopped, ?_⟩
    cases draining <;> simp [assured, committed, point, afterSend]
  | check =>
    dsimp only
    split <;> exact ⟨stopped, by simp only [assured, committed, point]⟩
  | drain =>
    dsimp only
    split <;> exact ⟨stopped, by simp only [assured, committed, point]⟩
  | finished => exact ⟨stopped, rfl⟩

theorem execute_assured (stopped : thread.sender.running = false) (moves : List Move) :
    (Transition.execute step thread moves).assured = thread.assured := by
  induction moves generalizing thread with
  | nil => rfl
  | cons move moves ih =>
    have kept : (thread.step move).sender.running = false ∧
        (thread.step move).assured = thread.assured := by
      cases move with
      | thread => exact advance_assured stopped
      | requestShutdown => exact ⟨stopped, rfl⟩
      | clearRunning => exact ⟨rfl, rfl⟩
    exact (ih kept.1).trans kept.2

theorem Orderly.permits_of_flushed (orderly : Orderly start thread) {moves : List Move}
    (finished : (Transition.execute SenderThread.step thread moves).point = .finished)
    (flushed : Flushed start (Transition.execute SenderThread.step thread moves)) :
    Transition.Permits SenderThread.step ClearsLast thread moves := by
  induction moves generalizing thread with
  | nil => trivial
  | cons move moves ih =>
    have clears : thread.ClearsLast move := by
      rintro rfl
      obtain ⟨done, sent, -, rest⟩ := orderly.progress
      have stopped : (thread.step .clearRunning).sender.running = false := rfl
      have kept := execute_assured stopped moves
      have last : committed (Transition.execute SenderThread.step thread
          (.clearRunning :: moves)) = [] := by
        simp only [committed, finished]
      have all := congrArg List.length flushed.passed
      have before := congrArg List.length sent
      have split := congrArg List.length rest
      change assured (Transition.execute SenderThread.step thread (.clearRunning :: moves)) =
        thread.assured at kept
      rw [assured, last, assured] at kept
      simp only [List.length_append, List.length_nil, unsent] at all before split kept
      exact List.eq_nil_of_length_eq_zero (by omega)
    exact ⟨clears, ih (orderly.step clears) finished flushed⟩

/-! ## The thread and `sendMessage` -/

theorem sendMessage_returned (sender : AsyncSender) (message : Message) :
    sender.sendMessage (fun _ => .returned true) 1 (some message) =
      some (if sender.running then (1, sender.finish true message)
        else (0, sender.finish false message)) := by
  rw [AsyncSender.sendMessage, AsyncSender.attemptLoop]
  cases sender.running with
  | true => simp
  | false => simp

/-- From the test on, the thread does what `sendMessage` does, in one step more than it makes
attempts. -/
theorem sendMessage_steps (point : thread.point = .test draining message) :
    ∃ made after,
      thread.sender.sendMessage (fun _ => .returned true) 1 (some message) = some (made, after) ∧
        (Transition.execute step thread (List.replicate (made + 1) .thread)).sender = after := by
  rw [sendMessage_returned]
  cases running : thread.sender.running with
  | true =>
    refine ⟨1, thread.sender.finish true message, rfl, ?_⟩
    have first : thread.advance = { thread with point := .attempt draining message } := by
      rw [advance, point]
      dsimp only
      rw [if_pos running]
    change thread.advance.advance.sender = _
    rw [first]
    rfl
  | false =>
    refine ⟨0, thread.sender.finish false message, rfl, ?_⟩
    change thread.advance.sender = _
    rw [advance, point]
    dsimp only
    rw [if_neg (Bool.eq_false_iff.mp running)]

/-! ## The end of the thread -/

end Steps

/-- When the thread has finished after `running_` was cleared, all messages were passed on exactly
if none was left to be tested when `running_` was cleared. -/
theorem flushed_iff_clears_last {start : SenderThread heap} {moves : List Move}
    (running : start.sender.running = true)
    (finished : (Transition.execute step start moves).point = .finished)
    (stopped : (Transition.execute step start moves).sender.running = false) :
    Flushed start (Transition.execute step start moves) ↔
      Transition.Permits step ClearsLast start moves := by
  have orderly : Orderly start start := by
    refine ⟨⟨[], (List.append_nil _).symm, rfl, rfl⟩, fun stopped => ?_⟩
    exact absurd (running.symm.trans stopped) Bool.true_eq_false.mp
  constructor
  · exact orderly.permits_of_flushed finished
  · intro permits
    have begun : Transition.Run (· = start) step ClearsLast start := .start rfl
    have run := begun.execute permits
    have last : Orderly start (Transition.execute step start moves) := by
      apply run.invariant (Orderly start)
      · rintro _ rfl
        exact orderly
      · intro thread move orderly clears
        exact orderly.step clears
    obtain ⟨done, passed, destroyed, rest⟩ := last.progress
    have nothing : unsent (Transition.execute step start moves) = [] := by
      rw [unsent, last.tested stopped]
      simp only [committed, finished, List.append_nil]
    rw [nothing, List.append_nil] at rest
    rw [rest] at passed destroyed
    exact ⟨passed, destroyed⟩

def sampleHeap : MaxContainer messagePriorityComparator :=
  MaxContainer.ofKey fun message : Message => message.priority.value

/-- A sender with one message in a queue of either kind. -/
def sampleMutexBased : SenderThread sampleHeap where
  sender := AsyncSender.sampleSender
  queue := .mutexBased (PriorityQueue.insert {} AsyncSender.sampleMessage)

def sampleLockFree : SenderThread sampleHeap where
  sender := AsyncSender.sampleSender
  queue := .lockFree ((LockFreeQueue.new Message 4).push AsyncSender.sampleMessage).2

/-- The sender is stopped while it sends its last message. -/
def sampleStop : List Move :=
  [.thread, .thread, .thread, .clearRunning, .thread, .thread, .thread, .thread]

theorem flushed_iff_clears_last_sending :
    Flushed sampleMutexBased (Transition.execute step sampleMutexBased sampleStop) ∧
      (Transition.execute step sampleMutexBased sampleStop).passed =
        [AsyncSender.sampleMessage] := by
  have clears : Transition.Permits step ClearsLast sampleMutexBased sampleStop := by
    decide +kernel
  exact ⟨(flushed_iff_clears_last rfl (by decide +kernel) (by decide +kernel)).mpr clears,
    by decide +kernel⟩

/-- A sender is stopped with a message in its queue, and destroys the message unsent. -/
theorem stopped_sender_destroys_unsent :
    let moves : List Move := [.clearRunning, .thread, .thread, .thread, .thread]
    ((Transition.execute step sampleMutexBased moves).point = .finished ∧
      (Transition.execute step sampleMutexBased moves).passed = [] ∧
      (Transition.execute step sampleMutexBased moves).sender.destroyed.length = 1) ∧
    ((Transition.execute step sampleLockFree moves).point = .finished ∧
      (Transition.execute step sampleLockFree moves).passed = [] ∧
      (Transition.execute step sampleLockFree moves).sender.destroyed =
        [AsyncSender.sampleMessage]) ∧
    ¬ Flushed sampleLockFree (Transition.execute step sampleLockFree moves) := by
  refine ⟨by decide +kernel, by decide +kernel, fun flushed => ?_⟩
  exact absurd flushed.passed (by decide +kernel)

end SenderThread

end FixGateway.Network
