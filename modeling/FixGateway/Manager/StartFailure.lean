import FixGateway.Manager.AsyncSenderManager
import FixGateway.Network.ConnectionStatus

/-! # A start that fails

`AsyncSenderManager::start` creates the connection, the queues and the senders and starts the
threads of the senders, and sets `running_` at the end. When one of these steps throws, it calls
`stop` and throws again. But `stop` returns at once as long as `running_` is not set, so the senders
that have been started stay running, and so does the flag of the sender whose thread could not be
created, which `AsyncSender::start` sets first.

The senders are kept in a map. When a sender is replaced, it is destroyed, and its destructor ends
its thread, unless someone else has taken a pointer to it.
-/

namespace FixGateway.Manager

open Application Common Network Utils

/-- The priorities, in the order in which the queues are created. -/
def priorities : List Priority := [.critical, .high, .medium, .low]

theorem mem_priorities (priority : Priority) : priority ∈ priorities := by
  cases priority <;> decide

/-- The part of an `AsyncSender` that its life is about. -/
structure SenderLife where
  running : Bool := false
  /-- There is a thread to be joined. -/
  joinable : Bool := false
  /-- Someone else than the manager has a pointer to the sender. -/
  shared : Bool := false
  deriving DecidableEq, Repr

namespace SenderLife

/-- `AsyncSender::start`; the constructor of the thread may throw, with the flag set already. -/
def start (fails : Bool) (sender : SenderLife) : Except SenderLife SenderLife :=
  if sender.running then .ok sender
  else if fails then .error { sender with running := true }
  else .ok { sender with running := true, joinable := true }

/-- `AsyncSender::stop`. -/
def stop (sender : SenderLife) : SenderLife := { sender with running := false, joinable := false }

end SenderLife

/-- The points at which `start` may throw. -/
inductive StartPoint where
  | connection
  | queue (priority : Priority)
  | sender (priority : Priority)
  | thread (priority : Priority)
  deriving DecidableEq, Repr

/-- The point is the creation of a thread. -/
def StartPoint.isThread : StartPoint → Bool
  | .thread _ => true
  | _ => false

theorem StartPoint.early_or_thread (point : StartPoint) :
    point.isThread = false ∨ ∃ priority, point = .thread priority := by
  cases point with
  | thread priority => exact .inr ⟨priority, rfl⟩
  | _ => exact .inl rfl

/-- The orders in which the loops go over the maps from a priority to its queue and its sender. -/
structure Visits where
  creating : List Priority
  starting : List Priority
  createsAll : creating.Perm priorities
  startsAll : starting.Perm priorities

/-- A manager with its connection and its senders. -/
structure SenderFleet (heap : MaxContainer messagePriorityComparator) where
  manager : AsyncSenderManager heap
  tcpConnection : Option Endpoint := none
  asyncSenders : Priority → Option SenderLife := fun _ => none
  /-- The senders that are no longer in the map and that others keep alive. -/
  released : List SenderLife := []

/-- Create the queue for one priority. -/
def AsyncSenderManager.createQueue {heap : MaxContainer messagePriorityComparator}
    (manager : AsyncSenderManager heap) (priority : Priority) : AsyncSenderManager heap :=
  match manager.queueType with
  | .mutexBased =>
    { manager with
      priorityQueues := Function.update manager.priorityQueues priority
        (some { maxSize := manager.queueSize priority, overflowPolicy := .dropOldest }) }
  | .lockFree =>
    { manager with
      lockFreeQueues := Function.update manager.lockFreeQueues priority
        (some (LockFreeQueue.new Message (manager.queueSize priority))) }

namespace SenderFleet

variable {heap : MaxContainer messagePriorityComparator}

/-- Put a sender into the map. -/
def setSender (fleet : SenderFleet heap) (priority : Priority) (sender : SenderLife) :
    SenderFleet heap :=
  { fleet with asyncSenders := Function.update fleet.asyncSenders priority (some sender) }

/-- Put a new sender into the map. The one that was there is destroyed, unless it is shared. -/
def installSender (fleet : SenderFleet heap) (priority : Priority) : SenderFleet heap :=
  { fleet.setSender priority {} with
    released := fleet.released ++ (fleet.asyncSenders priority).toList.filter SenderLife.shared }

def createTcpConnection (failure : Option StartPoint) (fleet : SenderFleet heap) :
    Except (SenderFleet heap) (SenderFleet heap) :=
  if failure = some .connection then .error fleet
  else .ok { fleet with tcpConnection := some .new }

def createQueue (failure : Option StartPoint) (fleet : SenderFleet heap) (priority : Priority) :
    Except (SenderFleet heap) (SenderFleet heap) :=
  if failure = some (.queue priority) then .error fleet
  else .ok { fleet with manager := fleet.manager.createQueue priority }

def createSender (failure : Option StartPoint) (fleet : SenderFleet heap) (priority : Priority) :
    Except (SenderFleet heap) (SenderFleet heap) :=
  if failure = some (.sender priority) then .error fleet else .ok (fleet.installSender priority)

/-- `createQueuesAndSenders`. -/
def createQueuesAndSenders (visits : Visits) (failure : Option StartPoint)
    (fleet : SenderFleet heap) : Except (SenderFleet heap) (SenderFleet heap) := do
  let fleet ← priorities.foldlM (createQueue failure) fleet
  visits.creating.foldlM (createSender failure) fleet

/-- A round of the loop of `startAsyncSenders`. Pinning the thread does not throw. -/
def startSender (failure : Option StartPoint) (fleet : SenderFleet heap) (priority : Priority) :
    Except (SenderFleet heap) (SenderFleet heap) :=
  match fleet.asyncSenders priority with
  | none => .ok fleet
  | some sender =>
    match sender.start (failure = some (.thread priority)) with
    | .ok sender => .ok (fleet.setSender priority sender)
    | .error sender => .error (fleet.setSender priority sender)

def startAsyncSenders (visits : Visits) (failure : Option StartPoint) (fleet : SenderFleet heap) :
    Except (SenderFleet heap) (SenderFleet heap) :=
  visits.starting.foldlM (startSender failure) fleet

/-- `stopAsyncSenders`. -/
def stopAsyncSenders (fleet : SenderFleet heap) : SenderFleet heap :=
  { fleet with
    asyncSenders := fun priority => (fleet.asyncSenders priority).map fun sender =>
      if sender.running then sender.stop else sender }

def stop (fleet : SenderFleet heap) : SenderFleet heap :=
  if fleet.manager.running then
    let fleet := { fleet with manager := { fleet.manager with running := false } }.stopAsyncSenders
    { fleet with tcpConnection := fleet.tcpConnection.map Endpoint.disconnect }
  else fleet

/-- The steps of `start` that may throw. -/
def startSteps (visits : Visits) (failure : Option StartPoint) (fleet : SenderFleet heap) :
    Except (SenderFleet heap) (SenderFleet heap) := do
  let fleet ← fleet.createTcpConnection failure
  let fleet ← fleet.createQueuesAndSenders visits failure
  fleet.startAsyncSenders visits failure

/-- `start`. An exception at the given point is thrown again, with what is left of the manager. -/
def start (visits : Visits) (failure : Option StartPoint) (fleet : SenderFleet heap) :
    Except (SenderFleet heap) (SenderFleet heap) :=
  if fleet.manager.running then .ok fleet
  else
    match fleet.startSteps visits failure with
    | .ok fleet => .ok { fleet with manager := { fleet.manager with running := true } }
    | .error fleet => .error fleet.stop

/-- The senders that the manager has created and that are still there. -/
def created (fleet : SenderFleet heap) : List SenderLife :=
  priorities.filterMap fleet.asyncSenders ++ fleet.released

/-- No sender is running. -/
def Quiet (fleet : SenderFleet heap) : Prop := ∀ sender ∈ fleet.created, sender.running = false

/-- Whether the sender for a priority is running. -/
def isRunning (fleet : SenderFleet heap) (priority : Priority) : Bool :=
  (fleet.asyncSenders priority).any SenderLife.running

/-- What can be seen of a call of `start`: whether it returned, with which manager, and which
senders are running. -/
def behaviour : Except (SenderFleet heap) (SenderFleet heap) →
    Option (AsyncSenderManager heap) × (Priority → Bool)
  | .ok fleet => (some fleet.manager, fleet.isRunning)
  | .error fleet => (none, fleet.isRunning)

/-! ## Loops that throw -/

section Loops

variable {α β ε : Type} {step : α → β → Except ε α} {next : α → β → α}

theorem foldlM_returns (list : List β) (start : α)
    (returns : ∀ state, ∀ entry ∈ list, step state entry = .ok (next state entry)) :
    list.foldlM step start = .ok (list.foldl next start) := by
  induction list generalizing start with
  | nil => rfl
  | cons entry rest ih =>
    rw [List.foldlM_cons, returns start entry List.mem_cons_self, List.foldl_cons]
    exact ih _ fun state other member => returns state other (List.mem_cons_of_mem _ member)

theorem foldlM_throws [DecidableEq β] (next : α → β → α) {list : List β} {entry : β} {start : α}
    {error : ε} (member : entry ∈ list)
    (returns : ∀ state other, other ≠ entry → step state other = .ok (next state other))
    (throws : step ((list.takeWhile (· ≠ entry)).foldl next start) entry = .error error) :
    list.foldlM step start = .error error := by
  induction list generalizing start with
  | nil => cases member
  | cons other rest ih =>
    rw [List.foldlM_cons]
    by_cases same : other = entry
    · rw [List.takeWhile_cons_of_neg (by simpa using same), List.foldl_nil] at throws
      rw [same, throws]
      rfl
    · rw [List.takeWhile_cons_of_pos (by simpa using same)] at throws
      rw [returns start other same]
      exact ih (List.mem_of_ne_of_mem (Ne.symm same) member) throws

end Loops

/-! ## The effects of the steps -/

def addQueue (fleet : SenderFleet heap) (priority : Priority) : SenderFleet heap :=
  { fleet with manager := fleet.manager.createQueue priority }

/-- A sender is started, unless it is running. -/
def launch (fleet : SenderFleet heap) (priority : Priority) : SenderFleet heap :=
  match fleet.asyncSenders priority with
  | none => fleet
  | some sender =>
    fleet.setSender priority
      (if sender.running then sender else { sender with running := true, joinable := true })

section Steps

variable {fleet : SenderFleet heap} {failure : Option StartPoint} {priority : Priority}

theorem createQueue_returns (other : failure ≠ some (.queue priority)) :
    createQueue failure fleet priority = .ok (fleet.addQueue priority) := if_neg other

theorem createSender_returns (other : failure ≠ some (.sender priority)) :
    createSender failure fleet priority = .ok (fleet.installSender priority) := if_neg other

theorem startSender_returns (other : failure ≠ some (.thread priority)) :
    startSender failure fleet priority = .ok (fleet.launch priority) := by
  unfold startSender launch
  cases fleet.asyncSenders priority with
  | none => rfl
  | some sender =>
    cases running : sender.running with
    | true => simp [SenderLife.start, running]
    | false => simp [SenderLife.start, running, other]

/-- A thread that cannot be created leaves the flag of its sender set. -/
theorem startSender_throws (fresh : fleet.asyncSenders priority = some {}) :
    startSender (some (.thread priority)) fleet priority =
      .error (fleet.setSender priority { running := true }) := by
  unfold startSender
  rw [fresh]
  simp [SenderLife.start]

end Steps

/-! ## Up to the threads -/

theorem createQueue_running (manager : AsyncSenderManager heap) (priority : Priority) :
    (manager.createQueue priority).running = manager.running := by
  unfold AsyncSenderManager.createQueue
  cases manager.queueType with
  | mutexBased => rfl
  | lockFree => rfl

/-- A queue that was created by an earlier start is replaced by the next one. -/
theorem createQueue_start {manager : AsyncSenderManager heap} (idle : manager.running = false)
    (priority : Priority) : (manager.createQueue priority).start = manager.start := by
  have same := createQueue_running manager priority
  unfold AsyncSenderManager.start
  rw [same, if_neg (ne_true_of_eq_false idle), if_neg (ne_true_of_eq_false idle)]
  unfold AsyncSenderManager.createQueuesAndSenders AsyncSenderManager.createQueue
  cases kind : manager.queueType with
  | mutexBased => simp
  | lockFree => simp

theorem quiet_iff {fleet : SenderFleet heap} :
    fleet.Quiet ↔ (∀ priority, fleet.isRunning priority = false) ∧
      ∀ sender ∈ fleet.released, sender.running = false := by
  unfold Quiet created
  rw [List.forall_mem_append]
  apply and_congr_left
  intro _
  constructor
  · intro quiet priority
    unfold isRunning
    cases there : fleet.asyncSenders priority with
    | none => rfl
    | some sender =>
      exact quiet sender (List.mem_filterMap.mpr ⟨priority, mem_priorities priority, there⟩)
  · intro quiet sender member
    obtain ⟨priority, -, there⟩ := List.mem_filterMap.mp member
    have none := quiet priority
    unfold isRunning at none
    rw [there] at none
    exact none

/-- What the steps before the first thread keep. -/
structure Prepares (before after : SenderFleet heap) : Prop where
  idle : before.manager.running = false → after.manager.running = false
  start : before.manager.running = false → after.manager.start = before.manager.start
  released : ∀ sender ∈ before.released, sender ∈ after.released
  quiet : before.Quiet → after.Quiet

namespace Prepares

theorem refl (fleet : SenderFleet heap) : Prepares fleet fleet :=
  ⟨id, fun _ => rfl, fun _ member => member, id⟩

theorem trans {before middle after : SenderFleet heap} (first : Prepares before middle)
    (second : Prepares middle after) : Prepares before after where
  idle idle := second.idle (first.idle idle)
  start idle := (second.start (first.idle idle)).trans (first.start idle)
  released sender member := second.released sender (first.released sender member)
  quiet quiet := second.quiet (first.quiet quiet)

theorem addQueue (fleet : SenderFleet heap) (priority : Priority) :
    Prepares fleet (fleet.addQueue priority) where
  idle idle := (createQueue_running fleet.manager priority).trans idle
  start idle := createQueue_start idle priority
  released _ member := member
  quiet quiet := quiet

theorem installSender (fleet : SenderFleet heap) (priority : Priority) :
    Prepares fleet (fleet.installSender priority) where
  idle idle := idle
  start _ := rfl
  released _ member := List.mem_append_left _ member
  quiet quiet := by
    obtain ⟨stopped, others⟩ := quiet_iff.mp quiet
    apply quiet_iff.mpr
    constructor
    · intro other
      unfold isRunning SenderFleet.installSender setSender
      by_cases same : other = priority
      · rw [same]
        simp
      · simp only [Function.update_of_ne same]
        exact stopped other
    · intro sender member
      rcases List.mem_append.mp member with before | replaced
      · exact others sender before
      · -- the sender that was replaced was in the map
        have there := Option.mem_toList.mp (List.mem_filter.mp replaced).1
        have none := stopped priority
        unfold isRunning at none
        rw [there] at none
        exact none

theorem foldl {step : SenderFleet heap → Priority → SenderFleet heap}
    (each : ∀ fleet priority, Prepares fleet (step fleet priority)) (list : List Priority)
    (fleet : SenderFleet heap) : Prepares fleet (list.foldl step fleet) := by
  induction list generalizing fleet with
  | nil => exact refl fleet
  | cons priority rest ih => exact (each fleet priority).trans (ih _)

end Prepares

/-- The new connection. -/
def connected (fleet : SenderFleet heap) : SenderFleet heap :=
  { fleet with tcpConnection := some .new }

theorem Prepares.connected (fleet : SenderFleet heap) : Prepares fleet fleet.connected :=
  ⟨id, fun _ => rfl, fun _ member => member, id⟩

/-- The manager before the threads are started. -/
def prepared (visits : Visits) (fleet : SenderFleet heap) : SenderFleet heap :=
  visits.creating.foldl installSender (priorities.foldl addQueue fleet.connected)

theorem Prepares.prepared (visits : Visits) (fleet : SenderFleet heap) :
    Prepares fleet (fleet.prepared visits) :=
  (Prepares.connected fleet).trans
    ((foldl addQueue priorities _).trans (foldl installSender visits.creating _))

theorem prepared_asyncSenders (visits : Visits) (fleet : SenderFleet heap) (priority : Priority) :
    (fleet.prepared visits).asyncSenders priority = some {} := by
  have installed : ∀ (list : List Priority) (fleet : SenderFleet heap),
      (list.foldl installSender fleet).asyncSenders priority =
        if priority ∈ list then some {} else fleet.asyncSenders priority := by
    intro list fleet
    induction list generalizing fleet with
    | nil => rfl
    | cons other rest ih =>
      rw [List.foldl_cons, ih]
      by_cases later : priority ∈ rest
      · rw [if_pos later, if_pos (List.mem_cons_of_mem _ later)]
      · rw [if_neg later]
        by_cases same : priority = other
        · rw [if_pos (by rw [same]; exact List.mem_cons_self), same]
          exact Function.update_self ..
        · have absent : priority ∉ other :: rest := by
            rw [List.mem_cons, not_or]
            exact ⟨same, later⟩
          rw [if_neg absent]
          exact Function.update_of_ne same ..
  rw [SenderFleet.prepared, installed, if_pos (visits.createsAll.mem_iff.mpr (mem_priorities _))]

/-! ## Where a start ends -/

section Ends

variable {fleet : SenderFleet heap} {visits : Visits} {failure : Option StartPoint}
  {left : SenderFleet heap}

theorem createTcpConnection_returns (other : failure ≠ some .connection) :
    fleet.createTcpConnection failure = .ok fleet.connected := if_neg other

theorem startSteps_connected (other : failure ≠ some .connection) :
    fleet.startSteps visits failure =
      (fleet.connected.createQueuesAndSenders visits failure >>=
        startAsyncSenders visits failure) := by
  unfold startSteps
  rw [createTcpConnection_returns other]
  rfl

theorem createQueues_returns (others : ∀ priority, failure ≠ some (.queue priority)) :
    fleet.createQueuesAndSenders visits failure =
      visits.creating.foldlM (createSender failure) (priorities.foldl addQueue fleet) := by
  unfold createQueuesAndSenders
  have created : priorities.foldlM (createQueue failure) fleet =
      .ok (priorities.foldl addQueue fleet) :=
    foldlM_returns priorities fleet fun _ priority _ => createQueue_returns (others priority)
  rw [created]
  rfl

/-- Without an exception before the threads, the manager is prepared for them. -/
theorem startSteps_prepared (connection : failure ≠ some .connection)
    (queues : ∀ priority, failure ≠ some (.queue priority))
    (senders : ∀ priority, failure ≠ some (.sender priority)) :
    fleet.startSteps visits failure =
      visits.starting.foldlM (startSender failure) (fleet.prepared visits) := by
  have installed : visits.creating.foldlM (createSender failure)
      (priorities.foldl addQueue fleet.connected) = .ok (fleet.prepared visits) :=
    foldlM_returns visits.creating _ fun _ priority _ => createSender_returns (senders priority)
  rw [startSteps_connected connection, createQueues_returns queues, installed]
  rfl

theorem start_of_throws (idle : fleet.manager.running = false)
    (thrown : fleet.startSteps visits failure = .error left)
    (stays : left.manager.running = false) : fleet.start visits failure = .error left := by
  unfold start
  rw [if_neg (ne_true_of_eq_false idle), thrown]
  change Except.error left.stop = _
  rw [stop, if_neg (ne_true_of_eq_false stays)]

theorem start_of_returns (idle : fleet.manager.running = false)
    (returned : fleet.startSteps visits failure = .ok left) :
    fleet.start visits failure =
      .ok { left with manager := { left.manager with running := true } } := by
  unfold start
  rw [if_neg (ne_true_of_eq_false idle), returned]

theorem start_connection_throws (visits : Visits) (idle : fleet.manager.running = false) :
    fleet.start visits (some .connection) = .error fleet :=
  start_of_throws idle rfl idle

theorem queue_throws (fleet : SenderFleet heap) (visits : Visits) (priority : Priority) :
    fleet.startSteps visits (some (.queue priority)) =
      .error ((priorities.takeWhile (· ≠ priority)).foldl addQueue fleet.connected) := by
  rw [startSteps_connected (by rintro ⟨⟩), createQueuesAndSenders,
    foldlM_throws addQueue (mem_priorities priority)
      (fun _ _ other => createQueue_returns (by rintro ⟨⟩; exact other rfl)) (if_pos rfl)]
  rfl

theorem sender_throws (fleet : SenderFleet heap) (visits : Visits) (priority : Priority) :
    fleet.startSteps visits (some (.sender priority)) =
      .error ((visits.creating.takeWhile (· ≠ priority)).foldl installSender
        (priorities.foldl addQueue fleet.connected)) := by
  rw [startSteps_connected (by rintro ⟨⟩), createQueues_returns (by rintro _ ⟨⟩),
    foldlM_throws installSender (visits.createsAll.mem_iff.mpr (mem_priorities priority))
      (fun _ _ other => createSender_returns (by rintro ⟨⟩; exact other rfl)) (if_pos rfl)]
  rfl

/-- An exception before the threads leaves what was prepared so far. -/
theorem start_creation_throws (visits : Visits) (idle : fleet.manager.running = false)
    {point : StartPoint} (early : point.isThread = false) :
    ∃ after, fleet.start visits (some point) = .error after ∧ Prepares fleet after := by
  cases point with
  | connection => exact ⟨fleet, start_connection_throws visits idle, .refl fleet⟩
  | queue priority =>
    have prepares := (Prepares.connected fleet).trans
      (.foldl .addQueue (priorities.takeWhile (· ≠ priority)) _)
    exact ⟨_, start_of_throws idle (queue_throws ..) (prepares.idle idle), prepares⟩
  | sender priority =>
    have prepares := (Prepares.connected fleet).trans ((Prepares.foldl .addQueue priorities _).trans
      (.foldl .installSender (visits.creating.takeWhile (· ≠ priority)) _))
    exact ⟨_, start_of_throws idle (sender_throws ..) (prepares.idle idle), prepares⟩
  | thread priority => cases early

/-! ## The threads -/

/-- There is a sender for every priority. -/
def Staffed (fleet : SenderFleet heap) : Prop :=
  ∀ priority, ∃ sender, fleet.asyncSenders priority = some sender

/-- What starting a sender does to a manager with a sender for every priority. -/
structure Launches (before after : SenderFleet heap) (priorities : List Priority) : Prop where
  manager : after.manager = before.manager
  staffed : after.Staffed
  isRunning : ∀ priority,
    after.isRunning priority = (decide (priority ∈ priorities) || before.isRunning priority)
  others : ∀ priority ∉ priorities, after.asyncSenders priority = before.asyncSenders priority

theorem launches_setSender (staffed : fleet.Staffed) (priority : Priority) {sender : SenderLife}
    (running : sender.running = true) :
    Launches fleet (fleet.setSender priority sender) [priority] where
  manager := rfl
  staffed other := by
    by_cases same : other = priority
    · exact ⟨sender, by rw [same]; exact Function.update_self ..⟩
    · obtain ⟨there, found⟩ := staffed other
      exact ⟨there, (Function.update_of_ne same ..).trans found⟩
  isRunning other := by
    unfold isRunning setSender
    by_cases same : other = priority
    · rw [same]
      simp [running]
    · simp [same]
  others other absent := by
    rw [List.mem_singleton] at absent
    exact Function.update_of_ne absent ..

theorem launches_launch (staffed : fleet.Staffed) (priority : Priority) :
    Launches fleet (fleet.launch priority) [priority] := by
  obtain ⟨sender, there⟩ := staffed priority
  unfold launch
  rw [there]
  apply launches_setSender staffed
  cases running : sender.running with
  | true => simp [running]
  | false => simp

theorem launches_foldl (staffed : fleet.Staffed) (list : List Priority) :
    Launches fleet (list.foldl launch fleet) list := by
  induction list generalizing fleet with
  | nil => exact ⟨rfl, staffed, fun _ => rfl, fun _ _ => rfl⟩
  | cons first rest ih =>
    have one := launches_launch staffed first
    have more := ih one.staffed
    refine ⟨more.manager.trans one.manager, more.staffed, ?_, ?_⟩
    · intro priority
      rw [List.foldl_cons, more.isRunning, one.isRunning, ← Bool.or_assoc]
      congr 1
      simp [Bool.or_comm]
    · intro priority absent
      rw [List.mem_cons, not_or] at absent
      rw [List.foldl_cons, more.others priority absent.2,
        one.others priority (by rw [List.mem_singleton]; exact absent.1)]

theorem prepared_staffed (visits : Visits) (fleet : SenderFleet heap) :
    (fleet.prepared visits).Staffed :=
  fun priority => ⟨{}, prepared_asyncSenders visits fleet priority⟩

theorem prepared_isRunning (visits : Visits) (fleet : SenderFleet heap) (priority : Priority) :
    (fleet.prepared visits).isRunning priority = false := by
  unfold isRunning
  rw [prepared_asyncSenders]
  rfl

theorem prepared_manager (visits : Visits) (fleet : SenderFleet heap) :
    (fleet.prepared visits).manager = fleet.manager.createQueuesAndSenders := by
  have installed : ∀ (list : List Priority) (fleet : SenderFleet heap),
      (list.foldl installSender fleet).manager = fleet.manager := by
    intro list fleet
    induction list generalizing fleet with
    | nil => rfl
    | cons priority rest ih => exact ih _
  unfold prepared
  rw [installed]
  change (((fleet.manager.createQueue .critical).createQueue .high).createQueue
    .medium).createQueue .low = _
  unfold AsyncSenderManager.createQueue AsyncSenderManager.createQueuesAndSenders
  cases fleet.manager.queueType with
  | mutexBased =>
    simp only
    congr 1
    funext priority
    cases priority <;> rfl
  | lockFree =>
    simp only
    congr 1
    funext priority
    cases priority <;> rfl

/-- A start without an exception starts all senders, and the manager is the one that
`AsyncSenderManager.start` gives. -/
theorem start_returns (visits : Visits) (idle : fleet.manager.running = false) :
    ∃ after, fleet.start visits none = .ok after ∧ after.manager = fleet.manager.start ∧
      ∀ priority, after.isRunning priority = true := by
  have launches := launches_foldl (prepared_staffed visits fleet) visits.starting
  have steps : fleet.startSteps visits none =
      .ok (visits.starting.foldl launch (fleet.prepared visits)) := by
    rw [startSteps_prepared (by rintro ⟨⟩) (by rintro _ ⟨⟩) (by rintro _ ⟨⟩)]
    exact foldlM_returns visits.starting _ fun _ _ _ => startSender_returns (by rintro ⟨⟩)
  refine ⟨_, start_of_returns idle steps, ?_, ?_⟩
  · change { (visits.starting.foldl launch (fleet.prepared visits)).manager with
      running := true } = _
    rw [launches.manager, prepared_manager, AsyncSenderManager.start,
      if_neg (ne_true_of_eq_false idle)]
  · intro priority
    have started : priority ∈ visits.starting :=
      visits.startsAll.mem_iff.mpr (mem_priorities priority)
    exact (launches.isRunning priority).trans (by rw [decide_eq_true started]; rfl)

/-- When a thread cannot be created, its sender and those started before it are left running. -/
theorem start_thread_throws (visits : Visits) (idle : fleet.manager.running = false)
    (priority : Priority) :
    ∃ after, fleet.start visits (some (.thread priority)) = .error after ∧
      after.manager.running = false ∧
      ∀ other, after.isRunning other = (decide (other ∈ [priority]) ||
        decide (other ∈ visits.starting.takeWhile (· ≠ priority))) := by
  have launches := launches_foldl (prepared_staffed visits fleet)
    (visits.starting.takeWhile (· ≠ priority))
  have fresh : priority ∉ visits.starting.takeWhile (· ≠ priority) := by
    intro member
    simpa using List.mem_takeWhile_imp member
  have there := (launches.others priority fresh).trans (prepared_asyncSenders visits fleet priority)
  have marks := launches_setSender launches.staffed priority
    (show ({ running := true } : SenderLife).running = true from rfl)
  have stays := (Prepares.prepared visits fleet).idle idle
  rw [← launches.manager, ← marks.manager] at stays
  have steps : fleet.startSteps visits (some (.thread priority)) = _ :=
    startSteps_prepared (by rintro ⟨⟩) (by rintro _ ⟨⟩) (by rintro _ ⟨⟩)
  rw [foldlM_throws launch (visits.startsAll.mem_iff.mpr (mem_priorities priority))
    (fun _ _ other => startSender_returns (by rintro ⟨⟩; exact other rfl))
    (startSender_throws there)] at steps
  refine ⟨_, start_of_throws idle steps stays, stays, ?_⟩
  intro other
  rw [marks.isRunning, launches.isRunning, prepared_isRunning, Bool.or_false]

/-- Managers without a running sender behave the same when they are started. -/
theorem behaviour_congr {first second : SenderFleet heap} (idle : first.manager.running = false)
    (also : second.manager.running = false) (quiet : first.Quiet) (calm : second.Quiet)
    (same : first.manager.start = second.manager.start) (visits : Visits)
    (failure : Option StartPoint) :
    behaviour (first.start visits failure) = behaviour (second.start visits failure) := by
  cases failure with
  | none =>
    obtain ⟨one, returned, manager, running⟩ := start_returns visits idle
    obtain ⟨two, back, other, active⟩ := start_returns visits also
    rw [returned, back, behaviour, behaviour, manager, other, same, funext running, funext active]
  | some point =>
    obtain early | ⟨priority, rfl⟩ := point.early_or_thread
    · obtain ⟨one, thrown, prepares⟩ := start_creation_throws visits idle early
      obtain ⟨two, left, also⟩ := start_creation_throws visits also early
      rw [thrown, left, behaviour, behaviour, funext (quiet_iff.mp (prepares.quiet quiet)).1,
        funext (quiet_iff.mp (also.quiet calm)).1]
    · obtain ⟨one, thrown, -, running⟩ := start_thread_throws visits idle priority
      obtain ⟨two, left, -, active⟩ := start_thread_throws visits also priority
      rw [thrown, left, behaviour, behaviour, funext running, funext active]

end Ends

/-- The manager is not running and no sender is, and every start behaves as it did before. -/
structure Recovered (before after : SenderFleet heap) : Prop where
  stopped : after.manager.running = false
  quiet : after.Quiet
  again : ∀ visits failure,
    behaviour (after.start visits failure) = behaviour (before.start visits failure)

/-- A start that throws leaves the manager as if it had not been called, exactly if the exception
comes before the first thread and no sender was running already. -/
theorem failed_start_recovered_iff (fleet : SenderFleet heap)
    (idle : fleet.manager.running = false) (visits : Visits) (point : StartPoint) :
    ∃ after, fleet.start visits (some point) = .error after ∧
      (Recovered fleet after ↔ point.isThread = false ∧ fleet.Quiet) := by
  obtain early | ⟨priority, rfl⟩ := point.early_or_thread
  · obtain ⟨after, thrown, prepares⟩ := start_creation_throws visits idle early
    refine ⟨after, thrown, ?_⟩
    constructor
    · intro recovered
      refine ⟨early, quiet_iff.mpr ⟨?_, ?_⟩⟩
      · -- a start that throws at once shows which senders are running
        have again := recovered.again visits (some .connection)
        rw [start_connection_throws visits recovered.stopped, start_connection_throws visits idle]
          at again
        intro priority
        have shown : after.isRunning = fleet.isRunning := congrArg Prod.snd again
        rw [← shown]
        exact (quiet_iff.mp recovered.quiet).1 priority
      · intro sender member
        exact (quiet_iff.mp recovered.quiet).2 sender (prepares.released sender member)
    · rintro ⟨-, quiet⟩
      refine ⟨prepares.idle idle, prepares.quiet quiet, ?_⟩
      intro visits failure
      exact behaviour_congr (prepares.idle idle) idle (prepares.quiet quiet) quiet
        (prepares.start idle) visits failure
  · obtain ⟨after, thrown, -, running⟩ := start_thread_throws visits idle priority
    refine ⟨after, thrown, iff_of_false ?_ ?_⟩
    · intro recovered
      have none := (quiet_iff.mp recovered.quiet).1 priority
      rw [running priority, decide_eq_true (List.mem_singleton_self priority)] at none
      cases none
    · rintro ⟨⟨⟩, -⟩

/-- A manager over lists as queues, as the constructor makes it. -/
def sampleFleet :
    SenderFleet (MaxContainer.ofKey fun message : Message => message.priority.value) where
  manager := {}

/-- The loops visit the priorities from the most to the least urgent one. -/
def sampleVisits : Visits where
  creating := priorities
  starting := priorities
  createsAll := .refl _
  startsAll := .refl _

/-- A queue cannot be created. -/
theorem failed_start_recovered_iff_queue :
    ∃ after, sampleFleet.start sampleVisits (some (.queue .high)) = .error after ∧
      Recovered sampleFleet after := by
  obtain ⟨after, thrown, recovered⟩ :=
    failed_start_recovered_iff sampleFleet rfl sampleVisits (.queue .high)
  refine ⟨after, thrown, recovered.mpr ⟨rfl, ?_⟩⟩
  intro sender member
  cases member

/-- The second thread cannot be created: the first sender is left running with its thread, and the
second one is marked as running. -/
theorem failed_start_leaves_senders_running :
    ∃ after, sampleFleet.start sampleVisits (some (.thread .high)) = .error after ∧
      after.manager.running = false ∧
      after.asyncSenders .critical = some { running := true, joinable := true } ∧
      after.asyncSenders .high = some { running := true } ∧
      ¬ Recovered sampleFleet after := by
  refine ⟨_, rfl, rfl, rfl, rfl, ?_⟩
  intro recovered
  cases (quiet_iff.mp recovered.quiet).1 .high

end SenderFleet

end FixGateway.Manager
