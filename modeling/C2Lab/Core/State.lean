import Mathlib.Data.Rat.Defs
import C2Lab.Lib.Dict
import C2Lab.Lib.Prog
import C2Lab.Lib.Window
import C2Lab.Protocol

/-! The records of `core.py` and the state of the Teamserver.

    `Records` is what the operations read; `Journal` holds the two bounded histories with their
    counters. Three fields of the journal are ghosts, read by no operation: `eventLog` and
    `auditLog` are everything ever appended, so that a statement can speak of entries already
    evicted, and `refusedAppends` counts the timeline entries a full timeline refused. Monotonic
    instants are exact rationals; a wall-clock timestamp is its millisecond count, which orders like
    its ISO text. -/

namespace C2Lab

/-- A reading of `time.monotonic()`, in seconds. -/
abbrev Instant := ℚ

/-- A value of `utc_now()`, in milliseconds. -/
abbrev Timestamp := ℕ

def maxNodes : ℕ := 20
def maxTasks : ℕ := 500
def maxQueuedTasksPerNode : ℕ := 50
def maxQueuedPlaybooksPerNode : ℕ := 3
def maxOperationSteps : ℕ := 3
def maxOperationIdempotencyRecords : ℕ := maxTasks
def maxEvents : ℕ := 500
def maxAuditEntries : ℕ := 500
def maxOperatorNotesRetained : ℕ := 100
def maxOperatorNoteLength : ℕ := 240
def maxSyncCursor : ℤ := 9223372036854775807
def maxSyncPageSize : ℤ := 100
def taskTimeoutSeconds : ℚ := 8
def nodeStaleSeconds : ℚ := 8
def staleSessionTtlSeconds : ℚ := 60
def heartbeatEventSeconds : ℚ := 5
def defaultQueueTtlSeconds : ℤ := 300
def minQueueTtlSeconds : ℤ := 5
def maxQueueTtlSeconds : ℤ := 86400
def minIdempotencyKeyLength : ℕ := 8
def maxIdempotencyKeyLength : ℕ := 128
def maxOperatorActorLength : ℕ := 48
def maxTaskResultTombstones : ℕ := maxTasks

/-- The status of a task. -/
inductive TaskStatus where
  | queued
  | dispatched
  | completed
  | failed
  | timeout
  | cancelled
  | expired
  deriving DecidableEq, Repr

instance : Vocabulary TaskStatus where
  all := [.queued, .dispatched, .completed, .failed, .timeout, .cancelled, .expired]
  name
    | .queued => "queued"
    | .dispatched => "dispatched"
    | .completed => "completed"
    | .failed => "failed"
    | .timeout => "timeout"
    | .cancelled => "cancelled"
    | .expired => "expired"
  mem_all a := by cases a <;> simp
  name_inj a b h := by cases a <;> cases b <;> simp_all

/-- Membership of `TERMINAL_TASK_STATUSES`. -/
def TaskStatus.isTerminal : TaskStatus → Bool
  | .queued | .dispatched => false
  | _ => true

/-- A reported status as a task status. -/
def ResultStatus.taskStatus : ResultStatus → TaskStatus
  | .completed => .completed
  | .failed => .failed

/-- The status of a node record. -/
inductive NodeStatus where
  | online
  | offline
  deriving DecidableEq, Repr

/-- The status of an exercise. -/
inductive ExerciseStatus where
  | running
  | completed
  | failed
  | contained
  deriving DecidableEq, Repr

/-- `NodeStatus` and `ExerciseStatus` as the source spells them. -/
def NodeStatus.name : NodeStatus → String
  | .online => "online"
  | .offline => "offline"

@[inherit_doc NodeStatus.name]
def ExerciseStatus.name : ExerciseStatus → String
  | .running => "running"
  | .completed => "completed"
  | .failed => "failed"
  | .contained => "contained"

/-- The kind of an event or the action of an audit entry; `task s` is `f"task.{s}"`. -/
inductive Kind where
  | nodeEnrolled
  | nodePruned
  | nodeOnline
  | nodeHeartbeat
  | nodeStale
  | nodeSessionExpired
  | nodeDisconnected
  | nodeGeneratedEvent
  | nodeTaskingPaused
  | task (s : TaskStatus)
  | taskRedelivered
  | taskResultRejected
  | taskPruned
  | operationQueued
  | exerciseStarted
  | exerciseDetected
  | exercise (s : ExerciseStatus)
  | operatorNote
  | labReset
  deriving DecidableEq, Repr

/-- A record of `_tasks`; `operation` is the pair `operation_id`, `operation_step`. -/
structure Task where
  id : PyStr
  correlationId : PyStr
  nodeId : PyStr
  command : Command
  createdBy : PyStr
  status : TaskStatus
  result : Option Json
  createdAt : Timestamp
  queueTtlSeconds : ℤ
  dispatchedAt : Option Timestamp
  completedAt : Option Timestamp
  deliveryAttempts : ℕ
  operation : Option (PyStr × ℕ)
  sequence : ℕ
  deadline : Option Instant
  queueDeadline : Option Instant
  idempotencyKey : Option PyStr
  exerciseId : Option PyStr
  resultAccepted : Bool

/-- `_public_task`: the fields without a leading underscore. -/
structure PublicTask where
  id : PyStr
  correlationId : PyStr
  nodeId : PyStr
  command : Command
  createdBy : PyStr
  status : TaskStatus
  result : Option Json
  createdAt : Timestamp
  queueTtlSeconds : ℤ
  dispatchedAt : Option Timestamp
  completedAt : Option Timestamp
  deliveryAttempts : ℕ
  operation : Option (PyStr × ℕ)

/-- `_node_task`: the public fields without the operator's attribution. Also an ACK tombstone. -/
structure NodeTask where
  id : PyStr
  correlationId : PyStr
  nodeId : PyStr
  command : Command
  status : TaskStatus
  result : Option Json
  createdAt : Timestamp
  queueTtlSeconds : ℤ
  dispatchedAt : Option Timestamp
  completedAt : Option Timestamp
  deliveryAttempts : ℕ

/-- `_public_task`. -/
def Task.publicTask (t : Task) : PublicTask :=
  { id := t.id, correlationId := t.correlationId, nodeId := t.nodeId, command := t.command
    createdBy := t.createdBy, status := t.status, result := t.result, createdAt := t.createdAt
    queueTtlSeconds := t.queueTtlSeconds, dispatchedAt := t.dispatchedAt
    completedAt := t.completedAt, deliveryAttempts := t.deliveryAttempts
    operation := t.operation }

/-- `_node_task`. -/
def Task.nodeTask (t : Task) : NodeTask :=
  { id := t.id, correlationId := t.correlationId, nodeId := t.nodeId, command := t.command
    status := t.status, result := t.result, createdAt := t.createdAt
    queueTtlSeconds := t.queueTtlSeconds, dispatchedAt := t.dispatchedAt
    completedAt := t.completedAt, deliveryAttempts := t.deliveryAttempts }

/-- A record of `_nodes`. -/
structure Node where
  id : PyStr
  name : PyStr
  status : NodeStatus
  sessionActive : Bool
  version : PyStr
  profile : Profile
  capabilities : List TaskType
  pollIntervalMs : ℤ
  jitterPercent : ℤ
  createdAt : Timestamp
  lastSeen : Timestamp
  tasksCompleted : ℕ
  tasksFailed : ℕ
  taskingPaused : Bool
  taskingPausedAt : Option Timestamp
  taskingPausedBy : Option PyStr
  sessionToken : PyStr
  lastSeenMonotonic : Instant
  lastHeartbeatEvent : Instant

/-- `_public_node`: the fields without a leading underscore. -/
structure PublicNode where
  id : PyStr
  name : PyStr
  status : NodeStatus
  sessionActive : Bool
  version : PyStr
  profile : Profile
  capabilities : List TaskType
  pollIntervalMs : ℤ
  jitterPercent : ℤ
  createdAt : Timestamp
  lastSeen : Timestamp
  tasksCompleted : ℕ
  tasksFailed : ℕ
  taskingPaused : Bool
  taskingPausedAt : Option Timestamp
  taskingPausedBy : Option PyStr

/-- `_public_node`. -/
def Node.publicNode (n : Node) : PublicNode :=
  { id := n.id, name := n.name, status := n.status, sessionActive := n.sessionActive
    version := n.version, profile := n.profile, capabilities := n.capabilities
    pollIntervalMs := n.pollIntervalMs, jitterPercent := n.jitterPercent
    createdAt := n.createdAt, lastSeen := n.lastSeen, tasksCompleted := n.tasksCompleted
    tasksFailed := n.tasksFailed, taskingPaused := n.taskingPaused
    taskingPausedAt := n.taskingPausedAt, taskingPausedBy := n.taskingPausedBy }

/-- An alert of an exercise; `open` until the exercise is contained. -/
structure Alert where
  id : PyStr
  rule : DetectionRule
  isOpen : Bool
  detectedAt : Timestamp
  containedAt : Option Timestamp
  taskId : PyStr

/-- The phase of a timeline entry. -/
inductive Phase where
  | prepare
  | simulate
  | detect
  | complete
  | contain
  deriving DecidableEq, Repr

/-- The kind of a timeline entry. -/
inductive TimelineKind where
  | exerciseStarted
  | task (s : TaskStatus)
  | techniqueObserved
  | detectionMatched
  | exercise (s : ExerciseStatus)
  | containmentApplied
  deriving DecidableEq, Repr

/-- A timeline entry before it is numbered and stamped. -/
structure TimelineItem where
  phase : Phase
  kind : TimelineKind
  summary : String
  taskId : Option PyStr := none
  ruleId : Option String := none
  techniqueId : Option String := none
  action : Option ContainmentAction := none
  deriving DecidableEq

/-- A timeline entry. -/
structure TimelineEntry where
  sequence : ℕ
  time : Timestamp
  item : TimelineItem

/-- `exercise["containment"]` once applied. -/
structure Containment where
  action : ContainmentAction
  actor : PyStr
  time : Timestamp
  deriving DecidableEq

/-- A record of `_exercises`. -/
structure Exercise where
  id : PyStr
  scenarioId : ScenarioId
  status : ExerciseStatus
  detected : Bool
  nodeId : PyStr
  createdBy : PyStr
  createdAt : Timestamp
  completedAt : Option Timestamp
  taskIds : List PyStr
  alerts : List Alert
  timeline : List TimelineEntry
  containment : Option Containment
  timelineSequence : ℕ
  observedTaskIds : List PyStr
  completionRecorded : Bool

/-- `_public_exercise`. -/
structure PublicExercise where
  id : PyStr
  scenarioId : ScenarioId
  status : ExerciseStatus
  detected : Bool
  nodeId : PyStr
  createdBy : PyStr
  createdAt : Timestamp
  completedAt : Option Timestamp
  taskIds : List PyStr
  alerts : List Alert
  timeline : List TimelineEntry
  containment : Option Containment

/-- `_public_exercise`. -/
def Exercise.publicExercise (e : Exercise) : PublicExercise :=
  { id := e.id, scenarioId := e.scenarioId, status := e.status, detected := e.detected
    nodeId := e.nodeId, createdBy := e.createdBy, createdAt := e.createdAt
    completedAt := e.completedAt, taskIds := e.taskIds, alerts := e.alerts
    timeline := e.timeline, containment := e.containment }

/-- The reply to a created operation. -/
structure OperationSummary where
  id : PyStr
  nodeId : PyStr
  createdBy : PyStr
  steps : List Playbook
  tasks : List PublicTask

/-- A record of `_operation_idempotency`. -/
structure OperationRecord where
  actor : PyStr
  nodeId : PyStr
  playbooks : List Playbook
  queueTtlSeconds : ℤ
  taskIds : List PyStr
  summary : OperationSummary

/-- An entry of `_events`. -/
structure Event where
  id : PyStr
  sequence : ℕ
  time : Timestamp
  kind : Kind
  level : Level
  nodeId : Option PyStr
  taskId : Option PyStr
  correlationId : Option PyStr
  actor : PyStr
  data : List (String × Json)

/-- An entry of `_audit_entries`; its `id` is its zero-padded sequence number. -/
structure AuditEntry where
  sequence : ℕ
  time : Timestamp
  actor : PyStr
  action : Kind
  nodeId : Option PyStr
  taskId : Option PyStr
  correlationId : Option PyStr
  taskType : Option TaskType
  fromState : Option String
  toState : Option String
  outcome : String
  reason : Option String

/-- The records of the Teamserver. -/
structure Records where
  nodes : Dict PyStr Node
  tasks : Dict PyStr Task
  taskResultTombstones : Dict PyStr NodeTask
  noteIdempotency : Dict PyStr (PyStr × PyStr × PyStr)
  exercises : Dict PyStr Exercise
  exerciseIdempotency : Dict PyStr (PyStr × PyStr × ScenarioId × PyStr)
  operationIdempotency : Dict PyStr OperationRecord
  taskSequence : ℕ
  streamId : String

/-- The two histories, and how many values were drawn from the clock and the random sources. -/
structure Journal where
  events : List Event
  auditEntries : List AuditEntry
  eventSequence : ℕ
  auditSequence : ℕ
  draws : ℕ
  eventLog : List Event
  auditLog : List AuditEntry
  refusedAppends : ℕ

/-- `LabState`. -/
structure LabState extends Records, Journal

/-- A program over the state: it may raise, and keeps what it wrote before raising. -/
abbrev Lab := EStateM Exc LabState

/-- `LabState()`. -/
def LabState.init (streamId : String) : LabState :=
  { nodes := .empty, tasks := .empty, taskResultTombstones := .empty, noteIdempotency := .empty
    exercises := .empty, exerciseIdempotency := .empty, operationIdempotency := .empty
    taskSequence := 0, streamId := streamId, events := [], auditEntries := []
    eventSequence := 0, auditSequence := 0, draws := 0, eventLog := [], auditLog := []
    refusedAppends := 0 }

/-- The process around the state: the interpreter, and the values that `uuid.uuid4().hex`,
    `secrets.token_urlsafe(32)` and `utc_now()` return at each draw. -/
structure World extends Interp where
  uuid : ℕ → List Char
  token : ℕ → String
  utcNow : ℕ → Timestamp
  uuid_hex : ∀ n, (uuid n).length = 32 ∧ ∀ c ∈ uuid n, c ∈ "0123456789abcdef".toList
  token_length : ∀ n, 16 ≤ (token n).length

namespace World

/-- An identifier made of a prefix and the first `k` hex digits of draw `n`. -/
def ident (w : World) (pre : String) (k n : ℕ) : PyStr :=
  .text (String.ofList (pre.toList ++ (w.uuid n).take k))

def nodeId (w : World) (n : ℕ) : PyStr := w.ident "node-" 10 n
def taskId (w : World) (n : ℕ) : PyStr := w.ident "task-" 12 n
def correlationId (w : World) (n : ℕ) : PyStr := w.ident "corr-" 12 n
def eventId (w : World) (n : ℕ) : PyStr := w.ident "event-" 12 n
def exerciseId (w : World) (n : ℕ) : PyStr := w.ident "exercise-" 12 n
def operationId (w : World) (n : ℕ) : PyStr := w.ident "operation-" 12 n
def alertId (w : World) (n : ℕ) : PyStr := w.ident "alert-" 12 n

/-- The first `n` draws are fresh: no two identifiers or tokens made from them agree. -/
def FreshBelow (w : World) (n : ℕ) : Prop :=
  ∀ i < n, ∀ j < n, ((w.uuid i).take 10 = (w.uuid j).take 10 → i = j) ∧
    (w.token i = w.token j → i = j)

theorem FreshBelow.mono {w : World} {m n : ℕ} (h : w.FreshBelow n) (hmn : m ≤ n) :
    w.FreshBelow m := fun i hi j hj => h i (by omega) j (by omega)

/-- Identifiers of one kind from different fresh draws are different. -/
theorem FreshBelow.ident_inj {w : World} {n i j k : ℕ} {pre : String} (h : w.FreshBelow n)
    (hk : 10 ≤ k) (hi : i < n) (hj : j < n) (he : w.ident pre k i = w.ident pre k j) : i = j := by
  have hl : pre.toList ++ (w.uuid i).take k = pre.toList ++ (w.uuid j).take k := by
    have := PyStr.text.inj he
    simpa using congrArg String.toList this
  have ht : (w.uuid i).take k = (w.uuid j).take k := List.append_cancel_left hl
  refine (h i hi j hj).1 ?_
  have := congrArg (List.take 10) ht
  simpa [List.take_take, Nat.min_eq_left hk] using this

end World

end C2Lab
