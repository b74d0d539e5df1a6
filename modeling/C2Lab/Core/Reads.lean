import C2Lab.Core.Run

/-! What a caller gets to see: the reply of every operation, and the reads of the Teamserver.

    A read takes the lock, returns a projection of the records and changes nothing; the two that
    stamp their answer with `utc_now()` take that reading as an argument. -/

namespace C2Lab

/-! ### Replies -/

/-- What an operation returns. -/
inductive Reply where
  | enrolled (r : EnrollResponse)
  | polled (r : PollResponse)
  | accepted (r : NodeTask)
  | node (n : PublicNode)
  | task (t : PublicTask)
  | operation (x : OperationSummary)
  | exercise (e : PublicExercise)
  | note (e : Event)
  | done

/-- The program of an operation with its reply. -/
def Op.call (w : World) : Op → Lab Reply
  | enrollNode name version profile capabilities interval jitter now =>
    .enrolled <$> C2Lab.enrollNode w name version profile capabilities interval jitter now
  | pollNode nodeId token now => .polled <$> C2Lab.pollNode w nodeId token now
  | submitResult nodeId token taskId status result now =>
    .accepted <$> C2Lab.submitResult w nodeId token taskId status result.1 now
  | disconnectNode nodeId token => .node <$> C2Lab.disconnectNode w nodeId token
  | queueTask nodeId taskType payload ttl key actor now =>
    .task <$> C2Lab.queueTask w nodeId taskType payload ttl key actor now
  | queueOperation nodeId steps ttl key actor now =>
    .operation <$> C2Lab.queueOperation w nodeId steps ttl key actor now
  | cancelTask taskId actor => .task <$> C2Lab.cancelTask w taskId actor
  | startExercise nodeId scenarioId actor key now =>
    .exercise <$> C2Lab.startExercise w nodeId scenarioId actor key now
  | containExercise exerciseId action actor =>
    .exercise <$> C2Lab.containExercise w exerciseId action actor
  | postOperatorNote message actor key => .note <$> C2Lab.postOperatorNote w message actor key
  | expire now => (fun _ => .done) <$> C2Lab.expire w now
  | reset actor => (fun _ => .done) <$> C2Lab.reset w actor

/-- What the caller of an operation gets: the value returned or the exception raised. -/
def answer (w : World) (s : LabState) (op : Op) : Except Exc Reply :=
  match op.call w s with
  | .ok r _ => .ok r
  | .error e _ => .error e

/-- A call leaves the state its operation leaves. -/
theorem step_eq_call (w : World) (s : LabState) (op : Op) :
    step w s op = Prog.final (op.call w) s := by
  cases op <;> simp only [step, Op.run, Op.call, Prog.final_map_eq]

/-! ### The tables -/

namespace LabState

/-- `nodes`, in the order of their timestamps. -/
def publicNodes (s : LabState) : List PublicNode :=
  (s.nodes.values.map Node.publicNode).mergeSort fun a b => a.createdAt ≤ b.createdAt

/-- `tasks`, the latest first. -/
def publicTasks (s : LabState) : List PublicTask :=
  (s.tasks.values.mergeSort fun a b => b.sequence ≤ a.sequence).map Task.publicTask

/-- `exercises`, the latest timestamp first; equal timestamps keep their order. -/
def publicExercises (s : LabState) : List PublicExercise :=
  (s.exercises.values.map Exercise.publicExercise).mergeSort fun a b => b.createdAt ≤ a.createdAt

/-- `events`, the latest first. -/
def eventFeed (s : LabState) : List Event := s.events.reverse

/-- `audit`, the latest first. -/
def auditTrail (s : LabState) : List AuditEntry := s.auditEntries.reverse

end LabState

/-- `scenario_catalog`. -/
def scenarioCatalog : List (ScenarioId × ScenarioDefinition) :=
  (Vocabulary.all : List ScenarioId).map fun id => (id, scenarioDefinition id)

/-- The result of `_counts`. -/
structure Counts where
  nodesOnline : ℕ
  nodesTotal : ℕ
  tasksQueued : ℕ
  tasksActive : ℕ
  tasksCompleted : ℕ
  tasksFailed : ℕ
  tasksTimeout : ℕ
  tasksCancelled : ℕ
  tasksExpired : ℕ
  exercisesTotal : ℕ
  exercisesRunning : ℕ
  exercisesDetected : ℕ
  exercisesContained : ℕ
  alertsOpen : ℕ
  deriving DecidableEq

/-- `_counts`, of what the three tables show. -/
def counts (nodes : List PublicNode) (tasks : List PublicTask) (exercises : List PublicExercise) :
    Counts :=
  let tasksIn (status : TaskStatus) := tasks.countP fun t => t.status = status
  { nodesOnline := nodes.countP fun n => n.status = .online
    nodesTotal := nodes.length
    tasksQueued := tasksIn .queued
    tasksActive := tasksIn .dispatched
    tasksCompleted := tasksIn .completed
    tasksFailed := tasksIn .failed
    tasksTimeout := tasksIn .timeout
    tasksCancelled := tasksIn .cancelled
    tasksExpired := tasksIn .expired
    exercisesTotal := exercises.length
    exercisesRunning := exercises.countP fun e => e.status = .running
    exercisesDetected := exercises.countP fun e => e.detected
    exercisesContained := exercises.countP fun e => e.status = .contained
    alertsOpen := (exercises.map fun e => e.alerts.countP fun a => a.isOpen).sum }

/-- `overview`. -/
structure Overview where
  counts : Counts
  nodes : List PublicNode
  tasks : List PublicTask
  scenarioCatalog : List (ScenarioId × ScenarioDefinition)
  exercises : List PublicExercise
  events : List Event

@[inherit_doc Overview]
def LabState.overview (s : LabState) : Overview :=
  { counts := C2Lab.counts s.publicNodes s.publicTasks s.publicExercises
    nodes := s.publicNodes, tasks := s.publicTasks, scenarioCatalog := C2Lab.scenarioCatalog
    exercises := s.publicExercises, events := s.eventFeed }

/-! ### Synchronisation -/

/-- `_validate_sync_cursor`. -/
def validateSyncCursor (value : Json) (field : String) : Except Exc ℤ :=
  match value with
  | .int n => if 0 ≤ n ∧ n ≤ maxSyncCursor then .ok n else .error rangeError
  | _ => .error rangeError
where
  rangeError : Exc := invalidRequest s!"{field} must be an integer from 0 to {maxSyncCursor}"

/-- `_validate_sync_limit`. -/
def validateSyncLimit (value : Json) : Except Exc ℤ :=
  match value with
  | .int n => if 1 ≤ n ∧ n ≤ maxSyncPageSize then .ok n else .error rangeError
  | _ => .error rangeError
where
  rangeError : Exc := invalidRequest s!"limit must be an integer from 1 to {maxSyncPageSize}"

/-- What `sync` tells of one history. -/
structure HistoryDelta (α : Type) where
  entries : List α
  nextCursor : ℕ
  oldest : ℕ
  reset : Bool
  hasMore : Bool

/-- `history_delta`. -/
def historyDelta {α : Type} (sequence : α → ℕ) (limit : ℤ) (retained : List α) (after : ℤ)
    (latest : ℕ) (resetFloor : Option ℕ) : HistoryDelta α :=
  let earliest : ℕ := match retained with
    | [] => latest + 1
    | first :: _ => sequence first
  let reset : Bool := (latest : ℤ) < after || after < (earliest : ℤ) - 1 ||
    match resetFloor with
    | none => false
    | some floor => after < (floor : ℤ)
  let candidates := if reset then retained else retained.filter fun e => after < (sequence e : ℤ)
  let selected := candidates.take limit.toNat
  { entries := selected
    nextCursor := match selected.getLast? with
      | none => latest
      | some last => sequence last
    oldest := earliest
    reset := reset
    hasMore := selected.length < candidates.length }

/-- The sequence number of the oldest reset among the retained events. -/
def LabState.resetFloor (s : LabState) : Option ℕ :=
  (s.events.find? fun e => e.kind = .labReset).map (·.sequence)

/-- The answer of `sync`. -/
structure SyncPage where
  generatedAt : Timestamp
  streamId : String
  counts : Counts
  nodes : List PublicNode
  tasks : List PublicTask
  scenarioCatalog : List (ScenarioId × ScenarioDefinition)
  exercises : List PublicExercise
  events : HistoryDelta Event
  audit : HistoryDelta AuditEntry
  highWatermarks : ℕ × ℕ

/-- `sync`; `cursors`, `oldest_available`, `cursor_reset` and `has_more` are parts of the deltas. -/
def LabState.sync (generatedAt : Timestamp) (eventsAfter auditAfter limit : Json) (s : LabState) :
    Except Exc SyncPage := do
  let eventsAfter ← validateSyncCursor eventsAfter "events_after"
  let auditAfter ← validateSyncCursor auditAfter "audit_after"
  let limit ← validateSyncLimit limit
  return {
    generatedAt := generatedAt, streamId := s.streamId
    counts := C2Lab.counts s.publicNodes s.publicTasks s.publicExercises
    nodes := s.publicNodes, tasks := s.publicTasks, scenarioCatalog := C2Lab.scenarioCatalog
    exercises := s.publicExercises
    events := historyDelta Event.sequence limit s.events eventsAfter s.eventSequence s.resetFloor
    audit := historyDelta AuditEntry.sequence limit s.auditEntries auditAfter s.auditSequence none
    highWatermarks := (s.eventSequence, s.auditSequence) }

/-! ### The report -/

/-- `safe_nodes`: what a report keeps of a node. -/
structure ReportNode where
  id : PyStr
  name : PyStr
  status : NodeStatus
  sessionActive : Bool
  profile : Profile
  createdAt : Timestamp
  lastSeen : Timestamp
  tasksCompleted : ℕ
  tasksFailed : ℕ
  taskingPaused : Bool
  taskingPausedAt : Option Timestamp
  taskingPausedBy : Option PyStr

@[inherit_doc ReportNode]
def PublicNode.safe (n : PublicNode) : ReportNode :=
  { id := n.id, name := n.name, status := n.status, sessionActive := n.sessionActive
    profile := n.profile, createdAt := n.createdAt, lastSeen := n.lastSeen
    tasksCompleted := n.tasksCompleted, tasksFailed := n.tasksFailed
    taskingPaused := n.taskingPaused, taskingPausedAt := n.taskingPausedAt
    taskingPausedBy := n.taskingPausedBy }

/-- `safe_tasks`: what a report keeps of a task. -/
structure ReportTask where
  id : PyStr
  correlationId : PyStr
  nodeId : PyStr
  taskType : TaskType
  createdBy : PyStr
  status : TaskStatus
  createdAt : Timestamp
  queueTtlSeconds : ℤ
  dispatchedAt : Option Timestamp
  completedAt : Option Timestamp
  deliveryAttempts : ℕ

@[inherit_doc ReportTask]
def PublicTask.safe (t : PublicTask) : ReportTask :=
  { id := t.id, correlationId := t.correlationId, nodeId := t.nodeId
    taskType := t.command.taskType, createdBy := t.createdBy, status := t.status
    createdAt := t.createdAt, queueTtlSeconds := t.queueTtlSeconds
    dispatchedAt := t.dispatchedAt, completedAt := t.completedAt
    deliveryAttempts := t.deliveryAttempts }

/-- The answer of `report`, less the constants of its `retention` table. -/
structure Report where
  generatedAt : Timestamp
  counts : Counts
  eventsRetained : ℕ
  auditRetained : ℕ
  operatorNotesRetained : ℕ
  sequences : ℕ × ℕ
  nodes : List ReportNode
  tasks : List ReportTask
  scenarioCatalog : List (ScenarioId × ScenarioDefinition)
  exercises : List PublicExercise
  audit : List AuditEntry

/-- `report`. -/
def LabState.report (generatedAt : Timestamp) (s : LabState) : Report :=
  { generatedAt := generatedAt
    counts := C2Lab.counts s.publicNodes s.publicTasks s.publicExercises
    eventsRetained := s.events.length, auditRetained := s.auditTrail.length
    operatorNotesRetained := s.retainedNotes, sequences := (s.eventSequence, s.auditSequence)
    nodes := s.publicNodes.map PublicNode.safe, tasks := s.publicTasks.map PublicTask.safe
    scenarioCatalog := C2Lab.scenarioCatalog, exercises := s.publicExercises
    audit := s.auditTrail }

end C2Lab
