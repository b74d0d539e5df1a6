import C2Lab.Core.NodeOps

/-! The operations an operator calls: queue, cancel, exercises, containment, notes, reset. -/

namespace C2Lab

/-! ### Argument checks -/

/-- `LabError(message)`. -/
def invalidRequest (message : String) : Exc := .lab { message := message }

/-- The characters allowed in an idempotency key; an actor allows the same less `.` and `:`. -/
def isActorChar (c : Char) : Bool := c.isAlphanum || c == '-' || c == '_'

@[inherit_doc isActorChar]
def isKeyChar (c : Char) : Bool := isActorChar c || c == '.' || c == ':'

/-- `_validate_queue_ttl`; `none` is the `_UNSET` default. -/
def validateQueueTtl : Option Json → Except Exc ℤ
  | none => .ok defaultQueueTtlSeconds
  | some (.int n) =>
    if minQueueTtlSeconds ≤ n ∧ n ≤ maxQueueTtlSeconds then .ok n else .error ttlError
  | some _ => .error ttlError
where
  ttlError : Exc := invalidRequest
    s!"queue_ttl_seconds must be an integer from {minQueueTtlSeconds} to {maxQueueTtlSeconds}"

/-- `_validate_idempotency_key`. -/
def validateIdempotencyKey : Json → Except Exc (Option PyStr)
  | .null => .ok none
  | .str s =>
    if minIdempotencyKeyLength ≤ s.len ∧ s.len ≤ maxIdempotencyKeyLength then
      if s.allChars isKeyChar then .ok (some s)
      else .error (invalidRequest "idempotency_key contains unsupported characters")
    else .error lengthError
  | _ => .error lengthError
where
  lengthError : Exc := invalidRequest <|
    s!"idempotency_key must be {minIdempotencyKeyLength} to {maxIdempotencyKeyLength} characters"

/-- `_validate_operator_actor`. -/
def validateOperatorActor : Json → Except Exc PyStr
  | .str s =>
    if 1 ≤ s.len ∧ s.len ≤ maxOperatorActorLength then
      if s.allChars isActorChar then .ok s
      else .error (invalidRequest "actor contains unsupported characters")
    else .error lengthError
  | _ => .error lengthError
where
  lengthError : Exc := invalidRequest s!"actor must be 1 to {maxOperatorActorLength} characters"

/-- `isinstance(value, str)`, or the message. -/
def requireStr (value : Json) (message : String) : Except Exc PyStr :=
  match value with
  | .str s => .ok s
  | _ => .error (invalidRequest message)

/-- One step of an operation: an object with exactly a known playbook. -/
def validateOperationStep (py : Interp) (index : ℕ) (step : Json) : Except Exc Playbook :=
  match step with
  | .obj fields => do
    ensure (hasExactKeys fields ["playbook"])
      (invalidRequest s!"steps[{index}] must be an object containing only playbook")
    match ← protocolCall (validateTaskPayload py (.str "RUN_PLAYBOOK") step) with
    | .runPlaybook p => return p
    | _ => .error (.py .keyError)
  | _ => .error (invalidRequest s!"steps[{index}] must be an object containing only playbook")

/-- The loop of `_validate_operation_steps`. -/
def validateStepsFrom (py : Interp) : ℕ → List Json → Except Exc (List Playbook)
  | _, [] => .ok []
  | index, step :: rest => do
    let p ← validateOperationStep py index step
    let ps ← validateStepsFrom py (index + 1) rest
    return p :: ps

/-- `_validate_operation_steps`; a clean step is its playbook. -/
def validateOperationSteps (py : Interp) : Json → Except Exc (List Playbook)
  | .arr steps =>
    if 1 ≤ steps.length ∧ steps.length ≤ maxOperationSteps then validateStepsFrom py 0 steps
    else .error lengthError
  | _ => .error lengthError
where
  lengthError : Exc := invalidRequest
    s!"steps must be a list of 1 to {maxOperationSteps} playbooks"

/-! ### Task slots -/

/-- `_task_is_required_by_running_exercise_locked`. -/
def taskIsRequiredByRunningExerciseLocked (t : Task) (s : LabState) : Bool :=
  match t.exerciseId with
  | none => false
  | some id =>
    match s.exercises.get? id with
    | none => false
    | some e => e.status = .running

/-- The oldest tombstones go while the store is full. -/
def evictTombstones (full : Dict PyStr NodeTask) : Dict PyStr NodeTask :=
  (full.keys.take (full.size + 1 - maxTaskResultTombstones)).foldl Dict.erase full

namespace LabState

/-- `_remember_task_result_tombstone_locked`. -/
def rememberTaskResultTombstoneLocked (t : Task) (s : LabState) : LabState :=
  if t.resultAccepted then
    { s with taskResultTombstones := (evictTombstones s.taskResultTombstones).set t.id t.nodeTask }
  else s

/-- `_prune_terminal_task_locked`. -/
def pruneTerminalTaskLocked (w : World) (t : Task) (s : LabState) : LabState :=
  let s := s.rememberTaskResultTombstoneLocked t
  { s with tasks := s.tasks.erase t.id }
    |>.recordLocked w
      { kind := .taskPruned, level := .warning, nodeId := some t.nodeId, taskId := some t.id
        correlationId := some t.correlationId
        data := [("type", Vocabulary.toJson t.command.taskType),
          ("status", Vocabulary.toJson t.status), ("correlation_id", .str t.correlationId),
          ("reason", .str "terminal_task_retention_limit")] }
    |>.auditLocked w
      { action := .taskPruned, actor := "teamserver", nodeId := some t.nodeId
        taskId := some t.id, correlationId := some t.correlationId
        taskType := some t.command.taskType, fromState := some (Vocabulary.name t.status)
        toState := some "removed", outcome := "success"
        reason := some "terminal_task_retention_limit" }

/-- The tasks retention may remove, oldest first. -/
def pruneCandidates (s : LabState) : List Task :=
  (s.tasks.values.filter fun t =>
    t.status.isTerminal && !taskIsRequiredByRunningExerciseLocked t s).mergeSort
      fun a b => a.sequence ≤ b.sequence

/-- How many queued tasks of a node satisfy `p`. -/
def countQueued (nodeId : PyStr) (p : Task → Bool) (s : LabState) : ℕ :=
  s.tasks.values.countP fun t => t.status = .queued && t.nodeId = nodeId && p t

end LabState

/-- `_make_task_slots_locked`. -/
@[irreducible]
def makeTaskSlotsLocked (w : World) (requiredSlots : ℕ) : Lab Unit := do
  let s ← get
  let slotsToFree := s.tasks.size + requiredSlots - maxTasks
  if slotsToFree = 0 then pure ()
  else
    let candidates := s.pruneCandidates
    if candidates.length < slotsToFree then
      throw (labError "task limit reached; reset the lab" "task_limit" 429)
    else
      modify fun s => (candidates.take slotsToFree).foldl
        (fun s t => s.pruneTerminalTaskLocked w t) s

/-! ### Creating tasks -/

/-- What the three creating operations put into a new task record. -/
structure TaskSpec where
  nodeId : PyStr
  command : Command
  createdBy : PyStr
  queueTtlSeconds : ℤ
  operation : Option (PyStr × ℕ) := none
  idempotencyKey : Option PyStr := none
  exerciseId : Option PyStr := none

namespace LabState

/-- A new queued task: its id, correlation id and timestamp drawn in this order. -/
def newTask (w : World) (spec : TaskSpec) (now : Instant) (s : LabState) : Task :=
  { id := w.taskId s.draws, correlationId := w.correlationId (s.draws + 1)
    nodeId := spec.nodeId, command := spec.command, createdBy := spec.createdBy
    status := .queued, result := none, createdAt := w.utcNow (s.draws + 2)
    queueTtlSeconds := spec.queueTtlSeconds, dispatchedAt := none, completedAt := none
    deliveryAttempts := 0, operation := spec.operation, sequence := s.taskSequence + 1
    deadline := none, queueDeadline := some (now + spec.queueTtlSeconds)
    idempotencyKey := spec.idempotencyKey, exerciseId := spec.exerciseId
    resultAccepted := false }

/-- Insert a new task record; `_next_task_sequence_locked` was spent on it. -/
def insertTask (t : Task) (s : LabState) : LabState :=
  { s.tick.tick.tick with tasks := s.tasks.set t.id t, taskSequence := s.taskSequence + 1 }

/-- The event and the audit entry of a new task. -/
def announceTask (w : World) (t : Task) (reason : Option String) (s : LabState) : LabState :=
  s.recordLocked w
      { kind := .task .queued, nodeId := some t.nodeId, taskId := some t.id, actor := t.createdBy
        data := t.eventData }
    |>.auditLocked w
      { action := .task .queued, actor := t.createdBy, nodeId := some t.nodeId
        taskId := some t.id, correlationId := some t.correlationId
        taskType := some t.command.taskType, toState := some "queued", outcome := "accepted"
        reason := reason }

end LabState

/-- The node checks shared by the creating operations: known, session open, not paused. -/
def requireTaskableNode (nodeId : PyStr) (requireOnline : Bool) : Lab Node := do
  let s ← get
  match s.nodes.get? nodeId with
  | none => throw (labError "node not found" "not_found" 404)
  | some n => do
    Prog.require (n.sessionActive = true)
      (labError "node session is closed; start a new node process" "node_disconnected" 409)
    Prog.require (requireOnline = true → n.status = .online)
      (labError "operation requires an online node" "node_offline" 409)
    Prog.require (n.taskingPaused = false)
      (labError "node tasking is paused by containment" "node_tasking_paused" 409)
    return n

/-- The queue limits of the operations that create several playbook tasks at once. -/
def requireQueueRoom (nodeId : PyStr) (count : ℕ) : Lab Unit := do
  let s ← get
  Prog.require (s.countQueued nodeId (fun _ => true) + count ≤ maxQueuedTasksPerNode)
    (labError "node queue limit reached" "queue_limit" 429)
  Prog.require
    (s.countQueued nodeId (fun t => t.command.taskType = .runPlaybook) + count ≤
      maxQueuedPlaybooksPerNode)
    (labError "purple-lab playbook queue limit reached" "playbook_queue_limit" 429)

/-- The checked arguments of `queue_task`. -/
structure TaskRequest where
  nodeId : PyStr
  command : Command
  queueTtlSeconds : ℤ
  idempotencyKey : Option PyStr
  actor : PyStr

/-- The checks `queue_task` makes before taking the lock. -/
def validateTaskRequest (py : Interp) (nodeId taskType payload : Json)
    (queueTtlSeconds : Option Json) (idempotencyKey actor : Json) : Except Exc TaskRequest := do
  let nodeId ← requireStr nodeId "node_id must be a string"
  let command ← match validateTaskPayload py taskType payload with
    | .error (.protocol message) => .error (.lab
        { message := message
          code := match (Vocabulary.parse taskType : Option TaskType) with
            | none => "unsupported_task_type"
            | some _ => "invalid_request" })
    | x => x
  let queueTtlSeconds ← validateQueueTtl queueTtlSeconds
  let idempotencyKey ← validateIdempotencyKey idempotencyKey
  let actor ← validateOperatorActor actor
  return { nodeId, command, queueTtlSeconds, idempotencyKey, actor }

/-- The task a key was used for, `next(... if task.get("_idempotency_key") == key)`. -/
def LabState.taskWithKey (key : Option PyStr) (s : LabState) : Option Task :=
  match key with
  | none => none
  | some k => s.tasks.values.find? fun t => t.idempotencyKey = some k

/-- The checks of `queue_task` on the node and its queue. -/
def admitTask (r : TaskRequest) : Lab Unit := do
  let n ← requireTaskableNode r.nodeId false
  Prog.require (r.command.taskType ∈ n.capabilities)
    (labError "task is not allowed by the node profile" "capability_denied" 409)
  let s ← get
  Prog.require (s.countQueued r.nodeId (fun _ => true) < maxQueuedTasksPerNode)
    (labError "node queue limit reached" "queue_limit" 429)
  Prog.require
    (r.command.taskType = .runPlaybook →
      s.countQueued r.nodeId (fun t => t.command.taskType = .runPlaybook) <
        maxQueuedPlaybooksPerNode)
    (labError "purple-lab playbook queue limit reached" "playbook_queue_limit" 429)

/-- Create the one task of `queue_task`. -/
def createTask (w : World) (r : TaskRequest) (now : Instant) : Lab PublicTask := do
  let s ← get
  let t := s.newTask w
    { nodeId := r.nodeId, command := r.command, createdBy := r.actor
      queueTtlSeconds := r.queueTtlSeconds, idempotencyKey := r.idempotencyKey } now
  modify fun s => (s.insertTask t).announceTask w t none
  return t.publicTask

/-- `queue_task`. -/
def queueTask (w : World) (nodeId taskType payload : Json) (queueTtlSeconds : Option Json)
    (idempotencyKey actor : Json) (now : Instant) : Lab PublicTask := do
  let r ← check (validateTaskRequest w.toInterp nodeId taskType payload queueTtlSeconds
    idempotencyKey actor)
  let s ← get
  match s.taskWithKey r.idempotencyKey with
  | some existing =>
    if existing.nodeId = r.nodeId ∧ existing.command = r.command ∧
        existing.createdBy = r.actor ∧ existing.queueTtlSeconds = r.queueTtlSeconds then
      return existing.publicTask
    else
      throw (labError "Idempotency-Key was already used for a different task request"
        "idempotency_conflict" 409)
  | none => do
    admitTask r
    makeTaskSlotsLocked w 1
    createTask w r now

/-! ### Operations -/

/-- `_operation_idempotency_record_is_evictable_locked`. -/
def operationIdempotencyRecordIsEvictableLocked (r : OperationRecord) (s : LabState) : Bool :=
  r.taskIds.all fun id =>
    match s.tasks.get? id with
    | none => true
    | some t => t.status.isTerminal

/-- The keys to evict before one more operation key is stored, chosen before tasks are pruned. -/
@[irreducible]
def operationEvictionKeys (key : Option PyStr) : Lab (List PyStr) := do
  let s ← get
  match key with
  | none => return []
  | some _ =>
    let recordsToFree := s.operationIdempotency.size + 1 - maxOperationIdempotencyRecords
    if recordsToFree = 0 then return []
    else
      let keys := ((s.operationIdempotency.entries.filter fun p =>
        operationIdempotencyRecordIsEvictableLocked p.2 s).map Prod.fst).take recordsToFree
      if keys.length < recordsToFree then
        throw (labError "operation idempotency retention limit reached"
          "operation_idempotency_limit" 429)
      else return keys

/-- Create the tasks of an operation, in step order; the created records are returned. -/
def createOperationTasks (w : World) (nodeId actor operationId : PyStr) (ttl : ℤ) (now : Instant) :
    ℕ → List Playbook → Lab (List Task)
  | _, [] => return []
  | step, p :: rest => do
    let s ← get
    let t := s.newTask w
      { nodeId := nodeId, command := .runPlaybook p, createdBy := actor, queueTtlSeconds := ttl
        operation := some (operationId, step) } now
    modify fun s => (s.insertTask t).announceTask w t (some "operation_request")
    let ts ← createOperationTasks w nodeId actor operationId ttl now (step + 1) rest
    return t :: ts

/-- The event and the audit entry of a queued operation. -/
def LabState.announceOperation (w : World) (nodeId actor operationId : PyStr)
    (taskIds : List PyStr) (s : LabState) : LabState :=
  s.recordLocked w
      { kind := .operationQueued, nodeId := some nodeId, correlationId := some operationId
        actor := actor
        data := [("operation_id", .str operationId), ("step_count", .int taskIds.length),
          ("task_ids", .arr (taskIds.map .str))] }
    |>.auditLocked w
      { action := .operationQueued, actor := actor, nodeId := some nodeId
        correlationId := some operationId, toState := some "queued", outcome := "accepted"
        reason := some "bounded_playbook_operation" }

/-- Store the replay record of an operation after evicting the chosen keys. -/
def LabState.rememberOperation (key : Option PyStr) (evicted : List PyStr) (r : OperationRecord)
    (s : LabState) : LabState :=
  match key with
  | none => s
  | some k =>
    { s with operationIdempotency := (evicted.foldl Dict.erase s.operationIdempotency).set k r }

/-- The checked arguments of `queue_operation`. -/
structure OperationRequest where
  nodeId : PyStr
  steps : List Playbook
  queueTtlSeconds : ℤ
  idempotencyKey : Option PyStr
  actor : PyStr

/-- The checks `queue_operation` makes before taking the lock. -/
def validateOperationRequest (py : Interp) (nodeId steps : Json) (queueTtlSeconds : Option Json)
    (idempotencyKey actor : Json) : Except Exc OperationRequest := do
  let nodeId ← requireStr nodeId "node_id must be a string"
  let steps ← validateOperationSteps py steps
  let queueTtlSeconds ← validateQueueTtl queueTtlSeconds
  let idempotencyKey ← validateIdempotencyKey idempotencyKey
  let actor ← validateOperatorActor actor
  return { nodeId, steps, queueTtlSeconds, idempotencyKey, actor }

/-- The part of `queue_operation` that creates work. -/
def createOperation (w : World) (r : OperationRequest) (evicted : List PyStr) (now : Instant) :
    Lab OperationSummary := do
  let s ← get
  let operationId := w.operationId s.draws
  modify LabState.tick
  let tasks ← createOperationTasks w r.nodeId r.actor operationId r.queueTtlSeconds now 1 r.steps
  let taskIds := tasks.map (·.id)
  modify fun s => s.announceOperation w r.nodeId r.actor operationId taskIds
  let summary : OperationSummary :=
    { id := operationId, nodeId := r.nodeId, createdBy := r.actor, steps := r.steps
      tasks := tasks.map Task.publicTask }
  modify fun s => s.rememberOperation r.idempotencyKey evicted
    { actor := r.actor, nodeId := r.nodeId, playbooks := r.steps
      queueTtlSeconds := r.queueTtlSeconds, taskIds := taskIds, summary := summary }
  return summary

/-- `queue_operation`. -/
def queueOperation (w : World) (nodeId steps : Json) (queueTtlSeconds : Option Json)
    (idempotencyKey actor : Json) (now : Instant) : Lab OperationSummary := do
  let r ← check (validateOperationRequest w.toInterp nodeId steps queueTtlSeconds idempotencyKey
    actor)
  let s ← get
  match r.idempotencyKey.bind s.operationIdempotency.get? with
  | some previous =>
    if previous.actor = r.actor ∧ previous.nodeId = r.nodeId ∧ previous.playbooks = r.steps ∧
        previous.queueTtlSeconds = r.queueTtlSeconds then
      return previous.summary
    else
      throw (labError "Idempotency-Key was already used for a different operation request"
        "idempotency_conflict" 409)
  | none => do
    let n ← requireTaskableNode r.nodeId true
    Prog.require (n.profile = .purpleLab ∧ .runPlaybook ∈ n.capabilities)
      (labError "operations require a purple_lab node" "capability_denied" 409)
    requireQueueRoom r.nodeId r.steps.length
    let evicted ← operationEvictionKeys r.idempotencyKey
    makeTaskSlotsLocked w r.steps.length
    createOperation w r evicted now

/-! ### Cancelling -/

namespace LabState

/-- A queued task cancelled by an operator. -/
def cancelledTask (w : World) (t : Task) (actor : PyStr) (s : LabState) : LabState :=
  s.tick
    |>.setTask { t with
        status := .cancelled, result := some (reasonResult "operator_cancelled")
        completedAt := some (w.utcNow s.draws), queueDeadline := none }
    |>.recordLocked w
      { kind := .task .cancelled, level := .warning, nodeId := some t.nodeId, taskId := some t.id
        correlationId := some t.correlationId, actor := actor
        data := t.eventData ++ [("reason", .str "operator_cancelled")] }
    |>.auditLocked w
      { action := .task .cancelled, actor := actor, nodeId := some t.nodeId, taskId := some t.id
        correlationId := some t.correlationId, taskType := some t.command.taskType
        fromState := some "queued", toState := some "cancelled", outcome := "cancelled"
        reason := some "operator_cancelled" }

end LabState

/-- `cancel_task`. -/
def cancelTask (w : World) (taskId actor : Json) : Lab PublicTask := do
  let id ← check (requireStr taskId "task_id must be a string")
  let actor ← check (validateOperatorActor actor)
  let s ← get
  match s.tasks.get? id with
  | none => throw (labError "task not found" "not_found" 404)
  | some t =>
    if t.status = .cancelled then return t.publicTask
    else if t.status ≠ .queued then
      throw (labError "only queued tasks can be cancelled" "task_not_cancellable" 409)
    else do
      modify fun s => s.cancelledTask w t actor
      refreshExercisesLocked w
      let s ← get
      match s.tasks.get? id with
      | some t => return t.publicTask
      | none => throw (.py .keyError)

/-- `expire`. -/
def expire (w : World) (now : Instant) : Lab Unit := expireLocked w now

/-! ### Exercises -/

namespace LabState

/-- A new running exercise, its id and timestamp drawn in this order. -/
def newExercise (w : World) (nodeId : PyStr) (scenarioId : ScenarioId) (actor : PyStr)
    (s : LabState) : Exercise :=
  { id := w.exerciseId s.draws, scenarioId := scenarioId, status := .running, detected := false
    nodeId := nodeId, createdBy := actor, createdAt := w.utcNow (s.draws + 1)
    completedAt := none, taskIds := [], alerts := [], timeline := [], containment := none
    timelineSequence := 0, observedTaskIds := [], completionRecorded := false }

/-- Store a started exercise, its replay key and its announcement. -/
def insertExercise (w : World) (e : Exercise) (key : Option PyStr) (s : LabState) : LabState :=
  let s := s.setExercise e
  let s : LabState := match key with
    | none => s
    | some k => { s with exerciseIdempotency :=
        s.exerciseIdempotency.set k (e.createdBy, e.nodeId, e.scenarioId, e.id) }
  s.recordLocked w
      { kind := .exerciseStarted, nodeId := some e.nodeId, correlationId := some e.id
        actor := e.createdBy
        data := [("exercise_id", .str e.id), ("scenario_id", Vocabulary.toJson e.scenarioId),
          ("task_count", .int e.taskIds.length)] }
    |>.auditLocked w
      { action := .exerciseStarted, actor := e.createdBy, nodeId := some e.nodeId
        correlationId := some e.id, outcome := "accepted"
        reason := some (Vocabulary.name e.scenarioId) }

end LabState

/-- The timeline entry of a queued scenario task. -/
def queuedItem (taskId : PyStr) (playbook : Playbook) : TimelineItem :=
  { phase := .prepare, kind := .task .queued, summary := s!"{Vocabulary.name playbook} queued"
    taskId := some taskId }

/-- `_append_exercise_timeline_locked` on an exercise that is not stored yet. -/
def appendDraftTimeline (w : World) (e : Exercise) (item : TimelineItem) : Lab Exercise := do
  let s ← get
  if maxExerciseTimeline ≤ e.timeline.length then do
    modify LabState.refuseAppend
    return e
  else do
    modify LabState.tick
    return e.appendTimeline (w.utcNow s.draws) item

/-- The loop of `start_exercise` over the playbooks; the exercise record grows along. -/
def createExerciseTasks (w : World) (now : Instant) :
    Exercise → List Playbook → Lab Exercise
  | e, [] => return e
  | e, p :: rest => do
    let s ← get
    let t := s.newTask w
      { nodeId := e.nodeId, command := .runPlaybook p, createdBy := e.createdBy
        queueTtlSeconds := defaultQueueTtlSeconds, exerciseId := some e.id } now
    modify fun s => s.insertTask t
    let e ← appendDraftTimeline w { e with taskIds := e.taskIds ++ [t.id] } (queuedItem t.id p)
    modify fun s => s.announceTask w t (some "exercise_scenario")
    createExerciseTasks w now e rest

/-- The part of `start_exercise` that creates work. -/
def createExercise (w : World) (nodeId : PyStr) (scenarioId : ScenarioId) (actor : PyStr)
    (key : Option PyStr) (now : Instant) : Lab PublicExercise := do
  let s ← get
  let e := s.newExercise w nodeId scenarioId actor
  modify fun s => s.tick.tick
  let definition := scenarioDefinition scenarioId
  let e ← appendDraftTimeline w e
    { phase := .prepare, kind := .exerciseStarted, summary := definition.title }
  let e ← createExerciseTasks w now e definition.playbooks
  modify fun s => s.insertExercise w e key
  return e.publicExercise

/-- The checked arguments of `start_exercise`. -/
structure ExerciseRequest where
  nodeId : PyStr
  scenarioId : ScenarioId
  actor : PyStr
  idempotencyKey : Option PyStr

/-- The checks `start_exercise` makes before taking the lock. -/
def validateExerciseRequest (nodeId scenarioId actor idempotencyKey : Json) :
    Except Exc ExerciseRequest := do
  let nodeId ← requireStr nodeId "node_id must be a string"
  let scenarioId ← match (Vocabulary.parse scenarioId : Option ScenarioId) with
    | some s => .ok s
    | none => .error (labError "unsupported exercise scenario" "unsupported_scenario" 400)
  let actor ← validateOperatorActor actor
  let idempotencyKey ← validateIdempotencyKey idempotencyKey
  return { nodeId, scenarioId, actor, idempotencyKey }

/-- The part of `start_exercise` for a key that is not in use. -/
def startNewExercise (w : World) (r : ExerciseRequest) (now : Instant) : Lab PublicExercise := do
  let n ← requireTaskableNode r.nodeId false
  Prog.require (n.profile = .purpleLab ∧ .runPlaybook ∈ n.capabilities)
    (labError "exercise scenarios require a purple_lab node" "capability_denied" 409)
  let s ← get
  Prog.require (s.exercises.size < maxExercises)
    (labError "exercise retention limit reached; reset the lab" "exercise_limit" 429)
  let count := (scenarioDefinition r.scenarioId).playbooks.length
  requireQueueRoom r.nodeId count
  makeTaskSlotsLocked w count
  createExercise w r.nodeId r.scenarioId r.actor r.idempotencyKey now

/-- `start_exercise`. -/
def startExercise (w : World) (nodeId scenarioId actor idempotencyKey : Json) (now : Instant) :
    Lab PublicExercise := do
  let r ← check (validateExerciseRequest nodeId scenarioId actor idempotencyKey)
  let s ← get
  match r.idempotencyKey.bind s.exerciseIdempotency.get? with
  | some (actor, nodeId, scenarioId, exerciseId) =>
    let conflict := labError "Idempotency-Key was already used for a different exercise request"
      "idempotency_conflict" 409
    if actor = r.actor ∧ nodeId = r.nodeId ∧ scenarioId = r.scenarioId then
      match s.exercises.get? exerciseId with
      | some e => return e.publicExercise
      | none => throw conflict
    else throw conflict
  | none => startNewExercise w r now

/-! ### Containment -/

/-- `alert["status"] = "contained"` for an open alert. -/
def Alert.contain (time : Timestamp) (a : Alert) : Alert :=
  if a.isOpen then { a with isOpen := false, containedAt := some time } else a

@[simp] theorem Alert.rule_contain (time : Timestamp) (a : Alert) :
    (a.contain time).rule = a.rule := by unfold contain; split <;> rfl
@[simp] theorem Alert.taskId_contain (time : Timestamp) (a : Alert) :
    (a.contain time).taskId = a.taskId := by unfold contain; split <;> rfl

namespace LabState

/-- A queued task of a contained exercise: cancelled, with its timeline entry, and observed. -/
def containTask (w : World) (id : PyStr) (t : Task) (playbook : Playbook) (actor : PyStr)
    (s : LabState) : LabState :=
  s.appendExerciseTimelineLocked w id
      { phase := .simulate, kind := .task .cancelled
        summary := s!"{Vocabulary.name playbook} {Vocabulary.name TaskStatus.cancelled}"
        taskId := some t.id }
    |>.observeTask id t.id
    |>.recordLocked w
      { kind := .task .cancelled, level := .warning, nodeId := some t.nodeId, taskId := some t.id
        correlationId := some t.correlationId, actor := actor
        data := t.eventData ++ [("reason", .str "exercise_contained")] }
    |>.auditLocked w
      { action := .task .cancelled, actor := actor, nodeId := some t.nodeId, taskId := some t.id
        correlationId := some t.correlationId, taskType := some t.command.taskType
        fromState := some "queued", toState := some "cancelled", outcome := "cancelled"
        reason := some "exercise_contained" }

/-- The record of a task cancelled by containment. -/
def containedTask (w : World) (t : Task) (s : LabState) : LabState :=
  s.tick.setTask { t with
    status := .cancelled, result := some (reasonResult "exercise_contained")
    completedAt := some (w.utcNow s.draws), queueDeadline := none }

/-- `PAUSE_NODE_TASKING`. -/
def pauseNode (w : World) (n : Node) (exerciseId actor : PyStr) (s : LabState) : LabState :=
  s.tick
    |>.setNode { n with
        taskingPaused := true, taskingPausedAt := some (w.utcNow s.draws)
        taskingPausedBy := some actor }
    |>.recordLocked w
      { kind := .nodeTaskingPaused, level := .warning, nodeId := some n.id
        correlationId := some exerciseId, actor := actor
        data := [("exercise_id", .str exerciseId)] }
    |>.auditLocked w
      { action := .nodeTaskingPaused, actor := actor, nodeId := some n.id
        correlationId := some exerciseId, fromState := some "active", toState := some "paused"
        outcome := "success", reason := some "exercise_containment" }

/-- The part of a containment that is about the node, if it is still recorded. -/
def containNode (w : World) (e : Exercise) (action : ContainmentAction) (actor : PyStr)
    (s : LabState) : LabState :=
  match action, s.nodes.get? e.nodeId with
  | .pauseNodeTasking, some n => s.pauseNode w n e.id actor
  | _, _ => s

/-- The timeline entry of an applied containment. -/
def containmentItem (action : ContainmentAction) : TimelineItem :=
  { phase := .contain, kind := .containmentApplied
    summary := "Control-plane containment applied", action := some action }

/-- Apply the containment to the exercise record and announce it. -/
def applyContainment (w : World) (e : Exercise) (action : ContainmentAction) (actor : PyStr)
    (s : LabState) : LabState :=
  let time := w.utcNow s.draws
  s.tick
    |>.setExercise { e with
        status := .contained
        completedAt := e.completedAt.orElse fun _ => some time
        containment := some { action := action, actor := actor, time := time }
        alerts := e.alerts.map (Alert.contain time) }
    |>.appendExerciseTimelineLocked w e.id (containmentItem action)
    |>.recordLocked w
      { kind := .exercise .contained, level := .warning, nodeId := some e.nodeId
        correlationId := some e.id, actor := actor
        data := [("exercise_id", .str e.id), ("scenario_id", Vocabulary.toJson e.scenarioId),
          ("action", Vocabulary.toJson action), ("alerts", .int e.alerts.length)] }
    |>.auditLocked w
      { action := .exercise .contained, actor := actor, nodeId := some e.nodeId
        correlationId := some e.id, fromState := some "detected", toState := some "contained"
        outcome := "success", reason := some (Vocabulary.name action) }

end LabState

/-- The loop body of `contain_exercise` over the tasks of the exercise. -/
def cancelContainedTask (w : World) (id actor taskId : PyStr) : Lab Unit := do
  let s ← get
  match s.tasks.get? taskId with
  | none => pure ()
  | some t =>
    if t.status ≠ .queued then pure ()
    else do
      modify fun s => s.containedTask w t
      let playbook ← check t.playbook
      modify fun s => s.containTask w id t playbook actor

/-- `contain_exercise` on an exercise that has a detection. -/
def containDetected (w : World) (e : Exercise) (action : ContainmentAction) (actor : PyStr) :
    Lab PublicExercise := do
  forM e.taskIds (cancelContainedTask w e.id actor)
  modify fun s => s.containNode w e action actor
  modify fun s =>
    match s.exercises.get? e.id with
    | none => s
    | some e => s.applyContainment w e action actor
  let s ← get
  match s.exercises.get? e.id with
  | some e => return e.publicExercise
  | none => throw (.py .keyError)

/-- `contain_exercise`. -/
def containExercise (w : World) (exerciseId action actor : Json) : Lab PublicExercise := do
  let id ← check (requireStr exerciseId "exercise_id must be a string")
  let action ← check (match (Vocabulary.parse action : Option ContainmentAction) with
    | some a => .ok a
    | none => .error (labError "unsupported containment action" "unsupported_action" 400))
  let actor ← check (validateOperatorActor actor)
  let s ← get
  match s.exercises.get? id with
  | none => throw (labError "exercise not found" "not_found" 404)
  | some e =>
    if e.status = .contained then
      if e.containment.map (·.action) = some action then return e.publicExercise
      else
        throw (labError "exercise already has a different containment action"
          "containment_conflict" 409)
    else if e.detected = false then
      throw (labError "containment requires a detected exercise" "detection_required" 409)
    else containDetected w e action actor

/-! ### Notes and reset -/

/-- The notes currently in the event feed. -/
def LabState.retainedNotes (s : LabState) : ℕ := s.events.countP fun e => e.kind = .operatorNote

/-- Append a note and remember its key, the oldest keys going while there are too many. -/
def appendNote (w : World) (actor message : PyStr) (key : Option PyStr) : Lab Event := do
  let s ← get
  Prog.require (s.retainedNotes < maxOperatorNotesRetained)
    (labError "operator note retention limit reached" "note_limit" 429)
  let draft : EventDraft :=
    { kind := .operatorNote, actor := actor, data := [("message", .str message)] }
  let event := s.toJournal.event w draft
  modify fun s =>
    s.recordLocked w draft
      |>.auditLocked w
        { action := .operatorNote, actor := actor, outcome := "accepted"
          reason := some "shared_event_feed" }
  modify fun s =>
    match key with
    | none => s
    | some k =>
      let keys := s.noteIdempotency.set k (actor, message, event.id)
      { s with noteIdempotency :=
          (keys.keys.take (keys.size - maxOperatorNotesRetained)).foldl Dict.erase keys }
  return event

/-- `post_operator_note`. -/
def postOperatorNote (w : World) (message actor idempotencyKey : Json) : Lab Event := do
  let actor ← check (validateOperatorActor actor)
  let message ← check (protocolCall (cleanText w.toInterp message "message" maxOperatorNoteLength))
  let key ← check (validateIdempotencyKey idempotencyKey)
  let s ← get
  match key, key.bind s.noteIdempotency.get? with
  | some k, some (existingActor, existingMessage, eventId) =>
    if existingActor ≠ actor ∨ existingMessage ≠ message then
      throw (labError "Idempotency-Key was already used for a different note request"
        "idempotency_conflict" 409)
    else
      match s.events.find? (fun e => e.id = eventId) with
      | some event => return event
      | none => do
        modify fun s => { s with noteIdempotency := s.noteIdempotency.erase k }
        appendNote w actor message key
  | _, _ => appendNote w actor message key

/-- Clear every table and the event feed; the counters and the audit trail go on. -/
def LabState.cleared (s : LabState) : LabState :=
  { s with
    nodes := .empty, tasks := .empty, taskResultTombstones := .empty, exercises := .empty
    events := [], noteIdempotency := .empty, exerciseIdempotency := .empty
    operationIdempotency := .empty }

/-- `reset`. -/
def reset (w : World) (actor : Json) : Lab Unit := do
  let actor ← check (validateOperatorActor actor)
  modify fun s =>
    s.cleared
      |>.recordLocked w
        { kind := .labReset, actor := actor, data := [("sessions_invalidated", .bool true)] }
      |>.auditLocked w
        { action := .labReset, actor := actor, outcome := "success"
          reason := some "sessions_invalidated" }

end C2Lab
