import C2Lab.Core.Expire

/-! The operations a Node calls: enroll, poll, submit a result, disconnect. -/

namespace C2Lab

/-! ### Enrollment -/

/-- The first element with the least key, `min(..., key=...)`. -/
def firstMin {α : Type} (key : α → ℕ) : List α → Option α
  | [] => none
  | a :: l =>
    match firstMin key l with
    | none => some a
    | some b => if key a ≤ key b then some a else some b

theorem firstMin_mem {α : Type} {key : α → ℕ} {l : List α} {a : α} (h : firstMin key l = some a) :
    a ∈ l := by
  induction l with
  | nil => cases h
  | cons b l ih =>
    rw [firstMin] at h
    cases hm : firstMin key l with
    | none => rw [hm] at h; cases h; exact List.mem_cons_self
    | some c =>
      rw [hm] at h
      simp only at h
      split at h
      · cases h; exact List.mem_cons_self
      · cases h; exact List.mem_cons_of_mem _ (ih hm)

/-- The checked arguments of an enrollment. -/
structure Enrollment where
  name : PyStr
  version : PyStr
  profile : Profile
  capabilities : List TaskType
  pollIntervalMs : ℤ
  jitterPercent : ℤ

/-- The checks `enroll_node` makes before taking the lock. -/
def validateEnrollment (py : Interp) (name version profile capabilities pollIntervalMs
    jitterPercent : Json) : Except Exc Enrollment := do
  let name ← protocolCall (cleanText py name "name" 48)
  let version ← protocolCall (cleanText py version "version" 32)
  let (profile, capabilities) ← protocolCall (validateCapabilities profile capabilities)
  let pollIntervalMs ← protocolCall (validatePollInterval pollIntervalMs)
  let jitterPercent ← protocolCall (validateJitterPercent jitterPercent)
  return { name, version, profile, capabilities, pollIntervalMs, jitterPercent }

namespace LabState

/-- Remove the record of a closed node to make room. -/
def pruneNode (w : World) (n : Node) (s : LabState) : LabState :=
  { s with nodes := s.nodes.erase n.id }
    |>.recordLocked w
      { kind := .nodePruned, level := .warning, nodeId := some n.id
        data := [("reason", .str "closed_node_record_limit")] }
    |>.auditLocked w
      { action := .nodePruned, actor := "teamserver", nodeId := some n.id
        fromState := some n.status.name, toState := some "removed", outcome := "success"
        reason := some "closed_node_record_limit" }

/-- The record of a newly enrolled node, its id, token and timestamp drawn in this order. -/
def newNode (w : World) (e : Enrollment) (now : Instant) (s : LabState) : Node :=
  { id := w.nodeId s.draws, name := e.name, status := .online, sessionActive := true
    version := e.version, profile := e.profile, capabilities := e.capabilities
    pollIntervalMs := e.pollIntervalMs, jitterPercent := e.jitterPercent
    createdAt := w.utcNow (s.draws + 2), lastSeen := w.utcNow (s.draws + 2)
    tasksCompleted := 0, tasksFailed := 0, taskingPaused := false, taskingPausedAt := none
    taskingPausedBy := none, sessionToken := .text (w.token (s.draws + 1))
    lastSeenMonotonic := now, lastHeartbeatEvent := now }

/-- Insert a newly enrolled node. -/
def addNode (w : World) (n : Node) (s : LabState) : LabState :=
  s.tick.tick.tick
    |>.setNode n
    |>.recordLocked w
      { kind := .nodeEnrolled, nodeId := some n.id, actor := "node"
        data := [("name", .str n.name), ("version", .str n.version),
          ("profile", Vocabulary.toJson n.profile), ("transport", .str "loopback-http-poll/v1")] }
    |>.auditLocked w
      { action := .nodeEnrolled, actor := "node", nodeId := some n.id
        toState := some "online", outcome := "success" }

end LabState

/-- Make room for one more node record, or refuse. -/
def makeNodeSlot (w : World) : Lab Unit := do
  let s ← get
  if maxNodes ≤ s.nodes.size then
    match firstMin Node.createdAt (s.nodes.values.filter fun n => !n.sessionActive) with
    | none => throw (labError "active node limit reached" "node_limit" 429)
    | some oldest => modify fun s => s.pruneNode w oldest

/-- The reply to an enrollment. -/
structure EnrollResponse where
  node : PublicNode
  sessionToken : PyStr

/-- `enroll_node`. -/
def enrollNode (w : World) (name version profile capabilities pollIntervalMs jitterPercent : Json)
    (now : Instant) : Lab EnrollResponse := do
  let e ← check (validateEnrollment w.toInterp name version profile capabilities pollIntervalMs
    jitterPercent)
  makeNodeSlot w
  let s ← get
  let node := s.newNode w e now
  modify fun s => s.addNode w node
  return { node := node.publicNode, sessionToken := node.sessionToken }

/-! ### Sessions -/

/-- `authenticate_node`; comparing tokens encodes them, which a lone surrogate refuses. -/
def authenticateNode (nodeId sessionToken : Json) (s : LabState) : Except Exc Bool :=
  match nodeId, sessionToken with
  | .str id, .str token =>
    match s.nodes.get? id with
    | none => .ok false
    | some n => if token.encodes then .ok (n.sessionToken == token)
        else .error (.py .unicodeEncodeError)
  | _, _ => .ok false

/-- `_require_node_session_locked`. -/
def requireNodeSessionLocked (nodeId sessionToken : Json) : Lab Node := do
  let s ← get
  let ok ← check (authenticateNode nodeId sessionToken s)
  if ok then
    match nodeId with
    | .str id =>
      match s.nodes.get? id with
      | some n => return n
      | none => throw (.py .keyError)
    | _ => throw (.py .keyError)
  else throw (labError "invalid node session" "invalid_node_session" 401)

/-! ### Polling -/

/-- The reply to a poll. -/
structure PollResponse where
  node : PublicNode
  task : Option NodeTask
  serverTime : Timestamp

namespace LabState

/-- A poll was heard: the node is online. -/
def wakeNode (w : World) (n : Node) (now : Instant) (s : LabState) : LabState :=
  let woken := s.tick.setNode
    { n with status := .online, lastSeen := w.utcNow s.draws, lastSeenMonotonic := now }
  if n.status = .offline then
    woken
      |>.recordLocked w { kind := .nodeOnline, nodeId := some n.id, actor := "node" }
      |>.auditLocked w
        { action := .nodeOnline, actor := "node", nodeId := some n.id
          fromState := some "offline", toState := some "online", outcome := "success"
          reason := some "poll_recovered" }
  else woken

/-- At most one heartbeat event per period. -/
def heartbeatNode (w : World) (n : Node) (now : Instant) (s : LabState) : LabState :=
  if heartbeatEventSeconds ≤ now - n.lastHeartbeatEvent then
    s.setNode { n with lastHeartbeatEvent := now }
      |>.recordLocked w { kind := .nodeHeartbeat, nodeId := some n.id, actor := "node" }
  else s

/-- Hand a dispatched task out once more. -/
def redeliverTask (w : World) (t : Task) (s : LabState) : LabState :=
  s.setTask { t with deliveryAttempts := t.deliveryAttempts + 1 }
    |>.recordLocked w
      { kind := .taskRedelivered, level := .warning, nodeId := some t.nodeId, taskId := some t.id
        actor := "node"
        data := t.eventData ++ [("delivery_attempt", .int (t.deliveryAttempts + 1))] }

/-- First delivery of a queued task. -/
def dispatchTask (w : World) (t : Task) (now : Instant) (s : LabState) : LabState :=
  s.tick
    |>.setTask { t with
        status := .dispatched, dispatchedAt := some (w.utcNow s.draws)
        deadline := some (now + taskTimeoutSeconds), queueDeadline := none, deliveryAttempts := 1 }
    |>.recordLocked w
      { kind := .task .dispatched, nodeId := some t.nodeId, taskId := some t.id, actor := "node"
        data := t.eventData }
    |>.auditLocked w
      { action := .task .dispatched, actor := "node", nodeId := some t.nodeId, taskId := some t.id
        correlationId := some t.correlationId, taskType := some t.command.taskType
        fromState := some "queued", toState := some "dispatched", outcome := "success" }

/-- The task a node is working on, if any. -/
def activeTask (nodeId : PyStr) (s : LabState) : Option Task :=
  s.tasks.values.find? fun t => t.nodeId = nodeId ∧ t.status = .dispatched

/-- The next task to dispatch to a node: the queued one created first. -/
def nextTask (nodeId : PyStr) (s : LabState) : Option Task :=
  firstMin Task.sequence
    (s.tasks.values.filter fun t => t.nodeId = nodeId ∧ t.status = .queued)

end LabState

/-- Choose the task a poll answers with. -/
def deliverTask (w : World) (nodeId : PyStr) (now : Instant) : Lab (Option NodeTask) := do
  let s ← get
  match s.activeTask nodeId with
  | some t => do
    modify fun s => s.redeliverTask w t
    let s ← get
    return (s.tasks.get? t.id).map Task.nodeTask
  | none =>
    match s.nextTask nodeId with
    | some t => do
      modify fun s => s.dispatchTask w t now
      let s ← get
      return (s.tasks.get? t.id).map Task.nodeTask
    | none => return none

/-- The reply of a poll; `server_time` reads the clock. -/
def pollReply (w : World) (nodeId : PyStr) (task : Option NodeTask) : Lab PollResponse := do
  let s ← get
  match s.nodes.get? nodeId with
  | none => throw (.py .keyError)
  | some n => do
    modify LabState.tick
    return { node := n.publicNode, task := task, serverTime := w.utcNow s.draws }

/-- The part of `poll_node` after the session check. -/
def pollSession (w : World) (node : Node) (now : Instant) : Lab PollResponse := do
  modify fun s => s.wakeNode w node now
  modify fun s =>
    match s.nodes.get? node.id with
    | none => s
    | some n => s.heartbeatNode w n now
  if node.taskingPaused then
    pollReply w node.id none
  else do
    let task ← deliverTask w node.id now
    pollReply w node.id task

/-- `poll_node`. -/
def pollNode (w : World) (nodeId sessionToken : Json) (now : Instant) : Lab PollResponse := do
  expireLocked w now
  let node ← requireNodeSessionLocked nodeId sessionToken
  pollSession w node now

/-! ### Results -/

namespace LabState

/-- `_reject_result_locked`, on a live task or on a tombstone. -/
def rejectResultLocked (w : World) (t : NodeTask) (reason : String) (s : LabState) : LabState :=
  s.recordLocked w
      { kind := .taskResultRejected, level := .warning, nodeId := some t.nodeId
        taskId := some t.id, correlationId := some t.correlationId, actor := "node"
        data := [("type", Vocabulary.toJson t.command.taskType), ("reason", .str reason)] }
    |>.auditLocked w
      { action := .taskResultRejected, actor := "node", nodeId := some t.nodeId
        taskId := some t.id, correlationId := some t.correlationId
        taskType := some t.command.taskType, fromState := some (Vocabulary.name t.status)
        toState := some (Vocabulary.name t.status), outcome := "denied", reason := some reason }

/-- Store an accepted result on its task and count it on the node. -/
def storeResult (w : World) (n : Node) (t : Task) (status : ResultStatus) (result : Json)
    (now : Instant) (s : LabState) : LabState :=
  s.tick.tick
    |>.setTask { t with
        status := status.taskStatus, result := some result, resultAccepted := true
        completedAt := some (w.utcNow s.draws), deadline := none }
    |>.setNode { n with
        lastSeen := w.utcNow (s.draws + 1), lastSeenMonotonic := now
        tasksCompleted := n.tasksCompleted + (if status = .completed then 1 else 0)
        tasksFailed := n.tasksFailed + (if status = .completed then 0 else 1) }

/-- `node["poll_interval_ms"] = ...; node["jitter_percent"] = ...`. -/
def applySettings (nodeId : PyStr) (interval jitter : ℤ) (s : LabState) : LabState :=
  match s.nodes.get? nodeId with
  | none => s
  | some n => s.setNode { n with pollIntervalMs := interval, jitterPercent := jitter }

/-- The event a completed `GENERATE_EVENT` asks for. -/
def generateEvent (w : World) (t : Task) (status : ResultStatus) (s : LabState) : LabState :=
  match t.command, status with
  | .generateEvent category severity message, .completed =>
    s.recordLocked w
      { kind := .nodeGeneratedEvent, level := severity, nodeId := some t.nodeId
        taskId := some t.id, correlationId := some t.correlationId, actor := "node"
        data := [("category", Vocabulary.toJson category), ("message", .str message)] }
  | _, _ => s

/-- The events and the audit entry of an accepted result. -/
def announceResult (w : World) (t : Task) (status : ResultStatus) (s : LabState) : LabState :=
  s.generateEvent w t status
    |>.recordLocked w
      { kind := .task status.taskStatus
        level := if status = .completed then .info else .warning
        nodeId := some t.nodeId, taskId := some t.id, actor := "node", data := t.eventData }
    |>.auditLocked w
      { action := .task status.taskStatus, actor := "node", nodeId := some t.nodeId
        taskId := some t.id, correlationId := some t.correlationId
        taskType := some t.command.taskType, fromState := some "dispatched"
        toState := some (Vocabulary.name status), outcome := Vocabulary.name status }

end LabState

/-- The integer under a key of a validated result. -/
def intItem (value : Json) (key : String) : Except Exc ℤ := do
  match ← item value key with
  | .int n => return n
  | _ => .error (.py .typeError)

/-- `expected_runtime` as `submit_result` builds it from the node record. -/
def Node.expectedRuntime (n : Node) : ExpectedRuntime :=
  { version := n.version, profile := n.profile, pollIntervalMs := n.pollIntervalMs
    jitterPercent := n.jitterPercent }

/-- Commit a validated result: the record, the settings a completed `SLEEP` changes, the events. -/
def acceptResult (w : World) (n : Node) (t : Task) (status : ResultStatus) (result : Json)
    (now : Instant) : Lab NodeTask := do
  modify fun s => s.storeResult w n t status result now
  if t.command.taskType = .sleep ∧ status = .completed then
    let interval ← check (intItem result "new_interval_ms")
    let jitter ← check (intItem result "jitter_percent")
    modify fun s => s.applySettings n.id interval jitter
  modify fun s => s.announceResult w t status
  refreshExercisesLocked w
  let s ← get
  match s.tasks.get? t.id with
  | some t => return t.nodeTask
  | none => throw (.py .keyError)

/-- The reply to a retry of an accepted result, or the conflict. -/
def replayResult (record : NodeTask) (status : ResultStatus) (result : Json) : Lab NodeTask :=
  let same := record.status = status.taskStatus ∧
    (match record.result with
      | some r => typeStrictEqual r result
      | none => false) = true
  if same then return record
  else throw (labError "task already has a different result" "result_conflict" 409)

/-- `except ProtocolError as error: reject; raise LabError(str(error), code="invalid_result")`. -/
def orReject {α : Type} (w : World) (t : NodeTask) (reason : String) (x : Except Exc α) : Lab α :=
  match x with
  | .ok a => pure a
  | .error (.protocol message) => do
    modify fun s => s.rejectResultLocked w t reason
    throw (.lab { message := message, code := "invalid_result" })
  | .error e => throw e

/-- The part of `submit_result` for a task that is still recorded. -/
def submitLive (w : World) (n : Node) (t : Task) (status : ResultStatus) (result : Json)
    (now : Instant) : Lab NodeTask :=
  if t.status = .completed ∨ t.status = .failed then replayResult t.nodeTask status result
  else if t.status ≠ .dispatched then
    throw (labError "task is not accepting a result" "invalid_task_state" 409)
  else do
    let (status, result) ← orReject w t.nodeTask "task_contract_mismatch"
      (validateTaskResult w.toInterp t.command (Vocabulary.toJson status) result
        (some n.expectedRuntime))
    acceptResult w n t status result now

/-- The part of `submit_result` after the session check. -/
def submitSession (w : World) (n : Node) (taskId status result : Json) (now : Instant) :
    Lab NodeTask := do
  let s ← get
  let task := match taskId with
    | .str id => s.tasks.get? id
    | _ => none
  let tombstone := match task, taskId with
    | none, .str id => s.taskResultTombstones.get? id
    | _, _ => none
  match task, tombstone with
  | some t, _ =>
    if t.nodeId = n.id then do
      let (status, result) ← orReject w t.nodeTask "invalid_result_envelope"
        (validateResult w.toInterp status result)
      submitLive w n t status result now
    else throw (labError "task not found for node" "not_found" 404)
  | none, some r =>
    if r.nodeId = n.id then do
      let (status, result) ← orReject w r "invalid_result_envelope"
        (validateResult w.toInterp status result)
      replayResult r status result
    else throw (labError "task not found for node" "not_found" 404)
  | none, none => throw (labError "task not found for node" "not_found" 404)

/-- `submit_result`. -/
def submitResult (w : World) (nodeId sessionToken taskId status result : Json) (now : Instant) :
    Lab NodeTask := do
  expireLocked w now
  let n ← requireNodeSessionLocked nodeId sessionToken
  submitSession w n taskId status result now

/-! ### Disconnecting -/

namespace LabState

/-- The node goes offline and its session ends. -/
def disconnectedNode (w : World) (n : Node) (previous : NodeStatus) (s : LabState) : LabState :=
  s.setNode { n with status := .offline }
    |>.recordLocked w
      { kind := .nodeDisconnected, level := .warning, nodeId := some n.id, actor := "node"
        data := [("session_invalidated", .bool true)] }
    |> fun s => s.tick.setNode
      { n with status := .offline, sessionActive := false, sessionToken := .text (w.token s.draws) }
    |>.auditLocked w
      { action := .nodeDisconnected, actor := "node", nodeId := some n.id
        fromState := some previous.name, toState := some "offline", outcome := "success"
        reason := some "session_invalidated" }

end LabState

/-- `disconnect_node`; it does not run the expiry pass. -/
def disconnectNode (w : World) (nodeId sessionToken : Json) : Lab PublicNode := do
  let n ← requireNodeSessionLocked nodeId sessionToken
  failUnfinishedTasksLocked w n.id "node_disconnected"
    "node session closed before task completion"
  let s ← get
  match s.nodes.get? n.id with
  | none => throw (.py .keyError)
  | some current => do
    modify fun s => s.disconnectedNode w current n.status
    let s ← get
    match s.nodes.get? n.id with
    | some n => return n.publicNode
    | none => throw (.py .keyError)

end C2Lab
