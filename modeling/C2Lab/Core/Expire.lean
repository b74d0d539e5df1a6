import C2Lab.Core.Refresh

/-! `_fail_unfinished_tasks_locked` and `_expire_locked`. -/

namespace C2Lab

/-- `{"reason": ...}`. -/
def reasonResult (reason : String) : Json := .dict [("reason", .str reason)]

/-- `{"error": ...}`. -/
def errorResult (message : String) : Json := .dict [("error", .str message)]

namespace LabState

/-- Fail one unfinished task of a session that is being closed, and count it. -/
def failTask (w : World) (n : Node) (t : Task) (reason resultMessage : String) (s : LabState) :
    LabState :=
  s.tick
    |>.setTask { t with
        status := .failed, result := some (errorResult resultMessage)
        completedAt := some (w.utcNow s.draws), deadline := none, queueDeadline := none }
    |>.setNode { n with tasksFailed := n.tasksFailed + 1 }
    |>.recordLocked w
      { kind := .task .failed, level := .warning, nodeId := some n.id, taskId := some t.id
        correlationId := some t.correlationId
        data := t.eventData ++ [("reason", .str reason)] }
    |>.auditLocked w
      { action := .task .failed, actor := "teamserver", nodeId := some n.id, taskId := some t.id
        correlationId := some t.correlationId, taskType := some t.command.taskType
        fromState := some (Vocabulary.name t.status), toState := some "failed"
        outcome := "failed", reason := some reason }

/-- A queued task whose TTL ran out. -/
def expireTask (w : World) (t : Task) (s : LabState) : LabState :=
  s.tick
    |>.setTask { t with
        status := .expired, completedAt := some (w.utcNow s.draws)
        result := some (reasonResult "queue_ttl_exceeded"), queueDeadline := none }
    |>.recordLocked w
      { kind := .task .expired, level := .warning, nodeId := some t.nodeId, taskId := some t.id
        correlationId := some t.correlationId
        data := t.eventData ++ [("reason", .str "queue_ttl_exceeded")] }
    |>.auditLocked w
      { action := .task .expired, actor := "teamserver", nodeId := some t.nodeId
        taskId := some t.id, correlationId := some t.correlationId
        taskType := some t.command.taskType, fromState := some "queued"
        toState := some "expired", outcome := "expired", reason := some "queue_ttl_exceeded" }

/-- `node["tasks_failed"] += 1` when the node still exists. -/
def countFailure (nodeId : PyStr) (s : LabState) : LabState :=
  match s.nodes.get? nodeId with
  | none => s
  | some n => s.setNode { n with tasksFailed := n.tasksFailed + 1 }

/-- A dispatched task whose deadline passed. -/
def timeoutTask (w : World) (t : Task) (s : LabState) : LabState :=
  s.tick
    |>.setTask { t with
        status := .timeout, completedAt := some (w.utcNow s.draws)
        result := some (errorResult "node did not return before the task deadline")
        deadline := none }
    |>.countFailure t.nodeId
    |>.recordLocked w
      { kind := .task .timeout, level := .warning, nodeId := some t.nodeId, taskId := some t.id
        data := t.eventData }
    |>.auditLocked w
      { action := .task .timeout, actor := "teamserver", nodeId := some t.nodeId
        taskId := some t.id, correlationId := some t.correlationId
        taskType := some t.command.taskType, fromState := some "dispatched"
        toState := some "timeout", outcome := "timeout", reason := some "deadline_exceeded" }

/-- `max(NODE_STALE_SECONDS, (node["poll_interval_ms"] / 1_000) * 3)`. -/
def staleAfter (n : Node) : ℚ := max nodeStaleSeconds (n.pollIntervalMs / 1000 * 3)

/-- A silent online node goes offline. -/
def staleNode (w : World) (n : Node) (s : LabState) : LabState :=
  s.setNode { n with status := .offline }
    |>.recordLocked w
      { kind := .nodeStale, level := .warning, nodeId := some n.id
        data := [("stale_after_seconds",
          .float (.ofMillis (max 8000 (n.pollIntervalMs * 3)).toNat))] }
    |>.auditLocked w
      { action := .nodeStale, actor := "teamserver", nodeId := some n.id
        fromState := some "online", toState := some "offline", outcome := "success"
        reason := some "heartbeat_timeout" }

/-- The session of an offline node ends: its token is replaced by one nobody holds. -/
def closeSession (w : World) (n : Node) (s : LabState) : LabState :=
  s.tick
    |>.setNode { n with sessionActive := false, sessionToken := .text (w.token s.draws) }
    |>.recordLocked w
      { kind := .nodeSessionExpired, level := .warning, nodeId := some n.id
        data := [("session_invalidated", .bool true), 
          ("offline_ttl_seconds", .float (.ofMillis 60000))] }
    |>.auditLocked w
      { action := .nodeSessionExpired, actor := "teamserver", nodeId := some n.id
        fromState := some "offline", toState := some "offline", outcome := "success"
        reason := some "offline_session_ttl_exceeded" }

end LabState

/-- The loop body of `_fail_unfinished_tasks_locked`. -/
def failUnfinishedTask (w : World) (nodeId : PyStr) (reason resultMessage : String)
    (taskId : PyStr) : Lab Unit :=
  modify fun s =>
    match s.nodes.get? nodeId, s.tasks.get? taskId with
    | some n, some t =>
      if t.nodeId = nodeId ∧ (t.status = .queued ∨ t.status = .dispatched) then
        s.failTask w n t reason resultMessage
      else s
    | _, _ => s

/-- `_fail_unfinished_tasks_locked`. -/
def failUnfinishedTasksLocked (w : World) (nodeId : PyStr) (reason resultMessage : String) :
    Lab Unit := do
  let s ← get
  forM s.tasks.keys (failUnfinishedTask w nodeId reason resultMessage)
  refreshExercisesLocked w

/-- The first pass of `_expire_locked` on one task. -/
def expireQueued (w : World) (now : Instant) (taskId : PyStr) : Lab Unit :=
  modify fun s =>
    match s.tasks.get? taskId with
    | none => s
    | some t =>
      match t.queueDeadline with
      | none => s
      | some d => if t.status ≠ .queued ∨ now < d then s else s.expireTask w t

/-- The second pass on one task; comparing with a missing deadline is a `TypeError`. -/
def expireDispatched (w : World) (now : Instant) (taskId : PyStr) : Lab Unit := do
  let s ← get
  match s.tasks.get? taskId with
  | none => pure ()
  | some t =>
    if t.status ≠ .dispatched then pure ()
    else
      match t.deadline with
      | none => throw (.py .typeError)
      | some d => if now < d then pure () else modify fun s => s.timeoutTask w t

/-- The staleness check of the third pass; `node` is the record as the loop sees it. -/
def expireOnline (w : World) (now : Instant) (nodeId : PyStr) : Lab Unit :=
  modify fun s =>
    match s.nodes.get? nodeId with
    | none => s
    | some n =>
      if n.status = .online ∧ LabState.staleAfter n ≤ now - n.lastSeenMonotonic then s.staleNode w n
      else s

/-- The session check of the third pass. -/
def expireSession (w : World) (now : Instant) (nodeId : PyStr) : Lab Unit := do
  let s ← get
  match s.nodes.get? nodeId with
  | none => pure ()
  | some n =>
    if n.status = .offline ∧ n.sessionActive = true ∧
        staleSessionTtlSeconds ≤ now - n.lastSeenMonotonic - LabState.staleAfter n then
      failUnfinishedTasksLocked w nodeId "node_session_expired"
        "node session expired before task completion"
      modify fun s =>
        match s.nodes.get? nodeId with
        | none => s
        | some n => s.closeSession w n

/-- The third pass on one node. -/
def expireNode (w : World) (now : Instant) (nodeId : PyStr) : Lab Unit := do
  expireOnline w now nodeId
  expireSession w now nodeId

/-- `_expire_locked`: queued tasks, dispatched tasks, nodes, then the exercises. -/
def expireLocked (w : World) (now : Instant) : Lab Unit := do
  let s ← get
  forM s.tasks.keys (expireQueued w now)
  let s ← get
  forM s.tasks.keys (expireDispatched w now)
  let s ← get
  forM s.nodes.keys (expireNode w now)
  refreshExercisesLocked w

end C2Lab
