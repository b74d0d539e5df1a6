import C2Lab.Core.NodeOps

/-! The Node's side of the wire, `NodeClient` of `node.py`.

    The replies of the Teamserver as the JSON documents a Node receives, and the checks the client
    makes on them and on what it is about to send. The text of a timestamp is a parameter: no check
    reads one. -/

namespace C2Lab

/-! ### Replies -/

section
variable (isoformat : Timestamp → String)

/-- A timestamp that may be missing. -/
def stampJson (time : Option Timestamp) : Json :=
  match time with
  | none => .null
  | some t => .str (isoformat t)

/-- The document of `_node_task`. -/
def NodeTask.toJson (r : NodeTask) : Json :=
  .dict [("id", .str r.id), ("correlation_id", .str r.correlationId), ("node_id", .str r.nodeId),
    ("type", Vocabulary.toJson r.command.taskType), ("payload", r.command.payload),
    ("status", Vocabulary.toJson r.status), ("result", r.result.getD .null),
    ("created_at", .str (isoformat r.createdAt)), ("queue_ttl_seconds", .int r.queueTtlSeconds),
    ("dispatched_at", stampJson isoformat r.dispatchedAt),
    ("completed_at", stampJson isoformat r.completedAt),
    ("delivery_attempts", .int r.deliveryAttempts)]

/-- The document of `_public_node`. -/
def PublicNode.toJson (n : PublicNode) : Json :=
  .dict [("id", .str n.id), ("name", .str n.name), ("status", .str n.status.name),
    ("session_active", .bool n.sessionActive), ("version", .str n.version),
    ("profile", Vocabulary.toJson n.profile), ("transport", .str "loopback-http-poll/v1"),
    ("capabilities", .arr (n.capabilities.map Vocabulary.toJson)),
    ("poll_interval_ms", .int n.pollIntervalMs), ("jitter_percent", .int n.jitterPercent),
    ("created_at", .str (isoformat n.createdAt)), ("last_seen", .str (isoformat n.lastSeen)),
    ("tasks_completed", .int n.tasksCompleted), ("tasks_failed", .int n.tasksFailed),
    ("tasking_paused", .bool n.taskingPaused),
    ("tasking_paused_at", stampJson isoformat n.taskingPausedAt),
    ("tasking_paused_by", match n.taskingPausedBy with
      | none => .null
      | some actor => .str actor)]

/-- The reply to an enrollment. -/
def EnrollResponse.toJson (r : EnrollResponse) : Json :=
  .dict [("node", r.node.toJson isoformat), ("session_token", .str r.sessionToken)]

/-- The reply to a poll. -/
def PollResponse.toJson (r : PollResponse) : Json :=
  .dict [("node", r.node.toJson isoformat),
    ("task", match r.task with
      | none => .null
      | some t => t.toJson isoformat),
    ("server_time", .str (isoformat r.serverTime))]

end

/-! ### The client's errors -/

/-- `NodeClientError`. -/
structure NodeClientError where
  message : PyStr
  status : Option ℕ := none
  code : String := "client_error"
  deriving DecidableEq

/-- What a call of the client raises: its own error, or anything else it does not catch. -/
inductive ClientExc where
  | client (e : NodeClientError)
  | other (e : Exc)
  deriving DecidableEq

/-- `except ProtocolError as error: raise NodeClientError(message)`. -/
def asClientError {α : Type} (message : String) : Except Exc α → Except ClientExc α
  | .ok a => .ok a
  | .error (.protocol _) => .error (.client { message := message })
  | .error e => .error (.other e)

/-! ### The client's checks -/

/-- The characters of a hexadecimal digit. -/
def hexDigits : List ℕ := "0123456789abcdef".toList.map Char.toNat

/-- `_is_hex_identifier`. -/
def isHexIdentifier (value : Json) (pre : String) (digits : ℕ) : Bool :=
  match value with
  | .str s =>
    let head := pre.toList.map Char.toNat
    head.isPrefixOf s.codes && s.len == head.length + digits &&
      (s.codes.drop head.length).all hexDigits.contains
  | _ => false

/-- `value.get(key)` on a `dict`, `None` if the key is missing. -/
def Json.getNone (value : Json) (key : String) : Json := (value.get? key).getD .null

namespace NodeClient

/-- The check of `enroll`: the identifier and the token of the new session. -/
def enrollment (payload : Json) : Except ClientExc (PyStr × PyStr) :=
  let invalid : NodeClientError :=
      { message := "teamserver returned an invalid enrollment response" }
  match payload.getNone "node", payload.getNone "session_token" with
  | .obj node, .str token =>
    match (Json.obj node).getNone "id" with
    | .str id =>
      if isHexIdentifier (.str id) "node-" 10 ∧ 16 ≤ token.len then .ok (id, token)
      else .error (.client invalid)
    | _ => .error (.client invalid)
  | _, _ => .error (.client invalid)

/-- The checks of `poll` on the envelope of a task. -/
def envelope (py : Interp) (nodeId : PyStr) (task : Json) : Except ClientExc Command :=
  match task with
  | .obj _ =>
    if isHexIdentifier (task.getNone "id") "task-" 12 ∧
        isHexIdentifier (task.getNone "correlation_id") "corr-" 12 ∧
        (task.getNone "node_id").eqStr nodeId ∧ (task.getNone "status").eqStr "dispatched" then
      asClientError "teamserver returned an invalid task payload"
        (validateTaskPayload py (task.getNone "type") (task.getNone "payload"))
    else .error (.client { message := "teamserver returned an invalid task envelope" })
  | _ => .error (.client { message := "teamserver returned an invalid task envelope" })

/-- `poll` once the reply arrived: the task it brings, if any. -/
def polled (py : Interp) (nodeId : PyStr) (response : Json) : Except ClientExc (Option Json) :=
  match response.getNone "task" with
  | .null => .ok none
  | task => do
    let _ ← envelope py nodeId task
    return some task

/-- The checks of `submit_result` before it sends anything. -/
def submission (py : Interp) (taskId : PyStr) (status result : Json) :
    Except ClientExc (ResultStatus × Json) :=
  if isHexIdentifier (.str taskId) "task-" 12 then
    asClientError "invalid task result" (validateResult py status result)
  else .error (.client { message := "invalid task identifier" })

end NodeClient

/-! ### Identifiers the Teamserver draws -/

variable {w : World}

/-- An identifier made from a draw passes the client's check. -/
theorem isHexIdentifier_ident (pre : String) {k : ℕ} (hk : k ≤ 32) (n : ℕ) :
    isHexIdentifier (.str (w.ident pre k n)) pre k = true := by
  obtain ⟨hlen, hhex⟩ := w.uuid_hex n
  simp only [isHexIdentifier, World.ident, PyStr.codes, PyStr.len, String.toList_ofList,
    List.map_append, Bool.and_eq_true, beq_iff_eq, List.all_eq_true]
  refine ⟨⟨?_, ?_⟩, ?_⟩
  · simp
  · simp [hlen, Nat.min_eq_left hk]
  · intro c hc
    rw [List.drop_left] at hc
    obtain ⟨d, hd, rfl⟩ := List.mem_map.mp hc
    rw [List.contains_iff_mem]
    exact List.mem_map_of_mem (hhex d (List.mem_of_mem_take hd))

end C2Lab
