import C2Lab.Node.Client

/-! The Node's work, `NodeExecutor` of `node.py`.

    A task is executed in two steps, the check of its envelope and the handler of its type; whatever
    a handler raises becomes one of two failure codes. The clock and the files of the workspace are
    what an execution finds around it; the last thing the workspace does with a playbook is to check
    its own result against the contract. -/

namespace C2Lab

variable (py : Interp)

/-- What an execution finds around it: the uptime, and the evidence the workspace collects for a
    playbook or the failure it collects it with. -/
structure Surroundings where
  uptimeMs : ℕ
  evidence : Playbook → Except Exc (List Json)

/-- `EphemeralLabWorkspace.execute`: the result is assembled and checked before it is returned. -/
def LabRuntime.execute (depth : ℕ) (p : Playbook) (evidence : Except Exc (List Json)) :
    Except Exc Json := do
  let evidence ← evidence
  validatePlaybookResult depth (Vocabulary.toJson p)
    (.dict [("playbook", Vocabulary.toJson p), ("scope", scope),
      ("attack_techniques", attackTechniques p), ("steps", steps p), ("evidence", .arr evidence)])

/-- `value == n` for an integer `n`, which a boolean or a float may equal too. -/
def Json.eqInt : Json → ℤ → Bool
  | .int m, n => m = n
  | .bool b, n => (if b then 1 else 0) = n
  | .float (.finite d), n =>
    let magnitude := d.mantissa * 10 ^ d.exponent.toNat
    (0 ≤ d.exponent ∨ d.mantissa = 0) ∧ (if d.neg then -(magnitude : ℤ) else magnitude) = n
  | _, _ => false

/-- A `NodeExecutor`; its workspace exists when the profile is `purple_lab`. -/
structure NodeExecutor where
  version : PyStr
  profile : Profile
  pollIntervalMs : ℤ
  jitterPercent : ℤ
  tasksCompleted : ℕ
  deriving DecidableEq

namespace NodeExecutor

/-- The answer to `RUNTIME_STATUS`. -/
def runtimeStatus (x : NodeExecutor) (uptimeMs : ℕ) : Json :=
  .dict [("version", .str x.version), ("profile", Vocabulary.toJson x.profile),
    ("uptime_ms", .int uptimeMs), ("tasks_completed", .int x.tasksCompleted),
    ("poll_interval_ms", .int x.pollIntervalMs), ("jitter_percent", .int x.jitterPercent)]

/-- The handler of a validated task. -/
def handle (x : NodeExecutor) (around : Surroundings) : Command → Except Exc Json
  | .ping => .ok (.dict [("reply", .str "PONG")])
  | .runtimeStatus => .ok (x.runtimeStatus around.uptimeMs)
  | .echoText text => .ok (.dict [("echo", .str text)])
  | .hashText text => .ok (.dict [("algorithm", .str "sha256"),
      ("digest", .str (String.ofList (Sha256.hexdigest (expectedResult.utf8 text))))])
  | .wait ms => .ok (.dict [("waited_ms", .int ms)])
  | .sleep interval jitter => .ok (.dict [("previous_interval_ms", .int x.pollIntervalMs),
      ("new_interval_ms", .int interval), ("jitter_percent", .int jitter)])
  | .exit => .ok (.dict [("acknowledged", .bool true)])
  | .runPlaybook p =>
    if x.profile = .purpleLab then LabRuntime.execute py.jsonDepth p (around.evidence p)
    else .error (protocolError "playbook execution requires the purple_lab profile")
  | .generateEvent category severity message => .ok (.dict [("recorded", .bool true),
      ("category", Vocabulary.toJson category), ("severity", Vocabulary.toJson severity),
      ("message", .str message)])

/-- The `try` block of `execute`. -/
def attempt (x : NodeExecutor) (around : Surroundings) (task : Json) : Except Exc Json :=
  match task with
  | .obj _ => do
    let command ← validateTaskPayload py (task.getNone "type") (task.getNone "payload")
    ensure (command.taskType ∈ nodeProfiles x.profile)
      (protocolError "task is outside the node profile")
    x.handle py around command
  | _ => .error (protocolError "task envelope must be an object")

/-- `execute`. -/
def execute (x : NodeExecutor) (around : Surroundings) (task : Json) : ResultStatus × Json :=
  let failure (code : FailureCode) : ResultStatus × Json :=
    (.failed, .dict [("error_code", Vocabulary.toJson code)])
  match x.attempt py around task with
  | .ok result => (.completed, result)
  | .error (.protocol _) => failure .invalidTask
  | .error _ => failure .handlerFailed

/-- The part of `acknowledge` about a completed `SLEEP`. The source assigns the interval before it
    checks the jitter, so a raise in between would leave it assigned; a result the Teamserver
    accepted never gets there. -/
def acknowledgeSleep (x : NodeExecutor) (result : Json) (fields : List (PyStr × Json)) :
    Except Exc NodeExecutor := do
  ensure (hasExactKeys fields ["previous_interval_ms", "new_interval_ms", "jitter_percent"] ∧
      (result.getNone "previous_interval_ms").eqInt x.pollIntervalMs)
    (protocolError "acknowledged sleep result does not match runtime state")
  let interval ← validatePollInterval (← item result "new_interval_ms")
  let jitter ← validateJitterPercent (← item result "jitter_percent")
  return { x with pollIntervalMs := interval, jitterPercent := jitter }

/-- `acknowledge`. -/
def acknowledge (x : NodeExecutor) (taskType : Json) (status : ResultStatus) (result : Json) :
    Except Exc NodeExecutor :=
  if status ≠ .completed then .ok x
  else
    match (Vocabulary.parse taskType : Option TaskType) with
    | none => .error (protocolError "acknowledged task is outside the node profile")
    | some t =>
      if t ∉ nodeProfiles x.profile then
        .error (protocolError "acknowledged task is outside the node profile")
      else
        match result with
        | .obj fields => do
          let x ← if t = .sleep then x.acknowledgeSleep result fields else .ok x
          return { x with tasksCompleted := x.tasksCompleted + 1 }
        | _ => .error (protocolError "acknowledged result must be an object")

end NodeExecutor

end C2Lab
