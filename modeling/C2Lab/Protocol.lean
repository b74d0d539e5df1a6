import Mathlib.Data.List.Lex
import C2Lab.LabRuntime

/-! The typed task protocol shared by the Teamserver and the Node, `protocol.py`.

    A validated task is a `Command`: its type and payload in one value, so that a payload of the
    wrong type cannot be paired with a task. `Command.taskType` and `Command.payload` give back the
    two JSON halves the source keeps in its dictionaries. -/

namespace C2Lab

open Json (dict)

/-- What the interpreter contributes: the Unicode tables behind `str.isprintable`, and how deep
    `json.dumps` may recurse. -/
structure Interp where
  isprintable : Char → Bool
  jsonDepth : ℕ
  jsonDepth_ge : 16 ≤ jsonDepth

def maxTextLength : ℕ := 240

def maxWaitMs : ℤ := 2000

def minPollIntervalMs : ℤ := 250

def maxPollIntervalMs : ℤ := 3000

def maxJitterPercent : ℤ := 50

def maxResultBytes : ℕ := 4096

/-- `TASK_TYPES`. -/
inductive TaskType where
  | ping
  | runtimeStatus
  | echoText
  | hashText
  | wait
  | generateEvent
  | sleep
  | exit
  | runPlaybook
  deriving DecidableEq, Repr

instance : Vocabulary TaskType where
  all := [.ping, .runtimeStatus, .echoText, .hashText, .wait, .generateEvent, .sleep, .exit,
    .runPlaybook]
  name
    | .ping => "PING"
    | .runtimeStatus => "RUNTIME_STATUS"
    | .echoText => "ECHO_TEXT"
    | .hashText => "HASH_TEXT"
    | .wait => "WAIT"
    | .generateEvent => "GENERATE_EVENT"
    | .sleep => "SLEEP"
    | .exit => "EXIT"
    | .runPlaybook => "RUN_PLAYBOOK"
  mem_all a := by cases a <;> simp
  name_inj a b h := by cases a <;> cases b <;> simp_all

/-- The keys of `NODE_PROFILES`. -/
inductive Profile where
  | basic
  | training
  | purpleLab
  deriving DecidableEq, Repr

instance : Vocabulary Profile where
  all := [.basic, .training, .purpleLab]
  name
    | .basic => "basic"
    | .training => "training"
    | .purpleLab => "purple_lab"
  mem_all a := by cases a <;> simp
  name_inj a b h := by cases a <;> cases b <;> simp_all

/-- `NODE_PROFILES[profile]`. -/
def nodeProfiles : Profile → List TaskType
  | .basic => [.ping, .runtimeStatus, .echoText, .hashText]
  | .training =>
    [.ping, .runtimeStatus, .echoText, .hashText, .wait, .generateEvent, .sleep, .exit]
  | .purpleLab =>
    [.ping, .runtimeStatus, .echoText, .hashText, .wait, .generateEvent, .sleep, .exit,
      .runPlaybook]

/-- The `category` of a `GENERATE_EVENT` payload. -/
inductive Category where
  | training
  | telemetry
  | policy
  deriving DecidableEq, Repr

instance : Vocabulary Category where
  all := [.training, .telemetry, .policy]
  name
    | .training => "training"
    | .telemetry => "telemetry"
    | .policy => "policy"
  mem_all a := by cases a <;> simp
  name_inj a b h := by cases a <;> cases b <;> simp_all

/-- The `severity` of a `GENERATE_EVENT` payload, and the level of an event. -/
inductive Level where
  | info
  | warning
  deriving DecidableEq, Repr

instance : Vocabulary Level where
  all := [.info, .warning]
  name
    | .info => "info"
    | .warning => "warning"
  mem_all a := by cases a <;> simp
  name_inj a b h := by cases a <;> cases b <;> simp_all

/-- The statuses a Node may report. -/
inductive ResultStatus where
  | completed
  | failed
  deriving DecidableEq, Repr

instance : Vocabulary ResultStatus where
  all := [.completed, .failed]
  name
    | .completed => "completed"
    | .failed => "failed"
  mem_all a := by cases a <;> simp
  name_inj a b h := by cases a <;> cases b <;> simp_all

/-- `NODE_FAILURE_CODES`. -/
inductive FailureCode where
  | invalidTask
  | handlerFailed
  deriving DecidableEq, Repr

instance : Vocabulary FailureCode where
  all := [.invalidTask, .handlerFailed]
  name
    | .invalidTask => "INVALID_TASK"
    | .handlerFailed => "HANDLER_FAILED"
  mem_all a := by cases a <;> simp
  name_inj a b h := by cases a <;> cases b <;> simp_all

/-- A validated task type together with its validated payload. -/
inductive Command where
  | ping
  | runtimeStatus
  | echoText (text : PyStr)
  | hashText (text : PyStr)
  | wait (milliseconds : ℤ)
  | generateEvent (category : Category) (severity : Level) (message : PyStr)
  | sleep (intervalMs jitterPercent : ℤ)
  | exit
  | runPlaybook (playbook : Playbook)
  deriving DecidableEq

namespace Command

/-- `task["type"]`. -/
def taskType : Command → TaskType
  | ping => .ping
  | runtimeStatus => .runtimeStatus
  | echoText _ => .echoText
  | hashText _ => .hashText
  | wait _ => .wait
  | generateEvent _ _ _ => .generateEvent
  | sleep _ _ => .sleep
  | exit => .exit
  | runPlaybook _ => .runPlaybook

/-- `task["payload"]`. -/
def payload : Command → Json
  | ping | runtimeStatus | exit => dict []
  | echoText text | hashText text => dict [("text", .str text)]
  | wait ms => dict [("milliseconds", .int ms)]
  | generateEvent category severity message =>
    dict [("category", Vocabulary.toJson category), ("severity", Vocabulary.toJson severity),
      ("message", .str message)]
  | sleep interval jitter => dict [("interval_ms", .int interval), ("jitter_percent", .int jitter)]
  | runPlaybook playbook => dict [("playbook", Vocabulary.toJson playbook)]

end Command

/-- `ProtocolError(message)`. -/
def protocolError (message : PyStr) : Exc := .protocol message

/-- `clean_text` with `minimum=1`. -/
def cleanText (py : Interp) (value : Json) (field : String) (maximum : ℕ) : Except Exc PyStr :=
  match value with
  | .str s =>
    let cleaned := s.strip
    if 1 ≤ cleaned.len ∧ cleaned.len ≤ maximum then
      if cleaned.allChars fun c => py.isprintable c || c == '\n' || c == '\t' then .ok cleaned
      else .error (protocolError s!"{field} contains unsupported control characters")
    else .error (protocolError s!"{field} must be 1 to {maximum} characters")
  | _ => .error (protocolError s!"{field} must be a string")

/-- `sorted` on strings, by code points. -/
def sortStrs (keys : List PyStr) : List PyStr :=
  keys.mergeSort fun a b => decide (a.codes ≤ b.codes)

/-- The message of a failed `exact_keys`. -/
def keysMessage (fields : List (PyStr × Json)) (expected : List String) : PyStr :=
  let missing := sortStrs ((expected.map PyStr.text).filter fun k =>
    !(fields.map Prod.fst).contains k)
  let extra := sortStrs ((fields.map Prod.fst).filter fun k =>
    !(expected.map PyStr.text).contains k)
  let details : List PyStr :=
    (if missing = [] then [] else [("missing: " : PyStr) ++ PyStr.join ", " missing]) ++
    (if extra = [] then [] else [("unexpected: " : PyStr) ++ PyStr.join ", " extra])
  ("invalid payload fields (" : PyStr) ++ PyStr.join "; " details ++ (")" : PyStr)

/-- `exact_keys`. -/
def exactKeys (fields : List (PyStr × Json)) (expected : List String) : Except Exc Unit :=
  if hasExactKeys fields expected then .ok ()
    else .error (protocolError (keysMessage fields expected))

/-- `validate_profile`. -/
def validateProfile (profile : Json) : Except Exc Profile :=
  match (Vocabulary.parse profile : Option Profile) with
  | some p => .ok p
  | none => .error (protocolError s!"profile must be one of: {Vocabulary.names Profile}")

/-- `capabilities == expected`: a list of the same strings. -/
def matchesCapabilities : List Json → List TaskType → Bool
  | [], [] => true
  | c :: cs, t :: ts => c.eqStr (Vocabulary.name t) && matchesCapabilities cs ts
  | _, _ => false

/-- `validate_capabilities`; the profile is returned with its capability list. -/
def validateCapabilities (profile capabilities : Json) : Except Exc (Profile × List TaskType) := do
  let p ← validateProfile profile
  let expected := nodeProfiles p
  match capabilities with
  | .arr cs =>
    if matchesCapabilities cs expected then return (p, expected)
    else .error (protocolError s!"capabilities must exactly match the {Vocabulary.name p} profile")
  | _ => .error (protocolError s!"capabilities must exactly match the {Vocabulary.name p} profile")

/-- `is_int(value) and low <= value <= high`, or the message. -/
def boundedInt (value : Json) (low high : ℤ) (message : String) : Except Exc ℤ :=
  match value with
  | .int n => if low ≤ n ∧ n ≤ high then .ok n else .error (protocolError message)
  | _ => .error (protocolError message)

/-- `validate_poll_interval`. -/
def validatePollInterval (value : Json) : Except Exc ℤ :=
  boundedInt value minPollIntervalMs maxPollIntervalMs
    s!"poll_interval_ms must be an integer from {minPollIntervalMs} to {maxPollIntervalMs}"

/-- `validate_jitter_percent`. -/
def validateJitterPercent (value : Json) : Except Exc ℤ :=
  boundedInt value 0 maxJitterPercent
    s!"jitter_percent must be an integer from 0 to {maxJitterPercent}"

/-- The membership tests of the `GENERATE_EVENT` payload. -/
def oneOf (α : Type) [Vocabulary α] (value : Json) (message : String) : Except Exc α :=
  match (Vocabulary.parse value : Option α) with
  | some a => .ok a
  | none => .error (protocolError message)

/-- `validate_task_payload` once the type is known and the payload is a `dict`. -/
def validateFields (py : Interp) (taskType : TaskType) (payload : Json)
    (fields : List (PyStr × Json)) : Except Exc Command :=
  match taskType with
  | .ping => do
    exactKeys fields []
    return .ping
  | .runtimeStatus => do
    exactKeys fields []
    return .runtimeStatus
  | .echoText => do
    exactKeys fields ["text"]
    let text ← cleanText py (← item payload "text") "text" maxTextLength
    return .echoText text
  | .hashText => do
    exactKeys fields ["text"]
    let text ← cleanText py (← item payload "text") "text" maxTextLength
    return .hashText text
  | .wait => do
    exactKeys fields ["milliseconds"]
    let ms ← boundedInt (← item payload "milliseconds") 0 maxWaitMs
      s!"milliseconds must be an integer from 0 to {maxWaitMs}"
    return .wait ms
  | .sleep => do
    exactKeys fields ["interval_ms", "jitter_percent"]
    let interval ← boundedInt (← item payload "interval_ms") minPollIntervalMs maxPollIntervalMs
      s!"interval_ms must be an integer from {minPollIntervalMs} to {maxPollIntervalMs}"
    let jitter ← validateJitterPercent (← item payload "jitter_percent")
    return .sleep interval jitter
  | .exit => do
    exactKeys fields []
    return .exit
  | .runPlaybook => do
    exactKeys fields ["playbook"]
    let playbook ← oneOf Playbook (← item payload "playbook")
      s!"playbook must be one of: {Vocabulary.names Playbook}"
    return .runPlaybook playbook
  | .generateEvent => do
    exactKeys fields ["category", "severity", "message"]
    let category ← oneOf Category (← item payload "category")
      "category must be training, telemetry, or policy"
    let severity ← oneOf Level (← item payload "severity") "severity must be info or warning"
    let message ← cleanText py (← item payload "message") "message" maxTextLength
    return .generateEvent category severity message

/-- `validate_task_payload`. -/
def validateTaskPayload (py : Interp) (taskType payload : Json) : Except Exc Command :=
  match (Vocabulary.parse taskType : Option TaskType) with
  | none => .error (protocolError s!"task type must be one of: {Vocabulary.names TaskType}")
  | some t =>
    match payload with
    | .obj fields => validateFields py t payload fields
    | _ => .error (protocolError "payload must be a JSON object")

/-- `validate_result`: `RecursionError` is not among the errors it catches. -/
def validateResult (py : Interp) (status result : Json) : Except Exc (ResultStatus × Json) :=
  match (Vocabulary.parse status : Option ResultStatus) with
  | none => .error (protocolError "result status must be completed or failed")
  | some st =>
    match result with
    | .obj _ =>
      match result.encodedSize py.jsonDepth with
      | .error e =>
        if e.isTypeOrValueError then
          .error (protocolError "result must contain JSON-compatible values")
        else .error (.py e)
      | .ok size =>
        if size ≤ maxResultBytes then .ok (st, result)
        else .error (protocolError s!"result must be at most {maxResultBytes} bytes")
    | _ => .error (protocolError "result must be a JSON object")

/-- `expected_runtime`: what the Teamserver knows of the Node. -/
structure ExpectedRuntime where
  version : PyStr
  profile : Profile
  pollIntervalMs : ℤ
  jitterPercent : ℤ
  deriving DecidableEq

/-- A result that must be one fixed object. -/
def fixedResult (result : Json) (expected : Json) (message : String) : Except Exc Json :=
  if sameJsonValue result expected then .ok expected else .error (protocolError message)

/-- The object a Node must answer with, for the task types that leave it no choice. -/
def expectedResult : Command → Option Json
  | .ping => some (dict [("reply", .str "PONG")])
  | .echoText text => some (dict [("echo", .str text)])
  | .hashText text => some (dict [("algorithm", .str "sha256"),
      ("digest", .str (String.ofList (Sha256.hexdigest (utf8 text))))])
  | .wait ms => some (dict [("waited_ms", .int ms)])
  | .exit => some (dict [("acknowledged", .bool true)])
  | .generateEvent category severity message => some (dict [("recorded", .bool true),
      ("category", Vocabulary.toJson category), ("severity", Vocabulary.toJson severity),
      ("message", .str message)])
  | _ => none
where
  /-- `text.encode("utf-8")`; a validated text has no lone surrogate. -/
  utf8 : PyStr → List ℕ
    | .text s => s.toUTF8.toList.map UInt8.toNat
    | .lone _ _ => []

/-- The message of a mismatch with `expectedResult`. -/
def mismatchMessage : Command → String
  | .ping => "PING result must be the fixed PONG response"
  | .echoText _ => "ECHO_TEXT result must match the queued text"
  | .hashText _ => "HASH_TEXT result must match the queued text digest"
  | .wait _ => "WAIT result must match the bounded wait request"
  | .exit => "EXIT result must be the fixed acknowledgement"
  | .generateEvent _ _ _ => "GENERATE_EVENT result must match the queued event"
  | _ => "result task type is unsupported"

/-- The `RUNTIME_STATUS` contract: the version is normalised before it is compared and stored. -/
def validateRuntimeStatus (py : Interp) (result : Json) (fields : List (PyStr × Json))
    (expected : Option ExpectedRuntime) : Except Exc Json := do
  exactKeys fields ["version", "profile", "uptime_ms", "tasks_completed", "poll_interval_ms",
    "jitter_percent"]
  let version ← cleanText py (← item result "version") "version" 32
  let profile ← validateProfile (← item result "profile")
  let uptime ← item result "uptime_ms"
  let tasksCompleted ← item result "tasks_completed"
  let pollInterval ← validatePollInterval (← item result "poll_interval_ms")
  let jitter ← validateJitterPercent (← item result "jitter_percent")
  let uptime ← boundedInt uptime 0 (2 ^ 53 - 1) "uptime_ms must be a non-negative safe integer"
  let tasksCompleted ← boundedInt tasksCompleted 0 1000000
    "tasks_completed must be an integer from 0 to 1000000"
  match expected with
  | none => pure ()
  | some e =>
    ensure (version = e.version ∧ profile = e.profile ∧ pollInterval = e.pollIntervalMs ∧
        jitter = e.jitterPercent)
      (protocolError "runtime identity fields do not match the enrolled node")
  return dict [("version", .str version), ("profile", Vocabulary.toJson profile),
    ("uptime_ms", .int uptime), ("tasks_completed", .int tasksCompleted),
    ("poll_interval_ms", .int pollInterval), ("jitter_percent", .int jitter)]

/-- The `SLEEP` contract. -/
def validateSleep (result : Json) (fields : List (PyStr × Json)) (interval jitterPercent : ℤ)
    (expected : Option ExpectedRuntime) : Except Exc Json := do
  exactKeys fields ["previous_interval_ms", "new_interval_ms", "jitter_percent"]
  let prev ← item result "previous_interval_ms"
  let new ← item result "new_interval_ms"
  let jitter ← item result "jitter_percent"
  let prev ← boundedInt prev minPollIntervalMs maxPollIntervalMs
    "previous_interval_ms is outside the supported range"
  match expected with
  | none => pure ()
  | some e =>
    ensure (prev = e.pollIntervalMs)
      (protocolError "previous_interval_ms does not match the enrolled node")
  let new ← boundedInt new minPollIntervalMs maxPollIntervalMs
    "new_interval_ms is outside the supported range"
  ensure (new = interval) (protocolError "new_interval_ms must match the requested interval")
  let jitter ← boundedInt jitter 0 maxJitterPercent "jitter_percent is outside the supported range"
  ensure (jitter = jitterPercent)
    (protocolError "jitter_percent must match the requested jitter")
  return dict [("previous_interval_ms", .int prev), ("new_interval_ms", .int new),
    ("jitter_percent", .int jitter)]

/-- The contract of a `failed` result. -/
def validateFailure (result : Json) (fields : List (PyStr × Json)) : Except Exc Json := do
  exactKeys fields ["error_code"]
  let code ← item result "error_code"
  let code ← oneOf FailureCode code s!"error_code must be one of: {Vocabulary.names FailureCode}"
  return dict [("error_code", Vocabulary.toJson code)]

/-- `except ValueError as error: raise ProtocolError(str(error))`. -/
def asProtocolError {α : Type} (x : Except Exc α) : Except Exc α :=
  match x with
  | .ok a => .ok a
  | .error e => .error (if e.isValueError then protocolError e.text else e)

/-- The contract of a task on a result that is an object within the size limit. -/
def validateContract (py : Interp) (command : Command) (status : ResultStatus) (result : Json)
    (fields : List (PyStr × Json)) (expected : Option ExpectedRuntime) : Except Exc Json :=
  match status with
  | .failed => validateFailure result fields
  | .completed =>
    match command with
    | .runtimeStatus => validateRuntimeStatus py result fields expected
    | .sleep interval jitter => validateSleep result fields interval jitter expected
    | .runPlaybook playbook => asProtocolError
        (LabRuntime.validatePlaybookResult py.jsonDepth (Vocabulary.toJson playbook) result)
    | command =>
      match expectedResult command with
      | some fixed => fixedResult result fixed (mismatchMessage command)
      | none => .error (protocolError "result task type is unsupported")

/-- `validate_task_result`: the size limit and status check first, then the contract of the task. -/
def validateTaskResult (py : Interp) (command : Command) (status result : Json)
    (expected : Option ExpectedRuntime) : Except Exc (ResultStatus × Json) := do
  let (cleanStatus, cleanResult) ← validateResult py status result
  let fields := match cleanResult with
    | .obj fs => fs
    | _ => []
  return (cleanStatus, ← validateContract py command cleanStatus cleanResult fields expected)

end C2Lab
