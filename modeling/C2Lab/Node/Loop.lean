import C2Lab.Core.Taking
import C2Lab.Node.Agreement

/-! The loop of a Node, `run_node` of `node.py`.

    One turn of the loop enrolls, submits the pending result or polls, and what comes back decides
    how the next one goes on. What the loop prints, how long it waits between turns and the farewell
    after it are left out. -/

namespace C2Lab

variable {py : Interp}

/-! ### The state of the loop -/

/-- The session a `NodeClient` holds. -/
structure NodeSession where
  id : PyStr
  token : PyStr
  deriving DecidableEq

/-- `pending_result`. -/
structure PendingResult where
  taskId : PyStr
  taskType : Json
  status : ResultStatus
  result : Document

/-- The variables of `run_node`: `stopped` once the stop event is set, `raised` once an exception
    left the loop. -/
structure NodeProcess where
  name : PyStr
  executor : NodeExecutor
  session : Option NodeSession
  pending : Option PendingResult
  stopped : Bool
  raised : Bool

/-- A Node before its first turn. -/
def NodeProcess.start (name : PyStr) (x : NodeExecutor) : NodeProcess :=
  { name := name, executor := x, session := none, pending := none
    stopped := false, raised := false }

/-! ### Requests -/

/-- What the client sends. -/
inductive NodeRequest where
  | enroll (name : PyStr) (x : NodeExecutor)
  | poll (session : NodeSession)
  | submit (session : NodeSession) (taskId : PyStr) (status : ResultStatus) (result : Document)

/-- The operation a request asks for, served at `now`. -/
def NodeRequest.op (now : Instant) : NodeRequest → Op
  | enroll name x => .enrollNode (.str name) (.str x.version) (Vocabulary.toJson x.profile)
      (.arr ((nodeProfiles x.profile).map Vocabulary.toJson)) (.int x.pollIntervalMs)
      (.int x.jitterPercent) now
  | poll session => .pollNode (.str session.id) (.str session.token) now
  | submit session taskId status result => .submitResult (.str session.id) (.str session.token)
      (.str taskId) (Vocabulary.toJson status) result now

/-- What comes back: the payload of an answer, or the status of an error. -/
inductive NodeReply where
  | ok (payload : Json)
  | refused (status : ℕ)

/-- The answer to an operation as the Node sees it; an exception nobody catches closes the
    connection. -/
def nodeReply (isoformat : Timestamp → String) : Except Exc Reply → Option NodeReply
  | .ok (.enrolled r) => some (.ok (r.toJson isoformat))
  | .ok (.polled r) => some (.ok (r.toJson isoformat))
  | .ok (.accepted r) => some (.ok (r.toJson isoformat))
  | .ok _ => none
  | .error (.lab e) => some (.refused e.status)
  | .error _ => none

namespace NodeProcess

/-- The request of the next turn; a pending result that the client itself finds invalid is not
    sent. -/
def request (py : Interp) (p : NodeProcess) : Except ClientExc NodeRequest :=
  match p.session, p.pending with
  | none, _ => .ok (.enroll p.name p.executor)
  | some session, none => .ok (.poll session)
  | some session, some r => do
    -- `validate_result` returns what it was given
    let _ ← NodeClient.submission py r.taskId (Vocabulary.toJson r.status) r.result.1
    return .submit session r.taskId r.status r.result

/-- `except NodeClientError`; any other exception leaves the loop. -/
def failed (p : NodeProcess) : ClientExc → NodeProcess
  | .other _ => { p with raised := true }
  | .client e =>
    match p.session with
    | none => p
    | some _ =>
      if e.status = some 401 then { p with session := none, pending := none }
      else if p.pending.isSome ∧ e.status.any (fun status => 400 ≤ status ∧ status < 500) then
        { p with pending := none }
      else p

end NodeProcess

/-! ### The work of an executor -/

/-- What is found around an execution consists of documents. -/
def Surroundings.Documents (around : Surroundings) : Prop :=
  ∀ p items, around.evidence p = .ok items → Json.wfList items = true

theorem NodeExecutor.handle_wf {x : NodeExecutor} {around : Surroundings} (h : around.Documents)
    {c : Command} {result : Json} (hrun : x.handle py around c = .ok result) :
    result.wf = true := by
  cases c with
  | runPlaybook p =>
    simp only [handle] at hrun
    split at hrun
    · obtain ⟨items, hitems, hrun⟩ := bind_eq_ok.mp hrun
      obtain ⟨rfl, -⟩ := validatePlaybookResult_fits hrun
      have hfixed : LabRuntime.scope.wf = true ∧ (LabRuntime.attackTechniques p).wf = true ∧
          (LabRuntime.steps p).wf = true := by cases p <;> decide
      simp [Json.dict, Json.wf, Json.wfFields, Vocabulary.toJson, hfixed, h p items hitems]
    · cases hrun
  | _ =>
    cases hrun
    simp [runtimeStatus, Json.dict, Json.wf, Json.wfFields, Vocabulary.toJson]

/-- What an executor answers is a document. -/
theorem NodeExecutor.execute_wf (x : NodeExecutor) {around : Surroundings} (h : around.Documents)
    (task : Json) : (x.execute py around task).2.wf = true := by
  have hfailed : ∀ code : FailureCode,
      (Json.dict [("error_code", Vocabulary.toJson code)]).wf = true := fun code => by
    simp [Json.dict, Json.wf, Json.wfFields, Vocabulary.toJson]
  unfold execute
  split
  · rename_i result hrun
    unfold attempt at hrun
    split at hrun
    · obtain ⟨c, -, hrun⟩ := bind_eq_ok.mp hrun
      obtain ⟨-, -, hrun⟩ := bind_eq_ok.mp hrun
      exact handle_wf h hrun
    · cases hrun
  · exact hfailed .invalidTask
  · exact hfailed .handlerFailed

namespace NodeProcess

/-- A task is executed, and its result is pending; the client has checked the identifier. -/
def undertake (py : Interp) (around : { around : Surroundings // around.Documents }) (task : Json)
    (p : NodeProcess) : NodeProcess :=
  match task.getNone "id" with
  | .str id =>
    let answer := p.executor.execute py around.1 task
    let result : Document := ⟨answer.2, p.executor.execute_wf around.2 task⟩
    { p with pending := some ⟨id, task.getNone "type", answer.1, result⟩ }
  | _ => { p with raised := true }

/-- The rest of a turn whose request was answered. -/
def answered (py : Interp) (around : { around : Surroundings // around.Documents }) (payload : Json)
    (p : NodeProcess) : NodeProcess :=
  match p.session, p.pending with
  | none, _ =>
    match NodeClient.enrollment payload with
    | .error e => p.failed e
    | .ok (id, token) => { p with session := some ⟨id, token⟩ }
  | some session, none =>
    match NodeClient.polled py session.id payload with
    | .error e => p.failed e
    | .ok none => p
    | .ok (some task) => p.undertake py around task
  | some _, some r =>
    match p.executor.acknowledge r.taskType r.status r.result.1 with
    | .error _ => { p with raised := true }
    | .ok x => { p with
        executor := x, pending := none
        stopped := p.stopped || (r.taskType.eqStr "EXIT" && decide (r.status = .completed)) }

/-- The rest of a turn once its reply arrived. -/
def receive (py : Interp) (around : { around : Surroundings // around.Documents })
    (p : NodeProcess) : NodeReply → NodeProcess
  | .ok payload => p.answered py around payload
  | .refused status => p.failed (.client { message := "", status := some status })

end NodeProcess

/-! ### Values the encoder has no trouble with -/

/-- The encoder does not run out of depth. -/
def Json.Shallow (v : Json) : Prop := ∀ depth, v.dumps depth ≠ .error .recursionError

namespace Json

theorem shallow_str (s : PyStr) : (Json.str s).Shallow := by
  intro depth h
  simp [dumps] at h

theorem shallow_bool (b : Bool) : (Json.bool b).Shallow := by
  intro depth h
  simp [dumps] at h

theorem shallow_int (n : ℤ) : (Json.int n).Shallow := by
  intro depth h
  rw [dumps] at h
  split at h <;> cases h

/-- An object of such values needs one level. -/
theorem shallow_obj {fields : List (PyStr × Json)} (h : ∀ field ∈ fields, field.2.Shallow)
    {depth : ℕ} (hdepth : 0 < depth) : (Json.obj fields).dumps depth ≠ .error .recursionError := by
  obtain ⟨d, rfl⟩ := Nat.exists_eq_add_of_lt hdepth
  have hfields : dumpsFields (0 + d) fields ≠ .error .recursionError := by
    induction fields with
    | nil => intro he; cases he
    | cons field fields ih =>
      intro he
      rw [dumpsFields] at he
      rcases bind_eq_error.mp he with he | ⟨_, -, he⟩
      · exact h field List.mem_cons_self _ he
      · rcases bind_eq_error.mp he with he | ⟨_, -, he⟩
        · exact ih (fun f hf => h f (List.mem_cons_of_mem _ hf)) he
        · cases he
  intro he
  rw [dumps] at he
  rcases bind_eq_error.mp he with he | ⟨_, -, he⟩
  · exact hfields he
  · cases he

end Json

/-! ### The answer to a delivered task -/

/-- An executor once it acknowledged its answer to a command. -/
def NodeExecutor.after (x : NodeExecutor) (c : Command) (st : ResultStatus) : NodeExecutor :=
  match c, st with
  | _, .failed => x
  | .sleep interval jitter, .completed => { x with
      pollIntervalMs := interval, jitterPercent := jitter, tasksCompleted := x.tasksCompleted + 1 }
  | _, .completed => { x with tasksCompleted := x.tasksCompleted + 1 }

/-- A completed `SLEEP`, the one result that changes settings. -/
def Settles (c : Command) (st : ResultStatus) : Prop := c.taskType = .sleep ∧ st = .completed

/-- What a Node knows of itself agrees with what the Teamserver expects of it, no more. -/
theorem NodeExecutor.Agrees.congr {x : NodeExecutor} {n n' : Node} (h : x.Agrees py n)
    (hn : n'.expectedRuntime = n.expectedRuntime) : x.Agrees py n' := by
  simp only [Node.expectedRuntime, ExpectedRuntime.mk.injEq] at hn
  obtain ⟨hversion, hprofile, hinterval, hjitter⟩ := hn
  exact ⟨h.profile_eq.trans hprofile.symm, by rw [hversion]; exact h.version_eq,
    h.interval_eq.trans hinterval.symm, h.jitter_eq.trans hjitter.symm⟩

/-- An acknowledged result does to both sides the same. -/
theorem NodeExecutor.Agrees.after {x : NodeExecutor} {n n' : Node} (h : x.Agrees py n) {c : Command}
    {st : ResultStatus} (hn : n'.expectedRuntime = n.expectedRuntime.after c st) :
    (x.after c st).Agrees py n' := by
  have hcount : ∀ {m : Node}, x.Agrees py m →
      ({ x with tasksCompleted := x.tasksCompleted + 1 } : NodeExecutor).Agrees py m :=
    fun h => ⟨h.profile_eq, h.version_eq, h.interval_eq, h.jitter_eq⟩
  cases st with
  | failed => cases c <;> exact h.congr hn
  | completed =>
    cases c with
    | sleep interval jitter =>
      simp only [Node.expectedRuntime, ExpectedRuntime.after, ExpectedRuntime.mk.injEq] at hn
      obtain ⟨hversion, hprofile, hinterval, hjitter⟩ := hn
      exact ⟨h.profile_eq.trans hprofile.symm, by rw [hversion]; exact h.version_eq,
        hinterval.symm, hjitter.symm⟩
    | _ => exact hcount (h.congr hn)

/-- A result that settles nothing leaves the agreement as it is. -/
theorem NodeExecutor.agrees_after {x : NodeExecutor} {n : Node} {c : Command} {st : ResultStatus}
    (h : ¬Settles c st) : (x.after c st).Agrees py n ↔ x.Agrees py n := by
  have hcount : ({ x with tasksCompleted := x.tasksCompleted + 1 } : NodeExecutor).Agrees py n ↔
      x.Agrees py n :=
    ⟨fun h => ⟨h.profile_eq, h.version_eq, h.interval_eq, h.jitter_eq⟩,
      fun h => ⟨h.profile_eq, h.version_eq, h.interval_eq, h.jitter_eq⟩⟩
  cases st with
  | failed => cases c <;> exact Iff.rfl
  | completed =>
    cases c with
    | sleep => exact absurd ⟨rfl, rfl⟩ h
    | _ => exact hcount

/-- The result of a `RUNTIME_STATUS`. -/
def PendingResult.reportsStatus (r : PendingResult) : Bool := r.taskType.eqStr "RUNTIME_STATUS"

/-- Such a result outside its contract: a counter is beyond its bound, or the document too large. -/
def PendingResult.Exceeds (py : Interp) (r : PendingResult) : Prop :=
  r.reportsStatus = true ∧ ((∃ n : ℤ, r.result.1.getNone "uptime_ms" = .int n ∧ 2 ^ 53 - 1 < n) ∨
    (∃ n : ℤ, r.result.1.getNone "tasks_completed" = .int n ∧ 1000000 < n) ∨ ¬Fits py r.result.1)

/-- A pending result answers a task: it is what the executor made of the task as it was delivered,
    and the task was one for it. -/
structure PendingResult.Answers (py : Interp) (isoformat : Timestamp → String) (x : NodeExecutor)
    (k : NodeTask) (r : PendingResult) : Prop where
  id_eq : r.taskId = k.id
  type_eq : r.taskType = Vocabulary.toJson k.command.taskType
  valid : k.command.Valid py
  capable : k.command.taskType ∈ nodeProfiles x.profile
  computed : ∃ around : Surroundings,
    x.execute py around (k.toJson isoformat) = (r.status, r.result.1)

namespace PendingResult.Answers

variable {isoformat : Timestamp → String} {x : NodeExecutor} {k : NodeTask} {r : PendingResult}

/-- A failure, or what the handler returned. -/
theorem result_cases (h : r.Answers py isoformat x k) :
    (∃ code : FailureCode, r.status = .failed ∧
      r.result.1 = .dict [("error_code", Vocabulary.toJson code)]) ∨
    ∃ around, r.status = .completed ∧ x.handle py around k.command = .ok r.result.1 := by
  obtain ⟨around, hrun⟩ := h.computed
  rw [NodeExecutor.execute, attempt_delivered isoformat h.valid h.capable around] at hrun
  split at hrun
  · rename_i result hhandle
    obtain ⟨hst, rfl⟩ := Prod.mk.inj hrun
    exact .inr ⟨around, hst.symm, hhandle⟩
  · obtain ⟨hst, hres⟩ := Prod.mk.inj hrun
    exact .inl ⟨.invalidTask, hst.symm, hres.symm⟩
  · obtain ⟨hst, hres⟩ := Prod.mk.inj hrun
    exact .inl ⟨.handlerFailed, hst.symm, hres.symm⟩

theorem object (h : r.Answers py isoformat x k) : ∃ fields, r.result.1 = .obj fields := by
  rcases h.result_cases with ⟨code, -, hres⟩ | ⟨around, -, hrun⟩
  · exact ⟨_, hres⟩
  · generalize r.result.1 = result at hrun
    cases hc : k.command with
    | runPlaybook p =>
      rw [hc] at hrun
      simp only [NodeExecutor.handle] at hrun
      split at hrun
      · obtain ⟨items, -, hrun⟩ := bind_eq_ok.mp hrun
        obtain ⟨rfl, -⟩ := validatePlaybookResult_fits hrun
        exact ⟨_, rfl⟩
      · cases hrun
    | _ =>
      rw [hc] at hrun
      cases hrun
      exact ⟨_, rfl⟩

/-- A completed `SLEEP` reports the settings the executor has and the ones it was asked for. -/
theorem sleep (h : r.Answers py isoformat x k) {interval jitter : ℤ}
    (hc : k.command = .sleep interval jitter) (hst : r.status = .completed) :
    r.result.1 = sleepResult x.pollIntervalMs interval jitter := by
  rcases h.result_cases with ⟨code, hfailed, -⟩ | ⟨around, -, hrun⟩
  · rw [hfailed] at hst; cases hst
  · rw [hc] at hrun
    exact (Except.ok.inj hrun).symm

/-- An answer is of a `RUNTIME_STATUS` if its task is. -/
theorem reportsStatus_iff (h : r.Answers py isoformat x k) :
    r.reportsStatus = true ↔ k.command = .runtimeStatus := by
  rw [reportsStatus, h.type_eq]
  generalize k.command = c
  cases c <;> simp [Command.taskType, Vocabulary.toJson, Vocabulary.name]

/-- An answer within its contract conforms; the counters matter for a `RUNTIME_STATUS` alone. -/
theorem conforms {w : World} (h : r.Answers w.toInterp isoformat x k)
    (hwithin : ¬r.Exceeds w.toInterp) {n : Node} {draws : ℕ} (hn : n.WellFormed w draws)
    (hx : x.Agrees w.toInterp n) : Fits w.toInterp r.result.1 ∧
      Conforms w.toInterp k.command r.status r.result.1 n := by
  obtain ⟨around, hrun⟩ := h.computed
  by_cases hc : k.command = .runtimeStatus
  · have hres : r.result.1 = x.runtimeStatus around.uptimeMs := by
      rw [NodeExecutor.execute, attempt_delivered isoformat h.valid h.capable around, hc] at hrun
      exact (Prod.mk.inj hrun).2.symm
    simp only [Exceeds, h.reportsStatus_iff.mpr hc, true_and, not_or, not_exists, not_and,
      not_lt, not_not] at hwithin
    obtain ⟨hup, hdone, hfits⟩ := hwithin
    rw [hres] at hup hdone hfits
    have hall := execute_conforms hn hx isoformat h.valid (hx.profile_eq ▸ h.capable)
      (hup _ rfl) (by exact_mod_cast hdone _ rfl) fun _ => hfits
    simp only [hrun] at hall
    exact hall
  obtain ⟨x', hx'⟩ : ∃ x' : NodeExecutor, x' = { x with tasksCompleted := 0 } := ⟨_, rfl⟩
  obtain ⟨around', ha'⟩ : ∃ around' : Surroundings, around' = { around with uptimeMs := 0 } :=
    ⟨_, rfl⟩
  have hagrees : x'.Agrees w.toInterp n := by
    subst hx'
    exact ⟨hx.profile_eq, hx.version_eq, hx.interval_eq, hx.jitter_eq⟩
  have hhandle : x'.handle w.toInterp around' k.command = x.handle w.toInterp around k.command := by
    subst hx' ha'
    generalize k.command = c at hc
    cases c <;> first | exact absurd rfl hc | rfl
  have hcap : k.command.taskType ∈ nodeProfiles x'.profile := by rw [hx']; exact h.capable
  have hsame : x'.execute w.toInterp around' (k.toJson isoformat) = (r.status, r.result.1) := by
    rw [← hrun, NodeExecutor.execute, NodeExecutor.execute,
      attempt_delivered isoformat h.valid hcap, attempt_delivered isoformat h.valid h.capable,
      hhandle]
  have hup : (around'.uptimeMs : ℤ) ≤ 2 ^ 53 - 1 := by rw [ha']; norm_num
  have hdone : x'.tasksCompleted ≤ 1000000 := by rw [hx']; exact Nat.zero_le _
  have hall := execute_conforms hn hagrees isoformat h.valid (hx.profile_eq ▸ h.capable) hup hdone
    fun hcmd => absurd hcmd hc
  simp only [hsame] at hall
  exact hall

/-- The executor acknowledges its own answer. -/
theorem acknowledge (h : r.Answers py isoformat x k) :
    x.acknowledge r.taskType r.status r.result.1 = .ok (x.after k.command r.status) := by
  obtain ⟨fields, hfields⟩ := h.object
  unfold NodeExecutor.acknowledge
  rw [h.type_eq]
  cases hst : r.status with
  | failed =>
    rw [if_pos (by simp)]
    cases k.command <;> rfl
  | completed =>
    rw [if_neg (by simp)]
    simp only [Vocabulary.parse_toJson, h.capable, not_true_eq_false, if_false, hfields]
    cases hc : k.command with
    | sleep interval jitter =>
      have hvalid := h.valid
      rw [hc] at hvalid
      have hres := h.sleep hc hst
      rw [hfields] at hres
      cases hres
      have hprevious : ((sleepResult x.pollIntervalMs interval jitter).getNone
          "previous_interval_ms").eqInt x.pollIntervalMs = true := decide_eq_true rfl
      have hack : x.acknowledgeSleep (sleepResult x.pollIntervalMs interval jitter)
          [("previous_interval_ms", .int x.pollIntervalMs), ("new_interval_ms", .int interval),
            ("jitter_percent", .int jitter)] =
          .ok { x with pollIntervalMs := interval, jitterPercent := jitter } := by
        simp only [NodeExecutor.acknowledgeSleep, bind_eq_ok, ensure_ok, pure, Except.pure,
          Except.ok.injEq]
        exact ⟨(), ⟨rfl, hprevious⟩, _, rfl, interval, boundedInt_eq_ok.mpr ⟨rfl, hvalid.1⟩, _,
          rfl, jitter, boundedInt_eq_ok.mpr ⟨rfl, hvalid.2⟩, rfl⟩
      simp only [Command.taskType, if_true]
      exact bind_eq_ok.mpr ⟨_, hack, rfl⟩
    | _ => rfl

/-- A playbook aside, an executor answers with values that hold no others. -/
theorem shallow (h : r.Answers py isoformat x k) : Fits py r.result.1 ∨
    ∃ fields, r.result.1 = .obj fields ∧ ∀ field ∈ fields, field.2.Shallow := by
  have hstr := Json.shallow_str
  have hint := Json.shallow_int
  have hbool := Json.shallow_bool
  rcases h.result_cases with ⟨code, -, hres⟩ | ⟨around, -, hrun⟩
  · rw [hres]
    exact .inr ⟨_, rfl, by simp [Vocabulary.toJson, hstr]⟩
  · generalize r.result.1 = result at hrun ⊢
    cases hc : k.command with
    | runPlaybook p =>
      rw [hc] at hrun
      simp only [NodeExecutor.handle] at hrun
      split at hrun
      · obtain ⟨items, -, hrun⟩ := bind_eq_ok.mp hrun
        obtain ⟨rfl, hfits⟩ := validatePlaybookResult_fits hrun
        exact .inl hfits
      · cases hrun
    | _ =>
      rw [hc] at hrun
      cases hrun
      exact .inr ⟨_, rfl, by simp [Vocabulary.toJson, hstr, hint, hbool]⟩

/-- The client sends it or finds it too large: no exception leaves the loop. -/
theorem submission (h : r.Answers py isoformat x k) {e : ClientExc}
    (he : NodeClient.submission py r.taskId (Vocabulary.toJson r.status) r.result.1 = .error e) :
    ∃ message, e = .client { message := message } := by
  unfold NodeClient.submission asClientError at he
  split at he
  · split at he
    · cases he
    · cases he
      exact ⟨_, rfl⟩
    · rename_i error hnot herror
      exfalso
      rcases validateResult_fails _ _ error herror with ⟨message, rfl⟩ | ⟨-, -, -, hdeep⟩
      · exact hnot message rfl
      · rcases h.shallow with ⟨size, -, hsize⟩ | ⟨fields, hfields, hall⟩
        · rw [Json.encodedSize, hdeep] at hsize
          cases hsize
        · rw [hfields] at hdeep
          exact Json.shallow_obj hall (Nat.lt_of_lt_of_le (by decide) py.jsonDepth_ge) hdeep
  · cases he
    exact ⟨_, rfl⟩

end PendingResult.Answers

end C2Lab
