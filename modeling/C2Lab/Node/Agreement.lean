import C2Lab.Core.Counting
import C2Lab.Core.Kept
import C2Lab.Core.PollRun
import C2Lab.Node.Executor
import C2Lab.Python.Encoding
import C2Lab.Stored

/-! Producer and consumer agree.

    Three hands wrote each task type: the check at queueing time, the handler of the Node and the
    contract of its result. What the Node answers to a task it was handed is what the contract
    wants, and short enough to send; only the version of a `RUNTIME_STATUS` answer has no bound of
    its own before it is stripped. -/

namespace C2Lab

variable {py : Interp} {w : World} {s s' : LabState}

/-! ### The size of an answer -/

open Json in
/-- A cleaned text is short. -/
theorem compact_cleanText {value : Json} {field : String} {maximum : ℕ} {s : PyStr}
    (h : cleanText py value field maximum = .ok s) : Compact (.str s) (2 + 6 * maximum) := by
  cases value <;> simp only [cleanText, reduceCtorEq] at h
  split at h
  · rename_i hlen
    split at h
    · rename_i hchars
      cases h
      generalize PyStr.strip _ = t at hlen hchars
      cases t with
      | lone => cases hchars
      | text t =>
        have hl : t.length ≤ maximum := by
          have := hlen.2
          rwa [PyStr.len, PyStr.codes, List.length_map, String.length_toList] at this
        intro depth
        obtain ⟨k, hk, hd⟩ := compact_text t depth
        exact ⟨k, by omega, hd⟩
    · cases h
  · cases h

/-- A document short enough to be sent. -/
def Fits (py : Interp) (v : Json) : Prop :=
  ∃ size ≤ maxResultBytes, v.encodedSize py.jsonDepth = .ok size

open Json in
theorem fits_of_compact {fields : List (PyStr × Json)} {n : ℕ} (h : CompactFields fields n)
    (hn : max 2 (n + 1) ≤ maxResultBytes) : Fits py (.obj fields) := by
  have hdepth := py.jsonDepth_ge
  obtain ⟨k, hk, hsize⟩ := h.encodedSize (by omega : 0 < py.jsonDepth)
  exact ⟨k, hk.trans hn, hsize⟩

/-! ### The contract of an answer -/

/-- The Node knows itself as the Teamserver does. -/
structure NodeExecutor.Agrees (py : Interp) (x : NodeExecutor) (n : Node) : Prop where
  profile_eq : x.profile = n.profile
  version_eq : cleanText py (.str x.version) "version" 32 = .ok n.version
  interval_eq : x.pollIntervalMs = n.pollIntervalMs
  jitter_eq : x.jitterPercent = n.jitterPercent

/-- A document its contract takes. -/
def Conforms (py : Interp) (c : Command) (st : ResultStatus) (result : Json) (n : Node) : Prop :=
  ∃ fields stored, result = .obj fields ∧
    validateContract py c st result fields (some n.expectedRuntime) = .ok stored

theorem conforms_failed (c : Command) (code : FailureCode) (n : Node) :
    Conforms py c .failed (.dict [("error_code", Vocabulary.toJson code)]) n := by
  refine ⟨_, .dict [("error_code", Vocabulary.toJson code)], rfl, ?_⟩
  simp only [validateContract, validateFailure, bind_eq_ok, exactKeys_eq_ok, item_eq_ok, Json.dict,
    oneOf_eq_ok]
  exact ⟨(), rfl, _, rfl, code, rfl, rfl⟩

/-- A task that leaves the Node no choice is answered with the one document there is. -/
theorem handle_expected {c : Command} {fixed : Json} (h : expectedResult c = some fixed)
    (x : NodeExecutor) (around : Surroundings) : x.handle py around c = .ok fixed := by
  cases c <;> cases h <;> rfl

open Json in
/-- A number between zero and a bound. -/
theorem compact_int {n high : ℤ} {k : ℕ} (hk : 0 < k) (hk' : k ≤ maxStrDigits) (h : 0 ≤ n)
    (hn : n ≤ high) (hhigh : high < 10 ^ k) : Compact (.int n) k := by
  obtain ⟨m, rfl⟩ := Int.eq_ofNat_of_zero_le h
  exact compact_nat hk hk' (by exact_mod_cast hn.trans_lt hhigh)

open Json in
theorem compact_name {α : Type} [Vocabulary α] (a : α) {n : ℕ}
    (h : 2 + 6 * (Vocabulary.name a).length ≤ n) : Compact (Vocabulary.toJson a) n := by
  intro depth
  obtain ⟨k, hk, hd⟩ := compact_text (Vocabulary.name a) depth
  exact ⟨k, hk.trans h, hd⟩

open Json in
/-- It is short enough to be sent. -/
theorem fits_expected {c : Command} {fixed : Json} (hc : c.Valid py)
    (h : expectedResult c = some fixed) : Fits py fixed := by
  cases c with
  | ping =>
    cases h
    exact fits_of_compact (.cons (compact_text _) compact_nil) (by decide)
  | echoText text =>
    cases h
    exact fits_of_compact (.cons (compact_cleanText hc) compact_nil) (by dsimp only; decide)
  | hashText text =>
    cases h
    have hdigest := compact_text (String.ofList (Sha256.hexdigest (expectedResult.utf8 text)))
    rw [String.length_ofList, Sha256.hexdigest_length] at hdigest
    exact fits_of_compact (.cons (compact_text _) (.cons hdigest compact_nil))
      (by dsimp only; decide)
  | wait ms =>
    cases h
    have hms : Compact (.int ms) 4 := compact_int (by decide) (by decide) hc.1 hc.2 (by decide)
    exact fits_of_compact (.cons hms compact_nil) (by dsimp only; decide)
  | generateEvent category severity message =>
    cases h
    have hcat : Compact (Vocabulary.toJson category) 56 :=
      compact_name category (by cases category <;> decide)
    have hsev : Compact (Vocabulary.toJson severity) 44 :=
      compact_name severity (by cases severity <;> decide)
    exact fits_of_compact (.cons (compact_bool _) (.cons hcat (.cons hsev
      (.cons (compact_cleanText hc) compact_nil)))) (by dsimp only; decide)
  | exit =>
    cases h
    exact fits_of_compact (.cons (compact_bool _) compact_nil) (by decide)
  | runtimeStatus | sleep | runPlaybook => cases h

/-- Its contract takes it. -/
theorem conforms_expected {c : Command} {fixed : Json} (hc : c.Valid py)
    (h : expectedResult c = some fixed) (n : Node) : Conforms py c .completed fixed n := by
  obtain ⟨size, -, hsize⟩ := fits_expected hc h
  have hw := expectedResult_wf h
  have hsame := (sameJsonValue_iff _ _ hw hw).mpr (same_of_encodedSize hsize)
  have hobj : ∃ fields, fixed = .obj fields := by
    cases c <;> cases h <;> exact ⟨_, rfl⟩
  obtain ⟨fields, rfl⟩ := hobj
  refine ⟨fields, .obj fields, rfl, ?_⟩
  cases c <;> cases h <;> simp only [validateContract, expectedResult, fixedResult] <;>
    exact if_pos hsame

open Json in
/-- A `SLEEP` is answered with the settings the Teamserver has and the ones it asked for. -/
theorem fits_sleep {prev interval jitter : ℤ}
    (hp : minPollIntervalMs ≤ prev ∧ prev ≤ maxPollIntervalMs)
    (hc : (Command.sleep interval jitter).Valid py) :
    Fits py (sleepResult prev interval jitter) := by
  have hmin : (0 : ℤ) ≤ minPollIntervalMs := by decide
  have hprev : Compact (.int prev) 4 := compact_int (by decide) (by decide) (hmin.trans hp.1) hp.2
    (by decide)
  have hnew : Compact (.int interval) 4 := compact_int (by decide) (by decide)
    (hmin.trans hc.1.1) hc.1.2 (by decide)
  have hjit : Compact (.int jitter) 2 := compact_int (by decide) (by decide) hc.2.1 hc.2.2
    (by decide)
  exact fits_of_compact (.cons hprev (.cons hnew (.cons hjit compact_nil))) (by dsimp only; decide)

theorem conforms_sleep {n : Node} {draws : ℕ} (hn : n.WellFormed w draws) {interval jitter : ℤ}
    (hc : (Command.sleep interval jitter).Valid w.toInterp) :
    Conforms w.toInterp (.sleep interval jitter) .completed
      (sleepResult n.pollIntervalMs interval jitter) n := by
  refine ⟨_, _, rfl, validateSleep_eq_ok.mpr ⟨rfl, rfl, rfl, rfl, hn.interval_range, hc.1, hc.2,
    rfl⟩⟩

/-- A `RUNTIME_STATUS` is answered with what the Teamserver expects, up to the padding of the
    version. -/
theorem conforms_runtimeStatus {n : Node} {draws : ℕ} (hn : n.WellFormed w draws)
    {x : NodeExecutor} (hx : x.Agrees w.toInterp n) {uptimeMs : ℕ}
    (hup : (uptimeMs : ℤ) ≤ 2 ^ 53 - 1) (hdone : x.tasksCompleted ≤ 1000000) :
    Conforms w.toInterp .runtimeStatus .completed (x.runtimeStatus uptimeMs) n := by
  have hinterval : validatePollInterval (.int x.pollIntervalMs) = .ok n.pollIntervalMs := by
    rw [hx.interval_eq]
    exact boundedInt_eq_ok.mpr ⟨rfl, hn.interval_range⟩
  have hjitter : validateJitterPercent (.int x.jitterPercent) = .ok n.jitterPercent := by
    rw [hx.jitter_eq]
    exact boundedInt_eq_ok.mpr ⟨rfl, hn.jitter_range⟩
  have hprofile : validateProfile (Vocabulary.toJson x.profile) = .ok n.profile :=
    validateProfile_eq_ok.mpr (by rw [hx.profile_eq])
  refine ⟨_, .dict [("version", .str n.version), ("profile", Vocabulary.toJson n.profile),
    ("uptime_ms", .int uptimeMs), ("tasks_completed", .int x.tasksCompleted),
    ("poll_interval_ms", .int n.pollIntervalMs), ("jitter_percent", .int n.jitterPercent)], rfl, ?_⟩
  simp only [validateContract, validateRuntimeStatus, bind_eq_ok, exactKeys_eq_ok,
    boundedInt_eq_ok, ensure_ok, pure, Except.pure, Except.ok.injEq]
  exact ⟨(), rfl, _, rfl, n.version, hx.version_eq, _, rfl, n.profile, hprofile, _, rfl, _, rfl, _,
    rfl, n.pollIntervalMs, hinterval, _, rfl, n.jitterPercent, hjitter, uptimeMs,
    ⟨rfl, by positivity, hup⟩, x.tasksCompleted, ⟨rfl, by positivity, by exact_mod_cast hdone⟩, (),
    ⟨rfl, rfl, rfl, rfl⟩, rfl⟩

/-- A playbook result that passed its contract passed the limit of its size. -/
theorem validatePlaybookResult_fits {p : Playbook} {result r : Json}
    (h : LabRuntime.validatePlaybookResult py.jsonDepth (Vocabulary.toJson p) result = .ok r) :
    r = result ∧ Fits py result := by
  simp only [LabRuntime.validatePlaybookResult, Vocabulary.parse_toJson,
    LabRuntime.validateKnownPlaybookResult, bind_eq_ok] at h
  obtain ⟨_, -, _, -, _, -, _, -, _, -, _, -, _, -, _, -, _, -, _, -, h⟩ := h
  split at h
  · simp only [bind_eq_ok, pure, Except.pure, Except.ok.injEq] at h
    obtain ⟨_, -, _, -, _, hsize, rfl⟩ := h
    unfold LabRuntime.checkSize at hsize
    split at hsize
    · cases hsize
    · rename_i size hencoded
      exact ⟨rfl, size, ensure_ok.mp hsize, hencoded⟩
  · cases h

/-- What a workspace returns for a playbook passed the contract of the playbook. -/
theorem execute_playbook {p : Playbook} {evidence : Except Exc (List Json)} {result : Json}
    (h : LabRuntime.execute py.jsonDepth p evidence = .ok result) (n : Node) :
    Fits py result ∧ Conforms py (.runPlaybook p) .completed result n := by
  obtain ⟨items, -, h⟩ := bind_eq_ok.mp h
  obtain ⟨rfl, hfits⟩ := validatePlaybookResult_fits h
  exact ⟨hfits, _, _, rfl, asProtocolError_eq_ok.mpr h⟩

/-! ### The answer to a delivered task -/

/-- A task as the Node receives it. -/
theorem attempt_delivered (isoformat : Timestamp → String) {r : NodeTask}
    (hc : r.command.Valid py) {x : NodeExecutor}
    (hcap : r.command.taskType ∈ nodeProfiles x.profile)
    (around : Surroundings) :
    x.attempt py around (r.toJson isoformat) = x.handle py around r.command := by
  have hpayload : validateTaskPayload py ((r.toJson isoformat).getNone "type")
      ((r.toJson isoformat).getNone "payload") = .ok r.command := hc.validates
  unfold NodeExecutor.attempt NodeTask.toJson Json.dict
  simp only [NodeTask.toJson, Json.dict] at hpayload
  simp only [hpayload, bind, Except.bind, ensure, hcap, if_true]

/-- The answer of the Node passes the checks on both sides of the wire. -/
theorem execute_conforms {n : Node} {draws : ℕ} (hn : n.WellFormed w draws) {x : NodeExecutor}
    (hx : x.Agrees w.toInterp n) (isoformat : Timestamp → String) {r : NodeTask}
    (hc : r.command.Valid w.toInterp) (hcap : r.command.taskType ∈ nodeProfiles n.profile)
    {around : Surroundings} (hup : (around.uptimeMs : ℤ) ≤ 2 ^ 53 - 1)
    (hdone : x.tasksCompleted ≤ 1000000)
    (hstatus : r.command = .runtimeStatus → Fits w.toInterp (x.runtimeStatus around.uptimeMs)) :
    let answer := x.execute w.toInterp around (r.toJson isoformat)
    Fits w.toInterp answer.2 ∧ Conforms w.toInterp r.command answer.1 answer.2 n := by
  intro answer
  have hhandle := attempt_delivered isoformat hc (hx.profile_eq ▸ hcap) around
  have hfailed : ∀ code : FailureCode,
      answer = (.failed, .dict [("error_code", Vocabulary.toJson code)]) →
      Fits w.toInterp answer.2 ∧ Conforms w.toInterp r.command answer.1 answer.2 n := by
    rintro code heq
    rw [heq]
    have hcode : Json.Compact (Vocabulary.toJson code) 86 :=
      compact_name code (by cases code <;> decide)
    exact ⟨fits_of_compact (.cons hcode Json.compact_nil) (by dsimp only; decide),
      conforms_failed _ code n⟩
  cases hrun : x.handle w.toInterp around r.command with
  | error e =>
    by_cases hprotocol : ∃ message, e = .protocol message
    · obtain ⟨message, rfl⟩ := hprotocol
      refine hfailed .invalidTask ?_
      simp only [answer, NodeExecutor.execute, hhandle, hrun]
    · refine hfailed .handlerFailed ?_
      simp only [answer, NodeExecutor.execute, hhandle, hrun]
      split <;> simp_all
  | ok result =>
    have hanswer : answer = (.completed, result) := by
      simp only [answer, NodeExecutor.execute, hhandle, hrun]
    rw [hanswer]
    cases hcmd : r.command with
    | runtimeStatus =>
      rw [hcmd] at hrun
      cases hrun
      exact ⟨hstatus hcmd, conforms_runtimeStatus hn hx hup hdone⟩
    | sleep interval jitter =>
      rw [hcmd] at hrun hc
      cases hrun
      rw [hx.interval_eq]
      exact ⟨fits_sleep hn.interval_range hc, conforms_sleep hn hc⟩
    | runPlaybook p =>
      rw [hcmd] at hrun
      simp only [NodeExecutor.handle] at hrun
      split at hrun
      · exact execute_playbook hrun n
      · cases hrun
    | ping | echoText | hashText | wait | generateEvent | exit =>
      rw [hcmd] at hrun hc
      rw [handle_expected rfl] at hrun
      cases hrun
      exact ⟨fits_expected hc rfl, conforms_expected hc rfl n⟩

/-- A document that fits and conforms is sent by the client and taken by the Teamserver. -/
theorem Conforms.accepted {c : Command} {st : ResultStatus} {result : Json} {n : Node}
    (h : Conforms py c st result n) (hfits : Fits py result) :
    validateResult py (Vocabulary.toJson st) result = .ok (st, result) ∧
      ∃ stored, validateTaskResult py c (Vocabulary.toJson st) result (some n.expectedRuntime) =
        .ok (st, stored) := by
  obtain ⟨fields, stored, rfl, hcon⟩ := h
  have henv : validateResult py (Vocabulary.toJson st) (.obj fields) = .ok (st, .obj fields) :=
    validateResult_eq_ok.mpr ⟨rfl, rfl, ⟨fields, rfl⟩, hfits⟩
  exact ⟨henv, stored, validateTaskResult_eq_ok.mpr ⟨fields, rfl, henv, hcon⟩⟩

/-! ### The envelope of a delivered task -/

/-- Every task has a drawn correlation identifier. -/
theorem correlation_kept : Kept w (.reset :: Activity.lasting)
    fun s => s.tasks.All fun _ t => ∃ k, t.correlationId = w.correlationId k := by
  refine Kept.of_change (Q := fun r _ => r.tasks.All
    fun _ t => ∃ k, t.correlationId = w.correlationId k) ?_
  intro s hi c r _ _ _ _ h hQ id t' ht'
  have htask := h.task id
  rw [ht'] at htask
  generalize hx : some t' = x at htask
  cases htask with
  | same => exact hQ id t' hx.symm
  | @edited _ t t'' ht _ he =>
    cases hx
    obtain ⟨k, hk⟩ := hQ id t ht
    exact ⟨k, (congrArg Task.correlationId he.request_eq).trans hk⟩
  | added =>
    cases hx
    exact ⟨_, rfl⟩
  | pruned | cleared => cases hx

/-- A task a poll hands out is dispatched to the Node that polled. -/
theorem pollNode_handed (hs : Safe w s) {nodeId token : Json} {now : Instant}
    {reply : PollResponse} (hpoll : pollNode w nodeId token now s = .ok reply s') {r : NodeTask}
    (hr : reply.task = some r) : ∃ t, s'.tasks.get? r.id = some t ∧ t.nodeTask = r ∧
      t.status = .dispatched ∧ nodeId = .str t.nodeId := by
  obtain ⟨m, n, h⟩ := pollNode_answers hs hpoll
  have hm := h.came.safe
  have hans := h.answers
  rw [hr] at hans
  cases hans with
  | @again _ t hp hact ht htasks =>
    obtain ⟨-, hnode, hd⟩ := hm.activeTask_recorded hact
    refine ⟨t.redelivered, ?_, rfl, hd, ?_⟩
    · show s'.tasks.get? t.id = _
      rw [htasks, Dict.get?_set_self]
    · exact h.session.node_eq.trans (congrArg Json.str hnode.symm)
  | @first _ t hp hact hnext ht time htasks =>
    obtain ⟨-, hnode, -⟩ := hm.nextTask_recorded hnext
    refine ⟨t.delivered now time, ?_, rfl, rfl, ?_⟩
    · show s'.tasks.get? t.id = _
      rw [htasks, Dict.get?_set_self]
    · exact h.session.node_eq.trans (congrArg Json.str hnode.symm)

/-- Such a task passes the checks of the client. -/
theorem envelope_delivered (hs : Safe w s) {t : Task} (ht : s.tasks.get? t.id = some t)
    (hcor : ∃ k, t.correlationId = w.correlationId k) (hd : t.status = .dispatched)
    (isoformat : Timestamp → String) :
    NodeClient.envelope w.toInterp t.nodeId (t.nodeTask.toJson isoformat) = .ok t.command := by
  obtain ⟨k, -, hid⟩ := (hs.tasks _ _ ht).drawn
  obtain ⟨j, hcor⟩ := hcor
  have hpayload := (hs.task_wf ht).command_valid.validates
  have hchecks : isHexIdentifier (.str t.id) "task-" 12 ∧
      isHexIdentifier (.str t.correlationId) "corr-" 12 ∧
      Json.eqStr (.str t.nodeId) t.nodeId = true ∧
      (Vocabulary.toJson t.status).eqStr "dispatched" := by
    rw [hid, hcor, hd]
    exact ⟨isHexIdentifier_ident _ (by decide) k, isHexIdentifier_ident _ (by decide) j,
      by simp, rfl⟩
  refine (if_pos hchecks).trans ?_
  show asClientError _ (validateTaskPayload w.toInterp (Vocabulary.toJson t.command.taskType)
    t.command.payload) = _
  rw [hpayload]
  rfl

theorem PollResponse.getNone_task {r : PollResponse} (isoformat : Timestamp → String)
    {t : NodeTask} (ht : r.task = some t) :
    (r.toJson isoformat).getNone "task" = t.toJson isoformat := by
  cases r with
  | mk node task serverTime =>
    cases ht
    rfl

/-- Producer and consumer agree. A task that a poll hands to a Node passes the client's checks, its
    payload validates as itself within the profile of the Node, and whatever an executor that knows
    itself as the Teamserver does answers passes the client's check and the contract of the task, as
    long as its counters are within the contract and a `RUNTIME_STATUS` answer within the limit on
    the size of a result. -/
theorem producer_consumer (hreach : Reachable w s) {nodeId token : Json} {now : Instant}
    {reply : PollResponse} (hpoll : pollNode w nodeId token now s = .ok reply s')
    (hf : w.FreshBelow s'.draws) {r : NodeTask} (hr : reply.task = some r) {n : Node}
    (hn : s'.nodes.get? n.id = some n) (hid : nodeId = .str n.id)
    (isoformat : Timestamp → String) :
    NodeClient.polled w.toInterp n.id (reply.toJson isoformat) = .ok (some (r.toJson isoformat)) ∧
    (validateTaskPayload w.toInterp ((r.toJson isoformat).getNone "type")
        ((r.toJson isoformat).getNone "payload") = .ok r.command ∧
      (r.toJson isoformat).getNone "payload" = r.command.payload ∧
      r.command.taskType ∈ nodeProfiles n.profile) ∧
    ∃ t, s'.tasks.get? r.id = some t ∧ ∀ (x : NodeExecutor) (around : Surroundings),
      x.Agrees w.toInterp n → (around.uptimeMs : ℤ) ≤ 2 ^ 53 - 1 → x.tasksCompleted ≤ 1000000 →
      (r.command = .runtimeStatus → Fits w.toInterp (x.runtimeStatus around.uptimeMs)) →
      let answer := x.execute w.toInterp around (r.toJson isoformat)
      NodeClient.submission w.toInterp r.id (Vocabulary.toJson answer.1) answer.2 = .ok answer ∧
        ∃ stored, validateTaskResult w.toInterp t.command (Vocabulary.toJson answer.1) answer.2
          (some n.expectedRuntime) = .ok (answer.1, stored) := by
  have hstep : step w s (.pollNode nodeId token now) = s' := by
    simp only [step, Op.run, Prog.final, Functor.map, EStateM.map, hpoll]
  have hreach' : Reachable w s' := hstep ▸ hreach.step (hstep.symm ▸ hf)
  have hs' := hreach'.sound.safe
  obtain ⟨t, ht, rfl, hd, hnode⟩ := pollNode_handed hreach.sound.safe hpoll hr
  have hnode : t.nodeId = n.id := Json.str.inj (hnode.symm.trans hid)
  have hcor := correlation_kept.reachable (fun _ => Dict.all_empty) hreach' _ _ ht
  have hvalid := (hs'.task_wf ht).command_valid
  obtain ⟨n', hn', -, hcap⟩ := hs'.owned _ _ ht (by rw [hd]; rfl)
  rw [hnode, hn, Option.some.injEq] at hn'
  subst hn'
  have hwf := hs'.node_wf hn
  rw [hwf.capabilities_eq] at hcap
  refine ⟨?_, ⟨hvalid.validates, rfl, hcap⟩, t, ht, fun x around hx hup hdone hstatus => ?_⟩
  · have henv := envelope_delivered hs' ht hcor hd isoformat
    rw [hnode] at henv
    have hget := PollResponse.getNone_task isoformat hr
    unfold NodeClient.polled
    rw [hget]
    show (do
      let _ ← NodeClient.envelope w.toInterp n.id (t.nodeTask.toJson isoformat)
      return some (t.nodeTask.toJson isoformat)) = _
    rw [henv]
    rfl
  · obtain ⟨hfits, hcon⟩ := execute_conforms hwf hx isoformat hvalid hcap hup hdone hstatus
    obtain ⟨henv, hstored⟩ := hcon.accepted hfits
    refine ⟨?_, hstored⟩
    obtain ⟨k, -, hdrawn⟩ := (hs'.tasks _ _ ht).drawn
    unfold NodeClient.submission
    rw [if_pos (hdrawn ▸ isHexIdentifier_ident _ (by decide) k), henv]
    rfl

namespace Counting

/-- A version with blanks before it. -/
def padded (k : ℕ) : PyStr := .text (String.ofList (List.replicate k ' ' ++ "0.2.0".toList))

theorem strip_padded (k : ℕ) : (padded k).strip = "0.2.0" := by
  have hstrip : stripList (fun c : Char => isspace c.toNat) (List.replicate k ' ' ++ "0.2.0".toList)
      = "0.2.0".toList := by
    induction k with
    | zero => decide
    | succ k ih =>
      rw [List.replicate_succ, List.cons_append, stripList, List.dropWhile_cons_of_pos (by decide)]
      exact ih
  rw [padded, PyStr.strip, String.toList_ofList, hstrip]
  rfl

theorem cleanText_padded (k : ℕ) :
    cleanText World.counting.toInterp (.str (padded k)) "version" 32 = .ok "0.2.0" := by
  simp only [cleanText, strip_padded]
  rfl

/-- The executor of the Node, its version padded by `k` blanks. -/
def executor (k : ℕ) : NodeExecutor :=
  { version := padded k, profile := .training, pollIntervalMs := 1000, jitterPercent := 0
    tasksCompleted := 0 }

theorem executor_large {uptimeMs : ℕ} : ¬Fits World.counting.toInterp
    ((executor 4096).runtimeStatus uptimeMs) := by
  rintro ⟨size, hsize, hencoded⟩
  have hle : (Json.encodeStr (padded 4096)).size ≤ size := Json.le_encodedSize hencoded
  have hsum : ∀ (k : ℕ) (l : List Char),
      k ≤ ((List.replicate k ' ' ++ l).map Json.charSize).sum := by
    intro k l
    rw [List.map_append, List.map_replicate, List.sum_append, List.sum_replicate]
    have : Json.charSize ' ' = 1 := by decide
    simp [this]
  have := hsum 4096 "0.2.0".toList
  rw [padded, Json.encodeStr, String.toList_ofList] at hle
  simp only [maxResultBytes] at hle hsize
  omega

/-- The Node of draw 0 has a task waiting. -/
def asked (taskType : TaskType) : List Op := [enroll, queue taskType (.obj [])]

/-- A poll after some operations hands out a task, and the Node is recorded as it enrolled. -/
def polls (command : Command) (ops : List Op) : Bool :=
  let s := exec .counting (.init "stream") ops
  let poll := pollNode .counting nodeId token 11
  returns poll s &&
    (match poll s with
      | .ok reply _ => reply.task.map (·.command) = some command
      | .error _ _ => false) &&
    ((Prog.final poll s).nodes.get? (World.counting.nodeId 0)).map
        (fun n => (n.id, n.profile, n.version, n.pollIntervalMs, n.jitterPercent)) ==
      some (World.counting.nodeId 0, Profile.training, PyStr.text "0.2.0", 1000, 0)

theorem exists_polled {command : Command} {ops : List Op} (h : polls command ops = true) :
    ∃ reply s' r n,
      pollNode .counting nodeId token 11 (exec .counting (.init "stream") ops) = .ok reply s' ∧
      World.counting.FreshBelow s'.draws ∧ reply.task = some r ∧ r.command = command ∧
      s'.nodes.get? n.id = some n ∧ nodeId = .str n.id ∧
      ∀ k, (executor k).Agrees World.counting.toInterp n := by
  simp only [polls, Bool.and_eq_true, beq_iff_eq, Option.map_eq_some_iff, Prod.mk.injEq] at h
  obtain ⟨⟨hret, htask⟩, n, hn, hid, hprofile, hversion, hinterval, hjitter⟩ := h
  obtain ⟨reply, s', hpoll, hf⟩ := exists_returned hret
  simp only [hpoll, decide_eq_true_eq] at htask
  rw [Prog.final, hpoll] at hn
  obtain ⟨r, hr, hcmd⟩ := htask
  refine ⟨reply, s', r, n, hpoll, hf, hr, hcmd, hid ▸ hn, by rw [nodeId, hid], fun k => ?_⟩
  exact ⟨hprofile.symm, by rw [hversion]; exact cleanText_padded k, hinterval.symm, hjitter.symm⟩

end Counting

/-- The agreement at a Node that is sent a `PING`. -/
theorem producer_consumer_ping :
    let answer := (Counting.executor 0).execute World.counting.toInterp ⟨2000, fun _ => .ok []⟩
    ∃ reply s' r n t, pollNode .counting Counting.nodeId Counting.token 11
        (exec .counting (.init "stream") (Counting.asked .ping)) = .ok reply s' ∧
      reply.task = some r ∧ s'.nodes.get? n.id = some n ∧ s'.tasks.get? r.id = some t ∧
      ∃ stored, validateTaskResult World.counting.toInterp t.command
        (Vocabulary.toJson (answer (r.toJson fun _ => "now")).1)
        (answer (r.toJson fun _ => "now")).2
        (some n.expectedRuntime) = .ok ((answer (r.toJson fun _ => "now")).1, stored) := by
  intro answer
  obtain ⟨reply, s', r, n, hpoll, hf, hr, hcmd, hn, hid, hx⟩ := Counting.exists_polled
    (by decide +kernel : Counting.polls .ping (Counting.asked .ping) = true)
  have hreach : Reachable .counting (exec .counting (.init "stream") (Counting.asked .ping)) :=
    World.counting_reachable "stream" _ (by decide +kernel)
  obtain ⟨-, -, t, ht, hall⟩ := producer_consumer hreach hpoll hf hr hn hid fun _ => "now"
  obtain ⟨-, hstored⟩ := hall (Counting.executor 0) ⟨2000, fun _ => .ok []⟩ (hx 0) (by decide)
    (by decide) fun h => by rw [hcmd] at h; cases h
  exact ⟨reply, s', r, n, t, hpoll, hr, hn, ht, hstored⟩

/-- The answer of a Node whose version is padded with 4096 blanks does not pass its own client. -/
theorem producer_consumer_padded :
    Reachable .counting (exec .counting (.init "stream") (Counting.asked .runtimeStatus)) ∧
    ∃ reply s' r n, pollNode .counting Counting.nodeId Counting.token 11
        (exec .counting (.init "stream") (Counting.asked .runtimeStatus)) = .ok reply s' ∧
      reply.task = some r ∧ s'.nodes.get? n.id = some n ∧
      (Counting.executor 4096).Agrees World.counting.toInterp n ∧
      let answer := (Counting.executor 4096).execute World.counting.toInterp
        ⟨2000, fun _ => .ok []⟩ (r.toJson fun _ => "now")
      ∀ checked, NodeClient.submission World.counting.toInterp r.id (Vocabulary.toJson answer.1)
        answer.2 ≠ .ok checked := by
  have hreach : Reachable .counting
      (exec .counting (.init "stream") (Counting.asked .runtimeStatus)) :=
    World.counting_reachable "stream" _ (by decide +kernel)
  obtain ⟨reply, s', r, n, hpoll, hf, hr, hcmd, hn, -, hx⟩ := Counting.exists_polled
    (by decide +kernel : Counting.polls .runtimeStatus (Counting.asked .runtimeStatus) = true)
  refine ⟨hreach, reply, s', r, n, hpoll, hr, hn, hx 4096, ?_⟩
  intro answer checked hsent
  have hanswer : answer = (.completed, (Counting.executor 4096).runtimeStatus 2000) := by
    have hvalid : r.command.Valid World.counting.toInterp := by rw [hcmd]; trivial
    have hcap : r.command.taskType ∈ nodeProfiles (Counting.executor 4096).profile := by
      rw [hcmd]; decide
    have hattempt := attempt_delivered (fun _ => "now") hvalid hcap ⟨2000, fun _ => .ok []⟩
    simp only [answer, NodeExecutor.execute, hattempt, hcmd]
    rfl
  unfold NodeClient.submission at hsent
  split at hsent
  · cases hv : validateResult World.counting.toInterp (Vocabulary.toJson answer.1) answer.2 with
    | ok a =>
      obtain ⟨-, -, -, hfits⟩ := validateResult_eq_ok.mp hv
      rw [hanswer] at hfits
      exact Counting.executor_large hfits
    | error e =>
      rw [hv] at hsent
      cases e <;> cases hsent
  · cases hsent

end C2Lab
