import Mathlib.Logic.Equiv.Basic
import C2Lab.Contract
import C2Lab.Core.Counting
import C2Lab.Twin.Payload
import C2Lab.Twin.Run

/-! Audit and report carry no free text.

    Two runs in one world whose task and note texts differ by a renaming, and whose results for the
    tasks with text are taken or refused at the same check. The audit trail and the report are the
    same in both, and so are the statuses, the counters and the sequence numbers. -/

namespace C2Lab

open Prog

variable {py : Interp} {ρ : Renaming py} {w w' : World} {s s' t t' : LabState}

/-! ### What the two runs answer to a task with text -/

/-- Two results for one task, of the two runs: the same result of a command without text, or two
    results that each run takes as the exact answer to its own command, or refuses at the same
    check. A failure carries no text and is the same in both; `dispatched` tells whether the record
    still waits for a result. -/
inductive Renaming.SameVerdict (ρ : Renaming py) (c : Command) (dispatched : Prop)
    (expected : Option ExpectedRuntime) (status result result' : Json) : Prop
  | same (hc : ρ.command c = c) (hr : result' = result)
  | exact (hc : expectedResult c ≠ none) {st st' : ResultStatus} {x x' y y' : Json}
      (h : validateResult py status result = .ok (st, x))
      (h' : validateResult py status result' = .ok (st, x'))
      (hy : validateTaskResult py c (Vocabulary.toJson st) x expected = .ok (st', y))
      (hy' : validateTaskResult py (ρ.command c) (Vocabulary.toJson st) x' expected =
        .ok (st', y'))
      (hfailed : st' = .failed → y' = y)
  | envelope {m m' : PyStr} (h : validateResult py status result = .error (.protocol m))
      (h' : validateResult py status result' = .error (.protocol m'))
  | contract {st st' : ResultStatus} {x x' : Json} {m m' : PyStr}
      (h : validateResult py status result = .ok (st, x))
      (h' : validateResult py status result' = .ok (st', x'))
      (hm : validateTaskResult py c (Vocabulary.toJson st) x expected = .error (.protocol m))
      (hm' : validateTaskResult py (ρ.command c) (Vocabulary.toJson st') x' expected =
        .error (.protocol m'))
  | conflict {st st' : ResultStatus} {x x' : Json}
      (h : validateResult py status result = .ok (st, x))
      (h' : validateResult py status result' = .ok (st', x')) (hended : ¬dispatched)

theorem Renaming.expectedResult_command (ρ : Renaming py) {c : Command}
    (hc : expectedResult c ≠ none) : ∃ e', expectedResult (ρ.command c) = some e' := by
  cases c <;> first
    | exact absurd rfl hc
    | exact ⟨_, rfl⟩

/-- A command that leaves its Node no choice is answered with the expected result or a failure. -/
theorem contract_expected {c : Command} {e x y : Json} {status : Json}
    {expected : Option ExpectedRuntime} (he : expectedResult c = some e)
    (h : validateTaskResult py c status x expected = .ok (.completed, y)) : y = e := by
  obtain ⟨fields, -, -, hcon⟩ := validateTaskResult_eq_ok.mp h
  have hfixed : fixedResult x e (mismatchMessage c) = .ok y := by
    unfold validateContract at hcon
    cases c <;> cases he <;> exact hcon
  unfold fixedResult at hfixed
  split at hfixed <;> cases hfixed
  rfl

theorem contract_failed {c : Command} {x y : Json} {status : Json}
    {expected : Option ExpectedRuntime}
    (h : validateTaskResult py c status x expected = .ok (.failed, y)) :
    ∃ code : FailureCode, y = .dict [("error_code", Vocabulary.toJson code)] := by
  obtain ⟨fields, -, -, hcon⟩ := validateTaskResult_eq_ok.mp h
  simp only [validateContract, validateFailure, bind_eq_ok, oneOf_eq_ok, pure, Except.pure,
    Except.ok.injEq] at hcon
  obtain ⟨-, -, -, -, code, -, rfl⟩ := hcon
  exact ⟨code, rfl⟩

/-- The exact answers of the two runs correspond. -/
theorem Renaming.result_exact (ρ : Renaming py) {c : Command} (hc : expectedResult c ≠ none)
    {status x x' y y' : Json} {st : ResultStatus} {expected : Option ExpectedRuntime}
    (hy : validateTaskResult py c status x expected = .ok (st, y))
    (hy' : validateTaskResult py (ρ.command c) status x' expected = .ok (st, y'))
    (hfailed : st = .failed → y' = y) : y' = ρ.result c y := by
  obtain ⟨e, he⟩ := Option.ne_none_iff_exists'.mp hc
  obtain ⟨e', he'⟩ := ρ.expectedResult_command hc
  cases st with
  | completed =>
    obtain rfl := contract_expected he hy
    obtain rfl := contract_expected he' hy'
    rw [ρ.result_expected he, he']
    rfl
  | failed =>
    obtain ⟨code, rfl⟩ := contract_failed hy
    rw [hfailed rfl]
    refine (ρ.result_other ?_).symm
    cases c <;> simp [expectedResult, Json.dict]

/-- A reply to a retry writes nothing. -/
theorem final_replayResult (r : NodeTask) (status : ResultStatus) (result : Json) :
    final (replayResult r status result) s = s := by
  have hite : ∀ (c : Prop) [Decidable c] (e : Exc),
      final (if c then (pure r : Lab NodeTask) else throw e) s = s := by
    intro c _ e
    split <;> rfl
  exact hite _ _

/-- Nor does a result for a task that does not wait for one. -/
theorem final_submitLive {n : Node} {x : Task} {status : ResultStatus} {result : Json}
    {now : Instant} (hx : x.status ≠ .dispatched) :
    final (submitLive w n x status result now) s = s := by
  unfold submitLive
  split
  · exact final_replayResult _ _ _
  · rfl

theorem final_orReject_error {α β : Type} {r : NodeTask} {reason : String} {m : PyStr}
    (k : α → Lab β) :
    final (orReject w r reason (.error (.protocol m)) >>= k) s =
      s.rejectResultLocked w r reason := rfl

theorem final_orReject_ok {α β : Type} {r : NodeTask} {reason : String} (a : α) (k : α → Lab β) :
    final (orReject w r reason (.ok a) >>= k) s = final (k a) s := rfl

theorem submitLive_dispatched (w : World) (n : Node) {x : Task} (st : ResultStatus) (result : Json)
    (now : Instant) (hx : x.status = .dispatched) :
    submitLive w n x st result now = (do
      let (status, result) ← orReject w x.nodeTask "task_contract_mismatch"
        (validateTaskResult w.toInterp x.command (Vocabulary.toJson st) result
          (some n.expectedRuntime))
      acceptResult w n x status result now) := by
  unfold submitLive
  rw [if_neg (by simp [hx]), if_neg (by simp [hx])]

/-- The two runs do the same with their results of a dispatched task. -/
theorem final_submitDispatched (h : ρ.Sim w w' s s') {n : Node} {x : Task} {now : Instant}
    (hx : x.status = .dispatched) {st st' : ResultStatus} {result result' : Json}
    (hverdict : (∃ st₂ y, validateTaskResult py x.command (Vocabulary.toJson st) result
          (some n.expectedRuntime) = .ok (st₂, y) ∧
        validateTaskResult py (ρ.command x.command) (Vocabulary.toJson st') result'
          (some n.expectedRuntime) = .ok (st₂, ρ.result x.command y)) ∨
      ∃ m m', validateTaskResult py x.command (Vocabulary.toJson st) result
          (some n.expectedRuntime) = .error (.protocol m) ∧
        validateTaskResult py (ρ.command x.command) (Vocabulary.toJson st') result'
          (some n.expectedRuntime) = .error (.protocol m')) :
    ρ.Sim w w' (final (submitLive w n x st result now) s)
      (final (submitLive w' (ρ.node n) (ρ.task x) st' result' now) s') := by
  have hcommand : (ρ.task x).command = ρ.command x.command := rfl
  have hruntime : (ρ.node n).expectedRuntime = n.expectedRuntime := rfl
  rw [submitLive_dispatched w n st result now hx,
    submitLive_dispatched w' (ρ.node n) (x := ρ.task x) st' result' now hx, h.aligned.interp.1,
    h.aligned.interp.2, hcommand, hruntime]
  rcases hverdict with ⟨st₂, y, hy, hy'⟩ | ⟨m, m', hm, hm'⟩
  · rw [hy, hy', final_orReject_ok, final_orReject_ok]
    exact (twin_acceptResult h n x st₂ y now).final
  · rw [hm, hm', final_orReject_error, final_orReject_error]
    exact h.rejectResult x.nodeTask _

/-- What a result does to the state when its task is recorded. -/
theorem final_submitSession_live {n : Node} {id : PyStr} {x : Task} {status result : Json}
    {now : Instant} (hx : s.tasks.get? id = some x) :
    final (submitSession w n (.str id) status result now) s =
      if x.nodeId = n.id then
        final (do
          let (status, result) ← orReject w x.nodeTask "invalid_result_envelope"
            (validateResult w.toInterp status result)
          submitLive w n x status result now) s
      else s := by
  simp only [submitSession, bind, EStateM.bind, Prog.get_apply, final, hx]
  by_cases hn : x.nodeId = n.id
  · rw [if_pos hn, if_pos hn]
    rfl
  · rw [if_neg hn, if_neg hn]
    rfl

/-- What a result does to the state when only the tombstone of its task is. -/
theorem final_submitSession_ended {n : Node} {id : PyStr} {r : NodeTask} {status result : Json}
    {now : Instant} (hx : s.tasks.get? id = none) (hr : s.taskResultTombstones.get? id = some r) :
    final (submitSession w n (.str id) status result now) s =
      if r.nodeId = n.id then
        final (do
          let (status, result) ← orReject w r "invalid_result_envelope"
            (validateResult w.toInterp status result)
          replayResult r status result) s
      else s := by
  simp only [submitSession, bind, EStateM.bind, Prog.get_apply, final,
    hx, hr]
  by_cases hn : r.nodeId = n.id
  · rw [if_pos hn, if_pos hn]
    rfl
  · rw [if_neg hn, if_neg hn]
    rfl

theorem Renaming.Sim.submitLive (h : ρ.Sim w w' s s') (n : Node) (x : Task) (status : Json)
    {result result' : Json} (now : Instant)
    (hx : ρ.SameVerdict x.command (x.status = .dispatched) (some n.expectedRuntime) status result
      result') :
    ρ.Sim w w'
      (final (do
        let (status, result) ← orReject w x.nodeTask "invalid_result_envelope"
          (validateResult py status result)
        submitLive w n x status result now) s)
      (final (do
        let (status, result) ← orReject w' (ρ.task x).nodeTask "invalid_result_envelope"
          (validateResult py status result')
        submitLive w' (ρ.node n) (ρ.task x) status result now) s') := by
  have hended : ∀ {st st' : ResultStatus} {a a' : Json}, x.status ≠ .dispatched →
      ρ.Sim w w' (final (C2Lab.submitLive w n x st a now) s)
        (final (C2Lab.submitLive w' (ρ.node n) (ρ.task x) st' a' now) s') := by
    intro st st' a a' hne
    have hne' : (ρ.task x).status ≠ .dispatched := hne
    rwa [final_submitLive hne, final_submitLive hne']
  cases hx with
  | same hc hr =>
    subst hr
    refine (alike_bind (A := fun r r' => r' = ρ.nodeTask r) (twin_orReject h x.nodeTask _ _)
      ?_).final
    rintro ⟨status, result⟩ _ u u' rfl hu
    exact twin_submitLive hu n hc status result now
  | @exact hc st st' a a' y y' hv hv' hy hy' hfailed =>
    rw [hv, hv', final_orReject_ok, final_orReject_ok]
    by_cases hdispatched : x.status = .dispatched
    · rw [ρ.result_exact hc hy hy' hfailed] at hy'
      exact final_submitDispatched h hdispatched (.inl ⟨st', y, hy, hy'⟩)
    · exact hended hdispatched
  | envelope hv hv' =>
    rw [hv, hv', final_orReject_error, final_orReject_error]
    exact h.rejectResult x.nodeTask _
  | contract hv hv' hm hm' =>
    rw [hv, hv', final_orReject_ok, final_orReject_ok]
    by_cases hdispatched : x.status = .dispatched
    · exact final_submitDispatched h hdispatched (.inr ⟨_, _, hm, hm'⟩)
    · exact hended hdispatched
  | conflict hv hv' hdispatched =>
    rw [hv, hv', final_orReject_ok, final_orReject_ok]
    exact hended hdispatched

theorem Renaming.Sim.submitEnded (h : ρ.Sim w w' s s') (r : NodeTask) (status : Json)
    {expected : Option ExpectedRuntime} {result result' : Json}
    (hr : ρ.SameVerdict r.command False expected status result result') :
    ρ.Sim w w'
      (final (do
        let (status, result) ← orReject w r "invalid_result_envelope"
          (validateResult py status result)
        replayResult r status result) s)
      (final (do
        let (status, result) ← orReject w' (ρ.nodeTask r) "invalid_result_envelope"
          (validateResult py status result')
        replayResult (ρ.nodeTask r) status result) s') := by
  cases hr with
  | same hc hsame =>
    subst hsame
    have hfixed : ρ.nodeTask r = r := ρ.nodeTask_of_fixed hc
    rw [hfixed]
    refine (alike_bind (A := fun _ _ => True) (B := fun p p' => p' = p) ?_ ?_).final
    · have hcheck := twin_orReject h r "invalid_result_envelope" (validateResult py status result')
      rwa [hfixed] at hcheck
    · rintro ⟨status, result⟩ _ u u' rfl hu
      exact alike_imp (twin_replayResult hu r status result) fun _ _ _ => trivial
  | envelope hv hv' =>
    rw [hv, hv', final_orReject_error, final_orReject_error]
    exact h.rejectResult r _
  | exact _ hv hv' | contract hv hv' | conflict hv hv' =>
    rw [hv, hv', final_orReject_ok, final_orReject_ok, final_replayResult, final_replayResult]
    exact h

/-- The part after the session check, for the two results of the record it finds. -/
theorem final_submitSession (h : ρ.Sim w w' s s') (n : Node) (taskId status : Json)
    {result result' : Json} (now : Instant)
    (hlive : ∀ id x, taskId = .str id → s.tasks.get? id = some x → x.nodeId = n.id →
      ρ.SameVerdict x.command (x.status = .dispatched) (some n.expectedRuntime) status result
        result')
    (hended : ∀ id r, taskId = .str id → s.tasks.get? id = none →
      s.taskResultTombstones.get? id = some r → r.nodeId = n.id →
      ρ.SameVerdict r.command False (some n.expectedRuntime) status result result') :
    ρ.Sim w w' (final (submitSession w n taskId status result now) s)
      (final (submitSession w' (ρ.node n) taskId status result' now) s') := by
  cases taskId with
  | str id =>
    cases hx : s.tasks.get? id with
    | some x =>
      have hx' : s'.tasks.get? id = some (ρ.task x) := by rw [h.task_get?, hx]; rfl
      rw [final_submitSession_live hx, final_submitSession_live hx', h.aligned.interp.1,
        h.aligned.interp.2]
      exact .ite Iff.rfl (fun hn => h.submitLive n x status now (hlive id x rfl hx hn)) fun _ => h
    | none =>
      have hx' : s'.tasks.get? id = none := by rw [h.task_get?, hx]; rfl
      cases hr : s.taskResultTombstones.get? id with
      | some r =>
        have hr' : s'.taskResultTombstones.get? id = some (ρ.nodeTask r) := by
          rw [h.tombstone_get?, hr]
          rfl
        rw [final_submitSession_ended hx hr, final_submitSession_ended hx' hr', h.aligned.interp.1,
          h.aligned.interp.2]
        exact .ite Iff.rfl (fun hn => h.submitEnded r status (hended id r rfl hx hr hn)) fun _ => h
      | none =>
        have hr' : s'.taskResultTombstones.get? id = none := by
          rw [h.tombstone_get?, hr]
          rfl
        simp only [submitSession, bind, EStateM.bind, Prog.get_apply,
          final, hx, hr, hx', hr']
        exact h
  | _ => exact h

/-! ### Runs -/

namespace Renaming

/-- Other names for the texts alone. -/
def ofTexts (py : Interp) (text : Renames (CleanText py)) : Renaming py :=
  keepActors py id Function.injective_id (.same ValidKey) text

/-- The two results of a submission get the same verdict on whatever record the submission is about
    once the expiry pass is over and the session is checked. -/
def SameVerdicts (ρ : Renaming py) (w : World) (s : LabState) (nodeId token taskId status : Json)
    (result result' : Json) (now : Instant) : Prop :=
  ∀ t n u, expireLocked w now s = .ok ⟨⟩ t → requireNodeSessionLocked nodeId token t = .ok n u →
    (∀ id x, taskId = .str id → u.tasks.get? id = some x → x.nodeId = n.id →
      ρ.SameVerdict x.command (x.status = .dispatched) (some n.expectedRuntime) status result
        result') ∧
    ∀ id r, taskId = .str id → u.tasks.get? id = none →
      u.taskResultTombstones.get? id = some r → r.nodeId = n.id →
      ρ.SameVerdict r.command False (some n.expectedRuntime) status result result'

/-- Two runs of the same operations up to the texts of tasks and notes, and the results of tasks
    with text. -/
inductive Retold (ρ : Renaming py) (w : World) : LabState → LabState → Prop
  | start (stream : String) : Retold ρ w (.init stream) (.init stream)
  | same {s s' : LabState} (h : Retold ρ w s s') (op : Op) (hop : op.carriesText = false) :
      Retold ρ w (step w s op) (step w s' op)
  | task {s s' : LabState} (h : Retold ρ w s s') {taskType payload payload' : Json}
      (hpayload : ρ.SamePayload taskType payload payload') (nodeId : Json) (ttl : Option Json)
      (key actor : Json) (now : Instant) :
      Retold ρ w (step w s (.queueTask nodeId taskType payload ttl key actor now))
        (step w s' (.queueTask nodeId taskType payload' ttl key actor now))
  | note {s s' : LabState} (h : Retold ρ w s s') {message message' : Json}
      (hmessage : ρ.SameMessage message message') (actor key : Json) :
      Retold ρ w (step w s (.postOperatorNote message actor key))
        (step w s' (.postOperatorNote message' actor key))
  | result {s s' : LabState} (h : Retold ρ w s s') {nodeId token taskId status : Json}
      {sent sent' : Document} {now : Instant}
      (hverdicts : ρ.SameVerdicts w s nodeId token taskId status sent.1 sent'.1 now) :
      Retold ρ w (step w s (.submitResult nodeId token taskId status sent now))
        (step w s' (.submitResult nodeId token taskId status sent' now))

variable {text : Renames (CleanText py)}

theorem tokenArg_ofTexts (j : Json) : (ofTexts py text).tokenArg j = j := by
  cases j with
  | str s => cases s <;> rfl
  | _ => rfl

theorem keyArg_ofTexts (j : Json) : (ofTexts py text).keyArg j = j := by
  cases j with
  | str s => exact congrArg Json.str (Renames.name_same s)
  | _ => rfl

theorem actorArg_ofTexts (j : Json) : (ofTexts py text).actorArg j = j := by
  cases j with
  | str s => exact congrArg Json.str (Renames.name_same s)
  | _ => rfl

/-- An operation without text is called by the same name. -/
theorem op_ofTexts (op : Op) : (ofTexts py text).op op = op := by
  cases op <;> simp [Renaming.op, tokenArg_ofTexts, keyArg_ofTexts, actorArg_ofTexts]

theorem sparesNodes_ofTexts (s : LabState) (op : Op) : (ofTexts py text).SparesNodes s op :=
  fun _ _ _ _ _ _ a _ _ _ _ _ _ _ => Renames.name_same a

theorem step_submit (h : (ofTexts py text).Sim w w s s') {nodeId token taskId status : Json}
    {sent sent' : Document} {now : Instant}
    (hverdicts : (ofTexts py text).SameVerdicts w s nodeId token taskId status sent.1 sent'.1
      now) :
    (ofTexts py text).Sim w w (step w s (.submitResult nodeId token taskId status sent now))
      (step w s' (.submitResult nodeId token taskId status sent' now)) := by
  simp only [step, Op.run, final_map_eq]
  unfold submitResult
  refine final_bind (pair_expire now _ _ h) fun _ _ t t' ht _ _ htwin => ?_
  have hsession := twin_requireNodeSession htwin nodeId token
  rw [tokenArg_ofTexts] at hsession
  refine final_bind hsession fun n n' u u' hn _ hnode hu => ?_
  subst hnode
  obtain ⟨hlive, hended⟩ := hverdicts t n u ht hn
  exact final_submitSession hu n taskId status now hlive hended

theorem aligned_self (w : World) (text : Renames (CleanText w.toInterp)) (n : ℕ) :
    (ofTexts w.toInterp text).Aligned w n w n :=
  ⟨⟨rfl, rfl⟩, fun _ => rfl, fun _ => rfl, fun _ => rfl⟩

/-- Such runs stay twins. -/
theorem Retold.sim {text : Renames (CleanText w.toInterp)}
    (h : (ofTexts w.toInterp text).Retold w s s') : (ofTexts w.toInterp text).Sim w w s s' := by
  induction h with
  | start stream => exact { twin_init stream with aligned := aligned_self w text 0 }
  | same _ op hop ih =>
    have hcall := twin_call ih op (fun htext => by rw [hop] at htext; cases htext)
      (fun _ => trivial) (sparesNodes_ofTexts _ op)
    rw [op_ofTexts] at hcall
    exact step_of_alike hcall
  | task _ hpayload nodeId ttl key actor now ih =>
    have hcall := twin_queueTask ih hpayload nodeId ttl key actor now
    rw [keyArg_ofTexts, actorArg_ofTexts] at hcall
    exact step_of_alike (twin_reply (f := Reply.task) hcall fun _ _ hr => congrArg Reply.task hr)
  | note _ hmessage actor key ih =>
    have hcall := twin_postOperatorNote ih trivial hmessage actor key
    rw [keyArg_ofTexts, actorArg_ofTexts] at hcall
    exact step_of_alike (twin_reply (f := Reply.note) hcall fun _ _ hr => congrArg Reply.note hr)
  | result _ hverdicts ih => exact step_submit ih hverdicts

end Renaming

/-- What is compared: the audit trail, the report, the status of every task, and every counter. -/
structure LabState.SameRecord (s s' : LabState) : Prop where
  audit : s'.auditTrail = s.auditTrail
  report : ∀ generatedAt, s'.report generatedAt = s.report generatedAt
  statuses : s'.tasks.entries.map (fun p => (p.1, p.2.status)) =
    s.tasks.entries.map fun p => (p.1, p.2.status)
  counters : s'.nodes.entries.map (fun p => (p.1, p.2.tasksCompleted, p.2.tasksFailed)) =
    s.nodes.entries.map fun p => (p.1, p.2.tasksCompleted, p.2.tasksFailed)
  taskSequence : s'.taskSequence = s.taskSequence
  eventSequence : s'.eventSequence = s.eventSequence
  auditSequence : s'.auditSequence = s.auditSequence

/-- At every point of two such runs. -/
theorem records_redacted {w : World} {text : Renames (CleanText w.toInterp)}
    (h : (Renaming.ofTexts w.toInterp text).Retold w s s') : s.SameRecord s' := by
  have hs := h.sim
  have hh := hs.history trivial
  refine ⟨hs.auditTrail_eq trivial, hs.report_eq trivial, ?_, ?_, hs.taskSequence,
    hh.eventSequence, hh.auditSequence⟩
  · rw [hs.tasks]
    simp only [Dict.map, Dict.rename, List.map_map]
    rfl
  · rw [hs.nodes]
    simp only [Dict.map, Dict.rename, List.map_map]
    rfl

/-- A trimmed note under another text. -/
theorem Renaming.sameMessage {j : Json} (hj : Renaming.Trimmed py j) :
    ρ.SameMessage j (ρ.textArg j) := cleanText_textArg hj "message"

/-! ### An echo in two runs -/

namespace Counting

/-- Two texts change places. -/
def swappedTexts : Renames (CleanText World.counting.toInterp) :=
  { map := Equiv.swap (PyStr.text "hello") (.text "world")
    maps := fun a ha => by
      rw [Equiv.swap_apply_def]
      split
      · rfl
      · split
        · rfl
        · exact ha
    injOn := (Equiv.injective _).injOn }

/-- The payload and the result of an echo. -/
def echoed (key : String) (text : PyStr) : Document := ⟨.obj [(.text key, .str text)], rfl⟩

/-- The Node was asked for an echo of `text`. -/
def echoAsked (text : PyStr) : LabState :=
  exec .counting (.init "stream") [enroll, queue .echoText (echoed "text" text).1, poll 11]

/-- Once the session is checked the task asks for `text`. -/
def asksFor (text : PyStr) (s : LabState) : Bool :=
  match expireLocked .counting 12 s with
  | .error .. => true
  | .ok _ t =>
    match requireNodeSessionLocked nodeId token t with
    | .error .. => true
    | .ok _ u =>
      match u.tasks.get? (World.counting.taskId 6) with
      | none => false
      | some x => x.command = .echoText text

theorem asksFor_found {text : PyStr} {s t u : LabState} {n : Node} (h : asksFor text s = true)
    (ht : expireLocked .counting 12 s = .ok ⟨⟩ t)
    (hu : requireNodeSessionLocked nodeId token t = .ok n u) :
    ∃ x, u.tasks.get? (World.counting.taskId 6) = some x ∧ x.command = .echoText text := by
  simp only [asksFor, ht, hu] at h
  cases hx : u.tasks.get? (World.counting.taskId 6) with
  | none => rw [hx] at h; cases h
  | some x => rw [hx] at h; exact ⟨x, rfl, of_decide_eq_true h⟩

theorem swapped_text :
    (Renaming.ofTexts World.counting.toInterp swappedTexts).text.name "hello" = "world" := by
  have hmap : swappedTexts.map "hello" = "world" := by decide
  exact (swappedTexts.name_of (a := "hello") rfl).trans hmap

theorem swapped_echo :
    (Renaming.ofTexts World.counting.toInterp swappedTexts).command (.echoText "hello") =
      .echoText "world" := congrArg Command.echoText swapped_text

theorem hello_trimmed : Renaming.Trimmed World.counting.toInterp (.str "hello") := by
  intro c hc
  have hclean : cleanText World.counting.toInterp (.str "hello") "text" maxTextLength =
      .ok "hello" := rfl
  rw [hclean] at hc
  exact congrArg Json.str (Except.ok.inj hc)

theorem swapped_payload : (Renaming.ofTexts World.counting.toInterp swappedTexts).SamePayload
    (Vocabulary.toJson TaskType.echoText) (echoed "text" "hello").1 (echoed "text" "world").1 := by
  have h := (Renaming.ofTexts World.counting.toInterp swappedTexts).samePayload .echoText
    (echoed "text" "hello").1 fun key v hkey hv => by
      cases hkey
      cases hv
      exact hello_trimmed
  have hpayload : (Renaming.ofTexts World.counting.toInterp swappedTexts).payload .echoText
      (echoed "text" "hello").1 = (echoed "text" "world").1 := by
    simp [Renaming.payload, echoed, TaskType.textKey, Renaming.textArg, swapped_text]
  rwa [hpayload] at h

theorem echoed_exact (asked : Prop) (e : Option ExpectedRuntime) :
    (Renaming.ofTexts World.counting.toInterp swappedTexts).SameVerdict (.echoText "hello") asked e
      (.str "completed") (echoed "echo" "hello").1 (echoed "echo" "world").1 := by
  have henvelope : ∀ text ∈ ["hello", "world"],
      validateResult World.counting.toInterp (.str "completed") (echoed "echo" (.text text)).1 =
        .ok (.completed, (echoed "echo" (.text text)).1) := by
    intro text htext
    rcases List.mem_pair.mp htext with rfl | rfl <;> rfl
  have hanswer : ∀ text ∈ ["hello", "world"],
      validateTaskResult World.counting.toInterp (.echoText (.text text)) (.str "completed")
        (echoed "echo" (.text text)).1 e = .ok (.completed, (echoed "echo" (.text text)).1) := by
    intro text htext
    rcases List.mem_pair.mp htext with rfl | rfl <;> rfl
  have hworld := hanswer "world" (by simp)
  rw [← swapped_echo] at hworld
  exact .exact (by simp [expectedResult]) (henvelope "hello" (by simp))
    (henvelope "world" (by simp)) (hanswer "hello" (by simp)) hworld nofun

end Counting

/-- One run asks for the echo of "hello" and one for that of "world", in a note as well: neither
    shows in the records. -/
theorem records_redacted_echo :
    let told (text : PyStr) := exec .counting (Counting.echoAsked text)
      [.submitResult Counting.nodeId Counting.token (.str (World.counting.taskId 6))
          (.str "completed") (Counting.echoed "echo" text) 12,
        .postOperatorNote (.str text) (.str "operator") .null]
    (told "hello").SameRecord (told "world") := by
  intro told
  have hfinds : ∀ text ∈ [PyStr.text "hello", .text "world"],
      Counting.asksFor text (Counting.echoAsked text) = true := by decide +kernel
  have hasked : (Renaming.ofTexts World.counting.toInterp Counting.swappedTexts).Retold .counting
      (Counting.echoAsked "hello") (Counting.echoAsked "world") :=
    .same (.task (.same (.start "stream") Counting.enroll rfl) Counting.swapped_payload _ _ _ _ _)
      (Counting.poll 11) rfl
  have hnote := Renaming.sameMessage
    (ρ := Renaming.ofTexts World.counting.toInterp Counting.swappedTexts) Counting.hello_trimmed
  have hworld : (Renaming.ofTexts World.counting.toInterp Counting.swappedTexts).textArg
      (.str "hello") = .str "world" := congrArg Json.str Counting.swapped_text
  rw [hworld] at hnote
  refine records_redacted (.note (.result hasked fun t n u ht hn => ?_) hnote _ _)
  obtain ⟨x, hx, hcommand⟩ := Counting.asksFor_found (hfinds "hello" (by simp)) ht hn
  refine ⟨fun id y hid hy _ => ?_, fun id r hid hnone => ?_⟩ <;> cases hid
  · obtain rfl : x = y := Option.some.inj (hx.symm.trans hy)
    rw [hcommand]
    exact Counting.echoed_exact _ _
  · rw [hx] at hnone
    cases hnone

end C2Lab
