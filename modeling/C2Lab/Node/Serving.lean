import C2Lab.Core.Isolated
import C2Lab.Core.NodeRetention
import C2Lab.Node.Loop

/-! How the Teamserver serves a Node.

    A task that was handed to a session stays a task of that session until it is over, however the
    operations of others come between. From there: what the replies to an enrollment, a poll and a
    submission tell. -/

namespace C2Lab

variable {w : World} {s s' m : LabState} {a : PyStr} {k : NodeTask}

/-! ### A task that was handed out -/

/-- A task that is not live any more. -/
def TaskOver (w : World) (id : PyStr) (s : LabState) : Prop :=
  w.TaskDrawn s.draws id ∧ ∀ t, s.tasks.get? id = some t → t.status.isTerminal = true

/-- It never becomes live again. -/
theorem TaskOver.step {id : PyStr} (h : TaskOver w id s) (hs : Sound w s) {op : Op}
    (hf : w.FreshBelow (step w s op).draws) : TaskOver w id (step w s op) := by
  obtain ⟨hdrawn, hover⟩ := h
  refine ⟨hdrawn.mono (step_draws_le hs op), fun t' ht' => ?_⟩
  obtain ⟨t, ht, hstep⟩ := Next.task ⟨op, rfl, hf⟩ hs hdrawn ht'
  rw [hstep.frozen (hover t ht)]
  exact hover t ht

/-- The task `k` was handed to the session of node `a`. -/
structure Assigned (w : World) (a : PyStr) (k : NodeTask) (s : LabState) : Prop where
  drawn : w.TaskDrawn s.draws k.id
  recorded : ∀ t, s.tasks.get? k.id = some t →
    t.nodeId = a ∧ t.command = k.command ∧ t.status ≠ .queued
  acknowledged : ∀ r, s.Acknowledged k.id r → r.nodeId = a ∧ r.command = k.command

/-- A result is taken from the Node its task was handed to. -/
theorem Assigned.takes (h : Assigned w a k s) {op : Op} {n : Node} {t : Task} {st : ResultStatus}
    {sent : Document} {stored : Json} (ht : Takes w s op n t st sent stored) (hid : t.id = k.id) :
    n.id = a ∧ t.command = k.command := by
  obtain ⟨hnode, hcommand, -⟩ := h.recorded t (hid ▸ ht.recorded)
  exact ⟨ht.owned.symm.trans hnode, hcommand⟩

/-- It stays so. -/
theorem Assigned.step (h : Assigned w a k s) (hs : Sound w s) {op : Op}
    (hf : w.FreshBelow (step w s op).draws) : Assigned w a k (step w s op) := by
  refine ⟨h.drawn.mono (step_draws_le hs op), fun t' ht' => ?_, fun r hr => ?_⟩
  · obtain ⟨t, ht, hstep⟩ := Next.task ⟨op, rfl, hf⟩ hs h.drawn ht'
    obtain ⟨hnode, hcommand, hqueued⟩ := h.recorded t ht
    refine ⟨(congrArg Task.nodeId hstep.request_eq).trans hnode,
      (congrArg Task.command hstep.request_eq).trans hcommand, fun hq => ?_⟩
    rcases hstep.moves with hsame | hmoves
    · exact hqueued (hsame.symm.trans hq)
    · generalize t.status = before at hmoves
      rw [hq] at hmoves
      cases hmoves
  · cases step_effect hs op hf with
    | nothing hack => exact h.acknowledged r (hack _ _ hr)
    | @result n t st sent stored time htakes _ hack =>
      rcases hack _ _ hr with hold | ⟨hid, rfl⟩
      · exact h.acknowledged r hold
      · obtain ⟨hnode, hcommand, -⟩ := h.recorded t (hid ▸ htakes.recorded)
        exact ⟨hnode, hcommand⟩

/-- A task that was over is not taken. -/
theorem TaskOver.not_taken {op : Op} {n : Node} {t : Task} {st : ResultStatus} {sent : Document}
    {stored : Json} (h : TaskOver w t.id s) (ht : Takes w s op n t st sent stored) : False := by
  have hterm := h.2 t ht.recorded
  rw [ht.dispatched] at hterm
  cases hterm

/-! ### Enrollments -/

/-- What the caller of an operation gets is what its program returned. -/
theorem answer_eq_ok {op : Op} {reply : Reply} (h : answer w s op = .ok reply) :
    op.call w s = .ok reply (step w s op) := by
  rw [step_eq_call]
  unfold answer at h
  unfold Prog.final
  split at h
  · rename_i r s' hcall
    cases h
    simp only [hcall]
  · cases h

/-- A program with its reply dressed returns what it returns. -/
theorem map_eq_ok {α β : Type} {f : α → β} {p : Lab α} {b : β}
    (h : (f <$> p) s = .ok b s') : ∃ x, p s = .ok x s' ∧ b = f x := by
  simp only [Functor.map, EStateM.map] at h
  split at h
  · rename_i x s₁ hp
    cases h
    exact ⟨x, hp, rfl⟩
  · cases h

/-- An executor enrolls as what it is. -/
theorem validateEnrollment_executor {name : PyStr} {x : NodeExecutor} {e : Enrollment}
    (h : validateEnrollment w.toInterp (.str name) (.str x.version) (Vocabulary.toJson x.profile)
      (.arr ((nodeProfiles x.profile).map Vocabulary.toJson)) (.int x.pollIntervalMs)
      (.int x.jitterPercent) = .ok e) {n : Node}
    (hn : n.expectedRuntime = ⟨e.version, e.profile, e.pollIntervalMs, e.jitterPercent⟩) :
    x.Agrees w.toInterp n := by
  simp only [validateEnrollment, bind_eq_ok, protocolCall_eq_ok, validatePollInterval,
    validateJitterPercent, boundedInt_eq_ok, pure, Except.pure, Except.ok.injEq] at h
  obtain ⟨_, -, version, hversion, ⟨profile, _⟩, hprofile, i, ⟨hi, -⟩, j, ⟨hj, -⟩, rfl⟩ := h
  simp only [validateCapabilities, bind_eq_ok] at hprofile
  obtain ⟨q, hq, hprofile⟩ := hprofile
  obtain rfl := Vocabulary.toJson_inj (validateProfile_eq_ok.mp hq)
  have hsame : x.profile = profile := by
    split at hprofile
    · cases hprofile
      rfl
    · cases hprofile
  simp only [Node.expectedRuntime, ExpectedRuntime.mk.injEq] at hn
  obtain ⟨hnv, hnp, hni, hnj⟩ := hn
  exact ⟨hsame.trans hnp.symm, by rw [hnv]; exact hversion, (Json.int.inj hi).trans hni.symm,
    (Json.int.inj hj).trans hnj.symm⟩

/-- The reply to an enrollment names a fresh node, recorded as the executor knows itself. -/
theorem enroll_answer (hs : Safe w s) {name : PyStr} {x : NodeExecutor} {now : Instant}
    {reply : EnrollResponse}
    (h : answer w s ((NodeRequest.enroll name x).op now) = .ok (.enrolled reply)) :
    let s' := step w s ((NodeRequest.enroll name x).op now)
    ∃ j, s.draws ≤ j ∧ j < s'.draws ∧ reply.node.id = w.nodeId j ∧
      ∀ n, s'.nodes.get? (w.nodeId j) = some n → x.Agrees w.toInterp n := by
  intro s'
  have hcall := answer_eq_ok h
  obtain ⟨r, hrun, hr⟩ := map_eq_ok (f := Reply.enrolled) hcall
  cases hr
  have hwp := enrollNode_wp hs (.str name) (.str x.version) (Vocabulary.toJson x.profile)
    (.arr ((nodeProfiles x.profile).map Vocabulary.toJson)) (.int x.pollIntervalMs)
    (.int x.jitterPercent) now
  rw [Prog.wp_run hrun] at hwp
  obtain ⟨e, hv, henrolled⟩ := hwp
  -- the new record is what was enrolled
  have hadd : ∀ m : LabState, s.draws ≤ m.draws → s' = m.addNode w (m.newNode w e now) →
      s.draws ≤ m.draws ∧ m.draws < s'.draws ∧
        (m.newNode w e now).publicNode.id = w.nodeId m.draws ∧
        ∀ n, s'.nodes.get? (w.nodeId m.draws) = some n → x.Agrees w.toInterp n := by
    intro m hm heq
    refine ⟨hm, ?_, rfl, fun n hn => ?_⟩
    · rw [heq, LabState.draws_addNode]
      omega
    · rw [heq, LabState.nodes_addNode] at hn
      obtain rfl := Option.some.inj ((Dict.get?_set_self _ _ _).symm.trans hn)
      exact validateEnrollment_executor hv rfl
  generalize hs₂ : step w s ((NodeRequest.enroll name x).op now) = s₂ at henrolled
  cases henrolled with
  | added => exact ⟨s.draws, hadd s le_rfl hs₂⟩
  | @replaced n s₁ hfull hn hc hs₁ =>
    subst hs₁
    exact ⟨_, hadd _ (Write.pruneNode hn hc).draws_le hs₂⟩

/-! ### Polls -/

/-- The reply to a poll passes the checks of the client; a task it brings is live, assigned to the
    session, and for its profile. -/
theorem poll_answer (hr : Reachable w s) (isoformat : Timestamp → String) {x : NodeSession}
    {now : Instant} {reply : PollResponse}
    (hf : w.FreshBelow (step w s ((NodeRequest.poll x).op now)).draws)
    (h : answer w s ((NodeRequest.poll x).op now) = .ok (.polled reply)) :
    let s' := step w s ((NodeRequest.poll x).op now)
    NodeClient.polled w.toInterp x.id (reply.toJson isoformat) =
      .ok (reply.task.map (·.toJson isoformat)) ∧
    ∀ k, reply.task = some k → Assigned w x.id k s' ∧ k.command.Valid w.toInterp ∧
      (∃ t, s'.tasks.get? k.id = some t ∧ t.status = .dispatched) ∧
      ∃ n, s'.nodes.get? x.id = some n ∧ k.command.taskType ∈ nodeProfiles n.profile := by
  intro s'
  obtain ⟨r, hpoll, hr'⟩ := map_eq_ok (f := Reply.polled) (answer_eq_ok h)
  cases hr'
  have hreach' := hr.step hf
  have hs' : Safe w s' := hreach'.sound.safe
  cases htask : reply.task with
  | none =>
    refine ⟨?_, fun k hk => by cases hk⟩
    obtain ⟨node, task, time⟩ := reply
    cases htask
    rfl
  | some k =>
    obtain ⟨t, ht, rfl, hd, hnode⟩ := pollNode_handed hr.sound.safe hpoll htask
    have hnode : t.nodeId = x.id := Json.str.inj hnode.symm
    have hcor := correlation_kept.reachable (fun _ => Dict.all_empty) hreach' _ _ ht
    have hlive : t.status.isTerminal = false := by rw [hd]; rfl
    refine ⟨?_, ?_⟩
    · have henv := envelope_delivered hs' ht hcor hd isoformat
      rw [hnode] at henv
      unfold NodeClient.polled
      rw [PollResponse.getNone_task isoformat htask]
      show (do
        let _ ← NodeClient.envelope w.toInterp x.id (t.nodeTask.toJson isoformat)
        return some (t.nodeTask.toJson isoformat)) = _
      rw [henv]
      rfl
    · rintro _ ⟨⟩
      obtain ⟨n, hn, -, hcap⟩ := hs'.owned _ _ ht hlive
      rw [(hs'.node_wf hn).capabilities_eq] at hcap
      refine ⟨⟨hs'.task_drawn ht, fun t' ht' => ?_, fun r hr => ?_⟩, (hs'.task_wf ht).command_valid,
        ⟨t, ht, hd⟩, n, hnode ▸ hn, hcap⟩
      · obtain rfl := Option.some.inj (ht.symm.trans ht')
        exact ⟨hnode, rfl, by rw [hd]; decide⟩
      · exact absurd ⟨r, hr⟩ (hs'.not_known ht hlive)

/-! ### Submissions -/

/-- Without its session a request is refused with a 401, unless the token cannot be compared. -/
theorem requireNodeSession_error {nodeId token : Json} {e : Exc}
    (h : requireNodeSessionLocked nodeId token s = .error e s') :
    e = sessionError ∨ ∃ p, e = .py p := by
  have hwp : Prog.wp (requireNodeSessionLocked nodeId token) (fun _ _ => True)
      (fun e _ => e = sessionError ∨ ∃ p, e = .py p) s := by
    unfold requireNodeSessionLocked
    simp only [Prog.wp_bind, Prog.wp_get, wp_check, Prog.wp_ite]
    refine ⟨fun ok _ => ⟨fun _ => ?_, fun _ => .inl rfl⟩, fun e he => ?_⟩
    · cases nodeId with
      | str id =>
        cases hn : s.nodes.get? id with
        | none =>
          simp only [hn]
          exact .inr ⟨_, rfl⟩
        | some n =>
          simp only [hn]
          trivial
      | _ => exact .inr ⟨_, rfl⟩
    · unfold authenticateNode at he
      split at he
      · split at he
        · cases he
        · split at he
          · cases he
          · cases he
            exact .inr ⟨_, rfl⟩
      · cases he
  rw [Prog.wp, h] at hwp
  exact hwp

/-- The expiry pass comes first. -/
theorem submitResult_draws (hm : Safe w m) {nodeId token taskId status : Json} {sent : Document}
    {now : Instant} (hexp : expireLocked w now s = .ok ⟨⟩ m) :
    m.draws ≤ (step w s (.submitResult nodeId token taskId status sent now)).draws := by
  have hsub : ∀ s₂, Submitted w m s₂ → m.draws ≤ s₂.draws := by
    intro s₂ h
    cases h with
    | same => exact le_rfl
    | rejected r reason => exact (Write.rejectResult (w := w) r reason).draws_le
    | accepted hr hf _ => exact hr.draws_le.trans hf.draws_le
  have hwp : Prog.wp (submitResult w nodeId token taskId status sent.1 now)
      (fun _ s' => m.draws ≤ s'.draws) (fun _ s' => m.draws ≤ s'.draws) s := by
    unfold submitResult
    rw [Prog.wp_bind, Prog.wp_run hexp, Prog.wp_bind]
    refine Prog.wp_mono (requireNodeSession_wp hm nodeId token) ?_ fun _ _ h => h ▸ le_rfl
    rintro n _ ⟨rfl, hsess⟩
    exact Prog.wp_mono (submitSession_wp hm hsess.recorded taskId status sent now)
      (fun _ => hsub) fun _ => hsub
  rw [step, Op.run, Prog.final_map_eq]
  exact Prog.wp_final.mp hwp

/-- A result of a dispatched task that passes both checks is taken. -/
theorem submitSession_takes (hm : Safe w m) {n : Node} (hn : m.nodes.get? n.id = some n) {t : Task}
    (ht : m.tasks.get? t.id = some t) (hnode : t.nodeId = n.id) (hd : t.status = .dispatched)
    {st : ResultStatus} {sent : Document} {stored : Json}
    (henv : validateResult w.toInterp (Vocabulary.toJson st) sent.1 = .ok (st, sent.1))
    (hv : validateTaskResult w.toInterp t.command (Vocabulary.toJson st) sent.1
      (some n.expectedRuntime) = .ok (st, stored)) (now : Instant) :
    ∃ reply s', submitSession w n (.str t.id) (Vocabulary.toJson st) sent.1 now m =
      .ok reply s' := by
  obtain ⟨reply, s', hrun, -⟩ := Prog.exists_ok (acceptResult_wp hm hn ht hnode hd hv now)
  refine ⟨reply, s', ?_⟩
  simp only [submitSession, submitLive, bind, EStateM.bind, Prog.get_apply, ht, hnode, if_true,
    henv, orReject, pure, EStateM.pure, hd, hv, reduceCtorEq, or_self, if_false, ne_eq,
    not_true_eq_false, hrun]

/-- An acknowledgement holds a result that passes the check of its envelope. -/
structure Holds (w : World) (held : NodeTask) (st : ResultStatus) (sent : Document) : Prop where
  status_eq : held.status = st.taskStatus
  envelope : validateResult w.toInterp (Vocabulary.toJson st) sent.1 = .ok (st, sent.1)
  result_eq : ∃ stored, held.result = some stored ∧ typeStrictEqual stored sent.1 = true

/-- A result that is acknowledged is answered again, as long as it is the same. -/
theorem submitSession_again (hm : Safe w m) {n : Node} {id : PyStr} {held : NodeTask}
    (hk : m.Acknowledged id held) (hnode : held.nodeId = n.id) {st : ResultStatus} {sent : Document}
    (hheld : Holds w held st sent) (now : Instant) :
    submitSession w n (.str id) (Vocabulary.toJson st) sent.1 now m = .ok held m := by
  obtain ⟨hst, henv, stored, hres, hsame⟩ := hheld
  have hreplay : replayResult held st sent.1 m = .ok held m := by
    simp only [replayResult, hst, hres, hsame, and_self, if_true]
    rfl
  cases hk with
  | @recorded t ht hacc =>
    have hnode' : t.nodeId = n.id := hnode
    have hended : t.status = .completed ∨ t.status = .failed := by
      have hst' : t.status = st.taskStatus := hst
      rw [hst']
      cases st <;> simp [ResultStatus.taskStatus]
    simp only [submitSession, submitLive, bind, EStateM.bind, Prog.get_apply, ht, hnode', if_true,
      henv, orReject, pure, EStateM.pure, hended, hreplay]
  | pruned hk =>
    have hnone := (hm.tombstones _ _ hk).pruned
    simp only [submitSession, bind, EStateM.bind, Prog.get_apply, hnone, hk, hnode, if_true, henv,
      orReject, pure, EStateM.pure, hreplay]

/-- What the reply to a submission of `r` for the task `k` of node `a` still tells in a state: once
    it is answered, or refused other than for its session, the task is over; and a result that
    settles something is then acknowledged or not, as the reply says. A result that exceeds its
    contract may be refused for that. -/
def Judged (w : World) (a : PyStr) (k : NodeTask) (r : PendingResult) (s : LabState) :
    NodeReply → Prop
  | .ok _ => TaskOver w k.id s ∧
      (Settles k.command r.status → s.Knows k.id ∨ s.nodes.get? a = none)
  | .refused status => status = 401 ∨ 500 ≤ status ∨ r.Exceeds w.toInterp ∨
      TaskOver w k.id s ∧ (Settles k.command r.status → ¬s.Knows k.id ∨ s.nodes.get? a = none)

/-- What is answered was dispatched, or had ended with that status, or is held in a tombstone. -/
theorem submitSession_ok {n : Node} {id : PyStr} {st : ResultStatus} {sent : Document}
    {now : Instant} {reply : NodeTask}
    (h : submitSession w n (.str id) (Vocabulary.toJson st) sent.1 now m = .ok reply s') :
    (∃ t, m.tasks.get? id = some t ∧ (t.status = .dispatched ∨ t.status = st.taskStatus)) ∨
      (m.taskResultTombstones.get? id).isSome := by
  have hreplay : ∀ (record : NodeTask) (result : Json), Prog.wp (replayResult record st result)
      (fun _ _ => record.status = st.taskStatus) (fun _ _ => True) m := by
    intro record result
    unfold replayResult
    exact Prog.wp_ite.mpr ⟨fun hsame => hsame.1, fun _ => trivial⟩
  have hwp : Prog.wp (submitSession w n (.str id) (Vocabulary.toJson st) sent.1 now)
      (fun _ _ => (∃ t, m.tasks.get? id = some t ∧
        (t.status = .dispatched ∨ t.status = st.taskStatus)) ∨
        (m.taskResultTombstones.get? id).isSome) (fun _ _ => True) m := by
    unfold submitSession
    simp only [Prog.wp_bind, Prog.wp_get]
    cases ht : m.tasks.get? id with
    | some t =>
      simp only
      refine Prog.wp_ite.mpr ⟨fun _ => ?_, fun _ => trivial⟩
      rw [Prog.wp_bind, orReject_wp]
      refine ⟨?_, fun _ _ => trivial, fun _ _ _ => trivial⟩
      rintro ⟨st', result⟩ henv
      obtain rfl := Vocabulary.toJson_inj (validateResult_eq_ok.mp henv).1
      unfold submitLive
      refine Prog.wp_ite.mpr
        ⟨fun _ => ?_, fun _ => Prog.wp_ite.mpr ⟨fun _ => trivial, fun hd => ?_⟩⟩
      · exact Prog.wp_mono (hreplay t.nodeTask result)
          (fun _ _ hst => .inl ⟨t, rfl, .inr hst⟩) fun _ _ _ => trivial
      · have hd : t.status = .dispatched := by simpa using hd
        unfold Prog.wp
        split
        · exact .inl ⟨t, rfl, .inl hd⟩
        · trivial
    | none =>
      cases hk : m.taskResultTombstones.get? id with
      | some r =>
        unfold Prog.wp
        split
        · exact .inr rfl
        · trivial
      | none =>
        simp only [hk]
        trivial
  rwa [Prog.wp_run h] at hwp

/-- A submission of the session of a task's Node: answered, the task is over and what settles is
    acknowledged; refused, the task was over and what settles is not, for a result that passes the
    checks while the task is dispatched. -/
theorem submitSession_judged (hm : Safe w m) {n : Node} (hn : m.nodes.get? n.id = some n)
    (st : ResultStatus) (sent : Document)
    (htask : ∀ t, m.tasks.get? k.id = some t → t.nodeId = n.id ∧
      (t.status.isTerminal = true ∨ t.status = .dispatched ∧ t.command = k.command))
    (exceeds : Prop) (hpasses : ¬exceeds → ∀ t, m.tasks.get? k.id = some t →
      t.status = .dispatched →
      validateResult w.toInterp (Vocabulary.toJson st) sent.1 = .ok (st, sent.1) ∧
      ∃ stored, validateTaskResult w.toInterp t.command (Vocabulary.toJson st) sent.1
        (some n.expectedRuntime) = .ok (st, stored))
    (hheld : Settles k.command st → ∀ held, m.Acknowledged k.id held →
      held.nodeId = n.id ∧ Holds w held st sent) (now : Instant) :
    Prog.wp (submitSession w n (.str k.id) (Vocabulary.toJson st) sent.1 now)
      (fun _ s' => Safe w s' →
        (∀ t, s'.tasks.get? k.id = some t → t.status.isTerminal = true) ∧
        (Settles k.command st → s'.Knows k.id))
      (fun _ s' => exceeds ∨
        (∀ t, s'.tasks.get? k.id = some t → t.status.isTerminal = true) ∧
        (Settles k.command st → ¬s'.Knows k.id)) m := by
  have hanswers := submitSession_answers hm hn (.str k.id) (Vocabulary.toJson st) sent now
  unfold Prog.wp
  cases hrun : submitSession w n (.str k.id) (Vocabulary.toJson st) sent.1 now m with
  | ok reply s' =>
    rw [Prog.wp_run hrun] at hanswers
    intro hs'
    by_cases hd : ∃ t, m.tasks.get? k.id = some t ∧ t.status = .dispatched
    · obtain ⟨t, ht, hd⟩ := hd
      have hkey := hm.task_key ht
      have hwp := submitSession_stores hm hn (hkey.symm ▸ ht) (htask t ht).1 hd
        (Vocabulary.toJson st) sent now
      rw [hkey, Prog.wp_run hrun] at hwp
      obtain ⟨st', stored, ended, hended, hst, -, -, hget⟩ := hwp
      obtain rfl := Vocabulary.toJson_inj hst
      refine ⟨fun t' ht' => ?_, fun hsettles => ?_⟩
      · obtain rfl := Option.some.inj (hget.symm.trans ht')
        exact hended.terminal
      · have hdone : ended.status = .completed := by rw [hended.status_eq, hsettles.2]; rfl
        exact ⟨_, .recorded hget ((hs'.task_wf hget).completed_accepted hdone)⟩
    · have hsame : s' = m := by
        cases hanswers with
        | replayed => rfl
        | accepted heq _ ht _ hd' =>
          rw [← Json.str.inj heq] at ht
          exact absurd ⟨_, ht, hd'⟩ hd
      subst hsame
      refine ⟨fun t ht => ?_, fun hsettles => ?_⟩
      · exact (htask t ht).2.resolve_right fun hlive => hd ⟨t, ht, hlive.1⟩
      · rcases submitSession_ok hrun with ⟨t, ht, hlive | hst⟩ | hk
        · exact absurd ⟨t, ht, hlive⟩ hd
        · rw [hsettles.2] at hst
          exact ⟨_, .recorded ht ((hs'.task_wf ht).completed_accepted hst)⟩
        · obtain ⟨held, hk⟩ := Option.isSome_iff_exists.mp hk
          exact ⟨held, .pruned hk⟩
  | error error s' =>
    rw [Prog.wp, hrun] at hanswers
    have hrec : s'.toRecords = m.toRecords := by
      cases hanswers with
      | same => rfl
      | rejected => simp [LabState.rejectResultLocked]
    by_cases hexceeds : exceeds
    · exact .inl hexceeds
    refine .inr ⟨fun t ht => ?_, fun hsettles => ?_⟩
    · rw [hrec] at ht
      refine (htask t ht).2.resolve_right fun hlive => ?_
      have hkey := hm.task_key ht
      obtain ⟨henv, stored, hv⟩ := hpasses hexceeds t ht hlive.1
      obtain ⟨reply, s₁, htaken⟩ := submitSession_takes hm hn (hkey.symm ▸ ht) (htask t ht).1
        hlive.1 henv hv now
      rw [hkey, hrun] at htaken
      cases htaken
    · rw [hrec]
      rintro ⟨held, hk⟩
      obtain ⟨hnode, hholds⟩ := hheld hsettles held hk
      rw [submitSession_again hm hk hnode hholds now] at hrun
      cases hrun

/-- The expiry pass before a request neither gives nor forgets an acknowledgement. -/
theorem expired_acknowledged (hs : Safe w s) (hcame : Came w Activity.expiring s m)
    (hf : w.FreshBelow m.draws) {id : PyStr} {held : NodeTask} :
    m.Acknowledged id held ↔ s.Acknowledged id held := by
  refine ⟨hcame.writes.acknowledged hs (by simp [Activity.expiring]) hf, fun hk => ?_⟩
  cases hk with
  | @recorded t ht hacc =>
    have hterm : t.status.isTerminal = true := by
      rcases (hs.task_wf ht).accepted_ended hacc with h | h <;> rw [h] <;> rfl
    exact .recorded (hcame.keeps_ended hs ht hterm) hacc
  | pruned hk => exact .pruned (by rw [hcame.keeps_tombstones hs]; exact hk)

/-- It leaves a task that was handed out to its session, dispatched or over. -/
theorem Assigned.expired (h : Assigned w a k s) (hs : Safe w s)
    (hcame : Came w Activity.expiring s m) {t : Task} (ht : m.tasks.get? k.id = some t) :
    t.nodeId = a ∧
      (t.status.isTerminal = true ∨ t.status = .dispatched ∧ t.command = k.command) := by
  obtain ⟨t₀, ht₀, hsame⟩ := hcame.unended hs ht
  obtain ⟨hnode, hcommand, hqueued⟩ := h.recorded t₀ ht₀
  obtain ⟨t', ht', howner⟩ := hcame.owner hs ht₀
  obtain rfl := Option.some.inj (ht.symm.trans ht')
  refine ⟨howner.trans hnode, ?_⟩
  rcases hsame with rfl | hterm
  · cases hst : t.status with
    | queued => exact absurd hst hqueued
    | dispatched => exact .inr ⟨rfl, hcommand⟩
    | _ => exact .inl rfl
  · exact .inl hterm

section submission

variable {isoformat : Timestamp → String} {x : NodeSession} {r : PendingResult} {now : Instant}
  {reply : NodeReply}

/-- A submission that the call answers: the state is the call's, the reply its record. -/
theorem submission_ok {reply' : NodeTask}
    (h : submitResult w (.str x.id) (.str x.token) (.str k.id) (Vocabulary.toJson r.status)
      r.result.1 now s = .ok reply' s')
    (hreply : nodeReply isoformat
      (answer w s ((NodeRequest.submit x k.id r.status r.result).op now)) = some reply) :
    step w s ((NodeRequest.submit x k.id r.status r.result).op now) = s' ∧
      reply = .ok (reply'.toJson isoformat) := by
  have hcall : ((NodeRequest.submit x k.id r.status r.result).op now).call w s =
      .ok (.accepted reply') s' := by
    simp only [NodeRequest.op, Op.call, Functor.map, EStateM.map, h]
  rw [answer, hcall] at hreply
  rw [step_eq_call, Prog.final, hcall]
  exact ⟨rfl, (Option.some.inj hreply).symm⟩

/-- A submission that the call refuses: the state is the call's, the reply its error. -/
theorem submission_error {error : Exc}
    (h : submitResult w (.str x.id) (.str x.token) (.str k.id) (Vocabulary.toJson r.status)
      r.result.1 now s = .error error s')
    (hreply : nodeReply isoformat
      (answer w s ((NodeRequest.submit x k.id r.status r.result).op now)) = some reply) :
    step w s ((NodeRequest.submit x k.id r.status r.result).op now) = s' ∧
      nodeReply isoformat (.error error) = some reply := by
  have hcall : ((NodeRequest.submit x k.id r.status r.result).op now).call w s =
      .error error s' := by
    simp only [NodeRequest.op, Op.call, Functor.map, EStateM.map, h]
  rw [answer, hcall] at hreply
  rw [step_eq_call, Prog.final, hcall]
  exact ⟨rfl, hreply⟩

end submission

/-- The reply to the submission of an answer: taken, or replayed, or refused because the task was
    over. The Node must know itself as the Teamserver does while its result is not acknowledged, and
    what is acknowledged must be what it sent. -/
theorem submit_answer (hs : Sound w s) {isoformat : Timestamp → String} {x : NodeSession}
    {e : NodeExecutor} {r : PendingResult} (hr : r.Answers w.toInterp isoformat e k)
    (hx : w.NodeDrawn s.draws x.id) (ha : Assigned w x.id k s)
    (hagree : ∀ n, s.nodes.get? x.id = some n → ¬s.Knows k.id → e.Agrees w.toInterp n)
    (hheld : Settles k.command r.status → ∀ held, s.Acknowledged k.id held →
      Holds w held r.status r.result) {now : Instant} {reply : NodeReply} :
    let op := (NodeRequest.submit x k.id r.status r.result).op now
    w.FreshBelow (step w s op).draws → nodeReply isoformat (answer w s op) = some reply →
    Judged w x.id k r (step w s op) reply := by
  intro op hf hreply
  obtain ⟨_, m, hexp, hcame, -⟩ := Prog.exists_ok (expired_wp hs.safe now)
  have hexp : expireLocked w now s = .ok ⟨⟩ m := hexp
  have hm := hcame.safe
  have hfm : w.FreshBelow m.draws := hf.mono (submitResult_draws hm hexp)
  have hsafe' : Safe w (step w s op) := (step_sound hs op hf).safe
  have hdrawn' : w.TaskDrawn (step w s op).draws k.id := ha.drawn.mono (step_draws_le hs op)
  have hacks : ∀ held, m.Acknowledged k.id held ↔ s.Acknowledged k.id held :=
    fun _ => expired_acknowledged hs.safe hcame hfm
  have hwp := requireNodeSession_wp hm (.str x.id) (.str x.token)
  cases hauth : requireNodeSessionLocked (.str x.id) (.str x.token) m with
  | error error m' =>
    have hgoes : submitResult w (.str x.id) (.str x.token) (.str k.id)
        (Vocabulary.toJson r.status) r.result.1 now s = .error error m' := by
      simp only [submitResult, bind, EStateM.bind]
      rw [show expireLocked w now s = _ from hexp]
      simp only [hauth]
    obtain ⟨-, hrefused⟩ := submission_error hgoes hreply
    rcases requireNodeSession_error hauth with rfl | ⟨p, rfl⟩
    · cases hrefused
      exact .inl rfl
    · cases hrefused
  | ok n m' =>
    rw [Prog.wp_run hauth] at hwp
    obtain ⟨rfl, hsess⟩ := hwp
    have hid : n.id = x.id := (Json.str.inj hsess.node_eq).symm
    have hgoes := submitResult_session hs.safe hexp hsess (.str k.id)
      (Vocabulary.toJson r.status) r.result.1
    have hjudged := submitSession_judged hm hsess.recorded (k := k) r.status r.result
      (hid ▸ fun t => ha.expired hs.safe hcame) (r.Exceeds w.toInterp)
      (fun hwithin t ht hd => ?_)
      (fun hsettles held hk => ⟨(ha.acknowledged held ((hacks held).mp hk)).1.trans hid.symm,
        hheld hsettles held ((hacks held).mp hk)⟩) now
    · cases hcase : submitSession w n (.str k.id) (Vocabulary.toJson r.status) r.result.1 now
        m' with
      | ok reply' s₁ =>
        obtain ⟨hstate, rfl⟩ := submission_ok (hgoes.trans hcase) hreply
        rw [Prog.wp_run hcase] at hjudged
        obtain ⟨hover, hknown⟩ := hjudged (hstate ▸ hsafe')
        rw [hstate] at hdrawn' ⊢
        exact ⟨⟨hdrawn', hover⟩, fun hsettles => .inl (hknown hsettles)⟩
      | error error s₁ =>
        obtain ⟨hstate, hrefused⟩ := submission_error (hgoes.trans hcase) hreply
        rw [Prog.wp, hcase] at hjudged
        rw [hstate] at hdrawn' ⊢
        cases error with
        | lab error =>
          cases hrefused
          rcases hjudged with hexceeds | ⟨hover, hknown⟩
          · exact .inr (.inr (.inl hexceeds))
          · exact .inr (.inr (.inr ⟨⟨hdrawn', hover⟩, fun hsettles => .inl (hknown hsettles)⟩))
        | _ => cases hrefused
    · -- while it is dispatched it is not acknowledged, and both sides agree
      obtain ⟨-, hlive⟩ := ha.expired hs.safe hcame ht
      obtain ⟨-, hcommand⟩ := hlive.resolve_left (by rw [hd]; decide)
      have hunknown : ¬s.Knows k.id := by
        rintro ⟨held, hk⟩
        exact hm.not_known ht (by rw [hd]; rfl) ⟨held, (hacks held).mpr hk⟩
      have hn : m'.nodes.get? x.id = some n := hid ▸ hsess.recorded
      obtain ⟨n₀, hn₀, hsame⟩ := hcame.writes.expectedRuntime hs.safe (by simp) hfm hx hn
      obtain ⟨hfits, hconforms⟩ := hr.conforms hwithin (hm.node_wf hn)
        ((hagree n₀ hn₀ hunknown).congr hsame)
      obtain ⟨henv, hstored⟩ := hconforms.accepted hfits
      exact ⟨henv, hcommand ▸ hstored⟩

end C2Lab
