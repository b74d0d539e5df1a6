import C2Lab.Core.Rejection
import C2Lab.Stored

/-! Retries of an accepted result.

    An ended task is answered from its record while the Teamserver retains it, and from its
    acknowledgement afterwards. The invariant says that both hold what the task ended with; a retry
    then compares what is sent again with what was stored, and writes nothing. -/

namespace C2Lab

variable {w : World} {s s' m : LabState} {hi : ℕ} {c : Activity}

/-! ### What is retained of an ended task -/

/-- Everything retained of an ended task is what it ended with. -/
structure Records.Remembers (t : Task) (r : Records) : Prop where
  recorded : ∀ t', r.tasks.get? t.id = some t' → t' = t
  acknowledged : ∀ a, r.taskResultTombstones.get? t.id = some a → a = t.nodeTask

/-- A task is retained: its record, or the acknowledgement of its result. -/
def LabState.Retains (id : PyStr) (s : LabState) : Prop :=
  (s.tasks.get? id).isSome ∨ (s.taskResultTombstones.get? id).isSome

/-- No write touches the record of an ended task. -/
theorem Task.Edited.was_live {t t' : Task} (h : t.Edited w s c t') :
    t.status.isTerminal = false := by
  by_contra hterm
  rw [Bool.not_eq_false] at hterm
  cases h with
  | ended h => rw [h.live.1] at hterm; cases hterm
  | failed h => rw [h.live.1] at hterm; cases hterm
  | cancelled h | dispatched h | accepted _ _ h | redelivered h => rw [h] at hterm; cases hterm

/-- The acknowledgements after one more is stored. -/
theorem get?_remember {t : Task} {id : PyStr} {a : NodeTask}
    (h : (s.rememberTaskResultTombstoneLocked t).taskResultTombstones.get? id = some a) :
    id = t.id ∧ a = t.nodeTask ∨ s.taskResultTombstones.get? id = some a := by
  have hold : (evictTombstones s.taskResultTombstones).All
      fun id a => s.taskResultTombstones.get? id = some a :=
    Dict.All.evictTombstones fun _ _ h => h
  by_cases hacc : t.resultAccepted = true
  · rw [tombstones_remember hacc, Dict.get?_set] at h
    split at h
    · rename_i hid
      exact .inl ⟨hid, (Option.some.inj h).symm⟩
    · exact .inr (hold _ _ h)
  · rw [LabState.rememberTaskResultTombstoneLocked, if_neg hacc] at h
    exact .inr h

/-- One change of the records keeps what is remembered. -/
theorem RecordChange.remembers {r : Records} (h : RecordChange w s hi c r) {t : Task}
    (hterm : t.status.isTerminal = true) (hk : w.TaskDrawn s.draws t.id)
    (hf : c.creates = true → w.FreshBelow hi) (hr : s.toRecords.Remembers t) : r.Remembers t where
  recorded t' ht' := by
    have htask := h.task t.id
    rw [ht'] at htask
    generalize hx : some t' = x at htask
    cases htask with
    | same => exact hr.recorded t' hx.symm
    | edited ht _ he =>
      obtain rfl := hr.recorded _ ht
      rw [he.was_live] at hterm
      cases hterm
    | added _ _ hid hd =>
      obtain ⟨k, hlt, heq⟩ := hk
      exact absurd (heq.symm.trans hid) (taskId_fresh (hf rfl) hlt hd)
    | pruned | cleared => cases hx
  acknowledged a ha := by
    cases h with
    | @prunedTask t₀ ht _ _ =>
      rcases get?_remember ha with ⟨hid, rfl⟩ | hold
      · rw [hr.recorded t₀ (hid ▸ ht)]
      · exact hr.acknowledged a hold
    | cleared => cases ha
    | _ => exact hr.acknowledged a ha

/-- An ended task is remembered over every run. -/
theorem kept_remembers {t : Task} (hterm : t.status.isTerminal = true) :
    Kept w (.reset :: Activity.lasting)
      fun s => w.TaskDrawn s.draws t.id ∧ s.toRecords.Remembers t :=
  ⟨fun _ hs hf hw hP => by
    obtain ⟨⟨k, hlt, hid⟩, hr⟩ := hP
    exact ⟨⟨k, hlt.trans_le hw.draws_le, hid⟩,
      (hw.records hs).remembers hterm ⟨k, hlt, hid⟩ (fun _ => hf) hr⟩⟩

/-- Writes that add no record need no fresh draws to be remembered over. -/
theorem Writes.remembers {acts : List Activity} (h : Writes w acts s s') (hs : Safe w s)
    (hacts : ∀ c ∈ acts, c.creates = false) {t : Task} (hterm : t.status.isTerminal = true)
    (hk : w.TaskDrawn s.draws t.id) (hr : s.toRecords.Remembers t) :
    Safe w s' ∧ s'.toRecords.Remembers t := by
  induction h with
  | refl => exact ⟨hs, hr⟩
  | @tail s₁ s₂ hbefore hstep ih =>
    obtain ⟨c, hc, hw⟩ := hstep
    obtain ⟨hs₁, hr₁⟩ := ih
    obtain ⟨k, hlt, hid⟩ := hk
    have hk₁ : w.TaskDrawn s₁.draws t.id := ⟨k, hlt.trans_le (Writes.draws_le hbefore), hid⟩
    have hno : c.creates = true → w.FreshBelow s₂.draws := fun hcr => by
      rw [hacts c hc] at hcr; cases hcr
    exact ⟨hw.safe hs₁ hno, (hw.records hs₁).remembers hterm hk₁ hno hr₁⟩

/-- What is retained of an ended task after the expiry pass of any later operation. -/
theorem remembers_later (hs : Sound w s) {t : Task} (ht : s.tasks.get? t.id = some t)
    (hterm : t.status.isTerminal = true) (hl : Later w s s') {now : Instant}
    (hexp : expire w now s' = .ok ⟨⟩ m) : m.toRecords.Remembers t := by
  have hstart : s.toRecords.Remembers t := by
    refine ⟨fun t' ht' => ?_, fun a ha => ?_⟩
    · rw [ht] at ht'
      exact (Option.some.inj ht').symm
    · have hpruned := (hs.safe.tombstones _ _ ha).pruned
      rw [ht] at hpruned
      cases hpruned
  obtain ⟨hk, hrem⟩ := (kept_remembers hterm).later hl hs ⟨hs.safe.task_drawn ht, hstart⟩
  have hs' := (hl.sound hs).safe
  exact ((expire_punctual hs' hexp).1.writes.remembers hs' (by decide) hterm hk hrem).2

/-! ### The first acceptance -/

/-- What a task is after its Node's result was accepted as `stored`. -/
structure Task.EndedWith (t : Task) (st : ResultStatus) (stored : Json) (ended : Task) : Prop where
  id_eq : ended.id = t.id
  node_eq : ended.nodeId = t.nodeId
  status_eq : ended.status = st.taskStatus
  result_eq : ended.result = some stored

theorem Task.EndedWith.terminal {t ended : Task} {st : ResultStatus} {stored : Json}
    (h : t.EndedWith st stored ended) : ended.status.isTerminal = true := by
  rw [h.status_eq]
  cases st <;> rfl

/-- A submission for a dispatched task that returns has stored a result that passed the check. -/
theorem submitSession_stores (hm : Safe w m) {n : Node} {t : Task}
    (hn : m.nodes.get? n.id = some n) (ht : m.tasks.get? t.id = some t) (hnode : t.nodeId = n.id)
    (hd : t.status = .dispatched) (status : Json) (sent : Document) (now : Instant) :
    Prog.wp (submitSession w n (.str t.id) status sent.1 now) (fun reply s' =>
      ∃ st stored ended, t.EndedWith st stored ended ∧ status = Vocabulary.toJson st ∧
        validateTaskResult w.toInterp t.command status sent.1 (some n.expectedRuntime) =
          .ok (st, stored) ∧
        reply = ended.nodeTask ∧ s'.tasks.get? t.id = some ended) (fun _ _ => True) m := by
  unfold submitSession
  simp only [Prog.wp_bind, Prog.wp_get, ht]
  rw [if_pos hnode, Prog.wp_bind, orReject_wp]
  refine ⟨?_, fun _ _ => trivial, fun _ _ _ => trivial⟩
  rintro ⟨st, result⟩ henv
  obtain ⟨rfl, rfl, -⟩ := validateResult_eq_ok.mp henv
  unfold submitLive
  rw [if_neg (by simp [hd]), if_neg (by simp [hd]), Prog.wp_bind, orReject_wp]
  refine ⟨?_, fun _ _ => trivial, fun _ _ _ => trivial⟩
  rintro ⟨st', result⟩ hv
  obtain ⟨_, -, henv', -⟩ := validateTaskResult_eq_ok.mp hv
  obtain ⟨hst', -⟩ := validateResult_eq_ok.mp henv'
  obtain rfl := Vocabulary.toJson_inj hst'
  refine Prog.wp_mono (acceptResult_wp hm hn ht hnode hd hv now) ?_ fun _ _ h => h.elim
  rintro reply s' ⟨-, href, hreply⟩
  refine ⟨st, result, t.ended st.taskStatus result (w.utcNow m.draws) true, ⟨rfl, rfl, rfl, rfl⟩,
    rfl, hv, hreply, ?_⟩
  rw [href.records]
  simp only
  rw [LabState.acceptedResult_records hm ht hd, Dict.get?_set_self]

/-! ### Answering again -/

/-- The reply to any result that passes the envelope check, once the task has ended: it is compared
    with the stored one, and nothing is written. -/
theorem submitSession_replays {n : Node} {t : Task} {st : ResultStatus} {stored : Json}
    (hnode : t.nodeId = n.id) (hst : t.status = st.taskStatus) (hres : t.result = some stored)
    (hr : m.toRecords.Remembers t) (hret : m.Retains t.id) {status result : Json}
    {st' : ResultStatus} (henv : validateResult w.toInterp status result = .ok (st', result))
    (now : Instant) :
    submitSession w n (.str t.id) status result now m = replayResult t.nodeTask st' result m := by
  cases ht : m.tasks.get? t.id with
  | some t' =>
    obtain rfl := hr.recorded t' ht
    have hended : t'.status = .completed ∨ t'.status = .failed := by
      rw [hst]; cases st <;> simp [ResultStatus.taskStatus]
    simp only [submitSession, submitLive, bind, EStateM.bind, Prog.get_apply, ht, hnode, if_true,
      henv, orReject, pure, EStateM.pure, hended]
  | none =>
    obtain ⟨a, ha⟩ := Option.isSome_iff_exists.mp (hret.resolve_left (by simp [ht]))
    obtain rfl := hr.acknowledged a ha
    have hnode' : t.nodeTask.nodeId = n.id := hnode
    simp only [submitSession, bind, EStateM.bind, Prog.get_apply, ht,
      ha, hnode', if_true, henv, orReject, pure, EStateM.pure]

/-- The refusal of a result that differs from the stored one. -/
def resultConflict : Exc :=
  labError "task already has a different result" "result_conflict" 409

/-- What a Node may rely on once a result was accepted with `reply`: sent again it is answered as
    the first time, anything else that passes the envelope check is refused, and neither writes
    anything; `m` is the state after the expiry pass. -/
structure Retried (w : World) (m : LabState) (reply : NodeTask) (status : Json) (sent : Document)
    (submit : Json → Json → EStateM.Result Exc LabState NodeTask) : Prop where
  again : submit status sent.1 = .ok reply m
  same : ∀ (other : Document) st, validateResult w.toInterp status other.1 = .ok (st, other.1) →
    Same sent.1 other.1 → submit status other.1 = .ok reply m
  conflict : ∀ status' (other : Document) st,
    validateResult w.toInterp status' other.1 = .ok (st, other.1) →
    ¬(status' = status ∧ Same sent.1 other.1) → submit status' other.1 = .error resultConflict m

theorem replayResult_eq {t : Task} {st st' : ResultStatus} {stored result : Json}
    (hst : t.status = st.taskStatus) (hres : t.result = some stored) (m : LabState) :
    replayResult t.nodeTask st' result m =
      if st = st' ∧ typeStrictEqual stored result = true then .ok t.nodeTask m
      else .error resultConflict m := by
  have hstatus : t.nodeTask.status = st'.taskStatus ↔ st = st' := by
    show t.status = _ ↔ _
    rw [hst]
    cases st <;> cases st' <;> simp [ResultStatus.taskStatus]
  have hresult : t.nodeTask.result = some stored := hres
  unfold replayResult
  simp only [hstatus, hresult]
  split <;> rfl

/-- Retries of an accepted result. Once the session of a Node has had a result accepted, in any run
    from there and for as long as the task is retained, the same session gets the same reply to it
    and a conflict to any other, with nothing changed, if and only if the version in the result was
    not padded. -/
theorem result_retry (hr : Reachable w s) {nodeId token : Json} {now : Instant}
    (hexp : expire w now s = .ok ⟨⟩ m) {n : Node} (hsess : m.Session nodeId token n) {t : Task}
    (ht : m.tasks.get? t.id = some t) (hnode : t.nodeId = n.id) (hd : t.status = .dispatched)
    {status : Json} {sent : Document} {reply : NodeTask} {s₁ : LabState}
    (hacc : submitResult w nodeId token (.str t.id) status sent.1 now s = .ok reply s₁)
    (hf : w.FreshBelow s₁.draws) {s₂ : LabState} (hl : Later w s₁ s₂) {later : Instant}
    {m₂ : LabState} (hexp₂ : expire w later s₂ = .ok ⟨⟩ m₂) {n₂ : Node}
    (hsess₂ : m₂.Session nodeId token n₂) (hret : m₂.Retains t.id) :
    Retried w m₂ reply status sent
        (fun st result => submitResult w nodeId token (.str t.id) st result later s₂) ↔
      ∀ st fields, status = Vocabulary.toJson st → sent.1 = .obj fields →
        ¬Padded t.command st fields := by
  have hs := hr.sound.safe
  have hm := expire_safe hs hexp
  have hsound₁ : Sound w s₁ := by
    have hstep : step w s (.submitResult nodeId token (.str t.id) status sent now) = s₁ := by
      simp only [step, Op.run, Prog.final, Functor.map, EStateM.map, hacc]
    exact hstep ▸ (hr.step (hstep.symm ▸ hf)).sound
  -- what the acceptance stored, and what is retained of it when the result is sent again
  rw [submitResult_session hs hexp hsess] at hacc
  have hwp := submitSession_stores hm hsess.recorded ht hnode hd status sent now
  rw [Prog.wp_run hacc] at hwp
  obtain ⟨st, stored, ended, hended, rfl, hv, rfl, hstored⟩ := hwp
  have hrem := remembers_later hsound₁ (hended.id_eq.symm ▸ hstored) hended.terminal hl hexp₂
  have hnode₂ : ended.nodeId = n₂.id := by
    rw [hended.node_eq, hnode]
    exact Json.str.inj (hsess.node_eq.symm.trans hsess₂.node_eq)
  have hreplay : ∀ {status' : Json} {other : Document} {st' : ResultStatus},
      validateResult w.toInterp status' other.1 = .ok (st', other.1) →
      submitResult w nodeId token (.str t.id) status' other.1 later s₂ =
        if st = st' ∧ typeStrictEqual stored other.1 = true then .ok ended.nodeTask m₂
        else .error resultConflict m₂ := by
    intro status' other st' henv
    rw [submitResult_session (hl.sound hsound₁).safe hexp₂ hsess₂, ← hended.id_eq,
      submitSession_replays hnode₂ hended.status_eq hended.result_eq hrem
        (hended.id_eq ▸ hret) henv,
      replayResult_eq hended.status_eq hended.result_eq]
  obtain ⟨hwf, fields, hfields, hsame⟩ := validateTaskResult_stores sent.2 hv
  obtain ⟨_, -, henv, -⟩ := validateTaskResult_eq_ok.mp hv
  constructor
  · intro h st' fields' hst' hfields'
    obtain rfl := Vocabulary.toJson_inj hst'
    obtain rfl := Json.obj.inj (hfields.symm.trans hfields')
    rw [← hsame]
    have hagain := h.again
    rw [hreplay henv] at hagain
    split at hagain
    · rename_i hand
      exact (typeStrictEqual_iff _ _ hwf sent.2).mp hand.2
    · cases hagain
  · intro h
    have hsent := hsame.mpr (h st fields rfl hfields)
    have hiff : ∀ other : Document, typeStrictEqual stored other.1 = true ↔
        Same sent.1 other.1 := by
      intro other
      rw [typeStrictEqual_iff _ _ hwf other.2]
      exact ⟨hsent.symm.trans, hsent.trans⟩
    refine ⟨?_, fun other st' he hsm => ?_, fun status' other st' he hne => ?_⟩
    · rw [hreplay henv, if_pos ⟨rfl, (typeStrictEqual_iff _ _ hwf sent.2).mpr hsent⟩]
    · obtain ⟨hst', -⟩ := validateResult_eq_ok.mp he
      rw [hreplay he, if_pos ⟨Vocabulary.toJson_inj hst', (hiff other).mpr hsm⟩]
    · obtain ⟨rfl, -⟩ := validateResult_eq_ok.mp he
      rw [hreplay he, if_neg]
      rintro ⟨rfl, heq⟩
      exact hne ⟨rfl, (hiff other).mp heq⟩

namespace Counting

/-- A Node is asked for its runtime status: the task is draw 6. -/
def status : List Op := [enroll, queue .runtimeStatus (.obj []), poll 11]

/-- Its answer, with the given version. -/
def reported (version : String) : Document :=
  ⟨.dict [("version", .str version), ("profile", Vocabulary.toJson Profile.training),
    ("uptime_ms", .int 2000), ("tasks_completed", .int 0), ("poll_interval_ms", .int 1000),
    ("jitter_percent", .int 0)], by
      simp [Json.dict, Json.wf, Json.wfFields, Vocabulary.toJson]⟩

/-- The answer is submitted. -/
def report (version : String) (now : Instant) : Lab NodeTask :=
  submitResult .counting nodeId token (.str (World.counting.taskId 6)) (.str "completed")
    (reported version).1 now

/-- The status is asked for and reported; a second later the task is still there. -/
theorem report_evaluated :
    (∀ k < status.length + 1, (exec .counting (.init "stream") (status.take k)).draws ≤ 10 ^ 10) ∧
    hands status = true ∧
    let s := exec .counting (.init "stream") status
    returns (report "0.2.0" 12) s = true ∧
    let s₁ := Prog.final (report "0.2.0" 12) s
    returns (expire .counting 13) s₁ = true ∧
    let m₂ := Prog.final (expire .counting 13) s₁
    enrolled m₂ = true ∧ (m₂.tasks.get? (World.counting.taskId 6)).isSome = true := by
  decide +kernel

theorem status_reachable : Reachable .counting (exec .counting (.init "stream") status) :=
  World.counting_reachable "stream" _ report_evaluated.1

/-- A padded version is accepted, and refused when it comes again. -/
theorem padded_evaluated :
    let s := exec .counting (.init "stream") status
    returns (report " 0.2.0" 12) s = true ∧
    let s₁ := Prog.final (report " 0.2.0" 12) s
    raises (· = resultConflict) (report " 0.2.0" 13) s₁ = true ∧
      (s₁.tasks.get? (World.counting.taskId 6)).isSome = true := by
  decide +kernel

end Counting

/-- The status of a Node is reported, and reported once more. -/
theorem result_retry_reported :
    let s := exec .counting (.init "stream") Counting.status
    ∃ reply s₁ m₂, Counting.report "0.2.0" 12 s = .ok reply s₁ ∧
      expire .counting 13 s₁ = .ok ⟨⟩ m₂ ∧
      Retried .counting m₂ reply (.str "completed") (Counting.reported "0.2.0") fun st result =>
        submitResult .counting Counting.nodeId Counting.token (.str (World.counting.taskId 6)) st
          result 13 s₁ := by
  intro s
  obtain ⟨-, hhands, hreturns, hexpires, henrolled, hret⟩ := Counting.report_evaluated
  obtain ⟨m, n, t, hexp, hsess, ht, hnode, hd, hid⟩ := Counting.exists_handed hhands
  obtain ⟨reply, s₁, hrun, hf⟩ := Counting.exists_returned hreturns
  have hs₁ : Prog.final (Counting.report "0.2.0" 12) s = s₁ := by rw [Prog.final, hrun]
  rw [hs₁] at hexpires henrolled hret
  obtain ⟨⟨⟩, m₂, hexp₂, -⟩ := Counting.exists_returned hexpires
  have hm₂ : Prog.final (expire .counting 13) s₁ = m₂ := by rw [Prog.final, hexp₂]
  rw [hm₂] at henrolled hret
  obtain ⟨n₂, hsess₂, -⟩ := Counting.exists_session henrolled
  rw [Counting.report, ← hid] at hrun
  refine ⟨reply, s₁, m₂, by rw [Counting.report, ← hid]; exact hrun, hexp₂, ?_⟩
  rw [← hid] at hret ⊢
  refine (result_retry Counting.status_reachable hexp hsess ht hnode hd hrun hf .refl hexp₂ hsess₂
    (.inl hret)).mpr ?_
  rintro st fields - hfields ⟨-, -, v, hv, hne⟩
  cases hfields
  cases hv
  exact hne (by decide)

/-- A report with a blank before its version is accepted, and refused when it is sent again. -/
theorem result_retry_padded :
    let s := exec .counting (.init "stream") Counting.status
    Reachable .counting s ∧ ∃ reply s₁ s₂, Counting.report " 0.2.0" 12 s = .ok reply s₁ ∧
      World.counting.FreshBelow s₁.draws ∧ s₁.Retains (World.counting.taskId 6) ∧
      Counting.report " 0.2.0" 13 s₁ = .error resultConflict s₂ := by
  intro s
  obtain ⟨hreturns, hraises, hret⟩ := Counting.padded_evaluated
  obtain ⟨reply, s₁, hrun, hf⟩ := Counting.exists_returned hreturns
  have hs₁ : Prog.final (Counting.report " 0.2.0" 12) s = s₁ := by rw [Prog.final, hrun]
  rw [hs₁] at hraises hret
  obtain ⟨e, s₂, hagain, he⟩ := Counting.exists_raised hraises
  refine ⟨Counting.status_reachable, reply, s₁, s₂, hrun, hf, .inl hret, ?_⟩
  rw [hagain, of_decide_eq_true he]

end C2Lab
