import C2Lab.Core.Tombstones

/-! What an operation takes.

    An operation accepts no result, or it submits one: of a task dispatched to the Node it names,
    checked against the record of that Node. The acknowledgements of the Teamserver and the settings
    it has on record change by such a submission and in no other way. -/

namespace C2Lab

variable {w : World} {s s' : LabState} {op : Op} {hi : ℕ} {c : Activity}

/-! ### What is held of an accepted result -/

/-- The records hold an accepted result of a task: with the task, or in its tombstone. -/
inductive Records.Acknowledged (r : Records) (id : PyStr) : NodeTask → Prop
  | recorded {t : Task} (ht : r.tasks.get? id = some t) (hacc : t.resultAccepted = true) :
      Acknowledged r id t.nodeTask
  | pruned {k : NodeTask} (hk : r.taskResultTombstones.get? id = some k) : Acknowledged r id k

/-- The result of a task was accepted, and this is not forgotten. -/
def Records.Knows (r : Records) (id : PyStr) : Prop := ∃ k, r.Acknowledged id k

/-- A task that is live is not acknowledged. -/
theorem Safe.not_known (hs : Safe w s) {id : PyStr} {t : Task} (ht : s.tasks.get? id = some t)
    (hl : t.status.isTerminal = false) : ¬s.Knows id := by
  rintro ⟨k, hk⟩
  cases hk with
  | recorded ht' hacc =>
    obtain rfl := Option.some.inj (ht.symm.trans ht')
    rw [(hs.task_wf ht).not_accepted hl] at hacc
    cases hacc
  | pruned hk =>
    rw [(hs.tombstones _ _ hk).pruned] at ht
    cases ht

/-- Every change of the records but an accepted result adds no acknowledgement. -/
theorem RecordChange.acknowledged {r : Records} (hs : Safe w s) (h : RecordChange w s hi c r)
    (hc : c ≠ .result) {id : PyStr} {k : NodeTask} (hk : r.Acknowledged id k) :
    s.Acknowledged id k := by
  cases hk with
  | recorded ht' hacc =>
    rcases h.not_accepting hs hc ht' with ⟨t, ht, rfl | ⟨-, hnot⟩⟩ | ⟨-, -, -, hnot⟩
    · exact .recorded ht hacc
    · rw [hnot] at hacc; cases hacc
    · rw [hnot] at hacc; cases hacc
  | pruned hk =>
    cases h with
    | @prunedTask t ht _ _ =>
      by_cases hacc : t.resultAccepted = true
      · rcases get?_remember hk with ⟨rfl, rfl⟩ | hold
        · exact .recorded ht hacc
        · exact .pruned hold
      · rw [LabState.rememberTaskResultTombstoneLocked, if_neg hacc] at hk
        exact .pruned hk
    | cleared => cases hk
    | _ => exact .pruned hk

/-- Neither do several writes. -/
theorem Writes.acknowledged {acts : List Activity} (h : Writes w acts s s') (hs : Safe w s)
    (hacts : .result ∉ acts) (hf : w.FreshBelow s'.draws) {id : PyStr} {k : NodeTask}
    (hk : s'.Acknowledged id k) : s.Acknowledged id k := by
  induction h with
  | refl => exact hk
  | tail hbefore hstep ih =>
    obtain ⟨c, hc, hw⟩ := hstep
    have hf₁ := hf.mono hw.draws_le
    have hs₁ := Writes.safe hbefore hs hf₁
    exact ih hf₁ ((hw.records hs₁).acknowledged hs₁ (fun heq => hacts (heq ▸ hc)) hk)

/-! ### The settings on record -/

/-- Every change of the records but an accepted result leaves the settings of a node alone. -/
theorem RecordChange.expectedRuntime {r : Records} (hs : Safe w s) (h : RecordChange w s hi c r)
    (hc : c ≠ .result) {id : PyStr} {n' : Node} (hn' : r.nodes.get? id = some n') :
    (∃ n, s.nodes.get? id = some n ∧ n'.expectedRuntime = n.expectedRuntime) ∨
      id = w.nodeId s.draws ∧ s.draws < hi := by
  -- a node rewritten under its identifier
  have hset : ∀ {n m : Node}, s.nodes.get? n.id = some n →
      (s.nodes.set n.id m).get? id = some n' → m.expectedRuntime = n.expectedRuntime →
      ∃ n, s.nodes.get? id = some n ∧ n'.expectedRuntime = n.expectedRuntime := by
    intro n m hn hget hsame
    rw [Dict.get?_set] at hget
    split at hget
    · rename_i hid
      cases hget
      exact ⟨n, hid ▸ hn, hsame⟩
    · exact ⟨n', hget, rfl⟩
  cases h with
  | touchedNode _ hn => exact .inl (hset hn hn' rfl)
  | closedNode _ hn => exact .inl (hset hn hn' rfl)
  | @failedTask _ t =>
    unfold chargeFailure at hn'
    cases hn : s.nodes.get? t.nodeId with
    | none => exact .inl ⟨n', by simpa [hn] using hn', rfl⟩
    | some n =>
      have hkey : s.nodes.get? n.id = some n := by rw [hs.node_key hn]; exact hn
      simp only [hn] at hn'
      exact .inl (hset hkey hn' rfl)
  | acceptedTask => exact absurd rfl hc
  | prunedNode =>
    simp only [Dict.get?_erase] at hn'
    split at hn'
    · cases hn'
    · exact .inl ⟨n', hn', rfl⟩
  | addedNode _ _ hk =>
    simp only [Dict.get?_set] at hn'
    split at hn'
    · rename_i hid
      exact .inr ⟨hid, (Nat.lt_succ_self _).trans hk⟩
    · exact .inl ⟨n', hn', rfl⟩
  | cleared => cases hn'
  | _ => exact .inl ⟨n', hn', rfl⟩

/-- A node identifier drawn below `n`. -/
def World.NodeDrawn (w : World) (n : ℕ) (id : PyStr) : Prop := ∃ k < n, id = w.nodeId k

theorem World.NodeDrawn.mono {n n' : ℕ} {id : PyStr} (h : w.NodeDrawn n id) (hle : n ≤ n') :
    w.NodeDrawn n' id := by
  obtain ⟨k, hk, hid⟩ := h
  exact ⟨k, hk.trans_le hle, hid⟩

/-- So do several writes. -/
theorem Writes.expectedRuntime {acts : List Activity} (h : Writes w acts s s') (hs : Safe w s)
    (hacts : .result ∉ acts) (hf : w.FreshBelow s'.draws) {id : PyStr}
    (hid : w.NodeDrawn s.draws id) {n' : Node} (hn' : s'.nodes.get? id = some n') :
    ∃ n, s.nodes.get? id = some n ∧ n'.expectedRuntime = n.expectedRuntime := by
  induction h generalizing n' with
  | refl => exact ⟨n', hn', rfl⟩
  | tail hbefore hstep ih =>
    obtain ⟨c, hc, hw⟩ := hstep
    have hf₁ := hf.mono hw.draws_le
    have hs₁ := Writes.safe hbefore hs hf₁
    rcases (hw.records hs₁).expectedRuntime hs₁ (fun heq => hacts (heq ▸ hc)) hn' with
      ⟨n₁, hn₁, hsame⟩ | ⟨hnew, hlt⟩
    · obtain ⟨n, hn, hsame'⟩ := ih hf₁ hn₁
      exact ⟨n, hn, hsame.trans hsame'⟩
    · obtain ⟨k, hk, heq⟩ := hid
      exact absurd (heq.symm.trans hnew)
        (nodeId_fresh hf (hk.trans_le (Writes.draws_le hbefore)) hlt)

/-- Every task, recorded or pruned, names a node that was enrolled. -/
theorem owners_drawn_kept : Kept w (.reset :: Activity.lasting) fun s =>
    (s.tasks.All fun _ t => w.NodeDrawn s.draws t.nodeId) ∧
      s.taskResultTombstones.All fun _ k => w.NodeDrawn s.draws k.nodeId := by
  refine Kept.of_change (Q := fun r draws => (r.tasks.All fun _ t => w.NodeDrawn draws t.nodeId) ∧
    r.taskResultTombstones.All fun _ k => w.NodeDrawn draws k.nodeId) ?_
  rintro s hi c r _ hs hd hf h ⟨htasks, hpruned⟩
  refine ⟨fun id t' ht' => ?_, fun id k hk => ?_⟩
  · have hchange := h.task id
    rw [ht'] at hchange
    generalize hx : some t' = x at hchange
    cases hchange with
    | same => exact (htasks id t' hx.symm).mono hd
    | @edited _ t _ ht _ he =>
      cases hx
      obtain ⟨k, hk, hnode⟩ := htasks id t ht
      exact ⟨k, hk.trans_le hd, (congrArg Task.nodeId he.request_eq).trans hnode⟩
    | added ha =>
      cases hx
      have hdrawn : w.NodeDrawn s.draws _ := (hs.nodes _ _ ha.node).drawn
      exact hdrawn.mono hd
    | pruned | cleared => cases hx
  · cases h with
    | @prunedTask t ht _ _ =>
      rcases get?_remember hk with ⟨-, rfl⟩ | hold
      · exact (htasks _ _ ht).mono hd
      · exact (hpruned id k hold).mono hd
    | cleared => cases hk
    | _ => exact (hpruned id k hk).mono hd

/-- So does an accepted result. -/
theorem Reachable.acknowledged_drawn (h : Reachable w s) {id : PyStr} {k : NodeTask}
    (hk : s.Acknowledged id k) : w.NodeDrawn s.draws k.nodeId := by
  obtain ⟨htasks, hpruned⟩ := owners_drawn_kept.reachable
    (fun _ => ⟨Dict.all_empty, Dict.all_empty⟩) h
  cases hk with
  | recorded ht => exact htasks _ _ ht
  | pruned hk => exact hpruned _ _ hk

/-! ### Operations -/

/-- The operation submits the result `sent` of a task dispatched to the Node it names, and the check
    takes it as `stored`; `n` is the record of that Node after the expiry pass. -/
structure Takes (w : World) (s : LabState) (op : Op) (n : Node) (t : Task) (st : ResultStatus)
    (sent : Document) (stored : Json) : Prop where
  named : ∃ token now, op =
    .submitResult (.str n.id) token (.str t.id) (Vocabulary.toJson st) sent now
  recorded : s.tasks.get? t.id = some t
  owned : t.nodeId = n.id
  dispatched : t.status = .dispatched
  checked : validateTaskResult w.toInterp t.command (Vocabulary.toJson st) sent.1
    (some n.expectedRuntime) = .ok (st, stored)

/-- An operation takes nothing, or one result. -/
inductive Taking (w : World) (s : LabState) (op : Op) (s' : LabState) : Prop
  | nothing {acts : List Activity} (hacts : .result ∉ acts) (h : Writes w acts s s') :
      Taking w s op s'
  | result {m : LabState} {n : Node} {t : Task} {st : ResultStatus} {sent : Document}
      {stored : Json} {now : Instant} (h : Takes w s op n t st sent stored)
      (hbefore : Came w Activity.expiring s m) (hn : m.nodes.get? n.id = some n)
      (ht : m.tasks.get? t.id = some t)
      (hafter : Came w Activity.expiring (m.acceptedResult w n t st stored now) s') :
      Taking w s op s'

/-- A submission takes the result it brings or none. -/
theorem submitResult_taking (hs : Safe w s) (nodeId token taskId status : Json)
    (sent : Document) (now : Instant) :
    let op : Op := .submitResult nodeId token taskId status sent now
    Taking w s op (step w s op) := by
  intro op
  obtain ⟨_, m, hexp, hcame, -⟩ := Prog.exists_ok (expired_wp hs now)
  have hexp : expire w now s = .ok ⟨⟩ m := hexp
  have hnothing : Taking w s op m := .nothing (by simp) hcame.writes
  rw [step, Op.run, Prog.final_map_eq]
  have hwp := requireNodeSession_wp hcame.safe nodeId token
  cases hauth : requireNodeSessionLocked nodeId token m with
  | error e m' =>
    rw [Prog.wp, hauth] at hwp
    obtain rfl := hwp
    have hrun : submitResult w nodeId token taskId status sent.1 now s = .error e m' := by
      simp only [submitResult, bind, EStateM.bind]
      rw [show expireLocked w now s = _ from hexp]
      simp only [hauth]
    rw [Prog.final, hrun]
    exact hnothing
  | ok n m' =>
    rw [Prog.wp_run hauth] at hwp
    obtain ⟨rfl, hsess⟩ := hwp
    have hanswers := submitSession_answers hcame.safe hsess.recorded taskId status sent now
    rw [Prog.final, submitResult_session hs hexp hsess taskId status sent.1]
    cases hrun : submitSession w n taskId status sent.1 now m' with
    | error e s' =>
      rw [Prog.wp, hrun] at hanswers
      cases hanswers with
      | same => exact hnothing
      | rejected _ reason =>
        have hbefore : Writes w [.expiry, .refresh, .reject] s m' := hcame.writes.mono (by simp)
        exact .nothing (by simp) (hbefore.write (.rejectResult _ reason) (by simp))
    | ok reply s' =>
      rw [Prog.wp_run hrun] at hanswers
      cases hanswers with
      | replayed => exact hnothing
      | @accepted t st _ stored _ htask hst ht hnode hd hv hcame' href =>
        subst htask hst
        -- what the run stored is what it checked
        have hstores := submitSession_stores hcame.safe hsess.recorded ht hnode hd
          (Vocabulary.toJson st) sent now
        rw [Prog.wp_run hrun] at hstores
        obtain ⟨st', stored', ended, hended, hst, hv', -, hget⟩ := hstores
        obtain rfl := Vocabulary.toJson_inj hst
        rw [href.records] at hget
        simp only [LabState.acceptedResult_records hcame.safe ht hd, Dict.get?_set_self,
          Option.some.injEq] at hget
        have hres := hended.result_eq
        rw [← hget] at hres
        obtain rfl := Option.some.inj hres
        obtain ⟨t₀, ht₀, hsame⟩ := hcame.unended hs ht
        have hrec : s.tasks.get? t.id = some t := by
          rcases hsame with rfl | hterm
          · exact ht₀
          · rw [hd] at hterm; cases hterm
        exact .result ⟨⟨token, now, by rw [← hsess.node_eq]⟩, hrec, hnode, hd, hv'⟩ hcame
          hsess.recorded ht ⟨hcame'.writes.mono (by simp [Activity.expiring]), hcame'.safe⟩

/-- Every operation takes at most one result. -/
theorem step_taking (hs : Sound w s) (op : Op) : Taking w s op (step w s op) := by
  have hran := (step_ends hs.safe hs.settled op).ran
  cases op with
  | submitResult nodeId token taskId status sent now =>
    exact submitResult_taking hs.safe nodeId token taskId status sent now
  | _ =>
    obtain ⟨acts, hacts, hw⟩ := hran.without_result (by simp)
    exact .nothing hacts hw

/-- What the Teamserver expects of a Node once it took a result of it. -/
def ExpectedRuntime.after (e : ExpectedRuntime) (c : Command) (st : ResultStatus) :
    ExpectedRuntime :=
  match c, st with
  | .sleep interval jitter, .completed =>
    { e with pollIntervalMs := interval, jitterPercent := jitter }
  | _, _ => e

theorem Node.expectedRuntime_credited (n : Node) (c : Command) (st : ResultStatus)
    (seen : Timestamp) (now : Instant) :
    (n.credited c st seen now).expectedRuntime = n.expectedRuntime.after c st := by
  cases c <;> cases st <;> rfl

/-- What an operation does to the acknowledgements and to the settings on record: nothing, or it
    adds the one of the result it took, and settles what is expected of its Node. -/
inductive TakeEffect (w : World) (s : LabState) (op : Op) (s' : LabState) : Prop
  | nothing (hack : ∀ id k, s'.Acknowledged id k → s.Acknowledged id k)
      (hset : ∀ id n', w.NodeDrawn s.draws id → s'.nodes.get? id = some n' →
        ∃ n, s.nodes.get? id = some n ∧ n'.expectedRuntime = n.expectedRuntime) :
      TakeEffect w s op s'
  | result {m : Node} {t : Task} {st : ResultStatus} {sent : Document} {stored : Json}
      {time : Timestamp} (h : Takes w s op m t st sent stored)
      (hnew : s'.Acknowledged t.id (t.ended st.taskStatus stored time true).nodeTask)
      (hack : ∀ id k, s'.Acknowledged id k → s.Acknowledged id k ∨
        id = t.id ∧ k = (t.ended st.taskStatus stored time true).nodeTask)
      (hset : ∀ id n', w.NodeDrawn s.draws id → s'.nodes.get? id = some n' →
        ∃ n, s.nodes.get? id = some n ∧ n'.expectedRuntime =
          if id = m.id then n.expectedRuntime.after t.command st else n.expectedRuntime) :
      TakeEffect w s op s'

theorem Taking.effect (h : Taking w s op s') (hs : Safe w s) (hf : w.FreshBelow s'.draws) :
    TakeEffect w s op s' := by
  cases h with
  | nothing hacts h =>
    exact .nothing (fun id k hk => h.acknowledged hs hacts hf hk)
      fun id n' hid hn' => h.expectedRuntime hs hacts hf hid hn'
  | @result m n t st sent stored now h hbefore hn ht hafter =>
    have hexpiring : Activity.result ∉ Activity.expiring := by simp [Activity.expiring]
    have hw : Write w m .result (m.acceptedResult w n t st stored now) :=
      .acceptedResult hn ht h.owned h.dispatched h.checked now
    have hf₁ := hf.mono (Writes.draws_le hafter.writes)
    have hf₀ := hf₁.mono hw.draws_le
    have hm := hw.safe hbefore.safe fun hc => by cases hc
    have hrec : (m.acceptedResult w n t st stored now).toRecords = _ :=
      LabState.acceptedResult_records hbefore.safe ht h.dispatched now
    have hterm : (t.ended st.taskStatus stored (w.utcNow m.draws) true).status.isTerminal =
        true := by cases st <;> rfl
    have hnew : s'.tasks.get? t.id =
        some (t.ended st.taskStatus stored (w.utcNow m.draws) true) :=
      hafter.keeps_ended hm (by rw [hrec, Dict.get?_set_self]) hterm
    refine .result h (.recorded hnew rfl) (fun id k hk => ?_) fun id n' hid hn' => ?_
    · have hk₁ := hafter.writes.acknowledged hm hexpiring hf hk
      have hold : m.Acknowledged id k → s.Acknowledged id k :=
        hbefore.writes.acknowledged hs hexpiring hf₀
      cases hk₁ with
      | recorded ht' hacc =>
        rw [hrec, Dict.get?_set] at ht'
        split at ht'
        · rename_i heq
          cases ht'
          exact .inr ⟨heq, rfl⟩
        · exact .inl (hold (.recorded ht' hacc))
      | pruned hk =>
        rw [hrec] at hk
        exact .inl (hold (.pruned hk))
    · have hid₀ := hid.mono (Writes.draws_le hbefore.writes)
      obtain ⟨n₁, hn₁, hsame₁⟩ :=
        hafter.writes.expectedRuntime hm hexpiring hf (hid₀.mono hw.draws_le) hn'
      rw [hrec, Dict.get?_set] at hn₁
      rw [hsame₁]
      split at hn₁
      · rename_i heq
        subst heq
        obtain ⟨n₀, hn₀, hsame₀⟩ := hbefore.writes.expectedRuntime hs hexpiring hf₀ hid hn
        cases hn₁
        exact ⟨n₀, hn₀, by rw [if_pos rfl, Node.expectedRuntime_credited, hsame₀]⟩
      · rename_i hne
        obtain ⟨n₀, hn₀, hsame₀⟩ := hbefore.writes.expectedRuntime hs hexpiring hf₀ hid hn₁
        exact ⟨n₀, hn₀, by rw [if_neg hne, hsame₀]⟩

/-- An operation of a run has such an effect. -/
theorem step_effect (hs : Sound w s) (op : Op) (hf : w.FreshBelow (step w s op).draws) :
    TakeEffect w s op (step w s op) := (step_taking hs op).effect hs.safe hf

end C2Lab
