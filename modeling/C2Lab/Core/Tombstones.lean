import C2Lab.Core.Filled
import C2Lab.Core.Reads
import C2Lab.Core.Retention
import C2Lab.Core.Retry
import C2Lab.Core.Sources
import C2Lab.Lib.Alike

/-! Acknowledgement tombstones.

    A run keeps a record of the results it accepted, and the event log says what was pruned since
    the last reset. The store of tombstones is the tail of what both say together: the accepted ones
    of the pruned tasks, in the order they went, each with the record its acceptance returned. -/

namespace C2Lab

variable {w : World} {s s' m : LabState} {accepted : List NodeTask} {c : Activity}

/-! ### What a run accepted and pruned -/

/-- The record with which an operation accepted the result of a task dispatched until then. -/
def acceptance (w : World) (s : LabState) : Op → Option NodeTask
  | .submitResult nodeId token (.str id) status result now =>
    match C2Lab.expire w now s, submitResult w nodeId token (.str id) status result.1 now s with
    | .ok _ m, .ok reply _ =>
      if (m.tasks.get? id).any (·.status = .dispatched) then some reply else none
    | _, _ => none
  | _ => none

/-- A run with the records its acceptances returned, oldest first. -/
inductive Acceptances (w : World) : List NodeTask → LabState → Prop
  | start (stream : String) : Acceptances w [] (.init stream)
  | next {accepted : List NodeTask} {s : LabState} (h : Acceptances w accepted s) (op : Op)
      (hf : w.FreshBelow (step w s op).draws) :
      Acceptances w (accepted ++ (acceptance w s op).toList) (step w s op)

/-- The pruned tasks after one more event. -/
def prunedAfter (ids : List PyStr) (e : Event) : List PyStr :=
  if e.kind = .labReset then []
  else if e.kind = .taskPruned then ids ++ e.taskId.toList
  else ids

/-- The tasks pruned since the last reset, oldest first. -/
def Journal.prunedSinceReset (j : Journal) : List PyStr := j.eventLog.foldl prunedAfter []

/-- The accepted ones among the pruned tasks, with the records of their acceptance. -/
def acknowledged (accepted : List NodeTask) (ids : List PyStr) : List (PyStr × NodeTask) :=
  ids.filterMap fun id => (accepted.find? (·.id = id)).map fun r => (id, r)

/-- Every reachable state is the end of such a run. -/
theorem Reachable.acceptances (hr : Reachable w s) : ∃ accepted, Acceptances w accepted s := by
  obtain ⟨stream, hl⟩ := hr
  induction hl with
  | refl => exact ⟨[], .start stream⟩
  | tail _ hn ih =>
    obtain ⟨accepted, h⟩ := ih
    obtain ⟨op, rfl, hf⟩ := hn
    exact ⟨_, h.next op hf⟩

theorem Acceptances.reachable (h : Acceptances w accepted s) : Reachable w s := by
  induction h with
  | start stream => exact ⟨stream, .refl⟩
  | next _ op hf ih => exact ih.step hf

/-! ### The event log -/

/-- Events that neither prune nor reset leave the pruned tasks as they are. -/
theorem foldl_prunedAfter {new : List Event}
    (h : ∀ e ∈ new, e.kind ≠ .taskPruned ∧ e.kind ≠ .labReset) (ids : List PyStr) :
    new.foldl prunedAfter ids = ids := by
  induction new with
  | nil => rfl
  | cons e new ih =>
    obtain ⟨hprune, hreset⟩ := h e List.mem_cons_self
    rw [List.foldl_cons, prunedAfter, if_neg hreset, if_neg hprune]
    exact ih fun e he => h e (List.mem_cons_of_mem _ he)

/-- Only retention and a reset change what was pruned. -/
theorem Write.prunedSinceReset (h : Write w s c s') (hp : c ≠ .prune) (hr : c ≠ .reset) :
    s'.prunedSinceReset = s.prunedSinceReset := by
  obtain ⟨new, hlog, hsource⟩ := h.eventLog
  rw [Journal.prunedSinceReset, hlog, List.foldl_append]
  refine foldl_prunedAfter (fun e he => ⟨fun hk => ?_, fun hk => ?_⟩) _
  · exact hp (hsource e he .prune (by rw [hk]; rfl)).symm
  · exact hr (hsource e he .reset (by rw [hk]; rfl)).symm

theorem prunedSinceReset_prune (t : Task) (s : LabState) :
    (s.pruneTerminalTaskLocked w t).prunedSinceReset = s.prunedSinceReset ++ [t.id] := by
  rw [Journal.prunedSinceReset, LabState.toJournal_prune, Journal.eventLog_auditLocked,
    Journal.eventLog_recordLocked, List.foldl_append]
  rfl

/-- A change of the records other than retention's and a reset's leaves the tombstones alone. -/
theorem RecordChange.tombstones_same {hi : ℕ} {r : Records} (h : RecordChange w s hi c r)
    (hp : c ≠ .prune) (hr : c ≠ .reset) : r.taskResultTombstones = s.taskResultTombstones := by
  cases h with
  | prunedTask => exact absurd rfl hp
  | cleared => exact absurd rfl hr
  | _ => rfl

theorem prunedSinceReset_reset (actor : PyStr) (s : LabState) :
    (s.announceReset w actor).prunedSinceReset = [] := by
  have hlog : (s.announceReset w actor).eventLog = s.eventLog ++
      [s.cleared.toJournal.event w
        { kind := .labReset, actor := actor, data := [("sessions_invalidated", .bool true)] }] :=
    (Journal.eventLog_auditLocked _ _ _).trans (Journal.eventLog_recordLocked _ _ _)
  rw [Journal.prunedSinceReset, hlog, List.foldl_append]
  rfl

/-! ### Tasks -/

/-- A write other than an accepted result: a task found afterwards was there before, the same or
    not accepted both times, or it is new. -/
theorem RecordChange.not_accepting {hi : ℕ} {r : Records} (hs : Safe w s)
    (h : RecordChange w s hi c r) (hc : c ≠ .result) {id : PyStr} {t' : Task}
    (ht' : r.tasks.get? id = some t') :
    (∃ t, s.tasks.get? id = some t ∧
      (t' = t ∨ t.resultAccepted = false ∧ t'.resultAccepted = false)) ∨
    c = .create ∧ id = w.taskId s.draws ∧ s.draws < hi ∧ t'.resultAccepted = false := by
  have hchange := h.task id
  rw [ht'] at hchange
  generalize hx : some t' = x at hchange
  cases hchange with
  | same => exact .inl ⟨t', hx.symm, .inl rfl⟩
  | @edited _ t t'' ht hid he =>
    cases hx
    have hlive := (hs.task_wf ht).not_accepted he.was_live
    refine .inl ⟨t, ht, .inr ⟨hlive, ?_⟩⟩
    cases he with
    | accepted => exact absurd rfl hc
    | redelivered | dispatched => exact hlive
    | _ => rfl
  | added _ _ hid hd => cases hx; exact .inr ⟨rfl, hid, hd, rfl⟩
  | pruned | cleared => cases hx

/-- The run's record of acceptances agrees with the tasks, and its tail with the tombstones. -/
structure Acknowledges (w : World) (accepted : List NodeTask) (s : LabState) : Prop where
  drawn : ∀ r ∈ accepted, w.TaskDrawn s.draws r.id
  distinct : (accepted.map (·.id)).Nodup
  recorded : ∀ id t, s.tasks.get? id = some t →
    accepted.find? (·.id = id) = if t.resultAccepted then some t.nodeTask else none
  gone : ∀ id ∈ s.prunedSinceReset, w.TaskDrawn s.draws id ∧ s.tasks.get? id = none
  store : s.taskResultTombstones.entries =
    Window.lastN maxTaskResultTombstones (acknowledged accepted s.prunedSinceReset)

theorem acknowledged_append (accepted : List NodeTask) (ids ids' : List PyStr) :
    acknowledged accepted (ids ++ ids') = acknowledged accepted ids ++ acknowledged accepted ids' :=
  List.filterMap_append

/-- A task that is not recorded as accepted stays out of the store. -/
theorem acknowledged_of_not_mem (accepted : List NodeTask) {r : NodeTask} {ids : List PyStr}
    (h : r.id ∉ ids) : acknowledged (accepted ++ [r]) ids = acknowledged accepted ids := by
  refine List.filterMap_congr fun id hid => ?_
  have hne : r.id ≠ id := fun heq => h (heq ▸ hid)
  rw [List.find?_append, List.find?_cons_of_neg (by simpa using hne), List.find?_nil,
    Option.or_none]

theorem World.TaskDrawn.mono {lo hi : ℕ} {id : PyStr} (h : w.TaskDrawn lo id) (hle : lo ≤ hi) :
    w.TaskDrawn hi id := by
  obtain ⟨k, hk, hid⟩ := h
  exact ⟨k, hk.trans_le hle, hid⟩

namespace Acknowledges

/-- A task about to be created was never accepted. -/
theorem find?_new (h : Acknowledges w accepted s) (hf : w.FreshBelow s'.draws)
    (hd : s.draws < s'.draws) : accepted.find? (·.id = w.taskId s.draws) = none := by
  refine List.find?_eq_none.mpr fun r hr hid => ?_
  obtain ⟨k, hk, heq⟩ := h.drawn r hr
  exact taskId_fresh hf hk hd (heq.symm.trans (of_decide_eq_true hid))

/-- Every write but an accepted result keeps the record right about the tasks. -/
theorem tasks_write (h : Acknowledges w accepted s) (hs : Safe w s) (hw : Write w s c s')
    (hc : c ≠ .result) (hf : c.creates = true → w.FreshBelow s'.draws) :
    ∀ id t, s'.tasks.get? id = some t →
      accepted.find? (·.id = id) = if t.resultAccepted then some t.nodeTask else none := by
  intro id t' ht'
  rcases (hw.records hs).not_accepting hs hc ht' with
    ⟨t, ht, rfl | ⟨hold, hnew⟩⟩ | ⟨rfl, rfl, hd, hnew⟩
  · exact h.recorded id t' ht
  · rw [h.recorded id t ht, hold, hnew]
    rfl
  · rw [h.find?_new (hf rfl) hd, hnew]
    rfl

/-- What is gone stays gone. -/
theorem gone_write (h : Acknowledges w accepted s) (hs : Safe w s) (hw : Write w s c s')
    (hf : c.creates = true → w.FreshBelow s'.draws) {id : PyStr} (hid : id ∈ s.prunedSinceReset) :
    w.TaskDrawn s'.draws id ∧ s'.tasks.get? id = none := by
  obtain ⟨⟨k, hk, heq⟩, hnone⟩ := h.gone id hid
  refine ⟨⟨k, hk.trans_le hw.draws_le, heq⟩, ?_⟩
  have hchange := (hw.records hs).task id
  generalize s'.tasks.get? id = x at hchange
  cases hchange with
  | same => exact hnone
  | edited ht => rw [hnone] at ht; cases ht
  | added _ _ hid' hd => exact absurd (heq.symm.trans hid') (taskId_fresh (hf rfl) hk hd)
  | pruned | cleared => rfl

/-- Retention moves an accepted task from the table to the store. -/
theorem prune (h : Acknowledges w accepted s) (hs : Safe w s) {t : Task}
    (ht : s.tasks.get? t.id = some t) (hterm : t.status.isTerminal = true)
    (hr : taskIsRequiredByRunningExerciseLocked t s = false) :
    Acknowledges w accepted (s.pruneTerminalTaskLocked w t) := by
  have hw : Write w s .prune (s.pruneTerminalTaskLocked w t) := .pruneTask ht hterm hr
  have hcalm : Activity.prune.creates = true → w.FreshBelow (s.pruneTerminalTaskLocked w t).draws :=
    fun hc => by cases hc
  have hretired := LabState.Prunable.retired (w := w) hs ⟨ht, hterm, hr⟩
  have hlast : t.tombstone.toList = acknowledged accepted [t.id] := by
    simp only [acknowledged, List.filterMap_cons, List.filterMap_nil, h.recorded _ t ht,
      Task.tombstone]
    split <;> rfl
  refine ⟨fun r hr' => (h.drawn r hr').mono hw.draws_le, h.distinct,
    h.tasks_write hs hw (by simp) hcalm, fun id hid => ?_, ?_⟩
  · rw [prunedSinceReset_prune] at hid
    rcases List.mem_append.mp hid with hid | hid
    · exact h.gone_write hs hw hcalm hid
    · rw [List.mem_singleton.mp hid, LabState.toRecords_prune]
      exact ⟨(hs.task_drawn ht).mono hw.draws_le, by simp⟩
  · have hone : [t].filterMap Task.tombstone = t.tombstone.toList := by
      cases hx : t.tombstone <;> simp [hx]
    rw [hretired.tombstones, hone, hlast, h.store, Window.foldl_push_lastN,
      prunedSinceReset_prune, acknowledged_append]

/-- Every write but an accepted result keeps the record. -/
theorem write (h : Acknowledges w accepted s) (hs : Safe w s) (hw : Write w s c s')
    (hc : c ≠ .result) (hf : c.creates = true → w.FreshBelow s'.draws) :
    Acknowledges w accepted s' := by
  by_cases hp : c = .prune
  · subst hp
    cases hw with
    | tick => exact ⟨fun r hr => (h.drawn r hr).mono (Nat.le_succ _), h.distinct, h.recorded,
        fun id hid => ⟨(h.gone id hid).1.mono (Nat.le_succ _), (h.gone id hid).2⟩, h.store⟩
    | pruneTask ht hterm hr => exact h.prune hs ht hterm hr
    | failTask hc => rcases hc with hc | hc <;> cases hc
  · refine ⟨fun r hr => (h.drawn r hr).mono hw.draws_le, h.distinct, h.tasks_write hs hw hc hf, ?_,
      ?_⟩
    all_goals by_cases hr : c = .reset
    · subst hr
      cases hw with
      | tick => exact fun id hid => ⟨(h.gone id hid).1.mono (Nat.le_succ _), (h.gone id hid).2⟩
      | announceReset actor => rw [prunedSinceReset_reset]; simp
      | failTask hc => rcases hc with hc | hc <;> cases hc
    · rw [hw.prunedSinceReset hp hr]
      exact fun id hid => h.gone_write hs hw hf hid
    · subst hr
      cases hw with
      | tick => exact h.store
      | announceReset actor =>
        rw [prunedSinceReset_reset]
        simp [LabState.announceReset, LabState.cleared, acknowledged, Window.lastN, Dict.empty]
      | failTask hc => rcases hc with hc | hc <;> cases hc
    · rw [hw.prunedSinceReset hp hr, (hw.records hs).tombstones_same hp hr]
      exact h.store

/-- An accepted result is recorded. -/
theorem accept (h : Acknowledges w accepted s) (hs : Safe w s) {n : Node} {t : Task}
    {st : ResultStatus} {result : Json} {now : Instant} (ht : s.tasks.get? t.id = some t)
    (hd : t.status = .dispatched) (hw : Write w s .result (s.acceptedResult w n t st result now)) :
    Acknowledges w
      (accepted ++ [(t.ended st.taskStatus result (w.utcNow s.draws) true).nodeTask])
      (s.acceptedResult w n t st result now) := by
  have hcalm : Activity.result.creates = true →
      w.FreshBelow (s.acceptedResult w n t st result now).draws := fun hc => by cases hc
  have hnew : accepted.find? (·.id = t.id) = none := by
    rw [h.recorded _ t ht, (hs.task_wf ht).not_accepted (by rw [hd]; rfl)]
    rfl
  have hkept : t.id ∉ s.prunedSinceReset := fun hid => by
    rw [(h.gone _ hid).2] at ht; cases ht
  have hpruned := hw.prunedSinceReset (by simp) (by simp)
  refine ⟨fun r hr => ?_, ?_, fun id t' ht' => ?_, fun id hid => ?_, ?_⟩
  · rcases List.mem_append.mp hr with hr | hr
    · exact (h.drawn r hr).mono hw.draws_le
    · rw [List.mem_singleton.mp hr]
      exact (hs.task_drawn ht).mono hw.draws_le
  · rw [List.map_append]
    refine List.nodup_append.mpr ⟨h.distinct, by simp, ?_⟩
    rintro _ hmem _ hlast rfl
    obtain ⟨r, hr, hid⟩ := List.mem_map.mp hmem
    exact List.find?_eq_none.mp hnew r hr
      (decide_eq_true (hid.trans (List.mem_singleton.mp hlast)))
  · rw [LabState.acceptedResult_records hs ht hd, Dict.get?_set] at ht'
    rw [List.find?_append]
    split at ht'
    · rename_i hid
      cases ht'
      rw [hid, hnew]
      simp [Task.ended, Task.nodeTask]
    · rename_i hid
      rw [List.find?_cons_of_neg fun heq => hid (of_decide_eq_true heq).symm, List.find?_nil,
        Option.or_none]
      exact h.recorded id t' ht'
  · rw [hpruned] at hid
    exact h.gone_write hs hw hcalm hid
  · rw [hpruned, acknowledged_of_not_mem _ hkept,
      (hw.records hs).tombstones_same (by simp) (by simp)]
    exact h.store

/-- Several writes without an accepted result. -/
theorem writes {acts : List Activity} (h : Acknowledges w accepted s) (hs : Safe w s)
    (hw : Writes w acts s s') (hacts : .result ∉ acts) (hf : w.FreshBelow s'.draws) :
    Acknowledges w accepted s' := by
  induction hw with
  | refl => exact h
  | @tail s₁ s₂ hbefore hstep ih =>
    obtain ⟨c, hc, hlast⟩ := hstep
    have hf₁ := hf.mono hlast.draws_le
    exact (ih hf₁).write (Writes.safe hbefore hs hf₁) hlast (fun heq => hacts (heq ▸ hc))
      fun _ => hf

end Acknowledges

/-! ### Operations -/

/-- What an operation accepts: nothing, or one result of a dispatched task. -/
inductive Accepting (w : World) (s : LabState) (op : Op) (s' : LabState) : Prop
  | none {acts : List Activity} (hnone : acceptance w s op = .none) (hacts : .result ∉ acts)
      (h : Writes w acts s s')
  | one {m : LabState} {n : Node} {t : Task} {st : ResultStatus} {result : Json} {now : Instant}
      (hsome : acceptance w s op =
        some (t.ended st.taskStatus result (w.utcNow m.draws) true).nodeTask)
      (hbefore : Writes w Activity.expiring s m) (ht : m.tasks.get? t.id = some t)
      (hd : t.status = .dispatched) (hw : Write w m .result (m.acceptedResult w n t st result now))
      (hafter : Writes w [.refresh] (m.acceptedResult w n t st result now) s')

/-- A submission that raised accepted nothing. -/
theorem acceptance_of_error {nodeId token taskId status : Json} {result : Document} {now : Instant}
    {e : Exc} (h : submitResult w nodeId token taskId status result.1 now s = .error e s') :
    acceptance w s (.submitResult nodeId token taskId status result now) = none := by
  cases taskId with
  | str id =>
    simp only [acceptance, h]
    cases C2Lab.expire w now s <;> rfl
  | _ => rfl

/-- The answer to a submission is an acceptance if its task was dispatched after the expiry pass. -/
theorem acceptance_of_ok {nodeId token status : Json} {id : PyStr} {result : Document}
    {now : Instant} {reply : NodeTask} (hexp : expire w now s = .ok ⟨⟩ m)
    (h : submitResult w nodeId token (.str id) status result.1 now s = .ok reply s') :
    acceptance w s (.submitResult nodeId token (.str id) status result now) =
      if (m.tasks.get? id).any (·.status = .dispatched) then some reply else none := by
  simp only [acceptance, hexp, h]

/-- The answer about a dispatched task is no replay. -/
theorem submitSession_ends_task (hm : Safe w m) {n : Node} {id : PyStr} {t : Task}
    (hn : m.nodes.get? n.id = some n) (ht : m.tasks.get? id = some t) (hd : t.status = .dispatched)
    {status : Json} {sent : Document} {now : Instant} {reply : NodeTask}
    (h : submitSession w n (.str id) status sent.1 now m = .ok reply s') :
    ∃ t', s'.tasks.get? id = some t' ∧ t'.status.isTerminal = true := by
  obtain rfl := hm.task_key ht
  by_cases hnode : t.nodeId = n.id
  · have hwp := submitSession_stores hm hn ht hnode hd status sent now
    rw [Prog.wp_run h] at hwp
    obtain ⟨st, stored, ended, hended, -, -, -, hget⟩ := hwp
    exact ⟨ended, hget, hended.terminal⟩
  · simp only [submitSession, bind, EStateM.bind, Prog.get_apply, ht,
      hnode, if_false] at h
    cases h

/-- A submission accepts at most one result. -/
theorem submitResult_accepting (hs : Safe w s) (nodeId token taskId status : Json)
    (result : Document) (now : Instant) :
    Accepting w s (.submitResult nodeId token taskId status result now)
      (step w s (.submitResult nodeId token taskId status result now)) := by
  obtain ⟨_, m, hexp, hcame, -⟩ := Prog.exists_ok (expired_wp hs now)
  have hexp : expire w now s = .ok ⟨⟩ m := hexp
  have hbefore : Writes w [.expiry, .refresh, .reject] s m := hcame.writes.mono (by simp)
  have hstep : step w s (.submitResult nodeId token taskId status result now) =
      Prog.final (submitResult w nodeId token taskId status result.1 now) s := by
    rw [step, Op.run, Prog.final_map_eq]
  rw [hstep]
  have hwp := requireNodeSession_wp hcame.safe nodeId token
  cases hauth : requireNodeSessionLocked nodeId token m with
  | error e m' =>
    rw [Prog.wp, hauth] at hwp
    obtain rfl := hwp
    have hrun : submitResult w nodeId token taskId status result.1 now s = .error e m' := by
      simp only [submitResult, bind, EStateM.bind]
      rw [show expireLocked w now s = _ from hexp]
      simp only [hauth]
    rw [Prog.final, hrun]
    exact .none (acceptance_of_error hrun) (by simp) hbefore
  | ok n m' =>
    rw [Prog.wp_run hauth] at hwp
    obtain ⟨rfl, hsess⟩ := hwp
    have hgoes := submitResult_session hs hexp hsess taskId status result.1
    have hanswers := submitSession_answers hcame.safe hsess.recorded taskId status result now
    rw [Prog.final, hgoes]
    cases hrun : submitSession w n taskId status result.1 now m' with
    | error e s' =>
      rw [Prog.wp, hrun] at hanswers
      have hnone := acceptance_of_error (hgoes.trans hrun)
      cases hanswers with
      | same => exact .none hnone (by simp) hbefore
      | rejected _ reason =>
        exact .none hnone (by simp) (hbefore.write (.rejectResult _ _) (by simp))
    | ok reply s' =>
      rw [Prog.wp_run hrun] at hanswers
      cases hanswers with
      | replayed hnode =>
        refine .none ?_ (by simp) hbefore
        cases taskId with
        | str id =>
          rw [acceptance_of_ok hexp (hgoes.trans hrun), if_neg]
          intro hany
          obtain ⟨t, ht, hd⟩ := (Option.any_eq_true _ _).mp hany
          obtain ⟨t', ht', hterm⟩ := submitSession_ends_task hcame.safe hsess.recorded ht
            (of_decide_eq_true hd) hrun
          obtain rfl := Option.some.inj (ht.symm.trans ht')
          rw [of_decide_eq_true hd] at hterm
          cases hterm
        | _ => rfl
      | accepted htask hst ht hnode hd hv hcame' href =>
        subst htask
        refine .one ?_ hcame.writes ht hd (.acceptedResult hsess.recorded ht hnode hd hv now)
          hcame'.writes
        rw [acceptance_of_ok hexp (hgoes.trans hrun), ht, if_pos (by simp [hd])]

/-- An operation other than a submission accepts nothing. -/
theorem Ran.without_result {op : Op} (h : Ran w s op s')
    (hop : ∀ nodeId token taskId status result now,
      op ≠ .submitResult nodeId token taskId status result now) :
    ∃ acts, .result ∉ acts ∧ Writes w acts s s' := by
  cases h with
  | plain h => exact ⟨op.activities, by cases op <;> simp [Op.activities], h⟩
  | delivered h hd =>
    refine ⟨[.expiry, .refresh, .poll, .dispatch], by simp, ?_⟩
    exact ((h.mono (by simp)).write hd (by simp)).write (.tick .poll) (by simp)
  | accepted => exact absurd rfl (hop _ _ _ _ _ _)

/-- Every operation accepts at most one result. -/
theorem step_accepting (hs : Sound w s) (op : Op) : Accepting w s op (step w s op) := by
  have hran := (step_ends hs.safe hs.settled op).ran
  cases op with
  | submitResult nodeId token taskId status result now =>
    exact submitResult_accepting hs.safe nodeId token taskId status result now
  | _ =>
    obtain ⟨acts, hacts, hw⟩ := hran.without_result (by simp)
    exact .none rfl hacts hw

/-- The record of a whole run is right. -/
theorem Acceptances.acknowledges (h : Acceptances w accepted s) : Acknowledges w accepted s := by
  induction h with
  | start stream =>
    exact ⟨by simp, by simp, fun id t ht => (by cases ht),
      by simp [LabState.init, Journal.prunedSinceReset],
      by simp [LabState.init, Journal.prunedSinceReset, acknowledged, Window.lastN, Dict.empty]⟩
  | @next accepted s h op hf ih =>
    have hs := h.reachable.sound
    cases step_accepting hs op with
    | none hnone hacts hw =>
      rw [hnone, Option.toList_none, List.append_nil]
      exact ih.writes hs.safe hw hacts hf
    | @one m n t st result now hsome hbefore ht hd hw hafter =>
      have hf₁ := hf.mono (Writes.draws_le hafter)
      have hf₀ := hf₁.mono hw.draws_le
      have hm : Safe w m := Writes.safe hbefore hs.safe hf₀
      have hm' := hw.safe hm fun hc => by cases hc
      rw [hsome, Option.toList_some]
      exact ((ih.writes hs.safe hbefore (by simp [Activity.expiring]) hf₀).accept hm ht hd
        hw).writes hm' hafter (by simp) hf

/-! ### Retries -/

section alike
variable {s₀ m₀ : LabState} {α : Type} {R : LabState → LabState → Prop}

/-- Two calls that end alike have the same answer. -/
theorem answer_eq_of_alike {op op' : Op}
    (h : Prog.Alike R (fun r r' => r' = r) (op.call w) (op'.call w) s s') :
    answer w s' op' = answer w s op := by
  unfold Prog.Alike at h
  unfold answer
  cases hm : op.call w s <;> cases hm' : op'.call w s' <;> rw [hm, hm'] at h
  case ok.ok => exact congrArg Except.ok h.1
  case error.error => exact congrArg Except.error h.1
  all_goals exact h.elim

/-- The check of an envelope ends alike whatever the state. -/
theorem alike_orReject (r : NodeTask) (reason : String) (x : Except Exc α) (s s' : LabState) :
    Prog.Alike (fun _ _ => True) (fun a a' => a' = a) (orReject w r reason x)
      (orReject w r reason x) s s' := by
  cases x with
  | ok a => exact ⟨rfl, trivial⟩
  | error e => cases e <;> exact ⟨rfl, trivial⟩

/-- A submission is answered from the tombstone as it was from the ended task. -/
theorem submitSession_alike {n n' : Node} {t : Task} (hn : n'.id = n.id)
    (ht : m₀.tasks.get? t.id = some t) (hend : t.status = .completed ∨ t.status = .failed)
    (hnone : m.tasks.get? t.id = none) (ha : m.taskResultTombstones.get? t.id = some t.nodeTask)
    (status result : Json) (now now' : Instant) :
    Prog.Alike (fun _ _ => True) (fun r r' => r' = r)
      (submitSession w n (.str t.id) status result now)
      (submitSession w n' (.str t.id) status result now') m₀ m := by
  unfold submitSession
  refine Prog.alike_get ?_
  simp only [ht, hnone, ha]
  refine Prog.alike_ite (by rw [hn]; rfl) (fun _ => ?_) fun _ => Prog.alike_throw trivial _
  refine Prog.alike_bind (alike_orReject _ _ _ _ _) fun x x' u u' hx _ => ?_
  subst hx
  unfold submitLive
  rw [if_pos hend]
  unfold replayResult
  exact Prog.alike_ite Iff.rfl (fun _ => Prog.alike_pure trivial rfl)
    fun _ => Prog.alike_throw trivial _

end alike

/-- The expiry pass leaves an ended task and every tombstone alone. -/
theorem Came.keeps_ended (h : Came w Activity.expiring s s') (hs : Safe w s) {id : PyStr} {t : Task}
    (ht : s.tasks.get? id = some t) (hterm : t.status.isTerminal = true) :
    s'.tasks.get? id = some t := by
  refine h.keeps (P := fun m => m.tasks.get? id = some t) hs ht fun {s₁ s₂ c} hc hs₁ hw hP => ?_
  have hchange := (hw.records hs₁).task id
  generalize s₂.tasks.get? id = x at hchange
  cases hchange with
  | same => exact hP
  | edited ht' _ he =>
    obtain rfl := Option.some.inj (hP.symm.trans ht')
    rw [he.was_live] at hterm
    cases hterm
  | added | pruned | cleared => simp [Activity.expiring] at hc

theorem Came.keeps_tombstones (h : Came w Activity.expiring s s') (hs : Safe w s) :
    s'.taskResultTombstones = s.taskResultTombstones := by
  refine h.keeps (P := fun m => m.taskResultTombstones = s.taskResultTombstones) hs rfl
    fun {s₁ s₂ c} hc hs₁ hw hP => ?_
  refine ((hw.records hs₁).tombstones_same ?_ ?_).trans hP <;> rintro rfl <;>
    simp [Activity.expiring] at hc

/-- The same submission for an ended task, made by its session while the task was recorded and
    again once it was pruned, is answered the same. -/
def SameAnswers (w : World) (s₀ s : LabState) (t : Task) : Prop :=
  ∀ {nodeId token : Json} {now₀ now : Instant} {m₀ m : LabState} {n₀ n : Node},
    expire w now₀ s₀ = .ok ⟨⟩ m₀ → m₀.Session nodeId token n₀ → expire w now s = .ok ⟨⟩ m →
    m.Session nodeId token n → ∀ status (result : Document),
      answer w s (.submitResult nodeId token (.str t.id) status result now) =
        answer w s₀ (.submitResult nodeId token (.str t.id) status result now₀)

/-- A task found ended in a run, its tombstone found later. -/
theorem sameAnswers_of_tombstone {s₀ : LabState} (hr : Reachable w s₀) (hl : Later w s₀ s)
    {t : Task} (ht : s₀.tasks.get? t.id = some t) (hterm : t.status.isTerminal = true)
    (htomb : (s.taskResultTombstones.get? t.id).isSome) : SameAnswers w s₀ s t := by
  intro nodeId token now₀ now m₀ m n₀ n hexp₀ hsess₀ hexp hsess status result
  have hs₀ := hr.sound.safe
  have hs := (hr.later hl).sound.safe
  obtain ⟨a, ha⟩ := Option.isSome_iff_exists.mp htomb
  have hrem := remembers_later hr.sound ht hterm hl hexp
  have hm := (expire_punctual hs hexp).1
  have hm₀ := (expire_punctual hs₀ hexp₀).1.keeps_ended hs₀ ht hterm
  have ha' : m.taskResultTombstones.get? t.id = some a := by
    rw [hm.keeps_tombstones hs]; exact ha
  obtain rfl := hrem.acknowledged a ha'
  have hstored := hm.safe.tombstones _ _ ha'
  have hend : t.status = .completed ∨ t.status = .failed := by
    obtain ⟨st, -, hst, -⟩ := hstored.wf
    have hst : t.status = st.taskStatus := hst
    rw [hst]
    cases st <;> simp [ResultStatus.taskStatus]
  have hid : n.id = n₀.id := Json.str.inj (hsess.node_eq.symm.trans hsess₀.node_eq)
  refine answer_eq_of_alike (R := fun _ _ => True)
    (Prog.alike_map (B := fun r r' => r' = r) ?_ fun r r' h => congrArg Reply.accepted h)
  unfold Prog.Alike
  rw [submitResult_session hs₀ hexp₀ hsess₀, submitResult_session hs hexp hsess]
  exact submitSession_alike hid hm₀ hend hstored.pruned ha' status result.1 now₀ now

/-- Tombstones. At the end of every run the store holds, in the order they were pruned, the last of
    the tasks pruned since the last reset whose result was accepted from their Node, each with the
    record its acceptance returned and none of them still recorded; and while a tombstone lasts, its
    session gets the answers it got before the task was pruned. No task is accepted twice. -/
theorem tombstones_of_run (h : Acceptances w accepted s) :
    s.taskResultTombstones.entries =
      Window.lastN maxTaskResultTombstones (acknowledged accepted s.prunedSinceReset) ∧
    (accepted.map (·.id)).Nodup ∧
    (∀ id r, s.taskResultTombstones.get? id = some r → s.tasks.get? id = none) ∧
    ∀ s₀ t, Reachable w s₀ → Later w s₀ s → s₀.tasks.get? t.id = some t →
      t.status.isTerminal = true → (s.taskResultTombstones.get? t.id).isSome →
      SameAnswers w s₀ s t := by
  have hack := h.acknowledges
  refine ⟨hack.store, hack.distinct, fun id r hr => ?_, fun s₀ t hr hl ht hterm htomb =>
    sameAnswers_of_tombstone hr hl ht hterm htomb⟩
  exact (h.reachable.sound.safe.tombstones id r hr).pruned

namespace Counting

/-- The first PING of the session is answered. -/
def answeredPing : List Op :=
  [enroll, queue .ping (.obj []), poll 11,
    submit 6 .completed ⟨Json.dict [("reply", .str "PONG")], by decide⟩ 12]

/-- One Node is there, open and not paused, and one task, which has an accepted result; there are
    draws left to fill the table. -/
theorem answeredPing_evaluated :
    (∀ k < answeredPing.length + 1,
      (exec .counting (.init "stream") (answeredPing.take k)).draws ≤ 10 ^ 10) ∧
    let s := exec .counting (.init "stream") answeredPing
    s.draws + 10 * (maxTasks + 1) ≤ 10 ^ 10 ∧ s.exercises.entries.length = 0 ∧
      s.tasks.keys = [World.counting.taskId 6] ∧
      (s.nodes.get? (World.counting.nodeId 0)).map (fun n =>
        (n.sessionActive, n.taskingPaused, decide (TaskType.ping ∈ n.capabilities))) =
        some (true, false, true) ∧
      (s.tasks.get? (World.counting.taskId 6)).map (fun t =>
        (t.status.isTerminal, t.resultAccepted)) = some (true, true) := by
  decide +kernel

end Counting

/-- A PING is answered, and operators fill the table until its task goes. -/
theorem tombstones_of_run_pruned :
    let s₀ := exec .counting (.init "stream") Counting.answeredPing
    ∃ t accepted s, s₀.tasks.get? (World.counting.taskId 6) = some t ∧ Later .counting s₀ s ∧
      Acceptances .counting accepted s ∧
      s.taskResultTombstones.get? (World.counting.taskId 6) = some t.nodeTask ∧
      s.taskResultTombstones.entries =
        Window.lastN maxTaskResultTombstones (acknowledged accepted s.prunedSinceReset) ∧
      SameAnswers .counting s₀ s t := by
  intro s₀
  obtain ⟨hdraws, hlast, hempty, hkeys, hnodes, htasks⟩ := Counting.answeredPing_evaluated
  have hr : Reachable .counting s₀ := World.counting_reachable "stream" _ hdraws
  have hexercises : s₀.exercises = .empty := Dict.ext' (List.length_eq_zero_iff.mp hempty)
  obtain ⟨n, hn, hnode⟩ := Option.map_eq_some_iff.mp hnodes
  obtain ⟨t, ht, htask⟩ := Option.map_eq_some_iff.mp htasks
  simp only [Prod.mk.injEq, decide_eq_true_eq] at hnode htask
  have honly : ∀ id u, s₀.tasks.get? id = some u → u = t := by
    intro id u hu
    have hid := hkeys ▸ Dict.mem_keys_of_get? hu
    rw [List.mem_singleton.mp hid, ht] at hu
    exact (Option.some.inj hu).symm
  have htid := hr.sound.safe.task_key ht
  have ht' : s₀.tasks.get? t.id = some t := htid.symm ▸ ht
  obtain ⟨s, hl, htomb⟩ := exists_tombstone hr (World.counting_fresh hlast)
    ((hr.sound.safe.node_key hn).symm ▸ hn) hnode.1 hnode.2.1 hnode.2.2 hexercises
    (fun id u hu => honly id u hu ▸ htask.1) ht' htask.2 fun id u hu => by rw [honly id u hu]
  obtain ⟨accepted, h⟩ := (hr.later hl).acceptances
  obtain ⟨hentries, -, -, hsame⟩ := tombstones_of_run h
  exact ⟨t, accepted, s, ht, hl, h, htid ▸ htomb, hentries,
    hsame s₀ t hr hl ht' htask.1 (by rw [htomb]; rfl)⟩

end C2Lab
