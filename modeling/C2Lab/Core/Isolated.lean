import C2Lab.Core.Notices
import C2Lab.Core.PollRun

/-! What a node may touch.

    `Within a` says that nothing changed but the record, the tasks and the exercises of node `a`,
    and that the journal was told of nothing else. The writes of a poll, a result and a
    disconnection are about their own node; the refresh at their end looks at every exercise, and
    leaves those of other nodes alone because they were settled. -/

namespace C2Lab

variable {w : World} {s s' s₀ s₁ : LabState} {a : PyStr}

/-! ### The journal -/

/-- The two histories of a journal. -/
def Journal.eventTrack (j : Journal) : Window.Track Event := ⟨j.eventLog, j.events, j.eventSequence⟩

@[inherit_doc Journal.eventTrack]
def Journal.auditTrack (j : Journal) : Window.Track AuditEntry :=
  ⟨j.auditLog, j.auditEntries, j.auditSequence⟩

/-- Both histories went on by entries about one node. -/
structure Journal.AppendedFor (a : PyStr) (j j' : Journal) : Prop where
  events : Window.Track.Goes maxEvents (fun x => x.nodeId = some a) j.eventTrack j'.eventTrack
  audits : Window.Track.Goes maxAuditEntries (fun x => x.nodeId = some a) j.auditTrack
    j'.auditTrack

namespace Journal

variable {j j' j'' : Journal}

theorem eventTrack_recordLocked (d : EventDraft) : (j.recordLocked w d).eventTrack =
    ⟨j.eventTrack.log ++ [j.event w d], Window.push maxEvents j.eventTrack.window (j.event w d),
      j.eventTrack.count + 1⟩ := by
  simp only [eventTrack, recordLocked]

theorem auditTrack_recordLocked (d : EventDraft) :
    (j.recordLocked w d).auditTrack = j.auditTrack := by
  simp only [auditTrack, recordLocked]

theorem eventTrack_auditLocked (d : AuditDraft) :
    (j.auditLocked w d).eventTrack = j.eventTrack := by
  simp only [eventTrack, auditLocked]

theorem auditTrack_auditLocked (d : AuditDraft) : (j.auditLocked w d).auditTrack =
    ⟨j.auditTrack.log ++ [j.entry w d],
      Window.push maxAuditEntries j.auditTrack.window (j.entry w d), j.auditTrack.count + 1⟩ := by
  simp only [auditTrack, auditLocked]

namespace AppendedFor

theorem refl (a : PyStr) (j : Journal) : AppendedFor a j j := ⟨.refl .., .refl ..⟩

theorem trans (h : AppendedFor a j j') (h' : AppendedFor a j' j'') : AppendedFor a j j'' :=
  ⟨h.events.trans h'.events, h.audits.trans h'.audits⟩

theorem tick (h : AppendedFor a j j') : AppendedFor a j { j' with draws := j'.draws + 1 } :=
  ⟨h.events, h.audits⟩

theorem record (h : AppendedFor a j j') {d : EventDraft} (hd : d.nodeId = some a) :
    AppendedFor a j (j'.recordLocked w d) := by
  refine ⟨?_, ?_⟩
  · rw [eventTrack_recordLocked]
    exact h.events.trans (.push hd)
  · rw [auditTrack_recordLocked]
    exact h.audits

theorem audit (h : AppendedFor a j j') {d : AuditDraft} (hd : d.nodeId = some a) :
    AppendedFor a j (j'.auditLocked w d) := by
  refine ⟨?_, ?_⟩
  · rw [eventTrack_auditLocked]
    exact h.events
  · rw [auditTrack_auditLocked]
    exact h.audits.trans (.push hd)

end AppendedFor

/-- What the journal was told, as its histories show it: no event is dropped but for room. -/
theorem Grow.tracks {q : EventDraft → Prop} (h : Grow w q j j') :
    Window.Track.Goes maxEvents (fun _ => True) j.eventTrack j'.eventTrack ∧
      Window.Track.Goes maxAuditEntries (fun _ => True) j.auditTrack j'.auditTrack := by
  induction h with
  | refl => exact ⟨.refl .., .refl ..⟩
  | tick _ ih => exact ih
  | record _ _ ih =>
    rw [eventTrack_recordLocked, auditTrack_recordLocked]
    exact ⟨ih.1.trans (.push trivial), ih.2⟩
  | audit _ _ ih =>
    rw [eventTrack_auditLocked, auditTrack_auditLocked]
    exact ⟨ih.1, ih.2.trans (.push trivial)⟩

/-- Whose notices the new entries of both logs are. -/
theorem Told.logs {l : List Notice} (h : Told w j l j') (hl : ∀ x ∈ l, x.nodeId = some a) :
    (∃ new, j'.eventLog = j.eventLog ++ new ∧ ∀ x ∈ new, x.nodeId = some a) ∧
      ∃ new, j'.auditLog = j.auditLog ++ new ∧ ∀ x ∈ new, x.nodeId = some a := by
  induction h with
  | refl => exact ⟨⟨[], by simp⟩, ⟨[], by simp⟩⟩
  | tick _ ih | refuse _ ih | clear _ ih => exact ih hl
  | record _ d ih =>
    obtain ⟨⟨new, heq, hnew⟩, haudit⟩ := ih fun x hx => hl x (List.mem_append_left _ hx)
    have hd : d.nodeId = some a := hl (.event d) (by simp)
    rw [eventLog_recordLocked, auditLog_recordLocked]
    refine ⟨⟨new ++ [_], by rw [heq, List.append_assoc], fun x hx => ?_⟩, haudit⟩
    rcases List.mem_append.mp hx with hx | hx
    · exact hnew x hx
    · rw [List.mem_singleton.mp hx]; exact hd
  | audit _ d ih =>
    obtain ⟨hevent, new, heq, hnew⟩ := ih fun x hx => hl x (List.mem_append_left _ hx)
    have hd : d.nodeId = some a := hl (.audit d) (by simp)
    rw [eventLog_auditLocked, auditLog_auditLocked]
    refine ⟨hevent, new ++ [_], by rw [heq, List.append_assoc], fun x hx => ?_⟩
    rcases List.mem_append.mp hx with hx | hx
    · exact hnew x hx
    · rw [List.mem_singleton.mp hx]; exact hd

theorem AppendedFor.of_told {q : EventDraft → Prop} {l : List Notice} (hg : Grow w q j j')
    (h : Told w j l j') (hl : ∀ x ∈ l, x.nodeId = some a) : AppendedFor a j j' :=
  ⟨hg.tracks.1.of_log (h.logs hl).1, hg.tracks.2.of_log (h.logs hl).2⟩

end Journal

/-! ### The frame -/

/-- Nothing changed but what belongs to node `a`: its record, its tasks, its exercises, and what the
    journal says about it. -/
structure Within (a : PyStr) (s s' : LabState) : Prop where
  records : s'.toRecords =
    { s.toRecords with nodes := s'.nodes, tasks := s'.tasks, exercises := s'.exercises }
  nodes : ∀ id ≠ a, s'.nodes.get? id = s.nodes.get? id
  tasks : s.tasks.Touches (·.nodeId = a) s'.tasks
  exercises : s.exercises.Touches (·.nodeId = a) s'.exercises
  journal : s.toJournal.AppendedFor a s'.toJournal

namespace Within

theorem of_records {nodes : Dict PyStr Node} {tasks : Dict PyStr Task}
    {exercises : Dict PyStr Exercise} (hrec : s'.toRecords =
      { s.toRecords with nodes := nodes, tasks := tasks, exercises := exercises })
    (hnodes : ∀ id ≠ a, nodes.get? id = s.nodes.get? id)
    (htasks : s.tasks.Touches (·.nodeId = a) tasks)
    (hexs : s.exercises.Touches (·.nodeId = a) exercises)
    (hj : s.toJournal.AppendedFor a s'.toJournal) : Within a s s' := by
  refine ⟨?_, ?_, ?_, ?_, hj⟩ <;> rw [hrec]
  · exact hnodes
  · exact htasks
  · exact hexs

theorem refl (a : PyStr) (s : LabState) : Within a s s :=
  ⟨rfl, fun _ _ => rfl, .refl _ _, .refl _ _, .refl _ _⟩

theorem trans (h : Within a s s₁) (h' : Within a s₁ s') : Within a s s' where
  records := by rw [h'.records, h.records]
  nodes id hid := (h'.nodes id hid).trans (h.nodes id hid)
  tasks := h.tasks.trans h'.tasks
  exercises := h.exercises.trans h'.exercises
  journal := h.journal.trans h'.journal

theorem tick (h : Within a s s') : Within a s s'.tick :=
  ⟨h.records, h.nodes, h.tasks, h.exercises, h.journal.tick⟩

/-- The node's own record changed. -/
theorem of_node {n : Node} (hrec : s'.toRecords = { s.toRecords with nodes := s.nodes.set a n })
    (hj : s.toJournal.AppendedFor a s'.toJournal) : Within a s s' :=
  of_records hrec (fun _ hid => Dict.get?_set_ne _ _ hid) (.refl _ _) (.refl _ _) hj

/-- One of the node's tasks changed. -/
theorem of_task {t u : Task} (ht : s.tasks.get? t.id = some t) (hnode : t.nodeId = a)
    (hnode' : u.nodeId = a)
    (hrec : s'.toRecords = { s.toRecords with tasks := s.tasks.set t.id u })
    (hj : s.toJournal.AppendedFor a s'.toJournal) : Within a s s' :=
  of_records hrec (fun _ _ => rfl) (.set ht hnode hnode') (.refl _ _) hj

/-- Both changed. -/
theorem of_task_node {t u : Task} {n : Node} (ht : s.tasks.get? t.id = some t)
    (hnode : t.nodeId = a) (hnode' : u.nodeId = a)
    (hrec : s'.toRecords = { s.toRecords with
      tasks := s.tasks.set t.id u, nodes := s.nodes.set a n })
    (hj : s.toJournal.AppendedFor a s'.toJournal) : Within a s s' :=
  of_records hrec (fun _ hid => Dict.get?_set_ne _ _ hid) (.set ht hnode hnode') (.refl _ _) hj

/-- One of the node's exercises changed. -/
theorem of_exercise {e e' : Exercise} {l : List Notice} (he : s.exercises.get? e.id = some e)
    (hnode : e.nodeId = a) (hsame : e.SameStart e') (hedit : s.Edits w e' s')
    (htold : s.toJournal.Told w l s'.toJournal) (hl : ∀ x ∈ l, x.nodeId = some a) :
    Within a s s' := by
  refine of_records hedit.records (fun _ _ => rfl) (.refl _ _) ?_ (.of_told hedit.journal htold hl)
  rw [hsame.id_eq]
  exact .set he hnode (hsame.node_eq.trans hnode)

/-- The exercises of other nodes stay settled: their tasks are tasks of their own node. -/
theorem settled (h : Within a s s') (hs : Safe w s)
    (hset : ∀ id e, s.exercises.get? id = some e → e.nodeId ≠ a → e.Settled s.tasks) :
    ∀ id e, s'.exercises.get? id = some e → e.nodeId ≠ a → e.Settled s'.tasks := by
  intro id e he hne
  have he₀ : s.exercises.get? id = some e := h.exercises.get?_eq he hne
  have hv := hs.exercise_valid he₀
  have hsame : ∀ x ∈ e.taskIds, s'.tasks.get? x = s.tasks.get? x := by
    intro x hx
    rcases h.tasks x with heq | ⟨t, t', ht, -, hnode, -⟩
    · exact heq
    · obtain ⟨p, hp⟩ := Exercise.exists_planned hv.length_eq hx
      exact absurd ((hv.planned hp ht).2.2.symm.trans hnode) hne
  obtain ⟨hobs, hrec⟩ := hset id e he₀ hne
  refine ⟨fun x hx t ht => hobs x hx t (hsame x hx ▸ ht), fun hnone hall => hrec hnone ?_⟩
  intro x hx
  rw [← hsame x hx]
  exact hall x hx

end Within

/-! ### The refresh -/

/-- One write of a refresh is about an exercise that was not settled. -/
theorem Write.within_refresh (h : Write w s .refresh s') (hs : Safe w s)
    (hset : ∀ id e, s.exercises.get? id = some e → e.nodeId ≠ a → e.Settled s.tasks) :
    Within a s s' := by
  cases h with
  | tick => exact (Within.refl a s).tick
  | failTask hc => rcases hc with hc | hc <;> cases hc
  | @observeEnded e t p he hm hu ht hterm hp =>
    have hnode : e.nodeId = a := by
      by_contra hne
      exact hu ((hset _ e he hne).observed _ hm t ht hterm)
    obtain ⟨e', hedit, hobs⟩ := LabState.observeEnded_edits hs he hm hu ht hp
    obtain ⟨l, hl, habout⟩ := LabState.observeEnded_told (w := w) he t p
    exact .of_exercise he hnode hobs.toExtended.sameStart hedit hl fun x hx =>
      hnode ▸ (habout x hx).1
  | @completeExercise e he hst hc hall =>
    have hnone : e.containment = none := by
      by_contra hcon
      exact hst ((hs.exercise_valid he).contained_iff.mpr hcon)
    have hnode : e.nodeId = a := by
      by_contra hne
      have hrec := (hset _ e he hne).recorded hnone fun x hx => (hall x hx).2
      rw [hc] at hrec; cases hrec
    obtain ⟨e', hedit, hfin⟩ := LabState.completeExercise_edits hs he hc (s.finalStatus e)
    obtain ⟨l, hl, habout⟩ := s.completeExercise_told (w := w) e (s.finalStatus e)
    exact .of_exercise he hnode hfin.toExtended.sameStart hedit hl fun x hx =>
      hnode ▸ (habout x hx).1

/-- A refresh touches the exercises of one node only if those of the others were settled. -/
theorem Writes.within_refresh (h : Writes w [.refresh] s s') (hs : Safe w s)
    (hset : ∀ id e, s.exercises.get? id = some e → e.nodeId ≠ a → e.Settled s.tasks) :
    Within a s s' := by
  suffices hall : Safe w s' ∧ Within a s s' from hall.2
  induction h with
  | refl => exact ⟨hs, .refl a s⟩
  | tail _ hlast ih =>
    obtain ⟨c, hc, hw⟩ := hlast
    obtain rfl := List.mem_singleton.mp hc
    obtain ⟨hs₁, hin⟩ := ih
    exact ⟨hw.safe hs₁ fun hc => (by cases hc),
      hin.trans (hw.within_refresh hs₁ (hin.settled hs hset))⟩

/-! ### Polling -/

theorem LabState.within_wakeNode (n : Node) (now : Instant) (s : LabState) :
    Within n.id s (s.wakeNode w n now) := by
  unfold wakeNode
  split
  · exact .of_node (by simp; rfl) (((Journal.AppendedFor.refl n.id _).tick.record rfl).audit rfl)
  · exact .of_node rfl (Journal.AppendedFor.refl n.id _).tick

theorem LabState.within_heartbeatNode (n : Node) (now : Instant) (s : LabState) :
    Within n.id s (s.heartbeatNode w n now) := by
  unfold heartbeatNode
  split
  · exact .of_node (by simp; rfl) ((Journal.AppendedFor.refl n.id _).record rfl)
  · exact .refl n.id s

/-- The choice of a poll hands out a task of its own node and writes about it alone. -/
theorem deliverTask_within (hs : Safe w s) (a : PyStr) (now : Instant) :
    Prog.wp (deliverTask w a now)
      (fun task s' => Within a s s' ∧ s'.nodes = s.nodes ∧ ∀ r, task = some r → r.nodeId = a)
      (fun _ _ => False) s := by
  unfold deliverTask
  simp only [Prog.wp_bind, Prog.wp_get]
  cases hact : s.activeTask a with
  | some t =>
    obtain ⟨ht, hnode, -⟩ := hs.activeTask_recorded hact
    have hin : Within a s (s.redeliverTask w t) := by
      refine .of_task (u := t.redelivered) ht hnode hnode ?_ ?_
      · simp [LabState.redeliverTask, Task.redelivered]
      · exact (Journal.AppendedFor.refl a _).record (congrArg some hnode)
    have htasks : (s.redeliverTask w t).tasks = s.tasks.set t.id t.redelivered := by
      simp [LabState.redeliverTask, Task.redelivered]
    simp only [Prog.wp_bind, Prog.wp_modify, Prog.wp_get, Prog.wp_pure, htasks,
      Dict.get?_set_self, Option.map_some]
    refine ⟨hin, by simp [LabState.redeliverTask], fun r hr => ?_⟩
    rw [← Option.some.inj hr]
    exact hnode
  | none =>
    cases hnext : s.nextTask a with
    | none => exact ⟨.refl a s, rfl, fun r hr => by cases hr⟩
    | some t =>
      obtain ⟨ht, hnode, -⟩ := hs.nextTask_recorded hnext
      have hin : Within a s (s.dispatchTask w t now) := by
        refine .of_task (u := t.delivered now (w.utcNow s.draws)) ht hnode hnode ?_ ?_
        · simp [LabState.dispatchTask, Task.delivered]
        · exact ((Journal.AppendedFor.refl a _).tick.record (congrArg some hnode)).audit
            (congrArg some hnode)
      have htasks : (s.dispatchTask w t now).tasks =
          s.tasks.set t.id (t.delivered now (w.utcNow s.draws)) := by
        simp [LabState.dispatchTask, Task.delivered]
      simp only [Prog.wp_bind, Prog.wp_modify, Prog.wp_get, Prog.wp_pure, htasks,
        Dict.get?_set_self, Option.map_some]
      refine ⟨hin, by simp [LabState.dispatchTask], fun r hr => ?_⟩
      rw [← Option.some.inj hr]
      exact hnode

theorem pollSession_within (hs : Safe w s) {n : Node} (hn : s.nodes.get? n.id = some n)
    (now : Instant) : Prog.wp (pollSession w n now)
      (fun r s' => Within n.id s s' ∧ ∀ task, r.task = some task → task.nodeId = n.id)
      (fun _ _ => False) s := by
  obtain ⟨m, m', hm, hmid, hbeat, hm', -⟩ := LabState.poll_heard (w := w) hs hn now
  have hin : Within n.id s ((s.wakeNode w n now).heartbeatNode w m now) :=
    (LabState.within_wakeNode n now s).trans (hmid ▸ LabState.within_heartbeatNode m now _)
  have hreply : ∀ (task : Option NodeTask) (s₁ : LabState), s₁.nodes.get? n.id = some m' →
      Within n.id s s₁ → (∀ r, task = some r → r.nodeId = n.id) →
      Prog.wp (pollReply w n.id task)
        (fun r s' => Within n.id s s' ∧ ∀ task, r.task = some task → task.nodeId = n.id)
        (fun _ _ => False) s₁ := by
    intro task s₁ hm₁ hin₁ htask
    unfold pollReply
    simp only [Prog.wp_bind, Prog.wp_get, hm₁, Prog.wp_modify, Prog.wp_pure]
    exact ⟨hin₁.tick, htask⟩
  unfold pollSession
  simp only [Prog.wp_bind, Prog.wp_modify, hm]
  generalize (s.wakeNode w n now).heartbeatNode w m now = s₁ at hbeat hm' hin
  by_cases hp : n.taskingPaused = true
  · rw [if_pos hp]
    exact hreply none s₁ hm' hin fun r hr => by cases hr
  · rw [if_neg hp, Prog.wp_bind]
    refine Prog.wp_imp (deliverTask_within hbeat.safe n.id now) ?_
    rintro task s₂ ⟨hin₂, hnodes, htask⟩
    exact hreply task s₂ (hnodes ▸ hm') (hin.trans hin₂) htask

/-! ### Results -/

theorem LabState.within_rejectResult {r : NodeTask} (hnode : r.nodeId = a) (reason : String)
    (s : LabState) : Within a s (s.rejectResultLocked w r reason) := by
  refine ⟨rfl, fun _ _ => rfl, .refl _ _, .refl _ _, ?_⟩
  exact ((Journal.AppendedFor.refl a _).record (congrArg some hnode)).audit (congrArg some hnode)

/-- An accepted result before the refresh. -/
theorem LabState.within_acceptedResult (hs : Safe w s) {n : Node} {t : Task}
    (ht : s.tasks.get? t.id = some t) (hnode : t.nodeId = n.id) (hd : t.status = .dispatched)
    (status : ResultStatus) (result : Json) (now : Instant) :
    Within n.id s (s.acceptedResult w n t status result now) := by
  have hnode' : some t.nodeId = some n.id := congrArg some hnode
  have hticks := (Journal.AppendedFor.refl n.id s.toJournal).tick.tick
  have hstore : Journal.AppendedFor n.id s.toJournal
      ((s.storeResult w n t status result now).applyCommand n.id t.command status).toJournal := by
    unfold applyCommand applySettings
    split
    · split <;> exact hticks
    · exact hticks
  have hgenerate : Journal.AppendedFor n.id s.toJournal (((s.storeResult w n t status result
      now).applyCommand n.id t.command status).generateEvent w t status).toJournal := by
    unfold generateEvent
    split
    · exact hstore.record hnode'
    · exact hstore
  refine .of_task_node (u := t.ended status.taskStatus result (w.utcNow s.draws) true) ht hnode
    hnode (LabState.acceptedResult_records hs ht hd now) ?_
  exact (hgenerate.record hnode').audit hnode'

theorem submitSession_within (hs : Safe w s) (hset : s.Settled) {n : Node}
    (hn : s.nodes.get? n.id = some n) (taskId status : Json) (sent : Document) (now : Instant) :
    Prog.wp (submitSession w n taskId status sent.1 now)
      (fun r s' => Within n.id s s' ∧ r.nodeId = n.id) (fun _ => Within n.id s) s := by
  refine Prog.wp_mono (submitSession_answers hs hn taskId status sent now) ?_ ?_
  · intro _ _ h
    cases h with
    | replayed hnode => exact ⟨.refl _ s, hnode⟩
    | @accepted t st _ result _ _ _ ht hnode hd hv hcame =>
      have hin := LabState.within_acceptedResult (w := w) hs ht hnode hd st result now
      have hsafe : Safe w (s.acceptedResult w n t st result now) :=
        (Write.acceptedResult hn ht hnode hd hv now).safe hs fun h => by cases h
      refine ⟨hin.trans (hcame.writes.within_refresh hsafe ?_), hnode⟩
      exact hin.settled hs fun id e he _ => hset id e he
  · intro _ _ h
    cases h with
    | same => exact .refl _ s
    | rejected hnode reason => exact LabState.within_rejectResult hnode reason s

/-- A result for what is not the node's own is refused before it is looked at. -/
theorem submitSession_foreign {n : Node} {id : PyStr} (status result : Json) (now : Instant)
    (htask : ∀ t, s.tasks.get? id = some t → t.nodeId ≠ n.id)
    (htomb : s.tasks.get? id = none → ∀ r, s.taskResultTombstones.get? id = some r →
      r.nodeId ≠ n.id) :
    submitSession w n (.str id) status result now s =
      .error (labError "task not found for node" "not_found" 404) s := by
  unfold submitSession
  simp only [bind, EStateM.bind, Prog.get_apply]
  cases ht : s.tasks.get? id with
  | some t => simp only [if_neg (htask t ht)]; rfl
  | none =>
    cases hr : s.taskResultTombstones.get? id with
    | some r => simp only [hr, if_neg (htomb ht r hr)]; rfl
    | none => simp only [hr]; rfl

/-! ### Disconnecting -/

theorem LabState.within_failTask {n : Node} {t : Task} (ht : s.tasks.get? t.id = some t)
    (hnode : t.nodeId = n.id) (reason message : String) :
    Within n.id s (s.failTask w n t reason message) := by
  refine .of_task_node (u := { t with
    status := .failed, result := some (errorResult message)
    completedAt := some (w.utcNow s.draws), deadline := none, queueDeadline := none })
    (n := { n with tasksFailed := n.tasksFailed + 1 }) ht hnode hnode ?_ ?_
  · simp [LabState.failTask]
  · exact ((Journal.AppendedFor.refl n.id _).tick.record rfl).audit rfl

theorem LabState.within_disconnectedNode (n : Node) (previous : NodeStatus) (s : LabState) :
    Within n.id s (s.disconnectedNode w n previous) := by
  refine .of_node (n := { n with
    status := .offline, sessionActive := false, sessionToken := .text (w.token (s.draws + 2)) })
    ?_ ?_
  · simp [LabState.disconnectedNode, Dict.set_set, Journal.draws_recordLocked]
  · exact ((Journal.AppendedFor.refl n.id _).record rfl).tick.audit rfl

/-- Failing what is left of a session touches nothing of the other nodes. -/
theorem failUnfinishedTasks_within (hs : Safe w s) (hset : s.Settled) (a : PyStr)
    (reason message : String) : Prog.wp (failUnfinishedTasksLocked w a reason message)
      (fun _ s' => Safe w s' ∧ Within a s s') (fun _ _ => False) s := by
  unfold failUnfinishedTasksLocked
  simp only [Prog.wp_bind, Prog.wp_get]
  have hloop : Prog.wp (forM s.tasks.keys (failUnfinishedTask w a reason message))
      (fun _ s' => Safe w s' ∧ Within a s s') (fun _ _ => False) s := by
    refine Prog.wp_forM (I := fun s' => Safe w s' ∧ Within a s s') (fun x _ s₁ h₁ => ?_)
      ⟨hs, .refl a s⟩
    obtain ⟨hs₁, hin⟩ := h₁
    unfold failUnfinishedTask
    simp only [Prog.wp_modify]
    cases hm : s₁.nodes.get? a with
    | none => exact ⟨hs₁, hin⟩
    | some m =>
      cases ht : s₁.tasks.get? x with
      | none => exact ⟨hs₁, hin⟩
      | some t =>
        simp only
        by_cases hlive : t.nodeId = a ∧ (t.status = .queued ∨ t.status = .dispatched)
        · rw [if_pos hlive]
          obtain rfl : m.id = a := hs₁.node_key hm
          obtain rfl : t.id = x := hs₁.task_key ht
          have hl : t.status.isTerminal = false := by
            rcases hlive.2 with h | h <;> rw [h] <;> rfl
          have hw : Write w s₁ .disconnect (s₁.failTask w m t reason message) :=
            .failTask (.inr rfl) hm ht hlive.1 hl reason message
          exact ⟨hw.safe hs₁ fun hc => (by cases hc),
            hin.trans (LabState.within_failTask ht hlive.1 reason message)⟩
        · rw [if_neg hlive]
          exact ⟨hs₁, hin⟩
  refine Prog.wp_imp hloop ?_
  rintro _ s₁ ⟨hs₁, hin⟩
  refine Prog.wp_imp (refreshExercisesLocked_wp (Came.refl hs₁ : Came w [.refresh] s₁ s₁)
    (by simp)) ?_
  rintro _ s₂ ⟨hcame, -⟩
  exact ⟨hcame.safe, hin.trans (hcame.writes.within_refresh hs₁
    (hin.settled hs fun id e he _ => hset id e he))⟩

theorem disconnectNode_within (hs : Safe w s) (hset : s.Settled) (a : PyStr) (token : Json) :
    Prog.wp (disconnectNode w (.str a) token) (fun _ => Within a s) (fun _ => Within a s) s := by
  unfold disconnectNode
  rw [Prog.wp_bind]
  refine Prog.wp_mono (requireNodeSession_wp hs (.str a) token) ?_ fun _ _ h => h ▸ .refl a s
  rintro n s ⟨rfl, hsess⟩
  obtain rfl : a = n.id := Json.str.inj hsess.node_eq
  rw [Prog.wp_bind]
  refine Prog.wp_mono (failUnfinishedTasks_within hs hset n.id _ _) ?_ fun _ _ h => h.elim
  rintro _ s₁ ⟨hs₁, hin⟩
  simp only [Prog.wp_bind, Prog.wp_get]
  cases hm : s₁.nodes.get? n.id with
  | none => exact hin
  | some m =>
    have hclosed : Within n.id s (s₁.disconnectedNode w m n.status) :=
      hin.trans (hs₁.node_key hm ▸ LabState.within_disconnectedNode m n.status s₁)
    simp only [Prog.wp_bind, Prog.wp_modify, Prog.wp_get]
    split
    · exact hclosed
    · exact hclosed

/-! ### What the expiry pass leaves in place -/

/-- Only pruning and a reset write tombstones. -/
theorem RecordChange.tombstones {hi : ℕ} {c : Activity} {r : Records}
    (h : RecordChange w s hi c r) (hp : c ≠ .prune) (hr : c ≠ .reset) :
    r.taskResultTombstones = s.taskResultTombstones := by
  cases h <;> first | rfl | exact absurd rfl hp | exact absurd rfl hr

theorem Came.tombstones (h : Came w Activity.expiring s s') (hs : Safe w s) :
    s'.taskResultTombstones = s.taskResultTombstones := by
  refine h.keeps (P := fun m => m.taskResultTombstones = s.taskResultTombstones) hs rfl
    fun {s₁ s₂ c} hc hs₁ hw heq => ((hw.records hs₁).tombstones ?_ ?_).trans heq <;>
    rintro rfl <;> simp [Activity.expiring] at hc

/-- The pass removes no task and hands none to another node. -/
theorem Came.owner (h : Came w Activity.expiring s s') (hs : Safe w s) {id : PyStr} {t : Task}
    (ht : s.tasks.get? id = some t) : ∃ t', s'.tasks.get? id = some t' ∧ t'.nodeId = t.nodeId := by
  refine h.keeps (P := fun m => ∃ t', m.tasks.get? id = some t' ∧ t'.nodeId = t.nodeId) hs
    ⟨t, ht, rfl⟩ fun {s₁ s₂ c} hc hs₁ hw ⟨t₁, ht₁, hnode⟩ => ?_
  have hchange := (hw.records hs₁).task id
  generalize s₂.tasks.get? id = x at hchange
  cases hchange with
  | same => exact ⟨t₁, ht₁, hnode⟩
  | @edited _ t₂ t₃ ht₂ _ he =>
    rw [ht₁, Option.some.injEq] at ht₂
    subst ht₂
    exact ⟨t₃, rfl, (congrArg Task.nodeId he.request_eq).trans hnode⟩
  | added | pruned | cleared => simp [Activity.expiring] at hc

/-! ### Node isolation -/

theorem pollNode_within (a : PyStr) (token : Json) {now : Instant} {m : LabState}
    (hexp : expire w now s = .ok ⟨⟩ m) (hm : Safe w m) :
    Prog.wp (pollNode w (.str a) token now)
      (fun r s' => Within a m s' ∧ ∀ task, r.task = some task → task.nodeId = a)
      (fun _ => Within a m) s := by
  unfold pollNode
  rw [Prog.wp_bind, Prog.wp_run (show expireLocked w now s = .ok ⟨⟩ m from hexp), Prog.wp_bind]
  refine Prog.wp_mono (requireNodeSession_wp hm (.str a) token) ?_ fun _ _ h => h ▸ .refl a m
  rintro n m ⟨rfl, hsess⟩
  obtain rfl : a = n.id := Json.str.inj hsess.node_eq
  exact Prog.wp_mono (pollSession_within hm hsess.recorded now) (fun _ _ h => h) fun _ _ h => h.elim

theorem submitResult_within (a : PyStr) (token taskId status : Json) (sent : Document)
    {now : Instant} {m : LabState} (hexp : expire w now s = .ok ⟨⟩ m) (hm : Safe w m)
    (hset : m.Settled) : Prog.wp (submitResult w (.str a) token taskId status sent.1 now)
      (fun r s' => Within a m s' ∧ r.nodeId = a) (fun _ => Within a m) s := by
  unfold submitResult
  rw [Prog.wp_bind, Prog.wp_run (show expireLocked w now s = .ok ⟨⟩ m from hexp), Prog.wp_bind]
  refine Prog.wp_mono (requireNodeSession_wp hm (.str a) token) ?_ fun _ _ h => h ▸ .refl a m
  rintro n m ⟨rfl, hsess⟩
  obtain rfl : a = n.id := Json.str.inj hsess.node_eq
  exact submitSession_within hm hset hsess.recorded taskId status sent now

/-- Node isolation. A poll and a result of node `a` do what the expiry pass does and then change
    nothing but what belongs to `a`, a disconnection does only that, the task they return is one of
    `a`, and a result for a task or a tombstone of another node is not found, whatever it says. -/
theorem node_isolation (hr : Reachable w s) (a : PyStr) (token : Json) :
    (∀ now, ∃ m, expire w now s = .ok ⟨⟩ m ∧
      Within a m (step w s (.pollNode (.str a) token now)) ∧
      (∀ taskId status sent,
        Within a m (step w s (.submitResult (.str a) token taskId status sent now))) ∧
      ∀ n, m.Session (.str a) token n → ∀ id,
        (∃ t, s.tasks.get? id = some t ∧ t.nodeId ≠ a) ∨
          (∃ r, s.taskResultTombstones.get? id = some r ∧ r.nodeId ≠ a) →
        ∀ status result, submitResult w (.str a) token (.str id) status result now s =
          .error (labError "task not found for node" "not_found" 404) m) ∧
    Within a s (step w s (.disconnectNode (.str a) token)) ∧
    (∀ now reply s' task, pollNode w (.str a) token now s = .ok reply s' →
      reply.task = some task → task.nodeId = a) ∧
    ∀ taskId status (sent : Document) now reply s',
      submitResult w (.str a) token taskId status sent.1 now s = .ok reply s' →
      reply.nodeId = a := by
  obtain ⟨hs, hset⟩ := hr.sound
  have hexpired : ∀ now, ∃ m, expire w now s = .ok ⟨⟩ m ∧ Came w Activity.expiring s m ∧
      m.Settled := fun now => by
    obtain ⟨_, m, hexp, hcame, hset', -⟩ := Prog.exists_ok (expireLocked_punctual now hs)
    exact ⟨m, hexp, hcame, hset'⟩
  -- the state an operation leaves, whichever way it ends
  have hfinal : ∀ {α : Type} {m₀ : LabState} {Q : α → Prop} (p : Lab α),
      Prog.wp p (fun r s' => Within a m₀ s' ∧ Q r) (fun _ => Within a m₀) s →
      Within a m₀ (Prog.final ((fun _ => ()) <$> p) s) := by
    intro α m₀ Q p h
    refine Prog.wp_final (R := Within a m₀).mp ((Prog.wp_map _ _).mpr ?_)
    exact Prog.wp_mono h (fun _ _ h => h.1) fun _ _ h => h
  refine ⟨fun now => ?_, ?_, fun now reply s' task hok htask => ?_,
    fun taskId status sent now reply s' hok => ?_⟩
  · obtain ⟨m, hexp, hcame, hset'⟩ := hexpired now
    refine ⟨m, hexp, hfinal _ (pollNode_within a token hexp hcame.safe), fun taskId status sent =>
      hfinal _ (submitResult_within a token taskId status sent hexp hcame.safe hset'),
      fun n hsess id hforeign status result => ?_⟩
    obtain rfl : a = n.id := Json.str.inj hsess.node_eq
    have hsub : submitSession w n (.str id) status result now m =
        .error (labError "task not found for node" "not_found" 404) m := by
      refine submitSession_foreign status result now (fun t ht => ?_) fun hnone r hr => ?_ <;>
        rcases hforeign with ⟨t₀, ht₀, hne⟩ | ⟨r₀, hr₀, hne⟩
      · obtain ⟨t', ht', hnode⟩ := hcame.owner hs ht₀
        rw [ht, Option.some.injEq] at ht'
        rwa [ht', hnode]
      · -- a task with a tombstone is gone
        have hgone := (hcame.safe.tombstones _ _ (hcame.tombstones hs ▸ hr₀)).pruned
        rw [ht] at hgone; cases hgone
      · obtain ⟨t', ht', -⟩ := hcame.owner hs ht₀
        rw [hnone] at ht'; cases ht'
      · rw [hcame.tombstones hs, hr₀, Option.some.injEq] at hr
        rwa [← hr]
    rw [submitResult_session hs hexp hsess, hsub]
  · refine hfinal (Q := fun _ => True) _ ?_
    exact Prog.wp_mono (disconnectNode_within hs hset a token) (fun _ _ h => ⟨h, trivial⟩)
      fun _ _ h => h
  · obtain ⟨m, hexp, hcame, -⟩ := hexpired now
    have hwp := pollNode_within a token hexp hcame.safe
    rw [Prog.wp_run hok] at hwp
    exact hwp.2 task htask
  · obtain ⟨m, hexp, hcame, hset'⟩ := hexpired now
    have hwp := submitResult_within a token taskId status sent hexp hcame.safe hset'
    rw [Prog.wp_run hok] at hwp
    exact hwp.2

/-- A Node with one queued task polls: its task is dispatched, and nothing else was touched. -/
theorem node_isolation_polled :
    let s := exec .counting (.init "stream") [Counting.enroll, Counting.queue .ping (.obj [])]
    let s' := step .counting s (Counting.poll 11)
    s'.tasks.values.map (·.status) = [.dispatched] ∧
      ∃ m, expire .counting 11 s = .ok ⟨⟩ m ∧ Within (World.counting.nodeId 0) m s' := by
  intro s s'
  refine ⟨by decide +kernel, ?_⟩
  have hr : Reachable .counting s := World.counting_reachable "stream" _ (by decide +kernel)
  obtain ⟨m, hexp, hin, -⟩ := (node_isolation hr (World.counting.nodeId 0) Counting.token).1 11
  exact ⟨m, hexp, hin⟩

end C2Lab
