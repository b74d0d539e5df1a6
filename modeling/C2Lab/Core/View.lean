import C2Lab.Core.Evidence

/-! Every write is a record change and quiet growth of the journal. -/

namespace C2Lab

variable {w : World} {s s' : LabState} {e : Exercise}

namespace Exercise

variable {tasks : Dict PyStr Task}

theorem plan_fst (hl : e.taskIds.length = (scenarioDefinition e.scenarioId).playbooks.length) :
    e.plan.map Prod.fst = e.taskIds := List.map_fst_zip (by omega)

theorem exists_planned (hl : e.taskIds.length = (scenarioDefinition e.scenarioId).playbooks.length)
    {id : PyStr} (h : id ∈ e.taskIds) : ∃ p, (id, p) ∈ e.plan := Plan.exists_mem_zip hl h

theorem mem_of_planned {id : PyStr} {p : Playbook} (h : (id, p) ∈ e.plan) : id ∈ e.taskIds :=
  Plan.mem_left_of_mem_zip h

/-- A task of a stored exercise is planned with the playbook its record names. -/
theorem Valid.planned_of_command (h : e.Valid tasks) {t : Task} {p : Playbook}
    (hm : t.id ∈ e.taskIds) (ht : tasks.get? t.id = some t) (hp : t.command = .runPlaybook p) :
    (t.id, p) ∈ e.plan := by
  obtain ⟨q, hq⟩ := exists_planned h.length_eq hm
  have hcmd := (h.planned hq ht).1
  rw [hp, Command.runPlaybook.injEq] at hcmd
  exact hcmd ▸ hq

theorem rule_playbook {sc : ScenarioId} {p : Playbook} {r : DetectionRule}
    (h : r ∈ detectionsForPlaybook sc p) : r.playbook = p := (mem_detectionsForPlaybook.mp h).2

theorem rule_eq_of_id {sc : ScenarioId} {p q : Playbook} {r r' : DetectionRule}
    (h : r ∈ detectionsForPlaybook sc p) (h' : r' ∈ detectionsForPlaybook sc q)
    (hid : r.id = r'.id) : r = r' :=
  List.inj_on_of_nodup_map (detection_ids_nodup sc) (mem_detectionsForPlaybook.mp h).1
    (mem_detectionsForPlaybook.mp h').1 hid

theorem detections_nodup (sc : ScenarioId) (p : Playbook) :
    ((detectionsForPlaybook sc p).map (·.id)).Nodup :=
  (detection_ids_nodup sc).sublist (List.filter_sublist.map _)

theorem matchedRules_sub {t : Task} {p : Playbook} {r : DetectionRule}
    (h : r ∈ matchedRules e t p) : r ∈ detectionsForPlaybook e.scenarioId p := by
  unfold matchedRules at h
  split at h
  · exact h
  · simp at h

theorem matchedRules_nodup (t : Task) (p : Playbook) :
    ((matchedRules e t p).map (·.id)).Nodup := by
  unfold matchedRules
  split
  · exact detections_nodup _ _
  · simp

/-- Observing a task costs at most its share of the timeline. -/
theorem evidence_cost (e : Exercise) (t : Task) (p : Playbook) :
    (evidenceItems e.scenarioId t p).length + (matchedRules e t p).length ≤
      cost e.scenarioId p := by
  unfold evidenceItems matchedRules cost
  split <;> split <;> simp <;> omega

/-- The rules of a task that is not observed yet have no alert. -/
theorem Valid.rules_new (h : e.Valid tasks) {t : Task} {p : Playbook} (hpl : (t.id, p) ∈ e.plan)
    (hu : t.id ∉ e.observedTaskIds) :
    ∀ r ∈ detectionsForPlaybook e.scenarioId p, ∀ a ∈ e.alerts, a.rule.id ≠ r.id := by
  intro r hr a ha hid
  obtain ⟨hobs, q, hq, har⟩ := h.alerts_planned a ha
  have hrule := rule_eq_of_id har hr hid
  have hqp : q = p := by rw [← rule_playbook har, hrule, rule_playbook hr]
  subst hqp
  have := Plan.zip_left_unique (playbooks_nodup e.scenarioId) hq hpl
  exact hu (this ▸ hobs)

/-- An unobserved task finds room on the timeline. -/
theorem Valid.room_unobserved (h : e.Valid tasks) {id : PyStr} {p : Playbook}
    (hpl : (id, p) ∈ e.plan) (hu : id ∉ e.observedTaskIds) :
    e.timeline.length + cost e.scenarioId p ≤ maxExerciseTimeline := by
  have hroom := h.room
  have hle := Plan.le_owed (c := fun x => cost e.scenarioId x.2) hpl hu
  unfold reserve at hroom
  simp only at hle
  omega

end Exercise

namespace LabState

open Exercise

/-- What observing an ended task does to its exercise. -/
theorem observeEnded_edits (hs : Safe w s) {t : Task} {p : Playbook}
    (he : s.exercises.get? e.id = some e) (hm : t.id ∈ e.taskIds)
    (hu : t.id ∉ e.observedTaskIds) (ht : s.tasks.get? t.id = some t)
    (hp : t.command = .runPlaybook p) :
    ∃ e', s.Edits w e' (s.observeEnded w e t p) ∧ e.Observed t p e' := by
  have hv := hs.exercise_valid he
  have hpl := hv.planned_of_command hm ht hp
  have hroom := hv.room_unobserved hpl hu
  have hcost := evidence_cost e t p
  set e₁ : Exercise := { e with observedTaskIds := e.observedTaskIds ++ [t.id] } with he₁
  have hobs : s.observeTask e.id t.id = s.setExercise e₁ := by rw [observeTask, he]
  have hwrite : s.Edits w e₁ (s.observeTask e.id t.id) := hobs ▸ .write rfl .refl
  obtain ⟨e₂, hedit, happ⟩ := foldl_append_edits w (evidenceItems e.scenarioId t p) hwrite.get?
    (by simp only [he₁]; omega)
  have hlen := happ.length_eq
  obtain ⟨e₃, hedit', hal⟩ := foldl_match_edits w t.id (matchedRules e t p)
    hedit.get? (matchedRules_nodup t p)
    (by
      rw [happ.alerts_eq.1]
      exact fun r hr => hv.rules_new hpl hu r (matchedRules_sub hr))
    (by rw [hlen]; simp only [he₁]; omega)
  have hid : e₂.id = e.id := happ.id_eq
  rw [hid] at hedit'
  refine ⟨e₃, (hwrite.trans hedit happ.id_eq).trans hedit' hal.id_eq, ?_⟩
  obtain ⟨h1, h2, h3, h4, h5, h6, h7⟩ := happ.toExtended.trans hal.toExtended
  refine ⟨⟨h1, h2, h3, h4, h5, h6, h7⟩, ?_, ?_, ?_, ?_, ?_, ?_⟩
  · rw [hal.observed_eq, happ.observed_eq]
  · rw [hal.status_eq, happ.status_eq]
  · rw [hal.containment_eq, happ.containment_eq]
  · exact ⟨hal.completion_eq.1.trans happ.completion_eq.1,
      hal.completion_eq.2.trans happ.completion_eq.2⟩
  · rw [hal.detected_eq, happ.alerts_eq.2]
  · obtain ⟨new, heq, hrest⟩ := hal.alerts_eq
    exact ⟨new, by rw [heq, happ.alerts_eq.1], hrest⟩

/-- What recording the completion does to an exercise. -/
theorem completeExercise_edits (hs : Safe w s) (he : s.exercises.get? e.id = some e)
    (hc : e.completionRecorded = false) (status : ExerciseStatus) :
    ∃ e', s.Edits w e' (s.completeExercise w e status) ∧ e.Finished status e' := by
  have hroom := (hs.exercise_valid he).room
  rw [reserve, if_neg (by simp [hc])] at hroom
  set e₁ : Exercise := { e with
    completionRecorded := true, status := status, completedAt := some (w.utcNow s.draws) } with he₁
  have hwrite : s.Edits w e₁ (s.tick.setExercise e₁) := .write rfl (.tick .refl)
  obtain ⟨e₂, hedit, happ⟩ := append_edits w (completionItem status) hwrite.get?
    (by simp only [he₁]; omega)
  refine ⟨e₂, ((hwrite.trans hedit happ.id_eq).record (by simp [Quiet])).audit _, ?_⟩
  obtain ⟨h1, h2, h3, h4, h5, h6, h7⟩ := happ.toExtended
  refine ⟨⟨h1, h2, h3, h4, h5, h6, h7⟩, happ.observed_eq, happ.status_eq, happ.containment_eq,
    ⟨happ.completion_eq.1, ?_⟩, happ.alerts_eq⟩
  rw [happ.completion_eq.2]; rfl

/-- What cancelling a queued task of a contained exercise does to the exercise: `t'` is the record
    of the cancelled task. -/
theorem containTask_edits (hs : Safe w s) (s₁ : LabState) {t : Task} (t' : Task) {p : Playbook}
    (he : s.exercises.get? e.id = some e) (hex : s₁.exercises = s.exercises)
    (hm : t.id ∈ e.taskIds) (hu : t.id ∉ e.observedTaskIds) (ht : s.tasks.get? t.id = some t)
    (hp : t.command = .runPlaybook p) (hid : t'.id = t.id) (hc : t'.status = .cancelled)
    (actor : PyStr) :
    ∃ e', s₁.Edits w e' (s₁.containTask w e.id t p actor) ∧ e.Observed t' p e' := by
  have hv := hs.exercise_valid he
  have hpl := hv.planned_of_command hm ht hp
  have hroom := hv.room_unobserved hpl hu
  unfold cost at hroom
  have hitem : LabState.endedItem t' p = endedItem { t with status := .cancelled } p := by
    simp only [endedItem, hid, hc]
  have hitems : evidenceItems e.scenarioId t' p = [endedItem t' p] := by
    simp [evidenceItems, hc]
  have hrules : matchedRules e t' p = [] := by simp [matchedRules, hc]
  obtain ⟨e₁, hedit, happ⟩ := append_edits w (endedItem t' p) (hex ▸ he) (by omega)
  set e₂ : Exercise := { e₁ with observedTaskIds := e₁.observedTaskIds ++ [t.id] } with he₂
  have hobs : (s₁.appendExerciseTimelineLocked w e.id (endedItem t' p)).observeTask e.id t.id =
      (s₁.appendExerciseTimelineLocked w e.id (endedItem t' p)).setExercise e₂ := by
    have := hedit.get?
    rw [happ.id_eq] at this
    rw [observeTask, this]
  refine ⟨e₂, ?_, ?_⟩
  · have hall := hedit.trans (.write (e := e₂) rfl .refl) rfl
    rw [← hobs, hitem] at hall
    exact (hall.record (by simp [Quiet])).audit _
  · obtain ⟨h1, h2, h3, h4, h5, h6, h7⟩ := happ.toExtended
    refine ⟨⟨h1, h2, h3, h4, h5, ?_, ?_⟩, ?_, happ.status_eq, happ.containment_eq,
      happ.completion_eq, ?_, [], ?_⟩
    · rw [hitems, hrules]; exact h6
    · rw [hitems, hrules]; exact h7
    · rw [he₂, happ.observed_eq, hid]
    · rw [hrules]; simpa using happ.alerts_eq.2
    · rw [hrules]; simpa using happ.alerts_eq.1

/-- What containment does to an exercise. -/
theorem applyContainment_edits (hs : Safe w s) (he : s.exercises.get? e.id = some e)
    (hc : e.status ≠ .contained) (action : ContainmentAction) (actor : PyStr) :
    ∃ e', s.Edits w e' (s.applyContainment w e action actor) ∧ e.Contained action e' := by
  have hv := hs.exercise_valid he
  have hroom := hv.room
  have hnone : e.containment = none := by
    by_contra hne
    exact hc (hv.contained_iff.mpr hne)
  rw [reserve, if_pos hnone] at hroom
  unfold applyContainment
  set e₁ : Exercise := { e with
    status := .contained
    completedAt := e.completedAt.orElse fun _ => some (w.utcNow s.draws)
    containment := some { action := action, actor := actor, time := w.utcNow s.draws }
    alerts := e.alerts.map (Alert.contain (w.utcNow s.draws)) } with he₁
  have hwrite : s.Edits w e₁ (s.tick.setExercise e₁) := .write rfl (.tick .refl)
  obtain ⟨e₂, hedit, happ⟩ := append_edits w (containmentItem action) hwrite.get?
    (by simp only [he₁]; omega)
  refine ⟨e₂, ((hwrite.trans hedit happ.id_eq).record (by simp [Quiet])).audit _, ?_⟩
  obtain ⟨h1, h2, h3, h4, h5, h6, h7⟩ := happ.toExtended
  refine ⟨⟨h1, h2, h3, h4, h5, h6, h7⟩, happ.observed_eq, happ.status_eq, ?_,
    ⟨happ.completion_eq.1, ?_⟩, happ.alerts_eq.2, w.utcNow s.draws, happ.alerts_eq.1⟩
  · rw [happ.containment_eq]; rfl
  · rw [happ.completion_eq.2, he₁]
    cases e.completedAt <;> rfl

end LabState

/-! ### The record change of each write -/

/-- Only the journal changed. -/
theorem RecordChange.same (c : Activity) (h : s'.toRecords = s.toRecords) :
    RecordChange w s s'.draws c s'.toRecords :=
  h ▸ .kept c

theorem RecordChange.of_eq {hi : ℕ} {c : Activity} {r r' : Records}
    (h : RecordChange w s hi c r) (he : r' = r) : RecordChange w s hi c r' := he ▸ h

/-- A task of an exercise that is still queued was not observed. -/
theorem Exercise.Valid.unobserved_of_live {tasks : Dict PyStr Task} (h : e.Valid tasks) {t : Task}
    (ht : tasks.get? t.id = some t) (hl : t.status.isTerminal = false) :
    t.id ∉ e.observedTaskIds := fun hm => by
  rw [h.observed_ended _ hm t ht] at hl; cases hl

/-- The node charged by `timeoutTask` is found under its own identifier. -/
theorem LabState.nodes_countFailure (nodeId : PyStr) (s : LabState) :
    (s.countFailure nodeId).toRecords =
      { s.toRecords with nodes := chargeFailure s.nodes nodeId } := by
  unfold countFailure chargeFailure
  cases s.nodes.get? nodeId <;> rfl

@[simp] theorem LabState.toRecords_generateEvent (w : World) (t : Task) (status : ResultStatus)
    (s : LabState) : (s.generateEvent w t status).toRecords = s.toRecords := by
  unfold generateEvent
  split <;> simp

theorem LabState.toRecords_applyCommand {n : Node} (hn : s.nodes.get? n.id = some n)
    (command : Command) (status : ResultStatus) :
    (s.applyCommand n.id command status).toRecords =
      { s.toRecords with nodes := s.nodes.set n.id { n with
        pollIntervalMs := (settingsAfter n command status).1
        jitterPercent := (settingsAfter n command status).2 } } := by
  unfold applyCommand settingsAfter
  split
  · simp [applySettings, hn]
  · simp [Dict.set_self hn]

theorem Task.WellFormed.not_accepted {t : Task} (h : t.WellFormed w)
    (hl : t.status.isTerminal = false) : t.resultAccepted = false := by
  by_contra hne
  rcases h.accepted_ended (by simpa using hne) with h | h <;> simp [h, TaskStatus.isTerminal] at hl

/-- The records once a result was accepted. -/
theorem LabState.acceptedResult_records (hs : Safe w s) {n : Node} {t : Task}
    {status : ResultStatus} {result : Json} (ht : s.tasks.get? t.id = some t)
    (hd : t.status = .dispatched) (now : Instant) :
    (s.acceptedResult w n t status result now).toRecords = { s.toRecords with
      tasks := s.tasks.set t.id (t.ended status.taskStatus result (w.utcNow s.draws) true)
      nodes := s.nodes.set n.id (n.credited t.command status (w.utcNow (s.draws + 1)) now) } := by
  have hq := ((hs.task_wf ht).dispatched hd).2.1
  simp only [LabState.acceptedResult, LabState.announceResult, LabState.toRecords_auditLocked,
    LabState.toRecords_recordLocked, LabState.toRecords_generateEvent]
  rw [LabState.toRecords_applyCommand (n := { n with
    lastSeen := w.utcNow (s.draws + 1), lastSeenMonotonic := now
    tasksCompleted := n.tasksCompleted + (if status = .completed then 1 else 0)
    tasksFailed := n.tasksFailed + (if status = .completed then 0 else 1) })
    (by simp [LabState.storeResult])]
  simp [LabState.storeResult, Task.ended, hq, Dict.set_set, Node.credited, settingsAfter]

/-- The records once containment cancelled a queued task. -/
theorem LabState.cancelContained_records (hs : Safe w s) {t : Task} {p : Playbook}
    (he : s.exercises.get? e.id = some e) (hm : t.id ∈ e.taskIds)
    (ht : s.tasks.get? t.id = some t) (hq : t.status = .queued)
    (hp : t.command = .runPlaybook p) (actor : PyStr) :
    ∃ e', e.Observed (t.ended .cancelled (reasonResult "exercise_contained")
      (w.utcNow s.draws) false) p e' ∧
      (s.cancelContained w e.id t p actor).toRecords = { s.toRecords with
        tasks := s.tasks.set t.id (t.ended .cancelled (reasonResult "exercise_contained")
          (w.utcNow s.draws) false)
        exercises := s.exercises.set e.id e' } := by
  have hd := ((hs.task_wf ht).queued hq).2.1
  have ha := (hs.task_wf ht).not_accepted (by rw [hq]; rfl)
  have hu := (hs.exercise_valid he).unobserved_of_live ht (by rw [hq]; rfl)
  obtain ⟨e', hedit, hcan⟩ := LabState.containTask_edits hs (s.containedTask w t)
    (t.ended .cancelled (reasonResult "exercise_contained") (w.utcNow s.draws) false)
    he rfl hm hu ht hp rfl rfl actor
  refine ⟨e', hcan, ?_⟩
  rw [LabState.cancelContained, hedit.records, hcan.id_eq]
  simp [LabState.containedTask, Task.ended, hd, ha]

theorem LabState.toRecords_addTask (spec : TaskSpec) (now : Instant) (reason : Option String)
    (s : LabState) : (s.addTask w spec now reason).toRecords = { s.toRecords with
      tasks := s.tasks.set (w.taskId s.draws) (s.newTask w spec now)
      taskSequence := s.taskSequence + 1 } := by
  simp only [LabState.addTask, LabState.announceTask, LabState.toRecords_auditLocked,
    LabState.toRecords_recordLocked]
  split <;> rfl

theorem LabState.draws_le_addTask (spec : TaskSpec) (now : Instant) (reason : Option String)
    (s : LabState) : s.draws + 3 ≤ (s.addTask w spec now reason).draws := by
  simp only [LabState.addTask, LabState.announceTask, LabState.toJournal_auditLocked,
    LabState.toJournal_recordLocked, Journal.draws_auditLocked, Journal.draws_recordLocked]
  split <;> simp only [LabState.insertTask, LabState.tick] <;> omega

section changes

variable {n : Node} {t : Task} {c : Activity}

theorem LabState.expireTask_change (hs : Safe w s) (ht : s.tasks.get? t.id = some t)
    (hq : t.status = .queued) :
    RecordChange w s (s.expireTask w t).draws .expiry (s.expireTask w t).toRecords := by
  have hd := ((hs.task_wf ht).queued hq).2.1
  have ha := (hs.task_wf ht).not_accepted (by rw [hq]; rfl)
  have hends : EndsAs .expiry t.status .expired := by rw [hq]; exact .expired
  refine .of_eq (.endedTask hends ht (reasonResult "queue_ttl_exceeded") (w.utcNow s.draws)) ?_
  simp [LabState.expireTask, Task.ended, hd, ha]

theorem LabState.timeoutTask_change (hs : Safe w s) (ht : s.tasks.get? t.id = some t)
    (hd : t.status = .dispatched) :
    RecordChange w s (s.timeoutTask w t).draws .expiry (s.timeoutTask w t).toRecords := by
  have hq := ((hs.task_wf ht).dispatched hd).2.1
  have ha := (hs.task_wf ht).not_accepted (by rw [hd]; rfl)
  have hfails : FailsAs .expiry t.status .timeout := by rw [hd]; exact .timeout
  refine .of_eq (.failedTask hfails ht
    (errorResult "node did not return before the task deadline") (w.utcNow s.draws)) ?_
  simp [LabState.timeoutTask, LabState.nodes_countFailure, Task.ended, hq, ha]

/-- A live task fails with its session, by the expiry pass or by a disconnect. -/
theorem FailsAs.of_live {status : TaskStatus} (hc : c = .expiry ∨ c = .disconnect)
    (hl : status.isTerminal = false) : FailsAs c status .failed := by
  cases status with
  | queued =>
    rcases hc with rfl | rfl
    · exact .expiredQueued
    · exact .closedQueued
  | dispatched =>
    rcases hc with rfl | rfl
    · exact .expiredDispatched
    · exact .closedDispatched
  | _ => cases hl

theorem LabState.failTask_change (hs : Safe w s) (hc : c = .expiry ∨ c = .disconnect)
    (hn : s.nodes.get? n.id = some n) (ht : s.tasks.get? t.id = some t) (hnode : t.nodeId = n.id)
    (hl : t.status.isTerminal = false) (reason message : String) :
    RecordChange w s (s.failTask w n t reason message).draws c
      (s.failTask w n t reason message).toRecords := by
  have ha := (hs.task_wf ht).not_accepted hl
  refine .of_eq (.failedTask (.of_live hc hl) ht (errorResult message) (w.utcNow s.draws)) ?_
  simp [LabState.failTask, Task.ended, chargeFailure, hnode, hn, ha]

theorem LabState.closeSession_change (hn : s.nodes.get? n.id = some n) (ho : n.status = .offline)
    (hl : s.NoLiveTask n.id) :
    RecordChange w s (s.closeSession w n).draws .expiry (s.closeSession w n).toRecords := by
  refine .of_eq (.closedNode (.inl rfl) hn hl le_rfl ?_) ?_
  · simp only [LabState.closeSession, LabState.toJournal_auditLocked, LabState.tick,
      LabState.toJournal_recordLocked, LabState.toJournal_setNode, Journal.draws_recordLocked,
      Journal.draws_auditLocked]
    omega
  · simp [LabState.closeSession, ho]

theorem LabState.disconnectedNode_change (hn : s.nodes.get? n.id = some n)
    (hl : s.NoLiveTask n.id) :
    RecordChange w s (s.disconnectedNode w n n.status).draws .disconnect
      (s.disconnectedNode w n n.status).toRecords := by
  refine .of_eq (.closedNode (.inr rfl) hn hl (k := s.draws + 2) (by omega) ?_) ?_
  · simp [LabState.disconnectedNode, LabState.tick, Journal.draws_recordLocked,
      Journal.draws_auditLocked]
  · simp [LabState.disconnectedNode, Dict.set_set, Journal.draws_recordLocked]

theorem LabState.wakeNode_change (hn : s.nodes.get? n.id = some n) (now : Instant) :
    RecordChange w s (s.wakeNode w n now).draws .poll (s.wakeNode w n now).toRecords := by
  refine .of_eq (.touchedNode (.inr (.inl rfl)) hn id .online (w.utcNow s.draws) now
    n.lastHeartbeatEvent n.taskingPausedAt n.taskingPausedBy) ?_
  unfold LabState.wakeNode
  split <;> simp

theorem LabState.heartbeatNode_change (hn : s.nodes.get? n.id = some n) (now : Instant) :
    RecordChange w s (s.heartbeatNode w n now).draws .poll
      (s.heartbeatNode w n now).toRecords := by
  unfold LabState.heartbeatNode
  split
  · refine .of_eq (.touchedNode (.inr (.inl rfl)) hn id n.status n.lastSeen
      n.lastSeenMonotonic now n.taskingPausedAt n.taskingPausedBy) ?_
    simp
  · exact .same _ rfl

theorem LabState.addNode_change {e : Enrollment}
    {name version profile capabilities interval jitter : Json}
    (hv : validateEnrollment w.toInterp name version profile capabilities interval jitter = .ok e)
    (now : Instant) : RecordChange w s (s.addNode w (s.newNode w e now)).draws .enroll
      (s.addNode w (s.newNode w e now)).toRecords := by
  refine .of_eq (.addedNode hv now ?_) ?_
  · simp [LabState.addNode, LabState.tick, Journal.draws_recordLocked, Journal.draws_auditLocked]
  · simp [LabState.addNode, LabState.newNode]

theorem LabState.pruneTerminalTaskLocked_change (ht : s.tasks.get? t.id = some t)
    (hterm : t.status.isTerminal = true)
    (hr : taskIsRequiredByRunningExerciseLocked t s = false) :
    RecordChange w s (s.pruneTerminalTaskLocked w t).draws .prune
      (s.pruneTerminalTaskLocked w t).toRecords := by
  refine .of_eq (.prunedTask ht hterm hr) ?_
  simp only [LabState.pruneTerminalTaskLocked, LabState.toRecords_auditLocked,
    LabState.toRecords_recordLocked]
  unfold LabState.rememberTaskResultTombstoneLocked
  split <;> rfl

theorem LabState.cancelledTask_change (hs : Safe w s) (ht : s.tasks.get? t.id = some t)
    (hq : t.status = .queued) (actor : PyStr) :
    RecordChange w s (s.cancelledTask w t actor).draws .cancel
      (s.cancelledTask w t actor).toRecords := by
  have hd := ((hs.task_wf ht).queued hq).2.1
  have ha := (hs.task_wf ht).not_accepted (by rw [hq]; rfl)
  have hends : EndsAs .cancel t.status .cancelled := by rw [hq]; exact .cancelled
  refine .of_eq (.endedTask hends ht (reasonResult "operator_cancelled") (w.utcNow s.draws)) ?_
  simp [LabState.cancelledTask, Task.ended, hd, ha]

end changes

/-- Every write is one of the changes of the records. -/
theorem Write.records (hs : Safe w s) {c : Activity} (h : Write w s c s') :
    RecordChange w s s'.draws c s'.toRecords := by
  cases h with
  | tick => exact .same c rfl
  | expireTask ht hq => exact LabState.expireTask_change hs ht hq
  | timeoutTask ht hd => exact LabState.timeoutTask_change hs ht hd
  | failTask hc hn ht hnode hl reason message =>
    exact LabState.failTask_change hs hc hn ht hnode hl reason message
  | @staleNode n hn ho =>
    refine .of_eq (.touchedNode (.inl rfl) hn id .offline n.lastSeen n.lastSeenMonotonic
      n.lastHeartbeatEvent n.taskingPausedAt n.taskingPausedBy) ?_
    simp [LabState.staleNode]
  | closeSession hn ho _ hl => exact LabState.closeSession_change hn ho hl
  | @observeEnded e t p he hm hu ht hterm hp =>
    obtain ⟨e', hedit, hobs⟩ := LabState.observeEnded_edits hs he hm hu ht hp
    refine .of_eq (.observedTask he hm hu ht hterm hp hobs) ?_
    rw [hedit.records, hobs.id_eq]
  | @completeExercise e he hst hc hall =>
    obtain ⟨e', hedit, hfin⟩ := LabState.completeExercise_edits hs he hc (s.finalStatus e)
    refine .of_eq (.finishedExercise he hst hc hall hfin) ?_
    rw [hedit.records, hfin.id_eq]
  | wakeNode hn now => exact LabState.wakeNode_change hn now
  | heartbeatNode hn now => exact LabState.heartbeatNode_change hn now
  | redeliverTask ht hd => exact .of_eq (.redeliveredTask ht hd) (by simp [LabState.redeliverTask])
  | dispatchTask ht hq hturn now =>
    exact .of_eq (.dispatchedTask ht hq hturn now (w.utcNow s.draws))
      (by simp [LabState.dispatchTask])
  | rejectResult r reason => exact .same _ (by simp [LabState.rejectResultLocked])
  | acceptedResult hn ht hnode hd hv now =>
    exact .of_eq (.acceptedTask hn ht hnode hd hv (w.utcNow s.draws) (w.utcNow (s.draws + 1)) now)
      (LabState.acceptedResult_records hs ht hd now)
  | disconnectedNode hn hl => exact LabState.disconnectedNode_change hn hl
  | pruneNode hn hc => exact .of_eq (.prunedNode hn hc) (by simp [LabState.pruneNode])
  | addNode hv now => exact LabState.addNode_change hv now
  | pruneTask ht hterm hr => exact LabState.pruneTerminalTaskLocked_change ht hterm hr
  | @addTask spec n ha now reason =>
    refine .of_eq (.addedTask ha now ?_) (LabState.toRecords_addTask spec now reason s)
    have := LabState.draws_le_addTask (w := w) spec now reason s
    omega
  | announceOperation nodeId actor operationId taskIds =>
    exact .same _ (by simp [LabState.announceOperation])
  | @rememberOperation key evicted hk r =>
    cases key with
    | none => exact .same _ rfl
    | some k => exact .of_eq (.rememberedOperation hk r) rfl
  | @insertExercise e key he hk =>
    refine .of_eq (.addedExercise he hk) ?_
    cases key <;> simp [LabState.insertExercise, LabState.exerciseKeys]
  | cancelledTask ht hq actor => exact LabState.cancelledTask_change hs ht hq actor
  | @cancelContained e t p he hst hm ht hq hp actor =>
    obtain ⟨e', hcan, hrec⟩ := LabState.cancelContained_records hs he hm ht hq hp actor
    exact .of_eq (.cancelledTask he hst hm ht hq hp (reasonResult "exercise_contained")
      (w.utcNow s.draws) hcan) hrec
  | @pauseNode n hn exerciseId actor =>
    refine .of_eq (.touchedNode (.inr (.inr rfl)) hn (fun _ => rfl) n.status n.lastSeen
      n.lastSeenMonotonic n.lastHeartbeatEvent (some (w.utcNow s.draws)) (some actor)) ?_
    simp [LabState.pauseNode]
  | @applyContainment e he hst hd hq action hp actor =>
    obtain ⟨e', hedit, hcon⟩ := LabState.applyContainment_edits hs he hst action actor
    refine .of_eq (.containedExercise he hst hd hq hp hcon) ?_
    rw [hedit.records, hcon.id_eq]
  | announceNote _ actor message => exact .same _ (by simp [LabState.announceNote])
  | rememberNote hsize => exact .of_eq (.rememberedNote hsize) rfl
  | announceReset actor => exact .of_eq .cleared (by simp [LabState.announceReset]; rfl)

/-! ### The journal of each write -/

/-- The parts of the program that write the journal in a fixed number of statements. -/
def Activity.plain : Activity → Bool
  | .refresh | .contain | .result | .reset => false
  | _ => true

/-- The journal grows, and never by a generated event. -/
theorem Write.grow_plain {c : Activity} (h : Write w s c s') (hc : c.plain = true) :
    s.toJournal.Grow w Quiet s'.toJournal := by
  have hkind : ∀ {d : EventDraft}, d.kind ≠ .nodeGeneratedEvent → Quiet d := id
  cases h with
  | tick => exact .tick .refl
  | expireTask | failTask => exact ((Journal.Grow.refl.tick).record (hkind (by simp))).audit _
  | timeoutTask =>
    unfold LabState.timeoutTask LabState.countFailure
    split <;> exact ((Journal.Grow.refl.tick).record (hkind (by simp))).audit _
  | staleNode | pruneNode => exact (Journal.Grow.refl.record (hkind (by simp))).audit _
  | closeSession => exact ((Journal.Grow.refl.tick).record (hkind (by simp))).audit _
  | wakeNode =>
    unfold LabState.wakeNode
    split
    · exact ((Journal.Grow.refl.tick).record (hkind (by simp))).audit _
    · exact .tick .refl
  | heartbeatNode =>
    unfold LabState.heartbeatNode
    split
    · exact .record .refl (hkind (by simp))
    · exact .refl
  | redeliverTask => exact .record .refl (hkind (by simp))
  | dispatchTask => exact ((Journal.Grow.refl.tick).record (hkind (by simp))).audit _
  | rejectResult => exact (Journal.Grow.refl.record (hkind (by simp))).audit _
  | disconnectedNode => exact ((Journal.Grow.refl.record (hkind (by simp))).tick).audit _
  | addNode =>
    exact ((Journal.Grow.refl.tick.tick.tick).record (hkind (by simp))).audit _
  | pruneTask =>
    unfold LabState.pruneTerminalTaskLocked LabState.rememberTaskResultTombstoneLocked
    split <;> exact (Journal.Grow.refl.record (hkind (by simp))).audit _
  | addTask =>
    unfold LabState.addTask
    split
    · exact ((Journal.Grow.refl.tick.tick.tick.tick).record (hkind (by simp))).audit _
    · exact ((Journal.Grow.refl.tick.tick.tick).record (hkind (by simp))).audit _
  | announceOperation => exact (Journal.Grow.refl.record (hkind (by simp))).audit _
  | rememberOperation =>
    unfold LabState.rememberOperation
    split <;> exact .refl
  | @insertExercise e key =>
    cases key <;> exact (Journal.Grow.refl.record (hkind (by simp))).audit _
  | cancelledTask => exact ((Journal.Grow.refl.tick).record (hkind (by simp))).audit _
  | announceNote => exact (Journal.Grow.refl.record (hkind (by simp))).audit _
  | rememberNote => exact .refl
  | observeEnded | completeExercise | acceptedResult | cancelContained | pauseNode
    | applyContainment | announceReset => cases hc

/-- From a safe state this also holds of the parts that write a timeline. -/
theorem Write.grow (hs : Safe w s) {c : Activity} (h : Write w s c s') (hc : c ≠ .result)
    (hr : c ≠ .reset) : s.toJournal.Grow w Quiet s'.toJournal := by
  by_cases hplain : c.plain = true
  · exact h.grow_plain hplain
  cases h with
  | @observeEnded e t p he hm hu ht hterm hp =>
    obtain ⟨e', hedit, -⟩ := LabState.observeEnded_edits hs he hm hu ht hp
    exact hedit.journal
  | @completeExercise e he hst hcr hall =>
    obtain ⟨e', hedit, -⟩ := LabState.completeExercise_edits hs he hcr (s.finalStatus e)
    exact hedit.journal
  | @cancelContained e t p he hst hm ht hq hp actor =>
    have hu := (hs.exercise_valid he).unobserved_of_live ht (by rw [hq]; rfl)
    obtain ⟨e', hedit, -⟩ := LabState.containTask_edits hs (s.containedTask w t)
      { t with status := .cancelled } he rfl hm hu ht hp rfl rfl actor
    exact (Journal.Grow.refl.tick : s.toJournal.Grow w Quiet s.tick.toJournal).trans hedit.journal
  | pauseNode => exact ((Journal.Grow.refl.tick).record (by simp [Quiet])).audit _
  | @applyContainment e he hst hd hq action hp actor =>
    obtain ⟨e', hedit, -⟩ := LabState.applyContainment_edits hs he hst action actor
    exact hedit.journal
  | tick => exact .tick .refl
  | acceptedResult => exact absurd rfl hc
  | announceReset => exact absurd rfl hr
  | failTask hd => rcases hd with rfl | rfl <;> exact absurd rfl hplain
  | _ => exact absurd rfl hplain

/-- The generated event depends on the journal only. -/
theorem LabState.toJournal_generateEvent {t : Task} {status : ResultStatus}
    (h : s'.toJournal = s.toJournal) :
    (s'.generateEvent w t status).toJournal = (s.generateEvent w t status).toJournal := by
  unfold generateEvent
  split
  · rw [toJournal_recordLocked, toJournal_recordLocked, h]
  · exact h

/-- The journal of an accepted result: its generated event, if it has one, then quiet growth. -/
theorem LabState.acceptedResult_grow (n : Node) (t : Task) (status : ResultStatus) (result : Json)
    (now : Instant) (s : LabState) :
    (s.tick.tick.generateEvent w t status).toJournal.Grow w Quiet
      (s.acceptedResult w n t status result now).toJournal := by
  have hj : ((s.storeResult w n t status result now).applyCommand n.id t.command status).toJournal =
      s.tick.tick.toJournal := by
    unfold applyCommand applySettings
    split
    · split <;> rfl
    · rfl
  rw [← toJournal_generateEvent hj]
  exact (Journal.Grow.refl.record (by cases status <;> simp [Quiet])).audit _

/-- The journal of a reset: an emptied event feed, then quiet growth. -/
theorem LabState.announceReset_grow (actor : PyStr) (s : LabState) :
    ({ s.toJournal with events := [] } : Journal).Grow w Quiet
      (s.announceReset w actor).toJournal :=
  (Journal.Grow.refl.record (by simp [Quiet])).audit _

/-! ### Draws -/

theorem LabState.draws_le_generateEvent (t : Task) (status : ResultStatus) (s : LabState) :
    s.draws ≤ (s.generateEvent w t status).draws := by
  unfold generateEvent
  split
  · rw [toJournal_recordLocked, Journal.draws_recordLocked]; omega
  · exact le_rfl

theorem LabState.draws_le_append (id : PyStr) (item : TimelineItem) (s : LabState) :
    s.draws ≤ (s.appendExerciseTimelineLocked w id item).draws := by
  unfold appendExerciseTimelineLocked
  split
  · exact le_rfl
  · split
    · exact le_rfl
    · exact Nat.le_succ _

theorem LabState.draws_observeTask (id taskId : PyStr) (s : LabState) :
    (s.observeTask id taskId).draws = s.draws := by
  unfold observeTask
  split <;> rfl

theorem LabState.draws_le_record (d : EventDraft) (s : LabState) :
    s.draws ≤ (s.recordLocked w d).draws := by
  rw [toJournal_recordLocked, Journal.draws_recordLocked]; omega

theorem LabState.draws_le_audit (d : AuditDraft) (s : LabState) :
    s.draws ≤ (s.auditLocked w d).draws := by
  rw [toJournal_auditLocked, Journal.draws_auditLocked]; omega

theorem LabState.draws_le_match (id taskId : PyStr) (rule : DetectionRule) (s : LabState) :
    s.draws ≤ (s.matchDetection w id taskId rule).draws := by
  unfold matchDetection
  split
  · exact le_rfl
  · split
    · exact le_rfl
    · refine le_trans ?_ ((draws_le_record _ _).trans (draws_le_audit _ _))
      refine le_trans ?_ (draws_le_append _ _ _)
      exact (Nat.le_succ _).trans (Nat.le_succ _)

theorem LabState.draws_le_observeEnded (e : Exercise) (t : Task) (p : Playbook) (s : LabState) :
    s.draws ≤ (s.observeEnded w e t p).draws := by
  have happend : ∀ (items : List TimelineItem) (s : LabState), s.draws ≤
      (items.foldl (fun s item => s.appendExerciseTimelineLocked w e.id item) s).draws := by
    intro items
    induction items with
    | nil => exact fun s => le_rfl
    | cons item items ih => exact fun s => (draws_le_append e.id item s).trans (ih _)
  have hmatch : ∀ (rules : List DetectionRule) (s : LabState), s.draws ≤
      (rules.foldl (fun s rule => s.matchDetection w e.id t.id rule) s).draws := by
    intro rules
    induction rules with
    | nil => exact fun s => le_rfl
    | cons rule rules ih => exact fun s => (draws_le_match e.id t.id rule s).trans (ih _)
  refine le_trans ?_ (hmatch _ _)
  refine le_trans (le_of_eq ?_) (happend _ _)
  rw [draws_observeTask]

/-- No write takes a draw back. -/
theorem Write.draws_le {c : Activity} (h : Write w s c s') : s.draws ≤ s'.draws := by
  by_cases hplain : c.plain = true
  · exact (h.grow_plain hplain).draws_le
  cases h with
  | @observeEnded e t p => exact LabState.draws_le_observeEnded e t p s
  | completeExercise =>
    refine le_trans ?_ ((LabState.draws_le_record _ _).trans (LabState.draws_le_audit _ _))
    refine le_trans ?_ (LabState.draws_le_append _ _ _)
    exact Nat.le_succ _
  | @cancelContained e t =>
    refine le_trans ?_ ((LabState.draws_le_record _ _).trans (LabState.draws_le_audit _ _))
    rw [LabState.draws_observeTask]
    refine le_trans ?_ (LabState.draws_le_append _ _ _)
    exact Nat.le_succ _
  | applyContainment =>
    refine le_trans ?_ ((LabState.draws_le_record _ _).trans (LabState.draws_le_audit _ _))
    refine le_trans ?_ (LabState.draws_le_append _ _ _)
    exact Nat.le_succ _
  | pauseNode =>
    refine le_trans ?_ ((LabState.draws_le_record _ _).trans (LabState.draws_le_audit _ _))
    exact Nat.le_succ _
  | tick => exact Nat.le_succ _
  | @acceptedResult n t status sent result hn ht hnode hd hv now =>
    have hgrow := (LabState.acceptedResult_grow (w := w) n t status result now s).draws_le
    have hgen := LabState.draws_le_generateEvent (w := w) t status s.tick.tick
    have htick : s.tick.tick.draws = s.draws + 2 := rfl
    omega
  | announceReset actor => exact (LabState.announceReset_grow actor s).draws_le
  | failTask hd => rcases hd with rfl | rfl <;> exact absurd rfl hplain
  | _ => exact absurd rfl hplain

end C2Lab
