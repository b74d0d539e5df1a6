import C2Lab.Core.Invariant

/-! What a write does to the records and to the journal.

    The same events and audit entries accompany a write wherever it happens; what matters to an
    invariant of the records is only which record changed and how. `RecordChange` says that, with
    the journal left out, and `Journal.Grow` says what the journal may do meanwhile. -/

namespace C2Lab

/-! ### The journal -/

/-- The journal after some draws, events satisfying `q` and audit entries. -/
inductive Journal.Grow (w : World) (q : EventDraft → Prop) (j : Journal) : Journal → Prop
  | refl : Grow w q j j
  | tick {j' : Journal} (h : Grow w q j j') : Grow w q j { j' with draws := j'.draws + 1 }
  | record {j' : Journal} (h : Grow w q j j') {d : EventDraft} (hd : q d) :
      Grow w q j (j'.recordLocked w d)
  | audit {j' : Journal} (h : Grow w q j j') (d : AuditDraft) : Grow w q j (j'.auditLocked w d)

namespace Journal.Grow

variable {w : World} {q : EventDraft → Prop} {j j' j'' : Journal}

theorem trans (h : Grow w q j j') (h' : Grow w q j' j'') : Grow w q j j'' := by
  induction h' with
  | refl => exact h
  | tick _ ih => exact ih.tick
  | record _ hd ih => exact ih.record hd
  | audit _ d ih => exact ih.audit d

theorem draws_le (h : Grow w q j j') : j.draws ≤ j'.draws := by
  induction h with
  | refl => exact le_rfl
  | tick _ ih => exact ih.trans (Nat.le_succ _)
  | record _ _ ih => rw [Journal.draws_recordLocked]; exact ih.trans (Nat.le_add_right _ 2)
  | audit _ _ ih => rw [Journal.draws_auditLocked]; exact ih.trans (Nat.le_succ _)

theorem refused_eq (h : Grow w q j j') : j'.refusedAppends = j.refusedAppends := by
  induction h with
  | refl => rfl
  | tick _ ih => exact ih
  | record _ _ ih => rw [Journal.refused_recordLocked, ih]
  | audit _ _ ih => rw [Journal.refused_auditLocked, ih]

/-- The entries appended to the full event log, all made from drafts satisfying `q`. -/
theorem eventLog_eq (h : Grow w q j j') : ∃ new, j'.eventLog = j.eventLog ++ new ∧
    ∀ x ∈ new, ∃ d, q d ∧ x.kind = d.kind ∧ x.taskId = d.taskId := by
  induction h with
  | refl => exact ⟨[], by simp⟩
  | tick _ ih => exact ih
  | @record j' _ d hd ih =>
    obtain ⟨new, heq, hnew⟩ := ih
    refine ⟨new ++ [j'.event w d], ?_, fun x hx => ?_⟩
    · rw [Journal.eventLog_recordLocked, heq, List.append_assoc]
    · rcases List.mem_append.mp hx with hx | hx
      · exact hnew x hx
      · rw [List.mem_singleton] at hx
        exact ⟨d, hd, by simp [hx, Journal.event]⟩
  | audit _ _ ih => rw [Journal.eventLog_auditLocked]; exact ih

end Journal.Grow

/-- Events other than the one an operator asked a Node to generate. -/
def Quiet (d : EventDraft) : Prop := d.kind ≠ .nodeGeneratedEvent

/-! ### Exercises -/

namespace Exercise

/-- The timeline of `e` continued by `items`; identity and tasks are the same. -/
structure Extended (items : List TimelineItem) (e e' : Exercise) : Prop where
  id_eq : e'.id = e.id
  scenario_eq : e'.scenarioId = e.scenarioId
  node_eq : e'.nodeId = e.nodeId
  created_eq : e'.createdBy = e.createdBy ∧ e'.createdAt = e.createdAt
  tasks_eq : e'.taskIds = e.taskIds
  sequence_eq : e'.timelineSequence = e.timelineSequence + items.length
  timeline_eq : ∃ new, e'.timeline = e.timeline ++ new ∧ new.map (·.item) = items ∧
    new.map (·.sequence) = List.range' (e.timelineSequence + 1) items.length

/-- What an exercise is about, fixed when it is started. -/
structure SameStart (e e' : Exercise) : Prop where
  id_eq : e'.id = e.id
  scenario_eq : e'.scenarioId = e.scenarioId
  node_eq : e'.nodeId = e.nodeId
  created_eq : e'.createdBy = e.createdBy ∧ e'.createdAt = e.createdAt
  tasks_eq : e'.taskIds = e.taskIds

namespace SameStart

variable {e e' e'' : Exercise}

theorem refl (e : Exercise) : e.SameStart e := ⟨rfl, rfl, rfl, ⟨rfl, rfl⟩, rfl⟩

theorem trans (h : e.SameStart e') (h' : e'.SameStart e'') : e.SameStart e'' :=
  ⟨h'.id_eq.trans h.id_eq, h'.scenario_eq.trans h.scenario_eq, h'.node_eq.trans h.node_eq,
    ⟨h'.created_eq.1.trans h.created_eq.1, h'.created_eq.2.trans h.created_eq.2⟩,
    h'.tasks_eq.trans h.tasks_eq⟩

end SameStart

theorem Extended.sameStart {e e' : Exercise} {items : List TimelineItem}
    (h : e.Extended items e') : e.SameStart e' :=
  ⟨h.id_eq, h.scenario_eq, h.node_eq, h.created_eq, h.tasks_eq⟩

/-- The exercise once an ended task was observed. -/
structure Observed (t : Task) (p : Playbook) (e e' : Exercise) : Prop
    extends Extended (evidenceItems e.scenarioId t p ++
      (matchedRules e t p).map (LabState.detectionItem t.id)) e e' where
  observed_eq : e'.observedTaskIds = e.observedTaskIds ++ [t.id]
  status_eq : e'.status = e.status
  containment_eq : e'.containment = e.containment
  completion_eq : e'.completionRecorded = e.completionRecorded ∧ e'.completedAt = e.completedAt
  detected_eq : e'.detected = (e.detected || !(matchedRules e t p).isEmpty)
  alerts_eq : ∃ new, e'.alerts = e.alerts ++ new ∧ new.map (·.rule) = matchedRules e t p ∧
    ∀ a ∈ new, a.taskId = t.id ∧ a.isOpen = true ∧ a.containedAt = none

/-- The exercise once its completion was recorded. -/
structure Finished (status : ExerciseStatus) (e e' : Exercise) : Prop
    extends Extended [LabState.completionItem status] e e' where
  observed_eq : e'.observedTaskIds = e.observedTaskIds
  status_eq : e'.status = status
  containment_eq : e'.containment = e.containment
  completion_eq : e'.completionRecorded = true ∧ e'.completedAt.isSome
  alerts_eq : e'.alerts = e.alerts ∧ e'.detected = e.detected

/-- The exercise once containment was applied. -/
structure Contained (action : ContainmentAction) (e e' : Exercise) : Prop
    extends Extended [LabState.containmentItem action] e e' where
  observed_eq : e'.observedTaskIds = e.observedTaskIds
  status_eq : e'.status = .contained
  containment_eq : e'.containment.map (·.action) = some action
  completion_eq : e'.completionRecorded = e.completionRecorded ∧ e'.completedAt.isSome
  detected_eq : e'.detected = e.detected
  alerts_eq : ∃ time, e'.alerts = e.alerts.map (Alert.contain time)

end Exercise

/-! ### The records -/

/-- A status a live task may end in by the given part of the program, without its node's say. -/
inductive EndsAs : Activity → TaskStatus → TaskStatus → Prop
  | expired : EndsAs .expiry .queued .expired
  | cancelled : EndsAs .cancel .queued .cancelled

/-- A status a live task may end in that counts as a failure of its node. -/
inductive FailsAs : Activity → TaskStatus → TaskStatus → Prop
  | timeout : FailsAs .expiry .dispatched .timeout
  | expiredQueued : FailsAs .expiry .queued .failed
  | expiredDispatched : FailsAs .expiry .dispatched .failed
  | closedQueued : FailsAs .disconnect .queued .failed
  | closedDispatched : FailsAs .disconnect .dispatched .failed

/-- A task record that ended. -/
def Task.ended (t : Task) (status : TaskStatus) (result : Json) (time : Timestamp)
    (accepted : Bool) : Task :=
  { t with
    status := status, result := some result, completedAt := some time, deadline := none
    queueDeadline := none, resultAccepted := accepted }

/-- The nodes once one of them was charged with a failure, if it is still there. -/
def chargeFailure (nodes : Dict PyStr Node) (nodeId : PyStr) : Dict PyStr Node :=
  match nodes.get? nodeId with
  | none => nodes
  | some n => nodes.set n.id { n with tasksFailed := n.tasksFailed + 1 }

/-- The poll settings after an accepted result. -/
def settingsAfter (n : Node) (command : Command) (status : ResultStatus) : ℤ × ℤ :=
  match command, status with
  | .sleep interval jitter, .completed => (interval, jitter)
  | _, _ => (n.pollIntervalMs, n.jitterPercent)

/-- The node record after an accepted result. -/
def Node.credited (n : Node) (command : Command) (status : ResultStatus) (seen : Timestamp)
    (now : Instant) : Node :=
  { n with
    lastSeen := seen, lastSeenMonotonic := now
    tasksCompleted := n.tasksCompleted + (if status = .completed then 1 else 0)
    tasksFailed := n.tasksFailed + (if status = .completed then 0 else 1)
    pollIntervalMs := (settingsAfter n command status).1
    jitterPercent := (settingsAfter n command status).2 }

/-- How one write changes the records; `hi` is the number of draws after it. -/
inductive RecordChange (w : World) (s : LabState) (hi : ℕ) : Activity → Records → Prop
  | kept (c : Activity) : RecordChange w s hi c s.toRecords
  | rememberedNote {keys : Dict PyStr (PyStr × PyStr × PyStr)}
      (hsize : keys.size ≤ max s.noteIdempotency.size maxOperatorNotesRetained) :
      RecordChange w s hi .note { s.toRecords with noteIdempotency := keys }
  | rememberedOperation {k : PyStr} {evicted : List PyStr} (hk : s.KeyRoom (some k) evicted)
      (r : OperationRecord) : RecordChange w s hi .create { s.toRecords with
        operationIdempotency := (s.keysKept evicted).set k r }
  | touchedNode {c : Activity} (hc : c = .expiry ∨ c = .poll ∨ c = .contain) {n : Node}
      (hn : s.nodes.get? n.id = some n) {paused : Bool}
      (hp : n.taskingPaused = true → paused = true)
      (status lastSeen seenAt beatAt pausedAt pausedBy) :
      RecordChange w s hi c { s.toRecords with nodes := s.nodes.set n.id { n with
        status := status, lastSeen := lastSeen, lastSeenMonotonic := seenAt
        lastHeartbeatEvent := beatAt, taskingPaused := paused, taskingPausedAt := pausedAt
        taskingPausedBy := pausedBy } }
  | closedNode {c : Activity} (hc : c = .expiry ∨ c = .disconnect) {n : Node}
      (hn : s.nodes.get? n.id = some n) (hl : s.NoLiveTask n.id) {k : ℕ} (hk : s.draws ≤ k)
      (hk' : k < hi) :
      RecordChange w s hi c { s.toRecords with nodes := s.nodes.set n.id { n with
        status := .offline, sessionActive := false, sessionToken := .text (w.token k) } }
  | endedTask {c : Activity} {t : Task} {status : TaskStatus} (h : EndsAs c t.status status)
      (ht : s.tasks.get? t.id = some t) (result : Json) (time : Timestamp) :
      RecordChange w s hi c { s.toRecords with
        tasks := s.tasks.set t.id (t.ended status result time false) }
  | failedTask {c : Activity} {t : Task} {status : TaskStatus} (h : FailsAs c t.status status)
      (ht : s.tasks.get? t.id = some t) (result : Json) (time : Timestamp) :
      RecordChange w s hi c { s.toRecords with
        tasks := s.tasks.set t.id (t.ended status result time false)
        nodes := chargeFailure s.nodes t.nodeId }
  | redeliveredTask {t : Task} (ht : s.tasks.get? t.id = some t) (hd : t.status = .dispatched) :
      RecordChange w s hi .poll { s.toRecords with
        tasks := s.tasks.set t.id { t with deliveryAttempts := t.deliveryAttempts + 1 } }
  | dispatchedTask {t : Task} (ht : s.tasks.get? t.id = some t) (hq : t.status = .queued)
      (hturn : s.Turn t) (now : Instant) (time : Timestamp) :
      RecordChange w s hi .dispatch { s.toRecords with tasks := s.tasks.set t.id { t with
        status := .dispatched, dispatchedAt := some time
        deadline := some (now + taskTimeoutSeconds), queueDeadline := none
        deliveryAttempts := 1 } }
  | acceptedTask {n : Node} {t : Task} {status : ResultStatus} {sent : Document} {result : Json}
      (hn : s.nodes.get? n.id = some n) (ht : s.tasks.get? t.id = some t)
      (hnode : t.nodeId = n.id) (hd : t.status = .dispatched)
      (hv : validateTaskResult w.toInterp t.command (Vocabulary.toJson status) sent.1
        (some n.expectedRuntime) = .ok (status, result)) (time seen : Timestamp) (now : Instant) :
      RecordChange w s hi .result { s.toRecords with
        tasks := s.tasks.set t.id (t.ended status.taskStatus result time true)
        nodes := s.nodes.set n.id (n.credited t.command status seen now) }
  | prunedTask {t : Task} (ht : s.tasks.get? t.id = some t) (hterm : t.status.isTerminal = true)
      (hr : taskIsRequiredByRunningExerciseLocked t s = false) :
      RecordChange w s hi .prune { s.toRecords with
        tasks := s.tasks.erase t.id
        taskResultTombstones := (s.rememberTaskResultTombstoneLocked t).taskResultTombstones }
  | prunedNode {n : Node} (hn : s.nodes.get? n.id = some n) (hc : n.sessionActive = false) :
      RecordChange w s hi .enroll { s.toRecords with nodes := s.nodes.erase n.id }
  | addedNode {e : Enrollment} {name version profile capabilities interval jitter : Json}
      (hv : validateEnrollment w.toInterp name version profile capabilities interval jitter = .ok e)
      (now : Instant) (hk : s.draws + 1 < hi) : RecordChange w s hi .enroll { s.toRecords with
        nodes := s.nodes.set (w.nodeId s.draws) (s.newNode w e now) }
  | addedTask {spec : TaskSpec} {n : Node} (ha : s.Admits w spec n) (now : Instant)
      (hk : s.draws < hi) :
      RecordChange w s hi .create { s.toRecords with
        tasks := s.tasks.set (w.taskId s.draws) (s.newTask w spec now)
        taskSequence := s.taskSequence + 1 }
  | addedExercise {e : Exercise} {key : Option PyStr} (he : e.Prepared w s)
      (hk : s.ExerciseRoom key) :
      RecordChange w s hi .create { s.toRecords with
        exercises := s.exercises.set e.id e, exerciseIdempotency := s.exerciseKeys key e }
  | observedTask {e e' : Exercise} {t : Task} {p : Playbook}
      (he : s.exercises.get? e.id = some e) (hm : t.id ∈ e.taskIds)
      (hu : t.id ∉ e.observedTaskIds) (ht : s.tasks.get? t.id = some t)
      (hterm : t.status.isTerminal = true) (hp : t.command = .runPlaybook p)
      (ho : e.Observed t p e') :
      RecordChange w s hi .refresh { s.toRecords with exercises := s.exercises.set e.id e' }
  | finishedExercise {e e' : Exercise} (he : s.exercises.get? e.id = some e)
      (hs : e.status ≠ .contained) (hc : e.completionRecorded = false)
      (hall : ∀ id ∈ e.taskIds, id ∈ e.observedTaskIds ∧
        ∃ t, s.tasks.get? id = some t ∧ t.status.isTerminal = true)
      (ho : e.Finished (s.finalStatus e) e') :
      RecordChange w s hi .refresh { s.toRecords with exercises := s.exercises.set e.id e' }
  | cancelledTask {e e' : Exercise} {t : Task} {p : Playbook}
      (he : s.exercises.get? e.id = some e) (hs : e.status ≠ .contained) (hm : t.id ∈ e.taskIds)
      (ht : s.tasks.get? t.id = some t) (hq : t.status = .queued)
      (hp : t.command = .runPlaybook p) (result : Json) (time : Timestamp)
      (ho : e.Observed (t.ended .cancelled result time false) p e') :
      RecordChange w s hi .contain { s.toRecords with
        tasks := s.tasks.set t.id (t.ended .cancelled result time false)
        exercises := s.exercises.set e.id e' }
  | containedExercise {e e' : Exercise} (he : s.exercises.get? e.id = some e)
      (hs : e.status ≠ .contained) (hd : e.detected = true)
      (hq : ∀ id ∈ e.taskIds, ∀ t, s.tasks.get? id = some t → t.status ≠ .queued)
      {action : ContainmentAction} (hp : s.PausedFor action e.nodeId) (ho : e.Contained action e') :
      RecordChange w s hi .contain { s.toRecords with exercises := s.exercises.set e.id e' }
  | cleared : RecordChange w s hi .reset { s.toRecords with
      nodes := .empty, tasks := .empty, taskResultTombstones := .empty, exercises := .empty
      noteIdempotency := .empty, exerciseIdempotency := .empty, operationIdempotency := .empty }

end C2Lab
