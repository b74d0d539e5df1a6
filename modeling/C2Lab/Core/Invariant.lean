import C2Lab.Core.Write
import C2Lab.Lib.Plan

/-! The invariant of the records.

    Tables are keyed by the identifiers drawn for their records; the five fields a task's status
    governs agree with it; a stored result passed its contract; and an exercise's evidence, alerts,
    status and timeline are those its tasks call for. The last two are what keeps the refresh from
    ever failing or overflowing a timeline. -/

namespace C2Lab

/-! ### Tasks and nodes -/

/-- The contract a stored result passed, for some document sent and some node settings. -/
def Accepted (w : World) (command : Command) (status : ResultStatus) (result : Json) : Prop :=
  ∃ (sent : Document) (expected : ExpectedRuntime),
    validateTaskResult w.toInterp command (Vocabulary.toJson status) sent.1 (some expected) =
      .ok (status, result)

/-- The fields the status of a task governs. -/
structure Task.Coupled (t : Task) : Prop where
  queued : t.status = .queued → t.queueDeadline.isSome ∧ t.deadline = none ∧
    t.dispatchedAt = none ∧ t.deliveryAttempts = 0
  dispatched : t.status = .dispatched → t.deadline.isSome ∧ t.queueDeadline = none ∧
    t.dispatchedAt.isSome ∧ 1 ≤ t.deliveryAttempts
  terminal : t.status.isTerminal = true → t.deadline = none ∧ t.queueDeadline = none
  ended_iff : t.status.isTerminal = true ↔ t.result.isSome
  completedAt_iff : t.status.isTerminal = true ↔ t.completedAt.isSome
  accepted_ended : t.resultAccepted = true → t.status = .completed ∨ t.status = .failed
  completed_accepted : t.status = .completed → t.resultAccepted = true

/-- A stored task record. -/
structure Task.WellFormed (w : World) (t : Task) : Prop extends t.Coupled where
  accepted : t.resultAccepted = true → ∃ status result, t.status = status.taskStatus ∧
    t.result = some result ∧ Accepted w t.command status result
  command_valid : t.command.Valid w.toInterp
  exercise_playbook : t.exerciseId ≠ none → ∃ p, t.command = .runPlaybook p

/-- A stored node record. -/
structure Node.WellFormed (w : World) (draws : ℕ) (n : Node) : Prop where
  name_clean : cleanText w.toInterp (.str n.name) "name" 48 = .ok n.name
  version_clean : cleanText w.toInterp (.str n.version) "version" 32 = .ok n.version
  capabilities_eq : n.capabilities = nodeProfiles n.profile
  interval_range : minPollIntervalMs ≤ n.pollIntervalMs ∧ n.pollIntervalMs ≤ maxPollIntervalMs
  jitter_range : 0 ≤ n.jitterPercent ∧ n.jitterPercent ≤ maxJitterPercent
  token_drawn : ∃ k < draws, n.sessionToken = .text (w.token k)

/-- An acknowledgement tombstone. -/
structure NodeTask.Tombstone (w : World) (r : NodeTask) : Prop where
  accepted : ∃ status result, r.status = status.taskStatus ∧ r.result = some result ∧
    Accepted w r.command status result

/-! ### Exercises -/

/-- The entries of a timeline that record how a task ended. -/
def TimelineItem.isEvidence (i : TimelineItem) : Bool :=
  match i.kind with
  | .task s => s.isTerminal
  | .techniqueObserved => true
  | _ => false

namespace Exercise

/-- The timeline entries about how one task ended, in order. -/
def evidence (e : Exercise) (taskId : PyStr) : List TimelineItem :=
  (e.timeline.map (·.item)).filter fun i => i.taskId = some taskId && i.isEvidence

/-- The rules whose alert names one task, in order. -/
def alertRules (e : Exercise) (taskId : PyStr) : List DetectionRule :=
  (e.alerts.filter (·.taskId = taskId)).map (·.rule)

/-- The tasks of an exercise, each with the playbook it runs. -/
def plan (e : Exercise) : List (PyStr × Playbook) :=
  e.taskIds.zip (scenarioDefinition e.scenarioId).playbooks

/-- How many entries observing a task may add to the timeline. -/
def cost (scenario : ScenarioId) (p : Playbook) : ℕ :=
  1 + (observedTechniques scenario p).length + (detectionsForPlaybook scenario p).length

/-- How many entries a timeline may still receive: its unobserved tasks, the completion and the
    containment. -/
def reserve (e : Exercise) : ℕ :=
  Plan.owed (fun x => cost e.scenarioId x.2) e.plan e.observedTaskIds +
    (if e.completionRecorded then 0 else 1) + (if e.containment = none then 1 else 0)

/-- What the record of an exercise says about itself. -/
structure Consistent (e : Exercise) : Prop where
  nodup : e.taskIds.Nodup
  length_eq : e.taskIds.length = (scenarioDefinition e.scenarioId).playbooks.length
  observed_nodup : e.observedTaskIds.Nodup
  observed_mem : ∀ id ∈ e.observedTaskIds, id ∈ e.taskIds
  evidence_none : ∀ id, id ∉ e.observedTaskIds → e.evidence id = []
  alerts_nodup : (e.alerts.map (·.rule.id)).Nodup
  alerts_planned : ∀ a ∈ e.alerts, a.taskId ∈ e.observedTaskIds ∧ ∃ p, (a.taskId, p) ∈ e.plan ∧
    a.rule ∈ detectionsForPlaybook e.scenarioId p
  detected_iff : e.detected = true ↔ e.alerts ≠ []
  alerts_open : e.containment = none → ∀ a ∈ e.alerts, a.isOpen = true ∧ a.containedAt = none
  alerts_closed : e.containment ≠ none → ∀ a ∈ e.alerts, a.isOpen = false ∧ a.containedAt.isSome
  contained_iff : e.status = .contained ↔ e.containment ≠ none
  running_iff : e.containment = none → (e.status = .running ↔ e.completionRecorded = false)
  completed_at : e.status ≠ .running → e.completedAt.isSome
  recorded_observed : e.completionRecorded = true → ∀ id ∈ e.taskIds, id ∈ e.observedTaskIds
  completed_all : e.status = .completed → ∀ id ∈ e.taskIds,
    ∃ i ∈ e.evidence id, i.kind = .task .completed
  failed_some : e.status = .failed → ∃ id ∈ e.taskIds, ∀ i ∈ e.evidence id,
    i.kind ≠ .task .completed
  sequence_eq : e.timelineSequence = e.timeline.length
  numbered : e.timeline.map (·.sequence) = List.range' 1 e.timeline.length
  room : e.timeline.length + e.reserve ≤ maxExerciseTimeline

/-- What it says about the tasks still recorded. -/
structure Tracked (tasks : Dict PyStr Task) (e : Exercise) : Prop where
  planned : ∀ {id p t}, (id, p) ∈ e.plan → tasks.get? id = some t →
    t.command = .runPlaybook p ∧ t.exerciseId = some e.id ∧ t.nodeId = e.nodeId
  observed_ended : ∀ id ∈ e.observedTaskIds, ∀ t, tasks.get? id = some t →
    t.status.isTerminal = true
  evidence_eq : ∀ {id p t}, (id, p) ∈ e.plan → id ∈ e.observedTaskIds →
    tasks.get? id = some t → e.evidence id = evidenceItems e.scenarioId t p
  alertRules_eq : ∀ {id p t}, (id, p) ∈ e.plan → id ∈ e.observedTaskIds →
    tasks.get? id = some t → e.alertRules id = [] ∧ (t.status = .completed →
        e.containment ≠ none ∨ detectionsForPlaybook e.scenarioId p = []) ∨
      t.status = .completed ∧ e.alertRules id = detectionsForPlaybook e.scenarioId p
  running_retained : e.status = .running → ∀ id ∈ e.taskIds, ∃ t, tasks.get? id = some t

/-- The invariant of a stored exercise. -/
structure Valid (tasks : Dict PyStr Task) (e : Exercise) : Prop
    extends Consistent e, Tracked tasks e

end Exercise

/-! ### The whole state -/

/-- An entry of `_nodes`. -/
structure Node.Stored (w : World) (draws : ℕ) (id : PyStr) (n : Node) : Prop where
  key : n.id = id
  drawn : ∃ k < draws, id = w.nodeId k
  wf : n.WellFormed w draws

/-- An entry of `_tasks`. -/
structure Task.Stored (w : World) (draws : ℕ) (id : PyStr) (t : Task) : Prop where
  key : t.id = id
  drawn : ∃ k < draws, id = w.taskId k
  wf : t.WellFormed w

/-- An entry of `_task_result_tombstones`: its task is gone. -/
structure NodeTask.Stored (w : World) (draws : ℕ) (tasks : Dict PyStr Task) (id : PyStr)
    (r : NodeTask) : Prop where
  key : r.id = id
  drawn : ∃ k < draws, id = w.taskId k
  pruned : tasks.get? id = none
  wf : r.Tombstone w

/-- An entry of `_exercises`. -/
structure Exercise.Stored (w : World) (draws : ℕ) (tasks : Dict PyStr Task) (id : PyStr)
    (e : Exercise) : Prop where
  key : e.id = id
  id_drawn : ∃ k < draws, id = w.exerciseId k
  drawn : ∀ taskId ∈ e.taskIds, ∃ k < draws, taskId = w.taskId k
  valid : e.Valid tasks

/-- A task that has not ended belongs to an open session that may run it. -/
def Task.Owned (nodes : Dict PyStr Node) (t : Task) : Prop :=
  t.status.isTerminal = false → ∃ n, nodes.get? t.nodeId = some n ∧ n.sessionActive = true ∧
    t.command.taskType ∈ n.capabilities

/-- The invariant of the records, after some number of draws. -/
structure Records.Safe (w : World) (draws : ℕ) (r : Records) : Prop where
  nodes : r.nodes.All (Node.Stored w draws)
  tasks : r.tasks.All (Task.Stored w draws)
  tombstones : r.taskResultTombstones.All (NodeTask.Stored w draws r.tasks)
  exercises : r.exercises.All (Exercise.Stored w draws r.tasks)
  owned : r.tasks.All fun _ t => t.Owned r.nodes

/-- The invariant of a state. -/
def Safe (w : World) (s : LabState) : Prop := s.toRecords.Safe w s.draws

theorem safe_init (w : World) (stream : String) : Safe w (.init stream) :=
  ⟨Dict.all_empty, Dict.all_empty, Dict.all_empty, Dict.all_empty, Dict.all_empty⟩

namespace Safe

variable {w : World} {s : LabState} (h : Safe w s) {id : PyStr}
include h

theorem node_key {n : Node} (hn : s.nodes.get? id = some n) : n.id = id :=
  (h.nodes _ _ hn).key

theorem node_wf {n : Node} (hn : s.nodes.get? id = some n) : n.WellFormed w s.draws :=
  (h.nodes _ _ hn).wf

theorem task_key {t : Task} (ht : s.tasks.get? id = some t) : t.id = id := (h.tasks _ _ ht).key

theorem task_wf {t : Task} (ht : s.tasks.get? id = some t) : t.WellFormed w :=
  (h.tasks _ _ ht).wf

theorem exercise_key {e : Exercise} (he : s.exercises.get? id = some e) : e.id = id :=
  (h.exercises _ _ he).key

theorem exercise_valid {e : Exercise} (he : s.exercises.get? id = some e) : e.Valid s.tasks :=
  (h.exercises _ _ he).valid

end Safe

end C2Lab
