import C2Lab.Core.State

/-! `_record_locked`, `_audit_locked` and the elementary writes of the state.

    Every operation of `core.py` is a composition of these. Each changes either the journal or one
    table of the records, which the `@[simp]` lemmas say once for all later proofs. -/

namespace C2Lab

/-- The arguments of `_record_locked`. -/
structure EventDraft where
  kind : Kind
  level : Level := .info
  nodeId : Option PyStr := none
  taskId : Option PyStr := none
  correlationId : Option PyStr := none
  actor : PyStr := "teamserver"
  data : List (String × Json) := []

/-- The arguments of `_audit_locked`. -/
structure AuditDraft where
  action : Kind
  actor : PyStr
  nodeId : Option PyStr := none
  taskId : Option PyStr := none
  correlationId : Option PyStr := none
  taskType : Option TaskType := none
  fromState : Option String := none
  toState : Option String := none
  outcome : String
  reason : Option String := none

/-- The correlation id of an event: given, or else a string under that key of the data. -/
def EventDraft.correlation (d : EventDraft) : Option PyStr :=
  match d.correlationId with
  | some c => some c
  | none =>
    match d.data.find? (·.1 = "correlation_id") with
    | some (_, .str c) => some c
    | _ => none

/-- The event a draft becomes: numbered, stamped and given an identifier. -/
def Journal.event (w : World) (d : EventDraft) (j : Journal) : Event :=
  { id := w.eventId j.draws, sequence := j.eventSequence + 1, time := w.utcNow (j.draws + 1)
    kind := d.kind, level := d.level, nodeId := d.nodeId, taskId := d.taskId
    correlationId := d.correlation, actor := d.actor, data := d.data }

/-- `_record_locked`. -/
def Journal.recordLocked (w : World) (d : EventDraft) (j : Journal) : Journal :=
  { j with
    eventSequence := j.eventSequence + 1
    draws := j.draws + 2
    events := Window.push maxEvents j.events (j.event w d)
    eventLog := j.eventLog ++ [j.event w d] }

/-- The audit entry a draft becomes. -/
def Journal.entry (w : World) (d : AuditDraft) (j : Journal) : AuditEntry :=
  { sequence := j.auditSequence + 1, time := w.utcNow j.draws, actor := d.actor
    action := d.action, nodeId := d.nodeId, taskId := d.taskId, correlationId := d.correlationId
    taskType := d.taskType, fromState := d.fromState, toState := d.toState
    outcome := d.outcome, reason := d.reason }

/-- `_audit_locked`. -/
def Journal.auditLocked (w : World) (d : AuditDraft) (j : Journal) : Journal :=
  { j with
    auditSequence := j.auditSequence + 1
    draws := j.draws + 1
    auditEntries := Window.push maxAuditEntries j.auditEntries (j.entry w d)
    auditLog := j.auditLog ++ [j.entry w d] }

namespace Journal
variable (w : World) (d : EventDraft) (a : AuditDraft) (j : Journal)

theorem draws_recordLocked : (j.recordLocked w d).draws = j.draws + 2 := by
  unfold recordLocked; rfl
theorem draws_auditLocked : (j.auditLocked w a).draws = j.draws + 1 := by
  unfold auditLocked; rfl
theorem refused_recordLocked : (j.recordLocked w d).refusedAppends = j.refusedAppends := by
  unfold recordLocked; rfl
theorem refused_auditLocked : (j.auditLocked w a).refusedAppends = j.refusedAppends := by
  unfold auditLocked; rfl
theorem eventLog_recordLocked : (j.recordLocked w d).eventLog = j.eventLog ++ [j.event w d] := by
  unfold recordLocked; rfl
theorem eventLog_auditLocked : (j.auditLocked w a).eventLog = j.eventLog := by
  unfold auditLocked; rfl

end Journal

namespace LabState

/-- `_record_locked`. -/
def recordLocked (w : World) (d : EventDraft) (s : LabState) : LabState :=
  { s with toJournal := s.toJournal.recordLocked w d }

/-- `_audit_locked`. -/
def auditLocked (w : World) (d : AuditDraft) (s : LabState) : LabState :=
  { s with toJournal := s.toJournal.auditLocked w d }

/-- Spend one draw, for a `utc_now()`, a `uuid4()` or a token. -/
def tick (s : LabState) : LabState := { s with draws := s.draws + 1 }

/-- A full timeline refused an entry. -/
def refuseAppend (s : LabState) : LabState := { s with refusedAppends := s.refusedAppends + 1 }

/-- Write a task record back under its id. -/
def setTask (t : Task) (s : LabState) : LabState := { s with tasks := s.tasks.set t.id t }

/-- Write a node record back under its id. -/
def setNode (n : Node) (s : LabState) : LabState := { s with nodes := s.nodes.set n.id n }

/-- Write an exercise record back under its id. -/
def setExercise (e : Exercise) (s : LabState) : LabState :=
  { s with exercises := s.exercises.set e.id e }

section frames
variable (w : World) (d : EventDraft) (a : AuditDraft) (t : Task) (n : Node) (e : Exercise)
  (s : LabState)

@[simp] theorem toRecords_recordLocked : (s.recordLocked w d).toRecords = s.toRecords := by
  unfold recordLocked; rfl
@[simp] theorem toRecords_auditLocked : (s.auditLocked w a).toRecords = s.toRecords := by
  unfold auditLocked; rfl
@[simp] theorem toRecords_tick : s.tick.toRecords = s.toRecords := rfl
@[simp] theorem toRecords_refuseAppend : s.refuseAppend.toRecords = s.toRecords := rfl
@[simp] theorem toJournal_recordLocked :
    (s.recordLocked w d).toJournal = s.toJournal.recordLocked w d := rfl
@[simp] theorem toJournal_auditLocked :
    (s.auditLocked w a).toJournal = s.toJournal.auditLocked w a := rfl
@[simp] theorem toJournal_setTask : (s.setTask t).toJournal = s.toJournal := rfl
@[simp] theorem toJournal_setNode : (s.setNode n).toJournal = s.toJournal := rfl
@[simp] theorem toJournal_setExercise : (s.setExercise e).toJournal = s.toJournal := rfl
@[simp] theorem toRecords_setTask :
    (s.setTask t).toRecords = { s.toRecords with tasks := s.tasks.set t.id t } := rfl
@[simp] theorem toRecords_setNode :
    (s.setNode n).toRecords = { s.toRecords with nodes := s.nodes.set n.id n } := rfl
@[simp] theorem toRecords_setExercise :
    (s.setExercise e).toRecords = { s.toRecords with exercises := s.exercises.set e.id e } := rfl

end frames

end LabState

/-- The `type` and `correlation_id` members of an event about a task. -/
def Task.eventData (t : Task) : List (String × Json) :=
  [("type", Vocabulary.toJson t.command.taskType), ("correlation_id", .str t.correlationId)]

/-- Raise a `LabError`. -/
def labError (message : String) (code : String) (status : ℕ) : Exc :=
  .lab { message := message, code := code, status := status }

/-- `_protocol_call`: a `ProtocolError` is raised again as a plain `LabError`. -/
def protocolCall {α : Type} (x : Except Exc α) : Except Exc α :=
  match x with
  | .error (.protocol message) => .error (.lab { message := message })
  | x => x

/-- Run a check that does not touch the state. -/
def check {α : Type} (x : Except Exc α) : Lab α :=
  match x with
  | .ok a => pure a
  | .error e => throw e

end C2Lab
