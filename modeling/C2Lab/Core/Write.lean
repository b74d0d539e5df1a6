import C2Lab.Contract
import C2Lab.Core.Run

/-! What one step of the program can do.

    Every operation is a sequence of writes, each one of the state functions of the previous modules
    applied where its guard holds. `Write w c s s'` lists them all, `c` saying what part of the
    program is at work. Invariants are proved once for each write and carried to whole operations
    and runs by induction; no later proof opens an operation again for that. -/

namespace C2Lab

/-- The parts of the program that write the state. -/
inductive Activity where
  | expiry
  | refresh
  | poll
  | dispatch
  | reject
  | result
  | disconnect
  | enroll
  | prune
  | create
  | cancel
  | contain
  | note
  | reset
  deriving DecidableEq

/-- The parts that add nodes, tasks or exercises. -/
def Activity.creates : Activity → Bool
  | .enroll | .create => true
  | _ => false

/-! ### The writes that the source makes in several statements -/

/-- The techniques whose observation a completed task of `scenario` adds to its timeline. -/
def observedTechniques (scenario : ScenarioId) (p : Playbook) : List String :=
  ((LabRuntime.techniqueTable p).map Prod.fst).filter (· ∈ allowedTechniqueIds scenario)

/-- The timeline entries about a task that ended. -/
def evidenceItems (scenario : ScenarioId) (t : Task) (p : Playbook) : List TimelineItem :=
  LabState.endedItem t p ::
    if t.status = .completed then
      (observedTechniques scenario p).map (LabState.techniqueItem t.id)
    else []

/-- The rules a task that ended may match: none unless it completed before containment. -/
def matchedRules (e : Exercise) (t : Task) (p : Playbook) : List DetectionRule :=
  if t.status = .completed ∧ e.status ≠ .contained then detectionsForPlaybook e.scenarioId p
  else []

namespace LabState

/-- What the refresh does about one ended task of an exercise. -/
def observeEnded (w : World) (e : Exercise) (t : Task) (p : Playbook) (s : LabState) : LabState :=
  let s := (evidenceItems e.scenarioId t p).foldl
    (fun s item => s.appendExerciseTimelineLocked w e.id item) (s.observeTask e.id t.id)
  (matchedRules e t p).foldl (fun s rule => s.matchDetection w e.id t.id rule) s

/-- The settings a completed `SLEEP` changes. -/
def applyCommand (nodeId : PyStr) (command : Command) (status : ResultStatus) (s : LabState) :
    LabState :=
  match command, status with
  | .sleep interval jitter, .completed => s.applySettings nodeId interval jitter
  | _, _ => s

/-- Everything `submit_result` writes about an accepted result before the refresh. -/
def acceptedResult (w : World) (n : Node) (t : Task) (status : ResultStatus) (result : Json)
    (now : Instant) (s : LabState) : LabState :=
  ((s.storeResult w n t status result now).applyCommand n.id t.command status).announceResult w t
    status

/-- A queued task of a contained exercise, with the playbook it would have run. -/
def cancelContained (w : World) (id : PyStr) (t : Task) (p : Playbook) (actor : PyStr)
    (s : LabState) : LabState :=
  (s.containedTask w t).containTask w id t p actor

/-- The tail of `reset`. -/
def announceReset (w : World) (actor : PyStr) (s : LabState) : LabState :=
  s.cleared
    |>.recordLocked w
      { kind := .labReset, actor := actor, data := [("sessions_invalidated", .bool true)] }
    |>.auditLocked w
      { action := .labReset, actor := actor, outcome := "success"
        reason := some "sessions_invalidated" }

/-- An operator note in both histories. -/
def announceNote (w : World) (actor message : PyStr) (s : LabState) : LabState :=
  s.recordLocked w
      { kind := .operatorNote, actor := actor, data := [("message", .str message)] }
    |>.auditLocked w
      { action := .operatorNote, actor := actor, outcome := "accepted"
        reason := some "shared_event_feed" }

/-- No task of a node is queued or dispatched. -/
def NoLiveTask (nodeId : PyStr) (s : LabState) : Prop :=
  ∀ {id t}, s.tasks.get? id = some t → t.nodeId = nodeId → t.status.isTerminal = true

/-- The guards under which a task is created. -/
structure Admits (w : World) (spec : TaskSpec) (n : Node) (s : LabState) : Prop where
  node : s.nodes.get? spec.nodeId = some n
  active : n.sessionActive = true
  unpaused : n.taskingPaused = false
  capable : spec.command.taskType ∈ n.capabilities
  valid : spec.command.Valid w.toInterp
  playbook : spec.exerciseId ≠ none → ∃ p, spec.command = .runPlaybook p
  room : s.tasks.size < maxTasks
  queue_room : s.countQueued spec.nodeId (fun _ => true) < maxQueuedTasksPerNode
  playbook_room : spec.command.taskType = .runPlaybook →
    s.countQueued spec.nodeId (fun t => t.command.taskType = .runPlaybook) <
      maxQueuedPlaybooksPerNode
  key_new : spec.idempotencyKey ≠ none → s.taskWithKey spec.idempotencyKey = none

/-- A new task in the table and in both histories; a task of an exercise reads the clock once more,
    for the timeline. -/
def addTask (w : World) (spec : TaskSpec) (now : Instant) (reason : Option String)
    (s : LabState) : LabState :=
  let t := s.newTask w spec now
  (if spec.exerciseId.isSome then (s.insertTask t).tick else s.insertTask t).announceTask w t reason

/-- The guards under which a task is first delivered. -/
structure Turn (t : Task) (s : LabState) : Prop where
  unpaused : ∃ n, s.nodes.get? t.nodeId = some n ∧ n.taskingPaused = false
  idle : s.activeTask t.nodeId = none
  first : s.nextTask t.nodeId = some t

/-- The operation keys once some were evicted. -/
def keysKept (evicted : List PyStr) (s : LabState) : Dict PyStr OperationRecord :=
  evicted.foldl Dict.erase s.operationIdempotency

/-- The guards under which an operation key is stored. -/
structure KeyRoom (key : Option PyStr) (evicted : List PyStr) (s : LabState) : Prop where
  key_new : ∀ k, key = some k → s.operationIdempotency.get? k = none
  room : key ≠ none → (s.keysKept evicted).size < maxOperationIdempotencyRecords

/-- The exercise keys once an exercise was started. -/
def exerciseKeys (key : Option PyStr) (e : Exercise) (s : LabState) :
    Dict PyStr (PyStr × PyStr × ScenarioId × PyStr) :=
  match key with
  | none => s.exerciseIdempotency
  | some k => s.exerciseIdempotency.set k (e.createdBy, e.nodeId, e.scenarioId, e.id)

/-- The guards under which an exercise is stored. -/
structure ExerciseRoom (key : Option PyStr) (s : LabState) : Prop where
  key_new : ∀ k, key = some k → s.exerciseIdempotency.get? k = none
  room : s.exercises.size < maxExercises

/-- The node a `PAUSE_NODE_TASKING` is about takes no new work, if it is retained. -/
def PausedFor (action : ContainmentAction) (nodeId : PyStr) (s : LabState) : Prop :=
  action = .pauseNodeTasking → ∀ n, s.nodes.get? nodeId = some n → n.taskingPaused = true

/-- The status of an exercise whose tasks all ended. -/
def finalStatus (e : Exercise) (s : LabState) : ExerciseStatus :=
  if (e.taskIds.map s.tasks.get?).all didComplete then .completed else .failed

end LabState

/-- An exercise `start_exercise` has not stored yet, its tasks running the playbooks in `done`. -/
structure Exercise.Drafted (w : World) (s : LabState) (e : Exercise) (done : List Playbook) :
    Prop where
  id_drawn : ∃ k < s.draws, e.id = w.exerciseId k
  id_new : w.FreshBelow s.draws → s.exercises.get? e.id = none
  status_eq : e.status = .running
  alerts_eq : e.alerts = []
  detected_eq : e.detected = false
  containment_eq : e.containment = none
  observed_eq : e.observedTaskIds = []
  completion_eq : e.completionRecorded = false
  nodup : w.FreshBelow s.draws → e.taskIds.Nodup
  taskIds_drawn : ∀ id ∈ e.taskIds, ∃ k < s.draws, id = w.taskId k
  tasks : w.FreshBelow s.draws → List.Forall₂ (fun id p => ∃ t, s.tasks.get? id = some t ∧
    t.status = .queued ∧ t.command = .runPlaybook p ∧ t.exerciseId = some e.id ∧
    t.nodeId = e.nodeId) e.taskIds done
  length_eq : e.timeline.length = 1 + e.taskIds.length
  sequence_eq : e.timelineSequence = e.timeline.length
  numbered : e.timeline.map (·.sequence) = List.range' 1 e.timeline.length
  no_evidence : ∀ x ∈ e.timeline, x.item.kind = .exerciseStarted ∨ x.item.kind = .task .queued

/-- What `start_exercise` has prepared when it stores the exercise. -/
abbrev Exercise.Prepared (w : World) (s : LabState) (e : Exercise) : Prop :=
  e.Drafted w s (scenarioDefinition e.scenarioId).playbooks

/-! ### The writes -/

/-- One write of the program, by the part of it at work. -/
inductive Write (w : World) (s : LabState) : Activity → LabState → Prop
  | tick (c : Activity) : Write w s c s.tick
  | expireTask {t : Task} (ht : s.tasks.get? t.id = some t) (hq : t.status = .queued) :
      Write w s .expiry (s.expireTask w t)
  | timeoutTask {t : Task} (ht : s.tasks.get? t.id = some t) (hd : t.status = .dispatched) :
      Write w s .expiry (s.timeoutTask w t)
  | failTask {c : Activity} {n : Node} {t : Task} (hc : c = .expiry ∨ c = .disconnect)
      (hn : s.nodes.get? n.id = some n)
      (ht : s.tasks.get? t.id = some t) (hnode : t.nodeId = n.id)
      (hl : t.status.isTerminal = false) (reason message : String) :
      Write w s c (s.failTask w n t reason message)
  | staleNode {n : Node} (hn : s.nodes.get? n.id = some n) (ho : n.status = .online) :
      Write w s .expiry (s.staleNode w n)
  | closeSession {n : Node} (hn : s.nodes.get? n.id = some n) (ho : n.status = .offline)
      (ha : n.sessionActive = true) (hl : s.NoLiveTask n.id) :
      Write w s .expiry (s.closeSession w n)
  | observeEnded {e : Exercise} {t : Task} {p : Playbook} (he : s.exercises.get? e.id = some e)
      (hm : t.id ∈ e.taskIds) (hu : t.id ∉ e.observedTaskIds) (ht : s.tasks.get? t.id = some t)
      (hterm : t.status.isTerminal = true) (hp : t.command = .runPlaybook p) :
      Write w s .refresh (s.observeEnded w e t p)
  | completeExercise {e : Exercise} (he : s.exercises.get? e.id = some e)
      (hs : e.status ≠ .contained) (hc : e.completionRecorded = false)
      (hall : ∀ id ∈ e.taskIds, id ∈ e.observedTaskIds ∧
        ∃ t, s.tasks.get? id = some t ∧ t.status.isTerminal = true) :
      Write w s .refresh (s.completeExercise w e (s.finalStatus e))
  | wakeNode {n : Node} (hn : s.nodes.get? n.id = some n) (now : Instant) :
      Write w s .poll (s.wakeNode w n now)
  | heartbeatNode {n : Node} (hn : s.nodes.get? n.id = some n) (now : Instant) :
      Write w s .poll (s.heartbeatNode w n now)
  | redeliverTask {t : Task} (ht : s.tasks.get? t.id = some t) (hd : t.status = .dispatched) :
      Write w s .poll (s.redeliverTask w t)
  | dispatchTask {t : Task} (ht : s.tasks.get? t.id = some t) (hq : t.status = .queued)
      (hturn : s.Turn t) (now : Instant) : Write w s .dispatch (s.dispatchTask w t now)
  | rejectResult (r : NodeTask) (reason : String) :
      Write w s .reject (s.rejectResultLocked w r reason)
  | acceptedResult {n : Node} {t : Task} {status : ResultStatus} {sent : Document} {result : Json}
      (hn : s.nodes.get? n.id = some n) (ht : s.tasks.get? t.id = some t)
      (hnode : t.nodeId = n.id) (hd : t.status = .dispatched)
      (hv : validateTaskResult w.toInterp t.command (Vocabulary.toJson status) sent.1
        (some n.expectedRuntime) = .ok (status, result)) (now : Instant) :
      Write w s .result (s.acceptedResult w n t status result now)
  | disconnectedNode {n : Node} (hn : s.nodes.get? n.id = some n) (hl : s.NoLiveTask n.id) :
      Write w s .disconnect (s.disconnectedNode w n n.status)
  | pruneNode {n : Node} (hn : s.nodes.get? n.id = some n) (hc : n.sessionActive = false) :
      Write w s .enroll (s.pruneNode w n)
  | addNode {e : Enrollment} {name version profile capabilities interval jitter : Json}
      (hv : validateEnrollment w.toInterp name version profile capabilities interval jitter = .ok e)
      (now : Instant) : Write w s .enroll (s.addNode w (s.newNode w e now))
  | pruneTask {t : Task} (ht : s.tasks.get? t.id = some t) (hterm : t.status.isTerminal = true)
      (hr : taskIsRequiredByRunningExerciseLocked t s = false) :
      Write w s .prune (s.pruneTerminalTaskLocked w t)
  | addTask {spec : TaskSpec} {n : Node} (ha : s.Admits w spec n) (now : Instant)
      (reason : Option String) : Write w s .create (s.addTask w spec now reason)
  | announceOperation (nodeId actor operationId : PyStr) (taskIds : List PyStr) :
      Write w s .create (s.announceOperation w nodeId actor operationId taskIds)
  | rememberOperation {key : Option PyStr} {evicted : List PyStr} (hk : s.KeyRoom key evicted)
      (r : OperationRecord) : Write w s .create (s.rememberOperation key evicted r)
  | insertExercise {e : Exercise} {key : Option PyStr} (he : e.Prepared w s)
      (hk : s.ExerciseRoom key) : Write w s .create (s.insertExercise w e key)
  | cancelledTask {t : Task} (ht : s.tasks.get? t.id = some t) (hq : t.status = .queued)
      (actor : PyStr) : Write w s .cancel (s.cancelledTask w t actor)
  | cancelContained {e : Exercise} {t : Task} {p : Playbook}
      (he : s.exercises.get? e.id = some e) (hs : e.status ≠ .contained) (hm : t.id ∈ e.taskIds)
      (ht : s.tasks.get? t.id = some t) (hq : t.status = .queued) (hp : t.command = .runPlaybook p)
      (actor : PyStr) : Write w s .contain (s.cancelContained w e.id t p actor)
  | pauseNode {n : Node} (hn : s.nodes.get? n.id = some n) (exerciseId actor : PyStr) :
      Write w s .contain (s.pauseNode w n exerciseId actor)
  | applyContainment {e : Exercise} (he : s.exercises.get? e.id = some e)
      (hs : e.status ≠ .contained) (hd : e.detected = true)
      (hq : ∀ id ∈ e.taskIds, ∀ t, s.tasks.get? id = some t → t.status ≠ .queued)
      {action : ContainmentAction} (hp : s.PausedFor action e.nodeId) (actor : PyStr) :
      Write w s .contain (s.applyContainment w e action actor)
  | announceNote (hroom : s.retainedNotes < maxOperatorNotesRetained) (actor message : PyStr) :
      Write w s .note (s.announceNote w actor message)
  | rememberNote {keys : Dict PyStr (PyStr × PyStr × PyStr)}
      (hsize : keys.size ≤ max s.noteIdempotency.size maxOperatorNotesRetained) :
      Write w s .note { s with noteIdempotency := keys }
  | announceReset (actor : PyStr) : Write w s .reset (s.announceReset w actor)

/-- Several writes in a row by the given parts of the program. -/
def Writes (w : World) (acts : List Activity) : LabState → LabState → Prop :=
  Relation.ReflTransGen fun a b => ∃ c ∈ acts, Write w a c b

end C2Lab
