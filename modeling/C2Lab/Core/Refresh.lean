import C2Lab.Core.Journal

/-! Exercise timelines and `_refresh_exercises_locked`.

    The refresh turns the terminal tasks of every exercise into evidence, alerts and, when the last
    one ended, into the exercise's own terminal state. -/

namespace C2Lab

/-- The append of `_append_exercise_timeline_locked`, refused once the timeline is full. -/
def Exercise.appendTimeline (e : Exercise) (time : Timestamp) (item : TimelineItem) : Exercise :=
  if maxExerciseTimeline ≤ e.timeline.length then e
  else
    { e with
      timelineSequence := e.timelineSequence + 1
      timeline := e.timeline ++ [⟨e.timelineSequence + 1, time, item⟩] }

namespace LabState

/-- `_append_exercise_timeline_locked`; the clock is read only when the entry is appended. -/
def appendExerciseTimelineLocked (w : World) (id : PyStr) (item : TimelineItem) (s : LabState) :
    LabState :=
  match s.exercises.get? id with
  | none => s
  | some e =>
    if maxExerciseTimeline ≤ e.timeline.length then s.refuseAppend
    else (s.setExercise (e.appendTimeline (w.utcNow s.draws) item)).tick

/-- `exercise["_observed_task_ids"].append(task_id)`. -/
def observeTask (id taskId : PyStr) (s : LabState) : LabState :=
  match s.exercises.get? id with
  | none => s
  | some e => s.setExercise { e with observedTaskIds := e.observedTaskIds ++ [taskId] }

/-- The first timeline entry about a task that ended. -/
def endedItem (t : Task) (playbook : Playbook) : TimelineItem :=
  { phase := .simulate, kind := .task t.status
    summary := s!"{Vocabulary.name playbook} {Vocabulary.name t.status}", taskId := some t.id }

/-- The timeline entry of an observed technique. -/
def techniqueItem (taskId : PyStr) (technique : String) : TimelineItem :=
  { phase := .simulate, kind := .techniqueObserved, summary := s!"{technique} observed"
    taskId := some taskId, techniqueId := some technique }

/-- The timeline entry of a matched rule. -/
def detectionItem (taskId : PyStr) (rule : DetectionRule) : TimelineItem :=
  { phase := .detect, kind := .detectionMatched, summary := rule.name, taskId := some taskId
    ruleId := some rule.id, techniqueId := some rule.techniqueId }

/-- The timeline entry of a terminal status. -/
def completionItem (status : ExerciseStatus) : TimelineItem :=
  { phase := .complete, kind := .exercise status, summary := s!"Exercise {status.name}" }

/-- Raise the alert of one rule, unless the exercise already has it. -/
def matchDetection (w : World) (id taskId : PyStr) (rule : DetectionRule) (s : LabState) :
    LabState :=
  match s.exercises.get? id with
  | none => s
  | some e =>
    if e.alerts.any (fun a => a.rule.id = rule.id) then s
    else
      let alert : Alert :=
        { id := w.alertId (s.draws + 1), rule := rule, isOpen := true
          detectedAt := w.utcNow s.draws, containedAt := none, taskId := taskId }
      s.tick.tick
        |>.setExercise { e with alerts := e.alerts ++ [alert], detected := true }
        |>.appendExerciseTimelineLocked w id (detectionItem taskId rule)
        |>.recordLocked w
          { kind := .exerciseDetected, level := .warning, nodeId := some e.nodeId
            taskId := some taskId, correlationId := some e.id
            data := [("exercise_id", .str e.id), ("scenario_id", Vocabulary.toJson e.scenarioId),
              ("rule_id", .str rule.id), ("source_id", .str rule.sourceId),
              ("technique_id", .str rule.techniqueId), ("severity", .str rule.severity),
              ("signal", .str rule.signal)] }
        |>.auditLocked w
          { action := .exerciseDetected, actor := "teamserver", nodeId := some e.nodeId
            taskId := some taskId, correlationId := some e.id, taskType := some .runPlaybook
            outcome := "detected", reason := some rule.id }

/-- Give an exercise its terminal status and say so. -/
def completeExercise (w : World) (e : Exercise) (status : ExerciseStatus) (s : LabState) :
    LabState :=
  s.tick
    |>.setExercise { e with
        completionRecorded := true, status := status, completedAt := some (w.utcNow s.draws) }
    |>.appendExerciseTimelineLocked w e.id (completionItem status)
    |>.recordLocked w
      { kind := .exercise status, level := if status = .completed then .info else .warning
        nodeId := some e.nodeId, correlationId := some e.id
        data := [("exercise_id", .str e.id), ("scenario_id", Vocabulary.toJson e.scenarioId),
          ("alerts", .int e.alerts.length)] }
    |>.auditLocked w
      { action := .exercise status, actor := "teamserver", nodeId := some e.nodeId
        correlationId := some e.id, outcome := status.name
        reason := some "scenario_tasks_terminal" }

end LabState

/-- `task["payload"]["playbook"]`. -/
def Task.playbook (t : Task) : Except Exc Playbook :=
  match t.command with
  | .runPlaybook p => .ok p
  | _ => .error (.py .keyError)

/-- `task["result"]["attack_techniques"]`, iterated. -/
def Task.attackTechniques (t : Task) : Except Exc (List Json) :=
  match t.result with
  | none => .error (.py .typeError)
  | some r =>
    match item r "attack_techniques" with
    | .ok (.arr xs) => .ok xs
    | .ok _ => .error (.py .typeError)
    | .error e => .error e

/-- The loop body over the techniques of a completed task: allowed ones go to the timeline. -/
def observeTechnique (w : World) (id : PyStr) (scenario : ScenarioId) (taskId : PyStr)
    (technique : Json) : Lab Unit := do
  let techniqueId ← check (item technique "id")
  let allowed ← check (LabRuntime.inSet techniqueId ((allowedTechniqueIds scenario).map .text))
  match allowed, techniqueId with
  | true, .str (.text t) =>
    modify fun s => s.appendExerciseTimelineLocked w id (LabState.techniqueItem taskId t)
  | _, _ => pure ()

/-- `_append_exercise_task_evidence_locked`. -/
def appendExerciseTaskEvidenceLocked (w : World) (e : Exercise) (t : Task) : Lab Unit := do
  let playbook ← check t.playbook
  modify fun s => s.appendExerciseTimelineLocked w e.id (LabState.endedItem t playbook)
  if t.status = .completed then
    let techniques ← check t.attackTechniques
    forM techniques (observeTechnique w e.id e.scenarioId t.id)

/-- The refresh of one exercise about one of its tasks. -/
def refreshTask (w : World) (id taskId : PyStr) : Lab Unit := do
  let s ← get
  match s.exercises.get? id with
  | none => pure ()
  | some e =>
    if taskId ∈ e.observedTaskIds then pure ()
    else
      match s.tasks.get? taskId with
      | none => pure ()
      | some t =>
        if t.status.isTerminal then
          modify fun s => s.observeTask id taskId
          if e.status = .contained then
            -- a task in flight when containment was applied: evidence, but no detection
            appendExerciseTaskEvidenceLocked w e t
          else
            let playbook ← check t.playbook
            appendExerciseTaskEvidenceLocked w e t
            if t.status = .completed then
              modify fun s => (detectionsForPlaybook e.scenarioId playbook).foldl
                (fun s rule => s.matchDetection w id taskId rule) s
        else pure ()

/-- `task is None or task["status"] not in TERMINAL_TASK_STATUSES`. -/
def unfinished : Option Task → Bool
  | none => true
  | some t => !t.status.isTerminal

/-- `task["status"] == "completed"`. -/
def didComplete : Option Task → Bool
  | none => false
  | some t => t.status = .completed

/-- The tail of the loop over exercises: all tasks present and terminal complete the exercise. -/
def recordCompletion (w : World) (id : PyStr) : Lab Unit := do
  let s ← get
  match s.exercises.get? id with
  | none => pure ()
  | some e =>
    let tasks := e.taskIds.map s.tasks.get?
    if tasks = [] ∨ tasks.any unfinished then pure ()
    else if e.completionRecorded then pure ()
    else
      modify fun s =>
        s.completeExercise w e (if tasks.all didComplete then .completed else .failed)

/-- The loop body of `_refresh_exercises_locked`; a contained exercise skips the completion. -/
def refreshExercise (w : World) (id : PyStr) : Lab Unit := do
  let s ← get
  match s.exercises.get? id with
  | none => pure ()
  | some e =>
    forM e.taskIds (refreshTask w id)
    if e.status = .contained then pure () else recordCompletion w id

/-- `_refresh_exercises_locked`. -/
def refreshExercisesLocked (w : World) : Lab Unit := do
  let s ← get
  forM s.exercises.keys (refreshExercise w)

end C2Lab
