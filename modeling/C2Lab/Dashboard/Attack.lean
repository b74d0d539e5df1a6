import C2Lab.Dashboard.Catalog

/-! The attack graph: the steps of a scenario, as its catalog plans them or as an exercise went.

    The steps are chained by anchors, the last entities of one being where the relations to the next
    one start. Entities and relations of a step are functions of its own, so that the loop over the
    playbooks only threads the anchors and the layer. -/

namespace C2Lab

/-- Where the relations to the next entity start. -/
structure GraphAnchor where
  id : JsString
  observed : Bool

/-- What the loop over the playbooks reads; `node` is `null` where there is none. -/
structure AttackContext where
  focusValue : JsString
  scenario : GraphScenario
  node : JsValue
  allTasks : List JsValue
  exerciseTaskIds : List JsValue
  exerciseTimeline : List JsValue
  alerts : List JsValue

/-- What the loop computes of the task of one playbook; `task` may be `undefined`. -/
structure AttackTask where
  task : JsValue
  representedTaskId : JsValue
  retainedTerminalItem : JsValue
  taskStatus : JsValue
  taskCompleted : Bool
  taskObserved : Bool
  taskId : JsString

/-- The kinds of a timeline entry that tell how a task ended. -/
def terminalItemKinds : List String :=
  ["task.completed", "task.failed", "task.cancelled", "task.timeout", "task.expired"]

/-- `retainedTechniqueIdsForTask`. -/
def retainedTechniqueIdsForTask (timeline : List JsValue) (taskId : JsValue) : List JsString :=
  JsSet.of ((timeline.filter fun item => (item.get "task_id").strictEq taskId &&
    (item.get "kind").strictEq "technique.observed").filterMap
      fun item => knownId graphTechniqueIds (item.get "technique_id"))

/-- The name `scenarioTechnique` finds for a technique. -/
def scenarioTechniqueName (scenario : GraphScenario) (techniqueId fallbackName : JsString) :
    JsString :=
  let technique := scenario.techniques.find? fun candidate => candidate.id = techniqueId
  ((technique.map GraphTechnique.name).getD .empty).or (fallbackName.or techniqueId)

section
variable (js : JsRuntime) (c : AttackContext)

/-! ### The task of a playbook -/

namespace AttackContext

/-- `candidate.payload?.playbook === playbook`. -/
def runsPlaybook (candidate : JsValue) (playbook : JsString) : Bool :=
  ((candidate.get "payload").get "playbook").strictEq playbook

/-- `tasksById.get(id)`: of several tasks with the id, the last. -/
def tasksById (id : JsValue) : JsValue :=
  .find c.allTasks.reverse fun task => (task.get "id").sameValueZero id

/-- `expectedTaskId`. -/
def expectedTaskId (playbookIndex : ℕ) : JsValue :=
  (c.exerciseTaskIds[playbookIndex]?.getD .undefined).or ""

/-- `task`. -/
def task (playbook : JsString) (playbookIndex : ℕ) : JsValue :=
  let expectedTask := c.tasksById (c.expectedTaskId playbookIndex)
  if (expectedTask.get "type").strictEq "RUN_PLAYBOOK" ∧ runsPlaybook expectedTask playbook then
    expectedTask
  else
    .find c.allTasks fun candidate =>
      c.exerciseTaskIds.any (·.sameValueZero (candidate.get "id")) &&
        runsPlaybook candidate playbook

/-- `representedTaskId`. -/
def representedTaskId (playbook : JsString) (playbookIndex : ℕ) : JsValue :=
  ((c.task playbook playbookIndex).get "id").or (c.expectedTaskId playbookIndex)

/-- The constants at the start of the loop's body. -/
def attackTask (playbook : JsString) (playbookIndex : ℕ) : AttackTask :=
  let task := c.task playbook playbookIndex
  let representedTaskId := c.representedTaskId playbook playbookIndex
  let retainedTerminalItem := JsValue.find c.exerciseTimeline fun item =>
    (item.get "task_id").strictEq representedTaskId &&
      (knownId terminalItemKinds (item.get "kind")).isSome
  let retainedTaskStatus : JsString :=
    ((retainedTerminalItem.get "kind").asString.getD .empty).slice 5
  let taskStatus := (task.get "status").or ((retainedTaskStatus : JsValue).or
    (if representedTaskId.truthy then "unknown" else "planned"))
  { task := task, representedTaskId := representedTaskId
    retainedTerminalItem := retainedTerminalItem, taskStatus := taskStatus
    taskCompleted := taskStatus.strictEq "completed"
    taskObserved := task.truthy || representedTaskId.truthy
    taskId :=
      if representedTaskId.truthy then ("task:" : JsString) ++ js.toText representedTaskId
      else ("attack-task:" : JsString) ++ c.focusValue ++ (":" : JsString) ++ .ofNat playbookIndex }

end AttackContext

def attackTaskEntity (t : AttackTask) (playbook : JsString) (playbookIndex layer : ℕ) :
    GraphEntity :=
  graphEntity js t.taskId .task
    (t.representedTaskId.or (("Planned task " : JsString) ++ JsString.ofNat (playbookIndex + 1)))
    (if t.taskObserved then js.toUpperCase (js.toText t.taskStatus) else "NOT QUEUED")
    (if t.taskObserved then normalizedGraphStatus js t.taskStatus else "planned") layer
    [("Task ID", t.representedTaskId.or "未作成"),
      ("Playbook", playbook),
      ("Status", t.taskStatus),
      ("Correlation", (t.task.get "correlation_id").or "—"),
      ("Operation", (t.task.get "operation_id").or "—"),
      ("Operation step", (t.task.get "operation_step").integerOr "—"),
      ("Evidence", if t.task.truthy then "current task record"
        else if t.retainedTerminalItem.truthy then "retained exercise timeline"
        else "catalog preview")]
    (if t.task.truthy then some (.task (t.task.get "id")) else none)

def attackTaskRelation (t : AttackTask) (playbookIndex : ℕ) (anchor : GraphAnchor) :
    GraphRelation :=
  graphRelation (("attack:" : JsString) ++ anchor.id ++ (":" : JsString) ++ t.taskId) anchor.id
    t.taskId (if playbookIndex = 0 then "EXECUTES" else "NEXT STEP") t.taskObserved

/-! ### The playbook -/

/-- `playbookId`. -/
def attackPlaybookId (playbook : JsString) (playbookIndex : ℕ) : JsString :=
  ("attack-playbook:" : JsString) ++ c.focusValue ++ (":" : JsString) ++ .ofNat playbookIndex ++
    (":" : JsString) ++ playbook

def attackPlaybookEntity (t : AttackTask) (playbook : JsString) (playbookIndex layer : ℕ) :
    GraphEntity :=
  graphEntity js (attackPlaybookId c playbook playbookIndex) .playbook playbook
    "FIXED PURPLE LAB PLAYBOOK" (if t.taskCompleted then "observed" else "planned") (layer + 1)
    [("Playbook", playbook),
      ("Input", "fixed identifier only"),
      ("Task", t.representedTaskId.or "catalog preview"),
      ("Execution", if t.taskCompleted then
        if t.task.truthy then "validated result received" else "retained exercise evidence"
        else "planned")]
    (some (.playbook playbook ((c.node.get "id").or "")))

def attackPlaybookRelation (t : AttackTask) (playbook : JsString) (playbookIndex : ℕ) :
    GraphRelation :=
  let playbookId := attackPlaybookId c playbook playbookIndex
  graphRelation (("attack:" : JsString) ++ t.taskId ++ (":" : JsString) ++ playbookId) t.taskId
    playbookId "RUNS" t.taskCompleted

/-! ### Its techniques -/

/-- `resultTechniques`. -/
def resultTechniques (t : AttackTask) : List GraphTechnique :=
  if (t.task.get "status").strictEq "completed" then
    normalizeTechniqueRecords js ((t.task.get "result").get "attack_techniques")
  else []

/-- `!representedTaskId || candidate.task_id === representedTaskId`. -/
def alertOfTask (t : AttackTask) (candidate : JsValue) : Bool :=
  !t.representedTaskId.truthy || (candidate.get "task_id").strictEq t.representedTaskId

/-- `alertTechniqueIds`. -/
def alertTechniqueIds (t : AttackTask) : List JsString :=
  JsSet.of ((c.alerts.filter (alertOfTask t)).filterMap
    fun candidate => knownId graphTechniqueIds (candidate.get "technique_id"))

/-- The union `observedTechniqueIds`. -/
def observedTechniqueIds (t : AttackTask) : List JsString :=
  JsSet.of ((resultTechniques js t).map (·.id) ++
    retainedTechniqueIdsForTask c.exerciseTimeline t.representedTaskId ++ alertTechniqueIds c t)

/-- `rules`. -/
def playbookRules (playbook : JsString) : List GraphDetection :=
  c.scenario.detections.filter (·.playbook = playbook)

/-- `techniqueIds`. -/
def techniqueIds (t : AttackTask) (playbook : JsString) : List JsString :=
  (JsSet.of ((playbookRules c playbook).map (·.techniqueId) ++
    (resultTechniques js t).map (·.id) ++
    retainedTechniqueIdsForTask c.exerciseTimeline t.representedTaskId ++
    alertTechniqueIds c t)).filter (· ∈ graphTechniqueIds.map JsString.ofString)

/-- `techniqueEntityId`. -/
def techniqueEntityId (playbookIndex : ℕ) (techniqueId : JsString) : JsString :=
  ("attack-technique:" : JsString) ++ c.focusValue ++ (":" : JsString) ++ .ofNat playbookIndex ++
    (":" : JsString) ++ techniqueId

def techniqueEntity (t : AttackTask) (playbookIndex layer : ℕ) (techniqueId : JsString) :
    GraphEntity :=
  let results := resultTechniques js t
  let resultTechnique := results.find? fun candidate => candidate.id = techniqueId
  let name := scenarioTechniqueName c.scenario techniqueId
    ((resultTechnique.map GraphTechnique.name).getD .empty)
  graphEntity js (techniqueEntityId c playbookIndex techniqueId) .technique techniqueId name
    (if techniqueId ∈ observedTechniqueIds js c t then "observed" else "planned") (layer + 2)
    [("Technique", techniqueId),
      ("Name", name),
      ("Mapping", "educational-only"),
      ("Source",
        if techniqueId ∈ results.map (·.id) then "validated task result"
        else if techniqueId ∈ retainedTechniqueIdsForTask c.exerciseTimeline t.representedTaskId
        then "retained exercise timeline"
        else if techniqueId ∈ alertTechniqueIds c t then "retained exercise alert"
        else "fixed scenario catalog")]
    none

/-- The anchor pushed to `techniqueAnchors`. -/
def techniqueAnchor (t : AttackTask) (playbookIndex : ℕ) (techniqueId : JsString) : GraphAnchor :=
  { id := techniqueEntityId c playbookIndex techniqueId
    observed := techniqueId ∈ observedTechniqueIds js c t }

def techniqueRelation (t : AttackTask) (playbook : JsString) (playbookIndex : ℕ)
    (techniqueId : JsString) : GraphRelation :=
  let playbookId := attackPlaybookId c playbook playbookIndex
  let anchor := techniqueAnchor js c t playbookIndex techniqueId
  graphRelation (("attack:" : JsString) ++ playbookId ++ (":" : JsString) ++ anchor.id) playbookId
    anchor.id "MAPS TO" anchor.observed

/-! ### Its detections -/

/-- `alert`. -/
def ruleAlert (t : AttackTask) (rule : GraphDetection) : JsValue :=
  .find c.alerts fun candidate =>
    (candidate.get "rule_id").strictEq rule.id && alertOfTask t candidate

/-- `detectionId`. -/
def detectionId (rule : GraphDetection) : JsString :=
  ("attack-detection:" : JsString) ++ c.focusValue ++ (":" : JsString) ++ rule.id

def detectionEntity (t : AttackTask) (layer : ℕ) (rule : GraphDetection) : GraphEntity :=
  let alert := ruleAlert c t rule
  graphEntity js (detectionId c rule) .detection rule.name
    (JsString.join " · " ([rule.sourceId, rule.techniqueId].filter (· ≠ .empty)))
    (if alert.truthy then
      if (alert.get "status").strictEq "contained" then "contained" else "detected"
      else "planned")
    (layer + 3)
    [("Rule", rule.id),
      ("Source", rule.sourceId.or "—"),
      ("Signal", rule.signal.or "—"),
      ("Severity", rule.severity.or "—"),
      ("Alert", (alert.get "id").or "not observed")]
    none

/-- The anchor pushed to `detectionAnchors`. -/
def detectionAnchor (t : AttackTask) (rule : GraphDetection) : GraphAnchor :=
  { id := detectionId c rule, observed := (ruleAlert c t rule).truthy }

/-- Where the relation to a detection starts: at its technique, or else at the playbook. -/
def detectionSource (t : AttackTask) (playbook : JsString) (playbookIndex : ℕ)
    (rule : GraphDetection) : GraphAnchor :=
  let techniqueAnchors :=
    (techniqueIds js c t playbook).map (techniqueAnchor js c t playbookIndex)
  (techniqueAnchors.find? (·.id.endsWith ((":" : JsString) ++ rule.techniqueId))).getD
    { id := attackPlaybookId c playbook playbookIndex, observed := t.taskCompleted }

def detectionRelation (t : AttackTask) (playbook : JsString) (playbookIndex : ℕ)
    (rule : GraphDetection) : GraphRelation :=
  let source := detectionSource js c t playbook playbookIndex rule
  let anchor := detectionAnchor c t rule
  graphRelation (("attack:" : JsString) ++ source.id ++ (":" : JsString) ++ anchor.id) source.id
    anchor.id "OBSERVED BY" anchor.observed

/-! ### The loop -/

/-- What the loop over the playbooks updates. -/
structure AttackState where
  anchors : List GraphAnchor
  containmentAnchors : List GraphAnchor
  layer : ℕ
  entities : List GraphEntity
  edges : List GraphRelation

/-- What one playbook pushes to `entities`. -/
def stepEntities (playbook : JsString) (playbookIndex layer : ℕ) : List GraphEntity :=
  let t := c.attackTask js playbook playbookIndex
  attackTaskEntity js t playbook playbookIndex layer ::
    attackPlaybookEntity js c t playbook playbookIndex layer ::
      ((techniqueIds js c t playbook).map (techniqueEntity js c t playbookIndex layer) ++
        (playbookRules c playbook).map (detectionEntity js c t layer))

/-- What it pushes to `edges`. -/
def stepRelations (anchors : List GraphAnchor) (playbook : JsString) (playbookIndex : ℕ) :
    List GraphRelation :=
  let t := c.attackTask js playbook playbookIndex
  anchors.map (attackTaskRelation t playbookIndex) ++
    attackPlaybookRelation c t playbook playbookIndex ::
      ((techniqueIds js c t playbook).map (techniqueRelation js c t playbook playbookIndex) ++
        (playbookRules c playbook).map (detectionRelation js c t playbook playbookIndex))

/-- The anchors of one playbook for the next. -/
def stepAnchors (playbook : JsString) (playbookIndex : ℕ) : List GraphAnchor :=
  let t := c.attackTask js playbook playbookIndex
  let detectionAnchors := (playbookRules c playbook).map (detectionAnchor c t)
  let techniqueAnchors :=
    (techniqueIds js c t playbook).map (techniqueAnchor js c t playbookIndex)
  if detectionAnchors ≠ [] then detectionAnchors
  else if techniqueAnchors ≠ [] then techniqueAnchors
  else [{ id := attackPlaybookId c playbook playbookIndex, observed := t.taskCompleted }]

/-- The body of the loop over the playbooks. -/
def attackStep (state : AttackState) (step : JsString × ℕ) : AttackState :=
  { anchors := stepAnchors js c step.1 step.2
    containmentAnchors := state.containmentAnchors ++
      (playbookRules c step.1).map (detectionAnchor c (c.attackTask js step.1 step.2))
    layer := state.layer + 4
    entities := state.entities ++ stepEntities js c step.1 step.2 state.layer
    edges := state.edges ++ stepRelations js c state.anchors step.1 step.2 }

/-! ### The graph -/

/-- The first entity: the node of the exercise, or a placeholder. -/
def sourceEntity (exercise : JsValue) : GraphEntity :=
  let sourceObserved := exercise.truthy && c.node.truthy
  let scope := c.scenario.scope
  graphEntity js
    (if c.node.truthy then ("node:" : JsString) ++ js.toText (c.node.get "id")
      else ("attack-node:" : JsString) ++ c.scenario.id) .node
    ((c.node.get "name").or "Purple Lab Node")
    (if exercise.truthy then ("Exercise " : JsString) ++ js.toText (exercise.get "id")
      else "SCENARIO PLACEHOLDER")
    (if sourceObserved then normalizedGraphStatus js (c.node.get "status") else "planned") 0
    [("Scenario", c.scenario.id),
      ("Exercise", (exercise.get "id").or "catalog preview"),
      ("Node", (c.node.get "id").or "開始時に選択"),
      ("Workspace", scope.workspace.or "—"),
      ("Data", scope.data.or "—"),
      ("Host access", if scope.hostAccess then "false" else "unverified"),
      ("Network access", if scope.networkAccess then "false" else "unverified")]
    (if c.node.truthy then some (.node (c.node.get "id")) else none)

/-- `containmentId`. -/
def containmentId : JsString := ("attack-containment:" : JsString) ++ c.focusValue

/-- `containmentApplied`. -/
def containmentApplied (exercise : JsValue) : Bool :=
  ((exercise.get "containment").get "status").strictEq "applied"

def containmentEntity (exercise : JsValue) (layer : ℕ) : GraphEntity :=
  let applied := containmentApplied exercise
  let allowed := JsString.join " · " c.scenario.containmentActions
  let containment := exercise.get "containment"
  graphEntity js (containmentId c) .containment
    (if applied then "Containment applied" else "Containment options")
    (if applied then (containment.get "action").or "APPLIED" else allowed)
    (if applied then "contained" else "planned") layer
    [("State", if applied then "applied" else "not started"),
      ("Action", (containment.get "action").or "—"),
      ("Allowed", allowed),
      ("Actor", (containment.get "actor").or "—")]
    none

def containmentRelation (exercise : JsValue) (anchor : GraphAnchor) : GraphRelation :=
  graphRelation (("attack:" : JsString) ++ anchor.id ++ (":" : JsString) ++ containmentId c)
    anchor.id (containmentId c) "CONTAINED BY" (containmentApplied exercise && anchor.observed)

/-- What `buildAttackGraph` reads of the overview. -/
structure AttackOverview where
  nodes : JsValue
  tasks : JsValue
  exercises : JsValue

/-- `exercise`; `null` where there is none. -/
def focusedExercise (overview : AttackOverview) (focusValue : JsString) : JsValue :=
  if focusValue.startsWith "exercise:" then
    (JsValue.find overview.exercises.asArray fun candidate =>
      (candidate.get "id").strictEq (focusValue.slice 9)).or .null
  else .null

/-- `scenarioId`. -/
def focusedScenarioId (exercise : JsValue) (focusValue : JsString) : JsValue :=
  (exercise.get "scenario_id").or
    (if focusValue.startsWith "scenario:" then focusValue.slice 9 else JsString.empty)

/-- The constants before the loop. -/
def attackContext (overview : AttackOverview) (previewNodeId focusValue : JsString)
    (scenario : GraphScenario) : AttackContext :=
  let exercise := focusedExercise overview focusValue
  { focusValue := focusValue, scenario := scenario
    node := (JsValue.find overview.nodes.asArray fun candidate =>
      (candidate.get "id").strictEq ((exercise.get "node_id").or previewNodeId)).or .null
    allTasks := overview.tasks.asArray
    exerciseTaskIds := (exercise.get "task_ids").asArray
    exerciseTimeline := (exercise.get "timeline").asArray
    alerts := (exercise.get "alerts").asArray }

/-- `playbooks`. -/
def attackPlaybooks : List JsString :=
  (c.scenario.playbooks.filter (· ∈ operationPlaybooks.map JsString.ofString)).take 4

/-- The state after the loop over the playbooks. -/
def attackSteps (exercise : JsValue) : AttackState :=
  let source := sourceEntity js c exercise
  (attackPlaybooks c).zipIdx.foldl (attackStep js c)
    { anchors := [{ id := source.id, observed := exercise.truthy && c.node.truthy }]
      containmentAnchors := [], layer := 1, entities := [source], edges := [] }

/-- What comes after the loop over the playbooks. -/
def attackModel (exercise : JsValue) (state : AttackState) : GraphModel :=
  let contained := c.scenario.containmentActions ≠ []
  let sources :=
    if state.containmentAnchors ≠ [] then state.containmentAnchors else state.anchors
  let edges := state.edges ++
    if contained then sources.map (containmentRelation c exercise) else []
  let observedCount := (edges.filter (·.observed)).length
  { mode := .attack
    entities := state.entities ++
      if contained then [containmentEntity js c exercise state.layer] else []
    edges := edges
    summary := c.scenario.id ++ (" · " : JsString) ++
      (if exercise.truthy then ("Exercise " : JsString) ++ js.toText (exercise.get "id")
        else "catalog preview") ++
      (" · " : JsString) ++ .ofNat observedCount ++ (" OBSERVED / " : JsString) ++
      .ofNat (edges.length - observedCount) ++ (" PLANNED" : JsString) }

/-- `buildAttackGraph`; `catalog` is `currentScenarioCatalog`, and `previewNodeId` the value of
    `exerciseNodeSelect`. -/
def buildAttackGraph (catalog : List GraphScenario) (previewNodeId : JsString)
    (overview : AttackOverview) (focusValue : JsString) : GraphModel :=
  let exercise := focusedExercise overview focusValue
  let scenarioId := focusedScenarioId exercise focusValue
  match catalog.find? fun candidate => JsValue.strictEq candidate.id scenarioId with
  | none =>
    { mode := .attack, entities := [], edges := []
      summary := "固定scenarioを選択してください。" }
  | some scenario =>
    let c := attackContext overview previewNodeId focusValue scenario
    attackModel js c exercise (attackSteps js c exercise)

end

end C2Lab
