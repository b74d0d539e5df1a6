import C2Lab.Dashboard.Attack

/-! The attack graph up to its texts: of the task of a playbook it shows how the task went and which
    techniques it observed, wherever the dashboard has these from. -/

namespace C2Lab

/-- An entity without its texts. -/
def GraphEntity.shape (e : GraphEntity) : JsString × GraphKind × JsString × ℕ :=
  (e.id, e.kind, e.status, e.layer)

/-- A relation without its text. -/
def GraphRelation.shape (e : GraphRelation) : JsString × JsString × JsString × Bool :=
  (e.id, e.source, e.target, e.observed)

/-- Two graphs with the same entities and relations, up to texts. -/
structure GraphModel.SameShape (g g' : GraphModel) : Prop where
  entities : g.entities.map GraphEntity.shape = g'.entities.map GraphEntity.shape
  edges : g.edges.map GraphRelation.shape = g'.edges.map GraphRelation.shape

variable {js : JsRuntime} {c : AttackContext} {tasks : List JsValue}

/-- The same context with other task records. -/
def AttackContext.withTasks (c : AttackContext) (tasks : List JsValue) : AttackContext :=
  { c with allTasks := tasks }

/-- What the graph shows of two tasks of one playbook is the same. -/
structure SameTask (js : JsRuntime) (c : AttackContext) (tasks : List JsValue)
    (playbook : JsString) (t t' : AttackTask) : Prop where
  taskId : t.taskId = t'.taskId
  representedTaskId : t.representedTaskId = t'.representedTaskId
  taskStatus : t.taskStatus = t'.taskStatus
  taskCompleted : t.taskCompleted = t'.taskCompleted
  taskObserved : t.taskObserved = t'.taskObserved
  techniques : techniqueIds js c t playbook = techniqueIds js (c.withTasks tasks) t' playbook
  observed : observedTechniqueIds js c t = observedTechniqueIds js (c.withTasks tasks) t'

namespace SameTask

variable {playbook : JsString} {t t' : AttackTask} (h : SameTask js c tasks playbook t t')
include h

theorem techniqueAnchor_eq (i : ℕ) (id : JsString) :
    techniqueAnchor js c t i id = techniqueAnchor js (c.withTasks tasks) t' i id := by
  simp only [techniqueAnchor, h.observed]
  rfl

theorem techniqueAnchors_eq (i : ℕ) :
    (techniqueIds js c t playbook).map (techniqueAnchor js c t i) =
      (techniqueIds js (c.withTasks tasks) t' playbook).map
        (techniqueAnchor js (c.withTasks tasks) t' i) := by
  rw [h.techniques]
  exact List.map_congr_left fun id _ => h.techniqueAnchor_eq i id

theorem ruleAlert_eq (rule : GraphDetection) :
    ruleAlert c t rule = ruleAlert (c.withTasks tasks) t' rule := by
  simp only [ruleAlert, alertOfTask, h.representedTaskId]
  rfl

theorem detectionAnchor_eq (rule : GraphDetection) :
    detectionAnchor c t rule = detectionAnchor (c.withTasks tasks) t' rule := by
  simp only [detectionAnchor, h.ruleAlert_eq]
  rfl

theorem detectionSource_eq (i : ℕ) (rule : GraphDetection) :
    detectionSource js c t playbook i rule =
      detectionSource js (c.withTasks tasks) t' playbook i rule := by
  simp only [detectionSource, h.techniqueAnchors_eq, h.taskCompleted]
  rfl

/-! ### Entities -/

theorem taskEntity_shape (i layer : ℕ) : (attackTaskEntity js t playbook i layer).shape =
    (attackTaskEntity js t' playbook i layer).shape := by
  simp only [attackTaskEntity, graphEntity, GraphEntity.shape, h.taskId, h.taskStatus,
    h.taskObserved]

theorem playbookEntity_shape (i layer : ℕ) : (attackPlaybookEntity js c t playbook i layer).shape =
    (attackPlaybookEntity js (c.withTasks tasks) t' playbook i layer).shape := by
  simp only [attackPlaybookEntity, graphEntity, GraphEntity.shape, h.taskCompleted]
  rfl

theorem techniqueEntity_shape (i layer : ℕ) (id : JsString) :
    (techniqueEntity js c t i layer id).shape =
      (techniqueEntity js (c.withTasks tasks) t' i layer id).shape := by
  simp only [techniqueEntity, graphEntity, GraphEntity.shape, h.observed]
  rfl

theorem detectionEntity_shape (layer : ℕ) (rule : GraphDetection) :
    (detectionEntity js c t layer rule).shape =
      (detectionEntity js (c.withTasks tasks) t' layer rule).shape := by
  simp only [detectionEntity, graphEntity, GraphEntity.shape, h.ruleAlert_eq]
  rfl

/-! ### Relations -/

theorem taskRelation_shape (i : ℕ) (anchor : GraphAnchor) :
    (attackTaskRelation t i anchor).shape = (attackTaskRelation t' i anchor).shape := by
  simp only [attackTaskRelation, graphRelation, GraphRelation.shape, h.taskId, h.taskObserved]

theorem playbookRelation_shape (i : ℕ) : (attackPlaybookRelation c t playbook i).shape =
    (attackPlaybookRelation (c.withTasks tasks) t' playbook i).shape := by
  simp only [attackPlaybookRelation, graphRelation, GraphRelation.shape, h.taskId, h.taskCompleted]
  rfl

theorem techniqueRelation_shape (i : ℕ) (id : JsString) :
    (techniqueRelation js c t playbook i id).shape =
      (techniqueRelation js (c.withTasks tasks) t' playbook i id).shape := by
  simp only [techniqueRelation, graphRelation, GraphRelation.shape, h.techniqueAnchor_eq]
  rfl

theorem detectionRelation_shape (i : ℕ) (rule : GraphDetection) :
    (detectionRelation js c t playbook i rule).shape =
      (detectionRelation js (c.withTasks tasks) t' playbook i rule).shape := by
  simp only [detectionRelation, graphRelation, GraphRelation.shape, h.detectionSource_eq,
    h.detectionAnchor_eq]

end SameTask

/-- The task of a step is shown the same with other task records. -/
def SameStep (js : JsRuntime) (c : AttackContext) (tasks : List JsValue) (step : JsString × ℕ) :
    Prop :=
  SameTask js c tasks step.1 (c.attackTask js step.1 step.2)
    ((c.withTasks tasks).attackTask js step.1 step.2)

namespace SameStep

variable {step : JsString × ℕ} (h : SameStep js c tasks step)
include h

theorem stepAnchors_eq :
    stepAnchors js c step.1 step.2 = stepAnchors js (c.withTasks tasks) step.1 step.2 := by
  have hdetections := List.map_congr_left (l := playbookRules c step.1)
    fun rule _ => h.detectionAnchor_eq rule
  simp only [stepAnchors, h.techniqueAnchors_eq, hdetections, h.taskCompleted]
  rfl

theorem stepEntities_shape (layer : ℕ) :
    (stepEntities js c step.1 step.2 layer).map GraphEntity.shape =
      (stepEntities js (c.withTasks tasks) step.1 step.2 layer).map GraphEntity.shape := by
  simp only [stepEntities, List.map_cons, List.map_append, List.map_map]
  refine congrArg₂ _ (h.taskEntity_shape _ layer) (congrArg₂ _ (h.playbookEntity_shape _ layer)
    (congrArg₂ _ ?_ (List.map_congr_left fun rule _ => h.detectionEntity_shape layer rule)))
  rw [h.techniques]
  exact List.map_congr_left fun id _ => h.techniqueEntity_shape _ layer id

theorem stepRelations_shape (anchors : List GraphAnchor) :
    (stepRelations js c anchors step.1 step.2).map GraphRelation.shape =
      (stepRelations js (c.withTasks tasks) anchors step.1 step.2).map GraphRelation.shape := by
  simp only [stepRelations, List.map_cons, List.map_append, List.map_map]
  refine congrArg₂ _ (List.map_congr_left fun anchor _ => h.taskRelation_shape _ anchor)
    (congrArg₂ _ (h.playbookRelation_shape _)
      (congrArg₂ _ ?_ (List.map_congr_left fun rule _ => h.detectionRelation_shape _ rule)))
  rw [h.techniques]
  exact List.map_congr_left fun id _ => h.techniqueRelation_shape _ id

end SameStep

/-! ### The loop -/

/-- Two states of the loop that differ in texts only. -/
structure AttackState.Alike (state state' : AttackState) : Prop where
  anchors : state.anchors = state'.anchors
  containmentAnchors : state.containmentAnchors = state'.containmentAnchors
  layer : state.layer = state'.layer
  entities : state.entities.map GraphEntity.shape = state'.entities.map GraphEntity.shape
  edges : state.edges.map GraphRelation.shape = state'.edges.map GraphRelation.shape

variable {state state' : AttackState}

theorem attackStep_alike (h : state.Alike state') {step : JsString × ℕ}
    (hstep : SameStep js c tasks step) :
    (attackStep js c state step).Alike (attackStep js (c.withTasks tasks) state' step) where
  anchors := hstep.stepAnchors_eq
  containmentAnchors := by
    simp only [attackStep, h.containmentAnchors]
    refine congrArg _ (List.map_congr_left fun rule _ => hstep.detectionAnchor_eq rule)
  layer := congrArg (· + 4) h.layer
  entities := by
    simp only [attackStep, List.map_append, h.entities, h.layer, hstep.stepEntities_shape]
  edges := by
    simp only [attackStep, List.map_append, h.edges, h.anchors, hstep.stepRelations_shape]

theorem foldl_attackStep_alike (h : state.Alike state') {steps : List (JsString × ℕ)}
    (hsteps : ∀ step ∈ steps, SameStep js c tasks step) :
    (steps.foldl (attackStep js c) state).Alike
      (steps.foldl (attackStep js (c.withTasks tasks)) state') := by
  induction steps generalizing state state' with
  | nil => exact h
  | cons step steps ih =>
    exact ih (attackStep_alike h (hsteps step List.mem_cons_self))
      fun s hs => hsteps s (List.mem_cons_of_mem _ hs)

/-- The graph is the same when it is the same at every step. -/
theorem attackModel_sameShape (exercise : JsValue)
    (hsteps : ∀ step ∈ (attackPlaybooks c).zipIdx, SameStep js c tasks step) :
    (attackModel js c exercise (attackSteps js c exercise)).SameShape
      (attackModel js (c.withTasks tasks) exercise
        (attackSteps js (c.withTasks tasks) exercise)) := by
  have hstate : (attackSteps js c exercise).Alike
      (attackSteps js (c.withTasks tasks) exercise) :=
    foldl_attackStep_alike ⟨rfl, rfl, rfl, rfl, rfl⟩ hsteps
  refine ⟨?_, ?_⟩
  · simp only [attackModel, List.map_append, hstate.entities, hstate.layer]
    rfl
  · simp only [attackModel, List.map_append, hstate.edges, hstate.anchors,
      hstate.containmentAnchors]
    rfl

end C2Lab
