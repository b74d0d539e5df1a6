import C2Lab.Core.Heard
import C2Lab.Twin.Operations

/-! Exercises and their containment, on a state and on its renamed twin. -/

namespace C2Lab

open Prog

variable {py : Interp} {ρ : Renaming py} {w w' : World} {s s' : LabState}

/-! ### Starting -/

namespace Renaming.Sim

theorem newExercise (h : ρ.Sim w w' s s') (nodeId : PyStr) (scenario : ScenarioId)
    (actor : PyStr) :
    s'.newExercise w' nodeId scenario (ρ.actor.name actor) =
      ρ.exercise (s.newExercise w nodeId scenario actor) := by
  simp only [LabState.newExercise, Renaming.exercise, World.exerciseId, h.ident, h.now_later,
    Option.map_none]

theorem insertExercise (h : ρ.Sim w w' s s') (e : Exercise) (key : Option PyStr) :
    ρ.Sim w w' (s.insertExercise w e key)
      (s'.insertExercise w' (ρ.exercise e) (key.map ρ.key.name)) := by
  have hstored : ρ.Sim w w' (s.setExercise e) (s'.setExercise (ρ.exercise e)) :=
    h.setExercise rfl
  have hactor : ρ.histories → (ρ.exercise e).createdBy = e.createdBy :=
    fun hρ => ρ.actor_name hρ e.createdBy
  cases key with
  | none =>
    refine (hstored.record fun hρ => ?_).audit fun hρ => ?_ <;> rw [hactor hρ] <;> rfl
  | some k =>
    have hkept : ρ.Sim w w'
        { s.setExercise e with
          exerciseIdempotency :=
            s.exerciseIdempotency.set k (e.createdBy, e.nodeId, e.scenarioId, e.id) }
        { s'.setExercise (ρ.exercise e) with
          exerciseIdempotency :=
            s'.exerciseIdempotency.set (ρ.key.name k)
              (ρ.exerciseKey (e.createdBy, e.nodeId, e.scenarioId, e.id)) } := by
      refine hstored.records rfl rfl rfl rfl fun hh => ?_
      refine ⟨hstored.nodes, hstored.tasks, hstored.tombstones, hstored.exercises, ?_,
        hstored.operations, hstored.taskSequence, hstored.streamId, hh⟩
      rw [h.exerciseKeys, Dict.rename_set]
    refine (hkept.record fun hρ => ?_).audit fun hρ => ?_ <;> rw [hactor hρ] <;> rfl

end Renaming.Sim

theorem twin_appendDraftTimeline (h : ρ.Sim w w' s s') (e : Exercise) (item : TimelineItem) :
    Alike (ρ.Sim w w') (fun e e' => e' = ρ.exercise e) (appendDraftTimeline w e item)
      (appendDraftTimeline w' (ρ.exercise e) item) s s' := by
  unfold appendDraftTimeline
  refine alike_get ?_
  refine alike_ite Iff.rfl (fun _ => ?_) fun hroom => ?_
  · exact alike_modify_bind h.refuseAppend fun hu => alike_pure hu rfl
  · refine alike_modify_bind h.tick fun hu => alike_pure hu ?_
    rw [h.now, Exercise.appendTimeline, Exercise.appendTimeline, if_neg hroom]
    exact if_neg hroom

theorem twin_createExerciseTasks (h : ρ.Sim w w' s s') (now : Instant) (e : Exercise)
    (playbooks : List Playbook) :
    Alike (ρ.Sim w w') (fun e e' => e' = ρ.exercise e) (createExerciseTasks w now e playbooks)
      (createExerciseTasks w' now (ρ.exercise e) playbooks) s s' := by
  induction playbooks generalizing s s' e with
  | nil => exact alike_pure h rfl
  | cons p playbooks ih =>
    have ht := h.newTask
      { nodeId := e.nodeId, command := .runPlaybook p, createdBy := e.createdBy
        queueTtlSeconds := defaultQueueTtlSeconds, exerciseId := some e.id } now
    simp only [Renaming.spec, Renaming.command, Option.map_none] at ht
    unfold createExerciseTasks
    refine alike_get ?_
    simp only [Renaming.exercise] at ht ⊢
    simp only [ht]
    refine alike_modify_bind (h.insertTask _) fun hu => ?_
    refine alike_bind (twin_appendDraftTimeline hu
      { e with taskIds := e.taskIds ++ [(s.newTask w _ now).id] } _) ?_
    rintro e _ u u' rfl hu
    exact alike_modify_bind (hu.announceTask _ _) fun hv => ih hv e

theorem twin_createExercise (h : ρ.Sim w w' s s') (nodeId : PyStr) (scenario : ScenarioId)
    (actor : PyStr) (key : Option PyStr) (now : Instant) :
    Alike (ρ.Sim w w') (fun e e' => e' = ρ.publicExercise e)
      (createExercise w nodeId scenario actor key now)
      (createExercise w' nodeId scenario (ρ.actor.name actor) (key.map ρ.key.name) now) s s' := by
  unfold createExercise
  refine alike_get ?_
  simp only [h.newExercise]
  refine alike_modify_bind h.tick.tick fun ht => ?_
  refine alike_bind (twin_appendDraftTimeline ht _ _) ?_
  rintro e _ u u' rfl hu
  refine alike_bind (twin_createExerciseTasks hu now e _) ?_
  rintro e _ v v' rfl hv
  exact alike_modify_bind (hv.insertExercise e key) fun hx => alike_pure hx rfl

namespace Renaming

/-- The checked arguments of `start_exercise`. -/
noncomputable def exerciseRequest (ρ : Renaming py) (r : ExerciseRequest) : ExerciseRequest :=
  { r with actor := ρ.actor.name r.actor, idempotencyKey := r.idempotencyKey.map ρ.key.name }

theorem validateExerciseRequest_arg (nodeId scenario actor key : Json) :
    validateExerciseRequest nodeId scenario (ρ.actorArg actor) (ρ.keyArg key) =
      (validateExerciseRequest nodeId scenario actor key).map ρ.exerciseRequest := by
  unfold validateExerciseRequest
  rw [ρ.validate_keyArg, ρ.validate_actorArg]
  cases requireStr nodeId "node_id must be a string" with
  | error e => rfl
  | ok nodeId =>
    cases (Vocabulary.parse scenario : Option ScenarioId) with
    | none => rfl
    | some scenario =>
      cases validateOperatorActor actor with
      | error e => rfl
      | ok actor => cases validateIdempotencyKey key <;> rfl

end Renaming

theorem Renaming.Sim.exerciseKey_get? (h : ρ.Sim w w' s s') (key : Option PyStr) :
    (key.map ρ.key.name).bind s'.exerciseIdempotency.get? =
      (key.bind s.exerciseIdempotency.get?).map ρ.exerciseKey := by
  cases key with
  | none => rfl
  | some k => simp only [Option.map_some, Option.bind_some, h.exerciseKeys, Dict.get?_rename]

theorem twin_startNewExercise (h : ρ.Sim w w' s s') (r : ExerciseRequest) (now : Instant) :
    Alike (ρ.Sim w w') (fun e e' => e' = ρ.publicExercise e) (startNewExercise w r now)
      (startNewExercise w' (ρ.exerciseRequest r) now) s s' := by
  unfold startNewExercise
  refine alike_bind (twin_requireTaskableNode h r.nodeId false) ?_
  rintro n _ t t' rfl ht
  refine alike_bind (alike_require _ Iff.rfl ht) fun _ _ u u' _ hu => ?_
  refine alike_get ?_
  refine alike_bind (alike_require _ (by rw [hu.exercises, Dict.size_map]) hu)
    fun _ _ v v' _ hv => ?_
  refine alike_bind (pair_requireQueueRoom r.nodeId _ _ _ hv) fun _ _ x x' _ hx => ?_
  refine alike_bind (pair_makeTaskSlots _ _ _ hx) fun _ _ y y' _ hy => ?_
  exact twin_createExercise hy r.nodeId r.scenarioId r.actor r.idempotencyKey now

/-- `start_exercise`. -/
theorem twin_startExercise (h : ρ.Sim w w' s s') (nodeId scenario actor key : Json)
    (now : Instant) :
    Alike (ρ.Sim w w') (fun e e' => e' = ρ.publicExercise e)
      (startExercise w nodeId scenario actor key now)
      (startExercise w' nodeId scenario (ρ.actorArg actor) (ρ.keyArg key) now) s s' := by
  unfold startExercise
  refine alike_bind (alike_check h (ρ.validateExerciseRequest_arg nodeId scenario actor key)
    fun r _ => rfl) ?_
  rintro r _ t t' rfl ht
  refine alike_get ?_
  have hkey : (ρ.exerciseRequest r).idempotencyKey = r.idempotencyKey.map ρ.key.name := rfl
  rw [hkey, ht.exerciseKey_get?]
  cases r.idempotencyKey.bind t.exerciseIdempotency.get? with
  | none => exact twin_startNewExercise ht r now
  | some x =>
    obtain ⟨actor, nodeId, scenario, id⟩ := x
    refine alike_ite ?_ (fun _ => ?_) fun _ => alike_throw ht _
    · simp [Renaming.exerciseRequest]
    · rw [ht.exercise_get?]
      cases t.exercises.get? id with
      | none => exact alike_throw ht _
      | some e => exact alike_pure ht rfl

/-! ### Containment -/

namespace Renaming.Sim

theorem containedTask (h : ρ.Sim w w' s s') (t : Task) :
    ρ.Sim w w' (s.containedTask w t) (s'.containedTask w' (ρ.task t)) :=
  h.tick.setTask (by simp [Renaming.task, h.now])

theorem containTask (h : ρ.Sim w w' s s') (id : PyStr) (t : Task) (p : Playbook)
    (actor : PyStr) :
    ρ.Sim w w' (s.containTask w id t p actor)
      (s'.containTask w' id (ρ.task t) p (ρ.actor.name actor)) := by
  refine (((h.appendTimeline id _).observeTask id t.id).record fun hρ => ?_).audit fun hρ => ?_
  · simp [Renaming.draft, Renaming.data, Renaming.task, Task.eventData, ρ.actor_name hρ]
  · simp [Renaming.task, ρ.actor_name hρ]

/-- The record of the Node keeps the operator's name. -/
theorem pauseNode (h : ρ.Sim w w' s s') (n : Node) (id actor : PyStr) :
    ρ.Sim w w' (s.pauseNode w n id actor) (s'.pauseNode w' (ρ.node n) id actor) := by
  unfold LabState.pauseNode
  refine ((h.tick.setNode ?_).record fun _ => rfl).audit fun _ => rfl
  rw [h.now]
  rfl

theorem containNode (h : ρ.Sim w w' s s') (e : Exercise) (action : ContainmentAction)
    {actor : PyStr}
    (hactor : action = .pauseNodeTasking → s.nodes.get? e.nodeId ≠ none →
      ρ.actor.name actor = actor) :
    ρ.Sim w w' (s.containNode w e action actor)
      (s'.containNode w' (ρ.exercise e) action (ρ.actor.name actor)) := by
  unfold LabState.containNode
  have hid : (ρ.exercise e).nodeId = e.nodeId := rfl
  rw [hid, h.node_get?]
  cases action with
  | pauseNodeTasking =>
    cases hn : s.nodes.get? e.nodeId with
    | none => exact h
    | some n =>
      have hsame := hactor rfl (by simp [hn])
      simp only [Option.map_some, hsame]
      exact h.pauseNode n e.id actor
  | _ => exact h

theorem applyContainment (h : ρ.Sim w w' s s') (e : Exercise) (action : ContainmentAction)
    (actor : PyStr) :
    ρ.Sim w w' (s.applyContainment w e action actor)
      (s'.applyContainment w' (ρ.exercise e) action (ρ.actor.name actor)) := by
  unfold LabState.applyContainment
  refine (((h.tick.setExercise ?_).appendTimeline e.id _).record fun hρ => ?_).audit
    fun hρ => ?_
  · simp [Renaming.exercise, Renaming.containment, h.now]
  · rw [ρ.actor_name hρ]
    rfl
  · rw [ρ.actor_name hρ]
    rfl

end Renaming.Sim

/-- The task loop of a containment, which leaves the Nodes alone. -/
theorem twin_cancelContainedTask {nodes : Dict PyStr Node}
    (h : ρ.Sim w w' s s' ∧ s.nodes = nodes) (id actor taskId : PyStr) :
    AlikeUnit (fun t t' => ρ.Sim w w' t t' ∧ t.nodes = nodes)
      (cancelContainedTask w id actor taskId)
      (cancelContainedTask w' id (ρ.actor.name actor) taskId) s s' := by
  obtain ⟨h, hnodes⟩ := h
  unfold cancelContainedTask
  refine alike_get ?_
  rw [h.task_get?]
  cases s.tasks.get? taskId with
  | none => exact alike_unit ⟨h, hnodes⟩
  | some t =>
    refine alike_ite Iff.rfl (fun _ => alike_unit ⟨h, hnodes⟩) fun _ => ?_
    have hstored : (s.containedTask w t).nodes = nodes := hnodes
    refine alike_modify_bind ⟨h.containedTask t, hstored⟩ fun hu => ?_
    rw [ρ.playbook_task]
    cases t.playbook with
    | error e => exact ⟨rfl, hu⟩
    | ok p =>
      refine alike_modify ⟨hu.1.containTask id t p actor, ?_⟩
      simpa [LabState.containTask, LabState.nodes_observeTask,
        LabState.nodes_appendExerciseTimelineLocked] using hstored

theorem twin_returnExercise (h : ρ.Sim w w' s s') (id : PyStr) :
    Alike (ρ.Sim w w') (fun e e' => e' = ρ.publicExercise e)
      (do
        let s ← get
        match s.exercises.get? id with
        | some e => return e.publicExercise
        | none => throw (.py .keyError) : Lab PublicExercise)
      (do
        let s ← get
        match s.exercises.get? id with
        | some e => return e.publicExercise
        | none => throw (.py .keyError) : Lab PublicExercise) s s' := by
  refine alike_get ?_
  rw [h.exercise_get?]
  cases s.exercises.get? id with
  | none => exact alike_throw h _
  | some e => exact alike_pure h rfl

theorem twin_containDetected (h : ρ.Sim w w' s s') (e : Exercise) (action : ContainmentAction)
    {actor : PyStr}
    (hactor : action = .pauseNodeTasking → s.nodes.get? e.nodeId ≠ none →
      ρ.actor.name actor = actor) :
    Alike (ρ.Sim w w') (fun e e' => e' = ρ.publicExercise e) (containDetected w e action actor)
      (containDetected w' (ρ.exercise e) action (ρ.actor.name actor)) s s' := by
  have hloop := alike_forM (l := e.taskIds)
    (fun taskId _ t t' ht => twin_cancelContainedTask ht e.id actor taskId)
    (⟨h, rfl⟩ : ρ.Sim w w' s s' ∧ s.nodes = s.nodes)
  unfold containDetected
  refine alike_bind_of hloop (fun _ _ => And.left) fun _ _ t t' _ ht => ?_
  obtain ⟨ht, hnodes⟩ := ht
  rw [← hnodes] at hactor
  refine alike_modify_bind (ht.containNode e action hactor) fun hu => ?_
  have hid : (ρ.exercise e).id = e.id := rfl
  rw [hid]
  refine alike_modify_bind ?_ fun hv => twin_returnExercise hv e.id
  rw [hu.exercise_get?]
  cases (t.containNode w e action actor).exercises.get? e.id with
  | none => exact hu
  | some e => exact hu.applyContainment e action actor

/-- A containment that writes the operator's name into no record of a Node, or a name that the
    renaming leaves alone. -/
def Renaming.Spares (ρ : Renaming py) (exerciseId action actor : Json) (s : LabState) : Prop :=
  ∀ id e a, exerciseId = .str id → action = Vocabulary.toJson ContainmentAction.pauseNodeTasking →
    actor = .str a → s.exercises.get? id = some e → e.status ≠ .contained → e.detected = true →
    s.nodes.get? e.nodeId ≠ none → ρ.actor.name a = a

/-- `contain_exercise`. -/
theorem twin_containExercise (h : ρ.Sim w w' s s') (exerciseId action actor : Json)
    (hspares : ρ.Spares exerciseId action actor s) :
    Alike (ρ.Sim w w') (fun e e' => e' = ρ.publicExercise e)
      (containExercise w exerciseId action actor)
      (containExercise w' exerciseId action (ρ.actorArg actor)) s s' := by
  unfold containExercise
  refine alike_check_bind_same h fun id hid => ?_
  refine alike_check_bind_same h fun applied haction => ?_
  refine alike_check_bind h (ρ.validate_actorArg actor) fun a ha => ?_
  refine alike_get ?_
  rw [h.exercise_get?]
  cases he : s.exercises.get? id with
  | none => exact alike_throw h _
  | some e =>
    have hsame : (ρ.exercise e).containment.map (·.action) = e.containment.map (·.action) := by
      show (e.containment.map ρ.containment).map (·.action) = _
      rw [Option.map_map]
      rfl
    refine alike_ite Iff.rfl (fun _ => ?_) fun hopen => alike_ite Iff.rfl
      (fun _ => alike_throw h _) fun hdetected => twin_containDetected h e applied ?_
    · exact alike_ite (by rw [hsame]) (fun _ => alike_pure h rfl) fun _ => alike_throw h _
    · rintro rfl hnode
      have hexercise : exerciseId = .str id := by
        unfold requireStr at hid
        split at hid <;> cases hid
        rfl
      have hpause : action = Vocabulary.toJson ContainmentAction.pauseNodeTasking := by
        split at haction <;> cases haction
        exact Vocabulary.parse_eq_some.mp ‹_›
      exact hspares id e a hexercise hpause (validateOperatorActor_ok ha) he hopen
        (by simpa using hdetected) hnode

end C2Lab
