import C2Lab.Twin.NodeOps

/-! The operations an operator calls, on a state and on its renamed twin. -/

namespace C2Lab

open Prog

variable {py : Interp} {ρ : Renaming py} {w w' : World} {s s' : LabState}

/-! ### Task slots -/

namespace Renaming.Sim

theorem required (h : ρ.Sim w w' s s') (t : Task) :
    taskIsRequiredByRunningExerciseLocked (ρ.task t) s' =
      taskIsRequiredByRunningExerciseLocked t s := by
  unfold taskIsRequiredByRunningExerciseLocked
  have hexercise : (ρ.task t).exerciseId = t.exerciseId := rfl
  rw [hexercise]
  cases t.exerciseId with
  | none => rfl
  | some id =>
    simp only [h.exercise_get?]
    cases s.exercises.get? id <;> rfl

theorem pruneCandidates (h : ρ.Sim w w' s s') :
    s'.pruneCandidates = s.pruneCandidates.map ρ.task := by
  have hfilter : s'.tasks.values.filter
        (fun t => t.status.isTerminal && !taskIsRequiredByRunningExerciseLocked t s') =
      (s.tasks.values.filter
        fun t => t.status.isTerminal && !taskIsRequiredByRunningExerciseLocked t s).map ρ.task := by
    rw [h.task_values, List.filter_map]
    exact congrArg _ (List.filter_congr fun t _ => congrArg (_ && !·) (h.required t))
  unfold LabState.pruneCandidates
  rw [hfilter]
  exact (List.map_mergeSort (f := ρ.task) fun _ _ _ _ => rfl).symm

theorem countQueued (h : ρ.Sim w w' s s') (nodeId : PyStr) {p : Task → Bool}
    (hp : ∀ t, p (ρ.task t) = p t) : s'.countQueued nodeId p = s.countQueued nodeId p := by
  unfold LabState.countQueued
  rw [h.task_values, List.countP_map]
  refine List.countP_congr fun t _ => ?_
  show (_ && p (ρ.task t)) = true ↔ _
  rw [hp]
  rfl

theorem evictTombstones (d : Dict PyStr NodeTask) :
    C2Lab.evictTombstones (d.map ρ.nodeTask) = (C2Lab.evictTombstones d).map ρ.nodeTask := by
  unfold C2Lab.evictTombstones
  rw [Dict.keys_map, Dict.size_map, Dict.map_foldl_erase]

theorem rememberTombstone (h : ρ.Sim w w' s s') (t : Task) :
    ρ.Sim w w' (s.rememberTaskResultTombstoneLocked t)
      (s'.rememberTaskResultTombstoneLocked (ρ.task t)) := by
  have hstored : ρ.Sim w w'
      { s with taskResultTombstones :=
          (C2Lab.evictTombstones s.taskResultTombstones).set t.id t.nodeTask }
      { s' with taskResultTombstones :=
          (C2Lab.evictTombstones s'.taskResultTombstones).set t.id (ρ.nodeTask t.nodeTask) } := by
    refine h.records rfl rfl rfl rfl fun hh => ?_
    refine ⟨h.nodes, h.tasks, ?_, h.exercises, h.exerciseKeys, h.operations, h.taskSequence,
      h.streamId, hh⟩
    rw [h.tombstones, evictTombstones]
    rw [Dict.map_set]
  unfold LabState.rememberTaskResultTombstoneLocked
  exact .ite Iff.rfl (fun _ => hstored) fun _ => h

theorem pruneTask (h : ρ.Sim w w' s s') (t : Task) :
    ρ.Sim w w' (s.pruneTerminalTaskLocked w t) (s'.pruneTerminalTaskLocked w' (ρ.task t)) := by
  have hkept := h.rememberTombstone t
  have herased : ρ.Sim w w'
      { s.rememberTaskResultTombstoneLocked t with
        tasks := (s.rememberTaskResultTombstoneLocked t).tasks.erase t.id }
      { s'.rememberTaskResultTombstoneLocked (ρ.task t) with
        tasks := (s'.rememberTaskResultTombstoneLocked (ρ.task t)).tasks.erase t.id } := by
    refine hkept.records rfl rfl rfl rfl fun hh => ?_
    refine ⟨hkept.nodes, ?_, hkept.tombstones, hkept.exercises, hkept.exerciseKeys,
      hkept.operations, hkept.taskSequence, hkept.streamId, hh⟩
    rw [hkept.tasks, Dict.map_erase]
  refine (herased.record fun _ => ?_).audit fun _ => ?_
  · simp [Renaming.draft, Renaming.data, Renaming.task]
  · simp [Renaming.task]

theorem pruneTasks (h : ρ.Sim w w' s s') (l : List Task) :
    ρ.Sim w w' (l.foldl (fun s t => s.pruneTerminalTaskLocked w t) s)
      ((l.map ρ.task).foldl (fun s t => s.pruneTerminalTaskLocked w' t) s') := by
  induction l generalizing s s' with
  | nil => exact h
  | cons t l ih => exact ih (h.pruneTask t)

end Renaming.Sim

theorem pair_makeTaskSlots (n : ℕ) :
    ρ.Pair w w' (makeTaskSlotsLocked w n) (makeTaskSlotsLocked w' n) := by
  intro s s' h
  unfold makeTaskSlotsLocked
  generalize maxTasks = limit
  refine alike_get ?_
  have hsize : s'.tasks.size = s.tasks.size := by rw [h.tasks, Dict.size_map]
  simp only [hsize, h.pruneCandidates, List.length_map]
  refine alike_ite Iff.rfl (fun _ => alike_unit h) fun _ => ?_
  refine alike_ite Iff.rfl (fun _ => alike_throw h _) fun _ => alike_modify ?_
  rw [← List.map_take]
  exact h.pruneTasks _

/-! ### Creating tasks -/

namespace Renaming.Sim

theorem newTask (h : ρ.Sim w w' s s') (x : TaskSpec) (now : Instant) :
    s'.newTask w' (ρ.spec x) now = ρ.task (s.newTask w x now) := by
  simp only [LabState.newTask, Renaming.task, Renaming.spec, World.taskId, World.correlationId,
    h.ident, h.ident_later, h.now_later, h.taskSequence, Option.map_none]

theorem insertTask (h : ρ.Sim w w' s s') (t : Task) :
    ρ.Sim w w' (s.insertTask t) (s'.insertTask (ρ.task t)) := by
  refine h.tick.tick.tick.records rfl rfl rfl rfl fun hh => ?_
  refine ⟨h.nodes, ?_, h.tombstones, h.exercises, h.exerciseKeys, h.operations, ?_, h.streamId, hh⟩
  · show s'.tasks.set t.id (ρ.task t) = (s.tasks.set t.id t).map ρ.task
    rw [h.tasks, Dict.map_set]
  · show s'.taskSequence + 1 = s.taskSequence + 1
    rw [h.taskSequence]

theorem announceTask (h : ρ.Sim w w' s s') (t : Task) (reason : Option String) :
    ρ.Sim w w' (s.announceTask w t reason) (s'.announceTask w' (ρ.task t) reason) := by
  refine (h.record fun hρ => ?_).audit fun hρ => ?_
  · simp [Renaming.draft, Renaming.data, Renaming.task, Task.eventData, ρ.actor_name hρ]
  · simp [Renaming.task, ρ.actor_name hρ]

theorem taskWithKey (h : ρ.Sim w w' s s') (key : Option PyStr) :
    s'.taskWithKey (key.map ρ.key.name) = (s.taskWithKey key).map ρ.task := by
  cases key with
  | none => rfl
  | some k =>
    simp only [LabState.taskWithKey, Option.map_some, h.task_values, List.find?_map]
    have hsame : (fun t : Task => decide (t.idempotencyKey = some (ρ.key.name k))) ∘ ρ.task =
        fun t => decide (t.idempotencyKey = some k) := funext fun t => by
      have hkey : (ρ.task t).idempotencyKey = t.idempotencyKey.map ρ.key.name := rfl
      cases ht : t.idempotencyKey <;> simp [hkey, ht]
    rw [hsame]

end Renaming.Sim

theorem twin_requireTaskableNode (h : ρ.Sim w w' s s') (nodeId : PyStr) (online : Bool) :
    Alike (ρ.Sim w w') (fun n n' => n' = ρ.node n) (requireTaskableNode nodeId online)
      (requireTaskableNode nodeId online) s s' := by
  unfold requireTaskableNode
  refine alike_get ?_
  rw [h.node_get?]
  cases s.nodes.get? nodeId with
  | none => exact alike_throw h _
  | some n =>
    refine alike_bind (alike_require _ Iff.rfl h) fun _ _ t t' _ ht => ?_
    refine alike_bind (alike_require _ Iff.rfl ht) fun _ _ u u' _ hu => ?_
    refine alike_bind (alike_require _ Iff.rfl hu) fun _ _ v v' _ hv => ?_
    exact alike_pure hv rfl

theorem pair_requireQueueRoom (nodeId : PyStr) (count : ℕ) :
    ρ.Pair w w' (requireQueueRoom nodeId count) (requireQueueRoom nodeId count) := by
  intro s s' h
  unfold requireQueueRoom
  refine alike_get ?_
  rw [h.countQueued nodeId fun _ => rfl, h.countQueued nodeId fun t => by simp [Renaming.task]]
  refine alike_bind (alike_require _ Iff.rfl h) fun _ _ t t' _ ht => ?_
  exact alike_require _ Iff.rfl ht

/-! ### Queueing a task -/

namespace Renaming

/-- Two payloads that name a command and the renamed command, or are both refused alike. -/
def SamePayload (ρ : Renaming py) (taskType payload payload' : Json) : Prop :=
  validateTaskPayload py taskType payload' =
    (validateTaskPayload py taskType payload).map ρ.command

/-- The checked arguments of `queue_task`. -/
noncomputable def taskRequest (ρ : Renaming py) (r : TaskRequest) : TaskRequest :=
  { r with
    command := ρ.command r.command, idempotencyKey := r.idempotencyKey.map ρ.key.name
    actor := ρ.actor.name r.actor }

theorem validateTaskRequest_arg {taskType payload payload' : Json}
    (hpayload : ρ.SamePayload taskType payload payload') (nodeId : Json) (ttl : Option Json)
    (key actor : Json) :
    validateTaskRequest py nodeId taskType payload' ttl (ρ.keyArg key) (ρ.actorArg actor) =
      (validateTaskRequest py nodeId taskType payload ttl key actor).map ρ.taskRequest := by
  unfold validateTaskRequest
  rw [hpayload, ρ.validate_keyArg, ρ.validate_actorArg]
  cases requireStr nodeId "node_id must be a string" with
  | error e => rfl
  | ok nodeId =>
    cases validateTaskPayload py taskType payload with
    | error e => cases e <;> rfl
    | ok command =>
      cases validateQueueTtl ttl with
      | error e => rfl
      | ok ttl =>
        cases validateIdempotencyKey key with
        | error e => rfl
        | ok key => cases validateOperatorActor actor <;> rfl

end Renaming

theorem twin_admitTask (h : ρ.Sim w w' s s') (r : TaskRequest) :
    AlikeUnit (ρ.Sim w w') (admitTask r) (admitTask (ρ.taskRequest r)) s s' := by
  unfold admitTask
  have htype : (ρ.taskRequest r).command.taskType = r.command.taskType := by
    simp [Renaming.taskRequest]
  rw [htype]
  refine alike_bind (twin_requireTaskableNode h r.nodeId false) ?_
  rintro n _ t t' rfl ht
  refine alike_bind (alike_require _ Iff.rfl ht) fun _ _ u u' _ hu => ?_
  refine alike_get ?_
  have hnode : (ρ.taskRequest r).nodeId = r.nodeId := rfl
  rw [hnode, hu.countQueued r.nodeId fun _ => rfl,
    hu.countQueued r.nodeId fun t => by simp [Renaming.task]]
  refine alike_bind (alike_require _ Iff.rfl hu) fun _ _ v v' _ hv => ?_
  exact alike_require _ Iff.rfl hv

theorem twin_createTask (h : ρ.Sim w w' s s') (r : TaskRequest) (now : Instant) :
    Alike (ρ.Sim w w') (fun t t' => t' = ρ.publicTask t) (createTask w r now)
      (createTask w' (ρ.taskRequest r) now) s s' := by
  unfold createTask
  refine alike_get ?_
  have ht := h.newTask
    { nodeId := r.nodeId, command := r.command, createdBy := r.actor
      queueTtlSeconds := r.queueTtlSeconds, idempotencyKey := r.idempotencyKey } now
  simp only [Renaming.taskRequest]
  simp only [Renaming.spec] at ht
  rw [ht]
  exact alike_modify_bind ((h.insertTask _).announceTask _ none) fun hu => alike_pure hu rfl

/-- `queue_task`. -/
theorem twin_queueTask (h : ρ.Sim w w' s s') {taskType payload payload' : Json}
    (hpayload : ρ.SamePayload taskType payload payload') (nodeId : Json) (ttl : Option Json)
    (key actor : Json) (now : Instant) :
    Alike (ρ.Sim w w') (fun t t' => t' = ρ.publicTask t)
      (queueTask w nodeId taskType payload ttl key actor now)
      (queueTask w' nodeId taskType payload' ttl (ρ.keyArg key) (ρ.actorArg actor) now) s s' := by
  unfold queueTask
  rw [h.aligned.interp.1, h.aligned.interp.2]
  refine alike_bind (alike_check h (ρ.validateTaskRequest_arg hpayload nodeId ttl key actor)
    fun r _ => rfl) ?_
  rintro r _ t t' rfl ht
  refine alike_get ?_
  have hkey : (ρ.taskRequest r).idempotencyKey = r.idempotencyKey.map ρ.key.name := rfl
  rw [hkey, ht.taskWithKey]
  cases t.taskWithKey r.idempotencyKey with
  | some existing =>
    refine alike_ite ?_ (fun _ => alike_pure ht rfl) fun _ => alike_throw ht _
    simp [Renaming.task, Renaming.taskRequest]
  | none =>
    refine alike_bind (twin_admitTask ht r) fun _ _ u u' _ hu => ?_
    refine alike_bind (pair_makeTaskSlots 1 _ _ hu) fun _ _ v v' _ hv => ?_
    exact twin_createTask hv r now

end C2Lab
