import C2Lab.Twin.OperatorOps

/-! Operations of several tasks, and cancelling one task, on a state and on its renamed twin. -/

namespace C2Lab

open Prog

variable {py : Interp} {ρ : Renaming py} {w w' : World} {s s' : LabState}

/-! ### Replay records -/

namespace Renaming.Sim

theorem operation_get? (h : ρ.Sim w w' s s') (key : Option PyStr) :
    (key.map ρ.key.name).bind s'.operationIdempotency.get? =
      (key.bind s.operationIdempotency.get?).map ρ.operationRecord := by
  cases key with
  | none => rfl
  | some k =>
    simp only [Option.map_some, Option.bind_some, h.operations, Dict.get?_rename]

theorem task_ended (h : ρ.Sim w w' s s') (id : PyStr) :
    (match s'.tasks.get? id with
      | none => true
      | some t => t.status.isTerminal) =
      match s.tasks.get? id with
      | none => true
      | some t => t.status.isTerminal := by
  rw [h.task_get?]
  cases s.tasks.get? id <;> rfl

theorem evictable (h : ρ.Sim w w' s s') (r : OperationRecord) :
    operationIdempotencyRecordIsEvictableLocked (ρ.operationRecord r) s' =
      operationIdempotencyRecordIsEvictableLocked r s := by
  unfold operationIdempotencyRecordIsEvictableLocked
  have hids : (ρ.operationRecord r).taskIds = r.taskIds := rfl
  rw [hids]
  exact congrArg _ (funext h.task_ended)

/-- The keys that may be evicted, in the order of their insertion. -/
theorem evictableKeys (h : ρ.Sim w w' s s') :
    ((s'.operationIdempotency.entries.filter fun p =>
        operationIdempotencyRecordIsEvictableLocked p.2 s').map Prod.fst) =
      ((s.operationIdempotency.entries.filter fun p =>
        operationIdempotencyRecordIsEvictableLocked p.2 s).map Prod.fst).map ρ.key.name := by
  rw [h.operations]
  simp only [Dict.rename, List.filter_map, List.map_map]
  have hsame : (fun p : PyStr × OperationRecord =>
        operationIdempotencyRecordIsEvictableLocked p.2 s') ∘
        (fun p : PyStr × OperationRecord => (ρ.key.name p.1, ρ.operationRecord p.2)) =
      fun p => operationIdempotencyRecordIsEvictableLocked p.2 s :=
    funext fun p => h.evictable p.2
  rw [hsame]
  rfl

theorem rememberOperation (h : ρ.Sim w w' s s') (key : Option PyStr) (evicted : List PyStr)
    (r : OperationRecord) :
    ρ.Sim w w' (s.rememberOperation key evicted r)
      (s'.rememberOperation (key.map ρ.key.name) (evicted.map ρ.key.name)
        (ρ.operationRecord r)) := by
  cases key with
  | none => exact h
  | some k =>
    refine h.records rfl rfl rfl rfl fun hh => ?_
    refine ⟨h.nodes, h.tasks, h.tombstones, h.exercises, h.exerciseKeys, ?_, h.taskSequence,
      h.streamId, hh⟩
    show ((evicted.map ρ.key.name).foldl Dict.erase s'.operationIdempotency).set (ρ.key.name k)
      (ρ.operationRecord r) = _
    rw [h.operations, Dict.rename_foldl_erase, Dict.rename_set]
    rfl

theorem announceOperation (h : ρ.Sim w w' s s') (nodeId actor operationId : PyStr)
    (taskIds : List PyStr) :
    ρ.Sim w w' (s.announceOperation w nodeId actor operationId taskIds)
      (s'.announceOperation w' nodeId (ρ.actor.name actor) operationId taskIds) := by
  refine (h.record fun hρ => ?_).audit fun hρ => ?_ <;> rw [ρ.actor_name hρ]
  rfl

end Renaming.Sim

theorem twin_operationEvictionKeys (h : ρ.Sim w w' s s') (key : Option PyStr) :
    Alike (ρ.Sim w w') (fun ks ks' => ks' = ks.map ρ.key.name) (operationEvictionKeys key)
      (operationEvictionKeys (key.map ρ.key.name)) s s' := by
  unfold operationEvictionKeys
  generalize maxOperationIdempotencyRecords = limit
  refine alike_get ?_
  have hsize : s'.operationIdempotency.size = s.operationIdempotency.size := by
    rw [h.operations, Dict.size_rename]
  cases key with
  | none => exact alike_pure h rfl
  | some k =>
    simp only [Option.map_some, hsize, h.evictableKeys, ← List.map_take, List.length_map]
    refine alike_ite Iff.rfl (fun _ => alike_pure h rfl) fun _ => ?_
    exact alike_ite Iff.rfl (fun _ => alike_throw h _) fun _ => alike_pure h rfl

/-! ### Creating the tasks -/

theorem twin_createOperationTasks (h : ρ.Sim w w' s s') (nodeId actor operationId : PyStr)
    (ttl : ℤ) (now : Instant) (n : ℕ) (steps : List Playbook) :
    Alike (ρ.Sim w w') (fun ts ts' => ts' = ts.map ρ.task)
      (createOperationTasks w nodeId actor operationId ttl now n steps)
      (createOperationTasks w' nodeId (ρ.actor.name actor) operationId ttl now n steps) s s' := by
  induction steps generalizing s s' n with
  | nil => exact alike_pure h rfl
  | cons p steps ih =>
    have ht := h.newTask
      { nodeId := nodeId, command := .runPlaybook p, createdBy := actor, queueTtlSeconds := ttl
        operation := some (operationId, n) } now
    simp only [Renaming.spec, Renaming.command, Option.map_none] at ht
    unfold createOperationTasks
    refine alike_get ?_
    simp only [ht]
    refine alike_modify_bind ((h.insertTask _).announceTask _ _) fun hu => ?_
    refine alike_bind (ih hu (n + 1)) ?_
    rintro ts _ u u' rfl hu
    exact alike_pure hu rfl

namespace Renaming

/-- The checked arguments of `queue_operation`. -/
noncomputable def operationRequest (ρ : Renaming py) (r : OperationRequest) : OperationRequest :=
  { r with idempotencyKey := r.idempotencyKey.map ρ.key.name, actor := ρ.actor.name r.actor }

theorem validateOperationRequest_arg (nodeId steps : Json) (ttl : Option Json)
    (key actor : Json) :
    validateOperationRequest py nodeId steps ttl (ρ.keyArg key) (ρ.actorArg actor) =
      (validateOperationRequest py nodeId steps ttl key actor).map ρ.operationRequest := by
  unfold validateOperationRequest
  rw [ρ.validate_keyArg, ρ.validate_actorArg]
  cases requireStr nodeId "node_id must be a string" with
  | error e => rfl
  | ok nodeId =>
    cases validateOperationSteps py steps with
    | error e => rfl
    | ok steps =>
      cases validateQueueTtl ttl with
      | error e => rfl
      | ok ttl =>
        cases validateIdempotencyKey key with
        | error e => rfl
        | ok key => cases validateOperatorActor actor <;> rfl

end Renaming

theorem twin_createOperation (h : ρ.Sim w w' s s') (r : OperationRequest) (evicted : List PyStr)
    (now : Instant) :
    Alike (ρ.Sim w w') (fun x x' => x' = ρ.summary x) (createOperation w r evicted now)
      (createOperation w' (ρ.operationRequest r) (evicted.map ρ.key.name) now) s s' := by
  unfold createOperation
  refine alike_get ?_
  rw [World.operationId, World.operationId, h.ident]
  refine alike_modify_bind h.tick fun ht => ?_
  refine alike_bind (twin_createOperationTasks ht r.nodeId r.actor _ r.queueTtlSeconds now 1
    r.steps) ?_
  rintro ts _ u u' rfl hu
  have hids : (ts.map ρ.task).map (·.id) = ts.map (·.id) := by
    rw [List.map_map]
    rfl
  have htasks : (ts.map ρ.task).map Task.publicTask =
      (ts.map Task.publicTask).map ρ.publicTask := by
    rw [List.map_map, List.map_map]
    rfl
  simp only [hids, htasks]
  refine alike_modify_bind (hu.announceOperation r.nodeId r.actor _ _) fun hv => ?_
  exact alike_modify_bind (hv.rememberOperation r.idempotencyKey evicted _) fun hx =>
    alike_pure hx rfl

/-- `queue_operation`. -/
theorem twin_queueOperation (h : ρ.Sim w w' s s') (nodeId steps : Json) (ttl : Option Json)
    (key actor : Json) (now : Instant) :
    Alike (ρ.Sim w w') (fun x x' => x' = ρ.summary x)
      (queueOperation w nodeId steps ttl key actor now)
      (queueOperation w' nodeId steps ttl (ρ.keyArg key) (ρ.actorArg actor) now) s s' := by
  unfold queueOperation
  rw [h.aligned.interp.1, h.aligned.interp.2]
  refine alike_bind (alike_check h (ρ.validateOperationRequest_arg nodeId steps ttl key actor)
    fun r _ => rfl) ?_
  rintro r _ t t' rfl ht
  refine alike_get ?_
  have hkey : (ρ.operationRequest r).idempotencyKey = r.idempotencyKey.map ρ.key.name := rfl
  rw [hkey, ht.operation_get?]
  cases r.idempotencyKey.bind t.operationIdempotency.get? with
  | some previous =>
    refine alike_ite ?_ (fun _ => alike_pure ht rfl) fun _ => alike_throw ht _
    simp [Renaming.operationRecord, Renaming.operationRequest]
  | none =>
    refine alike_bind (twin_requireTaskableNode ht r.nodeId true) ?_
    rintro n _ u u' rfl hu
    refine alike_bind (alike_require _ Iff.rfl hu) fun _ _ v v' _ hv => ?_
    refine alike_bind (pair_requireQueueRoom r.nodeId r.steps.length _ _ hv)
      fun _ _ x x' _ hx => ?_
    refine alike_bind (twin_operationEvictionKeys hx r.idempotencyKey) ?_
    rintro evicted _ y y' rfl hy
    refine alike_bind (pair_makeTaskSlots r.steps.length _ _ hy) fun _ _ z z' _ hz => ?_
    exact twin_createOperation hz r evicted now

/-! ### Cancelling -/

theorem Renaming.Sim.cancelledTask (h : ρ.Sim w w' s s') (t : Task) (actor : PyStr) :
    ρ.Sim w w' (s.cancelledTask w t actor)
      (s'.cancelledTask w' (ρ.task t) (ρ.actor.name actor)) := by
  unfold LabState.cancelledTask
  refine ((h.tick.setTask ?_).record fun hρ => ?_).audit fun hρ => ?_
  · simp [Renaming.task, h.now]
  · simp [Renaming.draft, Renaming.data, Renaming.task, Task.eventData, ρ.actor_name hρ]
  · simp [Renaming.task, ρ.actor_name hρ]

/-- `cancel_task`. -/
theorem twin_cancelTask (h : ρ.Sim w w' s s') (taskId actor : Json) :
    Alike (ρ.Sim w w') (fun t t' => t' = ρ.publicTask t) (cancelTask w taskId actor)
      (cancelTask w' taskId (ρ.actorArg actor)) s s' := by
  unfold cancelTask
  refine alike_bind (alike_check_same h _) ?_
  rintro _ id t t' ⟨rfl, -⟩ ht
  refine alike_bind (alike_check ht (ρ.validate_actorArg actor) fun _ _ => rfl) ?_
  rintro actor _ u u' rfl hu
  refine alike_get ?_
  rw [hu.task_get?]
  cases u.tasks.get? id with
  | none => exact alike_throw hu _
  | some task =>
    refine alike_ite Iff.rfl (fun _ => alike_pure hu rfl) fun _ => ?_
    refine alike_ite Iff.rfl (fun _ => alike_throw hu _) fun _ => ?_
    refine alike_modify_bind (hu.cancelledTask task actor) fun hv => ?_
    refine alike_bind (pair_refreshExercises _ _ hv) fun _ _ x x' _ hx => ?_
    refine alike_get ?_
    rw [hx.task_get?]
    cases x.tasks.get? id with
    | none => exact alike_throw hx _
    | some t => exact alike_pure hx rfl

end C2Lab
