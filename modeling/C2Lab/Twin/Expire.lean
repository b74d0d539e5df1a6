import C2Lab.Twin.Sim

/-! The refresh of the exercises and the expiry pass, on a state and on its renamed twin. -/

namespace C2Lab

open Prog

variable {py : Interp} {ρ : Renaming py} {w w' : World} {s s' : LabState}

namespace Renaming.Sim

/-! ### Timelines -/

theorem appendTimeline (h : ρ.Sim w w' s s') (id : PyStr) (item : TimelineItem) :
    ρ.Sim w w' (s.appendExerciseTimelineLocked w id item)
      (s'.appendExerciseTimelineLocked w' id item) := by
  unfold LabState.appendExerciseTimelineLocked
  rw [h.exercise_get?]
  cases s.exercises.get? id with
  | none => exact h
  | some e =>
    refine .ite Iff.rfl (fun _ => h.refuseAppend) fun hroom => (h.setExercise ?_).tick
    rw [h.now, Exercise.appendTimeline, Exercise.appendTimeline, if_neg hroom]
    exact if_neg hroom

theorem observeTask (h : ρ.Sim w w' s s') (id taskId : PyStr) :
    ρ.Sim w w' (s.observeTask id taskId) (s'.observeTask id taskId) := by
  unfold LabState.observeTask
  rw [h.exercise_get?]
  cases s.exercises.get? id with
  | none => exact h
  | some e => exact h.setExercise rfl

theorem matchDetection (h : ρ.Sim w w' s s') (id taskId : PyStr) (rule : DetectionRule) :
    ρ.Sim w w' (s.matchDetection w id taskId rule) (s'.matchDetection w' id taskId rule) := by
  unfold LabState.matchDetection
  rw [h.exercise_get?]
  cases s.exercises.get? id with
  | none => exact h
  | some e =>
    refine .ite Iff.rfl (fun _ => h) fun _ => ?_
    refine (((h.tick.tick.setExercise ?_).appendTimeline id _).record fun _ => rfl).audit
      fun _ => rfl
    rw [World.alertId, h.now, h.ident_later]
    rfl

theorem matchDetections (h : ρ.Sim w w' s s') (id taskId : PyStr) (rules : List DetectionRule) :
    ρ.Sim w w' (rules.foldl (fun s rule => s.matchDetection w id taskId rule) s)
      (rules.foldl (fun s rule => s.matchDetection w' id taskId rule) s') := by
  induction rules generalizing s s' with
  | nil => exact h
  | cons rule rules ih => exact ih (h.matchDetection id taskId rule)

theorem completeExercise (h : ρ.Sim w w' s s') (e : Exercise) (status : ExerciseStatus) :
    ρ.Sim w w' (s.completeExercise w e status)
      (s'.completeExercise w' (ρ.exercise e) status) := by
  unfold LabState.completeExercise
  refine (((h.tick.setExercise ?_).appendTimeline e.id _).record fun _ => ?_).audit fun _ => rfl
  · rw [h.now]
    rfl
  · cases status <;> rfl

end Renaming.Sim

/-! ### Programs -/

/-- Programs without a value to compare, alike on twins. -/
abbrev Renaming.Pair (ρ : Renaming py) (w w' : World) (m m' : Lab Unit) : Prop :=
  ∀ s s', ρ.Sim w w' s s' → AlikeUnit (ρ.Sim w w') m m' s s'

/-- A check of what both sides read alike. -/
theorem alike_check {α β : Type} {A : α → β → Prop} (h : ρ.Sim w w' s s') {x : Except Exc α}
    {x' : Except Exc β} {f : α → β} (hx : x' = x.map f) (hA : ∀ a, x = .ok a → A a (f a)) :
    Alike (ρ.Sim w w') A (check x) (check x') s s' := by
  subst hx
  cases x with
  | ok a => exact ⟨hA a rfl, h⟩
  | error e => exact ⟨rfl, h⟩

/-- A check leaves the states as they are. -/
theorem alike_check_bind {α β γ δ : Type} {A : γ → δ → Prop} {x : Except Exc α}
    {x' : Except Exc β} {f : α → β} {k : α → Lab γ} {k' : β → Lab δ} (h : ρ.Sim w w' s s')
    (hx : x' = x.map f) (hk : ∀ a, x = .ok a → Alike (ρ.Sim w w') A (k a) (k' (f a)) s s') :
    Alike (ρ.Sim w w') A (check x >>= k) (check x' >>= k') s s' := by
  subst hx
  cases x with
  | ok a => exact hk a rfl
  | error e => exact alike_throw h e

theorem alike_check_bind_same {α γ δ : Type} {A : γ → δ → Prop} {x : Except Exc α}
    {k : α → Lab γ} {k' : α → Lab δ} (h : ρ.Sim w w' s s')
    (hk : ∀ a, x = .ok a → Alike (ρ.Sim w w') A (k a) (k' a) s s') :
    Alike (ρ.Sim w w') A (check x >>= k) (check x >>= k') s s' :=
  alike_check_bind (f := id) h (by cases x <;> rfl) hk

theorem alike_check_same {α : Type} (h : ρ.Sim w w' s s') (x : Except Exc α) :
    Alike (ρ.Sim w w') (fun a a' => a' = a ∧ x = .ok a) (check x) (check x) s s' := by
  cases x with
  | ok a => exact ⟨⟨rfl, rfl⟩, h⟩
  | error e => exact ⟨rfl, h⟩

theorem Renaming.playbook_task (ρ : Renaming py) (t : Task) : (ρ.task t).playbook = t.playbook := by
  unfold Task.playbook Renaming.task
  cases t.command <;> rfl

/-- The result of a playbook task is not renamed. -/
theorem Renaming.attackTechniques_task (ρ : Renaming py) {t : Task} {p : Playbook}
    (hp : t.playbook = .ok p) : (ρ.task t).attackTechniques = t.attackTechniques := by
  have hc : t.command = .runPlaybook p := by
    unfold Task.playbook at hp
    cases hcommand : t.command <;> simp_all
  have hresult : (ρ.task t).result = t.result := by
    show t.result.map (ρ.result t.command) = t.result
    rw [hc]
    cases t.result with
    | none => rfl
    | some r => exact congrArg some (ρ.result_of_fixed rfl r)
  unfold Task.attackTechniques
  rw [hresult]

theorem pair_observeTechnique (id : PyStr) (scenario : ScenarioId) (taskId : PyStr)
    (technique : Json) :
    ρ.Pair w w' (observeTechnique w id scenario taskId technique)
      (observeTechnique w' id scenario taskId technique) := by
  intro s s' h
  unfold observeTechnique
  refine alike_bind (alike_check_same h _) ?_
  rintro techniqueId _ t t' ⟨rfl, -⟩ ht
  refine alike_bind (alike_check_same ht _) ?_
  rintro allowed _ t t' ⟨rfl, -⟩ ht
  split
  · exact alike_modify (ht.appendTimeline id _)
  · exact alike_unit ht

theorem pair_appendEvidence (e : Exercise) (t : Task) :
    ρ.Pair w w' (appendExerciseTaskEvidenceLocked w e t)
      (appendExerciseTaskEvidenceLocked w' (ρ.exercise e) (ρ.task t)) := by
  intro s s' h
  unfold appendExerciseTaskEvidenceLocked
  rw [ρ.playbook_task]
  refine alike_bind (alike_check_same h _) ?_
  rintro p _ u u' ⟨rfl, hp⟩ hu
  refine alike_modify_bind (hu.appendTimeline e.id _) fun hu => ?_
  refine alike_ite Iff.rfl (fun _ => ?_) fun _ => alike_unit hu
  rw [ρ.attackTechniques_task hp]
  refine alike_bind (alike_check_same hu _) ?_
  rintro techniques _ u u' ⟨rfl, -⟩ hu
  exact alike_forM (fun technique _ => pair_observeTechnique e.id e.scenarioId t.id technique) hu

theorem pair_refreshTask (id taskId : PyStr) :
    ρ.Pair w w' (refreshTask w id taskId) (refreshTask w' id taskId) := by
  intro s s' h
  unfold refreshTask
  refine alike_get ?_
  rw [h.exercise_get?]
  cases s.exercises.get? id with
  | none => exact alike_unit h
  | some e =>
    refine alike_ite Iff.rfl (fun _ => alike_unit h) fun _ => ?_
    rw [h.task_get?]
    cases s.tasks.get? taskId with
    | none => exact alike_unit h
    | some t =>
      refine alike_ite Iff.rfl (fun _ => ?_) fun _ => alike_unit h
      refine alike_modify_bind (h.observeTask id taskId) fun h => ?_
      refine alike_ite Iff.rfl (fun _ => pair_appendEvidence e t _ _ h) fun _ => ?_
      rw [ρ.playbook_task]
      refine alike_bind (alike_check_same h _) ?_
      rintro p _ u u' ⟨rfl, -⟩ hu
      refine alike_bind (pair_appendEvidence e t _ _ hu) fun _ _ v v' _ hv => ?_
      refine alike_ite Iff.rfl (fun _ => ?_) fun _ => alike_unit hv
      exact alike_modify (hv.matchDetections id taskId _)

theorem pair_recordCompletion (id : PyStr) :
    ρ.Pair w w' (recordCompletion w id) (recordCompletion w' id) := by
  intro s s' h
  unfold recordCompletion
  refine alike_get ?_
  rw [h.exercise_get?]
  cases s.exercises.get? id with
  | none => exact alike_unit h
  | some e =>
    have htasks : (ρ.exercise e).taskIds.map s'.tasks.get? =
        (e.taskIds.map s.tasks.get?).map (Option.map ρ.task) := by
      rw [List.map_map]
      exact List.map_congr_left fun taskId _ => h.task_get? taskId
    have hunfinished : unfinished ∘ Option.map ρ.task = unfinished :=
      funext fun t => by cases t <;> rfl
    have hcomplete : didComplete ∘ Option.map ρ.task = didComplete :=
      funext fun t => by cases t <;> rfl
    simp only [Option.map_some, htasks, List.any_map, List.all_map, hunfinished, hcomplete,
      List.map_eq_nil_iff]
    refine alike_ite Iff.rfl (fun _ => alike_unit h) fun _ => ?_
    refine alike_ite Iff.rfl (fun _ => alike_unit h) fun _ => ?_
    exact alike_modify (h.completeExercise e _)

theorem pair_refreshExercise (id : PyStr) :
    ρ.Pair w w' (refreshExercise w id) (refreshExercise w' id) := by
  intro s s' h
  unfold refreshExercise
  refine alike_get ?_
  rw [h.exercise_get?]
  cases s.exercises.get? id with
  | none => exact alike_unit h
  | some e =>
    refine alike_bind (alike_forM (fun taskId _ => pair_refreshTask id taskId) h) ?_
    intro _ _ u u' _ hu
    exact alike_ite Iff.rfl (fun _ => alike_unit hu) fun _ => pair_recordCompletion id _ _ hu

/-- `_refresh_exercises_locked`. -/
theorem pair_refreshExercises :
    ρ.Pair w w' (refreshExercisesLocked w) (refreshExercisesLocked w') := by
  intro s s' h
  unfold refreshExercisesLocked
  refine alike_get ?_
  rw [h.exercise_keys]
  exact alike_forM (fun id _ => pair_refreshExercise id) h

/-! ### The expiry pass -/

namespace Renaming.Sim

theorem failTask (h : ρ.Sim w w' s s') (n : Node) (t : Task) (reason message : String) :
    ρ.Sim w w' (s.failTask w n t reason message)
      (s'.failTask w' (ρ.node n) (ρ.task t) reason message) := by
  unfold LabState.failTask
  refine (((h.tick.setTask ?_).setNode rfl).record fun _ => ?_).audit fun _ => ?_
  · simp [Renaming.task, h.now]
  · simp [Renaming.draft, Renaming.data, Renaming.node, Renaming.task, Task.eventData]
  · simp [Renaming.node, Renaming.task]

theorem expireTask (h : ρ.Sim w w' s s') (t : Task) :
    ρ.Sim w w' (s.expireTask w t) (s'.expireTask w' (ρ.task t)) := by
  unfold LabState.expireTask
  refine ((h.tick.setTask ?_).record fun _ => ?_).audit fun _ => ?_
  · simp [Renaming.task, h.now]
  · simp [Renaming.draft, Renaming.data, Renaming.task, Task.eventData]
  · simp [Renaming.task]

theorem countFailure (h : ρ.Sim w w' s s') (nodeId : PyStr) :
    ρ.Sim w w' (s.countFailure nodeId) (s'.countFailure nodeId) := by
  unfold LabState.countFailure
  rw [h.node_get?]
  cases s.nodes.get? nodeId with
  | none => exact h
  | some n => exact h.setNode rfl

theorem timeoutTask (h : ρ.Sim w w' s s') (t : Task) :
    ρ.Sim w w' (s.timeoutTask w t) (s'.timeoutTask w' (ρ.task t)) := by
  unfold LabState.timeoutTask
  refine (((h.tick.setTask ?_).countFailure t.nodeId).record fun _ => ?_).audit fun _ => ?_
  · simp [Renaming.task, h.now]
  · simp [Renaming.draft, Renaming.data, Renaming.task, Task.eventData]
  · simp [Renaming.task]

theorem staleNode (h : ρ.Sim w w' s s') (n : Node) :
    ρ.Sim w w' (s.staleNode w n) (s'.staleNode w' (ρ.node n)) :=
  ((h.setNode rfl).record fun _ => rfl).audit fun _ => rfl

theorem token (h : ρ.Sim w w' s s') :
    PyStr.text (w'.token s'.draws) = ρ.tokenStr (.text (w.token s.draws)) :=
  congrArg PyStr.text (h.aligned.token 0)

theorem closeSession (h : ρ.Sim w w' s s') (n : Node) :
    ρ.Sim w w' (s.closeSession w n) (s'.closeSession w' (ρ.node n)) := by
  unfold LabState.closeSession
  refine ((h.tick.setNode ?_).record fun _ => rfl).audit fun _ => rfl
  simp [Renaming.node, h.token]

end Renaming.Sim

theorem pair_failUnfinishedTask (nodeId : PyStr) (reason message : String) (taskId : PyStr) :
    ρ.Pair w w' (failUnfinishedTask w nodeId reason message taskId)
      (failUnfinishedTask w' nodeId reason message taskId) := by
  intro s s' h
  refine alike_modify ?_
  rw [h.node_get?, h.task_get?]
  cases s.nodes.get? nodeId with
  | none => exact h
  | some n =>
    cases s.tasks.get? taskId with
    | none => exact h
    | some t =>
      exact .ite Iff.rfl (fun _ => h.failTask n t reason message) fun _ => h

theorem pair_failUnfinishedTasks (nodeId : PyStr) (reason message : String) :
    ρ.Pair w w' (failUnfinishedTasksLocked w nodeId reason message)
      (failUnfinishedTasksLocked w' nodeId reason message) := by
  intro s s' h
  unfold failUnfinishedTasksLocked
  refine alike_get ?_
  rw [h.task_keys]
  refine alike_bind (alike_forM
    (fun taskId _ => pair_failUnfinishedTask nodeId reason message taskId) h) ?_
  exact fun _ _ u u' _ hu => pair_refreshExercises _ _ hu

theorem pair_expireQueued (now : Instant) (taskId : PyStr) :
    ρ.Pair w w' (expireQueued w now taskId) (expireQueued w' now taskId) := by
  intro s s' h
  refine alike_modify ?_
  rw [h.task_get?]
  cases s.tasks.get? taskId with
  | none => exact h
  | some t =>
    have hdeadline : (ρ.task t).queueDeadline = t.queueDeadline := rfl
    simp only [Option.map_some, hdeadline]
    cases t.queueDeadline with
    | none => exact h
    | some d => exact .ite Iff.rfl (fun _ => h) fun _ => h.expireTask t

theorem pair_expireDispatched (now : Instant) (taskId : PyStr) :
    ρ.Pair w w' (expireDispatched w now taskId) (expireDispatched w' now taskId) := by
  intro s s' h
  unfold expireDispatched
  refine alike_get ?_
  rw [h.task_get?]
  cases s.tasks.get? taskId with
  | none => exact alike_unit h
  | some t =>
    refine alike_ite Iff.rfl (fun _ => alike_unit h) fun _ => ?_
    simp only [Renaming.task]
    cases t.deadline with
    | none => exact alike_throw h _
    | some d =>
      exact alike_ite Iff.rfl (fun _ => alike_unit h) fun _ => alike_modify (h.timeoutTask t)

theorem pair_expireOnline (now : Instant) (nodeId : PyStr) :
    ρ.Pair w w' (expireOnline w now nodeId) (expireOnline w' now nodeId) := by
  intro s s' h
  refine alike_modify ?_
  rw [h.node_get?]
  cases s.nodes.get? nodeId with
  | none => exact h
  | some n =>
    exact .ite Iff.rfl (fun _ => h.staleNode n) fun _ => h

theorem pair_expireSession (now : Instant) (nodeId : PyStr) :
    ρ.Pair w w' (expireSession w now nodeId) (expireSession w' now nodeId) := by
  intro s s' h
  unfold expireSession
  refine alike_get ?_
  rw [h.node_get?]
  cases s.nodes.get? nodeId with
  | none => exact alike_unit h
  | some n =>
    refine alike_ite Iff.rfl (fun _ => ?_) fun _ => alike_unit h
    refine alike_bind (pair_failUnfinishedTasks nodeId _ _ _ _ h) fun _ _ u u' _ hu => ?_
    refine alike_modify ?_
    rw [hu.node_get?]
    cases u.nodes.get? nodeId with
    | none => exact hu
    | some n => exact hu.closeSession n

theorem pair_expireNode (now : Instant) (nodeId : PyStr) :
    ρ.Pair w w' (expireNode w now nodeId) (expireNode w' now nodeId) := fun _ _ h =>
  alike_bind (pair_expireOnline now nodeId _ _ h) fun _ _ _ _ _ hu =>
    pair_expireSession now nodeId _ _ hu

/-- `_expire_locked`. -/
theorem pair_expire (now : Instant) : ρ.Pair w w' (expireLocked w now) (expireLocked w' now) := by
  intro s s' h
  unfold expireLocked
  refine alike_get ?_
  rw [h.task_keys]
  refine alike_bind (alike_forM (fun id _ => pair_expireQueued now id) h) fun _ _ t t' _ ht => ?_
  refine alike_get ?_
  rw [ht.task_keys]
  refine alike_bind (alike_forM (fun id _ => pair_expireDispatched now id) ht) ?_
  intro _ _ u u' _ hu
  refine alike_get ?_
  rw [hu.node_keys]
  refine alike_bind (alike_forM (fun id _ => pair_expireNode now id) hu) ?_
  exact fun _ _ v v' _ hv => pair_refreshExercises _ _ hv

end C2Lab
