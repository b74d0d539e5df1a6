import C2Lab.Core.Counting
import C2Lab.Core.Ran

/-! Creation and control are all-or-nothing.

    Every check of these operations stands before their first write, and nothing after it can raise;
    so an operation that raised changed nothing, down to the counters and the draws. One that
    created work added its tasks, in order, and took nothing but what retention may prune. -/

namespace C2Lab

variable {w : World} {s s' s₀ s₁ : LabState}

/-! ### Created work -/

/-- `s'` has new queued tasks running `commands` in this order, for one node and on behalf of one
    operator; a task of `s` is as it was, or was pruned; no node record changed. -/
structure LabState.CreatedWork (s : LabState) (nodeId actor : PyStr) (ttl : ℤ) (now : Instant)
    (commands : List Command) (s' : LabState) : Prop where
  tasks : ∃ new : List Task, new.map (·.command) = commands ∧ (new.map (·.id)).Nodup ∧
    new.map (·.sequence) = List.range' (s.taskSequence + 1) commands.length ∧
    (∀ t ∈ new, s.tasks.get? t.id = none ∧ s'.tasks.get? t.id = some t ∧ t.status = .queued ∧
      t.nodeId = nodeId ∧ t.createdBy = actor ∧ t.queueDeadline = some (now + ttl)) ∧
    ∀ id t, s'.tasks.get? id = some t → t ∈ new ∨ s.tasks.get? id = some t
  untouched : ∀ id t, s.tasks.get? id = some t → s'.tasks.get? id = some t ∨
    s'.tasks.get? id = none ∧ t.status.isTerminal = true ∧
      taskIsRequiredByRunningExerciseLocked t s = false
  nodes : s'.nodes = s.nodes

/-- The tasks made so far are distinct and new. -/
theorem Creating.ids {now : Instant} {pruned new : List Task} {specs : List TaskSpec}
    (h : Creating w s now pruned specs new s') (hs : Safe w s) (hf : w.FreshBelow s'.draws) :
    (new.map (·.id)).Nodup ∧ ∀ t ∈ new, s.tasks.get? t.id = none := by
  obtain ⟨ks, hids, hlt, hks⟩ := h.drawn
  constructor
  · rw [hids, List.nodup_map_iff_inj_on (hlt.imp fun h => Nat.ne_of_lt h)]
    intro i hi j hj heq
    exact hf.ident_inj (by decide) (hks i hi).2 (hks j hj).2 heq
  · intro t ht
    have hmem : t.id ∈ ks.map w.taskId := hids ▸ List.mem_map_of_mem ht
    obtain ⟨i, hi, hid⟩ := List.mem_map.mp hmem
    refine Dict.get?_eq_none.mpr fun hkey => ?_
    obtain ⟨x, hx⟩ := Dict.mem_keys.mp hkey
    obtain ⟨j, hj, hid'⟩ := (hs.tasks _ _ hx).drawn
    exact taskId_fresh hf (hj.trans_le (hks i hi).1) (hks i hi).2 (hid'.symm.trans hid.symm)

/-- Every task made is as its specification says. -/
theorem Creating.newTask {now : Instant} {pruned new : List Task} {specs : List TaskSpec}
    (h : Creating w s now pruned specs new s') {t : Task} (ht : t ∈ new) :
    ∃ spec ∈ specs, ∃ s₁, t = LabState.newTask w spec now s₁ := by
  obtain ⟨i, hi, rfl⟩ := List.mem_iff_getElem.mp ht
  have hlen := h.made.length_eq
  have hat : i < specs.length := by omega
  exact ⟨specs[i], List.getElem_mem hat, (List.forall₂_iff_get.mp h.made).2 i hat hi⟩

/-- What a creating operation leaves behind. -/
theorem Creating.created {now : Instant} {pruned new : List Task} {specs : List TaskSpec}
    (h : Creating w s now pruned specs new s₁) (hs : Safe w s) (hf : w.FreshBelow s₁.draws)
    {nodeId actor : PyStr} {ttl : ℤ} (hspecs : ∀ spec ∈ specs, spec.nodeId = nodeId ∧
      spec.createdBy = actor ∧ spec.queueTtlSeconds = ttl)
    (htasks : s'.tasks = s₁.tasks) (hnodes : s'.nodes = s₁.nodes) :
    s.CreatedWork nodeId actor ttl now (specs.map (·.command)) s' := by
  obtain ⟨hnodup, hnew⟩ := h.ids hs hf
  have hget : ∀ id, s'.tasks.get? id = (new.find? (·.id = id)).or
      (if id ∈ pruned.map (·.id) then none else s.tasks.get? id) := by
    intro id
    rw [htasks, h.records, Dict.get?_foldl_set _ hnodup, Dict.get?_foldl_erase]
  have hfind : ∀ t ∈ new, new.find? (·.id = t.id) = some t := by
    intro t ht
    cases hx : new.find? (·.id = t.id) with
    | none => exact absurd (List.find?_eq_none.mp hx t ht) (by simp)
    | some x =>
      have hid : x.id = t.id := by simpa using List.find?_some hx
      rw [List.inj_on_of_nodup_map hnodup (List.mem_of_find?_eq_some hx) ht hid]
  refine ⟨⟨new, ?_, hnodup, ?_, ?_, ?_⟩, ?_, hnodes.trans h.nodes⟩
  · -- the tasks stand in the order of their specifications
    refine (List.forall₂_eq_eq_eq ▸ List.forall₂_map_left_iff.mpr
      (List.forall₂_map_right_iff.mpr (h.made.imp ?_))).symm
    rintro spec _ ⟨_, rfl⟩
    rfl
  · rw [h.sequence, List.length_map, ← h.made.length_eq]
  · intro t ht
    obtain ⟨spec, hspec, s₂, hs₂⟩ := h.newTask ht
    obtain ⟨hnode, hby, httl⟩ := hspecs spec hspec
    refine ⟨hnew t ht, by rw [hget, hfind t ht]; rfl, ?_⟩
    rw [hs₂]
    exact ⟨rfl, hnode, hby, by simp [LabState.newTask, httl]⟩
  · intro id t ht
    rw [hget] at ht
    cases hx : new.find? (·.id = id) with
    | some x =>
      rw [hx, Option.some_or, Option.some.injEq] at ht
      exact .inl (ht ▸ List.mem_of_find?_eq_some hx)
    | none =>
      rw [hx, Option.none_or] at ht
      split at ht
      · cases ht
      · exact .inr ht
  · intro id t ht
    have hnone : new.find? (·.id = id) = none := by
      refine List.find?_eq_none.mpr fun x hx hid => ?_
      have hid : x.id = id := by simpa using hid
      rw [← hid, hnew x hx] at ht
      cases ht
    rw [hget, hnone, Option.none_or]
    split
    · rename_i hmem
      obtain ⟨x, hx, rfl⟩ := List.mem_map.mp hmem
      obtain ⟨hrec, hterm, hfree⟩ := h.prunable x hx
      obtain rfl : x = t := Option.some.inj (hrec.symm.trans ht)
      exact .inr ⟨rfl, hterm, hfree⟩
    · exact .inl ht

/-! ### The creating operations -/

/-- A request whose key was `seen` is a replay and changes nothing; any other creates its work. -/
def LabState.ReplaysOrCreates (s : LabState) (seen : Prop) (nodeId actor : PyStr) (ttl : ℤ)
    (now : Instant) (commands : List Command) (s' : LabState) : Prop :=
  seen ∧ s' = s ∨ ¬ seen ∧ s.CreatedWork nodeId actor ttl now commands s'

theorem TaskQueued.outcome {r : TaskRequest} {now : Instant} {reply : PublicTask}
    (h : TaskQueued w s r now reply s') (hs : Safe w s) (hf : w.FreshBelow s'.draws) :
    s.ReplaysOrCreates (s.taskWithKey r.idempotencyKey ≠ none) r.nodeId r.actor
      r.queueTtlSeconds now [r.command] s' := by
  cases h with
  | replayed ht => exact .inl ⟨by simp [ht], rfl⟩
  | created hkey hslots ha =>
    refine .inr ⟨fun hne => hne hkey, (hslots.addTask ha none).created hs hf ?_ rfl rfl⟩
    intro spec hspec
    rw [List.nil_append, List.mem_singleton] at hspec
    subst hspec
    exact ⟨rfl, rfl, rfl⟩

theorem OperationRequest.mem_specsFrom {r : OperationRequest} {operationId : PyStr}
    {spec : TaskSpec} {step : ℕ} {ps : List Playbook} (h : spec ∈ r.specsFrom operationId step ps) :
    spec.nodeId = r.nodeId ∧ spec.createdBy = r.actor ∧
      spec.queueTtlSeconds = r.queueTtlSeconds := by
  induction ps generalizing step with
  | nil => cases h
  | cons p ps ih =>
    rcases List.mem_cons.mp h with rfl | h
    · exact ⟨rfl, rfl, rfl⟩
    · exact ih h

theorem OperationRequest.command_specsFrom (r : OperationRequest) (operationId : PyStr)
    (step : ℕ) (ps : List Playbook) :
    (r.specsFrom operationId step ps).map (·.command) = ps.map .runPlaybook := by
  induction ps generalizing step with
  | nil => rfl
  | cons p ps ih => rw [specsFrom, List.map_cons, List.map_cons, ih]; rfl

section rememberOperation
variable (key : Option PyStr) (evicted : List PyStr) (r : OperationRecord) (s : LabState)

theorem LabState.tasks_rememberOperation : (s.rememberOperation key evicted r).tasks = s.tasks := by
  cases key <;> rfl
theorem LabState.nodes_rememberOperation : (s.rememberOperation key evicted r).nodes = s.nodes := by
  cases key <;> rfl

end rememberOperation

theorem OperationQueued.outcome {r : OperationRequest} {now : Instant} {reply : OperationSummary}
    (h : OperationQueued w s r now reply s') (hs : Safe w s) (hf : w.FreshBelow s'.draws) :
    s.ReplaysOrCreates (r.idempotencyKey.bind s.operationIdempotency.get? ≠ none) r.nodeId
      r.actor r.queueTtlSeconds now (r.steps.map .runPlaybook) s' := by
  cases h with
  | replayed hkey => exact .inl ⟨by simp [hkey], rfl⟩
  | @created n evicted operationId pruned new s₁ hkey hn ha hp hev hmade =>
    have hw := Write.rememberOperation (w := w) (hmade.keyRoom hkey hev)
      (r.record operationId new)
    have hwork := hmade.created hs (hf.mono hw.draws_le)
      (fun spec hspec => OperationRequest.mem_specsFrom hspec)
      (LabState.tasks_rememberOperation r.idempotencyKey evicted (r.record operationId new) s₁)
      (LabState.nodes_rememberOperation r.idempotencyKey evicted (r.record operationId new) s₁)
    rw [OperationRequest.command_specsFrom] at hwork
    exact .inr ⟨fun hne => hne hkey, hwork⟩

section insertExercise
variable (w) (e : Exercise) (key : Option PyStr) (s : LabState)

theorem LabState.tasks_insertExercise : (s.insertExercise w e key).tasks = s.tasks := by
  cases key <;> simp [insertExercise]
theorem LabState.nodes_insertExercise : (s.insertExercise w e key).nodes = s.nodes := by
  cases key <;> simp [insertExercise]

end insertExercise

theorem ExerciseStarted.outcome {r : ExerciseRequest} {now : Instant} {reply : PublicExercise}
    (h : ExerciseStarted w s r now reply s') (hs : Safe w s) (hf : w.FreshBelow s'.draws) :
    s.ReplaysOrCreates (r.idempotencyKey.bind s.exerciseIdempotency.get? ≠ none) r.nodeId
      r.actor defaultQueueTtlSeconds now
      ((scenarioDefinition r.scenarioId).playbooks.map .runPlaybook) s' := by
  cases h with
  | replayed hk hrec => exact .inl ⟨by simp [hk, hrec], rfl⟩
  | @created n pruned new e s₁ hkey hn ha hp hroom hmade hnode hby hsc hids he =>
    have hw := Write.insertExercise (w := w) he (hmade.exerciseRoom hkey hroom)
    have hspecs : ∀ spec ∈ (scenarioDefinition r.scenarioId).playbooks.map e.spec,
        spec.nodeId = r.nodeId ∧ spec.createdBy = r.actor ∧
          spec.queueTtlSeconds = defaultQueueTtlSeconds := by
      intro spec hspec
      obtain ⟨p, -, rfl⟩ := List.mem_map.mp hspec
      exact ⟨hnode, hby, rfl⟩
    have hwork := hmade.created hs (hf.mono hw.draws_le) hspecs
      (LabState.tasks_insertExercise w e r.idempotencyKey s₁)
      (LabState.nodes_insertExercise w e r.idempotencyKey s₁)
    rw [List.map_map] at hwork
    exact .inr ⟨fun hne => hne hkey, hwork⟩

/-! ### All or nothing -/

/-- A program that raised left the state as it was. -/
def RaisesClean {α : Type} (m : Lab α) (s : LabState) : Prop :=
  ∀ e s', m s = .error e s' → s' = s

theorem RaisesClean.of_wp {α : Type} {m : Lab α} {Q : α → LabState → Prop}
    (h : Prog.wp m Q (fun _ s' => s' = s) s) : RaisesClean m s := by
  intro e s' herr
  unfold Prog.wp at h
  rw [herr] at h
  exact h

/-- Creation and control are all-or-nothing. A refused request changed nothing: nothing was pruned,
    no key evicted, no number used. An accepted one is a replay and changes nothing, or adds its
    tasks in order, for the requested node and the caller, at the cost of prunable tasks alone. -/
theorem all_or_nothing (hr : Reachable w s) :
    (∀ name version profile capabilities interval jitter now,
      RaisesClean (enrollNode w name version profile capabilities interval jitter now) s) ∧
    (∀ nodeId taskType payload ttl key actor now,
      RaisesClean (queueTask w nodeId taskType payload ttl key actor now) s) ∧
    (∀ nodeId steps ttl key actor now,
      RaisesClean (queueOperation w nodeId steps ttl key actor now) s) ∧
    (∀ nodeId scenarioId actor key now,
      RaisesClean (startExercise w nodeId scenarioId actor key now) s) ∧
    (∀ taskId actor, RaisesClean (cancelTask w taskId actor) s) ∧
    (∀ exerciseId action actor, RaisesClean (containExercise w exerciseId action actor) s) ∧
    (∀ nodeId taskType payload ttl key actor now reply s',
      queueTask w nodeId taskType payload ttl key actor now s = .ok reply s' →
      w.FreshBelow s'.draws →
      ∃ r, validateTaskRequest w.toInterp nodeId taskType payload ttl key actor = .ok r ∧
        s.ReplaysOrCreates (s.taskWithKey r.idempotencyKey ≠ none) r.nodeId r.actor
          r.queueTtlSeconds now [r.command] s') ∧
    (∀ nodeId steps ttl key actor now reply s',
      queueOperation w nodeId steps ttl key actor now s = .ok reply s' →
      w.FreshBelow s'.draws →
      ∃ r, validateOperationRequest w.toInterp nodeId steps ttl key actor = .ok r ∧
        s.ReplaysOrCreates (r.idempotencyKey.bind s.operationIdempotency.get? ≠ none) r.nodeId
          r.actor r.queueTtlSeconds now (r.steps.map .runPlaybook) s') ∧
    (∀ nodeId scenarioId actor key now reply s',
      startExercise w nodeId scenarioId actor key now s = .ok reply s' →
      w.FreshBelow s'.draws →
      ∃ r, validateExerciseRequest nodeId scenarioId actor key = .ok r ∧
        s.ReplaysOrCreates (r.idempotencyKey.bind s.exerciseIdempotency.get? ≠ none) r.nodeId
          r.actor defaultQueueTtlSeconds now
          ((scenarioDefinition r.scenarioId).playbooks.map .runPlaybook) s') := by
  have hs := hr.sound.safe
  have hset := hr.sound.settled
  refine ⟨?_, ?_, ?_, ?_, ?_, ?_, ?_, ?_, ?_⟩
  · intros; exact .of_wp (enrollNode_wp hs ..)
  · intros; exact .of_wp (queueTask_wp hs ..)
  · intros; exact .of_wp (queueOperation_wp hs ..)
  · intros; exact .of_wp (startExercise_wp hs ..)
  · intros; exact .of_wp (cancelTask_wp hs hset ..)
  · intros; exact .of_wp (containExercise_wp hs hset ..)
  · intro nodeId taskType payload ttl key actor now reply s' hok hf
    obtain ⟨r, hreq, h⟩ := (Prog.wp_run hok).mp (queueTask_wp hs ..)
    exact ⟨r, hreq, h.outcome hs hf⟩
  · intro nodeId steps ttl key actor now reply s' hok hf
    obtain ⟨r, hreq, h⟩ := (Prog.wp_run hok).mp (queueOperation_wp hs ..)
    exact ⟨r, hreq, h.outcome hs hf⟩
  · intro nodeId scenarioId actor key now reply s' hok hf
    obtain ⟨r, hreq, h⟩ := (Prog.wp_run hok).mp (startExercise_wp hs ..)
    exact ⟨r, hreq, h.outcome hs hf⟩

/-- A Node that takes playbooks, and an exercise started on it. -/
theorem all_or_nothing_started :
    let s := exec .counting (.init "stream") [Counting.enrollPurple]
    let scenario := Vocabulary.toJson ScenarioId.canaryRemoval
    ∃ reply s', startExercise .counting Counting.nodeId scenario (.str "operator") .null 10 s =
        .ok reply s' ∧ ∃ r, validateExerciseRequest Counting.nodeId scenario (.str "operator")
          .null = .ok r ∧
        s.ReplaysOrCreates (r.idempotencyKey.bind s.exerciseIdempotency.get? ≠ none) r.nodeId
          r.actor defaultQueueTtlSeconds 10
          ((scenarioDefinition r.scenarioId).playbooks.map .runPlaybook) s' := by
  intro s scenario
  obtain ⟨reply, s', hok, hf⟩ := Counting.exists_returned (m := startExercise .counting
    Counting.nodeId scenario (.str "operator") .null 10) (s := s) (by decide +kernel)
  obtain ⟨-, -, -, -, -, -, -, -, hstart⟩ := all_or_nothing (World.counting_reachable "stream"
    [Counting.enrollPurple] (by decide))
  exact ⟨reply, s', hok, hstart _ _ _ _ _ _ _ hok hf⟩

end C2Lab
