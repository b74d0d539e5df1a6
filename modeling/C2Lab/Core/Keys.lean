import C2Lab.Core.Counting
import C2Lab.Core.ExerciseLife

/-! Idempotency keys of tasks and exercises.

    A task carries its key in its own record, so a key is free again once the record is pruned; the
    key of an exercise is kept beside it until the reset. Both name one record at a time, and a
    request that repeats a key finds that record whatever became of it or of its node. -/

namespace C2Lab

variable {w : World} {s s' s₀ s₁ : LabState} {hi : ℕ}

/-! ### Keys of tasks -/

/-- No two retained tasks carry the same key. -/
def Records.TaskKeysDistinct (r : Records) : Prop :=
  ∀ {id id' t t' k}, r.tasks.get? id = some t → r.tasks.get? id' = some t' →
    t.idempotencyKey = some k → t'.idempotencyKey = some k → id = id'

/-- A key no retained task carries. -/
theorem LabState.taskWithKey_none {k : PyStr} (h : s.taskWithKey (some k) = none) {id : PyStr}
    {t : Task} (ht : s.tasks.get? id = some t) : t.idempotencyKey ≠ some k := by
  rw [LabState.taskWithKey, List.find?_eq_none] at h
  simpa using h t (Dict.mem_values.mpr ⟨id, ht⟩)

/-- A task found after a change had its key before, or is new and its key was free. -/
theorem RecordChange.task_key {c : Activity} {r : Records} (h : RecordChange w s hi c r)
    {id : PyStr} {t' : Task} (ht' : r.tasks.get? id = some t') {k : PyStr}
    (hk : t'.idempotencyKey = some k) :
    (∃ t, s.tasks.get? id = some t ∧ t.idempotencyKey = some k) ∨
      id = w.taskId s.draws ∧ s.taskWithKey (some k) = none := by
  have hchange := h.task id
  rw [ht'] at hchange
  generalize hx : some t' = x at hchange
  cases hchange with
  | same => exact .inl ⟨t', hx.symm, hk⟩
  | edited ht hid he =>
    cases hx
    have hreq := congrArg Task.idempotencyKey he.request_eq
    exact .inl ⟨_, ht, hreq.symm.trans hk⟩
  | added ha now hid =>
    cases hx
    have hkey := ha.key_new
    simp only [LabState.newTask] at hk
    rw [hk] at hkey
    exact .inr ⟨hid, hkey (by simp)⟩
  | pruned | cleared => cases hx

theorem taskKeysDistinct_kept (w : World) :
    Kept w (.reset :: Activity.lasting) fun s => s.TaskKeysDistinct := by
  refine Kept.of_change (Q := fun r _ => r.TaskKeysDistinct) ?_
  intro s hi c r _ _ _ _ h hQ id id' t t' k ht ht' hk hk'
  rcases h.task_key ht hk with ⟨t₀, ht₀, hk₀⟩ | ⟨hid, hfree⟩
  · rcases h.task_key ht' hk' with ⟨t₁, ht₁, hk₁⟩ | ⟨-, hfree'⟩
    · exact hQ ht₀ ht₁ hk₀ hk₁
    · exact absurd hk₀ (LabState.taskWithKey_none hfree' ht₀)
  · rcases h.task_key ht' hk' with ⟨t₁, ht₁, hk₁⟩ | ⟨hid', -⟩
    · exact absurd hk₁ (LabState.taskWithKey_none hfree ht₁)
    · exact hid.trans hid'.symm

/-- The key of a retained task leads to it. -/
theorem LabState.taskWithKey_eq (h : s.TaskKeysDistinct) {id k : PyStr} {t : Task}
    (ht : s.tasks.get? id = some t) (hk : t.idempotencyKey = some k) :
    s.taskWithKey (some k) = some t := by
  rw [LabState.taskWithKey]
  cases hfind : s.tasks.values.find? fun t => t.idempotencyKey = some k with
  | none =>
    rw [List.find?_eq_none] at hfind
    exact absurd (by simpa using hk) (hfind t (Dict.mem_values.mpr ⟨id, ht⟩))
  | some t' =>
    have hk' := List.find?_some hfind
    simp only [decide_eq_true_eq] at hk'
    obtain ⟨id', ht'⟩ := Dict.mem_values.mp (List.mem_of_find?_eq_some hfind)
    have hid := h ht ht' hk hk'
    rw [hid, ht'] at ht
    exact ht

/-- `LabError("Idempotency-Key was already used ...")` for the given kind of request. -/
def keyConflict (kind : String) : Exc :=
  labError s!"Idempotency-Key was already used for a different {kind} request"
    "idempotency_conflict" 409

/-- A request whose key a retained task carries is answered from that task. -/
theorem queueTask_replay {nodeId taskType payload key actor : Json} {ttl : Option Json}
    {r : TaskRequest} {now : Instant} {t : Task}
    (hr : validateTaskRequest w.toInterp nodeId taskType payload ttl key actor = .ok r)
    (ht : s.taskWithKey r.idempotencyKey = some t) :
    queueTask w nodeId taskType payload ttl key actor now s =
      if t.nodeId = r.nodeId ∧ t.command = r.command ∧ t.createdBy = r.actor ∧
          t.queueTtlSeconds = r.queueTtlSeconds then .ok t.publicTask s
      else .error (keyConflict "task") s := by
  simp only [queueTask, bind, EStateM.bind, hr, check_ok, pure, EStateM.pure, Prog.get_apply, ht]
  split <;> rfl

/-! ### Keys of exercises -/

/-- Every exercise key names a retained exercise, started by its request. -/
def Records.ExerciseKeysNamed (r : Records) : Prop :=
  ∀ {k actor nodeId scenario id}, r.exerciseIdempotency.get? k =
    some (actor, nodeId, scenario, id) →
    ∃ e, r.exercises.get? id = some e ∧ e.createdBy = actor ∧ e.nodeId = nodeId ∧
      e.scenarioId = scenario

/-- The keys of exercises change only when one is started or all are cleared. -/
theorem RecordChange.exercise_keys {c : Activity} {r : Records} (h : RecordChange w s hi c r)
    (hc : c ≠ .reset) : r.exerciseIdempotency = s.exerciseIdempotency ∨
      ∃ e key, s.ExerciseRoom key ∧ r.exerciseIdempotency = s.exerciseKeys key e ∧
        r.exercises.get? e.id = some e := by
  cases h with
  | @addedExercise e key he hk => exact .inr ⟨e, key, hk, rfl, Dict.get?_set_self _ _ _⟩
  | cleared => exact absurd rfl hc
  | _ => exact .inl rfl

/-- A key in use keeps its record until the reset. -/
theorem RecordChange.exercise_key_kept {c : Activity} {r : Records} (h : RecordChange w s hi c r)
    (hc : c ≠ .reset) {k : PyStr} {record : PyStr × PyStr × ScenarioId × PyStr}
    (hk : s.exerciseIdempotency.get? k = some record) :
    r.exerciseIdempotency.get? k = some record := by
  rcases h.exercise_keys hc with heq | ⟨e, key, hroom, heq, -⟩
  · rw [heq]; exact hk
  · rw [heq]
    cases key with
    | none => exact hk
    | some k' =>
      have hne : k ≠ k' := by
        rintro rfl
        rw [hroom.key_new k rfl] at hk
        cases hk
      simp only [LabState.exerciseKeys, Dict.get?_set_ne _ _ hne, hk]

theorem exerciseKeysNamed_kept (w : World) :
    Kept w (.reset :: Activity.lasting) fun s => s.ExerciseKeysNamed := by
  refine Kept.of_change (Q := fun r _ => r.ExerciseKeysNamed) ?_
  intro s hi c r _ hs hd hf h hQ k actor nodeId scenario id hrec
  by_cases hc : c = .reset
  · subst hc
    rcases h.of_reset with rfl | rfl
    · exact hQ hrec
    · rw [Dict.get?_empty] at hrec
      cases hrec
  have hkeep : s.exerciseIdempotency.get? k = some (actor, nodeId, scenario, id) →
      ∃ e, r.exercises.get? id = some e ∧ e.createdBy = actor ∧ e.nodeId = nodeId ∧
        e.scenarioId = scenario := by
    intro hrec
    obtain ⟨e, he, rfl, rfl, rfl⟩ := hQ hrec
    obtain ⟨e', he', hsame⟩ := (h.exercise id).kept hc (hf.mono hd) he
    exact ⟨e', he', hsame.created_eq.1, hsame.node_eq, hsame.scenario_eq⟩
  rcases h.exercise_keys hc with heq | ⟨e, key, hroom, heq, hget⟩
  · exact hkeep (heq ▸ hrec)
  · rw [heq] at hrec
    cases key with
    | none => exact hkeep hrec
    | some k' =>
      simp only [LabState.exerciseKeys, Dict.get?_set] at hrec
      split at hrec
      · cases hrec
        exact ⟨e, hget, rfl, rfl, rfl⟩
      · exact hkeep hrec

/-- A request whose key names a retained exercise is answered from that exercise. -/
theorem startExercise_replay {nodeId scenario actor key : Json} {r : ExerciseRequest}
    {now : Instant} {k a n id : PyStr} {sc : ScenarioId} {e : Exercise}
    (hr : validateExerciseRequest nodeId scenario actor key = .ok r)
    (hk : r.idempotencyKey = some k)
    (hrec : s.exerciseIdempotency.get? k = some (a, n, sc, id))
    (he : s.exercises.get? id = some e) :
    startExercise w nodeId scenario actor key now s =
      if a = r.actor ∧ n = r.nodeId ∧ sc = r.scenarioId then .ok e.publicExercise s
      else .error (keyConflict "exercise") s := by
  have hget : r.idempotencyKey.bind s.exerciseIdempotency.get? = some (a, n, sc, id) := by
    rw [hk]; exact hrec
  simp only [startExercise, bind, EStateM.bind, hr, check_ok, pure, EStateM.pure, Prog.get_apply,
    hget, he]
  split <;> rfl

/-! ### Runs -/

/-- Every request with key `k` is answered from the task `t`, or refused if it differs from the one
    that made it; either way nothing changes. -/
def LabState.AnswersTask (w : World) (k : PyStr) (t : Task) (s : LabState) : Prop :=
  ∀ nodeId taskType payload ttl key actor now r,
    validateTaskRequest w.toInterp nodeId taskType payload ttl key actor = .ok r →
    r.idempotencyKey = some k →
      queueTask w nodeId taskType payload ttl key actor now s =
        if t.nodeId = r.nodeId ∧ t.command = r.command ∧ t.createdBy = r.actor ∧
            t.queueTtlSeconds = r.queueTtlSeconds then .ok t.publicTask s
        else .error (keyConflict "task") s

/-- Every request with key `k` is answered from the exercise `e`, or refused if it differs from the
    one that made it; either way nothing changes. -/
def LabState.AnswersExercise (w : World) (k : PyStr) (e : Exercise) (s : LabState) : Prop :=
  ∀ nodeId scenario actor key now r,
    validateExerciseRequest nodeId scenario actor key = .ok r → r.idempotencyKey = some k →
      startExercise w nodeId scenario actor key now s =
        if e.createdBy = r.actor ∧ e.nodeId = r.nodeId ∧ e.scenarioId = r.scenarioId then
          .ok e.publicExercise s
        else .error (keyConflict "exercise") s

theorem Reachable.taskKeys (hr : Reachable w s) : s.TaskKeysDistinct :=
  (taskKeysDistinct_kept w).reachable (fun _ _ _ _ _ _ h => by
    simp [LabState.init] at h) hr

theorem Reachable.exerciseKeys (hr : Reachable w s) : s.ExerciseKeysNamed :=
  (exerciseKeysNamed_kept w).reachable (fun _ _ _ _ _ _ h => by
    simp [LabState.init] at h) hr

theorem Reachable.answersTask (hr : Reachable w s) {id k : PyStr} {t : Task}
    (ht : s.tasks.get? id = some t) (hk : t.idempotencyKey = some k) : s.AnswersTask w k t := by
  intro nodeId taskType payload ttl key actor now r hreq hkey
  refine queueTask_replay hreq ?_
  rw [hkey]
  exact LabState.taskWithKey_eq hr.taskKeys ht hk

theorem Reachable.answersExercise (hr : Reachable w s) {k actor nodeId id : PyStr}
    {scenario : ScenarioId}
    (hrec : s.exerciseIdempotency.get? k = some (actor, nodeId, scenario, id)) :
    ∃ e, s.exercises.get? id = some e ∧ e.createdBy = actor ∧ e.nodeId = nodeId ∧
      e.scenarioId = scenario ∧ s.AnswersExercise w k e := by
  obtain ⟨e, he, rfl, rfl, rfl⟩ := hr.exerciseKeys hrec
  exact ⟨e, he, rfl, rfl, rfl, fun _ _ _ _ _ _ hreq hkey =>
    startExercise_replay hreq hkey hrec he⟩

/-- A keyed exercise leaves a record of its key, whether it is new or a replay. -/
theorem ExerciseStarted.keyed {r : ExerciseRequest} {now : Instant} {reply : PublicExercise}
    {k : PyStr} (h : ExerciseStarted w s r now reply s') (hs : Safe w s)
    (hk : r.idempotencyKey = some k) :
    s'.exerciseIdempotency.get? k = some (r.actor, r.nodeId, r.scenarioId, reply.id) := by
  cases h with
  | replayed hk' hrec he =>
    rw [hk, Option.some.injEq] at hk'
    rw [hk', hrec, Exercise.publicExercise, hs.exercise_key he]
  | created hkey hn ha hp hroom hmade hnode hby hsc hids he =>
    rw [hk, LabState.insertExercise]
    simp [hby, hnode, hsc, Exercise.publicExercise]

/-- Task and exercise keys. In every reachable state no two retained tasks carry one key, and an
    exercise key names a retained exercise of the request that used it; a request that repeats a key
    is answered from the task that carries it, for as long as it is retained, or from the exercise,
    until the reset, and a request that differs is refused; neither changes anything. -/
theorem idempotency_keys (hr : Reachable w s) :
    (∀ id id' t t' k, s.tasks.get? id = some t → s.tasks.get? id' = some t' →
      t.idempotencyKey = some k → t'.idempotencyKey = some k → id = id') ∧
    (∀ k actor nodeId scenario id,
      s.exerciseIdempotency.get? k = some (actor, nodeId, scenario, id) →
        ∃ e, s.exercises.get? id = some e ∧ e.createdBy = actor ∧ e.nodeId = nodeId ∧
          e.scenarioId = scenario ∧ s.AnswersExercise w k e) ∧
    (∀ id t k, s.tasks.get? id = some t → t.idempotencyKey = some k → s.AnswersTask w k t) ∧
    ∀ nodeId scenario actor key now r k reply s₁,
      validateExerciseRequest nodeId scenario actor key = .ok r → r.idempotencyKey = some k →
      startExercise w nodeId scenario actor key now s = .ok reply s₁ → w.FreshBelow s₁.draws →
        ∀ s', Since w s₁ s' → ∃ e, s'.exercises.get? reply.id = some e ∧
          e.createdBy = r.actor ∧ e.nodeId = r.nodeId ∧ e.scenarioId = r.scenarioId ∧
          s'.AnswersExercise w k e := by
  refine ⟨fun _ _ _ _ _ => hr.taskKeys, fun _ _ _ _ _ => hr.answersExercise,
    fun _ _ _ => hr.answersTask, ?_⟩
  intro nodeId scenario actor key now r k reply s₁ hreq hk hok hf s' hl
  have hwp := startExercise_wp (w := w) hr.sound.safe nodeId scenario actor key now
  rw [Prog.wp_run hok] at hwp
  obtain ⟨r', hreq', hstarted⟩ := hwp
  rw [hreq, Except.ok.injEq] at hreq'
  subst hreq'
  have hstep : s₁ = step w s (.startExercise nodeId scenario actor key now) := by
    simp only [step, Op.run, Prog.final, Functor.map, EStateM.map, hok]
  have hr₁ : Reachable w s₁ := hstep ▸ hr.step (hstep ▸ hf)
  -- the record of the key survives every write but the reset
  have hkeep : Kept w Activity.lasting fun s => s.exerciseIdempotency.get? k =
      some (r.actor, r.nodeId, r.scenarioId, reply.id) :=
    Kept.of_change (Q := fun rs _ => rs.exerciseIdempotency.get? k = _)
      fun hc _ _ _ h hQ => h.exercise_key_kept (Activity.mem_lasting.mp hc) hQ
  exact (hr₁.later hl.later).answersExercise
    (hkeep.since hl hr₁.sound (hstarted.keyed hr.sound.safe hk))

/-- A task queued with a key answers its retries. -/
theorem idempotency_keys_retry :
    let s := exec .counting (.init "stream") [Counting.enroll,
      .queueTask Counting.nodeId (Vocabulary.toJson TaskType.ping) (.obj []) none
        (.str "retry-key-1") (.str "operator") 10]
    s.tasks.values.map (·.idempotencyKey) = [some (.text "retry-key-1")] ∧
      ∀ id t k, s.tasks.get? id = some t → t.idempotencyKey = some k →
        s.AnswersTask .counting k t := by
  refine ⟨by decide +kernel, ?_⟩
  exact (idempotency_keys (World.counting_reachable "stream" _ (by decide +kernel))).2.2.1

end C2Lab
