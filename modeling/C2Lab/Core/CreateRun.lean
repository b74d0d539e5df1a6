import C2Lab.Core.Settled

/-! Pruning and creation: the three operations that add tasks are sequences of writes. -/

namespace C2Lab

variable {w : World} {s s' s₀ : LabState} {acts : List Activity}

/-! ### Checks -/

theorem wp_check {α : Type} {x : Except Exc α} {Q : α → LabState → Prop}
    {E : Exc → LabState → Prop} :
    Prog.wp (check x) Q E s ↔ (∀ a, x = .ok a → Q a s) ∧ ∀ e, x = .error e → E e s := by
  cases x <;> simp

/-- The node checks of the creating operations change nothing. -/
theorem requireTaskableNode_wp (nodeId : PyStr) (requireOnline : Bool) :
    Prog.wp (requireTaskableNode nodeId requireOnline) (fun n s' => s' = s ∧
      s.nodes.get? nodeId = some n ∧ n.sessionActive = true ∧ n.taskingPaused = false)
      (fun _ s' => s' = s) s := by
  unfold requireTaskableNode
  simp only [Prog.wp_bind, Prog.wp_get]
  cases hn : s.nodes.get? nodeId with
  | none => rfl
  | some n =>
    simp only [Prog.wp_bind, Prog.wp_require, Prog.wp_pure]
    exact ⟨fun ha => ⟨fun _ => ⟨fun hp => ⟨trivial, trivial, ha, hp⟩, fun _ => trivial⟩,
      fun _ => trivial⟩, fun _ => trivial⟩

/-- Room in the queue of a node for `count` more playbook tasks. -/
structure LabState.QueueRoom (nodeId : PyStr) (count : ℕ) (s : LabState) : Prop where
  queue : s.countQueued nodeId (fun _ => true) + count ≤ maxQueuedTasksPerNode
  playbooks : s.countQueued nodeId (fun t => t.command.taskType = .runPlaybook) + count ≤
    maxQueuedPlaybooksPerNode

theorem requireQueueRoom_wp (nodeId : PyStr) (count : ℕ) :
    Prog.wp (requireQueueRoom nodeId count) (fun _ s' => s' = s ∧ s.QueueRoom nodeId count)
      (fun _ s' => s' = s) s := by
  simp only [requireQueueRoom, Prog.wp_bind, Prog.wp_get, Prog.wp_require]
  exact ⟨fun hq => ⟨fun hp => ⟨trivial, hq, hp⟩, fun _ => trivial⟩, fun _ => trivial⟩

/-- Fewer tasks, fewer queued ones. -/
theorem LabState.countQueued_le (h : s'.tasks.values.Sublist s.tasks.values) (nodeId : PyStr)
    (p : Task → Bool) : s'.countQueued nodeId p ≤ s.countQueued nodeId p := h.countP_le

theorem LabState.QueueRoom.of_sublist {nodeId : PyStr} {count : ℕ} (h : s.QueueRoom nodeId count)
    (hsub : s'.tasks.values.Sublist s.tasks.values) : s'.QueueRoom nodeId count where
  queue := (Nat.add_le_add_right (countQueued_le hsub _ _) _).trans h.queue
  playbooks := (Nat.add_le_add_right (countQueued_le hsub _ _) _).trans h.playbooks

/-- One more task takes one place. -/
theorem LabState.QueueRoom.addTask {nodeId : PyStr} {count : ℕ}
    (h : s.QueueRoom nodeId (count + 1)) (spec : TaskSpec) (now : Instant)
    (reason : Option String) : (s.addTask w spec now reason).QueueRoom nodeId count := by
  have hone : ∀ p, (s.addTask w spec now reason).countQueued nodeId p ≤
      s.countQueued nodeId p + 1 := by
    intro p
    rw [LabState.countQueued, LabState.toRecords_addTask]
    refine (Dict.countP_set_le _ _ _ _).trans (Nat.add_le_add_left ?_ _)
    split <;> simp
  refine ⟨?_, ?_⟩
  · have := h.queue
    have := hone fun _ => true
    omega
  · have := h.playbooks
    have := hone fun t => t.command.taskType = .runPlaybook
    omega

/-! ### Retention -/

/-- A task that retention may remove. -/
def LabState.Prunable (t : Task) (s : LabState) : Prop :=
  s.tasks.get? t.id = some t ∧ t.status.isTerminal = true ∧
    taskIsRequiredByRunningExerciseLocked t s = false

theorem LabState.toRecords_prune (t : Task) (s : LabState) :
    (s.pruneTerminalTaskLocked w t).toRecords = { s.toRecords with
      tasks := s.tasks.erase t.id
      taskResultTombstones := (s.rememberTaskResultTombstoneLocked t).taskResultTombstones } := by
  simp only [pruneTerminalTaskLocked, toRecords_auditLocked, toRecords_recordLocked]
  unfold rememberTaskResultTombstoneLocked
  split <;> rfl

/-- The state on the way of a creating operation from `s`: some prunable tasks are gone, and the
    tasks `new` were made to the given specifications. -/
structure Creating (w : World) (s : LabState) (now : Instant) (pruned : List Task)
    (specs : List TaskSpec) (new : List Task) (s' : LabState) : Prop where
  writes : Writes w [.prune, .create] s s'
  prunable : ∀ t ∈ pruned, s.Prunable t
  records : s'.toRecords = { s.toRecords with
    tasks := new.foldl (fun d t => d.set t.id t) ((pruned.map (·.id)).foldl Dict.erase s.tasks)
    taskResultTombstones := s'.taskResultTombstones
    taskSequence := s.taskSequence + new.length }
  made : List.Forall₂ (fun spec t => ∃ s₁, t = LabState.newTask w spec now s₁) specs new
  sequence : new.map (·.sequence) = List.range' (s.taskSequence + 1) new.length
  drawn : ∃ ks : List ℕ, new.map (·.id) = ks.map w.taskId ∧ ks.Pairwise (· < ·) ∧
    ∀ k ∈ ks, s.draws ≤ k ∧ k < s'.draws

namespace Creating

variable {now : Instant} {pruned new : List Task} {specs : List TaskSpec}

theorem refl (w : World) (s : LabState) (now : Instant) : Creating w s now [] [] [] s :=
  ⟨.refl, by simp, rfl, .nil, rfl, [], rfl, .nil, by simp⟩

/-- A write that leaves the records as they are. -/
theorem quiet (h : Creating w s now pruned specs new s') {s'' : LabState}
    (hw : Write w s' .create s'') (hr : s''.toRecords = s'.toRecords) :
    Creating w s now pruned specs new s'' where
  writes := h.writes.write hw (by simp)
  prunable := h.prunable
  records := by rw [hr]; exact h.records
  made := h.made
  sequence := h.sequence
  drawn := by
    obtain ⟨ks, hids, hlt, hks⟩ := h.drawn
    exact ⟨ks, hids, hlt, fun k hk => ⟨(hks k hk).1, (hks k hk).2.trans_le hw.draws_le⟩⟩

theorem taskSequence (h : Creating w s now pruned specs new s') :
    s'.taskSequence = s.taskSequence + new.length := by rw [h.records]

theorem addTask (h : Creating w s now pruned specs new s') {spec : TaskSpec} {n : Node}
    (ha : s'.Admits w spec n) (reason : Option String) :
    Creating w s now pruned (specs ++ [spec]) (new ++ [s'.newTask w spec now])
      (s'.addTask w spec now reason) where
  writes := h.writes.write (.addTask ha now reason) (by simp)
  prunable := h.prunable
  records := by
    rw [LabState.toRecords_addTask, h.records]
    simp [List.foldl_append, LabState.newTask, Nat.add_assoc]
  made := List.rel_append h.made (.cons ⟨s', rfl⟩ .nil)
  sequence := by
    rw [List.map_append, h.sequence, List.length_append, List.length_singleton,
      List.range'_concat]
    simp [LabState.newTask, h.taskSequence]
    omega
  drawn := by
    obtain ⟨ks, hids, hlt, hks⟩ := h.drawn
    have hle := LabState.draws_le_addTask (w := w) spec now reason s'
    refine ⟨ks ++ [s'.draws], ?_, ?_, ?_⟩
    · rw [List.map_append, List.map_append, hids]; rfl
    · refine List.pairwise_append.mpr ⟨hlt, by simp, fun a ha b hb => ?_⟩
      rw [List.mem_singleton.mp hb]
      exact (hks a ha).2
    · intro k hk
      rcases List.mem_append.mp hk with hk | hk
      · exact ⟨(hks k hk).1, by have := (hks k hk).2; omega⟩
      · rw [List.mem_singleton.mp hk]
        exact ⟨h.writes.draws_le, by omega⟩

/-- One more task goes, before any is created. -/
theorem prune (h : Creating w s now pruned [] [] s') {t : Task} (ht : s.Prunable t)
    (hnew : t.id ∉ pruned.map (·.id)) :
    Creating w s now (pruned ++ [t]) [] [] (s'.pruneTerminalTaskLocked w t) := by
  have hrec := LabState.toRecords_prune (w := w) t s'
  have htasks : s'.tasks = (pruned.map (·.id)).foldl Dict.erase s.tasks := by rw [h.records]; rfl
  have hex : s'.exercises = s.exercises := by rw [h.records]
  have hw : Write w s' .prune (s'.pruneTerminalTaskLocked w t) := by
    refine .pruneTask ?_ ht.2.1 ?_
    · rw [htasks, Dict.get?_foldl_erase, if_neg hnew]; exact ht.1
    · rw [taskIsRequiredByRunningExerciseLocked, hex]; exact ht.2.2
  refine ⟨h.writes.write hw (by simp), ?_, ?_, .nil, rfl, [], rfl, .nil, by simp⟩
  · intro x hx
    rcases List.mem_append.mp hx with hx | hx
    · exact h.prunable x hx
    · exact List.mem_singleton.mp hx ▸ ht
  · rw [hrec, h.records]
    simp [List.foldl_append]

/-- Removing prunable tasks one after the other. -/
theorem prune_all (h : Creating w s now pruned [] [] s') {l : List Task}
    (hl : ∀ t ∈ l, s.Prunable t) (hn : ((pruned ++ l).map (·.id)).Nodup) :
    Creating w s now (pruned ++ l) [] []
      (l.foldl (fun s t => s.pruneTerminalTaskLocked w t) s') := by
  induction l generalizing pruned s' with
  | nil => simpa using h
  | cons t l ih =>
    have hnew : t.id ∉ pruned.map (·.id) := fun hmem => by
      rw [List.map_append, List.nodup_append] at hn
      exact hn.2.2 _ hmem _ (by simp) rfl
    have hstep := h.prune (hl t (by simp)) hnew
    have := ih hstep (fun x hx => hl x (by simp [hx])) (by simpa using hn)
    simpa using this

end Creating

/-- The candidates of retention are prunable, each once. -/
theorem pruneCandidates_prunable (hs : Safe w s) :
    (∀ t ∈ s.pruneCandidates, s.Prunable t) ∧ (s.pruneCandidates.map (·.id)).Nodup := by
  constructor
  · intro t ht
    rw [LabState.pruneCandidates, List.mem_mergeSort, List.mem_filter] at ht
    obtain ⟨hmem, hok⟩ := ht
    obtain ⟨id, hid⟩ := Dict.mem_values.mp hmem
    simp only [Bool.and_eq_true, Bool.not_eq_true'] at hok
    exact ⟨hs.task_key hid ▸ hid, hok.1, hok.2⟩
  · have hkeys : s.tasks.values.map (·.id) = s.tasks.keys := by
      simp only [Dict.values, Dict.keys, List.map_map]
      exact List.map_congr_left fun p hp => hs.task_key (Dict.get?_eq_some.mpr hp)
    have hperm := (List.mergeSort_perm (s.tasks.values.filter fun t =>
      t.status.isTerminal && !taskIsRequiredByRunningExerciseLocked t s)
      fun a b => a.sequence ≤ b.sequence).map (·.id)
    refine hperm.nodup_iff.mpr ?_
    have hnodup := s.tasks.keys_nodup
    rw [← hkeys] at hnodup
    exact hnodup.sublist (List.filter_sublist.map _)

/-- Making room either changes nothing and refuses, or removes just enough. -/
theorem makeTaskSlots_wp (hs : Safe w s) (now : Instant) (count : ℕ) :
    Prog.wp (makeTaskSlotsLocked w count) (fun _ s' =>
      (∃ pruned, Creating w s now pruned [] [] s') ∧ s'.tasks.size + count ≤ maxTasks)
      (fun _ s' => s' = s) s := by
  unfold makeTaskSlotsLocked
  simp only [Prog.wp_bind, Prog.wp_get]
  generalize hslots : s.tasks.size + count - maxTasks = slots
  by_cases hzero : slots = 0
  · rw [if_pos hzero]
    exact ⟨⟨[], .refl w s now⟩, by omega⟩
  · rw [if_neg hzero]
    by_cases hfew : s.pruneCandidates.length < slots
    · rw [if_pos hfew]; exact rfl
    · rw [if_neg hfew, Prog.wp_modify]
      obtain ⟨hall, hnodup⟩ := pruneCandidates_prunable hs
      have hall' : ∀ t ∈ s.pruneCandidates.take slots, s.Prunable t :=
        fun t ht => hall t (List.mem_of_mem_take ht)
      have hnodup' : ((s.pruneCandidates.take slots).map (·.id)).Nodup :=
        hnodup.sublist ((List.take_sublist _ _).map _)
      have hmade := (Creating.refl w s now).prune_all hall' (by simpa using hnodup')
      rw [List.nil_append] at hmade
      refine ⟨⟨_, hmade⟩, ?_⟩
      have hsize := Dict.size_foldl_erase (d := s.tasks) (fun k hk => by
        obtain ⟨t, ht, rfl⟩ := List.mem_map.mp hk
        exact Dict.mem_keys_of_get? (hall' t ht).1) hnodup'
      rw [List.length_map, List.length_take, Nat.min_eq_left (by omega)] at hsize
      have htasks : ((s.pruneCandidates.take slots).foldl
          (fun s t => s.pruneTerminalTaskLocked w t) s).tasks =
          ((s.pruneCandidates.take slots).map (·.id)).foldl Dict.erase s.tasks := by
        rw [hmade.records]; rfl
      rw [htasks]
      omega

/-- After pruning, the tasks are some of those before. -/
theorem Creating.sublist {now : Instant} {pruned : List Task}
    (h : Creating w s now pruned [] [] s') : s'.tasks.values.Sublist s.tasks.values := by
  rw [h.records]
  exact Dict.values_foldl_erase_sublist _ _

theorem Creating.nodes {now : Instant} {pruned new : List Task} {specs : List TaskSpec}
    (h : Creating w s now pruned specs new s') : s'.nodes = s.nodes := by rw [h.records]

/-! ### Tasks -/

/-- What `queue_task` puts into its task record. -/
def TaskRequest.spec (r : TaskRequest) : TaskSpec :=
  { nodeId := r.nodeId, command := r.command, createdBy := r.actor
    queueTtlSeconds := r.queueTtlSeconds, idempotencyKey := r.idempotencyKey }

/-- How `queue_task` ends without raising: a replay, or one new task. -/
inductive TaskQueued (w : World) (s : LabState) (r : TaskRequest) (now : Instant) :
    PublicTask → LabState → Prop
  | replayed {t : Task} (ht : s.taskWithKey r.idempotencyKey = some t)
      (hsame : t.nodeId = r.nodeId ∧ t.command = r.command ∧ t.createdBy = r.actor ∧
        t.queueTtlSeconds = r.queueTtlSeconds) : TaskQueued w s r now t.publicTask s
  | created {n : Node} {pruned : List Task} {s₁ : LabState}
      (hkey : s.taskWithKey r.idempotencyKey = none) (hslots : Creating w s now pruned [] [] s₁)
      (ha : s₁.Admits w r.spec n) :
      TaskQueued w s r now (s₁.newTask w r.spec now).publicTask (s₁.addTask w r.spec now none)

theorem validateTaskRequest_valid {py : Interp} {nodeId taskType payload : Json}
    {ttl : Option Json} {key actor : Json} {r : TaskRequest}
    (h : validateTaskRequest py nodeId taskType payload ttl key actor = .ok r) :
    r.command.Valid py := by
  cases hv : validateTaskPayload py taskType payload with
  | ok c =>
    simp only [validateTaskRequest, hv, bind_eq_ok] at h
    obtain ⟨_, -, command, hcmd, _, -, _, -, _, -, hr⟩ := h
    cases hcmd
    cases hr
    exact (validateTaskPayload_valid hv).1
  | error e =>
    cases e <;> simp [validateTaskRequest, hv, bind_eq_ok] at h

/-- The checks of `queue_task` change nothing. -/
theorem admitTask_wp (r : TaskRequest) : Prog.wp (admitTask r) (fun _ s' => s' = s ∧
    ∃ n, s.nodes.get? r.nodeId = some n ∧ n.sessionActive = true ∧ n.taskingPaused = false ∧
      r.command.taskType ∈ n.capabilities ∧
      s.countQueued r.nodeId (fun _ => true) < maxQueuedTasksPerNode ∧
      (r.command.taskType = .runPlaybook →
        s.countQueued r.nodeId (fun t => t.command.taskType = .runPlaybook) <
          maxQueuedPlaybooksPerNode)) (fun _ s' => s' = s) s := by
  unfold admitTask
  rw [Prog.wp_bind]
  refine Prog.wp_imp (requireTaskableNode_wp r.nodeId false) ?_
  rintro n _ ⟨rfl, hn, ha, hp⟩
  simp only [Prog.wp_bind, Prog.wp_require, Prog.wp_get]
  exact ⟨fun hcap => ⟨fun hq => ⟨fun hpq => ⟨trivial, n, hn, ha, hp, hcap, hq, hpq⟩,
    fun _ => trivial⟩, fun _ => trivial⟩, fun _ => trivial⟩

theorem taskWithKey_of_sublist (h : s'.tasks.values.Sublist s.tasks.values) {key : Option PyStr}
    (hkey : s.taskWithKey key = none) : s'.taskWithKey key = none := by
  cases key with
  | none => rfl
  | some k =>
    rw [LabState.taskWithKey, List.find?_eq_none] at hkey ⊢
    exact fun t ht => hkey t (h.subset ht)

/-- `queue_task` refuses and changes nothing, or replays, or creates one task. -/
theorem queueTask_wp (hs : Safe w s) (nodeId taskType payload : Json) (ttl : Option Json)
    (key actor : Json) (now : Instant) :
    Prog.wp (queueTask w nodeId taskType payload ttl key actor now) (fun reply s' =>
      ∃ r, validateTaskRequest w.toInterp nodeId taskType payload ttl key actor = .ok r ∧
        TaskQueued w s r now reply s') (fun _ s' => s' = s) s := by
  unfold queueTask
  simp only [Prog.wp_bind, wp_check, Prog.wp_get]
  refine ⟨fun r hr => ?_, fun _ _ => trivial⟩
  cases hkey : s.taskWithKey r.idempotencyKey with
  | some t =>
    simp only [Prog.wp_ite, Prog.wp_pure, Prog.wp_throw]
    exact ⟨fun hsame => ⟨r, hr, .replayed hkey hsame⟩, fun _ => trivial⟩
  | none =>
    rw [Prog.wp_bind]
    refine Prog.wp_imp (admitTask_wp r) ?_
    rintro _ _ ⟨rfl, n, hn, ha, hp, hcap, hq, hpq⟩
    rw [Prog.wp_bind]
    refine Prog.wp_imp (makeTaskSlots_wp hs now 1) ?_
    rintro _ s₁ ⟨⟨pruned, hslots⟩, hroom⟩
    have hle := LabState.countQueued_le hslots.sublist r.nodeId
    have hadmit : s₁.Admits w r.spec n :=
      { node := hslots.nodes ▸ hn, active := ha, unpaused := hp, capable := hcap
        valid := validateTaskRequest_valid hr, playbook := fun hne => absurd rfl hne
        room := by omega
        queue_room := (hle _).trans_lt hq
        playbook_room := fun hpb => (hle _).trans_lt (hpq hpb)
        key_new := fun _ => taskWithKey_of_sublist hslots.sublist hkey }
    exact ⟨r, hr, .created hkey hslots hadmit⟩

/-- `queue_task` is a sequence of writes. -/
theorem TaskQueued.writes {r : TaskRequest} {now : Instant} {reply : PublicTask}
    (h : TaskQueued w s r now reply s') : Writes w [.prune, .create] s s' := by
  cases h with
  | replayed => exact .refl
  | created hkey hslots ha => exact (hslots.addTask ha none).writes

/-! ### Operations -/

/-- What `queue_operation` puts into the task record of one step. -/
def OperationRequest.spec (r : OperationRequest) (operationId : PyStr) (step : ℕ) (p : Playbook) :
    TaskSpec :=
  { nodeId := r.nodeId, command := .runPlaybook p, createdBy := r.actor
    queueTtlSeconds := r.queueTtlSeconds, operation := some (operationId, step) }

/-- The task records of an operation, from a step on. -/
def OperationRequest.specsFrom (r : OperationRequest) (operationId : PyStr) :
    ℕ → List Playbook → List TaskSpec
  | _, [] => []
  | step, p :: ps => r.spec operationId step p :: r.specsFrom operationId (step + 1) ps

/-- The guards of a playbook task on a node that takes them. -/
theorem LabState.admits_playbook {spec : TaskSpec} {n : Node} {p : Playbook} {count : ℕ}
    (hn : s.nodes.get? spec.nodeId = some n) (ha : n.sessionActive = true)
    (hp : n.taskingPaused = false) (hcap : .runPlaybook ∈ n.capabilities)
    (hcmd : spec.command = .runPlaybook p) (hkey : spec.idempotencyKey = none)
    (hroom : s.tasks.size + (count + 1) ≤ maxTasks)
    (hqueue : s.QueueRoom spec.nodeId (count + 1)) : s.Admits w spec n where
  node := hn
  active := ha
  unpaused := hp
  capable := by rw [hcmd]; exact hcap
  valid := by rw [hcmd]; trivial
  playbook _ := ⟨p, hcmd⟩
  room := by omega
  queue_room := by have := hqueue.queue; omega
  playbook_room _ := by have := hqueue.playbooks; omega
  key_new hne := absurd hkey hne

theorem LabState.size_addTask (spec : TaskSpec) (now : Instant) (reason : Option String)
    (s : LabState) : (s.addTask w spec now reason).tasks.size ≤ s.tasks.size + 1 := by
  rw [LabState.toRecords_addTask]
  exact Dict.size_set_le _ _ _

/-- The tasks of an operation, created one after the other on a node that takes them. -/
theorem createOperationTasks_wp {now : Instant} {pruned new : List Task} {specs : List TaskSpec}
    {r : OperationRequest} {n : Node} {operationId : PyStr} (ha : n.sessionActive = true)
    (hp : n.taskingPaused = false) (hcap : .runPlaybook ∈ n.capabilities) {ps : List Playbook}
    {step : ℕ} (h : Creating w s₀ now pruned specs new s)
    (hn : s.nodes.get? r.nodeId = some n) (hroom : s.tasks.size + ps.length ≤ maxTasks)
    (hqueue : s.QueueRoom r.nodeId ps.length) :
    Prog.wp (createOperationTasks w r.nodeId r.actor operationId r.queueTtlSeconds now step ps)
      (fun ts s' => Creating w s₀ now pruned (specs ++ r.specsFrom operationId step ps)
        (new ++ ts) s') (fun _ _ => False) s := by
  induction ps generalizing step s specs new with
  | nil => simpa [createOperationTasks, OperationRequest.specsFrom] using h
  | cons p ps ih =>
    rw [List.length_cons] at hroom hqueue
    have hadmit : s.Admits w (r.spec operationId step p) n :=
      LabState.admits_playbook hn ha hp hcap rfl rfl hroom hqueue
    have hsize := LabState.size_addTask (w := w) (r.spec operationId step p) now
      (some "operation_request") s
    have hnext := @ih _ _ _ (step + 1) (h.addTask hadmit (some "operation_request"))
      (by rw [LabState.toRecords_addTask]; exact hn) (by omega) (hqueue.addTask _ now _)
    simp only [createOperationTasks, Prog.wp_bind, Prog.wp_get, Prog.wp_modify]
    refine Prog.wp_imp hnext fun ts s' hmade => ?_
    rw [List.append_assoc, List.append_assoc] at hmade
    exact hmade

/-- The keys chosen for eviction: present, distinct, of ended work, and enough. -/
structure EvictionKeys (s : LabState) (key : Option PyStr) (evicted : List PyStr) : Prop where
  evictable : ∀ k ∈ evicted, ∃ r, s.operationIdempotency.get? k = some r ∧
    operationIdempotencyRecordIsEvictableLocked r s = true
  room : key ≠ none → (s.keysKept evicted).size < maxOperationIdempotencyRecords

theorem operationEvictionKeys_wp (key : Option PyStr) :
    Prog.wp (operationEvictionKeys key) (fun evicted s' => s' = s ∧ EvictionKeys s key evicted)
      (fun _ s' => s' = s) s := by
  unfold operationEvictionKeys
  simp only [Prog.wp_bind, Prog.wp_get]
  cases key with
  | none => exact ⟨rfl, by simp, fun h => absurd rfl h⟩
  | some k =>
    simp only
    generalize hfree : s.operationIdempotency.size + 1 - maxOperationIdempotencyRecords = free
    have hcap : maxOperationIdempotencyRecords = 500 := rfl
    set candidates := (s.operationIdempotency.entries.filter fun p =>
      operationIdempotencyRecordIsEvictableLocked p.2 s).map Prod.fst with hcand
    have hmem : ∀ k ∈ candidates, ∃ r, s.operationIdempotency.get? k = some r ∧
        operationIdempotencyRecordIsEvictableLocked r s = true := by
      intro k hk
      obtain ⟨⟨k', r⟩, hp, rfl⟩ := List.mem_map.mp hk
      rw [List.mem_filter] at hp
      exact ⟨r, Dict.get?_eq_some.mpr hp.1, hp.2⟩
    have hnodup : candidates.Nodup :=
      s.operationIdempotency.keys_nodup.sublist (List.filter_sublist.map _)
    simp only [Prog.wp_ite, Prog.wp_pure, Prog.wp_throw]
    refine ⟨fun hzero => ⟨trivial, by simp, fun _ => ?_⟩, fun hpos => ⟨fun _ => trivial,
      fun henough => ⟨trivial, fun k hk => hmem k (List.mem_of_mem_take hk), fun _ => ?_⟩⟩⟩
    · rw [LabState.keysKept, List.foldl_nil]; omega
    · have hpresent : ∀ k ∈ candidates.take free, k ∈ s.operationIdempotency.keys := fun k hk => by
        obtain ⟨r, hr, -⟩ := hmem k (List.mem_of_mem_take hk)
        exact Dict.mem_keys_of_get? hr
      have hsize := Dict.size_foldl_erase hpresent (hnodup.sublist (List.take_sublist _ _))
      rw [LabState.keysKept]
      have hlen : (candidates.take free).length = free := by
        rw [List.length_take] at henough ⊢; omega
      rw [hlen] at hsize
      omega

/-- The replay record of an operation. -/
def OperationRequest.record (r : OperationRequest) (operationId : PyStr) (tasks : List Task) :
    OperationRecord :=
  { actor := r.actor, nodeId := r.nodeId, playbooks := r.steps
    queueTtlSeconds := r.queueTtlSeconds, taskIds := tasks.map (·.id)
    summary := { id := operationId, nodeId := r.nodeId, createdBy := r.actor, steps := r.steps
                 tasks := tasks.map Task.publicTask } }

/-- How `queue_operation` ends without raising: a replay, or the tasks of all steps and, with a key,
    their replay record. -/
inductive OperationQueued (w : World) (s : LabState) (r : OperationRequest) (now : Instant) :
    OperationSummary → LabState → Prop
  | replayed {previous : OperationRecord}
      (hkey : r.idempotencyKey.bind s.operationIdempotency.get? = some previous)
      (hsame : previous.actor = r.actor ∧ previous.nodeId = r.nodeId ∧
        previous.playbooks = r.steps ∧ previous.queueTtlSeconds = r.queueTtlSeconds) :
      OperationQueued w s r now previous.summary s
  | created {n : Node} {evicted : List PyStr} {operationId : PyStr} {pruned new : List Task}
      {s₁ : LabState} (hkey : r.idempotencyKey.bind s.operationIdempotency.get? = none)
      (hn : s.nodes.get? r.nodeId = some n) (ha : n.sessionActive = true)
      (hp : n.taskingPaused = false) (hev : EvictionKeys s r.idempotencyKey evicted)
      (hmade : Creating w s now pruned (r.specsFrom operationId 1 r.steps) new s₁) :
      OperationQueued w s r now (r.record operationId new).summary
        (s₁.rememberOperation r.idempotencyKey evicted (r.record operationId new))

theorem Creating.keyRoom {now : Instant} {pruned new : List Task} {specs : List TaskSpec}
    {key : Option PyStr} {evicted : List PyStr} (h : Creating w s now pruned specs new s')
    (hkey : key.bind s.operationIdempotency.get? = none) (hev : EvictionKeys s key evicted) :
    s'.KeyRoom key evicted := by
  have hsame : s'.operationIdempotency = s.operationIdempotency := by rw [h.records]
  refine ⟨fun k hk => ?_, fun hne => ?_⟩
  · rw [hsame]
    simpa [hk] using hkey
  · rw [LabState.keysKept, hsame]
    exact hev.room hne

theorem createOperation_wp {now : Instant} {pruned : List Task} {r : OperationRequest}
    {evicted : List PyStr} {n : Node}
    (hkey : r.idempotencyKey.bind s₀.operationIdempotency.get? = none)
    (hn : s₀.nodes.get? r.nodeId = some n) (ha : n.sessionActive = true)
    (hp : n.taskingPaused = false) (hcap : .runPlaybook ∈ n.capabilities)
    (hev : EvictionKeys s₀ r.idempotencyKey evicted) (h : Creating w s₀ now pruned [] [] s)
    (hroom : s.tasks.size + r.steps.length ≤ maxTasks)
    (hqueue : s.QueueRoom r.nodeId r.steps.length) :
    Prog.wp (createOperation w r evicted now) (fun reply s' => OperationQueued w s₀ r now reply s')
      (fun _ _ => False) s := by
  unfold createOperation
  simp only [Prog.wp_bind, Prog.wp_get, Prog.wp_modify]
  have htick := h.quiet (.tick .create) rfl
  have hnode : s.tick.nodes.get? r.nodeId = some n := by
    rw [htick.nodes]; exact hn
  refine Prog.wp_imp (createOperationTasks_wp ha hp hcap htick hnode hroom
    ⟨hqueue.queue, hqueue.playbooks⟩) fun new s₁ hmade => ?_
  simp only [Prog.wp_bind, Prog.wp_modify, Prog.wp_pure, List.nil_append] at hmade ⊢
  have hann := hmade.quiet (.announceOperation r.nodeId r.actor (w.operationId s.draws)
    (new.map (·.id))) (by simp [LabState.announceOperation])
  exact .created hkey hn ha hp hev hann

/-- `queue_operation` refuses and changes nothing, or replays, or creates all its tasks. -/
theorem queueOperation_wp (hs : Safe w s) (nodeId steps : Json) (ttl : Option Json)
    (key actor : Json) (now : Instant) :
    Prog.wp (queueOperation w nodeId steps ttl key actor now) (fun reply s' =>
      ∃ r, validateOperationRequest w.toInterp nodeId steps ttl key actor = .ok r ∧
        OperationQueued w s r now reply s') (fun _ s' => s' = s) s := by
  unfold queueOperation
  simp only [Prog.wp_bind, wp_check, Prog.wp_get]
  refine ⟨fun r hr => ?_, fun _ _ => trivial⟩
  cases hkey : r.idempotencyKey.bind s.operationIdempotency.get? with
  | some previous =>
    simp only [Prog.wp_ite, Prog.wp_pure, Prog.wp_throw]
    exact ⟨fun hsame => ⟨r, hr, .replayed hkey hsame⟩, fun _ => trivial⟩
  | none =>
    rw [Prog.wp_bind]
    refine Prog.wp_imp (requireTaskableNode_wp r.nodeId true) ?_
    rintro n _ ⟨rfl, hn, ha, hp⟩
    rw [Prog.wp_bind]
    refine Prog.wp_require.mpr ⟨fun hcap => ?_, fun _ => rfl⟩
    rw [Prog.wp_bind]
    refine Prog.wp_imp (requireQueueRoom_wp _ _) ?_
    rintro _ _ ⟨rfl, hqueue⟩
    rw [Prog.wp_bind]
    refine Prog.wp_imp (operationEvictionKeys_wp _) ?_
    rintro evicted _ ⟨rfl, hev⟩
    rw [Prog.wp_bind]
    refine Prog.wp_imp (makeTaskSlots_wp hs now r.steps.length) ?_
    rintro _ s₁ ⟨⟨pruned, hslots⟩, hroom⟩
    exact Prog.wp_mono (createOperation_wp hkey hn ha hp hcap.2 hev hslots hroom
      (hqueue.of_sublist hslots.sublist)) (fun reply s' h => ⟨r, hr, h⟩) fun _ _ h => h.elim

/-- `queue_operation` is a sequence of writes. -/
theorem OperationQueued.writes {r : OperationRequest} {now : Instant} {reply : OperationSummary}
    (h : OperationQueued w s r now reply s') : Writes w [.prune, .create] s s' := by
  cases h with
  | replayed => exact .refl
  | created hkey hn ha hp hev hmade =>
    exact hmade.writes.write (.rememberOperation (hmade.keyRoom hkey hev) _) (by simp)

/-! ### Exercises -/

/-- An entry on the timeline of an exercise that is not stored yet. -/
theorem appendDraft_wp {e : Exercise} {item : TimelineItem} {Q : Exercise → LabState → Prop}
    {E : Exc → LabState → Prop} (hroom : e.timeline.length < maxExerciseTimeline)
    (h : Q (e.appendTimeline (w.utcNow s.draws) item) s.tick) :
    Prog.wp (appendDraftTimeline w e item) Q E s := by
  unfold appendDraftTimeline
  simp only [Prog.wp_bind, Prog.wp_get]
  rw [if_neg (by omega)]
  exact h

theorem Exercise.appendTimeline_of_room {e : Exercise} (time : Timestamp) (item : TimelineItem)
    (hroom : e.timeline.length < maxExerciseTimeline) : e.appendTimeline time item =
      { e with
        timelineSequence := e.timelineSequence + 1
        timeline := e.timeline ++ [⟨e.timelineSequence + 1, time, item⟩] } :=
  if_neg (by omega)

/-- A numbered timeline stays numbered. -/
theorem numbered_append {l : List TimelineEntry} {k : ℕ} {time : Timestamp} {item : TimelineItem}
    (hk : k = l.length) (h : l.map (·.sequence) = List.range' 1 l.length) :
    (l ++ [(⟨k + 1, time, item⟩ : TimelineEntry)]).map TimelineEntry.sequence =
      List.range' 1 (l ++ [(⟨k + 1, time, item⟩ : TimelineEntry)]).length := by
  rw [List.map_append, h, List.length_append, hk, List.length_singleton, List.range'_concat]
  simp [Nat.add_comm]

/-- A new exercise without tasks. -/
theorem newExercise_drafted (hs : s.exercises.All fun id _ => ∃ k < s.draws, id = w.exerciseId k)
    (nodeId : PyStr) (scenario : ScenarioId) (actor : PyStr) (time : Timestamp) (title : String) :
    ((s.newExercise w nodeId scenario actor).appendTimeline time
      { phase := .prepare, kind := .exerciseStarted, summary := title }).Drafted w s.tick.tick.tick
        [] := by
  rw [Exercise.appendTimeline_of_room _ _ (by simp [LabState.newExercise, maxExerciseTimeline])]
  exact {
    id_drawn := ⟨s.draws, by simp only [LabState.tick]; omega, rfl⟩
    id_new := fun hf => by
      refine Dict.get?_eq_none.mpr fun hmem => ?_
      obtain ⟨e, he⟩ := Dict.mem_keys.mp hmem
      obtain ⟨k, hk, hid⟩ := hs _ _ he
      have := @World.FreshBelow.ident_inj w _ s.draws k _ _ hf (by decide)
        (by simp only [LabState.tick]; omega) (by simp only [LabState.tick]; omega) hid
      omega
    status_eq := rfl
    alerts_eq := rfl
    detected_eq := rfl
    containment_eq := rfl
    observed_eq := rfl
    completion_eq := rfl
    nodup := fun _ => List.nodup_nil
    taskIds_drawn := by simp [LabState.newExercise]
    tasks := fun _ => .nil
    length_eq := rfl
    sequence_eq := rfl
    numbered := rfl
    no_evidence := by simp [LabState.newExercise] }

/-- What `start_exercise` puts into the task record of one playbook. -/
def Exercise.spec (e : Exercise) (p : Playbook) : TaskSpec :=
  { nodeId := e.nodeId, command := .runPlaybook p, createdBy := e.createdBy
    queueTtlSeconds := defaultQueueTtlSeconds, exerciseId := some e.id }

/-- A drafted exercise that got the tasks `ts`. -/
structure Exercise.Grown (e : Exercise) (ts : List Task) (e' : Exercise) : Prop where
  id_eq : e'.id = e.id
  node_eq : e'.nodeId = e.nodeId
  created_eq : e'.createdBy = e.createdBy
  scenario_eq : e'.scenarioId = e.scenarioId
  tasks_eq : e'.taskIds = e.taskIds ++ ts.map (·.id)

theorem Exercise.Grown.spec_eq {e e' : Exercise} {ts : List Task} (h : e.Grown ts e') :
    e'.spec = e.spec := by
  funext p
  simp only [Exercise.spec, h.id_eq, h.node_eq, h.created_eq]

theorem Exercise.Grown.trans {e e' e'' : Exercise} {ts ts' : List Task} (h : e.Grown ts e')
    (h' : e'.Grown ts' e'') : e.Grown (ts ++ ts') e'' where
  id_eq := h'.id_eq.trans h.id_eq
  node_eq := h'.node_eq.trans h.node_eq
  created_eq := h'.created_eq.trans h.created_eq
  scenario_eq := h'.scenario_eq.trans h.scenario_eq
  tasks_eq := by rw [h'.tasks_eq, h.tasks_eq, List.map_append, List.append_assoc]

/-- One more task for the exercise. -/
theorem Exercise.Drafted.addTask {e : Exercise} {done : List Playbook} (h : e.Drafted w s done)
    (hroom : e.timeline.length < maxExerciseTimeline) (p : Playbook) (now : Instant)
    (time : Timestamp) (reason : Option String) :
    (Exercise.appendTimeline { e with taskIds := e.taskIds ++ [w.taskId s.draws] } time
      (queuedItem (w.taskId s.draws) p)).Drafted w (s.addTask w (e.spec p) now reason)
      (done ++ [p]) := by
  have hdraws := LabState.draws_le_addTask (w := w) (e.spec p) now reason s
  have htasks : (s.addTask w (e.spec p) now reason).tasks =
      s.tasks.set (w.taskId s.draws) (s.newTask w (e.spec p) now) := by
    rw [LabState.toRecords_addTask]
  have hex : (s.addTask w (e.spec p) now reason).exercises = s.exercises := by
    rw [LabState.toRecords_addTask]
  generalize s.addTask w (e.spec p) now reason = s' at hdraws htasks hex
  have hnew : w.FreshBelow s'.draws → ∀ id ∈ e.taskIds, id ≠ w.taskId s.draws := by
    intro hf id hid
    obtain ⟨k, hk, rfl⟩ := h.taskIds_drawn id hid
    exact taskId_fresh hf hk (by omega)
  rw [@Exercise.appendTimeline_of_room { e with taskIds := e.taskIds ++ [w.taskId s.draws] }
    time _ hroom]
  exact {
    id_drawn := by
      obtain ⟨k, hk, hid⟩ := h.id_drawn
      exact ⟨k, by omega, hid⟩
    id_new := fun hf => by rw [hex]; exact h.id_new (hf.mono (by omega))
    status_eq := h.status_eq
    alerts_eq := h.alerts_eq
    detected_eq := h.detected_eq
    containment_eq := h.containment_eq
    observed_eq := h.observed_eq
    completion_eq := h.completion_eq
    nodup := fun hf => by
      refine List.nodup_append.mpr ⟨h.nodup (hf.mono (by omega)), by simp, ?_⟩
      rintro id hid _ hmem rfl
      exact hnew hf id hid (List.mem_singleton.mp hmem)
    taskIds_drawn := fun id hid => by
      rcases List.mem_append.mp hid with hid | hid
      · obtain ⟨k, hk, heq⟩ := h.taskIds_drawn id hid
        exact ⟨k, by omega, heq⟩
      · exact ⟨s.draws, by omega, List.mem_singleton.mp hid⟩
    tasks := fun hf => by
      refine List.rel_append ?_ (.cons ⟨s.newTask w (e.spec p) now, ?_, rfl, rfl, rfl, rfl⟩ .nil)
      · refine (List.forall₂_and_left _ _).mpr ⟨hnew hf, h.tasks (hf.mono (by omega))⟩ |>.imp ?_
        rintro id q ⟨hne, t, ht, hrest⟩
        exact ⟨t, by rw [htasks, Dict.get?_set_ne _ _ hne]; exact ht, hrest⟩
      · rw [htasks, Dict.get?_set_self]
    length_eq := by simp [h.length_eq]; omega
    sequence_eq := by simp [h.sequence_eq]
    numbered := numbered_append h.sequence_eq h.numbered
    no_evidence := fun x hx => by
      rcases List.mem_append.mp hx with hx | hx
      · exact h.no_evidence x hx
      · rw [List.mem_singleton.mp hx]; exact .inr rfl }

/-- An exercise has room for the entries of its queued tasks. -/
theorem Exercise.Drafted.room {e : Exercise} {done : List Playbook} (h : e.Drafted w s done)
    (hf : e.taskIds.length ≤ 2) : e.timeline.length < maxExerciseTimeline := by
  rw [h.length_eq]
  have : maxExerciseTimeline = 16 := rfl
  omega

/-- The loop over the playbooks of a scenario. -/
theorem createExerciseTasks_wp {now : Instant} {pruned new : List Task} {specs : List TaskSpec}
    {n : Node} (ha : n.sessionActive = true) (hp : n.taskingPaused = false)
    (hcap : .runPlaybook ∈ n.capabilities) {ps done : List Playbook} {e : Exercise}
    (h : Creating w s₀ now pruned specs new s) (hn : s.nodes.get? e.nodeId = some n)
    (hd : e.Drafted w s done) (hlen : e.taskIds.length + ps.length ≤ 2)
    (hroom : s.tasks.size + ps.length ≤ maxTasks) (hqueue : s.QueueRoom e.nodeId ps.length) :
    Prog.wp (createExerciseTasks w now e ps) (fun e' s' => ∃ ts,
      Creating w s₀ now pruned (specs ++ ps.map e.spec) (new ++ ts) s' ∧
      e'.Drafted w s' (done ++ ps) ∧ e.Grown ts e') (fun _ _ => False) s := by
  induction ps generalizing e done s specs new with
  | nil => exact ⟨[], by simpa using h, by simpa using hd, ⟨rfl, rfl, rfl, rfl, by simp⟩⟩
  | cons p ps ih =>
    rw [List.length_cons] at hlen hroom hqueue
    have hdroom := hd.room (by omega)
    have hadmit : s.Admits w (e.spec p) n :=
      LabState.admits_playbook hn ha hp hcap rfl rfl hroom hqueue
    have hsize := LabState.size_addTask (w := w) (e.spec p) now (some "exercise_scenario") s
    simp only [createExerciseTasks, Prog.wp_bind, Prog.wp_get, Prog.wp_modify]
    refine appendDraft_wp hdroom ?_
    have hnext :=
      hd.addTask hdroom p now (w.utcNow (s.insertTask (s.newTask w (e.spec p) now)).draws)
      (some "exercise_scenario")
    have hgrown : e.Grown [s.newTask w (e.spec p) now]
        (Exercise.appendTimeline { e with taskIds := e.taskIds ++ [w.taskId s.draws] }
          (w.utcNow (s.insertTask (s.newTask w (e.spec p) now)).draws)
          (queuedItem (w.taskId s.draws) p)) := by
      rw [@Exercise.appendTimeline_of_room { e with taskIds := e.taskIds ++ [w.taskId s.draws] }
        _ _ hdroom]
      exact ⟨rfl, rfl, rfl, rfl, rfl⟩
    have hih := ih (h.addTask hadmit (some "exercise_scenario"))
      (by rw [hgrown.node_eq, LabState.toRecords_addTask]; exact hn) hnext
      (by rw [hgrown.tasks_eq, List.length_append, List.length_map, List.length_singleton]; omega)
      (by omega) (by rw [hgrown.node_eq]; exact hqueue.addTask _ now _)
    simp only [Prog.wp_bind, Prog.wp_modify]
    refine Prog.wp_imp hih ?_
    rintro e' s' ⟨ts, hmade, hdraft, hgrown'⟩
    rw [hgrown.spec_eq] at hmade
    exact ⟨s.newTask w (e.spec p) now :: ts, by simpa using hmade, by simpa using hdraft,
      hgrown.trans hgrown'⟩

/-- How `start_exercise` ends without raising: a replay, or one task for each playbook of the
    scenario and the exercise about them. -/
inductive ExerciseStarted (w : World) (s : LabState) (r : ExerciseRequest) (now : Instant) :
    PublicExercise → LabState → Prop
  | replayed {k id : PyStr} {e : Exercise} (hk : r.idempotencyKey = some k)
      (hrec : s.exerciseIdempotency.get? k = some (r.actor, r.nodeId, r.scenarioId, id))
      (he : s.exercises.get? id = some e) : ExerciseStarted w s r now e.publicExercise s
  | created {n : Node} {pruned new : List Task} {e : Exercise} {s₁ : LabState}
      (hkey : r.idempotencyKey.bind s.exerciseIdempotency.get? = none)
      (hn : s.nodes.get? r.nodeId = some n) (ha : n.sessionActive = true)
      (hp : n.taskingPaused = false) (hroom : s.exercises.size < maxExercises)
      (hmade : Creating w s now pruned
        ((scenarioDefinition r.scenarioId).playbooks.map e.spec) new s₁)
      (hnode : e.nodeId = r.nodeId) (hby : e.createdBy = r.actor)
      (hsc : e.scenarioId = r.scenarioId) (hids : e.taskIds = new.map (·.id))
      (he : e.Prepared w s₁) : ExerciseStarted w s r now e.publicExercise
        (s₁.insertExercise w e r.idempotencyKey)

theorem Creating.exerciseRoom {now : Instant} {pruned new : List Task} {specs : List TaskSpec}
    {key : Option PyStr} (h : Creating w s now pruned specs new s')
    (hkey : key.bind s.exerciseIdempotency.get? = none)
    (hroom : s.exercises.size < maxExercises) : s'.ExerciseRoom key := by
  have hkeys : s'.exerciseIdempotency = s.exerciseIdempotency := by rw [h.records]
  have hex : s'.exercises = s.exercises := by rw [h.records]
  refine ⟨fun k hk => ?_, by rw [hex]; exact hroom⟩
  rw [hkeys]
  simpa [hk] using hkey

theorem createExercise_wp (hs : Safe w s₀) {now : Instant} {pruned : List Task}
    {r : ExerciseRequest} {n : Node}
    (hkey : r.idempotencyKey.bind s₀.exerciseIdempotency.get? = none)
    (hn : s₀.nodes.get? r.nodeId = some n) (ha : n.sessionActive = true)
    (hp : n.taskingPaused = false) (hcap : .runPlaybook ∈ n.capabilities)
    (hex : s₀.exercises.size < maxExercises) (h : Creating w s₀ now pruned [] [] s)
    (hroom : s.tasks.size + (scenarioDefinition r.scenarioId).playbooks.length ≤ maxTasks)
    (hqueue : s.QueueRoom r.nodeId (scenarioDefinition r.scenarioId).playbooks.length) :
    Prog.wp (createExercise w r.nodeId r.scenarioId r.actor r.idempotencyKey now)
      (fun reply s' => ExerciseStarted w s₀ r now reply s') (fun _ _ => False) s := by
  have htick := ((h.quiet (.tick .create) rfl).quiet (.tick .create) rfl).quiet (.tick .create) rfl
  have hids : s.exercises.All fun id _ => ∃ k < s.draws, id = w.exerciseId k := by
    have hsame : s.exercises = s₀.exercises := by rw [h.records]
    rw [hsame]
    intro id e he
    obtain ⟨k, hk, hid⟩ := (hs.exercises _ _ he).id_drawn
    exact ⟨k, hk.trans_le h.writes.draws_le, hid⟩
  have hdraft := newExercise_drafted hids r.nodeId r.scenarioId r.actor
    (w.utcNow s.tick.tick.draws) (scenarioDefinition r.scenarioId).title
  have hdroom : (s.newExercise w r.nodeId r.scenarioId r.actor).timeline.length <
      maxExerciseTimeline := by
    simp [LabState.newExercise, maxExerciseTimeline]
  have hstart : (s.newExercise w r.nodeId r.scenarioId r.actor).Grown []
      ((s.newExercise w r.nodeId r.scenarioId r.actor).appendTimeline
        (w.utcNow s.tick.tick.draws) { phase := .prepare, kind := .exerciseStarted
                                       summary := (scenarioDefinition r.scenarioId).title }) := by
    rw [Exercise.appendTimeline_of_room _ _ hdroom]
    exact ⟨rfl, rfl, rfl, rfl, by simp⟩
  simp only [createExercise, Prog.wp_bind, Prog.wp_get, Prog.wp_modify]
  refine appendDraft_wp hdroom ?_
  simp only [Prog.wp_bind]
  refine Prog.wp_imp (createExerciseTasks_wp ha hp hcap htick ?_ hdraft ?_ hroom ?_) ?_
  · rw [hstart.node_eq]
    exact (congrArg (·.get? r.nodeId) htick.nodes).trans hn
  · rw [hstart.tasks_eq, playbooks_length]; simp [LabState.newExercise]
  · rw [hstart.node_eq]
    exact ⟨hqueue.queue, hqueue.playbooks⟩
  · rintro e s₁ ⟨new, hmade, hd, hgrown⟩
    have hall := hstart.trans hgrown
    rw [hstart.spec_eq, ← hall.spec_eq] at hmade
    refine .created hkey hn ha hp hex (by simpa using hmade) hall.node_eq hall.created_eq
      hall.scenario_eq (by simpa [LabState.newExercise] using hall.tasks_eq) ?_
    rw [Exercise.Prepared, hall.scenario_eq]
    exact hd

/-- `start_exercise` refuses and changes nothing, or replays, or creates the exercise. -/
theorem startExercise_wp (hs : Safe w s) (nodeId scenario actor key : Json) (now : Instant) :
    Prog.wp (startExercise w nodeId scenario actor key now) (fun reply s' =>
      ∃ r, validateExerciseRequest nodeId scenario actor key = .ok r ∧
        ExerciseStarted w s r now reply s') (fun _ s' => s' = s) s := by
  unfold startExercise
  simp only [Prog.wp_bind, wp_check, Prog.wp_get]
  refine ⟨fun r hr => ?_, fun _ _ => trivial⟩
  rcases hkey : r.idempotencyKey.bind s.exerciseIdempotency.get? with _ | ⟨a, b, c, id⟩
  · simp only [startNewExercise]
    rw [Prog.wp_bind]
    refine Prog.wp_imp (requireTaskableNode_wp r.nodeId false) ?_
    rintro n _ ⟨rfl, hn, ha, hp⟩
    rw [Prog.wp_bind]
    refine Prog.wp_require.mpr ⟨fun hcap => ?_, fun _ => rfl⟩
    rw [Prog.wp_bind, Prog.wp_get, Prog.wp_bind]
    refine Prog.wp_require.mpr ⟨fun hex => ?_, fun _ => rfl⟩
    rw [Prog.wp_bind]
    refine Prog.wp_imp (requireQueueRoom_wp _ _) ?_
    rintro _ _ ⟨rfl, hqueue⟩
    rw [Prog.wp_bind]
    refine Prog.wp_imp (makeTaskSlots_wp hs now _) ?_
    rintro _ s₁ ⟨⟨pruned, hslots⟩, hroom⟩
    exact Prog.wp_mono (createExercise_wp hs hkey hn ha hp hcap.2 hex hslots hroom
      (hqueue.of_sublist hslots.sublist)) (fun reply s' h => ⟨r, hr, h⟩) fun _ _ h => h.elim
  · simp only [Prog.wp_ite, Prog.wp_throw]
    refine ⟨fun hsame => ?_, fun _ => trivial⟩
    obtain ⟨rfl, rfl, rfl⟩ := hsame
    obtain ⟨k, hk, hrec⟩ := Option.bind_eq_some_iff.mp hkey
    cases he : s.exercises.get? id with
    | none => exact rfl
    | some e => exact ⟨r, hr, .replayed hk hrec he⟩

/-- `start_exercise` is a sequence of writes. -/
theorem ExerciseStarted.writes {r : ExerciseRequest} {now : Instant} {reply : PublicExercise}
    (h : ExerciseStarted w s r now reply s') : Writes w [.prune, .create] s s' := by
  cases h with
  | replayed => exact .refl
  | created hkey hn ha hp hroom hmade hnode hby hsc hids he =>
    exact hmade.writes.write (.insertExercise he (hmade.exerciseRoom hkey hroom)) (by simp)

end C2Lab
