import C2Lab.Core.Retention

/-! A table of tasks that fills.

    Nobody can keep retention from reaching a task: where its node takes work and no exercise needs
    a record, operators who queue one task after the other and cancel it fill the table, and the
    next task takes the place of the oldest. One round is a step, the filled table a run of them. -/

namespace C2Lab

variable {w : World} {s s' : LabState}

/-! ### A task is queued, a task is cancelled -/

/-- What `queue_task` asks of the node and its queue. -/
structure LabState.Accepts (r : TaskRequest) (n : Node) (s : LabState) : Prop where
  node : s.nodes.get? r.nodeId = some n
  active : n.sessionActive = true
  unpaused : n.taskingPaused = false
  capable : r.command.taskType ∈ n.capabilities
  queue_room : s.countQueued r.nodeId (fun _ => true) < maxQueuedTasksPerNode
  playbook_room : r.command.taskType = .runPlaybook →
    s.countQueued r.nodeId (fun t => t.command.taskType = .runPlaybook) <
      maxQueuedPlaybooksPerNode

/-- Where the node and its queue accept it, a request under a new key creates its task in the room
    that retention made. -/
theorem queueTask_creates {nodeId taskType payload key actor : Json} {ttl : Option Json}
    {r : TaskRequest} {n : Node} {now : Instant}
    (hr : validateTaskRequest w.toInterp nodeId taskType payload ttl key actor = .ok r)
    (hkey : s.taskWithKey r.idempotencyKey = none) (ha : s.Accepts r n)
    (hslots : makeTaskSlotsLocked w 1 s = .ok ⟨⟩ s') :
    step w s (.queueTask nodeId taskType payload ttl key actor now) =
      s'.addTask w r.spec now none := by
  have hadmit : admitTask r s = .ok ⟨⟩ s := by
    simp only [admitTask, requireTaskableNode, bind, EStateM.bind, Prog.get_apply, ha.node,
      Prog.require, ha.active, ha.unpaused, ha.capable, ha.queue_room, if_true,
      if_pos ha.playbook_room, reduceCtorEq, false_implies, pure, EStateM.pure]
  have hrun : queueTask w nodeId taskType payload ttl key actor now s =
      .ok (s'.newTask w r.spec now).publicTask (s'.addTask w r.spec now none) := by
    simp only [queueTask, bind, EStateM.bind, hr, check_ok, pure, EStateM.pure, Prog.get_apply,
      hkey, hadmit, hslots, createTask, Prog.modify_apply]
    rfl
  rw [step, Op.run, Prog.final_map_eq, Prog.final, hrun]

/-- A queued task is cancelled; without an exercise nothing else happens. -/
theorem cancelTask_cancels {t : Task} {actor : PyStr} (ht : s.tasks.get? t.id = some t)
    (hq : t.status = .queued) (he : s.exercises = .empty)
    (ha : validateOperatorActor (.str actor) = .ok actor) :
    step w s (.cancelTask (.str t.id) (.str actor)) = s.cancelledTask w t actor := by
  have hnone : (s.cancelledTask w t actor).exercises = .empty := by
    simp [LabState.cancelledTask, he]
  have hwp : Prog.wp (cancelTask w (.str t.id) (.str actor))
      (fun _ s' => s' = s.cancelledTask w t actor) (fun _ s' => s' = s.cancelledTask w t actor)
      s := by
    have hlive : TaskStatus.queued ≠ .cancelled := by decide
    have hrefresh : refreshExercisesLocked w (s.cancelledTask w t actor) =
        .ok ⟨⟩ (s.cancelledTask w t actor) := by
      simp only [refreshExercisesLocked, bind, EStateM.bind, Prog.get_apply, hnone]
      rfl
    have hid : check (requireStr (.str t.id) "task_id must be a string") = pure t.id := rfl
    rw [cancelTask, hid, ha]
    simp only [Prog.wp_bind, Prog.wp_pure, check_ok, Prog.wp_get, ht, hq, hlive, if_false,
      ne_eq, not_true_eq_false, Prog.wp_modify, Prog.wp_run hrefresh]
    cases (s.cancelledTask w t actor).tasks.get? t.id <;> rfl
  rw [step, Op.run, Prog.final_map_eq]
  exact Prog.wp_final.mp hwp

/-- Each removal reads the clock for its event and its audit entry. -/
theorem draws_foldl_prune (l : List Task) (s : LabState) :
    (l.foldl (fun s t => s.pruneTerminalTaskLocked w t) s).draws = s.draws + 3 * l.length := by
  induction l generalizing s with
  | nil => rfl
  | cons t l ih =>
    rw [List.foldl_cons, ih, LabState.toJournal_prune, Journal.draws_auditLocked,
      Journal.draws_recordLocked, List.length_cons]
    omega

theorem draws_makeTaskSlots {count : ℕ} (h : makeTaskSlotsLocked w count s = .ok ⟨⟩ s') :
    s'.draws ≤ s.draws + 3 * (s.tasks.size + count - maxTasks) := by
  have hwp : Prog.wp (makeTaskSlotsLocked w count)
      (fun _ s' => s'.draws ≤ s.draws + 3 * (s.tasks.size + count - maxTasks))
      (fun _ _ => True) s := by
    unfold makeTaskSlotsLocked
    simp only [Prog.wp_bind, Prog.wp_get, Prog.wp_ite, Prog.wp_pure, Prog.wp_throw,
      Prog.wp_modify]
    refine ⟨fun _ => Nat.le_add_right _ _, fun _ => ⟨fun _ => trivial, fun _ => ?_⟩⟩
    rw [draws_foldl_prune]
    exact Nat.add_le_add_left (Nat.mul_le_mul_left 3 (List.length_take_le _ _)) _
  rwa [Prog.wp_run h] at hwp

/-! ### Rounds of both -/

/-- A PING task for a node, as `operator` asks for it. -/
def pingRequest (nodeId : PyStr) : TaskRequest :=
  ⟨nodeId, .ping, defaultQueueTtlSeconds, none, "operator"⟩

def queuePing (nodeId : PyStr) : Op :=
  .queueTask (.str nodeId) (Vocabulary.toJson TaskType.ping) (.obj []) none .null
    (.str "operator") 0

theorem pingRequest_valid (nodeId : PyStr) :
    validateTaskRequest w.toInterp (.str nodeId) (Vocabulary.toJson TaskType.ping) (.obj []) none
      .null (.str "operator") = .ok (pingRequest nodeId) := by
  with_unfolding_all rfl

theorem draws_addTask_ping (nodeId : PyStr) (s : LabState) :
    (s.addTask w (pingRequest nodeId).spec 0 none).draws = s.draws + 6 := by
  simp [LabState.addTask, LabState.announceTask, LabState.insertTask, LabState.tick,
    TaskRequest.spec, Journal.draws_recordLocked, Journal.draws_auditLocked]

/-- `k` tasks were queued after `s₀` and cancelled at once; nothing else was touched. -/
structure Fills (w : World) (s₀ : LabState) (k : ℕ) (s : LabState) : Prop where
  later : Later w s₀ s
  draws : s.draws ≤ s₀.draws + 10 * k
  nodes : s.nodes = s₀.nodes
  exercises : s.exercises = .empty
  size : s.tasks.size = s₀.tasks.size + k
  kept : ∀ id t, s₀.tasks.get? id = some t → s.tasks.get? id = some t
  ended : ∀ id t, s.tasks.get? id = some t → t.status.isTerminal = true

/-- With nothing queued the node takes one more PING. -/
theorem Fills.accepts {s₀ : LabState} {k : ℕ} (h : Fills w s₀ k s) {n : Node}
    (hn : s₀.nodes.get? n.id = some n) (ha : n.sessionActive = true)
    (hp : n.taskingPaused = false) (hcap : .ping ∈ n.capabilities) :
    s.Accepts (pingRequest n.id) n where
  node := h.nodes ▸ hn
  active := ha
  unpaused := hp
  capable := hcap
  queue_room := by
    have hnone : s.countQueued n.id (fun _ => true) = 0 := by
      refine List.countP_eq_zero.mpr fun t ht hq => ?_
      obtain ⟨id, hid⟩ := Dict.mem_values.mp ht
      have hended := h.ended id t hid
      simp only [Bool.and_true, Bool.and_eq_true, decide_eq_true_eq] at hq
      rw [hq.1] at hended
      cases hended
    show s.countQueued n.id (fun _ => true) < _
    rw [hnone]
    decide
  playbook_room hpb := by cases hpb

/-- One more task is queued and cancelled. -/
theorem Fills.step {s₀ : LabState} {k : ℕ} (hr : Reachable w s₀) (h : Fills w s₀ k s)
    {n : Node} (hn : s₀.nodes.get? n.id = some n) (ha : n.sessionActive = true)
    (hp : n.taskingPaused = false) (hcap : .ping ∈ n.capabilities)
    (hroom : s.tasks.size < maxTasks) (hf : w.FreshBelow (s₀.draws + 10 * (k + 1))) :
    ∃ s', Fills w s₀ (k + 1) s' := by
  have hs := (hr.later h.later).sound.safe
  have hslots : makeTaskSlotsLocked w 1 s = .ok ⟨⟩ s := by
    unfold makeTaskSlotsLocked
    simp only [bind, EStateM.bind, Prog.get_apply]
    rw [if_pos (by omega)]
    rfl
  have hqueue : C2Lab.step w s (queuePing n.id) = s.addTask w (pingRequest n.id).spec 0 none :=
    queueTask_creates (pingRequest_valid n.id) rfl (h.accepts hn ha hp hcap) hslots
  set s₁ := s.addTask w (pingRequest n.id).spec 0 none with hs₁
  set t := s.newTask w (pingRequest n.id).spec 0 with ht
  have hrec₁ : s₁.toRecords = { s.toRecords with
      tasks := s.tasks.set t.id t, taskSequence := s.taskSequence + 1 } :=
    LabState.toRecords_addTask _ _ _ _
  have hdraws₁ : s₁.draws = s.draws + 6 := draws_addTask_ping _ _
  have ht₁ : s₁.tasks.get? t.id = some t := by rw [hrec₁]; exact Dict.get?_set_self _ _ _
  have hcancel : C2Lab.step w s₁ (.cancelTask (.str t.id) (.str "operator")) =
      s₁.cancelledTask w t "operator" :=
    cancelTask_cancels ht₁ rfl (by rw [hrec₁]; exact h.exercises) rfl
  set s₂ := s₁.cancelledTask w t "operator" with hs₂
  have hrec₂ : s₂.tasks = s₁.tasks.set t.id
      (t.ended .cancelled (reasonResult "operator_cancelled") (w.utcNow s₁.draws) false) ∧
      s₂.nodes = s₁.nodes ∧ s₂.exercises = s₁.exercises := by
    simp [hs₂, LabState.cancelledTask, Task.ended, ht, LabState.newTask]
  have hdraws₂ : s₂.draws = s₁.draws + 4 := by
    simp [hs₂, LabState.cancelledTask, LabState.tick, Journal.draws_recordLocked,
      Journal.draws_auditLocked]
  have htasks : s₂.tasks = s.tasks.set t.id
      (t.ended .cancelled (reasonResult "operator_cancelled") (w.utcNow s₁.draws) false) := by
    rw [hrec₂.1, hrec₁]
    exact Dict.set_set _ _ _ _
  have hnew : s.tasks.get? t.id = none := by
    cases hget : s.tasks.get? t.id with
    | none => rfl
    | some u =>
      obtain ⟨i, hi, hid⟩ := (hs.tasks _ _ hget).drawn
      have hdraws := h.draws
      exact absurd hid.symm (taskId_fresh hf hi (by omega))
  have hlater : Later w s₀ s₂ :=
    (h.later.tail ⟨_, hqueue.symm, hf.mono (by have := h.draws; omega)⟩).tail
      ⟨_, hcancel.symm, hf.mono (by have := h.draws; omega)⟩
  refine ⟨s₂, hlater, by have := h.draws; omega, ?_, ?_, ?_, fun id u hu => ?_, fun id u hu => ?_⟩
  · rw [hrec₂.2.1, hrec₁]
    exact h.nodes
  · rw [hrec₂.2.2, hrec₁]
    exact h.exercises
  · have hkeys := Dict.keys_set_of_not_mem (t.ended .cancelled (reasonResult "operator_cancelled")
      (w.utcNow s₁.draws) false) (Dict.get?_eq_none.mp hnew)
    rw [htasks, Dict.size_eq_length_keys, hkeys, List.length_append, ← Dict.size_eq_length_keys,
      h.size]
    rfl
  · have hold := h.kept id u hu
    rw [htasks, Dict.get?_set_ne _ _ fun heq => ?_]
    · exact hold
    · rw [heq, hnew] at hold
      cases hold
  · rw [htasks, Dict.get?_set] at hu
    split at hu
    · cases hu
      rfl
    · exact h.ended id u hu

/-- A result that was accepted can always be turned into a tombstone: where no exercise needs a
    record and every task ended, operators who queue and cancel fill the table, and the next task
    takes the place of the oldest. -/
theorem exists_tombstone {s₀ : LabState} (hr : Reachable w s₀)
    (hf : w.FreshBelow (s₀.draws + 10 * (maxTasks + 1))) {n : Node}
    (hn : s₀.nodes.get? n.id = some n) (ha : n.sessionActive = true)
    (hp : n.taskingPaused = false) (hcap : .ping ∈ n.capabilities) (he : s₀.exercises = .empty)
    (hended : ∀ id u, s₀.tasks.get? id = some u → u.status.isTerminal = true) {t : Task}
    (ht : s₀.tasks.get? t.id = some t) (hacc : t.resultAccepted = true)
    (hold : ∀ id u, s₀.tasks.get? id = some u → t.sequence ≤ u.sequence) :
    ∃ s, Later w s₀ s ∧ s.taskResultTombstones.get? t.id = some t.nodeTask := by
  have hfill : ∀ k, s₀.tasks.size + k ≤ maxTasks → ∃ s, Fills w s₀ k s := by
    intro k
    induction k with
    | zero => exact fun _ => ⟨s₀, .refl, le_rfl, rfl, he, rfl, fun _ _ h => h, hended⟩
    | succ k ih =>
      intro hk
      obtain ⟨s, hs⟩ := ih (by omega)
      exact hs.step hr hn ha hp hcap (by rw [hs.size]; omega) (hf.mono (by omega))
  have hbounded := hr.bounded.tasks
  obtain ⟨s, hs⟩ := hfill (maxTasks - s₀.tasks.size) (by omega)
  have hreach := hr.later hs.later
  have hsafe := hreach.sound.safe
  have hfull : s.tasks.size = maxTasks := by rw [hs.size]; omega
  have hfree : ∀ u, taskIsRequiredByRunningExerciseLocked u s = false := fun u => by
    unfold taskIsRequiredByRunningExerciseLocked
    rw [hs.exercises]
    cases u.exerciseId <;> rfl
  have ht' := hs.kept _ _ ht
  have hprunable : t ∈ s.prunable :=
    (hsafe.mem_prunable).mpr ⟨ht', hs.ended _ _ ht', hfree t⟩
  obtain ⟨removed, s₁, hslots, hlen, hretired, -, hall, holdest, -, htomb⟩ :=
    (task_retention hreach 1).1 (by
      have := List.length_pos_of_mem hprunable
      omega)
  -- the oldest of them all is the accepted one
  have hmem : t ∈ removed := by
    by_contra hout
    obtain ⟨u, hu⟩ : ∃ u, u ∈ removed := List.exists_mem_of_length_pos (by omega)
    have hlt := holdest t hprunable hout u hu
    have hsince := (numberedSince_kept w s₀).later hs.later hr.sound
      ⟨le_rfl, fun id x hx => .inl ⟨x, hx, rfl⟩⟩
    rcases hsince.number _ _ ((hsafe.mem_prunable).mp (hall u hu)).1 with ⟨x, hx, hseq⟩ | hseq
    · have := hold _ _ hx
      omega
    · have := hr.numbered.le _ _ ht
      omega
  have hqueue : step w s (queuePing n.id) = s₁.addTask w (pingRequest n.id).spec 0 none :=
    queueTask_creates (pingRequest_valid n.id) rfl (hs.accepts hn ha hp hcap) hslots
  refine ⟨_, hs.later.tail ⟨_, hqueue.symm, hf.mono ?_⟩, ?_⟩
  · have hdraws := draws_makeTaskSlots hslots
    have hfilled := hs.draws
    rw [draws_addTask_ping]
    omega
  · rw [LabState.toRecords_addTask]
    exact htomb t hmem hacc

end C2Lab
