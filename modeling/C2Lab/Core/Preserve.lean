import C2Lab.Core.ExerciseInvariant

/-! Every write keeps the invariant; a write that adds records needs its identifiers fresh. -/

namespace C2Lab

variable {w : World} {s s' : LabState} {lo hi : ℕ} {tasks tasks' : Dict PyStr Task}
  {nodes nodes' : Dict PyStr Node}

/-! ### More draws -/

theorem Node.Stored.mono {id : PyStr} {n : Node} (h : n.Stored w lo id) (hlo : lo ≤ hi) :
    n.Stored w hi id := by
  obtain ⟨k, hk, hid⟩ := h.drawn
  obtain ⟨m, hm, htok⟩ := h.wf.token_drawn
  exact ⟨h.key, ⟨k, by omega, hid⟩, { h.wf with token_drawn := ⟨m, by omega, htok⟩ }⟩

theorem Task.Stored.mono {id : PyStr} {t : Task} (h : t.Stored w lo id) (hlo : lo ≤ hi) :
    t.Stored w hi id := by
  obtain ⟨k, hk, hid⟩ := h.drawn
  exact ⟨h.key, ⟨k, by omega, hid⟩, h.wf⟩

theorem NodeTask.Stored.mono {id : PyStr} {r : NodeTask} (h : r.Stored w lo tasks id)
    (hlo : lo ≤ hi) (hp : tasks.get? id = none → tasks'.get? id = none) :
    r.Stored w hi tasks' id := by
  obtain ⟨k, hk, hid⟩ := h.drawn
  exact ⟨h.key, ⟨k, by omega, hid⟩, hp h.pruned, h.wf⟩

theorem Exercise.Stored.mono {id : PyStr} {e : Exercise} (h : e.Stored w lo tasks id)
    (hlo : lo ≤ hi) (hv : e.Valid tasks → e.Valid tasks') : e.Stored w hi tasks' id := by
  obtain ⟨j, hj, hkey⟩ := h.id_drawn
  refine ⟨h.key, ⟨j, by omega, hkey⟩, fun taskId hm => ?_, hv h.valid⟩
  obtain ⟨k, hk, hid⟩ := h.drawn taskId hm
  exact ⟨k, by omega, hid⟩

/-- More draws and nothing else. -/
theorem Records.Safe.mono {r : Records} (h : r.Safe w lo) (hlo : lo ≤ hi) : r.Safe w hi where
  nodes := h.nodes.imp fun _ _ _ hn => hn.mono hlo
  tasks := h.tasks.imp fun _ _ _ ht => ht.mono hlo
  tombstones := h.tombstones.imp fun _ _ _ hr => hr.mono hlo id
  exercises := h.exercises.imp fun _ _ _ he => he.mono hlo id
  owned := h.owned

/-! ### Changes of one table -/

/-- A write to the tasks and nodes, where every exercise and tombstone stays what it was. -/
theorem Records.Safe.set_nodes {r : Records} (h : r.Safe w hi)
    (hn : nodes'.All (Node.Stored w hi)) (ho : r.tasks.All fun _ t => t.Owned nodes') :
    { r with nodes := nodes' }.Safe w hi :=
  ⟨hn, h.tasks, h.tombstones, h.exercises, ho⟩

/-- A task that has not ended is rewritten, its identity kept. -/
theorem Records.Safe.set_task {r : Records} (h : r.Safe w hi) {t t' : Task}
    (ht : r.tasks.get? t.id = some t) (hl : t.status.isTerminal = false) (hwf : t'.WellFormed w)
    (hid : t'.id = t.id) (hcmd : t'.command = t.command) (hex : t'.exerciseId = t.exerciseId)
    (hnode : t'.nodeId = t.nodeId) :
    { r with tasks := r.tasks.set t.id t' }.Safe w hi where
  nodes := h.nodes
  tasks := h.tasks.set ⟨hid, (h.tasks _ _ ht).drawn, hwf⟩
  tombstones := h.tombstones.imp fun id x _ hx => hx.mono le_rfl fun hnone => by
    have hne : id ≠ t.id := fun he => by rw [he, ht] at hnone; cases hnone
    rw [Dict.get?_set_ne _ _ hne]; exact hnone
  exercises := h.exercises.imp fun _ _ _ he => he.mono le_rfl fun hv =>
    hv.set_live ht hl hcmd hex hnode
  owned := h.owned.set fun hl' => by
    rw [hnode, hcmd]
    exact h.owned _ _ ht hl

/-- The nodes may be recounted as long as sessions and capabilities stay. -/
theorem Owned.of_nodes (h : tasks.All fun _ t => t.Owned nodes)
    (hn : ∀ id n, nodes.get? id = some n → ∃ n', nodes'.get? id = some n' ∧
      n'.sessionActive = n.sessionActive ∧ n'.capabilities = n.capabilities) :
    tasks.All fun _ t => t.Owned nodes' :=
  h.imp fun _ t _ ho hl => by
    obtain ⟨n, hget, hact, hcap⟩ := ho hl
    obtain ⟨n', hget', hact', hcap'⟩ := hn _ _ hget
    exact ⟨n', hget', hact'.trans hact, hcap' ▸ hcap⟩

/-- Rewriting a node record, its session and capabilities kept. -/
theorem get?_set_same {n : Node} (n' : Node) (hn : nodes.get? n.id = some n)
    (ha : n'.sessionActive = n.sessionActive) (hc : n'.capabilities = n.capabilities)
    (id : PyStr) (x : Node) (hx : nodes.get? id = some x) :
    ∃ x', (nodes.set n.id n').get? id = some x' ∧ x'.sessionActive = x.sessionActive ∧
      x'.capabilities = x.capabilities := by
  rw [Dict.get?_set]
  split
  · rename_i he
    rw [he, hn, Option.some.injEq] at hx
    exact ⟨n', rfl, hx ▸ ha, hx ▸ hc⟩
  · exact ⟨x, hx, rfl, rfl⟩

theorem chargeFailure_stored (h : nodes.All (Node.Stored w hi)) (nodeId : PyStr) :
    (chargeFailure nodes nodeId).All (Node.Stored w hi) := by
  unfold chargeFailure
  cases hn : nodes.get? nodeId with
  | none => exact h
  | some n =>
    have hs := h _ _ hn
    exact h.set ⟨rfl, hs.key ▸ hs.drawn, { hs.wf with }⟩

theorem chargeFailure_same (h : nodes.All (Node.Stored w hi)) (nodeId : PyStr) (id : PyStr)
    (x : Node) (hx : nodes.get? id = some x) :
    ∃ x', (chargeFailure nodes nodeId).get? id = some x' ∧ x'.sessionActive = x.sessionActive ∧
      x'.capabilities = x.capabilities := by
  unfold chargeFailure
  cases hn : nodes.get? nodeId with
  | none => exact ⟨x, hx, rfl, rfl⟩
  | some n =>
    have hn' : nodes.get? n.id = some n := by rw [(h _ _ hn).key]; exact hn
    exact get?_set_same { n with tasksFailed := n.tasksFailed + 1 } hn' rfl rfl id x hx

/-! ### Task records that move -/

/-- A task that ended, its result accepted from the Node or written by the Teamserver. -/
theorem Task.WellFormed.ended {t : Task} (h : t.WellFormed w) {status : TaskStatus}
    (hterm : status.isTerminal = true) (result : Json) (time : Timestamp) {accepted : Bool}
    (hacc : accepted = true → ∃ st, status = ResultStatus.taskStatus st ∧
      Accepted w t.command st result) (hcomp : status = .completed → accepted = true) :
    (t.ended status result time accepted).WellFormed w where
  queued hq := by simp only [Task.ended] at hq; rw [hq] at hterm; cases hterm
  dispatched hd := by simp only [Task.ended] at hd; rw [hd] at hterm; cases hterm
  terminal _ := ⟨rfl, rfl⟩
  ended_iff := by simp [Task.ended, hterm]
  completedAt_iff := by simp [Task.ended, hterm]
  accepted_ended ha := by
    obtain ⟨st, hst, -⟩ := hacc ha
    simp only [Task.ended, hst]
    cases st
    · exact .inl rfl
    · exact .inr rfl
  completed_accepted := hcomp
  accepted ha := by
    obtain ⟨st, hst, hres⟩ := hacc ha
    exact ⟨st, result, hst, rfl, hres⟩
  command_valid := h.command_valid
  exercise_playbook := h.exercise_playbook

theorem Task.WellFormed.dispatch {t : Task} (h : t.WellFormed w) (hq : t.status = .queued)
    (now : Instant) (time : Timestamp) :
    ({ t with
      status := .dispatched, dispatchedAt := some time
      deadline := some (now + taskTimeoutSeconds), queueDeadline := none
      deliveryAttempts := 1 } : Task).WellFormed w where
  queued hq' := by cases hq'
  dispatched _ := ⟨rfl, rfl, rfl, le_rfl⟩
  terminal ht := by cases ht
  ended_iff := by simpa [hq, TaskStatus.isTerminal] using h.ended_iff
  completedAt_iff := by simpa [hq, TaskStatus.isTerminal] using h.completedAt_iff
  accepted_ended ha := by rcases h.accepted_ended ha with h | h <;> rw [hq] at h <;> cases h
  completed_accepted hc := by cases hc
  accepted ha := by rcases h.accepted_ended ha with h | h <;> rw [hq] at h <;> cases h
  command_valid := h.command_valid
  exercise_playbook := h.exercise_playbook

theorem Task.WellFormed.redeliver {t : Task} (h : t.WellFormed w) (hd : t.status = .dispatched) :
    ({ t with deliveryAttempts := t.deliveryAttempts + 1 } : Task).WellFormed w :=
  { h with
    queued := fun hq => by rw [hd] at hq; cases hq
    dispatched := fun _ => by
      obtain ⟨h1, h2, h3, h4⟩ := h.dispatched hd
      exact ⟨h1, h2, h3, by simp⟩ }

theorem newTask_wf {spec : TaskSpec} (hvalid : spec.command.Valid w.toInterp)
    (hex : spec.exerciseId ≠ none → ∃ p, spec.command = .runPlaybook p) (now : Instant)
    (s : LabState) : (s.newTask w spec now).WellFormed w where
  queued _ := ⟨rfl, rfl, rfl, rfl⟩
  dispatched hd := by cases hd
  terminal ht := by cases ht
  ended_iff := by simp [LabState.newTask, TaskStatus.isTerminal]
  completedAt_iff := by simp [LabState.newTask, TaskStatus.isTerminal]
  accepted_ended ha := by cases ha
  completed_accepted hc := by cases hc
  accepted ha := by cases ha
  command_valid := hvalid
  exercise_playbook := hex

/-! ### Fresh records -/

theorem taskId_fresh (hf : w.FreshBelow hi) {k m : ℕ} (hk : k < m) (hm : m < hi) :
    w.taskId k ≠ w.taskId m := fun he =>
  absurd (hf.ident_inj (by decide) (hk.trans hm) hm he) (by omega)

theorem nodeId_fresh (hf : w.FreshBelow hi) {k m : ℕ} (hk : k < m) (hm : m < hi) :
    w.nodeId k ≠ w.nodeId m := fun he =>
  absurd (hf.ident_inj (by decide) (hk.trans hm) hm he) (by omega)

theorem protocolCall_eq_ok {α : Type} {x : Except Exc α} {a : α} :
    protocolCall x = .ok a ↔ x = .ok a := by
  unfold protocolCall
  split <;> simp_all

/-- What a successful check of the enrollment arguments says about them. -/
theorem validateEnrollment_eq_ok {py : Interp}
    {name version profile capabilities interval jitter : Json} {e : Enrollment}
    (h : validateEnrollment py name version profile capabilities interval jitter = .ok e) :
    cleanText py name "name" 48 = .ok e.name ∧ cleanText py version "version" 32 = .ok e.version ∧
      e.capabilities = nodeProfiles e.profile ∧
      (minPollIntervalMs ≤ e.pollIntervalMs ∧ e.pollIntervalMs ≤ maxPollIntervalMs) ∧
      0 ≤ e.jitterPercent ∧ e.jitterPercent ≤ maxJitterPercent := by
  simp only [validateEnrollment, bind_eq_ok, protocolCall_eq_ok, validatePollInterval,
    validateJitterPercent, boundedInt_eq_ok, pure, Except.pure, Except.ok.injEq] at h
  obtain ⟨n, hn, v, hv, ⟨p, cs⟩, hp, i, ⟨-, hi⟩, j, ⟨-, hj⟩, rfl⟩ := h
  refine ⟨hn, hv, ?_, hi, hj⟩
  simp only [validateCapabilities, bind_eq_ok] at hp
  obtain ⟨q, -, hq⟩ := hp
  split at hq
  · split at hq
    · cases hq; rfl
    · cases hq
  · cases hq

/-- A node enrolled with checked arguments. -/
theorem newNode_wf {py : Interp} {name version profile capabilities interval jitter : Json}
    {e : Enrollment} (hv : validateEnrollment py name version profile capabilities interval jitter =
      .ok e) (hpy : py = w.toInterp) (now : Instant) {s : LabState} (hk : s.draws + 1 < hi) :
    (s.newNode w e now).WellFormed w hi := by
  subst hpy
  obtain ⟨hn, hver, hcap, hint, hjit⟩ := validateEnrollment_eq_ok hv
  exact ⟨cleanText_idem hn, cleanText_idem hver, hcap, hint, hjit, s.draws + 1, hk, rfl⟩

/-- Forgetting tombstones leaves the others as they are. -/
theorem Dict.All.foldl_erase {κ ν : Type} [DecidableEq κ] {P : κ → ν → Prop} {d : Dict κ ν}
    (h : d.All P) (ks : List κ) : (ks.foldl Dict.erase d).All P := by
  induction ks generalizing d with
  | nil => exact h
  | cons k ks ih => exact ih h.erase

theorem Dict.All.evictTombstones {P : PyStr → NodeTask → Prop} {d : Dict PyStr NodeTask}
    (h : d.All P) : (C2Lab.evictTombstones d).All P := by
  unfold C2Lab.evictTombstones
  exact h.foldl_erase _

theorem tombstones_remember {t : Task} (h : t.resultAccepted = true) :
    (s.rememberTaskResultTombstoneLocked t).taskResultTombstones =
      (evictTombstones s.taskResultTombstones).set t.id t.nodeTask := by
  rw [LabState.rememberTaskResultTombstoneLocked, if_pos h]

/-- The tombstone of a task that is being removed. -/
theorem remember_stored (hs : Safe w s) {t : Task} (ht : s.tasks.get? t.id = some t) :
    (s.rememberTaskResultTombstoneLocked t).taskResultTombstones.All
      (NodeTask.Stored w s.draws (s.tasks.erase t.id)) := by
  have hold : s.taskResultTombstones.All (NodeTask.Stored w s.draws (s.tasks.erase t.id)) :=
    hs.tombstones.imp fun id x _ hx => hx.mono le_rfl fun hnone => by
      rw [Dict.get?_erase]; split <;> simp [hnone]
  by_cases hacc : t.resultAccepted = true
  · obtain ⟨st, result, hst, hres, hok⟩ := (hs.task_wf ht).accepted hacc
    have hnew : t.nodeTask.Stored w s.draws (s.tasks.erase t.id) t.id :=
      ⟨rfl, (hs.tasks _ _ ht).drawn, by simp, st, result, hst, hres, hok⟩
    rw [tombstones_remember hacc]
    exact hold.evictTombstones.set hnew
  · rw [LabState.rememberTaskResultTombstoneLocked, if_neg hacc]
    exact hold

/-! ### The step lemma -/

theorem EndsAs.live {c : Activity} {a b : TaskStatus} (h : EndsAs c a b) :
    a.isTerminal = false ∧ b.isTerminal = true ∧ b ≠ .completed := by
  cases h <;> exact ⟨rfl, rfl, by decide⟩

theorem FailsAs.live {c : Activity} {a b : TaskStatus} (h : FailsAs c a b) :
    a.isTerminal = false ∧ b.isTerminal = true ∧ b ≠ .completed := by
  cases h <;> exact ⟨rfl, rfl, by decide⟩

/-- A task ended by the Teamserver. -/
theorem Task.WellFormed.ended_by_server {t : Task} (h : t.WellFormed w) {status : TaskStatus}
    (hterm : status.isTerminal = true) (hne : status ≠ .completed) (result : Json)
    (time : Timestamp) : (t.ended status result time false).WellFormed w :=
  h.ended hterm result time (fun h => by cases h) fun hc => absurd hc hne

/-! ### One lemma for each change that touches what others rely on -/

/-- An exercise is rewritten, what it was started with kept. -/
theorem Records.Safe.set_exercise {r : Records} (h : r.Safe w hi) {e e' : Exercise}
    (he : r.exercises.get? e.id = some e) (hsame : e.SameStart e') (hv : e'.Valid r.tasks) :
    { r with exercises := r.exercises.set e.id e' }.Safe w hi where
  nodes := h.nodes
  tasks := h.tasks
  tombstones := h.tombstones
  exercises := h.exercises.set ⟨hsame.id_eq, (h.exercises _ _ he).id_drawn,
    hsame.tasks_eq ▸ (h.exercises _ _ he).drawn, hv⟩
  owned := h.owned

/-- A session is closed once nothing of its node is live, and gets a token nobody was told. -/
theorem Records.Safe.close_node (h : s.toRecords.Safe w hi) {n : Node}
    (hn : s.nodes.get? n.id = some n) (hl : s.NoLiveTask n.id) {k : ℕ} (hk : k < hi) :
    { s.toRecords with nodes := s.nodes.set n.id { n with
      status := .offline, sessionActive := false
      sessionToken := .text (w.token k) } }.Safe w hi := by
  have hst := h.nodes _ _ hn
  refine h.set_nodes (h.nodes.set
    ⟨rfl, hst.drawn, { hst.wf with token_drawn := ⟨k, hk, rfl⟩ }⟩) ?_
  intro id t ht hlive
  obtain ⟨m, hm, hrest⟩ := h.owned id t ht hlive
  have hne : t.nodeId ≠ n.id := fun he => by rw [hl ht he] at hlive; cases hlive
  exact ⟨m, by rw [Dict.get?_set_ne _ _ hne]; exact hm, hrest⟩

/-- The settings of a SLEEP task are in range, so the node record that takes them is. -/
theorem Node.Stored.credited {n : Node} (h : n.Stored w hi n.id) {command : Command}
    (hcmd : command.Valid w.toInterp) (status : ResultStatus) (seen : Timestamp) (now : Instant) :
    (n.credited command status seen now).Stored w hi n.id := by
  refine ⟨rfl, h.drawn, { h.wf with interval_range := ?_, jitter_range := ?_ }⟩ <;>
    simp only [Node.credited, settingsAfter] <;> split
  · exact hcmd.1
  · exact h.wf.interval_range
  · exact hcmd.2
  · exact h.wf.jitter_range

/-- A result is accepted: the task ends with it and the node is credited. -/
theorem Safe.accept_task (hs : Safe w s) (h : s.toRecords.Safe w hi) {n : Node} {t : Task}
    {status : ResultStatus} {sent : Document} {result : Json} (hn : s.nodes.get? n.id = some n)
    (ht : s.tasks.get? t.id = some t) (hd : t.status = .dispatched)
    (hv : validateTaskResult w.toInterp t.command (Vocabulary.toJson status) sent.1
      (some n.expectedRuntime) = .ok (status, result)) (time seen : Timestamp) (now : Instant) :
    { s.toRecords with
      tasks := s.tasks.set t.id (t.ended status.taskStatus result time true)
      nodes := s.nodes.set n.id (n.credited t.command status seen now) }.Safe w hi := by
  have hterm : status.taskStatus.isTerminal = true := by cases status <;> rfl
  have hwf : (t.ended status.taskStatus result time true).WellFormed w :=
    (hs.task_wf ht).ended hterm result time
      (fun _ => ⟨status, rfl, sent, n.expectedRuntime, hv⟩) fun _ => rfl
  have hset := h.set_task ht (by rw [hd]; rfl) hwf rfl rfl rfl rfl
  have hnodes := h.nodes.set
    ((h.nodes _ _ hn).credited (hs.task_wf ht).command_valid status seen now)
  exact hset.set_nodes hnodes (Owned.of_nodes hset.owned
    (get?_set_same (n.credited t.command status seen now) hn rfl rfl))

/-- A task goes and leaves its tombstone: no exercise that runs still needs the record. -/
theorem Safe.prune_task (hs : Safe w s) (h : s.toRecords.Safe w hi) (hd : s.draws ≤ hi)
    {t : Task} (ht : s.tasks.get? t.id = some t)
    (hr : taskIsRequiredByRunningExerciseLocked t s = false) :
    { s.toRecords with
      tasks := s.tasks.erase t.id
      taskResultTombstones :=
        (s.rememberTaskResultTombstoneLocked t).taskResultTombstones }.Safe w hi := by
  refine ⟨h.nodes, h.tasks.erase, ?_, ?_, h.owned.erase⟩
  · exact (remember_stored hs ht).imp fun _ _ _ hx => hx.mono hd id
  · refine h.exercises.imp fun id e he hx => hx.mono le_rfl fun hv => hv.erase fun hrun hm => ?_
    obtain ⟨p, hp⟩ := Exercise.exists_planned hv.length_eq hm
    have hex := (hv.planned hp ht).2.1
    have hreq : taskIsRequiredByRunningExerciseLocked t s = true := by
      rw [← hx.key] at he
      simp only [taskIsRequiredByRunningExerciseLocked, hex]
      rw [he]
      simpa using hrun
    rw [hreq] at hr
    cases hr

/-- A closed node goes: a live task belongs to a node with a session. -/
theorem Records.Safe.prune_node {r : Records} (h : r.Safe w hi) {n : Node}
    (hn : r.nodes.get? n.id = some n) (hc : n.sessionActive = false) :
    { r with nodes := r.nodes.erase n.id }.Safe w hi := by
  refine h.set_nodes h.nodes.erase fun id t ht hlive => ?_
  obtain ⟨m, hm, hact, hcap⟩ := h.owned id t ht hlive
  have hne : t.nodeId ≠ n.id := fun he => by
    rw [he, hn, Option.some.injEq] at hm
    rw [← hm, hc] at hact
    cases hact
  exact ⟨m, by rw [Dict.get?_erase, if_neg hne]; exact hm, hact, hcap⟩

/-- A node enrolls under an identifier that no task names. -/
theorem Safe.add_node (hs : Safe w s) (h : s.toRecords.Safe w hi)
    (hfresh : w.FreshBelow hi) (hlt : s.draws < hi) {n : Node} (hid : n.id = w.nodeId s.draws)
    (hwf : n.WellFormed w hi) :
    { s.toRecords with nodes := s.nodes.set (w.nodeId s.draws) n }.Safe w hi := by
  refine h.set_nodes (h.nodes.set ⟨hid, ⟨s.draws, hlt, rfl⟩, hwf⟩) fun id t ht hlive => ?_
  obtain ⟨m, hm, hrest⟩ := h.owned id t ht hlive
  obtain ⟨k, hk', hid⟩ := (hs.nodes _ _ hm).drawn
  have hne : t.nodeId ≠ w.nodeId s.draws := by
    rw [hid]
    exact nodeId_fresh hfresh hk' hlt
  exact ⟨m, by rw [Dict.get?_set_ne _ _ hne]; exact hm, hrest⟩

/-- A task is created under an identifier that no tombstone and no exercise names. -/
theorem Safe.add_task (hs : Safe w s) (h : s.toRecords.Safe w hi)
    (hfresh : w.FreshBelow hi) (hlt : s.draws < hi) {spec : TaskSpec} {n : Node}
    (ha : s.Admits w spec n) (now : Instant) :
    { s.toRecords with
      tasks := s.tasks.set (w.taskId s.draws) (s.newTask w spec now)
      taskSequence := s.taskSequence + 1 }.Safe w hi := by
  have hnew : ∀ {id}, (∃ k < s.draws, id = w.taskId k) → id ≠ w.taskId s.draws := by
    rintro id ⟨k, hk', rfl⟩
    exact taskId_fresh hfresh hk' hlt
  refine ⟨h.nodes, h.tasks.set ⟨rfl, ⟨s.draws, hlt, rfl⟩, newTask_wf ha.valid ha.playbook now s⟩,
    ?_, ?_, h.owned.set fun _ => ⟨n, ha.node, ha.active, ha.capable⟩⟩
  · refine h.tombstones.imp fun id x hx hst => hst.mono le_rfl fun hnone => ?_
    rw [Dict.get?_set_ne _ _ (hnew (hs.tombstones _ _ hx).drawn)]
    exact hnone
  · refine h.exercises.imp fun id e he hst => hst.mono le_rfl fun hv => hv.congr fun x hx => ?_
    rw [Dict.get?_set_ne _ _ (hnew ((hs.exercises _ _ he).drawn x hx))]

/-- Containment cancels a queued task and the exercise takes note of it. -/
theorem Safe.cancel_task (hs : Safe w s) (h : s.toRecords.Safe w hi) {e e' : Exercise}
    {t : Task} {p : Playbook} (he : s.exercises.get? e.id = some e) (hm : t.id ∈ e.taskIds)
    (ht : s.tasks.get? t.id = some t) (hq : t.status = .queued)
    (hp : t.command = .runPlaybook p) (result : Json) (time : Timestamp)
    (ho : e.Observed (t.ended .cancelled result time false) p e') :
    { s.toRecords with
      tasks := s.tasks.set t.id (t.ended .cancelled result time false)
      exercises := s.exercises.set e.id e' }.Safe w hi := by
  have hl : t.status.isTerminal = false := by rw [hq]; rfl
  have hterm : TaskStatus.cancelled.isTerminal = true := rfl
  have hset := h.set_task ht hl
    ((hs.task_wf ht).ended_by_server hterm (by decide) result time) rfl rfl rfl rfl
  have hv := hs.exercise_valid he
  have hu : t.id ∉ e.observedTaskIds := hv.unobserved_of_live ht hl
  have hcan : e.Valid (s.tasks.set t.id (t.ended .cancelled result time false)) :=
    hv.set_live ht hl rfl rfl rfl
  exact hset.set_exercise he ho.sameStart
    (hcan.observed ho hm hu (by simp [Task.ended]) rfl hp)

/-- Every change of the records keeps the invariant. -/
theorem RecordChange.safe {c : Activity} {r : Records} (hs : Safe w s)
    (h : RecordChange w s hi c r) (hd : s.draws ≤ hi) (hf : c.creates = true → w.FreshBelow hi) :
    r.Safe w hi := by
  have hs' : s.toRecords.Safe w hi := Records.Safe.mono hs hd
  cases h with
  | kept | rememberedNote | rememberedOperation =>
    exact ⟨hs'.nodes, hs'.tasks, hs'.tombstones, hs'.exercises, hs'.owned⟩
  | @touchedNode _ _ n hn =>
    have hst := hs'.nodes _ _ hn
    exact hs'.set_nodes (hs'.nodes.set ⟨rfl, hst.drawn, { hst.wf with }⟩)
      (Owned.of_nodes hs'.owned (get?_set_same _ hn rfl rfl))
  | closedNode _ hn hl _ hk => exact hs'.close_node hn hl hk
  | @endedTask _ t status hends ht result time =>
    obtain ⟨hl, hterm, hne⟩ := hends.live
    exact hs'.set_task ht hl ((hs.task_wf ht).ended_by_server hterm hne _ _) rfl rfl rfl rfl
  | @failedTask _ t status hfails ht result time =>
    obtain ⟨hl, hterm, hne⟩ := hfails.live
    have hset := hs'.set_task ht hl ((hs.task_wf ht).ended_by_server hterm hne result time)
      rfl rfl rfl rfl
    exact hset.set_nodes (chargeFailure_stored hs'.nodes _)
      (Owned.of_nodes hset.owned (chargeFailure_same hs'.nodes _))
  | @redeliveredTask t ht hdisp =>
    exact hs'.set_task ht (by rw [hdisp]; rfl) ((hs.task_wf ht).redeliver hdisp) rfl rfl rfl rfl
  | @dispatchedTask t ht hq _ now time =>
    exact hs'.set_task ht (by rw [hq]; rfl) ((hs.task_wf ht).dispatch hq now time) rfl rfl rfl rfl
  | acceptedTask hn ht _ hdisp hv time seen now =>
    exact hs.accept_task hs' hn ht hdisp hv time seen now
  | prunedTask ht _ hr => exact hs.prune_task hs' hd ht hr
  | prunedNode hn hc => exact hs'.prune_node hn hc
  | addedNode hv now hk =>
    exact hs.add_node hs' (hf rfl) (by omega) rfl (newNode_wf hv rfl now hk)
  | addedTask ha now hk => exact hs.add_task hs' (hf rfl) hk ha now
  | @addedExercise e key he hroom =>
    refine ⟨hs'.nodes, hs'.tasks, hs'.tombstones, hs'.exercises.set ⟨rfl, ?_, ?_, ?_⟩, hs'.owned⟩
    · obtain ⟨k, hk, heq⟩ := he.id_drawn
      exact ⟨k, by omega, heq⟩
    · intro id hid
      obtain ⟨k, hk, heq⟩ := he.taskIds_drawn id hid
      exact ⟨k, by omega, heq⟩
    · exact he.valid ((hf rfl).mono hd)
  | observedTask he hm hu ht hterm hp ho =>
    exact hs'.set_exercise he ho.sameStart ((hs.exercise_valid he).observed ho hm hu ht hterm hp)
  | finishedExercise he hst hc hall ho =>
    exact hs'.set_exercise he ho.sameStart ((hs.exercise_valid he).finished hst hc hall ho)
  | cancelledTask he _ hm ht hq hp result time ho =>
    exact hs.cancel_task hs' he hm ht hq hp result time ho
  | containedExercise he hst _ _ _ ho =>
    exact hs'.set_exercise he ho.sameStart ((hs.exercise_valid he).contained hst ho)
  | cleared =>
    exact ⟨Dict.all_empty, Dict.all_empty, Dict.all_empty, Dict.all_empty, Dict.all_empty⟩

/-- Every write keeps the invariant. -/
theorem Write.safe {c : Activity} (hs : Safe w s) (h : Write w s c s')
    (hf : c.creates = true → w.FreshBelow s'.draws) : Safe w s' :=
  (h.records hs).safe hs h.draws_le hf

end C2Lab
