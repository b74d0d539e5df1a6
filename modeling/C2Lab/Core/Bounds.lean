import C2Lab.Core.Counting
import C2Lab.Core.Kept
import C2Lab.Core.Notices

/-! Every table and every history stays within its limit.

    The limits are checked at different places: room in the task and exercise tables where a record
    is added, room for a node where the oldest closed one goes first, room for a key where old keys
    are evicted, and the two histories at every append. The records are bounded write by write, the
    node table over a whole enrollment. -/

namespace C2Lab

variable {w : World} {s s' : LabState} {acts : List Activity}

theorem TaskStatus.ne_queued {a : TaskStatus} (h : a.isTerminal = true) : a ≠ .queued := by
  rintro rfl
  cases h

/-- The queued tasks of a node with a property. -/
def queuedCount (tasks : Dict PyStr Task) (nodeId : PyStr) (p : Task → Bool) : ℕ :=
  tasks.values.countP fun t => t.status = .queued && t.nodeId = nodeId && p t

/-- The tables other than the nodes are within their limits. -/
structure Records.Bounded (r : Records) : Prop where
  tasks : r.tasks.size ≤ maxTasks
  queued : ∀ nodeId, queuedCount r.tasks nodeId (fun _ => true) ≤ maxQueuedTasksPerNode
  playbooks : ∀ nodeId, queuedCount r.tasks nodeId (fun t => t.command.taskType = .runPlaybook) ≤
    maxQueuedPlaybooksPerNode
  tombstones : r.taskResultTombstones.size ≤ maxTaskResultTombstones
  noteKeys : r.noteIdempotency.size ≤ maxOperatorNotesRetained
  operationKeys : r.operationIdempotency.size ≤ maxOperationIdempotencyRecords
  exercises : r.exercises.size ≤ maxExercises
  exerciseKeys : r.exerciseIdempotency.size ≤ r.exercises.size

namespace Records.Bounded

variable {r : Records}

/-- A task rewritten into one that is not queued. -/
theorem setTask (h : r.Bounded) {t : Task} (ht : r.tasks.get? t.id = some t) {t' : Task}
    (hid : t'.status ≠ .queued) : ({ r with tasks := r.tasks.set t.id t' } : Records).Bounded where
  tasks := by
    rw [Dict.size_set_of_mem _ (Dict.mem_keys_of_get? ht)]; exact h.tasks
  queued nodeId := by
    refine (Dict.countP_set_le _ _ _ _).trans ?_
    rw [if_neg (by simp [hid])]
    exact h.queued nodeId
  playbooks nodeId := by
    refine (Dict.countP_set_le _ _ _ _).trans ?_
    rw [if_neg (by simp [hid])]
    exact h.playbooks nodeId
  tombstones := h.tombstones
  noteKeys := h.noteKeys
  operationKeys := h.operationKeys
  exercises := h.exercises
  exerciseKeys := h.exerciseKeys

/-- The node table plays no part. -/
theorem setNodes (h : r.Bounded) (nodes : Dict PyStr Node) :
    ({ r with nodes := nodes } : Records).Bounded :=
  ⟨h.tasks, h.queued, h.playbooks, h.tombstones, h.noteKeys, h.operationKeys, h.exercises,
    h.exerciseKeys⟩

/-- An exercise rewritten in its place. -/
theorem setExercise (h : r.Bounded) {e e' : Exercise} (he : r.exercises.get? e.id = some e) :
    ({ r with exercises := r.exercises.set e.id e' } : Records).Bounded :=
  have hsize := Dict.size_set_of_mem e' (Dict.mem_keys_of_get? he)
  ⟨h.tasks, h.queued, h.playbooks, h.tombstones, h.noteKeys, h.operationKeys,
    hsize.symm ▸ h.exercises, hsize.symm ▸ h.exerciseKeys⟩

end Records.Bounded

/-- Evicting tombstones leaves a place. -/
theorem evictTombstones_size {full : Dict PyStr NodeTask}
    (h : full.size ≤ maxTaskResultTombstones) :
    (evictTombstones full).size + 1 ≤ maxTaskResultTombstones := by
  have hsize := Dict.size_foldl_erase (fun x hx => List.mem_of_mem_take hx)
    (full.keys_nodup.sublist (List.take_sublist (full.size + 1 - maxTaskResultTombstones) _))
  rw [List.length_take, ← Dict.size_eq_length_keys] at hsize
  have hcap : maxTaskResultTombstones = 500 := rfl
  unfold evictTombstones
  omega

theorem tombstones_size (t : Task) (h : s.taskResultTombstones.size ≤ maxTaskResultTombstones) :
    (s.rememberTaskResultTombstoneLocked t).taskResultTombstones.size ≤
      maxTaskResultTombstones := by
  unfold LabState.rememberTaskResultTombstoneLocked
  split
  · have hroom := evictTombstones_size h
    have hset := Dict.size_set_le (evictTombstones s.taskResultTombstones) t.id t.nodeTask
    simp only
    omega
  · exact h

/-- No change of the records exceeds a limit. -/
theorem bounded_kept (w : World) :
    Kept w (.reset :: Activity.lasting) fun s => s.toRecords.Bounded := by
  refine Kept.of_change (Q := fun r _ => r.Bounded) fun {s hi c r} _ hs hd hf h hQ => ?_
  cases h with
  | kept => exact hQ
  | rememberedNote hsize =>
    exact ⟨hQ.tasks, hQ.queued, hQ.playbooks, hQ.tombstones,
      hsize.trans (max_le hQ.noteKeys le_rfl), hQ.operationKeys, hQ.exercises, hQ.exerciseKeys⟩
  | rememberedOperation hk r =>
    exact ⟨hQ.tasks, hQ.queued, hQ.playbooks, hQ.tombstones, hQ.noteKeys,
      (Dict.size_set_le _ _ _).trans (hk.room (by simp)), hQ.exercises, hQ.exerciseKeys⟩
  | touchedNode | closedNode | prunedNode | addedNode => exact hQ.setNodes _
  | endedTask he ht => exact hQ.setTask ht (TaskStatus.ne_queued he.live.2.1)
  | failedTask he ht => exact (hQ.setTask ht (TaskStatus.ne_queued he.live.2.1)).setNodes _
  | redeliveredTask ht hd => exact hQ.setTask ht (by simp [hd])
  | dispatchedTask ht => exact hQ.setTask ht (by simp)
  | @acceptedTask n t status sent result hn ht =>
    refine (hQ.setTask ht ?_).setNodes _
    cases status <;> simp [Task.ended, ResultStatus.taskStatus]
  | @prunedTask t ht =>
    have hsub := Dict.values_erase_sublist s.tasks t.id
    exact ⟨(Dict.size_erase_le _ _).trans hQ.tasks,
      fun nodeId => hsub.countP_le.trans (hQ.queued nodeId),
      fun nodeId => hsub.countP_le.trans (hQ.playbooks nodeId), tombstones_size t hQ.tombstones,
      hQ.noteKeys, hQ.operationKeys, hQ.exercises, hQ.exerciseKeys⟩
  | @addedTask spec n ha now hk =>
    have hcount : ∀ p : Task → Bool, queuedCount (s.tasks.set (w.taskId s.draws)
        (s.newTask w spec now)) spec.nodeId p ≤ queuedCount s.tasks spec.nodeId p + 1 := fun p =>
      (Dict.countP_set_le _ _ _ _).trans (Nat.add_le_add_left (by split <;> simp) _)
    have hother : ∀ (p : Task → Bool) nodeId, nodeId ≠ spec.nodeId → queuedCount (s.tasks.set
        (w.taskId s.draws) (s.newTask w spec now)) nodeId p ≤ queuedCount s.tasks nodeId p := by
      intro p nodeId hne
      refine (Dict.countP_set_le _ _ _ _).trans ?_
      rw [if_neg (by simp [LabState.newTask, Ne.symm hne])]
      exact le_rfl
    refine ⟨(Dict.size_set_le _ _ _).trans ha.room, fun nodeId => ?_, fun nodeId => ?_,
      hQ.tombstones, hQ.noteKeys, hQ.operationKeys, hQ.exercises, hQ.exerciseKeys⟩
    · by_cases hnode : nodeId = spec.nodeId
      · exact hnode ▸ (hcount _).trans ha.queue_room
      · exact (hother _ _ hnode).trans (hQ.queued nodeId)
    · by_cases hnode : nodeId = spec.nodeId
      · subst hnode
        by_cases hp : spec.command.taskType = .runPlaybook
        · exact (hcount _).trans (ha.playbook_room hp)
        · refine (Dict.countP_set_le _ _ _ _).trans ?_
          rw [if_neg (by simp [LabState.newTask, hp])]
          exact hQ.playbooks spec.nodeId
      · exact (hother _ _ hnode).trans (hQ.playbooks nodeId)
  | @addedExercise e key he hk =>
    -- a new record, so the table of exercises grows with the table of their keys
    have hnew := Dict.get?_eq_none.mp (he.id_new (hf.mono hd))
    have hsize : (s.exercises.set e.id e).size = s.exercises.size + 1 := by
      rw [Dict.size_eq_length_keys, Dict.keys_set_of_not_mem e hnew, Dict.size_eq_length_keys]
      simp
    have hkeys : (s.exerciseKeys key e).size ≤ s.exerciseIdempotency.size + 1 := by
      cases key with
      | none => exact Nat.le_succ _
      | some k => exact Dict.size_set_le _ _ _
    exact ⟨hQ.tasks, hQ.queued, hQ.playbooks, hQ.tombstones, hQ.noteKeys, hQ.operationKeys,
      hsize ▸ hk.room, by rw [hsize]; exact hkeys.trans (Nat.succ_le_succ hQ.exerciseKeys)⟩
  | observedTask he => exact hQ.setExercise he
  | finishedExercise he => exact hQ.setExercise he
  | cancelledTask he hst hm ht => exact (hQ.setTask ht (by simp [Task.ended])).setExercise he
  | containedExercise he => exact hQ.setExercise he
  | cleared =>
    exact ⟨by simp [maxTasks], by simp [queuedCount], by simp [queuedCount], by simp, by simp,
      by simp, by simp, by simp⟩

/-! ### Nodes -/

/-- No part of the program but an enrollment adds a node. -/
theorem nodes_size_kept (w : World) (hacts : .enroll ∉ acts) :
    Kept w acts fun s => s.nodes.size ≤ maxNodes := by
  refine Kept.of_change (Q := fun r _ => r.nodes.size ≤ maxNodes)
      fun {s hi c r} hc hs _ _ h hQ => ?_
  have hset : ∀ {n n' : Node}, s.nodes.get? n.id = some n →
      (s.nodes.set n.id n').size ≤ maxNodes := fun hn => by
    rw [Dict.size_set_of_mem _ (Dict.mem_keys_of_get? hn)]; exact hQ
  cases h with
  | touchedNode _ hn | closedNode _ hn | acceptedTask hn => exact hset hn
  | failedTask =>
    unfold chargeFailure
    split
    · exact hQ
    · rename_i n hn
      exact hset (hs.node_key hn ▸ hn)
  | prunedNode | addedNode => exact absurd hc hacts
  | cleared => simp [maxNodes]
  | _ => exact hQ

/-- An enrollment that finds the table full removes a node first. -/
theorem NodeEnrolled.size_le {e : Enrollment} {now : Instant} {reply : EnrollResponse}
    (h : NodeEnrolled w s e now reply s') (hs : s.nodes.size ≤ maxNodes) :
    s'.nodes.size ≤ maxNodes := by
  have hadd : ∀ (n : Node) (s : LabState), (s.addNode w n).nodes.size ≤ s.nodes.size + 1 := by
    intro n s
    simp only [LabState.addNode, LabState.toRecords_auditLocked, LabState.toRecords_recordLocked,
      LabState.toRecords_setNode, LabState.toRecords_tick]
    exact Dict.size_set_le _ _ _
  cases h with
  | added hroom => exact (hadd _ _).trans hroom
  | @replaced n s₁ hfull hn hc hs₁ =>
    have herase := Dict.size_erase_of_mem (Dict.mem_keys_of_get? hn)
    have hpruned : s₁.nodes.size + 1 = s.nodes.size := by
      rw [hs₁]
      simpa [LabState.pruneNode] using herase
    exact (hadd _ _).trans (by omega)

/-- An operation other than an enrollment has no part in one. -/
theorem Ran.without_enroll {op : Op} (h : Ran w s op s')
    (hop : ∀ name version profile capabilities interval jitter now,
      op ≠ .enrollNode name version profile capabilities interval jitter now) :
    ∃ acts, .enroll ∉ acts ∧ Writes w acts s s' := by
  cases h with
  | plain h =>
    refine ⟨op.activities, fun hmem => ?_, h⟩
    cases op <;> simp [Op.activities] at hmem
    exact hop _ _ _ _ _ _ _ rfl
  | delivered h hd =>
    refine ⟨[.expiry, .refresh, .poll, .dispatch], by simp, ?_⟩
    exact ((h.mono (by simp)).write hd (by simp)).write (.tick .poll) (by simp)
  | accepted h hr hw =>
    refine ⟨[.expiry, .refresh, .result], by simp, ?_⟩
    exact ((h.mono (by simp)).write hr (by simp)).trans (hw.mono (by simp))

theorem step_nodes_size (hs : Sound w s) {op : Op} (hf : w.FreshBelow (step w s op).draws)
    (h : s.nodes.size ≤ maxNodes) : (step w s op).nodes.size ≤ maxNodes := by
  have hran := (step_ends hs.safe hs.settled op).ran
  cases op with
  | enrollNode name version profile capabilities interval jitter now =>
    have hwp := enrollNode_wp hs.safe name version profile capabilities interval jitter now
    refine Prog.wp_final (R := fun m : LabState => m.nodes.size ≤ maxNodes) |>.mp ?_
    rw [Op.run, Prog.wp_map]
    refine Prog.wp_mono hwp ?_ fun _ _ heq => heq ▸ h
    rintro _ m ⟨e, -, henrolled⟩
    exact henrolled.size_le h
  | _ =>
    obtain ⟨acts, hacts, hw⟩ := hran.without_enroll (by simp)
    exact (nodes_size_kept w hacts).writes hw hs.safe hf h

/-! ### The histories -/

/-- The events that are operator notes. -/
def Event.isNote (e : Event) : Bool := e.kind = .operatorNote

/-- Both histories are within their limits. -/
structure Journal.Bounded (j : Journal) : Prop where
  events : j.events.length ≤ maxEvents
  auditEntries : j.auditEntries.length ≤ maxAuditEntries

theorem Journal.Told.bounded {j j' : Journal} {l : List Notice} (h : j.Told w l j')
    (hj : j.Bounded) : j'.Bounded := by
  induction h with
  | refl => exact hj
  | tick _ ih | refuse _ ih => exact ⟨ih.events, ih.auditEntries⟩
  | clear _ ih => exact ⟨Nat.zero_le _, ih.auditEntries⟩
  | record _ d ih =>
    refine ⟨?_, ?_⟩
    · rw [Journal.events_recordLocked]; exact Window.push_length_le _ _ _
    · rw [Journal.auditEntries_recordLocked]; exact ih.auditEntries
  | audit _ d ih =>
    refine ⟨?_, ?_⟩
    · rw [Journal.events_auditLocked]; exact ih.events
    · rw [Journal.auditEntries_auditLocked]; exact Window.push_length_le _ _ _

/-- An event that is an operator note. -/
def Notice.isNote : Notice → Bool
  | event d => d.kind = .operatorNote
  | audit _ => false

/-- The notes retained are some of those before and those told. -/
theorem Journal.Told.notes {j j' : Journal} {l : List Notice} (h : j.Told w l j') :
    j'.events.countP (·.isNote) ≤ j.events.countP (·.isNote) + l.countP (·.isNote) := by
  induction h with
  | refl => exact Nat.le_add_right _ _
  | tick _ ih | refuse _ ih => exact ih
  | clear _ ih => exact Nat.zero_le _
  | @record l j' _ d ih =>
    have hpush : (Window.push maxEvents j'.events (j'.event w d)).countP (·.isNote) ≤
        (j'.events ++ [j'.event w d]).countP (·.isNote) := (List.drop_sublist _ _).countP_le
    have hsame : ([j'.event w d] : List Event).countP (·.isNote) =
        ([.event d] : List Notice).countP (·.isNote) := by
      simp [Event.isNote, Journal.event, Notice.isNote]
    rw [Journal.events_recordLocked, List.countP_append]
    rw [List.countP_append] at hpush
    omega
  | audit _ d ih =>
    rw [Journal.events_auditLocked, List.countP_append]
    omega

/-- The notes of a state are counted in its event feed. -/
theorem LabState.retainedNotes_eq (s : LabState) :
    s.retainedNotes = s.events.countP (·.isNote) := rfl

/-- No write exceeds the limits of the histories, nor that of the notes. -/
theorem histories_kept (w : World) : Kept w (.reset :: Activity.lasting) fun s =>
    s.toJournal.Bounded ∧ s.retainedNotes ≤ maxOperatorNotesRetained := by
  refine ⟨fun {s s' c} _ hs hf hw ⟨hj, hnotes⟩ => ?_⟩
  obtain ⟨l, htells⟩ := hw.tells hs fun _ => hf
  refine ⟨htells.told.bounded hj, ?_⟩
  by_cases hc : c = .note
  · subst hc
    cases hw with
    | tick => exact hnotes
    | announceNote hroom actor message =>
      have htold : s.toJournal.Told w _ (s.announceNote w actor message).toJournal :=
        (Journal.Told.refl.record _).audit _
      exact htold.notes.trans hroom
    | rememberNote => exact hnotes
    | failTask hc => rcases hc with hc | hc <;> cases hc
  · have hnone : l.countP (·.isNote) = 0 := by
      refine List.countP_eq_zero.mpr fun x hx hnote => hc (htells.note x hx ?_)
      cases x with
      | event d => exact of_decide_eq_true hnote
      | audit d => cases hnote
    have hle := htells.told.notes
    rw [hnone] at hle
    exact hle.trans hnotes

/-! ### Every reachable state -/

/-- All documented limits. -/
structure LabState.Bounded (s : LabState) : Prop where
  nodes : s.nodes.size ≤ maxNodes
  records : s.toRecords.Bounded
  histories : s.toJournal.Bounded
  notes : s.retainedNotes ≤ maxOperatorNotesRetained

theorem Later.nodes_size {stream : String} (h : Later w (.init stream) s) :
    s.nodes.size ≤ maxNodes := by
  induction h with
  | refl => exact Nat.zero_le _
  | tail hbefore hn ih =>
    obtain ⟨op, rfl, hf⟩ := hn
    exact step_nodes_size (Later.sound hbefore (sound_init stream)) hf ih

theorem Reachable.recordsBounded (hr : Reachable w s) : s.toRecords.Bounded :=
  (bounded_kept w).reachable (fun _ => ⟨Nat.zero_le _, fun _ => Nat.zero_le _,
    fun _ => Nat.zero_le _, Nat.zero_le _, Nat.zero_le _, Nat.zero_le _, Nat.zero_le _, le_rfl⟩) hr

/-- In every reachable state every table and every history is within its limit. -/
theorem resource_bounds (hr : Reachable w s) : s.Bounded where
  nodes := by
    obtain ⟨stream, hl⟩ := hr
    exact hl.nodes_size
  records := hr.recordsBounded
  histories := ((histories_kept w).reachable (fun _ =>
    ⟨⟨Nat.zero_le _, Nat.zero_le _⟩, Nat.zero_le _⟩) hr).1
  notes := ((histories_kept w).reachable (fun _ =>
    ⟨⟨Nat.zero_le _, Nat.zero_le _⟩, Nat.zero_le _⟩) hr).2

namespace Counting

/-- A Node with an exercise, an operation and a note under keys, and a task of the first delivered;
    the operation takes the last place a Node has for playbooks. -/
def busy : List Op :=
  [enrollPurple,
    .startExercise nodeId (Vocabulary.toJson ScenarioId.discoveryCollection) (.str "operator")
      (.str "exercise-key-1") 10,
    .queueOperation nodeId (steps [.createCanary]) none (.str "operation-key-1")
      (.str "operator") 10,
    .postOperatorNote (.str "note") (.str "operator") (.str "note-key-1"), poll 11]

end Counting

theorem resource_bounds_busy :
    let s := exec .counting (.init "stream") Counting.busy
    s.tasks.size = 3 ∧ s.exercises.size = 1 ∧ s.exerciseIdempotency.size = 1 ∧
      s.operationIdempotency.size = 1 ∧ s.noteIdempotency.size = 1 ∧ s.Bounded := by
  intro s
  exact ⟨by decide +kernel, by decide +kernel, by decide +kernel, by decide +kernel,
    by decide +kernel, resource_bounds (World.counting_reachable "stream" _ (by decide +kernel))⟩

end C2Lab
