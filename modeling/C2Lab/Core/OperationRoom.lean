import Mathlib.Data.List.Perm.Subperm
import C2Lab.Core.Bounds
import C2Lab.Core.Delivery
import C2Lab.Core.OperationKeys
import C2Lab.Core.Retention
import C2Lab.Lib.Count

/-! There is always room for an operation key.

    A record that may not be evicted has a live task, which is a playbook; no task is in two
    records; and a Node, of which there are few, has few live playbooks, as its queue is short and
    it works on one task at a time. So most of the records may always go. -/

namespace C2Lab

variable {w : World} {s s' : LabState} {hi : ℕ}

/-! ### The tasks of the records -/

/-- What is known of the tasks recorded under operation keys. -/
structure LabState.OperationTasks (w : World) (s : LabState) : Prop where
  drawn : ∀ k r, s.operationIdempotency.get? k = some r →
    ∀ id ∈ r.taskIds, w.TaskDrawn s.draws id
  playbook : ∀ k r, s.operationIdempotency.get? k = some r → ∀ id ∈ r.taskIds,
    ∀ t, s.tasks.get? id = some t → t.command.taskType = .runPlaybook
  disjoint : ∀ k k' r r', s.operationIdempotency.get? k = some r →
    s.operationIdempotency.get? k' = some r' → k ≠ k' → ∀ id ∈ r.taskIds, id ∉ r'.taskIds

namespace LabState.OperationTasks

/-- Some of the records, the tasks having moved on. -/
theorem step_get? (h : s.OperationTasks w) (hs : Sound w s) (hn : Next w s s') {k : PyStr}
    {r : OperationRecord} (hr : s.operationIdempotency.get? k = some r) {id : PyStr}
    (hid : id ∈ r.taskIds) : w.TaskDrawn s'.draws id ∧
      ∀ t, s'.tasks.get? id = some t → t.command.taskType = .runPlaybook := by
  have hdrawn := h.drawn k r hr id hid
  refine ⟨?_, fun t ht => ?_⟩
  · obtain ⟨i, hi, rfl⟩ := hdrawn
    exact ⟨i, hi.trans_le (hn.draws_le hs), rfl⟩
  · obtain ⟨t₀, ht₀, hstep⟩ := hn.task hs hdrawn ht
    have hcmd : t.command = t₀.command := congrArg (·.command) hstep.request_eq
    rw [hcmd]
    exact h.playbook k r hr id hid t₀ ht₀

theorem step (h : s.OperationTasks w) (hs : Sound w s) {op : Op}
    (hf : w.FreshBelow (C2Lab.step w s op).draws) : (C2Lab.step w s op).OperationTasks w := by
  have hn : Next w s (C2Lab.step w s op) := ⟨op, rfl, hf⟩
  cases step_operationKeyed hs op hf with
  | same heq =>
    refine ⟨fun k r hr id hid => ?_, fun k r hr id hid => ?_, fun k k' r r' hr hr' => ?_⟩
    · exact (h.step_get? hs hn (heq ▸ hr) hid).1
    · exact (h.step_get? hs hn (heq ▸ hr) hid).2
    · exact h.disjoint k k' r r' (heq ▸ hr) (heq ▸ hr')
  | cleared _ heq =>
    refine ⟨fun k r hr => ?_, fun k r hr => ?_, fun k k' r r' hr => ?_⟩ <;>
      rw [heq] at hr <;> cases hr
  | @added k₀ evicted r₀ heq hkey hev hnew hplaybook =>
    -- a record found now is the new one, or was found before
    have hcases : ∀ {k r}, (C2Lab.step w s op).operationIdempotency.get? k = some r →
        k = k₀ ∧ r = r₀ ∨ k ≠ k₀ ∧ s.operationIdempotency.get? k = some r := by
      intro k r hr
      rw [heq, Dict.get?_set] at hr
      split at hr
      · rename_i hk
        exact .inl ⟨hk, (Option.some.inj hr).symm⟩
      · rename_i hk
        rw [LabState.keysKept, Dict.get?_foldl_erase] at hr
        split at hr
        · cases hr
        · exact .inr ⟨hk, hr⟩
    have hfresh : ∀ {k r}, s.operationIdempotency.get? k = some r → ∀ id ∈ r.taskIds,
        id ∉ r₀.taskIds := by
      intro k r hr id hid hid'
      obtain ⟨i, hi, rfl⟩ := h.drawn k r hr id hid
      obtain ⟨j, hj, hj', heq⟩ := hnew _ hid'
      have := hf.ident_inj (by decide) (hi.trans (hj.trans_lt hj')) hj' heq
      omega
    refine ⟨fun k r hr id hid => ?_, fun k r hr id hid => ?_, fun k k' r r' hr hr' hne id hid => ?_⟩
    · rcases hcases hr with ⟨-, rfl⟩ | ⟨-, hr⟩
      · obtain ⟨i, -, hi, rfl⟩ := hnew id hid
        exact ⟨i, hi, rfl⟩
      · exact (h.step_get? hs hn hr hid).1
    · rcases hcases hr with ⟨-, rfl⟩ | ⟨-, hr⟩
      · exact hplaybook id hid
      · exact (h.step_get? hs hn hr hid).2
    · rcases hcases hr with ⟨rfl, rfl⟩ | ⟨-, hr⟩ <;> rcases hcases hr' with ⟨rfl, rfl⟩ | ⟨-, hr'⟩
      · exact absurd rfl hne
      · exact fun hid' => hfresh hr' id hid' hid
      · exact hfresh hr id hid
      · exact h.disjoint k k' r r' hr hr' hne id hid

end LabState.OperationTasks

theorem Reachable.operationTasks (hr : Reachable w s) : s.OperationTasks w := by
  obtain ⟨stream, hl⟩ := hr
  induction hl with
  | refl => exact ⟨fun k r hr => (by cases hr), fun k r hr => (by cases hr), fun k k' r r' hr =>
      (by cases hr)⟩
  | tail hbefore hn ih =>
    obtain ⟨op, rfl, hf⟩ := hn
    exact ih.step (Later.sound hbefore (sound_init stream)) hf

/-! ### Live playbooks -/

/-- A playbook that is queued or dispatched. -/
def Task.livePlaybook (t : Task) : Bool :=
  !t.status.isTerminal && t.command.taskType = .runPlaybook

theorem Reachable.serial (hr : Reachable w s) : Serial s.toRecords :=
  (serial_kept w).reachable (fun _ id id' t t' ht => by cases ht) hr

/-- A Node has at most one live playbook more than may wait in its queue. -/
theorem Reachable.livePlaybooks_node (hr : Reachable w s) (nodeId : PyStr) :
    s.tasks.values.countP (fun t => t.livePlaybook && t.nodeId = nodeId) ≤
      maxQueuedPlaybooksPerNode + 1 := by
  have hs := hr.sound.safe
  have hids : (s.tasks.values.map (·.id)).Nodup := by
    rw [Dict.map_values_eq_keys fun id t ht => hs.task_key ht]
    exact s.tasks.keys_nodup
  have hsplit := Count.countP_le_add (l := s.tasks.values)
    (p := fun t => t.livePlaybook && t.nodeId = nodeId)
    (q := fun t => t.status = .queued && t.nodeId = nodeId && t.command.taskType = .runPlaybook)
    (r := fun t => t.status = .dispatched && t.nodeId = nodeId) fun t _ ht => by
      simp only [Task.livePlaybook, Bool.and_eq_true, Bool.not_eq_true', decide_eq_true_eq] at ht ⊢
      obtain ⟨⟨hlive, hcmd⟩, hnode⟩ := ht
      cases hst : t.status <;> simp [hst, TaskStatus.isTerminal] at hlive ⊢
      · exact ⟨hnode, hcmd⟩
      · exact hnode
  have hqueued := hr.bounded.playbooks nodeId
  have hone : s.tasks.values.countP (fun t => t.status = .dispatched && t.nodeId = nodeId) ≤ 1 := by
    refine Count.countP_le_one hids fun t ht u hu hpt hpu => ?_
    obtain ⟨id, hid⟩ := Dict.mem_values.mp ht
    obtain ⟨id', hid'⟩ := Dict.mem_values.mp hu
    simp only [Bool.and_eq_true, decide_eq_true_eq] at hpt hpu
    have heq := hr.serial id id' t u hid hid' hpt.1 hpu.1 (hpt.2.trans hpu.2.symm)
    rw [hs.task_key hid, hs.task_key hid', heq]
  exact hsplit.trans (Nat.add_le_add hqueued hone)

/-- There are few live playbooks, as there are few Nodes. -/
theorem Reachable.livePlaybooks (hr : Reachable w s) :
    s.tasks.values.countP (·.livePlaybook) ≤ maxNodes * (maxQueuedPlaybooksPerNode + 1) := by
  have hs := hr.sound.safe
  have hnodes : s.nodes.keys.length ≤ maxNodes := by
    obtain ⟨stream, hl⟩ := hr
    rw [← Dict.size_eq_length_keys]
    exact hl.nodes_size
  refine (Count.countP_le_mul (·.nodeId) s.nodes.keys (fun t ht hlive => ?_)
    fun nodeId _ => hr.livePlaybooks_node nodeId).trans (Nat.mul_le_mul_right _ hnodes)
  obtain ⟨id, hid⟩ := Dict.mem_values.mp ht
  simp only [Task.livePlaybook, Bool.and_eq_true, Bool.not_eq_true'] at hlive
  obtain ⟨n, hn, -⟩ := hs.owned id t hid hlive.1
  exact Dict.mem_keys_of_get? hn

/-! ### Records that may not go -/

/-- The records that may not be evicted. -/
def LabState.unevictable (s : LabState) : List (PyStr × OperationRecord) :=
  s.operationIdempotency.entries.filter fun p =>
    !operationIdempotencyRecordIsEvictableLocked p.2 s

/-- Each of them has a live playbook of its own. -/
theorem Reachable.unevictable_length (hr : Reachable w s) :
    s.unevictable.length ≤ maxNodes * (maxQueuedPlaybooksPerNode + 1) := by
  have hs := hr.sound.safe
  have htasks := hr.operationTasks
  have hlive : ∀ p ∈ s.unevictable, ∃ id ∈ p.2.taskIds,
      id ∈ (s.tasks.values.filter (·.livePlaybook)).map (·.id) := by
    intro p hp
    obtain ⟨hmem, hun⟩ := List.mem_filter.mp hp
    rw [Bool.not_eq_true'] at hun
    obtain ⟨id, hid, t, ht, hterm⟩ := not_evictable_iff.mp hun
    have hcmd := htasks.playbook p.1 p.2 (Dict.get?_eq_some.mpr hmem) id hid t ht
    exact ⟨id, hid, List.mem_map.mpr ⟨t, List.mem_filter.mpr ⟨Dict.mem_values.mpr ⟨id, ht⟩,
      by simp [Task.livePlaybook, hterm, hcmd]⟩, hs.task_key ht⟩⟩
  have : Nonempty PyStr := ⟨""⟩
  choose! f hf hmem using hlive
  -- no task is in two records, so the tasks chosen are different
  have hnodup : (s.unevictable.map f).Nodup := by
    have hkeys := (List.pairwise_map.mp s.operationIdempotency.nodup).sublist
      (List.filter_sublist (p := fun p => !operationIdempotencyRecordIsEvictableLocked p.2 s))
    refine List.pairwise_map.mpr (hkeys.imp_of_mem fun {p q} hp hq hne heq => ?_)
    exact htasks.disjoint p.1 q.1 p.2 q.2 (Dict.get?_eq_some.mpr (List.mem_filter.mp hp).1)
      (Dict.get?_eq_some.mpr (List.mem_filter.mp hq).1) hne _ (hf p hp) (heq ▸ hf q hq)
  have hsub := hnodup.subperm fun id hid => by
    obtain ⟨p, hp, rfl⟩ := List.mem_map.mp hid
    exact hmem p hp
  have hlen := hsub.length_le
  rw [List.length_map, List.length_map, ← List.countP_eq_length_filter] at hlen
  exact hlen.trans hr.livePlaybooks

/-- Enough records may always go. -/
theorem Reachable.operationEvictionKeys (hr : Reachable w s) (key : Option PyStr) :
    ∃ evicted, C2Lab.operationEvictionKeys key s = .ok evicted s := by
  have hcount : s.unevictable.length + (s.operationIdempotency.entries.filter fun p =>
      operationIdempotencyRecordIsEvictableLocked p.2 s).length = s.operationIdempotency.size := by
    have hsplit := List.length_eq_length_filter_add (l := s.operationIdempotency.entries)
      fun p => operationIdempotencyRecordIsEvictableLocked p.2 s
    rw [Dict.size, hsplit, LabState.unevictable, Nat.add_comm]
  have hsize := hr.bounded.operationKeys
  have hun := hr.unevictable_length
  have hcap : maxNodes * (maxQueuedPlaybooksPerNode + 1) + 1 ≤ maxOperationIdempotencyRecords := by
    decide
  unfold C2Lab.operationEvictionKeys
  simp only [bind, EStateM.bind, Prog.get_apply]
  cases key with
  | none => exact ⟨_, rfl⟩
  | some k =>
    simp only
    split
    · exact ⟨_, rfl⟩
    · rw [if_neg]
      · exact ⟨_, rfl⟩
      · rw [List.length_take, List.length_map]
        omega

/-! ### What the operation raises -/

/-- The code of a `LabError`. -/
def Exc.code : Exc → Option String
  | .lab e => some e.code
  | _ => none

/-- What `validate_task_payload` raises about a playbook. -/
theorem validatePlaybook_error {py : Interp} {fields : List (PyStr × Json)} {e : Exc}
    (h : validateTaskPayload py (.str "RUN_PLAYBOOK") (.obj fields) = .error e) :
    (∃ message, e = .protocol message) ∨ e.isPython = true := by
  have htype : (Vocabulary.parse (.str "RUN_PLAYBOOK") : Option TaskType) = some .runPlaybook := by
    decide
  simp only [validateTaskPayload, htype, validateFields, bind_eq_error] at h
  rcases h with h | ⟨_, -, h | ⟨_, -, h | ⟨_, -, h⟩⟩⟩
  · unfold exactKeys at h
    split at h <;> cases h
    exact .inl ⟨_, rfl⟩
  · unfold item at h
    split at h <;> cases h
    exact .inr rfl
  · unfold oneOf at h
    split at h <;> cases h
    exact .inl ⟨_, rfl⟩
  · cases h

/-- A step that is no playbook is an invalid request. -/
theorem validateOperationStep_code {py : Interp} {index : ℕ} {step : Json} {e : Exc}
    (h : validateOperationStep py index step = .error e) :
    e.code = some "invalid_request" ∨ e.isPython = true := by
  unfold validateOperationStep at h
  split at h
  · simp only [bind_eq_error, ensure_error] at h
    rcases h with ⟨-, rfl⟩ | ⟨_, -, h | ⟨c, -, h⟩⟩
    · exact .inl rfl
    · cases hp : validateTaskPayload py (.str "RUN_PLAYBOOK") (.obj _) with
      | ok c => rw [hp] at h; cases h
      | error e' =>
        rw [hp] at h
        rcases validatePlaybook_error hp with ⟨message, rfl⟩ | hpy
        · cases h; exact .inl rfl
        · cases e' <;> cases hpy
          cases h
          exact .inr rfl
    · split at h <;> cases h
      exact .inr rfl
  · cases h; exact .inl rfl

theorem validateStepsFrom_code {py : Interp} {index : ℕ} {steps : List Json} {e : Exc}
    (h : validateStepsFrom py index steps = .error e) :
    e.code = some "invalid_request" ∨ e.isPython = true := by
  induction steps generalizing index with
  | nil => cases h
  | cons step steps ih =>
    rw [validateStepsFrom, bind_eq_error] at h
    rcases h with h | ⟨p, -, h⟩
    · exact validateOperationStep_code h
    · rw [bind_eq_error] at h
      rcases h with h | ⟨ps, -, h⟩
      · exact ih h
      · cases h

/-- The checks of `queue_operation` on its arguments. -/
theorem validateOperationRequest_code {py : Interp} {nodeId steps key actor : Json}
    {ttl : Option Json} {e : Exc}
    (h : validateOperationRequest py nodeId steps ttl key actor = .error e) :
    e.code = some "invalid_request" ∨ e.isPython = true := by
  simp only [validateOperationRequest, bind_eq_error] at h
  rcases h with h | ⟨_, -, h | ⟨_, -, h | ⟨_, -, h | ⟨_, -, h | ⟨_, -, h⟩⟩⟩⟩⟩
  · unfold requireStr at h
    split at h <;> cases h
    exact .inl rfl
  · unfold validateOperationSteps at h
    split at h
    · split at h
      · exact validateStepsFrom_code h
      · cases h; exact .inl rfl
    · cases h; exact .inl rfl
  · unfold validateQueueTtl at h
    split at h
    · cases h
    · split at h <;> cases h
      exact .inl rfl
    · cases h; exact .inl rfl
  · unfold validateIdempotencyKey at h
    split at h
    · cases h
    · split at h
      · split at h <;> cases h
        exact .inl rfl
      · cases h; exact .inl rfl
    · cases h; exact .inl rfl
  · unfold validateOperatorActor at h
    split at h
    · split at h
      · split at h <;> cases h
        exact .inl rfl
      · cases h; exact .inl rfl
    · cases h; exact .inl rfl
  · cases h

/-- Creating the tasks raises nothing. -/
theorem createOperationTasks_ok (nodeId actor operationId : PyStr) (ttl : ℤ) (now : Instant)
    (step : ℕ) (ps : List Playbook) (s : LabState) :
    Prog.wp (createOperationTasks w nodeId actor operationId ttl now step ps) (fun _ _ => True)
      (fun _ _ => False) s := by
  induction ps generalizing step s with
  | nil => exact trivial
  | cons p ps ih =>
    simp only [createOperationTasks, Prog.wp_bind, Prog.wp_get, Prog.wp_modify]
    exact ih (step + 1) _

/-- Making room for tasks has its own code. -/
theorem makeTaskSlots_code (count : ℕ) (s : LabState) :
    Prog.wp (makeTaskSlotsLocked w count) (fun _ _ => True)
      (fun e _ => e.code ≠ some "operation_idempotency_limit") s := by
  unfold makeTaskSlotsLocked
  simp only [Prog.wp_bind, Prog.wp_get, Prog.wp_ite, Prog.wp_pure, Prog.wp_throw, Prog.wp_modify]
  simp [Exc.code, labError]

/-- The node checks have their own codes. -/
theorem requireTaskableNode_code (nodeId : PyStr) (s : LabState) :
    Prog.wp (requireTaskableNode nodeId true) (fun _ s' => s' = s)
      (fun e _ => e.code ≠ some "operation_idempotency_limit") s := by
  unfold requireTaskableNode
  simp only [Prog.wp_bind, Prog.wp_get]
  cases s.nodes.get? nodeId with
  | none => simp [Exc.code, labError]
  | some n => simp [Prog.wp_require, Exc.code, labError]

/-- Whatever `queue_operation` raises, it is not for want of room for its key. -/
theorem queueOperation_code (hr : Reachable w s) (nodeId steps : Json) (ttl : Option Json)
    (key actor : Json) (now : Instant) :
    Prog.wp (queueOperation w nodeId steps ttl key actor now) (fun _ _ => True)
      (fun e _ => e.code ≠ some "operation_idempotency_limit") s := by
  unfold queueOperation
  simp only [Prog.wp_bind, wp_check, Prog.wp_get]
  refine ⟨fun r _ => ?_, fun e he => ?_⟩
  · cases r.idempotencyKey.bind s.operationIdempotency.get? with
    | some previous =>
      simp only [Prog.wp_ite, Prog.wp_pure, Prog.wp_throw]
      exact ⟨fun _ => trivial, fun _ => by simp [Exc.code, labError]⟩
    | none =>
      rw [Prog.wp_bind]
      refine Prog.wp_imp (requireTaskableNode_code r.nodeId s) ?_
      rintro n _ rfl
      rw [Prog.wp_bind]
      refine Prog.wp_require.mpr ⟨fun _ => ?_, fun _ => by simp [Exc.code, labError]⟩
      simp only [requireQueueRoom, Prog.wp_bind, Prog.wp_get]
      refine Prog.wp_require.mpr ⟨fun _ => ?_, fun _ => by simp [Exc.code, labError]⟩
      refine Prog.wp_require.mpr ⟨fun _ => ?_, fun _ => by simp [Exc.code, labError]⟩
      obtain ⟨evicted, hevicted⟩ := hr.operationEvictionKeys r.idempotencyKey
      rw [Prog.wp_bind]
      refine Prog.wp_of_ok hevicted ?_
      rw [Prog.wp_bind]
      refine Prog.wp_imp (makeTaskSlots_code r.steps.length _) fun _ t _ => ?_
      simp only [createOperation, Prog.wp_bind, Prog.wp_get, Prog.wp_modify]
      exact Prog.wp_mono (createOperationTasks_ok _ _ _ _ _ _ _ _) (fun _ _ _ => trivial)
        fun _ _ h => h.elim
  · rcases validateOperationRequest_code he with h | h
    · rw [h]; decide
    · cases e <;> cases h
      simp [Exc.code]

/-- Operation keys never run out. In every reachable state there are no more records that may not be
    evicted than live playbooks the Nodes can have; no task is in two records; so there are always
    enough records to evict, and `queue_operation` never refuses for want of room for a key. -/
theorem operation_key_room (hr : Reachable w s) :
    s.unevictable.length ≤ maxNodes * (maxQueuedPlaybooksPerNode + 1) ∧
    (∀ k k' r r', s.operationIdempotency.get? k = some r →
      s.operationIdempotency.get? k' = some r' → k ≠ k' → ∀ id ∈ r.taskIds, id ∉ r'.taskIds) ∧
    (∀ key, ∃ evicted, operationEvictionKeys key s = .ok evicted s) ∧
    ∀ nodeId steps ttl key actor now e s',
      queueOperation w nodeId steps ttl key actor now s = .error e s' →
        e.code ≠ some "operation_idempotency_limit" := by
  refine ⟨hr.unevictable_length, hr.operationTasks.disjoint, hr.operationEvictionKeys, ?_⟩
  intro nodeId steps ttl key actor now e s' hrun
  have hwp := queueOperation_code hr nodeId steps ttl key actor now
  rw [Prog.wp, hrun] at hwp
  exact hwp

/-- After one operation was queued under a key, that record may not be evicted. -/
theorem operation_key_room_queued :
    let s := exec .counting (.init "stream") [Counting.enrollPurple,
      .queueOperation Counting.nodeId (Counting.steps [.createCanary]) none (.str "retry-key-1")
        (.str "operator") 10]
    s.unevictable.length = 1 ∧ 1 ≤ maxNodes * (maxQueuedPlaybooksPerNode + 1) := by
  intro s
  have hlen : s.unevictable.length = 1 := by decide +kernel
  have hr : Reachable .counting s := World.counting_reachable "stream" _ (by decide +kernel)
  exact ⟨hlen, hlen ▸ (operation_key_room hr).1⟩

end C2Lab
