import C2Lab.Core.RefreshRun

/-! The expiry pass never fails and is a sequence of writes that leaves every exercise settled. -/

namespace C2Lab

variable {w : World} {s s' s₀ : LabState} {acts : List Activity}

/-! ### Closing the work of a session -/

/-- A node record that lost nothing but a failure count. -/
def SameSession (nodeId : PyStr) (n : Node) (s : LabState) : Prop :=
  ∃ m, s.nodes.get? nodeId = some m ∧ m.status = n.status ∧ m.sessionActive = n.sessionActive

/-- The work of the node among the given tasks has ended. -/
def WorkEnded (nodeId : PyStr) (ids : List PyStr) (s : LabState) : Prop :=
  ∀ id ∈ ids, ∀ t, s.tasks.get? id = some t → t.nodeId = nodeId → t.status.isTerminal = true

theorem failUnfinishedTasks_wp {c : Activity} (hc : c = .expiry ∨ c = .disconnect)
    (hca : c ∈ acts) (hr : .refresh ∈ acts) {nodeId : PyStr} {n : Node}
    (hn : s.nodes.get? nodeId = some n) (h : Came w acts s₀ s) (reason message : String) :
    Prog.wp (failUnfinishedTasksLocked w nodeId reason message) (fun _ s' =>
      Came w acts s₀ s' ∧ SameSession nodeId n s' ∧ s'.NoLiveTask nodeId ∧ s'.Settled)
      (fun _ _ => False) s := by
  unfold failUnfinishedTasksLocked
  simp only [Prog.wp_bind, Prog.wp_get]
  have hcreate : c.creates = false := by rcases hc with rfl | rfl <;> rfl
  have hloop : Prog.wp (forM s.tasks.keys (failUnfinishedTask w nodeId reason message))
      (fun _ s' => Came w acts s₀ s' ∧ SameSession nodeId n s' ∧
        (∀ id t, s'.tasks.get? id = some t → id ∈ s.tasks.keys) ∧
        WorkEnded nodeId s.tasks.keys s') (fun _ _ => False) s := by
    refine Prog.wp_forM_prefix (I := fun done s' => Came w acts s₀ s' ∧ SameSession nodeId n s' ∧
      (∀ id t, s'.tasks.get? id = some t → id ∈ s.tasks.keys) ∧ WorkEnded nodeId done s') ?_
      ⟨h, ⟨n, hn, rfl, rfl⟩, fun _ _ => Dict.mem_keys_of_get?, by simp [WorkEnded]⟩
    rintro done x rest - s₁ ⟨hcame, hsame, hkeys, hended⟩
    obtain ⟨m, hm, hst, hact⟩ := hsame
    unfold failUnfinishedTask
    simp only [Prog.wp_modify, hm]
    have hskip : (∀ t, s₁.tasks.get? x = some t → t.nodeId = nodeId →
        t.status.isTerminal = true) → WorkEnded nodeId (done ++ [x]) s₁ := by
      intro hx y hy t ht hnode
      rcases List.mem_append.mp hy with hy | hy
      · exact hended y hy t ht hnode
      · rw [List.mem_singleton.mp hy] at ht; exact hx t ht hnode
    cases ht : s₁.tasks.get? x with
    | none => exact ⟨hcame, ⟨m, hm, hst, hact⟩, hkeys, hskip (by simp [ht])⟩
    | some t =>
      simp only
      by_cases hlive : t.nodeId = nodeId ∧ (t.status = .queued ∨ t.status = .dispatched)
      · rw [if_pos hlive]
        have hid := hcame.safe.task_key ht
        have hmid := hcame.safe.node_key hm
        have hl : t.status.isTerminal = false := by
          rcases hlive.2 with h | h <;> rw [h] <;> rfl
        have hw : Write w s₁ c (s₁.failTask w m t reason message) :=
          .failTask hc (hmid ▸ hm) (hid ▸ ht) (hlive.1.trans hmid.symm) hl reason message
        have hrec : (s₁.failTask w m t reason message).toRecords = { s₁.toRecords with
            tasks := s₁.tasks.set t.id { t with
              status := .failed, result := some (errorResult message)
              completedAt := some (w.utcNow s₁.draws), deadline := none, queueDeadline := none }
            nodes := s₁.nodes.set m.id { m with tasksFailed := m.tasksFailed + 1 } } := by
          simp [LabState.failTask]
        refine ⟨hcame.write hw hca hcreate, ?_, ?_, ?_⟩
        · rw [SameSession, hrec]
          exact ⟨{ m with tasksFailed := m.tasksFailed + 1 }, by
            rw [← hmid, Dict.get?_set_self], hst, hact⟩
        · intro y t' ht'
          rw [hrec, Dict.get?_set] at ht'
          split at ht'
          · rename_i heq
            rw [heq, hid]; exact hkeys x t ht
          · exact hkeys y t' ht'
        · intro y hy t' ht' hnode
          rw [hrec, Dict.get?_set] at ht'
          split at ht'
          · cases ht'; rfl
          · rename_i hne
            rcases List.mem_append.mp hy with hy | hy
            · exact hended y hy t' ht' hnode
            · exact absurd ((List.mem_singleton.mp hy).trans hid.symm) hne
      · rw [if_neg hlive]
        refine ⟨hcame, ⟨m, hm, hst, hact⟩, hkeys, hskip fun t' ht' hnode => ?_⟩
        rw [ht] at ht'
        cases ht'
        cases hs : t.status <;> first | rfl | exact absurd ⟨hnode, by simp [hs]⟩ hlive
  refine Prog.wp_imp hloop ?_
  rintro _ s₁ ⟨hcame, ⟨m, hm, hst, hact⟩, hkeys, hended⟩
  refine Prog.wp_imp (refreshExercisesLocked_wp hcame hr) ?_
  rintro _ s₂ ⟨hcame', href⟩
  refine ⟨hcame', ⟨m, by rw [href.records]; exact hm, hst, hact⟩, ?_, href.settled⟩
  intro id t ht hnode
  rw [href.records] at ht
  exact hended id (hkeys id t ht) t ht hnode

/-! ### The three passes -/

theorem expireQueued_wp (ha : .expiry ∈ acts) (now : Instant) (x : PyStr)
    (h : Came w acts s₀ s) : Prog.wp (expireQueued w now x) (fun _ s' => Came w acts s₀ s')
      (fun _ _ => False) s := by
  unfold expireQueued
  simp only [Prog.wp_modify]
  cases ht : s.tasks.get? x with
  | none => exact h
  | some t =>
    have ht' := h.safe.task_key ht ▸ ht
    cases hd : t.queueDeadline with
    | none => simpa [hd] using h
    | some d =>
      simp only [hd]
      by_cases hskip : t.status ≠ .queued ∨ now < d
      · rwa [if_pos hskip]
      · rw [if_neg hskip]
        push Not at hskip
        exact h.write (.expireTask ht' hskip.1) ha rfl

theorem expireDispatched_wp (ha : .expiry ∈ acts) (now : Instant) (x : PyStr)
    (h : Came w acts s₀ s) : Prog.wp (expireDispatched w now x) (fun _ s' => Came w acts s₀ s')
      (fun _ _ => False) s := by
  unfold expireDispatched
  simp only [Prog.wp_bind, Prog.wp_get]
  cases ht : s.tasks.get? x with
  | none => exact h
  | some t =>
    simp only
    by_cases hd : t.status = .dispatched
    swap
    · rw [if_pos hd]; exact h
    rw [if_neg (by simpa using hd)]
    -- a dispatched task has a deadline, so the comparison does not raise
    obtain ⟨d, hdl⟩ := Option.isSome_iff_exists.mp ((h.safe.task_wf ht).dispatched hd).1
    rw [hdl]
    simp only
    by_cases hnow : now < d
    · rw [if_pos hnow]; exact h
    · rw [if_neg hnow, Prog.wp_modify]
      exact h.write (.timeoutTask (h.safe.task_key ht ▸ ht) hd) ha rfl

theorem expireNode_wp (ha : .expiry ∈ acts) (hr : .refresh ∈ acts) (now : Instant) (x : PyStr)
    (h : Came w acts s₀ s) : Prog.wp (expireNode w now x) (fun _ s' => Came w acts s₀ s')
      (fun _ _ => False) s := by
  unfold expireNode
  have honline : Prog.wp (expireOnline w now x) (fun _ s' => Came w acts s₀ s')
      (fun _ _ => False) s := by
    unfold expireOnline
    simp only [Prog.wp_modify]
    cases hn : s.nodes.get? x with
    | none => exact h
    | some n =>
      simp only
      by_cases hst : n.status = .online ∧ LabState.staleAfter n ≤ now - n.lastSeenMonotonic
      · rw [if_pos hst]
        exact h.write (.staleNode (h.safe.node_key hn ▸ hn) hst.1) ha rfl
      · rwa [if_neg hst]
  rw [Prog.wp_bind]
  refine Prog.wp_imp honline fun _ s₁ hcame => ?_
  unfold expireSession
  simp only [Prog.wp_bind, Prog.wp_get]
  cases hn : s₁.nodes.get? x with
  | none => exact hcame
  | some n =>
    simp only
    by_cases hoff : n.status = .offline ∧ n.sessionActive = true ∧
        staleSessionTtlSeconds ≤ now - n.lastSeenMonotonic - LabState.staleAfter n
    swap
    · rw [if_neg hoff]; exact hcame
    rw [if_pos hoff, Prog.wp_bind]
    refine Prog.wp_imp (failUnfinishedTasks_wp (.inl rfl) ha hr hn hcame _ _) ?_
    rintro _ s₂ ⟨hcame', ⟨m, hm, hst, hact⟩, hlive, -⟩
    simp only [Prog.wp_modify, hm]
    have hmid := hcame'.safe.node_key hm
    exact hcame'.write (.closeSession (hmid ▸ hm) (hst.trans hoff.1) (hact.trans hoff.2.1)
      (hmid ▸ hlive)) ha rfl

/-- The expiry pass runs to its end. -/
theorem expireLocked_wp (ha : .expiry ∈ acts) (hr : .refresh ∈ acts) (now : Instant)
    (h : Came w acts s₀ s) : Prog.wp (expireLocked w now)
      (fun _ s' => Came w acts s₀ s' ∧ s'.Settled) (fun _ _ => False) s := by
  unfold expireLocked
  simp only [Prog.wp_bind, Prog.wp_get]
  refine Prog.wp_imp (Prog.wp_forM (fun x _ t ht => expireQueued_wp ha now x ht) h)
    fun _ s₁ h₁ => ?_
  simp only [Prog.wp_bind, Prog.wp_get]
  refine Prog.wp_imp (Prog.wp_forM (fun x _ t ht => expireDispatched_wp ha now x ht) h₁)
    fun _ s₂ h₂ => ?_
  simp only [Prog.wp_bind, Prog.wp_get]
  refine Prog.wp_imp (Prog.wp_forM (fun x _ t ht => expireNode_wp ha hr now x ht) h₂)
    fun _ s₃ h₃ => ?_
  exact Prog.wp_imp (refreshExercisesLocked_wp h₃ hr) fun _ _ h => ⟨h.1, h.2.settled⟩

end C2Lab
