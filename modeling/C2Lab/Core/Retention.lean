import C2Lab.Core.Bounds
import C2Lab.Core.Delivery

/-! Retention removes exactly the oldest tasks that may go.

    Candidates are sorted by the number they were created under, so the clock plays no part. One
    removal is a step: the record goes, an accepted result leaves a tombstone, and each history gets
    one entry. Making room is a run of such steps over the first candidates. -/

namespace C2Lab

variable {w : World} {s s₁ s' : LabState} {removed removed' : List Task}

/-! ### One removal -/

/-- What was said of an event before it was numbered and stamped. -/
def Event.draft (e : Event) : EventDraft :=
  { kind := e.kind, level := e.level, nodeId := e.nodeId, taskId := e.taskId
    correlationId := e.correlationId, actor := e.actor, data := e.data }

/-- The event about a task that retention removes. -/
def Task.prunedEvent (t : Task) : EventDraft :=
  { kind := .taskPruned, level := .warning, nodeId := some t.nodeId, taskId := some t.id
    correlationId := some t.correlationId
    data := [("type", Vocabulary.toJson t.command.taskType),
      ("status", Vocabulary.toJson t.status), ("correlation_id", .str t.correlationId),
      ("reason", .str "terminal_task_retention_limit")] }

/-- The audit entry about it. -/
def Task.prunedEntry (t : Task) : AuditDraft :=
  { action := .taskPruned, actor := "teamserver", nodeId := some t.nodeId
    taskId := some t.id, correlationId := some t.correlationId
    taskType := some t.command.taskType, fromState := some (Vocabulary.name t.status)
    toState := some "removed", outcome := "success"
    reason := some "terminal_task_retention_limit" }

/-- The tombstone it leaves: the projection its Node was answered with, if a result was accepted. -/
def Task.tombstone (t : Task) : Option (PyStr × NodeTask) :=
  if t.resultAccepted then some (t.id, t.nodeTask) else none

/-- `s'` is `s` once retention removed the tasks `removed`, in this order. -/
structure LabState.Retired (s : LabState) (removed : List Task) (s' : LabState) : Prop where
  tasks : s'.tasks.entries = s.tasks.entries.filter (·.1 ∉ removed.map (·.id))
  others : s'.toRecords = { s.toRecords with
    tasks := s'.tasks, taskResultTombstones := s'.taskResultTombstones }
  tombstones : s'.taskResultTombstones.entries = (removed.filterMap Task.tombstone).foldl
    (Window.push maxTaskResultTombstones) s.taskResultTombstones.entries
  events : ∃ new : List Event, s'.eventLog = s.eventLog ++ new ∧
    s'.events = new.foldl (Window.push maxEvents) s.events ∧
    new.map (·.draft) = removed.map Task.prunedEvent
  audit : ∃ new : List AuditEntry, s'.auditLog = s.auditLog ++ new ∧
    s'.auditEntries = new.foldl (Window.push maxAuditEntries) s.auditEntries ∧
    new.map (·.draft) = removed.map Task.prunedEntry

namespace LabState.Retired

theorem refl (s : LabState) : s.Retired [] s :=
  ⟨by simp, rfl, rfl, ⟨[], by simp⟩, ⟨[], by simp⟩⟩

theorem trans (h : s.Retired removed s₁) (h' : s₁.Retired removed' s') :
    s.Retired (removed ++ removed') s' where
  tasks := by
    rw [h'.tasks, h.tasks, List.filter_filter]
    refine List.filter_congr fun p _ => ?_
    simp only [List.map_append, List.mem_append, not_or, Bool.decide_and, Bool.and_comm]
  others := by rw [h'.others, h.others]
  tombstones := by rw [h'.tombstones, h.tombstones, List.filterMap_append, List.foldl_append]
  events := by
    obtain ⟨new, hlog, hwindow, hnew⟩ := h.events
    obtain ⟨new', hlog', hwindow', hnew'⟩ := h'.events
    refine ⟨new ++ new', ?_, ?_, ?_⟩
    · rw [hlog', hlog, List.append_assoc]
    · rw [hwindow', hwindow, List.foldl_append]
    · rw [List.map_append, hnew, hnew', List.map_append]
  audit := by
    obtain ⟨new, hlog, hwindow, hnew⟩ := h.audit
    obtain ⟨new', hlog', hwindow', hnew'⟩ := h'.audit
    refine ⟨new ++ new', ?_, ?_, ?_⟩
    · rw [hlog', hlog, List.append_assoc]
    · rw [hwindow', hwindow, List.foldl_append]
    · rw [List.map_append, hnew, hnew', List.map_append]

end LabState.Retired

/-- A tombstone goes to the end of its store, the oldest making room. -/
theorem tombstones_push {t : Task} (h : s.taskResultTombstones.get? t.id = none) :
    (s.rememberTaskResultTombstoneLocked t).taskResultTombstones.entries =
      t.tombstone.toList.foldl (Window.push maxTaskResultTombstones)
        s.taskResultTombstones.entries := by
  by_cases hacc : t.resultAccepted = true
  · have hcap : 0 < maxTaskResultTombstones := by decide
    rw [tombstones_remember hacc, Task.tombstone, if_pos hacc, evictTombstones]
    generalize maxTaskResultTombstones = cap at hcap ⊢
    exact Dict.entries_make_room hcap (Dict.get?_eq_none.mp h) t.nodeTask
  · rw [LabState.rememberTaskResultTombstoneLocked, if_neg hacc, Task.tombstone, if_neg hacc]
    rfl

theorem LabState.toJournal_prune (t : Task) (s : LabState) :
    (s.pruneTerminalTaskLocked w t).toJournal =
      (s.toJournal.recordLocked w t.prunedEvent).auditLocked w t.prunedEntry := by
  unfold pruneTerminalTaskLocked rememberTaskResultTombstoneLocked
  split <;> rfl

/-- One task goes. -/
theorem LabState.Prunable.retired (hs : Safe w s) {t : Task} (ht : s.Prunable t) :
    s.Retired [t] (s.pruneTerminalTaskLocked w t) := by
  have hrec := LabState.toRecords_prune (w := w) t s
  have hj := LabState.toJournal_prune (w := w) t s
  have hnone : s.taskResultTombstones.get? t.id = none := by
    cases hr : s.taskResultTombstones.get? t.id with
    | none => rfl
    | some r => exact absurd ht.1 (by rw [(hs.tombstones _ _ hr).pruned]; simp)
  refine ⟨?_, ?_, ?_, ⟨[s.toJournal.event w t.prunedEvent], ?_⟩,
    ⟨[(s.toJournal.recordLocked w t.prunedEvent).entry w t.prunedEntry], ?_⟩⟩
  · rw [hrec]
    exact List.filter_congr fun p _ => by simp
  · rw [hrec]
  · rw [hrec, tombstones_push hnone]
    cases h : t.tombstone <;> simp [h]
  · rw [hj, Journal.eventLog_auditLocked, Journal.eventLog_recordLocked,
      Journal.events_auditLocked, Journal.events_recordLocked, List.foldl_cons, List.foldl_nil]
    exact ⟨rfl, rfl, rfl⟩
  · rw [hj, Journal.auditLog_auditLocked, Journal.auditLog_recordLocked,
      Journal.auditEntries_auditLocked, Journal.auditEntries_recordLocked, List.foldl_cons,
      List.foldl_nil]
    exact ⟨rfl, rfl, rfl⟩

/-- The other tasks stay as prunable as they were. -/
theorem LabState.Prunable.prune {t u : Task} (hu : s.Prunable u) (hne : u.id ≠ t.id) :
    (s.pruneTerminalTaskLocked w t).Prunable u := by
  have hrec := LabState.toRecords_prune (w := w) t s
  refine ⟨?_, hu.2.1, ?_⟩
  · rw [hrec, Dict.get?_erase, if_neg hne]; exact hu.1
  · unfold taskIsRequiredByRunningExerciseLocked
    rw [hrec]
    exact hu.2.2

/-! ### Making room -/

/-- Removing prunable tasks one after the other. -/
theorem prunes_retired (hs : Safe w s) {l : List Task} (hl : ∀ t ∈ l, s.Prunable t)
    (hn : (l.map (·.id)).Nodup) :
    s.Retired l (l.foldl (fun s t => s.pruneTerminalTaskLocked w t) s) := by
  induction l generalizing s with
  | nil => exact .refl s
  | cons t l ih =>
    rw [List.map_cons, List.nodup_cons] at hn
    have ht := hl t List.mem_cons_self
    have hs' : Safe w (s.pruneTerminalTaskLocked w t) :=
      (Write.pruneTask ht.1 ht.2.1 ht.2.2).safe hs fun hc => by cases hc
    have hrest : ∀ u ∈ l, (s.pruneTerminalTaskLocked w t).Prunable u := fun u hu =>
      (hl u (List.mem_cons_of_mem _ hu)).prune fun heq =>
        hn.1 (heq ▸ List.mem_map_of_mem (f := Task.id) hu)
    exact (ht.retired hs).trans (ih hs' hrest hn.2)

/-- The tasks retention may remove, in the order of the table. -/
def LabState.prunable (s : LabState) : List Task :=
  s.tasks.values.filter fun t => t.status.isTerminal && !taskIsRequiredByRunningExerciseLocked t s

theorem Safe.mem_prunable (hs : Safe w s) {t : Task} : t ∈ s.prunable ↔ s.Prunable t := by
  rw [LabState.prunable, List.mem_filter, Bool.and_eq_true, Bool.not_eq_true', Dict.mem_values]
  constructor
  · rintro ⟨⟨id, hid⟩, hterm, hfree⟩
    exact ⟨hs.task_key hid ▸ hid, hterm, hfree⟩
  · rintro ⟨ht, hterm, hfree⟩
    exact ⟨⟨_, ht⟩, hterm, hfree⟩

/-- The candidates are sorted by their numbers, each of which is taken once. -/
theorem pruneCandidates_sorted (hs : Safe w s) (hnum : Numbered s.toRecords) :
    s.pruneCandidates.Pairwise (·.sequence < ·.sequence) := by
  have hle : s.pruneCandidates.Pairwise (·.sequence ≤ ·.sequence) := by
    have hsort := @List.pairwise_mergeSort _ (fun a b : Task => decide (a.sequence ≤ b.sequence))
      (fun a b c hab hbc => by simp only [decide_eq_true_eq] at *; omega)
      (fun a b => by simp only [Bool.or_eq_true, decide_eq_true_eq]; omega) s.prunable
    exact hsort.imp fun h => of_decide_eq_true h
  obtain ⟨hall, hnodup⟩ := pruneCandidates_prunable hs
  have hne := (List.pairwise_map.mp hnodup).imp_of_mem
    (S := fun t u : Task => t.sequence ≠ u.sequence) fun {t u} ht hu hne heq =>
      hne (hnum.inj _ _ _ _ (hall t ht).1 (hall u hu).1 heq)
  exact hle.imp₂ (fun _ _ hle hne => Nat.lt_of_le_of_ne hle hne) hne

/-- The first of the candidates are older than the rest. -/
theorem pruneCandidates_take (hs : Safe w s) (hnum : Numbered s.toRecords) (k : ℕ) {u : Task}
    (hu : u ∈ s.prunable) (hout : u ∉ s.pruneCandidates.take k) :
    ∀ t ∈ s.pruneCandidates.take k, t.sequence < u.sequence := by
  have hmem : u ∈ s.pruneCandidates := List.mem_mergeSort.mpr hu
  have hsorted := pruneCandidates_sorted hs hnum
  rw [← List.take_append_drop k s.pruneCandidates] at hmem hsorted
  have hlater : u ∈ s.pruneCandidates.drop k := (List.mem_append.mp hmem).resolve_left hout
  exact fun t ht => (List.pairwise_append.mp hsorted).2.2 t ht u hlater

/-- No more tasks are removed than there are tombstones. -/
theorem LabState.Retired.tombstone (h : s.Retired removed s') (hb : s.toRecords.Bounded)
    (hlen : removed.length ≤ maxTaskResultTombstones) {t : Task} (ht : t ∈ removed)
    (hacc : t.resultAccepted = true) : s'.taskResultTombstones.get? t.id = some t.nodeTask := by
  rw [Dict.get?_eq_some, h.tombstones]
  refine Window.mem_foldl_push hb.tombstones ((List.length_filterMap_le _ _).trans hlen) ?_
  exact List.mem_filterMap.mpr ⟨t, ht, by rw [Task.tombstone, if_pos hacc]⟩

/-- The limits of the tables hold in every reachable state. -/
theorem Reachable.bounded (hr : Reachable w s) : s.toRecords.Bounded :=
  (bounded_kept w).reachable (fun _ => ⟨Nat.zero_le _, fun _ => Nat.zero_le _,
    fun _ => Nat.zero_le _, Nat.zero_le _, Nat.zero_le _, Nat.zero_le _, Nat.zero_le _, le_rfl⟩) hr

theorem Reachable.numbered (hr : Reachable w s) : Numbered s.toRecords :=
  (numbered_kept w).reachable (fun _ =>
    ⟨fun id t ht => (by cases ht), fun id id' t t' ht => (by cases ht)⟩) hr

/-- Retention. Where `n` more tasks are `k` too many, making room for them removes exactly the `k`
    oldest of the ended tasks that no running exercise needs, by their numbers, if there are that
    many, and refuses with nothing changed if not. Everything else stays as it is, each removed task
    whose result was accepted leaves its tombstone, and each history gets one entry for each removed
    task, in their order. -/
theorem task_retention (hr : Reachable w s) (n : ℕ) :
    let k := s.tasks.size + n - maxTasks
    (k ≤ s.prunable.length → ∃ removed s', makeTaskSlotsLocked w n s = .ok ⟨⟩ s' ∧
      removed.length = k ∧ s.Retired removed s' ∧
      removed.Pairwise (·.sequence < ·.sequence) ∧ (∀ t ∈ removed, t ∈ s.prunable) ∧
      (∀ u ∈ s.prunable, u ∉ removed → ∀ t ∈ removed, t.sequence < u.sequence) ∧
      (∀ t ∈ removed, t.status ≠ .queued ∧ t.status ≠ .dispatched) ∧
      ∀ t ∈ removed, t.resultAccepted = true →
        s'.taskResultTombstones.get? t.id = some t.nodeTask) ∧
    (s.prunable.length < k → makeTaskSlotsLocked w n s =
      .error (labError "task limit reached; reset the lab" "task_limit" 429) s) := by
  intro k
  have hs := hr.sound.safe
  obtain ⟨hall, hnodup⟩ := pruneCandidates_prunable hs
  have hlen : s.pruneCandidates.length = s.prunable.length := List.length_mergeSort _
  have hrun : makeTaskSlotsLocked w n s = if k = 0 then .ok ⟨⟩ s
      else if s.pruneCandidates.length < k then
        .error (labError "task limit reached; reset the lab" "task_limit" 429) s
      else .ok ⟨⟩ ((s.pruneCandidates.take k).foldl
        (fun s t => s.pruneTerminalTaskLocked w t) s) := by
    unfold makeTaskSlotsLocked
    simp only [bind, EStateM.bind, Prog.get_apply]
    split
    · rfl
    · split <;> rfl
  constructor
  · intro hk
    have hprunable : ∀ t ∈ s.pruneCandidates.take k, t ∈ s.prunable := fun t ht =>
      List.mem_mergeSort.mp (List.mem_of_mem_take ht)
    have hretired := prunes_retired hs (fun t ht => hall t (List.mem_of_mem_take ht))
      (hnodup.sublist ((List.take_sublist k _).map _))
    have htake : (s.pruneCandidates.take k).length = k := by
      rw [List.length_take]; omega
    refine ⟨s.pruneCandidates.take k, _, ?_, htake, hretired, ?_, hprunable, ?_, ?_, ?_⟩
    · rw [hrun]
      split
      · rename_i hzero
        rw [hzero]; rfl
      · rw [if_neg (by omega)]
    · exact (pruneCandidates_sorted hs hr.numbered).sublist (List.take_sublist k _)
    · exact fun u hu hout => pruneCandidates_take hs hr.numbered k hu hout
    · intro t ht
      have hterm := ((hs.mem_prunable).mp (hprunable t ht)).2.1
      constructor <;> rintro hst <;> rw [hst] at hterm <;> cases hterm
    · -- the table holds no more tasks than there is room for tombstones
      have hsize : s.prunable.length ≤ s.tasks.size := by
        rw [Dict.size_eq_length_values]; exact List.length_filter_le _ _
      refine fun t ht => hretired.tombstone hr.bounded ?_ ht
      rw [htake]
      exact (hk.trans hsize).trans hr.bounded.tasks
  · intro hk
    rw [hrun, if_neg (by omega), if_pos (by omega)]

/-- Two tasks are queued, the first is cancelled, and room for 499 more is one place short. -/
theorem task_retention_cancelled :
    let s := exec .counting (.init "stream") [Counting.enroll, Counting.queue .ping (.obj []),
      Counting.queue .ping (.obj []),
      .cancelTask (.str (World.counting.taskId 6)) (.str "operator")]
    ∃ removed s', makeTaskSlotsLocked .counting 499 s = .ok ⟨⟩ s' ∧ removed.length = 1 ∧
      s.Retired removed s' := by
  intro s
  obtain ⟨removed, s', hrun, hlen, hretired, -⟩ :=
    (task_retention (World.counting_reachable "stream" _ (by decide +kernel)) 499).1
      (by decide +kernel : s.tasks.size + 499 - maxTasks ≤ s.prunable.length)
  exact ⟨removed, s', hrun, hlen.trans (by decide +kernel), hretired⟩

end C2Lab
