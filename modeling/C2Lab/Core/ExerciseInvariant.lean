import C2Lab.Core.View

/-! The invariant of an exercise along the changes of its record and of the task table. -/

namespace C2Lab.Exercise

variable {tasks tasks' : Dict PyStr Task} {e e' : Exercise} {t t' : Task} {p : Playbook}

/-! ### Changes of the task table -/

/-- Only the tasks of the exercise matter. -/
theorem Valid.congr (h : e.Valid tasks) (heq : ∀ id ∈ e.taskIds, tasks'.get? id = tasks.get? id) :
    e.Valid tasks' := by
  refine ⟨h.toConsistent, fun hp ht => ?_, fun id hid t ht => ?_, fun hp ho ht => ?_,
    fun hp ho ht => ?_, fun hr id hid => ?_⟩
  · exact h.planned hp (heq _ (mem_of_planned hp) ▸ ht)
  · exact h.observed_ended id hid t (heq _ (h.observed_mem id hid) ▸ ht)
  · exact h.evidence_eq hp ho (heq _ (mem_of_planned hp) ▸ ht)
  · exact h.alertRules_eq hp ho (heq _ (mem_of_planned hp) ▸ ht)
  · rw [heq id hid]; exact h.running_retained hr id hid

/-- A task that has not ended may change as long as it keeps its identity. -/
theorem Valid.set_live (h : e.Valid tasks) (ht : tasks.get? t.id = some t)
    (hl : t.status.isTerminal = false) (hcmd : t'.command = t.command)
    (hex : t'.exerciseId = t.exerciseId) (hnode : t'.nodeId = t.nodeId) :
    e.Valid (tasks.set t.id t') := by
  have hu := h.unobserved_of_live ht hl
  have hobs : ∀ id ∈ e.observedTaskIds, (tasks.set t.id t').get? id = tasks.get? id :=
    fun id hid => Dict.get?_set_ne _ _ fun heq => hu (heq ▸ hid)
  refine ⟨h.toConsistent, fun hp hx => ?_, fun id hid x hx => ?_, fun hp ho hx => ?_,
    fun hp ho hx => ?_, fun hr id hid => ?_⟩
  · rw [Dict.get?_set] at hx
    split at hx
    · rename_i heq
      cases hx
      rw [hcmd, hex, hnode]
      exact h.planned (heq ▸ hp) ht
    · exact h.planned hp hx
  · exact h.observed_ended id hid x (hobs id hid ▸ hx)
  · exact h.evidence_eq hp ho (hobs _ ho ▸ hx)
  · exact h.alertRules_eq hp ho (hobs _ ho ▸ hx)
  · obtain ⟨y, hy⟩ := h.running_retained hr id hid
    rw [Dict.get?_set]
    split
    · exact ⟨t', rfl⟩
    · exact ⟨y, hy⟩

/-- A task may be removed unless the exercise is running and needs it. -/
theorem Valid.erase (h : e.Valid tasks) {id : PyStr}
    (hr : e.status = .running → id ∉ e.taskIds) : e.Valid (tasks.erase id) := by
  have hget : ∀ {k x}, (tasks.erase id).get? k = some x → tasks.get? k = some x := by
    intro k x hx
    rw [Dict.get?_erase] at hx
    split at hx
    · cases hx
    · exact hx
  refine ⟨h.toConsistent, fun hp hx => h.planned hp (hget hx),
    fun k hk x hx => h.observed_ended k hk x (hget hx),
    fun hp ho hx => h.evidence_eq hp ho (hget hx),
    fun hp ho hx => h.alertRules_eq hp ho (hget hx), fun hs k hk => ?_⟩
  obtain ⟨y, hy⟩ := h.running_retained hs k hk
  have hne : k ≠ id := fun heq => hr hs (heq ▸ hk)
  exact ⟨y, by rw [Dict.get?_erase, if_neg hne]; exact hy⟩

/-! ### What the new timeline entries are evidence of -/

theorem Extended.evidence_eq {items : List TimelineItem} (h : Extended items e e') (id : PyStr) :
    e'.evidence id = e.evidence id ++
      items.filter fun i => i.taskId = some id && i.isEvidence := by
  rw [evidence, h.items_eq, List.filter_append]; rfl

theorem Extended.plan_eq {items : List TimelineItem} (h : Extended items e e') :
    e'.plan = e.plan := by rw [plan, plan, h.tasks_eq, h.scenario_eq]

theorem filter_evidenceItems (sc : ScenarioId) (hterm : t.status.isTerminal = true) (id : PyStr) :
    (evidenceItems sc t p).filter (fun i => i.taskId = some id && i.isEvidence) =
      if t.id = id then evidenceItems sc t p else [] := by
  have hall : ∀ i ∈ evidenceItems sc t p, i.taskId = some t.id ∧ i.isEvidence = true := by
    intro i hi
    unfold evidenceItems at hi
    rcases List.mem_cons.mp hi with rfl | hi
    · exact ⟨rfl, hterm⟩
    · split at hi
      · obtain ⟨x, -, rfl⟩ := List.mem_map.mp hi
        exact ⟨rfl, rfl⟩
      · simp at hi
  split
  · rename_i he
    exact List.filter_eq_self.mpr fun i hi => by simp [hall i hi, he]
  · rename_i he
    exact List.filter_eq_nil_iff.mpr fun i hi => by simp [hall i hi, he]

theorem filter_detectionItems (taskId id : PyStr) (rules : List DetectionRule) :
    (rules.map (LabState.detectionItem taskId)).filter
      (fun i => i.taskId = some id && i.isEvidence) = [] := by
  refine List.filter_eq_nil_iff.mpr fun i hi => ?_
  obtain ⟨r, -, rfl⟩ := List.mem_map.mp hi
  simp [LabState.detectionItem, TimelineItem.isEvidence]

/-- The numbering of a timeline that is continued. -/
theorem Extended.numbered {items : List TimelineItem} (h : Extended items e e')
    (hseq : e.timelineSequence = e.timeline.length)
    (hn : e.timeline.map (·.sequence) = List.range' 1 e.timeline.length) :
    e'.timelineSequence = e'.timeline.length ∧
      e'.timeline.map (·.sequence) = List.range' 1 e'.timeline.length := by
  refine ⟨by rw [h.sequence_eq, hseq, h.length_eq], ?_⟩
  obtain ⟨new, heq, -, hnew⟩ := h.timeline_eq
  rw [h.length_eq, heq, List.map_append, hn, hnew, hseq, Nat.add_comm _ 1,
    ← @List.range'_append _ _ _ 1, Nat.one_mul]

/-! ### Changes of the exercise record -/

/-- What the observed task's evidence and alerts become. -/
theorem Observed.evidence_eq (h : e.Observed t p e') (hterm : t.status.isTerminal = true)
    (id : PyStr) : e'.evidence id =
      e.evidence id ++ if t.id = id then evidenceItems e.scenarioId t p else [] := by
  rw [h.toExtended.evidence_eq, List.filter_append, filter_evidenceItems _ hterm,
    filter_detectionItems, List.append_nil]

theorem Observed.alertRules_eq (h : e.Observed t p e') (id : PyStr) :
    e'.alertRules id = e.alertRules id ++ if t.id = id then matchedRules e t p else [] := by
  obtain ⟨new, heq, hrule, hnew⟩ := h.alerts_eq
  rw [alertRules, heq, List.filter_append, List.map_append]
  congr 1
  split
  · rename_i he
    rw [List.filter_eq_self.mpr fun a ha => by simp [(hnew a ha).1, he], hrule]
  · rename_i he
    rw [List.filter_eq_nil_iff.mpr fun a ha => by simp [(hnew a ha).1, he], List.map_nil]

theorem alertRules_eq_nil (h : e.Valid tasks) {id : PyStr} (hu : id ∉ e.observedTaskIds) :
    e.alertRules id = [] := by
  rw [alertRules, List.filter_eq_nil_iff.mpr, List.map_nil]
  intro a ha
  simp only [decide_eq_true_eq]
  exact fun he => hu (he ▸ (h.alerts_planned a ha).1)

/-- A plan's owed part, as the reserve of an exercise counts it. -/
theorem reserve_observed (h : e.Valid tasks) (hpl : (t.id, p) ∈ e.plan)
    (hu : t.id ∉ e.observedTaskIds) (hplan : e'.plan = e.plan)
    (hsc : e'.scenarioId = e.scenarioId)
    (hobs : e'.observedTaskIds = e.observedTaskIds ++ [t.id])
    (hrec : e'.completionRecorded = e.completionRecorded)
    (hcon : e'.containment = e.containment) :
    e'.reserve + cost e.scenarioId p = e.reserve := by
  have howed := Plan.owed_append (c := fun x => cost e.scenarioId x.2)
    (by rw [plan_fst h.length_eq]; exact h.nodup) hpl hu
  simp only at howed
  unfold reserve
  rw [hplan, hsc, hobs, hrec, hcon]
  omega

/-! ### Observing an ended task -/

section observed

/-- A planned, observed task is either an old one or the task just observed. -/
theorem Valid.observed_cases (h : e.Valid tasks) (ho : e.Observed t p e')
    (ht : tasks.get? t.id = some t) (hpl : (t.id, p) ∈ e.plan) {id : PyStr} {q : Playbook}
    {x : Task}
    (hq : (id, q) ∈ e.plan) (hobs : id ∈ e'.observedTaskIds) (hx : tasks.get? id = some x) :
    id ≠ t.id ∧ id ∈ e.observedTaskIds ∨ id = t.id ∧ x = t ∧ q = p := by
  rw [ho.observed_eq] at hobs
  by_cases hid : id = t.id
  · subst hid
    rw [ht, Option.some.injEq] at hx
    exact .inr ⟨rfl, hx.symm, Plan.zip_right_unique h.nodup hq hpl⟩
  · exact .inl ⟨hid, by simpa [hid] using hobs⟩

/-- The rules of the new alerts are rules of the playbook that ran. -/
theorem Observed.new_alerts (ho : e.Observed t p e') : ∃ new, e'.alerts = e.alerts ++ new ∧
    new.map (·.rule) = matchedRules e t p ∧
    ∀ a ∈ new, a.taskId = t.id ∧ (a.isOpen = true ∧ a.containedAt = none) ∧
      a.rule ∈ matchedRules e t p := by
  obtain ⟨new, hnew, hrules, hnewa⟩ := ho.alerts_eq
  exact ⟨new, hnew, hrules, fun a ha =>
    ⟨(hnewa a ha).1, (hnewa a ha).2, hrules ▸ List.mem_map_of_mem ha⟩⟩

theorem Valid.observed_tasks_ended (h : e.Valid tasks) (ho : e.Observed t p e')
    (ht : tasks.get? t.id = some t) (hterm : t.status.isTerminal = true) :
    ∀ id ∈ e'.observedTaskIds, ∀ x, tasks.get? id = some x → x.status.isTerminal = true := by
  intro id hid x hx
  rw [ho.observed_eq] at hid
  rcases List.mem_append.mp hid with hid | hid
  · exact h.observed_ended id hid x hx
  · rw [List.mem_singleton.mp hid, ht, Option.some.injEq] at hx
    exact hx ▸ hterm

theorem Valid.observed_evidence (h : e.Valid tasks) (ho : e.Observed t p e')
    (hu : t.id ∉ e.observedTaskIds) (ht : tasks.get? t.id = some t)
    (hterm : t.status.isTerminal = true) (hpl : (t.id, p) ∈ e.plan) {id : PyStr} {q : Playbook}
    {x : Task} (hq : (id, q) ∈ e.plan) (hobs : id ∈ e'.observedTaskIds)
    (hx : tasks.get? id = some x) : e'.evidence id = evidenceItems e'.scenarioId x q := by
  rw [ho.evidence_eq hterm, ho.scenario_eq]
  rcases h.observed_cases ho ht hpl hq hobs hx with ⟨hid, hold⟩ | ⟨rfl, rfl, rfl⟩
  · rw [if_neg (Ne.symm hid), List.append_nil]
    exact h.evidence_eq hq hold hx
  · rw [if_pos rfl, h.evidence_none _ hu, List.nil_append]

/-- No rule raises a second alert: the rules of two playbooks of a scenario differ. -/
theorem Valid.observed_alerts_nodup (h : e.Valid tasks) (ho : e.Observed t p e')
    (hu : t.id ∉ e.observedTaskIds) (hpl : (t.id, p) ∈ e.plan) :
    (e'.alerts.map (·.rule.id)).Nodup := by
  obtain ⟨new, hnew, hrules, hnewa⟩ := ho.new_alerts
  rw [hnew, List.map_append]
  refine List.nodup_append.mpr ⟨h.alerts_nodup, ?_, ?_⟩
  · have hids : new.map (·.rule.id) = (matchedRules e t p).map (·.id) := by
      rw [← hrules, List.map_map]; rfl
    rw [hids]
    exact matchedRules_nodup t p
  · intro a ha b hb hab
    obtain ⟨x, hx, rfl⟩ := List.mem_map.mp ha
    obtain ⟨y, hy, rfl⟩ := List.mem_map.mp hb
    exact h.rules_new hpl hu y.rule (matchedRules_sub (hnewa y hy).2.2) x hx hab

theorem Valid.observed_alerts_planned (h : e.Valid tasks) (ho : e.Observed t p e')
    (hpl : (t.id, p) ∈ e.plan) : ∀ a ∈ e'.alerts, a.taskId ∈ e'.observedTaskIds ∧
      ∃ q, (a.taskId, q) ∈ e'.plan ∧ a.rule ∈ detectionsForPlaybook e'.scenarioId q := by
  intro a ha
  obtain ⟨new, hnew, -, hnewa⟩ := ho.new_alerts
  rw [ho.toExtended.plan_eq, ho.observed_eq, ho.scenario_eq]
  rw [hnew] at ha
  rcases List.mem_append.mp ha with ha | ha
  · obtain ⟨hobs, q, hq, hr⟩ := h.alerts_planned a ha
    exact ⟨List.mem_append_left _ hobs, q, hq, hr⟩
  · obtain ⟨hid, -, hrule⟩ := hnewa a ha
    rw [hid]
    exact ⟨by simp, p, hpl, matchedRules_sub hrule⟩

theorem Valid.observed_alertRules (h : e.Valid tasks) (ho : e.Observed t p e')
    (hu : t.id ∉ e.observedTaskIds) (ht : tasks.get? t.id = some t) (hpl : (t.id, p) ∈ e.plan)
    {id : PyStr} {q : Playbook} {x : Task} (hq : (id, q) ∈ e.plan)
    (hobs : id ∈ e'.observedTaskIds) (hx : tasks.get? id = some x) :
    e'.alertRules id = [] ∧ (x.status = .completed →
        e'.containment ≠ none ∨ detectionsForPlaybook e'.scenarioId q = []) ∨
      x.status = .completed ∧ e'.alertRules id = detectionsForPlaybook e'.scenarioId q := by
  rw [ho.alertRules_eq, ho.containment_eq, ho.scenario_eq]
  rcases h.observed_cases ho ht hpl hq hobs hx with ⟨hid, hold⟩ | ⟨rfl, rfl, rfl⟩
  · rw [if_neg (Ne.symm hid), List.append_nil]
    exact h.alertRules_eq hq hold hx
  · rw [if_pos rfl, alertRules_eq_nil h hu, List.nil_append]
    by_cases hc : x.status = .completed ∧ e.status ≠ .contained
    · exact .inr ⟨hc.1, if_pos hc⟩
    · refine .inl ⟨if_neg hc, fun hcomp => .inl ?_⟩
      exact h.contained_iff.mp (by_contra fun hne => hc ⟨hcomp, hne⟩)

theorem Valid.observed_detected (h : e.Valid tasks) (ho : e.Observed t p e') :
    e'.detected = true ↔ e'.alerts ≠ [] := by
  obtain ⟨new, hnew, hrules, -⟩ := ho.new_alerts
  have hempty : (matchedRules e t p).isEmpty = new.isEmpty := by
    rw [← hrules]; cases new <;> rfl
  rw [ho.detected_eq, hnew, hempty]
  cases new with
  | nil => simpa using h.detected_iff
  | cons a new => simp

/-- A contained exercise raises no alert, and the others raise open ones. -/
theorem Valid.observed_alerts_closed (h : e.Valid tasks) (ho : e.Observed t p e')
    (hc : e.containment ≠ none) : ∀ a ∈ e'.alerts, a.isOpen = false ∧ a.containedAt.isSome := by
  intro a ha
  obtain ⟨new, hnew, -, hnewa⟩ := ho.new_alerts
  rw [hnew] at ha
  rcases List.mem_append.mp ha with ha | ha
  · exact h.alerts_closed hc a ha
  · have hmem := (hnewa a ha).2.2
    simp [matchedRules, h.contained_iff.mpr hc] at hmem

/-- An exercise one of whose tasks was not observed has not failed yet. -/
theorem Valid.not_failed_of_unobserved (h : e.Valid tasks) {id : PyStr} (hm : id ∈ e.taskIds)
    (hu : id ∉ e.observedTaskIds) : e.status ≠ .failed := by
  intro hst
  have hnone : e.containment = none := by
    by_contra hne
    rw [h.contained_iff.mpr hne] at hst
    cases hst
  have hrec : e.completionRecorded = true := by
    by_contra hne
    have hrun := (h.running_iff hnone).mpr (by simpa using hne)
    rw [hrun] at hst
    cases hst
  exact hu (h.recorded_observed hrec id hm)

theorem Valid.observed_room (h : e.Valid tasks) (ho : e.Observed t p e')
    (hu : t.id ∉ e.observedTaskIds) (hpl : (t.id, p) ∈ e.plan) :
    e'.timeline.length + e'.reserve ≤ maxExerciseTimeline := by
  have hroom := h.room
  have hcost := evidence_cost e t p
  have hres := reserve_observed h hpl hu ho.toExtended.plan_eq ho.scenario_eq ho.observed_eq
    ho.completion_eq.1 ho.containment_eq
  rw [ho.toExtended.length_eq, List.length_append, List.length_map]
  omega

/-- Observing an ended task keeps the invariant. -/
theorem Valid.observed (h : e.Valid tasks) (ho : e.Observed t p e') (hm : t.id ∈ e.taskIds)
    (hu : t.id ∉ e.observedTaskIds) (ht : tasks.get? t.id = some t)
    (hterm : t.status.isTerminal = true) (hp : t.command = .runPlaybook p) :
    e'.Valid tasks := by
  have hpl := h.planned_of_command hm ht hp
  have hplan := ho.toExtended.plan_eq
  have hnum := ho.toExtended.numbered h.sequence_eq h.numbered
  exact {
    nodup := by rw [ho.tasks_eq]; exact h.nodup
    length_eq := by rw [ho.tasks_eq, ho.scenario_eq]; exact h.length_eq
    planned := fun hq hx => by
      rw [ho.id_eq, ho.node_eq]
      exact h.planned (hplan ▸ hq) hx
    observed_nodup := by
      rw [ho.observed_eq]
      exact List.nodup_append.mpr ⟨h.observed_nodup, by simp, fun a ha b hb hab => by
        rw [List.mem_singleton] at hb
        exact hu (hb ▸ hab ▸ ha)⟩
    observed_mem := fun id hid => by
      rw [ho.observed_eq] at hid
      rw [ho.tasks_eq]
      rcases List.mem_append.mp hid with hid | hid
      · exact h.observed_mem id hid
      · rw [List.mem_singleton.mp hid]; exact hm
    observed_ended := h.observed_tasks_ended ho ht hterm
    evidence_none := fun id hid => by
      rw [ho.observed_eq, List.mem_append, List.mem_singleton, not_or] at hid
      rw [ho.evidence_eq hterm, h.evidence_none id hid.1, if_neg (Ne.symm hid.2)]; rfl
    evidence_eq := fun hq => h.observed_evidence ho hu ht hterm hpl (hplan ▸ hq)
    alerts_nodup := h.observed_alerts_nodup ho hu hpl
    alerts_planned := h.observed_alerts_planned ho hpl
    alertRules_eq := fun hq => h.observed_alertRules ho hu ht hpl (hplan ▸ hq)
    detected_iff := h.observed_detected ho
    alerts_open := fun hc a ha => by
      obtain ⟨new, hnew, -, hnewa⟩ := ho.new_alerts
      rw [hnew] at ha
      rcases List.mem_append.mp ha with ha | ha
      · exact h.alerts_open (ho.containment_eq ▸ hc) a ha
      · exact (hnewa a ha).2.1
    alerts_closed := fun hc => h.observed_alerts_closed ho (ho.containment_eq ▸ hc)
    contained_iff := by rw [ho.status_eq, ho.containment_eq]; exact h.contained_iff
    running_iff := fun hc => by
      rw [ho.status_eq, ho.completion_eq.1]
      exact h.running_iff (ho.containment_eq ▸ hc)
    completed_at := fun hst => by
      rw [ho.completion_eq.2]
      exact h.completed_at (ho.status_eq ▸ hst)
    running_retained := fun hst => by
      rw [ho.tasks_eq]
      exact h.running_retained (ho.status_eq ▸ hst)
    recorded_observed := fun hr id hid => by
      rw [ho.observed_eq]
      exact List.mem_append_left _
        (h.recorded_observed (ho.completion_eq.1 ▸ hr) id (ho.tasks_eq ▸ hid))
    completed_all := fun hst id hid => by
      obtain ⟨i, hi, hk⟩ := h.completed_all (ho.status_eq ▸ hst) id (ho.tasks_eq ▸ hid)
      exact ⟨i, by rw [ho.evidence_eq hterm]; exact List.mem_append_left _ hi, hk⟩
    failed_some := fun hst => absurd (ho.status_eq ▸ hst) (h.not_failed_of_unobserved hm hu)
    sequence_eq := hnum.1
    numbered := hnum.2
    room := h.observed_room ho hu hpl }

end observed

/-- An entry that is about no task is no evidence. -/
theorem Extended.evidence_same {item : TimelineItem} (h : Extended [item] e e')
    (hi : item.taskId = none) (id : PyStr) : e'.evidence id = e.evidence id := by
  rw [h.evidence_eq, List.filter_cons_of_neg (by simp [hi]), List.filter_nil, List.append_nil]

/-- The first evidence of an ended task is its status. -/
theorem evidence_head {sc : ScenarioId} {i : TimelineItem} (hi : i ∈ evidenceItems sc t p) :
    i = LabState.endedItem t p ∨ i.kind = .techniqueObserved := by
  unfold evidenceItems at hi
  rcases List.mem_cons.mp hi with rfl | hi
  · exact .inl rfl
  · split at hi
    · obtain ⟨x, -, rfl⟩ := List.mem_map.mp hi
      exact .inr rfl
    · simp at hi

/-- A terminal status agrees with the evidence of the tasks, all of them observed and recorded. -/
theorem Valid.finalStatus_evidence {s : LabState} (h : e.Valid s.tasks)
    (hall : ∀ id ∈ e.taskIds, id ∈ e.observedTaskIds ∧
      ∃ t, s.tasks.get? id = some t ∧ t.status.isTerminal = true) :
    (s.finalStatus e = .completed ∧
        ∀ id ∈ e.taskIds, ∃ i ∈ e.evidence id, i.kind = .task .completed) ∨
      (s.finalStatus e = .failed ∧
        ∃ id ∈ e.taskIds, ∀ i ∈ e.evidence id, i.kind ≠ .task .completed) := by
  have hev : ∀ id ∈ e.taskIds, ∃ t p, s.tasks.get? id = some t ∧
      e.evidence id = evidenceItems e.scenarioId t p := by
    intro id hid
    obtain ⟨hobs, t, ht, -⟩ := hall id hid
    obtain ⟨p, hp⟩ := exists_planned h.length_eq hid
    exact ⟨t, p, ht, h.evidence_eq hp hobs ht⟩
  unfold LabState.finalStatus
  rw [List.all_map]
  split
  · rename_i hc
    refine .inl ⟨rfl, fun id hid => ?_⟩
    obtain ⟨t, p, ht, heq⟩ := hev id hid
    have hst : t.status = .completed := by
      simpa [ht, didComplete] using List.all_eq_true.mp hc id hid
    exact ⟨LabState.endedItem t p, by rw [heq]; exact List.mem_cons_self, by
      rw [LabState.endedItem, hst]⟩
  · rename_i hc
    refine .inr ⟨rfl, ?_⟩
    rw [List.all_eq_true] at hc
    push Not at hc
    obtain ⟨id, hid, hne⟩ := hc
    obtain ⟨t, p, ht, heq⟩ := hev id hid
    rw [Function.comp, ht] at hne
    refine ⟨id, hid, fun i hi hk => ?_⟩
    rcases evidence_head (heq ▸ hi) with rfl | hk'
    · rw [LabState.endedItem, TimelineKind.task.injEq] at hk
      simp [didComplete, hk] at hne
    · rw [hk'] at hk; cases hk

/-- Recording the completion keeps the invariant. -/
theorem Valid.finished {s : LabState} (h : e.Valid s.tasks) (hs : e.status ≠ .contained)
    (hc : e.completionRecorded = false)
    (hall : ∀ id ∈ e.taskIds, id ∈ e.observedTaskIds ∧
      ∃ t, s.tasks.get? id = some t ∧ t.status.isTerminal = true)
    (hf : e.Finished (s.finalStatus e) e') : e'.Valid s.tasks := by
  have hev := hf.toExtended.evidence_same rfl
  have hplan := hf.toExtended.plan_eq
  have hnum := hf.toExtended.numbered h.sequence_eq h.numbered
  have hnone : e'.containment = none := by
    rw [hf.containment_eq]
    exact by_contra fun hne => hs (h.contained_iff.mpr hne)
  have halert : ∀ id, e'.alertRules id = e.alertRules id := fun id => by
    rw [alertRules, hf.alerts_eq.1]; rfl
  have hfinal := h.finalStatus_evidence hall
  rw [← hf.status_eq] at hfinal
  exact {
    nodup := by rw [hf.tasks_eq]; exact h.nodup
    length_eq := by rw [hf.tasks_eq, hf.scenario_eq]; exact h.length_eq
    observed_nodup := by rw [hf.observed_eq]; exact h.observed_nodup
    observed_mem := by rw [hf.observed_eq, hf.tasks_eq]; exact h.observed_mem
    evidence_none := fun id hid => by rw [hev]; exact h.evidence_none id (hf.observed_eq ▸ hid)
    alerts_nodup := by rw [hf.alerts_eq.1]; exact h.alerts_nodup
    alerts_planned := by
      rw [hf.alerts_eq.1, hf.observed_eq, hplan, hf.scenario_eq]; exact h.alerts_planned
    detected_iff := by rw [hf.alerts_eq.1, hf.alerts_eq.2]; exact h.detected_iff
    alerts_open := by rw [hf.alerts_eq.1, hf.containment_eq]; exact h.alerts_open
    alerts_closed := by rw [hf.alerts_eq.1, hf.containment_eq]; exact h.alerts_closed
    contained_iff := by
      rcases hfinal with ⟨hst, -⟩ | ⟨hst, -⟩ <;> simp [hst, hnone]
    running_iff := fun _ => by
      rw [hf.completion_eq.1]
      rcases hfinal with ⟨hst, -⟩ | ⟨hst, -⟩ <;> simp [hst]
    completed_at := fun _ => hf.completion_eq.2
    recorded_observed := fun _ id hid => by
      rw [hf.observed_eq]; exact (hall id (hf.tasks_eq ▸ hid)).1
    completed_all := fun hst id hid => by
      rcases hfinal with ⟨-, hcomp⟩ | ⟨hst', -⟩
      · rw [hev]; exact hcomp id (hf.tasks_eq ▸ hid)
      · rw [hst'] at hst; cases hst
    failed_some := fun hst => by
      rcases hfinal with ⟨hst', -⟩ | ⟨-, id, hid, hne⟩
      · rw [hst'] at hst; cases hst
      · exact ⟨id, hf.tasks_eq ▸ hid, by rw [hev]; exact hne⟩
    sequence_eq := hnum.1
    numbered := hnum.2
    room := by
      have hroom := h.room
      rw [hf.toExtended.length_eq, List.length_singleton]
      unfold reserve at hroom ⊢
      rw [if_neg (by simp [hc])] at hroom
      rw [hplan, hf.scenario_eq, hf.observed_eq, hf.completion_eq.1, hf.containment_eq,
        if_pos rfl]
      omega
    planned := by rw [hplan, hf.id_eq, hf.node_eq]; exact h.planned
    observed_ended := by rw [hf.observed_eq]; exact h.observed_ended
    evidence_eq := by simp only [hev, hplan, hf.observed_eq, hf.scenario_eq]; exact h.evidence_eq
    alertRules_eq := by
      simp only [halert, hplan, hf.observed_eq, hf.scenario_eq, hf.containment_eq]
      exact h.alertRules_eq
    running_retained := fun hst => by
      rcases hfinal with ⟨hst', -⟩ | ⟨hst', -⟩ <;> rw [hst'] at hst <;> cases hst }

/-- Applying containment keeps the invariant. -/
theorem Valid.contained {action : ContainmentAction} (h : e.Valid tasks)
    (hs : e.status ≠ .contained) (hf : e.Contained action e') : e'.Valid tasks := by
  have hev := hf.toExtended.evidence_same rfl
  have hplan := hf.toExtended.plan_eq
  have hnum := hf.toExtended.numbered h.sequence_eq h.numbered
  have hnone : e.containment = none := by_contra fun hne => hs (h.contained_iff.mpr hne)
  have hsome : e'.containment ≠ none := fun hn => by simpa [hn] using hf.containment_eq
  obtain ⟨time, halerts⟩ := hf.alerts_eq
  have hshut : ∀ a ∈ e'.alerts, ∃ b ∈ e.alerts, a.rule = b.rule ∧ a.taskId = b.taskId ∧
      a.isOpen = false ∧ a.containedAt.isSome := by
    intro a ha
    rw [halerts] at ha
    obtain ⟨b, hb, rfl⟩ := List.mem_map.mp ha
    have hopen := (h.alerts_open hnone b hb).1
    exact ⟨b, hb, by simp, by simp, by simp [Alert.contain, hopen]⟩
  have halert : ∀ id, e'.alertRules id = e.alertRules id := fun id => by
    simp [alertRules, halerts, List.filter_map, Function.comp_def]
  exact {
    nodup := by rw [hf.tasks_eq]; exact h.nodup
    length_eq := by rw [hf.tasks_eq, hf.scenario_eq]; exact h.length_eq
    observed_nodup := by rw [hf.observed_eq]; exact h.observed_nodup
    observed_mem := by rw [hf.observed_eq, hf.tasks_eq]; exact h.observed_mem
    evidence_none := fun id hid => by rw [hev]; exact h.evidence_none id (hf.observed_eq ▸ hid)
    alerts_nodup := by
      rw [halerts, List.map_map]
      simpa [Function.comp_def] using h.alerts_nodup
    alerts_planned := fun a ha => by
      obtain ⟨b, hb, hr, ht, -⟩ := hshut a ha
      rw [hr, ht, hf.observed_eq, hplan, hf.scenario_eq]
      exact h.alerts_planned b hb
    detected_iff := by
      rw [hf.detected_eq, halerts]
      simpa using h.detected_iff
    alerts_open := fun hn => absurd hn hsome
    alerts_closed := fun _ a ha => by
      obtain ⟨-, -, -, -, hsh⟩ := hshut a ha
      exact hsh
    contained_iff := by simp [hf.status_eq, hsome]
    running_iff := fun hn => absurd hn hsome
    completed_at := fun _ => hf.completion_eq.2
    recorded_observed := fun hr id hid => by
      rw [hf.observed_eq]
      exact h.recorded_observed (hf.completion_eq.1 ▸ hr) id (hf.tasks_eq ▸ hid)
    completed_all := fun hst => by rw [hf.status_eq] at hst; cases hst
    failed_some := fun hst => by rw [hf.status_eq] at hst; cases hst
    sequence_eq := hnum.1
    numbered := hnum.2
    room := by
      have hroom := h.room
      rw [hf.toExtended.length_eq, List.length_singleton]
      unfold reserve at hroom ⊢
      rw [if_pos hnone] at hroom
      rw [hplan, hf.scenario_eq, hf.observed_eq, hf.completion_eq.1, if_neg hsome]
      omega
    planned := by rw [hplan, hf.id_eq, hf.node_eq]; exact h.planned
    observed_ended := by rw [hf.observed_eq]; exact h.observed_ended
    evidence_eq := by simp only [hev, hplan, hf.observed_eq, hf.scenario_eq]; exact h.evidence_eq
    alertRules_eq := fun hq hobs ht => by
      rw [hplan] at hq
      rw [halert, hf.scenario_eq]
      rcases h.alertRules_eq hq (hf.observed_eq ▸ hobs) ht with ⟨hnil, -⟩ | heq
      · exact .inl ⟨hnil, fun _ => .inl hsome⟩
      · exact .inr heq
    running_retained := fun hst => by rw [hf.status_eq] at hst; cases hst }

/-! ### A new exercise -/

/-- The timeline of a scenario, all its tasks observed, alerted, completed and contained, fits. -/
theorem scenario_fits (sc : ScenarioId) :
    3 + ((scenarioDefinition sc).playbooks.map (cost sc)).sum + 2 ≤ maxExerciseTimeline := by
  cases sc <;> decide

/-- The tasks of a prepared exercise are all queued. -/
theorem Prepared.queued {w : World} {s : LabState} (h : e.Prepared w s)
    (hf : w.FreshBelow s.draws) {id : PyStr} (hid : id ∈ e.taskIds) :
    ∃ t, s.tasks.get? id = some t ∧ t.status = .queued := by
  obtain ⟨p, hp⟩ := exists_planned (h.tasks hf).length_eq hid
  obtain ⟨t, ht, hq, -⟩ := (List.forall₂_iff_zip.mp (h.tasks hf)).2 hp
  exact ⟨t, ht, hq⟩

/-- A prepared exercise satisfies the invariant when it is stored. -/
theorem Prepared.valid {w : World} {s : LabState} (h : e.Prepared w s)
    (hf : w.FreshBelow s.draws) : e.Valid s.tasks := by
  have htasks := h.tasks hf
  have hlen := htasks.length_eq
  have hget : ∀ {id p}, (id, p) ∈ e.plan → ∃ t, s.tasks.get? id = some t ∧ t.status = .queued ∧
      t.command = .runPlaybook p ∧ t.exerciseId = some e.id ∧ t.nodeId = e.nodeId := by
    intro id p hp
    exact (List.forall₂_iff_zip.mp htasks).2 hp
  have hev : ∀ id, e.evidence id = [] := by
    intro id
    refine List.filter_eq_nil_iff.mpr fun i hi => ?_
    obtain ⟨x, hx, rfl⟩ := List.mem_map.mp hi
    rcases h.no_evidence x hx with hk | hk <;> simp [TimelineItem.isEvidence, hk,
      TaskStatus.isTerminal]
  exact {
    nodup := h.nodup hf
    length_eq := hlen
    observed_nodup := by simp [h.observed_eq]
    observed_mem := by simp [h.observed_eq]
    evidence_none := fun id _ => hev id
    alerts_nodup := by simp [h.alerts_eq]
    alerts_planned := by simp [h.alerts_eq]
    detected_iff := by simp [h.alerts_eq, h.detected_eq]
    alerts_open := by simp [h.alerts_eq]
    alerts_closed := by simp [h.alerts_eq]
    contained_iff := by simp [h.status_eq, h.containment_eq]
    running_iff := by simp [h.status_eq, h.completion_eq]
    completed_at := by simp [h.status_eq]
    recorded_observed := by simp [h.completion_eq]
    completed_all := by simp [h.status_eq]
    failed_some := by simp [h.status_eq]
    sequence_eq := h.sequence_eq
    numbered := h.numbered
    room := by
      have hfit := scenario_fits e.scenarioId
      have hk := playbooks_length e.scenarioId
      have howed : Plan.owed (fun x => cost e.scenarioId x.2) e.plan [] =
          ((scenarioDefinition e.scenarioId).playbooks.map (cost e.scenarioId)).sum := by
        have hsnd : e.plan.map Prod.snd = (scenarioDefinition e.scenarioId).playbooks :=
          List.map_snd_zip (by omega)
        rw [← hsnd, List.map_map]
        simp [Plan.owed, Function.comp_def]
      rw [h.length_eq, reserve, h.observed_eq, howed, h.completion_eq, h.containment_eq]
      simp only [Bool.false_eq_true, if_false, if_true]
      omega
    planned := fun hp ht => by
      obtain ⟨t, ht', -, hrest⟩ := hget hp
      rw [ht, Option.some.injEq] at ht'
      exact ht' ▸ hrest
    observed_ended := by simp [h.observed_eq]
    evidence_eq := fun _ hobs => by simp [h.observed_eq] at hobs
    alertRules_eq := fun _ hobs => by simp [h.observed_eq] at hobs
    running_retained := fun _ id hid => by
      obtain ⟨t, ht, -⟩ := h.queued hf hid
      exact ⟨t, ht⟩ }

end C2Lab.Exercise
