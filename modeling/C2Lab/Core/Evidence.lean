import C2Lab.Core.Change

/-! How the record of one exercise is rewritten: timeline entries, alerts, the terminal state.

    `Edits` says that a write touched one exercise record and the journal and nothing else; edits of
    the same exercise compose. -/

namespace C2Lab

variable {w : World} {s s₁ s₂ : LabState} {e e₁ e₂ : Exercise}

/-- `s₁` is `s` with one exercise record rewritten and the journal grown. -/
structure LabState.Edits (w : World) (s : LabState) (e : Exercise) (s₁ : LabState) : Prop where
  records : s₁.toRecords = { s.toRecords with exercises := s.exercises.set e.id e }
  journal : s.toJournal.Grow w Quiet s₁.toJournal

namespace LabState.Edits

theorem refl (he : s.exercises.get? e.id = some e) : s.Edits w e s :=
  ⟨by rw [Dict.set_self he], .refl⟩

theorem get? (h : s.Edits w e s₁) : s₁.exercises.get? e.id = some e := by
  rw [h.records]; simp

theorem trans (h : s.Edits w e₁ s₁) (h' : s₁.Edits w e₂ s₂) (hid : e₂.id = e₁.id) :
    s.Edits w e₂ s₂ := by
  refine ⟨?_, h.journal.trans h'.journal⟩
  rw [h'.records, h.records, hid]
  simp only [Dict.set_set]

theorem tick (h : s.Edits w e s₁) : s.Edits w e s₁.tick := ⟨h.records, h.journal.tick⟩

theorem record (h : s.Edits w e s₁) {d : EventDraft} (hd : Quiet d) :
    s.Edits w e (s₁.recordLocked w d) :=
  ⟨by rw [toRecords_recordLocked, h.records], h.journal.record hd⟩

theorem audit (h : s.Edits w e s₁) (d : AuditDraft) : s.Edits w e (s₁.auditLocked w d) :=
  ⟨by rw [toRecords_auditLocked, h.records], h.journal.audit d⟩

/-- Writing the exercise itself, after some draws. -/
theorem write (hr : s₁.toRecords = s.toRecords) (hj : s.toJournal.Grow w Quiet s₁.toJournal) :
    s.Edits w e (s₁.setExercise e) :=
  ⟨by rw [toRecords_setExercise, hr], hj⟩

end LabState.Edits

namespace Exercise

/-- Timeline entries were appended and nothing else changed. -/
structure Appended (items : List TimelineItem) (e e' : Exercise) : Prop
    extends Extended items e e' where
  observed_eq : e'.observedTaskIds = e.observedTaskIds
  status_eq : e'.status = e.status
  containment_eq : e'.containment = e.containment
  completion_eq : e'.completionRecorded = e.completionRecorded ∧ e'.completedAt = e.completedAt
  alerts_eq : e'.alerts = e.alerts ∧ e'.detected = e.detected

theorem Extended.refl (e : Exercise) : Extended [] e e :=
  ⟨rfl, rfl, rfl, ⟨rfl, rfl⟩, rfl, rfl, [], by simp⟩

theorem Extended.trans {a b : List TimelineItem} (h : Extended a e e₁) (h' : Extended b e₁ e₂) :
    Extended (a ++ b) e e₂ := by
  refine ⟨h'.id_eq.trans h.id_eq, h'.scenario_eq.trans h.scenario_eq, h'.node_eq.trans h.node_eq,
    ⟨h'.created_eq.1.trans h.created_eq.1, h'.created_eq.2.trans h.created_eq.2⟩,
    h'.tasks_eq.trans h.tasks_eq, ?_, ?_⟩
  · rw [h'.sequence_eq, h.sequence_eq, List.length_append, Nat.add_assoc]
  · obtain ⟨new, heq, hitems, hseq⟩ := h.timeline_eq
    obtain ⟨new', heq', hitems', hseq'⟩ := h'.timeline_eq
    refine ⟨new ++ new', by rw [heq', heq, List.append_assoc], by simp [hitems, hitems'], ?_⟩
    rw [List.map_append, hseq, hseq', h.sequence_eq, List.length_append, Nat.add_right_comm,
      ← @List.range'_append _ _ _ 1, Nat.one_mul]

theorem Extended.length_eq {items : List TimelineItem} (h : Extended items e e₁) :
    e₁.timeline.length = e.timeline.length + items.length := by
  obtain ⟨new, heq, hitems, -⟩ := h.timeline_eq
  rw [heq, List.length_append, ← hitems, List.length_map]

theorem Extended.items_eq {items : List TimelineItem} (h : Extended items e e₁) :
    e₁.timeline.map (·.item) = e.timeline.map (·.item) ++ items := by
  obtain ⟨new, heq, hitems, -⟩ := h.timeline_eq
  rw [heq, List.map_append, hitems]

/-- An append that finds room. -/
theorem appendTimeline_appended (time : Timestamp) (item : TimelineItem)
    (hroom : e.timeline.length < maxExerciseTimeline) :
    Appended [item] e (e.appendTimeline time item) := by
  rw [appendTimeline, if_neg (by omega)]
  exact ⟨⟨rfl, rfl, rfl, ⟨rfl, rfl⟩, rfl, rfl, [⟨e.timelineSequence + 1, time, item⟩], by simp⟩,
    rfl, rfl, rfl, ⟨rfl, rfl⟩, rfl, rfl⟩

theorem Appended.trans {a b : List TimelineItem} (h : Appended a e e₁) (h' : Appended b e₁ e₂) :
    Appended (a ++ b) e e₂ where
  toExtended := h.toExtended.trans h'.toExtended
  observed_eq := h'.observed_eq.trans h.observed_eq
  status_eq := h'.status_eq.trans h.status_eq
  containment_eq := h'.containment_eq.trans h.containment_eq
  completion_eq := ⟨h'.completion_eq.1.trans h.completion_eq.1,
    h'.completion_eq.2.trans h.completion_eq.2⟩
  alerts_eq := ⟨h'.alerts_eq.1.trans h.alerts_eq.1, h'.alerts_eq.2.trans h.alerts_eq.2⟩

/-- The exercise once the alerts of some rules were raised for a task. -/
structure Alerted (taskId : PyStr) (rules : List DetectionRule) (e e' : Exercise) : Prop
    extends Extended (rules.map (LabState.detectionItem taskId)) e e' where
  observed_eq : e'.observedTaskIds = e.observedTaskIds
  status_eq : e'.status = e.status
  containment_eq : e'.containment = e.containment
  completion_eq : e'.completionRecorded = e.completionRecorded ∧ e'.completedAt = e.completedAt
  detected_eq : e'.detected = (e.detected || !rules.isEmpty)
  alerts_eq : ∃ new, e'.alerts = e.alerts ++ new ∧ new.map (·.rule) = rules ∧
    ∀ a ∈ new, a.taskId = taskId ∧ a.isOpen = true ∧ a.containedAt = none

theorem Alerted.refl (e : Exercise) (taskId : PyStr) : Alerted taskId [] e e :=
  ⟨.refl e, rfl, rfl, rfl, ⟨rfl, rfl⟩, by simp, [], by simp⟩

theorem Alerted.trans {taskId : PyStr} {a b : List DetectionRule} (h : Alerted taskId a e e₁)
    (h' : Alerted taskId b e₁ e₂) : Alerted taskId (a ++ b) e e₂ where
  toExtended := by rw [List.map_append]; exact h.toExtended.trans h'.toExtended
  observed_eq := h'.observed_eq.trans h.observed_eq
  status_eq := h'.status_eq.trans h.status_eq
  containment_eq := h'.containment_eq.trans h.containment_eq
  completion_eq := ⟨h'.completion_eq.1.trans h.completion_eq.1,
    h'.completion_eq.2.trans h.completion_eq.2⟩
  detected_eq := by
    rw [h'.detected_eq, h.detected_eq, Bool.or_assoc]
    cases a <;> cases b <;> simp
  alerts_eq := by
    obtain ⟨new, heq, hrule, hnew⟩ := h.alerts_eq
    obtain ⟨new', heq', hrule', hnew'⟩ := h'.alerts_eq
    refine ⟨new ++ new', by rw [heq', heq, List.append_assoc], by simp [hrule, hrule'], ?_⟩
    intro x hx
    rcases List.mem_append.mp hx with hx | hx
    · exact hnew x hx
    · exact hnew' x hx

end Exercise

namespace LabState

open Exercise

/-- One append to the timeline of a stored exercise that has room. -/
theorem append_edits (w : World) (item : TimelineItem) (he : s.exercises.get? e.id = some e)
    (hroom : e.timeline.length < maxExerciseTimeline) :
    ∃ e', s.Edits w e' (s.appendExerciseTimelineLocked w e.id item) ∧ Appended [item] e e' := by
  refine ⟨e.appendTimeline (w.utcNow s.draws) item, ?_, appendTimeline_appended _ _ hroom⟩
  rw [appendExerciseTimelineLocked, he]
  simp only [if_neg (Nat.not_le.mpr hroom)]
  exact (Edits.write rfl .refl).tick

/-- Several appends. -/
theorem foldl_append_edits (w : World) (items : List TimelineItem)
    (he : s.exercises.get? e.id = some e)
    (hroom : e.timeline.length + items.length ≤ maxExerciseTimeline) :
    ∃ e', s.Edits w e'
      (items.foldl (fun s item => s.appendExerciseTimelineLocked w e.id item) s) ∧
      Appended items e e' := by
  induction items generalizing s e with
  | nil => exact ⟨e, .refl he, .refl e, rfl, rfl, rfl, ⟨rfl, rfl⟩, rfl, rfl⟩
  | cons item items ih =>
    rw [List.length_cons] at hroom
    obtain ⟨e₁, hedit, happ⟩ := append_edits w item he (by omega)
    have hlen := happ.length_eq
    rw [List.length_singleton] at hlen
    obtain ⟨e₂, hedit', happ'⟩ := ih hedit.get? (by omega)
    rw [happ.id_eq] at hedit'
    exact ⟨e₂, hedit.trans hedit' happ'.id_eq, happ.trans happ'⟩

/-- A rule that has no alert yet raises one. -/
theorem matchDetection_edits (w : World) (taskId : PyStr) {rule : DetectionRule}
    (he : s.exercises.get? e.id = some e) (hnew : ∀ a ∈ e.alerts, a.rule.id ≠ rule.id)
    (hroom : e.timeline.length < maxExerciseTimeline) :
    ∃ e', s.Edits w e' (s.matchDetection w e.id taskId rule) ∧ Alerted taskId [rule] e e' := by
  rw [matchDetection, he]
  have hany : e.alerts.any (fun a => a.rule.id = rule.id) = false := by
    simpa [List.any_eq_false] using hnew
  simp only [hany, if_false, Bool.false_eq_true]
  set alert : Alert :=
    { id := w.alertId (s.draws + 1), rule := rule, isOpen := true
      detectedAt := w.utcNow s.draws, containedAt := none, taskId := taskId } with halert
  set e₁ : Exercise := { e with alerts := e.alerts ++ [alert], detected := true } with he₁
  have hwrite : s.Edits w e₁ (s.tick.tick.setExercise e₁) :=
    .write rfl (.tick (.tick .refl))
  obtain ⟨e₂, hedit, happ⟩ := append_edits w (detectionItem taskId rule) hwrite.get? hroom
  refine ⟨e₂, ((hwrite.trans hedit happ.id_eq).record (by simp [Quiet])).audit _, ?_⟩
  obtain ⟨hid, hsc, hno, hcr, hta, hseq, htl⟩ := happ.toExtended
  refine ⟨⟨hid, hsc, hno, hcr, hta, hseq, htl⟩, happ.observed_eq, happ.status_eq,
    happ.containment_eq, happ.completion_eq, ?_, [alert], happ.alerts_eq.1, rfl, ?_⟩
  · simp [happ.alerts_eq.2, he₁]
  · simp [halert]

/-- Several rules, with different identifiers, that have no alert yet. -/
theorem foldl_match_edits (w : World) (taskId : PyStr) (rules : List DetectionRule)
    (he : s.exercises.get? e.id = some e) (hnodup : (rules.map (·.id)).Nodup)
    (hnew : ∀ r ∈ rules, ∀ a ∈ e.alerts, a.rule.id ≠ r.id)
    (hroom : e.timeline.length + rules.length ≤ maxExerciseTimeline) :
    ∃ e', s.Edits w e' (rules.foldl (fun s rule => s.matchDetection w e.id taskId rule) s) ∧
      Alerted taskId rules e e' := by
  induction rules generalizing s e with
  | nil => exact ⟨e, .refl he, .refl e taskId⟩
  | cons rule rules ih =>
    rw [List.length_cons] at hroom
    rw [List.map_cons, List.nodup_cons] at hnodup
    obtain ⟨e₁, hedit, hal⟩ := matchDetection_edits w taskId he
      (hnew rule List.mem_cons_self) (by omega)
    have hlen := hal.length_eq
    simp only [List.map_cons, List.map_nil, List.length_singleton] at hlen
    have hnew' : ∀ r ∈ rules, ∀ a ∈ e₁.alerts, a.rule.id ≠ r.id := by
      intro r hr a ha
      obtain ⟨new, heq, hrule, -⟩ := hal.alerts_eq
      rw [heq] at ha
      rcases List.mem_append.mp ha with ha | ha
      · exact hnew r (List.mem_cons_of_mem _ hr) a ha
      · have hmem : a.rule ∈ new.map (·.rule) := List.mem_map_of_mem ha
        rw [hrule, List.mem_singleton] at hmem
        rw [hmem]
        exact fun heq => hnodup.1 (heq ▸ List.mem_map_of_mem hr)
    obtain ⟨e₂, hedit', hal'⟩ := ih hedit.get? hnodup.2 hnew' (by omega)
    rw [hal.id_eq] at hedit'
    exact ⟨e₂, hedit.trans hedit' hal'.id_eq, hal.trans hal'⟩

end LabState

end C2Lab
