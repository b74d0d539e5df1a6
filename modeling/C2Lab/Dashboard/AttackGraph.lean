import C2Lab.Dashboard.AttackIds

/-! The attack graph is well-formed, and what it shows as detected has an alert.

    The loop over the playbooks keeps that every anchor and every end of a relation is an entity;
    the ids of the entities are those of the steps, one after the other. -/

namespace C2Lab

variable {js : JsRuntime} {c : AttackContext} {exercise : JsValue} {state : AttackState}

/-! ### Plain ids -/

theorem colon_notMem_playbook {playbook : JsString} (h : playbook ∈ attackPlaybooks c) :
    0x3A ∉ playbook.units := by
  have hall : ∀ id ∈ operationPlaybooks.map JsString.ofString, 0x3A ∉ id.units := by decide
  have hmem := (List.mem_filter.mp (List.mem_of_mem_take h)).2
  exact hall playbook (of_decide_eq_true hmem)

theorem colon_notMem_technique {t : AttackTask} {playbook techniqueId : JsString}
    (h : techniqueId ∈ techniqueIds js c t playbook) : 0x3A ∉ techniqueId.units := by
  have hall : ∀ id ∈ graphTechniqueIds.map JsString.ofString, 0x3A ∉ id.units := by decide
  exact hall techniqueId (of_decide_eq_true (List.mem_filter.mp h).2)

theorem index_lt {step : JsString × ℕ} (h : step ∈ (attackPlaybooks c).zipIdx) : step.2 < 4 := by
  have hlt := List.snd_lt_of_mem_zipIdx h
  have hlen : (attackPlaybooks c).length ≤ 4 := List.length_take_le 4 _
  omega

theorem attackTaskId_cases (js : JsRuntime) (c : AttackContext) (playbook : JsString)
    (playbookIndex : ℕ) :
    (c.representedTaskId playbook playbookIndex).truthy = true ∧
        attackTaskId js c playbook playbookIndex =
          .task (js.toText (c.representedTaskId playbook playbookIndex)) ∨
      attackTaskId js c playbook playbookIndex = .plannedTask playbookIndex := by
  unfold attackTaskId
  split
  · rename_i htruthy
    exact .inl ⟨htruthy, rfl⟩
  · exact .inr rfl

theorem mem_stepIds {step : JsString × ℕ} {a : AttackId} : a ∈ stepIds js c step ↔
    a = attackTaskId js c step.1 step.2 ∨ a = .playbook step.2 step.1 ∨
      (∃ id ∈ techniqueIds js c (c.attackTask js step.1 step.2) step.1,
        .technique step.2 id = a) ∨
      ∃ rule ∈ playbookRules c step.1, .detection rule.id = a := by
  simp only [stepIds, List.mem_cons, List.mem_append, List.mem_map]

theorem plain_stepId {step : JsString × ℕ} (hstep : step ∈ (attackPlaybooks c).zipIdx)
    {a : AttackId} (ha : a ∈ stepIds js c step) : a.Plain := by
  have hindex := index_lt hstep
  rcases mem_stepIds.mp ha with rfl | rfl | ⟨id, hid, rfl⟩ | ⟨rule, -, rfl⟩
  · rcases attackTaskId_cases js c step.1 step.2 with ⟨-, he⟩ | he
    · exact he ▸ trivial
    · exact he ▸ hindex
  · exact ⟨hindex, colon_notMem_playbook (List.fst_mem_of_mem_zipIdx hstep)⟩
  · exact ⟨hindex, colon_notMem_technique hid⟩
  · trivial

theorem plain_sourceId (js : JsRuntime) (c : AttackContext) : (sourceId js c).Plain := by
  unfold sourceId
  split <;> trivial

/-! ### No id twice -/

/-- What keeps the ids of a scenario apart: its playbooks and its rules are different ones, and so
    are the tasks that stand for the playbooks. -/
structure AttackContext.Distinct (js : JsRuntime) (c : AttackContext) : Prop where
  playbooks : (attackPlaybooks c).Nodup
  rules : (c.scenario.detections.map (·.id)).Nodup
  tasks : ∀ s ∈ (attackPlaybooks c).zipIdx, ∀ s' ∈ (attackPlaybooks c).zipIdx,
    (c.representedTaskId s.1 s.2).truthy = true → (c.representedTaskId s'.1 s'.2).truthy = true →
    js.toText (c.representedTaskId s.1 s.2) = js.toText (c.representedTaskId s'.1 s'.2) →
    s.2 = s'.2

theorem mem_playbookRules {playbook : JsString} {rule : GraphDetection} :
    rule ∈ playbookRules c playbook ↔ rule ∈ c.scenario.detections ∧ rule.playbook = playbook := by
  simp [playbookRules]

theorem stepIds_nodup (h : c.Distinct js) (step : JsString × ℕ) : (stepIds js c step).Nodup := by
  have htechniques : (techniqueIds js c (c.attackTask js step.1 step.2) step.1).Nodup :=
    (JsSet.nodup_of _).filter _
  have hrules : ((playbookRules c step.1).map (·.id)).Nodup :=
    h.rules.sublist (List.filter_sublist.map _)
  have htail : ((techniqueIds js c (c.attackTask js step.1 step.2) step.1).map
      (AttackId.technique step.2) ++
      (playbookRules c step.1).map fun rule => AttackId.detection rule.id).Nodup := by
    rw [List.nodup_append]
    refine ⟨htechniques.map fun _ _ he => (AttackId.technique.inj he).2, ?_, ?_⟩
    · have hmap := hrules.map fun _ _ => AttackId.detection.inj
      rwa [List.map_map] at hmap
    · intro a ha b hb he
      obtain ⟨id, -, rfl⟩ := List.mem_map.mp ha
      obtain ⟨rule, -, rfl⟩ := List.mem_map.mp hb
      cases he
  rw [stepIds, List.nodup_cons, List.nodup_cons]
  refine ⟨fun hmem => ?_, fun hmem => ?_, htail⟩
  · rcases attackTaskId_cases js c step.1 step.2 with ⟨-, he⟩ | he <;> rw [he] at hmem <;>
      simp at hmem
  · simp at hmem

/-- An id of a step has its index in it, or is the task that stands for its playbook, or is one of
    its rules. -/
theorem stepId_origin {step : JsString × ℕ} {a : AttackId} (ha : a ∈ stepIds js c step) :
    a.index? = some step.2 ∨
      ((c.representedTaskId step.1 step.2).truthy = true ∧
        a = .task (js.toText (c.representedTaskId step.1 step.2))) ∨
      ∃ rule ∈ c.scenario.detections, rule.playbook = step.1 ∧ a = .detection rule.id := by
  rcases mem_stepIds.mp ha with rfl | rfl | ⟨id, -, rfl⟩ | ⟨rule, hrule, rfl⟩
  · rcases attackTaskId_cases js c step.1 step.2 with htask | he
    · exact .inr (.inl htask)
    · exact .inl (he ▸ rfl)
  · exact .inl rfl
  · exact .inl rfl
  · obtain ⟨hmem, hplaybook⟩ := mem_playbookRules.mp hrule
    exact .inr (.inr ⟨rule, hmem, hplaybook, rfl⟩)

/-- Two steps share no id. -/
theorem stepIds_disjoint (h : c.Distinct js) {s s' : JsString × ℕ}
    (hs : s ∈ (attackPlaybooks c).zipIdx) (hs' : s' ∈ (attackPlaybooks c).zipIdx)
    (hindex : s.2 ≠ s'.2) (hplaybook : s.1 ≠ s'.1) :
    List.Disjoint (stepIds js c s) (stepIds js c s') := by
  intro a ha ha'
  rcases stepId_origin ha with hi | ⟨htask, rfl⟩ | ⟨rule, hrule, hp, rfl⟩ <;>
    rcases stepId_origin ha' with hi' | ⟨htask', he⟩ | ⟨rule', hrule', hp', he⟩
  · exact hindex (Option.some.inj (hi.symm.trans hi'))
  · rw [he] at hi
    cases hi
  · rw [he] at hi
    cases hi
  · cases hi'
  · exact hindex (h.tasks s hs s' hs' htask htask' (AttackId.task.inj he))
  · cases he
  · cases hi'
  · cases he
  · -- a rule belongs to one playbook only
    have hsame := List.inj_on_of_nodup_map h.rules hrule hrule' (AttackId.detection.inj he)
    exact hplaybook (by rw [← hp, ← hp', hsame])

/-- The ids of the entities. -/
def attackIds (js : JsRuntime) (c : AttackContext) : List AttackId :=
  sourceId js c :: ((attackPlaybooks c).zipIdx.flatMap (stepIds js c) ++
    if c.scenario.containmentActions ≠ [] then [.containment] else [])

theorem mem_stepIds_start {a : AttackId}
    (ha : a ∈ (attackPlaybooks c).zipIdx.flatMap (stepIds js c)) :
    a ≠ sourceId js c ∧ a ≠ .containment := by
  obtain ⟨step, -, ha⟩ := List.mem_flatMap.mp ha
  unfold sourceId
  rcases mem_stepIds.mp ha with rfl | rfl | ⟨id, -, rfl⟩ | ⟨rule, -, rfl⟩
  · rcases attackTaskId_cases js c step.1 step.2 with ⟨-, he⟩ | he <;> rw [he] <;> split <;> simp
  all_goals split <;> simp

theorem attackIds_nodup (h : c.Distinct js) : (attackIds js c).Nodup := by
  have hindices : ((attackPlaybooks c).zipIdx.map Prod.snd).Nodup := by
    rw [List.zipIdx_map_snd]
    exact List.nodup_range'
  have hplaybooks : ((attackPlaybooks c).zipIdx.map Prod.fst).Nodup := by
    rw [List.zipIdx_map_fst]
    exact h.playbooks
  have hsteps : ((attackPlaybooks c).zipIdx.flatMap (stepIds js c)).Nodup := by
    rw [List.nodup_flatMap]
    refine ⟨fun step _ => stepIds_nodup h step, ?_⟩
    have hpairs := (List.pairwise_map.mp hindices).and (List.pairwise_map.mp hplaybooks)
    exact hpairs.imp_of_mem fun hs hs' hne => stepIds_disjoint h hs hs' hne.1 hne.2
  rw [attackIds, List.nodup_cons, List.nodup_append]
  refine ⟨fun hmem => ?_, hsteps, ?_, ?_⟩
  · rcases List.mem_append.mp hmem with hmem | hmem
    · exact (mem_stepIds_start hmem).1 rfl
    · unfold sourceId at hmem
      split at hmem <;> split at hmem <;> simp at hmem
  · split <;> simp
  · intro a ha b hb he
    subst he
    split at hb
    · exact (mem_stepIds_start ha).2 (List.mem_singleton.mp hb)
    · cases hb

theorem plain_attackId {a : AttackId} (ha : a ∈ attackIds js c) : a.Plain := by
  rcases List.mem_cons.mp ha with rfl | ha
  · exact plain_sourceId js c
  · rcases List.mem_append.mp ha with ha | ha
    · obtain ⟨step, hstep, ha⟩ := List.mem_flatMap.mp ha
      exact plain_stepId hstep ha
    · split at ha
      · rw [List.mem_singleton.mp ha]
        trivial
      · cases ha

/-! ### The entities of the graph -/

theorem foldl_attackStep_ids (steps : List (JsString × ℕ)) (state : AttackState) :
    ((steps.foldl (attackStep js c) state).entities).map (·.id) =
      state.entities.map (·.id) ++
        (steps.flatMap (stepIds js c)).map (AttackId.render c.focusValue) := by
  induction steps generalizing state with
  | nil => simp
  | cons step steps ih =>
    rw [List.foldl_cons, ih, attackStep, List.map_append, stepEntities_ids, List.flatMap_cons,
      List.map_append, List.append_assoc]

theorem attackModel_ids : (attackModel js c exercise (attackSteps js c exercise)).entities.map
    (·.id) = (attackIds js c).map (AttackId.render c.focusValue) := by
  rw [attackModel, List.map_append, attackSteps, foldl_attackStep_ids, attackIds, List.map_cons,
    List.map_cons, List.map_append, List.map_nil, id_sourceEntity, List.cons_append,
    List.nil_append, List.cons_append]
  split <;> rfl

/-! ### Its relations -/

/-- Every anchor and every end of a relation is the id of an entity. -/
structure AttackState.Closed (state : AttackState) : Prop where
  anchors : ∀ a ∈ state.anchors, a.id ∈ state.entities.map (·.id)
  containmentAnchors : ∀ a ∈ state.containmentAnchors, a.id ∈ state.entities.map (·.id)
  edges : ∀ e ∈ state.edges,
    e.source ∈ state.entities.map (·.id) ∧ e.target ∈ state.entities.map (·.id)

section
variable {playbook : JsString} {playbookIndex layer : ℕ}

theorem taskId_mem_step : (c.attackTask js playbook playbookIndex).taskId ∈
    (stepEntities js c playbook playbookIndex layer).map (·.id) := List.mem_cons_self

theorem playbookId_mem_step : attackPlaybookId c playbook playbookIndex ∈
    (stepEntities js c playbook playbookIndex layer).map (·.id) :=
  List.mem_cons_of_mem _ List.mem_cons_self

theorem techniqueAnchor_mem_step {id : JsString}
    (h : id ∈ techniqueIds js c (c.attackTask js playbook playbookIndex) playbook) :
    (techniqueAnchor js c (c.attackTask js playbook playbookIndex) playbookIndex id).id ∈
      (stepEntities js c playbook playbookIndex layer).map (·.id) := by
  refine List.mem_cons_of_mem _ (List.mem_cons_of_mem _ ?_)
  rw [List.map_append, List.map_map]
  exact List.mem_append_left _ (List.mem_map.mpr ⟨id, h, rfl⟩)

theorem detectionAnchor_mem_step {rule : GraphDetection} (h : rule ∈ playbookRules c playbook) :
    (detectionAnchor c (c.attackTask js playbook playbookIndex) rule).id ∈
      (stepEntities js c playbook playbookIndex layer).map (·.id) := by
  refine List.mem_cons_of_mem _ (List.mem_cons_of_mem _ ?_)
  rw [List.map_append, List.map_map, List.map_map]
  exact List.mem_append_right _ (List.mem_map.mpr ⟨rule, h, rfl⟩)

theorem detectionSource_mem_step (rule : GraphDetection) :
    (detectionSource js c (c.attackTask js playbook playbookIndex) playbook playbookIndex rule).id ∈
      (stepEntities js c playbook playbookIndex layer).map (·.id) := by
  simp only [detectionSource]
  cases hfind : List.find? _ _ with
  | none => exact playbookId_mem_step
  | some anchor =>
    obtain ⟨id, hid, rfl⟩ := List.mem_map.mp (List.mem_of_find?_eq_some hfind)
    exact techniqueAnchor_mem_step hid

theorem stepAnchors_mem_step {a : GraphAnchor} (ha : a ∈ stepAnchors js c playbook playbookIndex) :
    a.id ∈ (stepEntities js c playbook playbookIndex layer).map (·.id) := by
  simp only [stepAnchors] at ha
  split at ha
  · obtain ⟨rule, hrule, rfl⟩ := List.mem_map.mp ha
    exact detectionAnchor_mem_step hrule
  · split at ha
    · obtain ⟨id, hid, rfl⟩ := List.mem_map.mp ha
      exact techniqueAnchor_mem_step hid
    · rw [List.mem_singleton.mp ha]
      exact playbookId_mem_step

/-- A relation of a step ends at an entity of it, and starts at one or at an anchor. -/
theorem stepRelations_mem {anchors : List GraphAnchor} {e : GraphRelation}
    (he : e ∈ stepRelations js c anchors playbook playbookIndex) :
    ((∃ a ∈ anchors, e.source = a.id) ∨
      e.source ∈ (stepEntities js c playbook playbookIndex layer).map (·.id)) ∧
      e.target ∈ (stepEntities js c playbook playbookIndex layer).map (·.id) := by
  rcases List.mem_append.mp he with he | he
  · obtain ⟨a, ha, rfl⟩ := List.mem_map.mp he
    exact ⟨.inl ⟨a, ha, rfl⟩, taskId_mem_step⟩
  rcases List.mem_cons.mp he with rfl | he
  · exact ⟨.inr taskId_mem_step, playbookId_mem_step⟩
  rcases List.mem_append.mp he with he | he
  · obtain ⟨id, hid, rfl⟩ := List.mem_map.mp he
    exact ⟨.inr playbookId_mem_step, techniqueAnchor_mem_step hid⟩
  · obtain ⟨rule, hrule, rfl⟩ := List.mem_map.mp he
    exact ⟨.inr (detectionSource_mem_step rule), detectionAnchor_mem_step hrule⟩

end

theorem attackStep_closed (h : state.Closed) (step : JsString × ℕ) :
    (attackStep js c state step).Closed := by
  have hold : ∀ {id}, id ∈ state.entities.map (·.id) →
      id ∈ ((attackStep js c state step).entities).map (·.id) := by
    intro id hid
    rw [attackStep, List.map_append]
    exact List.mem_append_left _ hid
  have hnew : ∀ {id}, id ∈ (stepEntities js c step.1 step.2 state.layer).map (·.id) →
      id ∈ ((attackStep js c state step).entities).map (·.id) := by
    intro id hid
    rw [attackStep, List.map_append]
    exact List.mem_append_right _ hid
  refine ⟨fun a ha => hnew (stepAnchors_mem_step ha), fun a ha => ?_, fun e he => ?_⟩
  · rcases List.mem_append.mp ha with ha | ha
    · exact hold (h.containmentAnchors a ha)
    · obtain ⟨rule, hrule, rfl⟩ := List.mem_map.mp ha
      exact hnew (detectionAnchor_mem_step hrule)
  · rcases List.mem_append.mp he with he | he
    · exact ⟨hold (h.edges e he).1, hold (h.edges e he).2⟩
    · obtain ⟨hsource, htarget⟩ := stepRelations_mem he
      refine ⟨?_, hnew htarget⟩
      rcases hsource with ⟨a, ha, hsource⟩ | hsource
      · exact hsource ▸ hold (h.anchors a ha)
      · exact hnew hsource

theorem foldl_attackStep_closed (h : state.Closed) (steps : List (JsString × ℕ)) :
    (steps.foldl (attackStep js c) state).Closed := by
  induction steps generalizing state with
  | nil => exact h
  | cons step steps ih => exact ih (attackStep_closed h step)

variable (js c exercise) in
theorem attackSteps_closed : (attackSteps js c exercise).Closed := by
  refine foldl_attackStep_closed ⟨fun a ha => ?_, fun a ha => ?_, fun e he => ?_⟩ _
  · rw [List.mem_singleton.mp ha]
    exact List.mem_cons_self
  · cases ha
  · cases he

theorem attackModel_wellFormed (h : c.Distinct js) :
    (attackModel js c exercise (attackSteps js c exercise)).WellFormed := by
  have hclosed := attackSteps_closed js c exercise
  refine ⟨?_, fun e he => ?_⟩
  · rw [attackModel_ids]
    refine (attackIds_nodup h).map_on fun a ha b hb => ?_
    exact AttackId.render_inj (plain_attackId ha) (plain_attackId hb)
  · rw [attackModel, List.map_append]
    rcases List.mem_append.mp he with he | he
    · exact (hclosed.edges e he).imp (List.mem_append_left _) (List.mem_append_left _)
    · by_cases hcontained : c.scenario.containmentActions ≠ []
      · rw [if_pos hcontained] at he ⊢
        obtain ⟨a, ha, rfl⟩ := List.mem_map.mp he
        refine ⟨List.mem_append_left _ ?_, List.mem_append_right _ List.mem_cons_self⟩
        split at ha
        · exact hclosed.containmentAnchors a ha
        · exact hclosed.anchors a ha
      · rw [if_neg hcontained] at he
        cases he

/-! ### Detections -/

/-- A relation into a detection is observed only where an alert of its rule is there. -/
def ShowsAlert (c : AttackContext) (e : GraphRelation) : Prop :=
  ∀ ruleId, e.target = (AttackId.detection ruleId).render c.focusValue → e.observed = true →
    ∃ alert ∈ c.alerts, (alert.get "rule_id").strictEq ruleId = true

/-- A relation whose end is no detection says nothing about alerts. -/
theorem showsAlert_of_target {e : GraphRelation} {a : AttackId} (ha : a.Plain)
    (htarget : e.target = a.render c.focusValue) (hne : ∀ ruleId, a ≠ .detection ruleId) :
    ShowsAlert c e := by
  intro ruleId he
  have heq := AttackId.render_inj ha (AttackId.plain_detection _) (htarget.symm.trans he)
  exact absurd heq (hne ruleId)

theorem truthy_find {items : List JsValue} {p : JsValue → Bool}
    (h : (JsValue.find items p).truthy = true) : ∃ x ∈ items, p x = true := by
  unfold JsValue.find at h
  cases hfind : items.find? p with
  | none => rw [hfind] at h; cases h
  | some x => exact ⟨x, List.mem_of_find?_eq_some hfind, List.find?_some hfind⟩

theorem stepRelations_showsAlert {step : JsString × ℕ} (hstep : step ∈ (attackPlaybooks c).zipIdx)
    {anchors : List GraphAnchor} {e : GraphRelation}
    (he : e ∈ stepRelations js c anchors step.1 step.2) : ShowsAlert c e := by
  rcases List.mem_append.mp he with he | he
  · obtain ⟨a, -, rfl⟩ := List.mem_map.mp he
    refine showsAlert_of_target (plain_stepId hstep List.mem_cons_self)
      (render_attackTaskId _ _) fun ruleId hid => ?_
    rcases attackTaskId_cases js c step.1 step.2 with ⟨-, htask⟩ | htask <;> rw [htask] at hid <;>
      cases hid
  rcases List.mem_cons.mp he with rfl | he
  · have hmem : .playbook step.2 step.1 ∈ stepIds js c step :=
      List.mem_cons_of_mem _ List.mem_cons_self
    exact showsAlert_of_target (plain_stepId hstep hmem) (render_playbook _ _)
      fun ruleId hid => by cases hid
  rcases List.mem_append.mp he with he | he
  · obtain ⟨id, hid, rfl⟩ := List.mem_map.mp he
    have hmem := mem_stepIds.mpr (.inr (.inr (.inl ⟨id, hid, rfl⟩)))
    exact showsAlert_of_target (plain_stepId hstep hmem) (render_technique _ _)
      fun ruleId hid => by cases hid
  · obtain ⟨rule, -, rfl⟩ := List.mem_map.mp he
    intro ruleId htarget hobserved
    have hid := AttackId.render_inj (AttackId.plain_detection _)
      (AttackId.plain_detection _) ((render_detection rule).symm.trans htarget)
    obtain ⟨alert, halert, hfound⟩ := truthy_find hobserved
    rw [Bool.and_eq_true] at hfound
    exact ⟨alert, halert, AttackId.detection.inj hid ▸ hfound.1⟩

theorem foldl_attackStep_showsAlert {steps : List (JsString × ℕ)}
    (hsteps : ∀ step ∈ steps, step ∈ (attackPlaybooks c).zipIdx)
    (h : ∀ e ∈ state.edges, ShowsAlert c e) :
    ∀ e ∈ (steps.foldl (attackStep js c) state).edges, ShowsAlert c e := by
  induction steps generalizing state with
  | nil => exact h
  | cons step steps ih =>
    refine ih (fun s hs => hsteps s (List.mem_cons_of_mem _ hs)) fun e he => ?_
    rcases List.mem_append.mp he with he | he
    · exact h e he
    · exact stepRelations_showsAlert (hsteps step List.mem_cons_self) he

/-- An entity of kind detection has the id of one. -/
theorem stepEntities_detection {step : JsString × ℕ} {layer : ℕ} {d : GraphEntity}
    (hd : d ∈ stepEntities js c step.1 step.2 layer) (hkind : d.kind = .detection) :
    ∃ ruleId, d.id = (AttackId.detection ruleId).render c.focusValue := by
  rcases List.mem_cons.mp hd with rfl | hd
  · cases hkind
  rcases List.mem_cons.mp hd with rfl | hd
  · cases hkind
  rcases List.mem_append.mp hd with hd | hd
  · obtain ⟨id, -, rfl⟩ := List.mem_map.mp hd
    cases hkind
  · obtain ⟨rule, -, rfl⟩ := List.mem_map.mp hd
    exact ⟨rule.id, render_detection rule⟩

theorem foldl_attackStep_detection {steps : List (JsString × ℕ)}
    (h : ∀ d ∈ state.entities, d.kind = .detection →
      ∃ ruleId, d.id = (AttackId.detection ruleId).render c.focusValue) :
    ∀ d ∈ (steps.foldl (attackStep js c) state).entities, d.kind = .detection →
      ∃ ruleId, d.id = (AttackId.detection ruleId).render c.focusValue := by
  induction steps generalizing state with
  | nil => exact h
  | cons step steps ih =>
    refine ih fun d hd => ?_
    rcases List.mem_append.mp hd with hd | hd
    · exact h d hd
    · exact stepEntities_detection hd

theorem attackModel_detection {d : GraphEntity}
    (hd : d ∈ (attackModel js c exercise (attackSteps js c exercise)).entities)
    (hkind : d.kind = .detection) :
    ∃ ruleId, d.id = (AttackId.detection ruleId).render c.focusValue := by
  rcases List.mem_append.mp hd with hd | hd
  · refine foldl_attackStep_detection (fun d hd hkind => ?_) d hd hkind
    rw [List.mem_singleton.mp hd] at hkind
    cases hkind
  · split at hd
    · rw [List.mem_singleton.mp hd] at hkind
      cases hkind
    · cases hd

theorem attackModel_showsAlert {e : GraphRelation}
    (he : e ∈ (attackModel js c exercise (attackSteps js c exercise)).edges) : ShowsAlert c e := by
  rcases List.mem_append.mp he with he | he
  · exact foldl_attackStep_showsAlert (fun _ hs => hs) (fun e he => by cases he) e he
  · split at he
    · obtain ⟨a, -, rfl⟩ := List.mem_map.mp he
      exact showsAlert_of_target AttackId.plain_containment render_containment
        fun ruleId hid => by cases hid
    · cases he

end C2Lab
