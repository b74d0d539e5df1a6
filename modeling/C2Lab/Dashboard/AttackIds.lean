import C2Lab.Dashboard.Attack

/-! The ids of the attack graph are made of different parts, so no two of its entities share one.

    An id is a fixed prefix and the parts after it; the parts behind the last colon have none. -/

namespace C2Lab

/-- What an id of the attack graph is made of. -/
inductive AttackId where
  | node (nodeId : JsString)
  | placeholder (scenarioId : JsString)
  | task (taskId : JsString)
  | plannedTask (playbookIndex : ℕ)
  | playbook (playbookIndex : ℕ) (playbook : JsString)
  | technique (playbookIndex : ℕ) (techniqueId : JsString)
  | detection (ruleId : JsString)
  | containment
  deriving DecidableEq

namespace AttackId

/-- What the ids of one kind begin with. -/
def start : AttackId → JsString
  | node _ => "node:"
  | placeholder _ => "attack-node:"
  | task _ => "task:"
  | plannedTask _ => "attack-task:"
  | playbook _ _ => "attack-playbook:"
  | technique _ _ => "attack-technique:"
  | detection _ => "attack-detection:"
  | containment => "attack-containment:"

/-- What comes after it, under a focus. -/
def rest (focusValue : JsString) : AttackId → JsString
  | node id | placeholder id | task id => id
  | plannedTask i => focusValue ++ (":" : JsString) ++ .ofNat i
  | playbook i id | technique i id =>
    focusValue ++ (":" : JsString) ++ .ofNat i ++ (":" : JsString) ++ id
  | detection id => focusValue ++ (":" : JsString) ++ id
  | containment => focusValue

/-- The id as text. -/
def render (focusValue : JsString) (a : AttackId) : JsString := a.start ++ a.rest focusValue

/-- The starts of the ids. -/
def starts : List JsString :=
  ["node:", "attack-node:", "task:", "attack-task:", "attack-playbook:", "attack-technique:",
    "attack-detection:", "attack-containment:"]

theorem start_mem (a : AttackId) : a.start ∈ starts := by
  cases a <;> exact of_decide_eq_true rfl

/-- No start begins another one. -/
theorem start_eq {focusValue : JsString} {a b : AttackId}
    (h : a.render focusValue = b.render focusValue) : a.start = b.start := by
  have hstarts : ∀ p ∈ starts, ∀ q ∈ starts, p ≠ q →
      p.units.take (min p.units.length q.units.length) ≠
        q.units.take (min p.units.length q.units.length) := by decide
  by_contra hne
  exact JsString.append_ne_append (min a.start.units.length b.start.units.length)
    ⟨Nat.min_le_left _ _, Nat.min_le_right _ _, hstarts _ a.start_mem _ b.start_mem hne⟩ _ _ h

/-- The parts of an id that a colon could confuse: an index is a digit, and what comes last has no
    colon. -/
def Plain : AttackId → Prop
  | plannedTask i => i < 4
  | playbook i id | technique i id => i < 4 ∧ 0x3A ∉ id.units
  | _ => True

theorem plain_detection (ruleId : JsString) : (detection ruleId).Plain := trivial

theorem plain_containment : containment.Plain := trivial

/-- The index that is part of an id. -/
def index? : AttackId → Option ℕ
  | plannedTask i | playbook i _ | technique i _ => some i
  | _ => none

theorem colon_notMem_ofNat : ∀ i < 4, 0x3A ∉ (JsString.ofNat i).units := by decide

theorem ofNat_inj : ∀ i < 4, ∀ j < 4, JsString.ofNat i = .ofNat j → i = j := by decide

variable {focusValue : JsString} {a b : AttackId}

/-- The index in front of a last part without a colon. -/
theorem indexed_inj {i j : ℕ} {p q : JsString} (hi : i < 4 ∧ 0x3A ∉ p.units)
    (hj : j < 4 ∧ 0x3A ∉ q.units)
    (h : focusValue ++ (":" : JsString) ++ .ofNat i ++ (":" : JsString) ++ p =
      focusValue ++ (":" : JsString) ++ .ofNat j ++ (":" : JsString) ++ q) : i = j ∧ p = q := by
  obtain ⟨hfront, hpq⟩ := JsString.append_separated hi.2 hj.2 h
  obtain ⟨-, hij⟩ := JsString.append_separated (colon_notMem_ofNat i hi.1)
    (colon_notMem_ofNat j hj.1) hfront
  exact ⟨ofNat_inj i hi.1 j hj.1 hij, hpq⟩

theorem render_inj (ha : a.Plain) (hb : b.Plain) (h : a.render focusValue = b.render focusValue) :
    a = b := by
  have hstart := start_eq h
  have hrest : a.rest focusValue = b.rest focusValue := by
    rw [render, render, hstart] at h
    exact JsString.append_left_inj h
  cases a <;> cases b <;> first | exact absurd hstart (of_decide_eq_false rfl) | skip
  case node.node id id' => exact congrArg node hrest
  case placeholder.placeholder id id' => exact congrArg placeholder hrest
  case task.task id id' => exact congrArg task hrest
  case plannedTask.plannedTask i j =>
    obtain ⟨-, hij⟩ :=
      JsString.append_separated (colon_notMem_ofNat i ha) (colon_notMem_ofNat j hb) hrest
    exact congrArg plannedTask (ofNat_inj i ha j hb hij)
  case playbook.playbook i p j q =>
    obtain ⟨rfl, rfl⟩ := indexed_inj ha hb hrest
    rfl
  case technique.technique i p j q =>
    obtain ⟨rfl, rfl⟩ := indexed_inj ha hb hrest
    rfl
  case detection.detection id id' => exact congrArg detection (JsString.append_left_inj hrest)
  case containment.containment => rfl

end AttackId

section
variable (js : JsRuntime) (c : AttackContext)

/-! ### The ids of one step -/

/-- The id of the task of a playbook. -/
def attackTaskId (playbook : JsString) (playbookIndex : ℕ) : AttackId :=
  if (c.representedTaskId playbook playbookIndex).truthy then
    .task (js.toText (c.representedTaskId playbook playbookIndex))
  else .plannedTask playbookIndex

/-- The ids of the entities of one playbook. -/
def stepIds (step : JsString × ℕ) : List AttackId :=
  attackTaskId js c step.1 step.2 :: .playbook step.2 step.1 ::
    ((techniqueIds js c (c.attackTask js step.1 step.2) step.1).map (.technique step.2) ++
      (playbookRules c step.1).map fun rule => .detection rule.id)

/-- The id of the first entity. -/
def sourceId : AttackId :=
  if c.node.truthy then .node (js.toText (c.node.get "id")) else .placeholder c.scenario.id

variable {js c}

theorem render_attackTaskId (playbook : JsString) (playbookIndex : ℕ) :
    (c.attackTask js playbook playbookIndex).taskId =
      (attackTaskId js c playbook playbookIndex).render c.focusValue := by
  rw [attackTaskId, AttackContext.attackTask]
  by_cases htask : (c.representedTaskId playbook playbookIndex).truthy = true
  · simp only [if_pos htask, AttackId.render, AttackId.start, AttackId.rest]
  · simp only [if_neg htask, AttackId.render, AttackId.start, AttackId.rest, JsString.append_assoc]

theorem render_playbook (playbook : JsString) (playbookIndex : ℕ) :
    attackPlaybookId c playbook playbookIndex =
      (AttackId.playbook playbookIndex playbook).render c.focusValue := by
  simp only [attackPlaybookId, AttackId.render, AttackId.start, AttackId.rest,
    JsString.append_assoc]

theorem render_technique (playbookIndex : ℕ) (techniqueId : JsString) :
    techniqueEntityId c playbookIndex techniqueId =
      (AttackId.technique playbookIndex techniqueId).render c.focusValue := by
  simp only [techniqueEntityId, AttackId.render, AttackId.start, AttackId.rest,
    JsString.append_assoc]

theorem render_detection (rule : GraphDetection) :
    detectionId c rule = (AttackId.detection rule.id).render c.focusValue := by
  simp only [detectionId, AttackId.render, AttackId.start, AttackId.rest, JsString.append_assoc]

theorem render_containment : containmentId c = AttackId.containment.render c.focusValue := rfl

theorem id_sourceEntity (exercise : JsValue) :
    (sourceEntity js c exercise).id = (sourceId js c).render c.focusValue := by
  unfold sourceId sourceEntity
  split <;> simp_all [graphEntity, AttackId.render, AttackId.start, AttackId.rest]

theorem stepEntities_ids (step : JsString × ℕ) (layer : ℕ) :
    (stepEntities js c step.1 step.2 layer).map (·.id) =
      (stepIds js c step).map (AttackId.render c.focusValue) := by
  simp only [stepEntities, stepIds, List.map_cons, List.map_append, List.map_map]
  refine congrArg₂ _ (render_attackTaskId _ _) (congrArg₂ _ (render_playbook _ _)
    (congrArg₂ _ (List.map_congr_left fun id _ => render_technique _ id)
      (List.map_congr_left fun rule _ => render_detection rule)))

end

end C2Lab
