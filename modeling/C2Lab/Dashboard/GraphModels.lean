import C2Lab.Core.Contained
import C2Lab.Dashboard.AttackGraph
import C2Lab.Dashboard.Synced
import C2Lab.Dashboard.Topology

/-! Both graphs are well-formed: the topology of every overview, and the attack graph of every page
    that a reachable Teamserver syncs.

    What the server keeps about an exercise is what keeps the ids of its graph apart: its tasks are
    different ones, and each is recorded with the playbook at its place. -/

namespace C2Lab

/-! ### What a page tells -/

/-- What the dashboard holds of a page for the attack graph. -/
def syncedOverview (number : Json → JsNumber) (page : SyncPage) : AttackOverview :=
  { nodes := .array (page.nodes.map (PublicNode.toJs number))
    tasks := .array (page.tasks.map (PublicTask.toJs number))
    exercises := .array (page.exercises.map PublicExercise.toJs) }

/-- `currentScenarioCatalog` after a page. -/
def syncedCatalog (js : JsRuntime) (page : SyncPage) : List GraphScenario :=
  normalizeScenarioCatalog js (catalogToJs page.scenarioCatalog)

variable {w : World} {s : LabState} {page : SyncPage} {js : JsRuntime} {number : Json → JsNumber}

/-- The tables of a page are those of the state. -/
theorem sync_tables {generatedAt : Timestamp} {eventsAfter auditAfter limit : Json}
    (h : s.sync generatedAt eventsAfter auditAfter limit = .ok page) :
    page.nodes = s.publicNodes ∧ page.tasks = s.publicTasks ∧
      page.exercises = s.publicExercises ∧ page.scenarioCatalog = scenarioCatalog := by
  unfold LabState.sync at h
  cases hevents : validateSyncCursor eventsAfter "events_after" with
  | error e => rw [hevents] at h; cases h
  | ok events =>
    cases haudit : validateSyncCursor auditAfter "audit_after" with
    | error e => rw [hevents, haudit] at h; cases h
    | ok audit =>
      cases hlimit : validateSyncLimit limit with
      | error e => rw [hevents, haudit, hlimit] at h; cases h
      | ok n =>
        rw [hevents, haudit, hlimit] at h
        cases h
        exact ⟨rfl, rfl, rfl, rfl⟩

theorem mem_publicTasks {t : PublicTask} (hs : Safe w s) :
    t ∈ s.publicTasks ↔ ∃ u, s.tasks.get? t.id = some u ∧ u.publicTask = t := by
  unfold LabState.publicTasks
  rw [List.mem_map]
  constructor
  · rintro ⟨u, hu, rfl⟩
    obtain ⟨id, hget⟩ := Dict.mem_values.mp (List.mem_mergeSort.mp hu)
    have hkey : u.publicTask.id = id := hs.task_key hget
    exact ⟨u, hkey ▸ hget, rfl⟩
  · rintro ⟨u, hget, rfl⟩
    exact ⟨u, List.mem_mergeSort.mpr (Dict.mem_values.mpr ⟨_, hget⟩), rfl⟩

theorem mem_publicExercises {x : PublicExercise} (hs : Safe w s) (hx : x ∈ s.publicExercises) :
    ∃ e, s.exercises.get? e.id = some e ∧ e.publicExercise = x := by
  unfold LabState.publicExercises at hx
  obtain ⟨e, he, rfl⟩ := List.mem_map.mp (List.mem_mergeSort.mp hx)
  obtain ⟨id, hget⟩ := Dict.mem_values.mp he
  exact ⟨e, (hs.exercise_key hget).symm ▸ hget, rfl⟩

/-! ### The catalog of a page -/

/-- What the graph builds of a scenario: its id, its playbooks and its rules. -/
def GraphScenario.outline (g : GraphScenario) :
    JsString × List JsString × List (JsString × JsString × JsString) :=
  (g.id, g.playbooks, g.detections.map fun d => (d.id, d.playbook, d.techniqueId))

/-- The same of a scenario of the server. -/
def ScenarioId.outline (sc : ScenarioId) :
    JsString × List JsString × List (JsString × JsString × JsString) :=
  (.ofString (Vocabulary.name sc),
    (scenarioDefinition sc).playbooks.map fun p => .ofString (Vocabulary.name p),
    (scenarioDefinition sc).detections.map fun r =>
      (.ofString r.id, .ofString (Vocabulary.name r.playbook), .ofString r.techniqueId))

/-- Normalising keeps the playbooks and the rules of the fixed scenarios. -/
theorem normalized_outline (js : JsRuntime) :
    (normalizeScenarioCatalog js (catalogToJs scenarioCatalog)).map GraphScenario.outline =
      (Vocabulary.all : List ScenarioId).map ScenarioId.outline := by
  rfl

theorem exists_outline {g : GraphScenario}
    (hg : g ∈ normalizeScenarioCatalog js (catalogToJs scenarioCatalog)) :
    ∃ sc : ScenarioId, g.outline = sc.outline := by
  have hmem := List.mem_map_of_mem (f := GraphScenario.outline) hg
  rw [normalized_outline] at hmem
  obtain ⟨sc, -, hsc⟩ := List.mem_map.mp hmem
  exact ⟨sc, hsc.symm⟩

/-- The ids of the playbooks of a scenario. -/
def ScenarioId.playbookIds (sc : ScenarioId) : List JsString :=
  (scenarioDefinition sc).playbooks.map fun p => .ofString (Vocabulary.name p)

theorem playbookIds_nodup (sc : ScenarioId) : sc.playbookIds.Nodup := by
  cases sc <;> decide

section
variable {c : AttackContext} {sc : ScenarioId}

/-- The loop runs over all the playbooks of the scenario. -/
theorem attackPlaybooks_eq (h : c.scenario.outline = sc.outline) :
    attackPlaybooks c = sc.playbookIds := by
  have hplaybooks : c.scenario.playbooks = sc.playbookIds := congrArg (·.2.1) h
  rw [attackPlaybooks, hplaybooks]
  cases sc <;> decide

theorem ruleIds_nodup (h : c.scenario.outline = sc.outline) :
    (c.scenario.detections.map (·.id)).Nodup := by
  have hrules := congrArg (fun o => o.2.2.map Prod.fst) h
  simp only [GraphScenario.outline, ScenarioId.outline, List.map_map, Function.comp_def] at hrules
  rw [hrules]
  cases sc <;> decide

/-! ### The task of a playbook -/

theorem eq_of_sameValueZero {v : JsValue} {x : JsString}
    (h : v.sameValueZero (.string x) = true ∨ (JsValue.string x).sameValueZero v = true) :
    v = .string x := by
  cases v with
  | string y =>
    rcases h with h | h
    · exact congrArg JsValue.string (of_decide_eq_true h)
    · exact congrArg JsValue.string (of_decide_eq_true h).symm
  | _ => simp [JsValue.sameValueZero, JsValue.strictEq] at h

/-- Where the task of a playbook comes from. -/
theorem task_origin (c : AttackContext) (playbook : JsString) (i : ℕ) :
    c.task playbook i = .undefined ∨
      ((c.task playbook i).get "id").sameValueZero (c.expectedTaskId i) = true ∨
      c.task playbook i ∈ c.allTasks ∧ AttackContext.runsPlaybook (c.task playbook i) playbook ∧
        ∃ id ∈ c.exerciseTaskIds, id.sameValueZero ((c.task playbook i).get "id") = true := by
  simp only [AttackContext.task]
  split
  · rw [AttackContext.tasksById, JsValue.find]
    cases hfind : List.find? _ _ with
    | none => exact .inl rfl
    | some t =>
      have hfound := List.find?_some hfind
      exact .inr (.inl hfound)
  · rw [JsValue.find]
    cases hfind : List.find? _ _ with
    | none => exact .inl rfl
    | some t =>
      have hfound := List.find?_some hfind
      rw [Bool.and_eq_true, List.any_eq_true] at hfound
      exact .inr (.inr ⟨List.mem_of_find?_eq_some hfind, hfound.2, hfound.1⟩)

/-- The represented task is the expected one, when every other task of the exercise that runs the
    playbook has its id too. -/
theorem representedTaskId_eq {playbook x : JsString} {i : ℕ} (hx : c.expectedTaskId i = .string x)
    (hother : ∀ t ∈ c.allTasks, AttackContext.runsPlaybook t playbook →
      (∃ id ∈ c.exerciseTaskIds, id.sameValueZero (t.get "id") = true) → t.get "id" = .string x) :
    c.representedTaskId playbook i = .string x := by
  rw [AttackContext.representedTaskId, hx]
  have hid : c.task playbook i = .undefined ∨ (c.task playbook i).get "id" = .string x := by
    rcases task_origin c playbook i with h | h | ⟨hmem, hruns, hids⟩
    · exact .inl h
    · exact .inr (eq_of_sameValueZero (.inl (hx ▸ h)))
    · exact .inr (hother _ hmem hruns hids)
  rcases hid with hid | hid <;> rw [hid]
  · rfl
  · exact ite_self _

theorem distinct_of_nil (h : c.scenario.outline = sc.outline) (hids : c.exerciseTaskIds = []) :
    c.Distinct js := by
  refine ⟨attackPlaybooks_eq h ▸ playbookIds_nodup sc, ruleIds_nodup h, fun p _ p' _ htask => ?_⟩
  have hexpected : c.expectedTaskId p.2 = .string (.ofString "") := by
    rw [AttackContext.expectedTaskId, hids]
    rfl
  rw [representedTaskId_eq hexpected fun t _ _ hany => by simp [hids] at hany] at htask
  exact absurd htask (by decide)

end

/-! ### An exercise -/

section
variable {e : Exercise} {c : AttackContext}

/-- The context of an exercise: its own tasks, and those that the server records. -/
structure AttackContext.Of (number : Json → JsNumber) (s : LabState) (e : Exercise)
    (c : AttackContext) : Prop where
  taskIds : c.exerciseTaskIds = e.taskIds.map fun id => .string (.ofPy id)
  alerts : c.alerts = e.alerts.map Alert.toJs
  timeline : c.exerciseTimeline = e.timeline.map fun entry => entry.item.toJs
  tasks : ∀ t ∈ c.allTasks, ∃ u, s.tasks.get? u.id = some u ∧ u.publicTask.toJs number = t

/-- An identifier is read as a text that is not empty. -/
theorem ofPy_taskId_ne (w : World) (k : ℕ) : JsString.ofPy (w.taskId k) ≠ .ofString "" := by
  intro h
  have hlist := congrArg String.toList (JsString.ofString_inj h)
  simp at hlist

theorem taskId_of_ofPy {id id' : PyStr} (hid : ∃ k < s.draws, id = w.taskId k)
    (hid' : ∃ k < s.draws, id' = w.taskId k) (h : JsString.ofPy id = .ofPy id') : id = id' := by
  obtain ⟨k, -, rfl⟩ := hid
  obtain ⟨k', -, rfl⟩ := hid'
  exact congrArg PyStr.text (JsString.ofString_inj h)

/-- The playbook at a step is that of the task at its place. -/
theorem exists_planned_step (hvalid : e.Valid s.tasks)
    (h : c.scenario.outline = e.scenarioId.outline) {step : JsString × ℕ}
    (hstep : step ∈ (attackPlaybooks c).zipIdx) :
    ∃ id p, e.taskIds[step.2]? = some id ∧ (id, p) ∈ e.plan ∧
      step.1 = .ofString (Vocabulary.name p) := by
  rw [attackPlaybooks_eq h, List.mem_zipIdx_iff_getElem?, ScenarioId.playbookIds,
    List.getElem?_map, Option.map_eq_some_iff] at hstep
  obtain ⟨p, hp, hname⟩ := hstep
  obtain ⟨hlt, hget⟩ := List.getElem?_eq_some_iff.mp hp
  have hlt' : step.2 < e.taskIds.length := hvalid.length_eq ▸ hlt
  refine ⟨e.taskIds[step.2], p, List.getElem?_eq_getElem hlt', ?_, hname.symm⟩
  refine List.mem_iff_getElem.mpr ⟨step.2, ?_, ?_⟩
  · rw [Exercise.plan, List.length_zip]
    exact Nat.lt_min.mpr ⟨hlt', hlt⟩
  · simp only [Exercise.plan, List.getElem_zip, hget]

theorem toJs_id (t : PublicTask) : (t.toJs number).get "id" = .string (.ofPy t.id) := by
  simp [PublicTask.toJs]

/-- The payload of a playbook task names its playbook. -/
theorem runsPlaybook_toJs {t : PublicTask} {p : Playbook} (ht : t.command = .runPlaybook p)
    {playbook : JsString} :
    AttackContext.runsPlaybook (t.toJs number) playbook = true ↔
      playbook = .ofString (Vocabulary.name p) := by
  have hpayload : (t.toJs number).get "payload" = (Command.runPlaybook p).payload.toJs number := by
    simp [PublicTask.toJs, ht]
  have hplaybook : ((Command.runPlaybook p).payload.toJs number).get "playbook" =
      .string (.ofString (Vocabulary.name p)) := by
    cases p <;> rfl
  rw [AttackContext.runsPlaybook, hpayload, hplaybook]
  exact decide_eq_true_iff.trans eq_comm

/-- A task of the exercise that runs the playbook of another is that one. -/
theorem eq_of_runsPlaybook (hs : Safe w s) (he : s.exercises.get? e.id = some e)
    (hc : c.Of number s e) {id : PyStr} {p : Playbook} (hplan : (id, p) ∈ e.plan) {t : JsValue}
    (ht : t ∈ c.allTasks)
    (hruns : AttackContext.runsPlaybook t (.ofString (Vocabulary.name p)) = true)
    (hany : ∃ x ∈ c.exerciseTaskIds, x.sameValueZero (t.get "id") = true) :
    t.get "id" = .string (.ofPy id) := by
  have hstored := hs.exercises _ _ he
  obtain ⟨u, hu, rfl⟩ := hc.tasks t ht
  obtain ⟨x, hx, hsame⟩ := hany
  rw [hc.taskIds] at hx
  obtain ⟨id', hid', rfl⟩ := List.mem_map.mp hx
  rw [toJs_id] at hsame ⊢
  have heq := JsValue.string.inj (eq_of_sameValueZero (.inl hsame))
  have hsameId := taskId_of_ofPy (hstored.drawn id' hid') (hs.tasks _ _ hu).drawn heq
  obtain ⟨q, hq⟩ := Exercise.exists_planned hstored.valid.length_eq hid'
  have hcommand := (hstored.valid.planned hq (hsameId ▸ hu)).1
  have hpq : p = q :=
    Vocabulary.name_inj (JsString.ofString_inj ((runsPlaybook_toJs hcommand).mp hruns))
  have hids : id = id' := Plan.zip_left_unique (playbooks_nodup e.scenarioId) hplan (hpq ▸ hq)
  rw [hids, heq]

theorem expectedTaskId_of (hs : Safe w s) (he : s.exercises.get? e.id = some e)
    (hc : c.Of number s e) {i : ℕ} {id : PyStr} (hid : e.taskIds[i]? = some id) :
    c.expectedTaskId i = .string (.ofPy id) := by
  obtain ⟨k, hk, hdrawn⟩ := (hs.exercises _ _ he).drawn id (List.mem_of_getElem? hid)
  rw [AttackContext.expectedTaskId, hc.taskIds, List.getElem?_map, hid, Option.map_some,
    Option.getD_some, JsValue.or, if_pos]
  exact decide_eq_true (hdrawn ▸ ofPy_taskId_ne w k)

/-- Each playbook is represented by the task at its place, retained or not. -/
theorem representedTaskId_of (hs : Safe w s) (he : s.exercises.get? e.id = some e)
    (hc : c.Of number s e) (h : c.scenario.outline = e.scenarioId.outline) {step : JsString × ℕ}
    (hstep : step ∈ (attackPlaybooks c).zipIdx) :
    ∃ id, e.taskIds[step.2]? = some id ∧
      c.representedTaskId step.1 step.2 = .string (.ofPy id) := by
  obtain ⟨id, p, hid, hplan, hname⟩ := exists_planned_step (hs.exercise_valid he) h hstep
  refine ⟨id, hid, representedTaskId_eq (expectedTaskId_of hs he hc hid) fun t ht hruns hany => ?_⟩
  exact eq_of_runsPlaybook hs he hc hplan ht (hname ▸ hruns) hany

theorem distinct_of (hs : Safe w s) (he : s.exercises.get? e.id = some e) (hc : c.Of number s e)
    (h : c.scenario.outline = e.scenarioId.outline) : c.Distinct js := by
  refine ⟨attackPlaybooks_eq h ▸ playbookIds_nodup _, ruleIds_nodup h,
    fun p hp p' hp' _ _ htext => ?_⟩
  obtain ⟨id, hid, hrep⟩ := representedTaskId_of hs he hc h hp
  obtain ⟨id', hid', hrep'⟩ := representedTaskId_of hs he hc h hp'
  rw [hrep, hrep'] at htext
  have hstored := hs.exercises _ _ he
  have hsame : id = id' := taskId_of_ofPy (hstored.drawn id (List.mem_of_getElem? hid))
    (hstored.drawn id' (List.mem_of_getElem? hid')) htext
  subst hsame
  obtain ⟨hlt, hget⟩ := List.getElem?_eq_some_iff.mp hid
  exact (List.getElem?_inj hlt hstored.valid.nodup).mp (hid.trans hid'.symm)

end

/-! ### The focus -/

theorem startsWith_eq {focusValue start : JsString} (h : focusValue.startsWith start = true) :
    focusValue = start ++ focusValue.slice start.units.length := by
  obtain ⟨units, hunits⟩ := List.isPrefixOf_iff_prefix.mp h
  cases focusValue with
  | mk all =>
    simp only at hunits
    subst hunits
    simp only [JsString.slice, List.drop_left]
    rfl

variable (number) in
/-- The focus is on an exercise of the state, or on none. -/
theorem focusedExercise_cases (hs : Safe w s) (hpage : page.exercises = s.publicExercises)
    (focusValue : JsString) :
    focusedExercise (syncedOverview number page) focusValue = .null ∨
      ∃ e, s.exercises.get? e.id = some e ∧
        focusedExercise (syncedOverview number page) focusValue = e.publicExercise.toJs ∧
        focusValue = ("exercise:" : JsString) ++ .ofPy e.id := by
  unfold focusedExercise
  split
  · rename_i hstart
    rw [JsValue.find]
    cases hfind : List.find? _ _ with
    | none => exact .inl rfl
    | some candidate =>
      obtain ⟨x, hx, rfl⟩ := List.mem_map.mp (List.mem_of_find?_eq_some hfind)
      obtain ⟨e, he, rfl⟩ := mem_publicExercises hs (hpage ▸ hx)
      have hid : (e.publicExercise.toJs.get "id").strictEq (focusValue.slice 9) = true :=
        List.find?_some (p := fun candidate : JsValue =>
          (candidate.get "id").strictEq (focusValue.slice 9)) hfind
      have hget : e.publicExercise.toJs.get "id" = .string (.ofPy e.id) := by
        simp [PublicExercise.toJs, Exercise.publicExercise]
      rw [hget] at hid
      have hslice : JsString.ofPy e.id = focusValue.slice 9 := of_decide_eq_true hid
      refine .inr ⟨e, he, rfl, ?_⟩
      rw [hslice]
      exact startsWith_eq hstart
  · exact .inl rfl

/-- The graph of a focus that is on no scenario is empty. -/
theorem empty_wellFormed (mode : GraphMode) (summary : JsString) :
    ({ mode := mode, entities := [], edges := [], summary := summary } :
      GraphModel).WellFormed :=
  ⟨List.nodup_nil, fun e he => by cases he⟩

theorem find_catalog {scenarioId : JsValue} {g : GraphScenario}
    (hg : (syncedCatalog js page).find? (fun candidate =>
      JsValue.strictEq candidate.id scenarioId) = some g)
    (hpage : page.scenarioCatalog = scenarioCatalog) :
    ∃ sc : ScenarioId, g.outline = sc.outline ∧
      JsValue.strictEq (.string (.ofString (Vocabulary.name sc))) scenarioId = true := by
  rw [syncedCatalog, hpage] at hg
  obtain ⟨sc, hsc⟩ := exists_outline (List.mem_of_find?_eq_some hg)
  have hid : g.id = .ofString (Vocabulary.name sc) := congrArg Prod.fst hsc
  have hfound := List.find?_some hg
  rw [hid] at hfound
  exact ⟨sc, hsc, hfound⟩

/-! ### The attack graph of a page -/

/-- Every relation into a detection that is marked as observed has its alert: the focus is on an
    exercise of the state, and one of its alerts is of that rule. -/
def GraphModel.DetectionsAlerted (s : LabState) (focusValue : JsString) (g : GraphModel) : Prop :=
  ∀ edge ∈ g.edges, edge.observed = true →
    ∀ d ∈ g.entities, d.kind = .detection → edge.target = d.id →
      ∃ e, s.exercises.get? e.id = some e ∧
        focusValue = ("exercise:" : JsString) ++ .ofPy e.id ∧
        ∃ a ∈ e.alerts, d.id = ("attack-detection:" : JsString) ++ focusValue ++
          (":" : JsString) ++ .ofString a.rule.id

/-- What an observed relation into a detection shows of the alerts of its context. -/
theorem alert_of_edge {c : AttackContext} {exercise : JsValue} {edge : GraphRelation}
    {d : GraphEntity}
    (hedge : edge ∈ (attackModel js c exercise (attackSteps js c exercise)).edges)
    (hobserved : edge.observed = true)
    (hd : d ∈ (attackModel js c exercise (attackSteps js c exercise)).entities)
    (hkind : d.kind = .detection) (htarget : edge.target = d.id) :
    ∃ ruleId, d.id = (AttackId.detection ruleId).render c.focusValue ∧
      ∃ alert ∈ c.alerts, (alert.get "rule_id").strictEq ruleId = true := by
  obtain ⟨ruleId, hid⟩ := attackModel_detection hd hkind
  exact ⟨ruleId, hid, attackModel_showsAlert hedge ruleId (htarget.trans hid) hobserved⟩

theorem render_detectionId (focusValue ruleId : JsString) :
    ("attack-detection:" : JsString) ++ focusValue ++ (":" : JsString) ++ ruleId =
      (AttackId.detection ruleId).render focusValue := by
  simp only [AttackId.render, AttackId.start, AttackId.rest, JsString.append_assoc]

theorem attackContext_of {e : Exercise} {overview : AttackOverview}
    {focusValue previewNodeId : JsString} {g : GraphScenario}
    (htasks : ∀ t ∈ overview.tasks.asArray,
      ∃ u, s.tasks.get? u.id = some u ∧ u.publicTask.toJs number = t)
    (hfocus : focusedExercise overview focusValue = e.publicExercise.toJs) :
    (attackContext overview previewNodeId focusValue g).Of number s e := by
  refine ⟨?_, ?_, ?_, htasks⟩ <;> simp only [attackContext, hfocus]
  · simp [PublicExercise.toJs, Exercise.publicExercise, JsValue.asArray]
  · simp [PublicExercise.toJs, Exercise.publicExercise, JsValue.asArray]
  · simp [PublicExercise.toJs, Exercise.publicExercise, JsValue.asArray]

theorem mem_syncedTasks (hs : Safe w s) (hpage : page.tasks = s.publicTasks) {t : JsValue}
    (ht : t ∈ (syncedOverview number page).tasks.asArray) :
    ∃ u, s.tasks.get? u.id = some u ∧ u.publicTask.toJs number = t := by
  obtain ⟨x, hx, rfl⟩ := List.mem_map.mp ht
  obtain ⟨u, hu, rfl⟩ := (mem_publicTasks hs).mp (hpage ▸ hx)
  exact ⟨u, hu, rfl⟩

/-- The scenario of an exercise is the one its record names. -/
theorem focusedScenarioId_toJs (e : Exercise) (focusValue : JsString) :
    focusedScenarioId e.publicExercise.toJs focusValue =
      .string (.ofString (Vocabulary.name e.scenarioId)) := by
  have hget : e.publicExercise.toJs.get "scenario_id" =
      .string (.ofString (Vocabulary.name e.scenarioId)) := by
    simp [PublicExercise.toJs, Exercise.publicExercise]
  rw [focusedScenarioId, hget, JsValue.or, if_pos]
  cases e.scenarioId <;> decide

theorem attack_wellFormed (hs : Safe w s) {generatedAt : Timestamp}
    {eventsAfter auditAfter limit : Json}
    (hpage : s.sync generatedAt eventsAfter auditAfter limit = .ok page)
    (previewNodeId focusValue : JsString) :
    (buildAttackGraph js (syncedCatalog js page) previewNodeId (syncedOverview number page)
        focusValue).WellFormed ∧
      (buildAttackGraph js (syncedCatalog js page) previewNodeId (syncedOverview number page)
        focusValue).DetectionsAlerted s focusValue := by
  obtain ⟨-, htasks, hexercises, hcatalog⟩ := sync_tables hpage
  simp only [buildAttackGraph]
  cases hfind : List.find? _ _ with
  | none => exact ⟨empty_wellFormed _ _, fun edge hedge => by cases hedge⟩
  | some g =>
    obtain ⟨sc, hsc, hname⟩ := find_catalog hfind hcatalog
    rcases focusedExercise_cases number hs hexercises focusValue with
      hnull | ⟨e, he, hfocus, hvalue⟩
    · have hnil : (attackContext (syncedOverview number page) previewNodeId focusValue
          g).exerciseTaskIds = [] := by
        rw [attackContext, hnull]
        rfl
      refine ⟨attackModel_wellFormed (distinct_of_nil hsc hnil),
        fun edge hedge hobserved d hd hkind htarget => ?_⟩
      obtain ⟨_, _, alert, halert, _⟩ := alert_of_edge hedge hobserved hd hkind htarget
      rw [attackContext, hnull] at halert
      cases halert
    · have hof : (attackContext (syncedOverview number page) previewNodeId focusValue g).Of
          number s e := attackContext_of (fun _ => mem_syncedTasks hs htasks) hfocus
      rw [hfocus, focusedScenarioId_toJs] at hname
      have hsame : sc = e.scenarioId :=
        Vocabulary.name_inj (JsString.ofString_inj (of_decide_eq_true hname))
      refine ⟨attackModel_wellFormed (distinct_of hs he hof (hsame ▸ hsc)),
        fun edge hedge hobserved d hd hkind htarget => ⟨e, he, hvalue, ?_⟩⟩
      obtain ⟨ruleId, hid, alert, halert, hrule⟩ :=
        alert_of_edge hedge hobserved hd hkind htarget
      rw [hof.alerts] at halert
      obtain ⟨a, ha, rfl⟩ := List.mem_map.mp halert
      have hget : a.toJs.get "rule_id" = .string (.ofString a.rule.id) := by
        simp [Alert.toJs]
      rw [hget] at hrule
      have hruleId : JsString.ofString a.rule.id = ruleId := of_decide_eq_true hrule
      refine ⟨a, ha, ?_⟩
      rw [hid, hruleId, ← render_detectionId]
      rfl

/-- The runtime on ASCII texts and whole numbers. -/
def JsRuntime.ascii : JsRuntime :=
  { text := fun
      | .undefined => "undefined"
      | .null => "null"
      | .bool b => if b then "true" else "false"
      | .number (.finite q) => .ofString (toString q.num)
      | .string s => s
      | _ => "[object Object]"
    toLowerCase := fun s => ⟨s.units.map fun u => if 0x41 ≤ u ∧ u ≤ 0x5A then u + 0x20 else u⟩
    toUpperCase := fun s => ⟨s.units.map fun u => if 0x61 ≤ u ∧ u ≤ 0x7A then u - 0x20 else u⟩ }

end C2Lab
