import C2Lab.Core.Retention
import C2Lab.Core.ExerciseHistory
import C2Lab.Dashboard.GraphModels
import C2Lab.Dashboard.GraphShape

/-! Pruning the tasks of an ended exercise does not change its attack graph.

    What the graph shows of a task that ended is in the timeline too: its status, and the techniques
    it observed. -/

namespace C2Lab

variable {w : World} {s : LabState} {e : Exercise} {c : AttackContext} {js : JsRuntime}
  {number : Json → JsNumber}

/-! ### The task of a step -/

section
variable (hs : Safe w s) (he : s.exercises.get? e.id = some e) (hc : c.Of number s e)
  {i : ℕ} {id : PyStr} {p : Playbook} (hid : e.taskIds[i]? = some id) (hplan : (id, p) ∈ e.plan)
include hs he hc hid hplan

omit hplan in
/-- A record with the id of a task of the exercise is the record of that task. -/
theorem record_eq {t : JsValue} (ht : t ∈ c.allTasks)
    (hsame : (t.get "id").sameValueZero (.string (.ofPy id)) = true) :
    ∃ u, s.tasks.get? id = some u ∧ u.publicTask.toJs number = t := by
  obtain ⟨u, hu, rfl⟩ := hc.tasks t ht
  rw [toJs_id] at hsame
  have heq := JsValue.string.inj (eq_of_sameValueZero (.inl hsame))
  have hdrawn := (hs.exercises _ _ he).drawn id (List.mem_of_getElem? hid)
  have hkey : u.id = id := taskId_of_ofPy (hs.tasks _ _ hu).drawn hdrawn heq
  exact ⟨u, hkey ▸ hu, rfl⟩

/-- The loop finds the record of the task at its place. -/
theorem task_eq_record {u : Task} (hu : s.tasks.get? id = some u)
    (hmem : u.publicTask.toJs number ∈ c.allTasks) :
    c.task (.ofString (Vocabulary.name p)) i = u.publicTask.toJs number := by
  have hkey : u.publicTask.id = id := hs.task_key hu
  have hcommand : u.publicTask.command = .runPlaybook p :=
    ((hs.exercise_valid he).planned hplan hu).1
  have hexpected : c.tasksById (c.expectedTaskId i) = u.publicTask.toJs number := by
    rw [expectedTaskId_of hs he hc hid, AttackContext.tasksById, JsValue.find]
    cases hfind : List.find? _ _ with
    | none =>
      have hnone := List.find?_eq_none.mp hfind _ (List.mem_reverse.mpr hmem)
      rw [toJs_id, hkey] at hnone
      exact absurd (decide_eq_true rfl) hnone
    | some t =>
      have hsame := List.find?_some hfind
      have ht := List.mem_reverse.mp (List.mem_of_find?_eq_some hfind)
      obtain ⟨u', hu', rfl⟩ := record_eq hs he hc hid ht hsame
      rw [Option.getD_some, Option.some.inj (hu.symm.trans hu')]
  have htype : ((u.publicTask.toJs number).get "type").strictEq "RUN_PLAYBOOK" = true := by
    have hget : (u.publicTask.toJs number).get "type" =
        .string (.ofString (Vocabulary.name u.publicTask.command.taskType)) := by
      simp [PublicTask.toJs]
    rw [hget, hcommand]
    exact decide_eq_true rfl
  simp only [AttackContext.task, hexpected]
  exact if_pos ⟨htype, (runsPlaybook_toJs hcommand).mpr rfl⟩

/-- Without the record it finds none. -/
theorem task_eq_undefined
    (hmem : ∀ u, s.tasks.get? id = some u → u.publicTask.toJs number ∉ c.allTasks) :
    c.task (.ofString (Vocabulary.name p)) i = .undefined := by
  have hnone : ∀ t ∈ c.allTasks, (t.get "id").sameValueZero (.string (.ofPy id)) ≠ true := by
    intro t ht hsame
    obtain ⟨u, hu, rfl⟩ := record_eq hs he hc hid ht hsame
    exact hmem u hu ht
  have hexpected : c.tasksById (c.expectedTaskId i) = .undefined := by
    rw [expectedTaskId_of hs he hc hid, AttackContext.tasksById, JsValue.find,
      List.find?_eq_none.mpr fun t ht => hnone t (List.mem_reverse.mp ht)]
    rfl
  have hother : c.allTasks.find? (fun candidate =>
      c.exerciseTaskIds.any (·.sameValueZero (candidate.get "id")) &&
        AttackContext.runsPlaybook candidate (.ofString (Vocabulary.name p))) = none := by
    refine List.find?_eq_none.mpr fun t ht hfound => ?_
    rw [Bool.and_eq_true, List.any_eq_true] at hfound
    have hsame := eq_of_runsPlaybook hs he hc hplan ht hfound.2 hfound.1
    refine hnone t ht ?_
    rw [hsame]
    exact decide_eq_true rfl
  simp only [AttackContext.task, hexpected, JsValue.find, hother]
  rfl

end

/-! ### What the timeline keeps -/

/-- The entries that tell how a task ended. -/
def TimelineItem.isTerminal (i : TimelineItem) : Bool :=
  match i.kind with
  | .task status => status.isTerminal
  | _ => false

theorem toJs_taskId (i : TimelineItem) :
    i.toJs.get "task_id" = .ofOption (i.taskId.map fun id => .string (.ofPy id)) := by
  simp [TimelineItem.toJs]

theorem toJs_kind (i : TimelineItem) : i.toJs.get "kind" = .string (.ofString i.kind.name) := by
  simp [TimelineItem.toJs]

/-- The dashboard knows the kinds of these entries. -/
theorem isSome_terminalKind (i : TimelineItem) :
    (knownId terminalItemKinds (i.toJs.get "kind")).isSome = i.isTerminal := by
  rw [toJs_kind, TimelineItem.isTerminal]
  cases i.kind with
  | task status => cases status <;> decide
  | exercise status => cases status <;> decide
  | _ => decide

theorem isTechnique_kind (i : TimelineItem) :
    (i.toJs.get "kind").strictEq "technique.observed" = decide (i.kind = .techniqueObserved) := by
  rw [toJs_kind]
  cases i.kind with
  | task status => cases status <;> decide
  | exercise status => cases status <;> decide
  | _ => decide

section
variable (hs : Safe w s) (he : s.exercises.get? e.id = some e) {id : PyStr} (hid : id ∈ e.taskIds)
include hs he hid

/-- Evidence with the id of the task on the page is that of the task. -/
theorem taskId_strictEq {i : TimelineItem} (hi : i ∈ e.timeline.map (·.item))
    (hevidence : i.isEvidence = true) :
    (i.toJs.get "task_id").strictEq (.string (.ofPy id)) = decide (i.taskId = some id) := by
  have hstored := hs.exercises _ _ he
  rw [toJs_taskId]
  cases htask : i.taskId with
  | none => exact (decide_eq_false (by simp)).symm
  | some x =>
    have hx : x ∈ e.taskIds := by
      refine hstored.valid.observed_mem x ?_
      by_contra hnot
      have hnil := hstored.valid.evidence_none x hnot
      have hmem : i ∈ e.evidence x := List.mem_filter.mpr ⟨hi, by simp [htask, hevidence]⟩
      rw [hnil] at hmem
      cases hmem
    refine decide_eq_decide.mpr ⟨fun h => ?_, fun h => ?_⟩
    · exact congrArg some (taskId_of_ofPy (hstored.drawn x hx) (hstored.drawn id hid) h)
    · exact congrArg JsString.ofPy (Option.some.inj h)

/-- What the dashboard filters of the timeline for a task is in the evidence of the task. -/
theorem filter_evidence {p : JsValue → Bool} {q : TimelineItem → Bool}
    (hpq : ∀ i : TimelineItem, p i.toJs = q i) (hq : ∀ i, q i = true → i.isEvidence = true) :
    (e.timeline.map fun entry => entry.item.toJs).filter (fun item =>
      (item.get "task_id").strictEq (.string (.ofPy id)) && p item) =
      ((e.evidence id).filter q).map TimelineItem.toJs := by
  have hmap : (e.timeline.map fun entry => entry.item.toJs) =
      (e.timeline.map (·.item)).map TimelineItem.toJs := by
    rw [List.map_map]
    rfl
  rw [hmap, List.filter_map, Exercise.evidence, List.filter_filter]
  refine congrArg _ (List.filter_congr fun i hi => ?_)
  rw [Function.comp_apply, hpq]
  cases hqi : q i with
  | false => rw [Bool.and_false, Bool.false_and]
  | true =>
    rw [taskId_strictEq hs he hid hi (hq i hqi), hq i hqi, Bool.and_true, Bool.true_and]

theorem find_terminalItem :
    (e.timeline.map fun entry => entry.item.toJs).find? (fun item =>
      (item.get "task_id").strictEq (.string (.ofPy id)) &&
        (knownId terminalItemKinds (item.get "kind")).isSome) =
      ((e.evidence id).find? TimelineItem.isTerminal).map TimelineItem.toJs := by
  have hterminal : ∀ i : TimelineItem, i.isTerminal = true → i.isEvidence = true := by
    intro i hi
    unfold TimelineItem.isTerminal at hi
    unfold TimelineItem.isEvidence
    cases hkind : i.kind <;> rw [hkind] at hi
    case task status => exact hi
    all_goals cases hi
  rw [← List.head?_filter, filter_evidence hs he hid isSome_terminalKind hterminal, List.head?_map,
    List.head?_filter]

/-- The techniques that the dashboard reads off the timeline. -/
theorem retainedTechniqueIds_eq :
    retainedTechniqueIdsForTask (e.timeline.map fun entry => entry.item.toJs)
        (.string (.ofPy id)) =
      JsSet.of (((e.evidence id).filter (·.kind = .techniqueObserved)).filterMap fun i =>
        knownId graphTechniqueIds (i.toJs.get "technique_id")) := by
  have htechnique : ∀ i : TimelineItem, decide (i.kind = .techniqueObserved) = true →
      i.isEvidence = true := by
    intro i hi
    rw [TimelineItem.isEvidence, of_decide_eq_true hi]
  rw [retainedTechniqueIdsForTask, filter_evidence hs he hid isTechnique_kind htechnique,
    List.filterMap_map]
  rfl

end

/-- The techniques of a playbook as the dashboard names them. -/
def Playbook.techniqueIds (p : Playbook) : List JsString :=
  (LabRuntime.techniqueTable p).map fun t => .ofString t.1

theorem techniqueIds_nodup (p : Playbook) : p.techniqueIds.Nodup := by
  cases p <;> decide

theorem techniqueIds_known (p : Playbook) :
    p.techniqueIds.filter (· ∈ graphTechniqueIds.map JsString.ofString) = p.techniqueIds := by
  cases p <;> decide

theorem knownId_techniqueItem {p : Playbook} (taskId : PyStr) :
    (((LabRuntime.techniqueTable p).map Prod.fst).map (LabState.techniqueItem taskId)).filterMap
        (fun i => knownId graphTechniqueIds (i.toJs.get "technique_id")) = p.techniqueIds := by
  have hknown : ∀ id ∈ (LabRuntime.techniqueTable p).map Prod.fst,
      knownId graphTechniqueIds (.string (.ofString id)) = some (.ofString id) := by
    cases p <;> decide
  have hget : ∀ id : String, (LabState.techniqueItem taskId id).toJs.get "technique_id" =
      .string (.ofString id) := by
    intro id
    simp [TimelineItem.toJs, LabState.techniqueItem, JsValue.ofOption]
  have hids : p.techniqueIds =
      ((LabRuntime.techniqueTable p).map Prod.fst).map JsString.ofString := by
    rw [Playbook.techniqueIds, List.map_map]
    rfl
  rw [hids, List.filterMap_map]
  refine (List.filterMap_congr fun id hid => ?_).trans (congrFun List.filterMap_eq_map _)
  rw [Function.comp_apply, hget, hknown id hid]
  rfl

/-- The evidence of an observed task: how it ended, and its techniques if it completed. -/
theorem evidence_shown (hs : Safe w s) (he : s.exercises.get? e.id = some e) {id : PyStr}
    {p : Playbook} (hplan : (id, p) ∈ e.plan) (hobserved : id ∈ e.observedTaskIds) {u : Task}
    (hu : s.tasks.get? id = some u) (hterm : u.status.isTerminal = true) :
    (e.evidence id).find? TimelineItem.isTerminal = some (LabState.endedItem u p) ∧
      ((e.evidence id).filter (·.kind = .techniqueObserved)).filterMap (fun i =>
        knownId graphTechniqueIds (i.toJs.get "technique_id")) =
        if u.status = .completed then p.techniqueIds else [] := by
  rw [(hs.exercise_valid he).evidence_eq hplan hobserved hu, evidenceItems,
    observedTechniques_eq (List.of_mem_zip hplan).2]
  refine ⟨List.find?_cons_of_pos hterm, ?_⟩
  rw [List.filter_cons_of_neg (by rintro ⟨⟩)]
  split
  · rw [List.filter_eq_self.mpr, knownId_techniqueItem]
    intro i hi
    obtain ⟨id, -, rfl⟩ := List.mem_map.mp hi
    rfl
  · rfl

/-! ### What the record of a completed task tells -/

/-- A name without surrogates is found again by the engine. -/
theorem no_surrogates {name : String}
    (h : (JsString.ofString name).units.all (fun u => !isSurrogate u.toNat) = true) :
    ∀ u ∈ (JsString.ofString name).units, isSurrogate u.toNat = false := by
  intro u hu
  simpa using List.all_eq_true.mp h u hu

/-- The raw id of a technique of a result. -/
theorem techniqueRecord_id {y : Json} (hwf : y.wf = true) {id : String}
    (hid : item y "id" = .ok (.str (.text id)))
    (hknown : JsString.ofString id ∈ graphTechniqueIds.map JsString.ofString) :
    (techniqueRecord js (y.toJs number)).1 = .ofString id := by
  have htrim : ∀ x ∈ graphTechniqueIds.map JsString.ofString, x.trim = x ∧ x ≠ .empty := by
    decide
  obtain ⟨htrim, hne⟩ := htrim _ hknown
  cases y with
  | obj fields =>
    have hget : ((Json.obj fields).toJs number).get "id" = .string (.ofString id) :=
      Json.get_toJs number (wf_nodup hwf) (no_surrogates (by decide)) (item_eq_ok.mp hid)
    have htext : recordText js ((Json.obj fields).toJs number) ["id", "technique_id"] =
        .ofString id := by
      rw [recordText, hget]
      simp only [htrim]
      exact if_pos hne
    rw [← htext]
    rfl
  | _ => cases hid

theorem techniqueRecord_ids {xs : List Json} {ids : List String}
    (h : List.Forall₂ (fun y id => item y "id" = .ok (.str (.text id))) xs ids)
    (hwf : ∀ y ∈ xs, y.wf = true)
    (hknown : ∀ id ∈ ids, JsString.ofString id ∈ graphTechniqueIds.map JsString.ofString) :
    (xs.map (Json.toJs number)).map (fun y => (techniqueRecord js y).1) =
      ids.map JsString.ofString := by
  induction h with
  | nil => rfl
  | cons hid _ ih =>
    rw [List.map_cons, List.map_cons, List.map_cons,
      ih (fun y hy => hwf y (List.mem_cons_of_mem _ hy))
        fun id hid => hknown id (List.mem_cons_of_mem _ hid),
      techniqueRecord_id (hwf _ List.mem_cons_self) hid (hknown _ List.mem_cons_self)]

/-- The techniques of an accepted result, as the dashboard reads them. -/
theorem Accepted.techniqueRecords {p : Playbook} {result : Json}
    (h : Accepted w (.runPlaybook p) .completed result) :
    (normalizeTechniqueRecords js ((result.toJs number).get "attack_techniques")).map (·.id) =
      p.techniqueIds := by
  obtain ⟨sent, expected, h⟩ := h
  obtain ⟨fields, hobj, -, hcon⟩ := validateTaskResult_eq_ok.mp h
  simp only [validateContract, asProtocolError_eq_ok] at hcon
  rw [hobj] at hcon
  obtain ⟨rfl, -, ⟨x, hx, hsame⟩, -⟩ := validatePlaybookResult_eq_ok hcon
  have hwf : (Json.obj fields).wf = true := hobj ▸ sent.2
  have hitems := wf_lookup hwf hx
  obtain ⟨xs, rfl, hids⟩ := attackTechniques_ids hitems hsame
  have harray : ((Json.obj fields).toJs number).get "attack_techniques" =
      .array (xs.map (Json.toJs number)) := by
    rw [Json.get_toJs number (wf_nodup hwf) (no_surrogates (by decide)) hx, Json.toJs,
      Json.toJsList_eq_map]
  have hknown : ∀ id ∈ (LabRuntime.techniqueTable p).map Prod.fst,
      JsString.ofString id ∈ graphTechniqueIds.map JsString.ofString := by
    cases p <;> decide
  have htable : ((LabRuntime.techniqueTable p).map Prod.fst).map JsString.ofString =
      p.techniqueIds := by
    rw [Playbook.techniqueIds, List.map_map]
    rfl
  rw [normalizeTechniqueRecords_ids, harray, JsValue.asArray,
    techniqueRecord_ids hids (Json.wfList_iff.mp hitems) hknown, htable, techniqueIds_known,
    JsSet.of_nodup (techniqueIds_nodup p)]

/-- A completed task lists the techniques of its playbook. -/
theorem resultTechniques_ids {u : Task} {p : Playbook} (hwf : u.WellFormed w)
    (hcommand : u.command = .runPlaybook p) (t : AttackTask)
    (ht : t.task = u.publicTask.toJs number) :
    (resultTechniques js t).map (·.id) =
      if u.status = .completed then p.techniqueIds else [] := by
  have hstatus : (t.task.get "status") = .string (.ofString (Vocabulary.name u.status)) := by
    rw [ht]
    simp [PublicTask.toJs, Task.publicTask]
  rw [resultTechniques, hstatus]
  by_cases hcompleted : u.status = .completed
  · obtain ⟨status, result, hst, hresult, haccepted⟩ :=
      hwf.accepted (hwf.completed_accepted hcompleted)
    have hsame : status = .completed := by
      cases status with
      | completed => rfl
      | failed => rw [hcompleted] at hst; cases hst
    rw [hsame, hcommand] at haccepted
    have hget : t.task.get "result" = result.toJs number := by
      rw [ht]
      simp [PublicTask.toJs, Task.publicTask, hresult, JsValue.ofOption]
    rw [if_pos hcompleted, hcompleted, hget, if_pos (by decide), haccepted.techniqueRecords]
  · rw [if_neg hcompleted, if_neg, List.map_nil]
    intro hname
    exact hcompleted (Vocabulary.name_inj (JsString.ofString_inj (of_decide_eq_true hname)))

/-! ### One step -/

/-- The same record, so the same task. -/
theorem sameStep_of_task_eq {tasks : List JsValue} {step : JsString × ℕ}
    (h : c.task step.1 step.2 = (c.withTasks tasks).task step.1 step.2) :
    SameStep js c tasks step := by
  have hrepresented : c.representedTaskId step.1 step.2 =
      (c.withTasks tasks).representedTaskId step.1 step.2 := by
    rw [AttackContext.representedTaskId, AttackContext.representedTaskId, h]
    rfl
  have htask : c.attackTask js step.1 step.2 = (c.withTasks tasks).attackTask js step.1 step.2 := by
    simp only [AttackContext.attackTask, h, hrepresented]
    rfl
  rw [SameStep, htask]
  exact ⟨rfl, rfl, rfl, rfl, rfl, rfl, rfl⟩

theorem truthy_ofPy {id : PyStr} (h : ∃ k < s.draws, id = w.taskId k) :
    (JsValue.string (.ofPy id)).truthy = true := by
  obtain ⟨k, -, rfl⟩ := h
  exact decide_eq_true (ofPy_taskId_ne w k)

theorem or_name (status : TaskStatus) (otherwise : JsValue) :
    (JsValue.string (.ofString (Vocabulary.name status))).or otherwise =
      .string (.ofString (Vocabulary.name status)) := by
  have hne : JsString.ofString (Vocabulary.name status) ≠ .empty := by
    cases status <;> decide
  rw [JsValue.or]
  exact if_pos (decide_eq_true hne)

/-- The end of a status in the kind of a terminal entry. -/
theorem retained_status {status : TaskStatus} (h : status.isTerminal = true) (otherwise : JsValue) :
    (JsValue.string ((JsString.ofString (TimelineKind.task status).name).slice 5)).or otherwise =
      .string (.ofString (Vocabulary.name status)) := by
  have hslice : (JsString.ofString (TimelineKind.task status).name).slice 5 =
      .ofString (Vocabulary.name status) := by
    cases status <;> decide
  rw [hslice]
  exact or_name status otherwise

/-- With its record a task shows its status. -/
theorem taskStatus_recorded {step : JsString × ℕ} {u : Task}
    (htask : c.task step.1 step.2 = u.publicTask.toJs number) :
    (c.attackTask js step.1 step.2).taskStatus =
      .string (.ofString (Vocabulary.name u.status)) := by
  have hrecord : (u.publicTask.toJs number).get "status" =
      .string (.ofString (Vocabulary.name u.status)) := by
    simp [PublicTask.toJs, Task.publicTask]
  simp only [AttackContext.attackTask, htask, hrecord]
  exact or_name u.status _

/-- Without it the status comes from its terminal entry. -/
theorem taskStatus_pruned {step : JsString × ℕ} {id : PyStr} {u : Task} {p : Playbook}
    (hterm : u.status.isTerminal = true) (htask : c.task step.1 step.2 = .undefined)
    (hrep : c.representedTaskId step.1 step.2 = .string (.ofPy id))
    (hitem : JsValue.find c.exerciseTimeline (fun item =>
      (item.get "task_id").strictEq (.string (.ofPy id)) &&
        (knownId terminalItemKinds (item.get "kind")).isSome) = (LabState.endedItem u p).toJs) :
    (c.attackTask js step.1 step.2).taskStatus =
      .string (.ofString (Vocabulary.name u.status)) := by
  have hkind : (LabState.endedItem u p).toJs.get "kind" =
      .string (.ofString (TimelineKind.task u.status).name) := toJs_kind _
  simp only [AttackContext.attackTask, htask, hrep]
  rw [hitem, hkind]
  exact retained_status hterm _

theorem taskObserved_of_represented {step : JsString × ℕ} {id : PyStr}
    (htruthy : (JsValue.string (.ofPy id)).truthy = true)
    (hrep : c.representedTaskId step.1 step.2 = .string (.ofPy id)) :
    (c.attackTask js step.1 step.2).taskObserved = true := by
  simp only [AttackContext.attackTask, hrep, htruthy, Bool.or_true]

theorem resultTechniques_pruned {step : JsString × ℕ} (h : c.task step.1 step.2 = .undefined) :
    resultTechniques js (c.attackTask js step.1 step.2) = [] := by
  have hget : (c.attackTask js step.1 step.2).task.get "status" = .undefined :=
    congrArg (·.get "status") h
  rw [resultTechniques, hget]
  rfl

/-- The alerts of a step depend on the tasks only through the id it stands for. -/
theorem alertTechniqueIds_eq {tasks : List JsValue} {t t' : AttackTask}
    (h : t.representedTaskId = t'.representedTaskId) :
    alertTechniqueIds (c.withTasks tasks) t' = alertTechniqueIds c t := by
  have hof : alertOfTask t' = alertOfTask t := by
    funext candidate
    rw [alertOfTask, alertOfTask, h]
  rw [alertTechniqueIds, alertTechniqueIds, hof]
  rfl

/-- A task that ended is shown the same without its record. -/
theorem sameStep_of_pruned (hs : Safe w s) (he : s.exercises.get? e.id = some e)
    (hc : c.Of number s e) {tasks : List JsValue} {step : JsString × ℕ} {id : PyStr} {p : Playbook}
    (hid : id ∈ e.taskIds) (hplan : (id, p) ∈ e.plan) (hobserved : id ∈ e.observedTaskIds)
    {u : Task} (hu : s.tasks.get? id = some u) (hterm : u.status.isTerminal = true)
    (htask : c.task step.1 step.2 = u.publicTask.toJs number)
    (hpruned : (c.withTasks tasks).task step.1 step.2 = .undefined)
    (hrep : c.representedTaskId step.1 step.2 = .string (.ofPy id))
    (hrep' : (c.withTasks tasks).representedTaskId step.1 step.2 = .string (.ofPy id)) :
    SameStep js c tasks step := by
  have htruthy := truthy_ofPy ((hs.exercises _ _ he).drawn id hid)
  obtain ⟨hended, htechniques⟩ := evidence_shown hs he hplan hobserved hu hterm
  have hcommand : u.command = .runPlaybook p := ((hs.exercise_valid he).planned hplan hu).1
  have hitem : JsValue.find c.exerciseTimeline (fun item =>
      (item.get "task_id").strictEq (.string (.ofPy id)) &&
        (knownId terminalItemKinds (item.get "kind")).isSome) =
      (LabState.endedItem u p).toJs := by
    rw [hc.timeline, JsValue.find, find_terminalItem hs he hid, hended]
    rfl
  have hretained : retainedTechniqueIdsForTask c.exerciseTimeline (.string (.ofPy id)) =
      if u.status = .completed then p.techniqueIds else [] := by
    rw [hc.timeline, retainedTechniqueIds_eq hs he hid, htechniques]
    split
    · exact JsSet.of_nodup (techniqueIds_nodup p)
    · rfl
  have hstatus : (c.attackTask js step.1 step.2).taskStatus =
      ((c.withTasks tasks).attackTask js step.1 step.2).taskStatus :=
    (taskStatus_recorded htask).trans (taskStatus_pruned hterm hpruned hrep' hitem).symm
  have hresult := @resultTechniques_ids _ js number _ _ (hs.task_wf hu) hcommand
    (c.attackTask js step.1 step.2) htask
  have hresult' : resultTechniques js ((c.withTasks tasks).attackTask js step.1 step.2) = [] :=
    resultTechniques_pruned hpruned
  have hid₁ : (c.attackTask js step.1 step.2).representedTaskId = .string (.ofPy id) := hrep
  have hid₂ : ((c.withTasks tasks).attackTask js step.1 step.2).representedTaskId =
      .string (.ofPy id) := hrep'
  have halerts : alertTechniqueIds (c.withTasks tasks)
      ((c.withTasks tasks).attackTask js step.1 step.2) =
      alertTechniqueIds c (c.attackTask js step.1 step.2) :=
    alertTechniqueIds_eq (hid₁.trans hid₂.symm)
  have hretained' : retainedTechniqueIdsForTask (c.withTasks tasks).exerciseTimeline
      (.string (.ofPy id)) = retainedTechniqueIdsForTask c.exerciseTimeline
        (.string (.ofPy id)) := rfl
  -- the techniques of the result are those of the timeline, so they come twice with the record
  have htwice : ∀ a b : List JsString,
      JsSet.of (a ++ (resultTechniques js (c.attackTask js step.1 step.2)).map (·.id) ++
        retainedTechniqueIdsForTask c.exerciseTimeline (.string (.ofPy id)) ++ b) =
        JsSet.of (a ++ retainedTechniqueIdsForTask c.exerciseTimeline (.string (.ofPy id)) ++
          b) := by
    intro a b
    rw [hresult, ← hretained, JsSet.of_append_twice]
  refine ⟨?_, hid₁.trans hid₂.symm, hstatus, congrArg (·.strictEq "completed") hstatus, ?_, ?_, ?_⟩
  · have hsame := hrep.trans hrep'.symm
    simp only [AttackContext.attackTask, hsame]
    rfl
  · exact (taskObserved_of_represented htruthy hrep).trans
      (taskObserved_of_represented htruthy hrep').symm
  · rw [techniqueIds, techniqueIds, hresult', hid₁, hid₂, halerts, hretained', htwice,
      List.map_nil, List.append_nil]
    rfl
  · have hnil := htwice [] (alertTechniqueIds c (c.attackTask js step.1 step.2))
    rw [List.nil_append, List.nil_append] at hnil
    rw [observedTechniqueIds, observedTechniqueIds, hresult', hid₁, hid₂, halerts, hretained',
      hnil, List.map_nil, List.nil_append]

/-- Removing records of tasks that ended changes no step. -/
theorem sameStep_of (hs : Safe w s) (he : s.exercises.get? e.id = some e)
    (hset : e.Settled s.tasks) (h : c.scenario.outline = e.scenarioId.outline)
    {tasks : List JsValue} (hc : c.Of number s e) (hc' : (c.withTasks tasks).Of number s e)
    {P : PyStr → Bool} (hP : ∀ id, P id = true → ∃ t, t.id = id ∧ s.Prunable t)
    (hall : ∀ u, s.tasks.get? u.id = some u → u.publicTask.toJs number ∈ c.allTasks)
    (hkept : ∀ u, s.tasks.get? u.id = some u →
      (u.publicTask.toJs number ∈ tasks ↔ P u.id = false))
    {step : JsString × ℕ} (hstep : step ∈ (attackPlaybooks c).zipIdx) :
    SameStep js c tasks step := by
  obtain ⟨id, p, hid, hplan, hname⟩ := exists_planned_step (hs.exercise_valid he) h hstep
  have hmem : id ∈ e.taskIds := List.mem_of_getElem? hid
  have hrep : ∀ {c' : AttackContext}, c'.Of number s e →
      c'.representedTaskId step.1 step.2 = .string (.ofPy id) := fun hof =>
    representedTaskId_eq (expectedTaskId_of hs he hof hid) fun t ht hruns hany =>
      eq_of_runsPlaybook hs he hof hplan ht (hname ▸ hruns) hany
  cases hu : s.tasks.get? id with
  | none =>
    refine sameStep_of_task_eq ?_
    rw [hname, task_eq_undefined hs he hc hid hplan fun u hget => ?_,
      task_eq_undefined hs he hc' hid hplan fun u hget => ?_]
    all_goals rw [hu] at hget; cases hget
  | some u =>
    have hkey : u.id = id := hs.task_key hu
    have hget : s.tasks.get? u.id = some u := hkey ▸ hu
    have htask := task_eq_record hs he hc hid hplan hu (hall u hget)
    cases hpruned : P id with
    | false =>
      have hin : u.publicTask.toJs number ∈ (c.withTasks tasks).allTasks :=
        (hkept u hget).mpr (hkey ▸ hpruned)
      refine sameStep_of_task_eq ?_
      rw [hname, htask, task_eq_record hs he hc' hid hplan hu hin]
    | true =>
      obtain ⟨t, rfl, ht, hterm, -⟩ := hP id hpruned
      obtain rfl := Option.some.inj (ht.symm.trans hu)
      refine sameStep_of_pruned hs he hc hmem hplan (hset.observed _ hmem t hu hterm) hu hterm
        (hname ▸ htask) ?_ (hrep hc) (hrep hc')
      rw [hname]
      refine task_eq_undefined hs he hc' hid hplan fun u hget' hin => ?_
      obtain rfl := Option.some.inj (hget'.symm.trans hu)
      rw [(hkept u hget).mp hin] at hpruned
      cases hpruned

/-! ### The graphs -/

/-- The overview without the records of the tasks `P`. -/
def prunedOverview (number : Json → JsNumber) (page : SyncPage) (P : PyStr → Bool) :
    AttackOverview :=
  { syncedOverview number page with
    tasks := .array ((page.tasks.filter fun t => !P t.id).map (PublicTask.toJs number)) }

variable {page : SyncPage}

theorem toJs_exerciseId (e : Exercise) :
    e.publicExercise.toJs.get "id" = .string (.ofPy e.id) := by
  simp [PublicExercise.toJs, Exercise.publicExercise]

theorem exerciseId_of_ofPy {e' : Exercise} (hs : Safe w s) (he : s.exercises.get? e.id = some e)
    (he' : s.exercises.get? e'.id = some e') (h : JsString.ofPy e.id = .ofPy e'.id) : e = e' := by
  obtain ⟨k, -, hk⟩ := (hs.exercises _ _ he).id_drawn
  obtain ⟨k', -, hk'⟩ := (hs.exercises _ _ he').id_drawn
  rw [hk, hk'] at h
  have hid : e.id = e'.id := by
    rw [hk, hk']
    exact congrArg PyStr.text (JsString.ofString_inj h)
  rw [hid, he'] at he
  exact (Option.some.inj he).symm

variable (number) in
/-- The focus on an exercise of the state finds it. -/
theorem focusedExercise_of (hs : Safe w s) (he : s.exercises.get? e.id = some e)
    (hpage : page.exercises = s.publicExercises) :
    focusedExercise (syncedOverview number page) (("exercise:" : JsString) ++ .ofPy e.id) =
      e.publicExercise.toJs := by
  have hmem : e.publicExercise.toJs ∈ (syncedOverview number page).exercises.asArray := by
    refine List.mem_map_of_mem (hpage ▸ ?_)
    exact List.mem_mergeSort.mpr (List.mem_map_of_mem (Dict.mem_values.mpr ⟨_, he⟩))
  rcases focusedExercise_cases number hs hpage (("exercise:" : JsString) ++ .ofPy e.id) with
    hnull | ⟨e', he', hfocus, hvalue⟩
  · exfalso
    have hstart : (("exercise:" : JsString) ++ JsString.ofPy e.id).startsWith "exercise:" = true :=
      rfl
    have hsame : (e.publicExercise.toJs.get "id").strictEq
        ((("exercise:" : JsString) ++ JsString.ofPy e.id).slice 9) = true := by
      rw [toJs_exerciseId]
      exact decide_eq_true rfl
    unfold focusedExercise at hnull
    rw [if_pos hstart, JsValue.find] at hnull
    cases hfind : (syncedOverview number page).exercises.asArray.find? fun candidate : JsValue =>
        (candidate.get "id").strictEq
          ((("exercise:" : JsString) ++ JsString.ofPy e.id).slice 9) with
    | none => exact List.find?_eq_none.mp hfind _ hmem hsame
    | some candidate =>
      rw [hfind] at hnull
      obtain ⟨x, -, rfl⟩ := List.mem_map.mp (List.mem_of_find?_eq_some hfind)
      cases hnull
  · rw [hfocus, exerciseId_of_ofPy hs he he' (JsString.append_left_inj hvalue)]

/-- The attack graph of an exercise does not change when tasks of the exercise that retention may
    remove are gone from the task list: the same entities in the same order, and the same edges, up
    to texts. -/
theorem pruned_evidence_same_graph (js : JsRuntime) (number : Json → JsNumber)
    (previewNodeId : JsString) (hr : Reachable w s) {generatedAt : Timestamp}
    {eventsAfter auditAfter limit : Json}
    (hpage : s.sync generatedAt eventsAfter auditAfter limit = .ok page)
    (he : s.exercises.get? e.id = some e) (P : PyStr → Bool)
    (hP : ∀ id, P id = true → id ∈ e.taskIds ∧ ∃ t, t.id = id ∧ s.Prunable t) :
    (buildAttackGraph js (syncedCatalog js page) previewNodeId (syncedOverview number page)
        (("exercise:" : JsString) ++ .ofPy e.id)).SameShape
      (buildAttackGraph js (syncedCatalog js page) previewNodeId (prunedOverview number page P)
        (("exercise:" : JsString) ++ .ofPy e.id)) := by
  have hs := hr.sound.safe
  obtain ⟨-, htasks, hexercises, hcatalog⟩ := sync_tables hpage
  have hfocus := focusedExercise_of number hs he hexercises
  have hfocus' : focusedExercise (prunedOverview number page P)
      (("exercise:" : JsString) ++ .ofPy e.id) = e.publicExercise.toJs := hfocus
  simp only [buildAttackGraph, hfocus, hfocus', focusedScenarioId_toJs]
  cases hfind : List.find? _ _ with
  | none => exact ⟨rfl, rfl⟩
  | some g =>
    obtain ⟨sc, hsc, hname⟩ := find_catalog hfind hcatalog
    have hsame : sc = e.scenarioId :=
      Vocabulary.name_inj (JsString.ofString_inj (of_decide_eq_true hname))
    have hmem : ∀ u, s.tasks.get? u.id = some u → u.publicTask ∈ page.tasks := fun u hu =>
      htasks ▸ (mem_publicTasks hs).mpr ⟨u, hu, rfl⟩
    have hof : (attackContext (syncedOverview number page) previewNodeId
        (("exercise:" : JsString) ++ .ofPy e.id) g).Of number s e :=
      attackContext_of (fun _ => mem_syncedTasks hs htasks) hfocus
    have hof' : (attackContext (prunedOverview number page P) previewNodeId
        (("exercise:" : JsString) ++ .ofPy e.id) g).Of number s e := by
      refine attackContext_of (fun t ht => ?_) hfocus'
      obtain ⟨x, hx, rfl⟩ := List.mem_map.mp ht
      exact mem_syncedTasks hs htasks (List.mem_map_of_mem (List.mem_filter.mp hx).1)
    refine attackModel_sameShape _ fun step hstep => sameStep_of hs he (hr.sound.settled _ _ he)
      (hsame ▸ hsc) hof hof' (fun id hid => (hP id hid).2)
      (fun u hu => List.mem_map_of_mem (hmem u hu)) (fun u hu => ⟨fun hin => ?_, fun hkept => ?_⟩)
      hstep
    · obtain ⟨x, hx, hsameJs⟩ := List.mem_map.mp hin
      obtain ⟨hxmem, hkept⟩ := List.mem_filter.mp hx
      obtain ⟨v, hv, hvx⟩ := (mem_publicTasks hs).mp (htasks ▸ hxmem)
      have hid := congrArg (·.get "id") hsameJs
      simp only [toJs_id] at hid
      have hids : x.id = u.id := taskId_of_ofPy (hs.tasks _ _ hv).drawn (hs.tasks _ _ hu).drawn
        (JsValue.string.inj hid)
      rw [← hids]
      exact (Bool.not_eq_true' _).mp hkept
    · refine List.mem_map_of_mem (List.mem_filter.mpr ⟨hmem u hu, ?_⟩)
      exact (Bool.not_eq_true' _).mpr hkept

namespace Counting

/-- The detected exercise is contained, and its remaining task cancelled. -/
def curtailed : List Op := detection ++ [.containExercise (.str (World.counting.exerciseId 6))
  (Vocabulary.toJson ContainmentAction.cancelRemaining) (.str "operator")]

/-- It is a run, and its first task is terminal and required no more. -/
theorem curtailed_evaluated :
    (∀ k < curtailed.length + 1,
      (exec .counting (.init "stream") (curtailed.take k)).draws ≤ 10 ^ 10) ∧
    let s := exec .counting (.init "stream") curtailed
    (s.exercises.get? (World.counting.exerciseId 6)).map (·.taskIds) =
        some [World.counting.taskId 9, World.counting.taskId 16] ∧
      (s.tasks.get? (World.counting.taskId 9)).map (fun t =>
        (t.status.isTerminal, C2Lab.taskIsRequiredByRunningExerciseLocked t s)) =
        some (true, false) := by
  decide +kernel

end Counting

/-- The completed task of a contained exercise may go. -/
theorem pruned_evidence_same_graph_contained :
    let s := exec .counting (.init "stream") (Counting.detection ++
      [.containExercise (.str (World.counting.exerciseId 6))
        (Vocabulary.toJson ContainmentAction.cancelRemaining) (.str "operator")])
    let number : Json → JsNumber := fun _ => .finite 0
    let focusValue := ("exercise:" : JsString) ++ .ofPy (World.counting.exerciseId 6)
    ∃ page, s.sync 0 (.int 0) (.int 0) (.int 100) = .ok page ∧
      (buildAttackGraph .ascii (syncedCatalog .ascii page) "" (syncedOverview number page)
        focusValue).SameShape
      (buildAttackGraph .ascii (syncedCatalog .ascii page) ""
        (prunedOverview number page fun id => id = World.counting.taskId 9) focusValue) := by
  intro s number focusValue
  obtain ⟨hdraws, hexercise, htask⟩ := Counting.curtailed_evaluated
  have hr : Reachable .counting s := (World.counting_run "stream" _ hdraws).reachable
  have hs := hr.sound.safe
  obtain ⟨e, he, htaskIds⟩ := Option.map_eq_some_iff.mp hexercise
  obtain ⟨t, ht, hended⟩ := Option.map_eq_some_iff.mp htask
  have hkey := hs.exercise_key he
  have htaskKey := hs.task_key ht
  have hsync (m : LabState) : ∃ page, m.sync 0 (.int 0) (.int 0) (.int 100) = .ok page := ⟨_, rfl⟩
  obtain ⟨page, hpage⟩ := hsync s
  refine ⟨page, hpage, ?_⟩
  have hgraphs := pruned_evidence_same_graph .ascii number "" hr hpage (hkey.symm ▸ he)
    (fun id => id = World.counting.taskId 9) fun id hid => ?_
  · rw [hkey] at hgraphs
    exact hgraphs
  · obtain rfl := of_decide_eq_true hid
    refine ⟨htaskIds ▸ List.mem_cons_self, t, htaskKey, htaskKey.symm ▸ ht, ?_⟩
    exact ⟨congrArg Prod.fst hended, congrArg Prod.snd hended⟩

end C2Lab
