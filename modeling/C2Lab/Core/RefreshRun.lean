import C2Lab.Core.Preserve

/-! `_refresh_exercises_locked` never fails, is a sequence of writes, and leaves no ended task of an
    exercise unobserved. -/

namespace C2Lab

variable {w : World} {s s' s₀ : LabState} {acts : List Activity}

/-! ### Sequences of writes from a safe state -/

/-- `s` is safe and came from `s₀` by writes of the given parts of the program. -/
structure Came (w : World) (acts : List Activity) (s₀ s : LabState) : Prop where
  writes : Writes w acts s₀ s
  safe : Safe w s

namespace Came

theorem refl (hs : Safe w s) : Came w acts s s := ⟨.refl, hs⟩

/-- One more write that adds no record. -/
theorem write (h : Came w acts s₀ s) {c : Activity} (hw : Write w s c s') (hc : c ∈ acts)
    (hn : c.creates = false) : Came w acts s₀ s' :=
  ⟨h.writes.tail ⟨c, hc, hw⟩, hw.safe h.safe fun ht => by rw [hn] at ht; cases ht⟩

theorem trans (h : Came w acts s₀ s) (h' : Came w acts s s') : Came w acts s₀ s' :=
  ⟨h.writes.trans h'.writes, h'.safe⟩

end Came

/-! ### Techniques of a completed playbook -/

@[simp] theorem check_ok {α : Type} (a : α) : check (.ok a : Except Exc α) = pure a := rfl

@[simp] theorem check_error {α : Type} (e : Exc) : check (.error e : Except Exc α) = throw e := rfl

/-- A stored result of a completed playbook lists the techniques of the table. -/
theorem Accepted.attackTechniques {p : Playbook} {result : Json}
    (h : Accepted w (.runPlaybook p) .completed result) :
    ∃ xs, item result "attack_techniques" = .ok (.arr xs) ∧
      List.Forall₂ (fun y id => item y "id" = .ok (.str (.text id))) xs
        ((LabRuntime.techniqueTable p).map Prod.fst) := by
  obtain ⟨sent, expected, h⟩ := h
  obtain ⟨fields, hobj, -, hcon⟩ := validateTaskResult_eq_ok.mp h
  simp only [validateContract, asProtocolError_eq_ok] at hcon
  rw [hobj] at hcon
  obtain ⟨rfl, -, ⟨x, hx, hsame⟩, -⟩ := validatePlaybookResult_eq_ok hcon
  have hwf : x.wf = true := wf_lookup (hobj ▸ sent.2) hx
  obtain ⟨xs, rfl, hids⟩ := attackTechniques_ids hwf hsame
  exact ⟨xs, item_eq_ok.mpr hx, hids⟩

/-- A completed playbook task lists the techniques of the table. -/
theorem Task.WellFormed.attackTechniques {t : Task} (h : t.WellFormed w) {p : Playbook}
    (hp : t.command = .runPlaybook p) (hc : t.status = .completed) :
    ∃ xs, t.attackTechniques = .ok xs ∧
      List.Forall₂ (fun y id => item y "id" = .ok (.str (.text id))) xs
        ((LabRuntime.techniqueTable p).map Prod.fst) := by
  obtain ⟨st, result, hst, hres, hacc⟩ := h.accepted (h.completed_accepted hc)
  have hst' : st = .completed := by
    cases st with
    | completed => rfl
    | failed => rw [hc] at hst; cases hst
  subst hst'
  rw [hp] at hacc
  obtain ⟨xs, hx, hids⟩ := hacc.attackTechniques
  refine ⟨xs, ?_, hids⟩
  simp only [Task.attackTechniques, hres, hx]

/-- One technique: allowed ones are appended to the timeline. -/
theorem observeTechnique_run (id : PyStr) (scenario : ScenarioId) (taskId : PyStr) {y : Json}
    {t : String} (hy : item y "id" = .ok (.str (.text t))) :
    observeTechnique w id scenario taskId y s = .ok ⟨⟩
      (if t ∈ allowedTechniqueIds scenario then
        s.appendExerciseTimelineLocked w id (LabState.techniqueItem taskId t) else s) := by
  have hset : LabRuntime.inSet (.str (.text t)) ((allowedTechniqueIds scenario).map .text) =
      .ok (decide (t ∈ allowedTechniqueIds scenario)) := by
    have hany : ((allowedTechniqueIds scenario).map PyStr.text).any (Json.str (.text t)).eqStr =
        decide (t ∈ allowedTechniqueIds scenario) := by
      rw [Bool.eq_iff_iff]
      simp
    simp only [LabRuntime.inSet, Json.inStrSet, Json.hashable, if_true, hany]
  simp only [observeTechnique, hy, hset, check_ok, pure_bind]
  by_cases h : t ∈ allowedTechniqueIds scenario
  · simp only [h, decide_true, if_true]; rfl
  · simp only [h, decide_false, if_false]; rfl

/-- The loop over the techniques of a completed task. -/
theorem observeTechniques_run (id : PyStr) (scenario : ScenarioId) (taskId : PyStr)
    {xs : List Json} {ids : List String}
    (h : List.Forall₂ (fun y id => item y "id" = .ok (.str (.text id))) xs ids) :
    forM xs (observeTechnique w id scenario taskId) s = .ok ⟨⟩
      (((ids.filter (· ∈ allowedTechniqueIds scenario)).map
        (LabState.techniqueItem taskId)).foldl
          (fun s item => s.appendExerciseTimelineLocked w id item) s) := by
  induction h generalizing s with
  | nil => rfl
  | @cons y t xs ids hy _ ih =>
    rw [List.forM_cons]
    simp only [bind, EStateM.bind, observeTechnique_run id scenario taskId hy]
    rw [ih]
    by_cases ht : t ∈ allowedTechniqueIds scenario <;> simp [ht]

/-! ### One task -/

/-- The evidence of an ended task. -/
theorem appendEvidence_run {e : Exercise} {t : Task} {p : Playbook} (hwf : t.WellFormed w)
    (hp : t.command = .runPlaybook p) :
    appendExerciseTaskEvidenceLocked w e t s = .ok ⟨⟩
      ((evidenceItems e.scenarioId t p).foldl
        (fun s item => s.appendExerciseTimelineLocked w e.id item) s) := by
  have hpb : t.playbook = .ok p := by rw [Task.playbook, hp]
  unfold appendExerciseTaskEvidenceLocked evidenceItems
  rw [hpb]
  simp only [check_ok, bind, EStateM.bind, Prog.modify_apply, List.foldl_cons]
  by_cases hc : t.status = .completed
  · obtain ⟨xs, htech, hids⟩ := hwf.attackTechniques hp hc
    rw [if_pos hc, if_pos hc, htech]
    simp only [check_ok, pure, EStateM.pure]
    exact observeTechniques_run e.id e.scenarioId t.id hids
  · rw [if_neg hc, if_neg hc]; rfl

/-- A refresh of one task either finds nothing to do or observes the ended task. -/
theorem refreshTask_wp {Q : Unit → LabState → Prop} {E : Exc → LabState → Prop}
    (hs : Safe w s) {id taskId : PyStr}
    (hmem : ∀ e, s.exercises.get? id = some e → taskId ∈ e.taskIds)
    (hskip : (∀ e, s.exercises.get? id = some e → taskId ∈ e.observedTaskIds ∨
      ∀ t, s.tasks.get? taskId = some t → t.status.isTerminal = false) → Q () s)
    (hobs : ∀ e t p, s.exercises.get? id = some e → e.id = id → t.id = taskId →
      taskId ∉ e.observedTaskIds → s.tasks.get? taskId = some t → t.status.isTerminal = true →
      t.command = .runPlaybook p → Q () (s.observeEnded w e t p)) :
    Prog.wp (refreshTask w id taskId) Q E s := by
  unfold refreshTask
  simp only [Prog.wp_bind, Prog.wp_get]
  cases he : s.exercises.get? id with
  | none => exact hskip (by simp [he])
  | some e =>
    simp only
    by_cases hin : taskId ∈ e.observedTaskIds
    · rw [if_pos hin]
      exact hskip fun e' he' => by rw [he] at he'; cases he'; exact .inl hin
    rw [if_neg hin]
    cases ht : s.tasks.get? taskId with
    | none => exact hskip fun _ _ => .inr (by simp [ht])
    | some t =>
      simp only
      by_cases hterm : t.status.isTerminal = true
      swap
      · rw [if_neg hterm]
        exact hskip fun _ _ => .inr fun t' ht' => by
          rw [ht] at ht'; cases ht'; simpa using hterm
      rw [if_pos hterm]
      have hid := hs.exercise_key he
      have htid := hs.task_key ht
      obtain ⟨p, hpl⟩ := Exercise.exists_planned (hs.exercise_valid he).length_eq (hmem e he)
      have hp := ((hs.exercise_valid he).planned hpl ht).1
      have hpb : t.playbook = .ok p := by rw [Task.playbook, hp]
      have hfinal := hobs e t p he hid htid hin ht hterm hp
      unfold LabState.observeEnded at hfinal
      rw [hid, htid] at hfinal
      have hrun : ∀ s, appendExerciseTaskEvidenceLocked w e t s = .ok ⟨⟩
          ((evidenceItems e.scenarioId t p).foldl
            (fun s item => s.appendExerciseTimelineLocked w id item) s) := fun s => by
        rw [appendEvidence_run (hs.task_wf ht) hp, hid]
      simp only [Prog.wp_bind, Prog.wp_modify]
      by_cases hc : e.status = .contained
      · rw [if_pos hc, Prog.wp_run (hrun _)]
        simpa [matchedRules, hc] using hfinal
      · rw [if_neg hc, hpb]
        simp only [check_ok, Prog.wp_bind, Prog.wp_pure]
        rw [Prog.wp_run (hrun _)]
        by_cases hcomp : t.status = .completed
        · rw [if_pos hcomp]
          simpa [matchedRules, hc, hcomp] using hfinal
        · rw [if_neg hcomp]
          simpa [matchedRules, hc, hcomp] using hfinal

/-! ### One exercise -/

/-- Every ended task is observed, and if all tasks ended the exercise has its terminal status. -/
structure Exercise.Settled (tasks : Dict PyStr Task) (e : Exercise) : Prop where
  observed : ∀ id ∈ e.taskIds, ∀ t, tasks.get? id = some t → t.status.isTerminal = true →
    id ∈ e.observedTaskIds
  recorded : e.containment = none → (∀ id ∈ e.taskIds, ∃ t, tasks.get? id = some t ∧
    t.status.isTerminal = true) → e.completionRecorded = true

/-- A refresh in progress on one exercise: nothing but that exercise changed. -/
structure Refreshing (id : PyStr) (s s' : LabState) : Prop where
  records : s'.toRecords = { s.toRecords with exercises := s'.exercises }
  others : ∀ k ≠ id, s'.exercises.get? k = s.exercises.get? k
  none : s.exercises.get? id = none → s'.exercises.get? id = none
  self : ∀ e, s.exercises.get? id = some e → ∃ e', s'.exercises.get? id = some e' ∧
    e'.taskIds = e.taskIds ∧ e.observedTaskIds ⊆ e'.observedTaskIds ∧
    e'.containment = e.containment

namespace Refreshing

variable {id : PyStr} {s₁ s₂ : LabState}

theorem refl (id : PyStr) (s : LabState) : Refreshing id s s :=
  ⟨rfl, fun _ _ => rfl, fun h => h, fun e he => ⟨e, he, rfl, List.Subset.refl _, rfl⟩⟩

theorem tasks_eq (h : Refreshing id s s') : s'.tasks = s.tasks := by rw [h.records]

theorem trans (h : Refreshing id s s₁) (h' : Refreshing id s₁ s₂) : Refreshing id s s₂ where
  records := by rw [h'.records, h.records]
  others k hk := (h'.others k hk).trans (h.others k hk)
  none hn := h'.none (h.none hn)
  self e he := by
    obtain ⟨e₁, he₁, ht, hsub, hc⟩ := h.self e he
    obtain ⟨e₂, he₂, ht', hsub', hc'⟩ := h'.self e₁ he₁
    exact ⟨e₂, he₂, ht'.trans ht, List.Subset.trans hsub hsub', hc'.trans hc⟩

/-- An edit of the exercise that keeps its tasks, what it observed and its containment. -/
theorem of_edits {e e' : Exercise} (he : s.exercises.get? e.id = some e) (h : s.Edits w e' s')
    (hid : e'.id = e.id) (ht : e'.taskIds = e.taskIds)
    (hsub : e.observedTaskIds ⊆ e'.observedTaskIds) (hc : e'.containment = e.containment) :
    Refreshing e.id s s' where
  records := by rw [h.records]
  others k hk := by rw [h.records, hid]; exact Dict.get?_set_ne _ _ hk
  none hn := by rw [he] at hn; cases hn
  self x hx := by
    rw [he] at hx
    cases hx
    exact ⟨e', hid ▸ h.get?, ht, hsub, hc⟩

end Refreshing

/-- The tail of the loop over exercises. -/
theorem recordCompletion_wp {id : PyStr} (h : Came w acts s₀ s) (hr : .refresh ∈ acts)
    (hobs : ∀ e, s.exercises.get? id = some e → ∀ x ∈ e.taskIds, ∀ t, s.tasks.get? x = some t →
      t.status.isTerminal = true → x ∈ e.observedTaskIds)
    (hc : ∀ e, s.exercises.get? id = some e → e.status ≠ .contained) :
    Prog.wp (recordCompletion w id) (fun _ s' => Came w acts s₀ s' ∧ Refreshing id s s' ∧
      ∀ e, s'.exercises.get? id = some e → e.Settled s'.tasks) (fun _ _ => False) s := by
  unfold recordCompletion
  simp only [Prog.wp_bind, Prog.wp_get]
  cases he : s.exercises.get? id with
  | none => exact ⟨h, .refl id s, by simp [he]⟩
  | some e =>
    have hid := h.safe.exercise_key he
    have hv := h.safe.exercise_valid he
    -- whether the code finds a task missing or unfinished
    have hunfinished : (e.taskIds.map s.tasks.get? = [] ∨
        (e.taskIds.map s.tasks.get?).any unfinished = true) ↔
        ¬∀ x ∈ e.taskIds, ∃ t, s.tasks.get? x = some t ∧ t.status.isTerminal = true := by
      have hne : e.taskIds ≠ [] := fun hn => by
        have := hv.length_eq
        rw [hn, playbooks_length] at this; cases this
      rw [List.map_eq_nil_iff, List.any_map, List.any_eq_true]
      push Not
      constructor
      · rintro (hn | ⟨x, hx, hm⟩)
        · exact absurd hn hne
        · refine ⟨x, hx, fun t ht hterm => ?_⟩
          simp [unfinished, ht, hterm] at hm
      · rintro ⟨x, hx, hall⟩
        refine .inr ⟨x, hx, ?_⟩
        cases ht : s.tasks.get? x with
        | none => simp [unfinished, ht]
        | some t => simpa [unfinished, ht] using hall t ht
    simp only
    by_cases hall : ∀ x ∈ e.taskIds, ∃ t, s.tasks.get? x = some t ∧ t.status.isTerminal = true
    swap
    · rw [if_pos (hunfinished.mpr hall)]
      refine ⟨h, .refl id s, fun e' he' => ?_⟩
      rw [he] at he'
      cases he'
      exact ⟨hobs e he, fun _ hcon => absurd hcon hall⟩
    rw [if_neg fun hcon => hunfinished.mp hcon hall]
    by_cases hrec : e.completionRecorded = true
    · rw [if_pos hrec]
      refine ⟨h, .refl id s, fun e' he' => ?_⟩
      rw [he] at he'
      cases he'
      exact ⟨hobs e he, fun _ _ => hrec⟩
    rw [if_neg hrec, Prog.wp_modify]
    have hrec' : e.completionRecorded = false := by simpa using hrec
    have he' : s.exercises.get? e.id = some e := hid ▸ he
    obtain ⟨e₁, hedit, hfin⟩ := LabState.completeExercise_edits h.safe he' hrec' (s.finalStatus e)
    have hall' : ∀ x ∈ e.taskIds, x ∈ e.observedTaskIds ∧
        ∃ t, s.tasks.get? x = some t ∧ t.status.isTerminal = true := fun x hx => by
      obtain ⟨t, ht, hterm⟩ := hall x hx
      exact ⟨hobs e he x hx t ht hterm, t, ht, hterm⟩
    have href : Refreshing id s (s.completeExercise w e (s.finalStatus e)) :=
      hid ▸ .of_edits he' hedit hfin.id_eq hfin.tasks_eq
        (by rw [hfin.observed_eq]; exact List.Subset.refl _) hfin.containment_eq
    have hget := hedit.get?
    rw [hfin.id_eq, hid] at hget
    refine ⟨h.write (.completeExercise he' (hc e he) hrec' hall') hr rfl, href,
      fun e₂ he₂ => ?_⟩
    have heq : e₁ = e₂ := Option.some.inj (hget.symm.trans he₂)
    subst heq
    refine ⟨fun x hx t _ _ => ?_, fun _ _ => hfin.completion_eq.1⟩
    rw [hfin.observed_eq]
    exact (hall' x (hfin.tasks_eq ▸ hx)).1

/-- The tasks of a loop that are done: those that ended are observed. -/
def ObservedSoFar (id : PyStr) (done : List PyStr) (s : LabState) : Prop :=
  ∀ e, s.exercises.get? id = some e → ∀ x ∈ done, ∀ t, s.tasks.get? x = some t →
    t.status.isTerminal = true → x ∈ e.observedTaskIds

/-- The refresh of one exercise. -/
theorem refreshExercise_wp {id : PyStr} (h : Came w acts s₀ s) (hr : .refresh ∈ acts) :
    Prog.wp (refreshExercise w id) (fun _ s' => Came w acts s₀ s' ∧ Refreshing id s s' ∧
      ∀ e, s'.exercises.get? id = some e → e.Settled s'.tasks) (fun _ _ => False) s := by
  unfold refreshExercise
  simp only [Prog.wp_bind, Prog.wp_get]
  cases he : s.exercises.get? id with
  | none => exact ⟨h, .refl id s, by simp [he]⟩
  | some e =>
    simp only [Prog.wp_bind]
    have hloop : Prog.wp (forM e.taskIds (refreshTask w id)) (fun _ s' => Came w acts s₀ s' ∧
        Refreshing id s s' ∧ ObservedSoFar id e.taskIds s') (fun _ _ => False) s := by
      refine Prog.wp_forM_prefix (I := fun done s' => Came w acts s₀ s' ∧ Refreshing id s s' ∧
        ObservedSoFar id done s') ?_ ⟨h, .refl id s, by simp [ObservedSoFar]⟩
      rintro done x rest hsplit s₁ ⟨hcame, href, hdone⟩
      obtain ⟨e₁, he₁, htids, hsub, hcon⟩ := href.self e he
      refine refreshTask_wp hcame.safe ?_ ?_ ?_
      · intro e' he'
        rw [he₁] at he'
        cases he'
        rw [htids, hsplit]
        simp
      · intro hskip
        refine ⟨hcame, href, fun e' he' y hy t ht hterm => ?_⟩
        rcases List.mem_append.mp hy with hy | hy
        · exact hdone e' he' y hy t ht hterm
        · rw [List.mem_singleton.mp hy] at ht ⊢
          rcases hskip e' he' with hin | hlive
          · exact hin
          · rw [hlive t ht] at hterm; cases hterm
      · intro e' t p he' hid htid hin ht hterm hp
        rw [← hid] at he'
        rw [← htid] at ht hin
        have hm : t.id ∈ e'.taskIds := by
          rw [hid, he₁] at he'
          cases he'
          rw [htids, hsplit, htid]
          simp
        obtain ⟨e₂, hedit, hobs⟩ := LabState.observeEnded_edits hcame.safe he' hm hin ht hp
        have hsub' : e'.observedTaskIds ⊆ e₂.observedTaskIds := by
          rw [hobs.observed_eq]; exact List.subset_append_left _ _
        have href' : Refreshing id s₁ (s₁.observeEnded w e' t p) :=
          hid ▸ .of_edits he' hedit hobs.id_eq hobs.tasks_eq hsub' hobs.containment_eq
        refine ⟨hcame.write (.observeEnded he' hm hin ht hterm hp) hr rfl, href.trans href',
          fun e₃ he₃ y hy t' ht' hterm' => ?_⟩
        have hget := hedit.get?
        rw [hobs.id_eq, hid] at hget
        have heq : e₂ = e₃ := Option.some.inj (hget.symm.trans he₃)
        subst heq
        rw [href'.tasks_eq] at ht'
        rcases List.mem_append.mp hy with hy | hy
        · exact hsub' (hdone e' (hid ▸ he') y hy t' ht' hterm')
        · rw [List.mem_singleton.mp hy, hobs.observed_eq, htid]
          simp
    refine Prog.wp_imp hloop ?_
    rintro _ s₁ ⟨hcame, href, hdone⟩
    obtain ⟨e₁, he₁, htids, -, hcon⟩ := href.self e he
    have hobs : ∀ e', s₁.exercises.get? id = some e' → ∀ x ∈ e'.taskIds, ∀ t,
        s₁.tasks.get? x = some t → t.status.isTerminal = true → x ∈ e'.observedTaskIds := by
      intro e' he' x hx
      have heq : e₁ = e' := Option.some.inj (he₁.symm.trans he')
      subst heq
      exact hdone e₁ he₁ x (htids ▸ hx)
    have hcont : e.status = .contained ↔ e₁.status = .contained := by
      rw [(h.safe.exercise_valid he).contained_iff, (hcame.safe.exercise_valid he₁).contained_iff,
        hcon]
    by_cases hc : e.status = .contained
    · rw [if_pos hc]
      refine ⟨hcame, href, fun e' he' => ⟨hobs e' he', fun hnone => ?_⟩⟩
      have heq : e₁ = e' := Option.some.inj (he₁.symm.trans he')
      subst heq
      exact absurd hnone ((hcame.safe.exercise_valid he₁).contained_iff.mp (hcont.mp hc))
    · rw [if_neg hc]
      refine Prog.wp_imp (recordCompletion_wp hcame hr hobs fun e' he' => ?_)
        fun _ s₂ h₂ => ⟨h₂.1, href.trans h₂.2.1, h₂.2.2⟩
      have heq : e₁ = e' := Option.some.inj (he₁.symm.trans he')
      exact heq ▸ fun hs => hc (hcont.mpr hs)

/-! ### All exercises -/

/-- No exercise has an ended task it did not observe, or all tasks ended and no terminal status. -/
def LabState.Settled (s : LabState) : Prop := s.exercises.All fun _ e => e.Settled s.tasks

/-- What a refresh leaves behind: everything but the exercises and the journal as it was, and every
    exercise settled. -/
structure Refreshed (s s' : LabState) : Prop where
  records : s'.toRecords = { s.toRecords with exercises := s'.exercises }
  settled : s'.Settled

theorem refreshExercisesLocked_wp (h : Came w acts s₀ s) (hr : .refresh ∈ acts) :
    Prog.wp (refreshExercisesLocked w) (fun _ s' => Came w acts s₀ s' ∧ Refreshed s s')
      (fun _ _ => False) s := by
  unfold refreshExercisesLocked
  simp only [Prog.wp_bind, Prog.wp_get]
  have hloop : Prog.wp (forM s.exercises.keys (refreshExercise w)) (fun _ s' =>
      Came w acts s₀ s' ∧ s'.toRecords = { s.toRecords with exercises := s'.exercises } ∧
      (∀ id e, s'.exercises.get? id = some e → id ∈ s.exercises.keys) ∧
      ∀ id ∈ s.exercises.keys, ∀ e, s'.exercises.get? id = some e → e.Settled s'.tasks)
      (fun _ _ => False) s := by
    refine Prog.wp_forM_prefix (I := fun done s' => Came w acts s₀ s' ∧
      s'.toRecords = { s.toRecords with exercises := s'.exercises } ∧
      (∀ id e, s'.exercises.get? id = some e → id ∈ s.exercises.keys) ∧
      ∀ id ∈ done, ∀ e, s'.exercises.get? id = some e → e.Settled s'.tasks) ?_
      ⟨h, rfl, fun _ _ => Dict.mem_keys_of_get?, by simp⟩
    rintro done id rest hsplit s₁ ⟨hcame, hrec, hkeys, hset⟩
    refine Prog.wp_imp (refreshExercise_wp hcame hr) ?_
    rintro _ s₂ ⟨hcame', href, hset'⟩
    refine ⟨hcame', by rw [href.records, hrec], fun k e he => ?_, fun k hk e he => ?_⟩
    · by_cases hki : k = id
      · rw [hki, hsplit]; simp
      · exact hkeys k e (href.others k hki ▸ he)
    · by_cases hki : k = id
      · exact hset' e (hki ▸ he)
      · rcases List.mem_append.mp hk with hk | hk
        · rw [href.tasks_eq]
          exact hset k hk e (href.others k hki ▸ he)
        · exact absurd (List.mem_singleton.mp hk) hki
  refine Prog.wp_imp hloop ?_
  rintro _ s' ⟨hcame, hrec, hkeys, hset⟩
  exact ⟨hcame, hrec, fun id e he => hset id (hkeys id e he) e he⟩

end C2Lab
