import C2Lab.Core.ExerciseHistory

/-! Detection is sound and complete.

    An alert is raised by the refresh that follows an accepted result, once for each rule of the
    completed playbook, and stays. So the alerts of an exercise are those of the tasks that
    completed in the run before it was contained, and nothing but a completed result raises one. -/

namespace C2Lab

variable {w : World} {s s' s₀ : LabState} {past : List LabState} {acts : List Activity} {hi : ℕ}
  {id : PyStr} {rule : DetectionRule} {t : Task} {p : Playbook} {e e' : Exercise}

/-! ### Alerts of one exercise -/

/-- The exercise has an alert of that rule for that task. -/
def Exercise.HasAlert (e : Exercise) (rule : DetectionRule) (id : PyStr) : Prop :=
  ∃ a ∈ e.alerts, a.rule = rule ∧ a.taskId = id

namespace Exercise

theorem HasAlert.congr (h : e'.alerts = e.alerts) :
    e'.HasAlert rule id ↔ e.HasAlert rule id := by
  rw [HasAlert, HasAlert, h]

/-- Observing a task raises the alerts of the rules it matches. -/
theorem Observed.hasAlert_iff (h : e.Observed t p e') :
    e'.HasAlert rule id ↔ e.HasAlert rule id ∨ id = t.id ∧ rule ∈ matchedRules e t p := by
  obtain ⟨new, heq, hrules, hnew⟩ := h.alerts_eq
  unfold HasAlert
  rw [heq]
  constructor
  · rintro ⟨a, ha, hrule, hid⟩
    rcases List.mem_append.mp ha with ha | ha
    · exact .inl ⟨a, ha, hrule, hid⟩
    · refine .inr ⟨hid.symm.trans (hnew a ha).1, ?_⟩
      rw [← hrules, ← hrule]
      exact List.mem_map_of_mem ha
  · rintro (⟨a, ha, hrule, hid⟩ | ⟨hid, hmem⟩)
    · exact ⟨a, List.mem_append_left _ ha, hrule, hid⟩
    · rw [← hrules] at hmem
      obtain ⟨a, ha, hrule⟩ := List.mem_map.mp hmem
      exact ⟨a, List.mem_append_right _ ha, hrule, (hnew a ha).1.trans hid.symm⟩

/-- Containment closes the alerts and raises none. -/
theorem Contained.hasAlert_iff {action : ContainmentAction} (h : e.Contained action e') :
    e'.HasAlert rule id ↔ e.HasAlert rule id := by
  obtain ⟨time, heq⟩ := h.alerts_eq
  unfold HasAlert
  simp only [heq, List.mem_map, exists_exists_and_eq_and, Alert.rule_contain,
    Alert.taskId_contain]

/-- A cancelled task raises no alert. -/
theorem Observed.hasAlert_cancelled {result : Json} {time : Timestamp}
    (h : e.Observed (t.ended .cancelled result time false) p e') :
    e'.HasAlert rule id ↔ e.HasAlert rule id := by
  have hrules : matchedRules e (t.ended .cancelled result time false) p = [] :=
    if_neg fun hc => by cases hc.1
  rw [h.hasAlert_iff, hrules]
  simp

/-- The alerts for one task, by their rules. -/
theorem hasAlert_iff_mem : e.HasAlert rule id ↔ rule ∈ e.alertRules id := by
  unfold HasAlert alertRules
  simp only [List.mem_map, List.mem_filter, decide_eq_true_eq]
  constructor
  · rintro ⟨a, ha, hrule, hid⟩
    exact ⟨a, ⟨ha, hid⟩, hrule⟩
  · rintro ⟨a, ⟨ha, hid⟩, hrule⟩
    exact ⟨a, ha, hrule, hid⟩

end Exercise

/-! ### Where alerts come from -/

/-- Every alert was there before or is about a task that has completed, its exercise open; only the
    refresh raises one. -/
def AlertsSourced (s₀ : LabState) (acts : List Activity) (r : Records) : Prop :=
  ∀ k e, r.exercises.get? k = some e → ∀ rule id, e.HasAlert rule id →
    (∃ e₀, s₀.exercises.get? k = some e₀ ∧ e₀.SameStart e ∧ e₀.HasAlert rule id) ∨
      .refresh ∈ acts ∧ e.containment = none ∧
        ∃ t, r.tasks.get? id = some t ∧ t.status = .completed

/-- The parts of the program beside which the refresh runs. -/
def Activity.Refreshing (acts : List Activity) : Prop :=
  .refresh ∈ acts → ∀ c ∈ acts, c ≠ .contain ∧ c ≠ .prune ∧ c ≠ .create ∧ c ≠ .reset

/-- An ended task stays as it is unless it is pruned or cleared. -/
theorem RecordChange.ended_kept {c : Activity} {r : Records} (h : RecordChange w s hi c r)
    (hprune : c ≠ .prune) (hcreate : c ≠ .create) (hreset : c ≠ .reset)
    (ht : s.tasks.get? id = some t) (hterm : t.status.isTerminal = true) :
    r.tasks.get? id = some t := by
  have hchange := h.task id
  generalize r.tasks.get? id = x at hchange ⊢
  cases hchange with
  | same => exact ht
  | edited ht' _ he =>
    rw [ht, Option.some.injEq] at ht'
    subst ht'
    cases he with
    | ended h => rw [h.live.1] at hterm; cases hterm
    | failed h => rw [h.live.1] at hterm; cases hterm
    | cancelled hq => rw [hq] at hterm; cases hterm
    | accepted _ _ hd => rw [hd] at hterm; cases hterm
    | redelivered hd => rw [hd] at hterm; cases hterm
    | dispatched hq => rw [hq] at hterm; cases hterm
  | added => exact absurd rfl hcreate
  | pruned => exact absurd rfl hprune
  | cleared => exact absurd rfl hreset

theorem RecordChange.sourced {c : Activity} {r : Records} (h : RecordChange w s hi c r)
    (hs : Safe w s) (hacts : Activity.Refreshing acts) (hc : c ∈ acts)
    (hQ : AlertsSourced s₀ acts s.toRecords) : AlertsSourced s₀ acts r := by
  intro k e' he' rule id halert
  -- an alert the exercise had before the change, which left it open if it was
  have hold : ∀ {e : Exercise}, s.exercises.get? k = some e → e.SameStart e' →
      (.refresh ∈ acts → e'.containment = e.containment) → e.HasAlert rule id →
      (∃ e₀, s₀.exercises.get? k = some e₀ ∧ e₀.SameStart e' ∧ e₀.HasAlert rule id) ∨
        .refresh ∈ acts ∧ e'.containment = none ∧
          ∃ t, r.tasks.get? id = some t ∧ t.status = .completed := by
    intro e he hsame hcon ha
    rcases hQ k e he rule id ha with ⟨e₀, he₀, hstart, ha₀⟩ | ⟨href, hnone, t, ht, hst⟩
    · exact .inl ⟨e₀, he₀, hstart.trans hsame, ha₀⟩
    · obtain ⟨-, hprune, hcreate, hreset⟩ := hacts href c hc
      exact .inr ⟨href, (hcon href).trans hnone, t,
        h.ended_kept hprune hcreate hreset ht (by rw [hst]; rfl), hst⟩
  have hchange := h.exercise k
  rw [he'] at hchange
  generalize hx : some e' = x at hchange
  cases hchange with
  | same => exact hold hx.symm (.refl e') (fun _ => rfl) halert
  | @observed e _ t p he _ _ _ ht _ _ ho =>
    cases hx
    rcases ho.hasAlert_iff.mp halert with ha | ⟨rfl, hmem⟩
    · exact hold he ho.toExtended.sameStart (fun _ => ho.containment_eq) ha
    · obtain ⟨-, hprune, hcreate, hreset⟩ := hacts hc .refresh hc
      have hmatch : t.status = .completed ∧ e.status ≠ .contained := by
        by_contra hno
        rw [matchedRules, if_neg hno] at hmem; cases hmem
      have hnone : e.containment = none := by
        by_contra hne
        exact hmatch.2 ((hs.exercise_valid he).contained_iff.mpr hne)
      exact .inr ⟨hc, ho.containment_eq.trans hnone, t,
        h.ended_kept hprune hcreate hreset ht (by rw [hmatch.1]; rfl), hmatch.1⟩
  | cancelled he _ _ _ _ _ _ ho =>
    cases hx
    exact hold he ho.toExtended.sameStart (fun _ => ho.containment_eq)
      (ho.hasAlert_cancelled.mp halert)
  | finished he _ _ _ _ ho =>
    cases hx
    exact hold he ho.toExtended.sameStart (fun _ => ho.containment_eq)
      ((Exercise.HasAlert.congr ho.alerts_eq.1).mp halert)
  | contained he _ _ _ _ _ ho =>
    cases hx
    exact hold he ho.toExtended.sameStart (fun href => absurd rfl (hacts href _ hc).1)
      (ho.hasAlert_iff.mp halert)
  | added _ hprep =>
    cases hx
    obtain ⟨a, ha, -⟩ := halert
    rw [hprep.alerts_eq] at ha; cases ha
  | removed => cases hx

theorem Writes.sourced (h : Writes w acts s s') (hs : Safe w s) (hf : w.FreshBelow s'.draws)
    (hacts : Activity.Refreshing acts) : AlertsSourced s acts s'.toRecords := by
  have hkept : Kept w acts fun m => AlertsSourced s acts m.toRecords :=
    Kept.of_change (Q := fun r _ => AlertsSourced s acts r)
      fun hc hs₁ _ _ hchange hQ => hchange.sourced hs₁ hacts hc hQ
  exact hkept.writes h hs hf fun k e he rule id ha => .inl ⟨e, he, .refl e, ha⟩

/-- The writes of an operation: where it refreshes it neither creates nor removes. -/
theorem Ran.refreshing {op : Op} (h : Ran w s op s') :
    ∃ acts, Activity.Refreshing acts ∧ Writes w acts s s' := by
  cases h with
  | plain h => exact ⟨op.activities, by cases op <;> simp [Op.activities, Activity.Refreshing], h⟩
  | delivered h hd =>
    refine ⟨[.expiry, .refresh, .poll, .dispatch], by simp [Activity.Refreshing], ?_⟩
    exact ((h.mono (by simp)).write hd (by simp)).write (.tick .poll) (by simp)
  | accepted h hr hf =>
    refine ⟨[.expiry, .refresh, .result], by simp [Activity.Refreshing], ?_⟩
    exact ((h.mono (by simp)).write hr (by simp)).trans (hf.mono (by simp))

/-! ### Soundness -/

/-- In one of the states the task had completed, its result accepted, and its exercise was not
    contained. -/
def CompletedOpen (states : List LabState) (k id : PyStr) (p : Playbook) : Prop :=
  ∃ u ∈ states, ∃ e t, u.exercises.get? k = some e ∧ id ∈ e.taskIds ∧ e.containment = none ∧
    u.tasks.get? id = some t ∧ t.command = .runPlaybook p ∧ t.status = .completed ∧
    t.resultAccepted = true

theorem CompletedOpen.mono {states states' : List LabState} {k : PyStr}
    (h : CompletedOpen states k id p) (hsub : states ⊆ states') : CompletedOpen states' k id p :=
  h.imp fun _ ⟨hu, hrest⟩ => ⟨hsub hu, hrest⟩

/-- Every alert is about a task that completed in the run before its exercise was contained. -/
theorem Run.alert_sound (h : Run w past s) {k : PyStr} (he : s.exercises.get? k = some e)
    (ha : e.HasAlert rule id) :
    ∃ p, CompletedOpen (s :: past) k id p ∧ rule ∈ detectionsForPlaybook e.scenarioId p := by
  induction h generalizing e with
  | start stream =>
    have hnone : (LabState.init stream).exercises.get? k = none := Dict.get?_empty k
    rw [hnone] at he; cases he
  | @next past s h op hf ih =>
    have hs := h.reachable.sound
    have hs' := step_sound hs op hf
    obtain ⟨acts, hacts, hw⟩ := (step_ends hs.safe hs.settled op).ran.refreshing
    rcases hw.sourced hs.safe hf hacts k e he rule id ha with
      ⟨e₀, he₀, hsame, ha₀⟩ | ⟨-, hnone, t, ht, hst⟩
    · obtain ⟨p, hp, hrule⟩ := ih he₀ ha₀
      exact ⟨p, hp.mono (List.subset_cons_self _ _), hsame.scenario_eq ▸ hrule⟩
    · have hv := hs'.safe.exercise_valid he
      obtain ⟨a, hmem, rfl, rfl⟩ := ha
      obtain ⟨-, p, hp, hrule⟩ := hv.alerts_planned a hmem
      exact ⟨p, ⟨_, List.mem_cons_self, e, t, he, Exercise.mem_of_planned hp, hnone, ht,
        (hv.planned hp ht).1, hst, (hs'.safe.task_wf ht).completed_accepted hst⟩, hrule⟩

/-! ### Completeness -/

/-- The exercise of a completed task has an alert for every rule of its playbook. -/
def Alerting (id : PyStr) (p : Playbook) (r : Records) : Prop :=
  ∀ k e, r.exercises.get? k = some e → id ∈ e.taskIds →
    ∀ rule ∈ detectionsForPlaybook e.scenarioId p, e.HasAlert rule id

/-- Alerts stay. -/
theorem alerting_kept (w : World) (id : PyStr) (p : Playbook) :
    Kept w (.reset :: Activity.lasting) fun s =>
      Unqueued w id s.toRecords s.draws ∧ Alerting id p s.toRecords := by
  refine Kept.of_change (Q := fun r draws => Unqueued w id r draws ∧ Alerting id p r)
    fun {s hi c r} _ hs hd hf h ⟨hun, hQ⟩ => ⟨h.unqueued hd hf hun, fun k e' he' hid rule hr => ?_⟩
  have hold : ∀ {e : Exercise}, s.exercises.get? k = some e → e.SameStart e' →
      e.HasAlert rule id := fun he hsame =>
    hQ k _ he (hsame.tasks_eq ▸ hid) rule (hsame.scenario_eq ▸ hr)
  have hchange := h.exercise k
  rw [he'] at hchange
  generalize hx : some e' = x at hchange
  cases hchange with
  | same => exact hQ k e' hx.symm hid rule hr
  | observed he _ _ _ _ _ _ ho =>
    cases hx
    exact ho.hasAlert_iff.mpr (.inl (hold he ho.toExtended.sameStart))
  | cancelled he _ _ _ _ _ _ ho =>
    cases hx
    exact ho.hasAlert_cancelled.mpr (hold he ho.toExtended.sameStart)
  | finished he _ _ _ _ ho =>
    cases hx
    exact (Exercise.HasAlert.congr ho.alerts_eq.1).mpr (hold he ho.toExtended.sameStart)
  | contained he _ _ _ _ _ ho =>
    cases hx
    exact ho.hasAlert_iff.mpr (hold he ho.toExtended.sameStart)
  | added _ hprep =>
    cases hx
    obtain ⟨t', ht', hq⟩ := hprep.queued (hf.mono hd) hid
    exact absurd hq (hun.2 t' ht')
  | removed => cases hx

/-- Between operations a completed task of an open exercise has raised its alerts. -/
theorem Sound.alerting (hs : Sound w s) {k : PyStr} (he : s.exercises.get? k = some e)
    (hid : id ∈ e.taskIds) (hnone : e.containment = none) (ht : s.tasks.get? id = some t)
    (hp : t.command = .runPlaybook p) (hst : t.status = .completed) :
    Alerting id p s.toRecords := by
  intro k' e' he' hid' rule hrule
  have hv := hs.safe.exercise_valid he
  have hv' := hs.safe.exercise_valid he'
  obtain ⟨q, hq⟩ := Exercise.exists_planned hv.length_eq hid
  obtain ⟨q', hq'⟩ := Exercise.exists_planned hv'.length_eq hid'
  -- the task names its one exercise
  have hsame : e' = e := by
    have hex := (hv.planned hq ht).2.1
    rw [(hv'.planned hq' ht).2.1, Option.some.injEq, hs.safe.exercise_key he,
      hs.safe.exercise_key he'] at hex
    rw [hex, he, Option.some.injEq] at he'
    exact he'.symm
  subst hsame
  have hcmd := (hv.planned hq ht).1
  rw [hp, Command.runPlaybook.injEq] at hcmd
  subst hcmd
  have hobs := (hs.settled k e' he).observed id hid t ht (by rw [hst]; rfl)
  rcases hv.alertRules_eq hq hobs ht with ⟨-, hsealed⟩ | ⟨-, hrules⟩
  · rcases hsealed hst with hcon | hnil
    · exact absurd hnone hcon
    · rw [hnil] at hrule; cases hrule
  · rw [Exercise.hasAlert_iff_mem, hrules]
    exact hrule

/-- A task that completed in the run before its exercise was contained has its alerts. -/
theorem Run.alert_complete (h : Run w past s) {k k' : PyStr} (he : s.exercises.get? k = some e)
    (hid : id ∈ e.taskIds) (hcomp : CompletedOpen (s :: past) k' id p)
    (hrule : rule ∈ detectionsForPlaybook e.scenarioId p) : e.HasAlert rule id := by
  obtain ⟨u, hu, e₀, t, he₀, hid₀, hnone, ht, hp, hst, -⟩ := hcomp
  obtain ⟨hreach, hlater⟩ := h.passed_through hu
  have hsound := hreach.sound
  have hun : Unqueued w id u.toRecords u.draws := by
    refine ⟨hsound.safe.task_drawn ht, fun t' ht' hq => ?_⟩
    rw [ht, Option.some.injEq] at ht'
    rw [← ht', hst] at hq; cases hq
  have hkept := (alerting_kept w id p).later hlater hsound
    ⟨hun, hsound.alerting he₀ hid₀ hnone ht hp hst⟩
  exact hkept.2 k e he hid rule hrule

/-! ### What raises an alert -/

/-- The submission of a completed result for a task. -/
inductive Op.Completes (id : PyStr) : Op → Prop
  | submitted (nodeId token : Json) (result : Document) (now : Instant) : Completes id
      (.submitResult nodeId token (.str id) (Vocabulary.toJson ResultStatus.completed) result now)

/-- The expiry pass completes no task. -/
theorem Came.uncompleted (h : Came w Activity.expiring s s') (hs : Safe w s)
    (hno : ∀ t, s.tasks.get? id = some t → t.status ≠ .completed) :
    ∀ t, s'.tasks.get? id = some t → t.status ≠ .completed := by
  refine h.keeps (P := fun m => ∀ t, m.tasks.get? id = some t → t.status ≠ .completed) hs hno
    fun {s₁ s₂ c} hc hs₁ hw hno₁ t' ht' hst => ?_
  have hchange := (hw.records hs₁).task id
  rw [ht'] at hchange
  generalize hx : some t' = x at hchange
  cases hchange with
  | same => exact hno₁ t' hx.symm hst
  | edited ht _ he =>
    cases hx
    have hdispatch : c ≠ .dispatch := by rintro rfl; simp [Activity.expiring] at hc
    rcases (he.passed hdispatch).status with heq | ⟨c', hc', hends⟩
    · exact hno₁ _ ht (heq ▸ hst)
    · rw [hst] at hends
      rw [List.mem_singleton.mp hc'] at hends
      obtain rfl := hends.completed
      simp [Activity.expiring] at hc
  | added => simp [Activity.expiring] at hc
  | pruned | cleared => cases hx

/-- A result changes no task but the one it is about, and completes that only if it says so. -/
theorem submitSession_completes (hs : Safe w s) {n : Node} (hn : s.nodes.get? n.id = some n)
    (taskId status : Json) (sent : Document) (now : Instant)
    (hno : ∀ x, s.tasks.get? id = some x → x.status ≠ .completed) :
    let R : LabState → Prop := fun s' => ∀ x, s'.tasks.get? id = some x → x.status = .completed →
      taskId = .str id ∧ status = Vocabulary.toJson ResultStatus.completed
    Prog.wp (submitSession w n taskId status sent.1 now) (fun _ => R) (fun _ => R) s := by
  intro R
  have hsame : R s := fun x hx hst => absurd hst (hno x hx)
  refine Prog.wp_mono (submitSession_answers hs hn taskId status sent now) ?_ ?_
  · rintro _ s' h
    cases h with
    | replayed => exact hsame
    | @accepted t st _ _ _ htask hst ht _ hd _ _ href =>
      intro x hx hcomp
      rw [href.records, LabState.acceptedResult_records hs ht hd, Dict.get?_set] at hx
      split at hx
      · rename_i hid
        cases hx
        refine ⟨by rw [htask, hid], ?_⟩
        cases st with
        | completed => exact hst
        | failed => cases hcomp
      · exact absurd hcomp (hno x hx)
  · rintro _ s' h
    cases h with
    | same => exact hsame
    | rejected _ reason =>
      intro x hx hst
      rw [LabState.rejectResultLocked, LabState.toRecords_auditLocked,
        LabState.toRecords_recordLocked] at hx
      exact absurd hst (hno x hx)

theorem submitResult_completes (hs : Safe w s) (nodeId token taskId status : Json)
    (sent : Document) (now : Instant)
    (hno : ∀ x, s.tasks.get? id = some x → x.status ≠ .completed) :
    let R : LabState → Prop := fun s' => ∀ x, s'.tasks.get? id = some x → x.status = .completed →
      taskId = .str id ∧ status = Vocabulary.toJson ResultStatus.completed
    Prog.wp (submitResult w nodeId token taskId status sent.1 now) (fun _ => R) (fun _ => R) s := by
  intro R
  unfold submitResult
  rw [Prog.wp_bind]
  refine Prog.wp_mono (expired_wp hs now) ?_ fun _ _ h => h.elim
  rintro _ m ⟨hcame, -⟩
  have hno' := Came.uncompleted hcame hs hno
  have hstop : R m := fun x hx hst => absurd hst (hno' x hx)
  rw [Prog.wp_bind]
  refine Prog.wp_mono (requireNodeSession_wp hcame.safe nodeId token) ?_ fun _ _ h => h ▸ hstop
  rintro n m ⟨rfl, hsess⟩
  exact submitSession_completes hcame.safe hsess.recorded taskId status sent now hno'

/-- Only a submission completes a task. -/
theorem Ran.completes {op : Op} (h : Ran w s op s') (hs : Safe w s) (hf : w.FreshBelow s'.draws)
    {t t' : Task} (ht : s.tasks.get? id = some t) (hst : t.status ≠ .completed)
    (ht' : s'.tasks.get? id = some t') (hst' : t'.status = .completed) :
    ∃ nodeId token taskId status result now,
      op = .submitResult nodeId token taskId status result now := by
  -- other writes end the task otherwise
  have hplain : ∀ {acts : List Activity} {m : LabState} {x : Task}, Writes w acts s m →
      w.FreshBelow m.draws → .dispatch ∉ acts → .result ∉ acts →
      m.tasks.get? id = some x → x.status ≠ .completed := by
    intro acts m x hw hfm hdispatch hresult hx hcomp
    obtain ⟨t₀, ht₀, hpass⟩ := hw.task hs hfm hdispatch (hs.task_drawn ht) hx
    rw [ht, Option.some.injEq] at ht₀
    subst ht₀
    rcases hpass.status with heq | ⟨c, hc, hends⟩
    · exact hst (heq ▸ hcomp)
    · rw [hcomp] at hends
      exact hresult (hends.completed ▸ hc)
  cases h with
  | plain h =>
    exact absurd hst' (hplain h hf op.no_dispatch (by cases op <;> simp [Op.activities]) ht')
  | @delivered _ _ _ m m' h hd =>
    have hf' : w.FreshBelow m'.draws := hf.mono (Nat.le_succ _)
    have hfm := hf'.mono hd.draws_le
    have hkm : w.TaskDrawn m.draws id := by
      obtain ⟨k, hlt, heq⟩ := hs.task_drawn ht
      exact ⟨k, hlt.trans_le h.draws_le, heq⟩
    rcases hd.task (h.safe hs hfm) hf' hkm ht' with htm | ⟨tm, -, -, he⟩
    · exact absurd hst' (hplain h hfm (by simp) (by simp) htm)
    · cases he with
      | ended h => cases h
      | failed h => cases h
      | dispatched => cases hst'
  | accepted => exact ⟨_, _, _, _, _, _, rfl⟩

/-- An operation that completes a task is the submission of its completed result. -/
theorem step_completes (hs : Sound w s) {op : Op} (hf : w.FreshBelow (step w s op).draws)
    {t t' : Task} (ht : s.tasks.get? id = some t) (hst : t.status ≠ .completed)
    (ht' : (step w s op).tasks.get? id = some t') (hst' : t'.status = .completed) :
    op.Completes id := by
  obtain ⟨nodeId, token, taskId, status, result, now, rfl⟩ :=
    (step_ends hs.safe hs.settled op).ran.completes hs.safe hf ht hst ht' hst'
  have hno : ∀ x, s.tasks.get? id = some x → x.status ≠ .completed := by
    intro x hx
    rw [ht, Option.some.injEq] at hx
    exact hx ▸ hst
  have hwp := submitResult_completes hs.safe nodeId token taskId status result now hno
  have hfinal := Prog.wp_final.mp ((Prog.wp_map _ (fun _ => ())).mpr hwp)
  obtain ⟨rfl, rfl⟩ := hfinal t' ht' hst'
  exact .submitted nodeId token result now

/-- Without creation and reset the exercises go on, and a contained one stays contained. -/
theorem Writes.followed (h : Writes w acts s s') (hs : Safe w s) (hf : w.FreshBelow s'.draws)
    (hcreate : .create ∉ acts) {k : PyStr} (he' : s'.exercises.get? k = some e') :
    ∃ e, s.exercises.get? k = some e ∧ e.SameStart e' ∧
      (e'.containment = none → e.containment = none) := by
  have hkept : Kept w acts fun m => ∀ k e', m.exercises.get? k = some e' →
      ∃ e, s.exercises.get? k = some e ∧ e.SameStart e' ∧
        (e'.containment = none → e.containment = none) := by
    refine Kept.of_change (Q := fun r _ => ∀ k e', r.exercises.get? k = some e' →
      ∃ e, s.exercises.get? k = some e ∧ e.SameStart e' ∧
        (e'.containment = none → e.containment = none))
      fun {m hi c r} hc _ _ _ h hQ k e' he' => ?_
    have hold : ∀ {e₁ : Exercise}, m.exercises.get? k = some e₁ → e₁.SameStart e' →
        (e'.containment = none → e₁.containment = none) →
        ∃ e, s.exercises.get? k = some e ∧ e.SameStart e' ∧
          (e'.containment = none → e.containment = none) := by
      intro e₁ he₁ hsame hcon
      obtain ⟨e, he, hstart, hnone⟩ := hQ k e₁ he₁
      exact ⟨e, he, hstart.trans hsame, hnone ∘ hcon⟩
    have hchange := h.exercise k
    rw [he'] at hchange
    generalize hx : some e' = x at hchange
    cases hchange with
    | same => exact hQ k e' hx.symm
    | observed he _ _ _ _ _ _ ho =>
      cases hx
      exact hold he ho.toExtended.sameStart fun h => ho.containment_eq ▸ h
    | cancelled he _ _ _ _ _ _ ho =>
      cases hx
      exact hold he ho.toExtended.sameStart fun h => ho.containment_eq ▸ h
    | finished he _ _ _ _ ho =>
      cases hx
      exact hold he ho.toExtended.sameStart fun h => ho.containment_eq ▸ h
    | contained he _ _ _ _ _ ho =>
      cases hx
      refine hold he ho.toExtended.sameStart fun h => ?_
      have hcon := ho.containment_eq
      rw [h] at hcon; cases hcon
    | added => exact absurd hc hcreate
    | removed => cases hx
  exact hkept.writes h hs hf (fun k e he => ⟨e, he, .refl e, fun h => h⟩) k e' he'

/-- An operation that raises an alert completes its task. -/
theorem step_alerts (hs : Sound w s) {op : Op} (hf : w.FreshBelow (step w s op).draws)
    {k : PyStr} (he' : (step w s op).exercises.get? k = some e') (ha : e'.HasAlert rule id)
    (hnew : ∀ e, s.exercises.get? k = some e → ¬e.HasAlert rule id) :
    id ∈ e'.taskIds ∧ op.Completes id ∧ ∃ t t', s.tasks.get? id = some t ∧
      t.status = .dispatched ∧ (step w s op).tasks.get? id = some t' ∧
      t'.status = .completed ∧ t'.resultAccepted = true := by
  have hs' := step_sound hs op hf
  have hv' := hs'.safe.exercise_valid he'
  obtain ⟨acts, hacts, hw⟩ := (step_ends hs.safe hs.settled op).ran.refreshing
  rcases hw.sourced hs.safe hf hacts k e' he' rule id ha with
    ⟨e, he, -, halert⟩ | ⟨href, hnone', t', ht', hst'⟩
  · exact absurd halert (hnew e he)
  obtain ⟨p, hp, hrule⟩ : ∃ p, (id, p) ∈ e'.plan ∧
      rule ∈ detectionsForPlaybook e'.scenarioId p := by
    obtain ⟨a, hmem, rfl, rfl⟩ := ha
    exact (hv'.alerts_planned a hmem).2
  have hid := Exercise.mem_of_planned hp
  obtain ⟨e, he, hsame, hnone⟩ := hw.followed hs.safe hf (fun h => (hacts href _ h).2.2.1 rfl) he'
  have hdrawn := (hs.safe.exercises _ _ he).drawn id (hsame.tasks_eq ▸ hid)
  obtain ⟨t, ht, hstep⟩ :=
    (step_ends hs.safe hs.settled op).ran.task hs.safe hf hdrawn ht'
  have hcmd : t.command = .runPlaybook p :=
    (congrArg Task.command hstep.request_eq).symm.trans (hv'.planned hp ht').1
  -- had it completed before, its alert would not be new
  have hst : t.status ≠ .completed := fun hst =>
    hnew e he (hs.alerting he (hsame.tasks_eq ▸ hid) (hnone hnone') ht hcmd hst k e he
      (hsame.tasks_eq ▸ hid) rule (hsame.scenario_eq ▸ hrule))
  refine ⟨hid, step_completes hs hf ht hst ht' hst', t, t', ht, ?_, ht', hst',
    (hs'.safe.task_wf ht').completed_accepted hst'⟩
  rcases hstep.moves with heq | hmove
  · exact absurd (heq ▸ hst') hst
  · rw [hst'] at hmove
    generalize t.status = a at hmove
    cases hmove
    rfl

/-! ### Detection -/

/-- The alerts of an exercise agree with the states of the run it is part of. -/
structure Exercise.Detected (states : List LabState) (k : PyStr) (e : Exercise) : Prop where
  alert_iff : ∀ rule id, e.HasAlert rule id ↔ id ∈ e.taskIds ∧ ∃ p,
    CompletedOpen states k id p ∧ rule ∈ detectionsForPlaybook e.scenarioId p
  rules_nodup : (e.alerts.map (·.rule.id)).Nodup
  detected_iff : e.detected = true ↔ e.alerts ≠ []
  closed : e.status = .contained → ∀ a ∈ e.alerts, a.isOpen = false ∧ a.containedAt.isSome
  opened : e.status ≠ .contained → ∀ a ∈ e.alerts, a.isOpen = true

/-- Detection. In every state of a run the alerts of an exercise are those of the rules for its
    playbooks that completed before it was contained, each rule once, closed if the exercise is
    contained and open otherwise; and only the submission of a completed result of one of its own
    tasks adds one. -/
theorem detection (h : Run w past s) :
    (∀ k e, s.exercises.get? k = some e → e.Detected (s :: past) k) ∧
    ∀ op, w.FreshBelow (step w s op).draws → ∀ k e' rule id,
      (step w s op).exercises.get? k = some e' → e'.HasAlert rule id →
      (∀ e, s.exercises.get? k = some e → ¬e.HasAlert rule id) →
      id ∈ e'.taskIds ∧ op.Completes id ∧ ∃ t t', s.tasks.get? id = some t ∧
        t.status = .dispatched ∧ (step w s op).tasks.get? id = some t' ∧
        t'.status = .completed ∧ t'.resultAccepted = true := by
  have hs := h.reachable.sound
  refine ⟨fun k e he => ?_, fun op hf k e' rule id he' ha hnew => step_alerts hs hf he' ha hnew⟩
  have hv := hs.safe.exercise_valid he
  exact {
    alert_iff := fun rule id => by
      constructor
      · intro ha
        refine ⟨?_, h.alert_sound he ha⟩
        obtain ⟨a, hmem, -, rfl⟩ := ha
        exact hv.observed_mem _ (hv.alerts_planned a hmem).1
      · rintro ⟨hid, p, hcomp, hrule⟩
        exact h.alert_complete he hid hcomp hrule
    rules_nodup := hv.alerts_nodup
    detected_iff := hv.detected_iff
    closed := fun hst => hv.alerts_closed (hv.contained_iff.mp hst)
    opened := fun hst a ha => by
      have hnone : e.containment = none := by
        by_contra hne
        exact hst (hv.contained_iff.mpr hne)
      exact (hv.alerts_open hnone a ha).1 }

/-- Detection at the exercise whose first playbook completed. -/
theorem detection_completed :
    let s := exec .counting (.init "stream") Counting.detection
    s.exercises.values.map (·.alerts.length) = [1] ∧
      ∀ k e, s.exercises.get? k = some e →
        e.Detected (s :: passed .counting (.init "stream") Counting.detection) k := by
  refine ⟨Counting.detection_evaluated.2.1, ?_⟩
  exact (detection Counting.detection_run).1

end C2Lab
