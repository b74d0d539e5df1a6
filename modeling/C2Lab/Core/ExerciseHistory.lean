import C2Lab.Core.Contained

/-! What an exercise tells about its tasks.

    A task of an exercise is retained until it has ended, and what the exercise recorded about it
    then stays, also once the task is pruned. So the status and the timeline of an exercise can be
    checked against the states the run passed through. -/

namespace C2Lab

variable {w : World} {s s' : LabState} {past : List LabState} {acts : List Activity} {hi : ℕ}
  {id : PyStr} {t t' : Task} {e : Exercise}

/-! ### The states of a run -/

/-- A run passed from its earlier states to its later ones. -/
theorem Run.pairwise (h : Run w past s) : (s :: past).Pairwise fun a b => Later w b a := by
  induction h with
  | start stream => exact List.pairwise_singleton _ _
  | @next past s h op hf ih =>
    refine List.pairwise_cons.mpr ⟨fun u hu => ?_, ih⟩
    have hlater : Later w u s := by
      rcases List.mem_cons.mp hu with rfl | hu
      · exact .refl
      · exact (List.pairwise_cons.mp ih).1 u hu
    exact hlater.tail ⟨op, rfl, hf⟩

/-- Each of them is reachable and led to the last. -/
theorem Run.passed_through (h : Run w past s) {u : LabState} (hu : u ∈ s :: past) :
    Reachable w u ∧ Later w u s := by
  induction h with
  | start stream =>
    rw [List.mem_singleton.mp hu]
    exact ⟨⟨stream, .refl⟩, .refl⟩
  | next h op hf ih =>
    rcases List.mem_cons.mp hu with rfl | hu
    · exact ⟨(h.next op hf).reachable, .refl⟩
    · obtain ⟨hreach, hlater⟩ := ih hu
      exact ⟨hreach, hlater.tail ⟨op, rfl, hf⟩⟩

/-- In one of the states the task has ended, with that record. -/
def EndedAs (states : List LabState) (id : PyStr) (t : Task) : Prop :=
  t.status.isTerminal = true ∧ ∃ u ∈ states, u.tasks.get? id = some t

theorem EndedAs.mono {states states' : List LabState} (h : EndedAs states id t)
    (hsub : states ⊆ states') : EndedAs states' id t :=
  ⟨h.1, h.2.imp fun _ ⟨hu, ht⟩ => ⟨hsub hu, ht⟩⟩

/-- A task ends only once. -/
theorem EndedAs.unique (h : Run w past s) (ht : EndedAs (s :: past) id t)
    (ht' : EndedAs (s :: past) id t') : t' = t := by
  obtain ⟨hterm, u, hu, hget⟩ := ht
  obtain ⟨hterm', u', hu', hget'⟩ := ht'
  have horder : (s :: past).Pairwise fun a b => Later w a b ∨ Later w b a :=
    h.pairwise.imp fun h => .inr h
  have hcomp := horder.forall_of_forall_of_flip (fun _ _ => .inl .refl) (horder.imp Or.symm) hu hu'
  rcases hcomp with hl | hl
  · exact hl.frozen (h.passed_through hu).1.sound hget hterm hget'
  · exact (hl.frozen (h.passed_through hu').1.sound hget' hterm' hget).symm

/-! ### Tasks are retained until they have ended -/

/-- Every task of an exercise is retained, or `P` accounts for it. -/
def Traced (P : PyStr → Prop) (r : Records) : Prop :=
  ∀ k e, r.exercises.get? k = some e → ∀ id ∈ e.taskIds, (∃ t, r.tasks.get? id = some t) ∨ P id

/-- A change keeps the tasks of the exercises except those it prunes. -/
theorem RecordChange.traced {c : Activity} {r : Records} (h : RecordChange w s hi c r)
    (hf : w.FreshBelow s.draws) {P : PyStr → Prop}
    (hP : ∀ id t, c = .prune → s.tasks.get? id = some t → t.status.isTerminal = true → P id)
    (hQ : Traced P s.toRecords) : Traced P r := by
  by_cases hreset : c = .reset
  · subst hreset
    rcases h.of_reset with rfl | rfl
    · exact hQ
    · intro k e he
      rw [Dict.get?_empty] at he; cases he
  have hkeep : ∀ id, (∃ t, s.tasks.get? id = some t) → (∃ t, r.tasks.get? id = some t) ∨ P id := by
    rintro id ⟨t, ht⟩
    have hchange := h.task id
    generalize r.tasks.get? id = x at hchange ⊢
    cases hchange with
    | same => exact .inl ⟨t, ht⟩
    | edited => exact .inl ⟨_, rfl⟩
    | added => exact .inl ⟨_, rfl⟩
    | pruned ht' hterm => exact .inr (hP id _ rfl ht' hterm)
    | cleared => exact absurd rfl hreset
  intro k e' he' id hid
  have hchange := h.exercise k
  rw [he'] at hchange
  rcases hchange.start with ⟨e, he, hsame⟩ | ⟨-, -, hprep⟩
  · rw [hsame.tasks_eq] at hid
    rcases hQ k e he id hid with hold | hold
    · exact hkeep id hold
    · exact .inr hold
  · obtain ⟨t, ht, -⟩ := hprep.queued hf hid
    exact hkeep id ⟨t, ht⟩

/-- Creating work ends no task. -/
theorem Writes.ended_before (h : Writes w [.prune, .create] s s') (hs : Safe w s)
    (hf : w.FreshBelow s'.draws) (ht : s'.tasks.get? id = some t)
    (hterm : t.status.isTerminal = true) : s.tasks.get? id = some t := by
  cases ht₀ : s.tasks.get? id with
  | none =>
    obtain ⟨-, hq⟩ := h.new_task hs hf (fun _ => List.Subset.refl _) ht₀ ht
    rw [hq] at hterm; cases hterm
  | some t₀ =>
    obtain ⟨t₁, ht₁, hpass⟩ := h.task hs hf (by simp) (hs.task_drawn ht₀) ht
    rw [ht₀, Option.some.injEq] at ht₁
    subst ht₁
    have hsame : t.status = t₀.status := by
      rcases hpass.status with heq | ⟨c, hc, hends⟩
      · exact heq
      · have hcalm := hends.not_calm
        simp only [List.mem_cons, List.not_mem_nil, or_false] at hc
        rcases hc with rfl | rfl <;> cases hcalm
    rw [hpass.frozen (hsame ▸ hterm)]

theorem Writes.traced (h : Writes w acts s s') (hs : Safe w s) (hf : w.FreshBelow s'.draws)
    (hacts : .prune ∈ acts → acts ⊆ [.prune, .create]) {P : PyStr → Prop}
    (hP : ∀ id t, s.tasks.get? id = some t → t.status.isTerminal = true → P id)
    (hQ : Traced P s.toRecords) : Traced P s'.toRecords := by
  induction h with
  | refl => exact hQ
  | @tail s₁ s₂ hbefore hstep ih =>
    obtain ⟨c, hc, hw⟩ := hstep
    have hf₁ := hf.mono hw.draws_le
    refine (hw.records (Writes.safe hbefore hs hf₁)).traced hf₁ (fun id t hprune ht hterm => ?_)
      (ih hf₁)
    -- a pruned task had ended before the operation
    have hbefore' := Writes.mono hbefore (hacts (hprune ▸ hc))
    exact hP id t (hbefore'.ended_before hs hf₁ ht hterm) hterm

/-- The writes of an operation: one that prunes does nothing else than to create. -/
theorem Ran.pruning {op : Op} (h : Ran w s op s') :
    ∃ acts, (.prune ∈ acts → acts ⊆ [.prune, .create]) ∧ Writes w acts s s' := by
  cases h with
  | plain h => exact ⟨op.activities, by cases op <;> simp [Op.activities], h⟩
  | delivered h hd =>
    refine ⟨[.expiry, .refresh, .poll, .dispatch], by simp, ?_⟩
    exact ((h.mono (by simp)).write hd (by simp)).write (.tick .poll) (by simp)
  | accepted h hr hf =>
    refine ⟨[.expiry, .refresh, .result], by simp, ?_⟩
    exact ((h.mono (by simp)).write hr (by simp)).trans (hf.mono (by simp))

/-- In a run, every task of an exercise is retained or has ended. -/
theorem Run.traced (h : Run w past s) :
    Traced (fun id => ∃ t, EndedAs past id t) s.toRecords := by
  induction h with
  | start stream =>
    intro k e he
    have hnone : (LabState.init stream).exercises.get? k = none := Dict.get?_empty k
    rw [hnone] at he; cases he
  | @next past s h op hf ih =>
    have hs := h.reachable.sound
    obtain ⟨acts, hacts, hw⟩ := (step_ends hs.safe hs.settled op).ran.pruning
    refine hw.traced hs.safe hf hacts (fun id t ht hterm => ⟨t, hterm, s, by simp, ht⟩) ?_
    intro k e he id hid
    refine (ih k e he id hid).imp_right ?_
    rintro ⟨t, ht⟩
    exact ⟨t, ht.mono (List.subset_cons_self _ _)⟩

/-! ### Evidence stays -/

/-- An exercise of the task has recorded how it ended. -/
structure Exercise.Recorded (e : Exercise) (id : PyStr) (t : Task) (p : Playbook) : Prop where
  observed : id ∈ e.observedTaskIds
  planned : (id, p) ∈ e.plan
  evidence_eq : e.evidence id = evidenceItems e.scenarioId t p

/-- Every exercise of the task has recorded how it ended. -/
def Recorded (id : PyStr) (t : Task) (r : Records) : Prop :=
  ∀ k e, r.exercises.get? k = some e → id ∈ e.taskIds →
    ∃ p, t.command = .runPlaybook p ∧ e.Recorded id t p

/-- An exercise that goes on without new evidence of the task. -/
theorem Exercise.Recorded.extended {e' : Exercise} {items : List TimelineItem} {p : Playbook}
    (h : e.Recorded id t p) (hext : e.Extended items e')
    (hobs : e.observedTaskIds ⊆ e'.observedTaskIds) (hev : e'.evidence id = e.evidence id) :
    e'.Recorded id t p where
  observed := hobs h.observed
  planned := hext.plan_eq ▸ h.planned
  evidence_eq := by rw [hev, hext.scenario_eq]; exact h.evidence_eq

/-- What was recorded about an ended task stays. -/
theorem recorded_kept (w : World) (id : PyStr) (t : Task) :
    Kept w (.reset :: Activity.lasting) fun s =>
      Unqueued w id s.toRecords s.draws ∧ Recorded id t s.toRecords := by
  refine Kept.of_change (Q := fun r draws => Unqueued w id r draws ∧ Recorded id t r)
    fun {s hi c r} _ hs hd hf h ⟨hun, hQ⟩ => ⟨h.unqueued hd hf hun, fun k e' he' hid => ?_⟩
  have hchange := h.exercise k
  rw [he'] at hchange
  generalize hx : some e' = x at hchange
  cases hchange with
  | same => exact hQ k e' hx.symm hid
  | @observed e _ t' _ he _ _ hu _ hterm _ ho =>
    cases hx
    obtain ⟨p, hp, hrec⟩ := hQ k _ he (ho.tasks_eq ▸ hid)
    have hne : t'.id ≠ id := fun heq => hu (heq ▸ hrec.observed)
    refine ⟨p, hp, hrec.extended ho.toExtended ?_ ?_⟩
    · rw [ho.observed_eq]; exact List.subset_append_left _ _
    · rw [ho.evidence_eq hterm, if_neg hne, List.append_nil]
  | @cancelled e _ t' _ he _ _ _ ht hq _ result time ho =>
    cases hx
    obtain ⟨p, hp, hrec⟩ := hQ k _ he (ho.tasks_eq ▸ hid)
    have hne : t'.id ≠ id := fun heq => hun.2 t' (heq ▸ ht) hq
    refine ⟨p, hp, hrec.extended ho.toExtended ?_ ?_⟩
    · rw [ho.observed_eq]; exact List.subset_append_left _ _
    · have hterm : (t'.ended .cancelled result time false).status.isTerminal = true := rfl
      have hne' : (t'.ended .cancelled result time false).id ≠ id := hne
      rw [ho.evidence_eq hterm, if_neg hne', List.append_nil]
  | finished he _ _ _ _ ho =>
    cases hx
    obtain ⟨p, hp, hrec⟩ := hQ k _ he (ho.tasks_eq ▸ hid)
    refine ⟨p, hp, hrec.extended ho.toExtended ?_ (ho.toExtended.evidence_same rfl id)⟩
    rw [ho.observed_eq]; exact List.Subset.refl _
  | contained he _ _ _ _ _ ho =>
    cases hx
    obtain ⟨p, hp, hrec⟩ := hQ k _ he (ho.tasks_eq ▸ hid)
    refine ⟨p, hp, hrec.extended ho.toExtended ?_ (ho.toExtended.evidence_same rfl id)⟩
    rw [ho.observed_eq]; exact List.Subset.refl _
  | added _ hprep =>
    cases hx
    obtain ⟨t', ht', hq⟩ := hprep.queued (hf.mono hd) hid
    exact absurd hq (hun.2 t' ht')
  | removed => cases hx

/-- Between operations every exercise has recorded its ended tasks. -/
theorem Sound.recorded (hs : Sound w s) (ht : s.tasks.get? id = some t)
    (hterm : t.status.isTerminal = true) : Recorded id t s.toRecords := by
  intro k e he hid
  have hv := hs.safe.exercise_valid he
  have hobs := (hs.settled k e he).observed id hid t ht hterm
  obtain ⟨p, hp⟩ := Exercise.exists_planned hv.length_eq hid
  exact ⟨p, (hv.planned hp ht).1, hobs, hp, hv.evidence_eq hp hobs ht⟩

/-- An exercise has recorded every task of it that ended in the run. -/
theorem Run.recorded (h : Run w past s) (ht : EndedAs (s :: past) id t) :
    Recorded id t s.toRecords := by
  obtain ⟨hterm, u, hu, hget⟩ := ht
  obtain ⟨hreach, hlater⟩ := h.passed_through hu
  have hsound := hreach.sound
  refine ((recorded_kept w id t).later hlater hsound ⟨⟨hsound.safe.task_drawn hget, ?_⟩,
    hsound.recorded hget hterm⟩).2
  intro t' ht' hq
  rw [hget, Option.some.injEq] at ht'
  rw [ht', hq] at hterm; cases hterm

/-! ### No timeline overflows -/

theorem Write.refused_eq (hs : Safe w s) {c : Activity} (h : Write w s c s') :
    s'.refusedAppends = s.refusedAppends := by
  by_cases hresult : c = .result
  · subst hresult
    cases h with
    | tick => rfl
    | failTask hc => rcases hc with hc | hc <;> cases hc
    | @acceptedResult n t status _ result hn ht hnode hd hv now =>
      rw [(LabState.acceptedResult_grow n t status result now s).refused_eq]
      unfold LabState.generateEvent
      split
      · exact Journal.refused_recordLocked _ _ _
      · rfl
  by_cases hreset : c = .reset
  · subst hreset
    cases h with
    | tick => rfl
    | failTask hc => rcases hc with hc | hc <;> cases hc
    | announceReset actor => exact (LabState.announceReset_grow actor s).refused_eq
  exact (h.grow hs hresult hreset).refused_eq

/-- No append to a timeline is ever refused. -/
theorem Reachable.none_refused (h : Reachable w s) : s.refusedAppends = 0 := by
  have hkept : Kept w (.reset :: Activity.lasting) fun s => s.refusedAppends = 0 :=
    ⟨fun _ hs _ hw hzero => (hw.refused_eq hs).trans hzero⟩
  exact hkept.reachable (fun _ => rfl) h

/-! ### The account of an exercise -/

/-- The techniques of a scenario's playbooks are all techniques of the scenario. -/
theorem observedTechniques_eq {scenario : ScenarioId} {p : Playbook}
    (h : p ∈ (scenarioDefinition scenario).playbooks) :
    observedTechniques scenario p = (LabRuntime.techniqueTable p).map Prod.fst := by
  have hall : ∀ scenario : ScenarioId, ∀ p ∈ (scenarioDefinition scenario).playbooks,
      ∀ x ∈ (LabRuntime.techniqueTable p).map Prod.fst, x ∈ allowedTechniqueIds scenario := by
    intro scenario
    cases scenario <;> decide
  exact List.filter_eq_self.mpr fun x hx => by simpa using hall scenario p h x hx

/-- The evidence a timeline holds about a task that ended: its terminal status and, if it completed,
    each technique of its result. -/
inductive Exercise.Evident (e : Exercise) (id : PyStr) (t : Task) : Prop
  | completed {p : Playbook} {techniques : List Json} {ids : List String}
      (hp : t.command = .runPlaybook p) (hst : t.status = .completed)
      (hx : t.attackTechniques = .ok techniques)
      (hids : List.Forall₂ (fun x i => item x "id" = .ok (.str (.text i))) techniques ids)
      (hev : e.evidence id = LabState.endedItem t p :: ids.map (LabState.techniqueItem id)) :
      Evident e id t
  | unsuccessful {p : Playbook} (hp : t.command = .runPlaybook p) (hst : t.status ≠ .completed)
      (hev : e.evidence id = [LabState.endedItem t p]) : Evident e id t

theorem Exercise.Recorded.evident {p : Playbook} (h : e.Recorded id t p) (hwf : t.WellFormed w)
    (hid : t.id = id) (hp : t.command = .runPlaybook p) : e.Evident id t := by
  have hev := h.evidence_eq
  unfold evidenceItems at hev
  by_cases hst : t.status = .completed
  · obtain ⟨xs, hx, hids⟩ := hwf.attackTechniques hp hst
    have hplanned := (List.of_mem_zip h.planned).2
    rw [if_pos hst, observedTechniques_eq hplanned, hid] at hev
    exact .completed hp hst hx hids hev
  · rw [if_neg hst] at hev
    exact .unsuccessful hp hst hev

/-- The evidence tells a completed task from the others. -/
theorem Exercise.Recorded.completed_iff {p : Playbook} (h : e.Recorded id t p) :
    (∃ i ∈ e.evidence id, i.kind = .task .completed) ↔ t.status = .completed := by
  rw [h.evidence_eq]
  constructor
  · rintro ⟨i, hi, hk⟩
    rcases Exercise.evidence_head hi with rfl | hother
    · simpa [LabState.endedItem] using hk
    · rw [hother] at hk; cases hk
  · intro hst
    exact ⟨LabState.endedItem t p, List.mem_cons_self, by simp [LabState.endedItem, hst]⟩

/-- An exercise agrees with the states of the run it is part of. -/
structure Exercise.Accounted (states : List LabState) (s : LabState) (e : Exercise) : Prop where
  contained_iff : e.status = .contained ↔ e.containment ≠ none
  running_iff : e.status = .running ↔ e.containment = none ∧ ∃ id ∈ e.taskIds, ∃ t,
    s.tasks.get? id = some t ∧ (t.status = .queued ∨ t.status = .dispatched)
  retained : e.status = .running → ∀ id ∈ e.taskIds, ∃ t, s.tasks.get? id = some t
  ended : e.containment = none → e.status ≠ .running →
    e.status = .completed ∧
        (∀ id ∈ e.taskIds, ∃ t, EndedAs states id t ∧ t.status = .completed) ∨
      e.status = .failed ∧ ∃ id ∈ e.taskIds, ∃ t, EndedAs states id t ∧ t.status ≠ .completed
  silent : ∀ id ∈ e.taskIds, (∀ t, ¬EndedAs states id t) → e.evidence id = [] ∧
    ∃ t, s.tasks.get? id = some t ∧ t.status.isTerminal = false
  evident : ∀ id ∈ e.taskIds, ∀ t, EndedAs states id t → e.Evident id t
  short : e.timeline.length ≤ maxExerciseTimeline
  numbered : e.timeline.map (·.sequence) = List.range' 1 e.timeline.length

/-- An exercise runs as long as one of its tasks does, unless it was contained. -/
theorem Sound.running_iff (hs : Sound w s) {k : PyStr} (he : s.exercises.get? k = some e) :
    e.status = .running ↔ e.containment = none ∧ ∃ id ∈ e.taskIds, ∃ t,
      s.tasks.get? id = some t ∧ (t.status = .queued ∨ t.status = .dispatched) := by
  have hv := hs.safe.exercise_valid he
  constructor
  · intro hst
    have hnone : e.containment = none := by
      by_contra hne
      rw [hv.contained_iff.mpr hne] at hst; cases hst
    refine ⟨hnone, by_contra fun hlive => ?_⟩
    -- if every task had ended, the refresh would have recorded the completion
    have hall : ∀ id ∈ e.taskIds, ∃ t, s.tasks.get? id = some t ∧
        t.status.isTerminal = true := by
      intro id hid
      obtain ⟨t, ht⟩ := hv.running_retained hst id hid
      refine ⟨t, ht, ?_⟩
      cases hst' : t.status with
      | queued => exact absurd ⟨id, hid, t, ht, .inl hst'⟩ hlive
      | dispatched => exact absurd ⟨id, hid, t, ht, .inr hst'⟩ hlive
      | completed | failed | timeout | cancelled | expired => rfl
    have hrec := (hs.settled k e he).recorded hnone hall
    rw [(hv.running_iff hnone).mp hst] at hrec; cases hrec
  · rintro ⟨hnone, id, hid, t, ht, hlive⟩
    refine (hv.running_iff hnone).mpr (Bool.eq_false_iff.mpr fun hrec => ?_)
    have hterm := hv.observed_ended id (hv.recorded_observed hrec id hid) t ht
    rcases hlive with hq | hd
    · rw [hq] at hterm; cases hterm
    · rw [hd] at hterm; cases hterm

/-- In a run, a task of an exercise is retained and goes on, or it has ended. -/
theorem Run.live_or_ended (h : Run w past s) {k : PyStr} (he : s.exercises.get? k = some e)
    (hid : id ∈ e.taskIds) :
    (∃ t, s.tasks.get? id = some t ∧ t.status.isTerminal = false) ∨
      ∃ t, EndedAs (s :: past) id t := by
  rcases h.traced k e he id hid with ⟨t, ht⟩ | ⟨t, hend⟩
  · cases hterm : t.status.isTerminal with
    | false => exact .inl ⟨t, ht, hterm⟩
    | true => exact .inr ⟨t, hterm, s, by simp, ht⟩
  · exact .inr ⟨t, hend.mono (List.subset_cons_self _ _)⟩

/-- The status of an exercise that ended by itself is the outcome of its tasks. -/
theorem Run.outcome (h : Run w past s) {k : PyStr} (he : s.exercises.get? k = some e)
    (hnone : e.containment = none) (hst : e.status ≠ .running) :
    e.status = .completed ∧
        (∀ id ∈ e.taskIds, ∃ t, EndedAs (s :: past) id t ∧ t.status = .completed) ∨
      e.status = .failed ∧
        ∃ id ∈ e.taskIds, ∃ t, EndedAs (s :: past) id t ∧ t.status ≠ .completed := by
  have hv := h.reachable.sound.safe.exercise_valid he
  have hrec : e.completionRecorded = true := by
    by_contra hne
    exact hst ((hv.running_iff hnone).mpr (by simpa using hne))
  have hended : ∀ id ∈ e.taskIds, ∃ t p, EndedAs (s :: past) id t ∧ e.Recorded id t p := by
    intro id hid
    rcases h.live_or_ended he hid with ⟨t, ht, hl⟩ | ⟨t, hend⟩
    · rw [hv.observed_ended id (hv.recorded_observed hrec id hid) t ht] at hl; cases hl
    · obtain ⟨p, -, hr⟩ := h.recorded hend k e he hid
      exact ⟨t, p, hend, hr⟩
  cases hst' : e.status with
  | running => exact absurd hst' hst
  | contained => exact absurd hnone (hv.contained_iff.mp hst')
  | completed =>
    refine .inl ⟨rfl, fun id hid => ?_⟩
    obtain ⟨t, p, hend, hr⟩ := hended id hid
    exact ⟨t, hend, hr.completed_iff.mp (hv.completed_all hst' id hid)⟩
  | failed =>
    obtain ⟨id, hid, hno⟩ := hv.failed_some hst'
    obtain ⟨t, p, hend, hr⟩ := hended id hid
    refine .inr ⟨rfl, id, hid, t, hend, fun hcomp => ?_⟩
    obtain ⟨i, hi, hk⟩ := hr.completed_iff.mpr hcomp
    exact hno i hi hk

/-- The exercise state machine and its evidence. In every state of a run an exercise runs exactly
    as long as a task of it does and it was not contained, all its tasks retained; afterwards it is
    completed if all of them completed and failed otherwise; its timeline tells once how each task
    ended, also after the task was pruned; and no timeline ever overflowed. -/
theorem exercise_history (h : Run w past s) :
    s.refusedAppends = 0 ∧
    (∀ id t t', EndedAs (s :: past) id t → EndedAs (s :: past) id t' → t' = t) ∧
    ∀ k e, s.exercises.get? k = some e → e.Accounted (s :: past) s := by
  have hs := h.reachable.sound
  refine ⟨h.reachable.none_refused, fun id t t' ht ht' => ht.unique h ht', fun k e he => ?_⟩
  have hv := hs.safe.exercise_valid he
  exact {
    contained_iff := hv.contained_iff
    running_iff := hs.running_iff he
    retained := hv.running_retained
    ended := h.outcome he
    silent := fun id hid hnone => by
      rcases h.live_or_ended he hid with ⟨t, ht, hl⟩ | ⟨t, hend⟩
      · obtain rfl := hs.safe.task_key ht
        exact ⟨hv.evidence_none _ (hv.unobserved_of_live ht hl), t, ht, hl⟩
      · exact absurd hend (hnone t)
    evident := fun id hid t hend => by
      obtain ⟨p, hp, hr⟩ := h.recorded hend k e he hid
      obtain ⟨-, u, hu, hget⟩ := hend
      have hsafe := (h.passed_through hu).1.sound.safe
      exact hr.evident (hsafe.task_wf hget) (hsafe.task_key hget) hp
    short := by have := hv.room; omega
    numbered := hv.numbered }

/-- The account of an exercise with one task completed and one queued. -/
theorem exercise_history_running :
    let s := exec .counting (.init "stream") Counting.detection
    (s.exercises.values.map (·.status), s.tasks.values.map (·.status)) =
        ([.running], [.completed, .queued]) ∧
      ∀ k e, s.exercises.get? k = some e →
        e.Accounted (s :: passed .counting (.init "stream") Counting.detection) s := by
  refine ⟨Counting.detection_evaluated.2.2, ?_⟩
  exact (exercise_history Counting.detection_run).2.2

end C2Lab
