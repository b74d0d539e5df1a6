import C2Lab.Core.ExpireRun

/-! The writes that leave every exercise settled, for they end no task of one. -/

namespace C2Lab

variable {w : World} {s s' s₀ : LabState} {acts : List Activity} {hi : ℕ}

/-- The parts of the program that never end a task and never contain an exercise. -/
def Activity.calm : Activity → Bool
  | .poll | .dispatch | .reject | .enroll | .prune | .create | .note | .reset => true
  | _ => false

theorem EndsAs.not_calm {c : Activity} {a b : TaskStatus} (h : EndsAs c a b) : c.calm = false := by
  cases h <;> rfl

theorem FailsAs.not_calm {c : Activity} {a b : TaskStatus} (h : FailsAs c a b) :
    c.calm = false := by
  cases h <;> rfl

/-- An exercise stays settled when no task of it newly ended. -/
theorem Exercise.Settled.of_ended {tasks tasks' : Dict PyStr Task} {e : Exercise}
    (h : e.Settled tasks)
    (heq : ∀ id ∈ e.taskIds, ∀ t', tasks'.get? id = some t' → t'.status.isTerminal = true →
      ∃ t, tasks.get? id = some t ∧ t.status.isTerminal = true) : e.Settled tasks' where
  observed id hid t' ht' hterm := by
    obtain ⟨t, ht, hterm⟩ := heq id hid t' ht' hterm
    exact h.observed id hid t ht hterm
  recorded hc hall := h.recorded hc fun id hid => by
    obtain ⟨t', ht', hterm⟩ := hall id hid
    exact heq id hid t' ht' hterm

/-- A task that has not ended is rewritten and still has not. -/
theorem Exercise.Settled.set_live {tasks : Dict PyStr Task} {e : Exercise} (h : e.Settled tasks)
    {id : PyStr} {t' : Task} (hl : t'.status.isTerminal = false) :
    e.Settled (tasks.set id t') := h.of_ended fun k _ x hx hterm => by
  rw [Dict.get?_set] at hx
  split at hx
  · cases hx
    rw [hl] at hterm; cases hterm
  · exact ⟨x, hx, hterm⟩

theorem LabState.Settled.congr (h : s.Settled) (he : s'.exercises = s.exercises)
    (ht : s'.tasks = s.tasks) : s'.Settled := by
  rw [LabState.Settled, he, ht]; exact h

/-- A calm change of the records settles nothing anew. -/
theorem RecordChange.settled {c : Activity} {r : Records} (hset : s.Settled)
    (h : RecordChange w s hi c r) (hc : c.calm = true) (hd : s.draws ≤ hi)
    (hf : c.creates = true → w.FreshBelow hi) :
    r.exercises.All fun _ e => e.Settled r.tasks := by
  cases h with
  | kept | rememberedNote | rememberedOperation | touchedNode | prunedNode | addedNode => exact hset
  | closedNode hc' => rcases hc' with rfl | rfl <;> cases hc
  | endedTask hends => rw [hends.not_calm] at hc; cases hc
  | failedTask hfails => rw [hfails.not_calm] at hc; cases hc
  | redeliveredTask ht hdisp => exact hset.imp fun _ _ _ he => he.set_live (by rw [hdisp]; rfl)
  | dispatchedTask => exact hset.imp fun _ _ _ he => he.set_live rfl
  | prunedTask =>
    refine hset.imp fun _ _ _ he => he.of_ended fun id _ t ht hterm => ?_
    rw [Dict.get?_erase] at ht
    split at ht
    · cases ht
    · exact ⟨t, ht, hterm⟩
  | addedTask => exact hset.imp fun _ _ _ he => he.set_live rfl
  | @addedExercise e key hp hroom =>
    have hf := (hf rfl).mono hd
    have hlive : ∀ id ∈ e.taskIds, ∀ t, s.tasks.get? id = some t →
        t.status.isTerminal = false := by
      intro id hid t ht
      obtain ⟨x, hx, hq⟩ := hp.queued hf hid
      rw [hx, Option.some.injEq] at ht
      rw [← ht, hq]; rfl
    refine hset.set ⟨fun id hid t ht hterm => ?_, fun _ hall => ?_⟩
    · rw [hlive id hid t ht] at hterm; cases hterm
    · have hne : e.taskIds ≠ [] := fun hn => by
        have := (hp.tasks hf).length_eq
        rw [hn, playbooks_length] at this; cases this
      obtain ⟨id, hid⟩ := List.exists_mem_of_ne_nil _ hne
      obtain ⟨t, ht, hterm⟩ := hall id hid
      rw [hlive id hid t ht] at hterm; cases hterm
  | cleared => exact Dict.all_empty
  | acceptedTask | observedTask | finishedExercise | cancelledTask | containedExercise => cases hc

/-- A calm write settles nothing anew. -/
theorem Write.settled {c : Activity} (hs : Safe w s) (hset : s.Settled) (h : Write w s c s')
    (hc : c.calm = true) (hf : c.creates = true → w.FreshBelow s'.draws) : s'.Settled :=
  (h.records hs).settled hset hc h.draws_le hf

/-- No sequence of writes takes a draw back. -/
theorem Writes.draws_le (h : Writes w acts s s') : s.draws ≤ s'.draws := by
  induction h with
  | refl => exact le_rfl
  | tail _ hstep ih =>
    obtain ⟨c, -, hw⟩ := hstep
    exact ih.trans hw.draws_le

/-- Writes keep the invariant when the values they draw are fresh. -/
theorem Writes.safe (h : Writes w acts s s') (hs : Safe w s) (hf : w.FreshBelow s'.draws) :
    Safe w s' := by
  induction h with
  | refl => exact hs
  | tail _ hstep ih =>
    obtain ⟨c, -, hw⟩ := hstep
    exact hw.safe (ih (hf.mono hw.draws_le)) fun _ => hf

/-- Calm writes leave every exercise settled. -/
theorem Writes.settled (h : Writes w acts s s') (hs : Safe w s) (hset : s.Settled)
    (hc : ∀ c ∈ acts, c.calm = true) (hf : w.FreshBelow s'.draws) : s'.Settled := by
  induction h with
  | refl => exact hset
  | tail hbefore hstep ih =>
    obtain ⟨c, hmem, hw⟩ := hstep
    have hf' := hf.mono hw.draws_le
    exact hw.settled (Writes.safe hbefore hs hf') (ih hf') (hc c hmem) fun _ => hf

theorem Writes.mono {acts' : List Activity} (h : Writes w acts s s') (hsub : acts ⊆ acts') :
    Writes w acts' s s' :=
  Relation.ReflTransGen.mono (fun _ _ ⟨c, hc, hw⟩ => ⟨c, hsub hc, hw⟩) _ _ h

theorem Write.writes {c : Activity} (h : Write w s c s') (hc : c ∈ acts) : Writes w acts s s' :=
  .single ⟨c, hc, h⟩

theorem Writes.write {s₁ : LabState} {c : Activity} (h : Writes w acts s s₁)
    (hw : Write w s₁ c s') (hc : c ∈ acts) : Writes w acts s s' := h.tail ⟨c, hc, hw⟩

end C2Lab
