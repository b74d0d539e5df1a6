import C2Lab.Core.NodeLife

/-! The life of an exercise record.

    A record is stored once with all its tasks, then observes them one by one as they end, and at
    most once is completed and at most once contained; only a reset removes it. -/

namespace C2Lab

variable {w : World} {s s' s₀ s₁ : LabState} {acts : List Activity} {hi : ℕ}

/-- What a change of the records does to the exercise of one identifier; `hi` is as there. -/
inductive ExerciseChange (w : World) (s : LabState) (id : PyStr) :
    Activity → Option Exercise → Prop
  | same (c : Activity) : ExerciseChange w s id c (s.exercises.get? id)
  | observed {e e' : Exercise} {t : Task} {p : Playbook} (he : s.exercises.get? id = some e)
      (hid : e.id = id) (hm : t.id ∈ e.taskIds) (hu : t.id ∉ e.observedTaskIds)
      (ht : s.tasks.get? t.id = some t) (hterm : t.status.isTerminal = true)
      (hp : t.command = .runPlaybook p) (ho : e.Observed t p e') :
      ExerciseChange w s id .refresh (some e')
  | cancelled {e e' : Exercise} {t : Task} {p : Playbook} (he : s.exercises.get? id = some e)
      (hid : e.id = id) (hs : e.status ≠ .contained) (hm : t.id ∈ e.taskIds)
      (ht : s.tasks.get? t.id = some t) (hq : t.status = .queued)
      (hp : t.command = .runPlaybook p) {result : Json} {time : Timestamp}
      (ho : e.Observed (t.ended .cancelled result time false) p e') :
      ExerciseChange w s id .contain (some e')
  | finished {e e' : Exercise} (he : s.exercises.get? id = some e) (hid : e.id = id)
      (hs : e.status ≠ .contained) (hc : e.completionRecorded = false)
      (hall : ∀ id ∈ e.taskIds, id ∈ e.observedTaskIds ∧
        ∃ t, s.tasks.get? id = some t ∧ t.status.isTerminal = true)
      (ho : e.Finished (s.finalStatus e) e') : ExerciseChange w s id .refresh (some e')
  | contained {e e' : Exercise} (he : s.exercises.get? id = some e) (hid : e.id = id)
      (hs : e.status ≠ .contained) (hd : e.detected = true)
      (hq : ∀ id ∈ e.taskIds, ∀ t, s.tasks.get? id = some t → t.status ≠ .queued)
      {action : ContainmentAction} (hp : s.PausedFor action e.nodeId) (ho : e.Contained action e') :
      ExerciseChange w s id .contain (some e')
  | added {e : Exercise} {key : Option PyStr} (hid : e.id = id) (he : e.Prepared w s)
      (hk : s.ExerciseRoom key) : ExerciseChange w s id .create (some e)
  | removed : ExerciseChange w s id .reset none

theorem RecordChange.exercise {c : Activity} {r : Records} (h : RecordChange w s hi c r)
    (id : PyStr) : ExerciseChange w s id c (r.exercises.get? id) := by
  -- an exercise rewritten under its identifier changed there and is the same elsewhere
  have hset : ∀ {c : Activity} {e e' : Exercise},
      (e.id = id → ExerciseChange w s id c (some e')) →
      ExerciseChange w s id c ((s.exercises.set e.id e').get? id) := by
    intro c e e' hedit
    rw [Dict.get?_set]
    split
    · rename_i hid
      exact hedit hid.symm
    · exact .same c
  cases h with
  | kept | rememberedNote | rememberedOperation | touchedNode | closedNode | endedTask | failedTask
    | redeliveredTask | dispatchedTask | acceptedTask | prunedTask | prunedNode | addedNode
    | addedTask => exact .same _
  | addedExercise he hk => exact hset fun hid => .added hid he hk
  | observedTask he hm hu ht hterm hp ho =>
    exact hset fun hid => .observed (hid ▸ he) hid hm hu ht hterm hp ho
  | finishedExercise he hs hc hall ho =>
      exact hset fun hid => .finished (hid ▸ he) hid hs hc hall ho
  | cancelledTask he hs hm ht hq hp result time ho =>
    exact hset fun hid => .cancelled (hid ▸ he) hid hs hm ht hq hp ho
  | containedExercise he hs hd hq hp ho =>
    exact hset fun hid => .contained (hid ▸ he) hid hs hd hq hp ho
  | cleared => exact .removed

/-- An exercise found after a change other than a reset was there before, unless it is new. -/
theorem ExerciseChange.start {id : PyStr} {c : Activity} {e' : Exercise}
    (h : ExerciseChange w s id c (some e')) :
    (∃ e, s.exercises.get? id = some e ∧ e.SameStart e') ∨ c = .create ∧ e'.id = id ∧
      e'.Prepared w s := by
  generalize hx : some e' = x at h
  cases h with
  | same => exact .inl ⟨e', hx.symm, .refl e'⟩
  | observed he _ _ _ _ _ _ ho => cases hx; exact .inl ⟨_, he, ho.toExtended.sameStart⟩
  | cancelled he _ _ _ _ _ _ ho => cases hx; exact .inl ⟨_, he, ho.toExtended.sameStart⟩
  | finished he _ _ _ _ ho => cases hx; exact .inl ⟨_, he, ho.toExtended.sameStart⟩
  | contained he _ _ _ _ _ ho => cases hx; exact .inl ⟨_, he, ho.toExtended.sameStart⟩
  | added hid hp => cases hx; exact .inr ⟨rfl, hid, hp⟩
  | removed => cases hx

/-- A retained exercise stays, about the same tasks, unless everything is reset. -/
theorem ExerciseChange.kept {id : PyStr} {c : Activity} {x : Option Exercise}
    (h : ExerciseChange w s id c x) (hc : c ≠ .reset) (hf : w.FreshBelow s.draws) {e : Exercise}
    (he : s.exercises.get? id = some e) : ∃ e', x = some e' ∧ e.SameStart e' := by
  have hedit : ∀ {e₀ e' : Exercise}, s.exercises.get? id = some e₀ → e₀.SameStart e' →
      ∃ e'', some e' = some e'' ∧ e.SameStart e'' := by
    intro e₀ e' he₀ hsame
    rw [he, Option.some.injEq] at he₀
    exact ⟨e', rfl, he₀ ▸ hsame⟩
  cases h with
  | same => exact ⟨e, he, .refl e⟩
  | observed he₀ _ _ _ _ _ _ ho => exact hedit he₀ ho.toExtended.sameStart
  | cancelled he₀ _ _ _ _ _ _ ho => exact hedit he₀ ho.toExtended.sameStart
  | finished he₀ _ _ _ _ ho => exact hedit he₀ ho.toExtended.sameStart
  | contained he₀ _ _ _ _ _ ho => exact hedit he₀ ho.toExtended.sameStart
  | added hid hp =>
    have hnew := hp.id_new hf
    rw [hid, he] at hnew
    cases hnew
  | removed => exact absurd rfl hc

end C2Lab
