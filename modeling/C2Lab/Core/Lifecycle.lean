import C2Lab.Core.Counting
import C2Lab.Core.Ran

/-! The life of a task.

    Seven places of the source write a task's status; `Task.Edited` lists them, and every record
    change either leaves a task as it is or is one of them. Within an operation they compose only so
    that a status moves at most once, for the operation's one delivery comes last and an ended task
    is never written again. -/

namespace C2Lab

variable {w : World} {s s' : LabState} {acts : List Activity} {hi : ℕ}

/-- The moves of a task status. -/
inductive TaskStatus.Moves : TaskStatus → TaskStatus → Prop
  | dispatch : Moves .queued .dispatched
  | cancel : Moves .queued .cancelled
  | expire : Moves .queued .expired
  | failQueued : Moves .queued .failed
  | complete : Moves .dispatched .completed
  | failDispatched : Moves .dispatched .failed
  | timeout : Moves .dispatched .timeout

/-- The moves that end a task, by the part of the program that makes them. -/
inductive TaskStatus.EndsBy : Activity → TaskStatus → TaskStatus → Prop
  | server {c : Activity} {a b : TaskStatus} (h : EndsAs c a b) : EndsBy c a b
  | failure {c : Activity} {a b : TaskStatus} (h : FailsAs c a b) : EndsBy c a b
  | result (status : ResultStatus) : EndsBy .result .dispatched status.taskStatus
  | contained : EndsBy .contain .queued .cancelled

theorem TaskStatus.EndsBy.live {c : Activity} {a b : TaskStatus} (h : a.EndsBy c b) :
    a.isTerminal = false ∧ b.isTerminal = true := by
  cases h with
  | server h => exact ⟨h.live.1, h.live.2.1⟩
  | failure h => exact ⟨h.live.1, h.live.2.1⟩
  | result status => cases status <;> exact ⟨rfl, rfl⟩
  | contained => exact ⟨rfl, rfl⟩

theorem TaskStatus.EndsBy.moves {c : Activity} {a b : TaskStatus} (h : a.EndsBy c b) :
    a.Moves b := by
  cases h with
  | server h => cases h <;> constructor
  | failure h => cases h <;> constructor
  | result status => cases status <;> constructor
  | contained => constructor

theorem TaskStatus.EndsBy.not_calm {c : Activity} {a b : TaskStatus} (h : a.EndsBy c b) :
    c.calm = false := by
  cases h with
  | server h => exact h.not_calm
  | failure h => exact h.not_calm
  | result | contained => rfl

/-- Only an accepted result completes a task. -/
theorem TaskStatus.EndsBy.completed {c : Activity} {a : TaskStatus} (h : a.EndsBy c .completed) :
    c = .result := by
  generalize hb : TaskStatus.completed = b at h
  cases h with
  | server h => exact absurd hb.symm h.live.2.2
  | failure h => exact absurd hb.symm h.live.2.2
  | result status => rfl
  | contained => cases hb

/-- What a task was asked to do: the fields that never change. -/
def Task.request (t : Task) : Task :=
  { t with
    status := .queued, result := none, dispatchedAt := none, completedAt := none
    deliveryAttempts := 0, deadline := none, queueDeadline := none, resultAccepted := false }

/-- The writes on a task record, in the state before the write. -/
inductive Task.Edited (w : World) (s : LabState) : Activity → Task → Task → Prop
  | ended {c : Activity} {t : Task} {status : TaskStatus} (h : EndsAs c t.status status)
      (result : Json) (time : Timestamp) : Edited w s c t (t.ended status result time false)
  | failed {c : Activity} {t : Task} {status : TaskStatus} (h : FailsAs c t.status status)
      (result : Json) (time : Timestamp) : Edited w s c t (t.ended status result time false)
  | cancelled {t : Task} (hq : t.status = .queued) (result : Json) (time : Timestamp) :
      Edited w s .contain t (t.ended .cancelled result time false)
  | accepted {n : Node} {t : Task} {status : ResultStatus} {sent : Document} {result : Json}
      (hn : s.nodes.get? n.id = some n) (hnode : t.nodeId = n.id) (hd : t.status = .dispatched)
      (hv : validateTaskResult w.toInterp t.command (Vocabulary.toJson status) sent.1
        (some n.expectedRuntime) = .ok (status, result)) (time : Timestamp) :
      Edited w s .result t (t.ended status.taskStatus result time true)
  | redelivered {t : Task} (hd : t.status = .dispatched) :
      Edited w s .poll t { t with deliveryAttempts := t.deliveryAttempts + 1 }
  | dispatched {t : Task} (hq : t.status = .queued) (hturn : s.Turn t) (now : Instant)
      (time : Timestamp) : Edited w s .dispatch t { t with
        status := .dispatched, dispatchedAt := some time
        deadline := some (now + taskTimeoutSeconds), queueDeadline := none, deliveryAttempts := 1 }

/-- No write changes what a task was asked to do. -/
theorem Task.Edited.request_eq {c : Activity} {t t' : Task} (h : t.Edited w s c t') :
    t'.request = t.request := by
  cases h <;> rfl

/-- What a change of the records does to the task of one identifier; `hi` is as there. -/
inductive TaskChange (w : World) (s : LabState) (hi : ℕ) (id : PyStr) :
    Activity → Option Task → Prop
  | same (c : Activity) : TaskChange w s hi id c (s.tasks.get? id)
  | edited {c : Activity} {t t' : Task} (ht : s.tasks.get? id = some t) (hid : t.id = id)
      (he : t.Edited w s c t') : TaskChange w s hi id c (some t')
  | added {spec : TaskSpec} {n : Node} (ha : s.Admits w spec n) (now : Instant)
      (hid : id = w.taskId s.draws) (hd : s.draws < hi) :
      TaskChange w s hi id .create (some (s.newTask w spec now))
  | pruned {t : Task} (ht : s.tasks.get? id = some t) (hterm : t.status.isTerminal = true)
      (hr : taskIsRequiredByRunningExerciseLocked t s = false) : TaskChange w s hi id .prune none
  | cleared : TaskChange w s hi id .reset none

theorem RecordChange.task {c : Activity} {r : Records} (h : RecordChange w s hi c r) (id : PyStr) :
    TaskChange w s hi id c (r.tasks.get? id) := by
  -- a task rewritten under its identifier is edited there and the same elsewhere
  have hset : ∀ {c : Activity} {t t' : Task}, s.tasks.get? t.id = some t → t.Edited w s c t' →
      TaskChange w s hi id c ((s.tasks.set t.id t').get? id) := by
    intro c t t' ht he
    rw [Dict.get?_set]
    split
    · rename_i hid
      exact .edited (hid ▸ ht) hid.symm he
    · exact .same c
  cases h with
  | kept | rememberedNote | rememberedOperation | touchedNode | closedNode | prunedNode | addedNode
    | addedExercise | observedTask | finishedExercise | containedExercise => exact .same _
  | endedTask hends ht result time => exact hset ht (.ended hends result time)
  | failedTask hfails ht result time => exact hset ht (.failed hfails result time)
  | redeliveredTask ht hd => exact hset ht (.redelivered hd)
  | dispatchedTask ht hq hturn now time => exact hset ht (.dispatched hq hturn now time)
  | acceptedTask hn ht hnode hd hv time => exact hset ht (.accepted hn hnode hd hv time)
  | cancelledTask he hs hm ht hq hp result time => exact hset ht (.cancelled hq result time)
  | prunedTask ht hterm hr =>
    simp only [Dict.get?_erase]
    split
    · rename_i hid
      exact .pruned (hid ▸ ht) hterm hr
    · exact .same _
  | addedTask ha now hd =>
    simp only [Dict.get?_set]
    split
    · rename_i hid
      exact .added ha now hid hd
    · exact .same _
  | cleared => exact .cleared

/-! ### Writes other than a delivery -/

/-- A task after writes of the given parts: redelivered, ended once, or as it was. -/
structure Task.Passed (acts : List Activity) (t t' : Task) : Prop where
  request_eq : t'.request = t.request
  status : t'.status = t.status ∨ ∃ c ∈ acts, t.status.EndsBy c t'.status
  frozen : t.status.isTerminal = true → t' = t

namespace Task.Passed

variable {t t' t'' : Task}

theorem refl (t : Task) : t.Passed acts t := ⟨rfl, .inl rfl, fun _ => rfl⟩

theorem mono {acts' : List Activity} (h : t.Passed acts t') (hsub : acts ⊆ acts') :
    t.Passed acts' t' :=
  ⟨h.request_eq, h.status.imp_right fun ⟨c, hc, he⟩ => ⟨c, hsub hc, he⟩, h.frozen⟩

theorem trans (h : t.Passed acts t') (h' : t'.Passed acts t'') : t.Passed acts t'' where
  request_eq := h'.request_eq.trans h.request_eq
  status := by
    rcases h.status with heq | ⟨c, hc, hends⟩
    · rw [← heq]; exact h'.status
    · rw [h'.frozen hends.live.2]; exact .inr ⟨c, hc, hends⟩
  frozen hterm := by
    have heq := h.frozen hterm
    rw [h'.frozen (heq ▸ hterm), heq]

/-- A task that has not ended since had not before. -/
theorem live (h : t.Passed acts t') (hl : t'.status.isTerminal = false) : t'.status = t.status := by
  rcases h.status with heq | ⟨c, -, hends⟩
  · exact heq
  · rw [hends.live.2] at hl; cases hl

theorem moves (h : t.Passed acts t') : t'.status = t.status ∨ t.status.Moves t'.status :=
  h.status.imp_right fun ⟨_, _, hends⟩ => hends.moves

end Task.Passed

theorem Task.Edited.passed {c : Activity} {t t' : Task} (h : t.Edited w s c t')
    (hc : c ≠ .dispatch) : t.Passed [c] t' := by
  have hended : ∀ {status : TaskStatus} (result : Json) (time : Timestamp) (accepted : Bool),
      t.status.EndsBy c status → t.Passed [c] (t.ended status result time accepted) :=
    fun _ _ _ he => ⟨rfl, .inr ⟨c, by simp, he⟩, fun hterm => by
      rw [he.live.1] at hterm; cases hterm⟩
  cases h with
  | ended h => exact hended _ _ _ (.server h)
  | failed h => exact hended _ _ _ (.failure h)
  | cancelled hq => exact hended _ _ _ (hq ▸ .contained)
  | accepted hn hnode hd => exact hended _ _ _ (hd ▸ .result _)
  | redelivered hd => exact ⟨rfl, .inl rfl, fun hterm => by rw [hd] at hterm; cases hterm⟩
  | dispatched => exact absurd rfl hc

/-- The identifiers drawn for tasks so far. -/
def World.TaskDrawn (w : World) (draws : ℕ) (id : PyStr) : Prop := ∃ k < draws, id = w.taskId k

theorem Safe.task_drawn (hs : Safe w s) {id : PyStr} {t : Task} (ht : s.tasks.get? id = some t) :
    w.TaskDrawn s.draws id := (hs.tasks _ _ ht).drawn

/-- A task found after a write was there before, unless its identifier is new. -/
theorem Write.task {c : Activity} (hs : Safe w s) (h : Write w s c s')
    (hf : w.FreshBelow s'.draws) {id : PyStr} (hk : w.TaskDrawn s.draws id) {t' : Task}
    (ht' : s'.tasks.get? id = some t') :
    s.tasks.get? id = some t' ∨ ∃ t, s.tasks.get? id = some t ∧ t.id = id ∧ t.Edited w s c t' := by
  have hchange := (h.records hs).task id
  rw [ht'] at hchange
  generalize hx : some t' = x at hchange
  cases hchange with
  | same => exact .inl rfl
  | edited ht hid he =>
    cases hx
    exact .inr ⟨_, ht, hid, he⟩
  | added _ _ hid hd =>
    obtain ⟨k, hlt, heq⟩ := hk
    exact absurd (heq.symm.trans hid) (taskId_fresh hf hlt hd)
  | pruned | cleared => cases hx

/-- Writes other than a delivery: a task found afterwards was there before, unless it is new. -/
theorem Writes.task (h : Writes w acts s s') (hs : Safe w s) (hf : w.FreshBelow s'.draws)
    (hd : .dispatch ∉ acts) {id : PyStr} (hk : w.TaskDrawn s.draws id) {t' : Task}
    (ht' : s'.tasks.get? id = some t') : ∃ t, s.tasks.get? id = some t ∧ t.Passed acts t' := by
  induction h generalizing t' with
  | refl => exact ⟨t', ht', .refl t'⟩
  | @tail s₁ s₂ hbefore hstep ih =>
    obtain ⟨c, hc, hw⟩ := hstep
    have hf₁ := hf.mono hw.draws_le
    have hk₁ : w.TaskDrawn s₁.draws id := by
      obtain ⟨k, hlt, heq⟩ := hk
      exact ⟨k, hlt.trans_le (Writes.draws_le hbefore), heq⟩
    rcases hw.task (Writes.safe hbefore hs hf₁) hf hk₁ ht' with ht₁ | ⟨t₁, ht₁, -, he⟩
    · exact ih hf₁ ht₁
    · obtain ⟨t, ht, hpass⟩ := ih hf₁ ht₁
      have hne : c ≠ .dispatch := fun h => hd (h ▸ hc)
      exact ⟨t, ht, hpass.trans ((he.passed hne).mono (by simpa using hc))⟩

/-- A task that an operation creates is queued when the operation ends. -/
theorem Writes.new_task (h : Writes w acts s s') (hs : Safe w s) (hf : w.FreshBelow s'.draws)
    (hacts : .create ∈ acts → acts ⊆ [.prune, .create]) {id : PyStr}
    (hnone : s.tasks.get? id = none) {t' : Task} (ht' : s'.tasks.get? id = some t') :
    .create ∈ acts ∧ t'.status = .queued := by
  induction h generalizing t' with
  | refl => rw [hnone] at ht'; cases ht'
  | @tail s₁ s₂ hbefore hstep ih =>
    obtain ⟨c, hc, hw⟩ := hstep
    have hf₁ := hf.mono hw.draws_le
    have hchange := (hw.records (Writes.safe hbefore hs hf₁)).task id
    rw [ht'] at hchange
    generalize hx : some t' = x at hchange
    cases hchange with
    | same => exact ih hf₁ hx.symm
    | @edited _ t t'' ht hid he =>
      cases hx
      have hcreate := ih hf₁ ht
      have hmem := hacts hcreate.1 hc
      have hcalm : ∀ c ∈ [Activity.prune, .create], c.calm = true := by simp [Activity.calm]
      cases he with
      | ended h => exact absurd (hcalm c hmem) (by simp [h.not_calm])
      | failed h => exact absurd (hcalm c hmem) (by simp [h.not_calm])
      | _ => simp at hmem
    | added =>
      cases hx
      exact ⟨hc, rfl⟩
    | pruned | cleared => cases hx

/-! ### Operations -/

/-- A task over one operation. -/
structure Task.Stepped (t t' : Task) : Prop where
  request_eq : t'.request = t.request
  moves : t'.status = t.status ∨ t.status.Moves t'.status
  frozen : t.status.isTerminal = true → t' = t

theorem Task.Passed.stepped {t t' : Task} (h : t.Passed acts t') : t.Stepped t' :=
  ⟨h.request_eq, h.moves, h.frozen⟩

theorem Op.no_dispatch (op : Op) : .dispatch ∉ op.activities := by
  cases op <;> simp [Op.activities]

theorem Op.create_activities (op : Op) :
    .create ∈ op.activities → op.activities ⊆ [.prune, .create] := by
  cases op <;> simp [Op.activities]

/-- A task found after an operation was there before and moved at most once, unless it is new. -/
theorem Ran.task {op : Op} (h : Ran w s op s') (hs : Safe w s) (hf : w.FreshBelow s'.draws)
    {id : PyStr} (hk : w.TaskDrawn s.draws id) {t' : Task} (ht' : s'.tasks.get? id = some t') :
    ∃ t, s.tasks.get? id = some t ∧ t.Stepped t' := by
  cases h with
  | plain h =>
    obtain ⟨t, ht, hpass⟩ := h.task hs hf op.no_dispatch hk ht'
    exact ⟨t, ht, hpass.stepped⟩
  | @delivered _ _ _ m m' h hd =>
    have hf' : w.FreshBelow m'.draws := hf.mono (Nat.le_succ _)
    have hfm := hf'.mono hd.draws_le
    have hkm : w.TaskDrawn m.draws id := by
      obtain ⟨k, hlt, heq⟩ := hk
      exact ⟨k, hlt.trans_le h.draws_le, heq⟩
    rcases hd.task (h.safe hs hfm) hf' hkm ht' with htm | ⟨tm, htm, -, he⟩
    · obtain ⟨t, ht, hpass⟩ := h.task hs hfm (by simp) hk htm
      exact ⟨t, ht, hpass.stepped⟩
    · obtain ⟨t, ht, hpass⟩ := h.task hs hfm (by simp) hk htm
      cases he with
      | ended h => cases h
      | failed h => cases h
      | dispatched hq _ now time =>
        -- a task that is queued after the expiry pass was queued before it
        have hst := hpass.live (by rw [hq]; rfl)
        rw [hq] at hst
        exact ⟨t, ht, hpass.request_eq, .inr (hst ▸ .dispatch), fun hterm => by
          rw [← hst] at hterm; cases hterm⟩
  | accepted h hr hw =>
    have hall : Writes w [.expiry, .refresh, .result] s s' :=
      ((h.mono (by simp)).write hr (by simp)).trans (hw.mono (by simp))
    obtain ⟨t, ht, hpass⟩ := hall.task hs hf (by simp) hk ht'
    exact ⟨t, ht, hpass.stepped⟩

/-- The writes of an operation other than a delivery. -/
theorem Ran.writes {op : Op} (h : Ran w s op s') : ∃ acts, (.create ∈ acts →
    acts ⊆ [.prune, .create]) ∧ Writes w acts s s' := by
  cases h with
  | plain h => exact ⟨_, op.create_activities, h⟩
  | delivered h hd =>
    refine ⟨[.expiry, .refresh, .poll, .dispatch], by simp, ?_⟩
    exact ((h.mono (by simp)).write hd (by simp)).write (.tick .poll) (by simp)
  | accepted h hr hw =>
    refine ⟨[.expiry, .refresh, .result], by simp, ?_⟩
    exact ((h.mono (by simp)).write hr (by simp)).trans (hw.mono (by simp))

/-! ### Runs -/

theorem Next.ran (h : Next w s s') (hs : Sound w s) :
    ∃ op, Ran w s op s' ∧ w.FreshBelow s'.draws := by
  obtain ⟨op, rfl, hf⟩ := h
  exact ⟨op, (step_ends hs.safe hs.settled op).ran, hf⟩

/-- One operation of a run moves a task at most once. -/
theorem Next.task (h : Next w s s') (hs : Sound w s) {id : PyStr}
    (hk : w.TaskDrawn s.draws id) {t' : Task} (ht' : s'.tasks.get? id = some t') :
    ∃ t, s.tasks.get? id = some t ∧ t.Stepped t' := by
  obtain ⟨op, hran, hf⟩ := h.ran hs
  exact hran.task hs.safe hf hk ht'

theorem Next.draws_le (h : Next w s s') (hs : Sound w s) : s.draws ≤ s'.draws := by
  obtain ⟨op, hran, -⟩ := h.ran hs
  exact hran.draws_le

theorem Later.draws_le (h : Later w s s') (hs : Sound w s) : s.draws ≤ s'.draws := by
  induction h with
  | refl => exact le_rfl
  | tail hbefore hn ih => exact ih.trans (hn.draws_le (Later.sound hbefore hs))

/-- An ended task keeps its record for as long as it is retained. -/
theorem Later.frozen (h : Later w s s') (hs : Sound w s) {id : PyStr} {t t' : Task}
    (ht : s.tasks.get? id = some t) (hterm : t.status.isTerminal = true)
    (ht' : s'.tasks.get? id = some t') : t' = t := by
  induction h generalizing t' with
  | refl => exact Option.some.inj (ht'.symm.trans ht)
  | tail hbefore hn ih =>
    have hs₁ := Later.sound hbefore hs
    obtain ⟨k, hlt, heq⟩ := hs.safe.task_drawn ht
    have hk := hlt.trans_le (Later.draws_le hbefore hs)
    obtain ⟨t₁, ht₁, hstep⟩ := hn.task hs₁ ⟨k, hk, heq⟩ ht'
    obtain rfl := ih ht₁
    exact hstep.frozen hterm

/-- The lifecycle of a task. In any run, between two consecutive states a retained task's status
    stays or makes one legal move; once terminal its record stays as it is for as long as it is
    retained; and in every reachable state the fields a status governs agree with it. -/
theorem task_lifecycle (hr : Reachable w s) :
    (∀ s', Next w s s' → ∀ id t t', s.tasks.get? id = some t → s'.tasks.get? id = some t' →
      t'.status = t.status ∨ t.status.Moves t'.status) ∧
    (∀ s', Later w s s' → ∀ id t t', s.tasks.get? id = some t → s'.tasks.get? id = some t' →
      t.status.isTerminal = true →
        t'.status = t.status ∧ t'.result = t.result ∧ t'.completedAt = t.completedAt) ∧
    ∀ id t, s.tasks.get? id = some t → t.Coupled := by
  have hs := hr.sound
  refine ⟨fun s' hn id t t' ht ht' => ?_, fun s' hl id t t' ht ht' hterm => ?_,
    fun id t ht => (hs.safe.task_wf ht).toCoupled⟩
  · obtain ⟨x, hx, hstep⟩ := hn.task hs (hs.safe.task_drawn ht) ht'
    rw [ht, Option.some.injEq] at hx
    exact hx ▸ hstep.moves
  · rw [hl.frozen hs ht hterm ht']
    exact ⟨rfl, rfl, rfl⟩

/-- The lifecycle at a state with one dispatched task. -/
theorem task_lifecycle_dispatched :
    let s := exec .counting (.init "stream") [Counting.enroll, Counting.queue .ping (.obj []),
      Counting.poll 11]
    s.tasks.values.map (·.status) = [.dispatched] ∧
      ∀ s', Next .counting s s' → ∀ id t t', s.tasks.get? id = some t →
        s'.tasks.get? id = some t' → t'.status = t.status ∨ t.status.Moves t'.status := by
  refine ⟨by decide +kernel, ?_⟩
  exact (task_lifecycle (World.counting_reachable "stream" _ (by decide +kernel))).1

end C2Lab
