import C2Lab.Core.Kept

/-! What the expiry pass leaves, and what a poll answers.

    A loop over the tasks establishes a property of every task if its body establishes it of one and
    everything else it may do ends tasks. So after the pass no live task is past its deadline; what
    a poll then hands out is determined by the task table alone. -/

namespace C2Lab

variable {w : World} {s s' s₀ s₁ : LabState}

/-! ### The expiry pass -/

/-- The parts of the program at work in the expiry pass. -/
def Activity.expiring : List Activity := [.expiry, .refresh]

/-- One write of the pass leaves a task alone or ends it. -/
theorem Write.unended (hs : Safe w s) {c : Activity} (h : Write w s c s')
    (hc : c ∈ Activity.expiring) {id : PyStr} {t' : Task} (ht' : s'.tasks.get? id = some t') :
    ∃ t, s.tasks.get? id = some t ∧ (t' = t ∨ t'.status.isTerminal = true) := by
  have hchange := (h.records hs).task id
  rw [ht'] at hchange
  generalize hx : some t' = x at hchange
  cases hchange with
  | same => exact ⟨t', hx.symm, .inl rfl⟩
  | @edited _ t t'' ht hid he =>
    cases hx
    refine ⟨t, ht, .inr ?_⟩
    cases he with
    | ended h => exact h.live.2.1
    | failed h => exact h.live.2.1
    | _ => simp [Activity.expiring] at hc
  | added => simp [Activity.expiring] at hc
  | pruned | cleared => cases hx

/-- What every write of the pass keeps, the pass keeps. -/
theorem Came.keeps {P : LabState → Prop} (h : Came w Activity.expiring s s') (hs : Safe w s)
    (hP : P s) (hstep : ∀ {s₁ s₂ : LabState} {c : Activity}, c ∈ Activity.expiring → Safe w s₁ →
      Write w s₁ c s₂ → P s₁ → P s₂) : P s' := by
  suffices hall : Safe w s' ∧ P s' from hall.2
  obtain ⟨hwrites, -⟩ := h
  induction hwrites with
  | refl => exact ⟨hs, hP⟩
  | tail _ hlast ih =>
    obtain ⟨c, hc, hw⟩ := hlast
    obtain ⟨hs₁, hP₁⟩ := ih
    have hcreate : c.creates = false := by
      simp only [Activity.expiring, List.mem_cons, List.not_mem_nil, or_false] at hc
      rcases hc with rfl | rfl <;> rfl
    exact ⟨hw.safe hs₁ fun h => (by rw [hcreate] at h; cases h), hstep hc hs₁ hw hP₁⟩

/-- The whole pass leaves a task alone or ends it. -/
theorem Came.unended (h : Came w Activity.expiring s s') (hs : Safe w s) {id : PyStr} {t' : Task}
    (ht' : s'.tasks.get? id = some t') :
    ∃ t, s.tasks.get? id = some t ∧ (t' = t ∨ t'.status.isTerminal = true) := by
  refine h.keeps (P := fun m => ∀ t', m.tasks.get? id = some t' →
    ∃ t, s.tasks.get? id = some t ∧ (t' = t ∨ t'.status.isTerminal = true)) hs
    (fun t' ht' => ⟨t', ht', .inl rfl⟩) (fun hc hs₁ hw hold t' ht' => ?_) t' ht'
  obtain ⟨t₁, ht₁, hsame | hterm⟩ := hw.unended hs₁ hc ht'
  · subst hsame; exact hold t' ht₁
  · obtain ⟨t, ht, -⟩ := hold t₁ ht₁
    exact ⟨t, ht, .inr hterm⟩

/-- A sweep over the tasks establishes of each what its body does, if ended tasks have it. -/
theorem sweep_wp {f : PyStr → Lab Unit} {P : Task → Prop}
    (hP : ∀ t : Task, t.status.isTerminal = true → P t)
    (hf : ∀ k s, Safe w s → Prog.wp (f k) (fun _ s' => Came w Activity.expiring s s' ∧
      ∀ t, s'.tasks.get? k = some t → P t) (fun _ _ => False) s) (hs : Safe w s) :
    Prog.wp (forM s.tasks.keys f) (fun _ s' => Came w Activity.expiring s s' ∧
      ∀ k t, s'.tasks.get? k = some t → P t) (fun _ _ => False) s := by
  refine Prog.wp_imp (Q := fun _ s' => Came w Activity.expiring s s' ∧
    ∀ k ∈ s.tasks.keys, ∀ t, s'.tasks.get? k = some t → P t) ?_ ?_
  · refine Prog.wp_forM_prefix (I := fun done s' => Came w Activity.expiring s s' ∧
      ∀ k ∈ done, ∀ t, s'.tasks.get? k = some t → P t) ?_ ⟨.refl hs, by simp⟩
    rintro done k rest - s₁ ⟨hcame, hdone⟩
    refine Prog.wp_imp (hf k s₁ hcame.safe) ?_
    rintro _ s₂ ⟨hcame', hk⟩
    refine ⟨hcame.trans hcame', fun x hx t ht => ?_⟩
    rcases List.mem_append.mp hx with hx | hx
    · obtain ⟨t₁, ht₁, rfl | hterm⟩ := hcame'.unended hcame.safe ht
      · exact hdone x hx t ht₁
      · exact hP t hterm
    · rw [List.mem_singleton.mp hx] at ht
      exact hk t ht
  · rintro _ s₁ ⟨hcame, hall⟩
    refine ⟨hcame, fun k t ht => hall k ?_ t ht⟩
    obtain ⟨t₀, ht₀, -⟩ := hcame.unended hs ht
    exact Dict.mem_keys_of_get? ht₀

/-- A queued task that has not expired at `now`. -/
def Task.Waiting (now : Instant) (t : Task) : Prop :=
  t.status = .queued → ∀ d, t.queueDeadline = some d → now < d

/-- A dispatched task whose deadline has not passed at `now`. -/
def Task.InTime (now : Instant) (t : Task) : Prop :=
  t.status = .dispatched → ∃ d, t.deadline = some d ∧ now < d

theorem expireQueued_waiting (now : Instant) (x : PyStr) (hs : Safe w s) :
    Prog.wp (expireQueued w now x) (fun _ s' => Came w Activity.expiring s s' ∧
      ∀ t, s'.tasks.get? x = some t → t.Waiting now) (fun _ _ => False) s := by
  unfold expireQueued
  simp only [Prog.wp_modify]
  cases ht : s.tasks.get? x with
  | none => exact ⟨.refl hs, fun t ht' => by rw [ht] at ht'; cases ht'⟩
  | some t =>
    have hkey := hs.task_key ht
    have hsame : ∀ {t'}, s.tasks.get? x = some t' → t' = t := fun ht' =>
      Option.some.inj (ht'.symm.trans ht)
    cases hd : t.queueDeadline with
    | none =>
      simp only [hd]
      refine ⟨.refl hs, fun t' ht' _ d hd' => ?_⟩
      rw [hsame ht', hd] at hd'
      cases hd'
    | some d =>
      simp only [hd]
      by_cases hskip : t.status ≠ .queued ∨ now < d
      · rw [if_pos hskip]
        refine ⟨.refl hs, fun t' ht' hq d' hd' => ?_⟩
        rw [hsame ht'] at hq hd'
        rw [hd, Option.some.injEq] at hd'
        exact hd' ▸ hskip.resolve_left fun h => h hq
      · rw [if_neg hskip]
        push Not at hskip
        refine ⟨(Came.refl hs).write (.expireTask (hkey ▸ ht) hskip.1) (by simp [Activity.expiring])
          rfl, fun t' ht' hq => ?_⟩
        simp only [LabState.expireTask, LabState.toRecords_auditLocked,
          LabState.toRecords_recordLocked, LabState.toRecords_setTask, hkey,
          Dict.get?_set_self, Option.some.injEq] at ht'
        rw [← ht'] at hq
        cases hq

theorem expireDispatched_inTime (now : Instant) (x : PyStr) (hs : Safe w s) :
    Prog.wp (expireDispatched w now x) (fun _ s' => Came w Activity.expiring s s' ∧
      ∀ t, s'.tasks.get? x = some t → t.InTime now) (fun _ _ => False) s := by
  unfold expireDispatched
  simp only [Prog.wp_bind, Prog.wp_get]
  cases ht : s.tasks.get? x with
  | none => exact ⟨.refl hs, fun t ht' => by rw [ht] at ht'; cases ht'⟩
  | some t =>
    have hkey := hs.task_key ht
    have hsame : ∀ {t'}, s.tasks.get? x = some t' → t' = t := fun ht' =>
      Option.some.inj (ht'.symm.trans ht)
    simp only
    by_cases hd : t.status = .dispatched
    swap
    · rw [if_pos hd]
      exact ⟨.refl hs, fun t' ht' hd' => absurd (hsame ht' ▸ hd') hd⟩
    rw [if_neg (by simpa using hd)]
    obtain ⟨d, hdl⟩ := Option.isSome_iff_exists.mp ((hs.task_wf ht).dispatched hd).1
    rw [hdl]
    simp only
    by_cases hnow : now < d
    · rw [if_pos hnow]
      exact ⟨.refl hs, fun t' ht' _ => ⟨d, hsame ht' ▸ hdl, hnow⟩⟩
    · rw [if_neg hnow, Prog.wp_modify]
      refine ⟨(Came.refl hs).write (.timeoutTask (hkey ▸ ht) hd) (by simp [Activity.expiring]) rfl,
        fun t' ht' hd' => ?_⟩
      simp only [LabState.timeoutTask, LabState.toRecords_auditLocked,
        LabState.toRecords_recordLocked, LabState.nodes_countFailure, LabState.toRecords_setTask,
        hkey, Dict.get?_set_self, Option.some.injEq] at ht'
      rw [← ht'] at hd'
      cases hd'

/-- No live task is past its deadline at `now`. -/
structure LabState.Punctual (now : Instant) (s : LabState) : Prop where
  waiting : ∀ id t, s.tasks.get? id = some t → t.Waiting now
  inTime : ∀ id t, s.tasks.get? id = some t → t.InTime now

/-- After the expiry pass. -/
theorem expireLocked_punctual (now : Instant) (hs : Safe w s) :
    Prog.wp (expireLocked w now) (fun _ s' => Came w Activity.expiring s s' ∧ s'.Settled ∧
      s'.Punctual now) (fun _ _ => False) s := by
  unfold expireLocked
  simp only [Prog.wp_bind, Prog.wp_get]
  refine Prog.wp_imp (sweep_wp (fun t h hq => by rw [hq] at h; cases h)
    (fun k s hs => expireQueued_waiting now k hs) hs) ?_
  rintro _ s₁ ⟨h₁, hwaiting⟩
  simp only [Prog.wp_bind, Prog.wp_get]
  refine Prog.wp_imp (sweep_wp (fun t h hd => by rw [hd] at h; cases h)
    (fun k s hs => expireDispatched_inTime now k hs) h₁.safe) ?_
  rintro _ s₂ ⟨h₂, hintime⟩
  simp only [Prog.wp_bind, Prog.wp_get]
  refine Prog.wp_imp (Prog.wp_forM (I := Came w Activity.expiring s₂)
    (fun x _ t ht => expireNode_wp (by simp [Activity.expiring]) (by simp [Activity.expiring])
      now x ht) (.refl h₂.safe)) fun _ s₃ h₃ => ?_
  refine Prog.wp_imp (refreshExercisesLocked_wp h₃ (by simp [Activity.expiring])) ?_
  rintro _ s₄ ⟨h₄, href⟩
  refine ⟨(h₁.trans h₂).trans h₄, href.settled, fun id t ht => ?_, fun id t ht => ?_⟩
  · obtain ⟨t₂, ht₂, rfl | hterm⟩ := (h₂.trans h₄).unended h₁.safe ht
    · exact hwaiting id t ht₂
    · exact fun hq => by rw [hq] at hterm; cases hterm
  · obtain ⟨t₂, ht₂, rfl | hterm⟩ := h₄.unended h₂.safe ht
    · exact hintime id t ht₂
    · exact fun hd => by rw [hd] at hterm; cases hterm

/-- A pass that was seen to end. -/
theorem expire_punctual (hs : Safe w s) {now : Instant} {m : LabState}
    (h : expire w now s = .ok ⟨⟩ m) :
    Came w Activity.expiring s m ∧ m.Settled ∧ m.Punctual now := by
  have hwp : Prog.wp (expire w now) _ _ s := expireLocked_punctual now hs
  rwa [Prog.wp_run h] at hwp

theorem expire_safe (hs : Safe w s) {now : Instant} {m : LabState}
    (h : expire w now s = .ok ⟨⟩ m) : Safe w m := (expire_punctual hs h).1.safe

/-- A submission by a Node with a session goes on from the state its expiry pass left. -/
theorem submitResult_session (hs : Safe w s) {nodeId token : Json} {now : Instant} {m : LabState}
    (hexp : expire w now s = .ok ⟨⟩ m) {n : Node} (hsess : m.Session nodeId token n)
    (taskId status result : Json) : submitResult w nodeId token taskId status result now s =
      submitSession w n taskId status result now m := by
  simp only [submitResult, bind, EStateM.bind]
  rw [show expireLocked w now s = _ from hexp]
  simp only [requireNodeSession_run (expire_safe hs hexp) hsess]

/-! ### The answer of a poll -/

/-- A task handed out once more. -/
def Task.redelivered (t : Task) : Task := { t with deliveryAttempts := t.deliveryAttempts + 1 }

/-- A task handed out for the first time. -/
def Task.delivered (t : Task) (now : Instant) (time : Timestamp) : Task :=
  { t with
    status := .dispatched, dispatchedAt := some time, deadline := some (now + taskTimeoutSeconds)
    queueDeadline := none, deliveryAttempts := 1 }

/-- What a poll of node `n` at `now` hands out, and how that changes the task table. -/
inductive LabState.Answers (n : Node) (now : Instant) (s : LabState) :
    Option NodeTask → LabState → Prop
  | paused {s' : LabState} (hp : n.taskingPaused = true) (htasks : s'.tasks = s.tasks) :
      Answers n now s none s'
  | again {s' : LabState} {t : Task} (hp : n.taskingPaused = false)
      (hact : s.activeTask n.id = some t) (ht : s.tasks.get? t.id = some t)
      (htasks : s'.tasks = s.tasks.set t.id t.redelivered) :
      Answers n now s (some t.redelivered.nodeTask) s'
  | first {s' : LabState} {t : Task} (hp : n.taskingPaused = false)
      (hact : s.activeTask n.id = none) (hnext : s.nextTask n.id = some t)
      (ht : s.tasks.get? t.id = some t) (time : Timestamp)
      (htasks : s'.tasks = s.tasks.set t.id (t.delivered now time)) :
      Answers n now s (some (t.delivered now time).nodeTask) s'
  | nothing {s' : LabState} (hp : n.taskingPaused = false) (hact : s.activeTask n.id = none)
      (hnext : s.nextTask n.id = none) (htasks : s'.tasks = s.tasks) : Answers n now s none s'

theorem LabState.tasks_wakeNode (n : Node) (now : Instant) (s : LabState) :
    (s.wakeNode w n now).tasks = s.tasks := by
  unfold wakeNode
  split <;> simp

theorem LabState.tasks_heartbeatNode (n : Node) (now : Instant) (s : LabState) :
    (s.heartbeatNode w n now).tasks = s.tasks := by
  unfold heartbeatNode
  split <;> simp

/-- The task a node works on is recorded under its identifier. -/
theorem Safe.activeTask_recorded (hs : Safe w s) {nodeId : PyStr} {t : Task}
    (h : s.activeTask nodeId = some t) :
    s.tasks.get? t.id = some t ∧ t.nodeId = nodeId ∧ t.status = .dispatched := by
  have hprop := List.find?_some h
  simp only [decide_eq_true_eq] at hprop
  obtain ⟨id, hid⟩ := Dict.mem_values.mp (List.mem_of_find?_eq_some h)
  exact ⟨hs.task_key hid ▸ hid, hprop⟩

theorem Safe.nextTask_recorded (hs : Safe w s) {nodeId : PyStr} {t : Task}
    (h : s.nextTask nodeId = some t) :
    s.tasks.get? t.id = some t ∧ t.nodeId = nodeId ∧ t.status = .queued := by
  have hmem := firstMin_mem h
  rw [List.mem_filter] at hmem
  obtain ⟨id, hid⟩ := Dict.mem_values.mp hmem.1
  exact ⟨hs.task_key hid ▸ hid, by simpa using hmem.2⟩

/-- The choice of a poll that is not paused. -/
theorem deliverTask_answers (hs : Safe w s) {n : Node} (hp : n.taskingPaused = false)
    (now : Instant) : Prog.wp (deliverTask w n.id now)
      (fun task s' => s.Answers n now task s' ∧ s'.nodes = s.nodes) (fun _ _ => False) s := by
  unfold deliverTask
  simp only [Prog.wp_bind, Prog.wp_get]
  cases hact : s.activeTask n.id with
  | some t =>
    obtain ⟨ht, -⟩ := hs.activeTask_recorded hact
    have htasks : (s.redeliverTask w t).tasks = s.tasks.set t.id t.redelivered := by
      simp [LabState.redeliverTask, Task.redelivered]
    simp only [Prog.wp_bind, Prog.wp_modify, Prog.wp_get, Prog.wp_pure, htasks,
      Dict.get?_set_self, Option.map_some]
    exact ⟨.again hp hact ht htasks, by simp [LabState.redeliverTask]⟩
  | none =>
    cases hnext : s.nextTask n.id with
    | none => exact ⟨.nothing hp hact hnext rfl, rfl⟩
    | some t =>
      obtain ⟨ht, -⟩ := hs.nextTask_recorded hnext
      have htasks : (s.dispatchTask w t now).tasks =
          s.tasks.set t.id (t.delivered now (w.utcNow s.draws)) := by
        simp [LabState.dispatchTask, Task.delivered]
      simp only [Prog.wp_bind, Prog.wp_modify, Prog.wp_get, Prog.wp_pure, htasks,
        Dict.get?_set_self, Option.map_some]
      exact ⟨.first hp hact hnext ht _ htasks, by simp [LabState.dispatchTask]⟩

/-- What a poll answers depends on the task table alone. -/
theorem LabState.Answers.congr {n : Node} {now : Instant} {task : Option NodeTask}
    (h : s₁.Answers n now task s') (htasks : s₁.tasks = s.tasks) : s.Answers n now task s' := by
  have hactive : s₁.activeTask n.id = s.activeTask n.id := by
    rw [LabState.activeTask, htasks]; rfl
  have hnext : s₁.nextTask n.id = s.nextTask n.id := by rw [LabState.nextTask, htasks]; rfl
  cases h with
  | paused hp ht => exact .paused hp (ht.trans htasks)
  | again hp ha hr ht => exact .again hp (hactive ▸ ha) (htasks ▸ hr) (by rw [ht, htasks])
  | first hp ha hn hr time ht =>
    exact .first hp (hactive ▸ ha) (hnext ▸ hn) (htasks ▸ hr) time (by rw [ht, htasks])
  | nothing hp ha hn ht => exact .nothing hp (hactive ▸ ha) (hnext ▸ hn) (ht.trans htasks)

theorem pollSession_answers (hs : Safe w s) {n : Node} (hn : s.nodes.get? n.id = some n)
    (now : Instant) : Prog.wp (pollSession w n now) (fun r s' => s.Answers n now r.task s')
      (fun _ _ => False) s := by
  obtain ⟨m, m', hm, -, hbeat, hm', -⟩ := LabState.poll_heard (w := w) hs hn now
  have htasks : ((s.wakeNode w n now).heartbeatNode w m now).tasks = s.tasks := by
    rw [LabState.tasks_heartbeatNode, LabState.tasks_wakeNode]
  have hreply : ∀ (task : Option NodeTask) (s₁ : LabState), s₁.nodes.get? n.id = some m' →
      s.Answers n now task s₁.tick → Prog.wp (pollReply w n.id task)
        (fun r s' => s.Answers n now r.task s') (fun _ _ => False) s₁ := by
    intro task s₁ hm₁ hans
    unfold pollReply
    simp only [Prog.wp_bind, Prog.wp_get, hm₁, Prog.wp_modify, Prog.wp_pure]
    exact hans
  unfold pollSession
  simp only [Prog.wp_bind, Prog.wp_modify, hm]
  generalize (s.wakeNode w n now).heartbeatNode w m now = s₁ at hbeat hm' htasks
  by_cases hp : n.taskingPaused = true
  · rw [if_pos hp]
    exact hreply none s₁ hm' (.paused hp htasks)
  · rw [if_neg hp, Prog.wp_bind]
    refine Prog.wp_imp (deliverTask_answers hbeat.safe (by simpa using hp) now) ?_
    rintro task s₂ ⟨hans, hnodes⟩
    refine hreply task s₂ (hnodes ▸ hm') ?_
    have hans : s.Answers n now task s₂ := hans.congr htasks
    cases hans with
    | paused hp ht => exact .paused hp ht
    | again hp ha hr ht => exact .again hp ha hr ht
    | first hp ha hn hr time ht => exact .first hp ha hn hr time ht
    | nothing hp ha hn ht => exact .nothing hp ha hn ht

/-- A poll that was answered: the expiry pass, the session it named, and the answer. -/
structure PollAnswered (w : World) (s : LabState) (nodeId token : Json) (now : Instant)
    (reply : PollResponse) (s' m : LabState) (n : Node) : Prop where
  expired : expire w now s = .ok ⟨⟩ m
  came : Came w Activity.expiring s m
  settled : m.Settled
  punctual : m.Punctual now
  session : m.Session nodeId token n
  answers : m.Answers n now reply.task s'

theorem pollNode_answers (hs : Safe w s) {nodeId token : Json} {now : Instant}
    {reply : PollResponse} (hok : pollNode w nodeId token now s = .ok reply s') :
    ∃ m n, PollAnswered w s nodeId token now reply s' m n := by
  obtain ⟨_, m, hexp, hcame, hset, hpunctual⟩ := Prog.exists_ok (expireLocked_punctual now hs)
  have hrun : Prog.wp (pollNode w nodeId token now)
      (fun r s' => ∃ n, m.Session nodeId token n ∧ m.Answers n now r.task s') (fun _ _ => True)
      s := by
    unfold pollNode
    rw [Prog.wp_bind, Prog.wp_run hexp, Prog.wp_bind]
    refine Prog.wp_mono (requireNodeSession_wp hcame.safe nodeId token) ?_ fun _ _ _ => trivial
    rintro n _ ⟨rfl, hsess⟩
    exact Prog.wp_mono (pollSession_answers hcame.safe hsess.recorded now)
      (fun _ _ h => ⟨n, hsess, h⟩) fun _ _ h => h.elim
  rw [Prog.wp_run hok] at hrun
  obtain ⟨n, hsess, hans⟩ := hrun
  exact ⟨m, n, hexp, hcame, hset, hpunctual, hsess, hans⟩

end C2Lab
