import C2Lab.Core.PollRun

/-! The expiry pass always ends, leaves nothing to expire, and then has nothing to do.

    Its writes never make a node look younger and never touch the key set of a table, so what one
    step of a sweep establishes the later ones keep, and iterating over the dictionaries themselves
    is safe. Once nothing is due, every step of a second pass finds its guard false. -/

namespace C2Lab

variable {w : World} {s s' s₀ : LabState}

/-! ### What the pass does to a node -/

/-- A node record that is as it was, offline, or closed. -/
structure Node.Fading (n n' : Node) : Prop where
  seen_eq : n'.lastSeenMonotonic = n.lastSeenMonotonic
  interval_eq : n'.pollIntervalMs = n.pollIntervalMs
  online : n'.status = .online → n.status = .online
  active : n'.sessionActive = true → n.sessionActive = true

namespace Node.Fading

variable {n n' n'' : Node}

theorem refl (n : Node) : n.Fading n := ⟨rfl, rfl, fun h => h, fun h => h⟩

theorem trans (h : n.Fading n') (h' : n'.Fading n'') : n.Fading n'' :=
  ⟨h'.seen_eq.trans h.seen_eq, h'.interval_eq.trans h.interval_eq,
    fun ho => h.online (h'.online ho), fun ha => h.active (h'.active ha)⟩

end Node.Fading

/-- The state after writes of the pass: the same keys, and every node as it was or faded. -/
structure Faded (s s' : LabState) : Prop where
  nodes_keys : s'.nodes.keys = s.nodes.keys
  tasks_keys : s'.tasks.keys = s.tasks.keys
  exercises_keys : s'.exercises.keys = s.exercises.keys
  nodes : ∀ id n', s'.nodes.get? id = some n' → ∃ n, s.nodes.get? id = some n ∧ n.Fading n'

namespace Faded

theorem refl (s : LabState) : Faded s s := ⟨rfl, rfl, rfl, fun _ n hn => ⟨n, hn, .refl n⟩⟩

theorem trans {s₁ : LabState} (h : Faded s s₁) (h' : Faded s₁ s') : Faded s s' where
  nodes_keys := h'.nodes_keys.trans h.nodes_keys
  tasks_keys := h'.tasks_keys.trans h.tasks_keys
  exercises_keys := h'.exercises_keys.trans h.exercises_keys
  nodes id n' hn' := by
    obtain ⟨n₁, hn₁, hfade₁⟩ := h'.nodes id n' hn'
    obtain ⟨n, hn, hfade⟩ := h.nodes id n₁ hn₁
    exact ⟨n, hn, hfade.trans hfade₁⟩

/-- A write of one node record. -/
theorem node {n n' : Node} (hn : s.nodes.get? n.id = some n) (hfade : n.Fading n')
    (hnodes : s'.nodes = s.nodes.set n.id n') (ht : s'.tasks.keys = s.tasks.keys)
    (he : s'.exercises = s.exercises) : Faded s s' where
  nodes_keys := by rw [hnodes, Dict.keys_set_of_mem _ (Dict.mem_keys_of_get? hn)]
  tasks_keys := ht
  exercises_keys := by rw [he]
  nodes id m hm := by
    rw [hnodes, Dict.get?_set] at hm
    split at hm
    · rename_i hid
      cases hm
      exact ⟨n, hid ▸ hn, hfade⟩
    · exact ⟨m, hm, .refl m⟩

/-- A write that leaves the nodes alone. -/
theorem of_nodes (hnodes : s'.nodes = s.nodes) (ht : s'.tasks.keys = s.tasks.keys)
    (he : s'.exercises.keys = s.exercises.keys) : Faded s s' :=
  ⟨by rw [hnodes], ht, he, fun _ n hn => ⟨n, hnodes ▸ hn, .refl n⟩⟩

end Faded

theorem Write.faded {c : Activity} (hs : Safe w s) (h : Write w s c s')
    (hc : c ∈ Activity.expiring) : Faded s s' := by
  have hkeys : ∀ {t t' : Task}, s.tasks.get? t.id = some t →
      (s.tasks.set t.id t').keys = s.tasks.keys := fun ht =>
    Dict.keys_set_of_mem _ (Dict.mem_keys_of_get? ht)
  have hexercise : ∀ {e e' : Exercise}, s.exercises.get? e.id = some e → e'.id = e.id →
      s.Edits w e' s' → Faded s s' := by
    intro e e' he hid hedit
    refine .of_nodes (by rw [hedit.records]) (by rw [hedit.records]) ?_
    rw [hedit.records]
    exact Dict.keys_set_of_mem _ (Dict.mem_keys_of_get? (hid ▸ he))
  cases h with
  | tick => exact .of_nodes rfl rfl rfl
  | expireTask ht =>
    exact .of_nodes (by simp [LabState.expireTask])
      (by simpa [LabState.expireTask] using hkeys ht) (by simp [LabState.expireTask])
  | @timeoutTask t ht =>
    cases hn : s.nodes.get? t.nodeId with
    | none =>
      exact .of_nodes (by simp [LabState.timeoutTask, LabState.countFailure, hn])
        (by simpa [LabState.timeoutTask, LabState.countFailure, hn] using hkeys ht)
        (by simp [LabState.timeoutTask, LabState.countFailure, hn])
    | some n =>
      have hn' : s.nodes.get? n.id = some n := by rw [hs.node_key hn]; exact hn
      have hcharge : n.Fading { n with tasksFailed := n.tasksFailed + 1 } :=
        ⟨rfl, rfl, fun h => h, fun h => h⟩
      exact .node hn' hcharge (by simp [LabState.timeoutTask, LabState.countFailure, hn])
        (by simpa [LabState.timeoutTask, LabState.countFailure, hn] using hkeys ht)
        (by simp [LabState.timeoutTask, LabState.countFailure, hn])
  | @failTask _ n t _ hn ht =>
    have hcharge : n.Fading { n with tasksFailed := n.tasksFailed + 1 } :=
      ⟨rfl, rfl, fun h => h, fun h => h⟩
    exact .node hn hcharge (by simp [LabState.failTask])
      (by simpa [LabState.failTask] using hkeys ht) (by simp [LabState.failTask])
  | @staleNode n hn ho =>
    have hoff : n.Fading { n with status := .offline } :=
      ⟨rfl, rfl, fun h => (by cases h), fun h => h⟩
    exact .node hn hoff (by simp [LabState.staleNode]) (by simp [LabState.staleNode])
      (by simp [LabState.staleNode])
  | @closeSession n hn =>
    have hclosed : n.Fading
        { n with sessionActive := false, sessionToken := .text (w.token s.draws) } :=
      ⟨rfl, rfl, fun h => h, fun h => (by cases h)⟩
    exact .node hn hclosed (by simp [LabState.closeSession]) (by simp [LabState.closeSession])
      (by simp [LabState.closeSession])
  | observeEnded he hm hu ht hterm hp =>
    obtain ⟨e', hedit, hobs⟩ := LabState.observeEnded_edits hs he hm hu ht hp
    exact hexercise he hobs.id_eq hedit
  | @completeExercise e he hst hrec =>
    obtain ⟨e', hedit, hfin⟩ := LabState.completeExercise_edits hs he hrec (s.finalStatus e)
    exact hexercise he hfin.id_eq hedit
  | _ => simp [Activity.expiring] at hc

theorem Came.faded (h : Came w Activity.expiring s s') (hs : Safe w s) : Faded s s' :=
  h.keeps (P := Faded s) hs (.refl s) fun hc hs₁ hw hold => hold.trans (hw.faded hs₁ hc)

/-! ### The sweep over the nodes -/

/-- A node neither stale while online nor silent beyond the session's grace at `now`. -/
structure Node.Heard (now : Instant) (n : Node) : Prop where
  fresh : n.status = .online → now - n.lastSeenMonotonic < LabState.staleAfter n
  grace : n.sessionActive = true →
    now - n.lastSeenMonotonic < LabState.staleAfter n + staleSessionTtlSeconds

theorem Node.Fading.staleAfter_eq {n n' : Node} (h : n.Fading n') :
    LabState.staleAfter n' = LabState.staleAfter n := by
  rw [LabState.staleAfter, LabState.staleAfter, h.interval_eq]

theorem Node.Heard.fading {now : Instant} {n n' : Node} (h : n.Heard now) (hf : n.Fading n') :
    n'.Heard now where
  fresh ho := by rw [hf.seen_eq, hf.staleAfter_eq]; exact h.fresh (hf.online ho)
  grace ha := by rw [hf.seen_eq, hf.staleAfter_eq]; exact h.grace (hf.active ha)

/-- The node of one identifier, if retained, was heard. -/
def LabState.HeardAt (now : Instant) (id : PyStr) (s : LabState) : Prop :=
  ∀ n, s.nodes.get? id = some n → n.Heard now

theorem LabState.HeardAt.faded {now : Instant} {id : PyStr} (h : s.HeardAt now id)
    (hf : Faded s s') : s'.HeardAt now id := by
  intro n' hn'
  obtain ⟨n, hn, hfade⟩ := hf.nodes id n' hn'
  exact (h n hn).fading hfade

/-- The staleness check leaves no stale online node. -/
theorem expireOnline_wp (now : Instant) (x : PyStr) (hs : Safe w s) :
    Prog.wp (expireOnline w now x) (fun _ s' => Came w Activity.expiring s s' ∧
      ∀ n, s'.nodes.get? x = some n → n.status = .online →
        now - n.lastSeenMonotonic < LabState.staleAfter n) (fun _ _ => False) s := by
  unfold expireOnline
  simp only [Prog.wp_modify]
  cases hn : s.nodes.get? x with
  | none => exact ⟨.refl hs, fun n hn' => by rw [hn] at hn'; cases hn'⟩
  | some n =>
    have hkey := hs.node_key hn
    simp only
    by_cases hstale : n.status = .online ∧ LabState.staleAfter n ≤ now - n.lastSeenMonotonic
    · rw [if_pos hstale]
      refine ⟨(Came.refl hs).write (.staleNode (hkey ▸ hn) hstale.1) (by simp [Activity.expiring])
        rfl, fun n' hn' ho => ?_⟩
      simp only [LabState.staleNode, LabState.toRecords_auditLocked,
        LabState.toRecords_recordLocked, LabState.toRecords_setNode, hkey, Dict.get?_set_self,
        Option.some.injEq] at hn'
      rw [← hn'] at ho
      cases ho
    · rw [if_neg hstale]
      refine ⟨.refl hs, fun n' hn' ho => ?_⟩
      rw [hn, Option.some.injEq] at hn'
      subst hn'
      exact not_le.mp fun hle => hstale ⟨ho, hle⟩

/-- The session check leaves no open session that was silent beyond its grace. -/
theorem expireSession_wp (now : Instant) (x : PyStr) (hs : Safe w s)
    (hfresh : ∀ n, s.nodes.get? x = some n → n.status = .online →
      now - n.lastSeenMonotonic < LabState.staleAfter n) :
    Prog.wp (expireSession w now x) (fun _ s' => Came w Activity.expiring s s' ∧
      s'.HeardAt now x) (fun _ _ => False) s := by
  unfold expireSession
  simp only [Prog.wp_bind, Prog.wp_get]
  cases hn : s.nodes.get? x with
  | none => exact ⟨.refl hs, fun n hn' => by rw [hn] at hn'; cases hn'⟩
  | some n =>
    simp only
    by_cases hold : n.status = .offline ∧ n.sessionActive = true ∧
        staleSessionTtlSeconds ≤ now - n.lastSeenMonotonic - LabState.staleAfter n
    swap
    · rw [if_neg hold]
      refine ⟨.refl hs, fun n' hn' => ⟨hfresh n' hn', fun ha => ?_⟩⟩
      have hfresh' := hfresh n' hn'
      rw [hn, Option.some.injEq] at hn'
      subst hn'
      cases ho : n.status with
      | online =>
        have := hfresh' ho
        exact this.trans (lt_add_of_pos_right _ (by norm_num [staleSessionTtlSeconds]))
      | offline =>
        have : now - n.lastSeenMonotonic - LabState.staleAfter n < staleSessionTtlSeconds :=
          not_le.mp fun hle => hold ⟨ho, ha, hle⟩
        exact sub_lt_iff_lt_add'.mp this
    rw [if_pos hold, Prog.wp_bind]
    refine Prog.wp_imp (failUnfinishedTasks_wp (.inl rfl) (by simp [Activity.expiring])
      (by simp [Activity.expiring]) hn (Came.refl hs : Came w Activity.expiring s s) _ _) ?_
    rintro _ s₁ ⟨hcame, ⟨m, hm, hst, hact⟩, hlive, -⟩
    simp only [Prog.wp_modify, hm]
    have hkey := hcame.safe.node_key hm
    have hst : m.status = .offline := hst.trans hold.1
    refine ⟨hcame.write (.closeSession (hkey ▸ hm) hst (hact.trans hold.2.1)
      (hkey ▸ hlive)) (by simp [Activity.expiring]) rfl, fun n' hn' => ?_⟩
    simp only [LabState.closeSession, LabState.toRecords_auditLocked,
      LabState.toRecords_recordLocked, LabState.toRecords_setNode, LabState.toRecords_tick, hkey,
      Dict.get?_set_self, Option.some.injEq] at hn'
    subst hn'
    exact ⟨fun ho => (by rw [hst] at ho; cases ho), fun ha => (by cases ha)⟩

theorem expireNode_heard (now : Instant) (x : PyStr) (hs : Safe w s) :
    Prog.wp (expireNode w now x) (fun _ s' => Came w Activity.expiring s s' ∧ s'.HeardAt now x)
      (fun _ _ => False) s := by
  unfold expireNode
  rw [Prog.wp_bind]
  refine Prog.wp_imp (expireOnline_wp now x hs) ?_
  rintro _ s₁ ⟨hcame, hfresh⟩
  refine Prog.wp_imp (expireSession_wp now x hcame.safe hfresh) ?_
  rintro _ s₂ ⟨hcame', hheard⟩
  exact ⟨hcame.trans hcame', hheard⟩

/-! ### What the pass leaves -/

/-- No sweep of the pass has anything to do at `now`. -/
structure LabState.Swept (w : World) (now : Instant) (s : LabState) : Prop where
  safe : Safe w s
  settled : s.Settled
  punctual : s.Punctual now
  heard : ∀ id, s.HeardAt now id

theorem expireLocked_heard (now : Instant) (hs : Safe w s) :
    Prog.wp (expireLocked w now) (fun _ s' => ∀ id, s'.HeardAt now id) (fun _ _ => False) s := by
  have hexp : .expiry ∈ Activity.expiring := by simp [Activity.expiring]
  have hmem : .refresh ∈ Activity.expiring := by simp [Activity.expiring]
  unfold expireLocked
  simp only [Prog.wp_bind, Prog.wp_get]
  refine Prog.wp_imp (Prog.wp_forM (fun x _ t ht => expireQueued_wp hexp now x ht) (.refl hs)) ?_
  intro _ s₁ h₁
  simp only [Prog.wp_bind, Prog.wp_get]
  refine Prog.wp_imp (Prog.wp_forM (fun x _ t ht => expireDispatched_wp hexp now x ht) h₁) ?_
  intro _ s₂ h₂
  simp only [Prog.wp_bind, Prog.wp_get]
  refine Prog.wp_imp (Prog.wp_forM_each (I := Came w Activity.expiring s₂)
    (P := fun x t => t.HeardAt now x) (fun x _ t ht => ?_) (.refl h₂.safe)) ?_
  · refine Prog.wp_imp (expireNode_heard now x ht.safe) ?_
    rintro _ u ⟨hcame, hheard⟩
    exact ⟨ht.trans hcame, hheard, fun y hy => hy.faded (hcame.faded ht.safe)⟩
  · rintro _ s₃ ⟨h₃, hheard⟩
    refine Prog.wp_imp (refreshExercisesLocked_wp h₃ hmem) ?_
    rintro _ s₄ ⟨h₄, href⟩ id n hn
    rw [href.records] at hn
    have hkey : id ∈ s₂.nodes.keys := by
      rw [← (h₃.faded h₂.safe).nodes_keys]
      exact Dict.mem_keys_of_get? hn
    exact hheard id hkey n hn

theorem expireLocked_swept (now : Instant) (hs : Safe w s) :
    ∃ m, expireLocked w now s = .ok ⟨⟩ m ∧ Came w Activity.expiring s m ∧ m.Swept w now := by
  obtain ⟨_, m, hrun, hcame, hset, hpunctual⟩ := Prog.exists_ok (expireLocked_punctual now hs)
  have hheard := expireLocked_heard now hs
  rw [Prog.wp_run hrun] at hheard
  exact ⟨m, hrun, hcame, hcame.safe, hset, hpunctual, hheard⟩

/-! ### A pass with nothing to do -/

/-- The refresh of settled exercises changes nothing. -/
theorem refreshExercisesLocked_idle (hs : Safe w s) (hset : s.Settled) :
    Prog.wp (refreshExercisesLocked w) (fun _ s' => s = s') (fun _ _ => False) s := by
  unfold refreshExercisesLocked
  simp only [Prog.wp_bind, Prog.wp_get]
  refine Prog.wp_forM (I := (s = ·)) ?_ rfl
  rintro id - _ rfl
  unfold refreshExercise
  simp only [Prog.wp_bind, Prog.wp_get]
  cases he : s.exercises.get? id with
  | none => exact rfl
  | some e =>
    have hsettled := hset id e he
    simp only [Prog.wp_bind]
    refine Prog.wp_imp (Prog.wp_forM (I := (s = ·)) ?_ rfl) ?_
    · rintro x hx _ rfl
      have hmem : ∀ e', s.exercises.get? id = some e' → x ∈ e'.taskIds := by
        intro e' he'
        rw [he, Option.some.injEq] at he'
        exact he' ▸ hx
      refine refreshTask_wp hs hmem (fun _ => rfl) ?_
      intro e' t p he' _ _ hu ht hterm _
      rw [he, Option.some.injEq] at he'
      exact absurd (hsettled.observed x hx t ht hterm) (he' ▸ hu)
    · rintro _ _ rfl
      by_cases hc : e.status = .contained
      · rw [if_pos hc]
        exact rfl
      rw [if_neg hc]
      unfold recordCompletion
      simp only [Prog.wp_bind, Prog.wp_get, he]
      by_cases hun : e.taskIds.map s.tasks.get? = [] ∨
          (e.taskIds.map s.tasks.get?).any unfinished = true
      · rw [if_pos hun]
        exact rfl
      rw [if_neg hun, if_pos]
      · exact rfl
      push Not at hun
      -- an exercise that is not contained and whose tasks all ended was completed before
      have hnone : e.containment = none := by
        by_contra hne
        exact hc ((hs.exercise_valid he).contained_iff.mpr hne)
      refine hsettled.recorded hnone fun x hx => ?_
      cases ht : s.tasks.get? x with
      | none =>
        refine absurd (List.any_eq_true.mpr ⟨none, ?_, rfl⟩) hun.2
        exact List.mem_map.mpr ⟨x, hx, ht⟩
      | some t =>
        refine ⟨t, rfl, ?_⟩
        by_contra hlive
        refine hun.2 (List.any_eq_true.mpr ⟨some t, List.mem_map.mpr ⟨x, hx, ht⟩, ?_⟩)
        simpa [unfinished] using hlive

theorem expireQueued_idle {now : Instant} {x : PyStr}
    (h : ∀ t, s.tasks.get? x = some t → t.Waiting now) :
    Prog.wp (expireQueued w now x) (fun _ s' => s = s') (fun _ _ => False) s := by
  unfold expireQueued
  simp only [Prog.wp_modify]
  cases ht : s.tasks.get? x with
  | none => rfl
  | some t =>
    cases hd : t.queueDeadline with
    | none => simp [hd]
    | some d =>
      simp only [hd]
      rw [if_pos]
      by_cases hq : t.status = .queued
      · exact .inr (h t ht hq d hd)
      · exact .inl hq

theorem expireDispatched_idle {now : Instant} {x : PyStr}
    (h : ∀ t, s.tasks.get? x = some t → t.InTime now) :
    Prog.wp (expireDispatched w now x) (fun _ s' => s = s') (fun _ _ => False) s := by
  unfold expireDispatched
  simp only [Prog.wp_bind, Prog.wp_get]
  cases ht : s.tasks.get? x with
  | none => exact rfl
  | some t =>
    simp only
    by_cases hd : t.status = .dispatched
    swap
    · rw [if_pos hd]; exact rfl
    obtain ⟨d, hdl, hnow⟩ := h t ht hd
    rw [if_neg (by simpa using hd), hdl]
    simp only
    rw [if_pos hnow]
    exact rfl

theorem expireNode_idle {now : Instant} {x : PyStr} (h : s.HeardAt now x) :
    Prog.wp (expireNode w now x) (fun _ s' => s = s') (fun _ _ => False) s := by
  unfold expireNode expireOnline expireSession
  simp only [Prog.wp_bind, Prog.wp_modify, Prog.wp_get]
  cases hn : s.nodes.get? x with
  | none =>
    simp only [hn]
    exact rfl
  | some n =>
    have hheard := h n hn
    have hfresh : ¬(n.status = .online ∧ LabState.staleAfter n ≤ now - n.lastSeenMonotonic) := by
      rintro ⟨ho, hle⟩
      exact absurd (hheard.fresh ho) (not_lt.mpr hle)
    simp only [if_neg hfresh, hn]
    rw [if_neg]
    · exact rfl
    rintro ⟨-, ha, hle⟩
    have hgrace := hheard.grace ha
    exact absurd (sub_lt_iff_lt_add'.mpr hgrace) (not_lt.mpr hle)

/-- Once nothing is due, a second pass at the same instant changes nothing. -/
theorem expireLocked_idle {now : Instant} (h : s.Swept w now) :
    expireLocked w now s = .ok ⟨⟩ s := by
  have hidle : Prog.wp (expireLocked w now) (fun _ s' => s = s') (fun _ _ => False) s := by
    unfold expireLocked
    simp only [Prog.wp_bind, Prog.wp_get]
    refine Prog.wp_imp (Prog.wp_forM (I := (s = ·)) ?_ rfl) ?_
    · rintro x - _ rfl
      exact expireQueued_idle (h.punctual.waiting x)
    rintro _ _ rfl
    simp only [Prog.wp_bind, Prog.wp_get]
    refine Prog.wp_imp (Prog.wp_forM (I := (s = ·)) ?_ rfl) ?_
    · rintro x - _ rfl
      exact expireDispatched_idle (h.punctual.inTime x)
    rintro _ _ rfl
    simp only [Prog.wp_bind, Prog.wp_get]
    refine Prog.wp_imp (Prog.wp_forM (I := (s = ·)) ?_ rfl) ?_
    · rintro x - _ rfl
      exact expireNode_idle (h.heard x)
    rintro _ _ rfl
    exact refreshExercisesLocked_idle h.safe h.settled
  obtain ⟨⟨⟩, m, hrun, rfl⟩ := Prog.exists_ok hidle
  exact hrun

/-! ### Iterating over the dictionaries themselves -/

/-- `for key in table`: the step that follows a change of the table's keys raises `changed`. -/
def forKeys (keys : LabState → List PyStr) (changed : Exc) (body : PyStr → Lab Unit) :
    Lab Unit := do
  let s ← get
  forM (keys s) fun key => do
    body key
    let s' ← get
    Prog.require (keys s' = keys s) changed

namespace Guarded

/-- `_refresh_exercises_locked`, its loop guarded. -/
def refreshExercisesLocked (w : World) (changed : Exc) : Lab Unit :=
  forKeys (·.exercises.keys) changed (refreshExercise w)

/-- `_fail_unfinished_tasks_locked`, its loops guarded. -/
def failUnfinishedTasksLocked (w : World) (changed : Exc) (nodeId : PyStr)
    (reason resultMessage : String) : Lab Unit := do
  forKeys (·.tasks.keys) changed (failUnfinishedTask w nodeId reason resultMessage)
  refreshExercisesLocked w changed

/-- The session check of the third pass, its loops guarded. -/
def expireSession (w : World) (changed : Exc) (now : Instant) (nodeId : PyStr) : Lab Unit := do
  let s ← get
  match s.nodes.get? nodeId with
  | none => pure ()
  | some n =>
    if n.status = .offline ∧ n.sessionActive = true ∧
        staleSessionTtlSeconds ≤ now - n.lastSeenMonotonic - LabState.staleAfter n then
      failUnfinishedTasksLocked w changed nodeId "node_session_expired"
        "node session expired before task completion"
      modify fun s =>
        match s.nodes.get? nodeId with
        | none => s
        | some n => s.closeSession w n

/-- The third pass on one node, its loops guarded. -/
def expireNode (w : World) (changed : Exc) (now : Instant) (nodeId : PyStr) : Lab Unit := do
  expireOnline w now nodeId
  expireSession w changed now nodeId

/-- `_expire_locked`, every loop over a dictionary guarded. -/
def expireLocked (w : World) (changed : Exc) (now : Instant) : Lab Unit := do
  forKeys (·.tasks.keys) changed (expireQueued w now)
  forKeys (·.tasks.keys) changed (expireDispatched w now)
  forKeys (·.nodes.keys) changed (expireNode w changed now)
  refreshExercisesLocked w changed

end Guarded

private theorem expiry_mem : Activity.expiry ∈ Activity.expiring := by simp [Activity.expiring]

private theorem refresh_mem : Activity.refresh ∈ Activity.expiring := by simp [Activity.expiring]

section Guards

variable (changed : Exc)

/-- A guard on a table whose keys the body keeps is never reached. -/
theorem forKeys_eq {keys : LabState → List PyStr} {f g : PyStr → Lab Unit}
    (hkeys : ∀ {a b : LabState}, Faded a b → keys b = keys a)
    (hstep : ∀ k t, Safe w t → g k t = f k t ∧
      Prog.wp (f k) (fun _ u => Came w Activity.expiring t u) (fun _ _ => False) t)
    (hs : Safe w s) : forKeys keys changed g s = forM (keys s) f s := by
  unfold forKeys
  refine Prog.forM_congr (I := fun t => Safe w t ∧ keys t = keys s) ?_ ⟨hs, rfl⟩
  rintro k - t ⟨ht, hkt⟩
  obtain ⟨heq, hwp⟩ := hstep k t ht
  obtain ⟨⟨⟩, u, hu, hcame⟩ := Prog.exists_ok hwp
  have hku : keys u = keys s := (hkeys (hcame.faded ht)).trans hkt
  refine ⟨?_, (Prog.wp_run hu).mpr ⟨hcame.safe, hku⟩⟩
  simp only [bind, EStateM.bind, heq, hu]
  show Prog.require (keys u = keys s) changed u = _
  rw [Prog.require, if_pos hku]
  rfl

/-- A guarded loop followed by a program that agrees with another on safe states. -/
theorem forKeys_bind {keys : LabState → List PyStr} {f g : PyStr → Lab Unit} {m m' : Lab Unit}
    (hkeys : ∀ {a b : LabState}, Faded a b → keys b = keys a)
    (hstep : ∀ k t, Safe w t → g k t = f k t ∧
      Prog.wp (f k) (fun _ u => Came w Activity.expiring t u) (fun _ _ => False) t)
    (hrest : ∀ t, Safe w t → m' t = m t) (hs : Safe w s) :
    (forKeys keys changed g >>= fun _ => m') s = (forM (keys s) f >>= fun _ => m) s := by
  refine Prog.bind_congr (forKeys_eq changed hkeys hstep hs) ?_
  have hloop : Prog.wp (forM (keys s) f) (fun _ t => Came w Activity.expiring s t)
      (fun _ _ => False) s := by
    refine Prog.wp_forM (fun k _ t ht => ?_) (.refl hs)
    exact Prog.wp_imp (hstep k t ht.safe).2 fun _ u hu => ht.trans hu
  exact Prog.wp_mono hloop (fun _ t ht => hrest t ht.safe) fun _ _ _ => trivial

theorem Guarded.refreshExercisesLocked_eq (hs : Safe w s) :
    refreshExercisesLocked w changed s = C2Lab.refreshExercisesLocked w s := by
  refine forKeys_eq changed (fun h => h.exercises_keys) (fun k t ht => ⟨rfl, ?_⟩) hs
  exact Prog.wp_imp (refreshExercise_wp (.refl ht) refresh_mem) fun _ _ h => h.1

theorem failUnfinishedTask_came (x : PyStr) (reason message : String) (k : PyStr)
    (hs : Safe w s) : Prog.wp (failUnfinishedTask w x reason message k)
      (fun _ u => Came w Activity.expiring s u) (fun _ _ => False) s := by
  unfold failUnfinishedTask
  rw [Prog.wp_modify]
  cases hn : s.nodes.get? x with
  | none => exact .refl hs
  | some n =>
    cases ht : s.tasks.get? k with
    | none => exact .refl hs
    | some t =>
      simp only
      by_cases hlive : t.nodeId = x ∧ (t.status = .queued ∨ t.status = .dispatched)
      · rw [if_pos hlive]
        have hkey := hs.node_key hn
        have hl : t.status.isTerminal = false := by
          rcases hlive.2 with h | h <;> rw [h] <;> rfl
        exact (Came.refl hs).write (.failTask (.inl rfl) (hkey ▸ hn) (hs.task_key ht ▸ ht)
          (hlive.1.trans hkey.symm) hl reason message) expiry_mem rfl
      · rw [if_neg hlive]; exact .refl hs

theorem Guarded.failUnfinishedTasksLocked_eq (x : PyStr) (reason message : String)
    (hs : Safe w s) : failUnfinishedTasksLocked w changed x reason message s =
      C2Lab.failUnfinishedTasksLocked w x reason message s :=
  forKeys_bind changed (fun h => h.tasks_keys)
    (fun k _ ht => ⟨rfl, failUnfinishedTask_came x reason message k ht⟩)
    (fun _ ht => refreshExercisesLocked_eq changed ht) hs

theorem Guarded.expireNode_eq (now : Instant) (x : PyStr) (hs : Safe w s) :
    expireNode w changed now x s = C2Lab.expireNode w now x s := by
  refine Prog.bind_congr rfl ?_
  refine Prog.wp_mono (expireOnline_wp now x hs) ?_ fun _ _ _ => trivial
  rintro _ t ⟨hcame, -⟩
  refine Prog.bind_congr rfl ?_
  rw [Prog.wp_get]
  cases t.nodes.get? x with
  | none => rfl
  | some n =>
    simp only
    split
    · exact Prog.bind_congr_left (failUnfinishedTasksLocked_eq changed _ _ _ hcame.safe)
    · rfl

/-- No loop of the pass changes the keys of the dictionary it runs over. -/
theorem Guarded.expireLocked_eq (now : Instant) (hs : Safe w s) :
    expireLocked w changed now s = C2Lab.expireLocked w now s := by
  refine forKeys_bind changed (fun h => h.tasks_keys)
    (fun k t ht => ⟨rfl, expireQueued_wp expiry_mem now k (.refl ht)⟩) (fun t ht => ?_) hs
  refine forKeys_bind changed (fun h => h.tasks_keys)
    (fun k t ht => ⟨rfl, expireDispatched_wp expiry_mem now k (.refl ht)⟩) (fun u hu => ?_) ht
  exact forKeys_bind changed (fun h => h.nodes_keys)
    (fun k t ht => ⟨expireNode_eq changed now k ht,
      expireNode_wp expiry_mem refresh_mem now k (.refl ht)⟩)
    (fun v hv => refreshExercisesLocked_eq changed hv) hu

end Guards

/-! ### Every reachable state -/

/-- Nothing is due at `now`: no deadline has passed, no node is stale or silent for too long, and no
    ended task of an exercise is unobserved. -/
structure LabState.Expired (now : Instant) (s : LabState) : Prop where
  queued : ∀ id t, s.tasks.get? id = some t → t.status = .queued →
    ∃ d, t.queueDeadline = some d ∧ now < d
  dispatched : ∀ id t, s.tasks.get? id = some t → t.status = .dispatched →
    ∃ d, t.deadline = some d ∧ now < d
  online : ∀ id n, s.nodes.get? id = some n → n.status = .online →
    now - n.lastSeenMonotonic < staleAfter n
  active : ∀ id n, s.nodes.get? id = some n → n.sessionActive = true →
    now - n.lastSeenMonotonic < staleAfter n + staleSessionTtlSeconds
  observed : ∀ id e, s.exercises.get? id = some e → ∀ taskId ∈ e.taskIds, ∀ t,
    s.tasks.get? taskId = some t → t.status.isTerminal = true → taskId ∈ e.observedTaskIds

theorem LabState.Swept.expired {now : Instant} (h : s.Swept w now) : s.Expired now where
  queued id t ht hq := by
    obtain ⟨d, hd⟩ := Option.isSome_iff_exists.mp ((h.safe.task_wf ht).queued hq).1
    exact ⟨d, hd, h.punctual.waiting id t ht hq d hd⟩
  dispatched := h.punctual.inTime
  online id n hn := (h.heard id n hn).fresh
  active id n hn := (h.heard id n hn).grace
  observed id e he := (h.settled id e he).observed

/-- From every reachable state, whatever the clock says, the pass ends normally, also when a changed
    dictionary would stop it; nothing is due afterwards, and a second pass changes nothing. -/
theorem expire_total (hr : Reachable w s) (now : Instant) : ∃ m, expire w now s = .ok ⟨⟩ m ∧
    (∀ changed, Guarded.expireLocked w changed now s = .ok ⟨⟩ m) ∧ m.Expired now ∧
    expire w now m = .ok ⟨⟩ m := by
  have hs := hr.sound.safe
  obtain ⟨m, hrun, -, hswept⟩ := expireLocked_swept now hs
  refine ⟨m, hrun, fun changed => ?_, hswept.expired, expireLocked_idle hswept⟩
  rw [Guarded.expireLocked_eq changed now hs, hrun]

/-- A queued task outlives its time to live and the session of its node its silence. -/
theorem expire_total_late : ∃ m, expire .counting 400
      (exec .counting (.init "stream") [Counting.enroll, Counting.queue .ping (.obj [])]) =
        .ok ⟨⟩ m ∧
    (∀ changed, Guarded.expireLocked .counting changed 400
      (exec .counting (.init "stream") [Counting.enroll, Counting.queue .ping (.obj [])]) =
        .ok ⟨⟩ m) ∧ m.Expired 400 ∧ expire .counting 400 m = .ok ⟨⟩ m :=
  expire_total (World.counting_reachable "stream" _ (by decide +kernel)) 400

end C2Lab
