import C2Lab.Core.Delivery
import C2Lab.Core.Expired

/-! Online means recently heard.

    Along a run whose clock never goes back, a node's record ages only in the expiry pass and is
    renewed only by a poll or an accepted result. A dispatched task times out before its node can be
    stale, so results come from online nodes only, and what the pass finds to be stale stays stale
    until a poll. -/

namespace C2Lab

variable {w : World} {s s' s₀ : LabState} {now last : Option Instant} {t₀ : Instant}

/-! ### A node that is not heard -/

/-- A node record that was not renewed: as it was, closed, or offline because it was due at
    `now`. -/
structure Node.Rests (now : Option Instant) (n n' : Node) : Prop where
  seen_eq : n'.lastSeenMonotonic = n.lastSeenMonotonic
  interval_eq : n'.pollIntervalMs = n.pollIntervalMs
  status : n'.status = n.status ∧ n'.sessionActive = n.sessionActive ∨
    n'.status = .offline ∧ (n'.sessionActive = false ∨
      ∃ t ∈ now, LabState.staleAfter n ≤ t - n.lastSeenMonotonic)

namespace Node.Rests

variable {n n' n'' : Node}

theorem refl (n : Node) : n.Rests now n := ⟨rfl, rfl, .inl ⟨rfl, rfl⟩⟩

theorem staleAfter_eq (h : n.Rests now n') : LabState.staleAfter n' = LabState.staleAfter n := by
  rw [LabState.staleAfter, LabState.staleAfter, h.interval_eq]

theorem trans (h : n.Rests now n') (h' : n'.Rests now n'') : n.Rests now n'' where
  seen_eq := h'.seen_eq.trans h.seen_eq
  interval_eq := h'.interval_eq.trans h.interval_eq
  status := by
    rcases h'.status with ⟨hst', hact'⟩ | ⟨hoff', hcase⟩
    · rw [hst', hact']
      exact h.status
    · refine .inr ⟨hoff', hcase.imp_right ?_⟩
      rintro ⟨t, ht, hdue⟩
      exact ⟨t, ht, by rwa [h.staleAfter_eq, h.seen_eq] at hdue⟩

end Node.Rests

/-- Every node found afterwards was there before and was not renewed. -/
def Rested (now : Option Instant) (s s' : LabState) : Prop :=
  ∀ id n', s'.nodes.get? id = some n' → ∃ n, s.nodes.get? id = some n ∧ n.Rests now n'

namespace Rested

theorem refl (s : LabState) : Rested now s s := fun _ n hn => ⟨n, hn, .refl n⟩

theorem of_nodes (h : s'.nodes = s.nodes) : Rested now s s' := fun _ n hn =>
  ⟨n, h ▸ hn, .refl n⟩

theorem trans {s₁ : LabState} (h : Rested now s s₁) (h' : Rested now s₁ s') : Rested now s s' := by
  intro id n' hn'
  obtain ⟨n₁, hn₁, hrest'⟩ := h' id n' hn'
  obtain ⟨n, hn, hrest⟩ := h id n₁ hn₁
  exact ⟨n, hn, hrest.trans hrest'⟩

/-- A write of one node record. -/
theorem node {n n' : Node} (hn : s.nodes.get? n.id = some n) (hrest : n.Rests now n')
    (hnodes : s'.nodes = s.nodes.set n.id n') : Rested now s s' := by
  intro id m hm
  rw [hnodes, Dict.get?_set] at hm
  split at hm
  · rename_i hid
    cases hm
    exact ⟨n, hid ▸ hn, hrest⟩
  · exact ⟨m, hm, .refl m⟩

end Rested

/-! ### Writes outside the pass, polls and results -/

/-- The parts of the program that renew no node. -/
def Activity.resting : List Activity :=
  [.refresh, .disconnect, .prune, .create, .cancel, .contain, .note, .reset]

theorem LabState.nodes_appendExerciseTimelineLocked (id : PyStr) (item : TimelineItem)
    (s : LabState) : (s.appendExerciseTimelineLocked w id item).nodes = s.nodes := by
  unfold appendExerciseTimelineLocked
  split
  · rfl
  · split <;> simp

theorem LabState.nodes_observeTask (id taskId : PyStr) (s : LabState) :
    (s.observeTask id taskId).nodes = s.nodes := by
  unfold observeTask
  split <;> simp

/-- A change of the records that renews no node, containment aside. -/
theorem RecordChange.rested {hi : ℕ} {c : Activity} {r : Records} (hs : Safe w s)
    (h : RecordChange w s hi c r) (hc : c ∈ Activity.resting) (hne : c ≠ .contain)
    (hr : s'.toRecords = r) : Rested none s s' := by
  cases h with
  | touchedNode htouch => rcases htouch with rfl | rfl | rfl <;> simp [Activity.resting] at hc hne
  | @closedNode _ _ n hn _ k =>
    have hclose : n.Rests none { n with
        status := .offline, sessionActive := false, sessionToken := .text (w.token k) } :=
      ⟨rfl, rfl, .inr ⟨rfl, .inl rfl⟩⟩
    exact .node hn hclose (by rw [hr])
  | @failedTask _ t =>
    unfold chargeFailure at hr
    cases hn : s.nodes.get? t.nodeId with
    | none => exact .of_nodes (by rw [hr]; simp [hn])
    | some n =>
      have hn' : s.nodes.get? n.id = some n := by rw [hs.node_key hn]; exact hn
      have hcharge : n.Rests none { n with tasksFailed := n.tasksFailed + 1 } :=
        ⟨rfl, rfl, .inl ⟨rfl, rfl⟩⟩
      exact .node hn' hcharge (by rw [hr]; simp [hn])
  | cleared =>
    intro id n hn
    rw [hr] at hn
    cases hn
  | acceptedTask | prunedNode | addedNode => simp [Activity.resting] at hc
  | _ => exact .of_nodes (by rw [hr])

theorem Write.rested {c : Activity} (hs : Safe w s) (h : Write w s c s')
    (hc : c ∈ Activity.resting) : Rested none s s' := by
  by_cases hcontain : c = .contain
  swap
  · exact (h.records hs).rested hs hc hcontain rfl
  subst hcontain
  cases h with
  | tick => exact .of_nodes rfl
  | failTask hc' => rcases hc' with hc' | hc' <;> cases hc'
  | cancelContained =>
    refine .of_nodes ?_
    simp [LabState.cancelContained, LabState.containTask, LabState.containedTask,
      LabState.nodes_observeTask, LabState.nodes_appendExerciseTimelineLocked]
  | @pauseNode n hn =>
    have hrest : n.Rests none { n with
        taskingPaused := true, taskingPausedAt := some (w.utcNow s.draws)
        taskingPausedBy := some ‹_› } := ⟨rfl, rfl, .inl ⟨rfl, rfl⟩⟩
    exact .node hn hrest (by simp [LabState.pauseNode])
  | applyContainment =>
    refine .of_nodes ?_
    simp [LabState.applyContainment, LabState.nodes_appendExerciseTimelineLocked]

/-! ### The expiry pass -/

theorem expireQueued_rested (t₀ : Instant) (x : PyStr) (s : LabState) :
    Prog.wp (expireQueued w t₀ x) (fun _ s' => Rested (some t₀) s s') (fun _ _ => True) s := by
  unfold expireQueued
  rw [Prog.wp_modify]
  refine .of_nodes ?_
  split
  · rfl
  · split
    · rfl
    · split
      · rfl
      · simp [LabState.expireTask]

theorem expireDispatched_rested (t₀ : Instant) (x : PyStr) (hs : Safe w s) :
    Prog.wp (expireDispatched w t₀ x) (fun _ s' => Rested (some t₀) s s') (fun _ _ => True) s := by
  unfold expireDispatched
  rw [Prog.wp_bind, Prog.wp_get]
  cases ht : s.tasks.get? x with
  | none => exact .refl s
  | some t =>
    simp only
    split
    · exact .refl s
    split
    · trivial
    split
    · exact .refl s
    rw [Prog.wp_modify]
    cases hn : s.nodes.get? t.nodeId with
    | none => exact .of_nodes (by simp [LabState.timeoutTask, LabState.countFailure, hn])
    | some n =>
      have hn' : s.nodes.get? n.id = some n := by rw [hs.node_key hn]; exact hn
      have hcharge : n.Rests (some t₀) { n with tasksFailed := n.tasksFailed + 1 } :=
        ⟨rfl, rfl, .inl ⟨rfl, rfl⟩⟩
      exact .node hn' hcharge (by simp [LabState.timeoutTask, LabState.countFailure, hn])

theorem failUnfinishedTask_rested (now : Option Instant) (x : PyStr) (reason message : String)
    (k : PyStr) (hs : Safe w s) : Prog.wp (failUnfinishedTask w x reason message k)
      (fun _ s' => Rested now s s') (fun _ _ => False) s := by
  unfold failUnfinishedTask
  rw [Prog.wp_modify]
  split
  · rename_i n t hn ht
    split
    · have hn' : s.nodes.get? n.id = some n := by rw [hs.node_key hn]; exact hn
      have hcharge : n.Rests now { n with tasksFailed := n.tasksFailed + 1 } :=
        ⟨rfl, rfl, .inl ⟨rfl, rfl⟩⟩
      exact .node hn' hcharge (by simp [LabState.failTask])
    · exact .refl s
  · exact .refl s

theorem refreshExercisesLocked_rested (now : Option Instant) (hs : Safe w s) :
    Prog.wp (refreshExercisesLocked w) (fun _ s' => Rested now s s') (fun _ _ => False) s := by
  refine Prog.wp_imp (refreshExercisesLocked_wp (Came.refl hs : Came w [.refresh] s s)
    (by simp)) ?_
  rintro _ s' ⟨-, href⟩
  exact .of_nodes (by rw [href.records])

theorem failUnfinishedTasksLocked_rested (now : Option Instant) (x : PyStr)
    (reason message : String) (hs : Safe w s) :
    Prog.wp (failUnfinishedTasksLocked w x reason message) (fun _ s' => Rested now s s')
      (fun _ _ => False) s := by
  unfold failUnfinishedTasksLocked
  simp only [Prog.wp_bind, Prog.wp_get]
  refine Prog.wp_imp (Prog.wp_forM (I := fun t => Safe w t ∧ Rested now s t) ?_
    ⟨hs, .refl s⟩) ?_
  · rintro k - t ⟨ht, hrest⟩
    refine Prog.wp_mono (Prog.wp_and (failUnfinishedTask_came x reason message k ht)
      (failUnfinishedTask_rested now x reason message k ht)) ?_ fun _ _ h => h.1
    rintro _ u ⟨hcame, hrest'⟩
    exact ⟨hcame.safe, hrest.trans hrest'⟩
  · rintro _ t ⟨ht, hrest⟩
    exact Prog.wp_imp (refreshExercisesLocked_rested now ht) fun _ u hu => hrest.trans hu

theorem expireNode_rested (t₀ : Instant) (x : PyStr) (hs : Safe w s) :
    Prog.wp (expireNode w t₀ x) (fun _ s' => Rested (some t₀) s s') (fun _ _ => False) s := by
  have honline : Prog.wp (expireOnline w t₀ x) (fun _ s' => Rested (some t₀) s s')
      (fun _ _ => False) s := by
    unfold expireOnline
    rw [Prog.wp_modify]
    split
    · exact .refl s
    rename_i n hn
    split
    · rename_i hstale
      have hn' : s.nodes.get? n.id = some n := by rw [hs.node_key hn]; exact hn
      have hrest : n.Rests (some t₀) { n with status := .offline } :=
        ⟨rfl, rfl, .inr ⟨rfl, .inr ⟨t₀, rfl, hstale.2⟩⟩⟩
      exact .node hn' hrest (by simp [LabState.staleNode])
    · exact .refl s
  unfold expireNode
  rw [Prog.wp_bind]
  refine Prog.wp_mono (Prog.wp_and (expireOnline_wp t₀ x hs) honline) ?_ fun _ _ h => h.1
  rintro _ s₁ ⟨⟨hcame, -⟩, hrest⟩
  unfold expireSession
  simp only [Prog.wp_bind, Prog.wp_get]
  cases hn : s₁.nodes.get? x with
  | none => exact hrest
  | some n =>
    simp only
    by_cases hold : n.status = .offline ∧ n.sessionActive = true ∧
        staleSessionTtlSeconds ≤ t₀ - n.lastSeenMonotonic - LabState.staleAfter n
    swap
    · rw [if_neg hold]; exact hrest
    rw [if_pos hold, Prog.wp_bind]
    refine Prog.wp_mono (Prog.wp_and (failUnfinishedTasks_wp (.inl rfl)
      (by simp [Activity.expiring]) (by simp [Activity.expiring]) hn
      (Came.refl hcame.safe : Came w Activity.expiring s₁ s₁) _ _)
      (failUnfinishedTasksLocked_rested (some t₀) x _ _ hcame.safe)) ?_ fun _ _ h => h.1
    rintro _ s₂ ⟨⟨hcame₂, ⟨m, hm, hst, -⟩, -⟩, hrest₂⟩
    simp only [Prog.wp_modify, hm]
    have hm' : s₂.nodes.get? m.id = some m := by rw [hcame₂.safe.node_key hm]; exact hm
    have hoff : m.status = .offline := hst.trans hold.1
    have hclose : m.Rests (some t₀)
        { m with sessionActive := false, sessionToken := .text (w.token s₂.draws) } :=
      ⟨rfl, rfl, .inr ⟨hoff, .inl rfl⟩⟩
    exact (hrest.trans hrest₂).trans (.node hm' hclose (by simp [LabState.closeSession]))

/-- The pass renews no node, and takes offline only those due. -/
theorem expireLocked_rested (t₀ : Instant) (hs : Safe w s) :
    Prog.wp (expireLocked w t₀) (fun _ s' => Rested (some t₀) s s') (fun _ _ => False) s := by
  have hexp : .expiry ∈ Activity.expiring := by simp [Activity.expiring]
  have hmem : .refresh ∈ Activity.expiring := by simp [Activity.expiring]
  have hloop : ∀ (l : List PyStr) (f : PyStr → Lab Unit) (u : LabState),
      (∀ x t, Safe w t → Prog.wp (f x) (fun _ t' => Came w Activity.expiring t t')
        (fun _ _ => False) t) →
      (∀ x t, Safe w t → Prog.wp (f x) (fun _ t' => Rested (some t₀) t t') (fun _ _ => True) t) →
      Safe w u → Rested (some t₀) s u →
      Prog.wp (forM l f) (fun _ t => Safe w t ∧ Rested (some t₀) s t) (fun _ _ => False) u := by
    intro l f u hcame hrest hu hsu
    refine Prog.wp_forM (I := fun t => Safe w t ∧ Rested (some t₀) s t) ?_ ⟨hu, hsu⟩
    rintro x - t ⟨ht, hst⟩
    refine Prog.wp_mono (Prog.wp_and (hcame x t ht) (hrest x t ht)) ?_ fun _ _ h => h.1
    rintro _ t' ⟨htt', hrest'⟩
    exact ⟨htt'.safe, hst.trans hrest'⟩
  unfold expireLocked
  simp only [Prog.wp_bind, Prog.wp_get]
  refine Prog.wp_imp (hloop _ _ s (fun x t ht => expireQueued_wp hexp t₀ x (.refl ht))
    (fun x t _ => expireQueued_rested t₀ x t) hs (.refl s)) ?_
  rintro _ s₁ ⟨hs₁, h₁⟩
  simp only [Prog.wp_bind, Prog.wp_get]
  refine Prog.wp_imp (hloop _ _ s₁ (fun x t ht => expireDispatched_wp hexp t₀ x (.refl ht))
    (fun x t ht => expireDispatched_rested t₀ x ht) hs₁ h₁) ?_
  rintro _ s₂ ⟨hs₂, h₂⟩
  simp only [Prog.wp_bind, Prog.wp_get]
  refine Prog.wp_imp (hloop _ _ s₂ (fun x t ht => expireNode_wp hexp hmem t₀ x (.refl ht))
    (fun x t ht => Prog.wp_mono (expireNode_rested t₀ x ht) (fun _ _ h => h)
      fun _ _ h => h.elim) hs₂ h₂) ?_
  rintro _ s₃ ⟨hs₃, h₃⟩
  exact Prog.wp_imp (refreshExercisesLocked_rested _ hs₃) fun _ s₄ h₄ => h₃.trans h₄

/-! ### The invariant -/

/-- What a clock that was last read at `last` says about the nodes and their work. -/
structure Recent (last : Option Instant) (s : LabState) : Prop where
  seen_le : ∀ id n, s.nodes.get? id = some n → ∃ t ∈ last, n.lastSeenMonotonic ≤ t
  active : ∀ id n, s.nodes.get? id = some n → n.status = .online → n.sessionActive = true
  silent : ∀ id n, s.nodes.get? id = some n → n.status = .offline → n.sessionActive = true →
    ∃ t ∈ last, LabState.staleAfter n ≤ t - n.lastSeenMonotonic
  working : ∀ id t n, s.tasks.get? id = some t → t.status = .dispatched →
    s.nodes.get? t.nodeId = some n → n.status = .online ∧
      ∀ d, t.deadline = some d → d ≤ n.lastSeenMonotonic + taskTimeoutSeconds

theorem recent_init (stream : String) : Recent none (.init stream) where
  seen_le id n hn := by cases hn
  active id n hn := by cases hn
  silent id n hn := by cases hn
  working id t n ht := by cases ht

/-- The clock may go on. -/
theorem Recent.mono (h : Recent last s) {t₀ : Instant} (hle : ∀ t ∈ last, t ≤ t₀) :
    Recent (some t₀) s where
  seen_le id n hn := by
    obtain ⟨t, ht, hseen⟩ := h.seen_le id n hn
    exact ⟨t₀, rfl, hseen.trans (hle t ht)⟩
  active := h.active
  silent id n hn ho ha := by
    obtain ⟨t, ht, hdue⟩ := h.silent id n hn ho ha
    exact ⟨t₀, rfl, hdue.trans (sub_le_sub_right (hle t ht) _)⟩
  working := h.working

/-- Every dispatched task was dispatched before, for the same node until the same deadline. -/
def CarriedOn (s s' : LabState) : Prop :=
  ∀ id t', s'.tasks.get? id = some t' → t'.status = .dispatched → ∃ t, s.tasks.get? id = some t ∧
    t.status = .dispatched ∧ t'.nodeId = t.nodeId ∧ t'.deadline = t.deadline

theorem taskTimeout_le_staleAfter (n : Node) : taskTimeoutSeconds ≤ LabState.staleAfter n :=
  le_max_of_le_left le_rfl

/-- Nothing renewed, nothing dispatched: what was offline is still due, and a node that was due has
    no work left, for that timed out before. -/
theorem Recent.rests (h : Recent last s) (hs' : Safe w s') (hnow : ∀ t ∈ now, t ∈ last)
    (hrest : Rested now s s') (htasks : CarriedOn s s') (hp : ∀ t ∈ now, s'.Punctual t) :
    Recent last s' where
  seen_le id n' hn' := by
    obtain ⟨n, hn, hr⟩ := hrest id n' hn'
    rw [hr.seen_eq]
    exact h.seen_le id n hn
  active id n' hn' ho := by
    obtain ⟨n, hn, hr⟩ := hrest id n' hn'
    rcases hr.status with ⟨hst, hact⟩ | ⟨hoff, -⟩
    · rw [hact]
      exact h.active id n hn (hst ▸ ho)
    · rw [hoff] at ho; cases ho
  silent id n' hn' ho ha := by
    obtain ⟨n, hn, hr⟩ := hrest id n' hn'
    rw [hr.staleAfter_eq, hr.seen_eq]
    rcases hr.status with ⟨hst, hact⟩ | ⟨-, hclosed | ⟨t, ht, hdue⟩⟩
    · exact h.silent id n hn (hst ▸ ho) (hact ▸ ha)
    · rw [hclosed] at ha; cases ha
    · exact ⟨t, hnow t ht, hdue⟩
  working id t' n' ht' hd' hn' := by
    obtain ⟨t, ht, hd, hnode, hdl⟩ := htasks id t' ht' hd'
    obtain ⟨n, hn, hr⟩ := hrest _ n' hn'
    obtain ⟨honline, hbound⟩ := h.working id t n ht hd (hnode ▸ hn)
    rw [hr.seen_eq, hdl]
    refine ⟨?_, hbound⟩
    rcases hr.status with ⟨hst, -⟩ | ⟨-, hclosed | ⟨t₁, ht₁, hdue⟩⟩
    · rw [hst]; exact honline
    · -- a live task belongs to an open session
      obtain ⟨m, hm, hact, -⟩ := hs'.owned id t' ht' (by rw [hd']; rfl)
      rw [hn', Option.some.injEq] at hm
      rw [← hm, hclosed] at hact
      cases hact
    · obtain ⟨d, hd₁, hlt⟩ := (hp t₁ ht₁).inTime id t' ht' hd'
      have hle := hbound d (hdl ▸ hd₁)
      have := taskTimeout_le_staleAfter n
      linarith

/-- A poll or an accepted result at `t₀`: some nodes were heard, some tasks handed out. -/
structure Touched (t₀ : Instant) (s s' : LabState) : Prop where
  nodes : ∀ id n', s'.nodes.get? id = some n' → s.nodes.get? id = some n' ∨
    n'.lastSeenMonotonic = t₀ ∧ n'.status = .online ∧ n'.sessionActive = true
  tasks : ∀ id t', s'.tasks.get? id = some t' → t'.status = .dispatched →
    (∃ t, s.tasks.get? id = some t ∧ t.status = .dispatched ∧ t'.nodeId = t.nodeId ∧
      t'.deadline = t.deadline) ∨
    t'.deadline = some (t₀ + taskTimeoutSeconds) ∧ ∀ n', s'.nodes.get? t'.nodeId = some n' →
      n'.lastSeenMonotonic = t₀ ∧ n'.status = .online

theorem Recent.touched (h : Recent (some t₀) s) (hs : Safe w s) (ht : Touched t₀ s s') :
    Recent (some t₀) s' where
  seen_le id n' hn' := by
    rcases ht.nodes id n' hn' with hn | ⟨hseen, -⟩
    · exact h.seen_le id n' hn
    · exact ⟨t₀, rfl, hseen.le⟩
  active id n' hn' ho := by
    rcases ht.nodes id n' hn' with hn | ⟨-, -, hact⟩
    · exact h.active id n' hn ho
    · exact hact
  silent id n' hn' ho ha := by
    rcases ht.nodes id n' hn' with hn | ⟨-, honline, -⟩
    · exact h.silent id n' hn ho ha
    · rw [honline] at ho; cases ho
  working id t' n' ht' hd' hn' := by
    rcases ht.tasks id t' ht' hd' with ⟨t, htask, hd, hnode, hdl⟩ | ⟨hdl, hheard⟩
    · rcases ht.nodes _ n' hn' with hn | ⟨hseen, honline, -⟩
      · rw [hdl]
        exact h.working id t n' htask hd (hnode ▸ hn)
      · refine ⟨honline, fun d hd₁ => ?_⟩
        -- the node was heard no earlier before
        obtain ⟨n, hn, -⟩ := hs.owned id t htask (by rw [hd]; rfl)
        obtain ⟨t₁, ht₁, hle⟩ := h.seen_le _ n hn
        cases ht₁
        have hbound := (h.working id t n htask hd hn).2 d (hdl ▸ hd₁)
        rw [hseen]
        linarith
    · obtain ⟨hseen, honline⟩ := hheard n' hn'
      refine ⟨honline, fun d hd₁ => ?_⟩
      rw [hdl, Option.some.injEq] at hd₁
      rw [hseen, ← hd₁]

/-! ### What is shown after a pass -/

/-- A node is shown online exactly while its session is open and it was heard recently. -/
def LabState.Present (t₀ : Instant) (s : LabState) : Prop :=
  ∀ id n, s.nodes.get? id = some n →
    (n.status = .online ↔ n.sessionActive = true ∧ t₀ - n.lastSeenMonotonic < staleAfter n) ∧
    (n.sessionActive = false → n.status = .offline)

/-- Every online node was heard recently. -/
def LabState.Fresh (t₀ : Instant) (s : LabState) : Prop :=
  ∀ id n, s.nodes.get? id = some n → n.status = .online →
    t₀ - n.lastSeenMonotonic < staleAfter n

theorem Recent.present (h : Recent (some t₀) s) (hf : s.Fresh t₀) : s.Present t₀ := by
  intro id n hn
  refine ⟨⟨fun ho => ⟨h.active id n hn ho, hf id n hn ho⟩, ?_⟩, fun hclosed => ?_⟩
  · rintro ⟨hact, hfresh⟩
    cases ho : n.status with
    | online => rfl
    | offline =>
      obtain ⟨t₁, ht₁, hdue⟩ := h.silent id n hn ho hact
      cases ht₁
      exact absurd hfresh (not_lt.mpr hdue)
  · cases ho : n.status with
    | offline => rfl
    | online =>
      have hact := h.active id n hn ho
      rw [hclosed] at hact
      cases hact

theorem LabState.Fresh.touched (h : s.Fresh t₀) (ht : Touched t₀ s s') : s'.Fresh t₀ := by
  intro id n' hn' ho
  rcases ht.nodes id n' hn' with hn | ⟨hseen, -⟩
  · exact h id n' hn ho
  · rw [hseen, sub_self]
    exact lt_of_lt_of_le (by norm_num [taskTimeoutSeconds]) (taskTimeout_le_staleAfter n')

/-- The state the expiry pass leaves. -/
theorem Recent.expired (h : Recent last s) (hs : Safe w s) (hle : ∀ t ∈ last, t ≤ t₀) :
    ∃ m, expireLocked w t₀ s = .ok ⟨⟩ m ∧ m.Swept w t₀ ∧ Recent (some t₀) m ∧ m.Fresh t₀ := by
  obtain ⟨m, hrun, hcame, hswept⟩ := expireLocked_swept (w := w) t₀ hs
  have hrest := expireLocked_rested t₀ hs
  rw [Prog.wp_run hrun] at hrest
  have htasks : CarriedOn s m := by
    intro id t' ht' hd'
    obtain ⟨t, ht, rfl | hterm⟩ := hcame.unended hs ht'
    · exact ⟨t', ht, hd', rfl, rfl⟩
    · rw [hd'] at hterm; cases hterm
  refine ⟨m, hrun, hswept, ?_, fun id n hn => (hswept.heard id n hn).fresh⟩
  refine (h.mono hle).rests hswept.safe (fun _ ht => ht) hrest htasks ?_
  rintro _ ⟨⟩
  exact hswept.punctual

/-! ### Polls -/

/-- The record of `n` alone was renewed at `t₀`. -/
structure HeardFrom (n : Node) (t₀ : Instant) (s s' : LabState) : Prop where
  others : ∀ k ≠ n.id, s'.nodes.get? k = s.nodes.get? k
  self : ∃ n', s'.nodes.get? n.id = some n' ∧ n'.id = n.id ∧ n'.lastSeenMonotonic = t₀ ∧
    n'.status = .online ∧ n'.sessionActive = n.sessionActive

theorem LabState.wakeNode_heard (n : Node) (t₀ : Instant) (s : LabState) :
    HeardFrom n t₀ s (s.wakeNode w n t₀) := by
  set n' : Node := { n with
    status := .online, lastSeen := w.utcNow s.draws, lastSeenMonotonic := t₀ } with hn'
  have hnodes : (s.wakeNode w n t₀).nodes = s.nodes.set n.id n' := by
    unfold wakeNode
    split <;> simp [hn']
  refine ⟨fun k hk => ?_, n', by rw [hnodes, Dict.get?_set_self], rfl, rfl, rfl, rfl⟩
  rw [hnodes, Dict.get?_set_ne _ _ hk]

theorem HeardFrom.heartbeat {n m : Node} (h : HeardFrom n t₀ s s')
    (hm : s'.nodes.get? n.id = some m) : HeardFrom n t₀ s (s'.heartbeatNode w m t₀) := by
  obtain ⟨m', hm', hid, hseen, honline, hact⟩ := h.self
  rw [hm, Option.some.injEq] at hm'
  subst hm'
  unfold LabState.heartbeatNode
  split
  · refine ⟨fun k hk => ?_, { m with lastHeartbeatEvent := t₀ }, ?_, hid, hseen, honline, hact⟩
    · rw [← h.others k hk]
      simp [hid, hk]
    · simp [hid]
  · exact h

theorem pollSession_heard (hs : Safe w s) {n : Node} (hn : s.nodes.get? n.id = some n)
    (t₀ : Instant) : Prog.wp (pollSession w n t₀) (fun _ s' => HeardFrom n t₀ s s')
      (fun _ _ => False) s := by
  obtain ⟨m, -, hm, -, hbeat, -⟩ := LabState.poll_heard (w := w) hs hn t₀
  have hheard := (LabState.wakeNode_heard n t₀ s).heartbeat (w := w) hm
  have hreply : ∀ (task : Option NodeTask) (s₁ : LabState), HeardFrom n t₀ s s₁ →
      Prog.wp (pollReply w n.id task) (fun _ s' => HeardFrom n t₀ s s') (fun _ _ => False) s₁ := by
    intro task s₁ h₁
    obtain ⟨n', hn', -⟩ := h₁.self
    unfold pollReply
    simp only [Prog.wp_bind, Prog.wp_get, hn', Prog.wp_modify, Prog.wp_pure]
    exact ⟨h₁.others, h₁.self⟩
  unfold pollSession
  simp only [Prog.wp_bind, Prog.wp_modify, hm]
  split
  · exact hreply none _ hheard
  · rename_i hp
    rw [Prog.wp_bind]
    refine Prog.wp_imp (deliverTask_answers hbeat.safe (by simpa using hp) t₀) ?_
    rintro task s₂ ⟨-, hnodes⟩
    refine hreply task s₂ ⟨fun k hk => ?_, ?_⟩
    · rw [hnodes]; exact hheard.others k hk
    · rw [hnodes]; exact hheard.self

/-- A poll of an open session renews its node and hands out work of that node only. -/
theorem pollSession_touched (hs : Safe w s) {n : Node} (hn : s.nodes.get? n.id = some n)
    (ha : n.sessionActive = true) (t₀ : Instant) :
    Prog.wp (pollSession w n t₀) (fun _ s' => Touched t₀ s s') (fun _ _ => False) s := by
  refine Prog.wp_mono (Prog.wp_and (pollSession_heard hs hn t₀) (pollSession_answers hs hn t₀)) ?_
    fun _ _ h => h.1
  rintro r s' ⟨hheard, hans⟩
  generalize r.task = task at hans
  obtain ⟨n₁, hn₁, -, hseen, honline, hact⟩ := hheard.self
  refine ⟨fun k n' hn' => ?_, fun k t' ht' hd' => ?_⟩
  · by_cases hk : k = n.id
    · rw [hk, hn₁, Option.some.injEq] at hn'
      subst hn'
      exact .inr ⟨hseen, honline, hact.trans ha⟩
    · exact .inl (hheard.others k hk ▸ hn')
  · have hsame : ∀ {x}, s.tasks.get? k = some x → x.status = .dispatched →
        ∃ t, s.tasks.get? k = some t ∧ t.status = .dispatched ∧ x.nodeId = t.nodeId ∧
          x.deadline = t.deadline := fun hx hd => ⟨_, hx, hd, rfl, rfl⟩
    cases hans with
    | paused _ htasks => exact .inl (hsame (htasks ▸ ht') hd')
    | nothing _ _ _ htasks => exact .inl (hsame (htasks ▸ ht') hd')
    | @again _ t _ hactive ht htasks =>
      rw [htasks, Dict.get?_set] at ht'
      split at ht'
      · rename_i hk
        cases ht'
        exact .inl ⟨t, hk ▸ ht, (hs.activeTask_recorded hactive).2.2, rfl, rfl⟩
      · exact .inl (hsame ht' hd')
    | @first _ t _ _ hnext ht time htasks =>
      rw [htasks, Dict.get?_set] at ht'
      split at ht'
      · cases ht'
        refine .inr ⟨rfl, fun n' hn' => ?_⟩
        rw [show (t.delivered t₀ time).nodeId = n.id from (hs.nextTask_recorded hnext).2.1, hn₁,
          Option.some.injEq] at hn'
        subst hn'
        exact ⟨hseen, honline⟩
      · exact .inl (hsame ht' hd')

/-! ### Results -/

/-- An accepted result renews its node, which is online. -/
theorem Answered.touched (h : Recent (some t₀) s) (hs : Safe w s) {n : Node}
    (hn : s.nodes.get? n.id = some n) {taskId status : Json} {r : NodeTask}
    (ha : Answered w s n taskId status t₀ r s') : Touched t₀ s s' := by
  cases ha with
  | replayed =>
    exact ⟨fun _ _ hn' => .inl hn', fun _ t' ht' hd' => .inl ⟨t', ht', hd', rfl, rfl⟩⟩
  | @accepted t st _ result _ _ _ ht hnode hd _ _ href =>
    have honline := (h.working _ t n ht hd (hnode ▸ hn)).1
    have hrec : (s.acceptedResult w n t st result t₀).toRecords = _ :=
      LabState.acceptedResult_records hs ht hd t₀
    refine ⟨fun k n' hn' => ?_, fun k t' ht' hd' => ?_⟩
    · rw [href.records, hrec, Dict.get?_set] at hn'
      split at hn'
      · cases hn'
        exact .inr ⟨rfl, honline, h.active _ n hn honline⟩
      · exact .inl hn'
    · rw [href.records, hrec, Dict.get?_set] at ht'
      split at ht'
      · cases ht'
        cases st <;> cases hd'
      · exact .inl ⟨t', ht', hd', rfl, rfl⟩

/-- Only an online node has its result accepted. -/
theorem Answered.offline (h : Recent (some t₀) s) {n : Node} (hn : s.nodes.get? n.id = some n)
    (ho : n.status = .offline) {taskId status : Json} {r : NodeTask}
    (ha : Answered w s n taskId status t₀ r s') : s' = s := by
  cases ha with
  | replayed => rfl
  | @accepted t _ _ _ _ _ _ ht hnode hd =>
    have honline := (h.working _ t n ht hd (hnode ▸ hn)).1
    rw [ho] at honline
    cases honline

theorem Refused.touched {n : Node} (h : Refused w s n s') : Touched t₀ s s' := by
  have hrec : s'.toRecords = s.toRecords := by
    cases h with
    | same => rfl
    | rejected _ reason => simp [LabState.rejectResultLocked]
  refine ⟨fun k n' hn' => .inl ?_, fun k t' ht' hd' => .inl ⟨t', ?_, hd', rfl, rfl⟩⟩
  · rw [hrec] at hn'; exact hn'
  · rw [hrec] at ht'; exact ht'

/-! ### Operations -/

/-- The reading of the monotonic clock an operation takes, if it takes one. -/
def Op.instant : Op → Option Instant
  | enrollNode _ _ _ _ _ _ now | pollNode _ _ now | submitResult _ _ _ _ _ now
  | queueTask _ _ _ _ _ _ now | queueOperation _ _ _ _ _ now | startExercise _ _ _ _ now
  | expire now => some now
  | _ => none

/-- The instant at which an operation runs the expiry pass, if it does. -/
def Op.expiresAt : Op → Option Instant
  | pollNode _ _ now | submitResult _ _ _ _ _ now | expire now => some now
  | _ => none

/-- No poll presents the token drawn for a node when its session was closed, which nobody is
    given. -/
def Op.Unguessed (w : World) (s : LabState) : Op → Prop
  | pollNode nodeId token now => ∀ m n, C2Lab.expire w now s = .ok ⟨⟩ m →
      m.nodes.get? n.id = some n → n.sessionActive = false →
      ¬(nodeId = .str n.id ∧ token = .str n.sessionToken)
  | _ => True

/-- A run in which every operation satisfies `P` and the clock never goes back; `last` is its latest
    reading. -/
inductive Ticking (w : World) (P : LabState → Op → Prop) : Option Instant → LabState → Prop
  | start (stream : String) : Ticking w P none (.init stream)
  | next {last : Option Instant} {s : LabState} (h : Ticking w P last s) (op : Op)
      (hnow : ∀ now ∈ op.instant, ∀ t ∈ last, t ≤ now) (hop : P s op)
      (hf : w.FreshBelow (step w s op).draws) :
      Ticking w P (op.instant <|> last) (step w s op)

theorem Ticking.reachable {P : LabState → Op → Prop} (h : Ticking w P last s) : Reachable w s := by
  induction h with
  | start stream => exact ⟨stream, .refl⟩
  | next _ op _ _ hf ih => exact ih.step hf

/-- What the other operations do keeps the invariant. -/
theorem recent_kept (w : World) (last : Option Instant) :
    Kept w Activity.resting (Recent last) := by
  refine ⟨fun {s s' c} hc hs hf hw h => ?_⟩
  refine h.rests (hw.safe hs fun _ => hf) (fun t ht => by cases ht) (hw.rested hs hc) ?_
    fun t ht => by cases ht
  intro id t' ht' hd'
  rcases (hw.records hs).dispatched ht' hd' with ⟨t, ht, hd, hnode, hdl⟩ | ⟨rfl, -⟩
  · exact ⟨t, ht, hd, hnode, hdl⟩
  · simp [Activity.resting] at hc

/-- An operation that runs the pass. -/
theorem Recent.passed (h : Recent last s) (hs : Safe w s) {op : Op} (hop : op.Unguessed w s)
    (hexp : op.expiresAt = some t₀) (hle : ∀ t ∈ last, t ≤ t₀) :
    Recent (some t₀) (step w s op) ∧ (step w s op).Fresh t₀ := by
  obtain ⟨m, hrun, hswept, hrecent, hfresh⟩ := h.expired hs hle
  have hm := hswept.safe
  have htouched : ∀ {s'}, Touched t₀ m s' → Recent (some t₀) s' ∧ s'.Fresh t₀ := fun ht =>
    ⟨hrecent.touched hm ht, hfresh.touched ht⟩
  cases op with
  | pollNode nodeId token now =>
    cases hexp
    refine Prog.final_map (R := fun s' => Recent (some t₀) s' ∧ s'.Fresh t₀) _ ?_
    unfold pollNode
    rw [Prog.wp_bind, Prog.wp_run hrun, Prog.wp_bind]
    refine Prog.wp_mono (requireNodeSession_wp hm nodeId token) ?_ ?_
    · rintro n m ⟨rfl, hsess⟩
      have hopen : n.sessionActive = true := by
        by_contra hclosed
        exact hop m n hrun hsess.recorded (by simpa using hclosed)
          ⟨hsess.node_eq, hsess.token_eq⟩
      exact Prog.wp_mono (pollSession_touched hm hsess.recorded hopen t₀)
        (fun _ _ ht => htouched ht) fun _ _ hf => hf.elim
    · rintro _ _ rfl
      exact ⟨hrecent, hfresh⟩
  | submitResult nodeId token taskId status result now =>
    cases hexp
    refine Prog.final_map (R := fun s' => Recent (some t₀) s' ∧ s'.Fresh t₀) _ ?_
    unfold submitResult
    rw [Prog.wp_bind, Prog.wp_run hrun, Prog.wp_bind]
    refine Prog.wp_mono (requireNodeSession_wp hm nodeId token) ?_ ?_
    · rintro n _ ⟨rfl, hsess⟩
      exact Prog.wp_mono (submitSession_answers hm hsess.recorded taskId status result t₀)
        (fun _ _ ha => htouched (ha.touched hrecent hm hsess.recorded))
        fun _ _ hr => htouched hr.touched
    · rintro _ _ rfl
      exact ⟨hrecent, hfresh⟩
  | expire now =>
    cases hexp
    have hstep : step w s (.expire t₀) = m := by
      rw [step, Op.run, Prog.final, show C2Lab.expire w t₀ s = _ from hrun]
    rw [hstep]
    exact ⟨hrecent, hfresh⟩
  | _ => cases hexp

/-- A newly added node was heard when it enrolled. -/
theorem Recent.added (h : Recent last s) (hs : Safe w s) (hle : ∀ t ∈ last, t ≤ t₀)
    (e : Enrollment) : Recent (some t₀) (s.addNode w (s.newNode w e t₀)) := by
  refine (h.mono hle).touched hs ⟨fun id n' hn' => ?_, fun id t' ht' hd' => ?_⟩
  · simp only [LabState.addNode, LabState.toRecords_auditLocked, LabState.toRecords_recordLocked,
      LabState.toRecords_setNode, LabState.toRecords_tick, Dict.get?_set] at hn'
    split at hn'
    · cases hn'
      exact .inr ⟨rfl, rfl, rfl⟩
    · exact .inl hn'
  · refine .inl ⟨t', ?_, hd', rfl, rfl⟩
    simpa [LabState.addNode] using ht'

theorem Recent.enrolled (h : Recent last s) (hs : Safe w s)
    {name version profile capabilities interval jitter : Json} (hle : ∀ t ∈ last, t ≤ t₀)
    (hf : w.FreshBelow
      (step w s (.enrollNode name version profile capabilities interval jitter t₀)).draws) :
    Recent (some t₀)
      (step w s (.enrollNode name version profile capabilities interval jitter t₀)) := by
  have hwp : Prog.wp (enrollNode w name version profile capabilities interval jitter t₀)
      (fun _ s' => w.FreshBelow s'.draws → Recent (some t₀) s')
      (fun _ s' => w.FreshBelow s'.draws → Recent (some t₀) s') s := by
    refine Prog.wp_mono (enrollNode_wp hs name version profile capabilities interval jitter t₀)
      ?_ ?_
    · rintro _ s' ⟨e, hv, henrolled⟩ hf'
      cases henrolled with
      | added => exact h.added hs hle e
      | @replaced n s₁ hfull hn hc hs₁ =>
        -- the node that went had no work left
        have hw : Write w s .enroll s₁ := hs₁ ▸ .pruneNode hn hc
        have hsafe : Safe w s₁ := hw.safe hs fun _ => hf'.mono (Write.addNode hv t₀).draws_le
        have hrest : Rested none s s₁ := by
          intro id n' hn'
          rw [hs₁] at hn'
          simp only [LabState.pruneNode, LabState.toRecords_auditLocked,
            LabState.toRecords_recordLocked, Dict.get?_erase] at hn'
          split at hn'
          · cases hn'
          · exact ⟨n', hn', .refl n'⟩
        have htasks : CarriedOn s s₁ := by
          intro id t' ht' hd'
          refine ⟨t', ?_, hd', rfl, rfl⟩
          rw [hs₁] at ht'
          simpa [LabState.pruneNode] using ht'
        exact (h.rests hsafe (fun t ht => by cases ht) hrest htasks
          fun t ht => by cases ht).added hsafe hle e
    · rintro _ _ rfl _
      exact h.mono hle
  exact Prog.final_map (R := fun s' => w.FreshBelow s'.draws → Recent (some t₀) s') _ hwp hf

/-- Every operation keeps the invariant, the clock going on. -/
theorem Recent.step (h : Recent last s) (hs : Sound w s) {op : Op}
    (hnow : ∀ now ∈ op.instant, ∀ t ∈ last, t ≤ now) (hop : op.Unguessed w s)
    (hf : w.FreshBelow (step w s op).draws) : Recent (op.instant <|> last) (C2Lab.step w s op) := by
  have hplain : ∀ {last : Option Instant}, Recent last s →
      (∀ c ∈ op.activities, c ∈ Activity.resting) → (∀ s', Ran w s op s' →
      Writes w op.activities s s') → Recent last (C2Lab.step w s op) := by
    intro last h hacts hran
    have hw := hran _ (step_ends hs.safe hs.settled op).ran
    exact (recent_kept w last).writes (hw.mono hacts) hs.safe hf h
  have hwrites : op.expiresAt = none → ∀ s', Ran w s op s' → Writes w op.activities s s' := by
    intro hnone s' hran
    cases hran with
    | plain hw => exact hw
    | delivered => cases hnone
    | accepted => cases hnone
  cases op with
  | pollNode | submitResult | expire => exact (h.passed hs.safe hop rfl (hnow _ rfl)).1
  | enrollNode => exact h.enrolled hs.safe (hnow _ rfl) hf
  | queueTask | queueOperation | startExercise =>
    exact hplain (h.mono (hnow _ rfl)) (by simp [Op.activities, Activity.resting]) (hwrites rfl)
  | _ => exact hplain h (by simp [Op.activities, Activity.resting]) (hwrites rfl)

theorem Ticking.recent (h : Ticking w (fun s op => op.Unguessed w s) last s) : Recent last s := by
  induction h with
  | start stream => exact recent_init stream
  | next hbefore op hnow hop hf ih => exact ih.step hbefore.reachable.sound hnow hop hf

/-- Online means recently heard. In a run whose clock never goes back and in which nobody guesses
    the token of a closed session, right after every operation that ran the expiry pass the nodes
    shown online are those heard recently in an open session; an offline node never has a dispatched
    task, and what it submits is a replay at best. -/
theorem online_heard (h : Ticking w (fun s op => op.Unguessed w s) last s) :
    (∀ (op : Op) t₀, op.expiresAt = some t₀ → (∀ t ∈ last, t ≤ t₀) → op.Unguessed w s →
      (C2Lab.step w s op).Present t₀) ∧
    (∀ id t n, s.tasks.get? id = some t → t.status = .dispatched →
      s.nodes.get? t.nodeId = some n → n.status = .online) ∧
    ∀ id token taskId status (result : Document) t₀ m n reply s', (∀ t ∈ last, t ≤ t₀) →
      expire w t₀ s = .ok ⟨⟩ m → m.nodes.get? id = some n → n.status = .offline →
      submitResult w (.str id) token taskId status result.1 t₀ s = .ok reply s' → s' = m := by
  have hrecent := h.recent
  have hs := h.reachable.sound.safe
  refine ⟨fun op t₀ hexp hle hop => ?_, fun id t n ht hd hn => (hrecent.working id t n ht hd hn).1,
    ?_⟩
  · obtain ⟨hrec, hfresh⟩ := hrecent.passed hs hop hexp hle
    exact hrec.present hfresh
  · intro id token taskId status result t₀ m n reply s' hle hexp hn ho hok
    obtain ⟨m', hrun, hswept, hrec, -⟩ := hrecent.expired hs hle
    have hmm : m = m' := by
      rw [show expireLocked w t₀ s = _ from hexp] at hrun
      cases hrun
      rfl
    subst hmm
    have hwp : Prog.wp (submitResult w (.str id) token taskId status result.1 t₀)
        (fun _ s' => s' = m) (fun _ _ => True) s := by
      unfold submitResult
      rw [Prog.wp_bind, Prog.wp_run hrun, Prog.wp_bind]
      refine Prog.wp_mono (requireNodeSession_wp hswept.safe (.str id) token) ?_
        fun _ _ _ => trivial
      rintro n' _ ⟨rfl, hsess⟩
      have hid : id = n'.id := Json.str.inj hsess.node_eq
      have hsame : n = n' := by
        rw [hid, hsess.recorded, Option.some.injEq] at hn
        exact hn.symm
      subst hsame
      exact Prog.wp_mono (submitSession_answers hswept.safe hsess.recorded taskId status result t₀)
        (fun _ _ ha => ha.offline hrec hsess.recorded ho) fun _ _ _ => trivial
    rwa [Prog.wp_run hok] at hwp

namespace Counting

/-- One more operation of a run in the counting world. -/
theorem ticking_next {P : LabState → Op → Prop} {last : Option Instant} {s : LabState}
    (h : Ticking .counting P last s) (op : Op) (hnow : ∀ now ∈ op.instant, ∀ t ∈ last, t ≤ now)
    (hop : P s op) (hd : (step .counting s op).draws ≤ 10 ^ 10) :
    Ticking .counting P (op.instant <|> last) (step .counting s op) :=
  h.next op hnow hop (World.counting_fresh hd)

/-- A Node is handed a task at 11. -/
theorem ticking_handed : Ticking .counting (fun s op => op.Unguessed .counting s) (some 11)
    (exec .counting (.init "stream") [enroll, queue .ping (.obj []), poll 11]) := by
  let s := exec .counting (.init "stream") [enroll, queue .ping (.obj [])]
  obtain ⟨hdraws, hdraws', hopen⟩ : s.draws ≤ 10 ^ 10 ∧
      (step .counting s (poll 11)).draws ≤ 10 ^ 10 ∧
      (Prog.final (expire .counting 11) s).nodes.values.all (·.sessionActive) = true := by
    decide +kernel
  have henroll := ticking_next (P := fun s op => op.Unguessed .counting s) (.start "stream") enroll
    (by simp) trivial (by decide)
  have hqueue := ticking_next henroll (queue .ping (.obj []))
    (by simp [queue, enroll, Op.instant]) trivial hdraws
  refine ticking_next hqueue (poll 11) (by norm_num [poll, queue, enroll, Op.instant]) ?_ hdraws'
  intro m n hexp hn hclosed
  have hexp' : expire .counting 11 (exec .counting (.init "stream")
      [enroll, queue .ping (.obj [])]) = .ok ⟨⟩ m := hexp
  rw [Prog.final, hexp', List.all_eq_true] at hopen
  rw [hopen n (Dict.mem_values.mpr ⟨_, hn⟩)] at hclosed
  cases hclosed

end Counting

/-- The rule at a Node that was handed a task. -/
theorem online_heard_handed :
    let s := exec .counting (.init "stream")
      [Counting.enroll, Counting.queue .ping (.obj []), Counting.poll 11]
    (step .counting s (.expire 12)).Present 12 ∧
      ∀ id t n, s.tasks.get? id = some t → t.status = .dispatched →
        s.nodes.get? t.nodeId = some n → n.status = .online := by
  intro s
  obtain ⟨hpresent, hworking, -⟩ := online_heard Counting.ticking_handed
  exact ⟨hpresent (.expire 12) 12 rfl (by norm_num) trivial, hworking⟩

/-- Whoever presents the token drawn when a session was closed has its node shown online. -/
theorem online_heard_guessed :
    let s := exec .counting (.init "stream") [Counting.enroll, .expire 100]
    let op := Op.pollNode Counting.nodeId (.str (.text (World.counting.token 9))) 101
    Ticking .counting (fun _ _ => True) (some 100) s ∧ op.expiresAt = some 101 ∧
      World.counting.FreshBelow (step .counting s op).draws ∧
      ¬(step .counting s op).Present 101 := by
  intro s op
  obtain ⟨hdraws, hdraws', hclosed⟩ : s.draws ≤ 10 ^ 10 ∧
      (step .counting s op).draws ≤ 10 ^ 10 ∧
      ((step .counting s op).nodes.get? (World.counting.nodeId 0)).map
        (fun n => (n.status, n.sessionActive)) = some (.online, false) := by decide +kernel
  have henroll := Counting.ticking_next (P := fun _ _ => True) (.start "stream") Counting.enroll
    (by simp) trivial (by decide)
  have hexpire := Counting.ticking_next henroll (.expire 100)
    (by norm_num [Counting.enroll, Op.instant]) trivial hdraws
  refine ⟨hexpire, rfl, World.counting_fresh hdraws', fun h => ?_⟩
  obtain ⟨n, hn, heq⟩ := Option.map_eq_some_iff.mp hclosed
  rw [Prod.mk.injEq] at heq
  have hoff := (h _ n hn).2 heq.2
  rw [heq.1] at hoff
  cases hoff

end C2Lab
