import C2Lab.Core.Counting
import C2Lab.Core.Ended

/-! The effects of results over a whole run.

    The history of a run is its states, the latest first. The tasks that ended in it are read off
    consecutive states; the counters and settings of a retained node and the generated events are
    exactly what these tasks account for. -/

namespace C2Lab

variable {w : World} {s s' : LabState} {acts : List Activity} {past : List LabState} {hi : ℕ}

/-! ### One operation -/

/-- Calm writes end no task. -/
theorem Writes.ended_nil (h : Writes w acts s s') (hs : Safe w s) (hf : w.FreshBelow s'.draws)
    (hc : ∀ c ∈ acts, c.calm = true) (hd : .dispatch ∉ acts) : s.ended s' = [] := by
  rw [List.eq_nil_iff_forall_not_mem]
  intro t' hmem
  obtain ⟨hval, hterm, t₀, h₀, hl₀⟩ := LabState.mem_ended.mp hmem
  obtain ⟨id, hid⟩ := Dict.mem_values.mp hval
  rw [← (h.safe hs hf).task_key hid] at hid
  obtain ⟨t, ht, hpass⟩ := h.task hs hf hd (hs.task_drawn h₀) hid
  rw [h₀, Option.some.injEq] at ht
  subst ht
  rcases hpass.status with heq | ⟨c, hmem, hends⟩
  · rw [heq, hl₀] at hterm; cases hterm
  · have := hends.not_calm
    rw [hc c hmem] at this; cases this

/-- A node record that was just drawn, nothing counted on it yet. -/
structure Node.New (w : World) (lo hi : ℕ) (id : PyStr) (n : Node) : Prop where
  drawn : ∃ k, lo ≤ k ∧ k < hi ∧ id = w.nodeId k
  completed : n.tasksCompleted = 0
  failed : n.tasksFailed = 0

theorem RecordChange.nodes_kept {c : Activity} {r : Records} (h : RecordChange w s hi c r)
    (hc : c.steady = false) :
    r.nodes.All fun id n => s.nodes.get? id = some n ∨ n.New w s.draws hi id := by
  have hsame : s.nodes.All fun id n => s.nodes.get? id = some n ∨ n.New w s.draws hi id :=
    fun _ _ hn => .inl hn
  cases h with
  | kept | rememberedOperation | addedTask | addedExercise | prunedTask => exact hsame
  | prunedNode => exact hsame.erase
  | addedNode hv now hk => exact hsame.set (.inr ⟨⟨s.draws, le_rfl, by omega, rfl⟩, rfl, rfl⟩)
  | cleared => exact Dict.all_empty
  | touchedNode h => rcases h with rfl | rfl | rfl <;> cases hc
  | closedNode h => rcases h with rfl | rfl <;> cases hc
  | endedTask h => rw [h.steady] at hc; cases hc
  | failedTask h => rw [h.steady] at hc; cases hc
  | _ => cases hc

theorem Writes.nodes_kept (h : Writes w acts s s') (hs : Safe w s) (hf : w.FreshBelow s'.draws)
    (hacts : ∀ c ∈ acts, c.steady = false) :
    s'.nodes.All fun id n => s.nodes.get? id = some n ∨ n.New w s.draws s'.draws id := by
  induction h with
  | refl => exact fun _ _ hn => .inl hn
  | @tail m m' hbefore hstep ih =>
    obtain ⟨c, hc, hw⟩ := hstep
    have hfm := hf.mono hw.draws_le
    intro id n hn
    rcases (hw.records (Writes.safe hbefore hs hfm)).nodes_kept (hacts c hc) id n hn with hm | hnew
    · refine (ih hfm id n hm).imp_right fun ⟨⟨k, hlo, hhi, hid⟩, h₁, h₂⟩ => ?_
      exact ⟨⟨k, hlo, hhi.trans_le hw.draws_le, hid⟩, h₁, h₂⟩
    · obtain ⟨⟨k, hlo, hhi, hid⟩, h₁, h₂⟩ := hnew
      exact .inr ⟨⟨k, (Writes.draws_le hbefore).trans hlo, hhi, hid⟩, h₁, h₂⟩

theorem Writes.generated_eq (h : Writes w acts s s') (hs : Safe w s) (hf : w.FreshBelow s'.draws)
    (hacts : .result ∉ acts) : s'.generated = s.generated := by
  induction h with
  | refl => rfl
  | @tail m m' hbefore hstep ih =>
    obtain ⟨c, hc, hw⟩ := hstep
    have hfm := hf.mono hw.draws_le
    rw [hw.generated (Writes.safe hbefore hs hfm) fun he => hacts (he ▸ hc), ih hfm]

/-- What an operation did: `l` lists the tasks that ended in it, at most one of them completed. -/
structure Ran.Effects (w : World) (s s' : LabState) (l : List Task) : Prop where
  ended : (s.ended s').Perm l
  completed : (l.filter (·.status = .completed)).length ≤ 1
  nodes : ∀ id n', s'.nodes.get? id = some n' →
    (∃ n, s.nodes.get? id = some n ∧ n.Charged l id n') ∨ l = [] ∧ n'.New w s.draws s'.draws id
  generated : s'.generated = s.generated ++ (l.filter (·.generates)).map fun t => some t.id

/-- An operation made of calm writes that may add and remove records. -/
theorem Writes.effects_unsteady (h : Writes w acts s s') (hs : Safe w s)
    (hf : w.FreshBelow s'.draws) (hcalm : ∀ c ∈ acts, c.calm = true)
    (hacts : ∀ c ∈ acts, c.steady = false) : Ran.Effects w s s' [] where
  ended := by
    rw [h.ended_nil hs hf hcalm fun hd => by cases hacts _ hd]
  completed := by simp
  nodes id n' hn' := (h.nodes_kept hs hf hacts id n' hn').imp
    (fun hn => ⟨n', hn, .same rfl rfl rfl rfl⟩) fun hnew => ⟨rfl, hnew⟩
  generated := by
    rw [h.generated_eq hs hf fun hr => by cases hacts _ hr]
    simp

/-- An operation that neither adds nor removes records. -/
theorem Accounts.effects {l : List Task} (h : Accounts s s' l)
    (hc : (l.filter (·.status = .completed)).length ≤ 1) : Ran.Effects w s s' l :=
  ⟨h.ended, hc, fun id n' hn' => .inl (h.nodes id n' hn'), h.generated⟩

theorem Writes.effects_steady (h : Writes w acts s s') (hs : Safe w s)
    (hf : w.FreshBelow s'.draws) (hacts : ∀ c ∈ acts, c.steady = true) (hr : .result ∉ acts) :
    ∃ l, Ran.Effects w s s' l := by
  obtain ⟨l, hacc, hcomp⟩ := (Accounts.refl hs).writes hs h hacts hf
  refine ⟨_, hacc.effects ?_⟩
  rw [List.nil_append, List.filter_eq_nil_iff.mpr]
  · simp
  · intro t ht hdone
    exact hr (hcomp t ht (by simpa using hdone))

theorem Ran.effects {op : Op} (h : Ran w s op s') (hs : Safe w s) (hf : w.FreshBelow s'.draws) :
    ∃ l, Ran.Effects w s s' l := by
  cases h with
  | plain h =>
    cases op with
    | enrollNode | queueTask | queueOperation | startExercise | reset =>
      exact ⟨[], Writes.effects_unsteady h hs hf (by simp [Op.activities, Activity.calm])
        (by simp [Op.activities, Activity.steady])⟩
    | _ =>
      exact h.effects_steady hs hf (by simp [Op.activities, Activity.steady])
        (by simp [Op.activities])
  | @delivered _ _ _ m m' h hd =>
    have hall : Writes w [.expiry, .refresh, .poll, .dispatch] s m'.tick :=
      ((h.mono (by simp)).write hd (by simp)).write (.tick .poll) (by simp)
    exact hall.effects_steady hs hf (by simp [Activity.steady]) (by simp)
  | @accepted _ _ _ _ _ _ m m' _ h hr hw =>
    have hf' := hf.mono hw.draws_le
    have hfm := hf'.mono hr.draws_le
    have hsm := h.safe hs hfm
    obtain ⟨l₁, hacc₁, hcomp₁⟩ := (Accounts.refl hs).writes hs h (by simp [Activity.steady]) hfm
    obtain ⟨l₂, hwork, hgen⟩ := hr.worked hsm rfl
    have hacc₂ := hacc₁.worked hwork hgen
    obtain ⟨l₃, hacc₃, hcomp₃⟩ := hacc₂.writes (hr.safe hsm fun hc => by cases hc) hw
      (by simp [Activity.steady]) hf
    refine ⟨_, hacc₃.effects ?_⟩
    -- only the result itself completes a task
    have hnil : ∀ l : List Task, (∀ t ∈ l, t.status ≠ .completed) →
        l.filter (·.status = .completed) = [] := fun l hl =>
      List.filter_eq_nil_iff.mpr fun t ht => by simpa using hl t ht
    rw [List.filter_append, List.filter_append, List.nil_append,
      hnil l₁ fun t ht hdone => by simpa using hcomp₁ t ht hdone,
      hnil l₃ fun t ht hdone => by simpa using hcomp₃ t ht hdone]
    simpa using (List.length_filter_le _ _).trans hwork.length_le

/-! ### The order of the tasks that ended together -/

theorem perm_eq_of_short {α : Type} {l l' : List α} (h : l.Perm l') (hlen : l.length ≤ 1) :
    l = l' := by
  match l, hlen with
  | [], _ => exact h.nil_eq
  | [a], _ => exact (List.perm_singleton.mp h.symm).symm

/-- Only completed tasks sleep or generate. -/
theorem Task.short_of_completed {l : List Task} (h : (l.filter (·.status = .completed)).length ≤ 1)
    (id : PyStr) :
    (l.filterMap (·.sleptTo id)).length ≤ 1 ∧ (l.filter (·.generates)).length ≤ 1 := by
  have hslept : l.filterMap (·.sleptTo id) =
      (l.filter (·.status = .completed)).filterMap (·.sleptTo id) := by
    rw [List.filterMap_filter]
    refine List.filterMap_congr fun t _ => ?_
    unfold Task.sleptTo Task.completedBy
    split <;> by_cases hc : t.status = .completed <;> simp [hc]
  have hgen : l.filter (·.generates) =
      (l.filter (·.status = .completed)).filter (·.generates) := by
    rw [List.filter_filter]
    refine List.filter_congr fun t _ => ?_
    by_cases hc : t.status = .completed <;> simp [Task.generates, hc]
  exact ⟨hslept ▸ (List.length_filterMap_le _ _).trans h,
    hgen ▸ (List.length_filter_le _ _).trans h⟩

/-- The order among tasks that ended in one operation does not matter. -/
theorem Ran.Effects.reorder {l : List Task} (h : Ran.Effects w s s' l) :
    Ran.Effects w s s' (s.ended s') where
  ended := .refl _
  completed := ((h.ended.filter _).length_eq).trans_le h.completed
  nodes id n' hn' := by
    refine (h.nodes id n' hn').imp (fun ⟨n, hn, hc⟩ => ⟨n, hn, ?_⟩) fun ⟨hl, hnew⟩ => ⟨?_, hnew⟩
    · have hslept := perm_eq_of_short (h.ended.symm.filterMap (·.sleptTo id))
        (Task.short_of_completed h.completed id).1
      exact ⟨by rw [hc.completed, h.ended.countP_eq], by rw [hc.failed, h.ended.countP_eq],
        by rw [hc.settings, hslept]⟩
    · exact List.perm_nil.mp (hl ▸ h.ended)
  generated := by
    rw [h.generated, perm_eq_of_short (h.ended.symm.filter (·.generates))
      (Task.short_of_completed h.completed "").2]

/-! ### The history of a run -/

/-- The tasks that ended in a run, the earliest first; its states are given latest first. -/
def endings : List LabState → List Task
  | s' :: s :: past => endings (s :: past) ++ s.ended s'
  | _ => []

/-- The record a node got when it was enrolled: the earliest one in a run. -/
def enrolledAs (id : PyStr) (states : List LabState) : Option Node :=
  (states.filterMap (·.nodes.get? id)).getLast?

/-- What a run accounts for; `states` ends in `s`. -/
structure Ledger (w : World) (states : List LabState) (s : LabState) : Prop where
  nodup : ((endings states).map (·.id)).Nodup
  ids : ∀ t ∈ endings states, w.TaskDrawn s.draws t.id
  owners : ∀ t ∈ endings states, ∃ k < s.draws, t.nodeId = w.nodeId k
  frozen : ∀ t ∈ endings states, ∀ t', s.tasks.get? t.id = some t' → t'.status.isTerminal = true
  drawn : ∀ u ∈ states, u.nodes.All fun id _ => ∃ k < s.draws, id = w.nodeId k
  nodes : ∀ id n, s.nodes.get? id = some n → ∃ n₀, enrolledAs id states = some n₀ ∧
    n₀.tasksCompleted = 0 ∧ n₀.tasksFailed = 0 ∧ n₀.Charged (endings states) id n
  generated : s.generated = ((endings states).filter (·.generates)).map fun t => some t.id

theorem ledger_start (stream : String) : Ledger w [.init stream] (.init stream) where
  nodup := .nil
  ids := by simp [endings]
  owners := by simp [endings]
  frozen := by simp [endings]
  drawn u hu := by
    rw [List.mem_singleton.mp hu]
    exact Dict.all_empty
  nodes id n hn := by cases hn
  generated := rfl

/-- The identifiers of the tasks that ended in one operation are distinct. -/
theorem Safe.ended_nodup (hs : Safe w s') : ((s.ended s').map (·.id)).Nodup := by
  have hkeys : s'.tasks.values.map (·.id) = s'.tasks.keys :=
    Dict.map_values_eq_keys fun _ _ ht => hs.task_key ht
  exact (hkeys ▸ s'.tasks.keys_nodup).sublist (List.filter_sublist.map _)

/-- A task that ended is recorded under its identifier, and had not ended before. -/
theorem Safe.of_ended (hs : Safe w s') {t : Task} (h : t ∈ s.ended s') :
    s'.tasks.get? t.id = some t ∧ t.status.isTerminal = true ∧
      ∃ t₀, s.tasks.get? t.id = some t₀ ∧ t₀.status.isTerminal = false := by
  obtain ⟨hval, hrest⟩ := LabState.mem_ended.mp h
  obtain ⟨id, hid⟩ := Dict.mem_values.mp hval
  exact ⟨hs.task_key hid ▸ hid, hrest⟩

/-- An enrolled node keeps its first record; a new one gets it. -/
theorem enrolledAs_cons {id : PyStr} {states : List LabState} {n₀ : Node}
    (h : enrolledAs id states = some n₀) (u : LabState) :
    enrolledAs id (u :: states) = some n₀ := by
  unfold enrolledAs at h ⊢
  rw [List.filterMap_cons]
  split
  · exact h
  · rw [List.getLast?_cons, h]; rfl

theorem enrolledAs_new {id : PyStr} {states : List LabState} {u : LabState} {n : Node}
    (h : ∀ v ∈ states, v.nodes.get? id = none) (hn : u.nodes.get? id = some n) :
    enrolledAs id (u :: states) = some n := by
  have hnil : states.filterMap (·.nodes.get? id) = [] := List.filterMap_eq_nil_iff.mpr h
  rw [enrolledAs, List.filterMap_cons, hn, hnil]
  rfl

/-- A task of another node changes nothing on a node. -/
theorem Node.Charged.others {id : PyStr} (n : Node) {l : List Task}
    (h : ∀ t ∈ l, t.nodeId ≠ id) : n.Charged l id n := by
  induction l with
  | nil => exact .same rfl rfl rfl rfl
  | cons t l ih =>
    exact (Node.Charged.other (h t (by simp))).trans (ih fun x hx => h x (by simp [hx]))

theorem Ledger.step {op : Op} (h : Ledger w (s :: past) s) (hs : Safe w s) (hs' : Safe w s')
    (hran : Ran w s op s') (hf : w.FreshBelow s'.draws) : Ledger w (s' :: s :: past) s' := by
  obtain ⟨l, heff⟩ := hran.effects hs hf
  have heff := heff.reorder
  have hle := hran.draws_le
  refine ⟨?_, ?_, ?_, ?_, ?_, ?_, ?_⟩
  · rw [endings, List.map_append]
    refine List.nodup_append.mpr ⟨h.nodup, hs'.ended_nodup, ?_⟩
    rintro _ hold _ hnew rfl
    obtain ⟨t, ht, hid⟩ := List.mem_map.mp hold
    obtain ⟨t', ht', hid'⟩ := List.mem_map.mp hnew
    obtain ⟨-, -, t₀, h₀, hl₀⟩ := hs'.of_ended ht'
    -- what ended before does not end again
    have := h.frozen t ht t₀ (hid.trans hid'.symm ▸ h₀)
    rw [hl₀] at this; cases this
  · intro t ht
    rcases List.mem_append.mp ht with ht | ht
    · obtain ⟨k, hk, hid⟩ := h.ids t ht
      exact ⟨k, hk.trans_le hle, hid⟩
    · exact hs'.task_drawn (hs'.of_ended ht).1
  · intro t' ht'
    rcases List.mem_append.mp ht' with ht' | ht'
    · obtain ⟨k, hk, hid⟩ := h.owners t' ht'
      exact ⟨k, hk.trans_le hle, hid⟩
    · obtain ⟨hget, -, t₀, h₀, hl₀⟩ := hs'.of_ended ht'
      obtain ⟨t, ht, hstep⟩ := hran.task hs hf (hs.task_drawn h₀) hget
      rw [h₀, Option.some.injEq] at ht
      subst ht
      obtain ⟨n, hn, -⟩ := hs.owned _ _ h₀ hl₀
      obtain ⟨k, hk, hid⟩ := (hs.nodes _ _ hn).drawn
      have hnode : t'.request.nodeId = t₀.request.nodeId :=
        congrArg Task.nodeId hstep.request_eq
      exact ⟨k, hk.trans_le hle, hnode.trans hid⟩
  · intro t ht t' ht'
    rcases List.mem_append.mp ht with ht | ht
    · obtain ⟨t₀, h₀, hstep⟩ := hran.task hs hf (h.ids t ht) ht'
      have hterm := h.frozen t ht t₀ h₀
      rw [hstep.frozen hterm]
      exact hterm
    · obtain ⟨hget, hterm, -⟩ := hs'.of_ended ht
      rw [hget, Option.some.injEq] at ht'
      exact ht' ▸ hterm
  · intro u hu
    rcases List.mem_cons.mp hu with rfl | hu
    · exact fun id n hn => (hs'.nodes _ _ hn).drawn
    · exact (h.drawn u hu).imp fun id n _ ⟨k, hk, hid⟩ => ⟨k, hk.trans_le hle, hid⟩
  · intro id n' hn'
    rcases heff.nodes id n' hn' with ⟨n, hn, hc⟩ | ⟨hnil, hnew⟩
    · obtain ⟨n₀, h₀, hz₁, hz₂, hc₀⟩ := h.nodes id n hn
      exact ⟨n₀, enrolledAs_cons h₀ s', hz₁, hz₂, hc₀.trans hc⟩
    · obtain ⟨k, hlo, hhi, rfl⟩ := hnew.drawn
      have hfresh : ∀ j < s.draws, w.nodeId k ≠ w.nodeId j := fun j hj he => by
        have := hf.ident_inj (le_refl 10) hhi (by omega) he
        omega
      refine ⟨n', enrolledAs_new (fun v hv => ?_) hn', hnew.completed, hnew.failed, ?_⟩
      · rw [Option.eq_none_iff_forall_ne_some]
        intro n hn
        obtain ⟨j, hj, hid⟩ := h.drawn v hv _ _ hn
        exact hfresh j hj hid
      · rw [endings, hnil, List.append_nil]
        refine .others n' fun t ht he => ?_
        obtain ⟨j, hj, hid⟩ := h.owners t ht
        exact hfresh j hj (he.symm.trans hid)
  · rw [heff.generated, h.generated, endings, List.filter_append, List.map_append]

theorem Run.ledger (h : Run w past s) : Ledger w (s :: past) s := by
  induction h with
  | start stream => exact ledger_start stream
  | next h op hf ih =>
    have hs := h.reachable.sound
    exact ih.step hs.safe (step_sound hs op hf).safe (step_ends hs.safe hs.settled op).ran hf

/-- The effects of results happen exactly once. In every run no task ends twice; a retained node has
    completed and failed as many tasks as ended so in the run, and has the poll settings of the last
    `SLEEP` it completed, or of its enrollment; and the generated events are one for each completed
    `GENERATE_EVENT`, in order. -/
theorem result_effects (h : Run w past s) :
    ((endings (s :: past)).map (·.id)).Nodup ∧
    (∀ id n, s.nodes.get? id = some n → ∃ n₀, enrolledAs id (s :: past) = some n₀ ∧
      n.tasksCompleted = (endings (s :: past)).countP (·.completedBy id) ∧
      n.tasksFailed = (endings (s :: past)).countP (·.failedBy id) ∧
      (n.pollIntervalMs, n.jitterPercent) =
        ((endings (s :: past)).filterMap (·.sleptTo id)).getLast?.getD
          (n₀.pollIntervalMs, n₀.jitterPercent)) ∧
    s.generated = ((endings (s :: past)).filter (·.generates)).map fun t => some t.id := by
  have hl := h.ledger
  refine ⟨hl.nodup, fun id n hn => ?_, hl.generated⟩
  obtain ⟨n₀, h₀, hz₁, hz₂, hc⟩ := hl.nodes id n hn
  refine ⟨n₀, h₀, ?_, ?_, hc.settings⟩
  · rw [hc.completed, hz₁, Nat.zero_add]
  · rw [hc.failed, hz₂, Nat.zero_add]

/-- A `SLEEP` accepted by the Teamserver counts once on its node. -/
theorem result_effects_sleep :
    let ops := [Counting.enroll,
      Counting.queue .sleep (.obj [("interval_ms", .int 2000), ("jitter_percent", .int 0)]),
      Counting.poll 11,
      Counting.submit 6 .completed ⟨.obj [("previous_interval_ms", .int 1000),
        ("new_interval_ms", .int 2000), ("jitter_percent", .int 0)], by decide⟩ 12]
    let s := exec .counting (.init "stream") ops
    let l := endings (s :: passed .counting (.init "stream") ops)
    s.nodes.values.map (fun n => (n.tasksCompleted, n.pollIntervalMs)) = [(1, 2000)] ∧
      ∀ id n, s.nodes.get? id = some n → n.tasksCompleted = l.countP (·.completedBy id) := by
  refine ⟨by decide +kernel, fun id n hn => ?_⟩
  obtain ⟨-, -, hc, -⟩ :=
    (result_effects (World.counting_run "stream" _ (by decide +kernel))).2.1 id n hn
  exact hc

end C2Lab
