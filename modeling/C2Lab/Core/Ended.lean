import Mathlib.Data.List.Perm.Basic
import C2Lab.Core.Lifecycle

/-! The tasks that end between two states, and what that does to the nodes.

    A write ends at most one task. The counters of a node move with the tasks that ended, whichever
    part of the program ended them; its settings and the generated events move with the accepted
    results alone. -/

namespace C2Lab

variable {w : World} {s s' s₁ s₂ : LabState} {acts : List Activity} {hi : ℕ}

/-- The tasks that ended since `s`, as `s'` records them. -/
def LabState.ended (s s' : LabState) : List Task :=
  s'.tasks.values.filter fun t => t.status.isTerminal &&
    (s.tasks.get? t.id).any fun t₀ => !t₀.status.isTerminal

theorem LabState.mem_ended {t : Task} : t ∈ s.ended s' ↔ t ∈ s'.tasks.values ∧
    t.status.isTerminal = true ∧ ∃ t₀, s.tasks.get? t.id = some t₀ ∧
      t₀.status.isTerminal = false := by
  simp only [LabState.ended, List.mem_filter, Bool.and_eq_true, Option.any_eq_true,
    Bool.not_eq_true']

theorem LabState.ended_congr (h : s₂.tasks = s₁.tasks) : s.ended s₂ = s.ended s₁ := by
  rw [LabState.ended, LabState.ended, h]

/-- One task of `s` that had not ended is rewritten. -/
theorem LabState.ended_set {t t' t₀ : Task} (ht : s₁.tasks.get? t.id = some t)
    (hl : t.status.isTerminal = false) (hid : t'.id = t.id) (h₀ : s.tasks.get? t.id = some t₀)
    (hl₀ : t₀.status.isTerminal = false) (heq : s₂.tasks = s₁.tasks.set t.id t') :
    (s.ended s₂).Perm ((if t'.status.isTerminal then [t'] else []) ++ s.ended s₁) := by
  obtain ⟨l, r, hvals, hset⟩ := Dict.values_split ht
  rw [LabState.ended, LabState.ended, heq, hset t', hvals, List.filter_append, List.filter_append]
  cases hterm : t'.status.isTerminal
  · rw [List.filter_cons_of_neg (by simp [hterm]), List.filter_cons_of_neg (by simp [hl])]
    exact .refl _
  · rw [List.filter_cons_of_pos (by simp [hterm, hid, h₀, hl₀]),
      List.filter_cons_of_neg (by simp [hl])]
    exact List.perm_middle

/-! ### What a task that ended counts for -/

namespace Task

/-- It counts as a task its node completed. -/
def completedBy (id : PyStr) (t : Task) : Bool := t.nodeId = id ∧ t.status = .completed

/-- It counts as a task its node failed: cancelled and expired tasks do not. -/
def failedBy (id : PyStr) (t : Task) : Bool :=
  t.nodeId = id ∧ (t.status = .failed ∨ t.status = .timeout)

/-- The poll settings a completed `SLEEP` sets on its node. -/
def sleptTo (id : PyStr) (t : Task) : Option (ℤ × ℤ) :=
  match t.command with
  | .sleep interval jitter => if t.completedBy id then some (interval, jitter) else none
  | _ => none

/-- It is a completed `GENERATE_EVENT`. -/
def generates (t : Task) : Bool := t.status = .completed ∧ t.command.taskType = .generateEvent

end Task

/-- The task each generated event of the full log names. -/
def Journal.generated (j : Journal) : List (Option PyStr) :=
  (j.eventLog.filter (·.kind = .nodeGeneratedEvent)).map (·.taskId)

/-- The record of a node before and after the tasks in `ended` ended. -/
structure Node.Charged (ended : List Task) (id : PyStr) (n n' : Node) : Prop where
  completed : n'.tasksCompleted = n.tasksCompleted + ended.countP (·.completedBy id)
  failed : n'.tasksFailed = n.tasksFailed + ended.countP (·.failedBy id)
  settings : (n'.pollIntervalMs, n'.jitterPercent) =
    (ended.filterMap (·.sleptTo id)).getLast?.getD (n.pollIntervalMs, n.jitterPercent)

/-- The nodes of `s'` are those of `s`, each charged with the tasks in `ended`. -/
def LabState.Charged (s : LabState) (ended : List Task) (nodes : Dict PyStr Node) : Prop :=
  ∀ id n', nodes.get? id = some n' → ∃ n, s.nodes.get? id = some n ∧ n.Charged ended id n'

theorem Node.Charged.same {id : PyStr} {n n' : Node} (hc : n'.tasksCompleted = n.tasksCompleted)
    (hf : n'.tasksFailed = n.tasksFailed)
    (hi : n'.pollIntervalMs = n.pollIntervalMs) (hj : n'.jitterPercent = n.jitterPercent) :
    n.Charged [] id n' := ⟨by simp [hc], by simp [hf], by simp [hi, hj]⟩

/-- A task of another node counts for nothing. -/
theorem Node.Charged.other {id : PyStr} {n : Node} {t : Task} (h : t.nodeId ≠ id) :
    n.Charged [t] id n := by
  have hc : t.completedBy id = false := by simp [Task.completedBy, h]
  refine ⟨by simp [hc], by simp [Task.failedBy, h], ?_⟩
  have hslept : t.sleptTo id = none := by
    unfold Task.sleptTo
    split <;> simp [hc]
  simp [hslept]

theorem Node.Charged.trans {id : PyStr} {n n₁ n₂ : Node} {l l' : List Task}
    (h : n.Charged l id n₁) (h' : n₁.Charged l' id n₂) : n.Charged (l ++ l') id n₂ where
  completed := by rw [h'.completed, h.completed, List.countP_append, Nat.add_assoc]
  failed := by rw [h'.failed, h.failed, List.countP_append, Nat.add_assoc]
  settings := by
    rw [h'.settings, h.settings, List.filterMap_append, List.getLast?_append]
    cases (l'.filterMap (·.sleptTo id)).getLast? <;> rfl

theorem LabState.Charged.trans {l l' : List Task} {nodes : Dict PyStr Node}
    (h : s.Charged l s₁.nodes) (h' : s₁.Charged l' nodes) : s.Charged (l ++ l') nodes := by
  intro id n₂ hn₂
  obtain ⟨n₁, hn₁, hc'⟩ := h' id n₂ hn₂
  obtain ⟨n, hn, hc⟩ := h id n₁ hn₁
  exact ⟨n, hn, hc.trans hc'⟩

theorem LabState.charged_refl (s : LabState) : s.Charged [] s.nodes :=
  fun _ n hn => ⟨n, hn, .same rfl rfl rfl rfl⟩

/-- One node is rewritten, the others stay as they are. -/
theorem LabState.charged_set {n n' : Node} {l : List Task} (hn : s.nodes.get? n.id = some n)
    (h : n.Charged l n.id n') (hother : ∀ id (m : Node), id ≠ n.id → m.Charged l id m) :
    s.Charged l (s.nodes.set n.id n') := by
  intro id m hm
  rw [Dict.get?_set] at hm
  split at hm
  · rename_i hid
    cases hm
    exact ⟨n, hid ▸ hn, hid ▸ h⟩
  · rename_i hne
    exact ⟨m, hm, hother id m hne⟩

/-! ### One write -/

/-- The parts of the program that neither add records nor remove any. -/
def Activity.steady : Activity → Bool
  | .enroll | .create | .prune | .reset => false
  | _ => true

/-- What a steady write does: at most one task ends, and the nodes are charged with it. -/
inductive LabState.Worked (s : LabState) (c : Activity) (r : Records) : List Task → Prop
  | same (htasks : r.tasks = s.tasks) (hnodes : s.Charged [] r.nodes) : Worked s c r []
  | kept {t x : Task} (ht : s.tasks.get? t.id = some t) (hl : t.status.isTerminal = false)
      (hid : x.id = t.id) (hl' : x.status.isTerminal = false)
      (htasks : r.tasks = s.tasks.set t.id x) (hnodes : s.Charged [] r.nodes) : Worked s c r []
  | ended {t x : Task} (ht : s.tasks.get? t.id = some t) (hl : t.status.isTerminal = false)
      (hid : x.id = t.id) (hterm : x.status.isTerminal = true)
      (hres : x.status = .completed → c = .result)
      (htasks : r.tasks = s.tasks.set t.id x) (hnodes : s.Charged [x] r.nodes) :
      Worked s c r [x]

theorem EndsAs.steady {c : Activity} {a b : TaskStatus} (h : EndsAs c a b) : c.steady = true := by
  cases h <;> rfl

theorem FailsAs.steady {c : Activity} {a b : TaskStatus} (h : FailsAs c a b) : c.steady = true := by
  cases h <;> rfl

theorem EndsAs.uncounted {c : Activity} {a b : TaskStatus} (h : EndsAs c a b) :
    b = .expired ∨ b = .cancelled := by
  cases h <;> simp

theorem FailsAs.counted {c : Activity} {a b : TaskStatus} (h : FailsAs c a b) :
    b = .failed ∨ b = .timeout := by
  cases h <;> simp

/-- A task that expired or was cancelled is charged to no node. -/
theorem LabState.charged_uncounted {t' : Task}
    (hst : t'.status = .expired ∨ t'.status = .cancelled) : s.Charged [t'] s.nodes := by
  intro id n hn
  have hcomp : t'.completedBy id = false := by
    rcases hst with hst | hst <;> simp [Task.completedBy, hst]
  have hfail : t'.failedBy id = false := by
    rcases hst with hst | hst <;> simp [Task.failedBy, hst]
  have hslept : t'.sleptTo id = none := by
    unfold Task.sleptTo
    split <;> simp [hcomp]
  exact ⟨n, hn, by simp [hcomp], by simp [hfail], by simp [hslept]⟩

/-- A task that failed is charged to its node. -/
theorem LabState.charged_failure (hs : Safe w s) {t' : Task}
    (hst : t'.status = .failed ∨ t'.status = .timeout) :
    s.Charged [t'] (chargeFailure s.nodes t'.nodeId) := by
  unfold chargeFailure
  cases hn : s.nodes.get? t'.nodeId with
  | none =>
    intro id n' hn'
    exact ⟨n', hn', .other fun he => by rw [he, hn'] at hn; cases hn⟩
  | some n =>
    have hid := hs.node_key hn
    have hcomp : t'.completedBy n.id = false := by
      rcases hst with hst | hst <;> simp [Task.completedBy, hst]
    have hslept : t'.sleptTo n.id = none := by
      unfold Task.sleptTo
      split <;> simp [hcomp]
    refine LabState.charged_set (hid ▸ hn) ⟨?_, ?_, ?_⟩ fun id m hne => .other fun he =>
      hne (he.symm.trans hid.symm)
    · simp [hcomp]
    · simp [Task.failedBy, hid, hst]
    · simp [hslept]

/-- An accepted result is credited to its node. -/
theorem LabState.charged_result {n : Node} {t : Task} {status : ResultStatus} {result : Json}
    {time seen : Timestamp} {now : Instant} (hn : s.nodes.get? n.id = some n)
    (hnode : t.nodeId = n.id) : s.Charged [t.ended status.taskStatus result time true]
      (s.nodes.set n.id (n.credited t.command status seen now)) := by
  refine LabState.charged_set hn ⟨?_, ?_, ?_⟩ fun id m hne => .other fun he =>
    hne (he.symm.trans hnode)
  · cases status <;>
      simp [Node.credited, Task.completedBy, Task.ended, hnode, ResultStatus.taskStatus]
  · cases status <;>
      simp [Node.credited, Task.failedBy, Task.ended, hnode, ResultStatus.taskStatus]
  · cases status <;> cases hcmd : t.command <;>
      simp [Node.credited, settingsAfter, Task.sleptTo, Task.completedBy, Task.ended, hnode, hcmd,
        ResultStatus.taskStatus]

theorem RecordChange.worked {c : Activity} {r : Records} (hs : Safe w s)
    (h : RecordChange w s hi c r) (hc : c.steady = true) : ∃ l, s.Worked c r l := by
  have hset : ∀ {n n' : Node}, s.nodes.get? n.id = some n → n.Charged [] n.id n' →
      s.Charged [] (s.nodes.set n.id n') := fun hn hsame =>
    LabState.charged_set hn hsame fun _ _ _ => .same rfl rfl rfl rfl
  cases h with
  | kept | rememberedNote => exact ⟨_, .same rfl s.charged_refl⟩
  | touchedNode _ hn | closedNode _ hn =>
    exact ⟨_, .same rfl (hset hn (.same rfl rfl rfl rfl))⟩
  | @endedTask _ t status h ht result time =>
    exact ⟨_, .ended (x := t.ended status result time false) ht h.live.1 rfl h.live.2.1
      (fun hcomp => absurd hcomp h.live.2.2) rfl (LabState.charged_uncounted h.uncounted)⟩
  | @failedTask _ t status h ht result time =>
    exact ⟨_, .ended (x := t.ended status result time false) ht h.live.1 rfl h.live.2.1
      (fun hcomp => absurd hcomp h.live.2.2) rfl
      (LabState.charged_failure hs h.counted)⟩
  | @redeliveredTask t ht hd =>
    exact ⟨_, .kept (x := { t with deliveryAttempts := t.deliveryAttempts + 1 }) ht
      (by rw [hd]; rfl) rfl (by rw [hd]; rfl) rfl s.charged_refl⟩
  | @dispatchedTask t ht hq _ now time =>
    exact ⟨_, .kept (x := { t with
      status := .dispatched, dispatchedAt := some time
      deadline := some (now + taskTimeoutSeconds), queueDeadline := none, deliveryAttempts := 1 })
      ht (by rw [hq]; rfl) rfl rfl rfl s.charged_refl⟩
  | @acceptedTask n t status _ result hn ht hnode hd hv time =>
    exact ⟨_, .ended (x := t.ended status.taskStatus result time true) ht (by rw [hd]; rfl) rfl
      (by cases status <;> rfl) (fun _ => rfl) rfl (LabState.charged_result hn hnode)⟩
  | observedTask | finishedExercise | containedExercise => exact ⟨_, .same rfl s.charged_refl⟩
  | @cancelledTask _ _ t _ he hst hm ht hq _ result time =>
    exact ⟨_, .ended (x := t.ended .cancelled result time false) ht (by rw [hq]; rfl) rfl rfl
      (fun hcomp => by cases hcomp) rfl (LabState.charged_uncounted (.inr rfl))⟩
  | rememberedOperation | prunedTask | prunedNode | addedNode | addedTask | addedExercise
    | cleared => cases hc

/-! ### Generated events -/

/-- Quiet growth of the journal generates no event. -/
theorem Journal.Grow.generated {j j' : Journal} (h : j.Grow w Quiet j') :
    j'.generated = j.generated := by
  obtain ⟨new, heq, hnew⟩ := h.eventLog_eq
  have hnil : new.filter (·.kind = .nodeGeneratedEvent) = [] := by
    rw [List.filter_eq_nil_iff]
    intro x hx
    obtain ⟨d, hd, hk, -⟩ := hnew x hx
    simpa [hk, Quiet] using hd
  rw [Journal.generated, heq, List.filter_append, hnil, List.append_nil]
  rfl

theorem Write.generated {c : Activity} (hs : Safe w s) (h : Write w s c s')
    (hc : c ≠ .result) : s'.generated = s.generated := by
  by_cases hr : c = .reset
  · subst hr
    cases h with
    | tick => rfl
    | failTask hd => rcases hd with hd | hd <;> cases hd
    | announceReset actor => exact (LabState.announceReset_grow actor s).generated
  · exact (h.grow hs hc hr).generated

/-- A completed `GENERATE_EVENT` appends its event, any other accepted result none. -/
theorem LabState.generated_acceptedResult (n : Node) (t : Task) (status : ResultStatus)
    (result : Json) (time : Timestamp) (now : Instant) :
    (s.acceptedResult w n t status result now).generated = s.generated ++
      ([t.ended status.taskStatus result time true].filter (·.generates)).map
        fun t => some t.id := by
  rw [(LabState.acceptedResult_grow (w := w) n t status result now s).generated]
  unfold LabState.generateEvent
  cases hcmd : t.command <;> cases status <;>
    simp [Journal.generated, Task.generates, Task.ended, hcmd, ResultStatus.taskStatus,
      Command.taskType, LabState.tick, Journal.eventLog_recordLocked, Journal.event]

/-! ### A run of writes -/

/-- `l` lists the tasks that ended from `s` to `s'`, and is all the nodes and the generated events
    account for. -/
structure Accounts (s s' : LabState) (l : List Task) : Prop where
  ended : (s.ended s').Perm l
  live : ∀ id t, s'.tasks.get? id = some t → t.status.isTerminal = false →
    ∃ t₀, s.tasks.get? id = some t₀ ∧ t₀.status.isTerminal = false
  nodes : s.Charged l s'.nodes
  generated : s'.generated = s.generated ++ (l.filter (·.generates)).map fun t => some t.id

theorem LabState.ended_self (hs : Safe w s) : s.ended s = [] := by
  rw [LabState.ended, List.filter_eq_nil_iff]
  intro t ht
  obtain ⟨id, hid⟩ := Dict.mem_values.mp ht
  simp [hs.task_key hid, hid]

theorem Accounts.refl (hs : Safe w s) : Accounts s s [] :=
  ⟨by rw [LabState.ended_self hs], fun _ t ht hl => ⟨t, ht, hl⟩, s.charged_refl, by simp⟩

/-- A steady write adds what it did to an account. -/
theorem Accounts.worked {c : Activity} {l l' : List Task} (h : Accounts s s₁ l)
    (hwork : s₁.Worked c s₂.toRecords l')
    (hgen : s₂.generated = s₁.generated ++ (l'.filter (·.generates)).map fun t => some t.id) :
    Accounts s s₂ (l ++ l') := by
  have hgen' : s₂.generated = s.generated ++ ((l ++ l').filter (·.generates)).map
      fun t => some t.id := by
    rw [hgen, h.generated, List.filter_append, List.map_append, List.append_assoc]
  -- a rewritten task had not ended in `s` either
  have hlive : ∀ {t t' : Task}, s₁.tasks.get? t.id = some t → t.status.isTerminal = false →
      s₂.tasks = s₁.tasks.set t.id t' → ∀ id x, s₂.tasks.get? id = some x →
      x.status.isTerminal = false → ∃ t₀, s.tasks.get? id = some t₀ ∧
        t₀.status.isTerminal = false := by
    intro t t' ht hl htasks id x hx hxl
    rw [htasks, Dict.get?_set] at hx
    split at hx
    · rename_i hid
      exact hid ▸ h.live t.id t ht hl
    · exact h.live id x hx hxl
  cases hwork with
  | same htasks hnodes =>
    refine ⟨?_, fun id t ht hl => h.live id t (htasks ▸ ht) hl, h.nodes.trans hnodes, hgen'⟩
    rw [LabState.ended_congr htasks, List.append_nil]
    exact h.ended
  | @kept t t' ht hl hid hl' htasks hnodes =>
    obtain ⟨t₀, h₀, hl₀⟩ := h.live t.id t ht hl
    refine ⟨?_, hlive ht hl htasks, h.nodes.trans hnodes, hgen'⟩
    have hperm := LabState.ended_set ht hl hid h₀ hl₀ htasks
    rw [hl'] at hperm
    simpa using hperm.trans h.ended
  | @ended t t' ht hl hid hterm hres htasks hnodes =>
    obtain ⟨t₀, h₀, hl₀⟩ := h.live t.id t ht hl
    refine ⟨?_, hlive ht hl htasks, h.nodes.trans hnodes, hgen'⟩
    have hperm := LabState.ended_set ht hl hid h₀ hl₀ htasks
    rw [hterm] at hperm
    exact hperm.trans ((List.perm_append_comm).trans (h.ended.append_right _))

/-- What one write did. -/
theorem Write.worked {c : Activity} (hs : Safe w s) (h : Write w s c s') (hc : c.steady = true) :
    ∃ l, s.Worked c s'.toRecords l ∧
      s'.generated = s.generated ++ (l.filter (·.generates)).map fun t => some t.id := by
  by_cases hres : c = .result
  · subst hres
    cases h with
    | tick => exact ⟨[], .same rfl s.charged_refl, by simp; rfl⟩
    | failTask hd => rcases hd with hd | hd <;> cases hd
    | @acceptedResult n t status _ result hn ht hnode hd hv now =>
      refine ⟨[t.ended status.taskStatus result (w.utcNow s.draws) true], ?_,
        LabState.generated_acceptedResult n t status result _ now⟩
      rw [LabState.acceptedResult_records hs ht hd]
      exact .ended (x := t.ended status.taskStatus result (w.utcNow s.draws) true) ht
        (by rw [hd]; rfl) rfl (by cases status <;> rfl) (fun _ => rfl) rfl
        (LabState.charged_result hn hnode)
  · obtain ⟨l, hwork⟩ := (h.records hs).worked hs hc
    refine ⟨l, hwork, ?_⟩
    -- nothing completes, so nothing is generated
    have hnil : l.filter (·.generates) = [] := by
      cases hwork with
      | same | kept => rfl
      | @ended _ t' _ _ _ _ hcomp =>
        have hne : t'.status ≠ .completed := fun he => hres (hcomp he)
        simp [Task.generates, hne]
    rw [h.generated hs hres, hnil]
    simp

/-- No write ends two tasks. -/
theorem LabState.Worked.length_le {c : Activity} {r : Records} {l : List Task}
    (h : s.Worked c r l) : l.length ≤ 1 := by
  cases h <;> simp

/-- Only an accepted result completes a task. -/
theorem LabState.Worked.completed {c : Activity} {r : Records} {l : List Task}
    (h : s.Worked c r l) : ∀ t ∈ l, t.status = .completed → c = .result := by
  cases h with
  | same | kept => simp
  | ended _ _ _ _ hres => simpa using hres

theorem Accounts.writes {l : List Task} (h : Accounts s s₁ l) (hs : Safe w s₁)
    (hw : Writes w acts s₁ s₂) (hacts : ∀ c ∈ acts, c.steady = true)
    (hf : w.FreshBelow s₂.draws) : ∃ l', Accounts s s₂ (l ++ l') ∧
      ∀ t ∈ l', t.status = .completed → .result ∈ acts := by
  induction hw with
  | refl => exact ⟨[], by simpa using h, by simp⟩
  | @tail m m' hbefore hstep ih =>
    obtain ⟨c, hc, hlast⟩ := hstep
    have hfm := hf.mono hlast.draws_le
    obtain ⟨l₁, hacc, hcomp⟩ := ih hfm
    have hsm := Writes.safe hbefore hs hfm
    obtain ⟨l₂, hwork, hgen⟩ := hlast.worked hsm (hacts c hc)
    refine ⟨l₁ ++ l₂, by simpa using hacc.worked hwork hgen, fun t ht hdone => ?_⟩
    rcases List.mem_append.mp ht with ht | ht
    · exact hcomp t ht hdone
    · exact hwork.completed t ht hdone ▸ hc

end C2Lab
