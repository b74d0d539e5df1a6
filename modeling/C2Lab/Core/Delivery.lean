import C2Lab.Core.Counting
import C2Lab.Core.PollRun

/-! Serial FIFO delivery.

    A task is first handed out only when its node works on no other and no queued task of the node
    was created earlier; sequence numbers are given out in order and never again. So what a node was
    first handed at some point of a run comes before everything it is first handed later. -/

namespace C2Lab

variable {w : World} {s s' s₀ s₁ : LabState} {hi : ℕ}

/-! ### One change -/

/-- A write on a task that did not end it handed it out. -/
theorem Task.Edited.live {c : Activity} {t t' : Task} (h : t.Edited w s c t')
    (hl : t'.status.isTerminal = false) : t.status = .dispatched ∧ t' = t.redelivered ∨
      t.status = .queued ∧ c = .dispatch ∧ s.Turn t ∧ ∃ now time, t' = t.delivered now time := by
  cases h with
  | ended h => exact absurd h.live.2.1 (by simpa [Task.ended] using hl)
  | failed h => exact absurd h.live.2.1 (by simpa [Task.ended] using hl)
  | cancelled => cases hl
  | @accepted _ _ status => cases status <;> cases hl
  | redelivered hd => exact .inl ⟨hd, rfl⟩
  | dispatched hq hturn now time => exact .inr ⟨hq, rfl, hturn, now, time, rfl⟩

/-- A dispatched task was dispatched before a change, or has its turn now. -/
theorem RecordChange.dispatched {c : Activity} {r : Records} (h : RecordChange w s hi c r)
    {id : PyStr} {t' : Task} (ht' : r.tasks.get? id = some t') (hd : t'.status = .dispatched) :
    (∃ t, s.tasks.get? id = some t ∧ t.status = .dispatched ∧ t'.nodeId = t.nodeId ∧
        t'.deadline = t.deadline) ∨
      c = .dispatch ∧ ∃ t, s.tasks.get? id = some t ∧ t.id = id ∧ t.status = .queued ∧ s.Turn t ∧
        t'.nodeId = t.nodeId := by
  have hchange := h.task id
  rw [ht'] at hchange
  generalize hx : some t' = x at hchange
  cases hchange with
  | same => exact .inl ⟨t', hx.symm, hd, rfl, rfl⟩
  | @edited _ t t'' ht hid he =>
    cases hx
    rcases he.live (by rw [hd]; rfl) with ⟨hd', rfl⟩ | ⟨hq, hc, hturn, now, time, rfl⟩
    · exact .inl ⟨t, ht, hd', rfl, rfl⟩
    · exact .inr ⟨hc, t, ht, hid, hq, hturn, rfl⟩
  | added => cases hx; cases hd
  | pruned | cleared => cases hx

/-- A queued task was queued before a change, as it is, or is new. -/
theorem RecordChange.queued {c : Activity} {r : Records} (h : RecordChange w s hi c r)
    {id : PyStr} {t' : Task} (ht' : r.tasks.get? id = some t') (hq : t'.status = .queued) :
    s.tasks.get? id = some t' ∨
      id = w.taskId s.draws ∧ s.draws < hi ∧ t'.sequence = s.taskSequence + 1 := by
  have hchange := h.task id
  rw [ht'] at hchange
  generalize hx : some t' = x at hchange
  cases hchange with
  | same => exact .inl rfl
  | @edited _ t t'' ht hid he =>
    cases hx
    rcases he.live (by rw [hq]; rfl) with ⟨hd', rfl⟩ | ⟨-, -, -, now, time, rfl⟩
    · rw [show t.status = .queued from hq] at hd'; cases hd'
    · cases hq
  | added _ _ hid hd => cases hx; exact .inr ⟨hid, hd, rfl⟩
  | pruned | cleared => cases hx

/-- Sequence numbers are given out once: a task has the number it had, or the next one. -/
theorem RecordChange.sequence {c : Activity} {r : Records} (h : RecordChange w s hi c r) :
    s.taskSequence ≤ r.taskSequence ∧ ∀ id t', r.tasks.get? id = some t' →
      (∃ t, s.tasks.get? id = some t ∧ t'.sequence = t.sequence) ∨
        id = w.taskId s.draws ∧ t'.sequence = s.taskSequence + 1 ∧
          r.taskSequence = s.taskSequence + 1 := by
  have hset : ∀ {t t' : Task}, s.tasks.get? t.id = some t → ∀ id t'',
      (s.tasks.set t.id t').get? id = some t'' → t'.sequence = t.sequence →
        ∃ t₀, s.tasks.get? id = some t₀ ∧ t''.sequence = t₀.sequence := by
    intro t t' ht id t'' ht'' hseq
    rw [Dict.get?_set] at ht''
    split at ht''
    · rename_i hid
      cases ht''
      exact ⟨t, hid ▸ ht, hseq⟩
    · exact ⟨t'', ht'', rfl⟩
  cases h with
  | addedTask ha now hk =>
    refine ⟨Nat.le_succ _, fun id t' ht' => ?_⟩
    simp only [Dict.get?_set] at ht'
    split at ht'
    · rename_i hid
      cases ht'
      exact .inr ⟨hid, rfl, rfl⟩
    · exact .inl ⟨t', ht', rfl⟩
  | endedTask _ ht | failedTask _ ht | redeliveredTask ht | dispatchedTask ht | acceptedTask _ ht
    | cancelledTask _ _ _ ht => exact ⟨le_rfl, fun id t' ht' => .inl (hset ht id t' ht' rfl)⟩
  | prunedTask ht =>
    refine ⟨le_rfl, fun id t' ht' => .inl ⟨t', ?_, rfl⟩⟩
    simp only [Dict.get?_erase] at ht'
    split at ht'
    · cases ht'
    · exact ht'
  | cleared => exact ⟨le_rfl, fun id t' ht' => by cases ht'⟩
  | _ => exact ⟨le_rfl, fun id t' ht' => .inl ⟨t', ht', rfl⟩⟩

/-! ### Invariants -/

/-- A node works on one task at a time. -/
def Serial (r : Records) : Prop :=
  ∀ id id' t t', r.tasks.get? id = some t → r.tasks.get? id' = some t' →
    t.status = .dispatched → t'.status = .dispatched → t.nodeId = t'.nodeId → id = id'

/-- The active task of a node is found if there is one. -/
theorem LabState.activeTask_none {nodeId : PyStr} (h : s.activeTask nodeId = none) {id : PyStr}
    {t : Task} (ht : s.tasks.get? id = some t) (hnode : t.nodeId = nodeId) :
    t.status ≠ .dispatched := by
  intro hd
  have := List.find?_eq_none.mp h t (Dict.mem_values.mpr ⟨id, ht⟩)
  simp [hnode, hd] at this

theorem serial_kept (w : World) :
    Kept w (.reset :: Activity.lasting) fun s => Serial s.toRecords := by
  refine Kept.of_change (Q := fun r _ => Serial r) fun {s hi c r} _ hs hd hf h hQ => ?_
  intro id id' t t' ht ht' hdt hdt' hnode
  rcases h.dispatched ht hdt with ⟨u, hu, hdu, hn, -⟩ | ⟨-, u, hu, hid, hq, hturn, hn⟩ <;>
    rcases h.dispatched ht' hdt' with ⟨u', hu', hdu', hn', -⟩ | ⟨-, u', hu', hid', hq', hturn', hn'⟩
  · exact hQ id id' u u' hu hu' hdu hdu' (by rw [← hn, ← hn', hnode])
  · exact absurd hdu (LabState.activeTask_none hturn'.idle hu (by rw [← hn, ← hn', hnode]))
  · exact absurd hdu' (LabState.activeTask_none hturn.idle hu' (by rw [← hn, ← hn', hnode]))
  · -- both have the one turn there is
    have hfirst := hturn.first
    rw [← hn, hnode, hn', hturn'.first, Option.some.injEq] at hfirst
    rw [← hid, ← hid', hfirst]

/-- Every task has a number of its own among those given out. -/
structure Numbered (r : Records) : Prop where
  le : ∀ id t, r.tasks.get? id = some t → t.sequence ≤ r.taskSequence
  inj : ∀ id id' t t', r.tasks.get? id = some t → r.tasks.get? id' = some t' →
    t.sequence = t'.sequence → id = id'

theorem numbered_kept (w : World) :
    Kept w (.reset :: Activity.lasting) fun s => Numbered s.toRecords := by
  refine Kept.of_change (Q := fun r _ => Numbered r) fun {s hi c r} _ hs hd hf h hQ => ?_
  obtain ⟨hle, hseq⟩ := h.sequence
  refine ⟨fun id t ht => ?_, fun id id' t t' ht ht' heq => ?_⟩
  · rcases hseq id t ht with ⟨u, hu, hsame⟩ | ⟨-, hnew, hr⟩
    · exact hsame ▸ (hQ.le id u hu).trans hle
    · rw [hnew, hr]
  · rcases hseq id t ht with ⟨u, hu, hsame⟩ | ⟨hid, hnew, -⟩ <;>
      rcases hseq id' t' ht' with ⟨u', hu', hsame'⟩ | ⟨hid', hnew', -⟩
    · exact hQ.inj id id' u u' hu hu' (by rw [← hsame, ← hsame', heq])
    · have := hQ.le id u hu; omega
    · have := hQ.le id' u' hu'; omega
    · rw [hid, hid']

/-- Everything queued for a node was created after number `k`. -/
structure QueuedAfter (nodeId : PyStr) (k : ℕ) (r : Records) : Prop where
  le : k ≤ r.taskSequence
  after : ∀ id t, r.tasks.get? id = some t → t.status = .queued → t.nodeId = nodeId → k < t.sequence

theorem queuedAfter_kept (w : World) (nodeId : PyStr) (k : ℕ) :
    Kept w (.reset :: Activity.lasting) fun s => QueuedAfter nodeId k s.toRecords := by
  refine Kept.of_change (Q := fun r _ => QueuedAfter nodeId k r)
      fun {s hi c r} _ hs hd hf h hQ => ?_
  refine ⟨hQ.le.trans h.sequence.1, fun id t ht hq hnode => ?_⟩
  rcases h.queued ht hq with hold | ⟨-, -, hnew⟩
  · exact hQ.after id t hold hq hnode
  · have := hQ.le
    omega

/-- The task of an identifier is past its queue, with this deadline while it is dispatched. -/
structure HandedOut (w : World) (id : PyStr) (d : Option Instant) (r : Records) (draws : ℕ) :
    Prop where
  drawn : w.TaskDrawn draws id
  left : ∀ t, r.tasks.get? id = some t → t.status ≠ .queued
  deadline : ∀ t, r.tasks.get? id = some t → t.status = .dispatched → t.deadline = d

theorem handedOut_kept (w : World) (id : PyStr) (d : Option Instant) :
    Kept w (.reset :: Activity.lasting) fun s => HandedOut w id d s.toRecords s.draws := by
  refine Kept.of_change (Q := HandedOut w id d) fun {s hi c r} _ hs hd hf h hQ => ?_
  obtain ⟨k, hk, hid⟩ := hQ.drawn
  refine ⟨⟨k, hk.trans_le hd, hid⟩, fun t ht hq => ?_, fun t ht hdt => ?_⟩
  · rcases h.queued ht hq with hold | ⟨hnew, hlt, -⟩
    · exact hQ.left t hold hq
    · exact taskId_fresh hf hk hlt (hid ▸ hnew)
  · rcases h.dispatched ht hdt with ⟨u, hu, hdu, -, hdl⟩ | ⟨-, u, hu, -, hq, -⟩
    · exact hdl.trans (hQ.deadline u hu hdu)
    · exact absurd hq (hQ.left u hu)

/-- The task of an identifier is not dispatched. -/
def Idle (id : PyStr) (r : Records) : Prop :=
  ∀ t, r.tasks.get? id = some t → t.status ≠ .dispatched

/-- Only a delivery dispatches a task. -/
theorem idle_kept (w : World) {acts : List Activity} (hacts : Activity.dispatch ∉ acts)
    (id : PyStr) : Kept w acts fun s => Idle id s.toRecords := by
  refine Kept.of_change (Q := fun r _ => Idle id r) fun {s hi c r} hc hs hd hf h hQ t ht hdt => ?_
  rcases h.dispatched ht hdt with ⟨u, hu, hdu, -⟩ | ⟨rfl, -⟩
  · exact hQ u hu hdu
  · exact hacts hc

/-- A task has the number it had, or one given out since. -/
structure NumberedSince (s₀ : LabState) (r : Records) : Prop where
  le : s₀.taskSequence ≤ r.taskSequence
  number : ∀ id t, r.tasks.get? id = some t →
    (∃ t₀, s₀.tasks.get? id = some t₀ ∧ t.sequence = t₀.sequence) ∨ s₀.taskSequence < t.sequence

theorem numberedSince_kept (w : World) (s₀ : LabState) :
    Kept w (.reset :: Activity.lasting) fun s => NumberedSince s₀ s.toRecords := by
  refine Kept.of_change (Q := fun r _ => NumberedSince s₀ r) fun {s hi c r} _ hs hd hf h hQ => ?_
  obtain ⟨hle, hseq⟩ := h.sequence
  refine ⟨hQ.le.trans hle, fun id t ht => ?_⟩
  rcases hseq id t ht with ⟨u, hu, hsame⟩ | ⟨-, hnew, -⟩
  · rw [hsame]
    exact hQ.number id u hu
  · have := hQ.le
    exact .inr (by omega)

/-! ### First deliveries -/

/-- Operation `op` hands out the task of an identifier for the first time. -/
structure FirstDispatch (w : World) (s : LabState) (op : Op) (id : PyStr) (t : Task) : Prop where
  fresh : w.FreshBelow (step w s op).draws
  after : (step w s op).tasks.get? id = some t
  dispatched : t.status = .dispatched
  before : Idle id s.toRecords

theorem firstMin_le {α : Type} {key : α → ℕ} {l : List α} {a b : α} (h : firstMin key l = some a)
    (hb : b ∈ l) : key a ≤ key b := by
  induction l generalizing a with
  | nil => cases hb
  | cons x l ih =>
    rw [firstMin] at h
    cases hm : firstMin key l with
    | none =>
      rw [hm] at h
      cases h
      rcases List.mem_cons.mp hb with rfl | hb
      · exact le_rfl
      · cases l with
        | nil => cases hb
        | cons y l =>
          rw [firstMin] at hm
          split at hm
          · cases hm
          · split at hm <;> cases hm
    | some c =>
      rw [hm] at h
      simp only at h
      rcases List.mem_cons.mp hb with rfl | hb
      · split at h <;> cases h <;> omega
      · have := ih hm hb
        split at h <;> cases h <;> omega

/-- A poll that raises has done no more than the expiry pass. -/
theorem pollNode_raised (hs : Safe w s) {nodeId token : Json} {now : Instant} {e : Exc}
    (herr : pollNode w nodeId token now s = .error e s') : Came w Activity.expiring s s' := by
  have hrun : Prog.wp (pollNode w nodeId token now) (fun _ _ => True)
      (fun _ s' => Came w Activity.expiring s s') s := by
    unfold pollNode
    rw [Prog.wp_bind]
    refine Prog.wp_mono (expireLocked_punctual now hs) ?_ fun _ _ h => h.elim
    rintro _ m ⟨hcame, -⟩
    rw [Prog.wp_bind]
    refine Prog.wp_mono (requireNodeSession_wp hcame.safe nodeId token) ?_ fun _ _ h => h ▸ hcame
    rintro n _ ⟨rfl, hsess⟩
    exact Prog.wp_mono (pollSession_answers hcame.safe hsess.recorded now) (fun _ _ _ => trivial)
      fun _ _ h => h.elim
  rwa [Prog.wp, herr] at hrun

/-- A first delivery: an answered poll of the task's node, which works on nothing else. -/
structure Delivered (w : World) (s : LabState) (op : Op) (nodeId token : Json) (now : Instant)
    (reply : PollResponse) (m : LabState) (n : Node) (t t' : Task) : Prop where
  op_eq : op = .pollNode nodeId token now
  ok : pollNode w nodeId token now s = .ok reply (step w s op)
  answered : PollAnswered w s nodeId token now reply (step w s op) m n
  node : t.nodeId = n.id
  queued : t.status = .queued
  before : s.tasks.get? t.id = some t
  least : ∀ id u, m.tasks.get? id = some u → u.status = .queued → u.nodeId = n.id →
    t.sequence ≤ u.sequence
  delivered : ∃ time, t' = t.delivered now time
  handed : reply.task = some t'.nodeTask
  tasks : (step w s op).tasks = m.tasks.set t.id t'

/-- Only a poll dispatches a task. -/
theorem Ran.idle {op : Op} (h : Ran w s op s') (hs : Safe w s) (hf : w.FreshBelow s'.draws)
    {id : PyStr} (hidle : Idle id s.toRecords) :
    (∃ nodeId token now, op = .pollNode nodeId token now) ∨ Idle id s'.toRecords := by
  cases h with
  | plain hw =>
    refine .inr ((idle_kept w ?_ id).writes hw hs hf hidle)
    cases op <;> simp [Op.activities]
  | delivered => exact .inl ⟨_, _, _, rfl⟩
  | accepted hw hr hlast =>
    have hf₁ := hf.mono hlast.draws_le
    have hf₀ := hf₁.mono hr.draws_le
    have hs₀ := hw.safe hs hf₀
    have h₀ := (idle_kept w (by simp) id).writes hw hs hf₀ hidle
    have hkept : Kept w [.result] fun s => Idle id s.toRecords := idle_kept w (by simp) id
    have h₁ := hkept.write (by simp) hs₀ hf₁ hr h₀
    have hs₁ := hr.safe hs₀ fun hc => by cases hc
    exact .inr ((idle_kept w (by simp) id).writes hlast hs₁ hf h₁)

/-- The expiry pass dispatches nothing. -/
theorem Came.idle (h : Came w Activity.expiring s s') (hs : Safe w s) {id : PyStr}
    (hidle : Idle id s.toRecords) : Idle id s'.toRecords := by
  intro t' ht' hd
  rcases h.unended hs ht' with ⟨t, ht, rfl | hterm⟩
  · exact hidle t' ht hd
  · rw [hd] at hterm; cases hterm

/-- A poll that dispatches a task hands out the first of the queue. -/
theorem LabState.Answers.first_of_busy {n : Node} {now : Instant} {task : Option NodeTask}
    {m : LabState} (h : m.Answers n now task s') (hm : Safe w m) {id : PyStr}
    (hidle : Idle id m.toRecords) {t' : Task} (ht' : s'.tasks.get? id = some t')
    (hd : t'.status = .dispatched) : ∃ t time, t.id = id ∧ m.nextTask n.id = some t ∧
      t' = t.delivered now time ∧ task = some t'.nodeTask ∧ s'.tasks = m.tasks.set id t' := by
  cases h with
  | paused _ htasks | nothing _ _ _ htasks => exact absurd hd (hidle t' (htasks ▸ ht'))
  | @again _ t _ hact ht htasks =>
    rw [htasks, Dict.get?_set] at ht'
    split at ht'
    · rename_i hid
      exact absurd (hm.activeTask_recorded hact).2.2 (hidle t (hid ▸ ht))
    · exact absurd hd (hidle t' ht')
  | @first _ t _ _ hnext ht time htasks =>
    rw [htasks, Dict.get?_set] at ht'
    split at ht'
    · rename_i hid
      cases ht'
      exact ⟨t, time, hid.symm, hnext, rfl, rfl, hid ▸ htasks⟩
    · exact absurd hd (hidle t' ht')

theorem step_pollNode (nodeId token : Json) (now : Instant) :
    step w s (.pollNode nodeId token now) = Prog.final (pollNode w nodeId token now) s :=
  Prog.wp_final (R := (· = Prog.final (C2Lab.pollNode w nodeId token now) s)).mp
    ((Prog.wp_map _ _).mpr (Prog.wp_final.mpr rfl))

theorem FirstDispatch.delivered (hs : Sound w s) {op : Op} {id : PyStr} {t' : Task}
    (h : FirstDispatch w s op id t') : ∃ nodeId token now reply m n t,
      t.id = id ∧ Delivered w s op nodeId token now reply m n t t' := by
  have hbusy : ¬ Idle id (step w s op).toRecords := fun hidle => hidle t' h.after h.dispatched
  obtain ⟨nodeId, token, now, rfl⟩ :=
    ((step_ends hs.safe hs.settled op).ran.idle hs.safe h.fresh h.before).resolve_right hbusy
  obtain ⟨-, hafter, hd, hidle⟩ := h
  have hstep := step_pollNode (w := w) (s := s) nodeId token now
  cases hrun : pollNode w nodeId token now s with
  | error e s' =>
    rw [hstep, Prog.final, hrun] at hbusy
    exact absurd ((pollNode_raised hs.safe hrun).idle hs.safe hidle) hbusy
  | ok reply s' =>
    rw [Prog.final, hrun] at hstep
    simp only at hstep
    obtain ⟨m, n, hpoll⟩ := pollNode_answers hs.safe hrun
    obtain ⟨t, time, hid, hnext, rfl, htask, htasks⟩ := hpoll.answers.first_of_busy hpoll.came.safe
      (hpoll.came.idle hs.safe hidle) (hstep ▸ hafter) hd
    obtain ⟨ht, hnode, hq⟩ := hpoll.came.safe.nextTask_recorded hnext
    have hbefore : s.tasks.get? t.id = some t := by
      obtain ⟨t₀, ht₀, rfl | hterm⟩ := hpoll.came.unended hs.safe ht
      · exact ht₀
      · rw [hq] at hterm; cases hterm
    refine ⟨nodeId, token, now, reply, m, n, t, hid, rfl, by rw [hstep]; exact hrun,
      by rw [hstep]; exact hpoll, hnode, hq, hbefore, fun id' u hu hqu hnu => ?_, ⟨time, rfl⟩,
      htask, by rw [hstep, hid]; exact htasks⟩
    refine firstMin_le hnext (List.mem_filter.mpr ⟨Dict.mem_values.mpr ⟨id', hu⟩, ?_⟩)
    simp [hqu, hnu]

/-- What is queued for the node once a task was first handed out was created after it. -/
theorem Delivered.queuedAfter {op : Op} {nodeId token : Json} {now : Instant}
    {reply : PollResponse} {m : LabState} {n : Node} {t t' : Task}
    (h : Delivered w s op nodeId token now reply m n t t')
    (hnum : Numbered (step w s op).toRecords) :
    QueuedAfter n.id t.sequence (step w s op).toRecords := by
  obtain ⟨time, ht'⟩ := h.delivered
  have hself : (step w s op).tasks.get? t.id = some t' := by rw [h.tasks, Dict.get?_set_self]
  have hseq : t'.sequence = t.sequence := by rw [ht']; rfl
  refine ⟨hseq ▸ hnum.le t.id t' hself, fun id u hu hq hnode => ?_⟩
  have hne : t.id ≠ id := by
    rintro rfl
    rw [hself, Option.some.injEq] at hu
    rw [← hu, ht'] at hq
    cases hq
  have hold := hu
  rw [h.tasks, Dict.get?_set_ne _ _ (Ne.symm hne)] at hold
  have hle := h.least id u hold hq hnode
  have hdiff : t'.sequence ≠ u.sequence := fun heq => hne (hnum.inj _ _ _ _ hself hu heq)
  omega

/-! ### What a poll hands out -/

/-- What an answered poll hands out. -/
structure Handed (w : World) (s : LabState) (now : Instant) (n : Node) (task : NodeTask)
    (s' : LabState) (t' : Task) : Prop where
  task_eq : task = t'.nodeTask
  recorded : s'.tasks.get? t'.id = some t'
  node : t'.nodeId = n.id
  dispatched : t'.status = .dispatched
  inTime : ∃ d, t'.deadline = some d ∧ now < d
  unended : ∀ s₀, Reachable w s₀ → Later w s₀ s → ∀ t₀, s₀.tasks.get? t'.id = some t₀ →
    t₀.status.isTerminal = false

theorem PollAnswered.handed (hs : Sound w s) {nodeId token : Json} {now : Instant}
    {reply : PollResponse} {m : LabState} {n : Node}
    (h : PollAnswered w s nodeId token now reply s' m n) {task : NodeTask}
    (htask : reply.task = some task) : ∃ t', Handed w s now n task s' t' := by
  -- what is live after the expiry pass was as it is before, and in no earlier state ended
  have hlive : ∀ {t : Task}, m.tasks.get? t.id = some t → t.status.isTerminal = false →
      ∀ s₀, Reachable w s₀ → Later w s₀ s → ∀ t₀, s₀.tasks.get? t.id = some t₀ →
        t₀.status.isTerminal = false := by
    intro t ht hl s₀ hr hlater t₀ ht₀
    by_contra hterm
    obtain ⟨u, hu, rfl | hended⟩ := h.came.unended hs.safe ht
    · rw [hlater.frozen hr.sound ht₀ (by simpa using hterm) hu] at hl
      exact hterm hl
    · rw [hl] at hended; cases hended
  have hans := h.answers
  rw [htask] at hans
  generalize hx : some task = x at hans
  cases hans with
  | paused | nothing => cases hx
  | @again _ t hp hact ht htasks =>
    cases hx
    obtain ⟨-, hnode, hd⟩ := h.came.safe.activeTask_recorded hact
    have hunended := hlive ht (by rw [hd]; rfl)
    exact ⟨t.redelivered, rfl, by rw [htasks]; exact Dict.get?_set_self _ _ _, hnode, hd,
      h.punctual.inTime t.id t ht hd, hunended⟩
  | @first _ t hp hact hnext ht time htasks =>
    cases hx
    obtain ⟨-, hnode, hq⟩ := h.came.safe.nextTask_recorded hnext
    have hunended := hlive ht (by rw [hq]; rfl)
    refine ⟨t.delivered now time, rfl, by rw [htasks]; exact Dict.get?_set_self _ _ _, hnode, rfl,
      ⟨_, rfl, ?_⟩, hunended⟩
    have : (0 : ℚ) < taskTimeoutSeconds := by decide
    linarith

/-- A poll that is not paused repeats the task its node works on. -/
theorem PollAnswered.repeated (hs : Sound w s) {nodeId token : Json} {now : Instant}
    {reply : PollResponse} {m : LabState} {n : Node}
    (h : PollAnswered w s nodeId token now reply s' m n) (hp : n.taskingPaused = false)
    (hserial : Serial s.toRecords) {t : Task} (ht : m.tasks.get? t.id = some t)
    (hd : t.status = .dispatched) (hnode : t.nodeId = n.id) :
    s.tasks.get? t.id = some t ∧ reply.task = some t.redelivered.nodeTask ∧
      s'.tasks.get? t.id = some t.redelivered := by
  have hbefore : ∀ {u : Task}, m.tasks.get? u.id = some u → u.status = .dispatched →
      s.tasks.get? u.id = some u := by
    intro u hu hd
    obtain ⟨u₀, hu₀, rfl | hterm⟩ := h.came.unended hs.safe hu
    · exact hu₀
    · rw [hd] at hterm; cases hterm
  refine ⟨hbefore ht hd, ?_⟩
  have hans := h.answers
  generalize hx : reply.task = x at hans
  cases hans with
  | paused hp' => rw [hp] at hp'; cases hp'
  | nothing _ hact | first _ hact =>
    exact absurd hd (LabState.activeTask_none hact ht hnode)
  | @again _ u _ hact hu htasks =>
    obtain ⟨-, hnode', hd'⟩ := h.came.safe.activeTask_recorded hact
    have hid := hserial _ _ _ _ (hbefore ht hd) (hbefore hu hd') hd hd' (hnode.trans hnode'.symm)
    rw [← hid, ht, Option.some.injEq] at hu
    subst hu
    exact ⟨rfl, by rw [htasks]; exact Dict.get?_set_self _ _ _⟩

/-- Serial FIFO delivery. In every reachable state a node has at most one dispatched task. A task is
    first handed out by a poll, with a deadline eight seconds later that stays for as long as it is
    dispatched, and whatever its node is first handed later has a greater number; numbers follow
    creation. An answered poll that is not paused repeats the task its node works on, and no poll
    hands out a task that is past its deadline or has ever ended. -/
theorem serial_fifo_delivery (hr : Reachable w s) :
    (∀ id id' t t', s.tasks.get? id = some t → s.tasks.get? id' = some t' →
      t.status = .dispatched → t'.status = .dispatched → t.nodeId = t'.nodeId → id = id') ∧
    (∀ op id t, FirstDispatch w s op id t →
      (∃ nodeId token now reply, op = .pollNode nodeId token now ∧
        pollNode w nodeId token now s = .ok reply (step w s op) ∧
        reply.task = some t.nodeTask ∧ t.deadline = some (now + 8)) ∧
      ∀ s₁, Later w (step w s op) s₁ →
        (∀ u, s₁.tasks.get? id = some u → u.status = .dispatched → u.deadline = t.deadline) ∧
        ∀ op₁ id₁ t₁, FirstDispatch w s₁ op₁ id₁ t₁ → t₁.nodeId = t.nodeId →
          t.sequence < t₁.sequence) ∧
    (∀ s₁, Later w s s₁ → ∀ id id₁ t t₁, s.tasks.get? id = some t → s₁.tasks.get? id₁ = some t₁ →
      s.tasks.get? id₁ = none → t.sequence < t₁.sequence) ∧
    (∀ nodeId token now reply s', pollNode w nodeId token now s = .ok reply s' →
      ∃ m n, PollAnswered w s nodeId token now reply s' m n ∧
        (n.taskingPaused = false → ∀ t, m.tasks.get? t.id = some t → t.status = .dispatched →
          t.nodeId = n.id → s.tasks.get? t.id = some t ∧
            reply.task = some t.redelivered.nodeTask ∧
            s'.tasks.get? t.id = some t.redelivered) ∧
        ∀ task, reply.task = some task → ∃ t', Handed w s now n task s' t') := by
  have hs := hr.sound
  have hserial : ∀ {s}, Reachable w s → Serial s.toRecords :=
    (serial_kept w).reachable fun _ id id' t t' ht => by cases ht
  have hnumbered : ∀ {s}, Reachable w s → Numbered s.toRecords :=
    (numbered_kept w).reachable fun _ =>
      ⟨fun id t ht => (by cases ht), fun id id' t t' ht => (by cases ht)⟩
  refine ⟨hserial hr, fun op id t hfirst => ?_, fun s₁ hl id id₁ t t₁ ht ht₁ hnone => ?_,
    fun nodeId token now reply s' hok => ?_⟩
  · obtain ⟨nodeId, token, now, reply, m, n, t₀, rfl, hdel⟩ := hfirst.delivered hs
    obtain ⟨time, rfl⟩ := hdel.delivered
    have hr' := hr.step hfirst.fresh
    refine ⟨⟨nodeId, token, now, reply, hdel.op_eq, hdel.ok, hdel.handed, rfl⟩,
      fun s₁ hl => ⟨?_, ?_⟩⟩
    · intro u hu hd
      have hout : HandedOut w t₀.id (some (now + taskTimeoutSeconds))
          (step w s op).toRecords (step w s op).draws := by
        refine ⟨hr'.sound.safe.task_drawn hfirst.after, fun u hu => ?_, fun u hu _ => ?_⟩ <;>
          rw [hfirst.after, Option.some.injEq] at hu <;> subst hu
        · exact fun hq => by cases hq
        · rfl
      exact ((handedOut_kept w _ _).later hl hr'.sound hout).deadline u hu hd
    · intro op₁ id₁ t₁ hfirst₁ hnode
      obtain ⟨_, _, _, _, _, _, u, rfl, hdel₁⟩ := hfirst₁.delivered (hr'.later hl).sound
      obtain ⟨time₁, rfl⟩ := hdel₁.delivered
      have hafter := (queuedAfter_kept w n.id t₀.sequence).later hl hr'.sound
        (hdel.queuedAfter (hnumbered hr'))
      exact hafter.after _ u hdel₁.before hdel₁.queued (hnode.trans hdel.node)
  · have hsince := (numberedSince_kept w s).later hl hs
      ⟨le_rfl, fun id u hu => .inl ⟨u, hu, rfl⟩⟩
    rcases hsince.number id₁ t₁ ht₁ with ⟨u, hu, -⟩ | hlt
    · rw [hnone] at hu; cases hu
    · exact ((hnumbered hr).le id t ht).trans_lt hlt
  · obtain ⟨m, n, h⟩ := pollNode_answers hs.safe hok
    exact ⟨m, n, h, fun hp t ht hd hnode => h.repeated hs hp (hserial hr) ht hd hnode,
      fun task htask => h.handed hs htask⟩

/-- Two tasks are queued for one Node. Its first poll hands out the first of them, with a deadline
    eight seconds later, and what it hands out first at any later time has a greater number. -/
theorem serial_fifo_delivery_polled :
    let s := exec .counting (.init "stream") [Counting.enroll, Counting.queue .ping (.obj []),
      Counting.queue .ping (.obj [])]
    let s' := step .counting s (Counting.poll 11)
    ∃ t, FirstDispatch .counting s (Counting.poll 11) (World.counting.taskId 6) t ∧
      (∃ nodeId token now reply, Counting.poll 11 = .pollNode nodeId token now ∧
        pollNode .counting nodeId token now s = .ok reply s' ∧
        reply.task = some t.nodeTask ∧ t.deadline = some (now + 8)) ∧
      ∀ s₁, Later .counting s' s₁ → ∀ op₁ id₁ t₁, FirstDispatch .counting s₁ op₁ id₁ t₁ →
        t₁.nodeId = t.nodeId → t.sequence < t₁.sequence := by
  intro s s'
  have hstatus : (s.tasks.get? (World.counting.taskId 6)).map (·.status) = some .queued ∧
      (s'.tasks.get? (World.counting.taskId 6)).map (·.status) = some .dispatched := by
    decide +kernel
  obtain ⟨t, ht, hd⟩ := Option.map_eq_some_iff.mp hstatus.2
  have hfirst : FirstDispatch .counting s (Counting.poll 11) (World.counting.taskId 6) t := by
    refine ⟨World.counting_fresh (by decide +kernel), ht, hd, fun u hu hdu => ?_⟩
    have hq := hstatus.1
    rw [hu, Option.map_some, hdu] at hq
    cases hq
  have hall := (serial_fifo_delivery (World.counting_reachable "stream" _ (by decide +kernel) :
    Reachable .counting s)).2.1 _ _ _ hfirst
  exact ⟨t, hfirst, hall.1, fun s₁ hl => (hall.2 s₁ hl).2⟩

end C2Lab
