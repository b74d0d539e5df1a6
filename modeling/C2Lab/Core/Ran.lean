import C2Lab.Core.CreateRun

/-! What an operation does: a sequence of writes by the parts of the program it consists of.

    A delivery and an accepted result are kept apart from the rest of their operation, for each is
    the one write of its kind the operation makes. -/

namespace C2Lab

variable {w : World} {s s' s₀ : LabState} {acts : List Activity}

/-- The parts of the program an operation consists of, a delivery and an accepted result aside. -/
def Op.activities : Op → List Activity
  | enrollNode .. => [.enroll]
  | pollNode .. => [.expiry, .refresh, .poll]
  | submitResult .. => [.expiry, .refresh, .reject]
  | disconnectNode .. => [.disconnect, .refresh]
  | queueTask .. | queueOperation .. | startExercise .. => [.prune, .create]
  | cancelTask .. => [.cancel, .refresh]
  | containExercise .. => [.contain]
  | postOperatorNote .. => [.note]
  | expire _ => [.expiry, .refresh]
  | reset _ => [.reset]

/-- What an operation does to the state. -/
inductive Ran (w : World) (s : LabState) : Op → LabState → Prop
  | plain {op : Op} {s' : LabState} (h : Writes w op.activities s s') : Ran w s op s'
  | delivered {nodeId token : Json} {now : Instant} {m m' : LabState}
      (h : Writes w [.expiry, .refresh, .poll] s m) (hd : Write w m .dispatch m') :
      Ran w s (.pollNode nodeId token now) m'.tick
  | accepted {nodeId token taskId status : Json} {result : Document} {now : Instant}
      {m m' s' : LabState} (h : Writes w [.expiry, .refresh] s m) (hr : Write w m .result m')
      (hf : Writes w [.refresh] m' s') :
        Ran w s (.submitResult nodeId token taskId status result now) s'

/-- What an operation does, every exercise left settled if the values drawn were fresh. -/
structure Ends (w : World) (s : LabState) (op : Op) (s' : LabState) : Prop where
  ran : Ran w s op s'
  settled : w.FreshBelow s'.draws → s'.Settled

/-! ### Operations without expiry -/

/-- How `enroll_node` ends without raising: the oldest closed node goes if the table is full, and
    the new one is added. -/
inductive NodeEnrolled (w : World) (s : LabState) (e : Enrollment) (now : Instant) :
    EnrollResponse → LabState → Prop
  | added (hroom : s.nodes.size < maxNodes) : NodeEnrolled w s e now
      ⟨(s.newNode w e now).publicNode, (s.newNode w e now).sessionToken⟩
      (s.addNode w (s.newNode w e now))
  | replaced {n : Node} {s₁ : LabState} (hfull : maxNodes ≤ s.nodes.size)
      (hn : s.nodes.get? n.id = some n) (hc : n.sessionActive = false)
      (hs₁ : s₁ = s.pruneNode w n) : NodeEnrolled w s e now
      ⟨(s₁.newNode w e now).publicNode, (s₁.newNode w e now).sessionToken⟩
      (s₁.addNode w (s₁.newNode w e now))

/-- `enroll_node` refuses and changes nothing, or adds the node. -/
theorem enrollNode_wp (hs : Safe w s) (name version profile capabilities interval jitter : Json)
    (now : Instant) :
    Prog.wp (enrollNode w name version profile capabilities interval jitter now) (fun reply s' =>
      ∃ e, validateEnrollment w.toInterp name version profile capabilities interval jitter = .ok e ∧
        NodeEnrolled w s e now reply s') (fun _ s' => s' = s) s := by
  unfold enrollNode
  simp only [Prog.wp_bind, wp_check]
  refine ⟨fun e he => ?_, fun _ _ => trivial⟩
  unfold makeNodeSlot
  simp only [Prog.wp_bind, Prog.wp_get]
  by_cases hfull : maxNodes ≤ s.nodes.size
  · rw [if_pos hfull]
    cases hmin : firstMin Node.createdAt (s.nodes.values.filter fun n => !n.sessionActive) with
    | none => exact rfl
    | some n =>
      have hmem := firstMin_mem hmin
      rw [List.mem_filter] at hmem
      obtain ⟨id, hid⟩ := Dict.mem_values.mp hmem.1
      have hn : s.nodes.get? n.id = some n := hs.node_key hid ▸ hid
      simp only [Prog.wp_modify]
      exact ⟨e, he, .replaced hfull hn (by simpa using hmem.2) rfl⟩
  · rw [if_neg hfull]
    exact ⟨e, he, .added (by omega)⟩

/-- `enroll_node` is a sequence of writes. -/
theorem NodeEnrolled.writes {name version profile capabilities interval jitter : Json}
    {e : Enrollment} {now : Instant} {reply : EnrollResponse}
    (he : validateEnrollment w.toInterp name version profile capabilities interval jitter = .ok e)
    (h : NodeEnrolled w s e now reply s') : Writes w [.enroll] s s' := by
  cases h with
  | added => exact (Write.addNode he now).writes (by simp)
  | replaced hfull hn hc hs₁ =>
    subst hs₁
    exact ((Write.pruneNode hn hc).writes (by simp)).write (.addNode he now) (by simp)

theorem postOperatorNote_writes (message actor key : Json) :
    Writes w [.note] s (Prog.final (postOperatorNote w message actor key) s) := by
  have happend : ∀ {s₁} (a m : PyStr) (k : Option PyStr), Writes w [.note] s s₁ →
      Prog.wp (appendNote w a m k) (fun _ s' => Writes w [.note] s s')
        (fun _ s' => Writes w [.note] s s') s₁ := by
    intro s₁ a m k h
    simp only [appendNote, Prog.wp_bind, Prog.wp_get]
    refine Prog.wp_require.mpr ⟨fun hroom => ?_, fun _ => h⟩
    have hnote := h.write (.announceNote hroom a m) (by simp)
    simp only [Prog.wp_bind, Prog.wp_modify, Prog.wp_pure]
    cases k with
    | none => exact hnote
    | some k =>
      refine hnote.write (.rememberNote ?_) (by simp)
      -- the oldest keys above the limit are the ones that go
      refine le_max_of_le_right ?_
      generalize Dict.set _ k _ = keys
      have hsize := Dict.size_foldl_erase (fun x hx => List.mem_of_mem_take hx)
        (keys.keys_nodup.sublist (List.take_sublist (keys.size - maxOperatorNotesRetained) _))
      rw [List.length_take, ← Dict.size_eq_length_keys] at hsize
      omega
  rw [← Prog.wp_final (R := Writes w [.note] s), postOperatorNote]
  simp only [Prog.wp_bind, wp_check, Prog.wp_get]
  refine ⟨fun a _ => ⟨fun m _ => ⟨fun k _ => ?_, fun _ _ => .refl⟩, fun _ _ => .refl⟩,
    fun _ _ => .refl⟩
  split
  · simp only [Prog.wp_ite, Prog.wp_throw]
    refine ⟨fun _ => .refl, fun _ => ?_⟩
    split
    · exact .refl
    · simp only [Prog.wp_bind, Prog.wp_modify]
      exact happend _ _ _
        ((Write.rememberNote (le_max_of_le_left (Dict.size_erase_le _ _))).writes (by simp))
  · exact happend _ _ _ .refl

theorem reset_writes (actor : Json) :
    Writes w [.reset] s (Prog.final (reset w actor) s) := by
  rw [← Prog.wp_final (R := Writes w [.reset] s), reset]
  simp only [Prog.wp_bind, wp_check, Prog.wp_modify]
  exact ⟨fun a _ => (Write.announceReset a).writes (by simp), fun _ _ => .refl⟩

/-! ### Sessions -/

/-- The session a request names: a recorded node and its current token. -/
structure LabState.Session (nodeId token : Json) (n : Node) (s : LabState) : Prop where
  recorded : s.nodes.get? n.id = some n
  node_eq : nodeId = .str n.id
  token_eq : token = .str n.sessionToken

/-- A token the Teamserver drew can be compared. -/
theorem Node.WellFormed.encodes {draws : ℕ} {n : Node} (h : n.WellFormed w draws) :
    n.sessionToken.encodes = true := by
  obtain ⟨k, -, hk⟩ := h.token_drawn
  rw [hk]; rfl

theorem requireNodeSession_run (hs : Safe w s) {nodeId token : Json} {n : Node}
    (h : s.Session nodeId token n) : requireNodeSessionLocked nodeId token s = .ok n s := by
  obtain ⟨hn, rfl, rfl⟩ := h
  have hauth : authenticateNode (.str n.id) (.str n.sessionToken) s = .ok true := by
    simp [authenticateNode, hn, (hs.node_wf hn).encodes]
  simp only [requireNodeSessionLocked, bind, EStateM.bind, Prog.get_apply, hauth, check_ok, pure,
    EStateM.pure, if_true, hn]

theorem requireNodeSession_wp (hs : Safe w s) (nodeId token : Json) :
    Prog.wp (requireNodeSessionLocked nodeId token)
      (fun n s' => s' = s ∧ s.Session nodeId token n) (fun _ s' => s' = s) s := by
  unfold requireNodeSessionLocked
  simp only [Prog.wp_bind, Prog.wp_get, wp_check, Prog.wp_ite]
  refine ⟨fun ok hok => ⟨fun htrue => ?_, fun _ => rfl⟩, fun _ _ => trivial⟩
  subst htrue
  unfold authenticateNode at hok
  split at hok
  · rename_i id tok
    simp only
    cases hn : s.nodes.get? id with
    | none => rw [hn] at hok; cases hok
    | some n =>
      rw [hn] at hok
      simp only at hok
      split at hok
      · rw [Except.ok.injEq, beq_iff_eq] at hok
        exact ⟨rfl, hs.node_key hn ▸ hn, by rw [hs.node_key hn], by rw [hok]⟩
      · cases hok
  · cases hok

/-! ### Cancelling and disconnecting -/

/-- `cancel_task` refuses and changes nothing, or cancels the task. -/
theorem cancelTask_wp (hs : Safe w s) (hset : s.Settled) (taskId actor : Json) :
    Prog.wp (cancelTask w taskId actor)
      (fun _ s' => Writes w [.cancel, .refresh] s s' ∧ s'.Settled) (fun _ s' => s' = s) s := by
  unfold cancelTask
  simp only [Prog.wp_bind, wp_check, Prog.wp_get]
  refine ⟨fun id _ => ⟨fun a _ => ?_, fun _ _ => trivial⟩, fun _ _ => trivial⟩
  cases ht : s.tasks.get? id with
  | none => exact rfl
  | some t =>
    simp only [Prog.wp_ite, Prog.wp_pure, Prog.wp_throw]
    refine ⟨fun _ => ⟨.refl, hset⟩, fun _ => ⟨fun _ => trivial, fun hq => ?_⟩⟩
    have hq : t.status = .queued := by simpa using hq
    have hcame := (Came.refl hs : Came w [.cancel, .refresh] s s).write
      (.cancelledTask (hs.task_key ht ▸ ht) hq a) (by simp) rfl
    simp only [Prog.wp_bind, Prog.wp_modify]
    refine Prog.wp_mono (refreshExercisesLocked_wp hcame (by simp)) ?_ fun _ _ h => h.elim
    rintro _ s₁ ⟨hcame₁, href⟩
    have hget : ∃ t', s₁.tasks.get? id = some t' := by
      rw [href.records, ← hs.task_key ht]
      simp [LabState.cancelledTask]
    obtain ⟨t', ht'⟩ := hget
    simp only [Prog.wp_bind, Prog.wp_get, ht', Prog.wp_pure]
    exact ⟨hcame₁.writes, href.settled⟩

/-- `disconnect_node` refuses and changes nothing, or closes the session it names. -/
theorem disconnectNode_wp (hs : Safe w s) (nodeId token : Json) :
    Prog.wp (disconnectNode w nodeId token) (fun r s' =>
      Writes w [.disconnect, .refresh] s s' ∧ s'.Settled ∧ ∃ n m, s.Session nodeId token n ∧
        s'.nodes.get? n.id = some m ∧ m.sessionActive = false ∧ r = m.publicNode)
      (fun _ s' => s' = s) s := by
  unfold disconnectNode
  rw [Prog.wp_bind]
  refine Prog.wp_imp (requireNodeSession_wp hs nodeId token) ?_
  rintro n _ ⟨rfl, hsess⟩
  rw [Prog.wp_bind]
  refine Prog.wp_mono (failUnfinishedTasks_wp (.inr rfl) (by simp) (by simp) hsess.recorded
    (Came.refl hs : Came w [.disconnect, .refresh] _ _) _ _) ?_ fun _ _ h => h.elim
  rintro _ s₁ ⟨hcame, ⟨m, hm, hst, -⟩, hlive, hset₁⟩
  have hmid := hcame.safe.node_key hm
  simp only [Prog.wp_bind, Prog.wp_get, hm, Prog.wp_modify]
  have hw : Write w s₁ .disconnect (s₁.disconnectedNode w m n.status) :=
    hst ▸ .disconnectedNode (hmid ▸ hm) (hmid ▸ hlive)
  have hclosed : ∃ m', (s₁.disconnectedNode w m n.status).nodes.get? n.id = some m' ∧
      m'.sessionActive = false := by
    rw [← hmid]
    simp [LabState.disconnectedNode]
  obtain ⟨m', hm', hoff⟩ := hclosed
  simp only [hm', Prog.wp_pure]
  exact ⟨hcame.writes.write hw (by simp), hset₁.congr (by simp [LabState.disconnectedNode])
    (by simp [LabState.disconnectedNode]), n, m', hsess, hm', hoff, rfl⟩

/-! ### Polling -/

/-- What a poll hands out is a dispatched task of its node. -/
def LabState.HandsOut (nodeId : PyStr) (task : Option NodeTask) (s : LabState) : Prop :=
  ∀ r, task = some r → ∃ t, s.tasks.get? t.id = some t ∧ r = t.nodeTask ∧ t.nodeId = nodeId ∧
    t.status = .dispatched

/-- The reply of a poll describes the node and the task as recorded afterwards. -/
structure PollResponse.Describes (r : PollResponse) (nodeId : PyStr) (s : LabState) : Prop where
  node : ∃ n, s.nodes.get? nodeId = some n ∧ r.node = n.publicNode
  task : s.HandsOut nodeId r.task

theorem pollReply_wp {nodeId : PyStr} {task : Option NodeTask} {n : Node}
    (hn : s.nodes.get? nodeId = some n) (htask : s.HandsOut nodeId task) {R : LabState → Prop}
    (hR : R s.tick) : Prog.wp (pollReply w nodeId task)
      (fun r s' => R s' ∧ r.Describes nodeId s') (fun _ _ => False) s := by
  unfold pollReply
  simp only [Prog.wp_bind, Prog.wp_get, hn, Prog.wp_modify, Prog.wp_pure]
  exact ⟨hR, ⟨n, hn, rfl⟩, htask⟩

/-- What a poll writes after the expiry pass. -/
inductive Polled (w : World) (s : LabState) : LabState → Prop
  | plain {s' : LabState} (h : Writes w [.poll] s s') : Polled w s s'
  | delivered {m m' : LabState} (h : Writes w [.poll] s m) (hd : Write w m .dispatch m') :
      Polled w s m'.tick

/-- A poll that was heard: the node is still there, paused or not as before. -/
theorem LabState.poll_heard (hs : Safe w s) {n : Node} (hn : s.nodes.get? n.id = some n)
    (now : Instant) : ∃ m m', (s.wakeNode w n now).nodes.get? n.id = some m ∧ m.id = n.id ∧
      Came w [.poll] s ((s.wakeNode w n now).heartbeatNode w m now) ∧
      ((s.wakeNode w n now).heartbeatNode w m now).nodes.get? n.id = some m' ∧
      m'.taskingPaused = n.taskingPaused := by
  have hwake := (Came.refl hs : Came w [.poll] s s).write (.wakeNode hn now) (by simp) rfl
  have hnode : ∃ m, (s.wakeNode w n now).nodes.get? n.id = some m ∧
      m.taskingPaused = n.taskingPaused := by
    unfold LabState.wakeNode
    split <;> simp
  obtain ⟨m, hm, hmp⟩ := hnode
  have hmid := hwake.safe.node_key hm
  have hbeat := hwake.write (.heartbeatNode (hmid ▸ hm) now) (by simp) rfl
  have hnode : ∃ m', ((s.wakeNode w n now).heartbeatNode w m now).nodes.get? n.id = some m' ∧
      m'.taskingPaused = n.taskingPaused := by
    unfold LabState.heartbeatNode
    split
    · simp [hmid, hmp]
    · exact ⟨m, hm, hmp⟩
  obtain ⟨m', hm', hmp'⟩ := hnode
  exact ⟨m, m', hm, hmid, hbeat, hm', hmp'⟩

theorem pollSession_wp (hs : Safe w s) {n : Node} (hn : s.nodes.get? n.id = some n)
    (now : Instant) : Prog.wp (pollSession w n now)
      (fun r s' => Polled w s s' ∧ r.Describes n.id s') (fun _ _ => False) s := by
  obtain ⟨m, m', hm, -, hbeat, hm', hmp'⟩ := LabState.poll_heard (w := w) hs hn now
  unfold pollSession
  simp only [Prog.wp_bind, Prog.wp_modify, hm]
  generalize (s.wakeNode w n now).heartbeatNode w m now = s₁ at hbeat hm'
  by_cases hp : n.taskingPaused = true
  · rw [if_pos hp]
    exact pollReply_wp hm' (fun _ h => by cases h)
      (.plain (hbeat.writes.write (.tick .poll) (by simp)))
  rw [if_neg hp, deliverTask]
  simp only [Prog.wp_bind, Prog.wp_get]
  cases hact : s₁.activeTask n.id with
  | some t =>
    have hmem := List.mem_of_find?_eq_some hact
    have hprop := List.find?_some hact
    simp only [decide_eq_true_eq] at hprop
    obtain ⟨id, hid⟩ := Dict.mem_values.mp hmem
    have ht : s₁.tasks.get? t.id = some t := hbeat.safe.task_key hid ▸ hid
    have hw := hbeat.writes.write (.redeliverTask ht hprop.2) (by simp)
    have hrec : (s₁.redeliverTask w t).toRecords = { s₁.toRecords with
        tasks := s₁.tasks.set t.id { t with deliveryAttempts := t.deliveryAttempts + 1 } } := by
      simp [LabState.redeliverTask]
    simp only [Prog.wp_bind, Prog.wp_modify, Prog.wp_get, Prog.wp_pure]
    refine pollReply_wp (by rw [hrec]; exact hm') ?_ (.plain (hw.write (.tick .poll) (by simp)))
    intro r hr
    rw [hrec, Dict.get?_set_self, Option.map_some, Option.some.injEq] at hr
    exact ⟨{ t with deliveryAttempts := t.deliveryAttempts + 1 },
      by rw [hrec]; exact Dict.get?_set_self _ _ _, hr.symm, hprop⟩
  | none =>
    simp only
    cases hnext : s₁.nextTask n.id with
    | none =>
      simp only [Prog.wp_pure]
      exact pollReply_wp hm' (fun _ h => by cases h)
        (.plain (hbeat.writes.write (.tick .poll) (by simp)))
    | some t =>
      have hmem := firstMin_mem hnext
      rw [List.mem_filter] at hmem
      have hprop := hmem.2
      simp only [decide_eq_true_eq] at hprop
      obtain ⟨id, hid⟩ := Dict.mem_values.mp hmem.1
      have ht : s₁.tasks.get? t.id = some t := hbeat.safe.task_key hid ▸ hid
      have hrec : (s₁.dispatchTask w t now).toRecords = { s₁.toRecords with
          tasks := s₁.tasks.set t.id { t with
            status := .dispatched, dispatchedAt := some (w.utcNow s₁.draws)
            deadline := some (now + taskTimeoutSeconds), queueDeadline := none
            deliveryAttempts := 1 } } := by
        simp [LabState.dispatchTask]
      simp only [Prog.wp_bind, Prog.wp_modify, Prog.wp_get, Prog.wp_pure]
      have hturn : s₁.Turn t :=
        ⟨⟨m', hprop.1 ▸ hm', by rw [hmp']; simpa using hp⟩, hprop.1 ▸ hact, hprop.1 ▸ hnext⟩
      refine pollReply_wp (by rw [hrec]; exact hm') ?_
        (.delivered hbeat.writes (.dispatchTask ht hprop.2 hturn now))
      intro r hr
      rw [hrec, Dict.get?_set_self, Option.map_some, Option.some.injEq] at hr
      exact ⟨{ t with
        status := .dispatched, dispatchedAt := some (w.utcNow s₁.draws)
        deadline := some (now + taskTimeoutSeconds), queueDeadline := none
        deliveryAttempts := 1 }, by rw [hrec]; exact Dict.get?_set_self _ _ _, hr.symm,
        hprop.1, rfl⟩

/-! ### Results -/

theorem orReject_wp {α : Type} {r : NodeTask} {reason : String} {x : Except Exc α}
    {Q : α → LabState → Prop} {E : Exc → LabState → Prop} :
    Prog.wp (orReject w r reason x) Q E s ↔ (∀ a, x = .ok a → Q a s) ∧
      (∀ m, x = .error (.protocol m) → E (.lab { message := m, code := "invalid_result" })
        (s.rejectResultLocked w r reason)) ∧
      ∀ e, x = .error e → (∀ m, e ≠ .protocol m) → E e s := by
  cases x with
  | ok a => simp [orReject]
  | error e => cases e <;> simp [orReject]

/-- A completed `SLEEP` reports the settings it asked for. -/
theorem sleep_settings {py : Interp} {interval jitter : ℤ} {sent result : Json}
    {expected : ExpectedRuntime}
    (h : validateTaskResult py (.sleep interval jitter)
      (Vocabulary.toJson ResultStatus.completed) sent (some expected) = .ok (.completed, result)) :
    intItem result "new_interval_ms" = .ok interval ∧
      intItem result "jitter_percent" = .ok jitter := by
  obtain ⟨fields, rfl, -, hcon⟩ := validateTaskResult_eq_ok.mp h
  obtain ⟨-, -, -, -, -, -, -, rfl⟩ := validateSleep_eq_ok.mp hcon
  exact ⟨rfl, rfl⟩

/-- What is left after a result was stored: the exercises are refreshed and the task is returned. -/
theorem refreshAndReturn_wp (hs : Safe w s) {id : PyStr} {t : Task}
    (ht : s.tasks.get? id = some t) :
    Prog.wp (do
      refreshExercisesLocked w
      let s ← get
      match s.tasks.get? id with
      | some t => return t.nodeTask
      | none => throw (.py .keyError)) (fun r s' =>
      Came w [.refresh] s s' ∧ Refreshed s s' ∧ r = t.nodeTask) (fun _ _ => False) s := by
  rw [Prog.wp_bind]
  refine Prog.wp_imp (refreshExercisesLocked_wp
    (Came.refl hs : Came w [.refresh] _ _) (by simp)) ?_
  rintro _ s₁ ⟨hcame, href⟩
  simp only [Prog.wp_bind, Prog.wp_get]
  rw [href.records, ht]
  exact ⟨hcame, href, rfl⟩

/-- What an accepted result leaves behind, before the refresh and after it. -/
theorem acceptResult_wp (hs : Safe w s) {n : Node} {t : Task} {status : ResultStatus}
    {sent : Document} {result : Json} (hn : s.nodes.get? n.id = some n)
    (ht : s.tasks.get? t.id = some t) (hnode : t.nodeId = n.id) (hd : t.status = .dispatched)
    (hv : validateTaskResult w.toInterp t.command (Vocabulary.toJson status) sent.1
      (some n.expectedRuntime) = .ok (status, result)) (now : Instant) :
    Prog.wp (acceptResult w n t status result now) (fun r s' =>
      Came w [.refresh] (s.acceptedResult w n t status result now) s' ∧
      Refreshed (s.acceptedResult w n t status result now) s' ∧
      r = (t.ended status.taskStatus result (w.utcNow s.draws) true).nodeTask)
      (fun _ _ => False) s := by
  have hsafe : Safe w (s.acceptedResult w n t status result now) :=
    (Write.acceptedResult hn ht hnode hd hv now).safe hs fun h => by cases h
  have htask : (s.acceptedResult w n t status result now).tasks.get? t.id =
      some (t.ended status.taskStatus result (w.utcNow s.draws) true) := by
    rw [LabState.acceptedResult_records hs ht hd, Dict.get?_set_self]
  have htail := refreshAndReturn_wp hsafe htask
  -- only a completed `SLEEP` changes settings, and they are the requested ones
  have hsettings : ∀ (hsleep : t.command.taskType = .sleep ∧ status = .completed),
      ∃ interval jitter, t.command = .sleep interval jitter ∧
        intItem result "new_interval_ms" = .ok interval ∧
        intItem result "jitter_percent" = .ok jitter := by
    rintro ⟨hcmd, rfl⟩
    cases hc : t.command <;> rw [hc] at hcmd <;> cases hcmd
    rename_i interval jitter
    rw [hc] at hv
    exact ⟨interval, jitter, rfl, sleep_settings hv⟩
  unfold acceptResult
  simp only [Prog.wp_bind, Prog.wp_modify, Prog.wp_ite]
  rw [Prog.wp_bind] at htail
  refine ⟨fun hsleep => ?_, fun hother => ?_⟩
  · obtain ⟨interval, jitter, hcmd, hi, hj⟩ := hsettings hsleep
    obtain ⟨-, rfl⟩ := hsleep
    rw [hi, hj]
    simp only [check_ok, Prog.wp_pure, Prog.wp_bind, Prog.wp_modify]
    have hacc : s.acceptedResult w n t .completed result now = ((s.storeResult w n t .completed
        result now).applySettings n.id interval jitter).announceResult w t .completed := by
      rw [LabState.acceptedResult, hcmd]; rfl
    rw [hacc] at htail ⊢
    exact htail
  · have hacc : s.acceptedResult w n t status result now =
        (s.storeResult w n t status result now).announceResult w t status := by
      rw [LabState.acceptedResult]
      unfold LabState.applyCommand
      split
      · rename_i hcmd
        exact absurd ⟨by rw [hcmd]; rfl, rfl⟩ hother
      · rfl
    rw [hacc] at htail ⊢
    exact htail

/-- What a submission writes after the expiry pass: nothing, a rejection, or an accepted result. -/
inductive Submitted (w : World) (s : LabState) : LabState → Prop
  | same : Submitted w s s
  | rejected (r : NodeTask) (reason : String) : Submitted w s (s.rejectResultLocked w r reason)
  | accepted {m s' : LabState} (hr : Write w s .result m) (hf : Writes w [.refresh] m s')
      (hset : s'.Settled) : Submitted w s s'

theorem replayResult_wp {r : NodeTask} {status : ResultStatus} {result : Json} :
    Prog.wp (replayResult r status result) (fun r' s' => s' = s ∧ r' = r) (fun _ s' => s' = s)
      s := by
  unfold replayResult
  exact Prog.wp_ite.mpr ⟨fun _ => ⟨rfl, rfl⟩, fun _ => rfl⟩

/-- What the answered submission of a session did: it replayed a record of its node, or accepted the
    result of a dispatched task of it. -/
inductive Answered (w : World) (s : LabState) (n : Node) (taskId status : Json) (now : Instant) :
    NodeTask → LabState → Prop
  | replayed {r : NodeTask} (hnode : r.nodeId = n.id) : Answered w s n taskId status now r s
  | accepted {t : Task} {st : ResultStatus} {sent : Document} {result : Json} {s' : LabState}
      (htask : taskId = .str t.id) (hst : status = Vocabulary.toJson st)
      (ht : s.tasks.get? t.id = some t) (hnode : t.nodeId = n.id) (hd : t.status = .dispatched)
      (hv : validateTaskResult w.toInterp t.command (Vocabulary.toJson st) sent.1
        (some n.expectedRuntime) = .ok (st, result))
      (hcame : Came w [.refresh] (s.acceptedResult w n t st result now) s')
      (href : Refreshed (s.acceptedResult w n t st result now) s') :
      Answered w s n taskId status now
        (t.ended st.taskStatus result (w.utcNow s.draws) true).nodeTask s'

/-- What a refused submission did: nothing, or a rejection was recorded. -/
inductive Refused (w : World) (s : LabState) (n : Node) : LabState → Prop
  | same : Refused w s n s
  | rejected {r : NodeTask} (hnode : r.nodeId = n.id) (reason : String) :
      Refused w s n (s.rejectResultLocked w r reason)

theorem replayResult_answers {n : Node} {r : NodeTask} (hnode : r.nodeId = n.id)
    (taskId status : Json) (st : ResultStatus) (result : Json) (now : Instant) :
    Prog.wp (replayResult r st result) (Answered w s n taskId status now)
      (fun _ => Refused w s n) s := by
  refine Prog.wp_mono replayResult_wp ?_ ?_
  · rintro r' _ ⟨rfl, rfl⟩
    exact .replayed hnode
  · rintro _ _ rfl
    exact .same

theorem submitLive_answers (hs : Safe w s) {n : Node} {t : Task}
    (hn : s.nodes.get? n.id = some n) (ht : s.tasks.get? t.id = some t) (hnode : t.nodeId = n.id)
    (st : ResultStatus) (sent : Document) (now : Instant) :
    Prog.wp (submitLive w n t st sent.1 now)
      (Answered w s n (.str t.id) (Vocabulary.toJson st) now) (fun _ => Refused w s n) s := by
  unfold submitLive
  refine Prog.wp_ite.mpr ⟨fun _ => ?_, fun _ => Prog.wp_ite.mpr ⟨fun _ => .same, fun hd => ?_⟩⟩
  · exact replayResult_answers hnode _ _ _ _ _
  · have hd : t.status = .dispatched := by simpa using hd
    rw [Prog.wp_bind, orReject_wp]
    refine ⟨?_, fun _ _ => .rejected hnode _, fun _ _ _ => .same⟩
    rintro ⟨st', result⟩ hv
    obtain ⟨fields, -, henv, -⟩ := validateTaskResult_eq_ok.mp hv
    obtain ⟨hst, -⟩ := validateResult_eq_ok.mp henv
    obtain rfl := Vocabulary.toJson_inj hst
    refine Prog.wp_mono (acceptResult_wp hs hn ht hnode hd hv now) ?_ fun _ _ h => h.elim
    rintro r s' ⟨hcame, href, rfl⟩
    exact .accepted rfl rfl ht hnode hd hv hcame href

/-- A submission of a session replays, accepts or refuses. -/
theorem submitSession_answers (hs : Safe w s) {n : Node} (hn : s.nodes.get? n.id = some n)
    (taskId status : Json) (sent : Document) (now : Instant) :
    Prog.wp (submitSession w n taskId status sent.1 now) (Answered w s n taskId status now)
      (fun _ => Refused w s n) s := by
  unfold submitSession
  simp only [Prog.wp_bind, Prog.wp_get]
  cases taskId with
  | str id =>
    cases ht : s.tasks.get? id with
    | some t =>
      simp only [ht]
      refine Prog.wp_ite.mpr ⟨fun hnode => ?_, fun _ => Refused.same⟩
      rw [Prog.wp_bind, orReject_wp]
      refine ⟨?_, fun _ _ => .rejected hnode _, fun _ _ _ => .same⟩
      rintro ⟨st, result⟩ hv
      obtain ⟨hst, rfl, -⟩ := validateResult_eq_ok.mp hv
      obtain rfl := hs.task_key ht
      rw [hst]
      exact submitLive_answers hs hn ht hnode st sent now
    | none =>
      cases hr : s.taskResultTombstones.get? id with
      | some r =>
        simp only [ht, hr]
        refine Prog.wp_ite.mpr ⟨fun hnode => ?_, fun _ => Refused.same⟩
        rw [Prog.wp_bind, orReject_wp]
        refine ⟨?_, fun _ _ => .rejected hnode _, fun _ _ _ => .same⟩
        rintro ⟨st, result⟩ -
        exact replayResult_answers hnode _ _ _ _ _
      | none => simp only [ht, hr]; exact Refused.same
  | _ => exact Refused.same

theorem submitSession_wp (hs : Safe w s) {n : Node} (hn : s.nodes.get? n.id = some n)
    (taskId status : Json) (sent : Document) (now : Instant) :
    Prog.wp (submitSession w n taskId status sent.1 now) (fun _ => Submitted w s)
      (fun _ => Submitted w s) s := by
  refine Prog.wp_mono (submitSession_answers hs hn taskId status sent now) ?_ ?_
  · intro _ _ h
    cases h with
    | replayed => exact .same
    | accepted _ _ ht hnode hd hv hcame href =>
      exact .accepted (.acceptedResult hn ht hnode hd hv now) hcame.writes href.settled
  · intro _ _ h
    cases h with
    | same => exact .same
    | rejected _ reason => exact .rejected _ reason

/-! ### Containment -/

/-- An exercise while its queued tasks are being cancelled: every other exercise is settled, and its
    own ended tasks are observed. -/
structure Containing (w : World) (s₀ : LabState) (e : Exercise) (done : List PyStr)
    (s : LabState) : Prop extends Came w [.contain] s₀ s where
  others : ∀ id e', s.exercises.get? id = some e' → id ≠ e.id → e'.Settled s.tasks
  self : ∃ e', s.exercises.get? e.id = some e' ∧ e.SameStart e' ∧
    e'.status = e.status ∧ e'.detected = e.detected ∧
    ∀ id ∈ e'.taskIds, ∀ t, s.tasks.get? id = some t → t.status.isTerminal = true →
      id ∈ e'.observedTaskIds
  cancelled : ∀ id ∈ done, ∀ t, s.tasks.get? id = some t → t.status ≠ .queued

/-- One task of a contained exercise: cancelled if it was queued. -/
theorem cancelContainedTask_wp {e : Exercise} {done rest : List PyStr} {taskId : PyStr}
    (hst : e.status ≠ .contained) (hsplit : e.taskIds = done ++ taskId :: rest)
    (h : Containing w s₀ e done s) (actor : PyStr) :
    Prog.wp (cancelContainedTask w e.id actor taskId)
      (fun _ => Containing w s₀ e (done ++ [taskId])) (fun _ _ => False) s := by
  have hskip (hq : ∀ t, s.tasks.get? taskId = some t → t.status ≠ .queued) :
      Containing w s₀ e (done ++ [taskId]) s := by
    refine { h with cancelled := fun id hid => ?_ }
    rcases List.mem_append.mp hid with hid | hid
    · exact h.cancelled id hid
    · rw [List.mem_singleton.mp hid]; exact hq
  unfold cancelContainedTask
  simp only [Prog.wp_bind, Prog.wp_get]
  cases ht : s.tasks.get? taskId with
  | none => exact hskip (by simp [ht])
  | some t =>
    simp only
    refine Prog.wp_ite.mpr ⟨fun hq => hskip fun t' ht' => ?_, fun hq => ?_⟩
    · rw [ht, Option.some.injEq] at ht'
      exact ht' ▸ hq
    have hq : t.status = .queued := by simpa using hq
    obtain ⟨e', he', hstart, hst', hdet, hobs⟩ := h.self
    have htids := hstart.tasks_eq
    have hkey := h.safe.exercise_key he'
    have htid := h.safe.task_key ht
    have hv := h.safe.exercise_valid he'
    have hm : t.id ∈ e'.taskIds := by rw [htids, hsplit, htid]; simp
    obtain ⟨p, hpl⟩ := Exercise.exists_planned hv.length_eq hm
    obtain ⟨hp, hex, -⟩ := hv.planned hpl (htid ▸ ht)
    have hw : Write w s .contain (s.cancelContained w e'.id t p actor) :=
      .cancelContained (hkey.symm ▸ he') (hst' ▸ hst) hm (htid ▸ ht) hq hp actor
    obtain ⟨e₁, hcan, hrec⟩ := LabState.cancelContained_records h.safe (hkey.symm ▸ he') hm
      (htid ▸ ht) hq hp actor
    have hpb : t.playbook = .ok p := by rw [Task.playbook, hp]
    simp only [Prog.wp_bind, Prog.wp_modify, hpb, check_ok, Prog.wp_pure]
    rw [LabState.cancelContained, hkey] at hw hrec
    have hafter := h.toCame.write hw (by simp) rfl
    refine ⟨hafter, ?_, ⟨e₁, ?_, hstart.trans hcan.toExtended.sameStart,
      hcan.status_eq.trans hst', ?_, ?_⟩, ?_⟩
    · intro id e₂ he₂ hne
      rw [hrec] at he₂ ⊢
      rw [Dict.get?_set_ne _ _ hne] at he₂
      -- the cancelled task belongs to one exercise only
      refine (h.others id e₂ he₂ hne).of_ended fun x hx t' ht' hterm => ?_
      rw [Dict.get?_set] at ht'
      split at ht'
      · rename_i hxt
        exfalso
        have hv₂ := h.safe.exercise_valid he₂
        obtain ⟨q, hq⟩ := Exercise.exists_planned hv₂.length_eq hx
        obtain ⟨-, hex₂, -⟩ := hv₂.planned hq (hxt ▸ htid ▸ ht)
        rw [hex, Option.some.injEq, hkey, h.safe.exercise_key he₂] at hex₂
        exact hne hex₂.symm
      · exact ⟨t', ht', hterm⟩
    · rw [hrec, Dict.get?_set_self]
    · rw [hcan.detected_eq, hdet]
      simp [matchedRules, Task.ended]
    · intro x hx t' ht' hterm
      rw [hcan.observed_eq]
      rw [hrec, Dict.get?_set] at ht'
      split at ht'
      · rename_i hxt
        exact List.mem_append_right _ (List.mem_singleton.mpr hxt)
      · exact List.mem_append_left _ (hobs x (hcan.tasks_eq ▸ hx) t' ht' hterm)
    · intro x hx t' ht'
      rw [hrec, Dict.get?_set] at ht'
      split at ht'
      · cases ht'; simp [Task.ended]
      · rename_i hxt
        rcases List.mem_append.mp hx with hx | hx
        · exact h.cancelled x hx t' ht'
        · exact absurd ((List.mem_singleton.mp hx).trans htid.symm) hxt

/-- Pausing the node touches no task and no exercise. -/
theorem containNode_came (h : Came w acts s₀ s) (hc : .contain ∈ acts) (e : Exercise)
    (action : ContainmentAction) (actor : PyStr) :
    Came w acts s₀ (s.containNode w e action actor) ∧
      (s.containNode w e action actor).tasks = s.tasks ∧
      (s.containNode w e action actor).exercises = s.exercises ∧
      (s.containNode w e action actor).PausedFor action e.nodeId := by
  unfold LabState.containNode LabState.PausedFor
  cases action <;> cases hn : s.nodes.get? e.nodeId <;> simp only
  case pauseNodeTasking.some n =>
    refine ⟨h.write (.pauseNode (h.safe.node_key hn ▸ hn) e.id actor) hc rfl,
      by simp [LabState.pauseNode], by simp [LabState.pauseNode], fun _ n' hn' => ?_⟩
    rw [← h.safe.node_key hn] at hn'
    simp only [LabState.pauseNode, LabState.toRecords_auditLocked, LabState.toRecords_recordLocked,
      LabState.toRecords_setNode, Dict.get?_set_self, Option.some.injEq] at hn'
    rw [← hn']
  case pauseNodeTasking.none =>
    refine ⟨h, trivial, trivial, fun _ n' hn' => ?_⟩
    rw [hn] at hn'; cases hn'
  all_goals exact ⟨h, trivial, trivial, fun ha => by cases ha⟩

/-- How `contain_exercise` ends without raising: with the exercise contained by that action. -/
structure ExerciseContained (exerciseId action : Json) (reply : PublicExercise) (s : LabState) :
    Prop where
  contained : ∃ id act e, exerciseId = .str id ∧
    (Vocabulary.parse action : Option ContainmentAction) = some act ∧
    s.exercises.get? id = some e ∧ e.status = .contained ∧
    e.containment.map (·.action) = some act ∧ reply = e.publicExercise

/-- `contain_exercise` refuses and changes nothing, or leaves the exercise contained. -/
theorem containExercise_wp (hs : Safe w s) (hset : s.Settled) (exerciseId action actor : Json) :
    Prog.wp (containExercise w exerciseId action actor) (fun reply s' =>
      Writes w [.contain] s s' ∧ s'.Settled ∧ ExerciseContained exerciseId action reply s')
      (fun _ s' => s' = s) s := by
  unfold containExercise
  simp only [Prog.wp_bind, wp_check, Prog.wp_get]
  refine ⟨fun id hid => ⟨fun act hact => ⟨fun a _ => ?_, fun _ _ => trivial⟩, fun _ _ => trivial⟩,
    fun _ _ => trivial⟩
  have hid : exerciseId = .str id := by
    unfold requireStr at hid
    split at hid <;> cases hid
    rfl
  have hact : (Vocabulary.parse action : Option ContainmentAction) = some act := by
    cases hp : (Vocabulary.parse action : Option ContainmentAction) <;> rw [hp] at hact <;>
      cases hact
    rfl
  cases he : s.exercises.get? id with
  | none => exact rfl
  | some e =>
    simp only
    refine Prog.wp_ite.mpr ⟨fun hst => Prog.wp_ite.mpr ⟨fun hsame => ⟨.refl, hset,
      ⟨id, act, e, hid, hact, he, hst, hsame, rfl⟩⟩, fun _ => rfl⟩, fun hst =>
      Prog.wp_ite.mpr ⟨fun _ => rfl, fun hdet => ?_⟩⟩
    have hkey := hs.exercise_key he
    unfold containDetected
    rw [Prog.wp_bind]
    have hloop : Prog.wp (forM e.taskIds (cancelContainedTask w e.id a))
        (fun _ => Containing w s e e.taskIds) (fun _ _ => False) s :=
      Prog.wp_forM_prefix
        (fun done x rest hsplit s₁ h₁ => cancelContainedTask_wp hst hsplit h₁ a)
        { writes := .refl, safe := hs
          others := fun k e' he' _ => hset k e' he'
          self := ⟨e, hkey.symm ▸ he, .refl e, rfl, rfl, fun x hx t ht hterm =>
            (hset id e he).observed x hx t ht hterm⟩
          cancelled := by simp }
    refine Prog.wp_mono hloop ?_ fun _ _ h => h.elim
    intro _ s₁ h₁
    simp only [Prog.wp_bind, Prog.wp_modify, Prog.wp_get]
    obtain ⟨hcame, htasks, hexs, hpaused⟩ := containNode_came h₁.toCame (by simp) e act a
    generalize s₁.containNode w e act a = s₂ at hcame htasks hexs hpaused
    obtain ⟨e', he', hstart, hst', hdet', hobs⟩ := h₁.self
    have htids := hstart.tasks_eq
    have he₂ : s₂.exercises.get? e'.id = some e' := by
      rw [hexs, h₁.safe.exercise_key he']; exact he'
    have hkey' : e'.id = e.id := h₁.safe.exercise_key he'
    have hget : s₂.exercises.get? e.id = some e' := hkey' ▸ he₂
    simp only [hget]
    have hw : Write w s₂ .contain (s₂.applyContainment w e' act a) :=
      .applyContainment he₂ (hst' ▸ hst) (by rw [hdet']; simpa using hdet)
        (fun x hx t ht => h₁.cancelled x (htids ▸ hx) t (htasks ▸ ht)) (hstart.node_eq ▸ hpaused) a
    obtain ⟨e₃, hedit, hcon⟩ := LabState.applyContainment_edits hcame.safe he₂ (hst' ▸ hst) act a
    have hget₃ : (s₂.applyContainment w e' act a).exercises.get? e.id = some e₃ := by
      rw [hedit.records, hcon.id_eq, hkey', Dict.get?_set_self]
    simp only [hget₃, Prog.wp_pure]
    refine ⟨hcame.writes.write hw (by simp), fun k x hx => ?_,
      ⟨id, act, e₃, hid, hact, hkey ▸ hget₃, hcon.status_eq, hcon.containment_eq, rfl⟩⟩
    rw [hedit.records, hcon.id_eq, hkey'] at hx ⊢
    rw [Dict.get?_set] at hx
    rw [htasks]
    split at hx
    · cases hx
      refine ⟨fun y hy t ht hterm => ?_, fun hnone => ?_⟩
      · rw [hcon.observed_eq]
        exact hobs y (hcon.tasks_eq ▸ hy) t ht hterm
      · have := hcon.containment_eq
        rw [hnone] at this; cases this
    · rename_i hne
      exact h₁.others k x (hexs ▸ hx) hne

/-! ### All operations -/

theorem expired_wp (hs : Safe w s) (now : Instant) : Prog.wp (expireLocked w now)
    (fun _ s' => Came w [.expiry, .refresh] s s' ∧ s'.Settled) (fun _ _ => False) s :=
  expireLocked_wp (by simp) (by simp) now (.refl hs)

theorem pollNode_ends (hs : Safe w s) (nodeId token : Json) (now : Instant) :
    let R : LabState → Prop := Ends w s (.pollNode nodeId token now)
    Prog.wp (pollNode w nodeId token now) (fun _ => R) (fun _ => R) s := by
  intro R
  unfold pollNode
  rw [Prog.wp_bind]
  refine Prog.wp_mono (expired_wp hs now) ?_ fun _ _ h => h.elim
  rintro _ s₁ ⟨hcame, hset⟩
  have hbefore : Writes w [.expiry, .refresh, .poll] s s₁ := hcame.writes.mono (by simp)
  have hstop : R s₁ := ⟨.plain hbefore, fun _ => hset⟩
  rw [Prog.wp_bind]
  refine Prog.wp_mono (requireNodeSession_wp hcame.safe nodeId token) ?_ fun _ _ h => h ▸ hstop
  rintro n s₁ ⟨rfl, hsess⟩
  refine Prog.wp_mono (pollSession_wp hcame.safe hsess.recorded now) ?_ fun _ _ h => h.elim
  rintro r s₂ ⟨hpoll, -⟩
  have hcalm : ∀ c ∈ [Activity.poll], c.calm = true := by simp [Activity.calm]
  cases hpoll with
  | plain h =>
    exact ⟨.plain (hbefore.trans (h.mono (by simp))),
      fun hf => h.settled hcame.safe hset hcalm hf⟩
  | @delivered m m' h hd =>
    refine ⟨.delivered (hbefore.trans (h.mono (by simp))) hd, fun hf => ?_⟩
    have hf' : w.FreshBelow m.draws := hf.mono (hd.draws_le.trans (Nat.le_succ _))
    have hset' := hd.settled (h.safe hcame.safe hf') (h.settled hcame.safe hset hcalm hf') rfl
      fun hc => by cases hc
    exact hset'.congr rfl rfl

theorem submitResult_ends (hs : Safe w s) (nodeId token taskId status : Json) (result : Document)
    (now : Instant) :
    let R : LabState → Prop := Ends w s (.submitResult nodeId token taskId status result now)
    Prog.wp (submitResult w nodeId token taskId status result.1 now) (fun _ => R) (fun _ => R)
      s := by
  intro R
  unfold submitResult
  rw [Prog.wp_bind]
  refine Prog.wp_mono (expired_wp hs now) ?_ fun _ _ h => h.elim
  rintro _ s₁ ⟨hcame, hset⟩
  have hbefore : Writes w [.expiry, .refresh, .reject] s s₁ := hcame.writes.mono (by simp)
  have hstop : R s₁ := ⟨.plain hbefore, fun _ => hset⟩
  rw [Prog.wp_bind]
  refine Prog.wp_mono (requireNodeSession_wp hcame.safe nodeId token) ?_ fun _ _ h => h ▸ hstop
  rintro n s₁ ⟨rfl, hsess⟩
  have hsub : ∀ s₂, Submitted w s₁ s₂ → R s₂ := by
    intro s₂ h
    cases h with
    | same => exact hstop
    | rejected r reason =>
      have hw := Write.rejectResult (w := w) (s := s₁) r reason
      exact ⟨.plain (hbefore.write hw (by simp)),
        fun _ => hw.settled hcame.safe hset rfl fun hc => by cases hc⟩
    | accepted hr hf hset' => exact ⟨.accepted hcame.writes hr hf, fun _ => hset'⟩
  exact Prog.wp_mono (submitSession_wp hcame.safe hsess.recorded taskId status result now)
    (fun _ => hsub) fun _ => hsub

/-- Operations made of calm writes only. -/
theorem Ends.of_writes {op : Op} (hs : Safe w s) (hset : s.Settled)
    (h : Writes w op.activities s s') (hc : ∀ c ∈ op.activities, c.calm = true) :
    Ends w s op s' := ⟨.plain h, h.settled hs hset hc⟩

/-- Every operation is writes of its parts, and leaves every exercise settled. -/
theorem step_ends (hs : Safe w s) (hset : s.Settled) (op : Op) : Ends w s op (step w s op) := by
  have hplain : ∀ {α : Type} (m : Lab α), Prog.wp m
      (fun _ s' => Writes w op.activities s s' ∧ s'.Settled)
      (fun _ s' => Writes w op.activities s s' ∧ s'.Settled) s →
      Ends w s op (Prog.final ((fun _ => ()) <$> m) s) := by
    intro α m h
    obtain ⟨hw, hset'⟩ := Prog.final_map (fun _ => ()) h
    exact ⟨.plain hw, fun _ => hset'⟩
  have hcalm : ∀ {α : Type} (m : Lab α), Writes w op.activities s (Prog.final m s) →
      (∀ c ∈ op.activities, c.calm = true) → Ends w s op (Prog.final ((fun _ => ()) <$> m) s) := by
    intro α m h hc
    exact .of_writes hs hset (Prog.final_map _ (Prog.wp_final.mpr h)) hc
  have hatomic : ∀ {α : Type} {m : Lab α} {Q : α → LabState → Prop},
      Prog.wp m Q (fun _ s' => s' = s) s → (∀ a s', Q a s' → Writes w op.activities s s') →
      Writes w op.activities s (Prog.final m s) := fun h hQ =>
    Prog.wp_final.mp (Prog.wp_mono h hQ fun _ _ he => he ▸ .refl)
  cases op with
  | enrollNode name version profile capabilities interval jitter now =>
    exact hcalm _ (hatomic (enrollNode_wp hs name version profile capabilities interval jitter now)
      fun _ _ ⟨_, he, h⟩ => h.writes he) (by simp [Op.activities, Activity.calm])
  | pollNode nodeId token now => exact Prog.final_map _ (pollNode_ends hs nodeId token now)
  | submitResult nodeId token taskId status result now =>
    exact Prog.final_map _ (submitResult_ends hs nodeId token taskId status result now)
  | disconnectNode nodeId token =>
    exact hplain _ (Prog.wp_mono (disconnectNode_wp hs nodeId token)
      (fun _ _ ⟨hw, hset', _⟩ => ⟨hw, hset'⟩) fun _ _ he => by rw [he]; exact ⟨.refl, hset⟩)
  | queueTask nodeId taskType payload ttl key actor now =>
    exact hcalm _ (hatomic (queueTask_wp hs nodeId taskType payload ttl key actor now)
      fun _ _ ⟨_, _, h⟩ => h.writes) (by simp [Op.activities, Activity.calm])
  | queueOperation nodeId steps ttl key actor now =>
    exact hcalm _ (hatomic (queueOperation_wp hs nodeId steps ttl key actor now)
      fun _ _ ⟨_, _, h⟩ => h.writes) (by simp [Op.activities, Activity.calm])
  | cancelTask taskId actor =>
    exact hplain _ (Prog.wp_mono (cancelTask_wp hs hset taskId actor) (fun _ _ h => h)
      fun _ _ he => by rw [he]; exact ⟨.refl, hset⟩)
  | startExercise nodeId scenarioId actor key now =>
    exact hcalm _ (hatomic (startExercise_wp hs nodeId scenarioId actor key now)
      fun _ _ ⟨_, _, h⟩ => h.writes) (by simp [Op.activities, Activity.calm])
  | containExercise exerciseId action actor =>
    exact hplain _ (Prog.wp_mono (containExercise_wp hs hset exerciseId action actor)
      (fun _ _ ⟨hw, hset', _⟩ => ⟨hw, hset'⟩) fun _ _ he => by rw [he]; exact ⟨.refl, hset⟩)
  | postOperatorNote message actor key =>
    exact hcalm _ (postOperatorNote_writes message actor key)
      (by simp [Op.activities, Activity.calm])
  | expire now =>
    have h : Ends w s (.expire now) (Prog.final (expireLocked w now) s) :=
      Prog.wp_final.mp (Prog.wp_mono (expired_wp hs now)
        (fun _ s' ⟨hcame, hset'⟩ => ⟨.plain hcame.writes, fun _ => hset'⟩) fun _ _ h => h.elim)
    exact h
  | reset actor =>
    exact .of_writes hs hset (reset_writes actor) (by simp [Op.activities, Activity.calm])

/-! ### Runs -/

theorem Ran.draws_le {op : Op} (h : Ran w s op s') : s.draws ≤ s'.draws := by
  cases h with
  | plain h => exact h.draws_le
  | delivered h hd => exact (h.draws_le.trans hd.draws_le).trans (Nat.le_succ _)
  | accepted h hr hf => exact (h.draws_le.trans hr.draws_le).trans hf.draws_le

/-- Every operation keeps the invariant. -/
theorem Ran.safe {op : Op} (h : Ran w s op s') (hs : Safe w s) (hf : w.FreshBelow s'.draws) :
    Safe w s' := by
  cases h with
  | plain h => exact h.safe hs hf
  | @delivered _ _ _ m m' h hd =>
    have hf' : w.FreshBelow m'.draws := hf.mono (Nat.le_succ _)
    have hm := hd.safe (h.safe hs (hf'.mono hd.draws_le)) fun hc => by cases hc
    exact (Write.tick .poll).safe hm fun hc => by cases hc
  | accepted h hr hw =>
    have hf' := hf.mono hw.draws_le
    exact hw.safe (hr.safe (h.safe hs (hf'.mono hr.draws_le)) fun hc => by cases hc) hf

/-- The invariant at the boundary of operations. -/
structure Sound (w : World) (s : LabState) : Prop where
  safe : Safe w s
  settled : s.Settled

theorem sound_init (stream : String) : Sound w (.init stream) :=
  ⟨safe_init w stream, Dict.all_empty⟩

theorem step_draws_le (h : Sound w s) (op : Op) : s.draws ≤ (step w s op).draws :=
  (step_ends h.safe h.settled op).ran.draws_le

theorem step_sound (h : Sound w s) (op : Op) (hf : w.FreshBelow (step w s op).draws) :
    Sound w (step w s op) := by
  have hends := step_ends h.safe h.settled op
  exact ⟨hends.ran.safe h.safe hf, hends.settled hf⟩

theorem Next.sound (h : Next w s s') (hs : Sound w s) : Sound w s' := by
  obtain ⟨op, rfl, hf⟩ := h
  exact step_sound hs op hf

theorem Later.sound (h : Later w s s') (hs : Sound w s) : Sound w s' := by
  induction h with
  | refl => exact hs
  | tail _ hn ih => exact hn.sound ih

/-- Every reachable state satisfies the invariant. -/
theorem Reachable.sound (h : Reachable w s) : Sound w s := by
  obtain ⟨stream, hl⟩ := h
  exact Later.sound hl (sound_init stream)

end C2Lab
