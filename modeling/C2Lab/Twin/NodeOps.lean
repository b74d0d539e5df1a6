import C2Lab.Twin.Expire

/-! The operations a Node calls, on a state and on its renamed twin. -/

namespace C2Lab

open Prog

variable {py : Interp} {ρ : Renaming py} {w w' : World} {s s' : LabState}

namespace Renaming

/-- The reply to an enrollment: only the token differs. -/
def enrollResponse (ρ : Renaming py) (r : EnrollResponse) : EnrollResponse :=
  { r with sessionToken := ρ.tokenStr r.sessionToken }

/-- The reply to a poll. -/
noncomputable def pollResponse (ρ : Renaming py) (r : PollResponse) : PollResponse :=
  { r with task := r.task.map ρ.nodeTask }

/-- A task without free text looks the same to its Node. -/
theorem nodeTask_of_fixed {r : NodeTask} (h : ρ.command r.command = r.command) :
    ρ.nodeTask r = r := by
  have hresult : r.result.map (ρ.result r.command) = r.result := by
    cases r.result with
    | none => rfl
    | some x => exact congrArg some (ρ.result_of_fixed h x)
  unfold nodeTask
  rw [h, hresult]

end Renaming

/-! ### Enrollment -/

theorem firstMin_map {α β : Type} (f : α → β) (key : β → ℕ) (l : List α) :
    firstMin key (l.map f) = (firstMin (fun a => key (f a)) l).map f := by
  induction l with
  | nil => rfl
  | cons a l ih =>
    rw [List.map_cons, firstMin, firstMin, ih]
    cases firstMin (fun a => key (f a)) l with
    | none => rfl
    | some b =>
      simp only [Option.map_some]
      split <;> rfl

namespace Renaming.Sim

theorem pruneNode (h : ρ.Sim w w' s s') (n : Node) :
    ρ.Sim w w' (s.pruneNode w n) (s'.pruneNode w' (ρ.node n)) := by
  have herased : ρ.Sim w w' { s with nodes := s.nodes.erase n.id }
      { s' with nodes := s'.nodes.erase n.id } := by
    refine h.records rfl rfl rfl rfl fun hh => ?_
    refine ⟨?_, h.tasks, h.tombstones, h.exercises, h.exerciseKeys, h.operations, h.taskSequence,
      h.streamId, hh⟩
    rw [h.nodes, Dict.map_erase]
  exact (herased.record fun _ => rfl).audit fun _ => rfl

theorem newNode (h : ρ.Sim w w' s s') (e : Enrollment) (now : Instant) :
    s'.newNode w' e now = ρ.node (s.newNode w e now) := by
  simp only [LabState.newNode, Renaming.node, World.nodeId, h.ident, h.now_later, Renaming.tokenStr,
    h.aligned.token]

theorem addNode (h : ρ.Sim w w' s s') (n : Node) :
    ρ.Sim w w' (s.addNode w n) (s'.addNode w' (ρ.node n)) :=
  ((h.tick.tick.tick.setNode rfl).record fun _ => rfl).audit fun _ => rfl

end Renaming.Sim

theorem pair_makeNodeSlot : ρ.Pair w w' (makeNodeSlot w) (makeNodeSlot w') := by
  intro s s' h
  unfold makeNodeSlot
  refine alike_get ?_
  refine alike_ite (by rw [h.nodes, Dict.size_map]) (fun _ => ?_) fun _ => alike_unit h
  have hclosed : (fun n : Node => !n.sessionActive) ∘ ρ.node = fun n => !n.sessionActive := rfl
  have hcreated : (fun n => (ρ.node n).createdAt) = Node.createdAt := rfl
  rw [h.node_values, List.filter_map, hclosed, firstMin_map, hcreated]
  cases firstMin Node.createdAt (s.nodes.values.filter fun n => !n.sessionActive) with
  | none => exact alike_throw h _
  | some n => exact alike_modify (h.pruneNode n)

theorem twin_enrollNode (h : ρ.Sim w w' s s')
    (name version profile capabilities interval jitter : Json) (now : Instant) :
    Alike (ρ.Sim w w') (fun r r' => r' = ρ.enrollResponse r)
      (enrollNode w name version profile capabilities interval jitter now)
      (enrollNode w' name version profile capabilities interval jitter now) s s' := by
  unfold enrollNode
  rw [h.aligned.interp.1, h.aligned.interp.2]
  refine alike_bind (alike_check_same h _) ?_
  rintro e _ t t' ⟨rfl, -⟩ ht
  refine alike_bind (pair_makeNodeSlot _ _ ht) fun _ _ u u' _ hu => ?_
  refine alike_get ?_
  rw [hu.newNode]
  exact alike_modify_bind (hu.addNode _) fun hv => alike_pure hv rfl

/-! ### Sessions -/

/-- A renamed token opens the renamed session. -/
theorem authenticate_twin (h : ρ.Sim w w' s s') (nodeId token : Json) :
    authenticateNode nodeId (ρ.tokenArg token) s' = authenticateNode nodeId token s := by
  cases nodeId with
  | str id =>
    cases token with
    | str token =>
      simp only [authenticateNode, Renaming.tokenArg, h.node_get?]
      cases s.nodes.get? id with
      | none => rfl
      | some n =>
        have hsame : (ρ.tokenStr n.sessionToken == ρ.tokenStr token) =
            (n.sessionToken == token) := by
          rw [Bool.eq_iff_iff, beq_iff_eq, beq_iff_eq, ρ.tokenStr_injective.eq_iff]
        simp only [Option.map_some, ρ.tokenStr_encodes, Renaming.node, hsame]
    | _ => rfl
  | _ => rfl

theorem twin_requireNodeSession (h : ρ.Sim w w' s s') (nodeId token : Json) :
    Alike (ρ.Sim w w') (fun n n' => n' = ρ.node n) (requireNodeSessionLocked nodeId token)
      (requireNodeSessionLocked nodeId (ρ.tokenArg token)) s s' := by
  unfold requireNodeSessionLocked
  refine alike_get ?_
  rw [authenticate_twin h]
  refine alike_bind (alike_check_same h _) ?_
  rintro ok _ t t' ⟨rfl, -⟩ ht
  refine alike_ite Iff.rfl (fun _ => ?_) fun _ => alike_throw ht _
  cases nodeId with
  | str id =>
    simp only [h.node_get?]
    cases s.nodes.get? id with
    | none => exact alike_throw ht _
    | some n => exact alike_pure ht rfl
  | _ => exact alike_throw ht _

/-! ### Polling -/

namespace Renaming.Sim

theorem wakeNode (h : ρ.Sim w w' s s') (n : Node) (now : Instant) :
    ρ.Sim w w' (s.wakeNode w n now) (s'.wakeNode w' (ρ.node n) now) := by
  have hwoken : ρ.Sim w w'
      (s.tick.setNode { n with
        status := .online, lastSeen := w.utcNow s.draws, lastSeenMonotonic := now })
      (s'.tick.setNode { ρ.node n with
        status := .online, lastSeen := w'.utcNow s'.draws, lastSeenMonotonic := now }) :=
    h.tick.setNode (by simp [Renaming.node, h.now])
  exact .ite Iff.rfl (fun _ => (hwoken.record fun _ => rfl).audit fun _ => rfl) fun _ => hwoken

theorem heartbeatNode (h : ρ.Sim w w' s s') (n : Node) (now : Instant) :
    ρ.Sim w w' (s.heartbeatNode w n now) (s'.heartbeatNode w' (ρ.node n) now) :=
  .ite Iff.rfl (fun _ => (h.setNode rfl).record fun _ => rfl) fun _ => h

theorem redeliverTask (h : ρ.Sim w w' s s') (t : Task) :
    ρ.Sim w w' (s.redeliverTask w t) (s'.redeliverTask w' (ρ.task t)) := by
  refine (h.setTask rfl).record fun _ => ?_
  simp [Renaming.draft, Renaming.data, Renaming.task, Task.eventData]

theorem dispatchTask (h : ρ.Sim w w' s s') (t : Task) (now : Instant) :
    ρ.Sim w w' (s.dispatchTask w t now) (s'.dispatchTask w' (ρ.task t) now) := by
  refine ((h.tick.setTask ?_).record fun _ => ?_).audit fun _ => ?_
  · simp [Renaming.task, h.now]
  · simp [Renaming.draft, Renaming.data, Renaming.task, Task.eventData]
  · simp [Renaming.task]

theorem activeTask (h : ρ.Sim w w' s s') (nodeId : PyStr) :
    s'.activeTask nodeId = (s.activeTask nodeId).map ρ.task := by
  unfold LabState.activeTask
  rw [h.task_values, List.find?_map]
  rfl

theorem nextTask (h : ρ.Sim w w' s s') (nodeId : PyStr) :
    s'.nextTask nodeId = (s.nextTask nodeId).map ρ.task := by
  unfold LabState.nextTask
  rw [h.task_values, List.filter_map, firstMin_map]
  rfl

end Renaming.Sim

theorem twin_deliverTask (h : ρ.Sim w w' s s') (nodeId : PyStr) (now : Instant) :
    Alike (ρ.Sim w w') (fun r r' => r' = r.map ρ.nodeTask) (deliverTask w nodeId now)
      (deliverTask w' nodeId now) s s' := by
  unfold deliverTask
  refine alike_get ?_
  rw [h.activeTask, h.nextTask]
  have hread : ∀ {u u' : LabState} (id : PyStr), ρ.Sim w w' u u' →
      (u'.tasks.get? id).map Task.nodeTask =
        ((u.tasks.get? id).map Task.nodeTask).map ρ.nodeTask := by
    intro u u' id hu
    rw [hu.task_get?]
    cases u.tasks.get? id <;> rfl
  cases s.activeTask nodeId with
  | some t =>
    refine alike_modify_bind (h.redeliverTask t) fun hu => ?_
    exact alike_get (alike_pure hu (hread t.id hu))
  | none =>
    cases s.nextTask nodeId with
    | some t =>
      refine alike_modify_bind (h.dispatchTask t now) fun hu => ?_
      exact alike_get (alike_pure hu (hread t.id hu))
    | none => exact alike_pure h rfl

theorem twin_pollReply (h : ρ.Sim w w' s s') (nodeId : PyStr) (task : Option NodeTask) :
    Alike (ρ.Sim w w') (fun r r' => r' = ρ.pollResponse r) (pollReply w nodeId task)
      (pollReply w' nodeId (task.map ρ.nodeTask)) s s' := by
  unfold pollReply
  refine alike_get ?_
  rw [h.node_get?]
  cases s.nodes.get? nodeId with
  | none => exact alike_throw h _
  | some n =>
    refine alike_modify_bind h.tick fun ht => alike_pure ht ?_
    simp [Renaming.pollResponse, h.now]

theorem twin_heartbeat (h : ρ.Sim w w' s s') (n : Node) (now : Instant) :
    ρ.Sim w w'
      (match s.nodes.get? n.id with
        | none => s
        | some m => s.heartbeatNode w m now)
      (match s'.nodes.get? n.id with
        | none => s'
        | some m => s'.heartbeatNode w' m now) := by
  rw [h.node_get?]
  cases s.nodes.get? n.id with
  | none => exact h
  | some m => exact h.heartbeatNode m now

theorem twin_pollSession (h : ρ.Sim w w' s s') (n : Node) (now : Instant) :
    Alike (ρ.Sim w w') (fun r r' => r' = ρ.pollResponse r) (pollSession w n now)
      (pollSession w' (ρ.node n) now) s s' := by
  unfold pollSession
  refine alike_modify_bind (h.wakeNode n now) fun ht => ?_
  refine alike_modify_bind (twin_heartbeat ht n now) fun hu => ?_
  refine alike_ite Iff.rfl (fun _ => twin_pollReply hu n.id none) fun _ => ?_
  refine alike_bind (twin_deliverTask hu n.id now) ?_
  rintro task _ v v' rfl hv
  exact twin_pollReply hv n.id task

theorem twin_pollNode (h : ρ.Sim w w' s s') (nodeId token : Json) (now : Instant) :
    Alike (ρ.Sim w w') (fun r r' => r' = ρ.pollResponse r) (pollNode w nodeId token now)
      (pollNode w' nodeId (ρ.tokenArg token) now) s s' := by
  unfold pollNode
  refine alike_bind (pair_expire now _ _ h) fun _ _ t t' _ ht => ?_
  refine alike_bind (twin_requireNodeSession ht nodeId token) ?_
  rintro n _ u u' rfl hu
  exact twin_pollSession hu n now

/-! ### Results -/

namespace Renaming.Sim

theorem rejectResult (h : ρ.Sim w w' s s') (r : NodeTask) (reason : String) :
    ρ.Sim w w' (s.rejectResultLocked w r reason)
      (s'.rejectResultLocked w' (ρ.nodeTask r) reason) := by
  refine (h.record fun _ => ?_).audit fun _ => ?_
  · simp [Renaming.draft, Renaming.data, Renaming.nodeTask]
  · simp [Renaming.nodeTask]

theorem storeResult (h : ρ.Sim w w' s s') (n : Node) (t : Task) (status : ResultStatus)
    (result : Json) (now : Instant) :
    ρ.Sim w w' (s.storeResult w n t status result now)
      (s'.storeResult w' (ρ.node n) (ρ.task t) status (ρ.result t.command result) now) := by
  refine (h.tick.tick.setTask ?_).setNode ?_
  · simp [Renaming.task, h.now]
  · simp [Renaming.node, h.now_later]

theorem applySettings (h : ρ.Sim w w' s s') (nodeId : PyStr) (interval jitter : ℤ) :
    ρ.Sim w w' (s.applySettings nodeId interval jitter)
      (s'.applySettings nodeId interval jitter) := by
  unfold LabState.applySettings
  rw [h.node_get?]
  cases s.nodes.get? nodeId with
  | none => exact h
  | some n => exact h.setNode rfl

theorem generateEvent (h : ρ.Sim w w' s s') (t : Task) (status : ResultStatus) :
    ρ.Sim w w' (s.generateEvent w t status) (s'.generateEvent w' (ρ.task t) status) := by
  unfold LabState.generateEvent
  simp only [Renaming.task]
  cases t.command with
  | generateEvent category severity message =>
    cases status with
    | completed => exact h.record fun _ => rfl
    | failed => exact h
  | _ => exact h

theorem announceResult (h : ρ.Sim w w' s s') (t : Task) (status : ResultStatus) :
    ρ.Sim w w' (s.announceResult w t status) (s'.announceResult w' (ρ.task t) status) := by
  refine ((h.generateEvent t status).record fun _ => ?_).audit fun _ => ?_
  · simp [Renaming.draft, Renaming.data, Renaming.task, Task.eventData]
  · simp [Renaming.task]

end Renaming.Sim

/-- The end of `submit_result` after the result was stored. -/
theorem twin_announceAccepted (h : ρ.Sim w w' s s') (t : Task) (status : ResultStatus) :
    Alike (ρ.Sim w w') (fun r r' => r' = ρ.nodeTask r)
      (do
        modify fun s => s.announceResult w t status
        refreshExercisesLocked w
        let s ← get
        match s.tasks.get? t.id with
        | some t => return t.nodeTask
        | none => throw (.py .keyError))
      (do
        modify fun s => s.announceResult w' (ρ.task t) status
        refreshExercisesLocked w'
        let s ← get
        match s.tasks.get? t.id with
        | some t => return t.nodeTask
        | none => throw (.py .keyError)) s s' := by
  refine alike_modify_bind (h.announceResult t status) fun hu => ?_
  refine alike_bind (pair_refreshExercises _ _ hu) fun _ _ v v' _ hv => ?_
  refine alike_get ?_
  rw [hv.task_get?]
  cases v.tasks.get? t.id with
  | none => exact alike_throw hv _
  | some t => exact alike_pure hv rfl

/-- Committing a result and, on the other side, what the renaming makes of it. -/
theorem twin_acceptResult (h : ρ.Sim w w' s s') (n : Node) (t : Task) (status : ResultStatus)
    (result : Json) (now : Instant) :
    Alike (ρ.Sim w w') (fun r r' => r' = ρ.nodeTask r) (acceptResult w n t status result now)
      (acceptResult w' (ρ.node n) (ρ.task t) status (ρ.result t.command result) now) s s' := by
  unfold acceptResult
  refine alike_modify_bind (h.storeResult n t status result now) fun hu => ?_
  refine alike_ite (by simp [Renaming.task]) (fun hsleep => ?_)
    fun _ => twin_announceAccepted hu t status
  have hfixed : ρ.command t.command = t.command := by
    cases hc : t.command <;> simp_all [Command.taskType, Renaming.command]
  rw [ρ.result_of_fixed hfixed] at hu ⊢
  refine alike_bind (alike_check_same hu _) ?_
  rintro _ interval v v' ⟨rfl, -⟩ hv
  refine alike_bind (alike_check_same hv _) ?_
  rintro _ jitter v v' ⟨rfl, -⟩ hv
  exact alike_modify_bind (hv.applySettings n.id interval jitter)
    fun hv => twin_announceAccepted hv t status

theorem twin_replayResult (h : ρ.Sim w w' s s') (r : NodeTask) (status : ResultStatus)
    (result : Json) :
    Alike (ρ.Sim w w') (fun x x' => x' = x ∧ x = r) (replayResult r status result)
      (replayResult r status result) s s' :=
  alike_ite Iff.rfl (fun _ => alike_pure h ⟨rfl, rfl⟩) fun _ => alike_throw h _

/-- A check whose failure is recorded, the same on both sides. -/
theorem twin_orReject {α : Type} (h : ρ.Sim w w' s s') (r : NodeTask) (reason : String)
    (x : Except Exc α) :
    Alike (ρ.Sim w w') (fun a a' => a' = a) (orReject w r reason x)
      (orReject w' (ρ.nodeTask r) reason x) s s' := by
  unfold orReject
  split
  · exact alike_pure h rfl
  · exact alike_modify_bind (h.rejectResult r reason) fun hu => alike_throw hu _
  · exact alike_throw h _

/-- The record a submission is about has no free text. -/
def Renaming.Plain (ρ : Renaming py) (taskId : Json) (s : LabState) : Prop :=
  ∀ id, taskId = .str id →
    (∀ t, s.tasks.get? id = some t → ρ.command t.command = t.command) ∧
    ∀ r, s.taskResultTombstones.get? id = some r → ρ.command r.command = r.command

theorem twin_submitLive (h : ρ.Sim w w' s s') (n : Node) {t : Task}
    (hplain : ρ.command t.command = t.command) (status : ResultStatus) (result : Json)
    (now : Instant) :
    Alike (ρ.Sim w w') (fun r r' => r' = ρ.nodeTask r) (submitLive w n t status result now)
      (submitLive w' (ρ.node n) (ρ.task t) status result now) s s' := by
  unfold submitLive
  have hsame : ρ.nodeTask t.nodeTask = t.nodeTask := ρ.nodeTask_of_fixed hplain
  refine alike_ite Iff.rfl (fun _ => ?_) fun _ => alike_ite Iff.rfl (fun _ => alike_throw h _)
    fun _ => ?_
  · rw [ρ.nodeTask_task, hsame]
    refine alike_imp (twin_replayResult h t.nodeTask status result) ?_
    rintro _ _ ⟨rfl, rfl⟩
    exact hsame.symm
  · have hcommand : (ρ.task t).command = t.command := hplain
    rw [h.aligned.interp.1, h.aligned.interp.2, hcommand, ρ.nodeTask_task]
    refine alike_bind (twin_orReject h t.nodeTask _ _) ?_
    rintro ⟨status, result⟩ _ u u' rfl hu
    have haccept := twin_acceptResult hu n t status result now
    rwa [ρ.result_of_fixed hplain] at haccept

/-- The same submission about a record without free text. -/
theorem twin_submitSession (h : ρ.Sim w w' s s') (n : Node) (taskId status result : Json)
    (hplain : ρ.Plain taskId s) (now : Instant) :
    Alike (ρ.Sim w w') (fun r r' => r' = ρ.nodeTask r) (submitSession w n taskId status result now)
      (submitSession w' (ρ.node n) taskId status result now) s s' := by
  unfold submitSession
  refine alike_get ?_
  cases taskId with
  | str id =>
    simp only [h.task_get?, h.tombstone_get?, h.aligned.interp.1, h.aligned.interp.2]
    obtain ⟨htask, htombstone⟩ := hplain id rfl
    cases hget : s.tasks.get? id with
    | some t =>
      refine alike_ite Iff.rfl (fun _ => ?_) fun _ => alike_throw h _
      refine alike_bind (twin_orReject h t.nodeTask _ _) ?_
      rintro ⟨status, result⟩ _ u u' rfl hu
      exact twin_submitLive hu n (htask t hget) status result now
    | none =>
      simp only [Option.map_none]
      cases hrecord : s.taskResultTombstones.get? id with
      | none => exact alike_throw h _
      | some r =>
        have hsame : ρ.nodeTask r = r := ρ.nodeTask_of_fixed (htombstone r hrecord)
        refine alike_ite Iff.rfl (fun _ => ?_) fun _ => alike_throw h _
        refine alike_bind (twin_orReject h r _ _) ?_
        rintro ⟨status, result⟩ _ u u' rfl hu
        rw [hsame]
        refine alike_imp (twin_replayResult hu r status result) ?_
        rintro _ _ ⟨rfl, rfl⟩
        exact hsame.symm
  | _ => exact alike_throw h _

/-- No command has a text to rename. -/
theorem Renaming.plain_of_same (ρ : Renaming py) (htext : ρ.text = .same (CleanText py))
    (taskId : Json) (s : LabState) : ρ.Plain taskId s := by
  have hcommand : ∀ c, ρ.command c = c := fun c => by
    cases c <;> simp [Renaming.command, htext]
  exact fun _ _ => ⟨fun t _ => hcommand t.command, fun r _ => hcommand r.command⟩

/-- The same submission, whatever record the expiry pass leaves it to be about. -/
theorem twin_submitResult (h : ρ.Sim w w' s s') (nodeId token taskId status result : Json)
    (hplain : ∀ t, ρ.Plain taskId t) (now : Instant) :
    Alike (ρ.Sim w w') (fun r r' => r' = ρ.nodeTask r)
      (submitResult w nodeId token taskId status result now)
      (submitResult w' nodeId (ρ.tokenArg token) taskId status result now) s s' := by
  unfold submitResult
  refine alike_bind (pair_expire now _ _ h) fun _ _ t t' _ ht => ?_
  refine alike_bind (twin_requireNodeSession ht nodeId token) ?_
  rintro n _ u u' rfl hu
  exact twin_submitSession hu n taskId status result (hplain u) now

/-! ### Disconnecting -/

theorem Renaming.Sim.disconnectedNode (h : ρ.Sim w w' s s') (n : Node) (previous : NodeStatus) :
    ρ.Sim w w' (s.disconnectedNode w n previous)
      (s'.disconnectedNode w' (ρ.node n) previous) := by
  have hoffline := (h.setNode (n := { n with status := .offline }) rfl).record
    (d := { kind := .nodeDisconnected, level := .warning, nodeId := some n.id, actor := "node"
            data := [("session_invalidated", .bool true)] }) fun _ => rfl
  refine (hoffline.tick.setNode ?_).audit fun _ => rfl
  exact congrArg (fun token =>
    { ρ.node n with status := .offline, sessionActive := false, sessionToken := token })
    hoffline.token

theorem twin_disconnectNode (h : ρ.Sim w w' s s') (nodeId token : Json) :
    Alike (ρ.Sim w w') (fun r r' => r' = r) (disconnectNode w nodeId token)
      (disconnectNode w' nodeId (ρ.tokenArg token)) s s' := by
  unfold disconnectNode
  refine alike_bind (twin_requireNodeSession h nodeId token) ?_
  rintro n _ t t' rfl ht
  refine alike_bind (pair_failUnfinishedTasks n.id _ _ _ _ ht) fun _ _ u u' _ hu => ?_
  refine alike_get ?_
  have hid : (ρ.node n).id = n.id := rfl
  rw [hid, hu.node_get?]
  cases u.nodes.get? n.id with
  | none => exact alike_throw hu _
  | some m =>
    refine alike_modify_bind (hu.disconnectedNode m n.status) fun hv => ?_
    refine alike_get ?_
    rw [hv.node_get?]
    cases (u.disconnectedNode w m n.status).nodes.get? n.id with
    | none => exact alike_throw hv _
    | some m => exact alike_pure hv rfl

end C2Lab
