import C2Lab.Core.Reads
import C2Lab.Twin.Notes

/-! Whole calls and the reads after them, on a state and on its renamed twin. -/

namespace C2Lab

open Prog

variable {py : Interp} {ρ : Renaming py} {w w' : World} {s s' : LabState}

/-- The operations that name the text of a task or of a note, or answer one. -/
def Op.carriesText : Op → Bool
  | .queueTask .. | .submitResult .. | .postOperatorNote .. => true
  | _ => false

/-- `post_operator_note`. -/
def Op.isNote : Op → Bool
  | .postOperatorNote .. => true
  | _ => false

namespace Renaming

/-- The same operation under other tokens, keys and operators. -/
noncomputable def op (ρ : Renaming py) : Op → Op
  | .pollNode nodeId token now => .pollNode nodeId (ρ.tokenArg token) now
  | .submitResult nodeId token taskId status result now =>
    .submitResult nodeId (ρ.tokenArg token) taskId status result now
  | .disconnectNode nodeId token => .disconnectNode nodeId (ρ.tokenArg token)
  | .queueTask nodeId taskType payload ttl key actor now =>
    .queueTask nodeId taskType payload ttl (ρ.keyArg key) (ρ.actorArg actor) now
  | .queueOperation nodeId steps ttl key actor now =>
    .queueOperation nodeId steps ttl (ρ.keyArg key) (ρ.actorArg actor) now
  | .cancelTask taskId actor => .cancelTask taskId (ρ.actorArg actor)
  | .startExercise nodeId scenarioId actor key now =>
    .startExercise nodeId scenarioId (ρ.actorArg actor) (ρ.keyArg key) now
  | .containExercise exerciseId action actor =>
    .containExercise exerciseId action (ρ.actorArg actor)
  | .postOperatorNote message actor key =>
    .postOperatorNote message (ρ.actorArg actor) (ρ.keyArg key)
  | .reset actor => .reset (ρ.actorArg actor)
  | op => op

/-- The reply the renamed operation gets. -/
noncomputable def reply (ρ : Renaming py) : Reply → Reply
  | .enrolled r => .enrolled (ρ.enrollResponse r)
  | .polled r => .polled (ρ.pollResponse r)
  | .accepted r => .accepted (ρ.nodeTask r)
  | .node n => .node n
  | .task t => .task (ρ.publicTask t)
  | .operation x => .operation (ρ.summary x)
  | .exercise e => .exercise (ρ.publicExercise e)
  | .note e => .note (ρ.event e)
  | .done => .done

/-- The operation is not a containment, or one that spares the records of the Nodes. -/
def SparesNodes (ρ : Renaming py) (s : LabState) (op : Op) : Prop :=
  ∀ id action actor, op = .containExercise id action actor → ρ.Spares id action actor s

/-- Texts that keep their name need no other payload. -/
theorem samePayload_of_same (htext : ρ.text = .same (CleanText py)) (taskType payload : Json) :
    ρ.SamePayload taskType payload payload := by
  have hcommand : ρ.command = id := funext fun c => by
    cases c <;> simp [command, htext]
  unfold SamePayload
  rw [hcommand]
  cases validateTaskPayload py taskType payload <;> rfl

theorem sameMessage_of_same (htext : ρ.text = .same (CleanText py)) (message : Json) :
    ρ.SameMessage message message := by
  unfold SameMessage
  rw [htext]
  cases cleanText py message "message" maxOperatorNoteLength with
  | error e => rfl
  | ok m => exact congrArg Except.ok (Renames.name_same m).symm

end Renaming

/-- Related replies of a method are related replies of its call. -/
theorem twin_reply {α : Type} {m m' : Lab α} {f : α → Reply} {A : α → α → Prop}
    (h : Alike (ρ.Sim w w') A m m' s s') (hf : ∀ a a', A a a' → f a' = ρ.reply (f a)) :
    Alike (ρ.Sim w w') (fun r r' => r' = ρ.reply r) (f <$> m) (f <$> m') s s' :=
  alike_map h hf

/-- A call and the renamed call: renamed replies, the same exceptions, renamed states. -/
theorem twin_call (h : ρ.Sim w w' s s') (op : Op)
    (htext : op.carriesText = true → ρ.text = .same (CleanText py))
    (hnote : op.isNote = true → ρ.histories) (hspares : ρ.SparesNodes s op) :
    Alike (ρ.Sim w w') (fun r r' => r' = ρ.reply r) (op.call w) ((ρ.op op).call w') s s' := by
  cases op with
  | enrollNode name version profile capabilities interval jitter now =>
    exact twin_reply (twin_enrollNode h name version profile capabilities interval jitter now)
      fun _ _ hr => congrArg Reply.enrolled hr
  | pollNode nodeId token now =>
    exact twin_reply (twin_pollNode h nodeId token now) fun _ _ hr => congrArg Reply.polled hr
  | submitResult nodeId token taskId status result now =>
    exact twin_reply (twin_submitResult h nodeId token taskId status result.1
      (ρ.plain_of_same (htext rfl) taskId) now) fun _ _ hr => congrArg Reply.accepted hr
  | disconnectNode nodeId token =>
    exact twin_reply (twin_disconnectNode h nodeId token) fun _ _ hr => congrArg Reply.node hr
  | queueTask nodeId taskType payload ttl key actor now =>
    exact twin_reply (twin_queueTask h (Renaming.samePayload_of_same (htext rfl) taskType payload)
      nodeId ttl key actor now) fun _ _ hr => congrArg Reply.task hr
  | queueOperation nodeId steps ttl key actor now =>
    exact twin_reply (twin_queueOperation h nodeId steps ttl key actor now)
      fun _ _ hr => congrArg Reply.operation hr
  | cancelTask taskId actor =>
    exact twin_reply (twin_cancelTask h taskId actor) fun _ _ hr => congrArg Reply.task hr
  | startExercise nodeId scenarioId actor key now =>
    exact twin_reply (twin_startExercise h nodeId scenarioId actor key now)
      fun _ _ hr => congrArg Reply.exercise hr
  | containExercise exerciseId action actor =>
    exact twin_reply (twin_containExercise h exerciseId action actor (hspares _ _ _ rfl))
      fun _ _ hr => congrArg Reply.exercise hr
  | postOperatorNote message actor key =>
    exact twin_reply (twin_postOperatorNote h (hnote rfl)
      (Renaming.sameMessage_of_same (htext rfl) message) actor key)
      fun _ _ hr => congrArg Reply.note hr
  | expire now => exact alike_map (pair_expire now _ _ h) fun _ _ _ => rfl
  | reset actor => exact alike_map (twin_reset h actor) fun _ _ _ => rfl

/-- Alike calls are answered alike. -/
theorem answer_of_alike {op op' : Op}
    (h : Alike (ρ.Sim w w') (fun r r' => r' = ρ.reply r) (op.call w) (op'.call w') s s') :
    answer w' s' op' = (answer w s op).map ρ.reply := by
  unfold Alike at h
  unfold answer
  cases hm : op.call w s <;> cases hm' : op'.call w' s' <;> rw [hm, hm'] at h
  case ok.ok => exact congrArg Except.ok h.1
  case error.error => exact congrArg Except.error h.1
  all_goals exact h.elim

/-- And leave renamed states. -/
theorem step_of_alike {op op' : Op}
    (h : Alike (ρ.Sim w w') (fun r r' => r' = ρ.reply r) (op.call w) (op'.call w') s s') :
    ρ.Sim w w' (step w s op) (step w' s' op') := by
  rw [step_eq_call, step_eq_call]
  exact h.final

/-! ### Reads -/

/-- Without other names for operators an exercise is shown as it was. -/
theorem Renaming.publicExercise_same (ρ : Renaming py) (hρ : ρ.histories) :
    ρ.publicExercise = id := by
  have hcontainment : ρ.containment = id := funext fun c => by
    unfold Renaming.containment
    rw [ρ.actor_name hρ]
    rfl
  funext e
  unfold Renaming.publicExercise
  rw [ρ.actor_name hρ, hcontainment, Option.map_id]
  rfl

namespace Renaming.Twin

theorem publicNodes_eq (h : ρ.Twin s s') : s'.publicNodes = s.publicNodes := by
  unfold LabState.publicNodes
  rw [h.nodes, Dict.values_map, List.map_map]
  rfl

theorem publicTasks_eq (h : ρ.Twin s s') :
    s'.publicTasks = s.publicTasks.map ρ.publicTask := by
  have hsort : (s.tasks.values.map ρ.task).mergeSort (fun a b => b.sequence ≤ a.sequence) =
      (s.tasks.values.mergeSort fun a b => b.sequence ≤ a.sequence).map ρ.task :=
    (List.map_mergeSort (f := ρ.task) fun _ _ _ _ => rfl).symm
  unfold LabState.publicTasks
  rw [h.tasks, Dict.values_map, hsort, List.map_map, List.map_map]
  rfl

theorem publicExercises_eq (h : ρ.Twin s s') :
    s'.publicExercises = s.publicExercises.map ρ.publicExercise := by
  have hshown : (s.exercises.values.map ρ.exercise).map Exercise.publicExercise =
      (s.exercises.values.map Exercise.publicExercise).map ρ.publicExercise := by
    rw [List.map_map, List.map_map]
    rfl
  unfold LabState.publicExercises
  rw [h.exercises, Dict.values_map, hshown]
  exact (List.map_mergeSort (f := ρ.publicExercise) fun _ _ _ _ => rfl).symm

theorem counts_eq (h : ρ.Twin s s') :
    counts s'.publicNodes s'.publicTasks s'.publicExercises =
      counts s.publicNodes s.publicTasks s.publicExercises := by
  rw [h.publicNodes_eq, h.publicTasks_eq, h.publicExercises_eq]
  simp only [counts, List.countP_map, List.length_map, List.map_map]
  rfl

theorem auditTrail_eq (h : ρ.Twin s s') (hρ : ρ.histories) : s'.auditTrail = s.auditTrail := by
  unfold LabState.auditTrail
  rw [(h.history hρ).auditEntries]

theorem retainedNotes_eq (h : ρ.Twin s s') (hρ : ρ.histories) :
    s'.retainedNotes = s.retainedNotes := by
  unfold LabState.retainedNotes
  rw [(h.history hρ).events, List.countP_map]
  rfl

theorem publicExercises_same (h : ρ.Twin s s') (hρ : ρ.histories) :
    s'.publicExercises = s.publicExercises := by
  rw [h.publicExercises_eq, ρ.publicExercise_same hρ, List.map_id]

/-- A report says nothing of the texts. -/
theorem report_eq (h : ρ.Twin s s') (hρ : ρ.histories) (generatedAt : Timestamp) :
    s'.report generatedAt = s.report generatedAt := by
  have hsafe : (s.publicTasks.map ρ.publicTask).map PublicTask.safe =
      s.publicTasks.map PublicTask.safe := by
    rw [List.map_map]
    refine List.map_congr_left fun t _ => ?_
    simp [PublicTask.safe, Renaming.publicTask, ρ.actor_name hρ]
  have hh := h.history hρ
  have hevents : s'.events.length = s.events.length := by rw [hh.events, List.length_map]
  unfold LabState.report
  rw [h.counts_eq, h.publicNodes_eq, h.publicExercises_same hρ, h.publicTasks_eq, hsafe, hevents,
    h.auditTrail_eq hρ, h.retainedNotes_eq hρ, hh.eventSequence, hh.auditSequence]

end Renaming.Twin

end C2Lab
