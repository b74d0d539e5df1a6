import C2Lab.Core.CreateRun

/-! What each write tells the journal.

    `Journal.Told` lists the events and audit entries a piece of the program appends, in order, and
    nothing it says depends on what the journal holds. The two histories, their bounds and their
    numbering are read off that list. -/

namespace C2Lab

variable {w : World} {s s' : LabState} {j j' j'' : Journal}

/-- An event or an audit entry before it is numbered and stamped. -/
inductive Notice where
  | event (d : EventDraft)
  | audit (d : AuditDraft)

namespace Notice

/-- The kind of the event, or the action of the audit entry. -/
def kind : Notice → Kind
  | event d => d.kind
  | audit d => d.action

/-- The node it is about. -/
def nodeId : Notice → Option PyStr
  | event d => d.nodeId
  | audit d => d.nodeId

/-- The audit entry, if it is one. -/
def audited : Notice → Option AuditDraft
  | event _ => none
  | audit d => some d

/-- The event, if it is one. -/
def announced : Notice → Option EventDraft
  | event d => some d
  | audit _ => none

end Notice

/-- The journal once it was told `l`; a full timeline and a reset leave other traces. -/
inductive Journal.Told (w : World) (j : Journal) : List Notice → Journal → Prop
  | refl : Told w j [] j
  | tick {l : List Notice} {j' : Journal} (h : Told w j l j') :
      Told w j l { j' with draws := j'.draws + 1 }
  | refuse {l : List Notice} {j' : Journal} (h : Told w j l j') :
      Told w j l { j' with refusedAppends := j'.refusedAppends + 1 }
  | clear {l : List Notice} {j' : Journal} (h : Told w j l j') : Told w j l { j' with events := [] }
  | record {l : List Notice} {j' : Journal} (h : Told w j l j') (d : EventDraft) :
      Told w j (l ++ [.event d]) (j'.recordLocked w d)
  | audit {l : List Notice} {j' : Journal} (h : Told w j l j') (d : AuditDraft) :
      Told w j (l ++ [.audit d]) (j'.auditLocked w d)

/-- What was said of an audit entry before it was numbered and stamped. -/
def AuditEntry.draft (x : AuditEntry) : AuditDraft :=
  { action := x.action, actor := x.actor, nodeId := x.nodeId, taskId := x.taskId
    correlationId := x.correlationId, taskType := x.taskType, fromState := x.fromState
    toState := x.toState, outcome := x.outcome, reason := x.reason }

namespace Journal
variable (w : World) (d : EventDraft) (a : AuditDraft) (j : Journal)

theorem auditLog_recordLocked : (j.recordLocked w d).auditLog = j.auditLog := by
  unfold recordLocked; rfl
theorem auditLog_auditLocked : (j.auditLocked w a).auditLog = j.auditLog ++ [j.entry w a] := by
  unfold auditLocked; rfl
theorem auditSequence_recordLocked : (j.recordLocked w d).auditSequence = j.auditSequence := by
  unfold recordLocked; rfl
theorem auditSequence_auditLocked : (j.auditLocked w a).auditSequence = j.auditSequence + 1 := by
  unfold auditLocked; rfl
theorem auditEntries_recordLocked : (j.recordLocked w d).auditEntries = j.auditEntries := by
  unfold recordLocked; rfl
theorem auditEntries_auditLocked : (j.auditLocked w a).auditEntries =
    Window.push maxAuditEntries j.auditEntries (j.entry w a) := by
  simp only [auditLocked]
theorem events_recordLocked :
    (j.recordLocked w d).events = Window.push maxEvents j.events (j.event w d) := by
  simp only [recordLocked]
theorem events_auditLocked : (j.auditLocked w a).events = j.events := by
  unfold auditLocked; rfl

end Journal

namespace Journal.Told

variable {l l' : List Notice}

theorem trans (h : Told w j l j') (h' : Told w j' l' j'') : Told w j (l ++ l') j'' := by
  induction h' with
  | refl => rwa [List.append_nil]
  | tick _ ih => exact ih.tick
  | refuse _ ih => exact ih.refuse
  | clear _ ih => exact ih.clear
  | record _ d ih => rw [← List.append_assoc]; exact ih.record d
  | audit _ d ih => rw [← List.append_assoc]; exact ih.audit d

/-- The whole audit trail grows by the entries of the list, numbered on. -/
theorem auditLog (h : Told w j l j') : ∃ new, j'.auditLog = j.auditLog ++ new ∧
    new.map (·.draft) = l.filterMap Notice.audited ∧
    new.map (·.sequence) = List.range' (j.auditSequence + 1) new.length ∧
    j'.auditSequence = j.auditSequence + new.length := by
  induction h with
  | refl => exact ⟨[], by simp⟩
  | tick _ ih | refuse _ ih | clear _ ih => exact ih
  | record _ d ih =>
    obtain ⟨new, hlog, hdrafts, hseq, hcount⟩ := ih
    refine ⟨new, ?_, ?_, hseq, ?_⟩
    · rw [Journal.auditLog_recordLocked, hlog]
    · rw [List.filterMap_append, hdrafts]; simp [Notice.audited]
    · rw [Journal.auditSequence_recordLocked, hcount]
  | @audit l j' _ d ih =>
    obtain ⟨new, hlog, hdrafts, hseq, hcount⟩ := ih
    refine ⟨new ++ [j'.entry w d], ?_, ?_, ?_, ?_⟩
    · rw [Journal.auditLog_auditLocked, hlog, List.append_assoc]
    · rw [List.map_append, List.filterMap_append, hdrafts]; rfl
    · rw [List.map_append, hseq, List.length_append, List.length_singleton, List.range'_concat]
      simp only [Journal.entry, hcount, List.map_cons, List.map_nil, Nat.one_mul]
      rw [Nat.add_right_comm]
    · rw [Journal.auditSequence_auditLocked, List.length_append, List.length_singleton, hcount,
        Nat.add_assoc]

end Journal.Told

/-! ### The exercises -/

/-- A notice of the refresh or of a containment about one exercise. -/
def Notice.About (nodeId : PyStr) (kind : Kind) (x : Notice) : Prop :=
  x.nodeId = some nodeId ∧ x.kind = kind

/-- A timeline entry is no notice. -/
theorem LabState.append_told (id : PyStr) (item : TimelineItem) (s : LabState) :
    s.toJournal.Told w [] (s.appendExerciseTimelineLocked w id item).toJournal := by
  unfold appendExerciseTimelineLocked
  split
  · exact .refl
  · split
    · exact .refuse .refl
    · exact .tick .refl

theorem LabState.appends_told (id : PyStr) (items : List TimelineItem) (s : LabState) :
    s.toJournal.Told w []
      (items.foldl (fun s item => s.appendExerciseTimelineLocked w id item) s).toJournal := by
  induction items generalizing s with
  | nil => exact .refl
  | cons item items ih => exact (s.append_told id item).trans (ih _)

theorem LabState.observe_told (id taskId : PyStr) (s : LabState) :
    s.toJournal.Told w [] (s.observeTask id taskId).toJournal := by
  unfold observeTask
  split <;> exact .refl

/-- The record of an exercise keeps its node and its place. -/
def LabState.ExerciseAt (id nodeId : PyStr) (s : LabState) : Prop :=
  ∃ e, s.exercises.get? id = some e ∧ e.id = id ∧ e.nodeId = nodeId

theorem LabState.ExerciseAt.set {id nodeId : PyStr} {e : Exercise} (hid : e.id = id)
    (hnode : e.nodeId = nodeId) (s : LabState) : (s.setExercise e).ExerciseAt id nodeId :=
  ⟨e, by rw [toRecords_setExercise, hid, Dict.get?_set_self], hid, hnode⟩

theorem LabState.ExerciseAt.append {id nodeId : PyStr} (h : s.ExerciseAt id nodeId)
    (item : TimelineItem) : (s.appendExerciseTimelineLocked w id item).ExerciseAt id nodeId := by
  obtain ⟨e, he, hid, hnode⟩ := h
  unfold appendExerciseTimelineLocked
  simp only [he]
  split
  · exact ⟨e, he, hid, hnode⟩
  · refine ⟨e.appendTimeline (w.utcNow s.draws) item, ?_, ?_, ?_⟩
    · simp only [Exercise.appendTimeline]
      split
      · simp [hid]
      · simp [hid]
    · rw [Exercise.appendTimeline]; split <;> exact hid
    · rw [Exercise.appendTimeline]; split <;> exact hnode

/-- An exercise rewritten with one more timeline entry, the clock read in between. -/
theorem LabState.rewrite_told (e : Exercise) (id : PyStr) (item : TimelineItem) (s : LabState) :
    s.toJournal.Told w []
      ((s.tick.setExercise e).appendExerciseTimelineLocked w id item).toJournal :=
  (Journal.Told.refl.tick : s.toJournal.Told w [] s.tick.toJournal).trans
    ((s.tick.setExercise e).append_told id item)

/-- A matched rule is announced on the node of the exercise. -/
theorem LabState.match_told {id nodeId : PyStr} (taskId : PyStr) (rule : DetectionRule)
    (h : s.ExerciseAt id nodeId) :
    (s.matchDetection w id taskId rule).ExerciseAt id nodeId ∧
    ∃ l, s.toJournal.Told w l (s.matchDetection w id taskId rule).toJournal ∧
      ∀ x ∈ l, x.About nodeId .exerciseDetected := by
  obtain ⟨e, he, hid, hnode⟩ := h
  unfold matchDetection
  simp only [he]
  split
  · exact ⟨⟨e, he, hid, hnode⟩, [], .refl, by simp⟩
  · set alert : Alert := ⟨w.alertId (s.draws + 1), rule, true, w.utcNow s.draws, none, taskId⟩
    have h₁ : (s.tick.tick.setExercise { e with
        alerts := e.alerts ++ [alert], detected := true }).ExerciseAt id nodeId :=
      .set (e := { e with alerts := e.alerts ++ [alert], detected := true }) hid hnode _
    obtain ⟨e', he', hid', hnode'⟩ := h₁.append (w := w) (detectionItem taskId rule)
    refine ⟨⟨e', by simpa using he', hid', hnode'⟩, _,
      (((Journal.Told.refl.tick : s.toJournal.Told w [] s.tick.toJournal).trans
        (s.tick.rewrite_told _ id (detectionItem taskId rule))).record _).audit _, ?_⟩
    simp [Notice.About, Notice.nodeId, Notice.kind, hnode]

theorem LabState.matches_told {id nodeId : PyStr} (taskId : PyStr) (rules : List DetectionRule)
    (h : s.ExerciseAt id nodeId) :
    ∃ l, s.toJournal.Told w l
        (rules.foldl (fun s rule => s.matchDetection w id taskId rule) s).toJournal ∧
      ∀ x ∈ l, x.About nodeId .exerciseDetected := by
  induction rules generalizing s with
  | nil => exact ⟨[], .refl, by simp⟩
  | cons rule rules ih =>
    obtain ⟨hat, l, hl, habout⟩ := s.match_told (w := w) taskId rule h
    obtain ⟨l', hl', habout'⟩ := ih hat
    refine ⟨l ++ l', hl.trans hl', fun x hx => ?_⟩
    rcases List.mem_append.mp hx with hx | hx
    · exact habout x hx
    · exact habout' x hx

theorem LabState.ExerciseAt.appends {id nodeId : PyStr} (h : s.ExerciseAt id nodeId)
    (items : List TimelineItem) :
    (items.foldl (fun s item => s.appendExerciseTimelineLocked w id item) s).ExerciseAt id
      nodeId := by
  induction items generalizing s with
  | nil => exact h
  | cons item items ih => exact ih (h.append item)

/-- Observing an ended task announces the matched rules and nothing else. -/
theorem LabState.observeEnded_told {e : Exercise} (he : s.exercises.get? e.id = some e) (t : Task)
    (p : Playbook) : ∃ l, s.toJournal.Told w l (s.observeEnded w e t p).toJournal ∧
      ∀ x ∈ l, x.About e.nodeId .exerciseDetected := by
  have hat : (s.observeTask e.id t.id).ExerciseAt e.id e.nodeId := by
    simp only [observeTask, he]
    exact .set rfl rfl s
  have happend := hat.appends (w := w) (evidenceItems e.scenarioId t p)
  obtain ⟨l, hl, habout⟩ := LabState.matches_told (w := w) t.id (matchedRules e t p) happend
  exact ⟨l, ((s.observe_told e.id t.id).trans (LabState.appends_told ..)).trans hl, habout⟩

/-- The end of an exercise is announced on its node. -/
theorem LabState.completeExercise_told (e : Exercise) (status : ExerciseStatus) (s : LabState) :
    ∃ l, s.toJournal.Told w l (s.completeExercise w e status).toJournal ∧
      ∀ x ∈ l, x.About e.nodeId (.exercise status) := by
  refine ⟨_, ((LabState.rewrite_told ..).record _).audit _, ?_⟩
  simp [Notice.About, Notice.nodeId, Notice.kind]

theorem LabState.applyContainment_told (e : Exercise) (action : ContainmentAction) (actor : PyStr)
    (s : LabState) :
    ∃ l, s.toJournal.Told w l (s.applyContainment w e action actor).toJournal ∧
      ∀ x ∈ l, x.About e.nodeId (.exercise .contained) := by
  refine ⟨_, ((LabState.rewrite_told ..).record _).audit _, ?_⟩
  simp [Notice.About, Notice.nodeId, Notice.kind]

/-! ### Statuses -/

/-- The statuses of the tasks and nodes of a lab, as the audit trail spells them. -/
@[ext]
structure StatusMap where
  tasks : PyStr → Option String
  nodes : PyStr → Option String

def StatusMap.empty : StatusMap := ⟨fun _ => none, fun _ => none⟩

/-- The statuses of the retained tasks and nodes. -/
def Records.statuses (r : Records) : StatusMap :=
  { tasks := fun id => (r.tasks.get? id).map fun t => Vocabulary.name t.status
    nodes := fun id => (r.nodes.get? id).map fun n => n.status.name }

/-- What an audited action is about. -/
inductive Subject where
  | task
  | node
  | lab
  deriving DecidableEq

/-- The actions that create, change or remove a status; the others leave all statuses alone. -/
def Kind.subject : Kind → Option Subject
  | .task _ | .taskPruned => some .task
  | .nodeEnrolled | .nodePruned | .nodeOnline | .nodeStale | .nodeSessionExpired
  | .nodeDisconnected => some .node
  | .labReset => some .lab
  | _ => none

/-- The status an audit entry says its subject is left in; `none` once it was removed. -/
def AuditDraft.target (d : AuditDraft) : Option String :=
  if d.toState = some "removed" then none else d.toState

/-- The statuses after an audit entry, going by what it says. -/
def StatusMap.replay (m : StatusMap) (d : AuditDraft) : StatusMap :=
  match d.action.subject, d.taskId, d.nodeId with
  | some .task, some id, _ => { m with tasks := Function.update m.tasks id d.target }
  | some .node, _, some id => { m with nodes := Function.update m.nodes id d.target }
  | some .lab, _, _ => .empty
  | _, _, _ => m

/-- What one write does to the statuses, and the audit entries it leaves: exactly one entry about
    the one status it creates, changes or removes. Only a closed session may be reported again. -/
inductive StatusMap.Audited (m : StatusMap) : List AuditDraft → StatusMap → Prop
  | quiet {l : List AuditDraft} (h : ∀ d ∈ l, d.action.subject = none) : Audited m l m
  | task {d : AuditDraft} {id : PyStr} (hs : d.action.subject = some .task)
      (hid : d.taskId = some id) (hfrom : d.fromState = m.tasks id)
      (hne : d.target ≠ m.tasks id) :
      Audited m [d] { m with tasks := Function.update m.tasks id d.target }
  | node {d : AuditDraft} {id : PyStr} (hs : d.action.subject = some .node)
      (hid : d.nodeId = some id) (hfrom : d.fromState = m.nodes id)
      (hne : d.target ≠ m.nodes id) :
      Audited m [d] { m with nodes := Function.update m.nodes id d.target }
  | again {d : AuditDraft} {id : PyStr}
      (hs : d.action = .nodeSessionExpired ∨ d.action = .nodeDisconnected)
      (hid : d.nodeId = some id) (hfrom : d.fromState = some "offline")
      (hto : d.toState = some "offline") (hm : m.nodes id = some "offline") : Audited m [d] m
  | reset {d : AuditDraft} (hs : d.action.subject = some .lab) : Audited m [d] .empty

/-- The status of a task, of a node. -/
def Records.taskStatus (r : Records) (id : PyStr) : Option TaskStatus :=
  (r.tasks.get? id).map (·.status)

@[inherit_doc Records.taskStatus]
def Records.nodeStatus (r : Records) (id : PyStr) : Option NodeStatus :=
  (r.nodes.get? id).map (·.status)

theorem NodeStatus.name_inj {a b : NodeStatus} (h : a.name = b.name) : a = b := by
  cases a <;> cases b <;> simp_all [NodeStatus.name]

theorem Records.statuses_eq (r : Records) : r.statuses =
    ⟨fun id => (r.taskStatus id).map Vocabulary.name,
      fun id => (r.nodeStatus id).map (·.name)⟩ := by
  simp only [statuses, taskStatus, nodeStatus, Option.map_map]
  rfl

section audited
variable {d : AuditDraft} {id : PyStr}

/-- One task got another status, and the entry says so. -/
theorem LabState.audited_task (st : Option TaskStatus)
    (htasks : ∀ k, s'.taskStatus k = if k = id then st else s.taskStatus k)
    (hnodes : ∀ k, s'.nodeStatus k = s.nodeStatus k) (hs : d.action.subject = some .task)
    (hid : d.taskId = some id) (hfrom : d.fromState = (s.taskStatus id).map Vocabulary.name)
    (hto : d.target = st.map Vocabulary.name) (hne : st ≠ s.taskStatus id) :
    s.statuses.Audited [d] s'.statuses := by
  have heq : s'.statuses =
      { s.statuses with tasks := Function.update s.statuses.tasks id d.target } := by
    rw [Records.statuses_eq, Records.statuses_eq]
    ext k : 2
    · simp only [htasks, hto, Function.update_apply]
      split <;> rfl
    · simp only [hnodes]
  rw [heq]
  refine .task hs hid (by rw [hfrom, Records.statuses_eq]) fun h => hne ?_
  rw [hto, Records.statuses_eq] at h
  exact Option.map_injective Vocabulary.name_inj h

/-- One node got another status, and the entry says so. -/
theorem LabState.audited_node (st : Option NodeStatus)
    (htasks : ∀ k, s'.taskStatus k = s.taskStatus k)
    (hnodes : ∀ k, s'.nodeStatus k = if k = id then st else s.nodeStatus k)
    (hs : d.action.subject = some .node) (hid : d.nodeId = some id)
    (hfrom : d.fromState = (s.nodeStatus id).map (·.name)) (hto : d.target = st.map (·.name))
    (hne : st ≠ s.nodeStatus id) : s.statuses.Audited [d] s'.statuses := by
  have heq : s'.statuses =
      { s.statuses with nodes := Function.update s.statuses.nodes id d.target } := by
    rw [Records.statuses_eq, Records.statuses_eq]
    ext k : 2
    · simp only [htasks]
    · simp only [hnodes, hto, Function.update_apply]
      split <;> rfl
  rw [heq]
  refine .node hs hid (by rw [hfrom, Records.statuses_eq]) fun h => hne ?_
  rw [hto, Records.statuses_eq] at h
  exact Option.map_injective (fun _ _ => NodeStatus.name_inj) h

theorem LabState.statuses_eq_of (htasks : ∀ k, s'.taskStatus k = s.taskStatus k)
    (hnodes : ∀ k, s'.nodeStatus k = s.nodeStatus k) : s'.statuses = s.statuses := by
  rw [Records.statuses_eq, Records.statuses_eq]
  ext k : 2
  · simp only [htasks]
  · simp only [hnodes]

/-- No status changed, and no entry says otherwise. -/
theorem LabState.audited_quiet {l : List AuditDraft}
    (htasks : ∀ k, s'.taskStatus k = s.taskStatus k)
    (hnodes : ∀ k, s'.nodeStatus k = s.nodeStatus k) (h : ∀ d ∈ l, d.action.subject = none) :
    s.statuses.Audited l s'.statuses := by
  rw [LabState.statuses_eq_of htasks hnodes]
  exact .quiet h

end audited

/-! ### Every write -/

/-- What a write tells the journal: notes only where a note is posted, and the statuses follow the
    audit entries. -/
structure Tells (w : World) (s : LabState) (c : Activity) (s' : LabState) (l : List Notice) :
    Prop where
  told : s.toJournal.Told w l s'.toJournal
  note : ∀ x ∈ l, x.kind = .operatorNote → c = .note
  audited : s.statuses.Audited (l.filterMap Notice.audited) s'.statuses

/-- A write whose notices are all about one exercise. -/
theorem Tells.about {c : Activity} {l : List Notice} {nodeId : PyStr} {kind : Kind}
    (htold : s.toJournal.Told w l s'.toJournal) (habout : ∀ x ∈ l, x.About nodeId kind)
    (hkind : kind ≠ .operatorNote) (hsub : kind.subject = none)
    (htasks : s'.tasks = s.tasks) (hnodes : s'.nodes = s.nodes) : Tells w s c s' l where
  told := htold
  note x hx h := absurd ((habout x hx).2.symm.trans h) hkind
  audited := by
    refine LabState.audited_quiet (fun k => by rw [Records.taskStatus, htasks]; rfl)
      (fun k => by rw [Records.nodeStatus, hnodes]; rfl) fun d hd => ?_
    obtain ⟨x, hx, hd⟩ := List.mem_filterMap.mp hd
    have hk := (habout x hx).2
    cases x with
    | event => cases hd
    | audit d' => cases hd; rw [← hsub, ← hk]; rfl

theorem Records.taskStatus_eq {r : Records} {id : PyStr} {t : Task}
    (ht : r.tasks.get? id = some t) :
    r.taskStatus id = some t.status := by rw [taskStatus, ht]; rfl

theorem Records.nodeStatus_eq {r : Records} {id : PyStr} {n : Node}
    (hn : r.nodes.get? id = some n) :
    r.nodeStatus id = some n.status := by rw [nodeStatus, hn]; rfl

/-- A node rewritten with its status as it was. -/
theorem LabState.nodeStatus_set (n n' : Node) (hn : s.nodes.get? n.id = some n)
    (hst : n'.status = n.status) (hnodes : s'.nodes = s.nodes.set n.id n') (k : PyStr) :
    s'.nodeStatus k = s.nodeStatus k := by
  rw [Records.nodeStatus, hnodes, Dict.get?_set]
  split
  · rename_i hk
    rw [hk, Records.nodeStatus_eq hn, Option.map_some, hst]
  · rfl

/-- Charging a node with a failure leaves its status alone. -/
theorem LabState.nodeStatus_charged (hs : Safe w s) {id : PyStr}
    (hnodes : s'.nodes = chargeFailure s.nodes id) (k : PyStr) :
    s'.nodeStatus k = s.nodeStatus k := by
  unfold chargeFailure at hnodes
  cases hn : s.nodes.get? id with
  | none => rw [hn] at hnodes; rw [Records.nodeStatus, hnodes]; rfl
  | some n =>
    rw [hn] at hnodes
    exact LabState.nodeStatus_set n { n with tasksFailed := n.tasksFailed + 1 }
      (by rw [hs.node_key hn]; exact hn) rfl hnodes k

/-- The identifier of a node about to be added is new. -/
theorem Safe.node_new (hs : Safe w s) (hf : w.FreshBelow s'.draws) (hd : s.draws < s'.draws) :
    s.nodes.get? (w.nodeId s.draws) = none := by
  cases hn : s.nodes.get? (w.nodeId s.draws) with
  | none => rfl
  | some n =>
    obtain ⟨k, hk, hid⟩ := (hs.nodes _ _ hn).drawn
    exact absurd hid.symm (nodeId_fresh hf hk hd)

/-- The identifier of a task about to be added is new. -/
theorem Safe.task_new (hs : Safe w s) (hf : w.FreshBelow s'.draws) (hd : s.draws < s'.draws) :
    s.tasks.get? (w.taskId s.draws) = none := by
  cases ht : s.tasks.get? (w.taskId s.draws) with
  | none => rfl
  | some t =>
    obtain ⟨k, hk, hid⟩ := (hs.tasks _ _ ht).drawn
    exact absurd hid.symm (taskId_fresh hf hk hd)

theorem Task.timeout_told (t t' : Task) (s : LabState) :
    s.toJournal.Told w [] ((s.tick.setTask t').countFailure t.nodeId).toJournal := by
  unfold LabState.countFailure
  split <;> exact .tick .refl

/-- The tombstone of a pruned task is no notice. -/
theorem Task.tombstone_told (t : Task) (s : LabState) : s.toJournal.Told w []
    ({ s.rememberTaskResultTombstoneLocked t with
      tasks := (s.rememberTaskResultTombstoneLocked t).tasks.erase t.id } :
          LabState).toJournal := by
  unfold LabState.rememberTaskResultTombstoneLocked
  split <;> exact .refl

theorem LabState.insert_told (spec : TaskSpec) (now : Instant) (s : LabState) :
    s.toJournal.Told w [] (if spec.exerciseId.isSome then
      (s.insertTask (s.newTask w spec now)).tick
      else s.insertTask (s.newTask w spec now)).toJournal := by
  split
  · exact .tick (.tick (.tick (.tick .refl)))
  · exact .tick (.tick (.tick .refl))

theorem LabState.contained_told (id : PyStr) (t : Task) (p : Playbook) (s : LabState) :
    s.toJournal.Told w [] (((s.containedTask w t).appendExerciseTimelineLocked w id
      { phase := .simulate, kind := .task .cancelled
        summary := s!"{Vocabulary.name p} {Vocabulary.name TaskStatus.cancelled}"
        taskId := some t.id }).observeTask id t.id).toJournal := by
  have hcancelled : s.toJournal.Told w [] (s.containedTask w t).toJournal := .tick .refl
  have happend := hcancelled.trans (LabState.append_told id
    { phase := .simulate, kind := .task .cancelled
      summary := s!"{Vocabulary.name p} {Vocabulary.name TaskStatus.cancelled}"
      taskId := some t.id } (s.containedTask w t))
  exact happend.trans (LabState.observe_told id t.id _)

/-- Before its event and its audit entry, an accepted result announces at most the generated
    event. -/
theorem LabState.acceptedResult_told (n : Node) (t : Task) (status : ResultStatus) (result : Json)
    (now : Instant) (s : LabState) : ∃ l, s.toJournal.Told w l
      (((s.storeResult w n t status result now).applyCommand n.id t.command status).generateEvent w
        t status).toJournal ∧
      (∀ x ∈ l, x.nodeId = some t.nodeId ∧ x.kind = .nodeGeneratedEvent) ∧
      l.filterMap Notice.audited = [] := by
  have hj : ((s.storeResult w n t status result now).applyCommand n.id t.command status).toJournal =
      s.tick.tick.toJournal := by
    unfold applyCommand applySettings
    split
    · split <;> rfl
    · rfl
  have hstart : s.toJournal.Told w []
      ((s.storeResult w n t status result now).applyCommand n.id t.command status).toJournal :=
    hj ▸ .tick (.tick .refl)
  unfold generateEvent
  split
  · exact ⟨_, hstart.record _, by simp [Notice.nodeId, Notice.kind], rfl⟩
  · exact ⟨[], hstart, by simp, rfl⟩

/-! ### What each write tells -/

theorem LabState.expireTask_tells {t : Task} (ht : s.tasks.get? t.id = some t)
    (hq : t.status = .queued) : ∃ l, Tells w s .expiry (s.expireTask w t) l := by
  refine ⟨_, ((Journal.Told.refl.tick).record _).audit _, by simp [Notice.kind],
    LabState.audited_task (some .expired) (fun k => ?_) (fun k => ?_) rfl rfl ?_ rfl ?_⟩
  · simp [Records.taskStatus, LabState.expireTask]; split <;> rfl
  · simp [Records.nodeStatus, LabState.expireTask]
  · rw [Records.taskStatus_eq ht, hq]; rfl
  · rw [Records.taskStatus_eq ht, hq]; simp

theorem LabState.timeoutTask_tells (hs : Safe w s) {t : Task} (ht : s.tasks.get? t.id = some t)
    (hd : t.status = .dispatched) : ∃ l, Tells w s .expiry (s.timeoutTask w t) l := by
  have hnodes : (s.timeoutTask w t).nodes = chargeFailure s.nodes t.nodeId := by
    simp [LabState.timeoutTask, LabState.nodes_countFailure]
  refine ⟨_, ((t.timeout_told _ s).record _).audit _, by simp [Notice.kind],
    LabState.audited_task (some .timeout) (fun k => ?_)
      (LabState.nodeStatus_charged hs hnodes) rfl rfl ?_ rfl ?_⟩
  · simp [Records.taskStatus, LabState.timeoutTask, LabState.nodes_countFailure]; split <;> rfl
  · rw [Records.taskStatus_eq ht, hd]; rfl
  · rw [Records.taskStatus_eq ht, hd]; simp

theorem LabState.failTask_tells {c : Activity} {n : Node} {t : Task}
    (hn : s.nodes.get? n.id = some n) (ht : s.tasks.get? t.id = some t)
    (hl : t.status.isTerminal = false) (reason message : String) :
    ∃ l, Tells w s c (s.failTask w n t reason message) l := by
  refine ⟨_, ((Journal.Told.refl.tick).record _).audit _, by simp [Notice.kind],
    LabState.audited_task (some .failed) (fun k => ?_) (LabState.nodeStatus_set n
      { n with tasksFailed := n.tasksFailed + 1 } hn rfl (by simp [LabState.failTask]))
      rfl rfl ?_ rfl ?_⟩
  · simp [Records.taskStatus, LabState.failTask]; split <;> rfl
  · rw [Records.taskStatus_eq ht]; rfl
  · rw [Records.taskStatus_eq ht]
    rintro heq
    rw [← Option.some.inj heq] at hl
    cases hl

theorem LabState.staleNode_tells {n : Node} (hn : s.nodes.get? n.id = some n)
    (ho : n.status = .online) : ∃ l, Tells w s .expiry (s.staleNode w n) l := by
  refine ⟨_, (Journal.Told.refl.record _).audit _, by simp [Notice.kind],
    LabState.audited_node (some .offline) (fun k => ?_) (fun k => ?_) rfl rfl ?_ rfl ?_⟩
  · simp [Records.taskStatus, LabState.staleNode]
  · simp [Records.nodeStatus, LabState.staleNode]; split <;> rfl
  · rw [Records.nodeStatus_eq hn, ho]; rfl
  · rw [Records.nodeStatus_eq hn, ho]; simp

/-- Closing the session of an offline node reports `offline` again. -/
theorem LabState.closeSession_tells {n : Node} (hn : s.nodes.get? n.id = some n)
    (ho : n.status = .offline) : ∃ l, Tells w s .expiry (s.closeSession w n) l := by
  have hnodes : ∀ k, (s.closeSession w n).nodeStatus k = s.nodeStatus k := fun k =>
    LabState.nodeStatus_set n
      { n with sessionActive := false, sessionToken := .text (w.token s.draws) }
      hn rfl (by simp [LabState.closeSession]) k
  refine ⟨_, ((Journal.Told.refl.tick).record _).audit _, by simp [Notice.kind], ?_⟩
  rw [LabState.statuses_eq_of (s := s)
      (fun k => by simp [Records.taskStatus, LabState.closeSession])
    hnodes]
  exact .again (.inl rfl) rfl rfl rfl (by simp [Records.statuses, hn, ho, NodeStatus.name])

theorem LabState.observeEnded_tells (hs : Safe w s) {e : Exercise} {t : Task} {p : Playbook}
    (he : s.exercises.get? e.id = some e) (hm : t.id ∈ e.taskIds) (hu : t.id ∉ e.observedTaskIds)
    (ht : s.tasks.get? t.id = some t) (hp : t.command = .runPlaybook p) :
    ∃ l, Tells w s .refresh (s.observeEnded w e t p) l := by
  obtain ⟨e', hedit, -⟩ := LabState.observeEnded_edits hs he hm hu ht hp
  obtain ⟨l, hl, habout⟩ := LabState.observeEnded_told (w := w) he t p
  exact ⟨l, .about hl habout (by simp) rfl (by rw [hedit.records]) (by rw [hedit.records])⟩

theorem LabState.completeExercise_tells (hs : Safe w s) {e : Exercise}
    (he : s.exercises.get? e.id = some e) (hc : e.completionRecorded = false) :
    ∃ l, Tells w s .refresh (s.completeExercise w e (s.finalStatus e)) l := by
  obtain ⟨e', hedit, -⟩ := LabState.completeExercise_edits hs he hc (s.finalStatus e)
  obtain ⟨l, hl, habout⟩ := s.completeExercise_told (w := w) e (s.finalStatus e)
  exact ⟨l, .about hl habout (by simp) rfl (by rw [hedit.records]) (by rw [hedit.records])⟩

/-- Only a node that was offline is reported online. -/
theorem LabState.wakeNode_tells {n : Node} (hn : s.nodes.get? n.id = some n) (now : Instant) :
    ∃ l, Tells w s .poll (s.wakeNode w n now) l := by
  unfold LabState.wakeNode
  split
  · rename_i ho
    refine ⟨_, ((Journal.Told.refl.tick).record _).audit _, by simp [Notice.kind],
      LabState.audited_node (some .online) (fun k => ?_) (fun k => ?_) rfl rfl ?_ rfl ?_⟩
    · simp [Records.taskStatus]
    · simp [Records.nodeStatus]; split <;> rfl
    · rw [Records.nodeStatus_eq hn, ho]; rfl
    · rw [Records.nodeStatus_eq hn, ho]; simp
  · rename_i ho
    have hon : n.status = .online := by cases hst : n.status <;> simp [hst] at ho ⊢
    exact ⟨[], .tick .refl, by simp, LabState.audited_quiet (fun k => rfl)
      (LabState.nodeStatus_set n _ hn hon.symm rfl) (by simp)⟩

theorem LabState.heartbeatNode_tells {n : Node} (hn : s.nodes.get? n.id = some n) (now : Instant) :
    ∃ l, Tells w s .poll (s.heartbeatNode w n now) l := by
  unfold LabState.heartbeatNode
  split
  · exact ⟨_, Journal.Told.refl.record _, by simp [Notice.kind], LabState.audited_quiet
      (fun k => by simp [Records.taskStatus]) (LabState.nodeStatus_set n { n with
        lastHeartbeatEvent := now } hn rfl (by simp)) (by simp [Notice.audited])⟩
  · exact ⟨[], .refl, by simp, LabState.audited_quiet (fun k => rfl) (fun k => rfl) (by simp)⟩

theorem LabState.redeliverTask_tells {t : Task} (ht : s.tasks.get? t.id = some t) :
    ∃ l, Tells w s .poll (s.redeliverTask w t) l := by
  refine ⟨_, Journal.Told.refl.record _, by simp [Notice.kind], LabState.audited_quiet
    (fun k => ?_) (fun k => by simp [Records.nodeStatus, LabState.redeliverTask])
    (by simp [Notice.audited])⟩
  simp only [Records.taskStatus, LabState.redeliverTask]
  simp only [LabState.toRecords_recordLocked, LabState.toRecords_setTask, Dict.get?_set]
  split
  · rename_i hk; rw [hk, ht]; rfl
  · rfl

theorem LabState.dispatchTask_tells {t : Task} (ht : s.tasks.get? t.id = some t)
    (hq : t.status = .queued) (now : Instant) :
    ∃ l, Tells w s .dispatch (s.dispatchTask w t now) l := by
  refine ⟨_, ((Journal.Told.refl.tick).record _).audit _, by simp [Notice.kind],
    LabState.audited_task (some .dispatched) (fun k => ?_) (fun k => ?_) rfl rfl ?_ rfl ?_⟩
  · simp [Records.taskStatus, LabState.dispatchTask]; split <;> rfl
  · simp [Records.nodeStatus, LabState.dispatchTask]
  · rw [Records.taskStatus_eq ht, hq]; rfl
  · rw [Records.taskStatus_eq ht, hq]; simp

theorem LabState.rejectResultLocked_tells (r : NodeTask) (reason : String) :
    ∃ l, Tells w s .reject (s.rejectResultLocked w r reason) l := by
  exact ⟨_, (Journal.Told.refl.record _).audit _, by simp [Notice.kind], LabState.audited_quiet
    (fun k => by simp [Records.taskStatus, LabState.rejectResultLocked])
    (fun k => by simp [Records.nodeStatus, LabState.rejectResultLocked])
    (by simp [Notice.audited, Kind.subject])⟩

theorem LabState.acceptedResult_tells (hs : Safe w s) {n : Node} {t : Task} (status : ResultStatus)
    (result : Json) (hn : s.nodes.get? n.id = some n) (ht : s.tasks.get? t.id = some t)
    (hd : t.status = .dispatched) (now : Instant) :
    ∃ l, Tells w s .result (s.acceptedResult w n t status result now) l := by
  obtain ⟨l, hl, hkinds, hquiet⟩ := s.acceptedResult_told (w := w) n t status result now
  have hrec : (s.acceptedResult w n t status result now).toRecords = _ :=
    LabState.acceptedResult_records hs ht hd now
  have haudits : ∀ (d : EventDraft) (a : AuditDraft),
      ((l ++ [Notice.event d]) ++ [Notice.audit a]).filterMap Notice.audited = [a] := by
    intro d a
    rw [List.filterMap_append, List.filterMap_append, hquiet]
    rfl
  refine ⟨_, (hl.record _).audit _, fun x hx hnote => ?_, ?_⟩
  · rcases List.mem_append.mp hx with hx | hx
    · rcases List.mem_append.mp hx with hx | hx
      · rw [(hkinds x hx).2] at hnote; cases hnote
      · rw [List.mem_singleton.mp hx] at hnote; cases hnote
    · rw [List.mem_singleton.mp hx] at hnote; cases hnote
  · rw [haudits]
    refine LabState.audited_task (some status.taskStatus) (fun k => ?_) (fun k => ?_) rfl rfl
      ?_ ?_ ?_
    · rw [Records.taskStatus, hrec]
      by_cases hk : k = t.id <;> simp [Records.taskStatus, Task.ended, hk]
    · rw [Records.nodeStatus, hrec]
      by_cases hk : k = n.id <;> simp [Records.nodeStatus, Node.credited, hk, hn]
    · rw [Records.taskStatus_eq ht, hd]; rfl
    · cases status <;> rfl
    · rw [Records.taskStatus_eq ht, hd]
      cases status <;> simp [ResultStatus.taskStatus]

/-- A node that was offline already is reported offline again. -/
theorem LabState.disconnectedNode_tells {n : Node} (hn : s.nodes.get? n.id = some n) :
    ∃ l, Tells w s .disconnect (s.disconnectedNode w n n.status) l := by
  refine ⟨_, ((Journal.Told.refl.record _).tick).audit _, by simp [Notice.kind], ?_⟩
  have htasks : ∀ k, (s.disconnectedNode w n n.status).taskStatus k = s.taskStatus k := fun k => by
    simp [Records.taskStatus, LabState.disconnectedNode]
  cases ho : n.status with
  | online =>
    refine LabState.audited_node (some .offline) (ho ▸ htasks) (fun k => ?_) rfl rfl ?_ rfl ?_
    · by_cases hk : k = n.id <;> simp [Records.nodeStatus, LabState.disconnectedNode, hk]
    · rw [Records.nodeStatus_eq hn, ho]; rfl
    · rw [Records.nodeStatus_eq hn, ho]; simp
  | offline =>
    have hnodes : ∀ k, (s.disconnectedNode w n n.status).nodeStatus k = s.nodeStatus k := by
      intro k
      by_cases hk : k = n.id
      · simp [Records.nodeStatus, LabState.disconnectedNode, hk, hn, ho]
      · simp [Records.nodeStatus, LabState.disconnectedNode, hk]
    rw [← ho, LabState.statuses_eq_of htasks hnodes]
    exact .again (.inr rfl) rfl (by rw [ho]; rfl) rfl
      (by simp [Records.statuses, hn, ho, NodeStatus.name])

theorem LabState.pruneNode_tells {n : Node} (hn : s.nodes.get? n.id = some n) :
    ∃ l, Tells w s .enroll (s.pruneNode w n) l := by
  refine ⟨_, (Journal.Told.refl.record _).audit _, by simp [Notice.kind],
    LabState.audited_node none (fun k => ?_) (fun k => ?_) rfl rfl ?_ rfl ?_⟩
  · simp [Records.taskStatus, LabState.pruneNode]
  · simp [Records.nodeStatus, LabState.pruneNode]; split <;> rfl
  · rw [Records.nodeStatus_eq hn]; rfl
  · rw [Records.nodeStatus_eq hn]; simp

theorem LabState.addNode_tells (hs : Safe w s) (e : Enrollment) (now : Instant)
    (hf : w.FreshBelow (s.addNode w (s.newNode w e now)).draws) :
    ∃ l, Tells w s .enroll (s.addNode w (s.newNode w e now)) l := by
  have hnew := hs.node_new hf (by
    simp [LabState.addNode, LabState.tick, Journal.draws_recordLocked, Journal.draws_auditLocked]
    omega)
  refine ⟨_, ((Journal.Told.refl.tick.tick.tick).record _).audit _, by simp [Notice.kind],
    LabState.audited_node (some .online) (fun k => ?_) (fun k => ?_) rfl rfl ?_ rfl ?_⟩
  · simp [Records.taskStatus, LabState.addNode]
  · by_cases hk : k = w.nodeId s.draws <;>
      simp [Records.nodeStatus, LabState.addNode, LabState.newNode, hk]
  · simp [Records.nodeStatus, LabState.newNode, hnew]
  · simp [Records.nodeStatus, LabState.newNode, hnew]

theorem LabState.pruneTask_tells {t : Task} (ht : s.tasks.get? t.id = some t) :
    ∃ l, Tells w s .prune (s.pruneTerminalTaskLocked w t) l := by
  have hrec := LabState.toRecords_prune (w := w) t s
  refine ⟨_, ((t.tombstone_told s).record _).audit _, by simp [Notice.kind],
    LabState.audited_task none (fun k => ?_) (fun k => ?_) rfl rfl ?_ rfl ?_⟩
  · rw [Records.taskStatus, hrec]
    by_cases hk : k = t.id <;> simp [Records.taskStatus, hk]
  · rw [Records.nodeStatus, hrec]; rfl
  · rw [Records.taskStatus_eq ht]; rfl
  · rw [Records.taskStatus_eq ht]; simp

theorem LabState.addTask_tells (hs : Safe w s) (spec : TaskSpec) (now : Instant)
    (reason : Option String) (hf : w.FreshBelow (s.addTask w spec now reason).draws) :
    ∃ l, Tells w s .create (s.addTask w spec now reason) l := by
  have hrec := LabState.toRecords_addTask (w := w) spec now reason s
  have hdraws := LabState.draws_le_addTask (w := w) spec now reason s
  have hnew := hs.task_new hf (by omega)
  refine ⟨_, ((LabState.insert_told spec now s).record _).audit _, by simp [Notice.kind],
    LabState.audited_task (some .queued) (fun k => ?_) (fun k => ?_) rfl rfl ?_ rfl ?_⟩
  · rw [Records.taskStatus, hrec]
    by_cases hk : k = w.taskId s.draws <;>
      simp [Records.taskStatus, LabState.newTask, hk]
  · rw [Records.nodeStatus, hrec]; rfl
  · simp [Records.taskStatus, LabState.newTask, hnew]
  · simp [Records.taskStatus, LabState.newTask, hnew]

theorem LabState.insertExercise_tells (e : Exercise) (key : Option PyStr) :
    ∃ l, Tells w s .create (s.insertExercise w e key) l := by
  cases key <;>
  exact ⟨_, (Journal.Told.refl.record _).audit _, by simp [Notice.kind], LabState.audited_quiet
    (fun k => by simp [Records.taskStatus, LabState.insertExercise])
    (fun k => by simp [Records.nodeStatus, LabState.insertExercise])
    (by simp [Notice.audited, Kind.subject])⟩

theorem LabState.cancelledTask_tells {t : Task} (ht : s.tasks.get? t.id = some t)
    (hq : t.status = .queued) (actor : PyStr) :
    ∃ l, Tells w s .cancel (s.cancelledTask w t actor) l := by
  refine ⟨_, ((Journal.Told.refl.tick).record _).audit _, by simp [Notice.kind],
    LabState.audited_task (some .cancelled) (fun k => ?_) (fun k => ?_) rfl rfl ?_ rfl ?_⟩
  · simp [Records.taskStatus, LabState.cancelledTask]; split <;> rfl
  · simp [Records.nodeStatus, LabState.cancelledTask]
  · rw [Records.taskStatus_eq ht, hq]; rfl
  · rw [Records.taskStatus_eq ht, hq]; simp

theorem LabState.cancelContained_tells (hs : Safe w s) {e : Exercise} {t : Task} {p : Playbook}
    (he : s.exercises.get? e.id = some e) (hm : t.id ∈ e.taskIds) (ht : s.tasks.get? t.id = some t)
    (hq : t.status = .queued) (hp : t.command = .runPlaybook p) (actor : PyStr) :
    ∃ l, Tells w s .contain (s.cancelContained w e.id t p actor) l := by
  obtain ⟨e', -, hrec⟩ := LabState.cancelContained_records hs he hm ht hq hp actor
  refine ⟨_, ((LabState.contained_told e.id t p s).record _).audit _, by simp [Notice.kind],
    LabState.audited_task (some .cancelled) (fun k => ?_) (fun k => ?_) rfl rfl ?_ rfl ?_⟩
  · rw [Records.taskStatus, hrec]
    by_cases hk : k = t.id <;> simp [Records.taskStatus, Task.ended, hk]
  · rw [Records.nodeStatus, hrec]; rfl
  · rw [Records.taskStatus_eq ht, hq]; rfl
  · rw [Records.taskStatus_eq ht, hq]; simp

theorem LabState.pauseNode_tells {n : Node} (hn : s.nodes.get? n.id = some n)
    (exerciseId actor : PyStr) : ∃ l, Tells w s .contain (s.pauseNode w n exerciseId actor) l := by
  exact ⟨_, ((Journal.Told.refl.tick).record _).audit _, by simp [Notice.kind],
    LabState.audited_quiet (fun k => by simp [Records.taskStatus, LabState.pauseNode])
    (LabState.nodeStatus_set n { n with
      taskingPaused := true, taskingPausedAt := some (w.utcNow s.draws)
      taskingPausedBy := some actor } hn rfl (by simp [LabState.pauseNode]))
    (by simp [Notice.audited, Kind.subject])⟩

theorem LabState.applyContainment_tells (hs : Safe w s) {e : Exercise}
    (he : s.exercises.get? e.id = some e) (hst : e.status ≠ .contained) (action : ContainmentAction)
    (actor : PyStr) : ∃ l, Tells w s .contain (s.applyContainment w e action actor) l := by
  obtain ⟨e', hedit, -⟩ := LabState.applyContainment_edits hs he hst action actor
  obtain ⟨l, hl, habout⟩ := s.applyContainment_told (w := w) e action actor
  exact ⟨l, .about hl habout (by simp) rfl (by rw [hedit.records]) (by rw [hedit.records])⟩

/-- A reset leaves no status behind. -/
theorem LabState.announceReset_tells (actor : PyStr) :
    ∃ l, Tells w s .reset (s.announceReset w actor) l := by
  refine ⟨_, ((Journal.Told.refl.clear).record _).audit _, by simp [Notice.kind], ?_⟩
  have hcleared : (s.announceReset w actor).statuses = .empty := by
    simp [LabState.announceReset, LabState.cleared, Records.statuses, StatusMap.empty]
  rw [hcleared]
  exact .reset rfl

theorem Write.tells (hs : Safe w s) {c : Activity} (hf : c.creates = true → w.FreshBelow s'.draws)
    (h : Write w s c s') : ∃ l, Tells w s c s' l := by
  cases h with
  | tick =>
    exact ⟨[], .tick .refl, by simp,
      LabState.audited_quiet (fun _ => rfl) (fun _ => rfl) (by simp)⟩
  | expireTask ht hq => exact LabState.expireTask_tells ht hq
  | timeoutTask ht hd => exact LabState.timeoutTask_tells hs ht hd
  | failTask _ hn ht _ hl reason message => exact LabState.failTask_tells hn ht hl reason message
  | staleNode hn ho => exact LabState.staleNode_tells hn ho
  | closeSession hn ho => exact LabState.closeSession_tells hn ho
  | observeEnded he hm hu ht _ hp => exact LabState.observeEnded_tells hs he hm hu ht hp
  | completeExercise he _ hc => exact LabState.completeExercise_tells hs he hc
  | wakeNode hn now => exact LabState.wakeNode_tells hn now
  | heartbeatNode hn now => exact LabState.heartbeatNode_tells hn now
  | redeliverTask ht => exact LabState.redeliverTask_tells ht
  | dispatchTask ht hq _ now => exact LabState.dispatchTask_tells ht hq now
  | rejectResult r reason => exact LabState.rejectResultLocked_tells r reason
  | @acceptedResult _ _ status _ result hn ht _ hd _ now =>
    exact LabState.acceptedResult_tells hs status result hn ht hd now
  | disconnectedNode hn => exact LabState.disconnectedNode_tells hn
  | pruneNode hn => exact LabState.pruneNode_tells hn
  | @addNode e _ _ _ _ _ _ _ now => exact LabState.addNode_tells hs e now (hf rfl)
  | pruneTask ht => exact LabState.pruneTask_tells ht
  | @addTask spec _ _ now reason => exact LabState.addTask_tells hs spec now reason (hf rfl)
  | announceOperation =>
    exact ⟨_, (Journal.Told.refl.record _).audit _, by simp [Notice.kind], LabState.audited_quiet
      (fun k => by simp [Records.taskStatus, LabState.announceOperation])
      (fun k => by simp [Records.nodeStatus, LabState.announceOperation])
      (by simp [Notice.audited, Kind.subject])⟩
  | @rememberOperation key =>
    cases key <;> exact ⟨[], .refl, by simp, LabState.audited_quiet (fun k => rfl) (fun k => rfl)
      (by simp)⟩
  | @insertExercise e key => exact LabState.insertExercise_tells e key
  | cancelledTask ht hq actor => exact LabState.cancelledTask_tells ht hq actor
  | cancelContained he _ hm ht hq hp actor =>
    exact LabState.cancelContained_tells hs he hm ht hq hp actor
  | pauseNode hn exerciseId actor => exact LabState.pauseNode_tells hn exerciseId actor
  | @applyContainment _ he hst _ _ action _ actor =>
    exact LabState.applyContainment_tells hs he hst action actor
  | announceNote =>
    exact ⟨_, (Journal.Told.refl.record _).audit _, fun _ _ _ => rfl, LabState.audited_quiet
      (fun k => by simp [Records.taskStatus, LabState.announceNote])
      (fun k => by simp [Records.nodeStatus, LabState.announceNote])
      (by simp [Notice.audited, Kind.subject])⟩
  | rememberNote =>
    exact ⟨[], .refl, by simp, LabState.audited_quiet (fun _ => rfl) (fun _ => rfl) (by simp)⟩
  | announceReset actor => exact LabState.announceReset_tells actor

end C2Lab
