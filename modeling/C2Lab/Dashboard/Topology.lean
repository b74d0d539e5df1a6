import C2Lab.Dashboard.Graph

/-! The topology graph: the Teamserver, its Nodes, their tasks and the playbooks these run.

    Ids are made by concatenation from ids that come with the sync; no two of them are the same,
    because the parts in front differ and no playbook has a colon in it. -/

namespace C2Lab

/-- What `buildTopologyGraph` reads of the overview. -/
structure TopologyOverview (ι : Type) where
  protocol : JsValue
  connectionStatus : JsValue
  nodes : JsValue
  tasks : List ι

/-- The id of a record, for `typeof record.id === "string"`. -/
def recordId (record : JsValue) : JsString := (record.get "id").asString.getD .empty

/-- The first nodes of the overview that have an id. -/
def allNodes (nodes : JsValue) : List JsValue :=
  (nodes.asArray.filter fun node => (node.get "id").asString.isSome).take maxGraphNodes

/-- `focusedNodeId`. -/
def focusedNodeId (focusValue : JsString) : JsString :=
  if focusValue.startsWith "node:" then focusValue.slice 5 else .empty

/-- The nodes that are shown. -/
def shownNodes (nodes : JsValue) (focusValue : JsString) : List JsValue :=
  if focusedNodeId focusValue = .empty then allNodes nodes
  else (allNodes nodes).filter fun node => recordId node = focusedNodeId focusValue

section
variable {ι : Type} (js : JsRuntime) (sort : List ι → List ι) (record : ι → JsValue)

/-- The ids of a task and its node, when both are strings and the first is not empty. -/
def taskIds (task : JsValue) : Option (JsString × JsString) :=
  match (task.get "id").asString, (task.get "node_id").asString with
  | some id, some nodeId => if id = .empty then none else some (id, nodeId)
  | _, _ => none

/-- The loop that fills `taskPool`. -/
def fillPool (nodeIds seenTaskIds : List JsString) : List ι → List ι
  | [] => []
  | t :: rest =>
    match taskIds (record t) with
    | some (id, nodeId) =>
      if id ∈ seenTaskIds ∨ nodeId ∉ nodeIds then fillPool nodeIds seenTaskIds rest
      else t :: fillPool nodeIds (id :: seenTaskIds) rest
    | none => fillPool nodeIds seenTaskIds rest

def teamserverEntity (protocol connectionStatus : JsValue) : GraphEntity :=
  graphEntity js "topology:teamserver" .teamserver "Teamserver"
    (protocol.or "loopback-http-poll/v1") (teamserverGraphStatus connectionStatus) 0
    [("Mode", "localhost lab"), ("Protocol", protocol.or "loopback-http-poll/v1"),
      ("Projection", "read-only / current sync")] none

/-- `Number.isInteger(value) ? value + unit : "—"`. -/
def measureText (value : JsValue) (unit : JsString) : JsValue :=
  match value with
  | .number (.finite q) => if q.isInt then js.toText value ++ unit else "—"
  | _ => "—"

def nodeEntity (node : JsValue) : GraphEntity :=
  let nodeStatus : JsString :=
    if (node.get "tasking_paused").truthy then "paused"
    else normalizedGraphStatus js (node.get "status")
  graphEntity js (("node:" : JsString) ++ recordId node) .node
    ((node.get "name").or (node.get "id"))
    (js.toText ((node.get "profile").or "unknown") ++ (" · " : JsString) ++
      js.toUpperCase (js.toText ((node.get "status").or "unknown")))
    nodeStatus 1
    [("Node ID", node.get "id"),
      ("Capability profile", (node.get "profile").or "—"),
      ("Session", if (node.get "session_active").isFalse then "closed" else "active"),
      ("Tasking", if (node.get "tasking_paused").truthy then "paused" else "enabled"),
      ("Poll", measureText js (node.get "poll_interval_ms") " ms"),
      ("Jitter", measureText js (node.get "jitter_percent") "%"),
      ("Capabilities", match node.get "capabilities" with
        | .array items => js.join " · " items
        | _ => "—")]
    (some (.node (node.get "id")))

def nodeRelation (node : JsValue) : GraphRelation :=
  graphRelation (("topology:teamserver:" : JsString) ++ recordId node) "topology:teamserver"
    (("node:" : JsString) ++ recordId node) "POLL / RESULT" true

/-- `type`. -/
def taskTypeText (task : JsValue) : JsString :=
  (recordText js task ["type"]).or "TASK"

/-- The playbook of a `RUN_PLAYBOOK` task. -/
def taskPlaybook (task : JsValue) : Option JsString :=
  if taskTypeText js task = "RUN_PLAYBOOK" then
    knownId operationPlaybooks ((task.get "payload").get "playbook")
  else none

/-- The id of a task entity. -/
def taskEntityId (taskId : JsString) : JsString := ("task:" : JsString) ++ taskId

def taskEntity (task : JsValue) : GraphEntity :=
  let status := normalizedGraphStatus js (task.get "status")
  graphEntity js (taskEntityId (recordId task)) .task (taskTypeText js task)
    (recordId task ++ (" · " : JsString) ++ js.toUpperCase status) status 2
    [("Task ID", task.get "id"),
      ("Correlation", (task.get "correlation_id").or "—"),
      ("Operation", (task.get "operation_id").or "—"),
      ("Operation step", (task.get "operation_step").integerOr "—"),
      ("Node", (task.get "node_id").or "—"),
      ("Created by", (task.get "created_by").or "—"),
      ("Status", status),
      ("Delivery attempts", (task.get "delivery_attempts").integerOr "—")]
    (some (.task (task.get "id")))

def taskRelation (task : JsValue) : GraphRelation :=
  let nodeId := (task.get "node_id").asString.getD .empty
  graphRelation (("topology:" : JsString) ++ nodeId ++ (":" : JsString) ++ recordId task)
    (("node:" : JsString) ++ nodeId) (taskEntityId (recordId task))
    (js.toUpperCase (normalizedGraphStatus js (task.get "status"))) true

/-- `playbookId`. -/
def topologyPlaybookId (taskId playbook : JsString) : JsString :=
  ("topology-playbook:" : JsString) ++ taskId ++ (":" : JsString) ++ playbook

/-- `playbookObserved`. -/
def playbookObserved (task : JsValue) : Bool :=
  normalizedGraphStatus js (task.get "status") = "completed"

def playbookEntity (task : JsValue) (playbook : JsString) : GraphEntity :=
  graphEntity js (topologyPlaybookId (recordId task) playbook) .playbook playbook
    (recordId task ++ (" · FIXED PLAYBOOK" : JsString))
    (if playbookObserved js task then "observed" else "planned") 3
    [("Playbook", playbook),
      ("Task", task.get "id"),
      ("Operation", (task.get "operation_id").or "—"),
      ("Operation step", (task.get "operation_step").integerOr "—"),
      ("Execution", if playbookObserved js task then "validated result received"
        else normalizedGraphStatus js (task.get "status"))]
    (some (.playbook playbook ((task.get "node_id").or "")))

def playbookRelation (task : JsValue) (playbook : JsString) : GraphRelation :=
  graphRelation (("topology:" : JsString) ++ recordId task ++ (":" : JsString) ++ playbook)
    (taskEntityId (recordId task)) (topologyPlaybookId (recordId task) playbook) "RUNS"
    (playbookObserved js task)

/-- What the loop over the tasks pushes to `entities` for one of them. -/
def taskEntities (task : JsValue) : List GraphEntity :=
  taskEntity js task :: (taskPlaybook js task).toList.map (playbookEntity js task)

/-- What it pushes to `edges`. -/
def taskRelations (task : JsValue) : List GraphRelation :=
  taskRelation js task :: (taskPlaybook js task).toList.map (playbookRelation js task)

variable [DecidableEq ι]

/-- `buildTopologyGraph`; `record` gives the fields of a task object. -/
def buildTopologyGraph (overview : TopologyOverview ι) (focusValue : JsString) : GraphModel :=
  let nodes := shownNodes overview.nodes focusValue
  let taskPool := fillPool record (nodes.map recordId) [] overview.tasks
  let tasks := graphTaskSelection sort (fun t => graphTask (record t)) taskPool
  let entities := teamserverEntity js overview.protocol overview.connectionStatus ::
    (nodes.map (nodeEntity js) ++ tasks.flatMap fun t => taskEntities js (record t))
  let edges := nodes.map nodeRelation ++ tasks.flatMap fun t => taskRelations js (record t)
  let omitted := taskPool.length - tasks.length
  let playbookCount := (entities.filter (·.kind = .playbook)).length
  { mode := .topology, entities := entities, edges := edges
    summary := .ofNat nodes.length ++ (" Node · " : JsString) ++ .ofNat tasks.length ++
      ("/" : JsString) ++ .ofNat taskPool.length ++ (" Task · " : JsString) ++
      .ofNat playbookCount ++ (" Playbook" : JsString) ++
      if omitted = 0 then .empty
      else (" · " : JsString) ++ .ofNat omitted ++ ("件省略" : JsString) }

end

/-! ### The pool of tasks -/

/-- The first of those with each key. -/
def firstOccurrences {ι : Type} (key : ι → JsString) : List ι → List ι
  | [] => []
  | t :: rest => t :: (firstOccurrences key rest).filter fun x => key x ≠ key t

/-- A task with an id, on one of the nodes. -/
def onNode (nodeIds : List JsString) (task : JsValue) : Bool :=
  (taskIds task).any fun ids => ids.2 ∈ nodeIds

section
variable {ι : Type} {record : ι → JsValue} {nodeIds seen : List JsString} {tasks : List ι}

theorem taskIds_eq_some {task : JsValue} {id nodeId : JsString}
    (h : taskIds task = some (id, nodeId)) :
    recordId task = id ∧ (task.get "node_id").asString.getD .empty = nodeId ∧ id ≠ .empty := by
  unfold taskIds at h
  split at h
  · rename_i i n hi hn
    split at h
    · cases h
    · rename_i hne
      cases h
      exact ⟨by rw [recordId, hi]; rfl, by rw [hn]; rfl, hne⟩
  · cases h

/-- The loop keeps the first task with each id, of those on a shown node. -/
theorem fillPool_eq_filter :
    fillPool record nodeIds seen tasks =
      (firstOccurrences (fun t => recordId (record t))
        (tasks.filter fun t => onNode nodeIds (record t))).filter
          fun t => recordId (record t) ∉ seen := by
  induction tasks generalizing seen with
  | nil => rfl
  | cons t rest ih =>
    rw [fillPool, List.filter_cons, onNode]
    cases hids : taskIds (record t) with
    | none => simpa using ih
    | some ids =>
      obtain ⟨id, nodeId⟩ := ids
      obtain ⟨hid, -, -⟩ := taskIds_eq_some hids
      by_cases hnode : nodeId ∈ nodeIds
      · simp only [Option.any_some, hnode, decide_true, if_true, not_true_eq_false, or_false]
        rw [firstOccurrences, List.filter_cons, hid, List.filter_filter]
        by_cases hseen : id ∈ seen
        · rw [if_pos hseen, if_neg (by simpa using hseen), ih]
          refine List.filter_congr fun x _ => ?_
          by_cases hx : recordId (record x) ∈ seen
          · simp [hx]
          · have hne : recordId (record x) ≠ id := fun he => hx (he ▸ hseen)
            simp [hx, hne]
        · rw [if_neg hseen, if_pos (by simpa using hseen), ih]
          refine congrArg (t :: ·) (List.filter_congr fun x _ => ?_)
          simp [List.mem_cons, Bool.and_comm]
      · simp only [Option.any_some, hnode, decide_false, not_false_eq_true, or_true, if_true]
        rw [if_neg (by simp)]
        exact ih

theorem firstOccurrences_sublist (key : ι → JsString) (l : List ι) :
    (firstOccurrences key l).Sublist l := by
  induction l with
  | nil => exact .slnil
  | cons t l ih => exact (List.filter_sublist.trans ih).cons_cons t

theorem firstOccurrences_nodup (key : ι → JsString) (l : List ι) :
    ((firstOccurrences key l).map key).Nodup := by
  induction l with
  | nil => exact List.nodup_nil
  | cons t l ih =>
    rw [firstOccurrences, List.map_cons, List.nodup_cons]
    refine ⟨fun hmem => ?_, ih.sublist (List.filter_sublist.map key)⟩
    obtain ⟨x, hx, hkey⟩ := List.mem_map.mp hmem
    exact of_decide_eq_true (List.mem_filter.mp hx).2 hkey

theorem fillPool_eq : fillPool record nodeIds [] tasks =
    firstOccurrences (fun t => recordId (record t))
      (tasks.filter fun t => onNode nodeIds (record t)) := by
  rw [fillPool_eq_filter]
  exact List.filter_eq_self.mpr fun t _ => by simp

end

/-! ### The shown nodes -/

theorem recordIds_nodup {nodes : JsValue} (focusValue : JsString)
    (hnodes : (nodes.asArray.filterMap fun node => (node.get "id").asString).Nodup) :
    ((shownNodes nodes focusValue).map recordId).Nodup := by
  have hids : ∀ l : List JsValue,
      (l.filter fun node => (node.get "id").asString.isSome).map recordId =
        l.filterMap fun node => (node.get "id").asString := by
    intro l
    induction l with
    | nil => rfl
    | cons node l ih =>
      cases hid : (node.get "id").asString with
      | none =>
        rw [List.filter_cons_of_neg (by simp [hid]), ih]
        simp only [List.filterMap_cons, hid]
      | some id =>
        rw [List.filter_cons_of_pos (by simp [hid]), List.map_cons, ih, recordId]
        simp only [List.filterMap_cons, hid, Option.getD_some]
  have hsub : (shownNodes nodes focusValue).Sublist
      (nodes.asArray.filter fun node => (node.get "id").asString.isSome) := by
    unfold shownNodes allNodes
    split
    · exact List.take_sublist _ _
    · exact List.filter_sublist.trans (List.take_sublist _ _)
  rw [← hids] at hnodes
  exact hnodes.sublist (hsub.map recordId)

/-! ### The ids of the entities -/

section
variable {js : JsRuntime}

theorem id_teamserverEntity (protocol connectionStatus : JsValue) :
    (teamserverEntity js protocol connectionStatus).id = "topology:teamserver" := rfl

theorem id_taskEntity (task : JsValue) :
    (taskEntity js task).id = taskEntityId (recordId task) := rfl

theorem id_playbookEntity (task : JsValue) (playbook : JsString) :
    (playbookEntity js task playbook).id = topologyPlaybookId (recordId task) playbook := rfl

/-- No playbook has a colon in it. -/
theorem colon_notMem {task : JsValue} {playbook : JsString}
    (h : taskPlaybook js task = some playbook) : 0x3A ∉ playbook.units := by
  have hall : ∀ id ∈ operationPlaybooks.map JsString.ofString, 0x3A ∉ id.units := by decide
  unfold taskPlaybook at h
  split at h
  · exact hall playbook (of_knownId h).2
  · cases h

theorem taskEntity_ids {task : JsValue} {id : JsString}
    (h : id ∈ (taskEntities js task).map (·.id)) :
    id = taskEntityId (recordId task) ∨
      ∃ playbook, taskPlaybook js task = some playbook ∧
        id = topologyPlaybookId (recordId task) playbook := by
  rw [taskEntities, List.map_cons, List.mem_cons] at h
  refine h.imp (fun h => h) fun h => ?_
  rw [List.map_map, List.mem_map] at h
  obtain ⟨playbook, hplaybook, rfl⟩ := h
  exact ⟨playbook, Option.mem_toList.mp hplaybook, rfl⟩

theorem teamserver_ne {n : ℕ} {p x : JsString}
    (h : n ≤ (JsString.ofString "topology:teamserver").units.length ∧ n ≤ p.units.length ∧
      (JsString.ofString "topology:teamserver").units.take n ≠ p.units.take n) :
    ("topology:teamserver" : JsString) ≠ p ++ x := by
  rw [← JsString.append_empty (JsString.ofString "topology:teamserver")]
  exact JsString.append_ne_append n h _ _

theorem taskEntityId_inj {i j : JsString} (h : taskEntityId i = taskEntityId j) : i = j :=
  JsString.append_left_inj h

theorem topologyPlaybookId_eq (taskId playbook : JsString) : topologyPlaybookId taskId playbook =
    ("topology-playbook:" : JsString) ++ (taskId ++ ((":" : JsString) ++ playbook)) := by
  rw [topologyPlaybookId, JsString.append_assoc, JsString.append_assoc]

theorem taskEntityId_ne (i j playbook : JsString) :
    taskEntityId i ≠ topologyPlaybookId j playbook := by
  rw [topologyPlaybookId_eq]
  exact JsString.append_ne_append 2 (by decide) _ _

/-- The last colon separates the task from the playbook. -/
theorem topologyPlaybookId_inj {i j p q : JsString} (hp : 0x3A ∉ p.units) (hq : 0x3A ∉ q.units)
    (h : topologyPlaybookId i p = topologyPlaybookId j q) : i = j ∧ p = q := by
  obtain ⟨hfront, hpq⟩ := JsString.append_separated hp hq h
  exact ⟨JsString.append_left_inj hfront, hpq⟩

/-- Different tasks have different entities. -/
theorem taskEntities_disjoint {t u : JsValue} (h : recordId t ≠ recordId u) :
    List.Disjoint ((taskEntities js t).map (·.id)) ((taskEntities js u).map (·.id)) := by
  intro id ht hu
  rcases taskEntity_ids ht with rfl | ⟨p, hp, rfl⟩ <;>
    rcases taskEntity_ids hu with he | ⟨q, hq, he⟩
  · exact h (taskEntityId_inj he)
  · exact taskEntityId_ne _ _ _ he
  · exact taskEntityId_ne _ _ _ he.symm
  · exact h (topologyPlaybookId_inj (colon_notMem hp) (colon_notMem hq) he).1

theorem taskEntities_nodup (task : JsValue) : ((taskEntities js task).map (·.id)).Nodup := by
  unfold taskEntities
  cases taskPlaybook js task with
  | none => simp
  | some playbook => simpa [id_taskEntity, id_playbookEntity] using taskEntityId_ne _ _ _

variable {nodes tasks : List JsValue}

variable (js) in
/-- No two entities have one id, when no two nodes and no two tasks have. -/
theorem topologyEntities_nodup (protocol connectionStatus : JsValue)
    (hnodes : (nodes.map recordId).Nodup) (htasks : (tasks.map recordId).Nodup) :
    ((teamserverEntity js protocol connectionStatus ::
      (nodes.map (nodeEntity js) ++ tasks.flatMap (taskEntities js))).map (·.id)).Nodup := by
  rw [List.map_cons, List.map_append, List.map_map, List.map_flatMap, List.nodup_cons,
    List.nodup_append]
  refine ⟨fun hmem => ?_, ?_, ?_, ?_⟩
  · rw [id_teamserverEntity, List.mem_append] at hmem
    rcases hmem with hmem | hmem
    · obtain ⟨node, -, hnode⟩ := List.mem_map.mp hmem
      exact teamserver_ne (n := 1) (by decide) hnode.symm
    · obtain ⟨task, -, hid⟩ := List.mem_flatMap.mp hmem
      rcases taskEntity_ids hid with he | ⟨playbook, -, he⟩
      · exact teamserver_ne (n := 2) (by decide) he
      · rw [topologyPlaybookId_eq] at he
        exact teamserver_ne (n := 9) (by decide) he
  · have hmap : (fun e : GraphEntity => e.id) ∘ nodeEntity js =
        (fun id => ("node:" : JsString) ++ id) ∘ recordId := rfl
    rw [hmap, ← List.map_map]
    exact hnodes.map fun _ _ => JsString.append_left_inj
  · rw [List.nodup_flatMap]
    refine ⟨fun task _ => taskEntities_nodup task, ?_⟩
    exact (List.pairwise_map.mp htasks).imp taskEntities_disjoint
  · intro id hid x hx he
    subst he
    obtain ⟨node, -, rfl⟩ := List.mem_map.mp hid
    obtain ⟨task, -, hid⟩ := List.mem_flatMap.mp hx
    rcases taskEntity_ids hid with he | ⟨playbook, -, he⟩
    · exact JsString.append_ne_append 1 (by decide) _ _ he
    · rw [topologyPlaybookId_eq] at he
      exact JsString.append_ne_append 1 (by decide) _ _ he

end

/-! ### The graph -/

section
variable {ι : Type} [DecidableEq ι] {js : JsRuntime} {sort : List ι → List ι} {record : ι → JsValue}
  (hsort : ∀ l, (sort l).Perm l) (overview : TopologyOverview ι) (focusValue : JsString)
include hsort

/-- The tasks of the graph come from the pool, each once. -/
theorem selected_of_pool {pool : List ι} {t : ι}
    (ht : t ∈ graphTaskSelection sort (fun t => graphTask (record t)) pool) : t ∈ pool :=
  mem_of_mem_graphTaskSelection hsort pool ht

variable (record) in
theorem selectedIds_nodup (nodeIds : List JsString) (tasks : List ι) :
    (((graphTaskSelection sort (fun t => graphTask (record t))
      (fillPool record nodeIds [] tasks)).map record).map recordId).Nodup := by
  have hpool : ((fillPool record nodeIds [] tasks).map fun t => recordId (record t)).Nodup := by
    rw [fillPool_eq]
    exact firstOccurrences_nodup _ _
  rw [List.map_map]
  refine (graphTaskSelection_nodup hsort _).map_on fun t ht u hu he => ?_
  exact List.inj_on_of_nodup_map hpool (selected_of_pool hsort ht) (selected_of_pool hsort hu) he

/-- A task of the graph is on one of its nodes. -/
theorem selected_onNode {nodeIds : List JsString} {tasks : List ι} {t : ι}
    (ht : t ∈ graphTaskSelection sort (fun t => graphTask (record t))
      (fillPool record nodeIds [] tasks)) :
    ((record t).get "node_id").asString.getD .empty ∈ nodeIds := by
  have hpool := selected_of_pool hsort ht
  rw [fillPool_eq] at hpool
  have hon := (List.mem_filter.mp ((firstOccurrences_sublist _ _).subset hpool)).2
  obtain ⟨ids, hids, hmem⟩ := Option.any_eq_true _ _ |>.mp hon
  obtain ⟨-, hnode, -⟩ := taskIds_eq_some hids
  rw [hnode]
  exact of_decide_eq_true hmem

theorem topology_wellFormed
    (hnodes : (overview.nodes.asArray.filterMap fun node => (node.get "id").asString).Nodup) :
    (buildTopologyGraph js sort record overview focusValue).WellFormed := by
  have hids := topologyEntities_nodup js overview.protocol overview.connectionStatus
    (recordIds_nodup focusValue hnodes) (selectedIds_nodup record hsort
      ((shownNodes overview.nodes focusValue).map recordId) overview.tasks)
  rw [List.flatMap_map] at hids
  refine ⟨hids, fun e he => ?_⟩
  simp only [buildTopologyGraph, List.map_cons, List.map_append, List.map_map, List.map_flatMap]
  rcases List.mem_append.mp he with he | he
  · obtain ⟨node, hnode, rfl⟩ := List.mem_map.mp he
    refine ⟨List.mem_cons_self, List.mem_cons_of_mem _ (List.mem_append_left _ ?_)⟩
    exact List.mem_map_of_mem hnode
  · obtain ⟨t, ht, he⟩ := List.mem_flatMap.mp he
    have htask : taskEntityId (recordId (record t)) ∈
        (taskEntities js (record t)).map (·.id) := List.mem_cons_self
    rcases List.mem_cons.mp he with rfl | he
    · refine ⟨List.mem_cons_of_mem _ (List.mem_append_left _ ?_),
        List.mem_cons_of_mem _ (List.mem_append_right _ (List.mem_flatMap.mpr ⟨t, ht, htask⟩))⟩
      obtain ⟨node, hnode, heq⟩ := List.mem_map.mp (selected_onNode hsort ht)
      exact List.mem_map.mpr ⟨node, hnode, congrArg (("node:" : JsString) ++ ·) heq⟩
    · obtain ⟨playbook, hplaybook, rfl⟩ := List.mem_map.mp he
      refine ⟨List.mem_cons_of_mem _ (List.mem_append_right _ ?_),
        List.mem_cons_of_mem _ (List.mem_append_right _ ?_)⟩
      · exact List.mem_flatMap.mpr ⟨t, ht, htask⟩
      · refine List.mem_flatMap.mpr ⟨t, ht, List.mem_cons_of_mem _ ?_⟩
        rw [List.map_map]
        exact List.mem_map_of_mem hplaybook

end

/-! ### What the graph shows -/

section
variable {js : JsRuntime}

theorem filter_taskEntities (task : JsValue) :
    (taskEntities js task).filter (·.kind = .task) = [taskEntity js task] := by
  rw [taskEntities, List.filter_cons_of_pos (by rfl), List.filter_eq_nil_iff.mpr]
  intro e he
  obtain ⟨playbook, -, rfl⟩ := List.mem_map.mp he
  exact Bool.false_ne_true

theorem filter_taskEntities_node (task : JsValue) :
    (taskEntities js task).filter (·.kind = .node) = [] := by
  rw [taskEntities, List.filter_cons_of_neg (by rintro ⟨⟩), List.filter_eq_nil_iff.mpr]
  intro e he
  obtain ⟨playbook, -, rfl⟩ := List.mem_map.mp he
  exact Bool.false_ne_true

variable {ι : Type} [DecidableEq ι] (sort : List ι → List ι) (record : ι → JsValue)
  (overview : TopologyOverview ι) (focusValue : JsString)

/-- The graph shows each shown node once, in their order. -/
theorem topology_nodes :
    ((buildTopologyGraph js sort record overview focusValue).entities.filter
      (·.kind = .node)).map (·.id) =
      (shownNodes overview.nodes focusValue).map
        fun node => ("node:" : JsString) ++ recordId node := by
  have hnodes : ∀ l : List JsValue,
      (l.map (nodeEntity js)).filter (·.kind = .node) = l.map (nodeEntity js) := by
    intro l
    rw [List.filter_eq_self]
    intro e he
    obtain ⟨node, -, rfl⟩ := List.mem_map.mp he
    rfl
  rw [buildTopologyGraph, List.filter_cons_of_neg (by rintro ⟨⟩), List.filter_append, hnodes,
    List.filter_flatMap]
  have hnone : ∀ l : List ι, (l.flatMap fun _ => ([] : List GraphEntity)) = [] := by
    simp
  simp only [filter_taskEntities_node, hnone, List.append_nil, List.map_map]
  rfl

/-- Of the tasks it shows those that the selection makes of the first ones with each id that are on
    a shown node. -/
theorem topology_tasks :
    ((buildTopologyGraph js sort record overview focusValue).entities.filter
      (·.kind = .task)).map (·.id) =
      (graphTaskSelection sort (fun t => graphTask (record t))
        (firstOccurrences (fun t => recordId (record t)) (overview.tasks.filter fun t =>
          onNode ((shownNodes overview.nodes focusValue).map recordId) (record t)))).map
        fun t => taskEntityId (recordId (record t)) := by
  have hnodes : ∀ l : List JsValue, (l.map (nodeEntity js)).filter (·.kind = .task) = [] := by
    intro l
    rw [List.filter_eq_nil_iff]
    intro e he
    obtain ⟨node, -, rfl⟩ := List.mem_map.mp he
    exact Bool.false_ne_true
  rw [buildTopologyGraph, List.filter_cons_of_neg (by rintro ⟨⟩), List.filter_append, hnodes,
    List.nil_append, List.filter_flatMap, fillPool_eq]
  simp only [filter_taskEntities, List.map_flatMap, List.map_cons, List.map_nil, id_taskEntity]
  exact List.map_eq_flatMap.symm

end

end C2Lab
