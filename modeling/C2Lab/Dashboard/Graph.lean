import C2Lab.Dashboard.TaskSelection
import C2Lab.Dashboard.Text

/-! What the two graphs of the dashboard are made of: entities, and relations between them. -/

namespace C2Lab

def maxGraphNodes : ℕ := 20

/-- `OPERATION_PLAYBOOKS`, the members of `GRAPH_PLAYBOOK_IDS`. -/
def operationPlaybooks : List String :=
  ["DISCOVERY_FIXTURES", "COLLECT_AND_STAGE", "CREATE_CANARY", "CLEANUP"]

/-- `GRAPH_TECHNIQUE_IDS`. -/
def graphTechniqueIds : List String := ["T1083", "T1005", "T1074.001", "T1070.004"]

/-- `GRAPH_STATUSES`. -/
def graphStatuses : List String :=
  ["online", "offline", "active", "paused", "queued", "dispatched", "completed", "failed",
    "timeout", "cancelled", "expired", "running", "pending", "detected", "contained", "open",
    "planned", "observed", "unknown"]

/-- `ids.has(value)` for a set of literals: the string, when it is one of them. -/
def knownId (ids : List String) (value : JsValue) : Option JsString :=
  value.asString.filter (· ∈ ids.map JsString.ofString)

theorem of_knownId {ids : List String} {value : JsValue} {id : JsString}
    (h : knownId ids value = some id) : value = .string id ∧ id ∈ ids.map JsString.ofString := by
  obtain ⟨hvalue, hmem⟩ := Option.filter_eq_some_iff.mp h
  refine ⟨?_, of_decide_eq_true hmem⟩
  cases value <;> cases hvalue
  rfl

/-- The kind of an entity. -/
inductive GraphKind where
  | teamserver
  | node
  | task
  | playbook
  | technique
  | detection
  | containment
  deriving DecidableEq

/-- What selecting an entity offers. -/
inductive GraphAction where
  | node (nodeId : JsValue)
  | task (taskId : JsValue)
  | playbook (playbook : JsString) (nodeId : JsValue)

structure GraphEntity where
  id : JsString
  kind : GraphKind
  label : JsString
  subtitle : JsString
  status : JsString
  layer : ℕ
  details : List (String × JsValue)
  action : Option GraphAction

/-- A relation from `source`, its `from`, to `target`, its `to`. -/
structure GraphRelation where
  id : JsString
  source : JsString
  target : JsString
  label : JsString
  observed : Bool

/-- The two graphs. -/
inductive GraphMode where
  | topology
  | attack
  deriving DecidableEq

structure GraphModel where
  mode : GraphMode
  entities : List GraphEntity
  edges : List GraphRelation
  summary : JsString

section
variable (js : JsRuntime)

/-- `normalizedGraphStatus`, with the fallback every caller passes. -/
def normalizedGraphStatus (value : JsValue) : JsString :=
  let candidate := js.toLowerCase (js.toText (value.or ""))
  if candidate ∈ graphStatuses.map JsString.ofString then candidate else "unknown"

/-- `graphEntity`. -/
def graphEntity (id : JsString) (kind : GraphKind) (label subtitle status : JsValue) (layer : ℕ)
    (details : List (String × JsValue)) (action : Option GraphAction) : GraphEntity :=
  { id := id, kind := kind, label := js.toText (label.or "—")
    subtitle := js.toText (subtitle.or ""), status := normalizedGraphStatus js status
    layer := layer, details := details, action := action }

/-- `graphRelation`. -/
def graphRelation (id source target label : JsString) (observed : Bool) : GraphRelation :=
  { id := id, source := source, target := target, label := label, observed := observed }

/-- `teamserverGraphStatus`. -/
def teamserverGraphStatus (connectionStatus : JsValue) : JsString :=
  (knownId ["online", "offline", "unknown"] connectionStatus).getD "offline"

/-- `recordText`. -/
def recordText (record : JsValue) : List String → JsString
  | [] => .empty
  | key :: keys =>
    match record.get key with
    | .string s => if s.trim ≠ .empty then s.trim else recordText record keys
    | .number (.finite q) => js.toText (.number (.finite q))
    | _ => recordText record keys

/-- What the selection reads of a task. A step that is no number counts as 0; JavaScript would
    coerce it, which can change the order of the tasks of one operation and nothing else. -/
def graphTask (task : JsValue) : GraphTask :=
  { operationId := (task.get "operation_id").asString
    operationStep := (task.get "operation_step").asNumber
    status := (task.get "status").asString }

end

/-! ### Well-formed graphs -/

/-- Every entity has an id of its own, and every relation joins two of them. -/
structure GraphModel.WellFormed (g : GraphModel) : Prop where
  ids : (g.entities.map (·.id)).Nodup
  edges : ∀ e ∈ g.edges, e.source ∈ g.entities.map (·.id) ∧ e.target ∈ g.entities.map (·.id)

end C2Lab
