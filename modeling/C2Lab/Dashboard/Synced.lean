import C2Lab.Core.Reads
import C2Lab.Dashboard.Catalog

/-! A sync page as the dashboard reads it.

    Of the records it has the fields that the graphs read; how `JSON.parse` reads a number does not
    matter to them and is a parameter. -/

namespace C2Lab

namespace JsString

/-- A string of Python as `JSON.parse` reads it from what `json.dumps` wrote. -/
def ofPy : PyStr → JsString
  | .text s => .ofString s
  | .lone codes _ =>
    ⟨codes.flatMap fun c => if isSurrogate c then [.ofNat c] else unitsOf (Char.ofNat c)⟩

theorem ofString_inj {s t : String} (h : ofString s = ofString t) : s = t := by
  have hpy := congrArg toPy h
  rw [toPy_ofString, toPy_ofString] at hpy
  exact PyStr.text.inj hpy

/-- Only a text of scalar values is read as a text without surrogates. -/
theorem eq_text_of_ofPy {k : PyStr} {s : String}
    (hs : ∀ u ∈ (ofString s).units, isSurrogate u.toNat = false) (h : ofPy k = .ofString s) :
    k = .text s := by
  cases k with
  | text t => exact congrArg PyStr.text (ofString_inj h)
  | lone codes hlone =>
    obtain ⟨c, hc, hsurrogate⟩ := List.any_eq_true.mp hlone
    have hbound : c < 0x10000 := by
      simp only [isSurrogate, Bool.and_eq_true, decide_eq_true_eq] at hsurrogate
      omega
    have hmem : UInt16.ofNat c ∈ (ofPy (.lone codes hlone)).units :=
      List.mem_flatMap.mpr ⟨c, hc, by rw [if_pos hsurrogate]; exact List.mem_singleton_self _⟩
    have hnone := hs _ (h ▸ hmem)
    rw [toNat_ofNat_lt hbound, hsurrogate] at hnone
    cases hnone

end JsString

namespace JsValue

instance : Coe PyStr JsValue := ⟨fun s => .string (.ofPy s)⟩

/-- An object literal. -/
def record (fields : List (String × JsValue)) : JsValue :=
  .object (fields.map fun field => (.ofString field.1, field.2))

/-- `None` is read as `null`. -/
def ofOption : Option JsValue → JsValue
  | none => .null
  | some value => value

@[simp] theorem get_record_cons_self (name : String) (value : JsValue)
    (fields : List (String × JsValue)) : (record ((name, value) :: fields)).get name = value := by
  simp [record, get]

@[simp] theorem get_record_cons_ne {name key : String} (h : key ≠ name) (value : JsValue)
    (fields : List (String × JsValue)) :
    (record ((key, value) :: fields)).get name = (record fields).get name := by
  have hkey : ¬JsString.ofString key = .ofString name := fun he => h (JsString.ofString_inj he)
  simp [record, get, hkey]

end JsValue

section
variable (number : Json → JsNumber)

namespace Json

mutual

/-- `JSON.parse` of what `json.dumps` wrote; of two entries with one key the later one counts. -/
def toJs : Json → JsValue
  | .null => .null
  | .bool b => .bool b
  | .int n => .number (number (.int n))
  | .float x => .number (number (.float x))
  | .str s => .string (.ofPy s)
  | .arr xs => .array (toJsList xs)
  | .obj fields => .object (toJsFields fields).reverse
def toJsList : List Json → List JsValue
  | [] => []
  | x :: xs => toJs x :: toJsList xs
def toJsFields : List (PyStr × Json) → List (JsString × JsValue)
  | [] => []
  | (key, x) :: fields => (.ofPy key, toJs x) :: toJsFields fields

end

theorem toJsList_eq_map (xs : List Json) : toJsList number xs = xs.map (toJs number) := by
  induction xs with
  | nil => rfl
  | cons x xs ih => rw [toJsList, ih, List.map_cons]

theorem toJsFields_eq_map (fields : List (PyStr × Json)) : toJsFields number fields =
    fields.map fun field => (.ofPy field.1, toJs number field.2) := by
  induction fields with
  | nil => rfl
  | cons field fields ih => rw [toJsFields, ih, List.map_cons]

/-- A plain key is found in the dashboard where it is found in the `dict`. -/
theorem get_toJs {fields : List (PyStr × Json)} (hn : (fields.map Prod.fst).Nodup) {name : String}
    (hname : ∀ u ∈ (JsString.ofString name).units, isSurrogate u.toNat = false) {v : Json}
    (h : lookup fields name = some v) : (toJs number (.obj fields)).get name = toJs number v := by
  have hkey : ∀ field ∈ fields, JsString.ofPy field.1 = .ofString name → field.2 = v := by
    intro field hfield he
    have hlookup := lookup_of_mem hn hfield
    rw [JsString.eq_text_of_ofPy hname he, h] at hlookup
    exact (Option.some.inj hlookup).symm
  rw [toJs, JsValue.get, toJsFields_eq_map]
  cases hfind : List.find? _ _ with
  | none =>
    have hnone := List.find?_eq_none.mp hfind (.ofString name, toJs number v)
      (List.mem_reverse.mpr (List.mem_map.mpr ⟨(.text name, v), lookup_mem h, rfl⟩))
    exact absurd (decide_eq_true rfl) hnone
  | some found =>
    have hfound := List.find?_some hfind
    obtain ⟨field, hfield, rfl⟩ :=
      List.mem_map.mp (List.mem_reverse.mp (List.mem_of_find?_eq_some hfind))
    rw [Option.map_some, Option.getD_some, hkey field hfield (of_decide_eq_true hfound)]

end Json

/-! ### Nodes and tasks -/

def PublicNode.toJs (n : PublicNode) : JsValue :=
  .record [("id", n.id), ("name", n.name), ("status", n.status.name),
    ("session_active", .bool n.sessionActive), ("profile", Vocabulary.name n.profile),
    ("capabilities", .array (n.capabilities.map fun t => (Vocabulary.name t : JsValue))),
    ("poll_interval_ms", .number (number (.int n.pollIntervalMs))),
    ("jitter_percent", .number (number (.int n.jitterPercent))),
    ("tasking_paused", .bool n.taskingPaused)]

def PublicTask.toJs (t : PublicTask) : JsValue :=
  .record [("id", t.id), ("correlation_id", t.correlationId), ("node_id", t.nodeId),
    ("type", Vocabulary.name t.command.taskType), ("payload", t.command.payload.toJs number),
    ("created_by", t.createdBy), ("status", Vocabulary.name t.status),
    ("result", .ofOption (t.result.map (Json.toJs number))),
    ("delivery_attempts", .number (number (.int t.deliveryAttempts))),
    ("operation_id", .ofOption (t.operation.map fun o => .string (.ofPy o.1))),
    ("operation_step", .ofOption (t.operation.map fun o => .number (number (.int o.2))))]

end

/-! ### Exercises -/

/-- The kind of a timeline entry as the source spells it. -/
def TimelineKind.name : TimelineKind → String
  | exerciseStarted => "exercise.started"
  | task s => "task." ++ Vocabulary.name s
  | techniqueObserved => "technique.observed"
  | detectionMatched => "detection.matched"
  | exercise s => "exercise." ++ s.name
  | containmentApplied => "containment.applied"

def Alert.toJs (a : Alert) : JsValue :=
  .record [("id", a.id), ("rule_id", a.rule.id), ("source_id", a.rule.sourceId),
    ("name", a.rule.name), ("technique_id", a.rule.techniqueId), ("severity", a.rule.severity),
    ("signal", a.rule.signal), ("status", if a.isOpen then "open" else "contained"),
    ("task_id", a.taskId)]

def TimelineItem.toJs (i : TimelineItem) : JsValue :=
  .record [("kind", i.kind.name), ("summary", i.summary),
    ("task_id", .ofOption (i.taskId.map fun id => .string (.ofPy id))),
    ("rule_id", .ofOption (i.ruleId.map fun id => .string (.ofString id))),
    ("technique_id", .ofOption (i.techniqueId.map fun id => .string (.ofString id)))]

/-- `exercise["containment"]`. -/
def containmentToJs : Option Containment → JsValue
  | none => .record [("status", "not_started"), ("action", .null), ("actor", .null)]
  | some x => .record [("status", "applied"), ("action", Vocabulary.name x.action),
      ("actor", x.actor)]

def PublicExercise.toJs (e : PublicExercise) : JsValue :=
  .record [("id", e.id), ("scenario_id", Vocabulary.name e.scenarioId), ("status", e.status.name),
    ("node_id", e.nodeId), ("created_by", e.createdBy),
    ("task_ids", .array (e.taskIds.map fun id => .string (.ofPy id))),
    ("alerts", .array (e.alerts.map Alert.toJs)),
    ("timeline", .array (e.timeline.map fun entry => entry.item.toJs)),
    ("containment", containmentToJs e.containment)]

/-! ### The catalog -/

def Technique.toJs (t : Technique) : JsValue :=
  .record [("id", t.id), ("name", t.name), ("url", t.url)]

def DetectionRule.toJs (r : DetectionRule) : JsValue :=
  .record [("id", r.id), ("source_id", r.sourceId), ("name", r.name),
    ("playbook", Vocabulary.name r.playbook), ("technique_id", r.techniqueId),
    ("signal", r.signal), ("severity", r.severity)]

/-- `_SCOPE`. -/
def scopeToJs : JsValue :=
  .record [("workspace", "ephemeral-node-private"), ("data", "synthetic-fixtures-only"),
    ("host_access", .bool false), ("network_access", .bool false),
    ("command_execution", .bool false), ("attack_mapping", "educational-only")]

def scenarioToJs (entry : ScenarioId × ScenarioDefinition) : JsValue :=
  .record [("id", Vocabulary.name entry.1), ("title", entry.2.title),
    ("description", entry.2.description), ("scope", scopeToJs),
    ("playbooks", .array (entry.2.playbooks.map fun p => (Vocabulary.name p : JsValue))),
    ("techniques", .array (entry.2.techniques.map Technique.toJs)),
    ("detections", .array (entry.2.detections.map DetectionRule.toJs)),
    ("containment_actions", .array ((Vocabulary.all : List ContainmentAction).map
      fun a => (Vocabulary.name a : JsValue)))]

/-- `page.scenario_catalog`. -/
def catalogToJs (catalog : List (ScenarioId × ScenarioDefinition)) : JsValue :=
  .array (catalog.map scenarioToJs)

end C2Lab
