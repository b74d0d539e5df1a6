import C2Lab.Dashboard.Graph

/-! The scenario catalog as the dashboard keeps it: `normalizeScenarioCatalog`. -/

namespace C2Lab

structure GraphTechnique where
  id : JsString
  name : JsString
  deriving DecidableEq

structure GraphDetection where
  id : JsString
  sourceId : JsString
  name : JsString
  playbook : JsString
  techniqueId : JsString
  signal : JsString
  severity : JsString
  deriving DecidableEq

/-- A scope; of the three accesses it says which are `false`. -/
structure GraphScope where
  workspace : JsString
  data : JsString
  hostAccess : Bool
  networkAccess : Bool
  commandExecution : Bool
  attackMapping : JsString
  deriving DecidableEq

structure GraphScenario where
  id : JsString
  title : JsString
  description : JsString
  techniques : List GraphTechnique
  playbooks : List JsString
  detections : List GraphDetection
  containmentActions : List JsString
  scope : GraphScope
  deriving DecidableEq

/-- What stands before the first separator, and what after it. -/
def cutUnits (separator : List UInt16) : List UInt16 → List UInt16 × List UInt16
  | [] => ([], [])
  | u :: rest =>
    if separator.isPrefixOf (u :: rest) then ([], (u :: rest).drop separator.length)
    else (u :: (cutUnits separator rest).1, (cutUnits separator rest).2)

/-- `map.set(technique.id, technique)`: a known key keeps its place. -/
def setTechnique (byId : List GraphTechnique) (technique : GraphTechnique) : List GraphTechnique :=
  if byId.any (·.id = technique.id) then
    byId.map fun t => if t.id = technique.id then technique else t
  else byId ++ [technique]

section
variable (js : JsRuntime)

/-- `rawId` and `name` of a technique record. -/
def techniqueRecord (technique : JsValue) : JsString × JsString :=
  match technique with
  | .string s =>
    let (before, after) := cutUnits (JsString.ofString " · ").units s.units
    (JsString.trim ⟨before⟩, JsString.trim ⟨after⟩)
  | technique =>
    (recordText js technique ["id", "technique_id"], recordText js technique ["name", "title"])

/-- `normalizeTechniqueRecords`. -/
def normalizeTechniqueRecords (techniques : JsValue) : List GraphTechnique :=
  techniques.asArray.foldl (fun byId technique =>
    let (rawId, name) := techniqueRecord js technique
    if rawId ∈ graphTechniqueIds.map JsString.ofString then
      setTechnique byId { id := rawId, name := name.or rawId }
    else byId) []

/-- `normalizeScenarioScope`. -/
def normalizeScenarioScope (scope : JsValue) : GraphScope :=
  { workspace := recordText js scope ["workspace"], data := recordText js scope ["data"]
    hostAccess := (scope.get "host_access").isFalse
    networkAccess := (scope.get "network_access").isFalse
    commandExecution := (scope.get "command_execution").isFalse
    attackMapping := recordText js scope ["attack_mapping"] }

/-- `severityAllowlist`. -/
def severityAllowlist : List String := ["info", "low", "medium", "high", "warning"]

/-- The loop of `normalizeScenarioDetections`. -/
def pushDetections (normalized : List GraphDetection) : List JsValue → List GraphDetection
  | [] => normalized
  | detection :: rest =>
    let playbook := recordText js detection ["playbook"]
    let techniqueId := recordText js detection ["technique_id"]
    if playbook ∉ operationPlaybooks.map JsString.ofString ∨
        techniqueId ∉ graphTechniqueIds.map JsString.ofString then
      pushDetections normalized rest
    else
      let severityCandidate := js.toLowerCase (recordText js detection ["severity"])
      let pushed := normalized ++
        [{ id := (recordText js detection ["id"]).or
             (("detection-" : JsString) ++ .ofNat (normalized.length + 1))
           sourceId := recordText js detection ["source_id"]
           name := (recordText js detection ["name"]).or "Synthetic detection"
           playbook := playbook
           techniqueId := techniqueId
           signal := recordText js detection ["signal"]
           severity :=
             if severityCandidate ∈ severityAllowlist.map JsString.ofString then severityCandidate
             else "info" }]
      if 16 ≤ pushed.length then pushed else pushDetections pushed rest

/-- `normalizeScenarioDetections`. -/
def normalizeScenarioDetections (detections : JsValue) : List GraphDetection :=
  pushDetections js [] detections.asArray

/-- The ids of `FIXED_EXERCISE_SCENARIOS`. -/
def exerciseScenarioIds : List String := ["DISCOVERY_COLLECTION", "CANARY_REMOVAL"]

/-- The members of `CONTAINMENT_ACTIONS`. -/
def containmentActionIds : List String := ["CANCEL_REMAINING", "PAUSE_NODE_TASKING"]

/-- What `normalizeScenarioCatalog` keeps of an entry, under its id. -/
def normalizeScenario (id : JsString) (entry : JsValue) : GraphScenario :=
  { id := id
    title := (recordText js entry ["title", "name"]).or id
    description := (recordText js entry ["description", "summary"]).or
      "固定シナリオの検知timelineを観察します。"
    techniques := normalizeTechniqueRecords js
      ((entry.get "techniques").or (entry.get "attack_techniques"))
    playbooks := (JsSet.of
      ((entry.get "playbooks").asArray.filterMap (knownId operationPlaybooks))).take 4
    detections := normalizeScenarioDetections js (entry.get "detections")
    containmentActions :=
      (entry.get "containment_actions").asArray.filterMap (knownId containmentActionIds)
    scope := normalizeScenarioScope js (entry.get "scope") }

/-- A scenario before its entry was synced. -/
def fixedScenario (id : JsString) : GraphScenario :=
  { id := id, title := id, description := "同期カタログ取得後にシナリオ説明を表示します。"
    techniques := [], playbooks := [], detections := [], containmentActions := []
    scope := normalizeScenarioScope js .null }

/-- `normalizeScenarioCatalog`: the last entry with an id counts. -/
def normalizeScenarioCatalog (catalog : JsValue) : List GraphScenario :=
  exerciseScenarioIds.map fun fallback =>
    match catalog.asArray.reverse.find? fun entry =>
      recordText js entry ["id", "scenario_id"] = .ofString fallback with
    | some entry => normalizeScenario js fallback entry
    | none => fixedScenario js fallback

end

/-! ### Techniques by their ids -/

theorem setTechnique_ids (byId : List GraphTechnique) (technique : GraphTechnique) :
    (setTechnique byId technique).map (·.id) = JsSet.add (byId.map (·.id)) technique.id := by
  unfold setTechnique JsSet.add
  by_cases hmem : byId.any (·.id = technique.id) = true
  · have hids : technique.id ∈ byId.map (·.id) := by
      obtain ⟨t, ht, hid⟩ := List.any_eq_true.mp hmem
      exact List.mem_map.mpr ⟨t, ht, of_decide_eq_true hid⟩
    rw [if_pos hmem, if_pos hids, List.map_map]
    refine List.map_congr_left fun t _ => ?_
    rw [Function.comp_apply]
    split
    · rename_i hid
      exact hid.symm
    · rfl
  · have hids : technique.id ∉ byId.map (·.id) := by
      intro hid
      obtain ⟨t, ht, hid⟩ := List.mem_map.mp hid
      exact hmem (List.any_eq_true.mpr ⟨t, ht, decide_eq_true hid⟩)
    rw [if_neg hmem, if_neg hids, List.map_append, List.map_singleton]

/-- A loop that sets the known ones of its records adds their ids. -/
theorem foldl_ids {f : List GraphTechnique → JsValue → List GraphTechnique}
    {id : JsValue → JsString} {known : JsString → Bool}
    (hf : ∀ byId x, (f byId x).map (·.id) =
      if known (id x) then JsSet.add (byId.map (·.id)) (id x) else byId.map (·.id))
    (l : List JsValue) (byId : List GraphTechnique) :
    (l.foldl f byId).map (·.id) =
      ((l.map id).filter known).foldl JsSet.add (byId.map (·.id)) := by
  induction l generalizing byId with
  | nil => rfl
  | cons x l ih =>
    rw [List.foldl_cons, ih, hf, List.map_cons, List.filter_cons]
    split <;> rfl

/-- Normalising keeps the known ids, each once. -/
theorem normalizeTechniqueRecords_ids (js : JsRuntime) (techniques : JsValue) :
    (normalizeTechniqueRecords js techniques).map (·.id) =
      JsSet.of ((techniques.asArray.map fun technique => (techniqueRecord js technique).1).filter
        (· ∈ graphTechniqueIds.map JsString.ofString)) := by
  refine foldl_ids (fun byId technique => ?_) _ []
  cases techniqueRecord js technique with
  | mk rawId name =>
    by_cases hknown : rawId ∈ graphTechniqueIds.map JsString.ofString
    · simp only [if_pos hknown, decide_eq_true hknown, if_true, setTechnique_ids]
    · simp only [if_neg hknown, decide_eq_false hknown, Bool.false_eq_true, if_false]

end C2Lab
