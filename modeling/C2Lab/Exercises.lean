import C2Lab.Python.Vocabulary

/-! The fixed exercise catalog, `exercises.py`. -/

namespace C2Lab

/-- `lab_runtime.PLAYBOOK_NAMES`. -/
inductive Playbook where
  | discoveryFixtures
  | collectAndStage
  | createCanary
  | cleanup
  deriving DecidableEq, Repr

instance : Vocabulary Playbook where
  all := [.discoveryFixtures, .collectAndStage, .createCanary, .cleanup]
  name
    | .discoveryFixtures => "DISCOVERY_FIXTURES"
    | .collectAndStage => "COLLECT_AND_STAGE"
    | .createCanary => "CREATE_CANARY"
    | .cleanup => "CLEANUP"
  mem_all a := by cases a <;> simp
  name_inj a b h := by cases a <;> cases b <;> simp_all

/-- `SCENARIO_IDS`. -/
inductive ScenarioId where
  | discoveryCollection
  | canaryRemoval
  deriving DecidableEq, Repr

instance : Vocabulary ScenarioId where
  all := [.discoveryCollection, .canaryRemoval]
  name
    | .discoveryCollection => "DISCOVERY_COLLECTION"
    | .canaryRemoval => "CANARY_REMOVAL"
  mem_all a := by cases a <;> simp
  name_inj a b h := by cases a <;> cases b <;> simp_all

/-- `CONTAINMENT_ACTIONS`. -/
inductive ContainmentAction where
  | cancelRemaining
  | pauseNodeTasking
  deriving DecidableEq, Repr

instance : Vocabulary ContainmentAction where
  all := [.cancelRemaining, .pauseNodeTasking]
  name
    | .cancelRemaining => "CANCEL_REMAINING"
    | .pauseNodeTasking => "PAUSE_NODE_TASKING"
  mem_all a := by cases a <;> simp
  name_inj a b h := by cases a <;> cases b <;> simp_all

def maxExercises : ℕ := 50

def maxExerciseTimeline : ℕ := 16

/-- An entry of `_TECHNIQUE_METADATA`. -/
structure Technique where
  id : String
  name : String
  url : String

/-- `_TECHNIQUE_METADATA`. -/
def techniqueMetadata : List Technique :=
  [⟨"T1083", "File and Directory Discovery", "https://attack.mitre.org/techniques/T1083/"⟩,
   ⟨"T1005", "Data from Local System", "https://attack.mitre.org/techniques/T1005/"⟩,
   ⟨"T1074.001", "Local Data Staging", "https://attack.mitre.org/techniques/T1074/001/"⟩,
   ⟨"T1070.004", "File Deletion", "https://attack.mitre.org/techniques/T1070/004/"⟩]

/-- `_technique` for the catalog's own identifiers. -/
def techniques (ids : List String) : List Technique :=
  techniqueMetadata.filter fun t => t.id ∈ ids

/-- One detection rule of a scenario. -/
structure DetectionRule where
  id : String
  sourceId : String
  name : String
  playbook : Playbook
  techniqueId : String
  signal : String
  severity : String
  deriving DecidableEq

/-- One entry of `_SCENARIOS`. -/
structure ScenarioDefinition where
  title : String
  description : String
  playbooks : List Playbook
  techniques : List Technique
  detections : List DetectionRule

/-- `scenario_definition`. -/
def scenarioDefinition : ScenarioId → ScenarioDefinition
  | .discoveryCollection =>
    { title := "Synthetic discovery and collection"
      description := "Enumerate the fixed fixture registry, read only synthetic fixtures, " ++
        "and create a bounded digest manifest in the private workspace."
      playbooks := [.discoveryFixtures, .collectAndStage]
      techniques := techniques ["T1083", "T1005", "T1074.001"]
      detections :=
        [{ id := "C2LAB-DET-001", sourceId := "DET0370", name := "Synthetic fixture enumeration",
           playbook := .discoveryFixtures, techniqueId := "T1083",
           signal := "fixture-registry-enumerated", severity := "medium" },
         { id := "C2LAB-DET-002", sourceId := "DET0380", name := "Synthetic fixture collection",
           playbook := .collectAndStage, techniqueId := "T1005",
           signal := "synthetic-fixtures-read", severity := "high" },
         { id := "C2LAB-DET-003", sourceId := "DET0261", name := "Synthetic manifest staging",
           playbook := .collectAndStage, techniqueId := "T1074.001",
           signal := "staging-manifest-created", severity := "high" }] }
  | .canaryRemoval =>
    { title := "Synthetic canary removal"
      description := "Create and remove only the fixed canary and bounded staging artifact " ++
        "inside the private workspace."
      playbooks := [.createCanary, .cleanup]
      techniques := techniques ["T1070.004"]
      detections :=
        [{ id := "C2LAB-DET-004", sourceId := "DET0140", name := "Synthetic canary removal",
           playbook := .cleanup, techniqueId := "T1070.004",
           signal := "workspace-artifacts-cleaned", severity := "high" }] }

/-- `detections_for_playbook`. -/
def detectionsForPlaybook (scenario : ScenarioId) (playbook : Playbook) : List DetectionRule :=
  (scenarioDefinition scenario).detections.filter (·.playbook = playbook)

/-- `{technique["id"] for technique in scenario_definition(...)["techniques"]}`. -/
def allowedTechniqueIds (scenario : ScenarioId) : List String :=
  (scenarioDefinition scenario).techniques.map (·.id)

/-- `technique_identity`: the ID/name pair used by playbook results. -/
def techniqueIdentity (id : String) : List (String × String) :=
  match techniqueMetadata.find? (·.id = id) with
  | some t => [("id", t.id), ("name", t.name)]
  | none => []

/-! ### Shape of the catalog -/

/-- The two playbooks of a scenario are different. -/
theorem playbooks_nodup (s : ScenarioId) : (scenarioDefinition s).playbooks.Nodup := by
  cases s <;> decide

theorem playbooks_length (s : ScenarioId) : (scenarioDefinition s).playbooks.length = 2 := by
  cases s <;> rfl

/-- No two rules of a scenario share an identifier. -/
theorem detection_ids_nodup (s : ScenarioId) :
    ((scenarioDefinition s).detections.map (·.id)).Nodup := by
  cases s <;> decide

theorem mem_detectionsForPlaybook {s : ScenarioId} {p : Playbook} {r : DetectionRule} :
    r ∈ detectionsForPlaybook s p ↔ r ∈ (scenarioDefinition s).detections ∧ r.playbook = p := by
  simp [detectionsForPlaybook]

end C2Lab
