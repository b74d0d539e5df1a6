import C2Lab.Exercises
import C2Lab.Lib.Sha256
import C2Lab.Python.Exc
import C2Lab.StrictJson

/-! The playbook result contract of `lab_runtime.py`. -/

namespace C2Lab.LabRuntime

open Json (dict)

def maxResultBytes : ℕ := 4096

/-- The bytes of an ASCII literal. -/
def asciiBytes (s : String) : List ℕ := s.toList.map Char.toNat

/-- An entry of `FIXTURE_DEFINITIONS`: logical name and contents. -/
structure Fixture where
  artifact : String
  contents : List ℕ

/-- `FIXTURE_DEFINITIONS`. -/
def fixtureDefinitions : List Fixture :=
  [⟨"fixtures/accounts.json", asciiBytes ("\x7b\"synthetic\":true,\"records\":[\x7b\"alias\":" ++
      "\"analyst-a\",\"role\":\"training\"\x7d]\x7d")⟩,
   ⟨"fixtures/planning.txt",
      asciiBytes "Synthetic exercise plan: validate fixture-only collection controls.\n"⟩,
   ⟨"fixtures/telemetry.csv", asciiBytes "event_id,severity,synthetic\nLAB-001,info,true\n"⟩]

def manifestArtifact : String := "staging/manifest.json"

def canaryArtifact : String := "markers/canary.json"

/-- `_CANARY_BYTES`. -/
def canaryBytes : List ℕ := asciiBytes "\x7b\"marker\":\"C2LAB-CANARY\",\"synthetic\":true\x7d\n"

/-- `_SCOPE`. -/
def scope : Json :=
  dict [("workspace", .str "ephemeral-node-private"), ("data", .str "synthetic-fixtures-only"),
    ("host_access", .bool false), ("network_access", .bool false)]

/-- One entry of `_TECHNIQUES`: the identity of a technique and how it is emulated. -/
def technique (id emulation : String) : Json :=
  dict ((techniqueIdentity id).map (fun p => (p.1, .str p.2)) ++ [("emulation", .str emulation)])

/-- The identifiers listed by `_TECHNIQUES[playbook]`, each with its emulation. -/
def techniqueTable : Playbook → List (String × String)
  | .discoveryFixtures => [("T1083", "fixture-only")]
  | .collectAndStage => [("T1005", "synthetic-only"), ("T1074.001", "ephemeral-only")]
  | .createCanary => []
  | .cleanup => [("T1070.004", "lab-artifacts-only")]

/-- `_TECHNIQUES[playbook]`. -/
def attackTechniques (p : Playbook) : Json :=
  .arr ((techniqueTable p).map fun t => technique t.1 t.2)

/-- One entry of `_STEPS`. -/
def step (name observation : String) : Json :=
  dict [("name", .str name), ("status", .str "completed"), ("observation", .str observation)]

/-- `_STEPS[playbook]`. -/
def steps : Playbook → Json
  | .discoveryFixtures => .arr [step "enumerate-fixtures" "fixture-registry-enumerated"]
  | .collectAndStage =>
    .arr [step "read-synthetic-fixtures" "synthetic-fixtures-read",
      step "hash-fixture-content" "fixture-digests-computed",
      step "write-staging-manifest" "staging-manifest-created"]
  | .createCanary => .arr [step "create-canary-marker" "canary-marker-ready"]
  | .cleanup => .arr [step "remove-bounded-artifacts" "workspace-artifacts-cleaned"]

/-- `LabRuntimeError("invalid playbook result schema", code="result_schema")`. -/
def schemaError : Exc := .labRuntime "invalid playbook result schema" "result_schema"

/-- `_is_absolute_path_string`: `os.path.isabs` or `ntpath.isabs`, which reads `/` as `\`. -/
def isAbsolutePathString (value : PyStr) : Bool :=
  match value.codes.map (fun c => if c = 47 then 92 else c) with
  | 92 :: _ => true
  | _ :: 58 :: 92 :: _ => true
  | _ => false

mutual
/-- `_contains_absolute_path`. -/
def containsAbsolutePath : Json → Bool
  | .str s => isAbsolutePathString s
  | .arr xs => containsAbsolutePathList xs
  | .obj fields => containsAbsolutePathFields fields
  | _ => false
/-- `any(_contains_absolute_path(item) for item in value)`. -/
def containsAbsolutePathList : List Json → Bool
  | [] => false
  | x :: xs => containsAbsolutePath x || containsAbsolutePathList xs
/-- The same over the keys and values of a `dict`. -/
def containsAbsolutePathFields : List (PyStr × Json) → Bool
  | [] => false
  | (k, x) :: xs =>
      isAbsolutePathString k || containsAbsolutePath x || containsAbsolutePathFields xs
end

/-- `_require_exact_keys`. -/
def requireExactKeys (value : Json) (expected : List String) : Except Exc Unit :=
  match value with
  | .obj fields => ensure (hasExactKeys fields expected) schemaError
  | _ => .error schemaError

/-- An evidence entry that must be one fixed object: exact keys first, then strict equality. -/
def checkEntry (item : Json) (expected : List (String × Json)) : Except Exc Unit := do
  requireExactKeys item (expected.map Prod.fst)
  ensure (sameJsonValue item (dict expected)) schemaError

/-- The evidence of `DISCOVERY_FIXTURES` about one fixture. -/
def discoveryEntry (f : Fixture) : List (String × Json) :=
  [("artifact", .str f.artifact), ("observation", .str "fixture-enumerated"),
    ("bytes", .int f.contents.length)]

/-- The evidence of `COLLECT_AND_STAGE` about one fixture. -/
def collectionEntry (f : Fixture) : List (String × Json) :=
  [("artifact", .str f.artifact), ("observation", .str "content-hashed"),
    ("bytes", .int f.contents.length),
    ("sha256", .str (String.ofList (Sha256.hexdigest f.contents)))]

/-- The last evidence of `COLLECT_AND_STAGE`. -/
def manifestEntry : List (String × Json) :=
  [("artifact", .str manifestArtifact), ("observation", .str "manifest-written"),
    ("entries", .int fixtureDefinitions.length)]

/-- The loop over evidence entries and what each must be, `zip(..., strict=True)`. -/
def checkEntries : List Json → List (List (String × Json)) → Except Exc Unit
  | item :: items, expected :: rest => do
    checkEntry item expected
    checkEntries items rest
  | _, _ => .ok ()

/-- `value not in {...}` for a set of strings: an unhashable value raises `TypeError`. -/
def inSet (value : Json) (set : List PyStr) : Except Exc Bool :=
  match value.inStrSet set with
  | .ok b => .ok b
  | .error e => .error (.py e)

/-- The marker check of `CREATE_CANARY`; `or` stops at the first test that fails. -/
def checkMarker (marker : Json) : Except Exc Unit := do
  requireExactKeys marker ["artifact", "observation", "bytes"]
  let artifact ← item marker "artifact"
  ensure (artifact.eqStr canaryArtifact) schemaError
  let observation ← item marker "observation"
  let known ← inSet observation ["canary-created", "canary-already-present"]
  ensure known schemaError
  let bytes ← item marker "bytes"
  ensure (sameJsonValue bytes (.int canaryBytes.length)) schemaError

/-- The check of one evidence entry of `CLEANUP`. -/
def checkRemoval (entry : Json) (expected : String) : Except Exc Unit := do
  requireExactKeys entry ["artifact", "observation"]
  let artifact ← item entry "artifact"
  ensure (artifact.eqStr expected) schemaError
  let observation ← item entry "observation"
  let known ← inSet observation ["artifact-removed", "artifact-absent"]
  ensure known schemaError

/-- The per-playbook checks of the evidence list. -/
def checkEvidence (playbook : Playbook) (evidence : List Json) : Except Exc Unit :=
  match playbook with
  | .discoveryFixtures => do
    ensure (evidence.length = fixtureDefinitions.length) schemaError
    checkEntries evidence (fixtureDefinitions.map discoveryEntry)
  | .collectAndStage => do
    ensure (evidence.length = fixtureDefinitions.length + 1) schemaError
    checkEntries evidence (fixtureDefinitions.map collectionEntry ++ [manifestEntry])
  | .createCanary =>
    match evidence with
    | [marker] => checkMarker marker
    | _ => .error schemaError
  | .cleanup =>
    match evidence with
    | [first, second] => do
      checkRemoval first manifestArtifact
      checkRemoval second canaryArtifact
    | _ => .error schemaError

/-- The size check at the end: `json.dumps` again, with its `TypeError`s and `ValueError`s
    caught. -/
def checkSize (depth : ℕ) (clean : Json) : Except Exc Unit :=
  match clean.encodedSize depth with
  | .error e => .error (if e.isTypeOrValueError then schemaError else .py e)
  | .ok n => ensure (n ≤ maxResultBytes)
      (.labRuntime "playbook result exceeded its size limit" "result_schema")

/-- `validate_playbook_result` for a known playbook name. -/
def validateKnownPlaybookResult (depth : ℕ) (playbook : Playbook) (result : Json) :
    Except Exc Json := do
  requireExactKeys result ["playbook", "scope", "attack_techniques", "steps", "evidence"]
  let name ← item result "playbook"
  ensure (name.eqStr (Vocabulary.name playbook)) schemaError
  let actualScope ← item result "scope"
  ensure (sameJsonValue actualScope scope) schemaError
  let actualTechniques ← item result "attack_techniques"
  ensure (sameJsonValue actualTechniques (attackTechniques playbook)) schemaError
  let actualSteps ← item result "steps"
  ensure (sameJsonValue actualSteps (steps playbook)) schemaError
  let evidence ← item result "evidence"
  match evidence with
  | .arr items => do
    checkEvidence playbook items
    ensure (containsAbsolutePath result = false) schemaError
    checkSize depth result
    return result
  | _ => .error schemaError

/-- `validate_playbook_result`. -/
def validatePlaybookResult (depth : ℕ) (playbook result : Json) : Except Exc Json :=
  match (Vocabulary.parse playbook : Option Playbook) with
  | none => .error (.labRuntime "unsupported lab playbook" "unknown_playbook")
  | some p => validateKnownPlaybookResult depth p result

end C2Lab.LabRuntime
