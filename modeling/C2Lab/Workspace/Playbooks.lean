import C2Lab.Node.Executor
import C2Lab.Workspace.Files

/-! The playbooks of the Node's workspace, the upper half of `EphemeralLabWorkspace`. -/

namespace C2Lab.LabRuntime

open Json (dict)

/-! ### The text of the manifest -/

/-- A UTF-16 unit as `\uXXXX`. -/
def unicodeEscape (unit : ℕ) : List ℕ :=
  [0x5C, 0x75] ++ [unit / 4096, unit / 256, unit / 16, unit].map fun n =>
    (Sha256.hexDigit (n % 16)).toNat

/-- One code point in a JSON string, with `ensure_ascii`. -/
def escapeCode (c : ℕ) : List ℕ :=
  if c = 0x22 then [0x5C, 0x22]
  else if c = 0x5C then [0x5C, 0x5C]
  else if c = 0x0A then [0x5C, 0x6E]
  else if c = 0x0D then [0x5C, 0x72]
  else if c = 0x09 then [0x5C, 0x74]
  else if c = 0x08 then [0x5C, 0x62]
  else if c = 0x0C then [0x5C, 0x66]
  else if 0x20 ≤ c ∧ c ≤ 0x7E then [c]
  else if c ≤ 0xFFFF then unicodeEscape c
  else
    unicodeEscape (0xD800 + (c - 0x10000) / 0x400) ++
      unicodeEscape (0xDC00 + (c - 0x10000) % 0x400)

/-- A JSON string. -/
def quote (s : PyStr) : List ℕ := [0x22] ++ s.codes.flatMap escapeCode ++ [0x22]

mutual
/-- `json.dumps(value, ensure_ascii=True, separators=(",", ":"))` in ASCII, for a value without
    floats. -/
def asciiText : Json → Option (List ℕ)
  | .null => some (asciiBytes "null")
  | .bool b => some (asciiBytes (if b then "true" else "false"))
  | .int n => some (asciiBytes (toString n))
  | .float _ => none
  | .str s => some (quote s)
  | .arr xs => do
    let texts ← asciiTexts xs
    return [0x5B] ++ [0x2C].intercalate texts ++ [0x5D]
  | .obj fields => do
    let texts ← asciiFields fields
    return [0x7B] ++ [0x2C].intercalate texts ++ [0x7D]
/-- The texts of the items of a list. -/
def asciiTexts : List Json → Option (List (List ℕ))
  | [] => some []
  | x :: xs => do
    let text ← asciiText x
    let texts ← asciiTexts xs
    return text :: texts
/-- The texts of the fields of an object. -/
def asciiFields : List (PyStr × Json) → Option (List (List ℕ))
  | [] => some []
  | (k, x) :: xs => do
    let text ← asciiText x
    let texts ← asciiFields xs
    return (quote k ++ [0x3A] ++ text) :: texts
end

/-- What the manifest says of one fixture. -/
def manifestItem (f : Fixture) : Json :=
  dict [("artifact", .str f.artifact), ("bytes", .int f.contents.length),
    ("sha256", .str (String.ofList (Sha256.hexdigest f.contents)))]

/-- The manifest of some artifacts. -/
def manifestJson (read : List Fixture) : Json :=
  dict [("synthetic", .bool true), ("entries", .arr (read.map manifestItem))]

/-! ### The playbooks -/

/-- The prefix and suffix of the file of a fixture. -/
def fixtureAffixes : List (String × String) :=
  [("fixture-accounts-", ".json"), ("fixture-planning-", ".txt"), ("fixture-telemetry-", ".csv")]

section
variable (host : Host)

/-- The fixtures as they are read from the workspace. -/
def readFixtures : List Fixture → Work (List Fixture)
  | [] => return []
  | f :: rest => do
    let contents ← readArtifact host f.artifact
    let read ← readFixtures rest
    return { f with contents := contents } :: read

/-- `_discover_fixtures`. -/
def discoverFixtures : Work (List Json) := do
  let read ← readFixtures host fixtureDefinitions
  return read.map fun f => dict (discoveryEntry f)

/-- `_collect_and_stage`. -/
def collectAndStage : Work (List Json) := do
  let _ ← removeArtifact host manifestArtifact
  let read ← readFixtures host fixtureDefinitions
  match asciiText (manifestJson read) with
  | none => throw (.raised (.py .typeError))
  | some manifest => do
    createMember host manifestArtifact "stage-manifest-" ".json" manifest
    return (read.map collectionEntry ++ [written read.length]).map dict
where
  written (entries : ℕ) : List (String × Json) :=
    [("artifact", .str manifestArtifact), ("observation", .str "manifest-written"),
      ("entries", .int entries)]

/-- `_create_canary`. -/
def createCanary : Work (List Json) := do
  let ws ← get
  if canaryArtifact ∈ ws.artifacts.keys then do
    let _ ← readArtifact host canaryArtifact
    return [markerFound "canary-already-present"]
  else do
    createMember host canaryArtifact "marker-canary-" ".json" canaryBytes
    return [markerFound "canary-created"]
where
  markerFound (observation : String) : Json :=
    dict [("artifact", .str canaryArtifact), ("observation", .str observation),
      ("bytes", .int canaryBytes.length)]

/-- `_cleanup_artifacts`. -/
def cleanupArtifacts : Work (List Json) := do
  let manifest ← removeArtifact host manifestArtifact
  let canary ← removeArtifact host canaryArtifact
  return [removal manifestArtifact manifest, removal canaryArtifact canary]
where
  removal (artifact : String) (removed : Bool) : Json :=
    dict [("artifact", .str artifact),
      ("observation", .str (if removed then "artifact-removed" else "artifact-absent"))]

/-- The evidence of a playbook. -/
def collectEvidence : Playbook → Work (List Json)
  | .discoveryFixtures => discoverFixtures host
  | .collectAndStage => collectAndStage host
  | .createCanary => createCanary host
  | .cleanup => cleanupArtifacts host

/-- `EphemeralLabWorkspace.execute`; `depth` bounds the recursion of the encoder. -/
def executePlaybook (depth : ℕ) (playbookName : Json) : Work Json :=
  match (Vocabulary.parse playbookName : Option Playbook) with
  | none => throw (.raised (.labRuntime "unsupported lab playbook" "unknown_playbook"))
  | some p => do
    requireOpen
    assertWorkspace host
    let evidence ← collectEvidence host p
    assertWorkspace host
    match LabRuntime.execute depth p (.ok evidence) with
    | .ok result => return result
    | .error e => throw (.raised e)

/-- Create the fixtures, each with the affixes of its file. -/
def createFixtures : List (Fixture × String × String) → Work Unit
  | [] => return
  | (f, pre, suffix) :: rest => do
    createMember host f.artifact pre suffix f.contents
    createFixtures rest

end

/-- A workspace whose temporary directory was just made. -/
def Workspace.blank : Workspace :=
  { closed := false, artifacts := .empty, handles := .empty
    root := { isLink := false, isDirectory := true, moved := false }
    entries := .empty, files := .empty, created := 0, calls := 0 }

/-- `close`: the handles are closed and the directory goes. -/
def closeWorkspace : Work Unit :=
  modify fun ws =>
    if ws.closed then ws
    else
      { ws with
        closed := true, artifacts := .empty, handles := .empty, entries := .empty
        files := ws.handles.values.foldl (fun files handle =>
          match files.get? handle with
          | some f => files.set handle { f with closed := true }
          | none => files) ws.files
        root := { ws.root with isDirectory := false } }

/-- `EphemeralLabWorkspace()`. -/
def openWorkspace (host : Host) : Work Unit :=
  tryCatch (do
    createFixtures host (fixtureDefinitions.zip fixtureAffixes)
    assertWorkspace host) fun e => do
      closeWorkspace
      throw e

end C2Lab.LabRuntime
