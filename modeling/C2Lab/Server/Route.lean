import Mathlib.Data.List.SplitBy
import C2Lab.Python.Vocabulary

/-! The paths of the HTTP API, and the labels `observability.py` counts them under.

    A path is matched in three ways: against whole paths, against a prefix, and by the segments it
    has once the slashes at both ends are gone. -/

namespace C2Lab

/-- `"/"`. -/
def slash : ℕ := 0x2F

/-- `path.strip("/").split("/")`. -/
def segments (path : PyStr) : List PyStr :=
  ((stripList (· == slash) path.codes).splitOn slash).map .ofCodes

/-- `path.startswith(prefix)`. -/
def startsWith (path : PyStr) (start : String) : Bool :=
  (start.toList.map Char.toNat).isPrefixOf path.codes

/-- The segments are three with a resource between a collection and an action. -/
def isAction (collection action : String) (parts : List PyStr) : Bool :=
  parts.length == 4 && parts.take 2 == [PyStr.text "lab", PyStr.text collection] &&
    parts[3]? == some (PyStr.text action)

/-- `is_cancel`. -/
def isCancel (parts : List PyStr) : Bool := isAction "tasks" "cancel" parts

/-- `is_revoke`. -/
def isRevoke (parts : List PyStr) : Bool := isAction "operators" "revoke" parts

/-- `is_contain`. -/
def isContain (parts : List PyStr) : Bool := isAction "exercises" "contain" parts

/-- The segments of the route a Node submits a result to. -/
def isResult (parts : List PyStr) : Bool :=
  parts.length == 5 &&
    parts.take 3 == [PyStr.text "node", PyStr.text "v1", PyStr.text "tasks"] &&
    parts[4]? == some (PyStr.text "result")

/-- `_EXACT_ROUTES`. -/
def exactRoutes : List PyStr :=
  ["/", "/index.html", "/static/app.js", "/static/styles.css", "/healthz", "/readyz",
    "/lab/session", "/lab/sync", "/lab/overview", "/lab/nodes", "/lab/tasks", "/lab/operations",
    "/lab/scenarios", "/lab/exercises", "/lab/notes", "/lab/events", "/lab/audit", "/lab/report",
    "/lab/metrics", "/lab/operators", "/lab/reset", "/node/v1/enroll", "/node/v1/poll",
    "/node/v1/disconnect"]

/-- `normalized_route`. -/
def normalizedRoute (path : PyStr) : PyStr :=
  if path ∈ exactRoutes then path
  else
    let parts := segments path
    if isResult parts then "/node/v1/tasks/:task_id/result"
    else if isCancel parts then "/lab/tasks/:task_id/cancel"
    else if isRevoke parts then "/lab/operators/:session_id/revoke"
    else if isContain parts then "/lab/exercises/:exercise_id/contain"
    else "unmatched"

end C2Lab
