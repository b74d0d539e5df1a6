import C2Lab.Auth.Registry
import C2Lab.Core.Run
import C2Lab.Server.Route

/-! `do_POST` of `server.py`, up to the call it makes on the shared state.

    Handlers run in threads of their own, so that what one of them sees may differ each time it
    looks: `Shared` gives the state and the clock at the `n`-th look. A handler keeps a log of what
    it did, in order: the credentials that were accepted and the body it read. It ends in a refusal
    or in one call, whose result it sends. -/

namespace C2Lab

/-- `int(text)` for a header: Latin-1 has no decimal digits but the ASCII ones. -/
def pyInt (text : PyStr) : Option ℤ :=
  let codes := stripList isspace text.codes
  let (sign, digits) : ℤ × List ℕ := match codes with
    | 0x2D :: rest => (-1, rest)
    | 0x2B :: rest => (1, rest)
    | codes => (1, codes)
  let groups := digits.splitOn 0x5F
  if (groups.all fun g => !g.isEmpty && g.all fun c => 0x30 ≤ c && c ≤ 0x39) ∧
      groups.flatten.length ≤ maxStrDigits then
    some (sign * (groups.flatten.foldl (fun n c => 10 * n + (c - 0x30)) 0 : ℕ))
  else none

/-- `text.lower()` on the ASCII letters; no other Latin-1 character has an ASCII lower case. -/
def lowerCodes (codes : List ℕ) : List ℕ :=
  codes.map fun c => if 0x41 ≤ c ∧ c ≤ 0x5A then c + 0x20 else c

/-- The code points of a constant. -/
def codesOf (s : String) : List ℕ := s.toList.map Char.toNat

def maxBodyBytes : ℤ := 16 * 1024

/-- A JSON object as `json.loads` returns it. -/
abbrev Body := { fields : List (PyStr × Json) // (Json.obj fields).wf = true }

/-- A request. `path` is missing when the target does not parse; `content n` is what the first `n`
    bytes of the body parse to as UTF-8 JSON. -/
structure Request where
  peerIsLoopback : Bool
  serverPort : ℕ
  headers : String → Option PyStr
  path : Option PyStr
  content : ℕ → Option Document

/-- What a handler sees when it looks at the shared state. -/
structure Shared where
  lab : LabState
  sessions : Registry
  clock : Instant

/-- A call on the shared state. -/
inductive Mutator where
  | lab (op : Op)
  | revoke (sessionId actorSessionId : PyStr)

/-- What a handler did before its call. -/
inductive Contact where
  | enrollment
  | node (nodeId sessionToken : PyStr)
  | operator (permission : Permission) (session : PublicSession)
  | body (fields : Body)

/-- How a handler ends without a call: an error is sent, an exception escapes, or nothing is
    sent. -/
inductive HttpEnd where
  | refused (e : LabError)
  | uncaught (e : PyError)
  | unanswered

/-- A call, and the status its result is sent with. -/
structure Dispatched where
  status : ℕ
  call : Mutator

/-- A handler at work, with its log. -/
abbrev Handling := EStateM HttpEnd (List Contact)

/-- Send an error, or raise one that `do_POST` sends. -/
def refuse {α : Type} (message : String) (code : String) (status : ℕ) : Handling α :=
  throw (.refused { message := message, code := code, status := status })

/-- Put an entry into the log. -/
def note (c : Contact) : Handling Unit := modify (· ++ [c])

section
variable (request : Request) (shared : ℕ → Shared)

/-- What the handler sees now. -/
def look : Handling Shared := do
  let log ← get
  return shared log.length

/-! ### Checks of the request -/

/-- `_request_is_local`. -/
def requireLocal : Handling Unit := do
  let host := lowerCodes (((request.headers "Host").getD "").codes)
  let port := ":" ++ toString request.serverPort
  if request.peerIsLoopback ∧
      host ∈ ["localhost", "127.0.0.1", "localhost" ++ port, "127.0.0.1" ++ port].map codesOf then
    return
  else refuse "this lab accepts localhost requests only" "local_only" 403

/-- `_parse_request_target`. -/
def requestPath : Handling PyStr :=
  match request.path with
  | some path => return path
  | none => refuse "request target is invalid" "invalid_request_target" 400

/-- `_origin_is_local`. -/
def requireOrigin : Handling Unit :=
  match request.headers "Origin" with
  | none => return
  | some origin =>
    let port := ":" ++ toString request.serverPort
    if lowerCodes origin.codes ∈
        ["http://localhost" ++ port, "http://127.0.0.1" ++ port].map codesOf then return
    else refuse "cross-origin requests are disabled" "invalid_origin" 403

/-- What the `Authorization` header carries after the name of a scheme. -/
def supplied (scheme : String) : PyStr :=
  let authorization := (request.headers "Authorization").getD ""
  if startsWith authorization scheme then .ofCodes (authorization.codes.drop scheme.length) else ""

/-- An error of `auth.py` on its way through `do_POST`. -/
def AuthExc.httpEnd : AuthExc → HttpEnd
  | .auth e => .refused { message := e.message, code := e.code, status := e.status }
  | .overflow => .uncaught .valueError
  | .pending => .unanswered

/-- `_authorize_operator`. -/
def authorizeOperator (permission : Permission) : Handling PublicSession := do
  let seen ← look shared
  match authenticate (.str (supplied request "Bearer ")) none .null seen.clock seen.sessions with
  | .error e _ => throw e.httpEnd
  | .ok none _ => refuse "a valid operator session is required" "unauthorized" 401
  | .ok (some session) _ =>
    if permission ∈ session.permissions then do
      note (.operator permission session)
      return session
    else refuse (Vocabulary.name permission ++ " permission is required") "forbidden" 403

/-- `_authorize_enrollment`; `expected` is the digest of the enrollment token. -/
def authorizeEnrollment (expected : List ℕ) : Handling Unit :=
  let token := supplied request "Enroll "
  if token ≠ "" ∧ Sha256.digest (expectedResult.utf8 token) = expected then note .enrollment
  else refuse "a valid enrollment token is required" "unauthorized" 401

/-- `_authorize_node`. -/
def authorizeNode : Handling (PyStr × PyStr) := do
  let nodeId := (request.headers "X-C2Lab-Node").getD ""
  let sessionToken := supplied request "Node "
  let seen ← look shared
  match authenticateNode (.str nodeId) (.str sessionToken) seen.lab with
  | .ok true => do
    note (.node nodeId sessionToken)
    return (nodeId, sessionToken)
  | .ok false => refuse "invalid node session" "invalid_node_session" 401
  | .error (.py e) => throw (.uncaught e)
  | .error (.lab e) => throw (.refused e)
  | .error _ => throw (.uncaught .valueError)

/-- `_read_json_object`. -/
def readJsonObject : Handling Body := do
  match request.headers "Content-Length" with
  | none => refuse "Content-Length is required" "invalid_request" 400
  | some raw =>
    match pyInt raw with
    | none => refuse "invalid Content-Length" "invalid_request" 400
    | some length =>
      if length < 0 ∨ maxBodyBytes < length then
        refuse "request body must be at most 16384 bytes" "invalid_request" 413
      else
        let contentType := ((request.headers "Content-Type").getD "").codes
        if lowerCodes (stripList isspace (contentType.takeWhile (· != 0x3B))) ≠
            codesOf "application/json" then
          refuse "Content-Type must be application/json" "invalid_request" 415
        else
          match request.content length.toNat with
          | some ⟨.obj fields, hwf⟩ => do
            note (.body ⟨fields, hwf⟩)
            return ⟨fields, hwf⟩
          | some _ => refuse "request body must be a JSON object" "invalid_request" 400
          | none => refuse "request body must be valid UTF-8 JSON" "invalid_request" 400

/-- `_read_idempotency_key`. -/
def readIdempotencyKey : Handling Json :=
  match request.headers "Idempotency-Key" with
  | none => return .null
  | some value =>
    if minIdempotencyKeyLength ≤ value.len ∧ value.len ≤ maxIdempotencyKeyLength then
      if value.allChars isKeyChar then return .str value
      else refuse "Idempotency-Key contains unsupported characters" "invalid_request" 400
    else refuse "Idempotency-Key must be 8 to 128 characters" "invalid_request" 400

/-! ### Bodies -/

/-- `sorted(...)` on a set of field names. -/
def sortedNames (names : List PyStr) : List PyStr :=
  names.insertionSort fun a b => a.codes ≤ b.codes

/-- `_require_body_keys`. -/
def requireBodyKeys (body : Body) (required optional : List String) : Handling Unit :=
  let actual := body.1.map Prod.fst
  let missing := (required.map PyStr.text).filter (· ∉ actual)
  let unexpected := actual.filter (· ∉ (required ++ optional).map PyStr.text)
  if missing ≠ [] then
    throw (.refused { message := "missing fields: " ++ PyStr.join ", " (sortedNames missing) })
  else if unexpected ≠ [] then
    throw (.refused
      { message := "unexpected fields: " ++ PyStr.join ", " (sortedNames unexpected) })
  else return

theorem Body.wf_of_lookup {body : Body} {key : PyStr} {v : Json}
    (h : Json.lookup body.1 key = some v) : v.wf = true := by
  obtain ⟨p, hp, rfl⟩ := Option.map_eq_some_iff.mp h
  have hwf := body.2
  rw [Json.wf, Bool.and_eq_true] at hwf
  exact Json.wfFields_iff.mp hwf.2 p (List.mem_of_find?_eq_some hp)

/-- `body.get(key)`. -/
def Body.get? (body : Body) (key : String) : Option Document :=
  match h : Json.lookup body.1 key with
  | some v => some ⟨v, Body.wf_of_lookup h⟩
  | none => none

/-- `body[key]`. -/
def Body.field (body : Body) (key : String) : Handling Document :=
  match body.get? key with
  | some v => return v
  | none => throw (.uncaught .keyError)

/-! ### Routes -/

/-- `POST /node/v1/enroll`. -/
def postEnroll (expected : List ℕ) : Handling Dispatched := do
  authorizeEnrollment request expected
  let body ← readJsonObject request
  requireBodyKeys body ["name", "version", "profile", "capabilities", "poll_interval_ms"]
    ["jitter_percent"]
  let name ← body.field "name"
  let version ← body.field "version"
  let profile ← body.field "profile"
  let capabilities ← body.field "capabilities"
  let interval ← body.field "poll_interval_ms"
  let jitter := ((body.get? "jitter_percent").map Subtype.val).getD (.int 0)
  let seen ← look shared
  return ⟨201, .lab (.enrollNode name.1 version.1 profile.1 capabilities.1 interval.1 jitter
    seen.clock)⟩

/-- The routes of an enrolled Node, `POST /node/v1/...`. -/
def postNode (path : PyStr) : Handling Dispatched := do
  let (nodeId, sessionToken) ← authorizeNode request shared
  let body ← readJsonObject request
  let seen ← look shared
  if path = "/node/v1/poll" then do
    requireBodyKeys body [] []
    return ⟨200, .lab (.pollNode (.str nodeId) (.str sessionToken) seen.clock)⟩
  else if path = "/node/v1/disconnect" then do
    requireBodyKeys body [] []
    return ⟨200, .lab (.disconnectNode (.str nodeId) (.str sessionToken))⟩
  else
    match isResult (segments path), (segments path)[3]? with
    | true, some taskId => do
      requireBodyKeys body ["status", "result"] []
      let status ← body.field "status"
      let result ← body.field "result"
      return ⟨200, .lab (.submitResult (.str nodeId) (.str sessionToken) (.str taskId) status.1
        result seen.clock)⟩
    | _, _ => refuse "route not found" "not_found" 404

/-- The permission `do_POST` asks for. -/
def operatorPermission (path : PyStr) : Permission :=
  let parts := segments path
  if path ∈ [PyStr.text "/lab/tasks", PyStr.text "/lab/operations"] ∨ isCancel parts then .taskWrite
  else if path = "/lab/exercises" then .exerciseWrite
  else if isContain parts then .containmentWrite
  else if path = "/lab/notes" then .noteWrite
  else if path = "/lab/reset" then .reset
  else if isRevoke parts then .operatorAdmin
  else .read

/-- The paths that pass the filter before the body is read. -/
def isOperatorRoute (path : PyStr) : Bool :=
  path ∈ [PyStr.text "/lab/tasks", PyStr.text "/lab/operations", PyStr.text "/lab/exercises",
      PyStr.text "/lab/notes", PyStr.text "/lab/reset"] ||
    isCancel (segments path) || isContain (segments path) || isRevoke (segments path)

/-- The call a route of the operators makes, the session being authorized. -/
def operatorCall (path : PyStr) (session : PublicSession) (body : Body) : Handling Dispatched := do
  let parts := segments path
  let actor : Json := .str session.principalId
  let seen ← look shared
  if path = "/lab/tasks" then do
    requireBodyKeys body ["node_id", "type", "payload"] ["queue_ttl_seconds"]
    let nodeId ← body.field "node_id"
    let type ← body.field "type"
    let payload ← body.field "payload"
    let key ← readIdempotencyKey request
    return ⟨201, .lab (.queueTask nodeId.1 type.1 payload.1
      ((body.get? "queue_ttl_seconds").map Subtype.val) key actor seen.clock)⟩
  else if path = "/lab/operations" then do
    requireBodyKeys body ["node_id", "steps"] ["queue_ttl_seconds"]
    let nodeId ← body.field "node_id"
    let steps ← body.field "steps"
    let key ← readIdempotencyKey request
    return ⟨201, .lab (.queueOperation nodeId.1 steps.1
      ((body.get? "queue_ttl_seconds").map Subtype.val) key actor seen.clock)⟩
  else if path = "/lab/notes" then do
    requireBodyKeys body ["message"] []
    let message ← body.field "message"
    let key ← readIdempotencyKey request
    return ⟨201, .lab (.postOperatorNote message.1 actor key)⟩
  else if path = "/lab/exercises" then do
    requireBodyKeys body ["node_id", "scenario_id"] []
    let nodeId ← body.field "node_id"
    let scenarioId ← body.field "scenario_id"
    let key ← readIdempotencyKey request
    return ⟨201, .lab (.startExercise nodeId.1 scenarioId.1 actor key seen.clock)⟩
  else
    match isCancel parts, parts[2]? with
    | true, some taskId => do
      requireBodyKeys body [] []
      return ⟨200, .lab (.cancelTask (.str taskId) actor)⟩
    | _, _ =>
      if path = "/lab/reset" then do
        requireBodyKeys body [] []
        return ⟨200, .lab (.reset actor)⟩
      else
        match isContain parts, parts[2]? with
        | true, some exerciseId => do
          requireBodyKeys body ["action"] []
          let action ← body.field "action"
          return ⟨200, .lab (.containExercise (.str exerciseId) action.1 actor)⟩
        | _, _ =>
          match isRevoke parts, parts[2]? with
          | true, some sessionId => do
            requireBodyKeys body [] []
            return ⟨200, .revoke sessionId session.id⟩
          | _, _ => throw .unanswered

/-- The routes of the operators. The session is checked again once the body is there. -/
def postOperator (path : PyStr) : Handling Dispatched := do
  requireOrigin request
  let permission := operatorPermission path
  let _ ← authorizeOperator request shared permission
  if isOperatorRoute path then do
    let body ← readJsonObject request
    let session ← authorizeOperator request shared permission
    operatorCall request shared path session body
  else refuse "route not found" "not_found" 404

/-- `do_POST`. -/
def doPost (expected : List ℕ) : Handling Dispatched := do
  requireLocal request
  let path ← requestPath request
  if path = "/node/v1/enroll" then postEnroll request shared expected
  else if startsWith path "/node/v1/" then postNode request shared path
  else postOperator request shared path

end

end C2Lab
