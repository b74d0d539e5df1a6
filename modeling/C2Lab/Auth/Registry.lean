import Mathlib.Algebra.Order.Floor.Ring
import Mathlib.Data.List.Sort
import Mathlib.Data.Rat.Floor
import C2Lab.Core.State
import C2Lab.Lib.Sha256

/-! The operator sessions of `auth.py`.

    A registry maps session ids to sessions, in the order of registration, and keeps of a token only
    its digest. Times are exact: a float argument is the number its shortest decimal denotes, and
    sums are not rounded. The ids that `secrets.token_hex(12)` returns to a call are an argument of
    it; a call that found each of them taken has not returned yet. -/

namespace C2Lab

/-- The members of `PERMISSIONS`. -/
inductive Permission where
  | read
  | taskWrite
  | exerciseWrite
  | containmentWrite
  | noteWrite
  | reset
  | operatorAdmin
  deriving DecidableEq, Repr

instance : Vocabulary Permission where
  all := [.read, .taskWrite, .exerciseWrite, .containmentWrite, .noteWrite, .reset, .operatorAdmin]
  name
    | .read => "read"
    | .taskWrite => "task_write"
    | .exerciseWrite => "exercise_write"
    | .containmentWrite => "containment_write"
    | .noteWrite => "note_write"
    | .reset => "reset"
    | .operatorAdmin => "operator_admin"
  mem_all a := by cases a <;> simp
  name_inj a b h := by cases a <;> cases b <;> simp_all

/-- The members of `ROLES`. -/
inductive Role where
  | admin
  | operator
  | viewer
  deriving DecidableEq, Repr

instance : Vocabulary Role where
  all := [.admin, .operator, .viewer]
  name
    | .admin => "admin"
    | .operator => "operator"
    | .viewer => "viewer"
  mem_all a := by cases a <;> simp
  name_inj a b h := by cases a <;> cases b <;> simp_all

/-- `ROLE_PERMISSIONS[role]`. -/
def rolePermissions : Role → List Permission
  | .admin =>
    [.read, .taskWrite, .exerciseWrite, .containmentWrite, .noteWrite, .reset, .operatorAdmin]
  | .operator => [.read, .taskWrite, .exerciseWrite, .noteWrite]
  | .viewer => [.read]

def defaultSessionTtlSeconds : ℤ := 8 * 60 * 60
def maxSessionTtlSeconds : ℚ := 30 * 24 * 60 * 60
def maxOperatorSessions : ℕ := 64
def minTokenLength : ℕ := 24
def maxTokenLength : ℕ := 512
def minPrincipalIdLength : ℕ := 3
def maxPrincipalIdLength : ℕ := 48

/-- `auth.AuthError`. -/
structure AuthError where
  message : String
  code : String := "invalid_request"
  status : ℕ := 400
  deriving DecidableEq

/-- How a call can end without a reply: the program's error, the `OverflowError` that
    `math.isfinite` raises on an integer above every float, or not yet, still looking for a free
    id. -/
inductive AuthExc where
  | auth (e : AuthError)
  | overflow
  | pending
  deriving DecidableEq

/-! ### The validators -/

/-- A digit or lowercase letter, or one of the two separators. -/
def isPrincipalBody (c : ℕ) : Bool :=
  (0x61 ≤ c && c ≤ 0x7A) || (0x30 ≤ c && c ≤ 0x39) || c == 0x5F || c == 0x2D

/-- One of `_` and `-`. -/
def isPrincipalSeparator (c : ℕ) : Bool := c == 0x5F || c == 0x2D

/-- `_validate_principal_id` accepts the code points. -/
def isPrincipalId (codes : List ℕ) : Bool :=
  minPrincipalIdLength ≤ codes.length && codes.length ≤ maxPrincipalIdLength &&
    codes.head?.all (fun c => 0x61 ≤ c && c ≤ 0x7A) &&
    codes.getLast?.all (fun c => !isPrincipalSeparator c) &&
    codes.all isPrincipalBody &&
    (codes.zip codes.tail).all fun p => !(isPrincipalSeparator p.1 && isPrincipalSeparator p.2)

/-- `_validate_principal_id`. -/
def validatePrincipalId : Json → Except AuthExc PyStr
  | .str s =>
    if isPrincipalId s.codes then .ok s
    else .error (.auth { message := principalIdMessage })
  | _ => .error (.auth { message := principalIdMessage })
where
  principalIdMessage : String :=
    "principal_id must be a canonical lowercase identifier containing 3 to 48 characters"

/-- `_validate_role`. -/
def validateRole (value : Json) : Except AuthExc Role :=
  match Vocabulary.parse value with
  | some r => .ok r
  | none => .error (.auth { message := "role must be admin, operator, or viewer" })

/-- `_token_is_valid`. -/
def tokenIsValid : Json → Bool
  | .str s =>
    minTokenLength ≤ s.len && s.len ≤ maxTokenLength && s.codes.all fun c => 33 ≤ c && c ≤ 126
  | _ => false

/-- `_validate_token`. -/
def validateToken : Json → Except AuthExc PyStr
  | .str s =>
    if tokenIsValid (.str s) then .ok s else .error (.auth { message := tokenMessage })
  | _ => .error (.auth { message := tokenMessage })
where
  tokenMessage : String := "token must be a printable ASCII secret containing 24 to 512 characters"

/-- The prefix of every session id. -/
def sessionPrefix : String := "op-session-"

/-- A lowercase hexadecimal digit. -/
def isHexCharacter (c : ℕ) : Bool := (0x30 ≤ c && c ≤ 0x39) || (0x61 ≤ c && c ≤ 0x66)

/-- `_validate_session_id`. -/
def validateSessionId (value : Json) (field : String) : Except AuthExc PyStr :=
  let invalid : AuthExc := .auth { message := field ++ " is invalid" }
  match value with
  | .str s =>
    let pre := sessionPrefix.toList.map Char.toNat
    if pre.isPrefixOf s.codes ∧ s.len = pre.length + 24 ∧
        (s.codes.drop pre.length).all isHexCharacter then .ok s
    else .error invalid
  | _ => .error invalid

/-- The number a finite float denotes. -/
def Decimal.toRat (d : Decimal) : ℚ :=
  (if d.neg then -1 else 1) * d.mantissa * 10 ^ d.exponent

/-- The least integer that no longer converts to a float. -/
def floatLimit : ℤ := 2 ^ 1024 - 2 ^ 970

/-- The value of a finite `int` or `float` that is not a `bool`, as `math.isfinite` finds it. -/
def finiteNumber : Json → Except AuthExc (Option ℚ)
  | .int n => if |n| < floatLimit then .ok (some n) else .error .overflow
  | .float (.finite d) => .ok (some d.toRat)
  | _ => .ok none

/-- `_validate_ttl`. -/
def validateTtl (value : Json) : Except AuthExc ℚ := do
  match ← finiteNumber value with
  | some ttl => if 0 < ttl ∧ ttl ≤ maxSessionTtlSeconds then return ttl else .error ttlError
  | none => .error ttlError
where
  ttlError : AuthExc :=
    .auth { message := "ttl_seconds must be greater than zero and at most 2592000" }

/-- The instant a call is given, or else what `time.monotonic()` reads. -/
def givenInstant (clock : Instant) : Json → Except AuthExc (Option Instant)
  | .null => .ok (some clock)
  | value => finiteNumber value

/-- `_resolve_now`. -/
def resolveNow (value : Json) (clock : Instant) : Except AuthExc Instant := do
  match ← givenInstant clock value with
  | some t => if 0 ≤ t then return t else .error nowError
  | none => .error nowError
where
  nowError : AuthExc :=
    .auth { message := "now must be a non-negative finite monotonic timestamp" }

/-- `_token_digest`: a valid token is ASCII, so its bytes are its code points. -/
def tokenDigest (token : PyStr) : List ℕ := Sha256.digest token.codes

/-! ### Sessions -/

/-- A session as the registry holds it. -/
structure OperatorSession where
  id : PyStr
  principalId : PyStr
  role : Role
  tokenDigest : List ℕ
  createdMonotonic : Instant
  expiresMonotonic : Instant
  revokedMonotonic : Option Instant
  deriving DecidableEq

/-- `_is_active_locked`. -/
def OperatorSession.isActiveLocked (s : OperatorSession) (now : Instant) : Bool :=
  s.revokedMonotonic.isNone && now < s.expiresMonotonic

/-- The `status` of a public session. -/
inductive SessionStatus where
  | revoked
  | expired
  | active
  deriving DecidableEq, Repr

/-- What a reply shows of a session. -/
structure PublicSession where
  id : PyStr
  principalId : PyStr
  role : Role
  permissions : List Permission
  createdMonotonic : Instant
  expiresMonotonic : Instant
  expiresInSeconds : ℚ
  revokedMonotonic : Option Instant
  status : SessionStatus
  active : Bool
  deriving DecidableEq

/-- The nearest integer, the even one of two. -/
def roundHalfEven (x : ℚ) : ℤ :=
  let below := ⌊x⌋
  if x - below < 1 / 2 then below
  else if 1 / 2 < x - below then below + 1
  else if below % 2 = 0 then below else below + 1

/-- `sorted(ROLE_PERMISSIONS[role])`. -/
def sortedPermissions (role : Role) : List Permission :=
  (rolePermissions role).insertionSort fun p q => Vocabulary.name p ≤ Vocabulary.name q

/-- The status `_public_locked` reports. -/
def OperatorSession.statusAt (s : OperatorSession) (now : Instant) : SessionStatus :=
  if s.revokedMonotonic.isSome then .revoked
  else if s.expiresMonotonic ≤ now then .expired
  else .active

/-- `_public_locked`. -/
def OperatorSession.publicLocked (s : OperatorSession) (now : Instant) : PublicSession :=
  { id := s.id, principalId := s.principalId, role := s.role
    permissions := sortedPermissions s.role
    createdMonotonic := s.createdMonotonic, expiresMonotonic := s.expiresMonotonic
    expiresInSeconds := roundHalfEven (1000 * max 0 (s.expiresMonotonic - now)) / 1000
    revokedMonotonic := s.revokedMonotonic, status := s.statusAt now
    active := s.statusAt now = .active }

/-! ### The registry -/

/-- The sessions by id, `_sessions`. -/
abbrev Registry := Dict PyStr OperatorSession

/-- A program over the registry. -/
abbrev Auth := EStateM AuthExc Registry

/-- Run a check of `auth.py`. -/
def authCheck {α : Type} : Except AuthExc α → Auth α
  | .ok a => pure a
  | .error e => throw e

/-- What `secrets.token_hex(12)` returns. -/
structure HexToken where
  text : String
  hex : text.length = 24 ∧ text.toList.all fun c => isHexCharacter c.toNat

/-- `_new_session_id_locked`: the first candidate that is free. -/
def newSessionIdLocked (draws : List HexToken) (sessions : Registry) : Except AuthExc PyStr :=
  match (draws.map fun d => PyStr.text (sessionPrefix ++ d.text)).find? (· ∉ sessions.keys) with
  | some id => .ok id
  | none => .error .pending

/-- The checked arguments of `register`. -/
structure Registration where
  principalId : PyStr
  role : Role
  token : PyStr
  ttl : ℚ
  instant : Instant

/-- The checks `register` makes before taking the lock. -/
def validateRegistration (principalId role token ttlSeconds now : Json) (clock : Instant) :
    Except AuthExc Registration := do
  let principalId ← validatePrincipalId principalId
  let role ← validateRole role
  let token ← validateToken token
  let ttl ← validateTtl ttlSeconds
  let instant ← resolveNow now clock
  return { principalId, role, token, ttl, instant }

/-- Make room for one more session, at the cost of the first inactive one. -/
def makeRoomLocked (instant : Instant) : Auth Unit := do
  let sessions ← get
  if maxOperatorSessions ≤ sessions.size then
    match sessions.entries.find? fun p => !p.2.isActiveLocked instant with
    | none => throw (.auth { message := "operator session limit reached", code := "session_limit"
                             status := 429 })
    | some p => modify fun sessions => sessions.erase p.1
  else return

/-- The session a registration creates. -/
def Registration.session (r : Registration) (id : PyStr) : OperatorSession :=
  { id := id, principalId := r.principalId, role := r.role, tokenDigest := tokenDigest r.token
    createdMonotonic := r.instant, expiresMonotonic := r.instant + r.ttl
    revokedMonotonic := none }

/-- `register`. -/
def register (principalId role token ttlSeconds now : Json) (clock : Instant)
    (draws : List HexToken) : Auth PublicSession := do
  let r ← authCheck (validateRegistration principalId role token ttlSeconds now clock)
  let sessions ← get
  Prog.require (¬ ∃ s ∈ sessions.values, s.tokenDigest = tokenDigest r.token)
    (.auth { message := "token is already registered", code := "token_conflict", status := 409 })
  makeRoomLocked r.instant
  let sessions ← get
  let id ← authCheck (newSessionIdLocked draws sessions)
  modify fun sessions => sessions.set id (r.session id)
  return (r.session id).publicLocked r.instant

/-- The last session with this digest, as the loop of `authenticate` leaves it. -/
def matched (digest : List ℕ) (sessions : List OperatorSession) : Option OperatorSession :=
  sessions.foldl (fun m s => if digest = s.tokenDigest then some s else m) none

/-- The permission an authentication asks for. -/
def validatePermission : Option PyStr → Except AuthExc (Option Permission)
  | none => .ok none
  | some p =>
    match Vocabulary.parse (.str p) with
    | some permission => .ok (some permission)
    | none =>
      .error (.auth { message := "permission is not recognized", code := "invalid_permission" })

/-- What `authenticate` answers of the session it found. -/
def OperatorSession.authorized (s : OperatorSession) (permission : Option Permission)
    (instant : Instant) : Option PublicSession :=
  if s.isActiveLocked instant ∧ ∀ p ∈ permission, p ∈ rolePermissions s.role then
    some (s.publicLocked instant)
  else none

/-- `authenticate` over a table of sessions. -/
def authenticateAmong (sessions : List OperatorSession) (token : Json) (permission : Option PyStr)
    (now : Json) (clock : Instant) : Except AuthExc (Option PublicSession) := do
  let permission ← validatePermission permission
  match token with
  | .str t =>
    if tokenIsValid (.str t) then
      let instant ← resolveNow now clock
      return (matched (tokenDigest t) sessions).bind fun s => s.authorized permission instant
    else return none
  | _ => return none

/-- `authenticate`. -/
def authenticate (token : Json) (permission : Option PyStr) (now : Json) (clock : Instant) :
    Auth (Option PublicSession) := do
  let sessions ← get
  authCheck (authenticateAmong sessions.values token permission now clock)

/-- How many administrator sessions are active. -/
def activeAdmins (sessions : Registry) (instant : Instant) : ℕ :=
  sessions.values.countP fun s => s.role = .admin && s.isActiveLocked instant

/-- The session that acts must be active. -/
def requireActor (actorId : PyStr) (instant : Instant) : Auth OperatorSession := do
  let sessions ← get
  match (sessions.get? actorId).filter (·.isActiveLocked instant) with
  | some actor => return actor
  | none => throw (.auth { message := "an active actor session is required", code := "unauthorized"
                           status := 401 })

/-- `revoke` under the lock. -/
def revokeLocked (sessionId actorId : PyStr) (instant : Instant) : Auth PublicSession := do
  let sessions ← get
  match sessions.get? sessionId with
  | none =>
    throw (.auth { message := "session was not found", code := "session_not_found", status := 404 })
  | some target =>
    if target.revokedMonotonic.isSome ∧ actorId = sessionId then
      return target.publicLocked instant
    else do
      let actor ← requireActor actorId instant
      Prog.require (actorId ≠ sessionId → .operatorAdmin ∈ rolePermissions actor.role)
        (.auth { message := "operator_admin permission is required", code := "forbidden"
                 status := 403 })
      if target.revokedMonotonic.isSome then return target.publicLocked instant
      else do
        Prog.require
          (actorId = sessionId → target.role = .admin → 1 < activeAdmins sessions instant)
          (.auth { message := "the last active admin session cannot revoke itself"
                   code := "last_admin_session", status := 409 })
        let revoked := { target with revokedMonotonic := some instant }
        modify fun sessions => sessions.set sessionId revoked
        return revoked.publicLocked instant

/-- The id of the session that revokes. -/
def actingSession (sessionId : PyStr) : Json → Except AuthExc PyStr
  | .null => .ok sessionId
  | actor => validateSessionId actor "actor_session_id"

/-- `revoke`; without an actor the session revokes itself. -/
def revoke (sessionId actorSessionId now : Json) (clock : Instant) : Auth PublicSession := do
  let sessionId ← authCheck (validateSessionId sessionId "session_id")
  let actorId ← authCheck (actingSession sessionId actorSessionId)
  let instant ← authCheck (resolveNow now clock)
  revokeLocked sessionId actorId instant

/-- `list`. -/
def listSessions (now : Json) (clock : Instant) : Auth (List PublicSession) := do
  let instant ← authCheck (resolveNow now clock)
  let sessions ← get
  return sessions.values.map (·.publicLocked instant)

end C2Lab
