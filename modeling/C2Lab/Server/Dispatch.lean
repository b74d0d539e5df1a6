import C2Lab.Auth.Reference
import C2Lab.Server.Post

/-! The routes of the HTTP API and what `do_POST` does on each.

    The permission chain, the filter, the dispatch chain and the labels classify a path four times
    over. `Matches` is the one classification they all agree with: a call is made only on a path
    that matches its route, with the permission of that route, under its label. -/

namespace C2Lab

/-- The routes that write. -/
inductive Route where
  | enroll
  | poll
  | disconnect
  | result
  | tasks
  | operations
  | notes
  | exercises
  | cancel
  | reset
  | contain
  | revoke
  deriving DecidableEq

namespace Route

/-- The path of a route without a resource. -/
def exactPath : Route → Option String
  | .enroll => some "/node/v1/enroll"
  | .poll => some "/node/v1/poll"
  | .disconnect => some "/node/v1/disconnect"
  | .tasks => some "/lab/tasks"
  | .operations => some "/lab/operations"
  | .notes => some "/lab/notes"
  | .exercises => some "/lab/exercises"
  | .reset => some "/lab/reset"
  | .result | .cancel | .contain | .revoke => none

/-- The label a route is counted under. -/
def label : Route → String
  | .result => "/node/v1/tasks/:task_id/result"
  | .cancel => "/lab/tasks/:task_id/cancel"
  | .contain => "/lab/exercises/:exercise_id/contain"
  | .revoke => "/lab/operators/:session_id/revoke"
  | r => r.exactPath.getD "unmatched"

/-- The permission that guards an operation of the operators. -/
def permission : Route → Option Permission
  | .tasks | .operations | .cancel => some .taskWrite
  | .exercises => some .exerciseWrite
  | .contain => some .containmentWrite
  | .notes => some .noteWrite
  | .reset => some .reset
  | .revoke => some .operatorAdmin
  | .enroll | .poll | .disconnect | .result => none

/-- A route of an enrolled Node. -/
def ofNode : Route → Prop
  | .poll | .disconnect | .result => True
  | _ => False

/-- Where the path names the resource of a route. -/
def segment : Route → Option ℕ
  | .result => some 3
  | .cancel | .contain | .revoke => some 2
  | _ => none

end Route

/-- The path is one of the route's. -/
inductive Matches (path : PyStr) : Route → Prop
  | exact {r : Route} {p : String} (hp : r.exactPath = some p) (h : path = .text p) : Matches path r
  | result (hstart : startsWith path "/node/v1/" = true) (h : isResult (segments path) = true) :
      Matches path .result
  | cancel (h : isCancel (segments path) = true) : Matches path .cancel
  | contain (h : isContain (segments path) = true) : Matches path .contain
  | revoke (h : isRevoke (segments path) = true) : Matches path .revoke

namespace Mutator

/-- The route a call belongs to. -/
def route : Mutator → Option Route
  | .lab (.enrollNode ..) => some .enroll
  | .lab (.pollNode ..) => some .poll
  | .lab (.disconnectNode ..) => some .disconnect
  | .lab (.submitResult ..) => some .result
  | .lab (.queueTask ..) => some .tasks
  | .lab (.queueOperation ..) => some .operations
  | .lab (.postOperatorNote ..) => some .notes
  | .lab (.startExercise ..) => some .exercises
  | .lab (.cancelTask ..) => some .cancel
  | .lab (.reset ..) => some .reset
  | .lab (.containExercise ..) => some .contain
  | .lab (.expire ..) => none
  | .revoke .. => some .revoke

/-- Who a call of an operator is made for: the `actor` of the state's calls, the session id of a
    revocation. -/
def actor : Mutator → Option Json
  | .lab (.queueTask _ _ _ _ _ actor _) | .lab (.queueOperation _ _ _ _ actor _)
  | .lab (.postOperatorNote _ actor _) | .lab (.startExercise _ _ actor _ _)
  | .lab (.cancelTask _ actor) | .lab (.reset actor) | .lab (.containExercise _ _ actor) =>
    some actor
  | .revoke _ actorSessionId => some (.str actorSessionId)
  | _ => none

/-- The Node id and token of a call. -/
def credentials : Mutator → Option (Json × Json)
  | .lab (.pollNode nodeId token _) | .lab (.disconnectNode nodeId token)
  | .lab (.submitResult nodeId token _ _ _ _) => some (nodeId, token)
  | _ => none

/-- The id of what a call is about, where the path names it. -/
def resource : Mutator → Option Json
  | .lab (.submitResult _ _ taskId _ _ _) => some taskId
  | .lab (.cancelTask taskId _) => some taskId
  | .lab (.containExercise exerciseId _ _) => some exerciseId
  | .revoke sessionId _ => some (.str sessionId)
  | _ => none

end Mutator

/-! ### One classification -/

section
variable {path : PyStr} {r : Route}

theorem exactRoutes_short : ∀ p ∈ exactRoutes, (segments p).length ≤ 3 := by decide

theorem isAction_length {collection action : String} {parts : List PyStr}
    (h : isAction collection action parts = true) : parts.length = 4 := by
  simp only [isAction, Bool.and_eq_true, beq_iff_eq] at h
  exact h.1.1

/-- One path has one collection. -/
theorem isAction_collection {c c' a a' : String} {parts : List PyStr}
    (h : isAction c a parts = true) (hc : c ≠ c') : isAction c' a' parts = false := by
  simp only [isAction, Bool.and_eq_true, beq_iff_eq] at h
  by_contra hother
  simp only [isAction, Bool.not_eq_false, Bool.and_eq_true, beq_iff_eq] at hother
  have hsame := h.1.2.symm.trans hother.1.2
  simp only [List.cons.injEq, PyStr.text.injEq] at hsame
  exact hc hsame.2.1

theorem isResult_length {parts : List PyStr} (h : isResult parts = true) : parts.length = 5 := by
  simp only [isResult, Bool.and_eq_true, beq_iff_eq] at h
  exact h.1.1

/-- A path with a resource is none of the exact ones. -/
theorem not_exact (h : 4 ≤ (segments path).length) : path ∉ exactRoutes := by
  intro hmem
  have := exactRoutes_short path hmem
  omega

theorem not_isResult (h : (segments path).length = 4) : isResult (segments path) = false := by
  by_contra hresult
  have := isResult_length (by simpa using hresult)
  omega

/-- The label of a path is the label of its route. -/
theorem Matches.normalizedRoute_eq (h : Matches path r) : normalizedRoute path = r.label := by
  cases h with
  | exact hp h =>
    subst h
    cases r <;> cases hp <;> rfl
  | result _ h =>
    have hlen := isResult_length h
    rw [normalizedRoute, if_neg (not_exact (by omega))]
    simp [h, Route.label]
  | cancel h =>
    have hlen := isAction_length h
    rw [normalizedRoute, if_neg (not_exact (by omega))]
    simp [not_isResult hlen, h, Route.label]
  | contain h =>
    have hlen := isAction_length h
    have hcancel : isCancel (segments path) = false := isAction_collection h (by decide)
    have hrevoke : isRevoke (segments path) = false := isAction_collection h (by decide)
    rw [normalizedRoute, if_neg (not_exact (by omega))]
    simp [not_isResult hlen, hcancel, hrevoke, h, Route.label]
  | revoke h =>
    have hlen := isAction_length h
    have hcancel : isCancel (segments path) = false := isAction_collection h (by decide)
    rw [normalizedRoute, if_neg (not_exact (by omega))]
    simp [not_isResult hlen, hcancel, h, Route.label]

/-- The permission asked for is the one that guards the route. -/
theorem Matches.operatorPermission_eq {p : Permission} (h : Matches path r)
    (hp : r.permission = some p) : operatorPermission path = p := by
  have hexact : ∀ q ∈ exactRoutes, 4 ≤ (segments path).length → path ≠ q :=
    fun q hq hlen he => not_exact hlen (he ▸ hq)
  cases h with
  | exact he h =>
    subst h
    cases r <;> cases he <;> cases hp <;> decide
  | result _ _ => cases hp
  | cancel h => cases hp; simp [operatorPermission, h]
  | contain h =>
    cases hp
    have hlen := isAction_length h
    have hcancel : isCancel (segments path) = false := isAction_collection h (by decide)
    simp [operatorPermission, hcancel, h, hexact "/lab/tasks" (by decide) (by omega),
      hexact "/lab/operations" (by decide) (by omega),
      hexact "/lab/exercises" (by decide) (by omega)]
  | revoke h =>
    cases hp
    have hlen := isAction_length h
    have hcancel : isCancel (segments path) = false := isAction_collection h (by decide)
    have hcontain : isContain (segments path) = false := isAction_collection h (by decide)
    simp [operatorPermission, hcancel, hcontain, h, hexact "/lab/tasks" (by decide) (by omega),
      hexact "/lab/operations" (by decide) (by omega),
      hexact "/lab/exercises" (by decide) (by omega), hexact "/lab/notes" (by decide) (by omega),
      hexact "/lab/reset" (by decide) (by omega)]

end

/-! ### What the steps of a handler leave in its log -/

section
variable {request : Request} {shared : ℕ → Shared} {path : PyStr} {log : List Contact} {body : Body}

/-- A step that writes nothing into the log. -/
def Unlogged {α : Type} (m : Handling α) : Prop :=
  ∀ log, Prog.wp m (fun _ t => t = log) (fun _ _ => True) log

theorem unlogged_look : Unlogged (look shared) := fun _ => rfl

theorem requireLocal_unlogged : Unlogged (requireLocal request) := by
  intro log
  unfold requireLocal
  simp only
  split
  · rfl
  · trivial

theorem requireOrigin_unlogged : Unlogged (requireOrigin request) := by
  intro log
  unfold requireOrigin
  split
  · rfl
  · simp only
    split
    · rfl
    · trivial

theorem requireBodyKeys_unlogged (required optional : List String) :
    Unlogged (requireBodyKeys body required optional) := by
  intro log
  unfold requireBodyKeys
  simp only
  split
  · trivial
  · split
    · trivial
    · rfl

theorem field_unlogged (key : String) : Unlogged (body.field key) := by
  intro log
  unfold Body.field
  split
  · rfl
  · trivial

theorem readIdempotencyKey_unlogged : Unlogged (readIdempotencyKey request) := by
  intro log
  unfold readIdempotencyKey
  split
  · rfl
  · split
    · split
      · rfl
      · trivial
    · trivial

/-- Such a step goes first. -/
theorem Unlogged.bind {α β : Type} {m : Handling α} {f : α → Handling β}
    {Q : β → List Contact → Prop} (h : Unlogged m)
    (hf : ∀ a, Prog.wp (f a) Q (fun _ _ => True) log) :
    Prog.wp (m >>= f) Q (fun _ _ => True) log := by
  refine (Prog.wp_bind _ _).mpr (Prog.wp_imp (h log) ?_)
  rintro a _ rfl
  exact hf a

theorem requestPath_wp :
    Prog.wp (requestPath request) (fun path t => request.path = some path ∧ t = log)
      (fun _ _ => True) log := by
  unfold requestPath
  split
  · rename_i path hpath
    exact ⟨hpath, rfl⟩
  · trivial

/-- The session that was found, at the look the log counts. -/
structure Authorized (request : Request) (seen : Shared) (permission : Permission)
    (session : PublicSession) : Prop where
  authenticated : ∃ t, authenticate (.str (supplied request "Bearer ")) none .null seen.clock
    seen.sessions = .ok (some session) t
  permitted : permission ∈ session.permissions

theorem authorizeOperator_wp (permission : Permission) :
    Prog.wp (authorizeOperator request shared permission)
      (fun session t => t = log ++ [.operator permission session] ∧
        Authorized request (shared log.length) permission session) (fun _ _ => True) log := by
  unfold authorizeOperator look
  simp only [Prog.wp_bind, Prog.wp_get, Prog.wp_pure]
  split
  · trivial
  · trivial
  · rename_i session t hfound
    split
    · rename_i hpermission
      exact ⟨rfl, ⟨t, hfound⟩, hpermission⟩
    · trivial

theorem authorizeNode_wp :
    Prog.wp (authorizeNode request shared)
      (fun p t => t = log ++ [.node p.1 p.2] ∧
        authenticateNode (.str p.1) (.str p.2) (shared log.length).lab = .ok true)
      (fun _ _ => True) log := by
  unfold authorizeNode look
  simp only [Prog.wp_bind, Prog.wp_get, Prog.wp_pure]
  split
  · rename_i hok
    exact ⟨rfl, hok⟩
  all_goals trivial

theorem authorizeEnrollment_wp (expected : List ℕ) :
    Prog.wp (authorizeEnrollment request expected) (fun _ t => t = log ++ [.enrollment])
      (fun _ _ => True) log := by
  unfold authorizeEnrollment
  simp only
  split
  · rfl
  · trivial

theorem readJsonObject_wp :
    Prog.wp (readJsonObject request) (fun body t => t = log ++ [.body body]) (fun _ _ => True)
      log := by
  unfold readJsonObject
  split
  · trivial
  · split
    · trivial
    · split
      · trivial
      · simp only
        split
        · trivial
        · split
          · rfl
          · trivial
          · trivial

/-! ### The calls -/

/-- A call of a route on a path of that route, about the resource the path names. -/
structure Serves (path : PyStr) (r : Route) (call : Mutator) : Prop where
  path_matches : Matches path r
  route : call.route = some r
  resource : ∀ i, r.segment = some i →
    ∃ id, (segments path)[i]? = some id ∧ call.resource = some (.str id)

/-- A call on an exact path. -/
theorem serves_exact {r : Route} {p : String} {call : Mutator} (hp : r.exactPath = some p)
    (hr : call.route = some r) (h : path = .text p) : Serves path r call := by
  refine ⟨.exact hp h, hr, fun i hi => ?_⟩
  cases r <;> cases hi <;> cases hp

/-- The call of an operator: guarded, and made for the session. -/
structure OperatorServes (path : PyStr) (session : PublicSession) (call : Mutator) : Prop where
  served : ∃ r p, Serves path r call ∧ r.permission = some p
  actor : call.actor = some (.str (if call.route = some .revoke then session.id
    else session.principalId))

/-- A call about the resource a path names in its third segment. -/
theorem serves_action {r : Route} {call : Mutator} {id : PyStr} (hmatch : Matches path r)
    (hr : call.route = some r) (hsegment : r.segment = some 2) (hid : (segments path)[2]? = some id)
    (hresource : call.resource = some (.str id)) : Serves path r call := by
  refine ⟨hmatch, hr, fun i hi => ⟨id, ?_, hresource⟩⟩
  rw [hsegment] at hi
  cases hi
  exact hid

theorem operatorCall_wp (session : PublicSession) :
    Prog.wp (operatorCall request shared path session body)
      (fun d t => t = log ∧ OperatorServes path session d.call) (fun _ _ => True) log := by
  unfold operatorCall
  refine unlogged_look.bind fun seen => ?_
  split
  · rename_i hpath
    refine (requireBodyKeys_unlogged _ _).bind fun _ => ?_
    refine (field_unlogged _).bind fun _ => (field_unlogged _).bind fun _ => ?_
    refine (field_unlogged _).bind fun _ => readIdempotencyKey_unlogged.bind fun _ => ?_
    exact ⟨rfl, ⟨.tasks, _, serves_exact rfl rfl hpath, rfl⟩, rfl⟩
  split
  · rename_i hpath
    refine (requireBodyKeys_unlogged _ _).bind fun _ => ?_
    refine (field_unlogged _).bind fun _ => (field_unlogged _).bind fun _ => ?_
    refine readIdempotencyKey_unlogged.bind fun _ => ?_
    exact ⟨rfl, ⟨.operations, _, serves_exact rfl rfl hpath, rfl⟩, rfl⟩
  split
  · rename_i hpath
    refine (requireBodyKeys_unlogged _ _).bind fun _ => (field_unlogged _).bind fun _ => ?_
    refine readIdempotencyKey_unlogged.bind fun _ => ?_
    exact ⟨rfl, ⟨.notes, _, serves_exact rfl rfl hpath, rfl⟩, rfl⟩
  split
  · rename_i hpath
    refine (requireBodyKeys_unlogged _ _).bind fun _ => ?_
    refine (field_unlogged _).bind fun _ => (field_unlogged _).bind fun _ => ?_
    refine readIdempotencyKey_unlogged.bind fun _ => ?_
    exact ⟨rfl, ⟨.exercises, _, serves_exact rfl rfl hpath, rfl⟩, rfl⟩
  split
  · rename_i taskId hcancel hid
    refine (requireBodyKeys_unlogged _ _).bind fun _ => ?_
    exact ⟨rfl, ⟨.cancel, _, serves_action (.cancel hcancel) rfl rfl hid rfl, rfl⟩, rfl⟩
  split
  · rename_i hpath
    refine (requireBodyKeys_unlogged _ _).bind fun _ => ?_
    exact ⟨rfl, ⟨.reset, _, serves_exact rfl rfl hpath, rfl⟩, rfl⟩
  split
  · rename_i exerciseId hcontain hid
    refine (requireBodyKeys_unlogged _ _).bind fun _ => (field_unlogged _).bind fun _ => ?_
    exact ⟨rfl, ⟨.contain, _, serves_action (.contain hcontain) rfl rfl hid rfl, rfl⟩, rfl⟩
  split
  · rename_i sessionId hrevoke hid
    refine (requireBodyKeys_unlogged _ _).bind fun _ => ?_
    exact ⟨rfl, ⟨.revoke, _, serves_action (.revoke hrevoke) rfl rfl hid rfl, rfl⟩, rfl⟩
  · trivial

/-- What a handler guarantees of the call it makes: it serves a route of its path, and the log holds
    what that route asks for. -/
structure Vouched (request : Request) (shared : ℕ → Shared) (path : PyStr) (call : Mutator)
    (log : List Contact) (r : Route) : Prop where
  serves : Serves path r call
  operator : ∀ p, r.permission = some p → ∃ first body session,
    log = [.operator p first, .body body, .operator p session] ∧
    Authorized request (shared 2) p session ∧
    call.actor = some (.str (if r = .revoke then session.id else session.principalId))
  node : r.ofNode → ∃ nodeId sessionToken body,
    log = [.node nodeId sessionToken, .body body] ∧
    authenticateNode (.str nodeId) (.str sessionToken) (shared 0).lab = .ok true ∧
    call.credentials = some (.str nodeId, .str sessionToken)

theorem postOperator_wp :
    Prog.wp (postOperator request shared path)
      (fun d log => ∃ r, Vouched request shared path d.call log r) (fun _ _ => True) [] := by
  unfold postOperator
  refine requireOrigin_unlogged.bind fun _ => ?_
  refine (Prog.wp_bind _ _).mpr (Prog.wp_imp (authorizeOperator_wp _) ?_)
  rintro first _ ⟨rfl, -⟩
  split
  · refine (Prog.wp_bind _ _).mpr (Prog.wp_imp readJsonObject_wp ?_)
    rintro body _ rfl
    refine (Prog.wp_bind _ _).mpr (Prog.wp_imp (authorizeOperator_wp _) ?_)
    rintro session _ ⟨rfl, hsession⟩
    refine Prog.wp_imp (operatorCall_wp session) ?_
    rintro d _ ⟨rfl, ⟨r, p, hserves, hp⟩, hactor⟩
    have hpermission := hserves.path_matches.operatorPermission_eq hp
    refine ⟨r, hserves, fun p' hp' => ?_, fun hnode => ?_⟩
    · rw [hp, Option.some.injEq] at hp'
      subst hp'
      refine ⟨first, body, session, by rw [hpermission]; rfl, hpermission ▸ hsession, ?_⟩
      rw [hactor, hserves.route]
      simp only [Option.some.injEq]
    · cases r <;> cases hnode <;> cases hp
  · trivial

theorem postNode_wp (hstart : startsWith path "/node/v1/" = true) :
    Prog.wp (postNode request shared path)
      (fun d log => ∃ r, Vouched request shared path d.call log r) (fun _ _ => True) [] := by
  unfold postNode
  refine (Prog.wp_bind _ _).mpr (Prog.wp_imp authorizeNode_wp ?_)
  rintro ⟨nodeId, sessionToken⟩ _ ⟨rfl, hnode⟩
  refine (Prog.wp_bind _ _).mpr (Prog.wp_imp readJsonObject_wp ?_)
  rintro body _ rfl
  refine unlogged_look.bind fun seen => ?_
  split
  · rename_i hpath
    refine (requireBodyKeys_unlogged _ _).bind fun _ => ?_
    refine ⟨.poll, serves_exact rfl rfl hpath, fun p hp => (by cases hp), fun _ => ?_⟩
    exact ⟨nodeId, sessionToken, body, rfl, hnode, rfl⟩
  split
  · rename_i hpath
    refine (requireBodyKeys_unlogged _ _).bind fun _ => ?_
    refine ⟨.disconnect, serves_exact rfl rfl hpath, fun p hp => (by cases hp), fun _ => ?_⟩
    exact ⟨nodeId, sessionToken, body, rfl, hnode, rfl⟩
  split
  · rename_i taskId hresult hid
    refine (requireBodyKeys_unlogged _ _).bind fun _ => ?_
    refine (field_unlogged _).bind fun _ => (field_unlogged _).bind fun _ => ?_
    refine ⟨.result, ⟨.result hstart hresult, rfl, ?_⟩, fun p hp => (by cases hp), fun _ => ?_⟩
    · rintro i hi
      cases hi
      exact ⟨taskId, hid, rfl⟩
    · exact ⟨nodeId, sessionToken, body, rfl, hnode, rfl⟩
  · trivial

theorem postEnroll_wp (expected : List ℕ) :
    Prog.wp (postEnroll request shared expected)
      (fun d _ => d.call.route = some .enroll) (fun _ _ => True) [] := by
  unfold postEnroll
  refine (Prog.wp_bind _ _).mpr (Prog.wp_imp (authorizeEnrollment_wp _) ?_)
  rintro _ _ rfl
  refine (Prog.wp_bind _ _).mpr (Prog.wp_imp readJsonObject_wp ?_)
  rintro body _ rfl
  refine (requireBodyKeys_unlogged _ _).bind fun _ => ?_
  refine (field_unlogged _).bind fun _ => (field_unlogged _).bind fun _ => ?_
  refine (field_unlogged _).bind fun _ => (field_unlogged _).bind fun _ => ?_
  exact (field_unlogged _).bind fun _ => unlogged_look.bind fun _ => rfl

theorem doPost_wp (expected : List ℕ) :
    Prog.wp (doPost request shared expected)
      (fun d log => ∃ path r, request.path = some path ∧
        Vouched request shared path d.call log r) (fun _ _ => True) [] := by
  unfold doPost
  refine requireLocal_unlogged.bind fun _ => ?_
  refine (Prog.wp_bind _ _).mpr (Prog.wp_imp requestPath_wp ?_)
  rintro path _ ⟨hpath, rfl⟩
  split
  · rename_i henroll
    refine Prog.wp_imp (postEnroll_wp expected) fun d log hroute => ?_
    refine ⟨path, .enroll, hpath, serves_exact rfl hroute henroll, fun p hp => ?_, fun hnode => ?_⟩
    · cases hp
    · cases hnode
  split
  · rename_i hstart
    exact Prog.wp_imp (postNode_wp hstart) fun d log ⟨r, h⟩ => ⟨path, r, hpath, h⟩
  · exact Prog.wp_imp postOperator_wp fun d log ⟨r, h⟩ => ⟨path, r, hpath, h⟩

end

/-- A handler that makes a call is on a path of the route of that call, and counted under its label.
    A call of an operator is made for the session that authenticated at the second check, after the
    body was read, and that session holds the permission of the route; a call of an enrolled Node is
    made with the id and token that were accepted; a call about a resource is about the one the path
    names. On a path of no route there is no call. -/
theorem post_dispatch (request : Request) (shared : ℕ → Shared) (expected : List ℕ) :
    (∀ d log, doPost request shared expected [] = .ok d log → ∃ path r,
      request.path = some path ∧ Matches path r ∧ d.call.route = some r ∧
      (∀ p, r.permission = some p → ∃ first body session t,
        log = [.operator p first, .body body, .operator p session] ∧
        authenticate (.str (supplied request "Bearer ")) none .null (shared 2).clock
          (shared 2).sessions = .ok (some session) t ∧
        p ∈ session.permissions ∧
        d.call.actor = some (.str (if r = .revoke then session.id else session.principalId))) ∧
      (r.ofNode → ∃ nodeId sessionToken body,
        log = [.node nodeId sessionToken, .body body] ∧
        authenticateNode (.str nodeId) (.str sessionToken) (shared 0).lab = .ok true ∧
        d.call.credentials = some (.str nodeId, .str sessionToken)) ∧
      (∀ i, r.segment = some i →
        ∃ id, (segments path)[i]? = some id ∧ d.call.resource = some (.str id)) ∧
      normalizedRoute path = r.label) ∧
    (∀ path, request.path = some path → (∀ r, ¬ Matches path r) →
      ∀ d log, doPost request shared expected [] ≠ .ok d log) := by
  have hvouched : ∀ d log, doPost request shared expected [] = .ok d log → ∃ path r,
      request.path = some path ∧ Vouched request shared path d.call log r := by
    intro d log hrun
    exact (Prog.wp_run hrun).mp (doPost_wp expected)
  refine ⟨fun d log hrun => ?_, fun path hpath hnone d log hrun => ?_⟩
  · obtain ⟨path, r, hpath, h⟩ := hvouched d log hrun
    refine ⟨path, r, hpath, h.serves.path_matches, h.serves.route, fun p hp => ?_, h.node,
      h.serves.resource, h.serves.path_matches.normalizedRoute_eq⟩
    obtain ⟨first, body, session, hlog, ⟨⟨t, hfound⟩, hpermitted⟩, hactor⟩ := h.operator p hp
    exact ⟨first, body, session, t, hlog, hfound, hpermitted, hactor⟩
  · obtain ⟨path', r, hpath', h⟩ := hvouched d log hrun
    rw [hpath, Option.some.injEq] at hpath'
    exact hnone r (hpath' ▸ h.serves.path_matches)

/-- An administrator resets the lab. -/
def resetRequest : Request :=
  { peerIsLoopback := true, serverPort := 8765
    headers := fun name =>
      match name with
      | "Host" => some "localhost:8765"
      | "Authorization" => some "Bearer bootstrap-token-0123456789"
      | "Content-Length" => some "2"
      | "Content-Type" => some "application/json"
      | _ => none
    path := some "/lab/reset"
    content := fun _ => some ⟨.obj [], rfl⟩ }

/-- What that request finds: the session of the first administrator. -/
def resetShared : Shared :=
  { lab := .init "stream", sessions := (Book.init.next firstRegistration).sessions, clock := 6 }

theorem post_dispatch_reset :
    ∃ d log, doPost resetRequest (fun _ => resetShared) [] [] = .ok d log ∧
      ∃ path r, resetRequest.path = some path ∧ Matches path r ∧ d.call.route = some r := by
  have hruns : (match doPost resetRequest (fun _ => resetShared) [] [] with
      | .ok _ _ => true
      | .error _ _ => false) = true := by decide +kernel
  cases hrun : doPost resetRequest (fun _ => resetShared) [] [] with
  | error e log => rw [hrun] at hruns; cases hruns
  | ok d log =>
    obtain ⟨path, r, hpath, hmatch, hroute, -⟩ := (post_dispatch _ _ _).1 d log hrun
    exact ⟨d, log, rfl, path, r, hpath, hmatch, hroute⟩

end C2Lab
