import C2Lab.Auth.Registry

/-! What one call can do to the registry.

    A registration erases at most one session, an inactive one, and adds one; a revocation marks one
    session; nothing else writes. A call that is refused leaves the registry as it was. -/

namespace C2Lab

variable {sessions room : Registry} {principalId role token ttlSeconds now : Json} {clock : Instant}
  {draws : List HexToken} {r : Registration} {instant : Instant} {id : PyStr}

theorem authCheck_wp {α : Type} {x : Except AuthExc α} {Q : α → Registry → Prop}
    {E : AuthExc → Registry → Prop} :
    Prog.wp (authCheck x) Q E sessions ↔
      (∀ a, x = .ok a → Q a sessions) ∧ ∀ e, x = .error e → E e sessions := by
  cases x <;> simp [authCheck]

/-- The registry with room for one more session. -/
inductive Room (instant : Instant) (sessions : Registry) : Registry → Prop
  | free (h : sessions.size < maxOperatorSessions) : Room instant sessions sessions
  | evicted {k : PyStr} {s : OperatorSession} (h : sessions.get? k = some s)
      (hs : s.isActiveLocked instant = false) : Room instant sessions (sessions.erase k)

theorem Room.get? {k : PyStr} {s : OperatorSession} (h : Room instant sessions room)
    (hs : room.get? k = some s) : sessions.get? k = some s := by
  cases h with
  | free _ => exact hs
  | evicted _ _ =>
    rw [Dict.get?_erase] at hs
    split at hs
    · cases hs
    · exact hs

/-- Only an inactive session goes. -/
theorem Room.kept {k : PyStr} {s : OperatorSession} (h : Room instant sessions room)
    (hs : sessions.get? k = some s) :
    room.get? k = some s ∨ s.isActiveLocked instant = false := by
  cases h with
  | free _ => exact .inl hs
  | @evicted k' s' hk' hinactive =>
    rw [Dict.get?_erase]
    split
    · rename_i he
      rw [he, hk', Option.some.injEq] at hs
      exact .inr (hs ▸ hinactive)
    · exact .inl hs

theorem Room.size (h : Room instant sessions room) (hs : sessions.size ≤ maxOperatorSessions) :
    room.size < maxOperatorSessions := by
  cases h with
  | free hfree => exact hfree
  | evicted hk _ =>
    have := Dict.size_erase_of_mem (Dict.mem_keys_of_get? hk)
    omega

/-- The refusal of a full registry. -/
def sessionLimit : AuthExc :=
  .auth { message := "operator session limit reached", code := "session_limit", status := 429 }

/-- No room can be made: the registry is full of active sessions. -/
def Crowded (instant : Instant) (sessions : Registry) : Prop :=
  maxOperatorSessions ≤ sessions.size ∧ ∀ s ∈ sessions.values, s.isActiveLocked instant = true

theorem makeRoomLocked_wp :
    Prog.wp (makeRoomLocked instant)
      (fun _ room => Room instant sessions room ∧ ¬ Crowded instant sessions)
      (fun e t => e = sessionLimit ∧ t = sessions ∧ Crowded instant sessions) sessions := by
  unfold makeRoomLocked
  simp only [Prog.wp_bind, Prog.wp_get, Prog.wp_ite]
  refine ⟨fun hfull => ?_, fun hfree => ⟨.free (by omega), fun hc => hfree hc.1⟩⟩
  cases hfind : sessions.entries.find? fun p => !p.2.isActiveLocked instant with
  | none =>
    refine ⟨rfl, rfl, hfull, fun s hs => ?_⟩
    obtain ⟨k, hk⟩ := Dict.mem_values.mp hs
    simpa using List.find?_eq_none.mp hfind _ (Dict.get?_eq_some.mp hk)
  | some p =>
    have hmem : sessions.get? p.1 = some p.2 := Dict.get?_eq_some.mpr
      (List.mem_of_find?_eq_some hfind)
    have hinactive : p.2.isActiveLocked instant = false := by
      simpa using List.find?_some hfind
    refine ⟨.evicted hmem hinactive, fun hc => ?_⟩
    rw [hc.2 p.2 (Dict.mem_values.mpr ⟨_, hmem⟩)] at hinactive
    cases hinactive

theorem newSessionIdLocked_free (h : newSessionIdLocked draws sessions = .ok id) :
    id ∉ sessions.keys := by
  unfold newSessionIdLocked at h
  split at h
  · rename_i id' hfind
    cases h
    simpa using List.find?_some hfind
  · cases h

theorem newSessionIdLocked_error {e : AuthExc} (h : newSessionIdLocked draws sessions = .error e) :
    e = .pending := by
  unfold newSessionIdLocked at h
  split at h
  · cases h
  · cases h; rfl

/-- A registration that succeeded. -/
structure Registers (r : Registration) (sessions : Registry) (p : PublicSession)
    (t : Registry) : Prop where
  unused : ∀ s ∈ sessions.values, s.tokenDigest ≠ tokenDigest r.token
  added : ∃ room id, Room r.instant sessions room ∧ id ∉ room.keys ∧
    t = room.set id (r.session id) ∧ p = (r.session id).publicLocked r.instant

/-- A registration adds a session, or is refused, or has not returned yet; the limit is the reason
    exactly when the arguments are fine, the token is new and no session can go. -/
theorem register_wp :
    Prog.wp (register principalId role token ttlSeconds now clock draws)
      (fun p t => ∃ r, validateRegistration principalId role token ttlSeconds now clock = .ok r ∧
        ¬ Crowded r.instant sessions ∧ Registers r sessions p t)
      (fun e t => e = .pending ∧ (∃ r, validateRegistration principalId role token ttlSeconds now
            clock = .ok r ∧ ¬ Crowded r.instant sessions) ∨
        t = sessions ∧
          (validateRegistration principalId role token ttlSeconds now clock = .error e ∨
          ∃ r, validateRegistration principalId role token ttlSeconds now clock = .ok r ∧
            ((∃ s ∈ sessions.values, s.tokenDigest = tokenDigest r.token) ∨
              e = sessionLimit ∧ Crowded r.instant sessions))) sessions := by
  unfold register
  simp only [Prog.wp_bind, authCheck_wp, Prog.wp_get, Prog.wp_require]
  refine ⟨fun r hr => ⟨fun hnew => ?_, fun hused => ?_⟩, fun e he => .inr ⟨trivial, .inl he⟩⟩
  · refine Prog.wp_mono makeRoomLocked_wp ?_ ?_
    · rintro _ room ⟨hroom, hcrowd⟩
      simp only [Prog.wp_bind, authCheck_wp, Prog.wp_get]
      refine ⟨fun id hid => ⟨r, hr, hcrowd, ?_, room, id, hroom, ?_, rfl, rfl⟩, fun e he => ?_⟩
      · exact fun s hs heq => hnew ⟨s, hs, heq⟩
      · exact newSessionIdLocked_free hid
      · exact .inl ⟨newSessionIdLocked_error he, r, hr, hcrowd⟩
    · rintro e _ ⟨rfl, rfl, hcrowd⟩
      exact .inr ⟨rfl, .inr ⟨r, hr, .inr ⟨rfl, hcrowd⟩⟩⟩
  · exact .inr ⟨trivial, .inr ⟨r, hr, .inl (not_not.mp hused)⟩⟩

/-! ### Refusals of the validators -/

/-- A failure of a check on the arguments: never a refusal by the limit. -/
def BadArgument (e : AuthExc) : Prop := e = .overflow ∨ ∃ a, e = .auth a ∧ a.status = 400

/-- Every failure of the check is one of the arguments. -/
def Checks {α : Type} (x : Except AuthExc α) : Prop := ∀ e, x = .error e → BadArgument e

section
variable {α β : Type}

theorem checks_ok (a : α) : Checks (.ok a : Except AuthExc α) := by
  intro e h
  cases h

theorem checks_error (message : String) (code : String) :
    Checks (.error (.auth { message := message, code := code }) : Except AuthExc α) := by
  intro e h
  cases h
  exact .inr ⟨_, rfl, rfl⟩

theorem checks_bind {x : Except AuthExc α} {f : α → Except AuthExc β} (hx : Checks x)
    (hf : ∀ a, Checks (f a)) : Checks (x >>= f) := by
  intro e h
  rcases bind_eq_error.mp h with h | ⟨a, -, h⟩
  · exact hx e h
  · exact hf a e h

end

theorem validatePrincipalId_checks (v : Json) : Checks (validatePrincipalId v) := by
  unfold validatePrincipalId
  split
  · split
    · exact checks_ok _
    · exact checks_error _ _
  · exact checks_error _ _

theorem validateRole_checks (v : Json) : Checks (validateRole v) := by
  unfold validateRole
  split
  · exact checks_ok _
  · exact checks_error _ _

theorem validateToken_checks (v : Json) : Checks (validateToken v) := by
  unfold validateToken
  split
  · split
    · exact checks_ok _
    · exact checks_error _ _
  · exact checks_error _ _

theorem finiteNumber_checks (v : Json) : Checks (finiteNumber v) := by
  unfold finiteNumber
  split
  · split
    · exact checks_ok _
    · intro e h
      cases h
      exact .inl rfl
  · exact checks_ok _
  · exact checks_ok _

theorem validateTtl_checks (v : Json) : Checks (validateTtl v) := by
  refine checks_bind (finiteNumber_checks v) fun n => ?_
  split
  · split
    · exact checks_ok _
    · exact checks_error _ _
  · exact checks_error _ _

theorem resolveNow_checks (v : Json) (clock : Instant) : Checks (resolveNow v clock) := by
  have hgiven : Checks (givenInstant clock v) := by
    unfold givenInstant
    split
    · exact checks_ok _
    · exact finiteNumber_checks _
  refine checks_bind hgiven fun n => ?_
  split
  · split
    · exact checks_ok _
    · exact checks_error _ _
  · exact checks_error _ _

theorem validateRegistration_checks :
    Checks (validateRegistration principalId role token ttlSeconds now clock) := by
  unfold validateRegistration
  refine checks_bind (validatePrincipalId_checks _) fun _ => ?_
  refine checks_bind (validateRole_checks _) fun _ => ?_
  refine checks_bind (validateToken_checks _) fun _ => ?_
  refine checks_bind (validateTtl_checks _) fun _ => ?_
  exact checks_bind (resolveNow_checks _ _) fun _ => checks_ok _

theorem BadArgument.ne_pending {e : AuthExc} (h : BadArgument e) : e ≠ .pending := by
  rintro rfl
  rcases h with h | ⟨a, h, -⟩ <;> cases h

/-- What the arguments of a registration amount to. -/
theorem validateRegistration_eq_ok
    (h : validateRegistration principalId role token ttlSeconds now clock = .ok r) :
    token = .str r.token ∧ tokenIsValid token = true ∧ resolveNow now clock = .ok r.instant ∧
      0 < r.ttl := by
  unfold validateRegistration at h
  obtain ⟨p, -, h⟩ := bind_eq_ok.mp h
  obtain ⟨q, -, h⟩ := bind_eq_ok.mp h
  obtain ⟨t, ht, h⟩ := bind_eq_ok.mp h
  obtain ⟨ttl, httl, h⟩ := bind_eq_ok.mp h
  obtain ⟨i, hi, h⟩ := bind_eq_ok.mp h
  cases h
  refine ⟨?_, ?_, hi, ?_⟩
  · unfold validateToken at ht
    split at ht
    · split at ht <;> cases ht
      rfl
    · cases ht
  · unfold validateToken at ht
    split at ht
    · split at ht
      · assumption
      · cases ht
    · cases ht
  · obtain ⟨n, -, httl⟩ := bind_eq_ok.mp httl
    split at httl
    · split at httl <;> cases httl
      rename_i hbounds
      exact hbounds.1
    · cases httl

/-! ### Revocation -/

/-- A revocation that succeeded: the session was revoked before, or it is now. -/
inductive Revokes (instant : Instant) (sessions : Registry) : PublicSession → Registry → Prop
  | before {s : OperatorSession} (h : sessions.get? s.id = some s)
      (hs : s.revokedMonotonic.isSome = true) :
      Revokes instant sessions (s.publicLocked instant) sessions
  | now {s : OperatorSession} (h : sessions.get? s.id = some s)
      (hs : s.revokedMonotonic.isSome = false) :
      Revokes instant sessions
        ({ s with revokedMonotonic := some instant }.publicLocked instant)
        (sessions.set s.id { s with revokedMonotonic := some instant })

variable {actorId sessionId actorSessionId : PyStr}

/-- The session that acts is retained and active. -/
theorem requireActor_wp :
    Prog.wp (requireActor actorId instant)
      (fun a t => t = sessions ∧ sessions.get? actorId = some a ∧ a.isActiveLocked instant = true)
      (fun e t => e ≠ .pending ∧ t = sessions) sessions := by
  unfold requireActor
  simp only [Prog.wp_bind, Prog.wp_get]
  split
  · rename_i a ha
    exact ⟨rfl, Option.filter_eq_some_iff.mp ha⟩
  · exact ⟨by simp, rfl⟩

/-- A revocation marks the session it names, or is refused and writes nothing. -/
theorem revokeLocked_wp (hkey : sessions.All fun k s => s.id = k) :
    Prog.wp (revokeLocked sessionId actorId instant) (Revokes instant sessions)
      (fun e t => e ≠ .pending ∧ t = sessions) sessions := by
  unfold revokeLocked
  simp only [Prog.wp_bind, Prog.wp_get]
  cases htarget : sessions.get? sessionId with
  | none => exact ⟨by simp, rfl⟩
  | some target =>
    obtain rfl : target.id = sessionId := hkey _ _ htarget
    simp only [Prog.wp_ite]
    refine ⟨fun hself => .before htarget hself.1, fun _ => ?_⟩
    refine (Prog.wp_bind _ _).mpr (Prog.wp_mono requireActor_wp ?_ fun _ _ h => h)
    rintro actor _ ⟨rfl, -, -⟩
    simp only [Prog.wp_require, Prog.wp_ite, Prog.wp_bind]
    refine ⟨fun _ => ⟨fun hrev => .before htarget hrev, fun hrev => ⟨fun _ => ?_, fun _ => ?_⟩⟩,
      fun _ => ?_⟩
    · exact .now htarget (by simpa using hrev)
    · exact ⟨by simp, trivial⟩
    · exact ⟨by simp, trivial⟩

theorem validateSessionId_checks (v : Json) (field : String) :
    Checks (validateSessionId v field) := by
  unfold validateSessionId
  split
  · simp only
    split
    · exact checks_ok _
    · exact checks_error _ _
  · exact checks_error _ _

theorem actingSession_checks (id : PyStr) (v : Json) : Checks (actingSession id v) := by
  unfold actingSession
  split
  · exact checks_ok _
  · exact validateSessionId_checks _ _

theorem revoke_wp (hkey : sessions.All fun k s => s.id = k) (target actor : Json) :
    Prog.wp (revoke target actor now clock) (fun p t => ∃ i, Revokes i sessions p t)
      (fun e t => e ≠ .pending ∧ t = sessions) sessions := by
  unfold revoke
  simp only [Prog.wp_bind, authCheck_wp]
  refine ⟨fun sessionId _ => ⟨fun actorId _ => ⟨fun instant _ => ?_, ?_⟩, ?_⟩, ?_⟩
  · exact Prog.wp_imp (revokeLocked_wp hkey) fun p t h => ⟨instant, h⟩
  · exact fun e he => ⟨(resolveNow_checks _ _ e he).ne_pending, trivial⟩
  · exact fun e he => ⟨(actingSession_checks _ _ e he).ne_pending, trivial⟩
  · exact fun e he => ⟨(validateSessionId_checks _ _ e he).ne_pending, trivial⟩

/-! ### Calls that only read -/

theorem authenticate_wp (permission : Option PyStr) :
    Prog.wp (authenticate token permission now clock) (fun _ t => t = sessions)
      (fun _ t => t = sessions) sessions := by
  unfold authenticate
  simp only [Prog.wp_bind, Prog.wp_get, authCheck_wp]
  exact ⟨fun _ _ => trivial, fun _ _ => trivial⟩

theorem listSessions_wp :
    Prog.wp (listSessions now clock) (fun _ t => t = sessions) (fun _ t => t = sessions)
      sessions := by
  unfold listSessions
  simp only [Prog.wp_bind, Prog.wp_get, authCheck_wp]
  exact ⟨fun _ _ => rfl, fun _ _ => trivial⟩

end C2Lab
