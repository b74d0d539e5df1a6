import C2Lab.Auth.Reference

/-! Who may revoke a session, and the administrators that remain.

    A revocation that returns wrote nothing, or marked one session under the authority of an active
    one: the session itself, or one whose role holds `operator_admin`. Only an administrator's role
    does, so the actor of such a revocation is an active administrator that stays. A session that
    revokes itself and is an administrator was not the last one. -/

namespace C2Lab

variable {sessions : Registry} {sessionId actorId : PyStr} {instant : Instant}

/-- Some administrator session is active. -/
def AdminActive (sessions : Registry) (instant : Instant) : Prop :=
  ∃ s ∈ sessions.values, s.role = .admin ∧ s.isActiveLocked instant = true

/-- The session that acts is active, and is the target or may administer operators. -/
def Authorises (sessions : Registry) (instant : Instant) (sessionId actorId : PyStr) : Prop :=
  ∃ actor, sessions.get? actorId = some actor ∧ actor.isActiveLocked instant = true ∧
    (actorId = sessionId ∨ .operatorAdmin ∈ rolePermissions actor.role)

/-- What a revocation that returns leaves: the same registry, or the target marked. -/
inductive Marks (sessions : Registry) (instant : Instant) (sessionId actorId : PyStr) :
    Registry → Prop
  | idle : Marks sessions instant sessionId actorId sessions
  | marked {target : OperatorSession} (htarget : sessions.get? sessionId = some target)
      (hunset : target.revokedMonotonic = none)
      (hauth : Authorises sessions instant sessionId actorId)
      (hlast : actorId = sessionId → target.role = .admin → 1 < activeAdmins sessions instant) :
      Marks sessions instant sessionId actorId
        (sessions.set sessionId { target with revokedMonotonic := some instant })

theorem revokeLocked_marks :
    Prog.wp (revokeLocked sessionId actorId instant)
      (fun _ t => Marks sessions instant sessionId actorId t) (fun _ t => t = sessions)
      sessions := by
  unfold revokeLocked
  simp only [Prog.wp_bind, Prog.wp_get]
  cases htarget : sessions.get? sessionId with
  | none => rfl
  | some target =>
    simp only [Prog.wp_ite]
    refine ⟨fun _ => .idle, fun _ => ?_⟩
    refine (Prog.wp_bind _ _).mpr (Prog.wp_mono requireActor_wp ?_ fun _ _ h => h.2)
    rintro actor _ ⟨rfl, hactor, hactive⟩
    simp only [Prog.wp_require, Prog.wp_ite, Prog.wp_bind]
    refine ⟨fun hperm => ⟨fun _ => .idle, fun hunset => ⟨fun hlast => ?_, fun _ => trivial⟩⟩,
      fun _ => trivial⟩
    exact .marked htarget (by simpa using hunset)
      ⟨actor, hactor, hactive, or_iff_not_imp_left.mpr hperm⟩ hlast

theorem revoke_marks (target actor now : Json) (clock : Instant) :
    Prog.wp (revoke target actor now clock)
      (fun _ t => ∃ sessionId actorId instant,
          validateSessionId target "session_id" = .ok sessionId ∧
        actingSession sessionId actor = .ok actorId ∧ resolveNow now clock = .ok instant ∧
        Marks sessions instant sessionId actorId t)
      (fun _ t => t = sessions) sessions := by
  unfold revoke
  simp only [Prog.wp_bind, authCheck_wp]
  refine ⟨fun sessionId hs => ⟨fun actorId ha => ⟨fun instant hi => ?_, ?_⟩, ?_⟩, ?_⟩
  · exact Prog.wp_imp revokeLocked_marks fun _ _ h => ⟨sessionId, actorId, instant, hs, ha, hi, h⟩
  · exact fun _ _ => trivial
  · exact fun _ _ => trivial
  · exact fun _ _ => trivial

/-! ### Administrators -/

/-- Only administrators administer operators. -/
theorem admin_of_operatorAdmin {role : Role} (h : .operatorAdmin ∈ rolePermissions role) :
    role = .admin := by
  cases role with
  | admin => rfl
  | operator => simp [rolePermissions] at h
  | viewer => simp [rolePermissions] at h

/-- Of two active administrators one remains when a session is marked. -/
theorem adminActive_of_many {target marked : OperatorSession}
    (htarget : sessions.get? sessionId = some target) (hmany : 1 < activeAdmins sessions instant) :
    AdminActive (sessions.set sessionId marked) instant := by
  obtain ⟨l, r, hvalues, hset⟩ := Dict.values_split htarget
  rw [activeAdmins, hvalues, List.countP_append, List.countP_cons] at hmany
  have hpos : 0 < (l ++ r).countP fun s => s.role = .admin && s.isActiveLocked instant := by
    rw [List.countP_append]
    split at hmany <;> omega
  obtain ⟨s, hs, hadmin⟩ := List.countP_pos_iff.mp hpos
  refine ⟨s, ?_, by simpa using hadmin⟩
  rw [hset]
  rcases List.mem_append.mp hs with hs | hs
  · exact List.mem_append_left _ hs
  · exact List.mem_append_right _ (List.mem_cons_of_mem _ hs)

/-- An administrator other than the one marked remains. -/
theorem adminActive_of_other {k : PyStr} {s marked : OperatorSession} (hne : k ≠ sessionId)
    (hs : sessions.get? k = some s) (hadmin : s.role = .admin)
    (hactive : s.isActiveLocked instant = true) :
    AdminActive (sessions.set sessionId marked) instant :=
  ⟨s, Dict.mem_values.mpr ⟨k, by rw [Dict.get?_set, if_neg hne, hs]⟩, hadmin, hactive⟩

/-- A revocation leaves an active administrator, if there was one. -/
theorem Marks.adminActive {t : Registry} (h : Marks sessions instant sessionId actorId t)
    (hadmin : AdminActive sessions instant) : AdminActive t instant := by
  cases h with
  | idle => exact hadmin
  | @marked target htarget hunset hauth hlast =>
    obtain ⟨actor, hactor, hactive, hself | hperm⟩ := hauth
    · by_cases hrole : target.role = .admin
      · exact adminActive_of_many htarget (hlast hself hrole)
      · obtain ⟨s, hs, hsrole, hsactive⟩ := hadmin
        obtain ⟨k, hk⟩ := Dict.mem_values.mp hs
        refine adminActive_of_other (fun he => hrole ?_) hk hsrole hsactive
        rw [he, htarget, Option.some.injEq] at hk
        exact hk ▸ hsrole
    · by_cases hself : actorId = sessionId
      · subst hself
        rw [htarget, Option.some.injEq] at hactor
        exact adminActive_of_many htarget (hlast rfl (hactor ▸ admin_of_operatorAdmin hperm))
      · exact adminActive_of_other hself hactor (admin_of_operatorAdmin hperm) hactive

/-- A session once revoked stays as it is. -/
theorem Marks.revoked {t : Registry} (h : Marks sessions instant sessionId actorId t) {k : PyStr}
    {s : OperatorSession} {i : Instant} (hs : sessions.get? k = some s)
    (hrevoked : s.revokedMonotonic = some i) : t.get? k = some s := by
  cases h with
  | idle => exact hs
  | marked htarget hunset _ _ =>
    rw [Dict.get?_set, if_neg, hs]
    rintro rfl
    rw [htarget, Option.some.injEq] at hs
    rw [hs, hrevoked] at hunset
    cases hunset

/-! ### Runs in which no session expires -/

/-- No retained session has expired. -/
def Unexpired (sessions : Registry) (instant : Instant) : Prop :=
  ∀ s ∈ sessions.values, instant < s.expiresMonotonic

/-- Calls that return lead from one registry to another, and none of them finds a session that has
    expired. -/
inductive Lasts (sessions : Registry) : Registry → Prop
  | refl : Lasts sessions sessions
  | step {m : Registry} {c : TimedCall} (h : Lasts sessions m)
      (hlasts : ∀ i, c.instant = .ok i → Unexpired m i)
      (hreturns : ∀ t, c.run m ≠ .error .pending t) : Lasts sessions (Prog.final c.run m)

/-- Some administrator session is not revoked. -/
def AdminStands (sessions : Registry) : Prop :=
  ∃ s ∈ sessions.values, s.role = .admin ∧ s.revokedMonotonic = none

theorem AdminStands.active (h : AdminStands sessions) (hlasts : Unexpired sessions instant) :
    AdminActive sessions instant := by
  obtain ⟨s, hs, hrole, hunset⟩ := h
  refine ⟨s, hs, hrole, ?_⟩
  simp [OperatorSession.isActiveLocked, hunset, hlasts s hs]

theorem AdminActive.stands (h : AdminActive sessions instant) : AdminStands sessions := by
  obtain ⟨s, hs, hrole, hactive⟩ := h
  simp only [OperatorSession.isActiveLocked, Bool.and_eq_true, Option.isNone_iff_eq_none] at hactive
  exact ⟨s, hs, hrole, hactive.1⟩

/-- A registration evicts no active session. -/
theorem Registers.adminActive {r : Registration} {p : PublicSession} {t : Registry}
    (h : Registers r sessions p t) (hadmin : AdminActive sessions r.instant) :
    AdminActive t r.instant := by
  obtain ⟨room, id, hroom, hid, rfl, -⟩ := h.added
  obtain ⟨s, hs, hrole, hactive⟩ := hadmin
  obtain ⟨k, hk⟩ := Dict.mem_values.mp hs
  rcases hroom.kept hk with hkept | hinactive
  · exact adminActive_of_other (fun he => hid (he ▸ Dict.mem_keys_of_get? hkept)) hkept
      hrole hactive
  · rw [hactive] at hinactive
    cases hinactive

/-- One call leaves an administrator that is not revoked. -/
theorem AdminStands.run {c : TimedCall} (h : AdminStands sessions)
    (hlasts : ∀ i, c.instant = .ok i → Unexpired sessions i) :
    Prog.wp c.run (fun _ t => AdminStands t) (fun e t => e = .pending ∨ AdminStands t)
      sessions := by
  obtain ⟨call, now, clock⟩ := c
  cases call with
  | register principalId role token ttlSeconds draws =>
    refine (Prog.wp_map _ _).mpr (Prog.wp_mono register_wp ?_ ?_)
    · rintro p t ⟨r, hr, -, hreg⟩
      have hinstant := (validateRegistration_eq_ok hr).2.2.1
      exact (hreg.adminActive (h.active (hlasts _ hinstant))).stands
    · rintro e t (⟨rfl, -⟩ | ⟨rfl, -⟩)
      · exact .inl rfl
      · exact .inr h
  | authenticate token permission =>
    refine (Prog.wp_map _ _).mpr (Prog.wp_mono (authenticate_wp permission) ?_ ?_)
    · rintro _ _ rfl
      exact h
    · rintro _ _ rfl
      exact .inr h
  | revoke target actor =>
    refine (Prog.wp_map _ _).mpr (Prog.wp_mono (revoke_marks target actor now clock) ?_ ?_)
    · rintro _ t ⟨sessionId, actorId, instant, -, -, hinstant, hmarks⟩
      exact (hmarks.adminActive (h.active (hlasts _ hinstant))).stands
    · rintro _ _ rfl
      exact .inr h
  | list =>
    refine (Prog.wp_map _ _).mpr (Prog.wp_mono listSessions_wp ?_ ?_)
    · rintro _ _ rfl
      exact h
    · rintro _ _ rfl
      exact .inr h

theorem AdminStands.lasts {t : Registry} (h : AdminStands sessions) (hlasts : Lasts sessions t) :
    AdminStands t := by
  induction hlasts with
  | refl => exact h
  | @step m c _ hunexpired hreturns ih =>
    have hwp := ih.run hunexpired
    unfold Prog.wp at hwp
    unfold Prog.final
    cases hrun : c.run m with
    | ok reply t =>
      rw [hrun] at hwp
      exact hwp
    | error e t =>
      rw [hrun] at hwp
      exact hwp.resolve_left fun he => hreturns t (he ▸ hrun)

/-- A registered administrator stands. -/
theorem adminStands_of_register {c : TimedCall} {p : PublicSession} {t : Registry}
    {principalId role token ttlSeconds : Json} {draws : List HexToken}
    (hcall : c.call = .register principalId role token ttlSeconds draws)
    (hrun : c.run sessions = .ok (.session p) t) (hrole : p.role = .admin) : AdminStands t := by
  obtain ⟨call, now, clock⟩ := c
  subst hcall
  have hwp : Prog.wp (TimedCall.run ⟨.register principalId role token ttlSeconds draws, now, clock⟩)
      (fun reply t => reply = .session p → AdminStands t) (fun _ _ => True) sessions := by
    refine (Prog.wp_map _ _).mpr (Prog.wp_mono register_wp ?_ fun _ _ _ => trivial)
    rintro q t ⟨r, -, -, hreg⟩ hq
    cases hq
    obtain ⟨room, id, -, -, rfl, rfl⟩ := hreg.added
    exact ⟨_, Dict.mem_values.mpr ⟨id, Dict.get?_set_self _ _ _⟩, hrole, rfl⟩
  exact (Prog.wp_run hrun).mp hwp rfl

/-- From every registry: a revocation that returns changed nothing, or set the target's time to its
    instant for an acting session that was active and is the target or may administer operators; it
    leaves an active administrator where there was one, and every session revoked before as it was;
    one that is refused writes nothing. Once an administrator registered, one is active at every
    instant of a run in which no session expires. -/
theorem revocation_keeps_admin :
    (∀ (sessions : Registry) (target actor now : Json) (clock : Instant) (p : PublicSession)
        (t : Registry), revoke target actor now clock sessions = .ok p t →
      ∃ sessionId actorId instant, validateSessionId target "session_id" = .ok sessionId ∧
        actingSession sessionId actor = .ok actorId ∧ resolveNow now clock = .ok instant ∧
        (t = sessions ∨ ∃ s, sessions.get? sessionId = some s ∧ s.revokedMonotonic = none ∧
          t = sessions.set sessionId { s with revokedMonotonic := some instant } ∧
          Authorises sessions instant sessionId actorId) ∧
        (AdminActive sessions instant → AdminActive t instant) ∧
        ∀ k s i, sessions.get? k = some s → s.revokedMonotonic = some i → t.get? k = some s) ∧
    (∀ (sessions : Registry) (target actor now : Json) (clock : Instant) (e : AuthExc)
        (t : Registry), revoke target actor now clock sessions = .error e t → t = sessions) ∧
    ∀ (sessions : Registry) (c : TimedCall) (principalId role token ttlSeconds : Json)
        (draws : List HexToken) (p : PublicSession) (m : Registry),
      c.call = .register principalId role token ttlSeconds draws →
      c.run sessions = .ok (.session p) m → p.role = .admin →
      ∀ t, Lasts m t → ∀ i, Unexpired t i → AdminActive t i := by
  refine ⟨?_, ?_, ?_⟩
  · intro sessions target actor now clock p t hrun
    obtain ⟨sessionId, actorId, instant, hs, ha, hi, hmarks⟩ :=
      (Prog.wp_run hrun).mp (revoke_marks target actor now clock)
    refine ⟨sessionId, actorId, instant, hs, ha, hi, ?_, hmarks.adminActive,
      fun k s i => hmarks.revoked⟩
    cases hmarks with
    | idle => exact .inl rfl
    | marked htarget hunset hauth _ => exact .inr ⟨_, htarget, hunset, rfl, hauth⟩
  · intro sessions target actor now clock e t hrun
    have hwp : Prog.wp (revoke target actor now clock) _ _ sessions :=
      revoke_marks target actor now clock
    unfold Prog.wp at hwp
    rw [hrun] at hwp
    exact hwp
  · intro sessions c principalId role token ttlSeconds draws p m hcall hrun hrole t hlasts i hi
    exact ((adminStands_of_register hcall hrun hrole).lasts hlasts).active hi

/-- The administrator of `firstRegistration` tries to revoke its own session. -/
def selfRevocation : TimedCall :=
  { call := .revoke (.str "op-session-0123456789abcdef01234567") .null, now := .int 6, clock := 0 }

/-- The administrator is registered, and not revoked by itself. -/
theorem selfRevocation_evaluated :
    (match firstRegistration.run .empty with
      | .ok (.session p) _ => decide (p.role = .admin)
      | _ => false) = true ∧
    let t := Prog.final firstRegistration.run .empty
    (match selfRevocation.run t with
      | .error (.auth e) _ => decide (e.code = "last_admin_session")
      | _ => false) = true ∧
    selfRevocation.instant = .ok 6 ∧ (∀ s ∈ t.values, (6 : ℚ) < s.expiresMonotonic) ∧
      ∀ s ∈ (Prog.final selfRevocation.run t).values, (7 : ℚ) < s.expiresMonotonic := by
  decide +kernel

theorem revocation_keeps_admin_alone :
    AdminActive (Prog.final selfRevocation.run (Prog.final firstRegistration.run .empty)) 7 := by
  obtain ⟨hregisters, hrefused, hinstant, hunexpired, hlater⟩ := selfRevocation_evaluated
  cases hrun : firstRegistration.run .empty with
  | error e t => rw [hrun] at hregisters; cases hregisters
  | ok reply t =>
    rw [hrun] at hregisters
    cases reply with
    | session p =>
      have hfinal : Prog.final firstRegistration.run .empty = t := by simp [Prog.final, hrun]
      refine revocation_keeps_admin.2.2 .empty firstRegistration _ _ _ _ _ p t rfl hrun
        (by simpa using hregisters) _ ?_ 7 hlater
      rw [hfinal] at hrefused hunexpired ⊢
      refine .step .refl (fun i hi => ?_) fun t' hpending => ?_
      · rw [hinstant, Except.ok.injEq] at hi
        exact hi ▸ hunexpired
      · rw [hpending] at hrefused
        cases hrefused
    | found => cases hregisters
    | sessions => cases hregisters

end C2Lab
