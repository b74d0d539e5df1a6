import Mathlib.Data.List.Induction
import Mathlib.Data.Set.Function
import C2Lab.Auth.Change

/-! The registry against one that never evicts.

    The reference keeps every session ever registered, in order, and replays the registrations and
    revocations that succeeded from their replies. A session the registry evicted was inactive, and
    as time does not go back it stays so; what remains is the same in both, and a digest belongs to
    one session only. -/

namespace C2Lab

/-- A call on the registry. -/
inductive AuthCall where
  | register (principalId role token ttlSeconds : Json) (draws : List HexToken)
  | authenticate (token : Json) (permission : Option PyStr)
  | revoke (sessionId actorSessionId : Json)
  | list

/-- What a call returns. -/
inductive AuthReply where
  | session (s : PublicSession)
  | found (s : Option PublicSession)
  | sessions (l : List PublicSession)

/-- A call with its `now` argument, and the clock it would read. -/
structure TimedCall where
  call : AuthCall
  now : Json
  clock : Instant

namespace TimedCall

/-- Run a call. -/
def run (c : TimedCall) : Auth AuthReply :=
  match c.call with
  | .register principalId role token ttlSeconds draws =>
    .session <$> C2Lab.register principalId role token ttlSeconds c.now c.clock draws
  | .authenticate token permission =>
    .found <$> C2Lab.authenticate token permission c.now c.clock
  | .revoke sessionId actorSessionId =>
    .session <$> C2Lab.revoke sessionId actorSessionId c.now c.clock
  | .list => .sessions <$> listSessions c.now c.clock

/-- The instant of a call; one whose `now` is refused has none. -/
def instant (c : TimedCall) : Except AuthExc Instant := resolveNow c.now c.clock

/-- The token a call registers. -/
def token (c : TimedCall) : Option PyStr :=
  match c.call with
  | .register _ _ (.str t) _ _ => some t
  | _ => none

end TimedCall

/-- The session a reply to `register` announced. -/
def PublicSession.registered (p : PublicSession) (token : PyStr) : OperatorSession :=
  { id := p.id, principalId := p.principalId, role := p.role, tokenDigest := tokenDigest token
    createdMonotonic := p.createdMonotonic, expiresMonotonic := p.expiresMonotonic
    revokedMonotonic := none }

/-- Mark a session as a reply to `revoke` announced. -/
def PublicSession.revokes (p : PublicSession) (s : OperatorSession) : OperatorSession :=
  if s.id = p.id ∧ s.revokedMonotonic = none then
    { s with revokedMonotonic := p.revokedMonotonic }
  else s

/-- The reference registry: every session ever registered. -/
def replay (c : TimedCall) (reply : AuthReply) (reference : List OperatorSession) :
    List OperatorSession :=
  match c.call, reply with
  | .register _ _ (.str token) _ _, .session p => reference ++ [p.registered token]
  | .revoke _ _, .session p => reference.map p.revokes
  | _, _ => reference

/-- A registry, its reference, the tokens passed to `register` and the last instant so far. -/
structure Book where
  sessions : Registry
  reference : List OperatorSession
  tokens : List PyStr
  last : Instant

namespace Book

/-- `OperatorSessionRegistry()`. -/
def init : Book := { sessions := .empty, reference := [], tokens := [], last := 0 }

/-- The books after a call. -/
def next (b : Book) (c : TimedCall) : Book :=
  { sessions := Prog.final c.run b.sessions
    reference :=
      match c.run b.sessions with
      | .ok reply _ => replay c reply b.reference
      | .error _ _ => b.reference
    tokens := c.token.toList ++ b.tokens
    last :=
      match c.instant with
      | .ok t => t
      | .error _ => b.last }

/-- A call of a run: it returns, registers a token of `used` not passed before, and is not earlier
    than the calls before it. -/
structure Admits (used : Set PyStr) (b : Book) (c : TimedCall) : Prop where
  fresh : ∀ t, c.token = some t → t ∈ used ∧ t ∉ b.tokens
  later : ∀ t, c.instant = .ok t → b.last ≤ t
  returns : ∀ t, c.run b.sessions ≠ .error .pending t

/-- A sequence of calls leads from one book to another. -/
inductive Leads (used : Set PyStr) (b : Book) : Book → Prop
  | refl : Leads used b b
  | step {m : Book} {c : TimedCall} (h : Leads used b m) (hc : m.Admits used c) :
      Leads used b (m.next c)

end Book

/-! ### Inactive sessions -/

/-- A session that is not active stays so. -/
theorem OperatorSession.inactive_later {s : OperatorSession} {t t' : Instant}
    (h : s.isActiveLocked t = false) (hle : t ≤ t') : s.isActiveLocked t' = false := by
  simp only [OperatorSession.isActiveLocked, Bool.and_eq_false_iff, decide_eq_false_iff_not,
    not_lt] at h ⊢
  exact h.imp_right hle.trans'

/-- Marking a session leaves it inactive, if it was. -/
theorem PublicSession.revokes_inactive {p : PublicSession} {s : OperatorSession} {t : Instant}
    (h : s.isActiveLocked t = false) : (p.revokes s).isActiveLocked t = false := by
  unfold PublicSession.revokes
  split
  · rename_i hs
    simp only [OperatorSession.isActiveLocked, hs.2, Option.isNone_none, Bool.true_and] at h
    simp [OperatorSession.isActiveLocked, h]
  · exact h

@[simp] theorem PublicSession.revokes_tokenDigest (p : PublicSession) (s : OperatorSession) :
    (p.revokes s).tokenDigest = s.tokenDigest := by
  unfold PublicSession.revokes
  split <;> rfl

theorem PublicSession.revokes_of_ne {p : PublicSession} {s : OperatorSession} (h : s.id ≠ p.id) :
    p.revokes s = s := by
  unfold PublicSession.revokes
  rw [if_neg fun hs => h hs.1]

theorem PublicSession.revokes_of_revoked {p : PublicSession} {s : OperatorSession}
    (h : s.revokedMonotonic.isSome = true) : p.revokes s = s := by
  unfold PublicSession.revokes
  rw [if_neg fun hs => by simp [hs.2] at h]

/-- The session a token belongs to, where no two have one digest. -/
theorem matched_eq_some {digest : List ℕ} {l : List OperatorSession}
    (hn : (l.map (·.tokenDigest)).Nodup) {s : OperatorSession} :
    matched digest l = some s ↔ s ∈ l ∧ s.tokenDigest = digest := by
  unfold matched
  induction l using List.reverseRecOn with
  | nil => simp
  | append_singleton l x ih =>
    rw [List.map_append, List.nodup_append] at hn
    rw [List.foldl_append]
    simp only [List.foldl_cons, List.foldl_nil, List.mem_append, List.mem_singleton]
    by_cases hx : digest = x.tokenDigest
    · rw [if_pos hx]
      constructor
      · intro h
        cases h
        exact ⟨.inr rfl, hx.symm⟩
      · rintro ⟨hl | rfl, hs⟩
        · exact absurd (hs.trans hx) (hn.2.2 _ (List.mem_map_of_mem hl) _ (by simp))
        · rfl
    · rw [if_neg hx, ih hn.1]
      constructor
      · rintro ⟨hl, hs⟩
        exact ⟨.inl hl, hs⟩
      · rintro ⟨hl | rfl, hs⟩
        · exact ⟨hl, hs⟩
        · exact absurd hs.symm hx

/-- A revocation of the registry marks each session as its reply says. -/
theorem Revokes.get? {p : PublicSession} {sessions t : Registry} {instant : Instant}
    (hrev : Revokes instant sessions p t) (hkey : sessions.All fun k s => s.id = k) (k : PyStr) :
    t.get? k = (sessions.get? k).map p.revokes := by
  have hother : ∀ s, s.id ≠ p.id → p.revokes s = s := fun s => PublicSession.revokes_of_ne
  have hfixed : ∀ o : Option OperatorSession, (∀ s ∈ o, p.revokes s = s) → o = o.map p.revokes := by
    intro o ho
    cases o with
    | none => rfl
    | some s => rw [Option.map_some, ho s rfl]
  cases hrev with
  | @before s' hs' hrev =>
    refine hfixed _ fun s hs => ?_
    by_cases hid : s.id = s'.id
    · have hk := hkey k s hs
      rw [Option.mem_def, ← hk, hid, hs', Option.some.injEq] at hs
      exact PublicSession.revokes_of_revoked (hs ▸ hrev)
    · exact hother s hid
  | @now s' hs' hrev =>
    rw [Dict.get?_set]
    split
    · rename_i he
      rw [he, hs', Option.map_some, PublicSession.revokes,
        if_pos ⟨rfl, by simpa using hrev⟩]
      rfl
    · rename_i hne
      exact hfixed _ fun s hs => hother s fun he => hne ((hkey k s hs).symm.trans he)

theorem Revokes.key {p : PublicSession} {sessions t : Registry} {instant : Instant}
    (hrev : Revokes instant sessions p t) (hkey : sessions.All fun k s => s.id = k) :
    t.All fun k s => s.id = k := by
  cases hrev with
  | before _ _ => exact hkey
  | now _ _ => exact Dict.All.set hkey rfl

theorem Revokes.size {p : PublicSession} {sessions t : Registry} {instant : Instant}
    (hrev : Revokes instant sessions p t) : t.size = sessions.size := by
  cases hrev with
  | before _ _ => rfl
  | now hs _ => exact Dict.size_set_of_mem _ (Dict.mem_keys_of_get? hs)

/-! ### The invariant -/

/-- What relates a registry to its reference. -/
structure Mirrors (used : Set PyStr) (b : Book) : Prop where
  key : b.sessions.All fun k s => s.id = k
  stored : ∀ s ∈ b.sessions.values, s ∈ b.reference
  gone : ∀ s ∈ b.reference, s ∈ b.sessions.values ∨ s.isActiveLocked b.last = false
  digests : (b.reference.map (·.tokenDigest)).Nodup
  registered : ∀ s ∈ b.reference, ∃ t ∈ b.tokens, tokenDigest t = s.tokenDigest
  tokens : ∀ t ∈ b.tokens, t ∈ used
  bounded : b.sessions.size ≤ maxOperatorSessions

section
variable {used : Set PyStr} {b : Book} {c : TimedCall}

theorem mirrors_init : Mirrors used Book.init where
  key := Dict.all_empty
  stored := by simp [Book.init]
  gone := by simp [Book.init]
  digests := by simp [Book.init]
  registered := by simp [Book.init]
  tokens := by simp [Book.init]
  bounded := by simp [Book.init]

/-- Time passes and tokens are used up. -/
theorem Mirrors.later {b' : Book} (h : Mirrors used b) (hsessions : b'.sessions = b.sessions)
    (hreference : b'.reference = b.reference) (htokens : ∀ t ∈ b.tokens, t ∈ b'.tokens)
    (hused : ∀ t ∈ b'.tokens, t ∈ used) (hlast : b.last ≤ b'.last) : Mirrors used b' where
  key := hsessions ▸ h.key
  stored := by rw [hsessions, hreference]; exact h.stored
  gone := by
    rw [hsessions, hreference]
    exact fun s hs => (h.gone s hs).imp_right fun hi => OperatorSession.inactive_later hi hlast
  digests := hreference ▸ h.digests
  registered := by
    rw [hreference]
    intro s hs
    obtain ⟨t, ht, heq⟩ := h.registered s hs
    exact ⟨t, htokens t ht, heq⟩
  tokens := hused
  bounded := hsessions ▸ h.bounded

/-- A new session goes into both, and at most an inactive one out of the registry. -/
theorem Mirrors.register {r : Registration} {p : PublicSession} {t : Registry}
    (h : Mirrors used b) (hinj : used.InjOn tokenDigest) (hused : r.token ∈ used)
    (hnew : r.token ∉ b.tokens) (hlast : b.last ≤ r.instant)
    (hreg : Registers r b.sessions p t) :
    Mirrors used { sessions := t, reference := b.reference ++ [p.registered r.token]
                   tokens := r.token :: b.tokens, last := r.instant } := by
  obtain ⟨room, id, hroom, hid, rfl, rfl⟩ := hreg.added
  have hsession : ((r.session id).publicLocked r.instant).registered r.token = r.session id := rfl
  have hfresh : ∀ s ∈ b.reference, s.tokenDigest ≠ tokenDigest r.token := by
    intro s hs he
    obtain ⟨t, ht, hdigest⟩ := h.registered s hs
    have hsame : t = r.token := hinj (h.tokens t ht) hused (hdigest.trans he)
    exact hnew (hsame ▸ ht)
  rw [hsession]
  refine ⟨?_, ?_, ?_, ?_, ?_, ?_, ?_⟩
  · exact Dict.All.set (fun k s hs => h.key k s (hroom.get? hs)) rfl
  · intro s hs
    obtain ⟨k, hk⟩ := Dict.mem_values.mp hs
    rw [Dict.get?_set] at hk
    split at hk
    · cases hk
      simp
    · exact List.mem_append_left _ (h.stored s (Dict.mem_values.mpr ⟨k, hroom.get? hk⟩))
  · intro s hs
    rcases List.mem_append.mp hs with hs | hs
    · rcases h.gone s hs with hstored | hinactive
      · obtain ⟨k, hk⟩ := Dict.mem_values.mp hstored
        rcases hroom.kept hk with hk | hinactive
        · refine .inl (Dict.mem_values.mpr ⟨k, ?_⟩)
          have hne : k ≠ id := fun he => hid (he ▸ Dict.mem_keys_of_get? hk)
          rw [Dict.get?_set, if_neg hne]
          exact hk
        · exact .inr hinactive
      · exact .inr (OperatorSession.inactive_later hinactive hlast)
    · rw [List.mem_singleton.mp hs]
      exact .inl (Dict.mem_values.mpr ⟨id, Dict.get?_set_self _ _ _⟩)
  · rw [List.map_append, List.nodup_append]
    refine ⟨h.digests, by simp, ?_⟩
    intro d hd d' hd' he
    obtain ⟨s, hs, rfl⟩ := List.mem_map.mp hd
    obtain rfl : d' = tokenDigest r.token := by simpa [Registration.session] using hd'
    exact hfresh s hs he
  · intro s hs
    rcases List.mem_append.mp hs with hs | hs
    · obtain ⟨t, ht, heq⟩ := h.registered s hs
      exact ⟨t, List.mem_cons_of_mem _ ht, heq⟩
    · rw [List.mem_singleton.mp hs]
      exact ⟨r.token, by simp, rfl⟩
  · intro t ht
    rcases List.mem_cons.mp ht with rfl | ht
    · exact hused
    · exact h.tokens t ht
  · have hsize := hroom.size h.bounded
    have := Dict.size_set_le room id (r.session id)
    show (room.set id (r.session id)).size ≤ maxOperatorSessions
    omega

/-- A revocation marks the same session in both; what the registry lost is inactive anyway. -/
theorem Mirrors.revoke {p : PublicSession} {t : Registry} {instant : Instant}
    (h : Mirrors used b) (hrev : Revokes instant b.sessions p t) :
    Mirrors used { b with sessions := t, reference := b.reference.map p.revokes } := by
  refine ⟨hrev.key h.key, ?_, ?_, ?_, ?_, h.tokens, hrev.size.trans_le h.bounded⟩
  · intro s hs
    obtain ⟨k, hk⟩ := Dict.mem_values.mp hs
    rw [hrev.get? h.key, Option.map_eq_some_iff] at hk
    obtain ⟨s₀, hs₀, rfl⟩ := hk
    exact List.mem_map_of_mem (h.stored s₀ (Dict.mem_values.mpr ⟨k, hs₀⟩))
  · intro s hs
    obtain ⟨s₀, hs₀, rfl⟩ := List.mem_map.mp hs
    rcases h.gone s₀ hs₀ with hstored | hinactive
    · obtain ⟨k, hk⟩ := Dict.mem_values.mp hstored
      exact .inl (Dict.mem_values.mpr ⟨k, by rw [hrev.get? h.key, hk]; rfl⟩)
    · exact .inr (PublicSession.revokes_inactive hinactive)
  · have hdigests : (b.reference.map p.revokes).map (·.tokenDigest) =
        b.reference.map (·.tokenDigest) := by simp
    rw [hdigests]
    exact h.digests
  · intro s hs
    obtain ⟨s₀, hs₀, rfl⟩ := List.mem_map.mp hs
    rw [PublicSession.revokes_tokenDigest]
    exact h.registered s₀ hs₀

/-! ### Runs -/

/-- What a call that returned did to the registry, and what the reference replays of it. -/
inductive Effect (c : TimedCall) (sessions : Registry) (reply : AuthReply) : Registry → Prop
  | idle (h : ∀ l, replay c reply l = l) : Effect c sessions reply sessions
  | registers {r : Registration} {p : PublicSession} {t : Registry}
      (htoken : c.token = some r.token) (hinstant : c.instant = .ok r.instant)
      (hreg : Registers r sessions p t) (h : ∀ l, replay c reply l = l ++ [p.registered r.token]) :
      Effect c sessions reply t
  | revokes {i : Instant} {p : PublicSession} {t : Registry} (hrev : Revokes i sessions p t)
      (h : ∀ l, replay c reply l = l.map p.revokes) : Effect c sessions reply t

theorem TimedCall.run_wp {sessions : Registry} (hkey : sessions.All fun k s => s.id = k) :
    Prog.wp c.run (Effect c sessions) (fun e t => e = .pending ∨ t = sessions) sessions := by
  obtain ⟨call, now, clock⟩ := c
  cases call with
  | register principalId role token ttlSeconds draws =>
    refine (Prog.wp_map _ _).mpr (Prog.wp_mono register_wp ?_ ?_)
    · rintro p t ⟨r, hr, -, hreg⟩
      obtain ⟨rfl, -, hinstant, -⟩ := validateRegistration_eq_ok hr
      exact .registers rfl hinstant hreg fun _ => rfl
    · rintro e t (⟨rfl, -⟩ | ⟨rfl, -⟩)
      · exact .inl rfl
      · exact .inr rfl
  | authenticate token permission =>
    refine (Prog.wp_map _ _).mpr (Prog.wp_mono (authenticate_wp permission) ?_ ?_)
    · rintro found _ rfl
      exact .idle fun _ => rfl
    · exact fun _ _ h => .inr h
  | revoke sessionId actorSessionId =>
    refine (Prog.wp_map _ _).mpr (Prog.wp_mono (revoke_wp hkey _ _) ?_ ?_)
    · rintro p t ⟨i, hrev⟩
      exact .revokes hrev fun _ => rfl
    · exact fun _ _ h => .inr h.2
  | list =>
    refine (Prog.wp_map _ _).mpr (Prog.wp_mono listSessions_wp ?_ ?_)
    · rintro l _ rfl
      exact .idle fun _ => rfl
    · exact fun _ _ h => .inr h

theorem Book.next_tokens (h : Mirrors used b) (hc : b.Admits used c) :
    ∀ t ∈ (b.next c).tokens, t ∈ used := by
  intro t ht
  rcases List.mem_append.mp ht with ht | ht
  · exact (hc.fresh t (Option.mem_toList.mp ht)).1
  · exact h.tokens t ht

theorem Book.next_last (hc : b.Admits used c) : b.last ≤ (b.next c).last := by
  show b.last ≤ match c.instant with | .ok t => t | .error _ => b.last
  split
  · rename_i t ht
    exact hc.later t ht
  · exact le_refl _

/-- A call keeps the registry in step with its reference. -/
theorem Mirrors.next (h : Mirrors used b) (hinj : used.InjOn tokenDigest) (hc : b.Admits used c) :
    Mirrors used (b.next c) := by
  have htokens := Book.next_tokens h hc
  have hlast := Book.next_last hc
  have hmore : ∀ t ∈ b.tokens, t ∈ (b.next c).tokens := fun t ht => List.mem_append_right _ ht
  have hwp := c.run_wp h.key
  unfold Prog.wp at hwp
  cases hrun : c.run b.sessions with
  | error e t =>
    simp only [hrun] at hwp
    rcases hwp with rfl | rfl
    · exact absurd hrun (hc.returns t)
    · exact h.later (by simp [Book.next, Prog.final, hrun]) (by simp [Book.next, hrun]) hmore
        htokens hlast
  | ok reply t =>
    simp only [hrun] at hwp
    have hsessions : (b.next c).sessions = t := by simp [Book.next, Prog.final, hrun]
    have hreference : (b.next c).reference = replay c reply b.reference := by
      simp [Book.next, hrun]
    cases hwp with
    | idle hsame => exact h.later hsessions (hreference.trans (hsame _)) hmore htokens hlast
    | revokes hrev hmarks =>
      exact (h.revoke hrev).later hsessions (hreference.trans (hmarks _)) hmore htokens hlast
    | @registers r p t htoken hinstant hreg hadds =>
      obtain ⟨hused, hnew⟩ := hc.fresh _ htoken
      have hafter := h.register hinj hused hnew (hc.later _ hinstant) hreg
      refine hafter.later hsessions (hreference.trans (hadds _)) ?_ htokens ?_
      · simp [Book.next, htoken]
      · simp [Book.next, hinstant]

theorem mirrors_leads (hinj : used.InjOn tokenDigest) (h : Book.init.Leads used b) :
    Mirrors used b := by
  induction h with
  | refl => exact mirrors_init
  | step _ hc ih => exact ih.next hinj hc

theorem Mirrors.values_digests (h : Mirrors used b) :
    (b.sessions.values.map (·.tokenDigest)).Nodup := by
  have hkeys : (b.sessions.values.map (·.id)).Nodup :=
    (Dict.map_values_eq_keys h.key).symm ▸ b.sessions.keys_nodup
  refine List.Nodup.map_on ?_ (List.Nodup.of_map _ hkeys)
  intro s hs s' hs' he
  exact List.inj_on_of_nodup_map h.digests (h.stored s hs) (h.stored s' hs') he

/-- The registry and its reference find the same session, or none that is active. -/
theorem Mirrors.authorized (h : Mirrors used b) (digest : List ℕ) (permission : Option Permission)
    {instant : Instant} (hlast : b.last ≤ instant) :
    ((matched digest b.sessions.values).bind fun s => s.authorized permission instant) =
      (matched digest b.reference).bind fun s => s.authorized permission instant := by
  cases hfound : matched digest b.sessions.values with
  | some s =>
    obtain ⟨hs, hdigest⟩ := (matched_eq_some h.values_digests).mp hfound
    rw [(matched_eq_some h.digests).mpr ⟨h.stored s hs, hdigest⟩]
  | none =>
    cases hreference : matched digest b.reference with
    | none => rfl
    | some s =>
      obtain ⟨hs, hdigest⟩ := (matched_eq_some h.digests).mp hreference
      rcases h.gone s hs with hstored | hinactive
      · rw [(matched_eq_some h.values_digests).mpr ⟨hstored, hdigest⟩] at hfound
        cases hfound
      · have hlater := OperatorSession.inactive_later hinactive hlast
        simp [OperatorSession.authorized, hlater]

theorem Mirrors.authenticates (h : Mirrors used b) (token : Json) (permission : Option PyStr)
    {now : Json} {clock : Instant} (hlater : ∀ t, resolveNow now clock = .ok t → b.last ≤ t) :
    authenticateAmong b.sessions.values token permission now clock =
      authenticateAmong b.reference token permission now clock := by
  unfold authenticateAmong
  refine bind_congr fun permission => ?_
  split
  · split
    · cases hinstant : resolveNow now clock with
      | error e => rfl
      | ok instant =>
        show Except.ok _ = Except.ok _
        rw [h.authorized _ permission (hlater _ hinstant)]
    · rfl
  · rfl

/-! ### Tokens that lapsed -/

theorem Book.Leads.trans {b' b'' : Book} (h : b.Leads used b') (h' : b'.Leads used b'') :
    b.Leads used b'' := by
  induction h' with
  | refl => exact h
  | step _ hc ih => exact .step ih hc

/-- The session of a digest was revoked or expired. -/
def Book.Lapsed (b : Book) (digest : List ℕ) : Prop :=
  ∃ s ∈ b.reference, s.tokenDigest = digest ∧ s.isActiveLocked b.last = false

/-- No replayed call brings a session back. -/
theorem replay_lapsed {reply : AuthReply} {l : List OperatorSession} {s : OperatorSession}
    {t : Instant} (hs : s ∈ l) (ht : s.isActiveLocked t = false) :
    ∃ s' ∈ replay c reply l, s'.tokenDigest = s.tokenDigest ∧ s'.isActiveLocked t = false := by
  unfold replay
  split
  · exact ⟨s, List.mem_append_left _ hs, rfl, ht⟩
  · exact ⟨_, List.mem_map_of_mem hs, PublicSession.revokes_tokenDigest _ _,
      PublicSession.revokes_inactive ht⟩
  · exact ⟨s, hs, rfl, ht⟩

theorem Book.Lapsed.next {digest : List ℕ} (h : b.Lapsed digest) (hc : b.Admits used c) :
    (b.next c).Lapsed digest := by
  obtain ⟨s, hs, rfl, hinactive⟩ := h
  have hlast := Book.next_last hc
  show ∃ s' ∈ (match c.run b.sessions with
    | .ok reply _ => replay c reply b.reference
    | .error _ _ => b.reference), _
  split
  · obtain ⟨s', hs', hdigest, hinactive'⟩ := replay_lapsed hs hinactive
    exact ⟨s', hs', hdigest, OperatorSession.inactive_later hinactive' hlast⟩
  · exact ⟨s, hs, rfl, OperatorSession.inactive_later hinactive hlast⟩

theorem Book.Lapsed.leads {digest : List ℕ} {b' : Book} (h : b.Lapsed digest)
    (hb : b.Leads used b') : b'.Lapsed digest := by
  induction hb with
  | refl => exact h
  | step _ hc ih => exact ih.next hc

/-- The reference refuses a lapsed token. -/
theorem Mirrors.lapsed (h : Mirrors used b) {t : PyStr} (hlapsed : b.Lapsed (tokenDigest t))
    (permission : Option PyStr) {now : Json} {clock : Instant}
    (hlater : ∀ t, resolveNow now clock = .ok t → b.last ≤ t) (p : PublicSession) :
    authenticateAmong b.reference (.str t) permission now clock ≠ .ok (some p) := by
  obtain ⟨s, hs, hdigest, hinactive⟩ := hlapsed
  intro hok
  unfold authenticateAmong at hok
  obtain ⟨permission, -, hok⟩ := bind_eq_ok.mp hok
  simp only at hok
  split at hok
  · obtain ⟨instant, hinstant, hok⟩ := bind_eq_ok.mp hok
    have hlater := OperatorSession.inactive_later hinactive (hlater _ hinstant)
    rw [(matched_eq_some h.digests).mpr ⟨hs, hdigest⟩] at hok
    simp [OperatorSession.authorized, hlater, pure, Except.pure] at hok
  · cases hok

/-! ### The registry is the reference -/

/-- A registration whose token is new is refused by the limit exactly when the registry is full of
    active sessions. -/
theorem register_limited {principalId role token ttlSeconds now : Json} {clock : Instant}
    {draws : List HexToken} {sessions : Registry}
    (hnew : ∀ r, validateRegistration principalId role token ttlSeconds now clock = .ok r →
      ∀ s ∈ sessions.values, s.tokenDigest ≠ tokenDigest r.token) :
    (∃ e t, register principalId role token ttlSeconds now clock draws sessions =
        .error (.auth e) t ∧ e.status = 429) ↔
      ∃ r, validateRegistration principalId role token ttlSeconds now clock = .ok r ∧
        Crowded r.instant sessions := by
  have hwp : Prog.wp (register principalId role token ttlSeconds now clock draws) _ _ sessions :=
    register_wp
  unfold Prog.wp at hwp
  constructor
  · rintro ⟨e, t, hrun, hstatus⟩
    rw [hrun] at hwp
    rcases hwp with ⟨he, -⟩ | ⟨-, hbad | ⟨r, hr, ⟨s, hs, hdigest⟩ | ⟨-, hcrowd⟩⟩⟩
    · cases he
    · rcases validateRegistration_checks _ hbad with he | ⟨a, ha, h400⟩
      · cases he
      · cases ha
        omega
    · exact absurd hdigest (hnew r hr s hs)
    · exact ⟨r, hr, hcrowd⟩
  · rintro ⟨r, hr, hcrowd⟩
    cases hrun : register principalId role token ttlSeconds now clock draws sessions with
    | ok p t =>
      rw [hrun] at hwp
      obtain ⟨r', hr', hfree, -⟩ := hwp
      rw [hr, Except.ok.injEq] at hr'
      exact absurd (hr' ▸ hcrowd) hfree
    | error e t =>
      rw [hrun] at hwp
      rcases hwp with ⟨-, r', hr', hfree⟩ | ⟨-, hbad | ⟨r', hr', ⟨s, hs, hdigest⟩ | ⟨rfl, -⟩⟩⟩
      · rw [hr, Except.ok.injEq] at hr'
        exact absurd (hr' ▸ hcrowd) hfree
      · rw [hr] at hbad
        cases hbad
      · exact absurd hdigest (hnew r' hr' s hs)
      · exact ⟨_, t, rfl, rfl⟩

theorem Mirrors.unregistered (h : Mirrors used b) (hinj : used.InjOn tokenDigest) {t : PyStr}
    (hused : t ∈ used) (hnew : t ∉ b.tokens) :
    ∀ s ∈ b.sessions.values, s.tokenDigest ≠ tokenDigest t := by
  intro s hs he
  obtain ⟨t', ht', hdigest⟩ := h.registered s (h.stored s hs)
  have hsame : t' = t := hinj (h.tokens t' ht') hused (hdigest.trans he)
  exact hnew (hsame ▸ ht')

end

/-- Over every run of calls whose instants do not decrease and that register different tokens, on
    which the digest is injective: authentication answers as a registry that never evicts would; the
    active sessions are retained, at most 64 in all, with different digests and ids; a registration
    is refused by the limit exactly when 64 sessions are retained and all active; and a token whose
    session was revoked or expired never authenticates again. -/
theorem session_registry {used : Set PyStr} (hinj : used.InjOn tokenDigest) {b : Book}
    (h : Book.init.Leads used b) :
    (∀ token permission now clock, (∀ t, resolveNow now clock = .ok t → b.last ≤ t) →
      authenticate token permission now clock b.sessions =
        authCheck (authenticateAmong b.reference token permission now clock) b.sessions) ∧
    (∀ s ∈ b.reference, ∀ now, b.last ≤ now → s.isActiveLocked now = true →
      s ∈ b.sessions.values) ∧
    (b.sessions.size ≤ maxOperatorSessions ∧ (b.sessions.values.map (·.tokenDigest)).Nodup ∧
      (b.sessions.values.map (·.id)).Nodup) ∧
    (∀ principalId role token ttlSeconds now clock draws,
      (∀ t, token = .str t → t ∈ used ∧ t ∉ b.tokens) →
      ((∃ e t, register principalId role token ttlSeconds now clock draws b.sessions =
          .error (.auth e) t ∧ e.status = 429) ↔
        ∃ r, validateRegistration principalId role token ttlSeconds now clock = .ok r ∧
          b.sessions.size = maxOperatorSessions ∧
          ∀ s ∈ b.sessions.values, s.isActiveLocked r.instant = true)) ∧
    (∀ s ∈ b.reference, s.isActiveLocked b.last = false → ∀ b', b.Leads used b' →
      ∀ t, tokenDigest t = s.tokenDigest → ∀ permission now clock,
        (∀ i, resolveNow now clock = .ok i → b'.last ≤ i) → ∀ p sessions,
          authenticate (.str t) permission now clock b'.sessions ≠ .ok (some p) sessions) := by
  have hb := mirrors_leads hinj h
  refine ⟨?_, ?_, ⟨hb.bounded, hb.values_digests, ?_⟩, ?_, ?_⟩
  · intro token permission now clock hlater
    rw [← hb.authenticates token permission hlater]
    rfl
  · intro s hs now hlast hactive
    rcases hb.gone s hs with hstored | hinactive
    · exact hstored
    · rw [OperatorSession.inactive_later hinactive hlast] at hactive
      cases hactive
  · exact (Dict.map_values_eq_keys hb.key).symm ▸ b.sessions.keys_nodup
  · intro principalId role token ttlSeconds now clock draws hnew
    rw [register_limited]
    · refine exists_congr fun r => and_congr_right fun _ => and_congr_left fun _ => ?_
      exact ⟨fun hfull => le_antisymm hb.bounded hfull, fun hfull => hfull.ge⟩
    · intro r hr
      obtain ⟨hused, hfresh⟩ := hnew _ (validateRegistration_eq_ok hr).1
      exact hb.unregistered hinj hused hfresh
  · intro s hs hinactive b' hleads t ht permission now clock hlater p sessions hok
    have hb' := mirrors_leads hinj (h.trans hleads)
    have hlapsed : b'.Lapsed (tokenDigest t) :=
      Book.Lapsed.leads ⟨s, hs, ht.symm, hinactive⟩ hleads
    refine hb'.lapsed hlapsed permission hlater p ?_
    rw [← hb'.authenticates _ permission hlater]
    have hrun : authCheck (authenticateAmong b'.sessions.values (.str t) permission now clock)
        b'.sessions = .ok (some p) sessions := hok
    cases hans : authenticateAmong b'.sessions.values (.str t) permission now clock with
    | error e => rw [hans] at hrun; cases hrun
    | ok found => rw [hans] at hrun; cases hrun; rfl

/-! ### Two sessions, one of them revoked -/

/-- A first administrator registers. -/
def firstRegistration : TimedCall :=
  { call := .register (.str "lab-admin") (.str "admin") (.str "bootstrap-token-0123456789")
      (.int defaultSessionTtlSeconds) [⟨"0123456789abcdef01234567", by decide⟩]
    now := .int 5, clock := 0 }

/-- An operator follows. -/
def secondRegistration : TimedCall :=
  { call := .register (.str "lab-operator") (.str "operator") (.str "operator-token-0123456789")
      (.int defaultSessionTtlSeconds) [⟨"89abcdef0123456789abcdef", by decide⟩]
    now := .int 6, clock := 0 }

/-- The administrator revokes the operator. -/
def revocation : TimedCall :=
  { call := .revoke (.str "op-session-89abcdef0123456789abcdef")
      (.str "op-session-0123456789abcdef01234567")
    now := .int 7, clock := 0 }

/-- Their tokens. -/
def registeredTokens : Set PyStr :=
  {PyStr.text "bootstrap-token-0123456789", PyStr.text "operator-token-0123456789"}

/-- The call is made at `i`, not earlier than the calls before it, and returns. -/
def Book.ReturnsAt (b : Book) (c : TimedCall) (i : Instant) : Prop :=
  c.instant = .ok i ∧ b.last ≤ i ∧ (match c.run b.sessions with
    | .ok _ _ => true
    | .error _ _ => false) = true

instance (b : Book) (c : TimedCall) (i : Instant) : Decidable (b.ReturnsAt c i) :=
  inferInstanceAs (Decidable (_ ∧ _ ∧ _))

theorem Book.ReturnsAt.admits {used : Set PyStr} {b : Book} {c : TimedCall} {i : Instant}
    (h : b.ReturnsAt c i) (hfresh : ∀ t, c.token = some t → t ∈ used ∧ t ∉ b.tokens) :
    b.Admits used c := by
  obtain ⟨hinstant, hlast, hreturns⟩ := h
  refine ⟨hfresh, fun t ht => ?_, fun t ht => ?_⟩
  · rw [hinstant] at ht
    cases ht
    exact hlast
  · rw [ht] at hreturns
    cases hreturns

/-- The three calls return, and leave two sessions of which the operator's is inactive. -/
theorem revocation_evaluated :
    tokenDigest "bootstrap-token-0123456789" ≠ tokenDigest "operator-token-0123456789" ∧
    Book.init.ReturnsAt firstRegistration 5 ∧
    let b₁ := Book.init.next firstRegistration
    b₁.ReturnsAt secondRegistration 6 ∧
    let b₂ := b₁.next secondRegistration
    b₂.ReturnsAt revocation 7 ∧
    let b := b₂.next revocation
    b.sessions.size = 2 ∧ resolveNow (.int 8) 0 = .ok 8 ∧ b.last ≤ 8 ∧ ∃ s ∈ b.reference,
      s.tokenDigest = tokenDigest "operator-token-0123456789" ∧
        s.isActiveLocked b.last = false := by
  decide +kernel

/-- The operator is refused for ever, the administrator is answered as by the reference. -/
theorem session_registry_revoked :
    let b := ((Book.init.next firstRegistration).next secondRegistration).next revocation
    b.sessions.size = 2 ∧
    (∀ token permission, authenticate token permission (.int 8) 0 b.sessions =
      authCheck (authenticateAmong b.reference token permission (.int 8) 0) b.sessions) ∧
    ∀ p sessions, authenticate (.str "operator-token-0123456789") (some "read") (.int 8) 0
      b.sessions ≠ .ok (some p) sessions := by
  intro b
  obtain ⟨hne, hfirst, hsecond, hthird, hsize, hinstant, hlast, s, hs, hdigest, hrevoked⟩ :=
    revocation_evaluated
  have hinj : Set.InjOn tokenDigest registeredTokens := by
    rintro t (rfl | rfl) t' (rfl | rfl) h
    · rfl
    · exact absurd h hne
    · exact absurd h.symm hne
    · rfl
  have hfirst' : Book.init.Admits registeredTokens firstRegistration :=
    hfirst.admits (by rintro t ht; cases ht; simp [registeredTokens, Book.init])
  have hsecond' : (Book.init.next firstRegistration).Admits registeredTokens secondRegistration :=
    hsecond.admits (by rintro t ht; cases ht; exact ⟨by simp [registeredTokens], by decide⟩)
  have hthird' : ((Book.init.next firstRegistration).next secondRegistration).Admits
      registeredTokens revocation := hthird.admits (by rintro t ht; cases ht)
  have hlater : ∀ t, resolveNow (.int 8) 0 = .ok t → b.last ≤ t := by
    intro t ht
    rw [hinstant] at ht
    cases ht
    exact hlast
  obtain ⟨hanswers, -, -, -, hnever⟩ :=
    session_registry hinj (((Book.Leads.refl.step hfirst').step hsecond').step hthird')
  exact ⟨hsize, fun token permission => hanswers _ _ _ _ hlater,
    hnever s hs hrevoked b .refl _ hdigest.symm _ _ _ hlater⟩

end C2Lab
