import C2Lab.Core.Counting
import C2Lab.Core.NodeLife

/-! Session tokens over whole runs.

    A token returned by `enroll_node` opens the session of that node and nothing else, until the
    session ends; from then on no operation, however the node table is refilled, makes it open
    anything. -/

namespace C2Lab

variable {w : World} {s s' s₀ s₁ : LabState}

/-- `LabError("invalid node session", ...)`. -/
def sessionError : Exc := labError "invalid node session" "invalid_node_session" 401

/-! ### Authentication -/

/-- A token of the right form is compared with the one recorded for the node, if there is one. -/
theorem authenticateNode_text (nodeId : Json) (token : String) (s : LabState) :
    ∃ b, authenticateNode nodeId (.str (.text token)) s = .ok b ∧
      (b = true ↔ ∃ id n, nodeId = .str id ∧ s.nodes.get? id = some n ∧
        n.sessionToken = .text token) := by
  unfold authenticateNode
  cases nodeId with
  | str id =>
    cases hn : s.nodes.get? id with
    | none => exact ⟨false, by simp only [hn], by simp [hn]⟩
    | some n => exact ⟨n.sessionToken == .text token, by simp [hn, PyStr.encodes], by simp [hn]⟩
  | _ => exact ⟨false, rfl, by simp⟩

/-- What a token does not open is refused before anything else is done. -/
theorem requireNodeSession_refused {nodeId token : Json}
    (h : authenticateNode nodeId token s = .ok false) :
    requireNodeSessionLocked nodeId token s = .error sessionError s := by
  simp only [requireNodeSessionLocked, bind, EStateM.bind, Prog.get_apply, h, check_ok, pure,
    EStateM.pure]
  rfl

theorem disconnectNode_refused {nodeId token : Json}
    (h : authenticateNode nodeId token s = .ok false) :
    disconnectNode w nodeId token s = .error sessionError s := by
  simp only [disconnectNode, bind, EStateM.bind, requireNodeSession_refused h]

/-- A poll or a submission is refused in the state its expiry pass left. -/
theorem pollNode_refused {nodeId token : Json} {now : Instant}
    (he : expireLocked w now s = .ok ⟨⟩ s₁) (h : authenticateNode nodeId token s₁ = .ok false) :
    pollNode w nodeId token now s = .error sessionError s₁ := by
  simp only [pollNode, bind, EStateM.bind, he, requireNodeSession_refused h]

theorem submitResult_refused {nodeId token : Json} {now : Instant}
    (he : expireLocked w now s = .ok ⟨⟩ s₁) (h : authenticateNode nodeId token s₁ = .ok false)
    (taskId status result : Json) :
    submitResult w nodeId token taskId status result now s = .error sessionError s₁ := by
  simp only [submitResult, bind, EStateM.bind, he, requireNodeSession_refused h]

/-! ### An enrolled session -/

/-- What `enroll_node` returns: a fresh identifier with a fresh token. -/
theorem enrollNode_issued {name version profile capabilities interval jitter : Json}
    {now : Instant} {reply : EnrollResponse} (hs : Safe w s₀)
    (he : enrollNode w name version profile capabilities interval jitter now s₀ = .ok reply s₁)
    (hf : w.FreshBelow s₁.draws) : ∃ j k, reply.node.id = w.nodeId j ∧
      reply.sessionToken = .text (w.token k) ∧ TokenOf w j k s₁.toRecords s₁.draws := by
  have hwp := enrollNode_wp hs name version profile capabilities interval jitter now
  rw [Prog.wp_run he] at hwp
  obtain ⟨e, hv, henrolled⟩ := hwp
  -- the node is added to a safe state, whether or not another one had to go
  have hadd : ∀ m : LabState, Safe w m → w.FreshBelow (m.addNode w (m.newNode w e now)).draws →
      TokenOf w m.draws (m.draws + 1) (m.addNode w (m.newNode w e now)).toRecords
        (m.addNode w (m.newNode w e now)).draws := by
    intro m hm hf
    have hdraws : m.draws + 2 ≤ (m.addNode w (m.newNode w e now)).draws := by
      simp [LabState.addNode, LabState.tick, Journal.draws_recordLocked,
        Journal.draws_auditLocked]
    refine ⟨by omega, by omega, fun id n hn => ?_⟩
    simp only [LabState.addNode, LabState.toRecords_auditLocked, LabState.toRecords_recordLocked,
      LabState.toRecords_setNode, LabState.toRecords_tick, LabState.newNode, Dict.get?_set] at hn
    split at hn
    · rename_i hid
      cases hn
      simp [hid]
    · rename_i hid
      obtain ⟨i, hi, htok⟩ := (hm.node_wf hn).token_drawn
      have hne := hf.token_ne (i := i) (j := m.draws + 1) (by omega) (by omega) (by omega)
      simp [htok, hne, hid]
  cases henrolled with
  | added => exact ⟨_, _, rfl, rfl, hadd s₀ hs hf⟩
  | replaced hfull hn hc hs₁ =>
    subst hs₁
    exact ⟨_, _, rfl, rfl, hadd _ ((Write.pruneNode hn hc).safe hs fun _ => hf.mono
      ((Write.addNode hv now).draws_le)) hf⟩

/-- A token is compared, so what it does not open it refuses. -/
theorem authenticateNode_refuses {nodeId : Json} {tok : String}
    (h : authenticateNode nodeId (.str (.text tok)) s ≠ .ok true) :
    authenticateNode nodeId (.str (.text tok)) s = .ok false := by
  obtain ⟨b, hb, -⟩ := authenticateNode_text nodeId tok s
  cases b with
  | false => exact hb
  | true => exact absurd hb h

theorem TokenOf.accepted_iff {j k : ℕ} (h : TokenOf w j k s.toRecords s.draws) (nodeId : Json) :
    authenticateNode nodeId (.str (.text (w.token k))) s = .ok true ↔
      nodeId = .str (w.nodeId j) ∧ ∃ n, s.nodes.get? (w.nodeId j) = some n ∧
        n.sessionActive = true := by
  obtain ⟨b, hb, hiff⟩ := authenticateNode_text nodeId (w.token k) s
  rw [hb, Except.ok.injEq, hiff]
  constructor
  · rintro ⟨id, n, rfl, hn, htok⟩
    obtain ⟨rfl, ha⟩ := (h.opens id n hn).mp htok
    exact ⟨rfl, n, hn, ha⟩
  · rintro ⟨rfl, n, hn, ha⟩
    exact ⟨_, n, rfl, hn, (h.opens _ n hn).mpr ⟨rfl, ha⟩⟩

/-- What a token does not open, it never opens again. -/
theorem TokenOf.never {j k : ℕ} (h : TokenOf w j k s.toRecords s.draws) (hs : Sound w s)
    (hl : Later w s s') {nodeId : Json}
    (hne : authenticateNode nodeId (.str (.text (w.token k))) s ≠ .ok true) :
    authenticateNode nodeId (.str (.text (w.token k))) s' = .ok false := by
  refine authenticateNode_refuses fun hok => hne ((h.accepted_iff nodeId).mpr ?_)
  have h' := (tokenOf_kept w j k).later hl hs h
  obtain ⟨hnode, n', hn', ha'⟩ := (h'.accepted_iff nodeId).mp hok
  refine ⟨hnode, ?_⟩
  by_contra hnone
  have hover : SessionOver w j s.toRecords s.draws :=
    ⟨h.id_drawn, fun n hn => by
      by_contra hact
      exact hnone ⟨n, hn, by simpa using hact⟩⟩
  have hover' := (sessionOver_kept w j).later hl hs hover
  rw [hover'.2 n' hn'] at ha'
  cases ha'

/-- `disconnect_node` ends the session it names. -/
theorem disconnectNode_over {nodeId token : Json} {reply : PublicNode} (hs : Safe w s)
    (h : disconnectNode w nodeId token s = .ok reply s') :
    ∃ id n, nodeId = .str id ∧ s'.nodes.get? id = some n ∧ n.sessionActive = false := by
  have hwp := disconnectNode_wp hs nodeId token
  rw [Prog.wp_run h] at hwp
  obtain ⟨-, -, n, m, hsess, hm, hoff, -⟩ := hwp
  exact ⟨n.id, m, hsess.node_eq, hm, hoff⟩

/-- A closed session refuses its token. -/
theorem TokenOf.disconnected {j k : ℕ} (h : TokenOf w j k s.toRecords s.draws) (hs : Sound w s)
    {nodeId : Json} {reply : PublicNode}
    (hd : disconnectNode w nodeId (.str (.text (w.token k))) s = .ok reply s')
    (hf : w.FreshBelow s'.draws) :
    authenticateNode nodeId (.str (.text (w.token k))) s' = .ok false := by
  obtain ⟨id, n, rfl, hn, hoff⟩ := disconnectNode_over hs.safe hd
  have hstep : s' = step w s (.disconnectNode (.str id) (.str (.text (w.token k)))) := by
    simp only [step, Op.run, Prog.final, Functor.map, EStateM.map, hd]
  have h' := (tokenOf_kept w j k).later (.single ⟨_, hstep, hf⟩) hs h
  refine authenticateNode_refuses fun hok => ?_
  obtain ⟨heq, n', hn', ha'⟩ := (h'.accepted_iff _).mp hok
  rw [← Json.str.inj heq, hn, Option.some.injEq] at hn'
  rw [← hn', hoff] at ha'
  cases ha'

/-- A lab without nodes refuses every token. -/
theorem reset_refuses {nodeId actor : Json} {tok : String} (h : reset w actor s = .ok ⟨⟩ s') :
    authenticateNode nodeId (.str (.text tok)) s' = .ok false := by
  have hnone : s'.nodes = .empty := by
    have hwp : Prog.wp (reset w actor) (fun _ s' => s'.nodes = .empty) (fun _ _ => True) s := by
      rw [reset]
      simp only [Prog.wp_bind, wp_check, Prog.wp_modify]
      exact ⟨fun a _ => by simp [LabState.cleared], fun _ _ => trivial⟩
    rwa [Prog.wp_run h] at hwp
  refine authenticateNode_refuses fun hok => ?_
  obtain ⟨b, hb, hiff⟩ := authenticateNode_text nodeId tok s'
  rw [hb, Except.ok.injEq] at hok
  obtain ⟨id, n, -, hn, -⟩ := hiff.mp hok
  rw [hnone, Dict.get?_empty] at hn
  cases hn

/-- Session tokens. The pair of an identifier and a token that `enroll_node` returned is accepted
    exactly when the identifier is the one returned with the token, the node is retained and its
    session is open. Once refused, as after a disconnect or a reset, it is refused for ever, and the
    operations of a Node answer it with a 401 and change nothing beyond their expiry pass. -/
theorem session_tokens {name version profile capabilities interval jitter : Json} {now : Instant}
    {reply : EnrollResponse} (hr : Reachable w s₀)
    (he : enrollNode w name version profile capabilities interval jitter now s₀ = .ok reply s₁)
    (hf : w.FreshBelow s₁.draws) (hl : Later w s₁ s) (nodeId : Json) :
    let token : Json := .str reply.sessionToken
    (authenticateNode nodeId token s = .ok true ↔ nodeId = .str reply.node.id ∧
      ∃ n, s.nodes.get? reply.node.id = some n ∧ n.sessionActive = true) ∧
    (authenticateNode nodeId token s ≠ .ok true →
      ∀ s', Later w s s' → authenticateNode nodeId token s' = .ok false) ∧
    (∀ r s', disconnectNode w nodeId token s = .ok r s' → w.FreshBelow s'.draws →
      authenticateNode nodeId token s' = .ok false) ∧
    (∀ actor s', reset w actor s = .ok ⟨⟩ s' → authenticateNode nodeId token s' = .ok false) ∧
    (authenticateNode nodeId token s ≠ .ok true →
      disconnectNode w nodeId token s = .error sessionError s) ∧
    ∀ now, ∃ s', expireLocked w now s = .ok ⟨⟩ s' ∧
      (authenticateNode nodeId token s' ≠ .ok true →
        pollNode w nodeId token now s = .error sessionError s' ∧
        ∀ taskId status result,
          submitResult w nodeId token taskId status result now s = .error sessionError s') := by
  intro token
  have hstep : s₁ =
      step w s₀ (.enrollNode name version profile capabilities interval jitter now) := by
    simp only [step, Op.run, Prog.final, Functor.map, EStateM.map, he]
  have hr₁ : Reachable w s₁ := hstep ▸ hr.step (hstep ▸ hf)
  obtain ⟨j, k, hid, htok, hissued⟩ := enrollNode_issued hr.sound.safe he hf
  have hkept := (tokenOf_kept w j k).later hl hr₁.sound hissued
  have hs := (hr₁.later hl).sound
  have htoken : token = .str (.text (w.token k)) := congrArg Json.str htok
  rw [htoken, hid]
  refine ⟨hkept.accepted_iff nodeId, fun hne s' hl' => hkept.never hs hl' hne,
    fun r s' hd hfresh => hkept.disconnected hs hd hfresh, fun actor s' h => reset_refuses h,
    fun hne => disconnectNode_refused (authenticateNode_refuses hne), fun now => ?_⟩
  obtain ⟨_, s', hexp, -⟩ := Prog.exists_ok (expired_wp hs.safe now)
  exact ⟨s', hexp, fun hne => ⟨pollNode_refused hexp (authenticateNode_refuses hne),
    submitResult_refused hexp (authenticateNode_refuses hne)⟩⟩

namespace Counting

/-- A session at work: its Node polls for a task, and an operator leaves a note. -/
def session : List Op :=
  [queue .ping (.obj []), poll 11, .postOperatorNote (.str "note") (.str "operator") .null]

end Counting

/-- A Node at work is accepted with the token it was given, until it disconnects. -/
theorem session_tokens_session :
    ∃ reply s₁, enrollNode .counting (.str "unit-node") (.str "0.2.0") (.str "training")
        (.arr ((nodeProfiles .training).map Vocabulary.toJson)) (.int 1000) (.int 0) 10
        (.init "stream") = .ok reply s₁ ∧
      let s := exec .counting s₁ Counting.session
      let nodeId : Json := .str reply.node.id
      let token : Json := .str reply.sessionToken
      authenticateNode nodeId token s = .ok true ∧
        ∃ r s', disconnectNode .counting nodeId token s = .ok r s' ∧
          authenticateNode nodeId token s' = .ok false := by
  obtain ⟨reply, s₁, he, hf, htest⟩ := Counting.exists_yielded (m := enrollNode .counting
    (.str "unit-node") (.str "0.2.0") (.str "training")
    (.arr ((nodeProfiles .training).map Vocabulary.toJson)) (.int 1000) (.int 0) 10)
    (s := .init "stream") (p := fun reply s₁ =>
      ((exec .counting s₁ Counting.session).nodes.get? reply.node.id).any (·.sessionActive) &&
      Counting.returns (disconnectNode .counting (.str reply.node.id) (.str reply.sessionToken))
        (exec .counting s₁ Counting.session) &&
      decide (∀ k < 4, (exec .counting s₁ (Counting.session.take k)).draws ≤ 10 ^ 10))
    (by decide +kernel)
  simp only [Bool.and_eq_true, decide_eq_true_eq, Option.any_eq_true] at htest
  obtain ⟨⟨⟨n, hn, hactive⟩, hdisconnects⟩, hdraws⟩ := htest
  obtain ⟨r, s', hd, hfresh⟩ := Counting.exists_returned hdisconnects
  obtain ⟨haccepted, -, hdisconnected, -⟩ := session_tokens ⟨"stream", .refl⟩ he hf
    (World.counting_later s₁ Counting.session hdraws) (.str reply.node.id)
  exact ⟨reply, s₁, he, haccepted.mpr ⟨rfl, n, hn, hactive⟩, r, s', hd,
    hdisconnected r s' hd hfresh⟩

end C2Lab
