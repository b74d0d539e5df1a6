import C2Lab.Node.Exchange

/-! The agreement of a Node and its Teamserver.

    Both sides keep the poll settings of a session, and a `SLEEP` changes them on one side when its
    result is accepted and on the other when the acceptance is heard of. What is between them is at
    most that one result; from this follow that no task is executed twice and that what the
    Teamserver holds is what was executed. -/

namespace C2Lab

variable {w : World} {isoformat : Timestamp → String} {Serves : NodeSystem → Op → Prop}
  {σ σ' : NodeSystem}

/-! ### The invariant -/

/-- The Teamserver holds what an execution came to, as its check stores it. -/
structure Keeps (w : World) (held : NodeTask) (r : PendingResult) : Prop where
  status_eq : held.status = r.status.taskStatus
  checked : ∃ e stored, held.result = some stored ∧ validateTaskResult w.toInterp held.command
    (Vocabulary.toJson r.status) r.result.1 (some e) = .ok (r.status, stored)

/-- The record `n` has the settings the executor has, or will have once it acknowledges the pending
    result the Teamserver has accepted already. -/
structure NodeProcess.Believes (w : World) (p : NodeProcess) (s : LabState) (n : Node) : Prop where
  idle : p.pending = none → p.executor.Agrees w.toInterp n
  ahead : ∀ r, p.pending = some r → ¬s.Knows r.taskId → p.executor.Agrees w.toInterp n
  behind : ∀ r, p.pending = some r → s.Knows r.taskId →
    ∃ x, p.executor.acknowledge r.taskType r.status r.result.1 = .ok x ∧ x.Agrees w.toInterp n

/-- What is kept of a result is that result, unless a `RUNTIME_STATUS` padded its version. -/
theorem Keeps.holds {held : NodeTask} {r : PendingResult} (h : Keeps w held r)
    (hcmd : held.command ≠ .runtimeStatus) : Holds w held r.status r.result := by
  obtain ⟨hst, e, stored, hstored, hchecked⟩ := h
  obtain ⟨_, -, henv, -⟩ := validateTaskResult_eq_ok.mp hchecked
  obtain ⟨hwf, fields, -, hsame⟩ := validateTaskResult_stores r.result.2 hchecked
  refine ⟨hst, henv, stored, hstored, (typeStrictEqual_iff _ _ hwf r.result.2).mpr ?_⟩
  exact hsame.mpr fun hpadded => hcmd hpadded.1

namespace NodeSystem

/-- The reply to a poll of the session `x` brings no task, or one that is new to the Node. -/
def Brings (w : World) (isoformat : Timestamp → String) (σ : NodeSystem) (x : NodeSession)
    (payload : Json) : Prop :=
  NodeClient.polled w.toInterp x.id payload = .ok none ∨
  ∃ k : NodeTask, NodeClient.polled w.toInterp x.id payload = .ok (some (k.toJson isoformat)) ∧
    Assigned w x.id k σ.server ∧ k.command.Valid w.toInterp ∧
    k.command.taskType ∈ nodeProfiles σ.node.executor.profile ∧
    (∀ ε ∈ σ.executed, ε.outcome.taskId = k.id → ε.outcome.Exceeds w.toInterp) ∧
    (k.command ≠ .runtimeStatus → ¬σ.server.Knows k.id)

/-- What a reply to the open call can tell the Node. -/
structure Tells (w : World) (isoformat : Timestamp → String) (σ : NodeSystem) (reply : NodeReply) :
    Prop where
  enrolls : σ.node.session = none → ∀ payload id token, reply = .ok payload →
    NodeClient.enrollment payload = .ok (id, token) → id ∈ σ.issued ∧
      (∀ ε ∈ σ.executed, ε.nodeId ≠ id) ∧
      ∀ n, σ.server.nodes.get? id = some n → σ.node.executor.Agrees w.toInterp n
  polls : ∀ x payload, σ.node.session = some x → σ.node.pending = none → reply = .ok payload →
    σ.Brings w isoformat x payload
  judged : ∀ x r, σ.node.session = some x → σ.node.pending = some r → ∃ k,
    r.Answers w.toInterp isoformat σ.node.executor k ∧ Judged w x.id k r σ.server reply

/-- What holds of a system at every step. -/
structure Sound (w : World) (isoformat : Timestamp → String) (σ : NodeSystem) : Prop where
  reachable : Reachable w σ.server
  calm : σ.node.raised = false
  issued : ∀ a ∈ σ.issued, w.NodeDrawn σ.server.draws a
  session : ∀ x, σ.node.session = some x → x.id ∈ σ.issued
  unenrolled : σ.node.session = none → σ.node.pending = none
  sent : ∀ x id st result, NodeRequest.submit x id st result ∈ σ.sent → ∃ ε ∈ σ.executed,
    ε.nodeId = x.id ∧ ε.outcome.taskId = id ∧ ε.outcome.status = st ∧ ε.outcome.result = result
  calling : ∀ replies, σ.replies = some replies → ∀ request,
    σ.node.request w.toInterp = .ok request → request ∈ σ.sent
  executed : ∀ ε ∈ σ.executed, ε.nodeId ∈ σ.issued ∧ ∃ x k,
    ε.outcome.Answers w.toInterp isoformat x k ∧ Assigned w ε.nodeId k σ.server
  held : ∀ id held, σ.server.Acknowledged id held → held.nodeId ∈ σ.issued →
    ∃ ε ∈ σ.executed, ε.outcome.taskId = id ∧ ε.nodeId = held.nodeId ∧ Keeps w held ε.outcome
  once : σ.executed.Pairwise fun later earlier =>
    later.outcome.taskId = earlier.outcome.taskId → earlier.outcome.Exceeds w.toInterp
  done : ∀ x, σ.node.session = some x → ∀ ε ∈ σ.executed, ε.nodeId = x.id →
    ¬ε.outcome.Exceeds w.toInterp →
    σ.node.pending = some ε.outcome ∨ TaskOver w ε.outcome.taskId σ.server
  pending : ∀ x r, σ.node.session = some x → σ.node.pending = some r →
    ⟨x.id, r⟩ ∈ σ.executed ∧ ∃ k, r.Answers w.toInterp isoformat σ.node.executor k ∧
      Assigned w x.id k σ.server
  agrees : ∀ x n, σ.node.session = some x → σ.server.nodes.get? x.id = some n →
    σ.node.Believes w σ.server n
  replied : ∀ replies reply, σ.replies = some replies → reply ∈ replies → σ.Tells w isoformat reply

end NodeSystem

/-- A Node that has just been started. -/
theorem NodeSystem.Start.sound (h : σ.Start w) : σ.Sound w isoformat := by
  obtain ⟨hreach, ⟨name, x, hnode⟩, hreplies, hsent, hissued, hexecuted⟩ := h
  refine ⟨hreach, ?_, ?_, ?_, ?_, ?_, ?_, ?_, ?_, ?_, ?_, ?_, ?_, ?_⟩ <;>
    simp [hnode, hreplies, hsent, hissued, hexecuted, NodeProcess.start]

/-! ### Operations -/

theorem ExpectedRuntime.after_eq {e : ExpectedRuntime} {c : Command} {st : ResultStatus}
    (h : ¬Settles c st) : e.after c st = e := by
  cases c <;> cases st <;> first | rfl | exact absurd ⟨rfl, rfl⟩ h

namespace NodeSystem

/-- A result that is taken in the name of the Node was computed by it. -/
def Permits (w : World) (σ : NodeSystem) (op : Op) : Prop :=
  ∀ n t st sent stored, Takes w σ.server op n t st sent stored → n.id ∈ σ.issued →
    ∃ ε ∈ σ.executed, ε.nodeId = n.id ∧ ε.outcome.taskId = t.id ∧ ε.outcome.status = st ∧
      ε.outcome.result = sent

/-- So it is if nobody else submits in its name. -/
theorem permits_other {op : Op} (h : ∀ a ∈ σ.issued, ¬op.SubmitsAs a) : σ.Permits w op := by
  rintro n t st sent stored htakes hissued
  obtain ⟨token, now, rfl⟩ := htakes.named
  exact absurd rfl (h n.id hissued)

/-- And so it is of its own requests. -/
theorem Sound.permits (h : σ.Sound w isoformat) {request : NodeRequest} (hsent : request ∈ σ.sent)
    (now : Instant) : σ.Permits w (request.op now) := by
  rintro n t st sent stored htakes -
  obtain ⟨token, time, hop⟩ := htakes.named
  cases request with
  | submit x id status result =>
    simp only [NodeRequest.op, Op.submitResult.injEq, Json.str.injEq] at hop
    obtain ⟨hx, -, hid, hst, hres, -⟩ := hop
    obtain ⟨ε, hε, hnode, htask, hstatus, hresult⟩ := h.sent x id status result hsent
    exact ⟨ε, hε, hnode.trans hx, htask.trans hid, hstatus.trans (Vocabulary.toJson_inj hst),
      hresult.trans hres⟩
  | _ => cases hop

/-- What a result taken from the current session is: a `RUNTIME_STATUS`, or the pending one. -/
theorem Sound.taken (h : σ.Sound w isoformat) {op : Op} (hop : σ.Permits w op) {x : NodeSession}
    (hx : σ.node.session = some x) {n : Node} {t : Task} {st : ResultStatus} {sent : Document}
    {stored : Json} (htakes : Takes w σ.server op n t st sent stored) (hn : n.id = x.id) :
    t.command = .runtimeStatus ∨
      ∃ r, σ.node.pending = some r ∧ r.taskId = t.id ∧ r.status = st := by
  obtain ⟨ε, hε, hnode, htask, hst, -⟩ := hop _ _ _ _ _ htakes (hn ▸ h.session x hx)
  obtain ⟨-, e, k, hanswers, hassigned⟩ := h.executed ε hε
  obtain ⟨-, hcommand⟩ := hassigned.takes htakes (htask.symm.trans hanswers.id_eq)
  by_cases hreport : ε.outcome.reportsStatus = true
  · exact .inl (hcommand.trans (hanswers.reportsStatus_iff.mp hreport))
  · rcases h.done x hx ε hε (hnode.trans hn) (fun hexceeds => hreport hexceeds.1) with
      hpending | hover
    · exact .inr ⟨_, hpending, htask, hst⟩
    · exact absurd hover fun hover => (htask ▸ hover).not_taken htakes

end NodeSystem

/-- What a reply tells goes on to be so. -/
theorem Judged.step {s : LabState} {a : PyStr} {k : NodeTask} {r : PendingResult}
    {reply : NodeReply} (h : Judged w a k r s reply) (hs : Sound w s) {op : Op}
    (hf : w.FreshBelow (C2Lab.step w s op).draws) (ha : w.NodeDrawn s.draws a)
    (hminds : ((C2Lab.step w s op).nodes.get? a).isSome → s.Knows k.id →
      (C2Lab.step w s op).Knows k.id) :
    Judged w a k r (C2Lab.step w s op) reply := by
  have heffect := step_effect hs op hf
  -- a node that is gone does not come back
  have hgone : s.nodes.get? a = none → (C2Lab.step w s op).nodes.get? a = none := by
    intro hnone
    by_contra hsome
    obtain ⟨n', hn'⟩ := Option.ne_none_iff_exists'.mp hsome
    have hback : ∃ n, s.nodes.get? a = some n := by
      cases heffect with
      | nothing _ hset =>
        obtain ⟨n, hn, -⟩ := hset a n' ha hn'
        exact ⟨n, hn⟩
      | result _ _ _ hset =>
        obtain ⟨n, hn, -⟩ := hset a n' ha hn'
        exact ⟨n, hn⟩
    obtain ⟨n, hn⟩ := hback
    rw [hnone] at hn
    cases hn
  cases reply with
  | ok payload =>
    obtain ⟨hover, hknown⟩ := h
    refine ⟨hover.step hs hf, fun hsettles => ?_⟩
    rcases hknown hsettles with hknown | hnone
    · by_cases hsome : ((C2Lab.step w s op).nodes.get? a).isSome = true
      · exact .inl (hminds hsome hknown)
      · exact .inr (by simpa using hsome)
    · exact .inr (hgone hnone)
  | refused status =>
    rcases h with h | h | h | ⟨hover, hunknown⟩
    · exact .inl h
    · exact .inr (.inl h)
    · exact .inr (.inr (.inl h))
    · refine .inr (.inr (.inr ⟨hover.step hs hf, fun hsettles => ?_⟩))
      refine (hunknown hsettles).imp (fun hnot => ?_) hgone
      rintro ⟨held, hk⟩
      cases heffect with
      | nothing hack => exact hnot ⟨held, hack _ _ hk⟩
      | @result _ t _ _ _ _ htakes _ hack =>
        rcases hack _ _ hk with hold | ⟨hid, -⟩
        · exact hnot ⟨held, hold⟩
        · exact (hid ▸ hover).not_taken htakes

namespace NodeSystem

/-- A task is acknowledged anew only for a result the Node computed. -/
theorem Sound.known (h : σ.Sound w isoformat) {op : Op} (hop : σ.Permits w op)
    (hf : w.FreshBelow (step w σ.server op).draws) {a : PyStr} (ha : a ∈ σ.issued) {k : NodeTask}
    (hk : Assigned w a k σ.server) (hcmd : k.command ≠ .runtimeStatus)
    (hknown : (step w σ.server op).Knows k.id) : σ.server.Knows k.id ∨
      ∃ ε ∈ σ.executed, ε.outcome.taskId = k.id ∧ ¬ε.outcome.Exceeds w.toInterp := by
  obtain ⟨held, hheld⟩ := hknown
  cases step_effect h.reachable.sound op hf with
  | nothing hack => exact .inl ⟨held, hack _ _ hheld⟩
  | @result n t _ _ _ _ htakes _ hack =>
    rcases hack _ _ hheld with hold | ⟨hid, -⟩
    · exact .inl ⟨held, hold⟩
    · obtain ⟨hnode, hcommand⟩ := hk.takes htakes hid.symm
      obtain ⟨ε, hε, -, htask, -⟩ := hop _ _ _ _ _ htakes (hnode ▸ ha)
      obtain ⟨-, e, k', hanswers, hassigned⟩ := h.executed ε hε
      obtain ⟨-, hcommand'⟩ := hassigned.takes htakes (htask.symm.trans hanswers.id_eq)
      refine .inr ⟨ε, hε, htask.trans hid.symm, fun hexceeds => hcmd ?_⟩
      exact hcommand.symm.trans (hcommand'.trans (hanswers.reportsStatus_iff.mp hexceeds.1))

/-- What an operation leaves acknowledged was computed by the Node, as far as it is its own. -/
theorem Sound.held_step (h : σ.Sound w isoformat) {op : Op} (hop : σ.Permits w op)
    (hf : w.FreshBelow (step w σ.server op).draws) {id : PyStr} {held : NodeTask}
    (hk : (step w σ.server op).Acknowledged id held) (hissued : held.nodeId ∈ σ.issued) :
    ∃ ε ∈ σ.executed, ε.outcome.taskId = id ∧ ε.nodeId = held.nodeId ∧
      Keeps w held ε.outcome := by
  cases step_effect h.reachable.sound op hf with
  | nothing hack => exact h.held id held (hack _ _ hk) hissued
  | @result n t st sent stored time htakes _ hack =>
    rcases hack _ _ hk with hold | ⟨rfl, rfl⟩
    · exact h.held id held hold hissued
    · have hnode : n.id ∈ σ.issued := htakes.owned ▸ hissued
      obtain ⟨ε, hε, hε_node, htask, rfl, rfl⟩ := hop _ _ _ _ _ htakes hnode
      exact ⟨ε, hε, htask, hε_node.trans htakes.owned.symm, rfl, _, stored, rfl, htakes.checked⟩

/-- The settings of both sides go on to agree. -/
theorem Sound.agrees_step (h : σ.Sound w isoformat) {op : Op} (hop : σ.Permits w op)
    (hf : w.FreshBelow (step w σ.server op).draws) (hminds : σ.Minds (step w σ.server op))
    {x : NodeSession} (hx : σ.node.session = some x) {n' : Node}
    (hn' : (step w σ.server op).nodes.get? x.id = some n') :
    σ.node.Believes w (step w σ.server op) n' := by
  have hissued := h.session x hx
  have hs := h.reachable.sound
  -- the pending result and its task
  have hpending : ∀ r, σ.node.pending = some r → ∃ k,
      r.Answers w.toInterp isoformat σ.node.executor k ∧ Assigned w x.id k σ.server :=
    fun r hr => (h.pending x r hx hr).2
  have hkeeps : ∀ r, σ.node.pending = some r → σ.server.Knows r.taskId →
      (step w σ.server op).Knows r.taskId :=
    fun r hr => hminds x hx r hr (by rw [hn']; rfl)
  -- nothing of it taken, nothing changes
  have hsteady : ∀ n, σ.node.Believes w σ.server n → n'.expectedRuntime = n.expectedRuntime →
      (∀ r, σ.node.pending = some r → (step w σ.server op).Knows r.taskId →
        σ.server.Knows r.taskId) →
      σ.node.Believes w (step w σ.server op) n' := by
    rintro n ⟨hidle, hahead, hbehind⟩ hsame hback
    refine ⟨fun hnone => (hidle hnone).congr hsame, fun r hr hnot => ?_, fun r hr hknown => ?_⟩
    · exact (hahead r hr fun hold => hnot (hkeeps r hr hold)).congr hsame
    · obtain ⟨y, hy, hagrees⟩ := hbehind r hr (hback r hr hknown)
      exact ⟨y, hy, hagrees.congr hsame⟩
  cases step_effect hs op hf with
  | nothing hack hset =>
    obtain ⟨n, hn, hsame⟩ := hset x.id n' (h.issued x.id hissued) hn'
    exact hsteady n (h.agrees x n hx hn) hsame fun r _ ⟨held, hk⟩ => ⟨held, hack _ _ hk⟩
  | @result m t st sent stored time htakes hnew hack hset =>
    obtain ⟨n, hn, hsame⟩ := hset x.id n' (h.issued x.id hissued) hn'
    have hunknown : ¬σ.server.Knows t.id :=
      hs.safe.not_known htakes.recorded (by rw [htakes.dispatched]; rfl)
    by_cases hmine : x.id = m.id
    · obtain ⟨hidle, hahead, hbehind⟩ := h.agrees x n hx hn
      rw [if_pos hmine] at hsame
      have hreports : ∀ {c : Command} {st : ResultStatus}, c = .runtimeStatus →
          n.expectedRuntime.after c st = n.expectedRuntime := by
        rintro _ st rfl
        exact ExpectedRuntime.after_eq fun hsettles => by cases hsettles.1
      have htaken := h.taken hop hx htakes hmine.symm
      refine ⟨fun hnone => ?_, fun r hr hnot => ?_, fun r hr hknown => ?_⟩
      · rcases htaken with hcmd | ⟨r, hr, -⟩
        · exact (hidle hnone).congr (hsame.trans (hreports hcmd))
        · rw [hnone] at hr
          cases hr
      · rcases htaken with hcmd | ⟨r', hr', hid, -⟩
        · exact (hahead r hr fun hold => hnot (hkeeps r hr hold)).congr
            (hsame.trans (hreports hcmd))
        · obtain rfl := Option.some.inj (hr.symm.trans hr')
          exact absurd ⟨_, hid ▸ hnew⟩ hnot
      · by_cases hold : σ.server.Knows r.taskId
        · -- known before, so it is another result that was taken
          obtain ⟨y, hy, hagrees⟩ := hbehind r hr hold
          rcases htaken with hcmd | ⟨r', hr', hid, -⟩
          · exact ⟨y, hy, hagrees.congr (hsame.trans (hreports hcmd))⟩
          · obtain rfl := Option.some.inj (hr.symm.trans hr')
            exact absurd (hid ▸ hold) hunknown
        · -- the pending result was taken: the record moves to where the executor will be
          obtain ⟨k, hanswers, hassigned⟩ := hpending r hr
          have hid : r.taskId = t.id := by
            obtain ⟨held, hk⟩ := hknown
            rcases hack _ _ hk with hk | ⟨hid, -⟩
            · exact absurd ⟨held, hk⟩ hold
            · exact hid
          obtain ⟨-, hcommand⟩ := hassigned.takes htakes (hid.symm.trans hanswers.id_eq)
          refine ⟨_, hanswers.acknowledge, (hahead r hr hold).after (hsame.trans ?_)⟩
          rw [← hcommand]
          rcases htaken with hcmd | ⟨r', hr', -, hst⟩
          · rw [hreports hcmd, hreports hcmd]
          · obtain rfl := Option.some.inj (hr.symm.trans hr')
            rw [hst]
    · rw [if_neg hmine] at hsame
      refine hsteady n (h.agrees x n hx hn) hsame fun r hr ⟨held, hk⟩ => ?_
      rcases hack _ _ hk with hk | ⟨hid, -⟩
      · exact ⟨held, hk⟩
      · obtain ⟨k, hanswers, hassigned⟩ := hpending r hr
        exact absurd (hassigned.takes htakes (hid.symm.trans hanswers.id_eq)).1.symm hmine

/-- What a reply can tell goes on to be so. -/
theorem Tells.step {reply : NodeReply} (ht : σ.Tells w isoformat reply) (h : σ.Sound w isoformat)
    {op : Op} (hop : σ.Permits w op) (hf : w.FreshBelow (C2Lab.step w σ.server op).draws)
    (hminds : σ.Minds (C2Lab.step w σ.server op)) :
    ({ σ with server := C2Lab.step w σ.server op } : NodeSystem).Tells w isoformat reply := by
  have hs := h.reachable.sound
  refine ⟨fun hx payload id token hreply hid => ?_, fun x payload hx hpending hreply => ?_,
    fun x r hx hr => ?_⟩
  · obtain ⟨hissued, hnew, hagrees⟩ := ht.enrolls hx payload id token hreply hid
    refine ⟨hissued, hnew, fun n' hn' => ?_⟩
    cases step_effect hs op hf with
    | nothing _ hset =>
      obtain ⟨n, hn, hsame⟩ := hset id n' (h.issued id hissued) hn'
      exact (hagrees n hn).congr hsame
    | @result m t st _ _ _ htakes _ _ hset =>
      obtain ⟨n, hn, hsame⟩ := hset id n' (h.issued id hissued) hn'
      rw [if_neg] at hsame
      · exact (hagrees n hn).congr hsame
      · rintro rfl
        obtain ⟨ε, hε, hnode, -⟩ := hop _ _ _ _ _ htakes hissued
        exact hnew ε hε hnode
  · rcases ht.polls x payload hx hpending hreply with
      hnone | ⟨k, hpolled, hassigned, hvalid, hcap, hfresh, hunknown⟩
    · exact .inl hnone
    · refine .inr ⟨k, hpolled, hassigned.step hs hf, hvalid, hcap, hfresh, fun hcmd hknown => ?_⟩
      rcases h.known hop hf (h.session x hx) hassigned hcmd hknown with
        hold | ⟨ε, hε, hid, hwithin⟩
      · exact hunknown hcmd hold
      · exact hwithin (hfresh ε hε hid)
  · obtain ⟨k, hanswers, hjudged⟩ := ht.judged x r hx hr
    refine ⟨k, hanswers, hjudged.step hs hf (h.issued _ (h.session x hx)) fun hsome hknown => ?_⟩
    exact hanswers.id_eq ▸ hminds x hx r hr hsome (hanswers.id_eq.symm ▸ hknown)

/-- An operation that respects the Node keeps all of this. -/
theorem Sound.operated (h : σ.Sound w isoformat) {op : Op} (hop : σ.Permits w op)
    (hf : w.FreshBelow (step w σ.server op).draws) (hminds : σ.Minds (step w σ.server op)) :
    ({ σ with server := step w σ.server op } : NodeSystem).Sound w isoformat := by
  have hs := h.reachable.sound
  have hdraws := step_draws_le hs op
  exact {
    reachable := h.reachable.step hf
    calm := h.calm
    issued := fun a ha => (h.issued a ha).mono hdraws
    session := h.session
    unenrolled := h.unenrolled
    sent := h.sent
    calling := h.calling
    executed := fun ε hε => by
      obtain ⟨hissued, x, k, hanswers, hassigned⟩ := h.executed ε hε
      exact ⟨hissued, x, k, hanswers, hassigned.step hs hf⟩
    held := fun id held hk hissued => h.held_step hop hf hk hissued
    once := h.once
    done := fun x hx ε hε hnode hreport =>
      (h.done x hx ε hε hnode hreport).imp id fun hover => hover.step hs hf
    pending := fun x r hx hr => by
      obtain ⟨hε, k, hanswers, hassigned⟩ := h.pending x r hx hr
      exact ⟨hε, k, hanswers, hassigned.step hs hf⟩
    agrees := fun x n hx hn => h.agrees_step hop hf hminds hx hn
    replied := fun replies reply hreplies hreply =>
      (h.replied replies reply hreplies hreply).step h hop hf hminds }

/-! ### Calls -/

/-- The Node opens a call. -/
theorem Sound.called (h : σ.Sound w isoformat) {request : NodeRequest}
    (hreq : σ.node.request w.toInterp = .ok request) :
    ({ σ with replies := some [], sent := request :: σ.sent } : NodeSystem).Sound w isoformat where
  reachable := h.reachable
  calm := h.calm
  issued := h.issued
  session := h.session
  unenrolled := h.unenrolled
  sent x id st result hmem := by
    rcases List.mem_cons.mp hmem with rfl | hmem
    · -- it brings the pending result, which was computed
      unfold NodeProcess.request at hreq
      split at hreq
      · cases hreq
      · cases hreq
      · rename_i r hx hr
        obtain ⟨_, -, hreq⟩ := bind_eq_ok.mp hreq
        cases hreq
        exact ⟨_, (h.pending _ r hx hr).1, rfl, rfl, rfl, rfl⟩
    · exact h.sent x id st result hmem
  calling replies _ request' hreq' := by
    obtain rfl := Except.ok.inj (hreq.symm.trans hreq')
    exact List.mem_cons_self
  executed := h.executed
  held := h.held
  once := h.once
  done := h.done
  pending := h.pending
  agrees := h.agrees
  replied replies reply hreplies hreply := by
    cases hreplies
    cases hreply

/-- The call ends without a word. -/
theorem Sound.hungUp (h : σ.Sound w isoformat) :
    ({ σ with replies := none } : NodeSystem).Sound w isoformat where
  reachable := h.reachable
  calm := h.calm
  issued := h.issued
  session := h.session
  unenrolled := h.unenrolled
  sent := h.sent
  calling replies hreplies := by cases hreplies
  executed := h.executed
  held := h.held
  once := h.once
  done := h.done
  pending := h.pending
  agrees := h.agrees
  replied replies reply hreplies := by cases hreplies

/-- An error that has no status changes nothing. -/
theorem failed_unanswered (p : NodeProcess) (message : PyStr) :
    p.failed (.client { message := message }) = p := by
  cases hx : p.session <;> simp [NodeProcess.failed, hx]

/-- The client refuses to send a result that is too large, and does not fail otherwise. -/
theorem Sound.refuses (h : σ.Sound w isoformat) {e : ClientExc}
    (hreq : σ.node.request w.toInterp = .error e) :
    ∃ message, e = .client { message := message } := by
  unfold NodeProcess.request at hreq
  split at hreq
  · cases hreq
  · cases hreq
  · rename_i x r hx hr
    obtain ⟨-, k, hanswers, -⟩ := h.pending x r hx hr
    rcases bind_eq_error.mp hreq with he | ⟨_, -, he⟩
    · exact hanswers.submission he
    · cases he

/-! ### Serving the open call -/

/-- A node that was just enrolled becomes one of the Node's. -/
theorem Sound.enlarged (h : σ.Sound w isoformat) (new : List PyStr)
    (hnew : ∀ a ∈ new, w.NodeDrawn σ.server.draws a)
    (hheld : ∀ id held, σ.server.Acknowledged id held → held.nodeId ∉ new) :
    ({ σ with issued := new ++ σ.issued } : NodeSystem).Sound w isoformat where
  reachable := h.reachable
  calm := h.calm
  issued a ha := (List.mem_append.mp ha).elim (hnew a) (h.issued a)
  session x hx := List.mem_append_right _ (h.session x hx)
  unenrolled := h.unenrolled
  sent := h.sent
  calling := h.calling
  executed ε hε := by
    obtain ⟨hissued, hanswers⟩ := h.executed ε hε
    exact ⟨List.mem_append_right _ hissued, hanswers⟩
  held id held hk hissued :=
    h.held id held hk ((List.mem_append.mp hissued).resolve_left (hheld id held hk))
  once := h.once
  done := h.done
  pending := h.pending
  agrees := h.agrees
  replied replies reply hreplies hreply := by
    obtain ⟨henrolls, hpolls, hjudged⟩ := h.replied replies reply hreplies hreply
    refine ⟨fun hx payload id token hreply' hid => ?_, hpolls, hjudged⟩
    obtain ⟨hissued, hrest⟩ := henrolls hx payload id token hreply' hid
    exact ⟨List.mem_append_right _ hissued, hrest⟩

/-- A reply is under way. -/
theorem Sound.answered (h : σ.Sound w isoformat) {replies more : List NodeReply}
    (hcall : σ.replies = some replies) (hmore : ∀ reply ∈ more, σ.Tells w isoformat reply) :
    ({ σ with replies := some (replies ++ more) } : NodeSystem).Sound w isoformat where
  reachable := h.reachable
  calm := h.calm
  issued := h.issued
  session := h.session
  unenrolled := h.unenrolled
  sent := h.sent
  calling _ _ := h.calling replies hcall
  executed := h.executed
  held := h.held
  once := h.once
  done := h.done
  pending := h.pending
  agrees := h.agrees
  replied replies' reply hreplies hreply := by
    cases hreplies
    have htells : σ.Tells w isoformat reply := by
      rcases List.mem_append.mp hreply with hold | hnew
      · exact h.replied replies reply hcall hold
      · exact hmore reply hnew
    exact ⟨htells.enrolls, htells.polls, htells.judged⟩

/-- No two executions are of one task, as long as their results keep to the contract. -/
theorem Sound.execution_eq (h : σ.Sound w isoformat) {ε ε' : Execution} (hε : ε ∈ σ.executed)
    (hε' : ε' ∈ σ.executed) (hwithin : ¬ε.outcome.Exceeds w.toInterp)
    (hwithin' : ¬ε'.outcome.Exceeds w.toInterp) (hid : ε.outcome.taskId = ε'.outcome.taskId) :
    ε = ε' := by
  by_contra hne
  let Repeats : Execution → Execution → Prop := fun a b => a.outcome.taskId = b.outcome.taskId →
    a.outcome.Exceeds w.toInterp ∨ b.outcome.Exceeds w.toInterp
  have hsymm : Std.Symm Repeats := ⟨fun a b hab hid => (hab hid.symm).symm⟩
  have hpairs : σ.executed.Pairwise Repeats := h.once.imp fun hab hid => .inr (hab hid)
  exact (hpairs.forall hε hε' hne hid).elim hwithin hwithin'

/-- What is acknowledged of the pending result is that result. -/
theorem Sound.holds (h : σ.Sound w isoformat) {x : NodeSession} {r : PendingResult}
    (hx : σ.node.session = some x) (hr : σ.node.pending = some r) {k : NodeTask}
    (hanswers : r.Answers w.toInterp isoformat σ.node.executor k)
    (hassigned : Assigned w x.id k σ.server) (hsettles : Settles k.command r.status)
    {held : NodeTask} (hk : σ.server.Acknowledged k.id held) : Holds w held r.status r.result := by
  obtain ⟨hnode, hcommand⟩ := hassigned.acknowledged held hk
  have hcmd : k.command ≠ .runtimeStatus := fun hcmd => by
    have hsleep := hsettles.1
    rw [hcmd] at hsleep
    cases hsleep
  obtain ⟨ε, hε, hid, hε_node, hkeeps⟩ := h.held _ held hk (hnode ▸ h.session x hx)
  obtain ⟨-, e, k', hanswers', hassigned'⟩ := h.executed ε hε
  have hid' : k'.id = k.id := hanswers'.id_eq.symm.trans hid
  have hcommand' : k'.command = k.command :=
    (hassigned'.acknowledged held (hid'.symm ▸ hk)).2.symm.trans hcommand
  have hsame : ε = ⟨x.id, r⟩ := by
    refine h.execution_eq hε (h.pending x r hx hr).1 (fun hexceeds => hcmd ?_)
      (fun hexceeds => hcmd (hanswers.reportsStatus_iff.mp hexceeds.1))
      (hid.trans hanswers.id_eq.symm)
    exact hcommand'.symm.trans (hanswers'.reportsStatus_iff.mp hexceeds.1)
  subst hsame
  exact hkeeps.holds (hcommand ▸ hcmd)

/-- A task that is still dispatched to the session was not executed, if nothing is pending, or came
    to a result that exceeds its contract. -/
theorem Sound.not_executed (h : σ.Sound w isoformat) {x : NodeSession}
    (hx : σ.node.session = some x) (hpending : σ.node.pending = none) {t : Task}
    (ht : σ.server.tasks.get? t.id = some t) (hnode : t.nodeId = x.id)
    (hl : t.status.isTerminal = false) {ε : Execution} (hε : ε ∈ σ.executed)
    (hid : ε.outcome.taskId = t.id) : ε.outcome.Exceeds w.toInterp := by
  by_contra hwithin
  obtain ⟨-, e, k, hanswers, hassigned⟩ := h.executed ε hε
  obtain ⟨hnode', -⟩ := hassigned.recorded t (hanswers.id_eq.symm.trans hid ▸ ht)
  rcases h.done x hx ε hε (hnode'.symm.trans hnode) hwithin with hsome | hover
  · rw [hpending] at hsome
    cases hsome
  · rw [hover.2 t (hid ▸ ht)] at hl
    cases hl

end NodeSystem

theorem mem_enrolledBy {a : PyStr} {result : Except Exc Reply} (h : a ∈ enrolledBy result) :
    ∃ r, result = .ok (.enrolled r) ∧ a = r.node.id := by
  unfold enrolledBy at h
  split at h
  · exact ⟨_, rfl, List.mem_singleton.mp h⟩
  · cases h

/-- An enrollment that is answered is answered with the node. -/
theorem nodeReply_enroll {s : LabState} {name : PyStr} {x : NodeExecutor} {now : Instant}
    {payload : Json} (h : nodeReply isoformat
      (answer w s ((NodeRequest.enroll name x).op now)) = some (.ok payload)) :
    ∃ r, answer w s ((NodeRequest.enroll name x).op now) = .ok (.enrolled r) ∧
      payload = r.toJson isoformat := by
  cases hans : answer w s ((NodeRequest.enroll name x).op now) with
  | error e =>
    rw [hans] at h
    cases e <;> simp [nodeReply] at h
  | ok reply =>
    obtain ⟨r, -, rfl⟩ := map_eq_ok (f := Reply.enrolled) (answer_eq_ok hans)
    rw [hans] at h
    exact ⟨r, rfl, (NodeReply.ok.inj (Option.some.inj h)).symm⟩

/-- A poll that is answered is answered with a task or without one. -/
theorem nodeReply_poll {s : LabState} {x : NodeSession} {now : Instant} {payload : Json}
    (h : nodeReply isoformat (answer w s ((NodeRequest.poll x).op now)) = some (.ok payload)) :
    ∃ r, answer w s ((NodeRequest.poll x).op now) = .ok (.polled r) ∧
      payload = r.toJson isoformat := by
  cases hans : answer w s ((NodeRequest.poll x).op now) with
  | error e =>
    rw [hans] at h
    cases e <;> simp [nodeReply] at h
  | ok reply =>
    obtain ⟨r, -, rfl⟩ := map_eq_ok (f := Reply.polled) (answer_eq_ok hans)
    rw [hans] at h
    exact ⟨r, rfl, (NodeReply.ok.inj (Option.some.inj h)).symm⟩

/-- The client takes the identifier of the node from the reply. -/
theorem enrollment_id {r : EnrollResponse} {id token : PyStr}
    (h : NodeClient.enrollment (r.toJson isoformat) = .ok (id, token)) : id = r.node.id := by
  have hid : NodeClient.enrollment (r.toJson isoformat) =
      if isHexIdentifier (.str r.node.id) "node-" 10 ∧ 16 ≤ r.sessionToken.len then
        .ok (r.node.id, r.sessionToken)
      else .error (.client { message := "teamserver returned an invalid enrollment response" }) :=
    rfl
  rw [hid] at h
  split at h
  · cases h
    rfl
  · cases h

/-- An enrollment fails with an error of the client. -/
theorem enrollment_error {payload : Json} {e : ClientExc}
    (h : NodeClient.enrollment payload = .error e) : ∃ e', e = .client e' := by
  unfold NodeClient.enrollment at h
  split at h
  · split at h
    · split at h
      · cases h
      · exact ⟨_, (Except.error.inj h).symm⟩
    · exact ⟨_, (Except.error.inj h).symm⟩
  · exact ⟨_, (Except.error.inj h).symm⟩

namespace NodeSystem

/-- A request enrolls nothing or, if it is an enrollment, a fresh node. -/
theorem Sound.enrolls_fresh (h : σ.Sound w isoformat) {request : NodeRequest} {now : Instant}
    {a : PyStr} (ha : a ∈ enrolledBy (answer w σ.server (request.op now))) :
    (∃ name x, request = .enroll name x) ∧ ∃ j, σ.server.draws ≤ j ∧
      j < (step w σ.server (request.op now)).draws ∧ a = w.nodeId j := by
  obtain ⟨r, hans, rfl⟩ := mem_enrolledBy ha
  cases request with
  | enroll name x =>
    obtain ⟨j, hle, hlt, hid, -⟩ := enroll_answer h.reachable.sound.safe hans
    exact ⟨⟨name, x, rfl⟩, j, hle, hlt, hid⟩
  | poll x =>
    obtain ⟨_, -, heq⟩ := map_eq_ok (f := Reply.polled) (answer_eq_ok hans)
    cases heq
  | submit x id st result =>
    obtain ⟨_, -, heq⟩ := map_eq_ok (f := Reply.accepted) (answer_eq_ok hans)
    cases heq

/-- No identifier of a fresh node is one of a node that was enrolled before. -/
theorem fresh_ne {n hi j : ℕ} (hf : w.FreshBelow hi) {a : PyStr} (ha : w.NodeDrawn n a)
    (hle : n ≤ j) (hlt : j < hi) : a ≠ w.nodeId j := by
  obtain ⟨i, hi, rfl⟩ := ha
  exact nodeId_fresh hf (hi.trans_le hle) hlt

/-- The answer to the request of the open call tells the Node what it may. -/
theorem Sound.tells (h : σ.Sound w isoformat) {request : NodeRequest}
    (hreq : σ.node.request w.toInterp = .ok request) {now : Instant}
    (hf : w.FreshBelow (step w σ.server (request.op now)).draws) {reply : NodeReply}
    (hreply : nodeReply isoformat (answer w σ.server (request.op now)) = some reply)
    (h' : ({ σ with server := step w σ.server (request.op now) } : NodeSystem).Sound w isoformat) :
    ({ σ with
      server := step w σ.server (request.op now)
      issued := enrolledBy (answer w σ.server (request.op now)) ++ σ.issued } :
        NodeSystem).Tells w isoformat reply := by
  refine ⟨fun hx payload id token hok hid => ?_, fun x payload hx hpending hok => ?_,
    fun x r hx hr => ?_⟩
  · have henroll : σ.node.request w.toInterp = .ok (.enroll σ.node.name σ.node.executor) := by
      unfold NodeProcess.request
      rw [hx]
    obtain rfl := Except.ok.inj (hreq.symm.trans henroll)
    obtain ⟨r, hans, rfl⟩ := nodeReply_enroll (hok ▸ hreply)
    obtain rfl := enrollment_id hid
    obtain ⟨j, hle, hlt, hfresh, hagrees⟩ := enroll_answer h.reachable.sound.safe hans
    refine ⟨?_, fun ε hε heq => ?_, fun n hn => hagrees n (hfresh ▸ hn)⟩
    · rw [hans]
      exact List.mem_cons_self
    · exact fresh_ne hf (h.issued _ (h.executed ε hε).1) hle hlt (heq.trans hfresh)
  · have hpoll : σ.node.request w.toInterp = .ok (.poll x) := by
      unfold NodeProcess.request
      rw [hx, hpending]
    obtain rfl := Except.ok.inj (hreq.symm.trans hpoll)
    obtain ⟨r, hans, rfl⟩ := nodeReply_poll (hok ▸ hreply)
    obtain ⟨hpolled, htask⟩ := poll_answer h.reachable isoformat hf hans
    cases hr : r.task with
    | none =>
      rw [hr] at hpolled
      exact .inl hpolled
    | some k =>
      rw [hr] at hpolled
      obtain ⟨hassigned, hvalid, ⟨t, ht, hd⟩, n, hn, hcap⟩ := htask k hr
      have hs' := h'.reachable.sound.safe
      have hkey := hs'.task_key ht
      obtain ⟨hnode, -⟩ := hassigned.recorded t ht
      have hlive : t.status.isTerminal = false := by rw [hd]; rfl
      refine .inr ⟨k, hpolled, hassigned, hvalid, ?_, fun ε hε hid => ?_,
        fun _ => hs'.not_known ht hlive⟩
      · have hagrees := (h'.agrees x n hx hn).idle hpending
        exact hagrees.profile_eq ▸ hcap
      · exact h'.not_executed hx hpending (hkey.symm ▸ ht) hnode hlive hε (hid.trans hkey.symm)
  · obtain ⟨-, k, hanswers, hassigned⟩ := h.pending x r hx hr
    have hsubmit : request = .submit x k.id r.status r.result := by
      unfold NodeProcess.request at hreq
      rw [hx, hr] at hreq
      obtain ⟨_, -, hreq⟩ := bind_eq_ok.mp hreq
      cases hreq
      rw [hanswers.id_eq]
    subst hsubmit
    refine ⟨k, hanswers, submit_answer h.reachable.sound hanswers (h.issued _ (h.session x hx))
      hassigned (fun n hn hnot => ?_) (fun hsettles held hk =>
        h.holds hx hr hanswers hassigned hsettles hk) hf hreply⟩
    exact (h.agrees x n hx hn).ahead r hr (hanswers.id_eq ▸ hnot)

/-- The Teamserver serves the open call. -/
theorem Sound.served (h : σ.Sound w isoformat) {request : NodeRequest} {replies : List NodeReply}
    (hcall : σ.replies = some replies) (hreq : σ.node.request w.toInterp = .ok request)
    {now : Instant} (hf : w.FreshBelow (step w σ.server (request.op now)).draws)
    (hminds : σ.Minds (step w σ.server (request.op now))) :
    ({ σ with
      server := step w σ.server (request.op now)
      replies := some (replies ++
        (nodeReply isoformat (answer w σ.server (request.op now))).toList)
      issued := enrolledBy (answer w σ.server (request.op now)) ++ σ.issued } :
        NodeSystem).Sound w isoformat := by
  have h' := h.operated (h.permits (h.calling _ hcall _ hreq) now) hf hminds
  refine (h'.enlarged (enrolledBy (answer w σ.server (request.op now))) (fun a ha => ?_)
    fun id held hk hmem => ?_).answered hcall fun reply hreply =>
      h.tells hreq hf (Option.mem_toList.mp hreply) h'
  · obtain ⟨-, j, -, hlt, rfl⟩ := h.enrolls_fresh ha
    exact ⟨j, hlt, rfl⟩
  · obtain ⟨⟨name, x, rfl⟩, j, hle, hlt, hid⟩ := h.enrolls_fresh hmem
    -- what is acknowledged was so before
    have hbefore : σ.server.Acknowledged id held := by
      cases step_effect h.reachable.sound _ hf with
      | nothing hack => exact hack _ _ hk
      | result htakes =>
        obtain ⟨_, _, hop⟩ := htakes.named
        cases hop
    exact fresh_ne hf (h.reachable.acknowledged_drawn hbefore) hle hlt hid

/-! ### Receiving a reply -/

/-- The front end tells nothing. -/
theorem Sound.turnedAway (h : σ.Sound w isoformat) {reply : NodeReply} (hreply : reply.TurnsAway) :
    σ.Tells w isoformat reply := by
  cases reply with
  | ok payload => exact hreply.elim
  | refused status =>
    refine ⟨fun _ _ _ _ hok => (nomatch hok), fun _ _ _ _ hok => (nomatch hok),
      fun x r hx hr => ?_⟩
    obtain ⟨-, k, hanswers, -⟩ := h.pending x r hx hr
    exact ⟨k, hanswers, hreply.imp id .inl⟩

/-- The Node has enrolled. -/
theorem Sound.enrolled (h : σ.Sound w isoformat) (hx : σ.node.session = none) {id : PyStr}
    (token : PyStr) (hissued : id ∈ σ.issued) (hnew : ∀ ε ∈ σ.executed, ε.nodeId ≠ id)
    (hagrees : ∀ n, σ.server.nodes.get? id = some n → σ.node.executor.Agrees w.toInterp n) :
    ({ σ with node := { σ.node with session := some ⟨id, token⟩ }, replies := none } :
      NodeSystem).Sound w isoformat where
  reachable := h.reachable
  calm := h.calm
  issued := h.issued
  session x hx' := by
    cases hx'
    exact hissued
  unenrolled hnone := by cases hnone
  sent := h.sent
  calling _ hreplies := by cases hreplies
  executed := h.executed
  held := h.held
  once := h.once
  done x hx' ε hε hnode := by
    cases hx'
    exact absurd hnode (hnew ε hε)
  pending x r _ hr := by
    rw [show σ.node.pending = none from h.unenrolled hx] at hr
    cases hr
  agrees x n hx' hn := by
    cases hx'
    have hnone := h.unenrolled hx
    refine ⟨fun _ => hagrees n hn, fun r hr => ?_, fun r hr => ?_⟩
    · rw [hnone] at hr
      cases hr
    · rw [hnone] at hr
      cases hr
  replied _ _ hreplies := by cases hreplies

/-- The session was refused: the Node starts over. -/
theorem Sound.loggedOut (h : σ.Sound w isoformat) :
    ({ σ with node := { σ.node with session := none, pending := none }, replies := none } :
      NodeSystem).Sound w isoformat where
  reachable := h.reachable
  calm := h.calm
  issued := h.issued
  session _ hx := by cases hx
  unenrolled _ := rfl
  sent := h.sent
  calling _ hreplies := by cases hreplies
  executed := h.executed
  held := h.held
  once := h.once
  done _ hx := by cases hx
  pending _ _ hx := by cases hx
  agrees _ _ hx := by cases hx
  replied _ _ hreplies := by cases hreplies

/-- Nothing is pending any more. -/
theorem Sound.cleared (h : σ.Sound w isoformat) {x : NodeSession} {r : PendingResult}
    (hx : σ.node.session = some x) (hr : σ.node.pending = some r) {p : NodeProcess}
    (hsession : p.session = some x) (hpending : p.pending = none) (hcalm : p.raised = false)
    (hover : ¬r.Exceeds w.toInterp → TaskOver w r.taskId σ.server)
    (hagrees : ∀ n, σ.server.nodes.get? x.id = some n → p.executor.Agrees w.toInterp n) :
    ({ σ with node := p, replies := none } : NodeSystem).Sound w isoformat where
  reachable := h.reachable
  calm := hcalm
  issued := h.issued
  session x' hx' := by
    obtain rfl := Option.some.inj (hsession.symm.trans hx')
    exact h.session x hx
  unenrolled _ := hpending
  sent := h.sent
  calling _ hreplies := by cases hreplies
  executed := h.executed
  held := h.held
  once := h.once
  done x' hx' ε hε hnode hwithin := by
    obtain rfl := Option.some.inj (hsession.symm.trans hx')
    refine .inr ?_
    rcases h.done x hx ε hε hnode hwithin with hlast | hover'
    · obtain rfl := Option.some.inj (hr.symm.trans hlast)
      exact hover hwithin
    · exact hover'
  pending _ r' _ hr' := by
    rw [show p.pending = none from hpending] at hr'
    cases hr'
  agrees x' n hx' hn := by
    obtain rfl := Option.some.inj (hsession.symm.trans hx')
    refine ⟨fun _ => hagrees n hn, fun r' hr' => ?_, fun r' hr' => ?_⟩
    · rw [hpending] at hr'
      cases hr'
    · rw [hpending] at hr'
      cases hr'
  replied _ _ hreplies := by cases hreplies

/-- A new task has been executed. -/
theorem Sound.undertaken (h : σ.Sound w isoformat) {x : NodeSession}
    (hx : σ.node.session = some x) (hpending : σ.node.pending = none) {k : NodeTask}
    (hassigned : Assigned w x.id k σ.server)
    (hfresh : ∀ ε ∈ σ.executed, ε.outcome.taskId = k.id → ε.outcome.Exceeds w.toInterp)
    (hunknown : k.command ≠ .runtimeStatus → ¬σ.server.Knows k.id) {r : PendingResult}
    (hanswers : r.Answers w.toInterp isoformat σ.node.executor k) :
    ({ σ with
      node := { σ.node with pending := some r }
      replies := none
      executed := ⟨x.id, r⟩ :: σ.executed } : NodeSystem).Sound w isoformat where
  reachable := h.reachable
  calm := h.calm
  issued := h.issued
  session := h.session
  unenrolled hnone := by
    rw [show σ.node.session = none from hnone] at hx
    cases hx
  sent x' id st result hmem := by
    obtain ⟨ε, hε, hrest⟩ := h.sent x' id st result hmem
    exact ⟨ε, List.mem_cons_of_mem _ hε, hrest⟩
  calling _ hreplies := by cases hreplies
  executed := by
    refine List.forall_mem_cons.mpr ⟨⟨h.session x hx, _, k, hanswers, hassigned⟩, h.executed⟩
  held id held hk hissued := by
    obtain ⟨ε, hε, hrest⟩ := h.held id held hk hissued
    exact ⟨ε, List.mem_cons_of_mem _ hε, hrest⟩
  once := List.pairwise_cons.mpr
    ⟨fun ε hε hid => hfresh ε hε (hid.symm.trans hanswers.id_eq), h.once⟩
  done x' hx' ε hε hnode hwithin := by
    rcases List.mem_cons.mp hε with rfl | hold
    · exact .inl rfl
    · rcases h.done x' hx' ε hold hnode hwithin with hlast | hover
      · rw [hpending] at hlast
        cases hlast
      · exact .inr hover
  pending x' r' hx' hr' := by
    obtain rfl := Option.some.inj (hx.symm.trans hx')
    cases hr'
    exact ⟨List.mem_cons_self, k, hanswers, hassigned⟩
  agrees x' n hx' hn := by
    have hidle := (h.agrees x' n hx' hn).idle hpending
    refine ⟨fun hnone => (nomatch hnone), fun _ _ _ => hidle, fun r' hr' hknown => ?_⟩
    cases hr'
    refine ⟨_, hanswers.acknowledge, (NodeExecutor.agrees_after fun hsettles => ?_).mpr hidle⟩
    refine hunknown (fun hcmd => ?_) (hanswers.id_eq ▸ hknown)
    rw [hcmd] at hsettles
    cases hsettles.1
  replied _ _ hreplies := by cases hreplies

/-- A reply arrives while the Node enrolls. -/
theorem Sound.received_enrolling (h : σ.Sound w isoformat) (hx : σ.node.session = none)
    {reply : NodeReply} (ht : σ.Tells w isoformat reply)
    (around : { around : Surroundings // around.Documents }) :
    ({ σ with
      node := σ.node.receive w.toInterp around reply
      replies := none } : NodeSystem).Sound w isoformat := by
  have hfailed : ∀ e : NodeClientError, σ.node.failed (.client e) = σ.node := fun e => by
    simp only [NodeProcess.failed, hx]
  cases reply with
  | refused status =>
    rw [show σ.node.receive w.toInterp around (.refused status) = σ.node from hfailed _]
    exact h.hungUp
  | ok payload =>
    cases hid : NodeClient.enrollment payload with
    | error e =>
      obtain ⟨e, rfl⟩ := enrollment_error hid
      have hans : σ.node.receive w.toInterp around (.ok payload) = σ.node := by
        simp only [NodeProcess.receive, NodeProcess.answered, hx, hid, hfailed]
      rw [hans]
      exact h.hungUp
    | ok session =>
      obtain ⟨id, token⟩ := session
      have hans : σ.node.receive w.toInterp around (.ok payload) =
          { σ.node with session := some ⟨id, token⟩ } := by
        simp only [NodeProcess.receive, NodeProcess.answered, hx, hid]
      obtain ⟨hissued, hnew, hagrees⟩ := ht.enrolls hx payload id token rfl hid
      rw [hans]
      exact h.enrolled hx token hissued hnew hagrees

/-- A reply arrives while the Node polls. -/
theorem Sound.received_polling (h : σ.Sound w isoformat) {x : NodeSession}
    (hx : σ.node.session = some x) (hpending : σ.node.pending = none)
    {reply : NodeReply} (ht : σ.Tells w isoformat reply)
    (around : { around : Surroundings // around.Documents }) :
    ({ σ with
      node := σ.node.receive w.toInterp around reply
      replies := none
      executed := σ.executedAfter (σ.node.receive w.toInterp around reply) } :
        NodeSystem).Sound w isoformat := by
  -- nothing comes of it
  have hidle : ∀ p : NodeProcess, p.pending = none → σ.executedAfter p = σ.executed := by
    intro p hp
    simp only [executedAfter, hx, hpending, hp]
  cases reply with
  | refused status =>
    by_cases hlogin : status = 401
    · have hans : σ.node.receive w.toInterp around (.refused status) =
          { σ.node with session := none, pending := none } := by
        simp only [NodeProcess.receive, NodeProcess.failed, hx, hlogin, if_true]
      rw [hans, hidle _ rfl]
      exact h.loggedOut
    · have hans : σ.node.receive w.toInterp around (.refused status) = σ.node := by
        simp only [NodeProcess.receive, NodeProcess.failed, hx, hpending, Option.some.injEq,
          hlogin, if_false, Option.isSome_none, Bool.false_eq_true, false_and]
      rw [hans, hidle _ hpending]
      exact h.hungUp
  | ok payload =>
    rcases ht.polls x payload hx hpending rfl with
      hnone | ⟨k, hpolled, hassigned, hvalid, hcap, hfresh, hunknown⟩
    · have hans : σ.node.receive w.toInterp around (.ok payload) = σ.node := by
        simp only [NodeProcess.receive, NodeProcess.answered, hx, hpending, hnone]
      rw [hans, hidle _ hpending]
      exact h.hungUp
    · obtain ⟨r, hr⟩ : ∃ r : PendingResult, r = ⟨k.id, Vocabulary.toJson k.command.taskType,
          (σ.node.executor.execute w.toInterp around.1 (k.toJson isoformat)).1,
          ⟨(σ.node.executor.execute w.toInterp around.1 (k.toJson isoformat)).2,
            σ.node.executor.execute_wf around.2 _⟩⟩ := ⟨_, rfl⟩
      have hanswers : r.Answers w.toInterp isoformat σ.node.executor k := by
        subst hr
        exact ⟨rfl, rfl, hvalid, hcap, around.1, rfl⟩
      have hans : σ.node.receive w.toInterp around (.ok payload) =
          { σ.node with pending := some r } := by
        calc σ.node.receive w.toInterp around (.ok payload)
          _ = σ.node.undertake w.toInterp around (k.toJson isoformat) := by
            simp only [NodeProcess.receive, NodeProcess.answered, hx, hpending, hpolled]
          _ = { σ.node with pending := some r } := hr ▸ rfl
      have hexecuted : σ.executedAfter { σ.node with pending := some r } =
          ⟨x.id, r⟩ :: σ.executed := by
        simp only [executedAfter, hx, hpending]
      rw [hans, hexecuted]
      exact h.undertaken hx hpending hassigned hfresh hunknown hanswers

/-- A reply arrives while the Node submits. -/
theorem Sound.received_submitting (h : σ.Sound w isoformat) {x : NodeSession} {r : PendingResult}
    (hx : σ.node.session = some x) (hr : σ.node.pending = some r)
    {reply : NodeReply} (ht : σ.Tells w isoformat reply)
    (around : { around : Surroundings // around.Documents }) :
    ({ σ with
      node := σ.node.receive w.toInterp around reply
      replies := none } : NodeSystem).Sound w isoformat := by
  obtain ⟨k, hanswers, hjudged⟩ := ht.judged x r hx hr
  cases reply with
  | refused status =>
    by_cases hlogin : status = 401
    · have hans : σ.node.receive w.toInterp around (.refused status) =
          { σ.node with session := none, pending := none } := by
        simp only [NodeProcess.receive, NodeProcess.failed, hx, hlogin, if_true]
      rw [hans]
      exact h.loggedOut
    by_cases hclient : 400 ≤ status ∧ status < 500
    · have hans : σ.node.receive w.toInterp around (.refused status) =
          { σ.node with pending := none } := by
        simp only [NodeProcess.receive, NodeProcess.failed, hx, hr, Option.some.injEq, hlogin,
          if_false]
        exact if_pos ⟨rfl, by simpa using hclient⟩
      rw [hans]
      have hrest : r.Exceeds w.toInterp ∨ TaskOver w k.id σ.server ∧
          (Settles k.command r.status → ¬σ.server.Knows k.id ∨
            σ.server.nodes.get? x.id = none) := by
        rcases hjudged with h401 | h500 | hrest
        · exact absurd h401 hlogin
        · omega
        · exact hrest
      refine h.cleared hx hr hx rfl h.calm (fun hwithin => ?_) fun n hn => ?_
      · obtain ⟨hover, -⟩ := hrest.resolve_left hwithin
        exact hanswers.id_eq ▸ hover
      · have hbelieves := h.agrees x n hx hn
        by_cases hknown : σ.server.Knows r.taskId
        · obtain ⟨y, hy, hagrees⟩ := hbelieves.behind r hr hknown
          rw [hanswers.acknowledge] at hy
          cases hy
          refine (NodeExecutor.agrees_after fun hsettles => ?_).mp hagrees
          rcases hrest with hexceeds | ⟨-, hunknown⟩
          · rw [hanswers.reportsStatus_iff.mp hexceeds.1] at hsettles
            cases hsettles.1
          · rcases hunknown hsettles with hnot | hgone
            · exact hnot (hanswers.id_eq ▸ hknown)
            · rw [hgone] at hn
              cases hn
        · exact hbelieves.ahead r hr hknown
    · have hans : σ.node.receive w.toInterp around (.refused status) = σ.node := by
        simp only [NodeProcess.receive, NodeProcess.failed, hx, hr, Option.some.injEq, hlogin,
          if_false]
        exact if_neg fun hstatus => hclient (by simpa using hstatus.2)
      rw [hans]
      exact h.hungUp
  | ok payload =>
    obtain ⟨hover, hknown⟩ := hjudged
    have hans : σ.node.receive w.toInterp around (.ok payload) = { σ.node with
        executor := σ.node.executor.after k.command r.status, pending := none
        stopped := σ.node.stopped ||
          (r.taskType.eqStr "EXIT" && decide (r.status = .completed)) } := by
      simp only [NodeProcess.receive, NodeProcess.answered, hx, hr, hanswers.acknowledge]
    rw [hans]
    refine h.cleared hx hr hx rfl h.calm (fun _ => hanswers.id_eq ▸ hover) fun n hn => ?_
    have hbelieves := h.agrees x n hx hn
    by_cases hold : σ.server.Knows r.taskId
    · obtain ⟨y, hy, hagrees⟩ := hbelieves.behind r hr hold
      rw [hanswers.acknowledge] at hy
      cases hy
      exact hagrees
    · refine (NodeExecutor.agrees_after fun hsettles => ?_).mpr (hbelieves.ahead r hr hold)
      rcases hknown hsettles with hknown | hgone
      · exact hold (hanswers.id_eq ▸ hknown)
      · rw [hgone] at hn
        cases hn

/-- A reply arrives. -/
theorem Sound.received (h : σ.Sound w isoformat) {reply : NodeReply}
    (ht : σ.Tells w isoformat reply) (around : { around : Surroundings // around.Documents }) :
    ({ σ with
      node := σ.node.receive w.toInterp around reply
      replies := none
      executed := σ.executedAfter (σ.node.receive w.toInterp around reply) } :
        NodeSystem).Sound w isoformat := by
  cases hx : σ.node.session with
  | none =>
    have hexecuted : ∀ p, σ.executedAfter p = σ.executed := fun p => by
      simp only [executedAfter, hx]
    rw [hexecuted]
    exact h.received_enrolling hx ht around
  | some x =>
    cases hr : σ.node.pending with
    | none => exact h.received_polling hx hr ht around
    | some r =>
      have hexecuted : ∀ p, σ.executedAfter p = σ.executed := fun p => by
        simp only [executedAfter, hx, hr]
      rw [hexecuted]
      exact h.received_submitting hx hr ht around

/-! ### Every exchange -/

/-- A step keeps all of this, if what the Teamserver serves leaves it minding the Node. -/
theorem Sound.next (h : σ.Sound w isoformat)
    (hminds : ∀ op, w.FreshBelow (step w σ.server op).draws → Serves σ op →
      σ.Minds (step w σ.server op)) (hstep : NodeStep w isoformat Serves σ σ') :
    σ'.Sound w isoformat := by
  cases hstep with
  | operate op hother hf hserves =>
    exact h.operated (permits_other hother) hf (hminds _ hf hserves)
  | call hidle hrun hreq => exact h.called hreq
  | unsent hidle hrun hreq =>
    obtain ⟨message, rfl⟩ := h.refuses hreq
    rw [failed_unanswered]
    exact h
  | serve hcall hreq now hf hserves => exact h.served hcall hreq hf (hminds _ hf hserves)
  | late hsent now hf hserves =>
    exact h.operated (h.permits hsent now) hf (hminds _ hf hserves)
  | receive hcall hreply around =>
    refine h.received ?_ around
    rcases hreply with hreply | haway
    · exact h.replied _ _ hcall hreply
    · exact h.turnedAway haway
  | giveUp hcall message =>
    rw [failed_unanswered]
    exact h.hungUp

end NodeSystem

/-- So does an exchange. -/
theorem NodeRun.sound
    (hminds : ∀ σ : NodeSystem, σ.Sound w isoformat → ∀ op,
      w.FreshBelow (step w σ.server op).draws → Serves σ op → σ.Minds (step w σ.server op))
    (h : NodeRun w isoformat Serves σ) : σ.Sound w isoformat := by
  obtain ⟨σ₀, hstart, hsteps⟩ := h
  induction hsteps with
  | refl => exact hstart.sound
  | tail _ hstep ih => exact ih.next (hminds _ ih) hstep

theorem NodeReachable.sound (h : NodeReachable w isoformat σ) : σ.Sound w isoformat :=
  NodeRun.sound (fun _ _ _ _ hserves => hserves) h

end C2Lab
