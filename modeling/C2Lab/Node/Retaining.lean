import C2Lab.Node.Protocol

/-! Exchanges in which the Teamserver evicts no tombstone.

    Such a Teamserver minds the pending result of the Node. A result too large to be sent stays
    pending for good, so that the Node executes nothing after it. -/

namespace C2Lab

variable {w : World} {isoformat : Timestamp → String} {Serves : NodeSystem → Op → Prop}
  {s : LabState} {σ σ' : NodeSystem} {op : Op}

/-! ### The memory of the Teamserver -/

/-- A reset leaves the records as they are, refused, or no node. -/
theorem step_reset (hr : Reachable w s) (hop : op.isReset = true)
    (hf : w.FreshBelow (step w s op).draws) :
    (step w s op).toRecords = s.toRecords ∨ (step w s op).nodes = .empty := by
  have hs := hr.sound
  have hran := (step_ends hs.safe hs.settled op).ran
  cases op with
  | reset actor =>
    cases hran with
    | plain h =>
      have hkept : Kept w [.reset] fun m => m.toRecords = s.toRecords ∨ m.nodes = .empty := by
        refine ⟨fun {m m' c} hc hm _ hw hP => ?_⟩
        obtain rfl := List.mem_singleton.mp hc
        rcases (hw.records hm).of_reset with hsame | hcleared
        · rw [hsame]
          exact hP
        · exact .inr (congrArg Records.nodes hcleared)
      exact hkept.writes h hs.safe hf (.inl rfl)
  | _ => cases hop

/-- Without an eviction a result that was accepted is forgotten by a reset alone. -/
theorem minds_of_evictsNone (hr : Reachable w σ.server)
    (hf : w.FreshBelow (step w σ.server op).draws) (h : σ.server.EvictsNone w op) :
    σ.Minds (step w σ.server op) := by
  intro x _ r _ hnode hknown
  cases hop : op.isReset with
  | false => exact step_knows hr hop hf h hknown
  | true =>
    rcases step_reset hr hop hf with hsame | hnone
    · rw [hsame]
      exact hknown
    · rw [hnone] at hnode
      cases hnode

theorem NodeRetaining.sound (h : NodeRetaining w isoformat σ) : σ.Sound w isoformat :=
  NodeRun.sound (fun _ hsound _ hf hserves => minds_of_evictsNone hsound.reachable hf hserves) h

/-- A step with another account of what the Teamserver serves. -/
theorem NodeStep.mono {Serves' : NodeSystem → Op → Prop}
    (hserves : ∀ op, w.FreshBelow (step w σ.server op).draws → Serves σ op → Serves' σ op)
    (h : NodeStep w isoformat Serves σ σ') : NodeStep w isoformat Serves' σ σ' := by
  cases h with
  | operate op hother hf h => exact .operate op hother hf (hserves _ hf h)
  | call hidle hrun hreq => exact .call hidle hrun hreq
  | unsent hidle hrun hreq => exact .unsent hidle hrun hreq
  | serve hcall hreq now hf h => exact .serve hcall hreq now hf (hserves _ hf h)
  | late hsent now hf h => exact .late hsent now hf (hserves _ hf h)
  | receive hcall hreply around => exact .receive hcall hreply around
  | giveUp hcall message => exact .giveUp hcall message

/-- Such a Teamserver minds the pending result. -/
theorem NodeRetaining.reachable (h : NodeRetaining w isoformat σ) :
    NodeReachable w isoformat σ := by
  obtain ⟨σ₀, hstart, hsteps⟩ := h
  refine ⟨σ₀, hstart, ?_⟩
  induction hsteps with
  | refl => exact .refl
  | tail hbefore hstep ih =>
    have hsound := NodeRetaining.sound ⟨σ₀, hstart, hbefore⟩
    exact ih.tail (hstep.mono fun _ hf hserves =>
      minds_of_evictsNone hsound.reachable hf hserves)

/-! ### Results that are too large -/

/-- What the client sends is not too large. -/
theorem NodeClient.submission_fits {py : Interp} {taskId : PyStr} {status result : Json}
    {answer : ResultStatus × Json}
    (h : NodeClient.submission py taskId status result = .ok answer) : Fits py result := by
  unfold NodeClient.submission at h
  split at h
  · cases hv : validateResult py status result with
    | ok value => exact (validateResult_eq_ok.mp hv).2.2.2
    | error e =>
      rw [hv] at h
      cases e <;> cases h
  · cases h

namespace NodeSystem

/-- A result too large is the last one, and pending for good. -/
structure Jams (w : World) (σ : NodeSystem) : Prop where
  last : ∀ ε ∈ σ.executed, ¬Fits w.toInterp ε.outcome.result.1 →
    σ.node.pending = some ε.outcome ∧ σ.replies = none
  earlier : σ.executed.Pairwise fun _ earlier => Fits w.toInterp earlier.outcome.result.1

/-- While a call is open no result is too large. -/
theorem Jams.fits (h : σ.Jams w) {replies : List NodeReply} (hcall : σ.replies = some replies) :
    ∀ ε ∈ σ.executed, Fits w.toInterp ε.outcome.result.1 := by
  intro ε hε
  by_contra hlarge
  rw [(h.last ε hε hlarge).2] at hcall
  cases hcall

/-- Neither is one while the client sends a request. -/
theorem Jams.fits_of_request (h : σ.Jams w) (hsound : σ.Sound w isoformat) {request : NodeRequest}
    (hreq : σ.node.request w.toInterp = .ok request) :
    ∀ ε ∈ σ.executed, Fits w.toInterp ε.outcome.result.1 := by
  intro ε hε
  by_contra hlarge
  have hpending := (h.last ε hε hlarge).1
  cases hx : σ.node.session with
  | none =>
    rw [hsound.unenrolled hx] at hpending
    cases hpending
  | some x =>
    simp only [NodeProcess.request, hx, hpending] at hreq
    obtain ⟨answer, hsent, -⟩ := bind_eq_ok.mp hreq
    exact hlarge (NodeClient.submission_fits hsent)

/-- The end of a call, at which at most one more result is pending. -/
theorem Jams.closed (h : σ.Jams w) {replies : List NodeReply} (hcall : σ.replies = some replies)
    (p : NodeProcess) :
    Jams w { σ with node := p, replies := none, executed := σ.executedAfter p } := by
  have hfits := h.fits hcall
  unfold executedAfter
  split
  · rename_i x r _ _ hp
    refine ⟨fun ε hε hlarge => ?_, List.pairwise_cons.mpr ⟨fun ε hε => hfits ε hε, h.earlier⟩⟩
    rcases List.mem_cons.mp hε with rfl | hε
    · exact ⟨hp, rfl⟩
    · exact absurd (hfits ε hε) hlarge
  · exact ⟨fun ε hε hlarge => absurd (hfits ε hε) hlarge, h.earlier⟩

theorem Jams.next (h : σ.Jams w) (hsound : σ.Sound w isoformat)
    (hstep : NodeStep w isoformat Serves σ σ') : σ'.Jams w := by
  cases hstep with
  | operate | late => exact ⟨h.last, h.earlier⟩
  | call hidle hrun hreq =>
    have hfits := h.fits_of_request hsound hreq
    exact ⟨fun ε hε hlarge => absurd (hfits ε hε) hlarge, h.earlier⟩
  | unsent hidle hrun hreq =>
    obtain ⟨message, rfl⟩ := hsound.refuses hreq
    rw [failed_unanswered]
    exact h
  | serve hcall =>
    exact ⟨fun ε hε hlarge => absurd (h.fits hcall ε hε) hlarge, h.earlier⟩
  | receive hcall hreply around => exact h.closed hcall _
  | giveUp hcall =>
    rw [failed_unanswered]
    exact ⟨fun ε hε hlarge => absurd (h.fits hcall ε hε) hlarge, h.earlier⟩

end NodeSystem

/-- All results but the last of an exchange can be sent. -/
theorem NodeRetaining.jams (h : NodeRetaining w isoformat σ) : σ.Jams w := by
  obtain ⟨σ₀, hstart, hsteps⟩ := h
  induction hsteps with
  | refl => exact ⟨by simp [hstart.executed], by simp [hstart.executed]⟩
  | tail hbefore hstep ih => exact ih.next (NodeRetaining.sound ⟨σ₀, hstart, hbefore⟩) hstep

end C2Lab
