import C2Lab.Core.Counting
import C2Lab.Node.Retaining

/-! What every exchange between a Node and its Teamserver comes to.

    The two agree on the poll settings up to the one result between them, no task is executed twice,
    and what the Teamserver holds in the name of the Node was computed by it. -/

namespace C2Lab

variable {w : World} {isoformat : Timestamp → String} {σ : NodeSystem}

/-! ### A Node whose answer got lost -/

/-- One turn of the loop up to the reply, which the Teamserver gives at once. -/
def NodeSystem.call (w : World) (isoformat : Timestamp → String) (now : Instant) (σ : NodeSystem) :
    NodeSystem :=
  match σ.node.request w.toInterp with
  | .ok request => { σ with
      server := step w σ.server (request.op now)
      replies := some (nodeReply isoformat (answer w σ.server (request.op now))).toList
      sent := request :: σ.sent
      issued := enrolledBy (answer w σ.server (request.op now)) ++ σ.issued }
  | .error _ => σ

/-- The rest of the turn. -/
def NodeSystem.hear (w : World) (around : { around : Surroundings // around.Documents })
    (σ : NodeSystem) : NodeSystem :=
  match σ.replies with
  | some (reply :: _) => { σ with
      node := σ.node.receive w.toInterp around reply
      replies := none
      executed := σ.executedAfter (σ.node.receive w.toInterp around reply) }
  | _ => σ

/-- The Node may take such a turn. -/
def NodeSystem.calls (σ : NodeSystem) : Bool :=
  σ.replies.isNone && !σ.node.stopped && !σ.node.raised

/-- A Teamserver without tombstones evicts none. -/
theorem evictsNone_of_empty {s : LabState} {op : Op} (h : s.taskResultTombstones.keys = []) :
    s.EvictsNone w op := .inr fun id hid => by
  rw [h] at hid
  cases hid

/-- The identifiers last for the turn, and no tombstone is there to be evicted. -/
def LabState.lasts (s t : LabState) : Bool :=
  decide (t.draws ≤ 10 ^ 10) && s.taskResultTombstones.keys.isEmpty

theorem LabState.lasts_iff {s t : LabState} :
    s.lasts t = true ↔ t.draws ≤ 10 ^ 10 ∧ s.taskResultTombstones.keys = [] := by
  simp [lasts]

theorem NodeRetaining.call (h : NodeRetaining .counting isoformat σ) {now : Instant}
    (hcalls : σ.calls = true)
    (hlasts : σ.server.lasts (σ.call .counting isoformat now).server = true) :
    NodeRetaining .counting isoformat (σ.call .counting isoformat now) := by
  obtain ⟨σ₀, hstart, hsteps⟩ := h
  obtain ⟨hdraws, hempty⟩ := LabState.lasts_iff.mp hlasts
  simp only [NodeSystem.calls, Bool.and_eq_true, Option.isNone_iff_eq_none,
    Bool.not_eq_true'] at hcalls
  obtain ⟨⟨hidle, hstopped⟩, hraised⟩ := hcalls
  unfold NodeSystem.call at hdraws ⊢
  split
  · rename_i request hreq
    rw [hreq] at hdraws
    have hcall := hsteps.tail (.call hidle ⟨hstopped, hraised⟩ hreq)
    refine ⟨σ₀, hstart, hcall.tail ?_⟩
    exact @NodeStep.serve _ _ _ { σ with replies := some [], sent := request :: σ.sent } request []
      rfl hreq now (World.counting_fresh hdraws) (evictsNone_of_empty hempty)
  · exact ⟨σ₀, hstart, hsteps⟩

theorem NodeRetaining.hear (h : NodeRetaining w isoformat σ)
    (around : { around : Surroundings // around.Documents }) :
    NodeRetaining w isoformat (σ.hear w around) := by
  obtain ⟨σ₀, hstart, hsteps⟩ := h
  unfold NodeSystem.hear
  split
  · rename_i reply rest hreplies
    exact ⟨σ₀, hstart, hsteps.tail (.receive hreplies (.inl List.mem_cons_self) around)⟩
  · exact ⟨σ₀, hstart, hsteps⟩

/-- A task is queued for the Node. -/
theorem NodeRetaining.queue (h : NodeRetaining .counting isoformat σ) (type : TaskType)
    (payload : Json)
    (hlasts : σ.server.lasts (step .counting σ.server (Counting.queue type payload)) = true) :
    NodeRetaining .counting isoformat
      { σ with server := step .counting σ.server (Counting.queue type payload) } := by
  obtain ⟨σ₀, hstart, hsteps⟩ := h
  obtain ⟨hdraws, hempty⟩ := LabState.lasts_iff.mp hlasts
  exact ⟨σ₀, hstart, hsteps.tail (.operate _ (fun a _ h => h.elim) (World.counting_fresh hdraws)
    (evictsNone_of_empty hempty))⟩

namespace Counting

/-- No playbook is run. -/
def quiet : { around : Surroundings // around.Documents } :=
  ⟨⟨0, fun _ => .ok []⟩, fun _ _ h => by cases h; rfl⟩

/-- A clock that stands still. -/
def stamp (_ : Timestamp) : String := "2026-01-01T00:00:00+00:00"

/-- A Node at a new Teamserver. -/
def started : NodeSystem where
  server := .init "stream"
  node := .start "unit-node" { version := "0.2.0", profile := .training, pollIntervalMs := 1000
                               jitterPercent := 0, tasksCompleted := 0 }
  replies := none
  sent := []
  issued := []
  executed := []

/-- It has enrolled. -/
def joined : NodeSystem := (started.call .counting stamp 10).hear .counting quiet

/-- A `SLEEP` is queued for it. -/
def slowing : Op := queue .sleep (.dict [("interval_ms", .int 2500), ("jitter_percent", .int 5)])

def slowed : NodeSystem := { joined with server := step .counting joined.server slowing }

/-- It has executed the task. -/
def executing : NodeSystem := (slowed.call .counting stamp 11).hear .counting quiet

/-- Its result is accepted, which it has not heard of. -/
def unheard : NodeSystem := executing.call .counting stamp 12

/-- Every turn can be taken. In the end the Teamserver has the new interval and the Node the old
    one, and the one task is recorded with its result. -/
theorem unheard_evaluated :
    (started.calls = true ∧ started.server.lasts (started.call .counting stamp 10).server = true) ∧
    joined.server.lasts slowed.server = true ∧
    (slowed.calls = true ∧ slowed.server.lasts (slowed.call .counting stamp 11).server = true) ∧
    (executing.calls = true ∧ executing.server.lasts unheard.server = true) ∧
    unheard.node.executor.pollIntervalMs = 1000 ∧
    (unheard.node.session.bind fun x => unheard.server.nodes.get? x.id).map (·.pollIntervalMs) =
      some 2500 ∧
    unheard.executed.length = 1 ∧
    (unheard.server.tasks.values.head?.bind fun t => unheard.server.tasks.get? t.id).map (fun t =>
      t.resultAccepted && decide (t.nodeId ∈ unheard.issued)) = some true := by
  decide +kernel

theorem unheard_retaining : NodeRetaining .counting stamp unheard := by
  have hstarted : NodeRetaining .counting stamp started :=
    ⟨started, ⟨⟨"stream", .refl⟩, ⟨_, _, rfl⟩, rfl, rfl, rfl, rfl⟩, .refl⟩
  obtain ⟨⟨hcalls, hlasts⟩, hqueued, ⟨hcalls', hlasts'⟩, ⟨hcalls'', hlasts''⟩, -⟩ :=
    unheard_evaluated
  have hjoined : NodeRetaining .counting stamp joined :=
    (hstarted.call hcalls hlasts).hear quiet
  have hslowed : NodeRetaining .counting stamp slowed := hjoined.queue _ _ hqueued
  have hexecuting : NodeRetaining .counting stamp executing :=
    (hslowed.call hcalls' hlasts').hear quiet
  exact hexecuting.call hcalls'' hlasts''

theorem unheard_reachable : NodeReachable .counting stamp unheard :=
  NodeRetaining.reachable unheard_retaining

theorem unheard_settings : ∃ x ∈ unheard.node.session, ∃ n,
    unheard.server.nodes.get? x.id = some n ∧
      unheard.node.executor.pollIntervalMs = 1000 ∧ n.pollIntervalMs = 2500 := by
  obtain ⟨-, -, -, -, hown, hnodes, -⟩ := unheard_evaluated
  obtain ⟨n, hn, hinterval⟩ := Option.map_eq_some_iff.mp hnodes
  obtain ⟨x, hx, hn⟩ := Option.bind_eq_some_iff.mp hn
  exact ⟨x, hx, n, hn, hown, hinterval⟩

end Counting

/-! ### The poll settings -/

namespace NodeSystem.Sound

/-- The Node is able to acknowledge its own result. -/
theorem acknowledges (h : σ.Sound w isoformat) {r : PendingResult} (hr : σ.node.pending = some r) :
    ∃ x, σ.node.executor.acknowledge r.taskType r.status r.result.1 = .ok x := by
  cases hx : σ.node.session with
  | none =>
    rw [h.unenrolled hx] at hr
    cases hr
  | some x =>
    obtain ⟨-, k, hanswers, -⟩ := h.pending x r hx hr
    exact ⟨_, hanswers.acknowledge⟩

/-- Where the two sides disagree, the Teamserver holds the values of the pending `SLEEP`. -/
theorem settings (h : σ.Sound w isoformat) {x : NodeSession} {n : Node}
    (hx : σ.node.session = some x) (hn : σ.server.nodes.get? x.id = some n) :
    (σ.node.executor.pollIntervalMs = n.pollIntervalMs ∧
      σ.node.executor.jitterPercent = n.jitterPercent) ∨
    ∃ r k held, σ.node.pending = some r ∧
      r.Answers w.toInterp isoformat σ.node.executor k ∧ r.status = .completed ∧
      σ.server.Acknowledged r.taskId held ∧ held.status = .completed ∧
      held.command = k.command ∧ k.command = .sleep n.pollIntervalMs n.jitterPercent := by
  have hbelieves := h.agrees x n hx hn
  cases hr : σ.node.pending with
  | none =>
    have hagrees := hbelieves.idle hr
    exact .inl ⟨hagrees.interval_eq, hagrees.jitter_eq⟩
  | some r =>
    obtain ⟨-, k, hanswers, hassigned⟩ := h.pending x r hx hr
    by_cases hknown : σ.server.Knows r.taskId
    · obtain ⟨y, hack, hagrees⟩ := hbelieves.behind r hr hknown
      rw [hanswers.acknowledge] at hack
      cases hack
      by_cases hsettles : Settles k.command r.status
      · -- what is acknowledged is this result
        obtain ⟨held, hheld⟩ := hanswers.id_eq ▸ hknown
        have hholds := h.holds hx hr hanswers hassigned hsettles hheld
        have hcompleted : held.status = .completed := by
          rw [hholds.status_eq, hsettles.2]
          rfl
        refine .inr ⟨r, k, held, rfl, hanswers, hsettles.2, hanswers.id_eq ▸ hheld, hcompleted,
          (hassigned.acknowledged held hheld).2, ?_⟩
        obtain ⟨htype, hst⟩ := hsettles
        cases hc : k.command with
        | sleep interval jitter =>
          rw [hc, hst] at hagrees
          rw [← hagrees.interval_eq, ← hagrees.jitter_eq]
          rfl
        | _ =>
          rw [hc] at htype
          cases htype
      · have hsame := (NodeExecutor.agrees_after hsettles).mp hagrees
        exact .inl ⟨hsame.interval_eq, hsame.jitter_eq⟩
    · have hagrees := hbelieves.ahead r hr hknown
      exact .inl ⟨hagrees.interval_eq, hagrees.jitter_eq⟩

end NodeSystem.Sound

/-- While no tombstone is evicted: the two sides agree on the poll settings, or the pending result
    is a completed `SLEEP` the Teamserver has accepted, which holds exactly its new values. The Node
    is never unable to acknowledge its own result, and no exception ends its loop. -/
theorem poll_settings_agree (h : NodeRetaining w isoformat σ) :
    (∀ session ∈ σ.node.session, ∀ n, σ.server.nodes.get? session.id = some n →
      (σ.node.executor.pollIntervalMs = n.pollIntervalMs ∧
        σ.node.executor.jitterPercent = n.jitterPercent) ∨
      ∃ r ∈ σ.node.pending, r.taskType = Vocabulary.toJson TaskType.sleep ∧
        r.status = .completed ∧
        r.result.1 =
          sleepResult σ.node.executor.pollIntervalMs n.pollIntervalMs n.jitterPercent ∧
        ∃ k, σ.server.Acknowledged r.taskId k ∧ k.status = .completed ∧
          k.command = .sleep n.pollIntervalMs n.jitterPercent) ∧
    (∀ r ∈ σ.node.pending, ∃ x,
      σ.node.executor.acknowledge r.taskType r.status r.result.1 = .ok x) ∧
    σ.node.raised = false := by
  refine ⟨fun session hx n hn => ?_, fun r hr => h.sound.acknowledges hr, h.sound.calm⟩
  refine (h.sound.settings hx hn).imp_right ?_
  rintro ⟨r, k, held, hr, hanswers, hst, hheld, hcompleted, hcommand, hsleep⟩
  refine ⟨r, hr, ?_, hst, hanswers.sleep hsleep hst, held, hheld, hcompleted,
    hcommand.trans hsleep⟩
  rw [hanswers.type_eq, hsleep]
  rfl

/-- The answer of the Teamserver is under way. -/
theorem poll_settings_agree_unheard : ∃ n r, Counting.unheard.server.nodes.get? n.id = some n ∧
    Counting.unheard.node.executor.pollIntervalMs = 1000 ∧ n.pollIntervalMs = 2500 ∧
    r ∈ Counting.unheard.node.pending ∧
    r.result.1 = sleepResult 1000 n.pollIntervalMs n.jitterPercent := by
  obtain ⟨x, hx, n, hn, hown, hinterval⟩ := Counting.unheard_settings
  have hretaining := Counting.unheard_retaining
  have hkey := hretaining.sound.reachable.sound.safe.node_key hn
  rcases (poll_settings_agree hretaining).1 x hx n hn with
    ⟨hsame, -⟩ | ⟨r, hr, -, -, hresult, -⟩
  · rw [hown, hinterval] at hsame
    cases hsame
  · exact ⟨n, r, hkey ▸ hn, hown, hinterval, hr, hown ▸ hresult⟩

/-! ### Executions -/

/-- No task is executed twice, unless its earlier result exceeded its contract. -/
theorem executed_once (h : NodeReachable w isoformat σ) :
    σ.executed.Pairwise fun later earlier =>
      later.outcome.taskId = earlier.outcome.taskId → earlier.outcome.Exceeds w.toInterp :=
  h.sound.once

/-- The Node that waits has executed one task. -/
theorem executed_once_unheard : Counting.unheard.executed.length = 1 ∧
    Counting.unheard.executed.Pairwise fun later earlier =>
      later.outcome.taskId = earlier.outcome.taskId →
        earlier.outcome.Exceeds World.counting.toInterp := by
  obtain ⟨-, -, -, -, -, -, hone, -⟩ := Counting.unheard_evaluated
  exact ⟨hone, executed_once Counting.unheard_reachable⟩

/-- The counters a `RUNTIME_STATUS` reports are within the bounds of its contract. -/
def PendingResult.WithinBounds (r : PendingResult) : Prop :=
  r.reportsStatus = true →
    (∀ n : ℤ, r.result.1.getNone "uptime_ms" = .int n → n ≤ 2 ^ 53 - 1) ∧
      ∀ n : ℤ, r.result.1.getNone "tasks_completed" = .int n → n ≤ 1000000

theorem PendingResult.WithinBounds.not_exceeds {r : PendingResult} (h : r.WithinBounds)
    (hfits : Fits w.toInterp r.result.1) : ¬r.Exceeds w.toInterp := by
  rintro ⟨hstatus, ⟨n, hn, hlarge⟩ | ⟨n, hn, hlarge⟩ | hlarge⟩
  · exact absurd ((h hstatus).1 n hn) (not_le.mpr hlarge)
  · exact absurd ((h hstatus).2 n hn) (not_le.mpr hlarge)
  · exact hlarge hfits

/-- While no tombstone is evicted and the counters of the Node stay within the bounds of their
    contract, no task is executed twice. -/
theorem executed_at_most_once (h : NodeRetaining w isoformat σ)
    (hbounds : ∀ ε ∈ σ.executed, ε.outcome.WithinBounds) :
    (σ.executed.map (·.outcome.taskId)).Nodup := by
  rw [List.Nodup, List.pairwise_map]
  refine (h.sound.once.and h.jams.earlier).imp_of_mem ?_
  rintro later earlier - hearlier ⟨honce, hfits⟩ hsame
  exact (hbounds earlier hearlier).not_exceeds hfits (honce hsame)

namespace Counting

/-- The answer arrives after all, and the Node executes one more task. -/
def resumed : NodeSystem := unheard.hear .counting quiet

def pinged : NodeSystem :=
  { resumed with server := step .counting resumed.server (queue .ping (.obj [])) }

def twice : NodeSystem := (pinged.call .counting stamp 13).hear .counting quiet

/-- Both turns can be taken, and neither execution reports a status. -/
theorem twice_evaluated :
    resumed.server.lasts pinged.server = true ∧ pinged.calls = true ∧
    pinged.server.lasts (pinged.call .counting stamp 13).server = true ∧
    twice.executed.length = 2 ∧
    twice.executed.all (fun ε => !ε.outcome.reportsStatus) = true := by
  decide +kernel

theorem twice_retaining : NodeRetaining .counting stamp twice := by
  obtain ⟨hqueued, hcalls, hlasts, -⟩ := twice_evaluated
  have hresumed : NodeRetaining .counting stamp resumed :=
    NodeRetaining.hear unheard_retaining quiet
  have hpinged : NodeRetaining .counting stamp pinged := hresumed.queue _ _ hqueued
  exact (hpinged.call hcalls hlasts).hear quiet

end Counting

/-- Two tasks are executed, one after the other. -/
theorem executed_at_most_once_twice : Counting.twice.executed.length = 2 ∧
    (Counting.twice.executed.map (·.outcome.taskId)).Nodup := by
  obtain ⟨-, -, -, htwo, hquiet⟩ := Counting.twice_evaluated
  refine ⟨htwo, executed_at_most_once Counting.twice_retaining fun ε hε hstatus => ?_⟩
  rw [List.all_eq_true] at hquiet
  have := hquiet ε hε
  rw [hstatus] at this
  cases this

/-- What the Teamserver holds of a task of the Node is what the Node computed for this task. -/
theorem acknowledged_executed (h : NodeReachable w isoformat σ) {id : PyStr} {held : NodeTask}
    (hk : σ.server.Acknowledged id held) (hissued : held.nodeId ∈ σ.issued) :
    ∃ ε ∈ σ.executed, ε.nodeId = held.nodeId ∧ Keeps w held ε.outcome ∧
      ∃ (x : NodeExecutor) (k : NodeTask), k.id = id ∧ k.command = held.command ∧
        ε.outcome.Answers w.toInterp isoformat x k := by
  obtain ⟨ε, hε, hid, hnode, hkeeps⟩ := h.sound.held id held hk hissued
  obtain ⟨-, x, k, hanswers, hassigned⟩ := h.sound.executed ε hε
  obtain rfl := hanswers.id_eq.symm.trans hid
  exact ⟨ε, hε, hnode, hkeeps, x, k, rfl, (hassigned.acknowledged held hk).2.symm, hanswers⟩

/-- The one accepted result is the one of the execution. -/
theorem acknowledged_executed_unheard : ∃ id held, Counting.unheard.server.Acknowledged id held ∧
    ∃ ε ∈ Counting.unheard.executed, ε.nodeId = held.nodeId ∧
      Keeps World.counting held ε.outcome := by
  obtain ⟨-, -, -, -, -, -, -, htask⟩ := Counting.unheard_evaluated
  obtain ⟨t, ht, hacc⟩ := Option.map_eq_some_iff.mp htask
  obtain ⟨t', -, ht⟩ := Option.bind_eq_some_iff.mp ht
  obtain ⟨hacc, hissued⟩ := Bool.and_eq_true_iff.mp hacc
  have hk : Counting.unheard.server.Acknowledged t'.id t.nodeTask := .recorded ht hacc
  obtain ⟨ε, hε, hnode, hkeeps, -⟩ :=
    acknowledged_executed Counting.unheard_reachable hk (of_decide_eq_true hissued)
  exact ⟨_, _, hk, ε, hε, hnode, hkeeps⟩

end C2Lab
