import C2Lab.Core.Delivery
import C2Lab.Core.ExerciseLife

/-! Containment is final.

    Containing an exercise leaves none of its tasks queued and, if that was the action, its node
    paused. No change of the records undoes either, and no change touches the record of a contained
    exercise but to continue its timeline. -/

namespace C2Lab

variable {w : World} {s s' s₀ s₁ : LabState} {acts : List Activity} {hi : ℕ}

/-! ### What stays as it is -/

/-- A task that is not queued. -/
def Unqueued (w : World) (id : PyStr) (r : Records) (draws : ℕ) : Prop :=
  w.TaskDrawn draws id ∧ ∀ t, r.tasks.get? id = some t → t.status ≠ .queued

/-- A node that takes no tasks for as long as it is there. -/
def Paused (w : World) (nodeId : PyStr) (r : Records) (draws : ℕ) : Prop :=
  (∃ k < draws, nodeId = w.nodeId k) ∧
    ∀ n, r.nodes.get? nodeId = some n → n.taskingPaused = true

theorem RecordChange.unqueued {c : Activity} {r : Records} (h : RecordChange w s hi c r)
    (hd : s.draws ≤ hi) (hf : w.FreshBelow hi) {id : PyStr}
    (hQ : Unqueued w id s.toRecords s.draws) : Unqueued w id r hi := by
  obtain ⟨⟨k, hk, hid⟩, hnone⟩ := hQ
  refine ⟨⟨k, hk.trans_le hd, hid⟩, fun t ht hq => ?_⟩
  rcases h.queued ht hq with hold | ⟨hnew, hlt, -⟩
  · exact hnone t hold hq
  · exact taskId_fresh hf hk hlt (hid ▸ hnew)

theorem RecordChange.paused {c : Activity} {r : Records} (h : RecordChange w s hi c r)
    (hs : Safe w s) (hd : s.draws ≤ hi) (hf : w.FreshBelow hi) {nodeId : PyStr}
    (hQ : Paused w nodeId s.toRecords s.draws) : Paused w nodeId r hi := by
  obtain ⟨⟨k, hk, hid⟩, hpaused⟩ := hQ
  refine ⟨⟨k, hk.trans_le hd, hid⟩, fun n hn => ?_⟩
  have hchange := h.node hs nodeId
  rw [hn] at hchange
  generalize hx : some n = x at hchange
  cases hchange with
  | same => exact hpaused n hx.symm
  | continued _ hn₀ hcont => cases hx; exact hcont.paused (hpaused _ hn₀)
  | closed _ hn₀ =>
    cases hx
    have hp := hpaused _ hn₀
    exact hp
  | added now hnew hlt => exact absurd (hid ▸ hnew) (nodeId_fresh hf hk (by omega))
  | removed => cases hx

/-! ### The invariant of contained exercises -/

/-- What holds of an exercise on the records around it once it was contained. -/
structure Exercise.Quarantined (w : World) (r : Records) (draws : ℕ) (e : Exercise) : Prop where
  node_drawn : ∃ k < draws, e.nodeId = w.nodeId k
  unqueued : e.status = .contained → ∀ id ∈ e.taskIds, Unqueued w id r draws
  paused : e.containment.map (·.action) = some .pauseNodeTasking → Paused w e.nodeId r draws

/-- A change of the records around an exercise. -/
theorem Exercise.Quarantined.change {c : Activity} {r : Records} {e : Exercise}
    (hQ : e.Quarantined w s.toRecords s.draws) (h : RecordChange w s hi c r) (hs : Safe w s)
    (hd : s.draws ≤ hi) (hf : w.FreshBelow hi) : e.Quarantined w r hi where
  node_drawn := hQ.node_drawn.imp fun _ ⟨hk, hid⟩ => ⟨hk.trans_le hd, hid⟩
  unqueued hst id hid := h.unqueued hd hf (hQ.unqueued hst id hid)
  paused hact := h.paused hs hd hf (hQ.paused hact)

/-- An exercise that was not contained by a change. -/
theorem Exercise.Quarantined.of_sameStart {r : Records} {draws : ℕ} {e e' : Exercise}
    (hQ : e.Quarantined w r draws) (h : e.SameStart e')
    (hst : e'.status = .contained → e.status = .contained)
    (hact : e'.containment = e.containment) : e'.Quarantined w r draws where
  node_drawn := h.node_eq ▸ hQ.node_drawn
  unqueued hst' := h.tasks_eq ▸ hQ.unqueued (hst hst')
  paused hp := h.node_eq ▸ hQ.paused (hact ▸ hp)

/-- An exercise that starts: its tasks belong to a node that is there. -/
theorem Exercise.Prepared.quarantined {e : Exercise} (h : e.Prepared w s) (hs : Safe w s)
    (hf : w.FreshBelow s.draws) : e.Quarantined w s.toRecords s.draws where
  node_drawn := by
    have htasks := h.tasks hf
    have hne : (scenarioDefinition e.scenarioId).playbooks ≠ [] := by
      cases e.scenarioId <;> decide
    obtain ⟨p, rest, hplaybooks⟩ := List.exists_cons_of_ne_nil hne
    rw [hplaybooks] at htasks
    obtain ⟨id, ids, ⟨t, ht, hq, -, -, hnode⟩, -, -⟩ := List.forall₂_cons_right_iff.mp htasks
    obtain ⟨n, hn, -⟩ := hs.owned id t ht (by rw [hq]; rfl)
    exact hnode ▸ (hs.nodes _ _ hn).drawn
  unqueued hst := by rw [h.status_eq] at hst; cases hst
  paused hact := by rw [h.containment_eq] at hact; cases hact

theorem LabState.finalStatus_ne (e : Exercise) : s.finalStatus e ≠ .contained := by
  unfold finalStatus
  split <;> simp

/-- Every exercise, once contained, leaves nothing queued and its node paused if it was to be. -/
theorem quarantined_kept (w : World) : Kept w (.reset :: Activity.lasting) fun s =>
    s.exercises.All fun _ e => e.Quarantined w s.toRecords s.draws := by
  refine Kept.of_change (Q := fun r draws => r.exercises.All fun _ e => e.Quarantined w r draws)
    fun {s hi c r} _ hs hd hf h hQ id e' he' => ?_
  have hchange := h.exercise id
  rw [he'] at hchange
  generalize hx : some e' = x at hchange
  -- what holds before the change holds after it
  suffices hbefore : e'.Quarantined w s.toRecords s.draws from hbefore.change h hs hd hf
  have hnone : ∀ {e : Exercise}, s.exercises.get? id = some e → e.status ≠ .contained →
      e.containment = none := fun he hst => by
    by_contra hcon
    exact hst ((hs.exercise_valid he).contained_iff.mpr hcon)
  cases hchange with
  | same => exact hQ id e' hx.symm
  | observed he _ _ _ _ _ _ ho =>
    cases hx
    exact (hQ id _ he).of_sameStart ho.toExtended.sameStart (fun h => ho.status_eq ▸ h)
      ho.containment_eq
  | cancelled he _ _ _ _ _ _ ho =>
    cases hx
    exact (hQ id _ he).of_sameStart ho.toExtended.sameStart (fun h => ho.status_eq ▸ h)
      ho.containment_eq
  | finished he _ _ _ _ ho =>
    cases hx
    refine (hQ id _ he).of_sameStart ho.toExtended.sameStart (fun h => ?_) ho.containment_eq
    exact absurd (ho.status_eq ▸ h) (LabState.finalStatus_ne _)
  | @contained e _ he hid hst hdet hq action hp ho =>
    cases hx
    have hold := hQ id _ he
    refine ⟨ho.node_eq ▸ hold.node_drawn, fun _ x hx' => ?_, fun hact => ?_⟩
    · rw [ho.tasks_eq] at hx'
      exact ⟨(hs.exercises _ _ he).drawn x hx', hq x hx'⟩
    · rw [ho.containment_eq, Option.some.injEq] at hact
      exact ho.node_eq ▸ ⟨hold.node_drawn, hp hact⟩
  | added hid hprep hk => cases hx; exact hprep.quarantined hs (hf.mono hd)
  | removed => cases hx

/-! ### The record of a contained exercise -/

/-- A contained exercise whose timeline alone may have gone on. -/
structure Exercise.Sealed (e e' : Exercise) : Prop extends SameStart e e' where
  status_eq : e'.status = .contained
  containment_eq : e'.containment = e.containment
  alerts_eq : e'.alerts = e.alerts

/-- No change but a reset does more to a contained exercise than to continue its timeline. -/
theorem ExerciseChange.sealed {id : PyStr} {c : Activity} {x : Option Exercise}
    (h : ExerciseChange w s id c x) (hc : c ≠ .reset) (hf : w.FreshBelow s.draws) {e₀ e : Exercise}
    (he : s.exercises.get? id = some e) (hsealed : e₀.Sealed e) :
    ∃ e', x = some e' ∧ e₀.Sealed e' := by
  have hsame : ∀ {e₁ : Exercise}, s.exercises.get? id = some e₁ → e₁ = e := fun he₁ =>
    Option.some.inj (he₁.symm.trans he)
  cases h with
  | same => exact ⟨e, he, hsealed⟩
  | @observed e₁ e' t p he₁ _ _ _ _ _ _ ho =>
    obtain rfl := hsame he₁
    refine ⟨e', rfl, hsealed.toSameStart.trans ho.toExtended.sameStart,
      ho.status_eq.trans hsealed.status_eq, ho.containment_eq.trans hsealed.containment_eq, ?_⟩
    -- a contained exercise matches no rule
    have hrules : matchedRules e₁ t p = [] := if_neg fun h => h.2 hsealed.status_eq
    obtain ⟨new, heq, hrule, -⟩ := ho.alerts_eq
    rw [hrules, List.map_eq_nil_iff] at hrule
    rw [heq, hrule, List.append_nil, hsealed.alerts_eq]
  | cancelled he₁ _ hst | contained he₁ _ hst | finished he₁ _ hst =>
    exact absurd (hsame he₁ ▸ hsealed.status_eq) hst
  | added hid hp =>
    have hnew := hp.id_new hf
    rw [hid, he] at hnew
    cases hnew
  | removed => exact absurd rfl hc

theorem sealed_kept (w : World) (id : PyStr) (e₀ : Exercise) :
    Kept w Activity.lasting fun s => ∃ e, s.exercises.get? id = some e ∧ e₀.Sealed e := by
  refine Kept.of_change (Q := fun r _ => ∃ e, r.exercises.get? id = some e ∧ e₀.Sealed e)
    fun {s hi c r} hc hs hd hf h ⟨e, he, hsealed⟩ => ?_
  exact (h.exercise id).sealed (Activity.mem_lasting.mp hc) (hf.mono hd) he hsealed

/-! ### The paused node -/

/-- No task is created for a paused node. -/
structure Spared (w : World) (s₀ : LabState) (nodeId : PyStr) (r : Records) (draws : ℕ) :
    Prop where
  paused : Paused w nodeId r draws
  old : ∀ id t, r.tasks.get? id = some t → t.nodeId = nodeId → ∃ t₀, s₀.tasks.get? id = some t₀

theorem spared_kept (w : World) (s₀ : LabState) (nodeId : PyStr) :
    Kept w (.reset :: Activity.lasting) fun s => Spared w s₀ nodeId s.toRecords s.draws := by
  refine Kept.of_change (Q := Spared w s₀ nodeId) fun {s hi c r} _ hs hd hf h hQ => ?_
  refine ⟨h.paused hs hd hf hQ.paused, fun id t' ht' hnode => ?_⟩
  have hchange := h.task id
  rw [ht'] at hchange
  generalize hx : some t' = x at hchange
  cases hchange with
  | same => exact hQ.old id t' hx.symm hnode
  | edited ht _ he =>
    cases hx
    have hsame := congrArg Task.nodeId he.request_eq
    exact hQ.old id _ ht (hsame.symm.trans hnode)
  | added ha =>
    cases hx
    obtain rfl : _ = nodeId := hnode
    have hp := hQ.paused.2 _ ha.node
    rw [ha.unpaused] at hp
    cases hp
  | pruned | cleared => cases hx

/-- A pause outlasts the expiry pass. -/
theorem Came.paused (h : Came w Activity.expiring s s') (hs : Safe w s) {nodeId : PyStr}
    (hp : ∀ n, s.nodes.get? nodeId = some n → n.taskingPaused = true) :
    ∀ n, s'.nodes.get? nodeId = some n → n.taskingPaused = true := by
  refine h.keeps (P := fun m => ∀ n, m.nodes.get? nodeId = some n → n.taskingPaused = true) hs hp
    fun hc hs₁ hw hp n hn => ?_
  have hchange := (hw.records hs₁).node hs₁ nodeId
  rw [hn] at hchange
  generalize hx : some n = x at hchange
  cases hchange with
  | same => exact hp n hx.symm
  | continued _ hn₀ hcont => cases hx; exact hcont.paused (hp _ hn₀)
  | closed _ hn₀ =>
    cases hx
    have hold := hp _ hn₀
    exact hold
  | added => simp [Activity.expiring] at hc
  | removed => cases hx

/-- A poll of a paused node hands out nothing, and changes no task after the expiry pass. -/
theorem pollNode_paused (hs : Safe w s) {nodeId : PyStr}
    (hp : ∀ n, s.nodes.get? nodeId = some n → n.taskingPaused = true) {token : Json}
    {now : Instant} {reply : PollResponse}
    (hok : pollNode w (.str nodeId) token now s = .ok reply s') :
    reply.task = none ∧ ∃ m, expire w now s = .ok ⟨⟩ m ∧ s'.tasks = m.tasks := by
  obtain ⟨m, n, h⟩ := pollNode_answers hs hok
  have hid : nodeId = n.id := Json.str.inj h.session.node_eq
  have hpaused := h.came.paused hs hp n (hid ▸ h.session.recorded)
  have hans := h.answers
  generalize reply.task = task at hans
  cases hans with
  | paused _ htasks => exact ⟨rfl, m, h.expired, htasks⟩
  | again hp' | first hp' | nothing hp' => rw [hpaused] at hp'; cases hp'

/-! ### Results -/

/-- A result that passes the contract of its dispatched task is accepted. -/
theorem submitResult_accepted (hs : Safe w s) {nodeId token : Json} {now : Instant} {m : LabState}
    (hexp : expire w now s = .ok ⟨⟩ m) {n : Node} (hsess : m.Session nodeId token n) {t : Task}
    (ht : m.tasks.get? t.id = some t) (hnode : t.nodeId = n.id) (hd : t.status = .dispatched)
    {status : ResultStatus} {sent : Document} {result : Json}
    (hv : validateTaskResult w.toInterp t.command (Vocabulary.toJson status) sent.1
      (some n.expectedRuntime) = .ok (status, result)) :
    ∃ reply s' time, submitResult w nodeId token (.str t.id) (Vocabulary.toJson status) sent.1 now s
        = .ok reply s' ∧ reply = (t.ended status.taskStatus result time true).nodeTask ∧
      s'.tasks.get? t.id = some (t.ended status.taskStatus result time true) := by
  have hm := expire_safe hs hexp
  obtain ⟨-, -, henv, -⟩ := validateTaskResult_eq_ok.mp hv
  have hlive : submitSession w n (.str t.id) (Vocabulary.toJson status) sent.1 now m =
      acceptResult w n t status result now m := by
    simp only [submitSession, submitLive, bind, EStateM.bind, Prog.get_apply, ht, hnode, if_true,
      henv, orReject, pure, EStateM.pure, hd, hv, reduceCtorEq, or_self, if_false, ne_eq,
      not_true_eq_false]
  obtain ⟨r, s', hrun, hcame, href, hr⟩ :=
    Prog.exists_ok (acceptResult_wp hm hsess.recorded ht hnode hd hv now)
  refine ⟨r, s', w.utcNow m.draws, ?_, hr, ?_⟩
  · rw [submitResult_session hs hexp hsess, hlive, hrun]
  · rw [href.records]
    simp only
    rw [LabState.acceptedResult_records hm ht hd, Dict.get?_set_self]

/-! ### Calls on a contained exercise -/

/-- A call with the same action returns the exercise as it is; another action is refused. -/
theorem containExercise_again {id : PyStr} {e : Exercise} (he : s.exercises.get? id = some e)
    (hst : e.status = .contained) {act act' : ContainmentAction}
    (hact : e.containment.map (·.action) = some act) {action actor : Json} {a : PyStr}
    (hparse : (Vocabulary.parse action : Option ContainmentAction) = some act')
    (ha : validateOperatorActor actor = .ok a) :
    containExercise w (.str id) action actor s =
      if act = act' then .ok e.publicExercise s
      else .error (labError "exercise already has a different containment action"
        "containment_conflict" 409) s := by
  simp only [containExercise, requireStr, check_ok, hparse, ha, bind, EStateM.bind, pure,
    EStateM.pure, Prog.get_apply, he, hst, if_true, hact,
    Option.some.injEq]
  split <;> rfl

/-! ### Every later state -/

/-- What holds of a contained exercise in a later state. -/
structure StaysContained (w : World) (act : ContainmentAction) (e : Exercise) (s : LabState) :
    Prop where
  sealed : ∃ e', s.exercises.get? e.id = some e' ∧ e.Sealed e' ∧
    ∀ action actor act' a, (Vocabulary.parse action : Option ContainmentAction) = some act' →
      validateOperatorActor actor = .ok a → containExercise w (.str e.id) action actor s =
        if act = act' then .ok e'.publicExercise s
        else .error (labError "exercise already has a different containment action"
          "containment_conflict" 409) s
  unqueued : ∀ id ∈ e.taskIds, (∀ t, s.tasks.get? id = some t → t.status ≠ .queued) ∧
    ∀ op t, ¬ FirstDispatch w s op id t

/-- What holds of a paused node in a later state `s`; it was paused at `s₀`. -/
structure StaysPaused (w : World) (s₀ : LabState) (nodeId : PyStr) (s : LabState) : Prop where
  paused : ∀ n, s.nodes.get? nodeId = some n → n.taskingPaused = true
  spared : ∀ id t, s.tasks.get? id = some t → t.nodeId = nodeId → ∃ t₀, s₀.tasks.get? id = some t₀
  polls : ∀ token now reply s', pollNode w (.str nodeId) token now s = .ok reply s' →
    reply.task = none ∧ ∃ m, expire w now s = .ok ⟨⟩ m ∧ s'.tasks = m.tasks
  accepts : ∀ token now m n t status (sent : Document) result, expire w now s = .ok ⟨⟩ m →
    m.Session (.str nodeId) token n → m.tasks.get? t.id = some t → t.nodeId = nodeId →
    t.status = .dispatched → validateTaskResult w.toInterp t.command (Vocabulary.toJson status)
      sent.1 (some n.expectedRuntime) = .ok (status, result) →
    ∃ reply s' time, submitResult w (.str nodeId) token (.str t.id)
      (Vocabulary.toJson status) sent.1
        now s = .ok reply s' ∧ reply = (t.ended status.taskStatus result time true).nodeTask ∧
      s'.tasks.get? t.id = some (t.ended status.taskStatus result time true)

/-- Containment is final. After a successful `contain_exercise`, in every state up to the next reset
    the exercise has the same containment and the same alerts, the same call returns it and a call
    with another action is refused, and none of its tasks is queued or handed out for the first
    time. If its node was paused, it stays so: it is given no task, its polls hand out none, and the
    results of its tasks in flight are accepted. -/
theorem containment_final (hr : Reachable w s) {exerciseId action actor : Json}
    {reply : PublicExercise} (hok : containExercise w exerciseId action actor s = .ok reply s₁)
    (hf : w.FreshBelow s₁.draws) :
    ∃ act e, (Vocabulary.parse action : Option ContainmentAction) = some act ∧
      exerciseId = .str e.id ∧ s₁.exercises.get? e.id = some e ∧ reply = e.publicExercise ∧
      e.containment.map (·.action) = some act ∧ ∀ s₂, Since w s₁ s₂ →
        StaysContained w act e s₂ ∧
        (act = .pauseNodeTasking → StaysPaused w s₁ e.nodeId s₂) := by
  have hs := hr.sound
  have hwp := containExercise_wp hs.safe hs.settled exerciseId action actor
  rw [Prog.wp_run hok] at hwp
  obtain ⟨-, -, ⟨id, act, e, hid, hparse, he, hst, hact, hreply⟩⟩ := hwp
  have hstep : step w s (.containExercise exerciseId action actor) = s₁ := by
    simp only [step, Op.run, Prog.final, Functor.map, EStateM.map, hok]
  have hr₁ : Reachable w s₁ := hstep ▸ hr.step (hstep ▸ hf)
  have hkey : e.id = id := hr₁.sound.safe.exercise_key he
  subst hkey
  have hquar : ∀ {m}, Reachable w m →
      m.exercises.All fun _ e => e.Quarantined w m.toRecords m.draws :=
    (quarantined_kept w).reachable fun _ => Dict.all_empty
  refine ⟨act, e, hparse, hid, he, hreply, hact, fun s₂ hsince => ?_⟩
  have hr₂ := hr₁.later hsince.later
  have hs₂ := hr₂.sound
  obtain ⟨e', he', hsealed⟩ := (sealed_kept w e.id e).since hsince hr₁.sound
    ⟨e, he, .refl e, hst, rfl, rfl⟩
  have hact' : e'.containment.map (·.action) = some act := hsealed.containment_eq ▸ hact
  have hq := hquar hr₂ e.id e' he'
  refine ⟨⟨⟨e', he', hsealed, fun action actor act' a hp ha =>
    containExercise_again he' hsealed.status_eq hact' hp ha⟩, fun x hx => ?_⟩, ?_⟩
  · have hnone := (hq.unqueued hsealed.status_eq x (hsealed.tasks_eq ▸ hx)).2
    refine ⟨hnone, fun op t hfirst => ?_⟩
    obtain ⟨_, _, _, _, _, _, u, rfl, hdel⟩ := hfirst.delivered hs₂
    exact hnone u hdel.before hdel.queued
  · rintro rfl
    have hspared := (spared_kept w s₁ e.nodeId).later hsince.later hr₁.sound
      ⟨(hquar hr₁ e.id e he).paused hact, fun x t ht _ => ⟨t, ht⟩⟩
    refine ⟨hspared.paused.2, hspared.old, fun token now r s' hpoll =>
      pollNode_paused hs₂.safe hspared.paused.2 hpoll, ?_⟩
    rintro token now m n t status sent result hexp hsess ht hnode hd hv
    exact submitResult_accepted hs₂.safe hexp hsess ht (hnode.trans (Json.str.inj hsess.node_eq))
      hd hv

/-- A detected exercise is contained with its node paused. -/
theorem containment_final_paused :
    let s := exec .counting (.init "stream") Counting.detection
    ∃ reply s₁ e, containExercise .counting (.str (World.counting.exerciseId 6))
        (Vocabulary.toJson ContainmentAction.pauseNodeTasking) (.str "operator") s = .ok reply s₁ ∧
      reply = e.publicExercise ∧ ∀ s₂, Since .counting s₁ s₂ →
        StaysContained .counting .pauseNodeTasking e s₂ ∧ StaysPaused .counting s₁ e.nodeId s₂ := by
  intro s
  have hr : Reachable .counting s := Counting.detection_run.reachable
  obtain ⟨reply, s₁, hok, hf⟩ := Counting.exists_returned (m := containExercise .counting
    (.str (World.counting.exerciseId 6)) (Vocabulary.toJson ContainmentAction.pauseNodeTasking)
    (.str "operator")) (s := s) (by decide +kernel)
  obtain ⟨act, e, hparse, -, -, hreply, -, hafter⟩ := containment_final hr hok hf
  rw [Vocabulary.parse_toJson, Option.some.injEq] at hparse
  subst hparse
  exact ⟨reply, s₁, e, hok, hreply, fun s₂ h => ⟨(hafter s₂ h).1, (hafter s₂ h).2 rfl⟩⟩

end C2Lab
