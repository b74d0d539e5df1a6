import C2Lab.Core.Counting
import C2Lab.Core.Notices
import C2Lab.Core.PollRun
import C2Lab.Failure

/-! A result that is not accepted.

    Whatever a Node submits for a task it was handed, the Teamserver takes it or refuses it with one
    rejection in each history and no record changed. What breaks the rule is a result whose check
    raises an exception of Python itself, for nobody catches that and nothing is recorded. -/

namespace C2Lab

variable {w : World} {s s' m : LabState}

/-- How a submission for a task ends in order: accepted, or refused with one rejection recorded. -/
inductive SubmissionHandled (m : LabState) (t : Task) :
    EStateM.Result Exc LabState NodeTask → Prop
  | accepted {reply : NodeTask} {s' : LabState} {status : ResultStatus} {result : Json}
      {time : Timestamp} (hreply : reply = (t.ended status.taskStatus result time true).nodeTask)
      (ht : s'.tasks.get? t.id = some (t.ended status.taskStatus result time true)) :
      SubmissionHandled m t (.ok reply s')
  | refused {e : LabError} {s' : LabState} (hrec : s'.toRecords = m.toRecords)
      (hevents : ∃ x, s'.eventLog = m.eventLog ++ [x] ∧ x.kind = .taskResultRejected ∧
        x.taskId = some t.id)
      (haudit : ∃ a, s'.auditLog = m.auditLog ++ [a] ∧ a.action = .taskResultRejected ∧
        a.taskId = some t.id) : SubmissionHandled m t (.error (.lab e) s')

/-- A submission whose check raises an exception of Python itself: the encoder runs out of depth, or
    a playbook result of the right form up to there has a list or an object for an observation. -/
def Derails (py : Interp) (c : Command) (status result : Json) : Prop :=
  TooDeep py status result ∨ ∃ st fields, result = .obj fields ∧
    validateResult py status result = .ok (st, result) ∧ OddCompletion c st fields

/-- A refusal changes no record and adds one entry to each history. -/
theorem SubmissionHandled.of_rejected (t : Task) (reason : String) (e : LabError) :
    SubmissionHandled m t (.error (.lab e) (m.rejectResultLocked w t.nodeTask reason)) := by
  refine .refused ?_ ?_ ?_
  · rw [LabState.rejectResultLocked, LabState.toRecords_auditLocked,
      LabState.toRecords_recordLocked]
  · exact ⟨_, (Journal.eventLog_auditLocked _ _ _).trans (Journal.eventLog_recordLocked _ _ _),
      rfl, rfl⟩
  · exact ⟨_, (Journal.auditLog_auditLocked _ _ _).trans
      (congrArg (· ++ _) (Journal.auditLog_recordLocked _ _ _)), rfl, rfl⟩

/-- The check of a submission for a dispatched task ends in order or in an exception of Python. -/
theorem submitSession_handled (hm : Safe w m) {n : Node} {t : Task}
    (hn : m.nodes.get? n.id = some n) (ht : m.tasks.get? t.id = some t) (hnode : t.nodeId = n.id)
    (hd : t.status = .dispatched) (status : Json) (sent : Document) (now : Instant) :
    let R : EStateM.Result Exc LabState NodeTask → Prop := fun r =>
      SubmissionHandled m t r ∨ Derails w.toInterp t.command status sent.1
    Prog.wp (submitSession w n (.str t.id) status sent.1 now) (fun reply s' => R (.ok reply s'))
      (fun e s' => R (.error e s')) m := by
  intro R
  unfold submitSession
  simp only [Prog.wp_bind, Prog.wp_get, ht]
  rw [if_pos hnode, Prog.wp_bind, orReject_wp]
  refine ⟨?_, fun msg _ => .inl (.of_rejected t _ _), fun e he hno => ?_⟩
  · rintro ⟨st, result⟩ henv
    obtain ⟨hst, rfl, ⟨fields, hfields⟩, n', -, hsize⟩ := validateResult_eq_ok.mp henv
    unfold submitLive
    rw [if_neg (by simp [hd]), if_neg (by simp [hd]), Prog.wp_bind, orReject_wp]
    refine ⟨?_, fun msg _ => .inl (.of_rejected t _ _), fun e he hno => ?_⟩
    · rintro ⟨st', result⟩ hv
      obtain ⟨_, -, henv', -⟩ := validateTaskResult_eq_ok.mp hv
      obtain ⟨hst', -⟩ := validateResult_eq_ok.mp henv'
      obtain rfl := Vocabulary.toJson_inj hst'
      refine Prog.wp_mono (acceptResult_wp hm hn ht hnode hd hv now) ?_ fun _ _ h => h.elim
      rintro reply s' ⟨-, href, hreply⟩
      refine .inl (.accepted hreply ?_)
      rw [href.records]
      simp only
      rw [LabState.acceptedResult_records hm ht hd, Dict.get?_set_self]
    · -- the envelope passes again, so the contract of the task failed
      have hcon : validateContract w.toInterp t.command st (.obj fields) fields
          (some n.expectedRuntime) = .error e := by
        rw [hst] at henv
        unfold validateTaskResult at he
        rw [henv, hfields] at he
        rcases bind_eq_error.mp he with h | ⟨_, h, he⟩
        · cases h
        · cases h
          rcases bind_eq_error.mp he with h | ⟨_, _, h⟩
          · exact h
          · cases h
      rw [hfields] at hsize
      rcases validateContract_fails hsize e hcon with ⟨msg, rfl⟩ | ⟨-, hodd⟩
      · exact absurd rfl (hno msg)
      · exact .inr (.inr ⟨st, fields, hfields, henv, hodd⟩)
  · rcases validateResult_fails status sent.1 e he with ⟨msg, rfl⟩ | ⟨-, hdeep⟩
    · exact absurd rfl (hno msg)
    · exact .inr (.inl hdeep)

/-- An exception of Python passes through. -/
theorem submitSession_derails {n : Node} {t : Task} (ht : m.tasks.get? t.id = some t)
    (hnode : t.nodeId = n.id) (hd : t.status = .dispatched) {status : Json} {sent : Document}
    (h : Derails w.toInterp t.command status sent.1) (now : Instant) :
    ∃ e, submitSession w n (.str t.id) status sent.1 now m = .error (.py e) m := by
  rcases h with hdeep | ⟨st, fields, hfields, henv, hodd⟩
  · refine ⟨.recursionError, ?_⟩
    simp only [submitSession, bind, EStateM.bind, Prog.get_apply, ht,
      hnode, if_true, hdeep.raises, orReject]
    rfl
  · refine ⟨.typeError, ?_⟩
    obtain ⟨hst, -⟩ := validateResult_eq_ok.mp henv
    have hcon : validateTaskResult w.toInterp t.command (Vocabulary.toJson st) sent.1
        (some n.expectedRuntime) = .error (.py .typeError) := by
      rw [hst, hfields] at henv
      unfold validateTaskResult
      simp only [hfields, henv, bind, Except.bind, hodd.raises]
    simp only [submitSession, submitLive, bind, EStateM.bind, Prog.get_apply, ht, hnode, if_true,
      henv, orReject, pure, EStateM.pure, hd, hcon, reduceCtorEq, or_self, if_false, ne_eq,
      not_true_eq_false]
    rfl

/-- Results that are not accepted. A submission by the session of a task's Node, the task still
    dispatched after the expiry pass, is accepted or refused with nothing changed and one rejection
    recorded, if and only if no check of it raises an exception of Python itself. -/
theorem result_rejection (hr : Reachable w s) {nodeId token : Json} {now : Instant}
    (hexp : expire w now s = .ok ⟨⟩ m) {n : Node} (hsess : m.Session nodeId token n) {t : Task}
    (ht : m.tasks.get? t.id = some t) (hnode : t.nodeId = n.id) (hd : t.status = .dispatched)
    (status : Json) (result : Document) :
    SubmissionHandled m t (submitResult w nodeId token (.str t.id) status result.1 now s) ↔
      ¬Derails w.toInterp t.command status result.1 := by
  have hs := hr.sound.safe
  have hm := expire_safe hs hexp
  rw [submitResult_session hs hexp hsess]
  constructor
  · intro h hderails
    obtain ⟨e, he⟩ := submitSession_derails ht hnode hd hderails now
    rw [he] at h
    cases h
  · intro hok
    have hwp := submitSession_handled hm hsess.recorded ht hnode hd status result now
    unfold Prog.wp at hwp
    cases hrun : submitSession w n (.str t.id) status result.1 now m with
    | ok reply s' =>
      rw [hrun] at hwp
      exact hwp.resolve_right hok
    | error e s' =>
      rw [hrun] at hwp
      exact hwp.resolve_right hok

namespace Counting

/-- A Node is handed a canary playbook: the task is draw 6. -/
def canary : List Op :=
  [enrollPurple, queue .runPlaybook
    (.obj [("playbook", Vocabulary.toJson Playbook.createCanary)]), poll 11]

open LabRuntime in
/-- A canary result that observes its marker as a list. -/
def oddCanary : Document :=
  ⟨Json.dict [("playbook", Vocabulary.toJson Playbook.createCanary), ("scope", scope),
    ("attack_techniques", attackTechniques .createCanary),
    ("steps", LabRuntime.steps .createCanary),
    ("evidence", .arr [.dict [("artifact", .str canaryArtifact), ("observation", .arr []),
      ("bytes", .int canaryBytes.length)]])], by decide⟩

/-- The Node of draw 0 is recorded with its first token. -/
def enrolled (m : LabState) : Bool :=
  ((m.nodes.get? (World.counting.nodeId 0)).map fun n => (n.id, n.sessionToken)) ==
    some (World.counting.nodeId 0, .text (World.counting.token 1))

theorem exists_session {m : LabState} (h : enrolled m = true) :
    ∃ n, m.Session nodeId token n ∧ n.id = World.counting.nodeId 0 := by
  simp only [enrolled, beq_iff_eq, Option.map_eq_some_iff, Prod.mk.injEq] at h
  obtain ⟨n, hn, hid, htoken⟩ := h
  refine ⟨n, ⟨?_, ?_, ?_⟩, hid⟩
  · rw [hid]; exact hn
  · rw [nodeId, hid]
  · rw [token, htoken]

/-- After some operations the task of draw 6 is dispatched, and the expiry pass leaves it so. -/
def hands (ops : List Op) : Bool :=
  let s := exec .counting (.init "stream") ops
  let m := Prog.final (expire .counting 12) s
  returns (expire .counting 12) s && enrolled m &&
    ((m.tasks.get? (World.counting.taskId 6)).map fun t => (t.id, t.nodeId, t.status)) ==
      some (World.counting.taskId 6, World.counting.nodeId 0, .dispatched)

theorem exists_handed {ops : List Op} (h : hands ops = true) :
    ∃ m n t, expire .counting 12 (exec .counting (.init "stream") ops) = .ok ⟨⟩ m ∧
      m.Session nodeId token n ∧ m.tasks.get? t.id = some t ∧ t.nodeId = n.id ∧
      t.status = .dispatched ∧ t.id = World.counting.taskId 6 := by
  simp only [hands, Bool.and_eq_true, beq_iff_eq, Option.map_eq_some_iff, Prod.mk.injEq] at h
  obtain ⟨⟨hret, hn⟩, t, ht, htid, hnode, hd⟩ := h
  obtain ⟨⟨⟩, m, hexp, -⟩ := exists_returned hret
  rw [Prog.final, hexp] at hn ht
  obtain ⟨n, hsess, hid⟩ := exists_session hn
  refine ⟨m, n, t, hexp, hsess, ?_, hnode.trans hid.symm, hd, htid⟩
  rw [htid]; exact ht

theorem canary_reachable : Reachable .counting (exec .counting (.init "stream") canary) :=
  World.counting_reachable "stream" _ (by decide +kernel)

end Counting

/-- The rule at the Node with the canary task. -/
theorem result_rejection_canary :
    let s := exec .counting (.init "stream") Counting.canary
    ∃ m t, expire .counting 12 s = .ok ⟨⟩ m ∧ m.tasks.get? t.id = some t ∧
      t.status = .dispatched ∧ ∀ status (result : Document),
        SubmissionHandled m t (submitResult .counting Counting.nodeId Counting.token (.str t.id)
          status result.1 12 s) ↔ ¬Derails World.counting.toInterp t.command status result.1 := by
  intro s
  obtain ⟨m, n, t, hexp, hsess, ht, hnode, hd, -⟩ :=
    Counting.exists_handed (by decide +kernel : Counting.hands Counting.canary = true)
  exact ⟨m, t, hexp, ht, hd,
    result_rejection Counting.canary_reachable hexp hsess ht hnode hd⟩

/-- A canary result with a list for an observation is neither accepted nor recorded as rejected. -/
theorem result_rejection_odd :
    let s := exec .counting (.init "stream") Counting.canary
    Reachable .counting s ∧ ∃ m n t, expire .counting 12 s = .ok ⟨⟩ m ∧
      m.Session Counting.nodeId Counting.token n ∧ m.tasks.get? t.id = some t ∧
      t.nodeId = n.id ∧ t.status = .dispatched ∧
      ¬SubmissionHandled m t (submitResult .counting Counting.nodeId Counting.token (.str t.id)
        (.str "completed") Counting.oddCanary.1 12 s) := by
  intro s
  obtain ⟨m, n, t, hexp, hsess, ht, hnode, hd, hid⟩ :=
    Counting.exists_handed (by decide +kernel : Counting.hands Counting.canary = true)
  refine ⟨Counting.canary_reachable, m, n, t, hexp, hsess, ht, hnode, hd, fun h => ?_⟩
  obtain ⟨e, s', hrun, he⟩ := Counting.exists_raised (p := (· = .py .typeError)) (s := s)
    (m := submitResult .counting Counting.nodeId Counting.token (.str (World.counting.taskId 6))
      (.str "completed") Counting.oddCanary.1 12) (by decide +kernel)
  rw [hid, hrun] at h
  cases h
  cases he

end C2Lab
