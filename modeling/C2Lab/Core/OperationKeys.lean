import C2Lab.Core.Keys

/-! Idempotency keys of operations.

    The records of operation keys are bounded, so a new one may push an old one out. The victims are
    chosen while their operation has no queued or dispatched task left, and a task that ended never
    lives again: a key is therefore answered from its record for as long as its work is live. -/

namespace C2Lab

variable {w : World} {s s' s₀ s₁ : LabState} {acts : List Activity} {hi : ℕ}

/-! ### Which operations touch the keys -/

/-- The operations that create tasks. -/
def Op.createsTasks : Op → Bool
  | queueTask .. | queueOperation .. | startExercise .. => true
  | _ => false

/-- The other operations neither create nor prune. -/
theorem Ran.uncreating {op : Op} (h : Ran w s op s') (hop : op.createsTasks = false)
    (hreset : op.isReset = false) : ∃ acts, .create ∉ acts ∧ .prune ∉ acts ∧ .reset ∉ acts ∧
      Writes w acts s s' := by
  cases h with
  | plain h =>
    exact ⟨op.activities, by cases op <;> simp [Op.activities, Op.createsTasks] at hop ⊢,
      by cases op <;> simp [Op.activities, Op.createsTasks] at hop ⊢,
      by cases op <;> simp [Op.activities, Op.isReset] at hreset ⊢, h⟩
  | delivered h hd =>
    refine ⟨[.expiry, .refresh, .poll, .dispatch], by simp, by simp, by simp, ?_⟩
    exact ((h.mono (by simp)).write hd (by simp)).write (.tick .poll) (by simp)
  | accepted h hr hf =>
    refine ⟨[.expiry, .refresh, .result], by simp, by simp, by simp, ?_⟩
    exact ((h.mono (by simp)).write hr (by simp)).trans (hf.mono (by simp))

theorem RecordChange.operation_records {c : Activity} {r : Records} (h : RecordChange w s hi c r)
    (hc : c ≠ .create) (hc' : c ≠ .reset) : r.operationIdempotency = s.operationIdempotency := by
  cases h with
  | rememberedOperation => exact absurd rfl hc
  | cleared => exact absurd rfl hc'
  | _ => rfl

/-- Without creation and reset the operation keys stay as they are. -/
theorem Writes.operation_records (h : Writes w acts s s') (hs : Safe w s)
    (hf : w.FreshBelow s'.draws) (hc : .create ∉ acts) (hc' : .reset ∉ acts) :
    s'.operationIdempotency = s.operationIdempotency := by
  have hkept : Kept w acts fun m => m.operationIdempotency = s.operationIdempotency :=
    Kept.of_change (Q := fun r _ => r.operationIdempotency = s.operationIdempotency)
      fun hmem _ _ _ h hQ => (h.operation_records (fun he => hc (he ▸ hmem))
        fun he => hc' (he ▸ hmem)).trans hQ
  exact hkept.writes h hs hf rfl

/-! ### Eviction -/

/-- A record is kept while one of its tasks is queued or dispatched. -/
theorem not_evictable_iff {r : OperationRecord} :
    operationIdempotencyRecordIsEvictableLocked r s = false ↔
      ∃ id ∈ r.taskIds, ∃ t, s.tasks.get? id = some t ∧ t.status.isTerminal = false := by
  rw [operationIdempotencyRecordIsEvictableLocked, List.all_eq_false]
  refine exists_congr fun id => and_congr_right fun _ => ?_
  cases s.tasks.get? id <;> simp

/-- Keys that were not evicted keep their records. -/
theorem LabState.keysKept_get? {evicted : List PyStr} {k : PyStr} (h : k ∉ evicted) :
    (s.keysKept evicted).get? k = s.operationIdempotency.get? k := by
  rw [LabState.keysKept, Dict.get?_foldl_erase, if_neg h]

/-! ### What an operation does to the keys -/

/-- What an operation does to the records: nothing, or it clears them, or it adds one about tasks
    it just created, some others going. -/
inductive OperationKeyed (w : World) (s : LabState) (op : Op) (s' : LabState) : Prop
  | same (h : s'.operationIdempotency = s.operationIdempotency)
  | cleared (hop : op.isReset = true) (h : s'.operationIdempotency = .empty)
  | added {k : PyStr} {evicted : List PyStr} {r : OperationRecord}
      (h : s'.operationIdempotency = (s.keysKept evicted).set k r)
      (hkey : s.operationIdempotency.get? k = none) (hev : EvictionKeys s (some k) evicted)
      (hnew : ∀ id ∈ r.taskIds, ∃ i, s.draws ≤ i ∧ i < s'.draws ∧ id = w.taskId i)
      (hplaybook : ∀ id ∈ r.taskIds, ∀ t, s'.tasks.get? id = some t →
        t.command.taskType = .runPlaybook)

/-- The specifications of an operation's tasks are playbooks. -/
theorem OperationRequest.specsFrom_playbook (r : OperationRequest) (operationId : PyStr)
    (step : ℕ) (ps : List Playbook) :
    ∀ spec ∈ r.specsFrom operationId step ps, spec.command.taskType = .runPlaybook := by
  induction ps generalizing step with
  | nil => simp [specsFrom]
  | cons p ps ih =>
    intro spec hspec
    rcases List.mem_cons.mp hspec with rfl | hspec
    · rfl
    · exact ih (step + 1) spec hspec

/-- The tasks just created are the ones found under their identifiers. -/
theorem Creating.get?_new {now : Instant} {pruned new : List Task} {specs : List TaskSpec}
    (h : Creating w s now pruned specs new s') (hf : w.FreshBelow s'.draws) {id : PyStr} {t : Task}
    (hid : id ∈ new.map (·.id)) (ht : s'.tasks.get? id = some t) : t ∈ new := by
  have hnodup : (new.map (·.id)).Nodup := by
    obtain ⟨ks, hids, hlt, hks⟩ := h.drawn
    rw [hids]
    refine List.pairwise_map.mpr (hlt.imp_of_mem fun {i k} hi hk hik heq => ?_)
    exact hik.ne (hf.ident_inj (by decide) (hks i hi).2 (hks k hk).2 heq)
  rw [h.records] at ht
  simp only [Dict.get?_foldl_set _ hnodup] at ht
  cases hfind : new.find? (fun t => t.id = id) with
  | none =>
    obtain ⟨t', ht', rfl⟩ := List.mem_map.mp hid
    exact absurd (decide_eq_true rfl) (List.find?_eq_none.mp hfind t' ht')
  | some t' =>
    rw [hfind, Option.some_or, Option.some.injEq] at ht
    exact ht ▸ List.mem_of_find?_eq_some hfind

theorem OperationQueued.keyed {r : OperationRequest} {now : Instant} {reply : OperationSummary}
    (h : OperationQueued w s r now reply s') (hf : w.FreshBelow s'.draws) (op : Op) :
    OperationKeyed w s op s' := by
  cases h with
  | replayed => exact .same rfl
  | @created n evicted operationId pruned new s₁ hkey hn ha hp hev hmade =>
    have hsame : s₁.operationIdempotency = s.operationIdempotency := by rw [hmade.records]
    cases hreq : r.idempotencyKey with
    | none => exact .same hsame
    | some k =>
      rw [hreq] at hkey hev hf
      refine .added (k := k) (r := r.record operationId new) ?_ hkey hev ?_ ?_
      · simp only [LabState.rememberOperation, LabState.keysKept, hsame]
      · intro id hid
        obtain ⟨ks, hids, -, hks⟩ := hmade.drawn
        obtain ⟨i, hi, rfl⟩ := List.mem_map.mp (hids ▸ hid : id ∈ ks.map w.taskId)
        exact ⟨i, (hks i hi).1, (hks i hi).2, rfl⟩
      · intro id hid t ht
        have hmem := hmade.get?_new hf hid ht
        obtain ⟨i, hi, rfl⟩ := List.mem_iff_getElem.mp hmem
        have hlen := hmade.made.length_eq
        obtain ⟨s₂, hs₂⟩ := (List.forall₂_iff_get.mp hmade.made).2 i (by omega) hi
        simp only [List.get_eq_getElem] at hs₂
        rw [hs₂]
        exact r.specsFrom_playbook operationId 1 r.steps _ (List.getElem_mem _)

/-- A creating operation refuses and changes nothing, or ends as its rule says. -/
theorem OperationKeyed.of_wp {α : Type} {m : Lab α} {Q : α → LabState → Prop} {op : Op}
    (h : Prog.wp m Q (fun _ s' => s' = s) s) (hf : w.FreshBelow (Prog.final m s).draws)
    (hQ : ∀ a s', w.FreshBelow s'.draws → Q a s' → OperationKeyed w s op s') :
    OperationKeyed w s op (Prog.final m s) := by
  unfold Prog.wp at h
  unfold Prog.final at hf ⊢
  cases hm : m s with
  | ok a s' => rw [hm] at h hf; exact hQ a s' hf h
  | error e s' => rw [hm] at h; exact .same (congrArg (·.operationIdempotency) (show s' = s from h))

/-- Every operation does one of these to the records. -/
theorem step_operationKeyed (hs : Sound w s) (op : Op) (hf : w.FreshBelow (step w s op).draws) :
    OperationKeyed w s op (step w s op) := by
  cases hcreate : op.createsTasks with
  | false =>
    have hran := (step_ends hs.safe hs.settled op).ran
    cases hreset : op.isReset with
    | false =>
      obtain ⟨acts, hc, -, hc', hw⟩ := hran.uncreating hcreate hreset
      exact .same (hw.operation_records hs.safe hf hc hc')
    | true =>
      cases op with
      | reset actor =>
        refine Prog.wp_final (R := OperationKeyed w s (.reset actor)) |>.mp ?_
        rw [Op.run, C2Lab.reset]
        simp only [Prog.wp_bind, wp_check, Prog.wp_modify]
        exact ⟨fun a _ => .cleared rfl (by simp [LabState.cleared]), fun _ _ => .same rfl⟩
      | _ => cases hreset
  | true =>
    cases op with
    | queueTask nodeId taskType payload ttl key actor now =>
      rw [step, Op.run, Prog.final_map_eq] at hf ⊢
      refine .of_wp (queueTask_wp hs.safe nodeId taskType payload ttl key actor now) hf ?_
      rintro _ s' hf ⟨_, -, h⟩
      cases h with
      | replayed => exact .same rfl
      | created hkey hslots ha => exact .same (by rw [LabState.toRecords_addTask, hslots.records])
    | startExercise nodeId scenario actor key now =>
      rw [step, Op.run, Prog.final_map_eq] at hf ⊢
      refine .of_wp (startExercise_wp hs.safe nodeId scenario actor key now) hf ?_
      rintro _ s' hf ⟨_, -, h⟩
      cases h with
      | replayed => exact .same rfl
      | created hkey hn ha hp hroom hmade hnode hby hsc hids he =>
        have hins : ∀ (m : LabState) (e : Exercise) (key : Option PyStr),
            (m.insertExercise w e key).operationIdempotency = m.operationIdempotency := by
          intro m e key
          cases key <;> simp [LabState.insertExercise]
        exact .same (by rw [hins, hmade.records])
    | queueOperation nodeId steps ttl key actor now =>
      rw [step, Op.run, Prog.final_map_eq] at hf ⊢
      refine .of_wp (queueOperation_wp hs.safe nodeId steps ttl key actor now) hf ?_
      rintro _ s' hf ⟨_, -, h⟩
      exact h.keyed hf _
    | _ => cases hcreate

/-- The record of live work survives any operation but a reset. -/
theorem step_operation_record (hs : Sound w s) {op : Op} (hop : op.isReset = false)
    (hf : w.FreshBelow (step w s op).draws) {k : PyStr} {r : OperationRecord}
    (hr : s.operationIdempotency.get? k = some r)
    (hlive : operationIdempotencyRecordIsEvictableLocked r s = false) :
    (step w s op).operationIdempotency.get? k = some r := by
  cases step_operationKeyed hs op hf with
  | same h => rw [h]; exact hr
  | cleared hreset => rw [hop] at hreset; cases hreset
  | @added k' evicted r' h hkey hev =>
    have hkept : k ∉ evicted := fun hmem => by
      obtain ⟨r', hr', hevict⟩ := hev.evictable k hmem
      rw [hr, Option.some.injEq] at hr'
      rw [← hr', hlive] at hevict
      cases hevict
    have hne : k ≠ k' := by
      rintro rfl
      rw [hkey] at hr
      cases hr
    rw [h, Dict.get?_set_ne _ _ hne, LabState.keysKept_get? hkept]
    exact hr

/-! ### Live work -/

/-- Some task of the operation is queued or dispatched. -/
def OperationSummary.Live (reply : OperationSummary) (s : LabState) : Prop :=
  ∃ t ∈ reply.tasks, ∃ t', s.tasks.get? t.id = some t' ∧
    (t'.status = .queued ∨ t'.status = .dispatched)

/-- The record an operation leaves under its key. -/
def OperationRequest.remembered (r : OperationRequest) (reply : OperationSummary) :
    OperationRecord :=
  { actor := r.actor, nodeId := r.nodeId, playbooks := r.steps
    queueTtlSeconds := r.queueTtlSeconds, taskIds := reply.tasks.map (·.id), summary := reply }

theorem OperationSummary.live_iff {reply : OperationSummary} {r : OperationRequest} :
    reply.Live s ↔ operationIdempotencyRecordIsEvictableLocked (r.remembered reply) s = false := by
  rw [not_evictable_iff]
  constructor
  · rintro ⟨t, ht, t', ht', hst⟩
    refine ⟨t.id, List.mem_map_of_mem ht, t', ht', ?_⟩
    rcases hst with h | h <;> rw [h] <;> rfl
  · rintro ⟨id, hid, t', ht', hl⟩
    obtain ⟨t, ht, rfl⟩ := List.mem_map.mp hid
    refine ⟨t, ht, t', ht', ?_⟩
    cases hst : t'.status <;> simp [hst, TaskStatus.isTerminal] at hl ⊢

/-- What is live after an operation was live before it. -/
theorem OperationSummary.Live.before {reply : OperationSummary} (h : reply.Live s')
    (hn : Next w s s') (hs : Sound w s)
    (hdrawn : ∀ t ∈ reply.tasks, w.TaskDrawn s.draws t.id) : reply.Live s := by
  obtain ⟨t, ht, t', ht', hl⟩ := h
  obtain ⟨t₀, h₀, hstep⟩ := hn.task hs (hdrawn t ht) ht'
  refine ⟨t, ht, t₀, h₀, ?_⟩
  by_contra hterm
  have hterm : t₀.status.isTerminal = true := by
    cases hst : t₀.status <;> simp [hst, TaskStatus.isTerminal] at hterm ⊢
  rw [hstep.frozen hterm] at hl
  rcases hl with hl | hl <;> rw [hl] at hterm <;> cases hterm

/-- Every request with key `k` is answered with the first reply, or refused if it differs from the
    request that got it; either way nothing changes. -/
def LabState.AnswersOperation (w : World) (k : PyStr) (r : OperationRequest)
    (reply : OperationSummary) (s : LabState) : Prop :=
  ∀ nodeId steps ttl key actor now r',
    validateOperationRequest w.toInterp nodeId steps ttl key actor = .ok r' →
    r'.idempotencyKey = some k →
      queueOperation w nodeId steps ttl key actor now s =
        if r.actor = r'.actor ∧ r.nodeId = r'.nodeId ∧ r.steps = r'.steps ∧
            r.queueTtlSeconds = r'.queueTtlSeconds then .ok reply s
        else .error (keyConflict "operation") s

theorem LabState.answersOperation {k : PyStr} {r : OperationRequest} {reply : OperationSummary}
    (h : s.operationIdempotency.get? k = some (r.remembered reply)) :
    s.AnswersOperation w k r reply := by
  intro nodeId steps ttl key actor now r' hreq hk
  have hget : r'.idempotencyKey.bind s.operationIdempotency.get? = some (r.remembered reply) := by
    rw [hk]; exact h
  simp only [queueOperation, bind, EStateM.bind, hreq, check_ok, pure, EStateM.pure, Prog.get_apply,
    hget, OperationRequest.remembered]
  split <;> rfl

/-- What an operation leaves behind: its record, of tasks drawn by now. -/
theorem OperationQueued.created_record {r : OperationRequest} {now : Instant}
    {reply : OperationSummary} {k : PyStr} (h : OperationQueued w s r now reply s')
    (hk : r.idempotencyKey = some k) (hnew : s.operationIdempotency.get? k = none) :
    s'.operationIdempotency.get? k = some (r.remembered reply) ∧
      ∀ t ∈ reply.tasks, w.TaskDrawn s'.draws t.id := by
  cases h with
  | replayed hkey =>
    rw [hk, Option.bind_some, hnew] at hkey
    cases hkey
  | @created n evicted operationId pruned new s₁ hkey hn ha hp hev hmade =>
    rw [hk]
    refine ⟨?_, fun t ht => ?_⟩
    · simp only [LabState.rememberOperation, Dict.get?_set_self, OperationRequest.remembered,
        OperationRequest.record, List.map_map]
      rfl
    · obtain ⟨x, hx, rfl⟩ := List.mem_map.mp ht
      obtain ⟨ks, hids, -, hks⟩ := hmade.drawn
      have hmem : x.id ∈ ks.map w.taskId := hids ▸ List.mem_map_of_mem hx
      obtain ⟨i, hi, hid⟩ := List.mem_map.mp hmem
      exact ⟨i, (hks i hi).2, hid.symm⟩

/-- Operation keys. Once an operation was created under a key, its key record is there for as long
    as one of its tasks is queued or dispatched, up to the next reset; while the record is there, a
    request with the same key is answered with the first summary, or refused if it differs, and
    nothing changes; so no request with the key creates tasks while some are live. -/
theorem operation_keys {nodeId steps key actor : Json} {ttl : Option Json} {now : Instant}
    {r : OperationRequest} {k : PyStr} {reply : OperationSummary} (hr : Reachable w s₀)
    (hreq : validateOperationRequest w.toInterp nodeId steps ttl key actor = .ok r)
    (hk : r.idempotencyKey = some k) (hnew : s₀.operationIdempotency.get? k = none)
    (hok : queueOperation w nodeId steps ttl key actor now s₀ = .ok reply s₁)
    (hf : w.FreshBelow s₁.draws) (hl : Since w s₁ s) :
    (reply.Live s → s.operationIdempotency.get? k = some (r.remembered reply)) ∧
    (s.operationIdempotency.get? k = some (r.remembered reply) →
      s.AnswersOperation w k r reply) ∧
    ∀ nodeId steps ttl key actor now r' reply' s',
      validateOperationRequest w.toInterp nodeId steps ttl key actor = .ok r' →
      r'.idempotencyKey = some k →
      queueOperation w nodeId steps ttl key actor now s = .ok reply' s' →
      reply.Live s → reply' = reply ∧ s' = s := by
  have hwp := queueOperation_wp hr.sound.safe nodeId steps ttl key actor now
  rw [Prog.wp_run hok] at hwp
  obtain ⟨r₀, hreq₀, hqueued⟩ := hwp
  rw [hreq, Except.ok.injEq] at hreq₀
  subst hreq₀
  obtain ⟨hrecord, hdrawn⟩ := hqueued.created_record hk hnew
  have hstep : s₁ = step w s₀ (.queueOperation nodeId steps ttl key actor now) := by
    simp only [step, Op.run, Prog.final, Functor.map, EStateM.map, hok]
  have hr₁ : Reachable w s₁ := hstep ▸ hr.step (hstep ▸ hf)
  have hlive : reply.Live s → s.operationIdempotency.get? k = some (r.remembered reply) := by
    clear hstep
    induction hl with
    | refl => exact fun _ => hrecord
    | @tail m m' hbefore hn ih =>
      intro hlive
      have hsound := (Since.later hbefore).sound hr₁.sound
      have hle := (Since.later hbefore).draws_le hr₁.sound
      have hbefore_live := hlive.before hn.next hsound fun t ht => by
        obtain ⟨i, hi, hid⟩ := hdrawn t ht
        exact ⟨i, hi.trans_le hle, hid⟩
      obtain ⟨op, hop, rfl, hfresh⟩ := hn
      exact step_operation_record hsound hop hfresh (ih hbefore_live)
        (OperationSummary.live_iff.mp hbefore_live)
  refine ⟨hlive, LabState.answersOperation, ?_⟩
  intro nodeId steps ttl key actor now r' reply' s' hreq' hk' hok' hl'
  rw [LabState.answersOperation (hlive hl') nodeId steps ttl key actor now r' hreq' hk'] at hok'
  split at hok'
  · cases hok'
    exact ⟨rfl, rfl⟩
  · cases hok'

namespace Counting

/-- An operation of two steps, under a key. -/
def queueTwice : Lab OperationSummary :=
  queueOperation .counting nodeId (steps [.createCanary, .cleanup]) none (.str "retry-key-1")
    (.str "operator") 10

/-- Its first step is delivered, a note is posted and a task of its own is queued. -/
def meanwhile : List Op :=
  [poll 11, .postOperatorNote (.str "note") (.str "operator") .null, queue .ping (.obj [])]

end Counting

/-- Three operations later a step is still queued, and the key answers. -/
theorem operation_keys_meanwhile :
    let s₀ := exec .counting (.init "stream") [Counting.enrollPurple]
    let r : OperationRequest := ⟨World.counting.nodeId 0, [.createCanary, .cleanup], 300,
      some "retry-key-1", "operator"⟩
    ∃ reply s₁, Counting.queueTwice s₀ = .ok reply s₁ ∧
      Since .counting s₁ (exec .counting s₁ Counting.meanwhile) ∧
      reply.Live (exec .counting s₁ Counting.meanwhile) ∧
      (exec .counting s₁ Counting.meanwhile).operationIdempotency.get? "retry-key-1" =
        some (r.remembered reply) ∧
      (exec .counting s₁ Counting.meanwhile).AnswersOperation .counting "retry-key-1" r reply := by
  intro s₀ r
  obtain ⟨reply, s₁, hok, hf, htest⟩ := Counting.exists_yielded (m := Counting.queueTwice) (s := s₀)
    (p := fun reply s₁ =>
      !operationIdempotencyRecordIsEvictableLocked (r.remembered reply)
        (exec .counting s₁ Counting.meanwhile) &&
      [1, 2, 3].all fun k => (exec .counting s₁ (Counting.meanwhile.take k)).draws ≤ 10 ^ 10)
    (by decide +kernel)
  rw [Bool.and_eq_true, Bool.not_eq_true', List.all_eq_true] at htest
  obtain ⟨hlive, hdraws⟩ := htest
  have hlive : reply.Live (exec .counting s₁ Counting.meanwhile) :=
    OperationSummary.live_iff.mpr hlive
  have hfresh : ∀ k ∈ [1, 2, 3], World.counting.FreshBelow
      (exec .counting s₁ (Counting.meanwhile.take k)).draws := fun k hk =>
    World.counting_fresh (of_decide_eq_true (hdraws k hk))
  have hsince : Since .counting s₁ (exec .counting s₁ Counting.meanwhile) :=
    .tail (.tail (.single ⟨_, rfl, rfl, hfresh 1 (by simp)⟩) ⟨_, rfl, rfl, hfresh 2 (by simp)⟩)
      ⟨_, rfl, rfl, hfresh 3 (by simp)⟩
  obtain ⟨hkept, hanswers, -⟩ := operation_keys (r := r) (World.counting_reachable "stream" _
    (by decide)) rfl rfl (by decide) hok hf hsince
  exact ⟨reply, s₁, hok, hsince, hlive, hkept hlive, hanswers (hkept hlive)⟩

end C2Lab
