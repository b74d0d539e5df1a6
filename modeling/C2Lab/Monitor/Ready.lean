import C2Lab.Monitor.Told

/-! Readiness is earned, and a stop is obeyed.

    A ready monitor has finished an expiry pass since it was started and recorded one not long ago;
    after a stop at most the pass already under way still ends. -/

namespace C2Lab

variable {w : World} {typeName : Exc → PyStr} {tickSeconds : ℚ} {past : List MonitorEvent}
  {s s' : Monitored} {e : MonitorEvent}

/-! ### Parts of a run -/

theorem expire_next {lab lab' : LabState} (instant : Instant)
    (hrun : Prog.final (expire w instant) lab = lab') (hf : w.FreshBelow lab'.draws) :
    Next w lab lab' := by
  subst hrun
  exact ⟨.expire instant, rfl, hf⟩

/-- A step is at most one operation on the state. -/
theorem MonitorStep.later (h : MonitorStep w typeName s e s') : Later w s.lab s'.lab := by
  cases h with
  | operate h => exact .single h
  | elapse _ | restart _ | start _ | startFailed _ _ | stop => exact .refl
  | thread hk h =>
    cases h with
    | @sweep instant _ hrun hf =>
      exact .single (expire_next instant (by simp [Prog.final, hrun]) hf)
    | @raise instant _ _ hrun hf =>
      exact .single (expire_next instant (by simp [Prog.final, hrun]) hf)
    | sleep _ | halt _ | wake _ | timeout | read | tick | record | fail | set | finish | exit =>
      exact .refl

/-- A run up to an event of its past. -/
theorem MonitorRun.upTo {recent earlier : List MonitorEvent}
    (h : MonitorRun w typeName tickSeconds (recent ++ e :: earlier) s) :
    ∃ m, MonitorRun w typeName tickSeconds (e :: earlier) m ∧ Later w m.lab s.lab := by
  induction recent generalizing s with
  | nil => exact ⟨s, h, .refl⟩
  | cons e' recent ih =>
    cases h with
    | step h hstep =>
      obtain ⟨m, hm, hl⟩ := ih h
      exact ⟨m, hm, hl.trans hstep.later⟩

/-- Nothing is due when a pass ends. -/
theorem MonitorRun.expired {instant : Instant}
    (h : MonitorRun w typeName tickSeconds (.swept instant :: past) s) : s.lab.Expired instant := by
  cases h with
  | step h hstep =>
    cases hstep with
    | thread hk hthread =>
      cases hthread with
      | sweep hrun hf =>
        obtain ⟨m, hok, -, hexpired, -⟩ := expire_total h.sound.reachable instant
        rw [hok] at hrun
        cases hrun
        exact hexpired

/-! ### `/readyz` -/

/-- What `health` returns, as a `dict`. -/
def Health.toJson (h : Health) : Json :=
  .dict [("status", Vocabulary.toJson h.status), ("ready", .bool h.ready),
    ("last_tick_age_seconds", h.lastTickAgeMillis.elim .null fun ms => .float (.ofMillis ms)),
    ("last_error", h.lastError.elim .null fun name => .str name.1)]

/-- What `readiness` can raise. -/
inductive ReadinessError where
  | typeError
  | overflowError

/-- An integer `float` rounds to a finite one. -/
def fitsFloat (n : ℤ) : Bool := n.natAbs < 2 ^ 1024 - 2 ^ 970

/-- The age as `readiness` shows it. -/
def readinessAge : Json → Except ReadinessError Json
  | .int n =>
    if fitsFloat n then .ok (if 0 ≤ n then .int n else .null) else .error .overflowError
  | .float (.finite d) => .ok (if d.neg && d.mantissa ≠ 0 then .null else .float (.finite d))
  | _ => .ok .null

/-- The error as `readiness` shows it. -/
def readinessError : Json → Json
  | .null => .null
  | .str name => .str (if isSafeErrorType name then name else "Exception")
  | _ => .str "Exception"

/-- `readiness`, of what `self.runtime.health()` returned or raised: the status of the answer and
    its body. -/
def readiness : Option (Except Exc Json) → Except ReadinessError (ℕ × Json)
  | none => respond false (.dict [("status", .str "unmanaged"), ("ready", .bool false),
      ("last_tick_age_seconds", .null), ("last_error", .null)])
  | some candidate => do
    let health := match candidate with
      | .ok (.obj fields) => Json.obj fields
      | _ => .obj []
    let field (key : String) := (health.get? key).getD .null
    let known ← match (field "status").inStrSet ["running", "stopped"] with
      | .ok known => pure known
      | .error _ => throw .typeError
    let status := if known then field "status" else .str "error"
    let age ← readinessAge (field "last_tick_age_seconds")
    let ready := status.eqStr "running" && match field "ready" with
      | .bool b => b
      | _ => false
    respond ready (.dict [("status", status), ("ready", .bool ready),
      ("last_tick_age_seconds", age), ("last_error", readinessError (field "last_error"))])
where
  respond (ready : Bool) (monitor : Json) : Except ReadinessError (ℕ × Json) :=
    .ok (if ready then 200 else 503,
      .dict [("status", .str (if ready then "ready" else "not_ready")), ("monitor", monitor)])

theorem ofScaled_neg (fuel m : ℕ) (e : ℤ) : (Decimal.ofScaled fuel m e).neg = false := by
  fun_induction Decimal.ofScaled fuel m e with
  | case1 | case2 | case3 => rfl
  | case4 _ _ _ _ _ ih => exact ih

theorem readinessAge_millis (age : Option ℕ) :
    readinessAge (age.elim .null fun ms => .float (.ofMillis ms)) =
      .ok (age.elim .null fun ms => .float (.ofMillis ms)) := by
  cases age with
  | none => rfl
  | some ms => simp [readinessAge, PyFloat.ofMillis, ofScaled_neg]

theorem readinessError_safe (error : Option SafeErrorType) :
    readinessError (error.elim .null fun name => .str name.1) =
      error.elim .null fun name => .str name.1 := by
  cases error with
  | none => rfl
  | some name => simp [readinessError, name.2]

/-- What a `LabRuntime` tells is shown as it is, and the answer is 200 when it says ready. -/
theorem readiness_health (r : Runtime) (now : Instant) :
    readiness (some (.ok (r.health now).toJson)) =
      readiness.respond (r.health now).ready (r.health now).toJson := by
  have hstatus : (Vocabulary.toJson (r.health now).status).inStrSet ["running", "stopped"] =
      .ok true := by
    cases (r.health now).status <;> rfl
  have hready : ((Vocabulary.toJson (r.health now).status).eqStr "running" &&
      (r.health now).ready) = (r.health now).ready := by
    rw [Runtime.health]
    cases r.status <;> rfl
  simp only [readiness, Health.toJson, Json.dict, List.map_cons, List.map_nil, Json.get?,
    Json.lookup]
  simp [hstatus, readinessAge_millis, readinessError_safe, hready]
  rfl

/-- `/readyz` answers 200 exactly when the monitor says ready. -/
theorem readyz_iff {r : Runtime} {now : Instant} :
    (∃ body, readiness (some (.ok (r.health now).toJson)) = .ok (200, body)) ↔
      (r.health now).ready = true := by
  rw [readiness_health, readiness.respond]
  cases (r.health now).ready <;> simp

/-! ### Ready -/

theorem le_roundHalfEven (x : ℚ) : x ≤ roundHalfEven x + 1 / 2 := by
  have hlt := Int.lt_floor_add_one x
  simp only [roundHalfEven]
  split
  · linarith
  · split
    · push_cast
      linarith
    · split
      · linarith
      · push_cast
        linarith

/-- A fresh tick is not older than it may be, but for rounding. -/
theorem le_of_tickIsFresh {at' now : Instant}
    (h : tickIsFresh tickSeconds (tickAgeMillis at' now) = true) :
    now - at' ≤ max 1 (tickSeconds * 4) + 1 / 2000 := by
  have hround := le_roundHalfEven (1000 * max 0 (now - at'))
  have hage : ((tickAgeMillis at' now : ℕ) : ℚ) / 1000 ≤ max 1 (tickSeconds * 4) := by
    simpa [tickIsFresh] using h
  have hnat : (roundHalfEven (1000 * max 0 (now - at')) : ℚ) ≤ (tickAgeMillis at' now : ℕ) := by
    exact_mod_cast Int.self_le_toNat _
  have hmax := le_max_right 0 (now - at')
  linarith

/-- When `/readyz` answers 200, the thread is alive, a whole expiry pass ended since the monitor was
    last started, after which nothing was due, the monitor was not stopped since, and a pass was
    recorded no longer ago than a second or four ticks. -/
theorem ready_swept (h : MonitorRun w typeName tickSeconds past s) {body : Json}
    (hready : readiness (some (.ok (s.runtime.health s.clock).toJson)) = .ok (200, body)) :
    s.alive = true ∧ ∃ recent instant earlier m,
      past = recent ++ .swept instant :: earlier ∧
      (∀ e ∈ recent, e.isStart = false) ∧ .stopped ∉ recent ∧ watching earlier = true ∧
      MonitorRun w typeName tickSeconds (.swept instant :: earlier) m ∧
      m.lab.Expired instant ∧ Later w m.lab s.lab ∧
      ∃ tickAt, .ticked tickAt ∈ recent ∧ instant ≤ tickAt ∧ tickAt ≤ s.clock ∧
        s.clock - tickAt ≤ max 1 (tickSeconds * 4) + 1 / 2000 := by
  replace hready := readyz_iff.mp ⟨body, hready⟩
  rw [health_told h] at hready
  obtain ⟨hwatch, hfresh⟩ := Bool.and_eq_true_iff.mp hready
  have hs := h.sound
  cases htick : lastTick past with
  | none => simp [htick] at hfresh
  | some tickAt =>
    simp only [htick, Option.map_some, Option.any_some] at hfresh
    obtain ⟨⟨recent, instant, earlier, rfl, hle, hstart, hmem⟩, hclock⟩ := hs.tick tickAt htick
    obtain ⟨hbefore, hstop⟩ := watching_append hstart hwatch
    obtain ⟨m, hm, hlater⟩ := h.upTo
    exact ⟨hs.alive hwatch, recent, instant, earlier, m, rfl, hstart, hstop, hbefore, hm,
      hm.expired, hlater, tickAt, hmem, hle, hclock, le_of_tickIsFresh hfresh⟩

/-- The first pass makes the monitor ready. -/
theorem ready_swept_first : Watch.ticked.alive = true ∧ ∃ recent instant earlier m,
    Watch.noted = recent ++ .swept instant :: earlier ∧
    (∀ e ∈ recent, e.isStart = false) ∧ .stopped ∉ recent ∧ watching earlier = true ∧
    MonitorRun .counting (fun _ => "Exception") (1 / 4) (.swept instant :: earlier) m ∧
    m.lab.Expired instant ∧ Later .counting m.lab Watch.ticked.lab ∧
    ∃ tickAt, .ticked tickAt ∈ recent ∧ instant ≤ tickAt ∧ tickAt ≤ Watch.ticked.clock ∧
      Watch.ticked.clock - tickAt ≤ max 1 ((1 / 4 : ℚ) * 4) + 1 / 2000 :=
  have ⟨_, h⟩ := readyz_iff.mpr (by decide +kernel)
  ready_swept Watch.run h

/-! ### Stopped -/

/-- The event ends a pass. -/
def MonitorEvent.isSweep : MonitorEvent → Bool
  | swept _ => true
  | _ => false

/-- How many passes still end before a thread at this point looks at the stop event. -/
def MonitorPoint.due : MonitorPoint → ℕ
  | sleeping | expiring | sweeping _ => 1
  | _ => 0

/-- How many passes still end when the monitor is stopped. -/
def Monitored.due (s : Monitored) : ℕ :=
  (s.runtime.thread.bind (s.threads[·]?)).elim 0 MonitorPoint.due

theorem MonitorPoint.due_le_one (p : MonitorPoint) : p.due ≤ 1 := by
  cases p <;> simp [due]

theorem Monitored.due_le_one (s : Monitored) : s.due ≤ 1 := by
  unfold Monitored.due
  cases s.runtime.thread.bind (s.threads[·]?) with
  | none => exact Nat.zero_le 1
  | some p => exact p.due_le_one

/-- A step of a thread that is told to stop. -/
theorem ThreadStep.due {p p' : MonitorPoint} {lab' : LabState} {r' : Runtime}
    (h : ThreadStep w typeName s p e p' lab' r') (hstop : s.runtime.stop = true) :
    [e].countP MonitorEvent.isSweep + p'.due ≤ p.due ∧ r'.stop = true ∧
      r'.thread = s.runtime.thread := by
  cases h with
  | sleep hrun => simp [hstop] at hrun
  | halt _ | wake _ | timeout | read | sweep _ _ | raise _ _ | tick | record | fail | set | finish
  | exit =>
    simp [MonitorEvent.isSweep, MonitorPoint.due, Runtime.ticked, Runtime.failed, Runtime.ended,
      hstop]

/-- A step of a monitor that is told to stop. -/
theorem MonitorStep.due (hs : s.Sound w tickSeconds past) (h : MonitorStep w typeName s e s')
    (hstop : s.runtime.stop = true) (he : e ≠ .started) :
    [e].countP MonitorEvent.isSweep + s'.due ≤ s.due ∧ s'.runtime.stop = true := by
  cases h with
  | operate _ | elapse _ | restart _ => exact ⟨by simp [MonitorEvent.isSweep, Monitored.due], hstop⟩
  | start _ => exact absurd rfl he
  | startFailed error _ =>
    exact ⟨by simp [MonitorEvent.isSweep, Monitored.due, Runtime.startFailed], rfl⟩
  | stop => exact ⟨by simp [MonitorEvent.isSweep, Monitored.due, Runtime.stopped], rfl⟩
  | @thread k p p' _ lab' r' hk hthread =>
    obtain ⟨hdue, hstop', hsame⟩ := hthread.due hstop
    have hone := hs.one k p hk (by rintro rfl; cases hthread)
    refine ⟨?_, hstop'⟩
    rw [Monitored.due, Monitored.due, hsame, hone, Option.bind_some, Option.bind_some, hk,
      List.getElem?_set_self (List.getElem?_eq_some_iff.mp hk).1]
    exact hdue

/-- After a stop the passes that end are among those that were due. -/
theorem MonitorRun.due {recent earlier : List MonitorEvent}
    (h : MonitorRun w typeName tickSeconds (recent ++ .stopped :: earlier) s)
    (hstart : .started ∉ recent) :
    recent.countP MonitorEvent.isSweep + s.due ≤ 1 ∧ s.runtime.stop = true := by
  induction recent generalizing s with
  | nil =>
    refine ⟨by simpa using s.due_le_one, ?_⟩
    cases h with
    | step _ hstep =>
      cases hstep with
      | stop => rfl
      | thread _ hthread => cases hthread
  | cons e recent ih =>
    obtain ⟨hne, hrest⟩ := List.ne_and_not_mem_of_not_mem_cons hstart
    cases h with
    | step h hstep =>
      obtain ⟨hdue, hstop⟩ := ih h hrest
      obtain ⟨hstep, hstop'⟩ := hstep.due h.sound hstop hne.symm
      refine ⟨?_, hstop'⟩
      rw [← List.singleton_append, List.countP_append]
      omega

/-- At most one thread is ever alive, and between a stop and the next start at most one pass
    ends. -/
theorem stop_obeyed (h : MonitorRun w typeName tickSeconds past s) :
    (∀ (k j : ℕ) (p q : MonitorPoint), s.threads[k]? = some p → p ≠ .dead →
      s.threads[j]? = some q → q ≠ .dead → k = j) ∧
    ∀ recent earlier, past = recent ++ .stopped :: earlier → .started ∉ recent →
      recent.countP MonitorEvent.isSweep ≤ 1 := by
  refine ⟨fun k j p q hk hp hj hq => ?_, ?_⟩
  · exact Option.some.inj ((h.sound.one k p hk hp).symm.trans (h.sound.one j q hj hq))
  · rintro recent earlier rfl hstart
    exact (Nat.le_add_right _ _).trans (h.due hstart).1

/-- The pass the thread was about to begin when the monitor was stopped. -/
theorem stop_obeyed_sweeping :
    (∀ (k j : ℕ) (p q : MonitorPoint), [MonitorPoint.ticking][k]? = some p → p ≠ .dead →
      [MonitorPoint.ticking][j]? = some q → q ≠ .dead → k = j) ∧
    ∀ recent earlier, [.swept 0, .stopped, .quiet, .quiet, .quiet, .started] =
      recent ++ .stopped :: earlier → .started ∉ recent →
        recent.countP MonitorEvent.isSweep ≤ 1 :=
  stop_obeyed ((Watch.sweeping.step .stop).step (.thread (k := 0) rfl (.sweep rfl Watch.fresh)))

end C2Lab
