import C2Lab.Core.Counting
import C2Lab.Core.Expired
import C2Lab.Monitor.Runtime

/-! What `health` tells of the monitor.

    The past of a run decides everything `health` shows: whether the monitor was started and not
    stopped since, and the last pass it recorded since then. No pass fails and at most one thread is
    alive, so nothing else ever changes the fields, whatever is called in between. -/

namespace C2Lab

variable {w : World} {typeName : Exc → PyStr} {tickSeconds : ℚ} {past : List MonitorEvent}
  {s s' : Monitored} {e : MonitorEvent}

/-! ### What a past tells -/

/-- The event is a start, one that failed included. -/
def MonitorEvent.isStart : MonitorEvent → Bool
  | started | startFailed _ => true
  | _ => false

/-- The monitor was started and has not been stopped since. -/
def watching : List MonitorEvent → Bool
  | [] => false
  | .started :: _ => true
  | .startFailed _ :: _ => false
  | .stopped :: _ => false
  | _ :: past => watching past

/-- The last pass recorded since the last start. -/
def lastTick : List MonitorEvent → Option Instant
  | [] => none
  | .started :: _ => none
  | .startFailed _ :: _ => none
  | .ticked tickAt :: _ => some tickAt
  | _ :: past => lastTick past

/-- What the last start raised. -/
def startError : List MonitorEvent → Option SafeErrorType
  | [] => none
  | .started :: _ => none
  | .startFailed error :: _ => some (safeErrorType error)
  | _ :: past => startError past

/-- What `health` has to show after a past. -/
def told (tickSeconds : ℚ) (past : List MonitorEvent) (now : Instant) : Health :=
  let age := (lastTick past).map (tickAgeMillis · now)
  { status := if watching past then .running else .stopped
    ready := watching past && age.any (tickIsFresh tickSeconds)
    lastTickAgeMillis := age
    lastError := startError past }

/-- Since the last start a pass ended whose clock reading is no later than `t`, and of what came
    after it `Q` is true. -/
def SweptBy (Q : List MonitorEvent → Prop) (past : List MonitorEvent) (t : Instant) : Prop :=
  ∃ recent instant earlier, past = recent ++ .swept instant :: earlier ∧ instant ≤ t ∧
    (∀ e ∈ recent, e.isStart = false) ∧ Q recent

theorem SweptBy.cons {Q Q' : List MonitorEvent → Prop} {t t' : Instant} (h : SweptBy Q past t)
    (he : e.isStart = false) (ht : t ≤ t') (hQ : ∀ recent, Q recent → Q' (e :: recent)) :
    SweptBy Q' (e :: past) t' := by
  obtain ⟨recent, instant, earlier, rfl, hle, hrecent, h⟩ := h
  exact ⟨e :: recent, instant, earlier, rfl, hle.trans ht,
    List.forall_mem_cons.mpr ⟨he, hrecent⟩, hQ recent h⟩

/-- Without a start in between, a monitor that watches was watching before. -/
theorem watching_append {recent earlier : List MonitorEvent}
    (hstart : ∀ e ∈ recent, e.isStart = false) (h : watching (recent ++ earlier) = true) :
    watching earlier = true ∧ .stopped ∉ recent := by
  induction recent with
  | nil => exact ⟨h, List.not_mem_nil⟩
  | cons e recent ih =>
    obtain ⟨he, hrecent⟩ := List.forall_mem_cons.mp hstart
    cases e <;> simp_all [MonitorEvent.isStart, watching]

/-! ### The invariant -/

/-- The fields show what the past tells. -/
structure Runtime.Tells (tickSeconds : ℚ) (past : List MonitorEvent) (r : Runtime) : Prop where
  tickSeconds : r.tickSeconds = tickSeconds
  status : r.status = if watching past then .running else .stopped
  ready : r.ready = (watching past && (lastTick past).isSome)
  lastTickAt : r.lastTickAt = lastTick past
  lastError : r.lastError = startError past

/-- What is known while a thread is at a point. -/
def MonitorPoint.Holds (past : List MonitorEvent) (clock : Instant) (stop : Bool) :
    MonitorPoint → Prop
  | sweeping instant => instant ≤ clock
  | ticking => SweptBy (fun _ => True) past clock
  | recording tickAt => SweptBy (fun _ => True) past tickAt ∧ tickAt ≤ clock
  | failing _ | halting => False
  | ending | leaving => stop = true
  | _ => True

namespace Monitored

/-- The invariant of the monitor. -/
structure Sound (w : World) (tickSeconds : ℚ) (past : List MonitorEvent) (s : Monitored) :
    Prop where
  reachable : Reachable w s.lab
  tells : s.runtime.Tells tickSeconds past
  one : ∀ k p, s.threads[k]? = some p → p ≠ .dead → s.runtime.thread = some k
  point : ∀ p ∈ s.threads, p.Holds past s.clock s.runtime.stop
  alive : watching past = true → s.alive = true
  stop : s.alive = true → s.runtime.stop = !watching past
  tick : ∀ t, lastTick past = some t → SweptBy (.ticked t ∈ ·) past t ∧ t ≤ s.clock

end Monitored

theorem MonitorPoint.Holds.mono {p : MonitorPoint} {clock clock' : Instant} {stop stop' : Bool}
    (h : p.Holds past clock stop) (he : e.isStart = false) (hclock : clock ≤ clock')
    (hstop : stop = true → stop' = true) : p.Holds (e :: past) clock' stop' := by
  cases p with
  | sweeping instant => exact h.trans hclock
  | ticking => exact SweptBy.cons h he hclock fun _ _ => trivial
  | recording tickAt => exact ⟨h.1.cons he le_rfl fun _ _ => trivial, h.2.trans hclock⟩
  | failing _ | halting => exact h
  | ending | leaving => exact hstop h
  | polling | sleeping | expiring | dead => trivial

namespace Monitored.Sound

/-- A thread that is not alive is dead. -/
theorem dead (h : s.Sound w tickSeconds past) (halive : s.alive = false) {p : MonitorPoint}
    (hp : p ∈ s.threads) : p = .dead := by
  obtain ⟨k, hk⟩ := List.mem_iff_getElem?.mp hp
  by_contra hne
  have hone := h.one k p hk hne
  simp [Monitored.alive, hone, hk, hne] at halive

/-- A thread that has not ended is the one that counts as alive. -/
theorem of_point (h : s.Sound w tickSeconds past) {k : ℕ} {p : MonitorPoint}
    (hk : s.threads[k]? = some p) (hp : p ≠ .dead) : s.alive = true := by
  simp [Monitored.alive, h.one k p hk hp, hk, hp]

/-- The recorded pass stays recorded. -/
theorem tick_cons (h : s.Sound w tickSeconds past) (he : e.isStart = false) {clock : Instant}
    (hclock : s.clock ≤ clock) {t : Instant} (ht : lastTick past = some t) :
    SweptBy (.ticked t ∈ ·) (e :: past) t ∧ t ≤ clock := by
  obtain ⟨hswept, hle⟩ := h.tick t ht
  exact ⟨hswept.cons he le_rfl fun _ hmem => List.mem_cons_of_mem _ hmem, hle.trans hclock⟩

end Monitored.Sound

/-! ### The steps keep it -/

theorem runtime_init_tells : (Runtime.init tickSeconds).Tells tickSeconds [] :=
  ⟨rfl, rfl, rfl, rfl, rfl⟩

theorem Runtime.Tells.quiet {r : Runtime} (h : r.Tells tickSeconds past) :
    r.Tells tickSeconds (.quiet :: past) :=
  ⟨h.tickSeconds, h.status, h.ready, h.lastTickAt, h.lastError⟩

/-- A step that only the clock or the state takes part in. -/
theorem Monitored.Sound.quiet (h : s.Sound w tickSeconds past) {lab' : LabState} {now : Instant}
    (hlab : Reachable w lab') (hnow : s.clock ≤ now) :
    Monitored.Sound w tickSeconds (.quiet :: past) { s with lab := lab', clock := now } where
  reachable := hlab
  tells := h.tells.quiet
  one := h.one
  point p hp := (h.point p hp).mono rfl hnow id
  alive := h.alive
  stop := h.stop
  tick _ ht := h.tick_cons rfl hnow ht

/-- `start` finds no thread alive. -/
theorem Monitored.Sound.started (h : s.Sound w tickSeconds past) (halive : s.alive = false) :
    Monitored.Sound w tickSeconds (.started :: past)
      { s with
        runtime := s.runtime.start s.threads.length
        threads := s.threads ++ [.polling] } where
  reachable := h.reachable
  tells := ⟨h.tells.tickSeconds, rfl, rfl, rfl, rfl⟩
  one k p hk hp := by
    rw [List.getElem?_append] at hk
    split at hk
    · exact absurd (h.dead halive (List.mem_of_getElem? hk)) hp
    · have hlt := (List.getElem?_eq_some_iff.mp hk).1
      simp only [List.length_singleton] at hlt
      exact congrArg some (by omega)
  point p hp := by
    rcases List.mem_append.mp hp with hp | hp
    · rw [h.dead halive hp]
      trivial
    · rw [List.mem_singleton.mp hp]
      trivial
  alive _ := by simp [Monitored.alive, Runtime.start]
  stop _ := rfl
  tick t ht := by simp [lastTick] at ht

/-- `start` gets no thread. -/
theorem Monitored.Sound.startFailed (h : s.Sound w tickSeconds past) (error : PyStr)
    (halive : s.alive = false) :
    Monitored.Sound w tickSeconds (.startFailed error :: past)
      { s with runtime := s.runtime.startFailed error } where
  reachable := h.reachable
  tells := ⟨h.tells.tickSeconds, rfl, rfl, rfl, rfl⟩
  one k p hk hp := absurd (h.dead halive (List.mem_of_getElem? hk)) hp
  point p hp := by
    rw [h.dead halive hp]
    trivial
  alive hw := by simp [watching] at hw
  stop hdead := by simp [Monitored.alive, Runtime.startFailed] at hdead
  tick t ht := by simp [lastTick] at ht

theorem Monitored.Sound.stopped (h : s.Sound w tickSeconds past) :
    Monitored.Sound w tickSeconds (.stopped :: past)
      { s with runtime := s.runtime.stopped } where
  reachable := h.reachable
  tells := ⟨h.tells.tickSeconds, rfl, rfl, h.tells.lastTickAt, h.tells.lastError⟩
  one := h.one
  point p hp := (h.point p hp).mono rfl le_rfl fun _ => rfl
  alive hw := by simp [watching] at hw
  stop _ := rfl
  tick _ ht := h.tick_cons rfl le_rfl ht

/-- The thread moves on, the event set no more and no less than before. -/
theorem Monitored.Sound.move (h : s.Sound w tickSeconds past) {k : ℕ} {p p' : MonitorPoint}
    (hk : s.threads[k]? = some p) (hp : p ≠ .dead) {lab' : LabState} {r' : Runtime}
    (hlab : Reachable w lab') (he : e.isStart = false)
    (hwatch : watching (e :: past) = watching past) (htells : r'.Tells tickSeconds (e :: past))
    (hthread : r'.thread = s.runtime.thread) (hstop : r'.stop = s.runtime.stop)
    (hpoint : p'.Holds (e :: past) s.clock s.runtime.stop)
    (hdead : p' = .dead → s.runtime.stop = true)
    (htick : ∀ t, lastTick (e :: past) = some t →
      SweptBy (.ticked t ∈ ·) (e :: past) t ∧ t ≤ s.clock) :
    Monitored.Sound w tickSeconds (e :: past)
      { s with lab := lab', runtime := r', threads := s.threads.set k p' } where
  reachable := hlab
  tells := htells
  one j q hj hq := by
    rw [hthread]
    rw [List.getElem?_set] at hj
    split at hj
    · rename_i hkj
      exact hkj ▸ h.one k p hk hp
    · exact h.one j q hj hq
  point q hq := by
    rw [hstop]
    rcases List.mem_or_eq_of_mem_set hq with hq | rfl
    · exact (h.point q hq).mono he le_rfl id
    · exact hpoint
  alive hw := by
    rw [hwatch] at hw
    have hrun := h.stop (h.of_point hk hp)
    have hne : p' ≠ .dead := fun hd => by simp [hw, hdead hd] at hrun
    have hlt := (List.getElem?_eq_some_iff.mp hk).1
    simp [Monitored.alive, hthread, h.one k p hk hp, hlt, hne]
  stop _ := by rw [hwatch, hstop, h.stop (h.of_point hk hp)]
  tick := htick

/-- A step of a thread. -/
theorem Monitored.Sound.thread (h : s.Sound w tickSeconds past) {k : ℕ} {p p' : MonitorPoint}
    {lab' : LabState} {r' : Runtime} (hk : s.threads[k]? = some p)
    (hstep : ThreadStep w typeName s p e p' lab' r') :
    Monitored.Sound w tickSeconds (e :: past)
      { s with lab := lab', runtime := r', threads := s.threads.set k p' } := by
  have hpoint := h.point p (List.mem_of_getElem? hk)
  have htells := h.tells.quiet
  have htick : ∀ t, lastTick (.quiet :: past) = some t →
      SweptBy (.ticked t ∈ ·) (.quiet :: past) t ∧ t ≤ s.clock :=
    fun t ht => h.tick_cons rfl le_rfl ht
  cases hstep with
  | sleep hstop =>
    exact h.move hk (by simp) h.reachable rfl rfl htells rfl rfl trivial (by simp) htick
  | halt hstop =>
    exact h.move hk (by simp) h.reachable rfl rfl htells rfl rfl hstop (by simp) htick
  | wake hstop =>
    exact h.move hk (by simp) h.reachable rfl rfl htells rfl rfl hstop (by simp) htick
  | timeout =>
    exact h.move hk (by simp) h.reachable rfl rfl htells rfl rfl trivial (by simp) htick
  | read =>
    exact h.move hk (by simp) h.reachable rfl rfl htells rfl rfl (le_refl s.clock) (by simp) htick
  | @sweep instant lab' hrun hf =>
    have hlab : lab' = step w s.lab (.expire instant) := by simp [step, Prog.final, Op.run, hrun]
    refine h.move hk (by simp) (hlab ▸ h.reachable.step (hlab ▸ hf)) rfl rfl
      ⟨h.tells.tickSeconds, h.tells.status, h.tells.ready, h.tells.lastTickAt, h.tells.lastError⟩
      rfl rfl ?_ (by simp) fun t ht => h.tick_cons rfl le_rfl ht
    exact ⟨[], instant, past, rfl, hpoint, List.forall_mem_nil _, trivial⟩
  | raise hrun hf =>
    obtain ⟨m, hok, -⟩ := expire_total h.reachable _
    rw [hok] at hrun
    cases hrun
  | tick =>
    refine h.move hk (by simp) h.reachable rfl rfl htells rfl rfl ?_ (by simp) htick
    exact ⟨SweptBy.cons hpoint rfl le_rfl fun _ _ => trivial, le_rfl⟩
  | @record tickAt =>
    have hrun := h.stop (h.of_point hk (by simp))
    have hstatus := h.tells.status
    have hready := h.tells.ready
    refine h.move hk (by simp) h.reachable rfl rfl
      ⟨h.tells.tickSeconds, h.tells.status, ?_, rfl, h.tells.lastError⟩ rfl rfl trivial (by simp)
      fun t ht => ?_
    · cases hw : watching past <;> simp_all [Runtime.ticked, watching, lastTick]
    · cases ht
      exact ⟨hpoint.1.cons rfl le_rfl fun _ _ => List.mem_cons_self, hpoint.2⟩
  | fail => exact hpoint.elim
  | set => exact hpoint.elim
  | finish =>
    have hrun := h.stop (h.of_point hk (by simp))
    have hw : watching past = false := by simpa [show s.runtime.stop = true from hpoint] using hrun
    refine h.move hk (by simp) h.reachable rfl rfl
      ⟨h.tells.tickSeconds, ?_, ?_, h.tells.lastTickAt, h.tells.lastError⟩ rfl rfl hpoint (by simp)
      htick
    · simp [Runtime.ended, watching, hw]
    · simp [Runtime.ended, watching, hw]
  | exit =>
    exact h.move hk (by simp) h.reachable rfl rfl htells rfl rfl trivial (fun _ => hpoint) htick

theorem Monitored.Sound.step (h : s.Sound w tickSeconds past)
    (hstep : MonitorStep w typeName s e s') : s'.Sound w tickSeconds (e :: past) := by
  cases hstep with
  | operate hnext => exact h.quiet (h.reachable.later (.single hnext)) le_rfl
  | elapse hnow => exact h.quiet h.reachable hnow
  | restart _ => exact h.quiet h.reachable le_rfl
  | start halive => exact h.started halive
  | startFailed error halive => exact h.startFailed error halive
  | stop => exact h.stopped
  | thread hk hthread => exact h.thread hk hthread

theorem MonitorRun.sound (h : MonitorRun w typeName tickSeconds past s) :
    s.Sound w tickSeconds past := by
  induction h with
  | init hlab clock =>
    exact
      { reachable := hlab, tells := runtime_init_tells, one := by simp, point := by simp
        alive := by simp [watching], stop := by simp [Monitored.alive, Runtime.init]
        tick := by simp [lastTick] }
  | step _ hstep ih => exact ih.step hstep

/-! ### The first pass -/

namespace Watch

/-- A monitor that was started, its thread at a point of its first turn. -/
def during (p : MonitorPoint) : Monitored :=
  { lab := .init "stream", runtime := (Runtime.init (1 / 4)).start 0, threads := [p], clock := 0 }

/-- The monitor after its first pass. -/
def ticked : Monitored :=
  { during .polling with runtime := (during .polling).runtime.ticked 0 }

/-- What was noted till then. -/
def noted : List MonitorEvent :=
  [.ticked 0, .quiet, .swept 0, .quiet, .quiet, .quiet, .started]

/-- The thread of the first turn moves on. -/
theorem move {past : List MonitorEvent} {e : MonitorEvent} {p p' : MonitorPoint}
    (h : MonitorRun .counting (fun _ => "Exception") (1 / 4) past (during p))
    (hstep : ThreadStep .counting (fun _ => "Exception") (during p) p e p' (.init "stream")
      (during p).runtime) :
    MonitorRun .counting (fun _ => "Exception") (1 / 4) (e :: past) (during p') :=
  h.step (.thread (k := 0) rfl hstep)

/-- The thread is about to take the lock of the state. -/
theorem sweeping : MonitorRun .counting (fun _ => "Exception") (1 / 4)
    [.quiet, .quiet, .quiet, .started] (during (.sweeping 0)) := by
  have hstart : MonitorRun .counting (fun _ => "Exception") (1 / 4) [.started] (during .polling) :=
    .step (.init ⟨"stream", .refl⟩ 0) (.start rfl)
  exact move (move (move hstart (.sleep rfl)) .timeout) .read

theorem fresh : World.counting.FreshBelow (LabState.init "stream").draws :=
  Reachable.fresh ⟨"stream", .refl⟩

theorem run : MonitorRun .counting (fun _ => "Exception") (1 / 4) noted ticked :=
  (move (move sweeping (.sweep rfl fresh)) .tick).step (.thread (k := 0) rfl .record)

end Watch

/-! ### What `health` shows -/

/-- In every interleaving, `health` shows exactly what the past tells: it says running when the
    monitor was started and not stopped since, ready when moreover the last pass recorded since is
    fresh, and an error only when the last start raised. -/
theorem health_told (h : MonitorRun w typeName tickSeconds past s) :
    s.runtime.health s.clock = told tickSeconds past s.clock := by
  obtain ⟨htick, hstatus, hready, hlast, herror⟩ := h.sound.tells
  rw [Runtime.health, told, htick, hstatus, hready, hlast, herror]
  cases watching past <;> cases lastTick past <;> simp

theorem health_told_first :
    Watch.ticked.runtime.health 0 = told (1 / 4) Watch.noted 0 := health_told Watch.run

end C2Lab
