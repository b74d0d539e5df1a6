import C2Lab.Auth.Registry
import C2Lab.Core.Run

/-! The expiry monitor of the Teamserver, `LabRuntime` of `core.py`.

    One thread runs the expiry pass over and over; `start`, `stop` and `health` may be called from
    any other thread at any time. Each section under `_runtime_lock` is one step, and so is each
    thing the thread does between two of them. How long `stop` waits for the thread is left out: it
    changes no field. Ages are kept in whole milliseconds, as `round(..., 3)` leaves them. -/

namespace C2Lab

/-! ### The fields -/

/-- A name `_safe_error_type` lets through. -/
def isSafeErrorType (name : PyStr) : Bool :=
  1 ≤ name.len && name.len ≤ 64 && name.allChars (fun c => c.toNat < 128) &&
    name.allChars fun c => c.isAlphanum || c == '_'

/-- The name of an error as `health` may show it. -/
abbrev SafeErrorType := { name : PyStr // isSafeErrorType name = true }

/-- `_safe_error_type`, of the name of the type. -/
def safeErrorType (name : PyStr) : SafeErrorType :=
  if h : isSafeErrorType name = true then ⟨name, h⟩ else ⟨"Exception", by decide⟩

/-- `_status`. -/
inductive RuntimeStatus where
  | running
  | stopped
  deriving DecidableEq, Repr

instance : Vocabulary RuntimeStatus where
  all := [.running, .stopped]
  name
    | .running => "running"
    | .stopped => "stopped"
  mem_all a := by cases a <;> simp
  name_inj a b h := by cases a <;> cases b <;> simp_all

/-- The fields of a `LabRuntime`; its threads are numbered in the order they were started. -/
structure Runtime where
  tickSeconds : ℚ
  stop : Bool
  thread : Option ℕ
  status : RuntimeStatus
  ready : Bool
  lastTickAt : Option Instant
  lastError : Option SafeErrorType

/-- What `health` returns. -/
structure Health where
  status : RuntimeStatus
  ready : Bool
  lastTickAgeMillis : Option ℕ
  lastError : Option SafeErrorType

/-- `round(max(0.0, now - at), 3)`, in milliseconds. -/
def tickAgeMillis (at' now : Instant) : ℕ := (roundHalfEven (1000 * max 0 (now - at'))).toNat

/-- `last_tick_age <= max(1.0, self.tick_seconds * 4)`. -/
def tickIsFresh (tickSeconds : ℚ) (ageMillis : ℕ) : Bool :=
  (ageMillis / 1000 : ℚ) ≤ max 1 (tickSeconds * 4)

namespace Runtime

/-- `LabRuntime(state, tick_seconds=...)`. -/
def init (tickSeconds : ℚ) : Runtime :=
  { tickSeconds := tickSeconds, stop := false, thread := none, status := .stopped
    ready := false, lastTickAt := none, lastError := none }

/-- `start`, no thread being alive, when the new thread starts. -/
def start (r : Runtime) (thread : ℕ) : Runtime :=
  { r with stop := false, thread := some thread, status := .running, ready := false
           lastTickAt := none, lastError := none }

/-- `start` when `thread.start()` raises. -/
def startFailed (r : Runtime) (error : PyStr) : Runtime :=
  { r with stop := true, thread := none, status := .stopped, ready := false
           lastTickAt := none, lastError := some (safeErrorType error) }

/-- `stop`. -/
def stopped (r : Runtime) : Runtime := { r with stop := true, status := .stopped, ready := false }

/-- What `_run` writes after a pass. -/
def ticked (r : Runtime) (tickAt : Instant) : Runtime :=
  { r with lastTickAt := some tickAt
           ready := if r.stop = false ∧ r.status = .running then true else r.ready }

/-- What `_run` writes when the pass raised. -/
def failed (r : Runtime) (error : PyStr) : Runtime :=
  { r with lastError := some (safeErrorType error), status := .stopped, ready := false }

/-- `finally` in `_run`. -/
def ended (r : Runtime) : Runtime := { r with status := .stopped, ready := false }

/-- `health`, at a reading of the clock. -/
def health (r : Runtime) (now : Instant) : Health :=
  let age := r.lastTickAt.map (tickAgeMillis · now)
  { status := r.status
    ready := r.status = .running && r.ready && age.any (tickIsFresh r.tickSeconds)
    lastTickAgeMillis := age
    lastError := r.lastError }

end Runtime

/-! ### The thread -/

/-- Where a thread is in `_run`. -/
inductive MonitorPoint where
  /-- At `self._stop.wait(...)`. -/
  | polling
  /-- In it, the event found clear. -/
  | sleeping
  /-- At `self.state.expire()`, which reads the clock before it takes the lock of the state. -/
  | expiring
  | sweeping (instant : Instant)
  /-- At `tick_at = self._clock()`. -/
  | ticking
  | recording (tickAt : Instant)
  /-- In `except Exception`. -/
  | failing (error : PyStr)
  /-- At the `self._stop.set()` after it. -/
  | halting
  /-- At `finally`. -/
  | ending
  /-- Past it, still alive. -/
  | leaving
  | dead
  deriving DecidableEq

/-- The Teamserver's state with its monitor, at a reading of the clock. -/
structure Monitored where
  lab : LabState
  runtime : Runtime
  threads : List MonitorPoint
  clock : Instant

/-- `self._thread and self._thread.is_alive()`. -/
def Monitored.alive (s : Monitored) : Bool :=
  match s.runtime.thread with
  | none => false
  | some k => (s.threads[k]?).any (· ≠ .dead)

/-- What an observer may note of a step. -/
inductive MonitorEvent where
  /-- `start` started a thread. -/
  | started
  /-- `start` got no thread. -/
  | startFailed (error : PyStr)
  | stopped
  /-- An expiry pass ended, for the clock reading it was given. -/
  | swept (instant : Instant)
  /-- A pass was recorded. -/
  | ticked (tickAt : Instant)
  /-- An expiry pass raised. -/
  | failed (error : PyStr)
  /-- Anything else. -/
  | quiet
  deriving DecidableEq

section
variable (w : World) (typeName : Exc → PyStr)

/-- One step of a thread at a point: where it goes, and what becomes of the state and the
    fields. -/
inductive ThreadStep (s : Monitored) :
    MonitorPoint → MonitorEvent → MonitorPoint → LabState → Runtime → Prop where
  | sleep (hstop : s.runtime.stop = false) :
      ThreadStep s .polling .quiet .sleeping s.lab s.runtime
  | halt (hstop : s.runtime.stop = true) :
      ThreadStep s .polling .quiet .ending s.lab s.runtime
  | wake (hstop : s.runtime.stop = true) :
      ThreadStep s .sleeping .quiet .ending s.lab s.runtime
  /-- The time of the wait is over, also when the event was set meanwhile. -/
  | timeout : ThreadStep s .sleeping .quiet .expiring s.lab s.runtime
  | read : ThreadStep s .expiring .quiet (.sweeping s.clock) s.lab s.runtime
  | sweep {instant : Instant} {lab' : LabState}
      (hrun : expire w instant s.lab = .ok ⟨⟩ lab') (hf : w.FreshBelow lab'.draws) :
      ThreadStep s (.sweeping instant) (.swept instant) .ticking lab' s.runtime
  | raise {instant : Instant} {e : Exc} {lab' : LabState}
      (hrun : expire w instant s.lab = .error e lab') (hf : w.FreshBelow lab'.draws) :
      ThreadStep s (.sweeping instant) (.failed (typeName e)) (.failing (typeName e)) lab' s.runtime
  | tick : ThreadStep s .ticking .quiet (.recording s.clock) s.lab s.runtime
  | record {tickAt : Instant} :
      ThreadStep s (.recording tickAt) (.ticked tickAt) .polling s.lab (s.runtime.ticked tickAt)
  | fail {error : PyStr} :
      ThreadStep s (.failing error) .quiet .halting s.lab (s.runtime.failed error)
  | set : ThreadStep s .halting .quiet .ending s.lab { s.runtime with stop := true }
  | finish : ThreadStep s .ending .quiet .leaving s.lab s.runtime.ended
  | exit : ThreadStep s .leaving .quiet .dead s.lab s.runtime

/-- One step of the system. -/
inductive MonitorStep (s : Monitored) : MonitorEvent → Monitored → Prop where
  /-- Anybody's operation on the state. -/
  | operate {lab' : LabState} (h : Next w s.lab lab') :
      MonitorStep s .quiet { s with lab := lab' }
  | elapse {now : Instant} (h : s.clock ≤ now) : MonitorStep s .quiet { s with clock := now }
  /-- `start` finds the thread alive. -/
  | restart (h : s.alive = true) : MonitorStep s .quiet s
  | start (h : s.alive = false) :
      MonitorStep s .started
        { s with
          runtime := s.runtime.start s.threads.length
          threads := s.threads ++ [.polling] }
  | startFailed (error : PyStr) (h : s.alive = false) :
      MonitorStep s (.startFailed error) { s with runtime := s.runtime.startFailed error }
  | stop : MonitorStep s .stopped { s with runtime := s.runtime.stopped }
  | thread {k : ℕ} {p p' : MonitorPoint} {e : MonitorEvent} {lab' : LabState} {r' : Runtime}
      (hk : s.threads[k]? = some p) (h : ThreadStep w typeName s p e p' lab' r') :
      MonitorStep s e { s with lab := lab', runtime := r', threads := s.threads.set k p' }

/-- What has been noted in a run, the latest first, and where the run ended. -/
inductive MonitorRun (tickSeconds : ℚ) : List MonitorEvent → Monitored → Prop where
  | init {lab : LabState} (hlab : Reachable w lab) (clock : Instant) :
      MonitorRun tickSeconds []
        { lab := lab, runtime := .init tickSeconds, threads := [], clock := clock }
  | step {past : List MonitorEvent} {s s' : Monitored} {e : MonitorEvent}
      (h : MonitorRun tickSeconds past s) (hstep : MonitorStep w typeName s e s') :
      MonitorRun tickSeconds (e :: past) s'

end

end C2Lab
