import Mathlib.Data.List.ReduceOption
import Mathlib.Logic.Relation
import C2Lab.Server.Metrics

/-! The worker slots and the access log of the HTTP server.

    A request thread takes a slot, counts its response and hands a line to a bounded queue; one
    thread writes the lines, and `server_close` ends it by a sentinel. Each method of `queue.Queue`,
    of the semaphore and of the counters is one step, and the threads take their steps in any order.
    The server has an access log, and `server_close` is not called by two threads at once; how long
    it waits for the writer is left out. -/

namespace C2Lab

def maxHttpWorkers : ℕ := 16
def accessLogQueueSize : ℕ := 256

/-- A line of the access log. -/
structure AccessEntry where
  method : PyStr
  route : PyStr
  status : ℤ
  principalId : Option PyStr
  deriving DecidableEq

/-! ### The threads -/

/-- Where the thread of a request is. -/
inductive WorkerPoint where
  /-- Serving the request, nothing recorded yet. -/
  | serving
  /-- In `record_response`, past `self.metrics.record(...)`. -/
  | encoding (entry : AccessEntry)
  /-- At `self._access_log_closed.is_set()`. -/
  | testing (entry : AccessEntry)
  /-- At `pending.put_nowait(encoded)`. -/
  | putting (entry : AccessEntry)
  /-- At `self.metrics.record_access_log_drop()`. -/
  | dropping
  /-- Past `record_response`. -/
  | answered
  /-- The slot is released. -/
  | done
  deriving DecidableEq

/-- Where the thread of `_write_access_log` is. -/
inductive WriterPoint where
  /-- At `pending.get()`. -/
  | getting
  | writing (item : Option AccessEntry)
  /-- In `except Exception`. -/
  | dropping
  /-- At `pending.task_done()`, and whether the loop returns after it. -/
  | finishing (last : Bool)
  | returned
  /-- `task_done` raised. -/
  | crashed
  deriving DecidableEq

/-- Where the thread in `_close_access_log` is, if there is one. -/
inductive CloserPoint where
  | idle
  /-- At `self._access_log_closed.set()`. -/
  | closing
  /-- At the first `pending.put_nowait(None)`. -/
  | offering
  /-- At `pending.get_nowait()`. -/
  | taking
  /-- At `pending.task_done()`. -/
  | finishing (item : Option AccessEntry)
  /-- At `self.metrics.record_access_log_drop()`. -/
  | dropping
  /-- At the second `pending.put_nowait(None)`. -/
  | again
  /-- `task_done` raised. -/
  | crashed
  deriving DecidableEq

/-- What the server keeps for counting and logging, with its threads, the lines written without an
    error and, in the order they were put, the lines the queue ever took. -/
structure LoggingServer where
  metrics : RequestMetrics
  freeSlots : ℕ
  queue : List (Option AccessEntry)
  unfinished : ℕ
  closed : Bool
  workers : List WorkerPoint
  writer : WriterPoint
  closer : CloserPoint
  written : List AccessEntry
  accepted : List AccessEntry

namespace LoggingServer

/-- A server whose writer has been started. -/
def init : LoggingServer :=
  { metrics := .init, freeSlots := maxHttpWorkers, queue := [], unfinished := 0, closed := false
    workers := [], writer := .getting, closer := .idle, written := [], accepted := [] }

/-- `put_nowait` of an item the queue has room for. -/
def put (s : LoggingServer) (item : Option AccessEntry) : LoggingServer :=
  { s with
    queue := s.queue ++ [item], unfinished := s.unfinished + 1
    accepted := s.accepted ++ item.toList }

/-- `record_access_log_drop`. -/
def drop (s : LoggingServer) : LoggingServer :=
  { s with metrics := s.metrics.recordAccessLogDrop }

end LoggingServer

/-- One step of a request thread: where it goes, and the server after it. -/
inductive WorkerStep (s : LoggingServer) : WorkerPoint → WorkerPoint → LoggingServer → Prop where
  | record (method path : PyStr) (status : ℤ) (actor : Option PyStr) :
      WorkerStep s .serving
        (.encoding ⟨methodLabel method, normalizedRoute path, status, actor⟩)
        { s with metrics := s.metrics.record method path status }
  | encode {entry : AccessEntry} : WorkerStep s (.encoding entry) (.testing entry) s
  /-- `json.dumps` raised. -/
  | unencodable {entry : AccessEntry} : WorkerStep s (.encoding entry) .dropping s
  | isOpen {entry : AccessEntry} (h : s.closed = false) :
      WorkerStep s (.testing entry) (.putting entry) s
  | isClosed {entry : AccessEntry} (h : s.closed = true) :
      WorkerStep s (.testing entry) .dropping s
  | put {entry : AccessEntry} (h : s.queue.length < accessLogQueueSize) :
      WorkerStep s (.putting entry) .answered (s.put (some entry))
  | full {entry : AccessEntry} (h : accessLogQueueSize ≤ s.queue.length) :
      WorkerStep s (.putting entry) .dropping s
  | drop : WorkerStep s .dropping .answered s.drop
  /-- The connection broke before there was a response. -/
  | abandon : WorkerStep s .serving .answered s
  | release : WorkerStep s .answered .done { s with freeSlots := s.freeSlots + 1 }

/-- One step of the writer. -/
inductive WriterStep (s : LoggingServer) : WriterPoint → WriterPoint → LoggingServer → Prop where
  | get {item : Option AccessEntry} {rest : List (Option AccessEntry)}
      (h : s.queue = item :: rest) :
      WriterStep s .getting (.writing item) { s with queue := rest }
  | sentinel : WriterStep s (.writing none) (.finishing true) s
  | write {entry : AccessEntry} :
      WriterStep s (.writing (some entry)) (.finishing false)
        { s with written := s.written ++ [entry] }
  | raise {entry : AccessEntry} : WriterStep s (.writing (some entry)) .dropping s
  | drop : WriterStep s .dropping (.finishing false) s.drop
  | taskDone {last : Bool} (h : 0 < s.unfinished) :
      WriterStep s (.finishing last) (if last then .returned else .getting)
        { s with unfinished := s.unfinished - 1 }
  | tooMany {last : Bool} (h : s.unfinished = 0) : WriterStep s (.finishing last) .crashed s

/-- One step of the thread that closes the log. -/
inductive CloserStep (s : LoggingServer) : CloserPoint → CloserPoint → LoggingServer → Prop where
  | enter (h : s.closed = false) : CloserStep s .idle .closing s
  | set : CloserStep s .closing .offering { s with closed := true }
  | offer (h : s.queue.length < accessLogQueueSize) : CloserStep s .offering .idle (s.put none)
  | full (h : accessLogQueueSize ≤ s.queue.length) : CloserStep s .offering .taking s
  | take {item : Option AccessEntry} {rest : List (Option AccessEntry)}
      (h : s.queue = item :: rest) :
      CloserStep s .taking (.finishing item) { s with queue := rest }
  | empty (h : s.queue = []) : CloserStep s .taking .again s
  | taskDone {item : Option AccessEntry} (h : 0 < s.unfinished) :
      CloserStep s (.finishing item) .dropping { s with unfinished := s.unfinished - 1 }
  | tooMany {item : Option AccessEntry} (h : s.unfinished = 0) :
      CloserStep s (.finishing item) .crashed s
  | drop : CloserStep s .dropping .again s.drop
  | offerAgain (h : s.queue.length < accessLogQueueSize) : CloserStep s .again .idle (s.put none)
  | giveUp (h : accessLogQueueSize ≤ s.queue.length) : CloserStep s .again .idle s

/-- One step of the server. -/
inductive LoggingStep (s : LoggingServer) : LoggingServer → Prop where
  /-- `process_request` gets a slot and starts a thread; with none, it gives the slot back. -/
  | accept (h : 0 < s.freeSlots) :
      LoggingStep s
        { s with freeSlots := s.freeSlots - 1, workers := s.workers ++ [.serving] }
  /-- `process_request` gets no slot. -/
  | reject (h : s.freeSlots = 0) :
      LoggingStep s { s with metrics := s.metrics.recordWorkerRejection }
  | worker {k : ℕ} {p p' : WorkerPoint} {t : LoggingServer} (hk : s.workers[k]? = some p)
      (h : WorkerStep s p p' t) : LoggingStep s { t with workers := s.workers.set k p' }
  | writer {p' : WriterPoint} {t : LoggingServer} (h : WriterStep s s.writer p' t) :
      LoggingStep s { t with writer := p' }
  | closer {p' : CloserPoint} {t : LoggingServer} (h : CloserStep s s.closer p' t) :
      LoggingStep s { t with closer := p' }

/-- A server some run ends in. -/
def LoggingReachable (s : LoggingServer) : Prop :=
  Relation.ReflTransGen LoggingStep .init s

/-! ### Where the lines are -/

/-- The thread has a response counted whose line is neither put nor dropped. -/
def WorkerPoint.holds : WorkerPoint → Bool
  | encoding _ | testing _ | putting _ | dropping => true
  | _ => false

/-- The thread has a slot. -/
def WorkerPoint.busy : WorkerPoint → Bool
  | done => false
  | _ => true

/-- The lines the writer took and neither wrote nor dropped yet. -/
def WriterPoint.held : WriterPoint → ℕ
  | writing (some _) | dropping => 1
  | _ => 0

/-- What the writer may still write of what it took. -/
def WriterPoint.entry : WriterPoint → List AccessEntry
  | writing (some entry) => [entry]
  | _ => []

/-- The items the writer took and has not called `task_done` for. -/
def WriterPoint.pending : WriterPoint → ℕ
  | writing _ | dropping | finishing _ => 1
  | _ => 0

/-- The sentinel, once the writer has taken it. -/
def WriterPoint.sentinel : WriterPoint → List (Option AccessEntry)
  | writing none | finishing true | returned => [none]
  | _ => []

/-- The lines `_close_access_log` took and has not counted as dropped. -/
def CloserPoint.held : CloserPoint → ℕ
  | finishing _ | dropping => 1
  | _ => 0

/-- The items it took and has not called `task_done` for. -/
def CloserPoint.pending : CloserPoint → ℕ
  | finishing _ => 1
  | _ => 0

/-- The sentinel has not been put yet. -/
def CloserPoint.early : CloserPoint → Bool
  | idle | crashed => false
  | _ => true

/-- Past `self._access_log_closed.set()`. -/
def CloserPoint.past : CloserPoint → Bool
  | idle | closing | crashed => false
  | _ => true

namespace LoggingServer

/-- The responses whose line is still under way. -/
def underway (s : LoggingServer) : ℕ :=
  s.queue.countP Option.isSome + s.workers.countP WorkerPoint.holds + s.writer.held + s.closer.held

/-- The invariant of the log. -/
structure Sound (s : LoggingServer) : Prop where
  slots : s.freeSlots + s.workers.countP WorkerPoint.busy = maxHttpWorkers
  accounted : s.metrics.requestsTotal =
    s.written.length + s.metrics.accessLogDrops + s.underway
  order : (s.written ++ s.writer.entry ++ s.queue.reduceOption).Sublist s.accepted
  bound : s.queue.length ≤ accessLogQueueSize
  unfinished : s.unfinished = s.queue.length + s.writer.pending + s.closer.pending
  lines : s.closed = false ∨ s.closer.early = true → none ∉ s.writer.sentinel ++ s.queue
  flagged : s.closer.past = true → s.closed = true
  consistent : s.metrics.Consistent
  writer : s.writer ≠ .crashed
  closer : s.closer ≠ .crashed

end LoggingServer

/-- Counting in a list one element of which is replaced. -/
theorem countP_set_add {α : Type} {l : List α} {k : ℕ} {a : α} (a' : α) (p : α → Bool)
    (h : l[k]? = some a) :
    (l.set k a').countP p + (if p a = true then 1 else 0) =
      l.countP p + if p a' = true then 1 else 0 := by
  induction l generalizing k with
  | nil => simp at h
  | cons b l ih =>
    cases k with
    | zero =>
      obtain rfl : b = a := by simpa using h
      simp only [List.set_cons_zero, List.countP_cons]
      omega
    | succ k =>
      have := ih (k := k) (by simpa using h)
      simp only [List.set_cons_succ, List.countP_cons]
      omega

/-! ### The steps keep it -/

section
variable {s t : LoggingServer}

namespace LoggingServer.Sound

theorem init : LoggingServer.init.Sound where
  slots := rfl
  accounted := rfl
  order := List.Sublist.refl _
  bound := by decide
  unfinished := rfl
  lines _ := by decide
  flagged := by decide
  consistent := RequestMetrics.init_consistent
  writer := by decide
  closer := by decide

theorem worker (h : s.Sound) {k : ℕ} {p p' : WorkerPoint} (hk : s.workers[k]? = some p)
    (hstep : WorkerStep s p p' t) :
    LoggingServer.Sound { t with workers := s.workers.set k p' } := by
  have hbusy := countP_set_add p' WorkerPoint.busy hk
  have hholds := countP_set_add p' WorkerPoint.holds hk
  have hslots := h.slots
  have haccounted := h.accounted
  rw [underway] at haccounted
  cases hstep with
  | record method path status actor =>
    simp only [WorkerPoint.busy, WorkerPoint.holds, if_true, Bool.false_eq_true, if_false]
      at hbusy hholds
    refine { h with slots := ?_, accounted := ?_, consistent := h.consistent.record _ _ _ }
    · simp only
      omega
    · simp only [underway, RequestMetrics.record]
      omega
  | encode | unencodable | isOpen _ | isClosed _ | full _ =>
    simp only [WorkerPoint.busy, WorkerPoint.holds, if_true] at hbusy hholds
    refine { h with slots := ?_, accounted := ?_ }
    · simp only
      omega
    · simp only [underway]
      omega
  | @put entry hroom =>
    simp only [WorkerPoint.busy, WorkerPoint.holds, if_true, Bool.false_eq_true, if_false]
      at hbusy hholds
    refine { h with slots := ?_, accounted := ?_, order := ?_, bound := ?_, unfinished := ?_
                    lines := fun hopen => ?_ }
    · simp only [LoggingServer.put]
      omega
    · simp [underway, LoggingServer.put]
      omega
    · simpa [LoggingServer.put, List.reduceOption_append] using
        h.order.append (List.Sublist.refl [entry])
    · simpa [LoggingServer.put] using Nat.succ_le_of_lt hroom
    · have := h.unfinished
      simp only [LoggingServer.put, List.length_append, List.length_singleton]
      omega
    · simpa [LoggingServer.put] using h.lines hopen
  | drop =>
    simp only [WorkerPoint.busy, WorkerPoint.holds, if_true, Bool.false_eq_true, if_false]
      at hbusy hholds
    refine { h with slots := ?_, accounted := ?_, consistent := h.consistent.drop }
    · simp only [LoggingServer.drop]
      omega
    · simp only [underway, LoggingServer.drop, RequestMetrics.recordAccessLogDrop]
      omega
  | abandon =>
    simp only [WorkerPoint.busy, WorkerPoint.holds, if_true, Bool.false_eq_true, if_false]
      at hbusy hholds
    refine { h with slots := ?_, accounted := ?_ }
    · simp only
      omega
    · simp only [underway]
      omega
  | release =>
    simp only [WorkerPoint.busy, WorkerPoint.holds, if_true, Bool.false_eq_true, if_false]
      at hbusy hholds
    refine { h with slots := ?_, accounted := ?_ }
    · simp only
      omega
    · simp only [underway]
      omega

theorem writer_step (h : s.Sound) {p' : WriterPoint} (hstep : WriterStep s s.writer p' t) :
    LoggingServer.Sound { t with writer := p' } := by
  have haccounted := h.accounted
  have hunfinished := h.unfinished
  have horder := h.order
  have hlines := h.lines
  rw [underway] at haccounted
  generalize hw : s.writer = p at hstep
  rw [hw] at haccounted hunfinished horder hlines
  cases hstep with
  | @get item rest hqueue =>
    rw [hqueue] at haccounted hunfinished horder
    have hbound := h.bound
    rw [hqueue] at hlines hbound
    refine { h with accounted := ?_, order := ?_, bound := ?_, unfinished := ?_, lines := ?_
                    writer := by simp }
    · cases item with
      | none => simpa [underway, WriterPoint.held] using haccounted
      | some entry =>
        simp only [underway, WriterPoint.held, List.countP_cons, Option.isSome_some, if_true]
          at haccounted ⊢
        omega
    · cases item <;> simpa [WriterPoint.entry] using horder
    · exact (Nat.le_succ _).trans hbound
    · simp only [List.length_cons, WriterPoint.pending] at hunfinished ⊢
      omega
    · intro hopen
      cases item with
      | none => exact hlines hopen
      | some entry => simpa [WriterPoint.sentinel] using hlines hopen
  | sentinel =>
    exact { h with accounted := haccounted, order := horder, unfinished := hunfinished
                   lines := hlines, writer := by simp }
  | @write entry =>
    refine { h with accounted := ?_, order := ?_, unfinished := hunfinished
                    lines := hlines, writer := by simp }
    · simp only [underway, WriterPoint.held, List.length_append, List.length_singleton]
        at haccounted ⊢
      omega
    · simpa [WriterPoint.entry] using horder
  | raise =>
    refine { h with accounted := haccounted, order := ?_, unfinished := hunfinished
                    lines := hlines, writer := by simp }
    refine List.Sublist.trans ?_ horder
    simp [WriterPoint.entry]
  | drop =>
    refine { h with accounted := ?_, order := horder, unfinished := hunfinished
                    consistent := h.consistent.drop, lines := hlines, writer := by simp }
    simp only [underway, WriterPoint.held, LoggingServer.drop,
      RequestMetrics.recordAccessLogDrop] at haccounted ⊢
    omega
  | @taskDone last hpos =>
    refine { h with accounted := ?_, order := ?_, unfinished := ?_, lines := ?_, writer := ?_ }
    · cases last <;> exact haccounted
    · cases last <;> exact horder
    · simp only [WriterPoint.pending] at hunfinished
      have hpending : (if last then WriterPoint.returned else .getting).pending = 0 := by
        cases last <;> rfl
      simp only [hpending]
      omega
    · cases last <;> exact hlines
    · cases last <;> simp
  | tooMany hzero =>
    simp only [WriterPoint.pending] at hunfinished
    omega

/-- The sentinel is put by a thread that holds nothing and has closed the log. -/
theorem sentinel (h : s.Sound) (hroom : s.queue.length < accessLogQueueSize)
    (hclosed : s.closed = true) (hheld : s.closer.held = 0) (hpending : s.closer.pending = 0) :
    LoggingServer.Sound { s.put none with closer := .idle } := by
  have haccounted := h.accounted
  have hunfinished := h.unfinished
  rw [underway] at haccounted
  refine { h with accounted := ?_, order := ?_, bound := ?_, unfinished := ?_, lines := ?_
                  flagged := nofun, closer := by simp }
  · simp only [underway, LoggingServer.put, CloserPoint.held, List.countP_append,
      List.countP_singleton, Option.isSome_none, Bool.false_eq_true, if_false]
    omega
  · simpa [LoggingServer.put, List.reduceOption_append] using h.order
  · simpa [LoggingServer.put] using Nat.succ_le_of_lt hroom
  · simp only [LoggingServer.put, List.length_append, List.length_singleton, CloserPoint.pending]
    omega
  · rintro (hopen | hearly)
    · exact absurd (hclosed.symm.trans hopen) (by decide)
    · simp [CloserPoint.early] at hearly

theorem closer_step (h : s.Sound) {p' : CloserPoint} (hstep : CloserStep s s.closer p' t) :
    LoggingServer.Sound { t with closer := p' } := by
  have haccounted := h.accounted
  have hunfinished := h.unfinished
  have hlines := h.lines
  have hflagged := h.flagged
  have hsentinel := h.sentinel
  rw [underway] at haccounted
  generalize hc : s.closer = p at hstep
  rw [hc] at haccounted hunfinished hlines hflagged hsentinel
  cases hstep with
  | enter hopen =>
    exact { h with accounted := haccounted, unfinished := hunfinished
                   lines := fun _ => hlines (.inl hopen), flagged := nofun, closer := by simp }
  | set =>
    exact { h with accounted := haccounted, unfinished := hunfinished
                   lines := fun _ => hlines (.inr rfl), flagged := fun _ => rfl
                   closer := by simp }
  | offer hroom => exact hsentinel hroom (hflagged rfl) rfl rfl
  | full hfull =>
    exact { h with accounted := haccounted, unfinished := hunfinished
                   lines := fun _ => hlines (.inr rfl), flagged := fun _ => hflagged rfl
                   closer := by simp }
  | @take item rest hqueue =>
    have hmem := hlines (.inr rfl)
    have horder := h.order
    have hbound := h.bound
    rw [hqueue] at haccounted hunfinished hmem horder hbound
    -- no sentinel has been put yet, so what the thread takes is a line
    obtain ⟨entry, rfl⟩ : ∃ entry, item = some entry :=
      Option.ne_none_iff_exists'.mp fun hnone => hmem (by simp [hnone])
    refine { h with accounted := ?_, order := ?_, bound := ?_, unfinished := ?_
                    lines := fun _ => by simpa using hmem
                    flagged := fun _ => hflagged rfl, closer := by simp }
    · simp only [underway, CloserPoint.held, List.countP_cons, Option.isSome_some, if_true]
        at haccounted ⊢
      omega
    · refine List.Sublist.trans (List.Sublist.append_left ?_ _) horder
      simp
    · exact (Nat.le_succ _).trans hbound
    · simp only [List.length_cons, CloserPoint.pending] at hunfinished ⊢
      omega
  | empty hqueue =>
    exact { h with accounted := haccounted, unfinished := hunfinished
                   lines := fun _ => hlines (.inr rfl), flagged := fun _ => hflagged rfl
                   closer := by simp }
  | taskDone hpos =>
    refine { h with accounted := haccounted, unfinished := ?_
                    lines := fun _ => hlines (.inr rfl), flagged := fun _ => hflagged rfl
                    closer := by simp }
    simp only [CloserPoint.pending] at hunfinished ⊢
    omega
  | tooMany hzero =>
    simp only [CloserPoint.pending] at hunfinished
    omega
  | drop =>
    refine { h with accounted := ?_, unfinished := hunfinished, consistent := h.consistent.drop
                    lines := fun _ => hlines (.inr rfl), flagged := fun _ => hflagged rfl
                    closer := by simp }
    simp only [underway, CloserPoint.held, LoggingServer.drop,
      RequestMetrics.recordAccessLogDrop] at haccounted ⊢
    omega
  | offerAgain hroom => exact hsentinel hroom (hflagged rfl) rfl rfl
  | giveUp hfull =>
    exact { h with accounted := haccounted, unfinished := hunfinished
                   lines := fun _ => hlines (.inr rfl), flagged := nofun, closer := by simp }

theorem step (h : s.Sound) (hstep : LoggingStep s t) : t.Sound := by
  cases hstep with
  | accept hfree =>
    have hslots := h.slots
    have haccounted := h.accounted
    refine { h with slots := ?_, accounted := ?_ }
    · simp only [List.countP_append, List.countP_singleton, WorkerPoint.busy, if_true]
      omega
    · simpa [underway, WorkerPoint.holds] using haccounted
  | reject hfull => exact { h with consistent := h.consistent.reject }
  | worker hk hstep => exact h.worker hk hstep
  | writer hstep => exact h.writer_step hstep
  | closer hstep => exact h.closer_step hstep

end LoggingServer.Sound

theorem LoggingReachable.step (hs : LoggingReachable s) (h : LoggingStep s t) :
    LoggingReachable t := hs.tail h

theorem LoggingReachable.sound (hs : LoggingReachable s) : s.Sound := by
  induction hs with
  | refl => exact .init
  | tail _ hstep ih => exact ih.step hstep

/-- Every counted response is written, counted as dropped or under way: in the queue, with the
    writer, with the closing thread or with one of at most sixteen request threads. Lines are
    written in the order they were put, a drained queue has nothing under way in it, and the
    breakdowns of the responses add up over few labels. -/
theorem access_log_accounted (hs : LoggingReachable s) :
    (s.metrics.requestsTotal = s.written.length + s.metrics.accessLogDrops +
        (s.queue.countP Option.isSome + s.workers.countP WorkerPoint.holds +
          s.writer.held + s.closer.held) ∧
      s.written.Sublist s.accepted ∧
      s.queue.length ≤ 256 ∧
      (s.unfinished = 0 → s.queue = [] ∧ s.writer.held = 0)) ∧
    s.freeSlots + s.workers.countP WorkerPoint.busy = 16 ∧
    (s.writer ≠ .crashed ∧ s.closer ≠ .crashed) ∧
    (s.metrics.methods.values.sum = s.metrics.requestsTotal ∧
      s.metrics.routes.values.sum = s.metrics.requestsTotal ∧
      s.metrics.statusClasses.values.sum = s.metrics.requestsTotal ∧
      s.metrics.methods.size ≤ 3 ∧ s.metrics.routes.size ≤ 29 ∧
      s.metrics.statusClasses.size ≤ 6) := by
  have hsound := hs.sound
  have hlabels := hsound.consistent
  refine ⟨⟨hsound.accounted, ?_, hsound.bound, fun hdrained => ?_⟩, hsound.slots,
    ⟨hsound.writer, hsound.closer⟩, hlabels.methods, hlabels.routes, hlabels.statusClasses,
    Dict.size_le_of_subset hlabels.methods_subset, Dict.size_le_of_subset hlabels.routes_subset,
    Dict.size_le_of_subset hlabels.statuses_subset⟩
  · refine List.Sublist.trans ?_ hsound.order
    simp only [List.append_assoc]
    exact List.sublist_append_left _ _
  · have hcount := hsound.unfinished
    have hqueue : s.queue.length = 0 := by omega
    have hpending : s.writer.pending = 0 := by omega
    refine ⟨List.eq_nil_of_length_eq_zero hqueue, ?_⟩
    cases hw : s.writer <;> simp [hw, WriterPoint.pending, WriterPoint.held] at hpending ⊢

end

/-- Two requests are answered, and the first line is written. -/
def answeredServer : LoggingServer :=
  { metrics := (RequestMetrics.init.record "POST" "/lab/notes" 201).record "GET" "/healthz" 200
    freeSlots := 16, queue := [some ⟨"GET", "/healthz", 200, none⟩], unfinished := 1
    closed := false, workers := [.done, .done], writer := .getting, closer := .idle
    written := [⟨"POST", "/lab/notes", 201, some "session-1"⟩]
    accepted := [⟨"POST", "/lab/notes", 201, some "session-1"⟩, ⟨"GET", "/healthz", 200, none⟩] }

theorem answeredServer_reachable : LoggingReachable answeredServer := by
  have hstart : LoggingReachable .init := .refl
  have hfirst := hstart
    |>.step (.accept (by decide))
    |>.step (.worker (k := 0) rfl (.record "POST" "/lab/notes" 201 (some "session-1")))
    |>.step (.worker (k := 0) rfl .encode)
    |>.step (.worker (k := 0) rfl (.isOpen rfl))
    |>.step (.worker (k := 0) rfl (.put (by decide)))
    |>.step (.worker (k := 0) rfl .release)
  have hsecond := hfirst
    |>.step (.accept (by decide))
    |>.step (.worker (k := 1) rfl (.record "GET" "/healthz" 200 none))
    |>.step (.worker (k := 1) rfl .encode)
    |>.step (.worker (k := 1) rfl (.isOpen rfl))
    |>.step (.worker (k := 1) rfl (.put (by decide)))
    |>.step (.worker (k := 1) rfl .release)
  have hwritten := hsecond
    |>.step (.writer (.get rfl))
    |>.step (.writer .write)
    |>.step (.writer (.taskDone (by decide)))
  exact hwritten

theorem access_log_accounted_answered : answeredServer.metrics.requestsTotal = 2 ∧
    answeredServer.underway = 1 ∧ answeredServer.freeSlots = 16 ∧
    answeredServer.written.Sublist answeredServer.accepted ∧
    answeredServer.metrics.routes.values.sum = answeredServer.metrics.requestsTotal := by
  have h := access_log_accounted answeredServer_reachable
  exact ⟨rfl, rfl, rfl, h.1.2.1, h.2.2.2.2.1⟩

/-! ### Closing the server -/

/-- A step after the request threads were joined: none is started and none moves. -/
def JoinedStep (s t : LoggingServer) : Prop :=
  LoggingStep s t ∧ t.workers = s.workers

namespace LoggingServer

/-- The sentinel is not put yet, or it is the last item there will be. -/
def Ending (s : LoggingServer) : Prop :=
  none ∉ s.writer.sentinel ++ s.queue ∨
    s.closed = true ∧ s.closer.early = false ∧
      ∃ lines, none ∉ lines ∧ s.writer.sentinel ++ s.queue = lines ++ [none]

end LoggingServer

section
variable {s t : LoggingServer}

theorem LoggingServer.Ending.writer_step (h : s.Ending) (hsound : s.Sound) {p' : WriterPoint}
    (hstep : WriterStep s s.writer p' t) : LoggingServer.Ending { t with writer := p' } := by
  have hkept := hsound.writer_step hstep
  rw [Ending] at h
  generalize s.writer = p at h hstep
  cases hstep with
  | @get item rest hqueue =>
    rw [hqueue] at h
    cases item with
    | none => exact h
    | some entry =>
      refine h.imp (fun hnone => ?_) (fun ⟨hclosed, hearly, lines, hlines, hall⟩ => ?_)
      · simpa [WriterPoint.sentinel] using hnone
      · -- the item taken is a line, so the sentinel is still behind it
        cases lines with
        | nil => simp [WriterPoint.sentinel] at hall
        | cons line lines =>
          obtain ⟨rfl, hrest⟩ : some entry = line ∧ rest = lines ++ [none] := by
            simpa [WriterPoint.sentinel] using hall
          exact ⟨hclosed, hearly, lines, fun hin => hlines (List.mem_cons_of_mem _ hin), hrest⟩
  | sentinel | write | raise | drop => exact h
  | @taskDone last hpos => cases last <;> exact h
  | tooMany hzero => exact absurd rfl hkept.writer

theorem LoggingServer.Ending.closer_step (h : s.Ending) (hsound : s.Sound) {p' : CloserPoint}
    (hstep : CloserStep s s.closer p' t) : LoggingServer.Ending { t with closer := p' } := by
  have hkept := hsound.closer_step hstep
  have hflagged := hsound.flagged
  rw [Ending] at h
  generalize s.closer = p at h hstep hflagged
  have hput : s.closed = true → p.early = true →
      LoggingServer.Ending { s.put none with closer := .idle } := by
    intro hclosed hearly
    rcases h with hnone | ⟨-, hlate, -⟩
    · exact .inr ⟨hclosed, rfl, _, hnone, (List.append_assoc ..).symm⟩
    · exact absurd (hlate.symm.trans hearly) (by decide)
  cases hstep with
  | enter hopen =>
    refine .inl (h.resolve_right ?_)
    rintro ⟨hclosed, -⟩
    exact absurd (hclosed.symm.trans hopen) (by decide)
  | set | full _ | empty _ | taskDone _ | drop | giveUp _ =>
    exact .inl (h.resolve_right fun hlate => nomatch hlate.2.1)
  | offer hroom => exact hput (hflagged rfl) rfl
  | offerAgain hroom => exact hput (hflagged rfl) rfl
  | @take item rest hqueue =>
    have hnone := h.resolve_right fun hlate => nomatch hlate.2.1
    rw [hqueue] at hnone
    refine .inl fun hin => hnone ?_
    simp only [List.mem_append, List.mem_cons] at hin ⊢
    exact hin.imp_right .inr
  | tooMany hzero => exact absurd rfl hkept.closer

theorem LoggingServer.Ending.step (h : s.Ending) (hsound : s.Sound)
    (hdone : ∀ p ∈ s.workers, p = .done) (hstep : JoinedStep s t) : t.Ending := by
  obtain ⟨hstep, hjoined⟩ := hstep
  cases hstep with
  | accept hfree => simp at hjoined
  | reject hfull => exact h
  | worker hk hstep =>
    obtain rfl := hdone _ (List.mem_of_getElem? hk)
    cases hstep
  | writer hstep => exact h.writer_step hsound hstep
  | closer hstep => exact h.closer_step hsound hstep

/-- No response is counted any more. -/
theorem JoinedStep.requestsTotal (hdone : ∀ p ∈ s.workers, p = .done) (h : JoinedStep s t) :
    t.metrics.requestsTotal = s.metrics.requestsTotal := by
  obtain ⟨hstep, -⟩ := h
  cases hstep with
  | accept hfree | reject hfull => rfl
  | worker hk hstep =>
    obtain rfl := hdone _ (List.mem_of_getElem? hk)
    cases hstep
  | writer hstep =>
    generalize s.writer = p at hstep
    cases hstep <;> rfl
  | closer hstep =>
    generalize s.closer = p at hstep
    cases hstep <;> rfl

theorem joined_run (hs : s.Sound) (hdone : ∀ p ∈ s.workers, p = .done) (hending : s.Ending)
    (hrun : Relation.ReflTransGen JoinedStep s t) :
    t.Sound ∧ t.Ending ∧ t.workers = s.workers ∧
      t.metrics.requestsTotal = s.metrics.requestsTotal := by
  induction hrun with
  | refl => exact ⟨hs, hending, rfl, rfl⟩
  | tail _ hstep ih =>
    obtain ⟨hsound, hending, hworkers, htotal⟩ := ih
    have hdone' := hworkers ▸ hdone
    exact ⟨hsound.step hstep.1, hending.step hsound hdone' hstep, hstep.2.trans hworkers,
      (hstep.requestsTotal hdone').trans htotal⟩

/-- When `server_close` has joined every request thread and the writer has returned, every counted
    response is written or counted as dropped, and every slot is free. -/
theorem closed_log_accounted (hs : LoggingReachable s) (hdone : ∀ p ∈ s.workers, p = .done)
    (hopen : s.closed = false) (hrun : Relation.ReflTransGen JoinedStep s t)
    (hlast : t.writer = .returned) :
    t.metrics.requestsTotal = t.written.length + t.metrics.accessLogDrops ∧
      t.metrics.requestsTotal = s.metrics.requestsTotal ∧ t.queue = [] ∧ t.freeSlots = 16 := by
  have hidle : s.Ending := .inl (hs.sound.lines (.inl hopen))
  obtain ⟨hsound, hending, hworkers, htotal⟩ := joined_run hs.sound hdone hidle hrun
  rw [LoggingServer.Ending, hlast] at hending
  obtain ⟨-, hearly, lines, hlines, hall⟩ := hending.resolve_left (by simp [WriterPoint.sentinel])
  -- the writer has taken the sentinel, which is the last item
  have hqueue : t.queue = [] := by
    cases lines with
    | nil => simpa [WriterPoint.sentinel] using hall
    | cons line lines =>
      have hline : none = line := by simp_all [WriterPoint.sentinel]
      exact absurd (hline ▸ List.mem_cons_self) hlines
  have hheld : t.closer.held = 0 := by
    cases hc : t.closer <;> simp [hc, CloserPoint.early, CloserPoint.held] at hearly ⊢
  have hnone (f : WorkerPoint → Bool) (hf : f .done = false) : t.workers.countP f = 0 := by
    rw [hworkers, List.countP_eq_zero]
    intro p hp
    simp [hdone p hp, hf]
  have haccounted := hsound.accounted
  have hslots := hsound.slots
  rw [LoggingServer.underway, hqueue, hnone _ rfl, hlast, hheld] at haccounted
  rw [hnone _ rfl] at hslots
  exact ⟨haccounted, htotal, hqueue, hslots⟩

end

theorem closed_log_accounted_raised : ∃ t, Relation.ReflTransGen JoinedStep answeredServer t ∧
    t.writer = .returned ∧ t.written.length = 1 ∧
    t.metrics.requestsTotal = t.written.length + t.metrics.accessLogDrops ∧ t.queue = [] := by
  have hstart : Relation.ReflTransGen JoinedStep answeredServer answeredServer := .refl
  have hclosing := hstart
    |>.tail ⟨.closer (.enter rfl), rfl⟩
    |>.tail ⟨.closer .set, rfl⟩
    |>.tail ⟨.closer (.offer (by decide)), rfl⟩
  have hrun := hclosing
    |>.tail ⟨.writer (.get rfl), rfl⟩
    |>.tail ⟨.writer .raise, rfl⟩
    |>.tail ⟨.writer .drop, rfl⟩
    |>.tail ⟨.writer (.taskDone (by decide)), rfl⟩
    |>.tail ⟨.writer (.get rfl), rfl⟩
    |>.tail ⟨.writer .sentinel, rfl⟩
    |>.tail ⟨.writer (.taskDone (by decide)), rfl⟩
  obtain ⟨htotal, -, hqueue, -⟩ :=
    closed_log_accounted answeredServer_reachable (by decide) rfl hrun rfl
  exact ⟨_, hrun, rfl, rfl, htotal, hqueue⟩

end C2Lab
