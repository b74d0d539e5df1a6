import C2Lab.Core.AuditTrail
import C2Lab.Core.Isolated
import C2Lab.Core.Reads
import C2Lab.Core.Sources
import C2Lab.Lib.Feed

/-! The two histories of the Teamserver are feeds.

    The event feed is cleared by a reset, which is then its first entry; the audit feed never is.
    Both go on numbering their entries. So a page of `sync` is the answer of a feed, and the
    oldest reset among the retained events tells a reader of the clearing for as long as it has to
    be told. -/

namespace C2Lab

variable {w : World} {s s' : LabState} {c : Activity} {j j' : Journal}

/-! ### The logs -/

/-- Where the last reset stands in a log of events. -/
def resetIndex (log : List Event) : ℕ :=
  log.zipIdx.foldl (fun k p => if p.1.kind = .labReset then p.2 else k) 0

theorem resetIndex_append (log : List Event) (e : Event) :
    resetIndex (log ++ [e]) = if e.kind = .labReset then log.length else resetIndex log := by
  rw [resetIndex, List.zipIdx_append, List.foldl_append]
  rw [Nat.zero_add]
  rfl

/-- Events other than resets do not move it. -/
theorem resetIndex_of_other {log new : List Event} (h : ∀ e ∈ new, e.kind ≠ .labReset) :
    resetIndex (log ++ new) = resetIndex log := by
  induction new using List.reverseRecOn with
  | nil => rw [List.append_nil]
  | append_singleton new e ih =>
    rw [← List.append_assoc, resetIndex_append, if_neg (h e (by simp))]
    exact ih fun e he => h e (List.mem_append_left _ he)

theorem resetIndex_le (log : List Event) : resetIndex log ≤ log.length := by
  induction log using List.reverseRecOn with
  | nil => exact le_rfl
  | append_singleton log e ih =>
    rw [resetIndex_append, List.length_append]
    split
    · exact Nat.le_add_right _ _
    · exact ih.trans (Nat.le_add_right _ _)

/-- No reset comes after the last one. -/
theorem kind_ne_of_resetIndex_lt {log : List Event} {i : ℕ} (hi : resetIndex log < i) {e : Event}
    (he : log[i]? = some e) : e.kind ≠ .labReset := by
  induction log using List.reverseRecOn with
  | nil => cases he
  | append_singleton log last ih =>
    rw [resetIndex_append] at hi
    by_cases hlt : i < log.length
    · rw [List.getElem?_append_left hlt] at he
      split at hi
      · omega
      · exact ih hi he
    · rw [List.getElem?_append_right (by omega), List.getElem?_singleton] at he
      split at he
      · cases he
        split at hi
        · omega
        · assumption
      · cases he

/-- A log that was cleared has its last reset there. -/
theorem kind_of_resetIndex {log : List Event} (h : 0 < resetIndex log) :
    ∃ e, log[resetIndex log]? = some e ∧ e.kind = .labReset := by
  induction log using List.reverseRecOn with
  | nil => cases h
  | append_singleton log last ih =>
    rw [resetIndex_append] at h ⊢
    split
    · rename_i hkind
      exact ⟨last, by simp, hkind⟩
    · rename_i hkind
      rw [if_neg hkind] at h
      obtain ⟨e, he, hreset⟩ := ih h
      refine ⟨e, ?_, hreset⟩
      rw [List.getElem?_append_left (List.getElem?_eq_some_iff.mp he).1]
      exact he

/-! ### The feeds -/

namespace LabState

/-- The event history: everything ever recorded, cleared by the last reset. -/
def eventHistory (s : LabState) : Feed Event := ⟨s.eventLog, resetIndex s.eventLog⟩

/-- The audit history, which nothing clears. -/
def auditHistory (s : LabState) : Feed AuditEntry := ⟨s.auditLog, 0⟩

/-- Both histories are numbered from one, and what is retained of them is what a feed retains. -/
structure Feeds (s : LabState) : Prop where
  eventNumbers : s.eventLog.map (·.sequence) = List.range' 1 s.eventLog.length
  auditNumbers : s.auditLog.map (·.sequence) = List.range' 1 s.auditLog.length
  eventCount : s.eventSequence = s.eventLog.length
  auditCount : s.auditSequence = s.auditLog.length
  events : s.events = s.eventHistory.retained maxEvents
  audit : s.auditEntries = s.auditHistory.retained maxAuditEntries

theorem eventHistory_cleared (s : LabState) : s.eventHistory.cleared ≤ s.eventHistory.log.length :=
  resetIndex_le _

theorem auditHistory_cleared (s : LabState) :
    s.auditHistory.cleared ≤ s.auditHistory.log.length := Nat.zero_le _

end LabState

/-- The event log grows by entries numbered on. -/
theorem Journal.Told.eventNumbers {l : List Notice} (h : j.Told w l j') :
    ∃ new, j'.eventLog = j.eventLog ++ new ∧
      new.map (·.sequence) = List.range' (j.eventSequence + 1) new.length ∧
      j'.eventSequence = j.eventSequence + new.length := by
  induction h with
  | refl => exact ⟨[], by simp⟩
  | tick _ ih | refuse _ ih | clear _ ih => exact ih
  | @record l j' _ d ih =>
    obtain ⟨new, hlog, hseq, hcount⟩ := ih
    have hsequence : (j'.recordLocked w d).eventSequence = j'.eventSequence + 1 := by
      unfold Journal.recordLocked; rfl
    have hevent : (j'.event w d).sequence = j'.eventSequence + 1 := rfl
    refine ⟨new ++ [j'.event w d], ?_, ?_, ?_⟩
    · rw [Journal.eventLog_recordLocked, hlog, List.append_assoc]
    · rw [List.map_append, hseq, List.length_append, List.length_singleton, List.range'_concat,
        List.map_singleton, hevent, hcount, Nat.one_mul, Nat.add_right_comm]
    · rw [hsequence, hcount, List.length_append, List.length_singleton, Nat.add_assoc]
  | audit _ d ih =>
    have hsequence (j' : Journal) : (j'.auditLocked w d).eventSequence = j'.eventSequence := by
      unfold Journal.auditLocked; rfl
    rw [Journal.eventLog_auditLocked, hsequence]
    exact ih

/-- A log that is numbered from one stays so. -/
theorem numbers_append {α : Type} {sequence : α → ℕ} {log new : List α}
    (h : log.map sequence = List.range' 1 log.length)
    (hnew : new.map sequence = List.range' (log.length + 1) new.length) :
    (log ++ new).map sequence = List.range' 1 (log ++ new).length := by
  rw [List.map_append, h, hnew, List.length_append, ← List.range'_append_1, Nat.add_comm 1]

/-- Every write but a reset goes on with both histories. -/
theorem Write.tracks (hs : Safe w s) (h : Write w s c s') (hr : c ≠ .reset) :
    Window.Track.Goes maxEvents (fun _ => True) s.toJournal.eventTrack s'.toJournal.eventTrack ∧
      Window.Track.Goes maxAuditEntries (fun _ => True) s.toJournal.auditTrack
        s'.toJournal.auditTrack := by
  by_cases hresult : c = .result
  · subst hresult
    cases h with
    | tick => exact ⟨.refl .., .refl ..⟩
    | failTask hc => rcases hc with hc | hc <;> cases hc
    | @acceptedResult n t status sent result hn ht hnode hd hv now =>
      have hgrow := (LabState.acceptedResult_grow (w := w) n t status result now s).tracks
      have hgenerate : s.toJournal.Grow w (fun _ => True)
          (s.tick.tick.generateEvent w t status).toJournal := by
        unfold LabState.generateEvent
        split
        · exact .record (.tick (.tick .refl)) trivial
        · exact .tick (.tick .refl)
      exact ⟨hgenerate.tracks.1.trans hgrow.1, hgenerate.tracks.2.trans hgrow.2⟩
  · exact (h.grow hs hresult hr).tracks

/-- A reset clears the events and records itself, once in each history. -/
theorem LabState.announceReset_tracks (actor : PyStr) (s : LabState) :
    ∃ e x, e.kind = .labReset ∧ (s.announceReset w actor).eventLog = s.eventLog ++ [e] ∧
      (s.announceReset w actor).events = [e] ∧
      (s.announceReset w actor).auditLog = s.auditLog ++ [x] ∧
      (s.announceReset w actor).auditEntries = Window.push maxAuditEntries s.auditEntries x := by
  let d : EventDraft :=
    { kind := .labReset, actor := actor, data := [("sessions_invalidated", .bool true)] }
  let a : AuditDraft :=
    { action := .labReset, actor := actor, outcome := "success"
      reason := some "sessions_invalidated" }
  have hjournal : (s.announceReset w actor).toJournal =
      (s.cleared.toJournal.recordLocked w d).auditLocked w a := rfl
  have hone : [s.cleared.toJournal.event w d].length ≤ maxEvents := by
    rw [List.length_singleton]
    decide
  refine ⟨s.cleared.toJournal.event w d, (s.cleared.toJournal.recordLocked w d).entry w a, rfl,
    ?_, ?_, ?_, ?_⟩ <;> rw [hjournal]
  · rw [Journal.eventLog_auditLocked, Journal.eventLog_recordLocked]
    rfl
  · rw [Journal.events_auditLocked, Journal.events_recordLocked]
    exact Window.lastN_of_length_le hone
  · rw [Journal.auditLog_auditLocked, Journal.auditLog_recordLocked]
    rfl
  · rw [Journal.auditEntries_auditLocked, Journal.auditEntries_recordLocked]
    rfl

/-- What a write does to the two feeds. -/
structure FeedStep (s s' : LabState) : Prop where
  events : s.events = s.eventHistory.retained maxEvents →
    s'.events = s'.eventHistory.retained maxEvents
  audit : s.auditEntries = s.auditHistory.retained maxAuditEntries →
    s'.auditEntries = s'.auditHistory.retained maxAuditEntries
  eventsGo : s.eventHistory.Goes s'.eventHistory
  auditGoes : s.auditHistory.Goes s'.auditHistory

theorem Write.feedStep (hs : Safe w s) (h : Write w s c s') : FeedStep s s' := by
  by_cases hr : c = .reset
  · subst hr
    cases h with
    | tick => exact ⟨id, id, .refl s.eventHistory_cleared, .refl s.auditHistory_cleared⟩
    | failTask hc => rcases hc with hc | hc <;> cases hc
    | announceReset actor =>
      obtain ⟨e, x, hkind, hlog, hevents, haudit, hentries⟩ :=
        s.announceReset_tracks (w := w) actor
      have hindex : resetIndex (s.announceReset w actor).eventLog = s.eventLog.length := by
        rw [hlog, resetIndex_append, if_pos hkind]
      refine ⟨fun _ => ?_, fun h => ?_,
        ⟨⟨_, hlog⟩, .inr hindex.ge, LabState.eventHistory_cleared _⟩,
        ⟨⟨_, haudit⟩, .inl rfl, Nat.zero_le _⟩⟩
      · rw [hevents, LabState.eventHistory, hindex, hlog, Feed.retained, List.drop_left]
        refine (Window.lastN_of_length_le ?_).symm
        rw [List.length_singleton]
        decide
      · have happend := Feed.retained_append maxAuditEntries (f := s.auditHistory)
          (Nat.zero_le _) [x]
        rw [← h, List.foldl_cons, List.foldl_nil] at happend
        refine hentries.trans (happend.symm.trans ?_)
        exact congrArg (fun log => (Feed.mk log 0).retained maxAuditEntries) haudit.symm
  · obtain ⟨⟨new, hlog, hevents, -⟩, newAudit, haudit, hentries, -⟩ := h.tracks hs hr
    obtain ⟨new', hlog', hsource⟩ := h.eventLog
    obtain rfl : new = new' := List.append_cancel_left (hlog.symm.trans hlog')
    have hindex : resetIndex s'.eventLog = resetIndex s.eventLog := by
      rw [hlog']
      refine resetIndex_of_other fun e he hkind => hr ?_
      exact (hsource e he .reset (by rw [hkind]; rfl)).symm
    refine ⟨fun h => ?_, fun h => ?_, ⟨⟨_, hlog⟩, .inl hindex, LabState.eventHistory_cleared _⟩,
      ⟨⟨_, haudit⟩, .inl rfl, Nat.zero_le _⟩⟩
    · rw [LabState.eventHistory, hindex, hlog']
      refine hevents.trans ?_
      have happend := Feed.retained_append maxEvents (f := s.eventHistory)
        s.eventHistory_cleared new
      rw [← h] at happend
      exact happend.symm
    · have happend := Feed.retained_append maxAuditEntries (f := s.auditHistory)
        (Nat.zero_le _) newAudit
      rw [← h] at happend
      refine hentries.trans (happend.symm.trans ?_)
      exact congrArg (fun log => (Feed.mk log 0).retained maxAuditEntries) haudit.symm

theorem feeds_kept (w : World) : Kept w (.reset :: Activity.lasting) LabState.Feeds := by
  refine ⟨fun {s s' c} _ hs hf hw h => ?_⟩
  obtain ⟨l, htold⟩ := hw.announces
  obtain ⟨new, hlog, hnumbers, hcount⟩ := htold.told.eventNumbers
  obtain ⟨newAudit, haudit, -, hauditNumbers, hauditCount⟩ := htold.told.auditLog
  have hstep := hw.feedStep hs
  refine ⟨?_, ?_, ?_, ?_, hstep.events h.events, hstep.audit h.audit⟩
  · rw [hlog]
    exact numbers_append h.eventNumbers (h.eventCount ▸ hnumbers)
  · rw [haudit]
    exact numbers_append h.auditNumbers (h.auditCount ▸ hauditNumbers)
  · rw [hlog, hcount, h.eventCount, List.length_append]
  · rw [haudit, hauditCount, h.auditCount, List.length_append]

theorem Reachable.feeds (hr : Reachable w s) : s.Feeds :=
  (feeds_kept w).reachable (fun _ => ⟨rfl, rfl, rfl, rfl,
    by simp [LabState.init, LabState.eventHistory, Feed.retained, Window.lastN],
    by simp [LabState.init, LabState.auditHistory, Feed.retained, Window.lastN]⟩) hr

/-- The stream of a state is that of its process, and its feeds went on from those of `s`. -/
structure LabState.Continues (s s' : LabState) : Prop where
  stream : s'.streamId = s.streamId
  events : s.eventHistory.Goes s'.eventHistory
  audit : s.auditHistory.Goes s'.auditHistory

theorem RecordChange.streamId_eq {hi : ℕ} {r : Records} (h : RecordChange w s hi c r) :
    r.streamId = s.streamId := by
  cases h <;> rfl

theorem continues_kept (w : World) (s₀ : LabState) :
    Kept w (.reset :: Activity.lasting) s₀.Continues := by
  refine ⟨fun {s s' c} _ hs hf hw h => ?_⟩
  have hstep := hw.feedStep hs
  exact ⟨(hw.records hs).streamId_eq.trans h.stream, h.events.trans hstep.eventsGo,
    h.audit.trans hstep.auditGoes⟩

theorem Later.continues (hl : Later w s s') (hr : Reachable w s) : s.Continues s' :=
  (continues_kept w s).later hl hr.sound
    ⟨rfl, .refl s.eventHistory_cleared, .refl s.auditHistory_cleared⟩

/-! ### Pages -/

/-- A part of a numbered log after a number. -/
theorem filter_numbered {α : Type} {sequence : α → ℕ} (after : ℕ) {l : List α} {first : ℕ}
    (h : l.map sequence = List.range' (first + 1) l.length) :
    l.filter (fun e => (after : ℤ) < (sequence e : ℤ)) = l.drop (after - first) := by
  induction l generalizing first with
  | nil => simp
  | cons e l ih =>
    rw [List.map_cons, List.length_cons, List.range'_succ, List.cons.injEq] at h
    obtain ⟨he, htail⟩ := h
    have hrest := ih htail
    by_cases hlt : after < first + 1
    · rw [List.filter_cons_of_pos (by rw [he]; exact decide_eq_true (by omega)), hrest]
      rw [show after - (first + 1) = 0 by omega, show after - first = 0 by omega]
      rfl
    · rw [List.filter_cons_of_neg (by rw [he]; simpa using by omega), hrest,
        show after - first = after - (first + 1) + 1 by omega, List.drop_succ_cons]

/-- One history of a page, as an answer of a feed. -/
def HistoryDelta.toPage {α : Type} (d : HistoryDelta α) : Page α :=
  { entries := d.entries, next := d.nextCursor, reset := d.reset, more := d.hasMore }

section
variable {α : Type} {sequence : α → ℕ} {cap : ℕ} {f : Feed α}

/-- What `history_delta` finds of a feed: its first number, whether to start over, and what it has
    to choose from. -/
theorem historyDelta_eq (cap : ℕ) (hnumbers : f.log.map sequence = List.range' 1 f.log.length)
    (hf : f.cleared ≤ f.log.length) (limit : ℕ) (after : ℕ) (floor : Option ℕ) :
    historyDelta sequence limit (f.retained cap) after f.log.length floor =
      let reset : Bool := (f.log.length : ℤ) < after ||
        (after : ℤ) < ((f.dropped cap + 1 : ℕ) : ℤ) - 1 ||
        floor.any fun (k : ℕ) => (after : ℤ) < (k : ℤ)
      let candidates := if reset then f.retained cap else f.log.drop (max after (f.dropped cap))
      let selected := candidates.take limit
      { entries := selected
        nextCursor := match selected.getLast? with
          | none => f.log.length
          | some last => sequence last
        oldest := f.dropped cap + 1
        reset := reset
        hasMore := selected.length < candidates.length } := by
  have hd := Feed.dropped_le_length cap hf
  have hretained := f.retained_eq cap
  have hdrop : (f.retained cap).map sequence =
      List.range' (f.dropped cap + 1) (f.retained cap).length := by
    rw [hretained, List.map_drop, hnumbers, List.drop_range', List.length_drop, Nat.add_comm 1]
    simp
  have hfilter := filter_numbered after hdrop
  have hcandidates : (f.retained cap).drop (after - f.dropped cap) =
      f.log.drop (max after (f.dropped cap)) := by
    rw [hretained, List.drop_drop]
    congr 1
    omega
  have hlen := f.retained_length cap
  unfold historyDelta
  rw [hfilter, hcandidates]
  cases hcase : f.retained cap with
  | nil =>
    rw [hcase, List.length_nil] at hlen
    have hlast : f.dropped cap = f.log.length := by omega
    rw [hlast]
    cases floor <;> rfl
  | cons first rest =>
    rw [hcase, List.map_cons, List.length_cons, List.range'_succ] at hdrop
    rw [← (List.cons.inj hdrop).1]
    cases floor <;> rfl

/-- The number of the last entry of a part of a numbered log. -/
theorem nextCursor_eq {l : List α} {first other : ℕ}
    (h : l.map sequence = List.range' (first + 1) l.length) (hother : l = [] → other = first) :
    (match l.getLast? with
      | none => other
      | some last => sequence last) = first + l.length := by
  rcases l.eq_nil_or_concat' with rfl | ⟨init, last, rfl⟩
  · exact hother rfl
  · rw [List.map_append, List.length_append, List.length_singleton, List.range'_concat] at h
    have hlast := List.append_inj_right' h rfl
    rw [List.getLast?_concat, List.length_append, List.length_singleton]
    simp only [List.map_singleton, List.cons.injEq, and_true] at hlast
    simp only
    omega

/-- A history of a page is the answer of its feed, when the number of the oldest reset tells of the
    clearing until something after it is gone too. -/
theorem historyDelta_answers (cap : ℕ) (hnumbers : f.log.map sequence = List.range' 1 f.log.length)
    (hf : f.cleared ≤ f.log.length) (floor : Option ℕ)
    (hfloor : ∀ k, floor = some k → k = f.cleared + 1 ∧ f.dropped cap = f.cleared)
    (hnone : floor = none → f.cleared = 0 ∨ f.cleared < f.dropped cap) {limit : ℕ}
    (hlimit : 0 < limit) (after : ℕ) :
    f.Answers cap limit after
      (historyDelta sequence limit (f.retained cap) after f.log.length floor).toPage := by
  have hd := Feed.dropped_le_length cap hf
  have hnumbered : ∀ k, ((f.log.drop k).take limit).map sequence =
      List.range' (k + 1) ((f.log.drop k).take limit).length := by
    intro k
    rw [List.map_take, List.map_drop, hnumbers, List.drop_range', List.length_take,
      List.length_drop, Nat.mul_one, Nat.add_comm 1]
    rcases Nat.le_total limit (f.log.length - k) with hle | hle
    · rw [List.take_range'_of_length_ge hle, Nat.min_eq_left hle]
    · rw [List.take_range'_of_length_le hle, Nat.min_eq_right hle]
  have hmore : ∀ l : List α, decide ((l.take limit).length < l.length) =
      decide (limit < l.length) := by
    intro l
    rw [List.length_take]
    congr 1
    simp
  have hempty : ∀ k, k ≤ f.log.length → (f.log.drop k).take limit = [] → f.log.length = k := by
    intro k hk hnil
    rcases List.take_eq_nil_iff.mp hnil with hzero | hnil
    · omega
    · have := List.drop_eq_nil_iff.mp hnil
      omega
  rw [historyDelta_eq cap hnumbers hf]
  simp only [HistoryDelta.toPage]
  cases hreset : (decide ((f.log.length : ℤ) < after) ||
      decide ((after : ℤ) < ((f.dropped cap + 1 : ℕ) : ℤ) - 1) ||
      floor.any fun (k : ℕ) => decide ((after : ℤ) < (k : ℤ))) with
  | true =>
    have hbehind : after ≤ f.dropped cap ∨ f.log.length < after := by
      cases floor with
      | none =>
        simp only [Option.any_none, Bool.or_false, Bool.or_eq_true, decide_eq_true_eq] at hreset
        omega
      | some k =>
        obtain ⟨rfl, hdropped⟩ := hfloor k rfl
        simp only [Option.any_some, Bool.or_eq_true, decide_eq_true_eq] at hreset
        omega
    have hnext := nextCursor_eq (hnumbered (f.dropped cap)) (hempty _ hd)
    have hfirst : f.Answers cap limit after _ := .first hbehind
    rw [f.retained_eq cap, ← hnext] at hfirst
    simp only [if_true, hmore, f.retained_eq cap]
    exact hfirst
  | false =>
    have hahead : f.dropped cap ≤ after ∧ after ≤ f.log.length ∧
        (after ≤ f.cleared → f.cleared = 0) := by
      cases floor with
      | none =>
        simp only [Option.any_none, Bool.or_false, Bool.or_eq_false_iff,
          decide_eq_false_iff_not] at hreset
        have := hnone rfl
        omega
      | some k =>
        obtain ⟨rfl, hdropped⟩ := hfloor k rfl
        simp only [Option.any_some, Bool.or_eq_false_iff, decide_eq_false_iff_not] at hreset
        omega
    obtain ⟨hdropped, hle, hcleared⟩ := hahead
    have hnext := nextCursor_eq (hnumbered after) (hempty _ hle)
    have hanswer : f.Answers cap limit after _ := .next hdropped hle hcleared
    rw [← hnext] at hanswer
    simp only [Bool.false_eq_true, if_false, hmore, Nat.max_eq_left hdropped]
    exact hanswer

end

/-- A number of a log. -/
theorem sequence_of_getElem {α : Type} {sequence : α → ℕ} {log : List α}
    (h : log.map sequence = List.range' 1 log.length) {i : ℕ} {e : α} (he : log[i]? = some e) :
    sequence e = i + 1 := by
  have hmap := congrArg (·[i]?) h
  obtain ⟨hlt, -⟩ := List.getElem?_eq_some_iff.mp he
  simp only [List.getElem?_map, he, Option.map_some, List.getElem?_range' hlt, Nat.one_mul,
    Option.some.injEq] at hmap
  omega

/-- The oldest reset that is retained is the last one, and the first entry that is retained. -/
theorem resetFloor_some (h : s.Feeds) {k : ℕ} (hk : s.resetFloor = some k) :
    k = s.eventHistory.cleared + 1 ∧
      s.eventHistory.dropped maxEvents = s.eventHistory.cleared := by
  obtain ⟨e, hfind, rfl⟩ := Option.map_eq_some_iff.mp hk
  have hfound := List.find?_some hfind
  have hkind : e.kind = .labReset := of_decide_eq_true hfound
  have hmem := List.mem_of_find?_eq_some hfind
  rw [h.events, Feed.retained_eq] at hmem
  obtain ⟨i, hi⟩ := List.mem_iff_getElem?.mp hmem
  rw [List.getElem?_drop] at hi
  have hlast : s.eventHistory.dropped maxEvents + i ≤ s.eventHistory.cleared := by
    by_contra hlt
    exact kind_ne_of_resetIndex_lt (Nat.lt_of_not_le hlt) hi hkind
  have hle : s.eventHistory.cleared ≤ s.eventHistory.dropped maxEvents := Nat.le_max_left _ _
  have hsequence : e.sequence = s.eventHistory.dropped maxEvents + i + 1 :=
    sequence_of_getElem h.eventNumbers hi
  omega

/-- When no reset is retained, there was none, or what followed it is gone too. -/
theorem resetFloor_none (h : s.Feeds) (hnone : s.resetFloor = none) :
    s.eventHistory.cleared = 0 ∨
      s.eventHistory.cleared < s.eventHistory.dropped maxEvents := by
  by_contra hnot
  rw [not_or, Nat.not_lt] at hnot
  have hle : s.eventHistory.cleared ≤ s.eventHistory.dropped maxEvents := Nat.le_max_left _ _
  have hdropped : s.eventHistory.dropped maxEvents = s.eventHistory.cleared :=
    Nat.le_antisymm hnot.2 hle
  obtain ⟨e, he, hkind⟩ := kind_of_resetIndex (Nat.pos_of_ne_zero hnot.1)
  have hmem : e ∈ s.events := by
    rw [h.events, Feed.retained_eq, hdropped]
    refine List.mem_iff_getElem?.mpr ⟨0, ?_⟩
    rw [List.getElem?_drop]
    exact he
  have hfind := List.find?_eq_none.mp (Option.map_eq_none_iff.mp hnone) e hmem
  exact hfind (decide_eq_true hkind)

theorem validateSyncCursor_int {n : ℤ} {field : String} {v : ℤ}
    (h : validateSyncCursor (.int n) field = .ok v) : v = n := by
  simp only [validateSyncCursor] at h
  split at h
  · exact (Except.ok.inj h).symm
  · cases h

theorem validateSyncLimit_int {n v : ℤ} (h : validateSyncLimit (.int n) = .ok v) :
    v = n ∧ 1 ≤ n := by
  simp only [validateSyncLimit] at h
  split at h
  · rename_i hrange
    exact ⟨(Except.ok.inj h).symm, hrange.1⟩
  · cases h

/-- What a page of `sync` says of the histories. -/
theorem sync_deltas {generatedAt : Timestamp} {events audit limit : ℕ} {page : SyncPage}
    (h : s.sync generatedAt (.int events) (.int audit) (.int limit) = .ok page) :
    0 < limit ∧ page.streamId = s.streamId ∧
      page.events =
        historyDelta Event.sequence limit s.events events s.eventSequence s.resetFloor ∧
      page.audit =
        historyDelta AuditEntry.sequence limit s.auditEntries audit s.auditSequence none ∧
      page.highWatermarks = (s.eventSequence, s.auditSequence) := by
  unfold LabState.sync at h
  cases hevents : validateSyncCursor (.int events) "events_after" with
  | error e => rw [hevents] at h; cases h
  | ok after =>
    cases haudit : validateSyncCursor (.int audit) "audit_after" with
    | error e => rw [hevents, haudit] at h; cases h
    | ok auditAfter =>
      cases hlimit : validateSyncLimit (.int limit) with
      | error e => rw [hevents, haudit, hlimit] at h; cases h
      | ok n =>
        rw [hevents, haudit, hlimit] at h
        obtain rfl := validateSyncCursor_int hevents
        obtain rfl := validateSyncCursor_int haudit
        obtain ⟨rfl, hpos⟩ := validateSyncLimit_int hlimit
        cases h
        exact ⟨by omega, rfl, rfl, rfl, rfl⟩

/-- A page of `sync` holds an answer of each of the two feeds. -/
theorem sync_answers (hr : Reachable w s) {generatedAt : Timestamp} {events audit limit : ℕ}
    {page : SyncPage}
    (h : s.sync generatedAt (.int events) (.int audit) (.int limit) = .ok page) :
    s.eventHistory.Answers maxEvents limit events page.events.toPage ∧
      s.auditHistory.Answers maxAuditEntries limit audit page.audit.toPage := by
  have hfeeds := hr.feeds
  obtain ⟨hlimit, -, hevents, haudit, -⟩ := sync_deltas h
  refine ⟨?_, ?_⟩
  · have hanswer := historyDelta_answers (f := s.eventHistory) maxEvents
      hfeeds.eventNumbers s.eventHistory_cleared s.resetFloor
      (fun k hk => resetFloor_some hfeeds hk) (fun hnone => resetFloor_none hfeeds hnone) hlimit
      events
    rw [← hfeeds.events] at hanswer
    rw [hevents, hfeeds.eventCount]
    exact hanswer
  · have hanswer := historyDelta_answers (f := s.auditHistory) maxAuditEntries
      hfeeds.auditNumbers s.auditHistory_cleared none (fun k hk => by cases hk)
      (fun _ => .inl rfl) hlimit audit
    rw [← hfeeds.audit] at hanswer
    rw [haudit, hfeeds.auditCount]
    exact hanswer

/-- The first number that is there, as a page tells it. -/
theorem sync_oldest (hr : Reachable w s) {generatedAt : Timestamp} {events audit limit : ℕ}
    {page : SyncPage}
    (h : s.sync generatedAt (.int events) (.int audit) (.int limit) = .ok page) :
    page.events.oldest = s.eventHistory.dropped maxEvents + 1 ∧
      page.audit.oldest = s.auditHistory.dropped maxAuditEntries + 1 := by
  have hfeeds := hr.feeds
  obtain ⟨-, -, hevents, haudit, -⟩ := sync_deltas h
  refine ⟨?_, ?_⟩
  · have hdelta := historyDelta_eq (f := s.eventHistory) maxEvents hfeeds.eventNumbers
      s.eventHistory_cleared limit events s.resetFloor
    rw [← hfeeds.events] at hdelta
    rw [hevents, hfeeds.eventCount]
    exact congrArg HistoryDelta.oldest hdelta
  · have hdelta := historyDelta_eq (f := s.auditHistory) maxAuditEntries
      hfeeds.auditNumbers s.auditHistory_cleared limit audit none
    rw [← hfeeds.audit] at hdelta
    rw [haudit, hfeeds.auditCount]
    exact congrArg HistoryDelta.oldest hdelta

end C2Lab
