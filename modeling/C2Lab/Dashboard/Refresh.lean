import Mathlib.Data.List.Pairwise
import C2Lab.Core.Histories
import C2Lab.Server.SyncQuery

/-! `refresh`: how the dashboard keeps up with the histories of the Teamserver.

    A round takes up to ten pages and is committed at its end. Between two pages anything may
    happen: operations, a reset, a new process with a stream of its own, a lost connection, a new
    token. What the dashboard holds of the current stream still follows the two feeds, so that a
    round whose last page leaves nothing more ends with exactly the histories of the server at
    that page. -/

namespace C2Lab

/-! ### Merging -/

section
variable {α : Type} (sequence : α → ℕ)

/-- `bySequence.set(record.sequence, record)`: an entry with the key is replaced where it stands. -/
def setRecord (records : List α) (record : α) : List α :=
  if records.any fun r => sequence r = sequence record then
    records.map fun r => if sequence r = sequence record then record else r
  else records ++ [record]

/-- `MAX_HISTORY_RECORDS`. -/
def maxHistoryRecords : ℕ := 500

/-- `mergeHistoryRecords`. -/
def mergeHistoryRecords (existing incoming : List α) (reset : Bool) : List α :=
  let bySequence := (if reset then [] else existing).foldl (setRecord sequence) []
  let bySequence := incoming.foldl (setRecord sequence) bySequence
  Window.lastN maxHistoryRecords
    (bySequence.mergeSort fun left right => sequence left ≤ sequence right)

/-- Records that go up are appended one by one. -/
theorem foldl_setRecord {records l : List α}
    (h : (records ++ l).Pairwise fun a b => sequence a < sequence b) :
    l.foldl (setRecord sequence) records = records ++ l := by
  induction l generalizing records with
  | nil => simp
  | cons record l ih =>
    have hnew : ¬(records.any fun r => sequence r = sequence record) = true := by
      intro hany
      obtain ⟨r, hr, heq⟩ := List.any_eq_true.mp hany
      have hlt := (List.pairwise_append.mp h).2.2 r hr record List.mem_cons_self
      have := of_decide_eq_true heq
      omega
    rw [List.append_cons] at h
    rw [List.foldl_cons, setRecord, if_neg hnew, ih h, ← List.append_cons]

/-- Merging what goes up is appending it, of which the last records are kept. -/
theorem mergeHistoryRecords_eq {existing incoming : List α} {reset : Bool}
    (h : ((if reset then [] else existing) ++ incoming).Pairwise
      fun a b => sequence a < sequence b) :
    mergeHistoryRecords sequence existing incoming reset =
      Window.lastN maxHistoryRecords ((if reset then [] else existing) ++ incoming) := by
  have hexisting : (if reset then [] else existing).foldl (setRecord sequence) [] =
      if reset then [] else existing := by
    refine foldl_setRecord sequence ?_
    rw [List.nil_append]
    exact (List.pairwise_append.mp h).1
  simp only [mergeHistoryRecords]
  rw [hexisting, foldl_setRecord sequence h, List.mergeSort_of_pairwise]
  exact h.imp fun hlt => decide_eq_true hlt.le

end

/-! ### Pages -/

/-- `Number.MAX_SAFE_INTEGER`. -/
def maxSafeInteger : ℕ := 0x1FFFFFFFFFFFFF

/-- `/^stream-[0-9a-f]{24}$/`. -/
def isStreamId (streamId : String) : Bool :=
  let cs := streamId.toList
  cs.take 7 = "stream-".toList ∧ (cs.drop 7).length = 24 ∧
    (cs.drop 7).all fun c => c ∈ "0123456789abcdef".toList

/-- The loop over the records of a history: their numbers are safe, positive and go up. -/
def ascending {α : Type} (sequence : α → ℕ) : ℕ → List α → Bool
  | _, [] => true
  | previousSequence, record :: records =>
    decide (sequence record ≤ maxSafeInteger) && decide (1 ≤ sequence record) &&
      decide (previousSequence < sequence record) && ascending sequence (sequence record) records

/-- The counters of one history of a page. -/
def safeCounters {α : Type} (d : HistoryDelta α) (highWatermark : ℕ) : Bool :=
  d.nextCursor ≤ maxSafeInteger ∧ highWatermark ≤ maxSafeInteger ∧ d.oldest ≤ maxSafeInteger

/-- `validateSyncPage`; what the types of a page say need not be checked. -/
def validateSyncPage (page : SyncPage) : Bool :=
  isStreamId page.streamId && safeCounters page.events page.highWatermarks.1 &&
    safeCounters page.audit page.highWatermarks.2 &&
    ascending Event.sequence 0 page.events.entries &&
    ascending AuditEntry.sequence 0 page.audit.entries

/-- What the dashboard remembers of a stream: `syncStreamId`, `syncCursors`, `retainedHistory`. -/
structure SyncState where
  streamId : String
  events : Copy Event
  audit : Copy AuditEntry

/-- `resetSyncState`. -/
def SyncState.fresh : SyncState := ⟨"", ⟨0, []⟩, ⟨0, []⟩⟩

/-- One history after a page. -/
def mergeDelta {α : Type} (sequence : α → ℕ) (x : Copy α) (d : HistoryDelta α) : Copy α :=
  { cursor := d.nextCursor
    history := mergeHistoryRecords sequence x.history d.entries d.reset }

/-- Both histories and their cursors after a page. -/
def mergePage (next : SyncState) (page : SyncPage) : SyncState :=
  { streamId := page.streamId
    events := mergeDelta Event.sequence next.events page.events
    audit := mergeDelta AuditEntry.sequence next.audit page.audit }

/-- What a page does to the round that asked for it. -/
inductive PageRead where
  | rejected
  | restarted (next : SyncState)
  | merged (next : SyncState) (more : Bool)

/-- The body of the loop of `refresh` after `api`. -/
def readPage (next : SyncState) (page : SyncPage) : PageRead :=
  if validateSyncPage page = false then .rejected
  else if next.streamId ≠ "" ∧ page.streamId ≠ next.streamId then
    .restarted { SyncState.fresh with streamId := page.streamId }
  else
    let merged := mergePage next page
    if page.events.hasMore ∧ merged.events.cursor = next.events.cursor ∨
        page.audit.hasMore ∧ merged.audit.cursor = next.audit.cursor then
      .rejected
    else .merged merged (page.events.hasMore || page.audit.hasMore)

/-- `SYNC_PAGE_SIZE`. -/
def syncPageSize : ℕ := 100

/-- `MAX_SYNC_PAGES`. -/
def maxSyncPages : ℕ := 10

/-- The answer to `syncPath`. -/
def requestPage (generatedAt : Timestamp) (s : LabState) (next : SyncState) : Except Exc SyncPage :=
  s.sync generatedAt (.int next.events.cursor) (.int next.audit.cursor) (.int syncPageSize)

/-! ### A page that is merged -/

section
variable {α : Type} {sequence : α → ℕ} {log l : List α}

/-- Entries of a numbered log go up. -/
theorem pairwise_of_sublist (h : log.map sequence = List.range' 1 log.length)
    (hl : l.Sublist log) : l.Pairwise fun a b => sequence a < sequence b := by
  have hall : (log.map sequence).Pairwise (· < ·) := h ▸ List.pairwise_lt_range'
  exact (List.pairwise_map.mp hall).sublist hl

theorem sequence_bounds (h : log.map sequence = List.range' 1 log.length) {e : α} (he : e ∈ log) :
    1 ≤ sequence e ∧ sequence e ≤ log.length := by
  have hmem := List.mem_map_of_mem (f := sequence) he
  rw [h, List.mem_range'_1] at hmem
  omega

theorem ascending_of_pairwise {previous : ℕ} (h : l.Pairwise fun a b => sequence a < sequence b)
    (hall : ∀ e ∈ l, previous < sequence e ∧ sequence e ≤ maxSafeInteger) :
    ascending sequence previous l = true := by
  induction l generalizing previous with
  | nil => rfl
  | cons e l ih =>
    obtain ⟨hlt, hsafe⟩ := hall e List.mem_cons_self
    obtain ⟨hfirst, hrest⟩ := List.pairwise_cons.mp h
    have htail := ih hrest fun x hx => ⟨hfirst x hx, (hall x (List.mem_cons_of_mem _ hx)).2⟩
    have hpos : 1 ≤ sequence e := by omega
    simp only [ascending, decide_eq_true hsafe, decide_eq_true hpos, decide_eq_true hlt, htail,
      Bool.and_self]

/-- What the dashboard makes of an answer of a feed that it follows. -/
theorem mergeDelta_eq {f : Feed α} {x : Copy α} {d : HistoryDelta α} {limit : ℕ}
    (hnumbers : f.log.map sequence = List.range' 1 f.log.length)
    (hx : f.Follows maxHistoryRecords x)
    (hd : f.Answers maxHistoryRecords limit x.cursor d.toPage) :
    mergeDelta sequence x d = Feed.merge maxHistoryRecords x d.toPage := by
  have hup := pairwise_of_sublist hnumbers (hx.sublist hd)
  exact congrArg (Copy.mk d.nextCursor) (mergeHistoryRecords_eq sequence hup)

/-- A page of a feed passes the checks, as long as its numbers are safe. -/
theorem answer_valid {f : Feed α} {d : HistoryDelta α} {limit after : ℕ}
    (hnumbers : f.log.map sequence = List.range' 1 f.log.length)
    (hd : f.Answers maxHistoryRecords limit after d.toPage)
    (hcleared : f.cleared ≤ f.log.length) (hsafe : f.log.length < maxSafeInteger)
    (holdest : d.oldest = f.dropped maxHistoryRecords + 1) :
    safeCounters d f.log.length = true ∧ ascending sequence 0 d.entries = true := by
  have hnext : d.nextCursor ≤ f.log.length := hd.next_le hcleared
  have hdropped := Feed.dropped_le_length maxHistoryRecords hcleared
  have hentries : d.entries.Sublist f.log := hd.entries_sublist
  refine ⟨decide_eq_true ⟨?_, ?_, ?_⟩,
    ascending_of_pairwise (pairwise_of_sublist hnumbers hentries) fun e he => ?_⟩
  · omega
  · omega
  · omega
  · have := sequence_bounds hnumbers (hentries.subset he)
    omega

end

/-! ### What a round holds -/

variable {w : World} {s s' : LabState} {x next : SyncState} {streams : List String}
  {page : SyncPage} {generatedAt : Timestamp}

/-- What the dashboard remembers of a stream, among those of all processes so far: of the current
    one it follows both feeds, and shows a stretch of each. -/
structure SyncState.Tracks (streams : List String) (s : LabState) (x : SyncState) : Prop where
  known : x = .fresh ∨ x.streamId ∈ streams
  events : x.streamId = s.streamId → s.eventHistory.Follows maxEvents x.events
  audit : x.streamId = s.streamId → s.auditHistory.Follows maxAuditEntries x.audit
  shown : x.streamId = s.streamId →
    x.events.history <:+: s.eventLog ∧ x.audit.history <:+: s.auditLog
  safe : x.events.cursor ≤ maxSafeInteger ∧ x.audit.cursor ≤ maxSafeInteger

/-- A stream of which nothing was read yet. -/
theorem tracks_fresh {streamId : String} (h : streamId = "" ∨ streamId ∈ streams) :
    ({ SyncState.fresh with streamId := streamId } : SyncState).Tracks streams s := by
  refine ⟨?_, fun _ => Feed.follows_empty _ _, fun _ => Feed.follows_empty _ _,
    fun _ => ⟨List.nil_infix, List.nil_infix⟩, ⟨Nat.zero_le _, Nat.zero_le _⟩⟩
  rcases h with rfl | h
  · exact .inl rfl
  · exact .inr h

/-- Whatever the server does, what was tracked is tracked still. -/
theorem SyncState.Tracks.continues (h : x.Tracks streams s) (hs : s.Continues s') :
    x.Tracks streams s' := by
  refine ⟨h.known, fun hx => ?_, fun hx => ?_, fun hx => ?_, h.safe⟩
  · exact (h.events (hx.trans hs.stream)).goes s.eventHistory_cleared hs.events
  · exact (h.audit (hx.trans hs.stream)).goes s.auditHistory_cleared hs.audit
  · obtain ⟨hevents, haudit⟩ := h.shown (hx.trans hs.stream)
    obtain ⟨new, hlog⟩ := hs.events.log
    obtain ⟨newAudit, hauditLog⟩ := hs.audit.log
    exact ⟨hevents.trans (List.IsPrefix.isInfix ⟨new, hlog.symm⟩),
      haudit.trans (List.IsPrefix.isInfix ⟨newAudit, hauditLog.symm⟩)⟩

/-- A new process has a stream of its own. -/
theorem SyncState.Tracks.restarted (h : x.Tracks streams s) (hnew : s'.streamId ∉ streams)
    (hne : s'.streamId ≠ "") : x.Tracks (s'.streamId :: streams) s' := by
  have hother : x.streamId ≠ s'.streamId := by
    rintro heq
    rcases h.known with rfl | hmem
    · exact hne heq.symm
    · exact hnew (heq ▸ hmem)
  exact ⟨h.known.imp id (List.mem_cons_of_mem _), fun hx => absurd hx hother,
    fun hx => absurd hx hother, fun hx => absurd hx hother, h.safe⟩

/-- How many entries of the longer history a round still has to get. -/
def SyncState.ahead (s : LabState) (x : SyncState) : ℕ :=
  max (s.eventHistory.ahead maxEvents x.events.cursor)
    (s.auditHistory.ahead maxAuditEntries x.audit.cursor)

theorem SyncState.ahead_le (s : LabState) (x : SyncState) : x.ahead s ≤ maxHistoryRecords :=
  max_le (Feed.ahead_le ..) (Feed.ahead_le ..)

/-- A round after a page of the current stream: a stretch of each feed, closer by the size of the
    page, and all that is retained when nothing more is left. -/
structure MergedPage (s : LabState) (x next : SyncState) (more : Bool) : Prop where
  stream : next.streamId = s.streamId
  events : s.eventHistory.Holds maxEvents next.events
  audit : s.auditHistory.Holds maxAuditEntries next.audit
  complete : more = false →
    next.events.history = s.events ∧ next.audit.history = s.auditEntries
  more_eq : more = decide (syncPageSize < x.ahead s)
  ahead_eq : next.ahead s = x.ahead s - syncPageSize

theorem MergedPage.tracks {more : Bool} (h : MergedPage s x next more)
    (hstream : s.streamId ∈ streams)
    (hsafe : next.events.cursor ≤ maxSafeInteger ∧ next.audit.cursor ≤ maxSafeInteger) :
    next.Tracks streams s :=
  ⟨.inr (h.stream ▸ hstream), fun _ => h.events.follows, fun _ => h.audit.follows,
    fun _ => ⟨h.events.stretch, h.audit.stretch⟩, hsafe⟩

/-- A page that passes the checks has safe cursors. -/
theorem cursors_safe (x : SyncState) (h : validateSyncPage page = true) :
    (mergePage x page).events.cursor ≤ maxSafeInteger ∧
      (mergePage x page).audit.cursor ≤ maxSafeInteger := by
  simp only [validateSyncPage, safeCounters, Bool.and_eq_true, decide_eq_true_eq] at h
  obtain ⟨⟨⟨⟨-, hevents, -⟩, haudit, -⟩, -⟩, -⟩ := h
  exact ⟨hevents, haudit⟩

theorem isStreamId_ne (h : isStreamId s.streamId = true) : s.streamId ≠ "" := by
  intro he
  rw [he] at h
  exact absurd h (by decide)

/-- A round that has no stream yet has read nothing. -/
theorem SyncState.Tracks.follows (h : x.Tracks streams s)
    (hids : ∀ id ∈ streams, isStreamId id = true)
    (hstream : x.streamId = "" ∨ x.streamId = s.streamId) :
    s.eventHistory.Follows maxEvents x.events ∧
      s.auditHistory.Follows maxAuditEntries x.audit := by
  rcases hstream with hempty | hsame
  · rcases h.known with rfl | hmem
    · exact ⟨Feed.follows_empty _ _, Feed.follows_empty _ _⟩
    · exact absurd (hempty ▸ hids _ hmem) (by decide)
  · exact ⟨h.events hsame, h.audit hsame⟩

/-- A page of the current stream is merged, and the cursors go on. -/
theorem readPage_merged (hr : Reachable w s) (h : x.Tracks streams s)
    (hids : ∀ id ∈ streams, isStreamId id = true)
    (hstream : x.streamId = "" ∨ x.streamId = s.streamId)
    (hpage : requestPage generatedAt s x = .ok page) (hvalid : validateSyncPage page = true) :
    readPage x page =
        .merged (mergePage x page) (page.events.hasMore || page.audit.hasMore) ∧
      MergedPage s x (mergePage x page) (page.events.hasMore || page.audit.hasMore) := by
  have hfeeds := hr.feeds
  obtain ⟨hevents, haudit⟩ := h.follows hids hstream
  obtain ⟨-, hid, -⟩ := sync_deltas hpage
  obtain ⟨heventPage, hauditPage⟩ := sync_answers hr hpage
  have hc := s.eventHistory_cleared
  have hc' := s.auditHistory_cleared
  have hmerge : (mergePage x page).events =
      Feed.merge maxEvents x.events page.events.toPage :=
    mergeDelta_eq hfeeds.eventNumbers hevents heventPage
  have hmerge' : (mergePage x page).audit =
      Feed.merge maxAuditEntries x.audit page.audit.toPage :=
    mergeDelta_eq hfeeds.auditNumbers haudit hauditPage
  have hsize : 0 < syncPageSize := by decide
  have hmore := heventPage.more_eq hevents.cursor_le
  have hmore' := hauditPage.more_eq haudit.cursor_le
  have hgoes : ¬(page.events.hasMore ∧ (mergePage x page).events.cursor = x.events.cursor ∨
      page.audit.hasMore ∧ (mergePage x page).audit.cursor = x.audit.cursor) := by
    rintro (⟨hm, hsame⟩ | ⟨hm, hsame⟩)
    · exact absurd hsame (heventPage.lt_next hevents.cursor_le hsize hm).ne'
    · exact absurd hsame (hauditPage.lt_next haudit.cursor_le hsize hm).ne'
  have hcurrent : ¬(x.streamId ≠ "" ∧ page.streamId ≠ x.streamId) := by
    rintro ⟨hne, hother⟩
    rcases hstream with hempty | hsame
    · exact hne hempty
    · exact hother (hid.trans hsame.symm)
  refine ⟨?_, ?_⟩
  · rw [readPage, if_neg (by rw [hvalid]; exact Bool.noConfusion), if_neg hcurrent]
    exact if_neg hgoes
  · refine ⟨hid, ?_, ?_, fun hdone => ?_, ?_, ?_⟩
    · exact hmerge ▸ hevents.page hc heventPage
    · exact hmerge' ▸ haudit.page hc' hauditPage
    · rw [Bool.or_eq_false_iff] at hdone
      refine ⟨?_, ?_⟩
      · exact (congrArg Copy.history hmerge).trans
          ((hevents.up_to_date hc heventPage hdone.1).trans hfeeds.events.symm)
      · exact (congrArg Copy.history hmerge').trans
          ((haudit.up_to_date hc' hauditPage hdone.2).trans hfeeds.audit.symm)
    · have heither : (page.events.hasMore || page.audit.hasMore) =
          (page.events.toPage.more || page.audit.toPage.more) := rfl
      rw [heither, hmore, hmore', ← Bool.decide_or]
      congr 1
      exact propext lt_max_iff.symm
    · have hahead := heventPage.ahead_next hevents.cursor_le
      have hahead' := hauditPage.ahead_next haudit.cursor_le
      refine (congrArg₂ max hahead hahead').trans ?_
      unfold SyncState.ahead
      omega

/-- A page of another stream starts the round over. -/
theorem readPage_restarted (hne : x.streamId ≠ "")
    (hstream : x.streamId ≠ s.streamId) (hpage : requestPage generatedAt s x = .ok page)
    (hvalid : validateSyncPage page = true) :
    readPage x page = .restarted { SyncState.fresh with streamId := s.streamId } := by
  obtain ⟨-, hid, -⟩ := sync_deltas hpage
  rw [readPage, if_neg (by rw [hvalid]; exact Bool.noConfusion),
    if_pos ⟨hne, fun he => hstream (he.symm.trans hid)⟩, hid]

/-- What becomes of a page: it has unsafe numbers, or is of a new stream, or is merged. -/
inductive PageResult (s : LabState) (x : SyncState) (page : SyncPage) : PageRead → Prop
  | rejected (hvalid : validateSyncPage page = false) : PageResult s x page .rejected
  | restarted (hne : x.streamId ≠ "") (hstream : x.streamId ≠ s.streamId) :
      PageResult s x page (.restarted { SyncState.fresh with streamId := s.streamId })
  | merged {next : SyncState} {more : Bool} (hstream : x.streamId = "" ∨ x.streamId = s.streamId)
      (hmerged : MergedPage s x next more)
      (hsafe : next.events.cursor ≤ maxSafeInteger ∧ next.audit.cursor ≤ maxSafeInteger) :
      PageResult s x page (.merged next more)

theorem readPage_result (hr : Reachable w s) (h : x.Tracks streams s)
    (hids : ∀ id ∈ streams, isStreamId id = true)
    (hpage : requestPage generatedAt s x = .ok page) : PageResult s x page (readPage x page) := by
  cases hvalid : validateSyncPage page with
  | false =>
    rw [readPage, if_pos hvalid]
    exact .rejected hvalid
  | true =>
    by_cases hcurrent : x.streamId = "" ∨ x.streamId = s.streamId
    · obtain ⟨hread, hmerged⟩ := readPage_merged hr h hids hcurrent hpage hvalid
      rw [hread]
      exact .merged hcurrent hmerged (cursors_safe x hvalid)
    · rw [not_or] at hcurrent
      rw [readPage_restarted hcurrent.1 hcurrent.2 hpage hvalid]
      exact .restarted hcurrent.1 hcurrent.2

/-- The Teamserver answers every dashboard whose cursors are safe. -/
theorem exists_page (generatedAt : Timestamp) (s : LabState)
    (hsafe : x.events.cursor ≤ maxSafeInteger ∧ x.audit.cursor ≤ maxSafeInteger) :
    ∃ page, requestPage generatedAt s x = .ok page := by
  have hrange (n : ℕ) (hn : n ≤ maxSafeInteger) : 0 ≤ (n : ℤ) ∧ (n : ℤ) ≤ maxSyncCursor := by
    refine ⟨Int.natCast_nonneg n, (Int.ofNat_le.mpr hn).trans ?_⟩
    decide
  have hlimit : 1 ≤ (syncPageSize : ℤ) ∧ (syncPageSize : ℤ) ≤ maxSyncPageSize := by decide
  let q : SyncQuery :=
    { eventsAfter := x.events.cursor, auditAfter := x.audit.cursor, limit := syncPageSize }
  have hq : ∀ f : SyncField, f.minimum ≤ q.get f ∧ q.get f ≤ f.maximum := by
    intro f
    cases f with
    | eventsAfter => exact hrange _ hsafe.1
    | auditAfter => exact hrange _ hsafe.2
    | limit => exact hlimit
  exact sync_of_range hq generatedAt s

/-- The dashboard accepts every page of a Teamserver whose numbers are safe. -/
theorem page_valid (hr : Reachable w s) (hid : isStreamId s.streamId = true)
    (hevents : s.eventSequence < maxSafeInteger) (haudit : s.auditSequence < maxSafeInteger)
    (hpage : requestPage generatedAt s x = .ok page) : validateSyncPage page = true := by
  have hfeeds := hr.feeds
  obtain ⟨-, hstream, -, -, hwatermarks⟩ := sync_deltas hpage
  obtain ⟨heventPage, hauditPage⟩ := sync_answers hr hpage
  obtain ⟨holdest, holdest'⟩ := sync_oldest hr hpage
  have heventValid := answer_valid hfeeds.eventNumbers heventPage s.eventHistory_cleared
    (hfeeds.eventCount ▸ hevents) holdest
  have hauditValid := answer_valid hfeeds.auditNumbers hauditPage s.auditHistory_cleared
    (hfeeds.auditCount ▸ haudit) holdest'
  have hcount : page.highWatermarks = (s.eventHistory.log.length, s.auditHistory.log.length) := by
    rw [hwatermarks, hfeeds.eventCount, hfeeds.auditCount]
    rfl
  rw [validateSyncPage, hstream, hid, hcount]
  simp only [heventValid, hauditValid, Bool.and_self]

end C2Lab
