import C2Lab.Core.Counting
import C2Lab.Dashboard.Refresh

/-! The dashboard and the Teamserver together.

    Between any two pages the server may do any operation or start anew, and the dashboard may
    lose the connection or forget its token. Every state reached keeps the dashboard on the track
    of the two histories, so that a round ends with what the server retains. -/

namespace C2Lab

/-- A round of `refresh`: what it has read, and how many pages it took. -/
structure SyncRound where
  next : SyncState
  pageIndex : ℕ

/-- A Teamserver process, the streams of all processes so far, and a dashboard. -/
structure SyncSystem where
  world : World
  server : LabState
  streams : List String
  committed : SyncState
  round : Option SyncRound

/-- The round is over, with `x` committed. -/
def SyncSystem.finish (y : SyncSystem) (x : SyncState) : SyncSystem :=
  { y with committed := x, round := none }

/-- The round goes on to its next page. -/
def SyncSystem.goOn (y : SyncSystem) (r : SyncRound) (x : SyncState) : SyncSystem :=
  { y with round := some ⟨x, r.pageIndex + 1⟩ }

/-- What a page does; a round whose last page was not merged commits nothing. -/
def SyncSystem.afterPage (y : SyncSystem) (r : SyncRound) (page : SyncPage) : SyncSystem :=
  match readPage r.next page with
  | .rejected => y.finish y.committed
  | .restarted next =>
    if r.pageIndex + 1 < maxSyncPages then y.goOn r next else y.finish y.committed
  | .merged next more =>
    if more = true ∧ r.pageIndex + 1 < maxSyncPages then y.goOn r next else y.finish next

/-- What may happen next. -/
inductive SyncStep (y : SyncSystem) : SyncSystem → Prop
  | operate (op : Op) (hf : y.world.FreshBelow (step y.world y.server op).draws) :
      SyncStep y { y with server := step y.world y.server op }
  | restart (w : World) (streamId : String) (hid : isStreamId streamId = true)
      (hnew : streamId ∉ y.streams) :
      SyncStep y { y with
        world := w, server := .init streamId, streams := streamId :: y.streams }
  | start (h : y.round = none) : SyncStep y { y with round := some ⟨y.committed, 0⟩ }
  | page {r : SyncRound} (h : y.round = some r) {generatedAt : Timestamp} {page : SyncPage}
      (hpage : requestPage generatedAt y.server r.next = .ok page) :
      SyncStep y (y.afterPage r page)
  | fail : SyncStep y { y with round := none }
  | forget : SyncStep y { y with committed := .fresh, round := none }

/-- The states that are reached from a new process and a new dashboard. -/
inductive SyncReachable : SyncSystem → Prop
  | start (w : World) (streamId : String) (hid : isStreamId streamId = true) :
      SyncReachable ⟨w, .init streamId, [streamId], .fresh, none⟩
  | next {y y' : SyncSystem} (h : SyncReachable y) (hs : SyncStep y y') : SyncReachable y'

/-- What holds in between: the server is in a state of its own runs, and whatever the dashboard
    remembers or is reading tracks the streams. -/
structure SyncSystem.Sound (y : SyncSystem) : Prop where
  reachable : Reachable y.world y.server
  ids : ∀ id ∈ y.streams, isStreamId id = true
  current : y.server.streamId ∈ y.streams
  committed : y.committed.Tracks y.streams y.server
  round : ∀ r, y.round = some r → r.next.Tracks y.streams y.server

variable {y y' : SyncSystem} {r : SyncRound} {page : SyncPage} {generatedAt : Timestamp}

/-- What a page can do to the system. -/
inductive SyncSystem.AfterPage (y : SyncSystem) (r : SyncRound) (page : SyncPage) :
    SyncSystem → Prop
  | rejected (hvalid : validateSyncPage page = false) : AfterPage y r page (y.finish y.committed)
  | restarted (hne : r.next.streamId ≠ "") (hstream : r.next.streamId ≠ y.server.streamId)
      (hlt : r.pageIndex + 1 < maxSyncPages) :
      AfterPage y r page (y.goOn r { SyncState.fresh with streamId := y.server.streamId })
  | dropped (hne : r.next.streamId ≠ "") (hstream : r.next.streamId ≠ y.server.streamId)
      (hlast : ¬r.pageIndex + 1 < maxSyncPages) : AfterPage y r page (y.finish y.committed)
  | wentOn {next : SyncState} (hmerged : MergedPage y.server r.next next true)
      (hsafe : next.events.cursor ≤ maxSafeInteger ∧ next.audit.cursor ≤ maxSafeInteger)
      (hlt : r.pageIndex + 1 < maxSyncPages) : AfterPage y r page (y.goOn r next)
  | committed {next : SyncState} {more : Bool} (hmerged : MergedPage y.server r.next next more)
      (hsafe : next.events.cursor ≤ maxSafeInteger ∧ next.audit.cursor ≤ maxSafeInteger)
      (hlast : more = true → ¬r.pageIndex + 1 < maxSyncPages) : AfterPage y r page (y.finish next)

namespace SyncSystem.Sound

theorem afterPage_cases (h : y.Sound) (hr : y.round = some r)
    (hpage : requestPage generatedAt y.server r.next = .ok page) :
    y.AfterPage r page (y.afterPage r page) := by
  have hresult := readPage_result h.reachable (h.round r hr) h.ids hpage
  unfold SyncSystem.afterPage
  generalize readPage r.next page = read at hresult ⊢
  cases hresult with
  | rejected hvalid => exact .rejected hvalid
  | restarted hne hstream =>
    simp only
    split
    · exact .restarted hne hstream ‹_›
    · exact .dropped hne hstream ‹_›
  | @merged next more hstream hmerged hsafe =>
    simp only
    split
    · rename_i hgo
      rw [hgo.1] at hmerged
      exact .wentOn hmerged hsafe hgo.2
    · rename_i hlast
      exact .committed hmerged hsafe fun hmore hlt => hlast ⟨hmore, hlt⟩

theorem finish (h : y.Sound) {x : SyncState} (hx : x.Tracks y.streams y.server) :
    (y.finish x).Sound :=
  ⟨h.reachable, h.ids, h.current, hx, fun _ hr => by cases hr⟩

theorem goOn (h : y.Sound) (r : SyncRound) {x : SyncState} (hx : x.Tracks y.streams y.server) :
    (y.goOn r x).Sound :=
  ⟨h.reachable, h.ids, h.current, h.committed, fun _ hr => by cases hr; exact hx⟩

theorem operate (h : y.Sound) {op : Op}
    (hf : y.world.FreshBelow (step y.world y.server op).draws) :
    Sound { y with server := step y.world y.server op } := by
  have hcontinues := Later.continues (.single ⟨op, rfl, hf⟩) h.reachable
  exact ⟨h.reachable.step hf, h.ids, hcontinues.stream ▸ h.current,
    h.committed.continues hcontinues, fun r hr => (h.round r hr).continues hcontinues⟩

theorem restart (h : y.Sound) (w : World) {streamId : String} (hid : isStreamId streamId = true)
    (hnew : streamId ∉ y.streams) : Sound { y with
      world := w, server := .init streamId, streams := streamId :: y.streams } := by
  have hne : (LabState.init streamId).streamId ≠ "" := isStreamId_ne hid
  refine ⟨⟨streamId, .refl⟩, fun id hmem => ?_, List.mem_cons_self, h.committed.restarted hnew hne,
    fun r hr => (h.round r hr).restarted hnew hne⟩
  rcases List.mem_cons.mp hmem with rfl | hmem
  · exact hid
  · exact h.ids id hmem

theorem afterPage (h : y.Sound) (hr : y.round = some r)
    (hpage : requestPage generatedAt y.server r.next = .ok page) :
    (y.afterPage r page).Sound := by
  have hcases := h.afterPage_cases hr hpage
  generalize y.afterPage r page = y' at hcases ⊢
  cases hcases with
  | rejected => exact h.finish h.committed
  | restarted => exact h.goOn r (tracks_fresh (.inr h.current))
  | dropped => exact h.finish h.committed
  | wentOn hmerged hsafe => exact h.goOn r (hmerged.tracks h.current hsafe)
  | committed hmerged hsafe => exact h.finish (hmerged.tracks h.current hsafe)

theorem step (h : y.Sound) (hs : SyncStep y y') : y'.Sound := by
  cases hs with
  | operate op hf => exact h.operate hf
  | restart w streamId hid hnew => exact h.restart w hid hnew
  | start hnone =>
    exact ⟨h.reachable, h.ids, h.current, h.committed, fun r hr => by cases hr; exact h.committed⟩
  | page hr hpage => exact h.afterPage hr hpage
  | fail => exact ⟨h.reachable, h.ids, h.current, h.committed, fun r hr => by cases hr⟩
  | forget =>
    exact ⟨h.reachable, h.ids, h.current, tracks_fresh (.inl rfl), fun r hr => by cases hr⟩

end SyncSystem.Sound

theorem SyncReachable.sound (h : SyncReachable y) : y.Sound := by
  induction h with
  | start w streamId hid =>
    refine ⟨⟨streamId, .refl⟩, fun id hmem => ?_, List.mem_singleton_self _,
      tracks_fresh (.inl rfl), fun r hr => by cases hr⟩
    rw [List.mem_singleton.mp hmem]
    exact hid
  | next _ hs ih => exact ih.step hs

/-- In every state reached, a page of the round that leaves nothing more ends it, and then the
    dashboard has exactly the histories that the server retains. -/
theorem sync_converges (h : SyncReachable y) (hr : y.round = some r)
    (hpage : requestPage generatedAt y.server r.next = .ok page) {next : SyncState}
    (hread : readPage r.next page = .merged next false) :
    y.afterPage r page = y.finish next ∧ next.streamId = y.server.streamId ∧
      next.events.history = y.server.events ∧ next.audit.history = y.server.auditEntries := by
  have hsound := h.sound
  have hresult := readPage_result hsound.reachable (hsound.round r hr) hsound.ids hpage
  rw [hread] at hresult
  cases hresult with
  | merged hstream hmerged hsafe =>
    obtain ⟨hevents, haudit⟩ := hmerged.complete rfl
    refine ⟨?_, hmerged.stream, hevents, haudit⟩
    simp only [SyncSystem.afterPage, hread]
    exact if_neg fun hmore => Bool.false_ne_true hmore.1

namespace Counting

/-- A dashboard starts its first round with a Teamserver at which one Node enrolled. -/
def syncing : SyncSystem :=
  { world := .counting, server := exec .counting (.init "stream-0123456789abcdef01234567") [enroll]
    streams := ["stream-0123456789abcdef01234567"], committed := .fresh, round := some ⟨.fresh, 0⟩ }

theorem syncing_reachable : SyncReachable syncing :=
  .next (.next (.start .counting "stream-0123456789abcdef01234567" (by decide))
    (.operate enroll (World.counting_fresh (by decide)))) (.start rfl)

/-- Its first page. -/
theorem syncing_page : ∃ page, requestPage 0 syncing.server .fresh = .ok page ∧
    readPage .fresh page = .merged (mergePage .fresh page) false := by
  have hsound := syncing_reachable.sound
  have htracks := hsound.round _ rfl
  obtain ⟨page, hpage⟩ := exists_page 0 syncing.server htracks.safe
  have hvalid := page_valid hsound.reachable (hsound.ids _ hsound.current) (by decide)
    (by decide) hpage
  obtain ⟨hread, hmerged⟩ := readPage_merged hsound.reachable htracks hsound.ids (.inl rfl) hpage
    hvalid
  have hmore : (page.events.hasMore || page.audit.hasMore) = false :=
    hmerged.more_eq.trans (by decide)
  exact ⟨page, hpage, hmore ▸ hread⟩

end Counting

/-- The round of that dashboard ends with the enrollment in its event feed. -/
theorem sync_converges_syncing : ∃ page next,
    Counting.syncing.afterPage ⟨.fresh, 0⟩ page = Counting.syncing.finish next ∧
      next.events.history.map (·.kind) = [.nodeEnrolled] := by
  obtain ⟨page, hpage, hread⟩ := Counting.syncing_page
  obtain ⟨hend, -, hevents, -⟩ := sync_converges Counting.syncing_reachable rfl hpage hread
  exact ⟨page, _, hend, hevents ▸ by decide⟩

/-- In every state reached, what the dashboard shows of the current stream is a stretch of each of
    its logs: no entry is missing from it, none is twice in it, and none is of another stream. -/
theorem shown_stretch (h : SyncReachable y) (hstream : y.committed.streamId = y.server.streamId) :
    y.committed.events.history <:+: y.server.eventLog ∧
      y.committed.audit.history <:+: y.server.auditLog :=
  h.sound.committed.shown hstream

/-- After its first round that dashboard shows one event. -/
theorem shown_stretch_syncing : ∃ next : SyncState, next.events.history.length = 1 ∧
    next.events.history <:+: Counting.syncing.server.eventLog ∧
    next.audit.history <:+: Counting.syncing.server.auditLog := by
  obtain ⟨page, hpage, hread⟩ := Counting.syncing_page
  have hreach : SyncReachable (Counting.syncing.finish (mergePage .fresh page)) := by
    have hnext := Counting.syncing_reachable.next (.page rfl hpage)
    simp only [SyncSystem.afterPage, hread] at hnext
    exact hnext
  have hsound := Counting.syncing_reachable.sound
  have hresult := readPage_result hsound.reachable (hsound.round _ rfl) hsound.ids hpage
  rw [hread] at hresult
  cases hresult with
  | merged _ hmerged _ =>
    have hshown := shown_stretch hreach hmerged.stream
    have hlength : Counting.syncing.server.events.length = 1 := by decide
    exact ⟨_, (congrArg List.length (hmerged.complete rfl).1).trans hlength, hshown⟩

/-! ### How long a round takes -/

/-- How many entries the two histories have gained. -/
def LabState.gained (s s' : LabState) : ℕ :=
  (s'.eventSequence - s.eventSequence) + (s'.auditSequence - s.auditSequence)

/-- What may happen during a round that is not interrupted. -/
inductive RoundStep (y : SyncSystem) : SyncSystem → Prop
  | operate (op : Op) (hf : y.world.FreshBelow (step y.world y.server op).draws) :
      RoundStep y { y with server := step y.world y.server op }
  | page {r : SyncRound} (h : y.round = some r) {generatedAt : Timestamp} {page : SyncPage}
      (hpage : requestPage generatedAt y.server r.next = .ok page) :
      RoundStep y (y.afterPage r page)

/-- A round that is not interrupted. -/
abbrev RoundRun : SyncSystem → SyncSystem → Prop := Relation.ReflTransGen RoundStep

/-- What holds during such a round: only its first page can be of another stream, and the pages
    taken and the entries still to get are no more than what there was and what was added. -/
structure SyncSystem.InRound (y₀ y : SyncSystem) : Prop where
  reachable : SyncReachable y
  grows : y₀.server.eventSequence ≤ y.server.eventSequence ∧
    y₀.server.auditSequence ≤ y.server.auditSequence
  bounded : ∀ r, y.round = some r → r.pageIndex < maxSyncPages
  current : ∀ r, y.round = some r →
    r.pageIndex = 0 ∨ r.next.streamId = "" ∨ r.next.streamId = y.server.streamId
  budget : ∀ r, y.round = some r → syncPageSize * r.pageIndex + r.next.ahead y.server ≤
    maxHistoryRecords + syncPageSize + y₀.server.gained y.server

/-- What is still to get grows no faster than the feed. -/
theorem Feed.Goes.ahead_le {α : Type} {f f' : Feed α} (h : f.Goes f') (cap : ℕ)
    (hf : f.cleared ≤ f.log.length) (after : ℕ) :
    f'.ahead cap after ≤ f.ahead cap after + (f'.log.length - f.log.length) := by
  have hdropped := h.dropped_le cap hf
  unfold Feed.ahead
  omega

namespace SyncSystem.InRound

variable {y₀ : SyncSystem}

theorem operate (h : InRound y₀ y) {op : Op}
    (hf : y.world.FreshBelow (C2Lab.step y.world y.server op).draws) :
    InRound y₀ { y with server := C2Lab.step y.world y.server op } := by
  have hreach := h.reachable.sound.reachable
  have hcontinues := Later.continues (.single ⟨op, rfl, hf⟩) hreach
  have hfeeds := hreach.feeds
  have hfeeds' := (hreach.step hf).feeds
  have hevents := hcontinues.events.length_le
  have haudit := hcontinues.audit.length_le
  simp only [LabState.eventHistory, LabState.auditHistory, ← hfeeds.eventCount,
    ← hfeeds.auditCount, ← hfeeds'.eventCount, ← hfeeds'.auditCount] at hevents haudit
  have hgrows := h.grows
  refine ⟨h.reachable.next (.operate op hf), ⟨hgrows.1.trans hevents, hgrows.2.trans haudit⟩,
    h.bounded, fun r hr => hcontinues.stream ▸ h.current r hr, fun r hr => ?_⟩
  have hbudget := h.budget r hr
  have hahead := hcontinues.events.ahead_le maxEvents (LabState.eventHistory_cleared _)
    r.next.events.cursor
  have hahead' := hcontinues.audit.ahead_le maxAuditEntries (LabState.auditHistory_cleared _)
    r.next.audit.cursor
  simp only [LabState.eventHistory, LabState.auditHistory, ← hfeeds.eventCount,
    ← hfeeds.auditCount, ← hfeeds'.eventCount, ← hfeeds'.auditCount] at hahead hahead'
  simp only [SyncState.ahead, LabState.gained, LabState.eventHistory, LabState.auditHistory]
    at hbudget hahead hahead' ⊢
  omega

theorem finish (h : InRound y₀ y) {x : SyncState} (hreach : SyncReachable (y.finish x)) :
    InRound y₀ (y.finish x) := by
  refine ⟨hreach, h.grows, fun _ hr => ?_, fun _ hr => ?_, fun _ hr => ?_⟩ <;> cases hr

theorem afterPage (h : InRound y₀ y) (hr : y.round = some r)
    (hpage : requestPage generatedAt y.server r.next = .ok page) :
    InRound y₀ (y.afterPage r page) := by
  have hreach := h.reachable.next (.page hr hpage)
  have hcases := h.reachable.sound.afterPage_cases hr hpage
  generalize y.afterPage r page = y' at hreach hcases ⊢
  cases hcases with
  | rejected => exact h.finish hreach
  | restarted hne hstream hlt =>
    have hfirst : r.pageIndex = 0 := (h.current r hr).resolve_right (not_or.mpr ⟨hne, hstream⟩)
    refine ⟨hreach, h.grows, fun _ hr => ?_, fun _ hr => ?_, fun _ hr => ?_⟩ <;> cases hr
    · exact hlt
    · exact .inr (.inr rfl)
    · show syncPageSize * (r.pageIndex + 1) + SyncState.ahead y.server _ ≤
        maxHistoryRecords + syncPageSize + y₀.server.gained y.server
      rw [hfirst, Nat.zero_add, Nat.mul_one]
      exact (Nat.add_le_add_left (SyncState.ahead_le y.server _) _).trans (by omega)
  | dropped => exact h.finish hreach
  | @wentOn next hmerged _ hlt =>
    have hmore := of_decide_eq_true hmerged.more_eq.symm
    have hahead := hmerged.ahead_eq
    have hbudget := h.budget r hr
    refine ⟨hreach, h.grows, fun _ hr => ?_, fun _ hr => ?_, fun _ hr => ?_⟩ <;> cases hr
    · exact hlt
    · exact .inr (.inr hmerged.stream)
    · show syncPageSize * (r.pageIndex + 1) + next.ahead y.server ≤
        maxHistoryRecords + syncPageSize + y₀.server.gained y.server
      rw [Nat.mul_succ]
      omega
  | committed => exact h.finish hreach

theorem step (h : InRound y₀ y) (hs : RoundStep y y') : InRound y₀ y' := by
  cases hs with
  | operate op hf => exact h.operate hf
  | page hr hpage => exact h.afterPage hr hpage

end SyncSystem.InRound

/-- An uninterrupted round keeps to its budget. -/
theorem RoundRun.inRound {y₀ : SyncSystem} (h : SyncReachable y₀)
    (hstart : y₀.round = some ⟨y₀.committed, 0⟩) (hrun : RoundRun y₀ y) : y₀.InRound y := by
  induction hrun with
  | refl =>
    have hahead := SyncState.ahead_le y₀.server y₀.committed
    refine ⟨h, ⟨le_rfl, le_rfl⟩, fun r hr => ?_, fun r hr => ?_, fun r hr => ?_⟩ <;>
      cases hstart.symm.trans hr
    · exact Nat.zero_lt_succ _
    · exact .inl rfl
    · simp only [Nat.mul_zero]
      omega
  | tail _ hs ih => exact ih.step hs

/-- A round that is not interrupted, while the Teamserver records at most 400 entries, has each of
    its pages answered and accepted; it asks for no more than ten, and ends with exactly the
    histories that the server retains at its last page. -/
theorem round_catches_up {y₀ : SyncSystem} (h : SyncReachable y₀)
    (hstart : y₀.round = some ⟨y₀.committed, 0⟩) (hrun : RoundRun y₀ y)
    (hgained : y₀.server.gained y.server ≤ 400)
    (hsafe : y.server.eventSequence < maxSafeInteger ∧ y.server.auditSequence < maxSafeInteger)
    (hr : y.round = some r) (generatedAt : Timestamp) :
    r.pageIndex < maxSyncPages ∧ ∃ page, requestPage generatedAt y.server r.next = .ok page ∧
      ((∃ next, y.afterPage r page = y.goOn r next) ∨
        ∃ next, y.afterPage r page = y.finish next ∧
          next.streamId = y.server.streamId ∧ next.events.history = y.server.events ∧
          next.audit.history = y.server.auditEntries) := by
  have hin := RoundRun.inRound h hstart hrun
  have hsound := hin.reachable.sound
  obtain ⟨page, hpage⟩ := exists_page generatedAt y.server (hsound.round r hr).safe
  have hvalid := page_valid hsound.reachable (hsound.ids _ hsound.current) hsafe.1 hsafe.2 hpage
  have hcases := hsound.afterPage_cases hr hpage
  have hbudget := hin.budget r hr
  refine ⟨hin.bounded r hr, page, hpage, ?_⟩
  generalize y.afterPage r page = y' at hcases ⊢
  cases hcases with
  | rejected hinvalid => exact absurd (hvalid.symm.trans hinvalid) (by decide)
  | restarted => exact .inl ⟨_, rfl⟩
  | dropped hne hstream hlast =>
    have hfirst : r.pageIndex = 0 :=
      (hin.current r hr).resolve_right (not_or.mpr ⟨hne, hstream⟩)
    rw [hfirst] at hlast
    exact absurd (by decide) hlast
  | wentOn => exact .inl ⟨_, rfl⟩
  | @committed next more hmerged _ hlast =>
    have hdone : more = false := by
      by_contra hmore
      have hlast := hlast (Bool.not_eq_false _ ▸ hmore)
      have hahead := of_decide_eq_true (hmerged.more_eq.symm.trans (Bool.not_eq_false _ ▸ hmore))
      simp only [syncPageSize, maxHistoryRecords, maxSyncPages] at hbudget hahead hlast
      omega
    obtain ⟨hevents, haudit⟩ := hmerged.complete hdone
    exact .inr ⟨next, rfl, hmerged.stream, hevents, haudit⟩

/-- While the round of the dashboard above goes on, a task is queued. -/
theorem round_catches_up_queued :
    let op := Counting.queue .ping (.obj [])
    let y := { Counting.syncing with server := step .counting Counting.syncing.server op }
    Counting.syncing.server.gained y.server = 2 ∧
      ∃ page, requestPage 0 y.server .fresh = .ok page ∧
        ((∃ next, y.afterPage ⟨.fresh, 0⟩ page = y.goOn ⟨.fresh, 0⟩ next) ∨
          ∃ next, y.afterPage ⟨.fresh, 0⟩ page = y.finish next ∧
            next.streamId = y.server.streamId ∧ next.events.history = y.server.events ∧
            next.audit.history = y.server.auditEntries) := by
  intro op y
  have hgained : Counting.syncing.server.gained y.server = 2 := by decide +kernel
  have hrun : RoundRun Counting.syncing y :=
    .single (.operate op (World.counting_fresh (by decide +kernel)))
  exact ⟨hgained, (round_catches_up Counting.syncing_reachable rfl hrun (hgained ▸ by decide)
    (by decide +kernel) rfl 0).2⟩

end C2Lab
