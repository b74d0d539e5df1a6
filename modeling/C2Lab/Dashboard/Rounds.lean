import Mathlib.Data.Fintype.BigOperators
import C2Lab.Dashboard.Convergence

/-! Rounds of the dashboard, page by page.

    Identifiers that never repeat leave room for so many entries only that no number of a page is
    ever unsafe. So no page is rejected, and a round that nothing disturbs ends within six pages. -/

namespace C2Lab

variable {w : World} {s : LabState} {y y' y₀ : SyncSystem} {r : SyncRound} {page : SyncPage}
  {generatedAt : Timestamp}

/-! ### Safe numbers -/

/-- There are sixteen hex digits, and ten of them tell the draws apart. -/
theorem World.FreshBelow.le {n : ℕ} (h : w.FreshBelow n) : n ≤ 16 ^ 10 := by
  let hex : List Char := "0123456789abcdef".toList
  have hlength (i : ℕ) (k : Fin 10) : k.1 < (w.uuid i).length := by
    rw [(w.uuid_hex i).1]
    omega
  let digit (i : ℕ) (k : Fin 10) : Char := (w.uuid i).get ⟨k, hlength i k⟩
  have hmem (i : ℕ) (k : Fin 10) : digit i k ∈ hex := (w.uuid_hex i).2 _ (List.get_mem ..)
  let digits (i : Fin n) (k : Fin 10) : Fin hex.length :=
    ⟨hex.idxOf (digit i k), List.idxOf_lt_length_of_mem (hmem i k)⟩
  have hinj : Function.Injective digits := by
    intro i j hij
    refine Fin.ext ((h i i.2 j j.2).1 (List.ext_getElem ?_ fun k hk _ => ?_))
    · simp [(w.uuid_hex _).1]
    · have hk : k < 10 := by
        rw [List.length_take] at hk
        omega
      have hsame := congrArg Fin.val (congrFun hij ⟨k, hk⟩)
      rw [List.getElem_take, List.getElem_take]
      exact (List.idxOf_inj (hmem i ⟨k, hk⟩)).mp hsame
  simpa [hex] using Fintype.card_le_of_injective digits hinj

/-- Every entry of a journal takes a draw. -/
theorem Journal.Told.counted {j j' : Journal} {l : List Notice} (h : j.Told w l j')
    (hj : j.eventSequence + j.auditSequence ≤ j.draws) :
    j'.eventSequence + j'.auditSequence ≤ j'.draws := by
  induction h with
  | refl => exact hj
  | tick _ ih => exact ih.trans (Nat.le_succ _)
  | refuse _ ih | clear _ ih => exact ih
  | record _ d ih =>
    simp only [Journal.recordLocked]
    omega
  | audit _ d ih =>
    simp only [Journal.auditLocked]
    omega

theorem counted_kept (w : World) : Kept w (.reset :: Activity.lasting) fun s =>
    s.eventSequence + s.auditSequence ≤ s.draws := by
  refine ⟨fun {s s' c} _ hs hf hw h => ?_⟩
  obtain ⟨l, htold⟩ := hw.announces
  exact htold.told.counted h

/-- No run gets to an entry whose number is unsafe. -/
theorem Reachable.numbers_safe (hr : Reachable w s) :
    s.eventSequence < maxSafeInteger ∧ s.auditSequence < maxSafeInteger := by
  have hdraws := hr.fresh.le
  have hcounted : s.eventSequence + s.auditSequence ≤ s.draws :=
    (counted_kept w).reachable (fun _ => Nat.le_refl 0) hr
  have hroom : 16 ^ 10 < maxSafeInteger := by decide
  omega

/-! ### Pages -/

/-- The dashboard has exactly the histories that the server retains. -/
def SyncSystem.UpToDate (y : SyncSystem) : Prop :=
  y.round = none ∧ y.committed.streamId = y.server.streamId ∧
    y.committed.events.history = y.server.events ∧
    y.committed.audit.history = y.server.auditEntries

theorem MergedPage.upToDate {next : SyncState} (h : MergedPage y.server r.next next false) :
    (y.finish next).UpToDate := by
  obtain ⟨hevents, haudit⟩ := h.complete rfl
  exact ⟨rfl, h.stream, hevents, haudit⟩

/-- Every page of a round passes the checks. -/
theorem SyncReachable.page_valid (h : SyncReachable y)
    (hpage : requestPage generatedAt y.server r.next = .ok page) :
    validateSyncPage page = true := by
  have hsound := h.sound
  obtain ⟨hevents, haudit⟩ := hsound.reachable.numbers_safe
  exact C2Lab.page_valid hsound.reachable (hsound.ids _ hsound.current) hevents haudit hpage

/-- None is rejected, neither for its numbers nor for a cursor that stands still. -/
theorem SyncReachable.not_rejected (h : SyncReachable y) (hr : y.round = some r)
    (hpage : requestPage generatedAt y.server r.next = .ok page) :
    readPage r.next page ≠ .rejected := by
  have hsound := h.sound
  have hvalid := h.page_valid hpage
  have hresult := readPage_result hsound.reachable (hsound.round r hr) hsound.ids hpage
  intro hread
  rw [hread] at hresult
  cases hresult with
  | rejected hinvalid => exact absurd (hvalid.symm.trans hinvalid) (by decide)

/-- A page of the stream of the round that leaves nothing more brings the dashboard up to date. -/
theorem SyncReachable.upToDate (h : SyncReachable y) (hr : y.round = some r)
    (hpage : requestPage generatedAt y.server r.next = .ok page)
    (hstream : r.next.streamId = "" ∨ r.next.streamId = page.streamId)
    (hevents : page.events.hasMore = false) (haudit : page.audit.hasMore = false) :
    (y.afterPage r page).UpToDate := by
  have hsound := h.sound
  obtain ⟨-, hid, -⟩ := sync_deltas hpage
  obtain ⟨hread, hmerged⟩ := readPage_merged hsound.reachable (hsound.round r hr) hsound.ids
    (hid ▸ hstream) hpage (h.page_valid hpage)
  rw [hevents, haudit, Bool.or_false] at hread hmerged
  have hafter : y.afterPage r page = y.finish (mergePage r.next page) := by
    simp only [SyncSystem.afterPage, hread]
    exact if_neg fun hmore => Bool.false_ne_true hmore.1
  exact hafter ▸ hmerged.upToDate

/-! ### Rounds that nothing disturbs -/

/-- The next page of a round, while the Teamserver does nothing. -/
inductive PageStep (y : SyncSystem) : SyncSystem → Prop
  | page {r : SyncRound} (h : y.round = some r) {generatedAt : Timestamp} {page : SyncPage}
      (hpage : requestPage generatedAt y.server r.next = .ok page) :
      PageStep y (y.afterPage r page)

/-- Some pages of such a round. -/
abbrev PageRun : SyncSystem → SyncSystem → Prop := Relation.ReflTransGen PageStep

/-- How far such a round is: it is over and the dashboard up to date, or it asks for one of its
    first six pages. -/
def SyncSystem.Proceeds (y : SyncSystem) : Prop :=
  y.UpToDate ∨ ∃ r, y.round = some r ∧ r.pageIndex < 6

theorem SyncSystem.server_afterPage (y : SyncSystem) (r : SyncRound) (page : SyncPage) :
    (y.afterPage r page).server = y.server := by
  unfold SyncSystem.afterPage
  split
  · rfl
  · split <;> rfl
  · split <;> rfl

theorem PageRun.server (hrun : PageRun y₀ y) : y.server = y₀.server := by
  induction hrun with
  | refl => rfl
  | tail _ hstep ih =>
    cases hstep
    exact (SyncSystem.server_afterPage ..).trans ih

theorem PageRun.roundRun (hrun : PageRun y₀ y) : RoundRun y₀ y := by
  induction hrun with
  | refl => exact .refl
  | tail _ hstep ih =>
    obtain ⟨hr, hpage⟩ := hstep
    exact ih.tail (.page hr hpage)

/-- A page goes on with the round by one, or ends it. -/
theorem SyncSystem.InRound.pageStep (h : y₀.InRound y) (hserver : y.server = y₀.server)
    (hr : y.round = some r) (hindex : r.pageIndex < 6)
    (hpage : requestPage generatedAt y.server r.next = .ok page) :
    (y.afterPage r page).UpToDate ∨
      ∃ r', (y.afterPage r page).round = some r' ∧ r'.pageIndex = r.pageIndex + 1 ∧
        r'.pageIndex < 6 := by
  have hcases := h.reachable.sound.afterPage_cases hr hpage
  have hvalid := h.reachable.page_valid hpage
  have hbudget := h.budget r hr
  rw [hserver, LabState.gained] at hbudget
  simp only [syncPageSize, maxHistoryRecords] at hbudget
  -- only the first page can be of another stream
  have hfirst (hne : r.next.streamId ≠ "") (hother : r.next.streamId ≠ y.server.streamId) :
      r.pageIndex = 0 := (h.current r hr).resolve_right (not_or.mpr ⟨hne, hother⟩)
  generalize y.afterPage r page = y' at hcases ⊢
  cases hcases with
  | rejected hinvalid => exact absurd (hvalid.symm.trans hinvalid) (by decide)
  | restarted hne hother =>
    refine .inr ⟨_, rfl, rfl, ?_⟩
    rw [hfirst hne hother]
    exact Nat.one_lt_succ_succ 4
  | dropped hne hother hlast =>
    rw [hfirst hne hother] at hlast
    exact absurd (by decide) hlast
  | wentOn hmerged =>
    have hahead := of_decide_eq_true hmerged.more_eq.symm
    refine .inr ⟨_, rfl, rfl, ?_⟩
    rw [hserver, syncPageSize] at hahead
    show r.pageIndex + 1 < 6
    omega
  | @committed next more hmerged _ hlast =>
    have hdone : more = false := by
      by_contra hmore
      refine hlast (Bool.not_eq_false _ ▸ hmore) ?_
      rw [maxSyncPages]
      omega
    subst hdone
    exact .inl hmerged.upToDate

/-- A round that nothing disturbs asks for at most six pages. -/
theorem PageRun.proceeds (h : SyncReachable y₀) (hstart : y₀.round = some ⟨y₀.committed, 0⟩)
    (hrun : PageRun y₀ y) : y.Proceeds := by
  induction hrun with
  | refl => exact .inr ⟨_, hstart, Nat.zero_lt_succ 5⟩
  | tail hrun hstep ih =>
    obtain ⟨hr, hpage⟩ := hstep
    rcases ih with ⟨hnone, -⟩ | ⟨r, hr', hindex⟩
    · rw [hr] at hnone
      cases hnone
    · obtain rfl := Option.some.inj (hr.symm.trans hr')
      have hin := RoundRun.inRound h hstart (PageRun.roundRun hrun)
      rcases hin.pageStep (PageRun.server hrun) hr hindex hpage with
        hdone | ⟨r', hr', -, hindex'⟩
      · exact .inl hdone
      · exact .inr ⟨r', hr', hindex'⟩

/-- It ends, with the dashboard up to date. -/
theorem PageRun.ends (h : SyncReachable y₀) (hstart : y₀.round = some ⟨y₀.committed, 0⟩)
    (hrun : PageRun y₀ y) : ∃ y', PageRun y₀ y' ∧ y'.UpToDate := by
  rcases hrun.proceeds h hstart with hdone | ⟨r, hr, hindex⟩
  · exact ⟨y, hrun, hdone⟩
  · -- on the pages that are left
    obtain ⟨left, hleft⟩ : ∃ left, r.pageIndex + left = 6 := ⟨6 - r.pageIndex, by omega⟩
    induction left generalizing y r with
    | zero => omega
    | succ left ih =>
      have hin := RoundRun.inRound h hstart hrun.roundRun
      obtain ⟨page, hpage⟩ := exists_page 0 y.server (hin.reachable.sound.round r hr).safe
      have hnext : PageRun y₀ (y.afterPage r page) := hrun.tail (.page hr hpage)
      rcases hin.pageStep hrun.server hr hindex hpage with hdone | ⟨r', hr', hgoes, hindex'⟩
      · exact ⟨_, hnext, hdone⟩
      · exact ih hnext r' hr' hindex' (by omega)

/-- The dashboard and the Teamserver, whatever happens between two pages. Every page is answered,
    passes the checks and is not rejected; one of the stream of its round that leaves nothing more
    ends the round with exactly the histories the server retains; and a round that nothing disturbs
    ends so within six pages. -/
theorem histories_converge (h : SyncReachable y) :
    (∀ r, y.round = some r → ∀ generatedAt,
      ∃ page, requestPage generatedAt y.server r.next = .ok page ∧
        validateSyncPage page = true ∧ readPage r.next page ≠ .rejected ∧
        ((r.next.streamId = "" ∨ r.next.streamId = page.streamId) →
          page.events.hasMore = false → page.audit.hasMore = false →
          (y.afterPage r page).UpToDate)) ∧
    (y.round = some ⟨y.committed, 0⟩ →
      (∀ y', PageRun y y' → y'.UpToDate ∨ ∃ r, y'.round = some r ∧ r.pageIndex < 6) ∧
        ∃ y', PageRun y y' ∧ y'.UpToDate) := by
  refine ⟨fun r hr generatedAt => ?_, fun hstart => ⟨fun y' hrun => hrun.proceeds h hstart,
    PageRun.ends h hstart .refl⟩⟩
  obtain ⟨page, hpage⟩ := exists_page generatedAt y.server (h.sound.round r hr).safe
  exact ⟨page, hpage, h.page_valid hpage, h.not_rejected hr hpage, h.upToDate hr hpage⟩

/-- A task is queued once the round of the dashboard has begun. -/
theorem histories_converge_queued :
    let y := { Counting.syncing with
      server := step .counting Counting.syncing.server (Counting.queue .ping (.obj [])) }
    ∃ y', PageRun y y' ∧ y'.UpToDate ∧
      y'.committed.events.history.map (·.kind) = [.nodeEnrolled, .task .queued] := by
  intro y
  have hreach : SyncReachable y :=
    Counting.syncing_reachable.next (.operate _ (World.counting_fresh (by decide +kernel)))
  obtain ⟨-, hquiet⟩ := histories_converge hreach
  obtain ⟨-, y', hrun, hdone⟩ := hquiet rfl
  refine ⟨y', hrun, hdone, ?_⟩
  rw [hdone.2.2.1, PageRun.server hrun]
  decide +kernel

end C2Lab
