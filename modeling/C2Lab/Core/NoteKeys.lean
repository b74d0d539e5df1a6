import C2Lab.Core.Counting
import C2Lab.Core.Notes
import C2Lab.Core.Sources

/-! Operator notes and their keys.

    Two bounded queues, the event feed and the keys, are filled at the same end. The keys stand in
    the order in which their notes were logged, and the feed is the end of the log, so a key that
    must go to make room belongs to a note that is no longer in the feed. -/

namespace C2Lab

variable {w : World} {s s' : LabState}

/-! ### The feed and the log -/

/-- The feed is the end of the log, whose identifiers were drawn one after the other. -/
structure Journal.Fed (w : World) (j : Journal) : Prop where
  suffix : j.events <:+ j.eventLog
  drawn : ∃ ks : List ℕ, ks.Pairwise (· < ·) ∧ (∀ k ∈ ks, k < j.draws) ∧
    j.eventLog.map (·.id) = ks.map w.eventId

theorem Journal.Told.fed {j j' : Journal} {l : List Notice} (h : j.Told w l j') (hj : j.Fed w) :
    j'.Fed w := by
  induction h with
  | refl => exact hj
  | @tick _ j' _ ih =>
    obtain ⟨ks, hsorted, hlt, hids⟩ := ih.drawn
    exact ⟨ih.suffix, ks, hsorted, fun k hk => (hlt k hk).trans_le (Nat.le_succ _), hids⟩
  | refuse _ ih => exact ⟨ih.suffix, ih.drawn⟩
  | clear _ ih => exact ⟨List.nil_suffix, ih.drawn⟩
  | @record _ j' _ d ih =>
    obtain ⟨ks, hsorted, hlt, hids⟩ := ih.drawn
    refine ⟨?_, ks ++ [j'.draws], ?_, fun k hk => ?_, ?_⟩
    · rw [Journal.events_recordLocked, Journal.eventLog_recordLocked]
      exact Window.push_suffix ih.suffix _
    · exact List.pairwise_append.mpr ⟨hsorted, by simp, fun k hk i hi =>
        List.mem_singleton.mp hi ▸ hlt k hk⟩
    · rw [Journal.draws_recordLocked]
      rcases List.mem_append.mp hk with hk | hk
      · have := hlt k hk
        omega
      · rw [List.mem_singleton.mp hk]; omega
    · rw [Journal.eventLog_recordLocked, List.map_append, hids, List.map_append]
      rfl
  | audit _ d ih =>
    obtain ⟨ks, hsorted, hlt, hids⟩ := ih.drawn
    refine ⟨?_, ks, hsorted, fun k hk => ?_, ?_⟩
    · rw [Journal.events_auditLocked, Journal.eventLog_auditLocked]; exact ih.suffix
    · rw [Journal.draws_auditLocked]; exact (hlt k hk).trans (Nat.lt_succ_self _)
    · rw [Journal.eventLog_auditLocked]; exact hids

/-- No two events share an identifier. -/
theorem Journal.Fed.nodup {j : Journal} (h : j.Fed w) (hf : w.FreshBelow j.draws) :
    (j.eventLog.map (·.id)).Nodup := by
  obtain ⟨ks, hsorted, hlt, hids⟩ := h.drawn
  rw [hids]
  refine List.pairwise_map.mpr (hsorted.imp_of_mem fun {i k} hi hk hik heq => ?_)
  exact hik.ne (hf.ident_inj (by decide) (hlt i hi) (hlt k hk) heq)

/-- An event of the feed is found by its identifier. -/
theorem Journal.Fed.find?_eq {j : Journal} (h : j.Fed w) (hf : w.FreshBelow j.draws) {e : Event}
    (he : e ∈ j.events) : j.events.find? (fun x => x.id = e.id) = some e := by
  cases hfind : j.events.find? fun x => x.id = e.id with
  | none => simpa using List.find?_eq_none.mp hfind e he
  | some e' =>
    have hid : e'.id = e.id := by simpa using List.find?_some hfind
    have he' := List.mem_of_find?_eq_some hfind
    rw [List.inj_on_of_nodup_map (h.nodup hf) (h.suffix.subset he') (h.suffix.subset he) hid]

/-- An event in the feed that was logged before was in the feed before. -/
theorem Journal.Told.events_mem {j j' : Journal} {l : List Notice} (h : j.Told w l j') :
    ∃ new, j'.eventLog = j.eventLog ++ new ∧ ∀ e ∈ j'.events, e ∈ j.events ∨ e ∈ new := by
  induction h with
  | refl => exact ⟨[], (List.append_nil _).symm, fun e he => .inl he⟩
  | tick _ ih | refuse _ ih => exact ih
  | clear _ ih =>
    obtain ⟨new, hlog, -⟩ := ih
    exact ⟨new, hlog, fun e he => by cases he⟩
  | @record _ j' _ d ih =>
    obtain ⟨new, hlog, hmem⟩ := ih
    refine ⟨new ++ [j'.event w d], ?_, fun e he => ?_⟩
    · rw [Journal.eventLog_recordLocked, hlog, List.append_assoc]
    · rw [Journal.events_recordLocked] at he
      rcases Window.mem_push he with he | rfl
      · exact (hmem e he).imp_right (List.mem_append_left _)
      · exact .inr (by simp)
  | audit _ d ih =>
    rw [Journal.events_auditLocked, Journal.eventLog_auditLocked]
    exact ih

/-- The feed and the log belong together in every reachable state. -/
theorem Reachable.fed (hr : Reachable w s) : s.toJournal.Fed w :=
  Kept.reachable (P := fun s => s.toJournal.Fed w) ⟨fun _ _ _ hw h => by
    obtain ⟨l, hl⟩ := hw.announces
    exact hl.told.fed h⟩ (fun _ => ⟨List.nil_suffix, [], by simp [LabState.init]⟩) hr

/-! ### The keys -/

/-- An event is the note that a key stands for. -/
structure Event.Notes (e : Event) (v : PyStr × PyStr × PyStr) : Prop where
  kind : e.kind = .operatorNote
  actor : e.actor = v.1
  data : e.data = [("message", .str v.2.1)]
  id : e.id = v.2.2

/-- The identifiers of all the notes ever posted. -/
def Journal.noteLog (j : Journal) : List PyStr := (j.eventLog.filter (·.isNote)).map (·.id)

/-- Every key stands for a note of the log, the keys in the order of their notes. -/
structure Journal.Keyed (j : Journal) (keys : Dict PyStr (PyStr × PyStr × PyStr)) : Prop where
  ordered : (keys.values.map (·.2.2)).Sublist j.noteLog
  noted : ∀ k v, keys.get? k = some v → ∃ e ∈ j.eventLog, e.Notes v

section keyed
variable {j j' : Journal} {keys : Dict PyStr (PyStr × PyStr × PyStr)} {k : PyStr}
  {v : PyStr × PyStr × PyStr} {e : Event} {new : List Event}

theorem Journal.noteLog_append (h : j'.eventLog = j.eventLog ++ new) :
    j'.noteLog = j.noteLog ++ (new.filter (·.isNote)).map (·.id) := by
  rw [noteLog, h, List.filter_append, List.map_append]
  rfl

/-- The keys stay right while the log grows. -/
theorem Journal.Keyed.grow (h : j.Keyed keys) (hlog : j'.eventLog = j.eventLog ++ new) :
    j'.Keyed keys where
  ordered := by
    rw [Journal.noteLog_append hlog]
    exact h.ordered.trans (List.sublist_append_left _ _)
  noted := fun k v hv => by
    obtain ⟨e, he, hnote⟩ := h.noted k v hv
    exact ⟨e, hlog ▸ List.mem_append_left _ he, hnote⟩

theorem Journal.Keyed.erase (h : j.Keyed keys) (ks : List PyStr) :
    j.Keyed (ks.foldl Dict.erase keys) where
  ordered := ((Dict.values_foldl_erase_sublist keys ks).map _).trans h.ordered
  noted := fun k v hv => by
    rw [Dict.get?_foldl_erase] at hv
    split at hv
    · cases hv
    · exact h.noted k v hv

/-- The key of the newest note goes to the end. -/
theorem Journal.Keyed.set (h : j.Keyed keys) (hlog : j'.eventLog = j.eventLog ++ [e])
    (he : e.Notes v) (hk : k ∉ keys.keys) : j'.Keyed (keys.set k v) where
  ordered := by
    rw [Dict.values_set_of_not_mem _ hk, List.map_append, Journal.noteLog_append hlog]
    refine h.ordered.append ?_
    simp [Event.isNote, he.kind, he.id]
  noted := by
    intro k' v' hv
    rw [Dict.get?_set] at hv
    split at hv
    · cases hv
      exact ⟨e, hlog ▸ List.mem_append_right _ List.mem_cons_self, he⟩
    · exact (h.grow hlog).noted k' v' hv

/-- The note a key stands for is known by its identifier. -/
theorem Journal.Keyed.notes (h : j.Keyed keys) (hn : (j.eventLog.map (·.id)).Nodup)
    (he : e ∈ j.eventLog) (hv : keys.get? k = some v) (hid : e.id = v.2.2) : e.Notes v := by
  obtain ⟨e', he', hnote⟩ := h.noted k v hv
  rwa [List.inj_on_of_nodup_map hn he he' (hid.trans hnote.id.symm)]

/-- The key of a note in the feed is among the newest, as there are no more notes than keys. -/
theorem Journal.Keyed.newest (h : j.Keyed keys) (hj : j.Fed w) (hf : w.FreshBelow j.draws)
    (hroom : j.events.countP (·.isNote) ≤ maxOperatorNotesRetained) (hv : keys.get? k = some v)
    (he : e ∈ j.events) (hnote : e.Notes v) : (newestNotes keys).get? k = some v := by
  rw [newestNotes, Dict.get?_foldl_erase, if_neg, hv]
  intro hold
  -- the keys from there on all stand for notes in the feed
  obtain ⟨i, hi, rest, hdrop⟩ := Dict.values_drop_of_mem_take hold hv
  have hnodup : j.noteLog.Nodup :=
    (hj.nodup hf).sublist (List.filter_sublist.map _)
  have hfeed : (j.events.filter (·.isNote)).map (·.id) <:+ j.noteLog := (hj.suffix.filter _).map _
  have hin : e.id ∈ (j.events.filter (·.isNote)).map (·.id) :=
    List.mem_map_of_mem (List.mem_filter.mpr ⟨he, decide_eq_true hnote.kind⟩)
  have hsub := ((List.drop_sublist i keys.values).map (·.2.2)).trans h.ordered
  rw [hdrop, List.map_cons, ← hnote.id] at hsub
  have hlen := (Window.sublist_of_head_mem hsub hfeed hnodup hin).length_le
  have hsize := congrArg List.length hdrop
  rw [List.length_drop, ← Dict.size_eq_length_values, List.length_cons] at hsize
  rw [List.length_cons, List.length_map, List.length_map, ← List.countP_eq_length_filter] at hlen
  omega

end keyed

/-! ### Writes -/

/-- A change of the records leaves the keys alone, unless it is a note's or a reset's. -/
theorem RecordChange.noteKeys {hi : ℕ} {c : Activity} {r : Records}
    (h : RecordChange w s hi c r) (hc : c ≠ .note) :
    r.noteIdempotency = s.noteIdempotency ∨ c = .reset ∧ r.noteIdempotency = .empty := by
  cases h with
  | rememberedNote => exact absurd rfl hc
  | cleared => exact .inr ⟨rfl, rfl⟩
  | _ => exact .inl rfl

/-- The feed, the log and the keys belong together. -/
structure LabState.Noted (w : World) (s : LabState) : Prop where
  fed : s.toJournal.Fed w
  keyed : s.toJournal.Keyed s.noteIdempotency

/-- A note is found under its key for as long as it is in the feed. -/
structure LabState.KeepsNote (k : PyStr) (v : PyStr × PyStr × PyStr) (e : Event) (s : LabState) :
    Prop where
  note : e.Notes v
  logged : e ∈ s.eventLog
  kept : e ∈ s.events → s.noteIdempotency.get? k = some v

section writes
variable {c : Activity} {r : NoteRequest} {k : PyStr} {v : PyStr × PyStr × PyStr} {e : Event}

theorem LabState.Noted.nodup (h : s.Noted w) (hf : w.FreshBelow s.draws) :
    (s.eventLog.map (·.id)).Nodup := h.fed.nodup hf

/-- A write that posts nothing keeps feed, log and keys together. -/
theorem LabState.Noted.write (h : s.Noted w) (hs : Safe w s) (hw : Write w s c s')
    (hc : c ≠ .note) : s'.Noted w := by
  obtain ⟨l, hl⟩ := hw.announces
  obtain ⟨new, hlog, -⟩ := hl.told.events_mem
  refine ⟨hl.told.fed h.fed, ?_⟩
  rcases (hw.records hs).noteKeys hc with hkeys | ⟨-, hkeys⟩
  · rw [hkeys]; exact h.keyed.grow hlog
  · rw [hkeys]; exact ⟨List.nil_sublist _, fun k v hv => by cases hv⟩

/-- An event logged before is none of the new ones. -/
theorem LabState.Noted.not_new (h' : s'.Noted w) (hf : w.FreshBelow s'.draws) {new : List Event}
    (hlog : s'.eventLog = s.eventLog ++ new) (he : e ∈ s.eventLog) : e ∉ new := by
  intro hnew
  have hnodup := h'.nodup hf
  rw [hlog, List.map_append, List.nodup_append] at hnodup
  exact hnodup.2.2 _ (List.mem_map_of_mem he) _ (List.mem_map_of_mem hnew) rfl

/-- Only the reset itself is in the feed after it. -/
theorem LabState.announceReset_feed (actor : PyStr) (s : LabState) :
    ∃ last, (s.announceReset w actor).eventLog = s.eventLog ++ [last] ∧
      ∀ e ∈ (s.announceReset w actor).events, e = last := by
  refine ⟨s.cleared.toJournal.event w
    { kind := .labReset, actor := actor, data := [("sessions_invalidated", .bool true)] }, ?_, ?_⟩
  · rw [announceReset, toJournal_auditLocked, toJournal_recordLocked, Journal.eventLog_auditLocked,
      Journal.eventLog_recordLocked]
    rfl
  · intro e he
    rw [announceReset, toJournal_auditLocked, toJournal_recordLocked, Journal.events_auditLocked,
      Journal.events_recordLocked] at he
    exact (Window.mem_push he).resolve_left (List.not_mem_nil)

/-- A write that posts nothing keeps a note under its key. -/
theorem LabState.KeepsNote.write (h : s.KeepsNote k v e) (hnoted : s.Noted w) (hs : Safe w s)
    (hw : Write w s c s') (hc : c ≠ .note) (hf : w.FreshBelow s'.draws) : s'.KeepsNote k v e := by
  obtain ⟨l, hl⟩ := hw.announces
  obtain ⟨new, hlog, hmem⟩ := hl.told.events_mem
  have hnoted' := hnoted.write hs hw hc
  refine ⟨h.note, hlog ▸ List.mem_append_left _ h.logged, fun he => ?_⟩
  by_cases hr : c = .reset
  · subst hr
    cases hw with
    | tick => exact h.kept he
    | failTask hc => rcases hc with hc | hc <;> cases hc
    | announceReset actor =>
      -- after a reset only its own event is in the feed
      obtain ⟨last, hlast, honly⟩ := s.announceReset_feed (w := w) actor
      have hnew := hnoted'.not_new hf hlast h.logged
      exact absurd (List.mem_singleton.mpr (honly e he)) hnew
  · rw [((hw.records hs).noteKeys hc).resolve_right fun hempty => hr hempty.1]
    exact h.kept ((hmem e he).resolve_right (hnoted'.not_new hf hlog h.logged))

/-- A note is one event and one entry. -/
theorem LabState.toJournal_postedNote (r : NoteRequest) (s : LabState) :
    (s.postedNote w r).toJournal = (s.toJournal.recordLocked w r.draft).auditLocked w r.entry := by
  have hlast : (s.postedNote w r).toJournal =
      ((s.forgetNote r.key).announceNote w r.actor r.message).toJournal := by
    unfold postedNote rememberNote
    split <;> rfl
  rw [hlast, ← s.toJournal_forgetNote r.key]
  rfl

theorem LabState.eventLog_postedNote (r : NoteRequest) (s : LabState) :
    (s.postedNote w r).eventLog = s.eventLog ++ [s.toJournal.event w r.draft] := by
  rw [toJournal_postedNote, Journal.eventLog_auditLocked, Journal.eventLog_recordLocked]

theorem LabState.events_postedNote (r : NoteRequest) (s : LabState) :
    (s.postedNote w r).events = Window.push maxEvents s.events (s.toJournal.event w r.draft) := by
  rw [toJournal_postedNote, Journal.events_auditLocked, Journal.events_recordLocked]

/-- The new event is the note its key stands for. -/
theorem NoteRequest.notes (r : NoteRequest) (s : LabState) :
    (s.toJournal.event w r.draft).Notes (r.actor, r.message, w.eventId s.draws) :=
  ⟨rfl, rfl, rfl, rfl⟩

/-- The keys before the oldest go, once the note of a request was posted. -/
def LabState.noteKeysWith (w : World) (r : NoteRequest) (s : LabState) :
    Dict PyStr (PyStr × PyStr × PyStr) :=
  match r.key with
  | none => s.noteIdempotency
  | some k => (s.noteIdempotency.erase k).set k (r.actor, r.message, w.eventId s.draws)

theorem LabState.noteIdempotency_postedNote (r : NoteRequest) (s : LabState) :
    (s.postedNote w r).noteIdempotency =
      if r.key.isSome then newestNotes (s.noteKeysWith w r) else s.noteKeysWith w r := by
  unfold postedNote rememberNote forgetNote noteKeysWith
  cases r.key <;> rfl

/-- A posted note keeps feed, log and keys together. -/
theorem LabState.Noted.posted (h : s.Noted w) (r : NoteRequest) :
    (s.postedNote w r).toJournal.Keyed (s.noteKeysWith w r) ∧ (s.postedNote w r).Noted w := by
  have hlog := s.eventLog_postedNote (w := w) r
  have hfed : (s.postedNote w r).toJournal.Fed w := by
    rw [toJournal_postedNote]
    exact ((Journal.Told.refl.record _).audit _).fed h.fed
  have hkeyed : (s.postedNote w r).toJournal.Keyed (s.noteKeysWith w r) := by
    unfold noteKeysWith
    split
    · exact h.keyed.grow hlog
    · exact (h.keyed.erase [_]).set hlog (r.notes s) (by simp [Dict.keys_erase])
  refine ⟨hkeyed, hfed, ?_⟩
  rw [noteIdempotency_postedNote]
  split
  · exact hkeyed.erase _
  · exact hkeyed

/-- What is known of a key before the oldest go is known of it after, if its note is in the feed. -/
theorem LabState.Noted.key_kept (h : s.Noted w) (hf : w.FreshBelow (s.postedNote w r).draws)
    (hroom : s.retainedNotes < maxOperatorNotesRetained) (he : e ∈ (s.postedNote w r).events)
    (hnote : e.Notes v) (hv : (s.noteKeysWith w r).get? k = some v) :
    (s.postedNote w r).noteIdempotency.get? k = some v := by
  obtain ⟨hkeyed, hnoted⟩ := h.posted r
  rw [noteIdempotency_postedNote]
  split
  · refine hkeyed.newest hnoted.fed hf ?_ hv he hnote
    have hnotes := ((Journal.Told.refl (w := w) (j := s.toJournal)).record r.draft |>.audit
      r.entry).notes
    rw [← toJournal_postedNote] at hnotes
    exact hnotes.trans hroom
  · exact hv

/-- A note in the feed is not taken for one that left it. -/
theorem LabState.Unposted.ne (hnew : s.Unposted r) {k' : PyStr} (hk : r.key = some k')
    (h : s.KeepsNote k v e) (he : e ∈ s.events) : k ≠ k' := by
  rintro rfl
  obtain ⟨-, -, hgone⟩ := hnew k hk v (h.kept he)
  simpa [h.note.id] using List.find?_eq_none.mp hgone e he

/-- Another note posted keeps a note under its key. -/
theorem LabState.KeepsNote.posted (h : s.KeepsNote k v e) (hnoted : s.Noted w)
    (hf : w.FreshBelow (s.postedNote w r).draws) (hnew : s.Unposted r)
    (hroom : s.retainedNotes < maxOperatorNotesRetained) :
    (s.postedNote w r).KeepsNote k v e := by
  have hlog := s.eventLog_postedNote (w := w) r
  refine ⟨h.note, hlog ▸ List.mem_append_left _ h.logged, fun he => ?_⟩
  have hfeed : e ∈ s.events := by
    have hmem := he
    rw [LabState.events_postedNote] at hmem
    refine (Window.mem_push hmem).resolve_right fun heq => ?_
    exact (hnoted.posted r).2.not_new hf hlog h.logged (by simp [heq])
  have hget := h.kept hfeed
  refine hnoted.key_kept hf hroom he h.note ?_
  unfold LabState.noteKeysWith
  split
  · exact hget
  · rename_i k' hk
    have hne := hnew.ne hk h hfeed
    rw [Dict.get?_set_ne _ _ hne, Dict.get?_erase, if_neg hne, hget]

/-- A note just posted is under its key. -/
theorem LabState.Noted.keeps_new (h : s.Noted w) (hf : w.FreshBelow (s.postedNote w r).draws)
    (hroom : s.retainedNotes < maxOperatorNotesRetained) (hk : r.key = some k) :
    (s.postedNote w r).KeepsNote k (r.actor, r.message, w.eventId s.draws)
      (s.toJournal.event w r.draft) := by
  refine ⟨r.notes s, by rw [LabState.eventLog_postedNote]; simp, fun he => ?_⟩
  refine h.key_kept hf hroom he (r.notes s) ?_
  unfold LabState.noteKeysWith
  rw [hk]
  exact Dict.get?_set_self _ _ _

/-- Dropping the key of a note that left the feed drops no other. -/
theorem LabState.Noted.forget (h : s.Noted w) (key : Option PyStr) :
    (s.forgetNote key).Noted w := by
  refine ⟨by rw [LabState.toJournal_forgetNote]; exact h.fed, ?_⟩
  rw [LabState.toJournal_forgetNote]
  unfold LabState.forgetNote
  split
  · exact h.keyed
  · exact h.keyed.erase [_]

theorem LabState.KeepsNote.forget (h : s.KeepsNote k v e) (hnew : s.Unposted r) :
    (s.forgetNote r.key).KeepsNote k v e := by
  have hj := s.toJournal_forgetNote r.key
  refine ⟨h.note, by rw [hj]; exact h.logged, fun he => ?_⟩
  rw [hj] at he
  unfold LabState.forgetNote
  split
  · exact h.kept he
  · rename_i k' hk
    rw [Dict.get?_erase, if_neg (hnew.ne hk h he), h.kept he]

end writes

/-! ### Operations -/

/-- An operation other than a note has no part in the keys. -/
theorem Ran.without_note {op : Op} (h : Ran w s op s')
    (hop : ∀ message actor key, op ≠ .postOperatorNote message actor key) :
    ∃ acts, .note ∉ acts ∧ Writes w acts s s' := by
  cases h with
  | plain h =>
    refine ⟨op.activities, fun hmem => ?_, h⟩
    cases op <;> simp [Op.activities] at hmem
    exact hop _ _ _ rfl
  | delivered h hd =>
    refine ⟨[.expiry, .refresh, .poll, .dispatch], by simp, ?_⟩
    exact ((h.mono (by simp)).write hd (by simp)).write (.tick .poll) (by simp)
  | accepted h hr hw =>
    refine ⟨[.expiry, .refresh, .result], by simp, ?_⟩
    exact ((h.mono (by simp)).write hr (by simp)).trans (hw.mono (by simp))

/-- The states a request for a note may leave. -/
theorem step_postOperatorNote (message actor key : Json) :
    step w s (.postOperatorNote message actor key) = s ∨ ∃ r : NoteRequest, s.Unposted r ∧
      (step w s (.postOperatorNote message actor key) = s.forgetNote r.key ∨
        s.retainedNotes < maxOperatorNotesRetained ∧
          step w s (.postOperatorNote message actor key) = s.postedNote w r) := by
  rw [step, Op.run, Prog.final_map_eq, Prog.final]
  cases hreq : noteRequest w message actor key with
  | error e => rw [postOperatorNote_invalid hreq]; exact .inl rfl
  | ok r =>
    have hends := noteEnds (s := s) hreq
    generalize postOperatorNote w message actor key s = x at hends
    cases hends with
    | replayed | conflict => exact .inl rfl
    | refused hnew => exact .inr ⟨r, hnew, .inl rfl⟩
    | posted hnew hroom => exact .inr ⟨r, hnew, .inr ⟨hroom, rfl⟩⟩

/-- `P` survives whatever requests for notes do to the state, and every other write. -/
structure NoteKept (w : World) (P : LabState → Prop) : Prop where
  write : ∀ {acts : List Activity}, .note ∉ acts → Kept w acts P
  forget : ∀ {s : LabState} {r : NoteRequest}, s.Unposted r → P s → P (s.forgetNote r.key)
  posted : ∀ {s : LabState} {r : NoteRequest}, s.Unposted r →
    s.retainedNotes < maxOperatorNotesRetained → w.FreshBelow (s.postedNote w r).draws → P s →
    P (s.postedNote w r)

theorem NoteKept.step {P : LabState → Prop} (h : NoteKept w P) (hs : Sound w s) (op : Op)
    (hf : w.FreshBelow (step w s op).draws) (hP : P s) : P (C2Lab.step w s op) := by
  have hran := (step_ends hs.safe hs.settled op).ran
  cases op with
  | postOperatorNote message actor key =>
    rcases step_postOperatorNote (w := w) (s := s) message actor key with
      heq | ⟨r, hnew, heq | ⟨hroom, heq⟩⟩
    · rw [heq]; exact hP
    · rw [heq]; exact h.forget hnew hP
    · rw [heq] at hf ⊢; exact h.posted hnew hroom hf hP
  | _ =>
    obtain ⟨acts, hacts, hw⟩ := hran.without_note (by simp)
    exact (h.write hacts).writes hw hs.safe hf hP

theorem NoteKept.later {P : LabState → Prop} (h : NoteKept w P) (hl : Later w s s')
    (hs : Sound w s) (hP : P s) : P s' := by
  induction hl with
  | refl => exact hP
  | tail hbefore hn ih =>
    obtain ⟨op, rfl, hf⟩ := hn
    exact h.step (Later.sound hbefore hs) op hf ih

theorem noted_kept (w : World) : NoteKept w fun s => s.Noted w where
  write hacts := ⟨fun hc hs _ hw h => h.write hs hw (ne_of_mem_of_not_mem hc hacts)⟩
  forget _ h := h.forget _
  posted _ _ _ h := (h.posted _).2

theorem keepsNote_kept (w : World) (k : PyStr) (v : PyStr × PyStr × PyStr) (e : Event) :
    NoteKept w fun s => s.Noted w ∧ s.KeepsNote k v e where
  write hacts := ⟨fun hc hs hf hw h => by
    have hne := ne_of_mem_of_not_mem hc hacts
    exact ⟨h.1.write hs hw hne, h.2.write h.1 hs hw hne hf⟩⟩
  forget hnew h := ⟨h.1.forget _, h.2.forget hnew⟩
  posted hnew hroom hf h := ⟨(h.1.posted _).2, h.2.posted h.1 hf hnew hroom⟩

theorem Reachable.noted (hr : Reachable w s) : s.Noted w := by
  obtain ⟨stream, hl⟩ := hr
  refine (noted_kept w).later hl (sound_init stream) ⟨⟨List.nil_suffix, [], ?_⟩, ?_⟩
  · simp [LabState.init]
  · exact ⟨List.nil_sublist _, fun k v hv => by cases hv⟩

/-- A request that was answered with a note leaves that note under its key. -/
theorem keeps_answered (hnoted : s.Noted w) (hf : w.FreshBelow s.draws) {message actor key : Json}
    {r : NoteRequest} {k : PyStr} {e : Event} (hreq : noteRequest w message actor key = .ok r)
    (hk : r.key = some k) (hpost : postOperatorNote w message actor key s = .ok e s')
    (hf' : w.FreshBelow s'.draws) : s'.Noted w ∧ s'.KeepsNote k (r.actor, r.message, e.id) e := by
  have hends := noteEnds (s := s) hreq
  rw [hpost] at hends
  cases hends with
  | replayed hk' hkey he =>
    obtain rfl := Option.some.inj (hk.symm.trans hk')
    have hlog := hnoted.fed.suffix.subset he
    exact ⟨hnoted, hnoted.keyed.notes (hnoted.nodup hf) hlog hkey rfl, hlog, fun _ => hkey⟩
  | posted hnew hroom => exact ⟨(hnoted.posted r).2, hnoted.keeps_new hf' hroom hk⟩

/-- A retained note keeps its key. Once a request with a key was answered with a note, then in every
    later state, as long as the note is in the feed, the key stands for the note's actor, message
    and identifier; the same request again gets that note and any other with the key is refused,
    with nothing changed. -/
theorem retained_note_keeps_key (hr : Reachable w s) {message actor key : Json} {r : NoteRequest}
    {k : PyStr} {e : Event} {s₁ s₂ : LabState} (hreq : noteRequest w message actor key = .ok r)
    (hk : r.key = some k) (hpost : postOperatorNote w message actor key s = .ok e s₁)
    (hf : w.FreshBelow s₁.draws) (hl : Later w s₁ s₂) (he : e ∈ s₂.events) :
    e.kind = .operatorNote ∧ e.actor = r.actor ∧ e.data = [("message", .str r.message)] ∧
    s₂.noteIdempotency.get? k = some (r.actor, r.message, e.id) ∧
    ∀ message' actor' key' r', noteRequest w message' actor' key' = .ok r' → r'.key = some k →
      postOperatorNote w message' actor' key' s₂ =
        if r'.actor = r.actor ∧ r'.message = r.message then .ok e s₂
        else .error noteConflict s₂ := by
  have hstep : step w s (.postOperatorNote message actor key) = s₁ := by
    rw [step, Op.run, Prog.final_map_eq, Prog.final, hpost]
  have hr₁ : Reachable w s₁ := hstep ▸ hr.step (hstep ▸ hf)
  have hkeeps := keeps_answered hr.noted hr.fresh hreq hk hpost hf
  obtain ⟨hnoted, hkeep⟩ := (keepsNote_kept w k _ e).later hl hr₁.sound hkeeps
  have hget := hkeep.kept he
  refine ⟨hkeep.note.kind, hkeep.note.actor, hkeep.note.data, hget, ?_⟩
  intro message' actor' key' r' hreq' hk'
  have hfind := hnoted.fed.find?_eq (hr₁.later hl).fresh he
  rw [postOperatorNote_eq hreq', hk', Option.bind_some, hget]
  simp only [hfind]
  by_cases hsame : r'.actor = r.actor ∧ r'.message = r.message
  · rw [if_pos hsame, if_neg (by simp [hsame])]
  · rw [if_neg hsame, if_pos]
    rwa [← not_and_or, eq_comm, @eq_comm _ r.message]

namespace Counting

/-- What comes after a first note: a Node, another note, a task, and the first note again. -/
def chatter : List Op :=
  [.postOperatorNote (.str "note") (.str "operator") (.str "note-key-1"), enroll,
    .postOperatorNote (.str "reply") (.str "operator") (.str "note-key-2"),
    queue .ping (.obj []), poll 11]

end Counting

/-- A Node, another note and a task later the first note still answers for its key. -/
theorem retained_note_keeps_key_chatter :
    let s₂ := exec .counting (.init "stream") Counting.chatter
    ∃ e s₁, postOperatorNote .counting (.str "note") (.str "operator") (.str "note-key-1")
        (.init "stream") = .ok e s₁ ∧ Later .counting s₁ s₂ ∧ e ∈ s₂.events ∧
      (s₂.noteIdempotency.get? "note-key-1").map (·.2.2) = some e.id ∧
      postOperatorNote .counting (.str "note") (.str "operator") (.str "note-key-1") s₂ =
        .ok e s₂ ∧
      postOperatorNote .counting (.str "other") (.str "operator") (.str "note-key-1") s₂ =
        .error noteConflict s₂ := by
  intro s₂
  have hreq : noteRequest .counting (.str "note") (.str "operator") (.str "note-key-1") =
      .ok ⟨"operator", "note", some "note-key-1"⟩ := by with_unfolding_all rfl
  have hother : noteRequest .counting (.str "other") (.str "operator") (.str "note-key-1") =
      .ok ⟨"operator", "other", some "note-key-1"⟩ := by with_unfolding_all rfl
  obtain ⟨e, s₁, hpost, hf⟩ := Counting.exists_returned (m := postOperatorNote .counting
    (.str "note") (.str "operator") (.str "note-key-1")) (s := .init "stream") (by decide)
  have hfirst : step .counting (.init "stream")
      (.postOperatorNote (.str "note") (.str "operator") (.str "note-key-1")) = s₁ := by
    rw [step, Op.run, Prog.final_map_eq, Prog.final, hpost]
  have hr : Reachable .counting s₂ := World.counting_reachable "stream" _ (by decide +kernel)
  have hl : Later .counting s₁ s₂ :=
    hfirst ▸ World.counting_later _ Counting.chatter.tail (by decide +kernel)
  have hkeep := (keepsNote_kept .counting "note-key-1" _ e).later hl
    (hfirst ▸ (Reachable.step ⟨"stream", .refl⟩ (hfirst ▸ hf))).sound
    (keeps_answered (Reachable.noted ⟨"stream", .refl⟩) (Reachable.fresh ⟨"stream", .refl⟩)
        hreq rfl hpost hf)
  have hall : s₂.events = s₂.eventLog :=
    hkeep.1.fed.suffix.eq_of_length (by decide +kernel)
  have he : e ∈ s₂.events := hall ▸ hkeep.2.logged
  obtain ⟨-, -, -, hget, hagain⟩ :=
    retained_note_keeps_key ⟨"stream", .refl⟩ hreq rfl hpost hf hl he
  exact ⟨e, s₁, hpost, hl, he, congrArg (Option.map (·.2.2)) hget, hagain _ _ _ _ hreq rfl,
    hagain _ _ _ _ hother rfl⟩

end C2Lab
