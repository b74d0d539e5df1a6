import C2Lab.Core.Counting
import C2Lab.Core.NoteKeys

/-! Refused notes.

    A request that is refused changes nothing, with one exception: the key of a note that left the
    feed goes before the room for another note is looked at. -/

namespace C2Lab

variable {w : World} {s s' : LabState}

/-! ### Refusals -/

/-- A request that repeats one whose note left the feed, while there is no room for another note. -/
def LabState.DropsKey (w : World) (message actor key : Json) (s : LabState) : Prop :=
  ∃ r k id, noteRequest w message actor key = .ok r ∧ r.key = some k ∧
    s.noteIdempotency.get? k = some (r.actor, r.message, id) ∧ (∀ e ∈ s.events, e.id ≠ id) ∧
    maxOperatorNotesRetained ≤ s.retainedNotes

/-- Dropping a present key changes the state. -/
theorem LabState.forgetNote_ne {k : PyStr} {v : PyStr × PyStr × PyStr}
    (h : s.noteIdempotency.get? k = some v) : s.forgetNote (some k) ≠ s := by
  intro heq
  have hkeys := congrArg (fun s : LabState => s.noteIdempotency.get? k) heq
  rw [h] at hkeys
  simp [forgetNote] at hkeys

/-- Such a request is refused, and its key is lost. -/
theorem LabState.DropsKey.refused {message actor key : Json} (h : s.DropsKey w message actor key) :
    ∃ s', postOperatorNote w message actor key s = .error noteLimit s' ∧ s' ≠ s := by
  obtain ⟨r, k, id, hreq, hk, hkey, hgone, hfull⟩ := h
  have hfind : s.events.find? (fun e => e.id = id) = none := by
    rw [List.find?_eq_none]
    exact fun e he heq => hgone e he (of_decide_eq_true heq)
  refine ⟨s.forgetNote (some k), ?_, LabState.forgetNote_ne hkey⟩
  rw [postOperatorNote_eq hreq, hk, Option.bind_some, hkey]
  simp only [hfind, ne_eq, not_true, or_self, if_false]
  rw [← hk, appendNote_eq, if_neg]
  unfold LabState.retainedNotes
  rw [LabState.toJournal_forgetNote]
  exact not_lt.mpr hfull

/-- A refused note changes nothing, unless the request repeats one whose note left the feed and
    there is no room for another: then its key is lost. -/
theorem refused_note (w : World) (s : LabState) (message actor key : Json) :
    (∀ e s', postOperatorNote w message actor key s = .error (.lab e) s' → s' = s) ↔
      ¬s.DropsKey w message actor key := by
  constructor
  · intro h hdrops
    obtain ⟨s', hrun, hne⟩ := hdrops.refused
    exact hne (h _ _ hrun)
  · intro hkeeps e s' hrun
    cases hreq : noteRequest w message actor key with
    | error e' =>
      rw [postOperatorNote_invalid hreq] at hrun
      cases hrun
      rfl
    | ok r =>
      have hends := noteEnds (s := s) hreq
      rw [hrun] at hends
      generalize hx : (EStateM.Result.error (Exc.lab e) s' : EStateM.Result _ _ Event) = x at hends
      cases hends with
      | replayed | posted => cases hx
      | conflict => cases hx; rfl
      | refused hnew hfull =>
        cases hx
        refine LabState.forgetNote_eq fun k hk => ?_
        cases hv : s.noteIdempotency.get? k with
        | none => rfl
        | some v =>
          obtain ⟨ha, hm, hgone⟩ := hnew k hk v hv
          refine absurd ⟨r, k, v.2.2, hreq, hk, ?_, fun e' he' hid => ?_, hfull⟩ hkeeps
          · rw [hv, ← ha, ← hm]
          · exact List.find?_eq_none.mp hgone e' he' (decide_eq_true hid)

/-! ### A key lost -/

namespace Counting

/-- A note; whatever else it does, it has its text. -/
def note (key : Json) : Op := .postOperatorNote (.str "note") (.str "operator") key

def noteKey : Json := .str "note-key-1"

/-- A result the Teamserver refuses: it leaves one event and changes no record. -/
def noise : Op :=
  .submitResult nodeId token (.str (World.counting.taskId 6)) (.str "odd") ⟨.null, rfl⟩ 11

/-- A task was handed to the Node. -/
def handed : LabState := exec .counting (.init "stream") [enroll, queue .ping (.obj []), poll 11]

/-- Since then there was nothing but notes and refused results. -/
def Handed (s : LabState) : Prop :=
  ∃ j keys, s = { handed with toJournal := j, noteIdempotency := keys }

/-- A refused result does not care about the histories and the keys. -/
theorem Handed.step_noise : ∃ t : NodeTask, ∀ s, Handed s →
    step .counting s noise = s.rejectResultLocked .counting t "invalid_result_envelope" := by
  have hsome : (handed.tasks.get? (World.counting.taskId 6)).isSome = true := by decide +kernel
  refine ⟨((handed.tasks.get? (World.counting.taskId 6)).get hsome).nodeTask, ?_⟩
  rintro _ ⟨j, keys, rfl⟩
  with_unfolding_all rfl

theorem Handed.step_note {s : LabState} (h : Handed s) (key : Json) :
    Handed (step .counting s (note key)) := by
  obtain ⟨j, keys, rfl⟩ := h
  rcases step_postOperatorNote (w := .counting) (s := { handed with
      toJournal := j, noteIdempotency := keys }) (.str "note") (.str "operator") key with
    heq | ⟨r, -, heq | ⟨-, heq⟩⟩ <;> rw [note, heq]
  · exact ⟨_, _, rfl⟩
  · unfold LabState.forgetNote
    split <;> exact ⟨_, _, rfl⟩
  · unfold LabState.postedNote LabState.rememberNote LabState.forgetNote
    split <;> exact ⟨_, _, rfl⟩

theorem step_note_draws (key : Json) (s : LabState) :
    (step .counting s (note key)).draws ≤ s.draws + 3 := by
  rcases step_postOperatorNote (w := .counting) (s := s) (.str "note") (.str "operator") key with
    heq | ⟨r, -, heq | ⟨-, heq⟩⟩ <;> rw [note, heq]
  · exact Nat.le_add_right _ _
  · rw [LabState.toJournal_forgetNote]; exact Nat.le_add_right _ _
  · rw [LabState.toJournal_postedNote, Journal.draws_auditLocked, Journal.draws_recordLocked]

/-- Notes change the histories and the keys only. -/
theorem Handed.notes {s : LabState} (h : Handed s) (hr : Reachable .counting s) (n : ℕ)
    (hd : s.draws + 3 * n ≤ 10 ^ 10) :
    let s' := exec .counting s (List.replicate n (note .null))
    Handed s' ∧ Reachable .counting s' ∧ s'.draws ≤ s.draws + 3 * n := by
  induction n generalizing s with
  | zero => exact ⟨h, hr, Nat.le_add_right _ _⟩
  | succ n ih =>
    have hdraws := step_note_draws .null s
    obtain ⟨h', hr', hd'⟩ := ih (h.step_note .null)
      (hr.step (World.counting_fresh (hdraws.trans (by omega)))) (by omega)
    exact ⟨h', hr', hd'.trans (by omega)⟩

/-- `s'` is `s` after `n` refused results. -/
structure Noisy (n : ℕ) (s s' : LabState) : Prop where
  handed : Handed s'
  reachable : Reachable .counting s'
  keys : s'.noteIdempotency = s.noteIdempotency
  draws : s'.draws = s.draws + 3 * n
  log : ∃ new : List Event, s'.eventLog = s.eventLog ++ new ∧ new.length = n ∧
    s'.events = new.foldl (Window.push maxEvents) s.events ∧ ∀ e ∈ new, e.isNote = false

/-- A refused result in the journal. -/
theorem rejected_journal (t : NodeTask) (reason : String) (s : LabState) :
    let s' := s.rejectResultLocked w t reason
    s'.draws = s.draws + 3 ∧ ∃ e : Event, e.isNote = false ∧ s'.eventLog = s.eventLog ++ [e] ∧
      s'.events = Window.push maxEvents s.events e := by
  intro s'
  refine ⟨rfl, _, ?_,
    (Journal.eventLog_auditLocked _ _ _).trans (Journal.eventLog_recordLocked _ _ _),
    (Journal.events_auditLocked _ _ _).trans (Journal.events_recordLocked _ _ _)⟩
  rfl

/-- One refused result more. -/
theorem Noisy.step {n : ℕ} {s s' : LabState} (h : Noisy n s s') (hd : s'.draws + 3 ≤ 10 ^ 10) :
    Noisy (n + 1) s (C2Lab.step .counting s' noise) := by
  obtain ⟨t, ht⟩ := Handed.step_noise
  rw [ht s' h.handed]
  obtain ⟨hdraws, e, he, hlog, hevents⟩ :=
    rejected_journal (w := .counting) t "invalid_result_envelope" s'
  obtain ⟨new, hlog', hlen, hevents', hnew⟩ := h.log
  refine ⟨?_, ?_, h.keys, ?_, new ++ [e], ?_, ?_, ?_, fun x hx => ?_⟩
  · obtain ⟨j, keys, heq⟩ := h.handed
    rw [heq]
    exact ⟨_, _, rfl⟩
  · rw [← ht s' h.handed] at hdraws ⊢
    exact h.reachable.step (World.counting_fresh (hdraws ▸ hd))
  · rw [hdraws, h.draws]; omega
  · rw [hlog, hlog', List.append_assoc]
  · rw [List.length_append, hlen, List.length_singleton]
  · rw [hevents, hevents', List.foldl_append, List.foldl_cons, List.foldl_nil]
  · rcases List.mem_append.mp hx with hx | hx
    · exact hnew x hx
    · rw [List.mem_singleton.mp hx]; exact he

/-- Refused results fill the feed. -/
theorem Noisy.exists {s : LabState} (h : Handed s) (hr : Reachable .counting s) (n : ℕ)
    (hd : s.draws + 3 * n ≤ 10 ^ 10) : ∃ s', Noisy n s s' := by
  induction n with
  | zero => exact ⟨s, h, hr, rfl, rfl, [], by simp⟩
  | succ n ih =>
    obtain ⟨s', h'⟩ := ih (by omega)
    exact ⟨_, h'.step (by rw [h'.draws]; omega)⟩

/-- A note with a key and two other events. -/
def keyed : LabState := exec .counting handed [note noteKey, noise, noise]

/-- As many notes more as there is room for. -/
def crowded : LabState := exec .counting keyed (List.replicate 99 (note .null))

theorem keyed_reachable : Reachable .counting keyed :=
  World.counting_reachable "stream" [enroll, queue .ping (.obj []), poll 11, note noteKey, noise,
    noise] (by decide +kernel)

theorem keyed_handed : Handed keyed := by
  obtain ⟨t, ht⟩ := Handed.step_noise
  have h : Handed (step .counting handed (note noteKey)) :=
    Handed.step_note ⟨handed.toJournal, handed.noteIdempotency, rfl⟩ noteKey
  have hnoise : ∀ {s}, Handed s → Handed (step .counting s noise) := fun {s} hs => by
    rw [ht s hs]
    obtain ⟨j, keys, rfl⟩ := hs
    exact ⟨_, _, rfl⟩
  exact hnoise (hnoise h)

/-- The requests of these runs. -/
def noteAs (key : Option PyStr) : NoteRequest := ⟨"operator", "note", key⟩

theorem noteRequest_unkeyed :
    noteRequest .counting (.str "note") (.str "operator") .null = .ok (noteAs none) := by
  with_unfolding_all rfl

theorem noteRequest_keyed :
    noteRequest .counting (.str "note") (.str "operator") noteKey =
      .ok (noteAs (some "note-key-1")) := by
  with_unfolding_all rfl

/-- The note with the key is among the first five events, behind the fourth there are 99 notes, and
    none of them is the fifth. -/
theorem crowded_feed :
    crowded.eventLog.length = 105 ∧ crowded.events.length = 105 ∧
    (crowded.eventLog.drop 4).countP (·.isNote) = 99 ∧
    (crowded.eventLog.drop 5).countP (·.isNote) = 99 ∧
    (∃ e ∈ crowded.eventLog.take 5, e.id = World.counting.eventId 18) ∧
    crowded.noteIdempotency.get? "note-key-1" =
      some ((noteAs none).actor, (noteAs none).message, World.counting.eventId 18) := by
  decide +kernel

theorem keyed_draws : keyed.draws ≤ 1000 := by decide +kernel

theorem crowded_handed : Handed crowded ∧ Reachable .counting crowded ∧ crowded.draws ≤ 2000 := by
  have hd : keyed.draws + 3 * 99 ≤ 2000 := (Nat.add_le_add_right keyed_draws _).trans (by norm_num)
  obtain ⟨hhanded, hr, hdraws⟩ := keyed_handed.notes keyed_reachable 99 (hd.trans (by norm_num))
  rw [crowded]
  exact ⟨hhanded, hr, hdraws.trans hd⟩

/-- Then the feed is filled with refused results until the note with the key is out of it. -/
theorem crowded_filled : ∃ m, Noisy 399 crowded m ∧ m.events = m.eventLog.drop 4 ∧
    m.eventLog.length = 504 ∧ m.eventLog.take 5 = crowded.eventLog.take 5 ∧
    m.retainedNotes = 99 ∧ (m.eventLog.drop 5).countP (·.isNote) = 99 ∧
    m.draws ≤ 4000 := by
  obtain ⟨hlog, hevents, hbefore, hafter, -⟩ := crowded_feed
  obtain ⟨hhanded, hr, hdraws⟩ := crowded_handed
  have hd : crowded.draws + 3 * 399 ≤ 4000 := (Nat.add_le_add_right hdraws _).trans (by norm_num)
  obtain ⟨m, hm⟩ := Noisy.exists hhanded hr 399 (hd.trans (by norm_num))
  obtain ⟨new, hlog', hlen, hfeed, hnew⟩ := hm.log
  have hnone : new.countP (·.isNote) = 0 :=
    List.countP_eq_zero.mpr fun e he hnote => by rw [hnew e he] at hnote; cases hnote
  have hall : crowded.events = Window.lastN maxEvents crowded.eventLog := by
    rw [Window.lastN_of_length_le (by rw [hlog]; decide)]
    exact hr.fed.suffix.eq_of_length (hevents.trans hlog.symm)
  have hlen' : m.eventLog.length = 504 := by rw [hlog', List.length_append, hlog, hlen]
  have hdrop : m.events = m.eventLog.drop 4 := by
    rw [hfeed, hall, Window.foldl_push_lastN, ← hlog', Window.lastN, hlen']
    rfl
  refine ⟨m, hm, hdrop, hlen', ?_, ?_, ?_, ?_⟩
  · rw [hlog', List.take_append_of_le_length (by omega)]
  · rw [LabState.retainedNotes_eq, hdrop, hlog', List.drop_append_of_le_length (by omega),
      List.countP_append, hbefore, hnone]
  · rw [hlog', List.drop_append_of_le_length (by omega), List.countP_append, hafter, hnone]
  · rw [hm.draws]; exact hd

/-- With one more note there are as many as there may be, and the key is still there. -/
theorem crowded_drops : ∃ s, Reachable .counting s ∧
    s.DropsKey .counting (.str "note") (.str "operator") noteKey := by
  obtain ⟨-, -, -, -, ⟨e, he, hid⟩, hkey⟩ := crowded_feed
  obtain ⟨m, hm, hdrop, hlen, htake, hroom, hnotes, hdraws⟩ := crowded_filled
  have hstep : step .counting m (note .null) = m.postedNote .counting (noteAs none) := by
    have hends := noteEnds (s := m) noteRequest_unkeyed
    rw [note, step, Op.run, Prog.final_map_eq, Prog.final]
    generalize postOperatorNote .counting (.str "note") (.str "operator") .null m = x at hends
    cases hends with
    | replayed hk | conflict hk => cases hk
    | refused _ hfull => rw [hroom] at hfull; exact absurd hfull (by decide)
    | posted => rfl
  have hdraws' := step_note_draws .null m
  have hr : Reachable .counting (step .counting m (note .null)) :=
    hm.reachable.step (World.counting_fresh (by omega))
  rw [hstep] at hr
  have hlog := m.eventLog_postedNote (w := .counting) (noteAs none)
  have hlast : (m.postedNote .counting (noteAs none)).events =
      (m.postedNote .counting (noteAs none)).eventLog.drop 5 := by
    rw [LabState.events_postedNote, hlog, hdrop, Window.push, Window.lastN, List.length_append,
      List.length_drop, hlen, ← List.drop_append_of_le_length (by omega), List.drop_drop,
      List.length_singleton]
    exact congrArg (List.drop · _) (by decide)
  refine ⟨_, hr, noteAs (some "note-key-1"), "note-key-1", World.counting.eventId 18,
    noteRequest_keyed, rfl, ?_, fun x hx hxid => ?_, ?_⟩
  · rw [LabState.noteIdempotency_postedNote]
    exact (congrArg (·.get? "note-key-1") hm.keys).trans hkey
  · -- the note with the key would be before the sixth event and behind the fifth
    have hnodup := hr.fed.nodup hr.fresh
    rw [hlast] at hx
    rw [← List.take_append_drop 5 (m.postedNote .counting (noteAs none)).eventLog, List.map_append,
      List.nodup_append] at hnodup
    refine hnodup.2.2 _ (List.mem_map_of_mem ?_) _ (List.mem_map_of_mem hx) (hid.trans hxid.symm)
    rw [hlog, List.take_append_of_le_length (by omega), htake]
    exact he
  · rw [LabState.retainedNotes_eq, hlast, hlog, List.drop_append_of_le_length (by omega),
      List.countP_append, hnotes]
    have hone : [m.toJournal.event .counting (noteAs none).draft].countP (·.isNote) = 1 := rfl
    rw [hone]
    decide

end Counting

/-- In that state the request is refused and changes the state. -/
theorem refused_note_crowded : ∃ s, Reachable .counting s ∧ ∃ e s',
    postOperatorNote .counting (.str "note") (.str "operator") Counting.noteKey s =
      .error (.lab e) s' ∧ s' ≠ s := by
  obtain ⟨s, hr, hdrops⟩ := Counting.crowded_drops
  obtain ⟨s', hrun, hne⟩ := hdrops.refused
  exact ⟨s, hr, _, s', hrun, hne⟩

end C2Lab
