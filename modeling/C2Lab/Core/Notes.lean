import C2Lab.Core.Bounds

/-! Requests for operator notes.

    A checked request ends in one of four ways: its note is there already, its key belongs to
    another note, there is no room, or it is posted. The last two come after the key of a note that
    left the feed was dropped, so a request refused for want of room may still cost a key. -/

namespace C2Lab

variable {w : World} {s s' : LabState}

/-! ### Requests -/

/-- The arguments of `post_operator_note`, checked. -/
structure NoteRequest where
  actor : PyStr
  message : PyStr
  key : Option PyStr

/-- The checks of `post_operator_note` on its arguments. -/
def noteRequest (w : World) (message actor idempotencyKey : Json) : Except Exc NoteRequest := do
  let actor ← validateOperatorActor actor
  let message ← protocolCall (cleanText w.toInterp message "message" maxOperatorNoteLength)
  let key ← validateIdempotencyKey idempotencyKey
  return ⟨actor, message, key⟩

/-- The event of a note, as drafted. -/
def NoteRequest.draft (r : NoteRequest) : EventDraft :=
  { kind := .operatorNote, actor := r.actor, data := [("message", .str r.message)] }

/-- The audit entry of a note. -/
def NoteRequest.entry (r : NoteRequest) : AuditDraft :=
  { action := .operatorNote, actor := r.actor, outcome := "accepted"
    reason := some "shared_event_feed" }

/-- The answer to a key that was used for another note. -/
def noteConflict : Exc :=
  labError "Idempotency-Key was already used for a different note request"
    "idempotency_conflict" 409

/-- The answer to one note too many. -/
def noteLimit : Exc := labError "operator note retention limit reached" "note_limit" 429

/-- The newest of the keys, as many as there may be notes. -/
def newestNotes (keys : Dict PyStr (PyStr × PyStr × PyStr)) : Dict PyStr (PyStr × PyStr × PyStr) :=
  (keys.keys.take (keys.size - maxOperatorNotesRetained)).foldl Dict.erase keys

namespace LabState

/-- The keys without the one a request brings. -/
def forgetNote (key : Option PyStr) (s : LabState) : LabState :=
  match key with
  | none => s
  | some k => { s with noteIdempotency := s.noteIdempotency.erase k }

/-- The keys with the newest one, the oldest gone while there are too many. -/
def rememberNote (r : NoteRequest) (id : PyStr) (s : LabState) : LabState :=
  match r.key with
  | none => s
  | some k =>
    { s with noteIdempotency := newestNotes (s.noteIdempotency.set k (r.actor, r.message, id)) }

/-- The state once the note of a request was posted. -/
def postedNote (w : World) (r : NoteRequest) (s : LabState) : LabState :=
  ((s.forgetNote r.key).announceNote w r.actor r.message).rememberNote r (w.eventId s.draws)

/-- No note of a request is known: its key is new, or its note left the feed. -/
def Unposted (r : NoteRequest) (s : LabState) : Prop :=
  ∀ k, r.key = some k → ∀ v, s.noteIdempotency.get? k = some v →
    v.1 = r.actor ∧ v.2.1 = r.message ∧ s.events.find? (fun e => e.id = v.2.2) = none

end LabState

/-- How a checked request ends. -/
inductive NoteEnds (w : World) (s : LabState) (r : NoteRequest) :
    EStateM.Result Exc LabState Event → Prop
  | replayed {k : PyStr} {e : Event} (hk : r.key = some k)
      (hkey : s.noteIdempotency.get? k = some (r.actor, r.message, e.id)) (he : e ∈ s.events) :
      NoteEnds w s r (.ok e s)
  | conflict {k : PyStr} {v : PyStr × PyStr × PyStr} (hk : r.key = some k)
      (hkey : s.noteIdempotency.get? k = some v) (hne : v.1 ≠ r.actor ∨ v.2.1 ≠ r.message) :
      NoteEnds w s r (.error noteConflict s)
  | refused (hnew : s.Unposted r) (hfull : maxOperatorNotesRetained ≤ s.retainedNotes) :
      NoteEnds w s r (.error noteLimit (s.forgetNote r.key))
  | posted (hnew : s.Unposted r) (hroom : s.retainedNotes < maxOperatorNotesRetained) :
      NoteEnds w s r (.ok (s.toJournal.event w r.draft) (s.postedNote w r))

theorem LabState.toJournal_forgetNote (key : Option PyStr) (s : LabState) :
    (s.forgetNote key).toJournal = s.toJournal := by
  unfold forgetNote
  split <;> rfl

/-- Forgetting an absent key changes nothing. -/
theorem LabState.forgetNote_eq {key : Option PyStr}
    (h : ∀ k, key = some k → s.noteIdempotency.get? k = none) : s.forgetNote key = s := by
  cases key with
  | none => rfl
  | some k => rw [forgetNote, Dict.erase_of_not_mem (Dict.get?_eq_none.mp (h k rfl))]

theorem appendNote_eq (r : NoteRequest) (s : LabState) :
    appendNote w r.actor r.message r.key s =
      if s.retainedNotes < maxOperatorNotesRetained then
        .ok (s.toJournal.event w r.draft)
          ((s.announceNote w r.actor r.message).rememberNote r (w.eventId s.draws))
      else .error noteLimit s := by
  unfold appendNote Prog.require
  by_cases hroom : s.retainedNotes < maxOperatorNotesRetained
  · cases hkey : r.key <;>
      simp [bind, EStateM.bind, Prog.get_apply, hroom, Prog.modify_apply, pure, EStateM.pure,
        LabState.rememberNote, newestNotes, hkey,
        LabState.announceNote, NoteRequest.draft, Journal.event]
  · simp [bind, EStateM.bind, Prog.get_apply, hroom, Prog.throw_apply, noteLimit]

/-- The checks of the arguments come first. -/
theorem postOperatorNote_eq {message actor key : Json} {r : NoteRequest}
    (h : noteRequest w message actor key = .ok r) :
    postOperatorNote w message actor key s =
      match r.key, r.key.bind s.noteIdempotency.get? with
      | some k, some (existingActor, existingMessage, eventId) =>
        if existingActor ≠ r.actor ∨ existingMessage ≠ r.message then .error noteConflict s
        else
          match s.events.find? (fun e => e.id = eventId) with
          | some event => .ok event s
          | none => appendNote w r.actor r.message r.key (s.forgetNote (some k))
      | _, _ => appendNote w r.actor r.message r.key s := by
  unfold noteRequest at h
  cases ha : validateOperatorActor actor with
  | error e => rw [ha] at h; cases h
  | ok a =>
    cases hm : protocolCall (cleanText w.toInterp message "message" maxOperatorNoteLength) with
    | error e => rw [ha, hm] at h; cases h
    | ok m =>
      cases hk : validateIdempotencyKey key with
      | error e => rw [ha, hm, hk] at h; cases h
      | ok k =>
        rw [ha, hm, hk] at h
        obtain rfl : ⟨a, m, k⟩ = r := Except.ok.inj h
        unfold postOperatorNote
        simp only [ha, hm, hk, check, bind, EStateM.bind, pure, EStateM.pure, Prog.get_apply]
        cases k with
        | none => rfl
        | some k =>
          cases hv : s.noteIdempotency.get? k with
          | none => simp [hv]
          | some v =>
            simp only [Option.bind_some, hv]
            split
            · rfl
            · cases s.events.find? fun e => e.id = v.2.2 <;> rfl

/-- A request with a bad argument is refused, nothing else having been looked at. -/
theorem postOperatorNote_invalid {message actor key : Json} {e : Exc}
    (h : noteRequest w message actor key = .error e) :
    postOperatorNote w message actor key s = .error e s := by
  unfold noteRequest at h
  unfold postOperatorNote
  cases ha : validateOperatorActor actor with
  | error e' => rw [ha] at h; cases h; rfl
  | ok a =>
    cases hm : protocolCall (cleanText w.toInterp message "message" maxOperatorNoteLength) with
    | error e' => rw [ha, hm] at h; cases h; rfl
    | ok m =>
      cases hk : validateIdempotencyKey key with
      | error e' => rw [ha, hm, hk] at h; cases h; rfl
      | ok k => rw [ha, hm, hk] at h; cases h

/-- `post_operator_note` ends in one of four ways. -/
theorem noteEnds {message actor key : Json} {r : NoteRequest}
    (h : noteRequest w message actor key = .ok r) :
    NoteEnds w s r (postOperatorNote w message actor key s) := by
  have happend : ∀ {s₁ : LabState}, s₁ = s.forgetNote r.key → s.Unposted r →
      NoteEnds w s r (appendNote w r.actor r.message r.key s₁) := by
    rintro s₁ rfl hnew
    have hj := s.toJournal_forgetNote r.key
    have hnotes : (s.forgetNote r.key).retainedNotes = s.retainedNotes := by
      unfold LabState.retainedNotes; rw [hj]
    rw [appendNote_eq, hnotes, hj]
    split
    · rename_i hroom
      exact .posted hnew hroom
    · rename_i hfull
      exact .refused hnew (not_lt.mp hfull)
  rw [postOperatorNote_eq h]
  split
  · rename_i k a m id hk hkey
    rw [hk, Option.bind_some] at hkey
    split
    · rename_i hne
      exact .conflict hk hkey hne
    · rename_i heq
      rw [not_or, not_not, not_not] at heq
      obtain ⟨rfl, rfl⟩ := heq
      split
      · rename_i e he
        obtain rfl : e.id = id := by simpa using List.find?_some he
        exact .replayed hk hkey (List.mem_of_find?_eq_some he)
      · rename_i he
        refine happend (by rw [hk]) fun k' hk' v hv => ?_
        obtain rfl : k = k' := Option.some.inj (hk.symm.trans hk')
        obtain rfl := Option.some.inj (hkey.symm.trans hv)
        exact ⟨rfl, rfl, he⟩
  · rename_i hnone
    have hnew : ∀ k, r.key = some k → s.noteIdempotency.get? k = none := fun k hk => by
      cases hv : s.noteIdempotency.get? k with
      | none => rfl
      | some v => exact absurd (by rw [hk, Option.bind_some, hv]) (hnone k v.1 v.2.1 v.2.2 hk)
    exact happend (LabState.forgetNote_eq hnew).symm fun k hk v hv => by
      rw [hnew k hk] at hv; cases hv

end C2Lab
