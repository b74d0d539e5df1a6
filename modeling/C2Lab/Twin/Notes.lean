import C2Lab.Twin.Exercises

/-! Notes, the reset and the expiry pass as operations, on a state and on its renamed twin. -/

namespace C2Lab

open Prog

variable {py : Interp} {ρ : Renaming py} {w w' : World} {s s' : LabState}

namespace Renaming

/-- Two notes that are checked alike, the text of the second being the renamed one. -/
def SameMessage (ρ : Renaming py) (message message' : Json) : Prop :=
  cleanText py message' "message" maxOperatorNoteLength =
    (cleanText py message "message" maxOperatorNoteLength).map ρ.text.name

theorem protocolCall_map {α β : Type} (f : α → β) (x : Except Exc α) :
    protocolCall (x.map f) = (protocolCall x).map f := by
  cases x with
  | ok a => rfl
  | error e => cases e <;> rfl

namespace Sim

theorem note_get? (h : ρ.Sim w w' s s') (hρ : ρ.histories) (key : Option PyStr) :
    (key.map ρ.key.name).bind s'.noteIdempotency.get? =
      (key.bind s.noteIdempotency.get?).map ρ.note := by
  cases key with
  | none => rfl
  | some k =>
    simp only [Option.map_some, Option.bind_some, (h.history hρ).notes, Dict.get?_rename]

theorem retainedNotes (h : ρ.Sim w w' s s') (hρ : ρ.histories) :
    s'.retainedNotes = s.retainedNotes := by
  unfold LabState.retainedNotes
  rw [(h.history hρ).events, List.countP_map]
  rfl

/-- A change of the note keys on both sides. -/
theorem setNotes (h : ρ.Sim w w' s s') {d d' : Dict PyStr (PyStr × PyStr × PyStr)}
    (hd : ρ.histories → d' = d.rename ρ.key.name ρ.key.name_injective ρ.note) :
    ρ.Sim w w' { s with noteIdempotency := d } { s' with noteIdempotency := d' } :=
  { h with
    history := fun hρ =>
      let hh := h.history hρ
      ⟨hh.events, hh.auditEntries, hh.eventSequence, hh.auditSequence, hd hρ⟩ }

theorem findEvent (h : ρ.Sim w w' s s') (hρ : ρ.histories) (id : PyStr) :
    s'.events.find? (fun e => e.id = id) =
      (s.events.find? fun e => e.id = id).map ρ.event := by
  rw [(h.history hρ).events, List.find?_map]
  rfl

end Sim

end Renaming

theorem twin_appendNote (h : ρ.Sim w w' s s') (hρ : ρ.histories) (actor message : PyStr)
    (key : Option PyStr) :
    Alike (ρ.Sim w w') (fun e e' => e' = ρ.event e) (appendNote w actor message key)
      (appendNote w' (ρ.actor.name actor) (ρ.text.name message) (key.map ρ.key.name)) s s' := by
  unfold appendNote
  generalize maxOperatorNotesRetained = limit
  refine alike_get ?_
  refine alike_bind (alike_require _ (by rw [h.retainedNotes hρ]) h) fun _ _ t t' _ ht => ?_
  have hdraft : ({ kind := .operatorNote, actor := ρ.actor.name actor
                   data := [("message", .str (ρ.text.name message))] } : EventDraft) =
      ρ.draft { kind := .operatorNote, actor := actor, data := [("message", .str message)] } := by
    rw [ρ.actor_name hρ]
    rfl
  have hevent := h.event hρ
    { kind := .operatorNote, actor := actor, data := [("message", .str message)] }
  rw [← hdraft] at hevent
  refine alike_modify_bind ((ht.record fun _ => hdraft).audit fun _ => by rw [ρ.actor_name hρ])
    fun hu => ?_
  simp only [hevent]
  generalize Journal.event w _ s.toJournal = event
  refine alike_modify_bind ?_ fun hv => alike_pure hv rfl
  cases key with
  | none => exact hu
  | some k =>
    refine hu.setNotes fun _ => ?_
    have hset : (t.noteIdempotency.rename ρ.key.name ρ.key.name_injective ρ.note).set
          (ρ.key.name k) (ρ.note (actor, message, event.id)) =
        (t.noteIdempotency.set k (actor, message, event.id)).rename ρ.key.name
          ρ.key.name_injective ρ.note := Dict.rename_set _ k _
    rw [← (ht.history hρ).notes] at hset
    rw [← Dict.rename_take_erase]
    exact congrArg (fun d : Dict PyStr (PyStr × PyStr × PyStr) =>
      (d.keys.take (d.size - limit)).foldl Dict.erase d) hset

/-- `post_operator_note`, the histories being compared. -/
theorem twin_postOperatorNote (h : ρ.Sim w w' s s') (hρ : ρ.histories) {message message' : Json}
    (hmessage : ρ.SameMessage message message') (actor key : Json) :
    Alike (ρ.Sim w w') (fun e e' => e' = ρ.event e) (postOperatorNote w message actor key)
      (postOperatorNote w' message' (ρ.actorArg actor) (ρ.keyArg key)) s s' := by
  unfold postOperatorNote
  rw [h.aligned.interp.1, h.aligned.interp.2, hmessage, Renaming.protocolCall_map]
  refine alike_bind (alike_check h (ρ.validate_actorArg actor) fun _ _ => rfl) ?_
  rintro actor _ t t' rfl ht
  refine alike_bind (alike_check ht rfl fun _ _ => rfl) ?_
  rintro message _ u u' rfl hu
  refine alike_bind (alike_check hu (ρ.validate_keyArg key) fun _ _ => rfl) ?_
  rintro key _ v v' rfl hv
  refine alike_get ?_
  rw [hv.note_get? hρ]
  cases key with
  | none => exact twin_appendNote hv hρ actor message none
  | some k =>
    simp only [Option.map_some, Option.bind_some]
    cases v.noteIdempotency.get? k with
    | none => exact twin_appendNote hv hρ actor message (some k)
    | some x =>
      obtain ⟨a, m, id⟩ := x
      refine alike_ite (by simp) (fun _ => alike_throw hv _) fun _ => ?_
      rw [hv.findEvent hρ]
      cases v.events.find? (fun e => e.id = id) with
      | some e => exact alike_pure hv rfl
      | none =>
        refine alike_modify_bind (hv.setNotes fun _ => ?_) fun hx =>
          twin_appendNote hx hρ actor message (some k)
        rw [(hv.history hρ).notes, Dict.rename_erase]

/-! ### Reset and expiry -/

theorem Renaming.Sim.cleared (h : ρ.Sim w w' s s') : ρ.Sim w w' s.cleared s'.cleared :=
  ⟨⟨rfl, rfl, rfl, rfl, rfl, rfl, h.taskSequence, h.streamId, fun hρ =>
    let hh := h.history hρ
    ⟨rfl, hh.auditEntries, hh.eventSequence, hh.auditSequence, rfl⟩⟩, h.aligned⟩

/-- `reset`. -/
theorem twin_reset (h : ρ.Sim w w' s s') (actor : Json) :
    AlikeUnit (ρ.Sim w w') (reset w actor) (reset w' (ρ.actorArg actor)) s s' := by
  unfold reset
  refine alike_bind (alike_check h (ρ.validate_actorArg actor) fun _ _ => rfl) ?_
  rintro actor _ t t' rfl ht
  refine alike_modify ((ht.cleared.record fun hρ => ?_).audit fun hρ => ?_) <;>
    rw [ρ.actor_name hρ]
  rfl

end C2Lab
