import C2Lab.Core.Notices
import C2Lab.Lib.Alike
import C2Lab.Twin.Renaming

/-! Two states that differ by a renaming, and the elementary writes on both.

    `Twin` relates the states, `Aligned` the values still to be drawn; together they are `Sim`,
    which every write keeps when it is made on both sides. The histories are related only where the
    renaming asks for it: without them one side may have recorded more than the other. -/

namespace C2Lab

variable {py : Interp} {ρ : Renaming py} {w w' : World} {s s' : LabState}

/-- From `n` and from `n'` on the two worlds give the same values, tokens up to the renaming. -/
structure Renaming.Aligned (ρ : Renaming py) (w : World) (n : ℕ) (w' : World) (n' : ℕ) : Prop where
  interp : w.toInterp = py ∧ w'.toInterp = py
  uuid : ∀ k, w'.uuid (n' + k) = w.uuid (n + k)
  utcNow : ∀ k, w'.utcNow (n' + k) = w.utcNow (n + k)
  token : ∀ k, w'.token (n' + k) = ρ.token (w.token (n + k))

namespace Renaming.Aligned

variable {n n' : ℕ}

theorem later (h : ρ.Aligned w n w' n') (m : ℕ) : ρ.Aligned w (n + m) w' (n' + m) :=
  ⟨h.interp, fun k => by rw [Nat.add_assoc, h.uuid, Nat.add_assoc],
    fun k => by rw [Nat.add_assoc, h.utcNow, Nat.add_assoc],
    fun k => by rw [Nat.add_assoc, h.token, Nat.add_assoc]⟩

theorem ident (h : ρ.Aligned w n w' n') (pre : String) (len k : ℕ) :
    w'.ident pre len (n' + k) = w.ident pre len (n + k) := by
  rw [World.ident, World.ident, h.uuid]

end Renaming.Aligned

namespace Renaming

/-- The histories and the keys of the notes. -/
structure SameHistory (ρ : Renaming py) (s s' : LabState) : Prop where
  events : s'.events = s.events.map ρ.event
  auditEntries : s'.auditEntries = s.auditEntries
  eventSequence : s'.eventSequence = s.eventSequence
  auditSequence : s'.auditSequence = s.auditSequence
  notes : s'.noteIdempotency =
    s.noteIdempotency.rename ρ.key.name ρ.key.name_injective ρ.note

/-- The second state is the first one renamed. -/
structure Twin (ρ : Renaming py) (s s' : LabState) : Prop where
  nodes : s'.nodes = s.nodes.map ρ.node
  tasks : s'.tasks = s.tasks.map ρ.task
  tombstones : s'.taskResultTombstones = s.taskResultTombstones.map ρ.nodeTask
  exercises : s'.exercises = s.exercises.map ρ.exercise
  exerciseKeys : s'.exerciseIdempotency =
    s.exerciseIdempotency.rename ρ.key.name ρ.key.name_injective ρ.exerciseKey
  operations : s'.operationIdempotency =
    s.operationIdempotency.rename ρ.key.name ρ.key.name_injective ρ.operationRecord
  taskSequence : s'.taskSequence = s.taskSequence
  streamId : s'.streamId = s.streamId
  history : ρ.histories → ρ.SameHistory s s'

/-- Renamed, and about to draw the same values. -/
structure Sim (ρ : Renaming py) (w w' : World) (s s' : LabState) : Prop extends ρ.Twin s s' where
  aligned : ρ.Aligned w s.draws w' s'.draws

theorem twin_init (stream : String) : ρ.Twin (.init stream) (.init stream) :=
  ⟨rfl, rfl, rfl, rfl, rfl, rfl, rfl, rfl, fun _ => ⟨rfl, rfl, rfl, rfl, rfl⟩⟩

end Renaming

theorem Journal.eventSequence_recordLocked (w : World) (d : EventDraft) (j : Journal) :
    (j.recordLocked w d).eventSequence = j.eventSequence + 1 := by
  unfold recordLocked; rfl

theorem Journal.eventSequence_auditLocked (w : World) (d : AuditDraft) (j : Journal) :
    (j.auditLocked w d).eventSequence = j.eventSequence := by
  unfold auditLocked; rfl

namespace Renaming.Sim

/-! ### What both sides read -/

theorem now (h : ρ.Sim w w' s s') : w'.utcNow s'.draws = w.utcNow s.draws := h.aligned.utcNow 0

theorem now_later (h : ρ.Sim w w' s s') (k : ℕ) :
    w'.utcNow (s'.draws + k) = w.utcNow (s.draws + k) := h.aligned.utcNow k

theorem ident (h : ρ.Sim w w' s s') (pre : String) (len : ℕ) :
    w'.ident pre len s'.draws = w.ident pre len s.draws := h.aligned.ident pre len 0

theorem ident_later (h : ρ.Sim w w' s s') (pre : String) (len k : ℕ) :
    w'.ident pre len (s'.draws + k) = w.ident pre len (s.draws + k) := h.aligned.ident pre len k

theorem node_get? (h : ρ.Sim w w' s s') (id : PyStr) :
    s'.nodes.get? id = (s.nodes.get? id).map ρ.node := by rw [h.nodes, Dict.get?_map]

theorem task_get? (h : ρ.Sim w w' s s') (id : PyStr) :
    s'.tasks.get? id = (s.tasks.get? id).map ρ.task := by rw [h.tasks, Dict.get?_map]

theorem tombstone_get? (h : ρ.Sim w w' s s') (id : PyStr) :
    s'.taskResultTombstones.get? id = (s.taskResultTombstones.get? id).map ρ.nodeTask := by
  rw [h.tombstones, Dict.get?_map]

theorem exercise_get? (h : ρ.Sim w w' s s') (id : PyStr) :
    s'.exercises.get? id = (s.exercises.get? id).map ρ.exercise := by
  rw [h.exercises, Dict.get?_map]

theorem node_keys (h : ρ.Sim w w' s s') : s'.nodes.keys = s.nodes.keys := by
  rw [h.nodes, Dict.keys_map]

theorem task_keys (h : ρ.Sim w w' s s') : s'.tasks.keys = s.tasks.keys := by
  rw [h.tasks, Dict.keys_map]

theorem exercise_keys (h : ρ.Sim w w' s s') : s'.exercises.keys = s.exercises.keys := by
  rw [h.exercises, Dict.keys_map]

theorem node_values (h : ρ.Sim w w' s s') : s'.nodes.values = s.nodes.values.map ρ.node := by
  rw [h.nodes, Dict.values_map]

theorem task_values (h : ρ.Sim w w' s s') : s'.tasks.values = s.tasks.values.map ρ.task := by
  rw [h.tasks, Dict.values_map]

/-! ### What both sides write -/

/-- A branch that is taken on both sides or on neither. -/
theorem ite {c c' : Prop} [Decidable c] [Decidable c'] {t u t' u' : LabState} (hc : c' ↔ c)
    (ht : c → ρ.Sim w w' t t') (hu : ¬c → ρ.Sim w w' u u') :
    ρ.Sim w w' (if c then t else u) (if c' then t' else u') := by
  by_cases hcase : c
  · rw [if_pos hcase, if_pos (hc.mpr hcase)]
    exact ht hcase
  · rw [if_neg hcase, if_neg fun h => hcase (hc.mp h)]
    exact hu hcase

theorem tick (h : ρ.Sim w w' s s') : ρ.Sim w w' s.tick s'.tick :=
  { h with
    history := fun hρ =>
      let hh := h.history hρ
      ⟨hh.events, hh.auditEntries, hh.eventSequence, hh.auditSequence, hh.notes⟩
    aligned := h.aligned.later 1 }

theorem refuseAppend (h : ρ.Sim w w' s s') : ρ.Sim w w' s.refuseAppend s'.refuseAppend :=
  { h with
    history := fun hρ =>
      let hh := h.history hρ
      ⟨hh.events, hh.auditEntries, hh.eventSequence, hh.auditSequence, hh.notes⟩ }

/-- The same event, up to its free text. -/
theorem event (h : ρ.Sim w w' s s') (hρ : ρ.histories) (d : EventDraft) :
    s'.toJournal.event w' (ρ.draft d) = ρ.event (s.toJournal.event w d) := by
  simp only [Journal.event, Renaming.event, (h.history hρ).eventSequence, World.eventId, h.ident,
    h.now_later, correlation_draft]
  rfl

/-- One more event on both sides. -/
theorem record (h : ρ.Sim w w' s s') {d d' : EventDraft} (hd : ρ.histories → d' = ρ.draft d) :
    ρ.Sim w w' (s.recordLocked w d) (s'.recordLocked w' d') := by
  refine ⟨⟨?_, ?_, ?_, ?_, ?_, ?_, ?_, ?_, fun hρ => ?_⟩, h.aligned.later 2⟩
  · exact h.nodes
  · exact h.tasks
  · exact h.tombstones
  · exact h.exercises
  · exact h.exerciseKeys
  · exact h.operations
  · exact h.taskSequence
  · exact h.streamId
  · obtain rfl := hd hρ
    have hh := h.history hρ
    refine ⟨?_, ?_, ?_, ?_, hh.notes⟩ <;>
      rw [LabState.toJournal_recordLocked, LabState.toJournal_recordLocked]
    · rw [Journal.events_recordLocked, Journal.events_recordLocked, h.event hρ, hh.events,
        Window.push_map]
    · rw [Journal.auditEntries_recordLocked, Journal.auditEntries_recordLocked, hh.auditEntries]
    · rw [Journal.eventSequence_recordLocked, Journal.eventSequence_recordLocked, hh.eventSequence]
    · rw [Journal.auditSequence_recordLocked, Journal.auditSequence_recordLocked, hh.auditSequence]

/-- One more audit entry on both sides. -/
theorem audit (h : ρ.Sim w w' s s') {d d' : AuditDraft} (hd : ρ.histories → d' = d) :
    ρ.Sim w w' (s.auditLocked w d) (s'.auditLocked w' d') := by
  refine ⟨⟨?_, ?_, ?_, ?_, ?_, ?_, ?_, ?_, fun hρ => ?_⟩, h.aligned.later 1⟩
  · exact h.nodes
  · exact h.tasks
  · exact h.tombstones
  · exact h.exercises
  · exact h.exerciseKeys
  · exact h.operations
  · exact h.taskSequence
  · exact h.streamId
  · obtain rfl := hd hρ
    have hh := h.history hρ
    have hentry : s'.toJournal.entry w' d' = s.toJournal.entry w d' := by
      simp only [Journal.entry, hh.auditSequence, h.now]
    refine ⟨?_, ?_, ?_, ?_, hh.notes⟩ <;>
      rw [LabState.toJournal_auditLocked, LabState.toJournal_auditLocked]
    · rw [Journal.events_auditLocked, Journal.events_auditLocked, hh.events]
    · rw [Journal.auditEntries_auditLocked, Journal.auditEntries_auditLocked, hentry,
        hh.auditEntries]
    · rw [Journal.eventSequence_auditLocked, Journal.eventSequence_auditLocked, hh.eventSequence]
    · rw [Journal.auditSequence_auditLocked, Journal.auditSequence_auditLocked, hh.auditSequence]

/-- A change of the records that leaves the histories and the draws alone. -/
theorem records (h : ρ.Sim w w' s s') {t t' : LabState} (hj : t.toJournal = s.toJournal)
    (hj' : t'.toJournal = s'.toJournal) (hnotes : t.noteIdempotency = s.noteIdempotency)
    (hnotes' : t'.noteIdempotency = s'.noteIdempotency)
    (ht : (ρ.histories → ρ.SameHistory t t') → ρ.Twin t t') : ρ.Sim w w' t t' := by
  have hhistory : ρ.histories → ρ.SameHistory t t' := by
    intro hρ
    obtain ⟨h₁, h₂, h₃, h₄, h₅⟩ := h.history hρ
    rw [← hj, ← hj'] at h₁ h₂ h₃ h₄
    rw [← hnotes, ← hnotes'] at h₅
    exact ⟨h₁, h₂, h₃, h₄, h₅⟩
  have haligned := h.aligned
  rw [← hj, ← hj'] at haligned
  exact ⟨ht hhistory, haligned⟩

theorem setTask (h : ρ.Sim w w' s s') {t t' : Task} (ht : t' = ρ.task t) :
    ρ.Sim w w' (s.setTask t) (s'.setTask t') := by
  subst ht
  refine h.records rfl rfl rfl rfl fun hh => ?_
  refine ⟨h.nodes, ?_, h.tombstones, h.exercises, h.exerciseKeys, h.operations, h.taskSequence,
    h.streamId, hh⟩
  show s'.tasks.set t.id (ρ.task t) = (s.tasks.set t.id t).map ρ.task
  rw [h.tasks, Dict.map_set]

theorem setNode (h : ρ.Sim w w' s s') {n n' : Node} (hn : n' = ρ.node n) :
    ρ.Sim w w' (s.setNode n) (s'.setNode n') := by
  subst hn
  refine h.records rfl rfl rfl rfl fun hh => ?_
  refine ⟨?_, h.tasks, h.tombstones, h.exercises, h.exerciseKeys, h.operations, h.taskSequence,
    h.streamId, hh⟩
  show s'.nodes.set n.id (ρ.node n) = (s.nodes.set n.id n).map ρ.node
  rw [h.nodes, Dict.map_set]

theorem setExercise (h : ρ.Sim w w' s s') {e e' : Exercise} (he : e' = ρ.exercise e) :
    ρ.Sim w w' (s.setExercise e) (s'.setExercise e') := by
  subst he
  refine h.records rfl rfl rfl rfl fun hh => ?_
  refine ⟨h.nodes, h.tasks, h.tombstones, ?_, h.exerciseKeys, h.operations, h.taskSequence,
    h.streamId, hh⟩
  show s'.exercises.set e.id (ρ.exercise e) = (s.exercises.set e.id e).map ρ.exercise
  rw [h.exercises, Dict.map_set]

end Renaming.Sim

end C2Lab
