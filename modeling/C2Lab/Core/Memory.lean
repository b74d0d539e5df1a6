import C2Lab.Core.Bounds
import C2Lab.Core.Taking

/-! What the Teamserver remembers of the results it accepted.

    Retention puts a tombstone in the place of an accepted task, and a full store gives up its
    oldest one. One operation removes no more tasks than the store has room for, so all that it can
    forget are tombstones that were there before it. -/

namespace C2Lab

variable {w : World} {s m m' : LabState} {c : Activity} {shed : List (PyStr × NodeTask)}

/-! ### Writes -/

/-- A write other than retention's and a reset's leaves an accepted task as it is. -/
theorem Write.keeps_accepted (hs : Safe w m) (hw : Write w m c m') (hp : c ≠ .prune)
    (hr : c ≠ .reset) (hf : w.FreshBelow m'.draws) {id : PyStr} {t : Task}
    (ht : m.tasks.get? id = some t) (hacc : t.resultAccepted = true) :
    m'.tasks.get? id = some t := by
  have hchange := (hw.records hs).task id
  generalize m'.tasks.get? id = x at hchange
  cases hchange with
  | same => exact ht
  | edited ht' _ he =>
    obtain rfl := Option.some.inj (ht.symm.trans ht')
    rw [(hs.task_wf ht).not_accepted he.was_live] at hacc
    cases hacc
  | added _ _ hid hd =>
    obtain ⟨k, hk, heq⟩ := hs.task_drawn ht
    exact absurd (heq.symm.trans hid) (taskId_fresh hf hk hd)
  | pruned => exact absurd rfl hp
  | cleared => exact absurd rfl hr

/-- Without retention and a reset nothing is forgotten. -/
theorem accepted_kept (w : World) {acts : List Activity} (hp : .prune ∉ acts) (hr : .reset ∉ acts)
    {id : PyStr} {t : Task} (hacc : t.resultAccepted = true) :
    Kept w acts fun m => m.tasks.get? id = some t :=
  ⟨fun hc hs hf hw ht =>
    hw.keeps_accepted hs (fun h => hp (h ▸ hc)) (fun h => hr (h ▸ hc)) hf ht hacc⟩

/-! ### An operation that removes tasks -/

/-- From `s` on, nothing was accepted or cleared, and retention put the tombstones `shed` in the
    place of their tasks. -/
structure Sheds (s m : LabState) (shed : List (PyStr × NodeTask)) : Prop where
  store : m.taskResultTombstones.entries =
    shed.foldl (Window.push maxTaskResultTombstones) s.taskResultTombstones.entries
  distinct : (shed.map Prod.fst).Nodup
  gone : ∀ id ∈ shed.map Prod.fst, (∃ t, s.tasks.get? id = some t) ∧ m.tasks.get? id = none
  kept : ∀ id t, s.tasks.get? id = some t → t.resultAccepted = true →
    m.tasks.get? id = some t ∨ id ∈ shed.map Prod.fst
  old : ∀ id t, m.tasks.get? id = some t → t.resultAccepted = true → s.tasks.get? id = some t

namespace Sheds

theorem refl (s : LabState) : Sheds s s [] :=
  ⟨rfl, List.nodup_nil, by simp, fun _ _ ht _ => .inl ht, fun _ _ ht _ => ht⟩

/-- Retention adds the tombstone of the task it removes, if it has one. -/
theorem prune (h : Sheds s m shed) (hm : Safe w m) {t : Task} (ht : m.tasks.get? t.id = some t) :
    Sheds s (m.pruneTerminalTaskLocked w t) (shed ++ t.tombstone.toList) := by
  have hnone : m.taskResultTombstones.get? t.id = none := by
    cases hr : m.taskResultTombstones.get? t.id with
    | none => rfl
    | some r => exact absurd ht (by rw [(hm.tombstones _ _ hr).pruned]; simp)
  have hnew : t.id ∉ shed.map Prod.fst := fun hid => by
    rw [(h.gone _ hid).2] at ht
    cases ht
  have hlast (id : PyStr) :
      id ∈ t.tombstone.toList.map Prod.fst ↔ id = t.id ∧ t.resultAccepted = true := by
    unfold Task.tombstone
    split <;> simp [*]
  refine ⟨?_, ?_, fun id hid => ?_, fun id u hu hacc => ?_, fun id u hu hacc => ?_⟩
  · rw [LabState.toRecords_prune, tombstones_push hnone, h.store, List.foldl_append]
  · rw [List.map_append]
    refine List.nodup_append.mpr ⟨h.distinct, ?_, ?_⟩
    · unfold Task.tombstone
      split <;> simp
    · rintro id hid _ hid' rfl
      exact hnew (((hlast id).mp hid').1 ▸ hid)
  · rw [LabState.toRecords_prune, Dict.get?_erase]
    rw [List.map_append, List.mem_append, hlast] at hid
    rcases hid with hid | ⟨rfl, hacc⟩
    · obtain ⟨hthere, hgone⟩ := h.gone id hid
      exact ⟨hthere, by rw [hgone, ite_self]⟩
    · exact ⟨⟨t, h.old _ _ ht hacc⟩, if_pos rfl⟩
  · rw [LabState.toRecords_prune, Dict.get?_erase, List.map_append, List.mem_append, hlast]
    rcases h.kept id u hu hacc with hkept | hid
    · by_cases hid : id = t.id
      · subst hid
        obtain rfl := Option.some.inj (ht.symm.trans hkept)
        exact .inr (.inr ⟨rfl, hacc⟩)
      · exact .inl ((if_neg fun heq => hid heq).trans hkept)
    · exact .inr (.inl hid)
  · rw [LabState.toRecords_prune, Dict.get?_erase] at hu
    split at hu
    · cases hu
    · exact h.old id u hu hacc

/-- Every write but an accepted result and a reset. -/
theorem write (h : Sheds s m shed) (hs : Safe w s) (hm : Safe w m) (hle : s.draws ≤ m.draws)
    (hw : Write w m c m') (hc : c ≠ .result) (hr : c ≠ .reset) (hf : w.FreshBelow m'.draws) :
    ∃ shed', Sheds s m' shed' := by
  by_cases hp : c = .prune
  · subst hp
    cases hw with
    | tick => exact ⟨shed, h.store, h.distinct, h.gone, h.kept, h.old⟩
    | pruneTask ht => exact ⟨_, h.prune hm ht⟩
    | failTask hc => rcases hc with hc | hc <;> cases hc
  refine ⟨shed, ?_, h.distinct, fun id hid => ?_, fun id t ht hacc => ?_, fun id t ht hacc => ?_⟩
  · rw [(hw.records hm).tombstones_same hp hr]
    exact h.store
  · obtain ⟨⟨t, ht⟩, hgone⟩ := h.gone id hid
    refine ⟨⟨t, ht⟩, ?_⟩
    cases ht' : m'.tasks.get? id with
    | none => rfl
    | some t' =>
      rcases hw.task hm hf ((hs.task_drawn ht).mono hle) ht' with hold | ⟨t, hold, -⟩
      all_goals rw [hgone] at hold; cases hold
  · exact (h.kept id t ht hacc).imp (fun hold => hw.keeps_accepted hm hp hr hf hold hacc)
      fun hid => hid
  · rcases (hw.records hm).not_accepting hm hc ht with
      ⟨t', ht', rfl | ⟨-, hnot⟩⟩ | ⟨-, -, -, hnot⟩
    · exact h.old id t ht' hacc
    · rw [hnot] at hacc; cases hacc
    · rw [hnot] at hacc; cases hacc

/-- Several of them. -/
theorem writes {acts : List Activity} (hs : Safe w s) (hw : Writes w acts s m)
    (hc : .result ∉ acts) (hr : .reset ∉ acts) (hf : w.FreshBelow m.draws) :
    ∃ shed, Sheds s m shed := by
  induction hw with
  | refl => exact ⟨[], refl s⟩
  | tail hbefore hstep ih =>
    obtain ⟨c, hmem, hlast⟩ := hstep
    have hf' := hf.mono hlast.draws_le
    obtain ⟨shed, h⟩ := ih hf'
    exact h.write hs (Writes.safe hbefore hs hf') (Writes.draws_le hbefore) hlast
      (fun heq => hc (heq ▸ hmem)) (fun heq => hr (heq ▸ hmem)) hf

/-- There is room for all that was added. -/
theorem knows (h : Sheds s m shed) (hb : s.toRecords.Bounded) {id : PyStr} {t : Task}
    (ht : s.tasks.get? id = some t) (hacc : t.resultAccepted = true) : m.Knows id := by
  rcases h.kept id t ht hacc with hkept | hid
  · exact ⟨_, .recorded hkept hacc⟩
  · obtain ⟨⟨id, r⟩, hmem, rfl⟩ := List.mem_map.mp hid
    have hroom : shed.length ≤ maxTaskResultTombstones := by
      have hsub : shed.map Prod.fst ⊆ s.tasks.keys := fun id hid =>
        Dict.mem_keys.mpr (h.gone id hid).1
      have hcount := (List.subperm_of_subset h.distinct hsub).length_le
      rw [List.length_map, ← Dict.size_eq_length_keys] at hcount
      exact hcount.trans hb.tasks
    refine ⟨r, .pruned (Dict.get?_eq_some.mpr ?_)⟩
    rw [h.store]
    exact Window.mem_foldl_push hb.tombstones hroom hmem

end Sheds

/-! ### Operations -/

/-- The operation gives up no tombstone, unless it clears every table. -/
def LabState.EvictsNone (w : World) (s : LabState) (op : Op) : Prop :=
  op.isReset = true ∨ ∀ id ∈ s.taskResultTombstones.keys,
    id ∈ (step w s op).taskResultTombstones.keys

/-- An operation other than a reset forgets no result whose task is recorded. -/
theorem step_knows_recorded (hr : Reachable w s) {op : Op} (hop : op.isReset = false)
    (hf : w.FreshBelow (step w s op).draws) {id : PyStr} {t : Task}
    (ht : s.tasks.get? id = some t) (hacc : t.resultAccepted = true) :
    (step w s op).Knows id := by
  have hs := hr.sound
  have hran := (step_ends hs.safe hs.settled op).ran
  generalize step w s op = s' at hran hf
  cases hran with
  | plain h =>
    have hc : .result ∉ op.activities := by cases op <;> simp [Op.activities]
    have hreset : .reset ∉ op.activities := by
      cases op <;> simp [Op.activities, Op.isReset] at hop ⊢
    obtain ⟨shed, h⟩ := Sheds.writes hs.safe h hc hreset hf
    exact h.knows hr.recordsBounded ht hacc
  | delivered h hd =>
    have h' : Writes w [.expiry, .refresh, .poll, .dispatch] s _ := h.mono (by simp)
    have hd' := (h'.write hd (by simp)).write (.tick .poll) (by simp)
    exact ⟨_, .recorded ((accepted_kept w (by simp) (by simp) hacc).writes hd' hs.safe hf ht) hacc⟩
  | accepted h hw hafter =>
    have h' : Writes w [.expiry, .refresh, .result] s _ := h.mono (by simp)
    have hw' := (h'.write hw (by simp)).trans (hafter.mono (by simp))
    exact ⟨_, .recorded ((accepted_kept w (by simp) (by simp) hacc).writes hw' hs.safe hf ht) hacc⟩

/-- An operation that gives up no tombstone forgets nothing, unless it is a reset. -/
theorem step_knows (hr : Reachable w s) {op : Op} (hop : op.isReset = false)
    (hf : w.FreshBelow (step w s op).draws) (hevicts : s.EvictsNone w op) {id : PyStr}
    (h : s.Knows id) : (step w s op).Knows id := by
  obtain ⟨k, hk⟩ := h
  cases hk with
  | recorded ht hacc => exact step_knows_recorded hr hop hf ht hacc
  | pruned hk =>
    obtain hreset | hkeeps := hevicts
    · rw [hop] at hreset
      cases hreset
    · obtain ⟨k', hk'⟩ := Dict.mem_keys.mp (hkeeps id (Dict.mem_keys_of_get? hk))
      exact ⟨k', .pruned hk'⟩

end C2Lab
