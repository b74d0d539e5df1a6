import C2Lab.Core.Notices

/-! Which part of the program announces what.

    Some kinds of event come from one part of the program only: what retention removes, what an
    enrollment adds or removes, what an operator posts, and a reset. A property that follows the
    event log needs to look at those parts and no others. -/

namespace C2Lab

variable {w : World} {s s' : LabState} {j j' : Journal} {l : List Notice}

/-- The one part of the program that announces a kind, where there is one. -/
def Kind.source : Kind → Option Activity
  | .taskPruned => some .prune
  | .nodeEnrolled | .nodePruned => some .enroll
  | .operatorNote => some .note
  | .labReset => some .reset
  | _ => none

/-- What a write tells the journal; a kind with one source comes from there. -/
structure Announces (w : World) (s : LabState) (c : Activity) (s' : LabState) (l : List Notice) :
    Prop where
  told : s.toJournal.Told w l s'.toJournal
  source : ∀ x ∈ l, ∀ c', x.kind.source = some c' → c' = c

/-- Nothing announced has one source. -/
theorem Announces.common {c : Activity} (h : s.toJournal.Told w l s'.toJournal)
    (hl : ∀ x ∈ l, x.kind.source = none) : Announces w s c s' l :=
  ⟨h, fun x hx c' hc' => by rw [hl x hx] at hc'; cases hc'⟩

/-- Every write announces what its part of the program announces. -/
theorem Write.announces {c : Activity} (h : Write w s c s') :
    ∃ l, Announces w s c s' l := by
  cases h with
  | tick => exact ⟨_, .common (.tick .refl) (by simp)⟩
  | expireTask | failTask | closeSession | dispatchTask | cancelledTask | pauseNode =>
    exact ⟨_, .common (((Journal.Told.refl.tick).record _).audit _)
      (by simp [Notice.kind, Kind.source])⟩
  | @timeoutTask t =>
    exact ⟨_, .common (((t.timeout_told _ s).record _).audit _)
      (by simp [Notice.kind, Kind.source])⟩
  | staleNode | rejectResult | announceOperation =>
    exact ⟨_, .common ((Journal.Told.refl.record _).audit _)
      (by simp [Notice.kind, Kind.source])⟩
  | @observeEnded e t p he =>
    obtain ⟨l, hl, habout⟩ := LabState.observeEnded_told (w := w) he t p
    exact ⟨l, .common hl fun x hx => by rw [(habout x hx).2]; rfl⟩
  | @completeExercise e =>
    obtain ⟨l, hl, habout⟩ := s.completeExercise_told (w := w) e (s.finalStatus e)
    exact ⟨l, .common hl fun x hx => by rw [(habout x hx).2]; rfl⟩
  | wakeNode =>
    unfold LabState.wakeNode
    split
    · exact ⟨_, .common (((Journal.Told.refl.tick).record _).audit _)
        (by simp [Notice.kind, Kind.source])⟩
    · exact ⟨_, .common (.tick .refl) (by simp)⟩
  | heartbeatNode =>
    unfold LabState.heartbeatNode
    split
    · exact ⟨_, .common (Journal.Told.refl.record _) (by simp [Notice.kind, Kind.source])⟩
    · exact ⟨_, .common .refl (by simp)⟩
  | redeliverTask =>
    exact ⟨_, .common (Journal.Told.refl.record _) (by simp [Notice.kind, Kind.source])⟩
  | @acceptedResult n t status sent result hn ht hnode hd hv now =>
    obtain ⟨l, hl, hkinds, -⟩ := s.acceptedResult_told (w := w) n t status result now
    refine ⟨_, .common ((hl.record _).audit _) fun x hx => ?_⟩
    rcases List.mem_append.mp hx with hx | hx
    · rcases List.mem_append.mp hx with hx | hx
      · rw [(hkinds x hx).2]; rfl
      · rw [List.mem_singleton.mp hx]; rfl
    · rw [List.mem_singleton.mp hx]; rfl
  | disconnectedNode =>
    exact ⟨_, .common (((Journal.Told.refl.record _).tick).audit _)
      (by simp [Notice.kind, Kind.source])⟩
  | pruneNode =>
    exact ⟨_, (Journal.Told.refl.record _).audit _, by simp [Notice.kind, Kind.source]⟩
  | addNode =>
    exact ⟨_, ((Journal.Told.refl.tick.tick.tick).record _).audit _,
      by simp [Notice.kind, Kind.source]⟩
  | @pruneTask t =>
    exact ⟨_, ((t.tombstone_told s).record _).audit _, by simp [Notice.kind, Kind.source]⟩
  | @addTask spec n ha now =>
    exact ⟨_, .common (((LabState.insert_told spec now s).record _).audit _)
      (by simp [Notice.kind, Kind.source])⟩
  | @rememberOperation key => cases key <;> exact ⟨_, .common .refl (by simp)⟩
  | @insertExercise e key =>
    cases key <;> exact ⟨_, .common ((Journal.Told.refl.record _).audit _)
      (by simp [Notice.kind, Kind.source])⟩
  | @cancelContained e t p he hst hm ht hq hp actor =>
    exact ⟨_, .common (((LabState.contained_told e.id t p s).record _).audit _)
      (by simp [Notice.kind, Kind.source])⟩
  | @applyContainment e he hst hd hq action hp actor =>
    obtain ⟨l, hl, habout⟩ := s.applyContainment_told (w := w) e action actor
    exact ⟨l, .common hl fun x hx => by rw [(habout x hx).2]; rfl⟩
  | announceNote =>
    exact ⟨_, (Journal.Told.refl.record _).audit _, by simp [Notice.kind, Kind.source]⟩
  | rememberNote => exact ⟨_, .common .refl (by simp)⟩
  | announceReset =>
    exact ⟨_, ((Journal.Told.refl.clear).record _).audit _, by simp [Notice.kind, Kind.source]⟩

/-- The event log grows by the events of the list. -/
theorem Journal.Told.eventLog (h : j.Told w l j') : ∃ new, j'.eventLog = j.eventLog ++ new ∧
    List.Forall₂ (fun (d : EventDraft) (e : Event) => e.kind = d.kind ∧ e.taskId = d.taskId ∧
      e.nodeId = d.nodeId) (l.filterMap Notice.announced) new := by
  induction h with
  | refl => exact ⟨[], by simp⟩
  | tick _ ih | refuse _ ih | clear _ ih => exact ih
  | @record l j' _ d ih =>
    obtain ⟨new, hlog, hall⟩ := ih
    refine ⟨new ++ [j'.event w d], ?_, ?_⟩
    · rw [Journal.eventLog_recordLocked, hlog, List.append_assoc]
    · rw [List.filterMap_append]
      exact List.rel_append hall (.cons ⟨rfl, rfl, rfl⟩ .nil)
  | audit _ d ih =>
    obtain ⟨new, hlog, hall⟩ := ih
    refine ⟨new, by rw [Journal.eventLog_auditLocked, hlog], ?_⟩
    rw [List.filterMap_append, show [Notice.audit d].filterMap Notice.announced = [] from rfl,
      List.append_nil]
    exact hall

/-- The events a write appends; a kind with one source is appended there only. -/
theorem Write.eventLog {c : Activity} (h : Write w s c s') :
    ∃ new, s'.eventLog = s.eventLog ++ new ∧
      ∀ e ∈ new, ∀ c', e.kind.source = some c' → c' = c := by
  obtain ⟨l, htold, hsource⟩ := h.announces
  obtain ⟨new, hlog, hall⟩ := htold.eventLog
  refine ⟨new, hlog, fun e he c' hc' => ?_⟩
  obtain ⟨i, hi, rfl⟩ := List.mem_iff_getElem.mp he
  have hlen := hall.length_eq
  obtain ⟨hkind, -⟩ := (List.forall₂_iff_get.mp hall).2 i (by omega) hi
  have hmem := List.getElem_mem (l := l.filterMap Notice.announced) (n := i) (by omega)
  obtain ⟨x, hx, hd⟩ := List.mem_filterMap.mp hmem
  cases x with
  | event d =>
    cases hd
    refine hsource _ hx c' ?_
    simp only [List.get_eq_getElem] at hkind
    rw [← hc', hkind]
    rfl
  | audit d => cases hd

end C2Lab
