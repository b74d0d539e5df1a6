import C2Lab.Core.Counting
import C2Lab.Core.Kept
import C2Lab.Core.Notices
import C2Lab.Lib.Replay

/-! The audit trail is a faithful log.

    Every write leaves exactly one entry about the one status it creates, changes or removes, and no
    such entry otherwise. So the whole trail, replayed from nothing, gives the statuses recorded
    now, and each entry is right about the status it found. -/

namespace C2Lab

variable {w : World} {s s' : LabState} {m m' : StatusMap}

/-! ### Replaying -/

/-- The entry says which status it found; none if it is about something new. -/
structure AuditDraft.Right (d : AuditDraft) (m : StatusMap) : Prop where
  task : d.action.subject = some .task → ∃ id, d.taskId = some id ∧ d.fromState = m.tasks id
  node : d.action.subject = some .node → ∃ id, d.nodeId = some id ∧ d.fromState = m.nodes id

namespace StatusMap

theorem replay_of_quiet {d : AuditDraft} (h : d.action.subject = none) (m : StatusMap) :
    m.replay d = m := by
  unfold replay
  split <;> simp_all

/-- Replaying the entries of a write does to the statuses what the write did. -/
theorem Audited.replay_eq {l : List AuditDraft} (h : m.Audited l m') :
    l.foldl StatusMap.replay m = m' := by
  cases h with
  | quiet h => exact Replay.foldl_eq_self fun d hd => replay_of_quiet (h d hd) m
  | task hs hid => simp [replay, hs, hid]
  | node hs hid => simp [replay, hs, hid]
  | @again d id hs hid hfrom hto hm =>
    have hsub : d.action.subject = some .node := by
      rcases hs with hs | hs <;> rw [hs] <;> rfl
    have htarget : d.target = m.nodes id := by simp [AuditDraft.target, hto, hm]
    simp [replay, hsub, hid, htarget, Function.update_eq_self]
  | reset hs => simp [replay, hs]

theorem Audited.sound {l : List AuditDraft} (h : m.Audited l m') :
    Replay.Sound StatusMap.replay AuditDraft.Right m l := by
  cases h with
  | quiet h =>
    refine Replay.sound_of_forall fun d hd m => ⟨fun hs => ?_, fun hs => ?_⟩ <;>
      rw [h d hd] at hs <;> cases hs
  | @task d id hs hid hfrom =>
    refine Replay.sound_singleton ⟨fun _ => ⟨id, hid, hfrom⟩, fun hs' => ?_⟩
    rw [hs] at hs'
    cases hs'
  | @node d id hs hid hfrom =>
    refine Replay.sound_singleton ⟨fun hs' => ?_, fun _ => ⟨id, hid, hfrom⟩⟩
    rw [hs] at hs'
    cases hs'
  | @again d id hs hid hfrom hto hm =>
    refine Replay.sound_singleton ⟨fun hs' => ?_, fun _ => ⟨id, hid, hfrom.trans hm.symm⟩⟩
    rcases hs with hs | hs <;> rw [hs] at hs' <;> cases hs'
  | reset hs =>
    refine Replay.sound_singleton ⟨fun hs' => ?_, fun hs' => ?_⟩ <;> rw [hs] at hs' <;> cases hs'

end StatusMap

/-! ### Writes -/

/-- A write with the entries it appended to the whole trail: its one change of a status, if it makes
    one, is matched by exactly one entry. -/
def AuditedWrite (w : World) (s s' : LabState) : Prop :=
  ∃ c new, Write w s c s' ∧ s'.auditLog = s.auditLog ++ new ∧
    s.statuses.Audited (new.map (·.draft)) s'.statuses

/-- The trail from a state on, its numbering included. -/
structure Trails (w : World) (s s' : LabState) : Prop where
  writes : Relation.ReflTransGen (AuditedWrite w) s s'
  auditLog : ∃ new, s'.auditLog = s.auditLog ++ new ∧
    new.map (·.sequence) = List.range' (s.auditSequence + 1) new.length ∧
    s'.auditSequence = s.auditSequence + new.length

theorem Trails.refl (w : World) (s : LabState) : Trails w s s := ⟨.refl, [], by simp⟩

theorem Trails.trans {s'' : LabState} (h : Trails w s s') (h' : Trails w s' s'') :
    Trails w s s'' := by
  obtain ⟨new, hlog, hseq, hcount⟩ := h.auditLog
  obtain ⟨new', hlog', hseq', hcount'⟩ := h'.auditLog
  refine ⟨h.writes.trans h'.writes, new ++ new', ?_, ?_, ?_⟩
  · rw [hlog', hlog, List.append_assoc]
  · rw [List.map_append, hseq, hseq', hcount, List.length_append, Nat.add_right_comm,
      ← @List.range'_append _ _ _ 1, Nat.one_mul]
  · rw [hcount', hcount, List.length_append, Nat.add_assoc]

theorem Write.trails (hs : Safe w s) {c : Activity} (hf : w.FreshBelow s'.draws)
    (h : Write w s c s') : Trails w s s' := by
  obtain ⟨l, htells⟩ := h.tells hs fun _ => hf
  obtain ⟨new, hlog, hdrafts, hseq, hcount⟩ := htells.told.auditLog
  exact ⟨.single ⟨c, new, h, hlog, hdrafts ▸ htells.audited⟩, new, hlog, hseq, hcount⟩

theorem Writes.trails {acts : List Activity} (h : Writes w acts s s') (hs : Safe w s)
    (hf : w.FreshBelow s'.draws) : Trails w s s' := by
  induction h with
  | refl => exact .refl w s
  | tail hbefore hstep ih =>
    obtain ⟨c, -, hw⟩ := hstep
    have hf' := hf.mono hw.draws_le
    exact (ih hf').trans (hw.trails (Writes.safe hbefore hs hf') hf)

/-- Every operation of a run is a sequence of such writes. -/
theorem Next.trails (h : Next w s s') (hs : C2Lab.Sound w s) : Trails w s s' := by
  obtain ⟨op, hran, hf⟩ := h.ran hs
  exact hran.all_writes.trails hs.safe hf

theorem Later.trails (h : Later w s s') (hs : C2Lab.Sound w s) : Trails w s s' := by
  induction h with
  | refl => exact .refl w s
  | tail hbefore hn ih => exact ih.trans (hn.trails (Later.sound hbefore hs))

/-! ### Runs -/

/-- What the audit trail says, before it is numbered and stamped. -/
def LabState.trail (s : LabState) : List AuditDraft := s.auditLog.map (·.draft)

/-- Replaying the trail gives the statuses, and every entry of it is right. -/
theorem replay_of_writes {s₀ : LabState} (h : Relation.ReflTransGen (AuditedWrite w) s₀ s)
    (hstart : s₀.trail.foldl StatusMap.replay .empty = s₀.statuses)
    (hsound : Replay.Sound StatusMap.replay AuditDraft.Right .empty s₀.trail) :
    s.trail.foldl StatusMap.replay .empty = s.statuses ∧
      Replay.Sound StatusMap.replay AuditDraft.Right .empty s.trail := by
  induction h with
  | refl => exact ⟨hstart, hsound⟩
  | tail _ hw ih =>
    obtain ⟨c, new, -, hlog, haudited⟩ := hw
    obtain ⟨hreplay, hright⟩ := ih
    rw [LabState.trail, hlog, List.map_append]
    refine ⟨?_, hright.append ?_⟩
    · rw [List.foldl_append]
      exact (congrArg (List.foldl _ · _) hreplay).trans haudited.replay_eq
    · rw [show List.foldl _ _ _ = _ from hreplay]
      exact haudited.sound

/-- The retained entries are the last ones of the trail. -/
theorem Journal.Told.window {j j' : Journal} {l : List Notice} (h : j.Told w l j')
    (hj : j.auditEntries = Window.lastN maxAuditEntries j.auditLog) :
    j'.auditEntries = Window.lastN maxAuditEntries j'.auditLog := by
  induction h with
  | refl => exact hj
  | tick _ ih | refuse _ ih | clear _ ih => exact ih
  | record _ d ih =>
    rw [Journal.auditEntries_recordLocked, Journal.auditLog_recordLocked]; exact ih
  | audit _ d ih =>
    rw [Journal.auditEntries_auditLocked, Journal.auditLog_auditLocked, ih, Window.push_lastN]

theorem window_kept (w : World) : Kept w (.reset :: Activity.lasting) fun s =>
    s.auditEntries = Window.lastN maxAuditEntries s.auditLog := by
  refine ⟨fun {s s' c} _ hs hf hw hj => ?_⟩
  obtain ⟨l, htells⟩ := hw.tells hs fun _ => hf
  exact htells.told.window hj

/-- The audit trail is faithful. Every operation is a sequence of writes, each of which creates,
    changes or removes at most one status and leaves exactly one entry about it; so replaying the
    whole trail gives the statuses of all retained tasks and nodes, each entry names the status it
    found, and the entries are numbered from one, across resets too. What is retained of the trail
    are its last entries. -/
theorem audit_trail (hr : Reachable w s) :
    s.trail.foldl StatusMap.replay .empty = s.statuses ∧
    (∀ pre d post, s.trail = pre ++ d :: post →
      d.Right (pre.foldl StatusMap.replay .empty)) ∧
    (∃ stream, Relation.ReflTransGen (AuditedWrite w) (.init stream) s) ∧
    (∀ op, w.FreshBelow (step w s op).draws →
      Relation.ReflTransGen (AuditedWrite w) s (step w s op)) ∧
    s.auditLog.map (·.sequence) = List.range' 1 s.auditLog.length ∧
    s.auditSequence = s.auditLog.length ∧
    s.auditEntries = Window.lastN maxAuditEntries s.auditLog := by
  have hwindow := (window_kept w).reachable (fun _ => by simp [LabState.init, Window.lastN]) hr
  have hsound := hr.sound
  obtain ⟨stream, hl⟩ := hr
  have htrails := Later.trails hl (sound_init stream)
  obtain ⟨hreplay, hright⟩ := replay_of_writes htrails.writes rfl Replay.sound_nil
  obtain ⟨new, hlog, hseq, hcount⟩ := htrails.auditLog
  have hlog : s.auditLog = new := hlog
  refine ⟨hreplay, hright, ⟨stream, htrails.writes⟩, fun op hf => ?_, ?_, ?_, hwindow⟩
  · exact (Next.trails ⟨op, rfl, hf⟩ hsound).writes
  · rw [hlog]; exact hseq
  · rw [hlog, hcount]; simp [LabState.init]

/-- After an enrollment and a queued task, say. -/
theorem audit_trail_queued :
    let s := exec .counting (.init "stream")
      [Counting.enroll, Counting.queue .ping (.obj [])]
    s.trail.foldl StatusMap.replay .empty = s.statuses :=
  (audit_trail (World.counting_reachable "stream" _ (by decide +kernel))).1

end C2Lab
