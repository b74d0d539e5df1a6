import C2Lab.Core.Lifecycle

/-! The invariant rule: what every write keeps, every run keeps.

    A property is shown to survive one write, or one change of the records if it speaks of nothing
    else. The induction over the writes of an operation and the operations of a run is made here,
    once, also for runs that reset nothing. -/

namespace C2Lab

variable {w : World} {s s' : LabState} {acts : List Activity}

/-! ### Writes of an operation -/

/-- The parts of the program other than the reset. -/
def Activity.lasting : List Activity :=
  [.expiry, .refresh, .poll, .dispatch, .reject, .result, .disconnect, .enroll, .prune, .create,
    .cancel, .contain, .note]

theorem Activity.mem_lasting {c : Activity} : c ∈ lasting ↔ c ≠ .reset := by
  cases c <;> simp [lasting]

/-- The operation that clears the tables. -/
def Op.isReset : Op → Bool
  | reset _ => true
  | _ => false

/-- An operation is a sequence of writes. -/
theorem Ran.all_writes {op : Op} (h : Ran w s op s') :
    Writes w (.reset :: Activity.lasting) s s' := by
  obtain ⟨acts, -, hw⟩ := h.writes
  refine hw.mono fun c _ => ?_
  by_cases hc : c = .reset
  · exact hc ▸ List.mem_cons_self
  · exact List.mem_cons_of_mem _ (Activity.mem_lasting.mpr hc)

/-- An operation other than a reset consists of other writes than a reset. -/
theorem Ran.lasting_writes {op : Op} (h : Ran w s op s') (hop : op.isReset = false) :
    Writes w Activity.lasting s s' := by
  cases h with
  | plain h =>
    refine h.mono fun c hc => Activity.mem_lasting.mpr ?_
    rintro rfl
    cases op <;> simp [Op.activities, Op.isReset] at hc hop
  | delivered h hd =>
    have h' : Writes w Activity.lasting _ _ := h.mono (by simp [Activity.lasting])
    have hd' := h'.write hd (by simp [Activity.lasting])
    exact hd'.write (.tick .poll) (by simp [Activity.lasting])
  | accepted h hr hf =>
    have h' : Writes w Activity.lasting _ _ := h.mono (by simp [Activity.lasting])
    have hr' := h'.write hr (by simp [Activity.lasting])
    exact hr'.trans (hf.mono (by simp [Activity.lasting]))

/-! ### The rule -/

/-- `P` survives every write of the given parts of the program. -/
structure Kept (w : World) (acts : List Activity) (P : LabState → Prop) : Prop where
  write : ∀ {s s' : LabState} {c : Activity}, c ∈ acts → Safe w s → w.FreshBelow s'.draws →
    Write w s c s' → P s → P s'

/-- It is enough that a property of the records survives a change of the records. -/
theorem Kept.of_change {Q : Records → ℕ → Prop}
    (h : ∀ {s : LabState} {hi : ℕ} {c : Activity} {r : Records}, c ∈ acts → Safe w s →
      s.draws ≤ hi → w.FreshBelow hi → RecordChange w s hi c r → Q s.toRecords s.draws → Q r hi) :
    Kept w acts fun s => Q s.toRecords s.draws :=
  ⟨fun hc hs hf hw hq => h hc hs hw.draws_le hf (hw.records hs) hq⟩

/-- A reset clears every table but the task sequence and the stream. -/
theorem RecordChange.of_reset {hi : ℕ} {r : Records} (h : RecordChange w s hi .reset r) :
    r = s.toRecords ∨ r = { s.toRecords with
      nodes := .empty, tasks := .empty, taskResultTombstones := .empty, exercises := .empty
      noteIdempotency := .empty, exerciseIdempotency := .empty
      operationIdempotency := .empty } := by
  cases h with
  | kept => exact .inl rfl
  | cleared => exact .inr rfl
  | touchedNode hc => rcases hc with hc | hc | hc <;> cases hc
  | closedNode hc => rcases hc with hc | hc <;> cases hc
  | endedTask h => cases h
  | failedTask h => cases h

theorem Kept.writes {P : LabState → Prop} (h : Kept w acts P) (hw : Writes w acts s s')
    (hs : Safe w s) (hf : w.FreshBelow s'.draws) (hP : P s) : P s' := by
  induction hw with
  | refl => exact hP
  | tail hbefore hstep ih =>
    obtain ⟨c, hc, hlast⟩ := hstep
    have hf' := hf.mono hlast.draws_le
    exact h.write hc (Writes.safe hbefore hs hf') hf hlast (ih hf')

/-! ### Runs -/

/-- One operation of a run, other than a reset. -/
def NextKeeping (w : World) (s s' : LabState) : Prop :=
  ∃ op : Op, op.isReset = false ∧ s' = step w s op ∧ w.FreshBelow s'.draws

/-- Some operations later, none of them a reset. -/
abbrev Since (w : World) : LabState → LabState → Prop := Relation.ReflTransGen (NextKeeping w)

theorem NextKeeping.next (h : NextKeeping w s s') : Next w s s' := by
  obtain ⟨op, -, heq, hf⟩ := h
  exact ⟨op, heq, hf⟩

theorem Since.later (h : Since w s s') : Later w s s' :=
  Relation.ReflTransGen.mono (fun _ _ hn => hn.next) _ _ h

theorem Kept.later {P : LabState → Prop} (h : Kept w (.reset :: Activity.lasting) P)
    (hl : Later w s s') (hs : Sound w s) (hP : P s) : P s' := by
  induction hl with
  | refl => exact hP
  | tail hbefore hn ih =>
    have hsound := Later.sound hbefore hs
    obtain ⟨op, hran, hf⟩ := hn.ran hsound
    exact h.writes hran.all_writes hsound.safe hf ih

theorem Kept.since {P : LabState → Prop} (h : Kept w Activity.lasting P) (hl : Since w s s')
    (hs : Sound w s) (hP : P s) : P s' := by
  induction hl with
  | refl => exact hP
  | tail hbefore hn ih =>
    have hsound := (Since.later hbefore).sound hs
    obtain ⟨op, hop, rfl, hf⟩ := hn
    exact h.writes ((step_ends hsound.safe hsound.settled op).ran.lasting_writes hop)
      hsound.safe hf ih

/-- What holds of the empty state and survives every write holds of every reachable state. -/
theorem Kept.reachable {P : LabState → Prop} (h : Kept w (.reset :: Activity.lasting) P)
    (hinit : ∀ stream, P (.init stream)) (hr : Reachable w s) : P s := by
  obtain ⟨stream, hl⟩ := hr
  exact h.later hl (sound_init stream) (hinit stream)

/-- The values a run drew were fresh. -/
theorem Reachable.fresh (h : Reachable w s) : w.FreshBelow s.draws := by
  obtain ⟨stream, hl⟩ := h
  cases hl with
  | refl => exact fun i hi => absurd hi (Nat.not_lt_zero i)
  | tail _ hn =>
    obtain ⟨op, rfl, hf⟩ := hn
    exact hf

theorem Reachable.later (h : Reachable w s) (hl : Later w s s') : Reachable w s' := by
  obtain ⟨stream, hbefore⟩ := h
  exact ⟨stream, hbefore.trans hl⟩

theorem Reachable.step (h : Reachable w s) {op : Op} (hf : w.FreshBelow (step w s op).draws) :
    Reachable w (C2Lab.step w s op) := h.later (.single ⟨op, rfl, hf⟩)

end C2Lab
