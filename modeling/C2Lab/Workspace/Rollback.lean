import C2Lab.Workspace.Session

/-! What a failed call to the operating system does to a session of the workspace.

    A playbook that raises because one call failed leaves a workspace in order, unless the call was
    fragile: the check of a member that is registered already, whose file is then removed while the
    registers keep it, or the removal of a file whose handle is closed already. -/

namespace C2Lab.LabRuntime

variable {host : Host} {ws : Workspace}

/-- On a host on which nothing fails every execution returns. -/
def Usable (py : Interp) (ws : Workspace) : Prop :=
  ∀ later : Host, later.Reliable → ∀ p : Playbook, ∃ r t,
    executePlaybook later py.jsonDepth (Vocabulary.toJson p) ws = .ok r t

theorem Orderly.intact (h : Orderly ws) : Intact ws := by
  obtain ⟨s, -, -, hs⟩ := h
  exact hs.intact

theorem Orderly.usable (h : Orderly ws) (py : Interp) : Usable py ws := by
  obtain ⟨s, hstock, hfixtures, hs⟩ := h
  intro later hok p
  obtain ⟨r, t, hrun, -⟩ :=
    Prog.exists_ok (executePlaybook_stores hok py hs hstock hfixtures p)
  exact ⟨r, t, hrun⟩

/-- An execution that returns leaves the workspace in order, one that raises does unless the call
    that failed was fragile. -/
theorem Orderly.execute (h : Orderly ws) (hone : host.FailsOnce) (py : Interp) (p : Playbook) :
    Prog.wp (executePlaybook host py.jsonDepth (Vocabulary.toJson p)) (fun _ t => Orderly t)
      (fun _ t => ∃ i, host.fails (ws.calls + i) = true ∧
        if i ∈ fragileCalls ws.artifacts.keys p then ¬ Intact t else Orderly t) ws := by
  obtain ⟨s, hstock, hfixtures, hs⟩ := h
  obtain ⟨n, hattempts⟩ := executePlaybook_attempts hone py hs hstock hfixtures p
  rw [hs.names]
  refine Prog.wp_mono hattempts ?_ ?_
  · rintro r t ⟨-, -, -, ht⟩
    exact ⟨shelve p s, hstock.shelve p, fixtures_shelve hstock hfixtures p, ht⟩
  · rintro e t ⟨i, -, hfail, -, ht⟩
    exact ⟨i, hfail, ht⟩

/-- Playbooks that return leave the workspace in order. -/
theorem Orderly.play (h : Orderly ws) (hone : host.FailsOnce) (py : Interp) (ps : List Playbook) :
    Prog.wp (playAll host py.jsonDepth ps) (fun _ t => Orderly t) (fun _ _ => True) ws := by
  induction ps generalizing ws with
  | nil => exact h
  | cons p ps ih =>
    rw [playAll]
    refine (Prog.wp_bind _ _).mpr (Prog.wp_mono (h.execute hone py p) ?_ fun _ _ _ => trivial)
    intro r t ht
    exact (Prog.wp_bind _ _).mpr (Prog.wp_imp (ih ht) fun _ _ hu => hu)

/-- The states that playbooks which return lead to are in order. -/
theorem orderly_session (hone : host.FailsOnce) (py : Interp) {ps : List Playbook}
    {results : List Json} (hrun : session host py.jsonDepth ps .blank = .ok results ws) :
    Orderly ws := by
  have hwp : Prog.wp (session host py.jsonDepth ps) (fun _ t => Orderly t) (fun _ _ => True)
      .blank := by
    refine (Prog.wp_bind _ _).mpr (Prog.wp_mono (openWorkspace_yields hone) ?_ fun _ _ _ => trivial)
    intro _ t ht
    exact Orderly.play ⟨fixtureShelf, stock_fixtures, fun _ hx => hx, ht⟩ hone py ps
  exact (Prog.wp_run hrun).mp hwp

/-- When an execution raises because one call failed, the registers, the directory and the open
    handles still agree, and every later execution returns, if and only if none of its fragile calls
    is the one that failed. -/
theorem failed_step_rolled_back (hone : host.FailsOnce) (py : Interp) {ps : List Playbook}
    {results : List Json} {p : Playbook} {e : WorkspaceExc} {after : Workspace}
    (hrun : session host py.jsonDepth ps .blank = .ok results ws)
    (hraise : executePlaybook host py.jsonDepth (Vocabulary.toJson p) ws = .error e after) :
    (Intact after ∧ Usable py after) ↔
      ∀ i ∈ fragileCalls ws.artifacts.keys p, host.fails (ws.calls + i) = false := by
  have hwp := (orderly_session hone py hrun).execute hone py p
  unfold Prog.wp at hwp
  rw [hraise] at hwp
  obtain ⟨i, hfail, hafter⟩ := hwp
  by_cases hfragile : i ∈ fragileCalls ws.artifacts.keys p
  · rw [if_pos hfragile] at hafter
    refine iff_of_false (fun h => hafter h.1) fun h => ?_
    rw [h i hfragile] at hfail
    cases hfail
  · rw [if_neg hfragile] at hafter
    refine iff_of_true ⟨hafter.intact, hafter.usable py⟩ fun j hj => ?_
    by_contra hother
    have hsame := hone _ _ hfail (by simpa using hother)
    obtain rfl : i = j := by omega
    exact hfragile hj

/-! ### A host with one failure -/

/-- The host of `firstFree`, but for one call that fails. -/
def failingAt (n : ℕ) : Host := { firstFree with fails := fun i => decide (i = n) }

theorem failingAt_once (n : ℕ) : (failingAt n).FailsOnce := by
  intro i j hi hj
  exact (of_decide_eq_true hi).trans (of_decide_eq_true hj).symm

/-- A new workspace on which `CREATE_CANARY` raises because one call fails, before and after. -/
def canaryAttempt (n : ℕ) : Option (Workspace × Workspace) :=
  match session (failingAt n) World.counting.jsonDepth [] .blank with
  | .error _ _ => none
  | .ok _ ws =>
    match executePlaybook (failingAt n) World.counting.jsonDepth
      (Vocabulary.toJson Playbook.createCanary) ws with
    | .ok _ _ => none
    | .error _ after => some (ws, after)

theorem canaryAttempt_eq_some {n : ℕ} {ws after : Workspace}
    (h : canaryAttempt n = some (ws, after)) :
    ∃ results e, session (failingAt n) World.counting.jsonDepth [] .blank = .ok results ws ∧
      executePlaybook (failingAt n) World.counting.jsonDepth
        (Vocabulary.toJson Playbook.createCanary) ws = .error e after := by
  unfold canaryAttempt at h
  split at h
  · cases h
  · rename_i results before hrun
    split at h
    · cases h
    · rename_i e _ hraise
      cases h
      exact ⟨results, e, hrun, hraise⟩

/-- The check of the canary fails once it is registered: its file goes, its name stays, and the next
    execution raises although nothing fails. -/
theorem failed_step_rolled_back_canary :
    ∃ results ws e after, (failingAt 41).FailsOnce ∧
      session (failingAt 41) World.counting.jsonDepth [] .blank = .ok results ws ∧
      executePlaybook (failingAt 41) World.counting.jsonDepth
        (Vocabulary.toJson Playbook.createCanary) ws = .error e after ∧
      ¬ Intact after ∧
      ∃ e' t, executePlaybook firstFree World.counting.jsonDepth
        (Vocabulary.toJson Playbook.discoveryFixtures) after = .error e' t := by
  have hcheck : (canaryAttempt 41).any (fun r =>
      r.2.artifacts.values.any (fun name => name ∉ r.2.entries.keys) &&
        match executePlaybook firstFree World.counting.jsonDepth
          (Vocabulary.toJson Playbook.discoveryFixtures) r.2 with
        | .ok _ _ => false
        | .error _ _ => true) = true := by decide +kernel
  obtain ⟨⟨ws, after⟩, hattempt, hafter⟩ := (Option.any_eq_true _ _).mp hcheck
  obtain ⟨hstale, hlater⟩ := Bool.and_eq_true_iff.mp hafter
  obtain ⟨results, e, hrun, hraise⟩ := canaryAttempt_eq_some hattempt
  refine ⟨results, ws, e, after, failingAt_once 41, hrun, hraise, fun hintact => ?_, ?_⟩
  · obtain ⟨name, hname, hgone⟩ := List.any_eq_true.mp hstale
    exact of_decide_eq_true hgone ((hintact.listed name).mpr hname)
  · split at hlater
    · cases hlater
    · rename_i e' t hnext
      exact ⟨e', t, hnext⟩

/-- A failed write is rolled back. -/
theorem failed_step_rolled_back_write :
    ∃ results ws e after,
      session (failingAt 39) World.counting.jsonDepth [] .blank = .ok results ws ∧
      executePlaybook (failingAt 39) World.counting.jsonDepth
        (Vocabulary.toJson Playbook.createCanary) ws = .error e after ∧
      Intact after ∧ Usable World.counting.toInterp after := by
  have hcheck : (canaryAttempt 39).any (fun r =>
      (fragileCalls r.1.artifacts.keys .createCanary).all fun i =>
        !(failingAt 39).fails (r.1.calls + i)) = true := by decide +kernel
  obtain ⟨⟨ws, after⟩, hattempt, hquiet⟩ := (Option.any_eq_true _ _).mp hcheck
  obtain ⟨results, e, hrun, hraise⟩ := canaryAttempt_eq_some hattempt
  refine ⟨results, ws, e, after, hrun, hraise,
    (failed_step_rolled_back (failingAt_once 39) World.counting.toInterp hrun hraise).mpr
      fun i hi => ?_⟩
  simpa using List.all_eq_true.mp hquiet i hi

end C2Lab.LabRuntime
