import C2Lab.Core.Kept

/-! A task that has not ended always has a live session to end it.

    The three ways a session ends and the two ways a node record goes each deal with the node's
    tasks first, and the creating operations ask for an open session; the invariant already says so.
    What is left is the pass over overdue tasks, which looks the node up as if it might be gone. -/

namespace C2Lab

variable {w : World} {s s' : LabState}

/-- The second pass on one task, raising `KeyError` instead of skipping a node that is gone. -/
def expireDispatchedStrictly (w : World) (now : Instant) (taskId : PyStr) : Lab Unit := do
  let s ← get
  match s.tasks.get? taskId with
  | none => pure ()
  | some t =>
    if t.status ≠ .dispatched then pure ()
    else
      match t.deadline with
      | none => throw (.py .typeError)
      | some d =>
        if now < d then pure ()
        else
          match s.nodes.get? t.nodeId with
          | none => throw (.py .keyError)
          | some _ => modify fun s => s.timeoutTask w t

/-- `_expire_locked` with that second pass. -/
def expireLockedStrictly (w : World) (now : Instant) : Lab Unit := do
  let s ← get
  forM s.tasks.keys (expireQueued w now)
  let s ← get
  forM s.tasks.keys (expireDispatchedStrictly w now)
  let s ← get
  forM s.nodes.keys (expireNode w now)
  refreshExercisesLocked w

/-- The node of a task that timed out is there. -/
theorem expireDispatchedStrictly_eq (hs : Safe w s) (now : Instant) (id : PyStr) :
    expireDispatchedStrictly w now id s = expireDispatched w now id s := by
  simp only [expireDispatchedStrictly, expireDispatched, bind, EStateM.bind, Prog.get_apply]
  cases ht : s.tasks.get? id with
  | none => rfl
  | some t =>
    simp only
    by_cases hd : t.status = .dispatched
    · obtain ⟨n, hn, -, -⟩ := hs.owned id t ht (by rw [hd]; rfl)
      cases hn' : s.nodes.get? t.nodeId with
      | none => rw [hn] at hn'; cases hn'
      | some _ => rfl
    · rw [if_pos hd, if_pos hd]

/-- Skipping a node that is gone makes no difference to an expiry pass. -/
theorem expireLockedStrictly_eq (hs : Safe w s) (now : Instant) :
    expireLockedStrictly w now s = expireLocked w now s := by
  have hfirst : Prog.wp (forM s.tasks.keys (expireQueued w now))
      (fun _ s₁ => Came w [.expiry] s s₁) (fun _ _ => False) s :=
    Prog.wp_forM (fun x _ t ht => expireQueued_wp (by simp) now x ht) (.refl hs)
  obtain ⟨_, s₁, h₁, hcame⟩ := Prog.exists_ok hfirst
  have hsecond : forM s₁.tasks.keys (expireDispatchedStrictly w now) s₁ =
      forM s₁.tasks.keys (expireDispatched w now) s₁ :=
    Prog.forM_congr (fun x _ t ht => ⟨expireDispatchedStrictly_eq ht.safe now x,
      expireDispatched_wp (by simp) now x ht⟩) hcame
  simp only [expireLockedStrictly, expireLocked, bind, EStateM.bind, Prog.get_apply]
  rw [h₁]
  simp only [hsecond]

/-- No work is orphaned: in every reachable state a queued or dispatched task belongs to a retained
    node whose session is open and whose capabilities list its type, and the branch of the expiry
    pass for a node that is gone is never taken. -/
theorem no_orphaned_work (hr : Reachable w s) :
    (∀ id t, s.tasks.get? id = some t → t.status = .queued ∨ t.status = .dispatched →
      ∃ n, s.nodes.get? t.nodeId = some n ∧ n.sessionActive = true ∧
        t.command.taskType ∈ n.capabilities) ∧
    ∀ now, expireLockedStrictly w now s = expireLocked w now s := by
  have hs := hr.sound.safe
  refine ⟨fun id t ht hlive => hs.owned id t ht ?_, expireLockedStrictly_eq hs⟩
  rcases hlive with h | h <;> rw [h] <;> rfl

/-- A state with one dispatched task, whose node is there. -/
theorem no_orphaned_work_dispatched :
    let s := exec .counting (.init "stream") [Counting.enroll, Counting.queue .ping (.obj []),
      Counting.poll 11]
    s.tasks.values.map (·.status) = [.dispatched] ∧
      expireLockedStrictly .counting 20 s = expireLocked .counting 20 s := by
  refine ⟨by decide +kernel, ?_⟩
  exact (no_orphaned_work (World.counting_reachable "stream" _ (by decide +kernel))).2 20

end C2Lab
