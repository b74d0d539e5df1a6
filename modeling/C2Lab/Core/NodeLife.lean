import C2Lab.Core.Kept

/-! The life of a node record.

    A record is added under a fresh identifier and token, rewritten with its session as it was,
    closed once and for all under a token nobody holds, and removed. `RecordChange.node` lists these
    cases; what a token opens follows from them alone, for the source never looks at the session
    flag when it authenticates. -/

namespace C2Lab

variable {w : World} {s s' s₀ s₁ : LabState} {acts : List Activity} {hi : ℕ}

/-- A node record rewritten without touching its session; a pause is never lifted. -/
structure Node.Continued (n n' : Node) : Prop where
  id_eq : n'.id = n.id
  token_eq : n'.sessionToken = n.sessionToken
  active_eq : n'.sessionActive = n.sessionActive
  enrolled_eq : n'.version = n.version ∧ n'.profile = n.profile ∧
    n'.capabilities = n.capabilities ∧ n'.createdAt = n.createdAt
  paused : n.taskingPaused = true → n'.taskingPaused = true

/-- What a change of the records does to the node of one identifier; `hi` is as there. -/
inductive NodeChange (w : World) (s : LabState) (hi : ℕ) (id : PyStr) :
    Activity → Option Node → Prop
  | same (c : Activity) : NodeChange w s hi id c (s.nodes.get? id)
  | continued (c : Activity) {n n' : Node} (hn : s.nodes.get? id = some n)
      (h : n.Continued n') : NodeChange w s hi id c (some n')
  | closed {c : Activity} (hc : c = .expiry ∨ c = .disconnect) {n : Node}
      (hn : s.nodes.get? id = some n) {k : ℕ} (hk : s.draws ≤ k) (hk' : k < hi) :
      NodeChange w s hi id c (some { n with
        status := .offline, sessionActive := false, sessionToken := .text (w.token k) })
  | added {e : Enrollment} (now : Instant) (hid : id = w.nodeId s.draws) (hd : s.draws + 1 < hi) :
      NodeChange w s hi id .enroll (some (s.newNode w e now))
  | removed {c : Activity} (hc : c = .enroll ∨ c = .reset) : NodeChange w s hi id c none

theorem RecordChange.node {c : Activity} {r : Records} (hs : Safe w s)
    (h : RecordChange w s hi c r) (id : PyStr) : NodeChange w s hi id c (r.nodes.get? id) := by
  -- a node rewritten under its identifier is continued there and the same elsewhere
  have hset : ∀ {c : Activity} {n n' : Node}, s.nodes.get? n.id = some n → n.Continued n' →
      NodeChange w s hi id c ((s.nodes.set n.id n').get? id) := by
    intro c n n' hn hcont
    rw [Dict.get?_set]
    split
    · rename_i hid
      exact .continued c (hid ▸ hn) hcont
    · exact .same c
  cases h with
  | kept | rememberedNote | rememberedOperation | endedTask | redeliveredTask | dispatchedTask
    | prunedTask | addedTask | addedExercise | observedTask | finishedExercise | cancelledTask
    | containedExercise => exact .same _
  | touchedNode _ hn hp => exact hset hn ⟨rfl, rfl, rfl, ⟨rfl, rfl, rfl, rfl⟩, hp⟩
  | @closedNode _ hc n hn hl k hk hk' =>
    simp only [Dict.get?_set]
    split
    · rename_i hid
      exact .closed hc (hid ▸ hn) hk hk'
    · exact .same c
  | @failedTask _ t =>
    unfold chargeFailure
    cases hn : s.nodes.get? t.nodeId with
    | none => exact .same c
    | some n => exact hset (hs.node_key hn ▸ hn) ⟨rfl, rfl, rfl, ⟨rfl, rfl, rfl, rfl⟩, fun hp => hp⟩
  | acceptedTask hn => exact hset hn ⟨rfl, rfl, rfl, ⟨rfl, rfl, rfl, rfl⟩, fun hp => hp⟩
  | prunedNode =>
    simp only [Dict.get?_erase]
    split
    · exact .removed (.inl rfl)
    · exact .same _
  | addedNode hv now hk =>
    simp only [Dict.get?_set]
    split
    · rename_i hid
      exact .added now hid hk
    · exact .same _
  | cleared => exact .removed (.inr rfl)

/-! ### Tokens -/

/-- The token of draw `k` opens the session of the node of draw `j`, for as long as it is open, and
    nothing else. -/
structure TokenOf (w : World) (j k : ℕ) (r : Records) (draws : ℕ) : Prop where
  id_drawn : j < draws
  token_drawn : k < draws
  opens : ∀ id n, r.nodes.get? id = some n →
    (n.sessionToken = .text (w.token k) ↔ id = w.nodeId j ∧ n.sessionActive = true)

theorem World.FreshBelow.token_ne {n i j : ℕ} (h : w.FreshBelow n) (hi : i < n) (hj : j < n)
    (hne : i ≠ j) : PyStr.text (w.token i) ≠ .text (w.token j) := fun heq =>
  hne ((h i hi j hj).2 (PyStr.text.inj heq))

/-- No change of the records makes a token open anything else. -/
theorem tokenOf_kept (w : World) (j k : ℕ) :
    Kept w (.reset :: Activity.lasting) fun s => TokenOf w j k s.toRecords s.draws := by
  refine Kept.of_change (Q := TokenOf w j k) fun {s hi c r} _ hs hd hf h hQ => ?_
  refine ⟨hQ.id_drawn.trans_le hd, hQ.token_drawn.trans_le hd, fun id n hn => ?_⟩
  have hchange := h.node hs id
  rw [hn] at hchange
  generalize hx : some n = x at hchange
  cases hchange with
  | same => exact hQ.opens id n hx.symm
  | continued _ hn₀ hcont =>
    cases hx
    rw [hcont.token_eq, hcont.active_eq]
    exact hQ.opens id _ hn₀
  | closed _ hn₀ hk hk' =>
    cases hx
    -- the token it was closed under was drawn later
    have hne := hf.token_ne hk' (hQ.token_drawn.trans_le hd) (by have := hQ.token_drawn; omega)
    simp [hne]
  | added now hid hd' =>
    cases hx
    have hne := hf.token_ne hd' (hQ.token_drawn.trans_le hd) (by have := hQ.token_drawn; omega)
    have hid' : id ≠ w.nodeId j := by
      rintro rfl
      exact nodeId_fresh hf hQ.id_drawn (by omega) hid
    simp [LabState.newNode, hne, hid']
  | removed => cases hx

/-- The session of a node has ended. -/
def SessionOver (w : World) (j : ℕ) (r : Records) (draws : ℕ) : Prop :=
  j < draws ∧ ∀ n, r.nodes.get? (w.nodeId j) = some n → n.sessionActive = false

/-- A session that has ended is never opened again. -/
theorem sessionOver_kept (w : World) (j : ℕ) :
    Kept w (.reset :: Activity.lasting) fun s => SessionOver w j s.toRecords s.draws := by
  refine Kept.of_change (Q := SessionOver w j) fun {s hi c r} _ hs hd hf h ⟨hj, hover⟩ => ?_
  refine ⟨hj.trans_le hd, fun n hn => ?_⟩
  have hchange := h.node hs (w.nodeId j)
  rw [hn] at hchange
  generalize hx : some n = x at hchange
  cases hchange with
  | same => exact hover n hx.symm
  | continued _ hn₀ hcont =>
    cases hx
    rw [hcont.active_eq]
    exact hover _ hn₀
  | closed => cases hx; rfl
  | added now hid hd' => exact absurd hid (nodeId_fresh hf hj (by omega))
  | removed => cases hx

end C2Lab
