import C2Lab.Core.Bounds
import C2Lab.Core.Delivery
import C2Lab.Core.Sessions

/-! Which node record an enrollment into a full table removes.

    The table lists its nodes in the order they were enrolled, an invariant of every run. The
    record that goes is the closed one with the least timestamp, the first of them if several have
    it; so it is the closed node enrolled first exactly when the clock agrees. -/

namespace C2Lab

variable {w : World} {s s' u u' : LabState} {past : List LabState} {a b : PyStr}

/-! ### The order of enrollments -/

/-- In a run through the states `past`, node `a` was there before node `b`. -/
def EnrolledBefore (past : List LabState) (a b : PyStr) : Prop :=
  ∃ u ∈ past, (u.nodes.get? a).isSome ∧ u.nodes.get? b = none

/-- An identifier whose node is gone. -/
def NodeGone (w : World) (id : PyStr) (s : LabState) : Prop :=
  (∃ k < s.draws, id = w.nodeId k) ∧ s.nodes.get? id = none

/-- A node that is gone does not come back. -/
theorem nodeGone_kept (w : World) (id : PyStr) :
    Kept w (.reset :: Activity.lasting) (NodeGone w id) := by
  refine ⟨fun {s s' c} _ hs hf hw ⟨⟨k, hk, hid⟩, hnone⟩ =>
    ⟨⟨k, hk.trans_le hw.draws_le, hid⟩, ?_⟩⟩
  have hset : ∀ {n n' : Node}, s.nodes.get? n.id = some n →
      (s.nodes.set n.id n').get? id = none := by
    intro n n' hn
    have hne : id ≠ n.id := fun heq => by rw [heq, hn] at hnone; cases hnone
    rw [Dict.get?_set_ne _ _ hne]
    exact hnone
  have hchange := hw.records hs
  generalize s'.toRecords = r at hchange
  cases hchange with
  | touchedNode _ hn | closedNode _ hn | acceptedTask hn => exact hset hn
  | failedTask =>
    unfold chargeFailure
    split
    · exact hnone
    · rename_i n hn
      exact hset (hs.node_key hn ▸ hn)
  | prunedNode hn =>
    rw [Dict.get?_erase]
    split
    · rfl
    · exact hnone
  | addedNode _ _ hd =>
    rw [Dict.get?_set_ne _ _ (hid ▸ nodeId_fresh hf hk (by omega))]
    exact hnone
  | cleared => rfl
  | _ => exact hnone

/-- A state passed through comes before the last. -/
theorem Run.later_of_mem (h : Run w past s) (hu : u ∈ past) : Later w u s := by
  induction h with
  | start => cases hu
  | @next past s h op hf ih =>
    have hstep : Next w s (step w s op) := ⟨op, rfl, hf⟩
    rcases List.mem_cons.mp hu with rfl | hu
    · exact .single hstep
    · exact (ih hu).tail hstep

theorem Run.reachable_of_mem (h : Run w past s) (hu : u ∈ past) : Reachable w u := by
  induction h with
  | start => cases hu
  | next h op hf ih =>
    rcases List.mem_cons.mp hu with rfl | hu
    · exact h.reachable
    · exact ih hu

/-- Of two states passed through one comes before the other. -/
theorem Run.chain (h : Run w past s) (hu : u ∈ past) (hu' : u' ∈ past) :
    Later w u u' ∨ Later w u' u := by
  induction h with
  | start => cases hu
  | next h op hf ih =>
    rcases List.mem_cons.mp hu with rfl | hmem <;> rcases List.mem_cons.mp hu' with rfl | hmem'
    · exact .inl .refl
    · exact .inr (h.later_of_mem hmem')
    · exact .inl (h.later_of_mem hmem)
    · exact ih hmem hmem'

/-- A node of an earlier state that is missing from a later one is not there now. -/
theorem Run.missing (h : Run w past s) (hu : u ∈ past) (hu' : u' ∈ past) (hl : Later w u u')
    (ha : (u.nodes.get? a).isSome) (hnone : u'.nodes.get? a = none) : s.nodes.get? a = none := by
  obtain ⟨n, hn⟩ := Option.isSome_iff_exists.mp ha
  have hsound := (h.reachable_of_mem hu).sound
  obtain ⟨k, hk, hid⟩ := (hsound.safe.nodes _ _ hn).drawn
  have hgone : NodeGone w a u' := ⟨⟨k, hk.trans_le (hl.draws_le hsound), hid⟩, hnone⟩
  exact ((nodeGone_kept w a).later (h.later_of_mem hu') (h.reachable_of_mem hu').sound hgone).2

/-- Two recorded nodes were not each there before the other. -/
theorem EnrolledBefore.asymm (h : Run w past s) (hab : EnrolledBefore past a b)
    (ha : (s.nodes.get? a).isSome) (hb : (s.nodes.get? b).isSome) : ¬EnrolledBefore past b a := by
  rintro ⟨u', hu', hub', hna'⟩
  obtain ⟨u, hu, hua, hnb⟩ := hab
  rcases h.chain hu hu' with hl | hl
  · rw [h.missing hu hu' hl hua hna'] at ha
    cases ha
  · rw [h.missing hu' hu hl hub' hnb] at hb
    cases hb

theorem EnrolledBefore.cons (h : EnrolledBefore past a b) (s : LabState) :
    EnrolledBefore (s :: past) a b := by
  obtain ⟨u, hu, hrest⟩ := h
  exact ⟨u, List.mem_cons_of_mem _ hu, hrest⟩

/-! ### The node table -/

/-- Other parts of the program than an enrollment add no node and keep the order. -/
theorem nodes_sublist_kept {acts : List Activity} (s₀ : LabState) (hacts : .enroll ∉ acts) :
    Kept w acts fun s => s.nodes.keys.Sublist s₀.nodes.keys := by
  refine Kept.of_change (Q := fun r _ => r.nodes.keys.Sublist s₀.nodes.keys)
    fun {s hi c r} hc hs _ _ h hQ => ?_
  have hset : ∀ {n n' : Node}, s.nodes.get? n.id = some n →
      (s.nodes.set n.id n').keys.Sublist s₀.nodes.keys := fun hn => by
    rw [Dict.keys_set_of_mem _ (Dict.mem_keys_of_get? hn)]; exact hQ
  cases h with
  | touchedNode _ hn | closedNode _ hn | acceptedTask hn => exact hset hn
  | failedTask =>
    unfold chargeFailure
    split
    · exact hQ
    · rename_i n hn
      exact hset (hs.node_key hn ▸ hn)
  | prunedNode | addedNode => exact absurd hc hacts
  | cleared => exact List.nil_sublist _
  | _ => exact hQ

/-- An enrollment adds one new node at the end. -/
theorem NodeEnrolled.keys {e : Enrollment} {now : Instant} {reply : EnrollResponse}
    (h : NodeEnrolled w s e now reply s') (hs : Safe w s) (hf : w.FreshBelow s'.draws) :
    ∃ kept id, s'.nodes.keys = kept ++ [id] ∧ kept.Sublist s.nodes.keys ∧
      s.nodes.get? id = none := by
  have hadd : ∀ m : LabState, s.draws ≤ m.draws → m.nodes.keys.Sublist s.nodes.keys →
      w.FreshBelow (m.addNode w (m.newNode w e now)).draws →
      ∃ kept id, (m.addNode w (m.newNode w e now)).nodes.keys = kept ++ [id] ∧
        kept.Sublist s.nodes.keys ∧ s.nodes.get? id = none := by
    intro m hdraws hsub hf
    have hnew : s.nodes.get? (w.nodeId m.draws) = none := by
      cases hn : s.nodes.get? (w.nodeId m.draws) with
      | none => rfl
      | some n =>
        obtain ⟨k, hk, hid⟩ := (hs.nodes _ _ hn).drawn
        refine absurd hid.symm (nodeId_fresh hf (hk.trans_le hdraws) ?_)
        simp [LabState.addNode, LabState.tick, Journal.draws_recordLocked,
          Journal.draws_auditLocked]
        omega
    have hout : w.nodeId m.draws ∉ m.nodes.keys := fun hmem =>
      Dict.get?_eq_none.mp hnew (hsub.subset hmem)
    refine ⟨m.nodes.keys, w.nodeId m.draws, ?_, hsub, hnew⟩
    simp only [LabState.addNode, LabState.toRecords_auditLocked, LabState.toRecords_recordLocked,
      LabState.toRecords_setNode, LabState.toRecords_tick]
    exact Dict.keys_set_of_not_mem _ hout
  cases h with
  | added => exact hadd s le_rfl (.refl _) hf
  | @replaced n s₁ hfull hn hc hs₁ =>
    subst hs₁
    refine hadd _ (Write.pruneNode hn hc).draws_le ?_ hf
    simp only [LabState.pruneNode, LabState.toRecords_auditLocked, LabState.toRecords_recordLocked,
      Dict.keys_erase]
    exact List.filter_sublist

/-- The table lists its nodes as they were enrolled. -/
theorem Run.nodes_ordered (h : Run w past s) : s.nodes.keys.Pairwise (EnrolledBefore past) := by
  induction h with
  | start stream => exact .nil
  | @next past s h op hf ih =>
    have hs := h.reachable.sound
    have hold : s.nodes.keys.Pairwise (EnrolledBefore (s :: past)) :=
      ih.imp fun hab => hab.cons s
    have hstep : (step w s op).nodes.keys.Sublist s.nodes.keys ∨
        ∃ kept id, (step w s op).nodes.keys = kept ++ [id] ∧ kept.Sublist s.nodes.keys ∧
          s.nodes.get? id = none := by
      have hran := (step_ends hs.safe hs.settled op).ran
      cases op with
      | enrollNode name version profile capabilities interval jitter now =>
        have hwp := enrollNode_wp hs.safe name version profile capabilities interval jitter now
        rw [step, Op.run, Prog.final_map_eq] at hf ⊢
        unfold Prog.wp at hwp
        unfold Prog.final at hf ⊢
        split at hwp <;> simp_all only
        · obtain ⟨e, -, henrolled⟩ := hwp
          exact .inr (henrolled.keys hs.safe hf)
        · exact .inl (.refl _)
      | _ =>
        obtain ⟨acts, hacts, hw⟩ := hran.without_enroll (by simp)
        exact .inl ((nodes_sublist_kept s hacts).writes hw hs.safe hf (.refl _))
    rcases hstep with hsub | ⟨kept, id, hkeys, hsub, hnew⟩
    · exact hold.sublist hsub
    · rw [hkeys]
      refine List.pairwise_append.mpr ⟨hold.sublist hsub, by simp, fun a ha b hb => ?_⟩
      rw [List.mem_singleton.mp hb]
      obtain ⟨n, hn⟩ := Dict.mem_keys.mp (hsub.subset ha)
      exact ⟨s, List.mem_cons_self, by rw [hn]; rfl, hnew⟩

/-! ### One enrollment -/

/-- The first of a list has the least key exactly when no other has a smaller one. -/
theorem firstMin_head {α : Type} {key : α → ℕ} {x : α} {l : List α} :
    firstMin key (x :: l) = some x ↔ ∀ y ∈ l, key x ≤ key y := by
  constructor
  · exact fun h y hy => firstMin_le h (List.mem_cons_of_mem _ hy)
  · intro h
    rw [firstMin]
    cases hmin : firstMin key l with
    | none => rfl
    | some b => exact if_pos (h b (firstMin_mem hmin))

/-- The closed nodes, as they were enrolled. -/
def LabState.closedNodes (s : LabState) : List Node :=
  s.nodes.values.filter fun n => !n.sessionActive

/-- The record of the closed node `n` is the one that went, named in both histories, the audit entry
    with its last status. -/
structure LabState.Replaces (s : LabState) (n : Node) (s' : LabState) : Prop where
  recorded : s.nodes.get? n.id = some n
  closed : n.sessionActive = false
  gone : s'.nodes.get? n.id = none
  others : ∀ id n', id ≠ n.id → s.nodes.get? id = some n' → s'.nodes.get? id = some n'
  event : ∃ e e', s'.eventLog = s.eventLog ++ [e, e'] ∧ e.kind = .nodePruned ∧
    e.nodeId = some n.id
  audit : ∃ x x', s'.auditLog = s.auditLog ++ [x, x'] ∧ x.action = .nodePruned ∧
    x.nodeId = some n.id ∧ x.fromState = some n.status.name ∧ x.toState = some "removed"

/-- A closed node that was enrolled before all other closed ones. -/
def EarliestClosed (past : List LabState) (s : LabState) (n : Node) : Prop :=
  ∀ n', s.nodes.get? n'.id = some n' → n'.sessionActive = false → n'.id ≠ n.id →
    EnrolledBefore past n.id n'.id

theorem Safe.mem_closedNodes (hs : Safe w s) {n : Node} :
    n ∈ s.closedNodes ↔ s.nodes.get? n.id = some n ∧ n.sessionActive = false := by
  rw [LabState.closedNodes, List.mem_filter, Dict.mem_values, Bool.not_eq_true']
  constructor
  · rintro ⟨⟨id, hid⟩, hc⟩
    exact ⟨hs.node_key hid ▸ hid, hc⟩
  · rintro ⟨hn, hc⟩
    exact ⟨⟨_, hn⟩, hc⟩

namespace LabState

theorem nodes_addNode (n : Node) (s : LabState) : (s.addNode w n).nodes = s.nodes.set n.id n := by
  simp only [addNode, toRecords_auditLocked, toRecords_recordLocked, toRecords_setNode,
    toRecords_tick]

theorem draws_addNode (n : Node) (s : LabState) : (s.addNode w n).draws = s.draws + 6 := by
  simp only [addNode, tick, toJournal_auditLocked, toJournal_recordLocked, toJournal_setNode,
    Journal.draws_recordLocked, Journal.draws_auditLocked]

/-- A newly enrolled node gets one entry in each history. -/
theorem logs_addNode (n : Node) (s : LabState) : ∃ e x,
    (s.addNode w n).eventLog = s.eventLog ++ [e] ∧ (s.addNode w n).auditLog = s.auditLog ++ [x] :=
  ⟨_, _, (Journal.eventLog_auditLocked _ _ _).trans (Journal.eventLog_recordLocked _ _ _),
    (Journal.auditLog_auditLocked _ _ _).trans
      (congrArg (· ++ _) (Journal.auditLog_recordLocked _ _ _))⟩

theorem nodes_pruneNode (n : Node) (s : LabState) :
    (s.pruneNode w n).nodes = s.nodes.erase n.id := by
  simp only [pruneNode, toRecords_auditLocked, toRecords_recordLocked]

/-- So does a removed one, its last status in the audit entry. -/
theorem logs_pruneNode (n : Node) (s : LabState) : ∃ e x,
    (s.pruneNode w n).eventLog = s.eventLog ++ [e] ∧
    (s.pruneNode w n).auditLog = s.auditLog ++ [x] ∧ e.kind = .nodePruned ∧ e.nodeId = some n.id ∧
    x.action = .nodePruned ∧ x.nodeId = some n.id ∧ x.fromState = some n.status.name ∧
    x.toState = some "removed" :=
  ⟨_, _, (Journal.eventLog_auditLocked _ _ _).trans (Journal.eventLog_recordLocked _ _ _),
    (Journal.auditLog_auditLocked _ _ _).trans
      (congrArg (· ++ _) (Journal.auditLog_recordLocked _ _ _)), rfl, rfl, rfl, rfl, rfl, rfl⟩

end LabState

/-- One record goes and one comes in. -/
theorem pruneNode_addNode (hs : Safe w s) {n m : Node} (hn : s.nodes.get? n.id = some n)
    (hc : n.sessionActive = false) (hm : m.id = w.nodeId (s.pruneNode w n).draws)
    (hf : w.FreshBelow ((s.pruneNode w n).addNode w m).draws) :
    s.Replaces n ((s.pruneNode w n).addNode w m) := by
  have hdraws : s.draws ≤ (s.pruneNode w n).draws := (Write.pruneNode hn hc).draws_le
  have hnew : ∀ id n', s.nodes.get? id = some n' → id ≠ m.id := by
    intro id n' hn'
    obtain ⟨k, hk, rfl⟩ := (hs.nodes _ _ hn').drawn
    rw [hm]
    exact nodeId_fresh hf (hk.trans_le hdraws) (by rw [LabState.draws_addNode]; omega)
  obtain ⟨e, x, hlog, hlog', hkind, hnode, haction, hxnode, hfrom, hto⟩ :=
    LabState.logs_pruneNode (w := w) n s
  obtain ⟨e', x', hadd, hadd'⟩ := LabState.logs_addNode (w := w) m (s.pruneNode w n)
  refine ⟨hn, hc, ?_, fun id n' hne hn' => ?_, ⟨e, e', ?_, hkind, hnode⟩,
    ⟨x, x', ?_, haction, hxnode, hfrom, hto⟩⟩
  · rw [LabState.nodes_addNode, LabState.nodes_pruneNode, Dict.get?_set_ne _ _ (hnew _ _ hn),
      Dict.get?_erase, if_pos rfl]
  · rw [LabState.nodes_addNode, LabState.nodes_pruneNode, Dict.get?_set_ne _ _ (hnew _ _ hn'),
      Dict.get?_erase, if_neg hne, hn']
  · rw [hadd, hlog, List.append_assoc]; rfl
  · rw [hadd', hlog', List.append_assoc]; rfl

/-- An enrollment into a full table removes the closed node with the least timestamp. -/
theorem enrollNode_full (hs : Safe w s) (hfull : maxNodes ≤ s.nodes.size)
    {name version profile capabilities interval jitter : Json} {now : Instant}
    {reply : EnrollResponse}
    (hok : enrollNode w name version profile capabilities interval jitter now s = .ok reply s')
    (hf : w.FreshBelow s'.draws) :
    ∃ n, firstMin Node.createdAt s.closedNodes = some n ∧ s.Replaces n s' := by
  have hwp : Prog.wp (enrollNode w name version profile capabilities interval jitter now)
      (fun _ s' => ∃ e n, firstMin Node.createdAt s.closedNodes = some n ∧
        s' = (s.pruneNode w n).addNode w ((s.pruneNode w n).newNode w e now))
      (fun _ _ => True) s := by
    unfold enrollNode
    simp only [Prog.wp_bind, wp_check]
    refine ⟨fun e _ => ?_, fun _ _ => trivial⟩
    unfold makeNodeSlot
    simp only [Prog.wp_bind, Prog.wp_get]
    rw [if_pos hfull, ← LabState.closedNodes]
    cases hmin : firstMin Node.createdAt s.closedNodes with
    | none => trivial
    | some n =>
      simp only [Prog.wp_modify]
      exact ⟨e, n, rfl, rfl⟩
  rw [Prog.wp_run hok] at hwp
  obtain ⟨e, n, hmin, rfl⟩ := hwp
  obtain ⟨hn, hc⟩ := hs.mem_closedNodes.mp (firstMin_mem hmin)
  exact ⟨n, hmin, pruneNode_addNode hs hn hc rfl hf⟩

/-- The first closed node of the table was enrolled before all others, and no other one was. -/
theorem Run.earliest_iff (h : Run w past s) {x n : Node} {rest : List Node}
    (hclosed : s.closedNodes = x :: rest) (hn : n ∈ s.closedNodes) :
    EarliestClosed past s n ↔ n = x := by
  have hs := h.reachable.sound.safe
  have hvalues : s.nodes.values.Pairwise fun a b => EnrolledBefore past a.id b.id := by
    have hkeys := h.nodes_ordered
    rwa [← Dict.map_values_eq_keys fun id n hn => hs.node_key hn, List.pairwise_map] at hkeys
  have hordered : s.closedNodes.Pairwise fun a b => EnrolledBefore past a.id b.id :=
    hvalues.sublist List.filter_sublist
  rw [hclosed, List.pairwise_cons] at hordered
  have hx : x ∈ s.closedNodes := hclosed ▸ List.mem_cons_self
  obtain ⟨hxrec, hxc⟩ := hs.mem_closedNodes.mp hx
  obtain ⟨hnrec, hnc⟩ := hs.mem_closedNodes.mp hn
  constructor
  · intro hearly
    rw [hclosed] at hn
    refine (List.mem_cons.mp hn).resolve_right fun hmem => ?_
    have hbefore := hordered.1 n hmem
    have hne : x.id ≠ n.id := by
      rintro heq
      obtain ⟨u, -, hu, hu'⟩ := hbefore
      rw [heq, hu'] at hu
      cases hu
    exact (hearly x hxrec hxc hne).asymm h (by rw [hnrec]; rfl) (by rw [hxrec]; rfl) hbefore
  · rintro rfl n' hn' hc' hne
    have hmem : n' ∈ s.closedNodes := hs.mem_closedNodes.mpr ⟨hn', hc'⟩
    rw [hclosed] at hmem
    exact hordered.1 n' ((List.mem_cons.mp hmem).resolve_left fun heq => hne (heq ▸ rfl))

/-- Node retention. A successful enrollment into a full table removes the closed node that was
    enrolled before all other closed ones, and no other record changes, if and only if no closed
    node has a smaller timestamp than that one. -/
theorem node_retention (h : Run w past s) (hfull : s.nodes.size = maxNodes)
    {name version profile capabilities interval jitter : Json} {now : Instant}
    {reply : EnrollResponse}
    (hok : enrollNode w name version profile capabilities interval jitter now s = .ok reply s')
    (hf : w.FreshBelow s'.draws) :
    (∃ n, s.Replaces n s' ∧ EarliestClosed past s n) ↔
      ∀ n ∈ s.closedNodes, EarliestClosed past s n → ∀ n' ∈ s.closedNodes,
        n.createdAt ≤ n'.createdAt := by
  have hs := h.reachable.sound.safe
  obtain ⟨v, hmin, hv⟩ := enrollNode_full hs hfull.ge hok hf
  have hvmem := firstMin_mem hmin
  obtain ⟨x, rest, hclosed⟩ := List.exists_cons_of_ne_nil (List.ne_nil_of_mem hvmem)
  have hx : x ∈ s.closedNodes := hclosed ▸ List.mem_cons_self
  constructor
  · rintro ⟨n, hn, hearly⟩ m hm hmearly
    have hnmem := hs.mem_closedNodes.mpr ⟨hn.recorded, hn.closed⟩
    -- only the one record that went is missing afterwards
    have hnv : n = v := by
      by_contra hne
      have hid : n.id ≠ v.id := fun heq =>
        hne (Option.some.inj (hn.recorded.symm.trans (heq ▸ hv.recorded)))
      have hkept := hv.others _ _ hid hn.recorded
      rw [hn.gone] at hkept
      cases hkept
    obtain rfl := (h.earliest_iff hclosed hnmem).mp hearly
    obtain rfl := (h.earliest_iff hclosed hm).mp hmearly
    subst hnv
    exact fun n' hn' => firstMin_le hmin hn'
  · intro hclock
    have hle := hclock x hx ((h.earliest_iff hclosed hx).mpr rfl)
    have hhead : firstMin Node.createdAt (x :: rest) = some x := firstMin_head.mpr fun y hy =>
      hle y (hclosed ▸ List.mem_cons_of_mem _ hy)
    rw [hclosed, hhead, Option.some.injEq] at hmin
    subst hmin
    exact ⟨x, hv, (h.earliest_iff hclosed hx).mpr rfl⟩

namespace Counting

/-- The table is filled; node `i` is made from draws `6 * i` and `6 * i + 1`. -/
def crowd : List Op := List.replicate maxNodes enroll

/-- Node `i` of the crowd disconnects. -/
def leave (i : ℕ) : Op :=
  .disconnectNode (.str (World.counting.nodeId (6 * i)))
    (.str (.text (World.counting.token (6 * i + 1))))

/-- One more Node enrolls. -/
def enrollLate (w : World) : Lab EnrollResponse :=
  enrollNode w (.str "unit-node") (.str "0.2.0") (.str "training")
    (.arr ((nodeProfiles .training).map Vocabulary.toJson)) (.int 1000) (.int 0) 20

/-- The clock is set back after the first enrollment. -/
def setBack : World := { World.counting with utcNow := fun n => if n < 6 then 100 else n }

theorem setBack_fresh {n : ℕ} (hn : n ≤ 10 ^ 10) : setBack.FreshBelow n := World.counting_fresh hn

/-- One Node of the crowd has left. -/
def left : List Op := crowd ++ [leave 0]

/-- The first two have left. -/
def bothLeft : List Op := crowd ++ [leave 0, leave 1]

/-- The closed records are in the order of their timestamps. -/
theorem left_evaluated :
    (∀ k < left.length + 1, (exec .counting (.init "stream") (left.take k)).draws ≤ 10 ^ 10) ∧
    let s := exec .counting (.init "stream") left
    s.nodes.size = maxNodes ∧ returns (enrollLate .counting) s = true ∧
      ∀ n ∈ s.closedNodes, ∀ n' ∈ s.closedNodes, n.createdAt ≤ n'.createdAt := by
  decide +kernel

/-- The first Node was there whenever the second was, both have left, and the second one goes. -/
theorem bothLeft_evaluated :
    (∀ k < bothLeft.length + 1,
      (exec setBack (.init "stream") (bothLeft.take k)).draws ≤ 10 ^ 10) ∧
    (∀ u ∈ passed setBack (.init "stream") bothLeft,
      (u.nodes.get? (World.counting.nodeId 6)).isSome →
        (u.nodes.get? (World.counting.nodeId 0)).isSome) ∧
    let s := exec setBack (.init "stream") bothLeft
    s.nodes.size = maxNodes ∧ (∃ n ∈ s.closedNodes, n.id = World.counting.nodeId 0) ∧
      returns (enrollLate setBack) s = true ∧
      ∀ n ∈ s.closedNodes, ((Prog.final (enrollLate setBack) s).nodes.get? n.id).isNone →
        n.id = World.counting.nodeId 6 := by
  decide +kernel

end Counting

/-- The one Node that left makes room. -/
theorem node_retention_left : ∃ past s reply s' n, Run .counting past s ∧
    s.nodes.size = maxNodes ∧ Counting.enrollLate .counting s = .ok reply s' ∧ s.Replaces n s' ∧
    EarliestClosed past s n := by
  obtain ⟨hdraws, hfull, hreturns, hclock⟩ := Counting.left_evaluated
  have hrun := World.counting_run "stream" Counting.left hdraws
  obtain ⟨reply, s', hok, hf⟩ := Counting.exists_returned hreturns
  obtain ⟨n, hn, hearly⟩ := (node_retention hrun hfull hok hf).mpr
    fun n hn _ n' hn' => hclock n hn n' hn'
  exact ⟨_, _, reply, s', n, hrun, hfull, hok, hn, hearly⟩

/-- With the clock set back after the first enrollment the second of two Nodes that left goes. -/
theorem node_retention_set_back : ∃ past s reply s', Run Counting.setBack past s ∧
    s.nodes.size = maxNodes ∧ Counting.enrollLate Counting.setBack s = .ok reply s' ∧
    Counting.setBack.FreshBelow s'.draws ∧ ¬∃ n, s.Replaces n s' ∧ EarliestClosed past s n := by
  obtain ⟨hdraws, hbefore, hfull, hfirst, hreturns, hgone⟩ := Counting.bothLeft_evaluated
  have hrun := run_exec (w := Counting.setBack) "stream" Counting.bothLeft
    fun k hk => Counting.setBack_fresh (hdraws k (Nat.lt_succ_of_le hk))
  obtain ⟨reply, s', hok, hf⟩ := Counting.exists_returned hreturns
  rw [Prog.final, hok] at hgone
  refine ⟨_, _, reply, s', hrun, hfull, hok, hf, ?_⟩
  rintro ⟨n, hn, hearly⟩
  have hsafe := hrun.reachable.sound.safe
  obtain ⟨x, hx, hxid⟩ := hfirst
  obtain ⟨hxrec, hxc⟩ := hsafe.mem_closedNodes.mp hx
  have hid := hgone n (hsafe.mem_closedNodes.mpr ⟨hn.recorded, hn.closed⟩) (by rw [hn.gone]; rfl)
  obtain ⟨u, hu, hthere, hmissing⟩ := hearly x hxrec hxc (by rw [hid, hxid]; decide)
  rw [hid] at hthere
  rw [hxid] at hmissing
  have := hbefore u hu hthere
  rw [hmissing] at this
  cases this

end C2Lab
