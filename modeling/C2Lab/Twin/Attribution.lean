import Mathlib.Logic.Equiv.Basic
import C2Lab.Core.Counting
import C2Lab.Twin.Run

/-! What a Node learns of the operators.

    Two runs of the same operations in which the operators go by other names and notes are left out
    or put in. A Node gets the same replies in both as long as no containment writes the name of a
    renamed operator into the record of a Node: that record is shown to the Node whole. -/

namespace C2Lab

open Prog

variable {py : Interp} {ρ : Renaming py} {w w' : World} {s s' t : LabState}

/-- The calls of a Node. -/
def Op.isNodeCall : Op → Bool
  | .enrollNode .. | .pollNode .. | .submitResult .. | .disconnectNode .. => true
  | _ => false

/-! ### Notes -/

/-- Apart from the keys of the notes, the tables are the same. -/
def LabState.SameTables (s t : LabState) : Prop :=
  { t.toRecords with noteIdempotency := s.noteIdempotency } = s.toRecords

theorem appendNote_tables (actor message : PyStr) (key : Option PyStr) (h : t.SameTables s) :
    wp (appendNote w actor message key) (fun _ => t.SameTables) (fun _ => t.SameTables) s := by
  unfold appendNote
  generalize maxOperatorNotesRetained = limit
  rw [wp_bind, wp_get, wp_bind, wp_require]
  refine ⟨fun _ => ?_, fun _ => h⟩
  unfold LabState.SameTables at h ⊢
  cases key <;> simpa using h

/-- A note changes the histories and the keys of the notes only. -/
theorem postOperatorNote_tables (message actor key : Json) :
    s.SameTables (step w s (.postOperatorNote message actor key)) := by
  have hsame : s.SameTables s := rfl
  refine final_map _ ?_
  unfold postOperatorNote
  simp only [wp_bind, wp_check, wp_get]
  refine ⟨fun a _ => ⟨fun m _ => ⟨fun k _ => ?_, fun _ _ => hsame⟩, fun _ _ => hsame⟩,
    fun _ _ => hsame⟩
  split
  · simp only [wp_ite, wp_throw]
    refine ⟨fun _ => hsame, fun _ => ?_⟩
    split
    · exact hsame
    · simp only [wp_bind, wp_modify]
      exact appendNote_tables _ _ _ rfl
  · exact appendNote_tables _ _ _ hsame

namespace Renaming.Twin

/-- Where the histories are not compared, a note on one side makes no difference. -/
theorem of_tables (h : ρ.Twin s s') (hρ : ¬ρ.histories) {t t' : LabState} (ht : s.SameTables t)
    (ht' : s'.SameTables t') : ρ.Twin t t' := by
  have hsame : ∀ {α : Type} (f : Records → α),
      (∀ r d, f { r with noteIdempotency := d } = f r) →
      f t.toRecords = f s.toRecords ∧ f t'.toRecords = f s'.toRecords := fun f hf =>
    ⟨(hf t.toRecords _).symm.trans (congrArg f ht), (hf t'.toRecords _).symm.trans (congrArg f ht')⟩
  obtain ⟨hnodes, hnodes'⟩ := hsame Records.nodes fun _ _ => rfl
  obtain ⟨htasks, htasks'⟩ := hsame Records.tasks fun _ _ => rfl
  obtain ⟨hacks, hacks'⟩ := hsame Records.taskResultTombstones fun _ _ => rfl
  obtain ⟨hexercises, hexercises'⟩ := hsame Records.exercises fun _ _ => rfl
  obtain ⟨hkeys, hkeys'⟩ := hsame Records.exerciseIdempotency fun _ _ => rfl
  obtain ⟨hoperations, hoperations'⟩ := hsame Records.operationIdempotency fun _ _ => rfl
  obtain ⟨hsequence, hsequence'⟩ := hsame Records.taskSequence fun _ _ => rfl
  obtain ⟨hstream, hstream'⟩ := hsame Records.streamId fun _ _ => rfl
  refine ⟨?_, ?_, ?_, ?_, ?_, ?_, ?_, ?_, fun h => absurd h hρ⟩
  · rw [hnodes, hnodes', h.nodes]
  · rw [htasks, htasks', h.tasks]
  · rw [hacks, hacks', h.tombstones]
  · rw [hexercises, hexercises', h.exercises]
  · rw [hkeys, hkeys', h.exerciseKeys]
  · rw [hoperations, hoperations', h.operations]
  · rw [hsequence, hsequence', h.taskSequence]
  · rw [hstream, hstream', h.streamId]

end Renaming.Twin

/-! ### Runs -/

namespace Renaming

/-- Other names for the operators alone. -/
def ofActors (py : Interp) (actor : Renames ValidActor) : Renaming py :=
  { token := id, token_injective := Function.injective_id, key := .same ValidKey
    actor := actor, text := .same (CleanText py), histories := False
    actor_same := False.elim }

/-- Two runs that differ in the names of the operators and in the notes: an operation other than a
    note is made in both and draws the same values there; a note is made in one of them. -/
inductive Twins (ρ : Renaming py) : LabState → LabState → Prop
  | start (stream : String) : Twins ρ (.init stream) (.init stream)
  | both {s s' : LabState} (h : Twins ρ s s') {w w' : World}
      (hw : ρ.Aligned w s.draws w' s'.draws) (op : Op) (hop : op.isNote = false)
      (hspares : ρ.SparesNodes s op) : Twins ρ (step w s op) (step w' s' (ρ.op op))
  | left {s s' : LabState} (h : Twins ρ s s') (w : World) (message actor key : Json) :
      Twins ρ (step w s (.postOperatorNote message actor key)) s'
  | right {s s' : LabState} (h : Twins ρ s s') (w' : World) (message actor key : Json) :
      Twins ρ s (step w' s' (.postOperatorNote message actor key))

variable {actor : Renames ValidActor}

/-- Two such runs are in twin states. -/
theorem Twins.twin (h : (ofActors py actor).Twins s s') : (ofActors py actor).Twin s s' := by
  induction h with
  | start stream => exact twin_init stream
  | both _ hw op hop hspares ih =>
    refine (step_of_alike (twin_call ⟨ih, hw⟩ op (fun _ => rfl) (fun hnote => ?_) hspares)).toTwin
    rw [hop] at hnote
    cases hnote
  | left _ w message actor key ih =>
    exact ih.of_tables id (postOperatorNote_tables message actor key) rfl
  | right _ w' message actor key ih =>
    exact ih.of_tables id rfl (postOperatorNote_tables message actor key)

/-- A Node calls by the same name in both runs. -/
theorem op_of_nodeCall {op : Op} (hop : op.isNodeCall = true) : (ofActors py actor).op op = op := by
  have htoken : ∀ j : Json, (ofActors py actor).tokenArg j = j := fun j => by
    cases j with
    | str s => cases s <;> rfl
    | _ => rfl
  cases op with
  | pollNode | submitResult | disconnectNode => simp [Renaming.op, htoken]
  | enrollNode => rfl
  | _ => cases hop

theorem tokenStr_ofActors (s : PyStr) : (ofActors py actor).tokenStr s = s := by
  cases s <;> rfl

theorem nodeTask_ofActors (t : NodeTask) : (ofActors py actor).nodeTask t = t := by
  refine nodeTask_of_fixed ?_
  cases t.command <;> simp [command, ofActors]

/-- The replies a Node gets name no operator but the one in its record. -/
theorem reply_of_nodeCall {op : Op} (hop : op.isNodeCall = true) {r : Reply}
    (hr : answer w s op = .ok r) : (ofActors py actor).reply r = r := by
  have hvalue : ∀ {α : Type} {m : Lab α} {f : α → Reply}, op.call w = f <$> m →
      (∀ a, (ofActors py actor).reply (f a) = f a) → (ofActors py actor).reply r = r := by
    intro α m f hcall hf
    simp only [answer, hcall, Functor.map, EStateM.map] at hr
    cases hm : m s <;> rw [hm] at hr <;> cases hr
    exact hf _
  cases op with
  | enrollNode =>
    refine hvalue rfl fun r => ?_
    simp [reply, enrollResponse, tokenStr_ofActors]
  | pollNode =>
    refine hvalue rfl fun r => ?_
    obtain ⟨node, task, time⟩ := r
    cases task with
    | none => rfl
    | some t =>
      have ht : (ofActors py actor).nodeTask t = t := nodeTask_ofActors t
      simp only [reply, pollResponse, Option.map_some, ht]
  | submitResult => exact hvalue rfl fun r => congrArg Reply.accepted (nodeTask_ofActors r)
  | disconnectNode => exact hvalue rfl fun _ => rfl
  | _ => cases hop

end Renaming

/-- As long as no containment pauses a recorded Node under a name that the second run changes, the
    Node calls are answered alike after any two such runs. -/
theorem node_replies_alike {actor : Renames ValidActor}
    (h : (Renaming.ofActors py actor).Twins s s')
    (hw : (Renaming.ofActors py actor).Aligned w s.draws w' s'.draws) {op : Op}
    (hop : op.isNodeCall = true) : answer w' s' op = answer w s op := by
  have hspares : (Renaming.ofActors py actor).SparesNodes s op := by
    rintro id action actor rfl
    cases hop
  have hnote : op.isNote = true → (Renaming.ofActors py actor).histories := fun hnote => by
    cases op <;> simp [Op.isNodeCall, Op.isNote] at hop hnote
  have hcall := answer_of_alike (twin_call ⟨h.twin, hw⟩ op (fun _ => rfl) hnote hspares)
  rw [Renaming.op_of_nodeCall hop] at hcall
  rw [hcall]
  cases hr : answer w s op with
  | error e => rfl
  | ok r => exact congrArg Except.ok (Renaming.reply_of_nodeCall hop hr)

/-! ### A note on one side, and a containment -/

namespace Counting

/-- The counting world begun `k` draws later. -/
def delayed (k : ℕ) : World where
  toInterp := World.counting.toInterp
  uuid n := World.counting.uuid (n - k)
  token n := World.counting.token (n - k)
  utcNow n := World.counting.utcNow (n - k)
  uuid_hex n := World.counting.uuid_hex (n - k)
  token_length n := World.counting.token_length (n - k)

theorem delayed_aligned (actor : Renames ValidActor) (n k : ℕ) :
    (Renaming.ofActors World.counting.toInterp actor).Aligned .counting n (delayed k) (n + k) := by
  have hshift : ∀ j, n + k + j - k = n + j := fun j => by omega
  refine ⟨⟨rfl, rfl⟩, fun j => ?_, fun j => ?_, fun j => ?_⟩ <;>
    simp [delayed, hshift, Renaming.ofActors]

/-- Two operators change places. -/
def swappedActors : Renames ValidActor :=
  { map := Equiv.swap (PyStr.text "alice") (.text "bob")
    maps := fun a ha => by
      rw [Equiv.swap_apply_def]
      split
      · rfl
      · split
        · rfl
        · exact ha
    injOn := (Equiv.injective _).injOn }

/-- A PING task, queued by somebody. -/
def queueAs (actor : PyStr) : Op :=
  .queueTask nodeId (Vocabulary.toJson TaskType.ping) (.obj []) none .null (.str actor) 10

theorem swapped_alice :
    (Renaming.ofActors World.counting.toInterp swappedActors).actorArg (.str "alice") =
      .str "bob" := by
  have hmoved : swappedActors.map "alice" = "bob" := by decide
  exact (congrArg Json.str (swappedActors.name_of (a := "alice") rfl)).trans
    (congrArg Json.str hmoved)

theorem queueAs_renamed :
    (Renaming.ofActors World.counting.toInterp swappedActors).op (queueAs "alice") =
      queueAs "bob" := by
  simp only [queueAs, Renaming.op, swapped_alice, Renaming.keyArg]

/-- A poll that brings a task. -/
def delivers : Except Exc Reply → Bool
  | .ok (.polled r) => r.task.isSome
  | _ => false

end Counting

/-- A note in the second run only, then a task that alice queues in the first run and bob in the
    second: the next poll delivers it alike. -/
theorem node_replies_alike_queued :
    let s₀ := step .counting (.init "stream") Counting.enroll
    let s₁ := step .counting s₀ (.postOperatorNote (.str "hello") (.str "bob") .null)
    let s := step .counting s₀ (Counting.queueAs "alice")
    let s' := step (Counting.delayed 3) s₁ (Counting.queueAs "bob")
    answer (Counting.delayed 3) s' (Counting.poll 11) = answer .counting s (Counting.poll 11) ∧
      Counting.delivers (answer .counting s (Counting.poll 11)) = true := by
  intro s₀ s₁ s s'
  have hnote : (Renaming.ofActors World.counting.toInterp Counting.swappedActors).Twins s₀ s₁ :=
    .right (.both (.start "stream") (Counting.delayed_aligned _ 0 0) Counting.enroll rfl
      fun _ _ _ h => by cases h) .counting _ _ _
  have hdraws₁ : s₁.draws = s₀.draws + 3 := by decide
  have haligned := Counting.delayed_aligned Counting.swappedActors s₀.draws 3
  rw [← hdraws₁] at haligned
  have htwins := hnote.both haligned (Counting.queueAs "alice") rfl fun _ _ _ h => by cases h
  rw [Counting.queueAs_renamed] at htwins
  have hdraws : s'.draws = s.draws + 3 := by decide +kernel
  have haligned' := Counting.delayed_aligned Counting.swappedActors s.draws 3
  rw [← hdraws] at haligned'
  exact ⟨node_replies_alike htwins haligned' rfl, by decide +kernel⟩

namespace Counting

/-- The operator who paused the Node whose poll was answered. -/
def pausedBy : Except Exc Reply → Option PyStr
  | .ok (.polled r) => r.node.taskingPausedBy
  | _ => none

/-- A detected exercise is contained by pausing its Node. -/
def contained (actor : PyStr) : List Op :=
  detection ++ [.containExercise (.str (World.counting.exerciseId 6))
    (Vocabulary.toJson ContainmentAction.pauseNodeTasking) (.str actor)]

theorem contained_renamed :
    (contained "alice").map (Renaming.ofActors World.counting.toInterp swappedActors).op =
      contained "bob" := by
  have hactor : ∀ a, ValidActor a →
      (Renaming.ofActors World.counting.toInterp swappedActors).actorArg (.str a) =
        .str (swappedActors.map a) := fun a ha =>
    congrArg Json.str (swappedActors.name_of ha)
  have hoperator := hactor "operator" rfl
  have hmoved : swappedActors.map "operator" = "operator" := by decide
  rw [hmoved] at hoperator
  have hsession : ∀ op, op.isNodeCall = true →
      (Renaming.ofActors World.counting.toInterp swappedActors).op op = op :=
    fun _ => Renaming.op_of_nodeCall
  simp only [contained, detection, List.cons_append, List.nil_append, List.map_cons, List.map_nil,
    hsession enrollPurple rfl, hsession (poll 11) rfl, hsession (submit _ _ _ _) rfl]
  simp only [Renaming.op, hoperator, swapped_alice, Renaming.keyArg]

end Counting

/-- A containment that pauses the Node: whoever applied it is named in the next poll. -/
theorem node_sees_operator :
    answer .counting (exec .counting (.init "stream") ((Counting.contained "alice").map
      (Renaming.ofActors World.counting.toInterp Counting.swappedActors).op)) (Counting.poll 13) ≠
      answer .counting (exec .counting (.init "stream") (Counting.contained "alice"))
        (Counting.poll 13) := by
  rw [Counting.contained_renamed]
  intro h
  have hbob : Counting.pausedBy (answer .counting (exec .counting (.init "stream")
      (Counting.contained "bob")) (Counting.poll 13)) = some "bob" := by decide +kernel
  have halice : Counting.pausedBy (answer .counting (exec .counting (.init "stream")
      (Counting.contained "alice")) (Counting.poll 13)) = some "alice" := by decide +kernel
  rw [h, halice] at hbob
  exact absurd hbob (by decide)

end C2Lab
