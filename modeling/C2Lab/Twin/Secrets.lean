import Mathlib.Logic.Equiv.Basic
import C2Lab.Core.Counting
import C2Lab.Twin.Run

/-! Session tokens and idempotency keys do not flow out.

    Two runs of the same operations whose tokens and keys go by other names: every reply is the
    same, except for the token an enrollment hands out, and so is every read. -/

namespace C2Lab

variable {py : Interp} {ρ : Renaming py} {w w' : World} {s s' : LabState}

/-- Every read answers alike. -/
structure LabState.SameReads (s s' : LabState) : Prop where
  nodes : s'.publicNodes = s.publicNodes
  tasks : s'.publicTasks = s.publicTasks
  exercises : s'.publicExercises = s.publicExercises
  events : s'.eventFeed = s.eventFeed
  audit : s'.auditTrail = s.auditTrail
  sync : ∀ generatedAt eventsAfter auditAfter limit,
    s'.sync generatedAt eventsAfter auditAfter limit =
      s.sync generatedAt eventsAfter auditAfter limit
  overview : s'.overview = s.overview
  report : ∀ generatedAt, s'.report generatedAt = s.report generatedAt

/-- A reply without the token of an enrollment. -/
def Reply.withoutToken : Reply → Reply
  | .enrolled r => .enrolled { r with sessionToken := "" }
  | r => r

namespace Renaming

/-- Other names for tokens and keys alone. -/
def ofSecrets (py : Interp) (token : String → String) (htoken : Function.Injective token)
    (key : Renames ValidKey) : Renaming py :=
  keepActors py token htoken key (.same (CleanText py))

/-- Nothing shown goes by another name. -/
structure Open (ρ : Renaming py) : Prop where
  histories : ρ.histories
  text : ρ.text = .same (CleanText py)

namespace Open

theorem command_eq (h : ρ.Open) : ρ.command = id := funext fun c => by
  cases c <;> simp [command, h.text]

theorem nodeTask_eq (h : ρ.Open) : ρ.nodeTask = id := funext fun t =>
  ρ.nodeTask_of_fixed (by rw [h.command_eq]; rfl)

theorem publicTask_eq (h : ρ.Open) : ρ.publicTask = id := funext fun t => by
  have hcommand : ρ.command t.command = t.command := by rw [h.command_eq]; rfl
  have hresult : t.result.map (ρ.result t.command) = t.result := by
    cases t.result with
    | none => rfl
    | some r => exact congrArg some (ρ.result_of_fixed hcommand r)
  unfold publicTask
  rw [hcommand, hresult, ρ.actor_name h.histories]
  rfl

theorem publicExercise_eq (h : ρ.Open) : ρ.publicExercise = id :=
  ρ.publicExercise_same h.histories

theorem event_eq (h : ρ.Open) : ρ.event = id := funext fun e => by
  have hfield : ρ.field = id := funext fun p => by
    unfold field
    split
    · rw [h.text, Renames.name_same]
      rfl
    · rfl
  have hdata : ρ.data e.kind e.data = e.data := by
    unfold data
    split <;> simp [hfield]
  unfold event
  rw [hdata]
  rfl

theorem summary_eq (h : ρ.Open) : ρ.summary = id := funext fun x => by
  unfold summary
  rw [ρ.actor_name h.histories, h.publicTask_eq, List.map_id]
  rfl

theorem pollResponse_eq (h : ρ.Open) : ρ.pollResponse = id := funext fun r => by
  unfold pollResponse
  rw [h.nodeTask_eq, Option.map_id]
  rfl

/-- Only the token of an enrollment shows the difference. -/
theorem withoutToken_reply (h : ρ.Open) (r : Reply) :
    (ρ.reply r).withoutToken = r.withoutToken := by
  cases r with
  | enrolled r => rfl
  | polled r => rw [reply, h.pollResponse_eq]; rfl
  | accepted r => rw [reply, h.nodeTask_eq]; rfl
  | node n => rfl
  | task t => rw [reply, h.publicTask_eq]; rfl
  | operation x => rw [reply, h.summary_eq]; rfl
  | exercise e => rw [reply, h.publicExercise_eq]; rfl
  | note e => rw [reply, h.event_eq]; rfl
  | done => rfl

theorem sameReads (h : ρ.Open) (ht : ρ.Twin s s') : s.SameReads s' := by
  have hh := ht.history h.histories
  have htasks : s'.publicTasks = s.publicTasks := by
    rw [ht.publicTasks_eq, h.publicTask_eq, List.map_id]
  have hexercises := ht.publicExercises_same h.histories
  have hevents : s'.events = s.events := by rw [hh.events, h.event_eq, List.map_id]
  refine ⟨ht.publicNodes_eq, htasks, hexercises, ?_, ht.auditTrail_eq h.histories, ?_, ?_,
    ht.report_eq h.histories⟩
  · unfold LabState.eventFeed
    rw [hevents]
  · intro generatedAt eventsAfter auditAfter limit
    simp only [LabState.sync, LabState.resetFloor, ht.publicNodes_eq, htasks, hexercises, hevents,
      hh.auditEntries, hh.eventSequence, hh.auditSequence, ht.streamId]
  · simp only [LabState.overview, LabState.eventFeed, ht.publicNodes_eq, htasks, hexercises,
      hevents]

/-- No operator goes by another name, so no containment has to spare anything. -/
theorem sparesNodes (h : ρ.Open) (s : LabState) (op : Op) : ρ.SparesNodes s op :=
  fun _ _ _ _ _ _ a _ _ _ _ _ _ _ => ρ.actor_name h.histories a

theorem call (h : ρ.Open) (hs : ρ.Sim w w' s s') (op : Op) :
    Prog.Alike (ρ.Sim w w') (fun r r' => r' = ρ.reply r) (op.call w) ((ρ.op op).call w') s s' :=
  twin_call hs op (fun _ => h.text) (fun _ => h.histories) (h.sparesNodes s op)

/-- Runs of the same operations stay twins. -/
theorem exec (h : ρ.Open) (hs : ρ.Sim w w' s s') (ops : List Op) :
    ρ.Sim w w' (exec w s ops) (exec w' s' (ops.map ρ.op)) := by
  induction ops generalizing s s' with
  | nil => exact hs
  | cons op ops ih => exact ih (step_of_alike (h.call hs op))

end Open

end Renaming

/-- Whatever was called before: the next reply is the same up to the token of an enrollment, an
    exception is the same, and so is every read. -/
theorem secrets_stay {w w' : World} {token : String → String}
    (htoken : Function.Injective token) (key : Renames ValidKey)
    (hinterp : w'.toInterp = w.toInterp) (huuid : w'.uuid = w.uuid)
    (hclock : w'.utcNow = w.utcNow) (htokens : ∀ n, w'.token n = token (w.token n))
    (stream : String) (ops : List Op) :
    let ρ := Renaming.ofSecrets w.toInterp token htoken key
    let s := exec w (.init stream) ops
    let s' := exec w' (.init stream) (ops.map ρ.op)
    (∀ op, (answer w' s' (ρ.op op)).map Reply.withoutToken =
      (answer w s op).map Reply.withoutToken) ∧ s.SameReads s' := by
  intro ρ s s'
  have hopen : ρ.Open := ⟨trivial, rfl⟩
  have hstart : ρ.Sim w w' (.init stream) (.init stream) :=
    { Renaming.twin_init stream with
      aligned := ⟨⟨rfl, hinterp⟩, fun k => by rw [huuid], fun k => by rw [hclock],
        fun k => htokens _⟩ }
  have hs : ρ.Sim w w' s s' := hopen.exec hstart ops
  refine ⟨fun op => ?_, hopen.sameReads hs.toTwin⟩
  rw [answer_of_alike (hopen.call hs op)]
  cases answer w s op with
  | error e => rfl
  | ok r => exact congrArg Except.ok (hopen.withoutToken_reply r)

/-! ### A run with other secrets -/

namespace Counting

/-- A longer token. -/
def prefixed (t : String) : String := "x" ++ t

theorem prefixed_injective : Function.Injective prefixed := fun a b h => by
  have hlist : 'x' :: a.toList = 'x' :: b.toList := by
    simpa [prefixed, String.toList_append] using congrArg String.toList h
  exact String.toList_inj.mp (List.cons.inj hlist).2

/-- The counting world with longer tokens. -/
def prefixedWorld : World :=
  { World.counting with
    token := fun n => prefixed (World.counting.token n)
    token_length := fun n => by
      have h := World.counting.token_length n
      rw [prefixed, String.length_append]
      omega }

/-- Two keys change places. -/
def swappedKeys : Renames ValidKey :=
  { map := Equiv.swap (PyStr.text "first-key") (.text "second-key")
    maps := fun k hk => by
      rw [Equiv.swap_apply_def]
      split
      · rfl
      · split
        · rfl
        · exact hk
    injOn := (Equiv.injective _).injOn }

/-- A PING task, queued under a key. -/
def queueUnder (key : PyStr) : Op :=
  .queueTask nodeId (Vocabulary.toJson TaskType.ping) (.obj []) none (.str key) (.str "operator")
    10

/-- The counting world's secrets changed: longer tokens, and the two keys swapped. -/
noncomputable abbrev otherSecrets : Renaming World.counting.toInterp :=
  .ofSecrets World.counting.toInterp prefixed prefixed_injective swappedKeys

theorem queueUnder_renamed :
    otherSecrets.op (queueUnder "first-key") = queueUnder "second-key" := by
  have hmoved : swappedKeys.map "first-key" = "second-key" := by decide
  have hvalid : ValidKey "first-key" := by with_unfolding_all rfl
  have hkey : otherSecrets.keyArg (.str "first-key") = .str "second-key" :=
    congrArg Json.str ((swappedKeys.name_of hvalid).trans hmoved)
  have hactor : otherSecrets.actorArg (.str "operator") = .str "operator" :=
    congrArg Json.str (otherSecrets.actor_name trivial _)
  simp only [queueUnder, Renaming.op, hkey, hactor]

end Counting

/-- A task is queued under one key here and another there; asked for again under its key, each side
    gets the same answer. -/
theorem secrets_stay_keyed :
    let s := exec .counting (.init "stream") [Counting.enroll, Counting.queueUnder "first-key",
      Counting.poll 11]
    let s' := exec Counting.prefixedWorld (.init "stream")
      [Counting.otherSecrets.op Counting.enroll, Counting.queueUnder "second-key",
        Counting.otherSecrets.op (Counting.poll 11)]
    (answer Counting.prefixedWorld s' (Counting.queueUnder "second-key")).map Reply.withoutToken =
      (answer .counting s (Counting.queueUnder "first-key")).map Reply.withoutToken ∧
    s.SameReads s' := by
  intro s s'
  obtain ⟨hreply, hreads⟩ := @secrets_stay .counting Counting.prefixedWorld _
    Counting.prefixed_injective Counting.swappedKeys rfl rfl rfl (fun _ => rfl) "stream"
    [Counting.enroll, Counting.queueUnder "first-key", Counting.poll 11]
  have hagain := hreply (Counting.queueUnder "first-key")
  simp only [List.map_cons, List.map_nil] at hagain hreads
  rw [Counting.queueUnder_renamed] at hagain hreads
  exact ⟨hagain, hreads⟩

end C2Lab
