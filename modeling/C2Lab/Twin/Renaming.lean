import C2Lab.Core.OperatorOps
import C2Lab.Lib.Rename

/-! Renaming what an operation must not depend on.

    A `Renaming` gives other names to session tokens, idempotency keys, operators and free texts.
    What it does to a record is defined here, record by record; a result is only changed where it is
    the answer the renamed text asks for. -/

namespace C2Lab

variable {py : Interp}

/-- A key `_validate_idempotency_key` accepts. -/
def ValidKey (k : PyStr) : Prop := validateIdempotencyKey (.str k) = .ok (some k)

/-- An actor `_validate_operator_actor` accepts. -/
def ValidActor (a : PyStr) : Prop := validateOperatorActor (.str a) = .ok a

/-- A trimmed text `clean_text` accepts. -/
def CleanText (py : Interp) (s : PyStr) : Prop :=
  cleanText py (.str s) "text" maxTextLength = .ok s

theorem validateIdempotencyKey_str {k : PyStr} {r : Option PyStr}
    (h : validateIdempotencyKey (.str k) = .ok r) : r = some k := by
  simp only [validateIdempotencyKey] at h
  split at h
  · split at h
    · cases h; rfl
    · cases h
  · cases h

theorem validateOperatorActor_ok {j : Json} {r : PyStr} (h : validateOperatorActor j = .ok r) :
    j = .str r := by
  cases j with
  | str a =>
    simp only [validateOperatorActor] at h
    split at h
    · split at h
      · cases h
        rfl
      · cases h
    · cases h
  | _ => cases h

/-- New names for tokens, keys, operators and texts; `histories` tells whether the two event feeds
    and audit trails are compared as well, which the operators in them must then allow. -/
structure Renaming (py : Interp) where
  token : String → String
  token_injective : Function.Injective token
  key : Renames ValidKey
  actor : Renames ValidActor
  text : Renames (CleanText py)
  histories : Prop
  actor_same : histories → actor = .same ValidActor

namespace Renaming

/-- Tokens, keys and texts go by other names, the operators keep theirs. -/
def keepActors (py : Interp) (token : String → String) (htoken : Function.Injective token)
    (key : Renames ValidKey) (text : Renames (CleanText py)) : Renaming py :=
  { token := token, token_injective := htoken, key := key, actor := .same ValidActor, text := text
    histories := True, actor_same := fun _ => rfl }

variable (ρ : Renaming py)

/-- Histories that are compared name the same operators. -/
theorem actor_name (hρ : ρ.histories) (a : PyStr) : ρ.actor.name a = a := by
  rw [ρ.actor_same hρ, Renames.name_same]

/-- A token is a string of scalar values. -/
def tokenStr : PyStr → PyStr
  | .text t => .text (ρ.token t)
  | s => s

theorem tokenStr_injective : Function.Injective ρ.tokenStr := by
  intro a b h
  cases a <;> cases b <;> simp only [tokenStr, PyStr.text.injEq, reduceCtorEq] at h
  · rw [ρ.token_injective h]
  · exact h

theorem tokenStr_encodes (s : PyStr) : (ρ.tokenStr s).encodes = s.encodes := by
  cases s <;> rfl

/-- A presented token. -/
def tokenArg : Json → Json
  | .str s => .str (ρ.tokenStr s)
  | j => j

/-- A presented key. -/
noncomputable def keyArg : Json → Json
  | .str k => .str (ρ.key.name k)
  | j => j

/-- The name an operator calls with. -/
noncomputable def actorArg : Json → Json
  | .str a => .str (ρ.actor.name a)
  | j => j

theorem validate_keyArg (j : Json) :
    validateIdempotencyKey (ρ.keyArg j) =
      (validateIdempotencyKey j).map (Option.map ρ.key.name) := by
  cases j with
  | str k =>
    show validateIdempotencyKey (.str (ρ.key.name k)) = _
    by_cases h : ValidKey k
    · have h' : ValidKey (ρ.key.name k) := ρ.key.name_iff.mpr h
      rw [ValidKey] at h h'
      rw [h, h']
      rfl
    · rw [ρ.key.name_of_not h]
      cases hk : validateIdempotencyKey (.str k) with
      | error e => rfl
      | ok r =>
        obtain rfl := validateIdempotencyKey_str hk
        exact absurd hk h
  | _ => rfl

theorem validate_actorArg (j : Json) :
    validateOperatorActor (ρ.actorArg j) = (validateOperatorActor j).map ρ.actor.name := by
  cases j with
  | str a =>
    show validateOperatorActor (.str (ρ.actor.name a)) = _
    by_cases h : ValidActor a
    · have h' : ValidActor (ρ.actor.name a) := ρ.actor.name_iff.mpr h
      rw [ValidActor] at h h'
      rw [h, h']
      rfl
    · rw [ρ.actor.name_of_not h]
      cases ha : validateOperatorActor (.str a) with
      | error e => rfl
      | ok r =>
        obtain rfl : a = r := Json.str.inj (validateOperatorActor_ok ha)
        exact absurd ha h
  | _ => rfl

/-! ### Tasks -/

/-- A command about another text. -/
noncomputable def command : Command → Command
  | .echoText text => .echoText (ρ.text.name text)
  | .hashText text => .hashText (ρ.text.name text)
  | .generateEvent category severity message =>
    .generateEvent category severity (ρ.text.name message)
  | c => c

@[simp] theorem taskType_command (c : Command) : (ρ.command c).taskType = c.taskType := by
  cases c <;> rfl

theorem command_injective : Function.Injective ρ.command := by
  intro a b h
  cases a <;> cases b <;> simp_all [command]

@[simp] theorem command_inj {a b : Command} : ρ.command a = ρ.command b ↔ a = b :=
  ρ.command_injective.eq_iff

@[simp] theorem command_eq_runPlaybook {c : Command} {p : Playbook} :
    ρ.command c = .runPlaybook p ↔ c = .runPlaybook p := by
  cases c <;> simp [command]

open Classical in
/-- A result of a command: the expected answer becomes the one the renamed command expects. -/
noncomputable def result (c : Command) (r : Json) : Json :=
  if expectedResult c = some r then (expectedResult (ρ.command c)).getD r else r

theorem result_expected {c : Command} {r : Json} (h : expectedResult c = some r) :
    ρ.result c r = (expectedResult (ρ.command c)).getD r := if_pos h

theorem result_other {c : Command} {r : Json} (h : expectedResult c ≠ some r) :
    ρ.result c r = r := if_neg h

/-- A command without text has the results it had. -/
theorem result_of_fixed {c : Command} (h : ρ.command c = c) (r : Json) : ρ.result c r = r := by
  by_cases hr : expectedResult c = some r
  · rw [ρ.result_expected hr, h, hr]
    rfl
  · exact ρ.result_other hr

@[simp] theorem result_reason (c : Command) (reason : String) :
    ρ.result c (reasonResult reason) = reasonResult reason := by
  refine ρ.result_other ?_
  cases c <;> simp [expectedResult, reasonResult, Json.dict]

@[simp] theorem result_error (c : Command) (message : String) :
    ρ.result c (errorResult message) = errorResult message := by
  refine ρ.result_other ?_
  cases c <;> simp [expectedResult, errorResult, Json.dict]

/-- A task record. -/
noncomputable def task (t : Task) : Task :=
  { t with
    command := ρ.command t.command, createdBy := ρ.actor.name t.createdBy
    result := t.result.map (ρ.result t.command), idempotencyKey := t.idempotencyKey.map ρ.key.name }

/-- What an operator sees of a task. -/
noncomputable def publicTask (t : PublicTask) : PublicTask :=
  { t with
    command := ρ.command t.command, createdBy := ρ.actor.name t.createdBy
    result := t.result.map (ρ.result t.command) }

/-- What a Node sees of a task. -/
noncomputable def nodeTask (t : NodeTask) : NodeTask :=
  { t with command := ρ.command t.command, result := t.result.map (ρ.result t.command) }

@[simp] theorem publicTask_task (t : Task) :
    (ρ.task t).publicTask = ρ.publicTask t.publicTask := rfl

@[simp] theorem nodeTask_task (t : Task) : (ρ.task t).nodeTask = ρ.nodeTask t.nodeTask := rfl

@[simp] theorem eventData_task (t : Task) : (ρ.task t).eventData = t.eventData := by
  simp [Task.eventData, task]

/-- What a creating operation puts into a record. -/
noncomputable def spec (x : TaskSpec) : TaskSpec :=
  { x with
    command := ρ.command x.command, createdBy := ρ.actor.name x.createdBy
    idempotencyKey := x.idempotencyKey.map ρ.key.name }

/-! ### The other records -/

/-- A node record; `tasking_paused_by` is not renamed. -/
def node (n : Node) : Node := { n with sessionToken := ρ.tokenStr n.sessionToken }

@[simp] theorem publicNode_node (n : Node) : (ρ.node n).publicNode = n.publicNode := rfl

/-- The containment of an exercise. -/
noncomputable def containment (c : Containment) : Containment :=
  { c with actor := ρ.actor.name c.actor }

/-- An exercise record. -/
noncomputable def exercise (e : Exercise) : Exercise :=
  { e with
    createdBy := ρ.actor.name e.createdBy, containment := e.containment.map ρ.containment }

/-- What an operator sees of an exercise. -/
noncomputable def publicExercise (e : PublicExercise) : PublicExercise :=
  { e with
    createdBy := ρ.actor.name e.createdBy, containment := e.containment.map ρ.containment }

@[simp] theorem publicExercise_exercise (e : Exercise) :
    (ρ.exercise e).publicExercise = ρ.publicExercise e.publicExercise := rfl

/-- The replay record of an exercise key. -/
noncomputable def exerciseKey (x : PyStr × PyStr × ScenarioId × PyStr) :
    PyStr × PyStr × ScenarioId × PyStr := (ρ.actor.name x.1, x.2)

/-- The reply to an operation. -/
noncomputable def summary (x : OperationSummary) : OperationSummary :=
  { x with createdBy := ρ.actor.name x.createdBy, tasks := x.tasks.map ρ.publicTask }

/-- The replay record of an operation key. -/
noncomputable def operationRecord (r : OperationRecord) : OperationRecord :=
  { r with actor := ρ.actor.name r.actor, summary := ρ.summary r.summary }

/-- The replay record of a note key. -/
noncomputable def note (x : PyStr × PyStr × PyStr) : PyStr × PyStr × PyStr :=
  (ρ.actor.name x.1, ρ.text.name x.2.1, x.2.2)

/-! ### Events -/

/-- A member of an event: the free text is the `message`. -/
noncomputable def field (p : String × Json) : String × Json :=
  match p with
  | ("message", .str s) => ("message", .str (ρ.text.name s))
  | p => p

/-- The data of an event: only notes and generated events carry free text. -/
noncomputable def data (kind : Kind) (data : List (String × Json)) : List (String × Json) :=
  match kind with
  | .operatorNote | .nodeGeneratedEvent => data.map ρ.field
  | _ => data

/-- An entry of the event feed. -/
noncomputable def event (e : Event) : Event := { e with data := ρ.data e.kind e.data }

/-- An event before it is recorded. -/
noncomputable def draft (d : EventDraft) : EventDraft := { d with data := ρ.data d.kind d.data }

theorem field_fst (p : String × Json) : (ρ.field p).1 = p.1 := by
  unfold field
  split <;> rfl

theorem field_of_ne {p : String × Json} (h : p.1 ≠ "message") : ρ.field p = p := by
  unfold field
  split
  · exact absurd rfl h
  · rfl

@[simp] theorem correlation_draft (d : EventDraft) : (ρ.draft d).correlation = d.correlation := by
  have hfind : ∀ l : List (String × Json), (l.map ρ.field).find? (·.1 = "correlation_id") =
      l.find? (·.1 = "correlation_id") := by
    intro l
    induction l with
    | nil => rfl
    | cons p l ih =>
      rw [List.map_cons, List.find?_cons, List.find?_cons, ρ.field_fst, ih]
      split
      · rename_i hp
        rw [ρ.field_of_ne]
        have heq : p.1 = "correlation_id" := by simpa using hp
        rw [heq]
        decide
      · rfl
  have hdata : (ρ.data d.kind d.data).find? (·.1 = "correlation_id") =
      d.data.find? (·.1 = "correlation_id") := by
    unfold data
    split
    · exact hfind _
    · exact hfind _
    · rfl
  simp only [EventDraft.correlation, draft, hdata]

end Renaming

end C2Lab
