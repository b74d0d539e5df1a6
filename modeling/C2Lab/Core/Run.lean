import Mathlib.Data.List.Induction
import Mathlib.Logic.Relation
import C2Lab.Core.OperatorOps

/-! Runs of the Teamserver.

    An operation is a method of `LabState` with its arguments, whatever a caller sends; a run is a
    list of operations from an empty state. An operation that raises keeps what it wrote before. -/

namespace C2Lab

/-- A parsed JSON document: no object in it repeats a key. -/
abbrev Document := { j : Json // j.wf = true }

/-- The operations that may change the state, with their arguments as received. -/
inductive Op where
  | enrollNode (name version profile capabilities pollIntervalMs jitterPercent : Json)
      (now : Instant)
  | pollNode (nodeId sessionToken : Json) (now : Instant)
  | submitResult (nodeId sessionToken taskId status : Json) (result : Document) (now : Instant)
  | disconnectNode (nodeId sessionToken : Json)
  | queueTask (nodeId taskType payload : Json) (queueTtlSeconds : Option Json)
      (idempotencyKey actor : Json) (now : Instant)
  | queueOperation (nodeId steps : Json) (queueTtlSeconds : Option Json)
      (idempotencyKey actor : Json) (now : Instant)
  | cancelTask (taskId actor : Json)
  | startExercise (nodeId scenarioId actor idempotencyKey : Json) (now : Instant)
  | containExercise (exerciseId action actor : Json)
  | postOperatorNote (message actor idempotencyKey : Json)
  | expire (now : Instant)
  | reset (actor : Json)

/-- The program of an operation, its reply dropped. -/
def Op.run (w : World) : Op → Lab Unit
  | enrollNode name version profile capabilities interval jitter now =>
    (fun _ => ()) <$> C2Lab.enrollNode w name version profile capabilities interval jitter now
  | pollNode nodeId token now => (fun _ => ()) <$> C2Lab.pollNode w nodeId token now
  | submitResult nodeId token taskId status result now =>
    (fun _ => ()) <$> C2Lab.submitResult w nodeId token taskId status result.1 now
  | disconnectNode nodeId token => (fun _ => ()) <$> C2Lab.disconnectNode w nodeId token
  | queueTask nodeId taskType payload ttl key actor now =>
    (fun _ => ()) <$> C2Lab.queueTask w nodeId taskType payload ttl key actor now
  | queueOperation nodeId steps ttl key actor now =>
    (fun _ => ()) <$> C2Lab.queueOperation w nodeId steps ttl key actor now
  | cancelTask taskId actor => (fun _ => ()) <$> C2Lab.cancelTask w taskId actor
  | startExercise nodeId scenarioId actor key now =>
    (fun _ => ()) <$> C2Lab.startExercise w nodeId scenarioId actor key now
  | containExercise exerciseId action actor =>
    (fun _ => ()) <$> C2Lab.containExercise w exerciseId action actor
  | postOperatorNote message actor key =>
    (fun _ => ()) <$> C2Lab.postOperatorNote w message actor key
  | expire now => C2Lab.expire w now
  | reset actor => C2Lab.reset w actor

/-- The state after an operation, whichever way it ended. -/
def step (w : World) (s : LabState) (op : Op) : LabState := Prog.final (op.run w) s

/-- One operation of a run, the values drawn so far being fresh. -/
def Next (w : World) (s s' : LabState) : Prop :=
  ∃ op, s' = step w s op ∧ w.FreshBelow s'.draws

/-- Some operations later. -/
abbrev Later (w : World) : LabState → LabState → Prop := Relation.ReflTransGen (Next w)

/-- A state some run of operations ends in. -/
def Reachable (w : World) (s : LabState) : Prop := ∃ stream, Later w (.init stream) s

/-- A run with the states it passed through, the latest first. -/
inductive Run (w : World) : List LabState → LabState → Prop
  | start (stream : String) : Run w [] (.init stream)
  | next {past : List LabState} {s : LabState} (h : Run w past s) (op : Op)
      (hf : w.FreshBelow (step w s op).draws) : Run w (s :: past) (step w s op)

/-- The state after a list of operations. -/
def exec (w : World) (s : LabState) (ops : List Op) : LabState := ops.foldl (step w) s

/-- The states a list of operations passes through before the last, the latest first. -/
def passed (w : World) (s : LabState) : List Op → List LabState
  | [] => []
  | op :: ops => passed w (step w s op) ops ++ [s]

theorem passed_append (w : World) (s : LabState) (ops : List Op) (op : Op) :
    passed w s (ops ++ [op]) = exec w s ops :: passed w s ops := by
  induction ops generalizing s with
  | nil => rfl
  | cons op' ops ih => rw [List.cons_append, passed, ih, passed]; rfl

/-- A list of operations is a run when every state on the way drew fresh values. -/
theorem run_exec {w : World} (stream : String) (ops : List Op)
    (hf : ∀ k ≤ ops.length, w.FreshBelow (exec w (.init stream) (ops.take k)).draws) :
    Run w (passed w (.init stream) ops) (exec w (.init stream) ops) := by
  induction ops using List.reverseRecOn with
  | nil => exact .start stream
  | append_singleton ops op ih =>
    have hrun := ih fun k hk => by
      have := hf k (by simp; omega)
      rwa [List.take_append_of_le_length hk] at this
    have hlast := hf (ops ++ [op]).length le_rfl
    rw [List.take_length] at hlast
    have hstep : exec w (.init stream) (ops ++ [op]) = step w (exec w (.init stream) ops) op := by
      rw [exec, List.foldl_append]; rfl
    rw [hstep] at hlast ⊢
    rw [passed_append]
    exact hrun.next op hlast

theorem Run.reachable {w : World} {past : List LabState} {s : LabState} (h : Run w past s) :
    Reachable w s := by
  induction h with
  | start stream => exact ⟨stream, .refl⟩
  | next _ op hf ih =>
    obtain ⟨stream, hl⟩ := ih
    exact ⟨stream, hl.tail ⟨op, rfl, hf⟩⟩

end C2Lab
