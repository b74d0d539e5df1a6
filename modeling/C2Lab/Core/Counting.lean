import Mathlib.Tactic.IntervalCases
import C2Lab.Core.Run

/-! A world that counts its draws.

    Fresh draws are an assumption of every result about runs. This world meets it for the first ten
    billion of them, and every function of it can be evaluated, so it serves for runs on concrete
    inputs. -/

namespace C2Lab

/-- The ten decimal digits of a number, the lowest first. -/
def countingDigits (n : ℕ) : List Char :=
  (List.range 10).map fun i => Nat.digitChar (n / 10 ^ i % 10)

theorem digitChar_inj {a b : ℕ} (ha : a < 10) (hb : b < 10) (h : a.digitChar = b.digitChar) :
    a = b := by
  have := congrArg Char.toNat h
  rw [Nat.toNat_digitChar_of_lt_ten ha, Nat.toNat_digitChar_of_lt_ten hb] at this
  omega

theorem digitChar_hex {a : ℕ} (ha : a < 10) : a.digitChar ∈ "0123456789abcdef".toList := by
  interval_cases a <;> decide

/-- Numbers whose lowest `k` digits agree are equal modulo `10 ^ k`. -/
theorem mod_eq_of_digits {n m k : ℕ} (h : ∀ i < k, n / 10 ^ i % 10 = m / 10 ^ i % 10) :
    n % 10 ^ k = m % 10 ^ k := by
  induction k with
  | zero => simp [Nat.mod_one]
  | succ k ih =>
    rw [Nat.mod_pow_succ, Nat.mod_pow_succ, ih fun i hi => h i (by omega), h k (by omega)]

theorem countingDigits_inj {n m : ℕ} (hn : n < 10 ^ 10) (hm : m < 10 ^ 10)
    (h : countingDigits n = countingDigits m) : n = m := by
  have hdigit : ∀ i < 10, n / 10 ^ i % 10 = m / 10 ^ i % 10 := by
    intro i hi
    have hget := congrArg (·[i]?) h
    simp only [countingDigits, List.getElem?_map, List.getElem?_range hi, Option.map_some,
      Option.some.injEq] at hget
    exact digitChar_inj (Nat.mod_lt _ (by decide)) (Nat.mod_lt _ (by decide)) hget
  rw [← Nat.mod_eq_of_lt hn, ← Nat.mod_eq_of_lt hm]
  exact mod_eq_of_digits hdigit

/-- The hex digits of a draw. -/
def countingHex (n : ℕ) : List Char := countingDigits n ++ List.replicate 22 '0'

theorem countingHex_length (n : ℕ) : (countingHex n).length = 32 := by
  simp [countingHex, countingDigits]

theorem countingHex_take (n : ℕ) : (countingHex n).take 10 = countingDigits n := by
  simp [countingHex, countingDigits]

/-- Every draw is its number; the interpreter prints the printable ASCII characters. -/
def World.counting : World where
  isprintable c := 32 ≤ c.toNat && c.toNat < 127
  jsonDepth := 900
  jsonDepth_ge := by decide
  uuid := countingHex
  token n := String.ofList (countingHex n)
  utcNow n := n
  uuid_hex n := by
    refine ⟨countingHex_length n, fun c hc => ?_⟩
    rcases List.mem_append.mp hc with hc | hc
    · obtain ⟨i, -, rfl⟩ := List.mem_map.mp hc
      exact digitChar_hex (Nat.mod_lt _ (by decide))
    · rw [(List.mem_replicate.mp hc).2]; decide
  token_length n := by
    rw [String.length_ofList, countingHex_length]; decide

/-- Its first ten billion draws are fresh. -/
theorem World.counting_fresh {n : ℕ} (hn : n ≤ 10 ^ 10) : World.counting.FreshBelow n := by
  intro i hi j hj
  have hdigits : countingDigits i = countingDigits j → i = j :=
    countingDigits_inj (hi.trans_le hn) (hj.trans_le hn)
  refine ⟨fun h => hdigits ?_, fun h => hdigits ?_⟩
  · rw [← countingHex_take i, ← countingHex_take j]; exact h
  · have hl : countingHex i = countingHex j := by
      simpa [World.counting] using congrArg String.toList h
    rw [← countingHex_take i, ← countingHex_take j, hl]

/-- A list of operations is a run as long as the draws last. -/
theorem World.counting_run (stream : String) (ops : List Op)
    (h : ∀ k < ops.length + 1, (exec counting (.init stream) (ops.take k)).draws ≤ 10 ^ 10) :
    Run counting (passed counting (.init stream) ops) (exec counting (.init stream) ops) :=
  run_exec stream ops fun k hk => counting_fresh (h k (Nat.lt_succ_of_le hk))

theorem World.counting_reachable (stream : String) (ops : List Op)
    (h : ∀ k < ops.length + 1, (exec counting (.init stream) (ops.take k)).draws ≤ 10 ^ 10) :
    Reachable counting (exec counting (.init stream) ops) := (counting_run stream ops h).reachable

/-- So is what comes after a state. -/
theorem World.counting_later (s : LabState) (ops : List Op)
    (h : ∀ k < ops.length + 1, (exec counting s (ops.take k)).draws ≤ 10 ^ 10) :
    Later counting s (exec counting s ops) := by
  induction ops generalizing s with
  | nil => exact .refl
  | cons op ops ih =>
    have hnext : Next counting s (step counting s op) :=
      ⟨op, rfl, counting_fresh (h 1 (by simp))⟩
    refine .head hnext (ih (step counting s op) fun k hk => ?_)
    exact h (k + 1) (by rw [List.length_cons]; omega)

/-- A program ends normally, within the fresh draws. -/
def Counting.returns {α : Type} (m : Lab α) (s : LabState) : Bool :=
  match m s with
  | .ok _ s' => s'.draws ≤ 10 ^ 10
  | .error _ _ => false

theorem Counting.exists_returned {α : Type} {m : Lab α} {s : LabState} (h : returns m s = true) :
    ∃ a s', m s = .ok a s' ∧ World.counting.FreshBelow s'.draws := by
  unfold returns at h
  cases hm : m s with
  | ok a s' =>
    rw [hm] at h
    exact ⟨a, s', rfl, World.counting_fresh (of_decide_eq_true h)⟩
  | error e s' => rw [hm] at h; cases h

/-- A program ends normally, within the fresh draws, with a reply and a state satisfying `p`. -/
def Counting.yields {α : Type} (p : α → LabState → Bool) (m : Lab α) (s : LabState) : Bool :=
  match m s with
  | .ok a s' => s'.draws ≤ 10 ^ 10 && p a s'
  | .error _ _ => false

theorem Counting.exists_yielded {α : Type} {p : α → LabState → Bool} {m : Lab α} {s : LabState}
    (h : yields p m s = true) :
    ∃ a s', m s = .ok a s' ∧ World.counting.FreshBelow s'.draws ∧ p a s' = true := by
  unfold yields at h
  cases hm : m s with
  | ok a s' =>
    rw [hm, Bool.and_eq_true] at h
    exact ⟨a, s', rfl, World.counting_fresh (of_decide_eq_true h.1), h.2⟩
  | error e s' => rw [hm] at h; cases h

/-- A program ends with an exception satisfying `p`. -/
def Counting.raises {α : Type} (p : Exc → Bool) (m : Lab α) (s : LabState) : Bool :=
  match m s with
  | .ok _ _ => false
  | .error e _ => p e

theorem Counting.exists_raised {α : Type} {p : Exc → Bool} {m : Lab α} {s : LabState}
    (h : raises p m s = true) : ∃ e s', m s = .error e s' ∧ p e = true := by
  unfold raises at h
  cases hm : m s with
  | ok a s' => rw [hm] at h; cases h
  | error e s' =>
    rw [hm] at h
    exact ⟨e, s', rfl, h⟩

/-! ### A session of one Node in that world -/

namespace Counting

/-- The Node enrolls; its identifier is draw 0 and its token draw 1. -/
def enroll : Op :=
  .enrollNode (.str "unit-node") (.str "0.2.0") (.str "training")
    (.arr ((nodeProfiles .training).map Vocabulary.toJson)) (.int 1000) (.int 0) 10

/-- A Node that takes playbooks enrolls, with the same draws. -/
def enrollPurple : Op :=
  .enrollNode (.str "purple-node") (.str "0.2.0") (.str "purple_lab")
    (.arr ((nodeProfiles .purpleLab).map Vocabulary.toJson)) (.int 1000) (.int 0) 10

def nodeId : Json := .str (World.counting.nodeId 0)

def token : Json := .str (.text (World.counting.token 1))

/-- A task for the Node; queued right after the enrollment, its identifier is draw 6. -/
def queue (taskType : TaskType) (payload : Json) : Op :=
  .queueTask nodeId (Vocabulary.toJson taskType) payload none .null (.str "operator") 10

/-- The steps of an operation. -/
def steps (playbooks : List Playbook) : Json :=
  .arr (playbooks.map fun p => .obj [("playbook", Vocabulary.toJson p)])

def poll (now : Instant) : Op := .pollNode nodeId token now

def submit (taskId : ℕ) (status : ResultStatus) (result : Document) (now : Instant) : Op :=
  .submitResult nodeId token (.str (World.counting.taskId taskId)) (Vocabulary.toJson status)
    result now

open LabRuntime in
/-- The result of the first playbook of the discovery scenario. -/
def discovery : Document :=
  ⟨Json.dict [("playbook", Vocabulary.toJson Playbook.discoveryFixtures), ("scope", scope),
    ("attack_techniques", attackTechniques .discoveryFixtures),
    ("steps", LabRuntime.steps .discoveryFixtures),
    ("evidence", .arr (fixtureDefinitions.map fun f => .dict (discoveryEntry f)))],
    by decide⟩

/-- An exercise that is detected: its identifier is draw 6, its tasks are draws 9 and 16, and the
    first of them has completed. -/
def detection : List Op :=
  [enrollPurple, .startExercise nodeId (Vocabulary.toJson ScenarioId.discoveryCollection)
    (.str "operator") .null 10, poll 11, submit 9 .completed discovery 12]

/-- What it comes to: it is a run, with one alert, one task completed and one queued. -/
theorem detection_evaluated :
    (∀ k < detection.length + 1,
      (exec .counting (.init "stream") (detection.take k)).draws ≤ 10 ^ 10) ∧
    let s := exec .counting (.init "stream") detection
    s.exercises.values.map (·.alerts.length) = [1] ∧
      (s.exercises.values.map (·.status), s.tasks.values.map (·.status)) =
        ([.running], [.completed, .queued]) := by
  decide +kernel

theorem detection_run : Run .counting (passed .counting (.init "stream") detection)
    (exec .counting (.init "stream") detection) :=
  World.counting_run "stream" _ detection_evaluated.1

end Counting

end C2Lab
