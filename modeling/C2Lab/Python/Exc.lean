import C2Lab.Python.Json

/-! What a run of the program can raise.

    The program's own exceptions are all `ValueError`s; anything else is a failure of Python itself,
    kept apart so that a proof can say it does not happen. -/

namespace C2Lab

/-- `core.LabError`: an error the API answers with. -/
structure LabError where
  message : PyStr
  code : String := "invalid_request"
  status : ℕ := 400
  deriving DecidableEq

/-- An exception in flight. -/
inductive Exc where
  | lab (e : LabError)
  | protocol (message : PyStr)
  | labRuntime (message code : String)
  | py (e : PyError)
  deriving DecidableEq

namespace Exc

/-- `except ValueError` catches it. -/
def isValueError : Exc → Bool
  | .py .valueError | .py .unicodeEncodeError => true
  | .py _ => false
  | _ => true

/-- `str(error)`; the texts of Python's own errors are left out. -/
def text : Exc → PyStr
  | .lab e => e.message
  | .protocol message => message
  | .labRuntime message _ => message
  | .py _ => ""

/-- A failure of Python itself, not one of the program's exceptions. -/
def isPython : Exc → Bool
  | .py _ => true
  | _ => false

end Exc

/-- `if not c: raise e`. -/
def ensure (c : Prop) [Decidable c] (e : Exc) : Except Exc Unit := if c then .ok () else .error e

@[simp] theorem ensure_ok {c : Prop} [Decidable c] {e : Exc} {u : Unit} :
    ensure c e = .ok u ↔ c := by
  unfold ensure; split <;> simp_all

@[simp] theorem ensure_error {c : Prop} [Decidable c] {e e' : Exc} :
    ensure c e = .error e' ↔ ¬c ∧ e = e' := by
  unfold ensure; split <;> simp_all

/-- `value[key]`, its failure raised as Python raises it. -/
def item (value : Json) (key : String) : Except Exc Json :=
  match value.getItem key with
  | .ok v => .ok v
  | .error e => .error (.py e)

/-- A `dict` literal with string keys. -/
def Json.dict (fields : List (String × Json)) : Json :=
  .obj (fields.map fun p => (.text p.1, p.2))

/-- `set(value) == expected` for a `dict`. -/
def hasExactKeys (fields : List (PyStr × Json)) (expected : List String) : Bool :=
  fields.all (fun p => expected.any fun k => p.1 == .text k) &&
    expected.all fun k => fields.any fun p => p.1 == .text k

/-- Chaining two steps that both succeed. -/
theorem bind_eq_ok {ε α β : Type} {x : Except ε α} {f : α → Except ε β} {b : β} :
    (x >>= f) = .ok b ↔ ∃ a, x = .ok a ∧ f a = .ok b := by
  cases x <;> simp [bind, Except.bind]

/-- A chain fails in its first step or, after that one succeeded, in the rest. -/
theorem bind_eq_error {ε α β : Type} {x : Except ε α} {f : α → Except ε β} {e : ε} :
    (x >>= f) = .error e ↔ x = .error e ∨ ∃ a, x = .ok a ∧ f a = .error e := by
  cases x <;> simp [bind, Except.bind]

end C2Lab
