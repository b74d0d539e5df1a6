import Mathlib.Data.Nat.Digits.Defs
import Mathlib.Data.List.Nodup
import C2Lab.Python.Str

/-! JSON values as Python holds them.

    Booleans, integers and floats are three different types, an object keeps its keys in insertion
    order, and a value can fail to encode: `NaN` and the infinities are refused, an integer of more
    than 4300 digits has no decimal text, a lone surrogate has no UTF-8 form, and the encoder's
    recursion stops at a depth the interpreter sets. `dumps` models `json.dumps` with
    `ensure_ascii=False, separators=(",", ":"), allow_nan=False` by the size of its UTF-8 output. -/

namespace C2Lab

/-- The failures Python raises by itself, as opposed to the ones the program raises. -/
inductive PyError where
  | typeError
  | keyError
  | valueError
  | recursionError
  | unicodeEncodeError
  deriving DecidableEq

/-- `except (TypeError, ValueError)` catches it; `UnicodeEncodeError` is a `ValueError`. -/
def PyError.isTypeOrValueError : PyError → Bool
  | .typeError | .valueError | .unicodeEncodeError => true
  | .keyError | .recursionError => false

/-- A finite float as the shortest decimal that denotes it, the digits `repr` prints. -/
structure Decimal where
  neg : Bool
  mantissa : ℕ
  exponent : ℤ
  canonical : mantissa % 10 ≠ 0 ∨ mantissa = 0 ∧ exponent = 0
  deriving DecidableEq

/-- A Python `float`. -/
inductive PyFloat where
  | nan
  | inf (neg : Bool)
  | finite (d : Decimal)
  deriving DecidableEq

/-- `x == y` on floats: `nan` differs from itself, `0.0 == -0.0`. -/
def PyFloat.eq : PyFloat → PyFloat → Bool
  | .inf a, .inf b => a == b
  | .finite a, .finite b => a == b || (a.mantissa == 0 && b.mantissa == 0)
  | _, _ => false

/-- `m · 10 ^ e` with the trailing zeros of `m` moved into the exponent. -/
def Decimal.ofScaled : ℕ → ℕ → ℤ → Decimal
  | _, 0, _ => ⟨false, 0, 0, .inr ⟨rfl, rfl⟩⟩
  | 0, _, _ => ⟨false, 0, 0, .inr ⟨rfl, rfl⟩⟩
  | fuel + 1, m, e =>
    if h : m % 10 ≠ 0 then ⟨false, m, e, .inl h⟩ else ofScaled fuel (m / 10) (e + 1)

/-- A duration in milliseconds as a number of seconds. -/
def PyFloat.ofMillis (ms : ℕ) : PyFloat := .finite (Decimal.ofScaled ms ms (-3))

/-- How many decimal digits `n` has. -/
def digitCount (n : ℕ) : ℕ := max 1 (Nat.digits 10 n).length

/-- The length of `repr` of a finite float: positional for exponents -4 to 15, else scientific. -/
def Decimal.reprLength (d : Decimal) : ℕ :=
  let n := digitCount d.mantissa
  let point : ℤ := n + d.exponent
  let body : ℕ :=
    if -4 < point ∧ point ≤ 16 then
      if point ≤ 0 then 2 + (-point).toNat + n
      else if (n : ℤ) ≤ point then point.toNat + 2
      else n + 1
    else
      (if n = 1 then 1 else n + 1) + 2 + max 2 (digitCount (point - 1).natAbs)
  (if d.neg then 1 else 0) + body

/-- The JSON text of an integer has this many characters. -/
def intSize (n : ℤ) : ℕ := (if n < 0 then 1 else 0) + digitCount n.natAbs

/-- `sys.int_info.default_max_str_digits`. -/
def maxStrDigits : ℕ := 4300

/-- A JSON value; `obj` lists the entries of a Python `dict` in insertion order. -/
inductive Json where
  | null
  | bool (b : Bool)
  | int (n : ℤ)
  | float (x : PyFloat)
  | str (s : PyStr)
  | arr (xs : List Json)
  | obj (fields : List (PyStr × Json))

namespace Json

/-- The value under a key. -/
def lookup (fields : List (PyStr × Json)) (key : PyStr) : Option Json :=
  (fields.find? (·.1 = key)).map Prod.snd

/-- `value[key]` for a string key. -/
def getItem (value : Json) (key : PyStr) : Except PyError Json :=
  match value with
  | .obj fields =>
    match lookup fields key with
    | some v => .ok v
    | none => .error .keyError
  | _ => .error .typeError

/-- `value.get(key)` on a `dict`. -/
def get? : Json → PyStr → Option Json
  | .obj fields, key => lookup fields key
  | _, _ => none

/-- `value == s` for a string `s`: no other JSON type compares equal to a string. -/
def eqStr : Json → PyStr → Bool
  | .str t, s => t == s
  | _, _ => false

@[simp] theorem eqStr_iff (v : Json) (s : PyStr) : v.eqStr s = true ↔ v = .str s := by
  cases v <;> simp [eqStr]

/-- Lists and objects have no hash, so they cannot be tested for membership of a set. -/
def hashable : Json → Bool
  | .arr _ | .obj _ => false
  | _ => true

/-- `value in {a, b, ...}` for a set of strings. -/
def inStrSet (value : Json) (set : List PyStr) : Except PyError Bool :=
  if value.hashable then .ok (set.any value.eqStr) else .error .typeError

/-! ### Well-formed objects -/

mutual
/-- Every object inside has distinct keys, as a `dict` has. -/
def wf : Json → Bool
  | .arr xs => wfList xs
  | .obj fields => decide (fields.map Prod.fst).Nodup && wfFields fields
  | _ => true
def wfList : List Json → Bool
  | [] => true
  | x :: xs => wf x && wfList xs
def wfFields : List (PyStr × Json) → Bool
  | [] => true
  | (_, x) :: xs => wf x && wfFields xs
end

theorem wfList_iff {xs : List Json} : wfList xs = true ↔ ∀ x ∈ xs, x.wf = true := by
  induction xs with
  | nil => simp [wfList]
  | cons x xs ih => simp [wfList, ih]

theorem wfFields_iff {fs : List (PyStr × Json)} :
    wfFields fs = true ↔ ∀ p ∈ fs, p.2.wf = true := by
  induction fs with
  | nil => simp [wfFields]
  | cons p fs ih => obtain ⟨k, x⟩ := p; simp [wfFields, ih]

/-! ### `json.dumps(...).encode("utf-8")` -/

/-- The UTF-8 size of one character in a JSON string literal. -/
def charSize (c : Char) : ℕ :=
  if c = '"' ∨ c = '\\' ∨ c = '\n' ∨ c = '\r' ∨ c = '\t' ∨ c.toNat = 8 ∨ c.toNat = 12 then 2
  else if c.toNat < 0x20 then 6
  else c.utf8Size

/-- The encoder's output so far: its size, and whether a lone surrogate is in it. -/
structure Encoded where
  size : ℕ
  lone : Bool

/-- A JSON string literal. -/
def encodeStr : PyStr → Encoded
  | .text s => ⟨2 + (s.toList.map charSize).sum, false⟩
  | .lone _ _ => ⟨0, true⟩

mutual
/-- `json.dumps` with `depth` levels of recursion left: a depth-first walk, so the first offending
    value decides which error is raised. -/
def dumps (depth : ℕ) : Json → Except PyError Encoded
  | .null => .ok ⟨4, false⟩
  | .bool b => .ok ⟨if b then 4 else 5, false⟩
  | .int n => if digitCount n.natAbs ≤ maxStrDigits then .ok ⟨intSize n, false⟩
      else .error .valueError
  | .float (.finite d) => .ok ⟨d.reprLength, false⟩
  | .float _ => .error .valueError
  | .str s => .ok (encodeStr s)
  | .arr xs =>
    match depth with
    | 0 => .error .recursionError
    | d + 1 => do
      let e ← dumpsList d xs
      return ⟨max 2 (e.size + 1), e.lone⟩
  | .obj fields =>
    match depth with
    | 0 => .error .recursionError
    | d + 1 => do
      let e ← dumpsFields d fields
      return ⟨max 2 (e.size + 1), e.lone⟩
/-- The items of an array, each with the bracket or comma before it. -/
def dumpsList (depth : ℕ) : List Json → Except PyError Encoded
  | [] => .ok ⟨0, false⟩
  | x :: xs => do
    let e ← dumps depth x
    let r ← dumpsList depth xs
    return ⟨1 + e.size + r.size, e.lone || r.lone⟩
/-- The members of an object, each with the brace or comma before it and the colon inside. -/
def dumpsFields (depth : ℕ) : List (PyStr × Json) → Except PyError Encoded
  | [] => .ok ⟨0, false⟩
  | (k, x) :: xs => do
    let e ← dumps depth x
    let r ← dumpsFields depth xs
    return ⟨1 + (encodeStr k).size + 1 + e.size + r.size, (encodeStr k).lone || e.lone || r.lone⟩
end

/-- `len(json.dumps(value, ...).encode("utf-8"))`. -/
def encodedSize (depth : ℕ) (value : Json) : Except PyError ℕ :=
  match value.dumps depth with
  | .error e => .error e
  | .ok e => if e.lone then .error .unicodeEncodeError else .ok e.size

end Json

end C2Lab
