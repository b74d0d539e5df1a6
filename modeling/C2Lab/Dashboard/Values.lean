import Mathlib.Data.List.Basic
import Mathlib.Data.Nat.Notation
import Mathlib.Order.WithBot
import Mathlib.Algebra.Order.Field.Rat

/-! Values of JavaScript, as far as the dashboard computes with them. -/

namespace C2Lab

/-- A JavaScript string, by its UTF-16 units. -/
structure JsString where
  units : List UInt16
  deriving DecidableEq

namespace JsString

/-- The units of one character. -/
def unitsOf (c : Char) : List UInt16 :=
  if c.toNat ≤ 0xFFFF then [.ofNat c.toNat]
  else
    [.ofNat (0xD800 + (c.toNat - 0x10000) / 0x400), .ofNat (0xDC00 + (c.toNat - 0x10000) % 0x400)]

/-- A string literal. -/
def ofString (s : String) : JsString := ⟨s.toList.flatMap unitsOf⟩

instance : Coe String JsString := ⟨ofString⟩

/-- `""`. -/
def empty : JsString := ⟨[]⟩

instance : Append JsString := ⟨fun s t => ⟨s.units ++ t.units⟩⟩

@[simp] theorem units_append (s t : JsString) : (s ++ t).units = s.units ++ t.units := rfl

end JsString

/-- A JavaScript number. -/
inductive JsNumber where
  | nan
  | negInf
  | finite (q : ℚ)
  | posInf
  deriving DecidableEq

/-- The place of `x || 0` among the numbers; a missing number is `undefined`. -/
def JsNumber.orZero : Option JsNumber → WithBot (WithTop ℚ)
  | none | some .nan => ((0 : ℚ) : WithTop ℚ)
  | some .negInf => ⊥
  | some (.finite q) => (q : WithTop ℚ)
  | some .posInf => (⊤ : WithTop ℚ)

/-- A JavaScript value as JSON has them. -/
inductive JsValue where
  | undefined
  | null
  | bool (b : Bool)
  | number (x : JsNumber)
  | string (s : JsString)
  | array (items : List JsValue)
  | object (fields : List (JsString × JsValue))

namespace JsValue

instance : Coe JsString JsValue := ⟨.string⟩

instance : Coe String JsValue := ⟨fun s => .string (.ofString s)⟩

/-- `value?.name`. -/
def get (value : JsValue) (name : String) : JsValue :=
  match value with
  | .object fields => ((fields.find? (·.1 = .ofString name)).map Prod.snd).getD .undefined
  | _ => .undefined

/-- `Boolean(value)`. -/
def truthy : JsValue → Bool
  | .undefined | .null => false
  | .bool b => b
  | .number x => x ≠ .nan ∧ x ≠ .finite 0
  | .string s => s ≠ .empty
  | .array _ | .object _ => true

/-- `left || right`. -/
def or (left right : JsValue) : JsValue := if left.truthy then left else right

/-- `Array.isArray(value) ? value : []`. -/
def asArray : JsValue → List JsValue
  | .array items => items
  | _ => []

/-- The string, for `typeof value === "string"`. -/
def asString : JsValue → Option JsString
  | .string s => some s
  | _ => none

/-- The number, for `typeof value === "number"`. -/
def asNumber : JsValue → Option JsNumber
  | .number x => some x
  | _ => none

/-- `Number.isInteger(value) ? value : otherwise`. -/
def integerOr (value otherwise : JsValue) : JsValue :=
  match value with
  | .number (.finite q) => if q.isInt then value else otherwise
  | _ => otherwise

/-- `value === false`. -/
def isFalse : JsValue → Bool
  | .bool false => true
  | _ => false

/-- `left === right`; two objects of one document are different ones. -/
def strictEq : JsValue → JsValue → Bool
  | .undefined, .undefined | .null, .null => true
  | .bool a, .bool b => a = b
  | .number a, .number b => a = b ∧ a ≠ .nan
  | .string s, .string t => s = t
  | _, _ => false

/-- The equality of `includes` and of the keys of a `Map`, where `NaN` is the same as itself. -/
def sameValueZero : JsValue → JsValue → Bool
  | .number .nan, .number .nan => true
  | left, right => left.strictEq right

/-- `items.find(p)`, `undefined` where there is none. -/
def find (items : List JsValue) (p : JsValue → Bool) : JsValue := (items.find? p).getD .undefined

end JsValue

namespace JsString

/-- `s.startsWith(start)`. -/
def startsWith (s start : JsString) : Bool := start.units.isPrefixOf s.units

/-- `s.endsWith(end)`. -/
def endsWith (s ending : JsString) : Bool := ending.units.isSuffixOf s.units

/-- The decimal digits of a count. -/
def ofNat (n : ℕ) : JsString := .ofString (toString n)

/-- `left || right` for texts. -/
def or (left right : JsString) : JsString := if left = empty then right else left

/-- `s.slice(n)`. -/
def slice (s : JsString) (n : ℕ) : JsString := ⟨s.units.drop n⟩

/-- What stands in front tells two texts apart where both are longer. -/
theorem append_ne_append {p q : JsString} (n : ℕ)
    (h : n ≤ p.units.length ∧ n ≤ q.units.length ∧ p.units.take n ≠ q.units.take n)
    (x y : JsString) : p ++ x ≠ q ++ y := by
  intro he
  have htake := congrArg (fun s : JsString => s.units.take n) he
  simp only [units_append, List.take_append_of_le_length h.1,
    List.take_append_of_le_length h.2.1] at htake
  exact h.2.2 htake

theorem append_left_inj {p x y : JsString} (h : p ++ x = p ++ y) : x = y := by
  have hunits := congrArg units h
  rw [units_append, units_append] at hunits
  exact (JsString.mk.injEq _ _).mpr (List.append_cancel_left hunits)

theorem append_empty (s : JsString) : s ++ empty = s := by
  cases s
  exact congrArg JsString.mk (List.append_nil _)

theorem append_assoc (s t u : JsString) : s ++ t ++ u = s ++ (t ++ u) :=
  congrArg JsString.mk (List.append_assoc _ _ _)

/-- The text after the last `c` is known from the whole. -/
theorem append_separated {c : UInt16} {a b x y : JsString} (hx : c ∉ x.units) (hy : c ∉ y.units)
    (h : a ++ ⟨[c]⟩ ++ x = b ++ ⟨[c]⟩ ++ y) : a = b ∧ x = y := by
  have hlast : ∀ (s t : JsString), c ∉ t.units →
      ((s ++ ⟨[c]⟩ ++ t).units.reverse.takeWhile (· ≠ c)).reverse = t.units := by
    intro s t ht
    have hall : ∀ u ∈ t.units.reverse, decide (u ≠ c) = true := by
      intro u hu
      exact decide_eq_true fun he => ht (he ▸ List.mem_reverse.mp hu)
    rw [units_append, List.reverse_append, List.takeWhile_append_of_pos hall, units_append]
    simp
  have htail : x.units = y.units := by rw [← hlast a x hx, ← hlast b y hy, h]
  have hxy : x = y := (JsString.mk.injEq _ _).mpr htail
  subst hxy
  have hunits := congrArg units h
  simp only [units_append] at hunits
  have hfront := List.append_cancel_right (List.append_cancel_right hunits)
  exact ⟨(JsString.mk.injEq _ _).mpr hfront, rfl⟩

/-- `parts.join(separator)`. -/
def join (separator : JsString) : List JsString → JsString
  | [] => empty
  | [s] => s
  | s :: rest => s ++ separator ++ join separator rest

end JsString

/-- What the language turns values and texts into: `String(value)` of a value that is no string, and
    the two cases. -/
structure JsRuntime where
  text : JsValue → JsString
  toLowerCase : JsString → JsString
  toUpperCase : JsString → JsString

/-- `String(value)`. -/
def JsRuntime.toText (js : JsRuntime) : JsValue → JsString
  | .string s => s
  | value => js.text value

/-- `value.join(separator)`; a missing element joins as the empty text. -/
def JsRuntime.join (js : JsRuntime) (separator : JsString) (items : List JsValue) : JsString :=
  .join separator (items.map fun
    | .undefined | .null => .empty
    | item => js.toText item)

/-! ### Sets of objects -/

namespace JsSet

variable {ι : Type} [DecidableEq ι] {s l : List ι} {t : ι}

/-- `set.add(t)`; a set lists its members in the order of their first insertion. -/
def add (s : List ι) (t : ι) : List ι := if t ∈ s then s else s ++ [t]

/-- `new Set(items)`. -/
def of (items : List ι) : List ι := items.foldl add []

theorem mem_add {x : ι} : x ∈ add s t ↔ x ∈ s ∨ x = t := by
  unfold add
  split
  · rename_i ht
    exact ⟨.inl, fun h => h.elim id fun he => he ▸ ht⟩
  · simp

theorem nodup_add (h : s.Nodup) : (add s t).Nodup := by
  unfold add
  split
  · exact h
  · rename_i ht
    exact List.nodup_append.mpr ⟨h, by simp, fun x hx y hy => by
      rw [List.mem_singleton.mp hy]
      exact fun he => ht (he ▸ hx)⟩

theorem mem_foldl_add {x : ι} : x ∈ l.foldl add s ↔ x ∈ s ∨ x ∈ l := by
  induction l generalizing s with
  | nil => simp
  | cons t l ih => rw [List.foldl_cons, ih, mem_add, List.mem_cons, or_assoc]

theorem nodup_foldl_add (h : s.Nodup) : (l.foldl add s).Nodup := by
  induction l generalizing s with
  | nil => exact h
  | cons t l ih => exact ih (nodup_add h)

theorem mem_of {x : ι} : x ∈ of l ↔ x ∈ l := by simp [of, mem_foldl_add]

theorem nodup_of (l : List ι) : (of l).Nodup := nodup_foldl_add List.nodup_nil

/-- Adding what is new appends it. -/
theorem foldl_add_of_nodup (hl : l.Nodup) (hs : ∀ t ∈ l, t ∉ s) : l.foldl add s = s ++ l := by
  induction l generalizing s with
  | nil => simp
  | cons t l ih =>
    have ht := List.nodup_cons.mp hl
    rw [List.foldl_cons, add, if_neg (hs t List.mem_cons_self), ih ht.2]
    · simp
    · intro x hx
      rw [List.mem_append, List.mem_singleton]
      rintro (hxs | rfl)
      · exact hs x (List.mem_cons_of_mem _ hx) hxs
      · exact ht.1 hx

theorem of_nodup (hl : l.Nodup) : of l = l := by
  rw [of, foldl_add_of_nodup hl (by simp), List.nil_append]

/-- Adding what is there changes nothing. -/
theorem foldl_add_of_mem (h : ∀ t ∈ l, t ∈ s) : l.foldl add s = s := by
  induction l with
  | nil => rfl
  | cons t l ih =>
    rw [List.foldl_cons, add, if_pos (h t List.mem_cons_self)]
    exact ih fun x hx => h x (List.mem_cons_of_mem _ hx)

/-- A part that comes twice counts once. -/
theorem of_append_twice (a l b : List ι) : of (a ++ l ++ l ++ b) = of (a ++ l ++ b) := by
  have htwice : l.foldl add ((a ++ l).foldl add []) = (a ++ l).foldl add [] :=
    foldl_add_of_mem fun t ht => mem_foldl_add.mpr (.inr (List.mem_append_right _ ht))
  rw [of, of, List.foldl_append, List.foldl_append, htwice, ← List.foldl_append]

end JsSet

end C2Lab
