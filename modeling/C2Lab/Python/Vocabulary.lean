import C2Lab.Python.Json

/-! Fixed vocabularies.

    A vocabulary is a finite list of members with pairwise different wire names; a JSON value names
    a member when it is that member's string. Membership tests of the source against a tuple or a
    set of constants are `parse`. -/

namespace C2Lab

/-- A finite type whose members have different wire names. -/
class Vocabulary (α : Type) where
  all : List α
  name : α → String
  mem_all : ∀ a, a ∈ all
  name_inj : Function.Injective name

namespace Vocabulary

variable {α : Type} [Vocabulary α]

/-- The member a JSON value names. -/
def parse (v : Json) : Option α := (all : List α).find? fun a => v.eqStr (name a)

/-- The JSON string of a member. -/
def toJson (a : α) : Json := .str (name a)

/-- The wire names, separated by commas. -/
def names (α : Type) [Vocabulary α] : String := ", ".intercalate ((all : List α).map name)

theorem eqStr_name {v : Json} {a : α} : v.eqStr (name a) = true ↔ v = toJson a :=
  Json.eqStr_iff v _

theorem parse_eq_some {v : Json} {a : α} : parse v = some a ↔ v = toJson a := by
  constructor
  · intro h
    have hf : v.eqStr (name a) = true := List.find?_some (p := fun b : α => v.eqStr (name b)) h
    exact eqStr_name.mp hf
  · rintro rfl
    cases h : (parse (toJson a) : Option α) with
    | none =>
      have := List.find?_eq_none.mp h a (mem_all a)
      simp [toJson] at this
    | some b =>
      have hf : (toJson a).eqStr (name b) = true :=
        List.find?_some (p := fun c : α => (toJson a).eqStr (name c)) h
      have hb : name a = name b := by simpa [toJson] using eqStr_name.mp hf
      rw [name_inj hb]

@[simp] theorem parse_toJson (a : α) : parse (toJson a) = some a := parse_eq_some.mpr rfl

theorem toJson_inj {a b : α} (h : toJson a = toJson b) : a = b := by
  have := parse_eq_some.mpr h
  rw [parse_toJson, Option.some.injEq] at this
  exact this

theorem parse_isSome_str {v : Json} {a : α} (h : parse v = some a) : v = .str (name a) :=
  parse_eq_some.mp h

end Vocabulary

end C2Lab
