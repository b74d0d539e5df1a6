import Mathlib.Data.Set.Function
import C2Lab.Lib.Dict

/-! Renaming keys and values.

    `Renames p` is a one-to-one renaming of the values that satisfy `p` among themselves; it leaves
    all others alone, so that it is one-to-one on the whole type. A dictionary whose keys are
    renamed one to one and whose values are mapped answers every question the renamed way. -/

namespace C2Lab

/-- A one-to-one renaming of what satisfies `p`. -/
structure Renames {α : Type} (p : α → Prop) where
  map : α → α
  maps : ∀ a, p a → p (map a)
  injOn : Set.InjOn map {a | p a}

namespace Renames

variable {α : Type} {p : α → Prop}

/-- Nothing gets another name. -/
def same (p : α → Prop) : Renames p := ⟨id, fun _ h => h, Set.injOn_id _⟩

open Classical in
/-- The name of anything: what does not satisfy `p` keeps its own. -/
noncomputable def name (f : Renames p) (a : α) : α := if p a then f.map a else a

theorem name_of (f : Renames p) {a : α} (h : p a) : f.name a = f.map a := if_pos h

theorem name_of_not (f : Renames p) {a : α} (h : ¬p a) : f.name a = a := if_neg h

@[simp] theorem name_same (a : α) : (same p).name a = a := by
  unfold name
  split <;> rfl

theorem name_iff (f : Renames p) {a : α} : p (f.name a) ↔ p a := by
  by_cases h : p a
  · simpa [f.name_of h, h] using f.maps a h
  · simp [f.name_of_not h, h]

/-- No two get one name. -/
theorem name_injective (f : Renames p) : Function.Injective f.name := by
  intro a b hab
  have hp : p a ↔ p b := by rw [← f.name_iff, hab, f.name_iff]
  by_cases ha : p a
  · rw [f.name_of ha, f.name_of (hp.mp ha)] at hab
    exact f.injOn ha (hp.mp ha) hab
  · rwa [f.name_of_not ha, f.name_of_not fun hb => ha (hp.mpr hb)] at hab

@[simp] theorem name_inj (f : Renames p) {a b : α} : f.name a = f.name b ↔ a = b :=
  f.name_injective.eq_iff

end Renames

namespace Dict

variable {κ κ' ν ν' : Type} [DecidableEq κ] [DecidableEq κ']

/-- Every key renamed one to one and every value mapped, in the same order. -/
def rename (k : κ → κ') (hk : Function.Injective k) (f : ν → ν') (d : Dict κ ν) : Dict κ' ν' :=
  ⟨d.entries.map fun p => (k p.1, f p.2), by
    rw [List.map_map]
    exact List.map_map (g := k) (f := Prod.fst) ▸ d.nodup.map hk⟩

/-- Every value mapped. -/
def map (f : ν → ν') (d : Dict κ ν) : Dict κ ν' := d.rename id Function.injective_id f

section
variable {k : κ → κ'} {hk : Function.Injective k} {f : ν → ν'} (d : Dict κ ν)

omit [DecidableEq κ] [DecidableEq κ'] in
@[simp] theorem rename_empty : (empty : Dict κ ν).rename k hk f = empty := rfl

omit [DecidableEq κ] [DecidableEq κ'] in
@[simp] theorem keys_rename : (d.rename k hk f).keys = d.keys.map k := by
  simp [keys, rename]

omit [DecidableEq κ] [DecidableEq κ'] in
@[simp] theorem values_rename : (d.rename k hk f).values = d.values.map f := by
  simp [values, rename]

omit [DecidableEq κ] [DecidableEq κ'] in
@[simp] theorem size_rename : (d.rename k hk f).size = d.size := by simp [size, rename]

@[simp] theorem get?_rename (a : κ) : (d.rename k hk f).get? (k a) = (d.get? a).map f := by
  unfold get? rename
  rw [List.find?_map, Option.map_map, Option.map_map]
  have hsame : ((fun p : κ' × ν' => decide (p.1 = k a)) ∘ fun p : κ × ν => (k p.1, f p.2)) =
      fun p : κ × ν => decide (p.1 = a) := funext fun p => by simp [hk.eq_iff]
  rw [hsame]
  rfl

theorem rename_set (a : κ) (v : ν) :
    (d.rename k hk f).set (k a) (f v) = (d.set a v).rename k hk f := by
  have hmem : k a ∈ (d.rename k hk f).keys ↔ a ∈ d.keys := by
    rw [keys_rename, List.mem_map_of_injective hk]
  apply ext'
  by_cases h : a ∈ d.keys
  · rw [set, dif_pos (hmem.mpr h), set, dif_pos h]
    simp only [rename, List.map_map]
    refine List.map_congr_left fun p _ => ?_
    by_cases hp : p.1 = a <;> simp [replace, hp, hk.eq_iff]
  · rw [set, dif_neg fun h' => h (hmem.mp h'), set, dif_neg h]
    simp [rename]

theorem rename_erase (a : κ) :
    (d.rename k hk f).erase (k a) = (d.erase a).rename k hk f := by
  apply ext'
  simp only [erase, rename, List.filter_map]
  congr 1
  exact List.filter_congr fun p _ => by simp [hk.eq_iff]

theorem rename_foldl_erase (l : List κ) :
    (l.map k).foldl erase (d.rename k hk f) = (l.foldl erase d).rename k hk f := by
  induction l generalizing d with
  | nil => rfl
  | cons a l ih => rw [List.map_cons, List.foldl_cons, rename_erase, List.foldl_cons, ih]

/-- Dropping the oldest entries until `n` are left. -/
theorem rename_take_erase (n : ℕ) :
    ((d.rename k hk f).keys.take ((d.rename k hk f).size - n)).foldl erase (d.rename k hk f) =
      ((d.keys.take (d.size - n)).foldl erase d).rename k hk f := by
  rw [keys_rename, size_rename, ← List.map_take, rename_foldl_erase]

/-! ### Mapping the values only -/

omit [DecidableEq κ] in
@[simp] theorem map_empty : (empty : Dict κ ν).map f = empty := rfl

omit [DecidableEq κ] in
@[simp] theorem keys_map : (d.map f).keys = d.keys := by simp [map]

omit [DecidableEq κ] in
@[simp] theorem values_map : (d.map f).values = d.values.map f := values_rename d

omit [DecidableEq κ] in
@[simp] theorem size_map : (d.map f).size = d.size := size_rename d

@[simp] theorem get?_map (a : κ) : (d.map f).get? a = (d.get? a).map f := get?_rename d a

theorem map_set (a : κ) (v : ν) : (d.map f).set a (f v) = (d.set a v).map f := rename_set d a v

theorem map_erase (a : κ) : (d.map f).erase a = (d.erase a).map f := rename_erase d a

theorem map_foldl_erase (l : List κ) :
    l.foldl erase (d.map f) = (l.foldl erase d).map f := by
  have h := (rename_foldl_erase d l : _ = (l.foldl erase d).rename id Function.injective_id f)
  rwa [List.map_id] at h

end

end Dict

end C2Lab
