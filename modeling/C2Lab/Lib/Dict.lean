import Mathlib.Data.List.Nodup
import Mathlib.Data.List.Lookmap
import C2Lab.Lib.Window

/-! Insertion-ordered dictionaries.

    A `Dict` is a list of key/value pairs with distinct keys, in the order the keys were first
    inserted: `set` on a present key keeps its position, on a new key appends. This is the order a
    loop over the values sees, so it is part of the data. Every operation is characterized by what
    `get?` answers afterwards. -/

namespace C2Lab

/-- An insertion-ordered map; the keys are distinct by construction. -/
structure Dict (κ ν : Type) where
  entries : List (κ × ν)
  nodup : (entries.map Prod.fst).Nodup

namespace Dict

variable {κ ν : Type} [DecidableEq κ]

/-- No entries. -/
def empty : Dict κ ν := ⟨[], List.nodup_nil⟩

/-- The keys, in insertion order. -/
def keys (d : Dict κ ν) : List κ := d.entries.map Prod.fst

/-- The values, in insertion order. -/
def values (d : Dict κ ν) : List ν := d.entries.map Prod.snd

/-- How many entries there are. -/
def size (d : Dict κ ν) : ℕ := d.entries.length

/-- The value stored under `k`, if any. -/
def get? (d : Dict κ ν) (k : κ) : Option ν := (d.entries.find? (·.1 = k)).map Prod.snd

/-- Overwrite the value under a present key, leaving every position as it is. -/
def replace (k : κ) (v : ν) (p : κ × ν) : κ × ν := if p.1 = k then (k, v) else p

omit [DecidableEq κ] in
theorem ext' {d e : Dict κ ν} (h : d.entries = e.entries) : d = e := by
  cases d; cases e; cases h; rfl

theorem fst_replace (k : κ) (v : ν) (p : κ × ν) : (replace k v p).1 = p.1 := by
  unfold replace; split <;> simp_all

theorem map_fst_replace (k : κ) (v : ν) (l : List (κ × ν)) :
    (l.map (replace k v)).map Prod.fst = l.map Prod.fst := by
  simp only [List.map_map]
  exact List.map_congr_left fun p _ => fst_replace k v p

/-- `d[k] = v`: in place when `k` is present, at the end otherwise. -/
def set (d : Dict κ ν) (k : κ) (v : ν) : Dict κ ν :=
  if h : k ∈ d.keys then
    ⟨d.entries.map (replace k v), by rw [map_fst_replace]; exact d.nodup⟩
  else
    ⟨d.entries ++ [(k, v)], by
      rw [List.map_append]
      exact List.nodup_append.mpr ⟨d.nodup, by simp, fun a ha b hb hab => by
        simp only [List.map_cons, List.map_nil, List.mem_singleton] at hb
        exact h (by subst hb; subst hab; exact ha)⟩⟩

/-- `del d[k]`. -/
def erase (d : Dict κ ν) (k : κ) : Dict κ ν :=
  ⟨d.entries.filter (·.1 ≠ k), d.nodup.sublist (List.filter_sublist.map _)⟩

/-! ### What `get?` answers -/

theorem find?_eq_of_mem {l : List (κ × ν)} (hn : (l.map Prod.fst).Nodup) {k : κ} {v : ν}
    (h : (k, v) ∈ l) : l.find? (·.1 = k) = some (k, v) := by
  induction l with
  | nil => simp at h
  | cons p l ih =>
    rw [List.map_cons, List.nodup_cons] at hn
    rcases List.mem_cons.mp h with rfl | hl
    · simp
    · have hne : p.1 ≠ k := fun he => hn.1 (he ▸ List.mem_map_of_mem (f := Prod.fst) hl)
      simp [hne, ih hn.2 hl]

theorem get?_eq_some {d : Dict κ ν} {k : κ} {v : ν} : d.get? k = some v ↔ (k, v) ∈ d.entries := by
  constructor
  · intro h
    obtain ⟨⟨k', v'⟩, hf, rfl⟩ := Option.map_eq_some_iff.mp h
    have hk : k' = k := by simpa using List.find?_some hf
    exact hk ▸ List.mem_of_find?_eq_some hf
  · intro h
    simp [get?, find?_eq_of_mem d.nodup h]

theorem get?_eq_none {d : Dict κ ν} {k : κ} : d.get? k = none ↔ k ∉ d.keys := by
  simp only [get?, Option.map_eq_none_iff, List.find?_eq_none, keys, List.mem_map]
  constructor
  · rintro h ⟨p, hp, rfl⟩; simpa using h p hp
  · intro h p hp he; exact h ⟨p, hp, by simpa using he⟩

theorem mem_keys {d : Dict κ ν} {k : κ} : k ∈ d.keys ↔ ∃ v, d.get? k = some v := by
  rw [← not_iff_not, ← get?_eq_none, Option.eq_none_iff_forall_ne_some]
  simp

theorem mem_keys_of_get? {d : Dict κ ν} {k : κ} {v : ν} (h : d.get? k = some v) : k ∈ d.keys :=
  mem_keys.mpr ⟨v, h⟩

theorem mem_values {d : Dict κ ν} {v : ν} : v ∈ d.values ↔ ∃ k, d.get? k = some v := by
  simp only [values, List.mem_map, get?_eq_some]
  exact ⟨fun ⟨p, hp, he⟩ => ⟨p.1, he ▸ hp⟩, fun ⟨k, hk⟩ => ⟨(k, v), hk, rfl⟩⟩

omit [DecidableEq κ] in
theorem keys_nodup (d : Dict κ ν) : d.keys.Nodup := d.nodup

@[simp] theorem get?_empty (k : κ) : (empty : Dict κ ν).get? k = none := rfl

omit [DecidableEq κ] in
@[simp] theorem keys_empty : (empty : Dict κ ν).keys = [] := rfl

omit [DecidableEq κ] in
@[simp] theorem values_empty : (empty : Dict κ ν).values = [] := rfl

omit [DecidableEq κ] in
@[simp] theorem size_empty : (empty : Dict κ ν).size = 0 := rfl

@[simp] theorem get?_set (d : Dict κ ν) (k : κ) (v : ν) (k' : κ) :
    (d.set k v).get? k' = if k' = k then some v else d.get? k' := by
  unfold set
  split
  · rename_i h
    have hfind : ∀ l : List (κ × ν), (l.map (replace k v)).find? (·.1 = k') =
        (l.find? (·.1 = k')).map (replace k v) := by
      intro l
      rw [List.find?_map]
      congr 2
      funext p
      simp [fst_replace]
    simp only [get?, hfind, Option.map_map]
    split
    · rename_i he
      subst he
      obtain ⟨w, hw⟩ := mem_keys.mp h
      rw [find?_eq_of_mem d.nodup (get?_eq_some.mp hw)]
      simp [replace]
    · rename_i hne
      cases hf : d.entries.find? (·.1 = k') with
      | none => rfl
      | some p =>
        have hp : p.1 = k' := by simpa using List.find?_some hf
        simp [replace, hp, hne]
  · rename_i h
    simp only [get?, List.find?_append]
    split
    · rename_i he
      subst he
      have : d.entries.find? (·.1 = k') = none := by
        simpa [get?] using get?_eq_none.mpr h
      simp [this]
    · rename_i hne
      simp [Ne.symm hne]

@[simp] theorem get?_erase (d : Dict κ ν) (k k' : κ) :
    (d.erase k).get? k' = if k' = k then none else d.get? k' := by
  split
  · rename_i he
    subst he
    rw [get?_eq_none]
    simp [keys, erase]
  · rename_i hne
    apply Option.ext
    intro v
    rw [get?_eq_some, get?_eq_some]
    simp [erase, hne]

theorem get?_set_self (d : Dict κ ν) (k : κ) (v : ν) : (d.set k v).get? k = some v := by simp

theorem get?_set_ne (d : Dict κ ν) {k k' : κ} (v : ν) (h : k' ≠ k) :
    (d.set k v).get? k' = d.get? k' := by simp [h]

/-! ### Order and size -/

theorem keys_set_of_mem {d : Dict κ ν} {k : κ} (v : ν) (h : k ∈ d.keys) :
    (d.set k v).keys = d.keys := by
  rw [set, dif_pos h]
  exact map_fst_replace k v _

theorem keys_set_of_not_mem {d : Dict κ ν} {k : κ} (v : ν) (h : k ∉ d.keys) :
    (d.set k v).keys = d.keys ++ [k] := by
  rw [set, dif_neg h]
  simp [keys]

theorem keys_erase (d : Dict κ ν) (k : κ) : (d.erase k).keys = d.keys.filter (· ≠ k) := by
  simp only [keys, erase, List.filter_map]
  rfl

theorem values_set_of_not_mem {d : Dict κ ν} {k : κ} (v : ν) (h : k ∉ d.keys) :
    (d.set k v).values = d.values ++ [v] := by
  simp [set, h, values]

/-- Records that carry their own key. -/
theorem map_values_eq_keys {d : Dict κ ν} {f : ν → κ} (h : ∀ k v, d.get? k = some v → f v = k) :
    d.values.map f = d.keys := by
  rw [values, keys, List.map_map]
  exact List.map_congr_left fun p hp => h p.1 p.2 (get?_eq_some.mpr hp)

theorem mem_keys_set {d : Dict κ ν} {k k' : κ} {v : ν} :
    k' ∈ (d.set k v).keys ↔ k' = k ∨ k' ∈ d.keys := by
  rw [mem_keys, mem_keys]
  simp only [get?_set]
  split
  · simp [*]
  · simp [*]

/-- A write under a present key replaces one value where it stands. -/
theorem values_split {d : Dict κ ν} {k : κ} {v : ν} (h : d.get? k = some v) :
    ∃ l r, d.values = l ++ v :: r ∧ ∀ v', (d.set k v').values = l ++ v' :: r := by
  obtain ⟨l, r, hlr⟩ := List.append_of_mem (get?_eq_some.mp h)
  have hn := d.nodup
  rw [hlr, List.map_append, List.map_cons] at hn
  have hother : ∀ p ∈ l ++ r, p.1 ≠ k := by
    intro p hp he
    have hn := List.nodup_middle.mp hn
    rw [List.nodup_cons, ← List.map_append] at hn
    exact hn.1 (List.mem_map.mpr ⟨p, hp, he⟩)
  have hsame : ∀ v' (m : List (κ × ν)), (∀ p ∈ m, p.1 ≠ k) → m.map (replace k v') = m :=
    fun v' m hm => (List.map_congr_left fun p hp => by simp [replace, hm p hp]).trans
      (List.map_id _)
  refine ⟨l.map Prod.snd, r.map Prod.snd, by simp [values, hlr], fun v' => ?_⟩
  have hentries : (d.set k v').entries = d.entries.map (replace k v') := by
    rw [set, dif_pos (mem_keys_of_get? h)]
  rw [values, hentries, hlr, List.map_append, List.map_cons,
    hsame v' l fun p hp => hother p (List.mem_append_left _ hp),
    hsame v' r fun p hp => hother p (List.mem_append_right _ hp)]
  simp [replace]

omit [DecidableEq κ] in
theorem size_eq_length_keys (d : Dict κ ν) : d.size = d.keys.length := by simp [size, keys]

omit [DecidableEq κ] in
theorem size_eq_length_values (d : Dict κ ν) : d.size = d.values.length := by simp [size, values]

theorem size_set_of_mem {d : Dict κ ν} {k : κ} (v : ν) (h : k ∈ d.keys) :
    (d.set k v).size = d.size := by
  rw [size_eq_length_keys, size_eq_length_keys, keys_set_of_mem v h]

theorem size_set_le (d : Dict κ ν) (k : κ) (v : ν) : (d.set k v).size ≤ d.size + 1 := by
  by_cases h : k ∈ d.keys
  · rw [size_set_of_mem v h]; exact Nat.le_succ _
  · rw [size_eq_length_keys, keys_set_of_not_mem v h, size_eq_length_keys]; simp

/-- Removing a present key frees one place. -/
theorem size_erase_of_mem {d : Dict κ ν} {k : κ} (h : k ∈ d.keys) :
    (d.erase k).size + 1 = d.size := by
  have hkeys : (d.erase k).keys = d.keys.erase k := by
    rw [keys_erase, d.keys_nodup.erase_eq_filter]
    exact List.filter_congr fun x _ => by by_cases hx : x = k <;> simp [bne, hx]
  rw [size_eq_length_keys, size_eq_length_keys, hkeys, List.length_erase_of_mem h]
  have := List.length_pos_of_mem h
  omega

/-- Removing an absent key changes nothing. -/
theorem erase_of_not_mem {d : Dict κ ν} {k : κ} (h : k ∉ d.keys) : d.erase k = d :=
  ext' (List.filter_eq_self.mpr fun _ hp => decide_eq_true fun hk =>
    h (hk ▸ List.mem_map_of_mem (f := Prod.fst) hp))

theorem size_erase_le (d : Dict κ ν) (k : κ) : (d.erase k).size ≤ d.size :=
  List.length_filter_le _ _

theorem values_erase_sublist (d : Dict κ ν) (k : κ) : (d.erase k).values.Sublist d.values :=
  List.filter_sublist.map _

/-- One write adds at most one value with a property, and only its own. -/
theorem countP_set_le (p : ν → Bool) (d : Dict κ ν) (k : κ) (v : ν) :
    (d.set k v).values.countP p ≤ d.values.countP p + if p v then 1 else 0 := by
  by_cases h : k ∈ d.keys
  · obtain ⟨v₀, hv₀⟩ := mem_keys.mp h
    obtain ⟨l, r, hvals, hset⟩ := values_split hv₀
    rw [hset v, hvals]
    simp only [List.countP_append, List.countP_cons]
    omega
  · rw [values_set_of_not_mem v h]
    simp [List.countP_append, List.countP_cons]

/-- Removing distinct present keys. -/
theorem size_foldl_erase {d : Dict κ ν} {ks : List κ} (hmem : ∀ k ∈ ks, k ∈ d.keys)
    (hn : ks.Nodup) : (ks.foldl erase d).size + ks.length = d.size := by
  induction ks generalizing d with
  | nil => rfl
  | cons k ks ih =>
    rw [List.nodup_cons] at hn
    have hrest : ∀ x ∈ ks, x ∈ (d.erase k).keys := fun x hx => by
      rw [keys_erase, List.mem_filter]
      exact ⟨hmem x (by simp [hx]), by simpa using fun he : x = k => hn.1 (he ▸ hx)⟩
    rw [List.foldl_cons, List.length_cons, ← Nat.add_assoc, ih hrest hn.2]
    exact size_erase_of_mem (hmem k (by simp))

theorem get?_foldl_erase (d : Dict κ ν) (ks : List κ) (k : κ) :
    (ks.foldl erase d).get? k = if k ∈ ks then none else d.get? k := by
  induction ks generalizing d with
  | nil => simp
  | cons x ks ih =>
    rw [List.foldl_cons, ih, get?_erase]
    by_cases hk : k = x <;> simp [hk]

theorem values_foldl_erase_sublist (d : Dict κ ν) (ks : List κ) :
    (ks.foldl erase d).values.Sublist d.values := by
  induction ks generalizing d with
  | nil => exact .refl _
  | cons k ks ih => exact (ih _).trans (values_erase_sublist d k)

theorem entries_foldl_erase (d : Dict κ ν) (ks : List κ) :
    (ks.foldl erase d).entries = d.entries.filter (·.1 ∉ ks) := by
  induction ks generalizing d with
  | nil => simp
  | cons k ks ih =>
    rw [List.foldl_cons, ih, erase, List.filter_filter]
    refine List.filter_congr fun p _ => ?_
    by_cases hp : p.1 = k <;> simp [hp]

/-- The value of one of the first `n` keys stands before the `n`-th place. -/
theorem values_drop_of_mem_take {d : Dict κ ν} {k : κ} {v : ν} {n : ℕ} (hk : k ∈ d.keys.take n)
    (hv : d.get? k = some v) : ∃ i < n, ∃ rest, d.values.drop i = v :: rest := by
  obtain ⟨i, hi, hki⟩ := List.mem_take_iff_getElem.mp hk
  have hlt : i < d.entries.length := by
    simpa [keys] using Nat.lt_of_lt_of_le hi (Nat.min_le_right _ _)
  have hfst : d.entries[i].1 = k := by
    simpa [keys] using hki
  have hentry : d.get? k = some d.entries[i].2 :=
    get?_eq_some.mpr (by rw [← hfst]; exact List.getElem_mem hlt)
  refine ⟨i, Nat.lt_of_lt_of_le hi (Nat.min_le_left _ _), (d.entries.drop (i + 1)).map Prod.snd, ?_⟩
  rw [values, ← List.map_drop, List.drop_eq_getElem_cons hlt, List.map_cons,
    Option.some.inj (hentry.symm.trans hv)]

/-- Removing the first keys drops the first entries. -/
theorem entries_erase_take (d : Dict κ ν) (n : ℕ) :
    ((d.keys.take n).foldl erase d).entries = d.entries.drop n := by
  have hn := d.nodup
  rw [entries_foldl_erase, keys, ← List.map_take]
  conv_lhs => rw [← List.take_append_drop n d.entries, List.filter_append]
  rw [← List.take_append_drop n d.entries, List.map_append, List.nodup_append] at hn
  have hfirst : (d.entries.take n).filter (·.1 ∉ (d.entries.take n).map Prod.fst) = [] :=
    List.filter_eq_nil_iff.mpr fun p hp hout =>
      of_decide_eq_true hout (List.mem_map_of_mem hp)
  have hrest : (d.entries.drop n).filter (·.1 ∉ (d.entries.take n).map Prod.fst) =
      d.entries.drop n := by
    refine List.filter_eq_self.mpr fun p hp => decide_eq_true fun hmem => ?_
    exact hn.2.2 _ hmem _ (List.mem_map_of_mem hp) rfl
  simp only [List.take_append_drop] at hfirst hrest ⊢
  rw [hfirst, hrest, List.nil_append]

/-- A new entry of a bounded store: the oldest entries go to make room, as in a window. -/
theorem entries_make_room {cap : ℕ} (hcap : 0 < cap) {d : Dict κ ν} {k : κ} (h : k ∉ d.keys)
    (v : ν) : (((d.keys.take (d.size + 1 - cap)).foldl erase d).set k v).entries =
      Window.push cap d.entries (k, v) := by
  have hnew : k ∉ ((d.keys.take (d.size + 1 - cap)).foldl erase d).keys := by
    rw [← get?_eq_none, get?_foldl_erase]
    split
    · rfl
    · exact get?_eq_none.mpr h
  rw [set, dif_neg hnew]
  simp only [entries_erase_take, Window.push, Window.lastN, List.length_append,
    List.length_singleton, size]
  rw [List.drop_append_of_le_length (by omega)]

/-- Writing several values under different keys of their own. -/
theorem get?_foldl_set {key : ν → κ} (d : Dict κ ν) {l : List ν} (hn : (l.map key).Nodup) (k : κ) :
    (l.foldl (fun d v => d.set (key v) v) d).get? k = (l.find? (key · = k)).or (d.get? k) := by
  induction l generalizing d with
  | nil => rfl
  | cons v l ih =>
    rw [List.map_cons, List.nodup_cons] at hn
    rw [List.foldl_cons, ih _ hn.2, get?_set, List.find?_cons]
    by_cases hv : key v = k
    · have hnone : l.find? (key · = k) = none := by
        rw [List.find?_eq_none]
        intro x hx hk
        exact hn.1 (hv ▸ (of_decide_eq_true hk) ▸ List.mem_map_of_mem hx)
      simp [hv, hnone]
    · simp [hv, Ne.symm hv]

/-- Only the last of two writes under one key counts. -/
theorem set_set (d : Dict κ ν) (k : κ) (v v' : ν) : (d.set k v).set k v' = d.set k v' := by
  have hk : k ∈ (d.set k v).keys := mem_keys_set.mpr (.inl rfl)
  apply ext'
  by_cases h : k ∈ d.keys
  · rw [set, dif_pos hk, set, dif_pos h, set, dif_pos h]
    simp only [List.map_map]
    refine List.map_congr_left fun p _ => ?_
    unfold replace
    by_cases hp : p.1 = k <;> simp [hp]
  · rw [set, dif_pos hk, set, dif_neg h, set, dif_neg h]
    simp only [List.map_append, List.map_cons, List.map_nil, replace, if_true]
    congr 1
    refine (List.map_congr_left fun p hp => ?_).trans (List.map_id _)
    have hne : p.1 ≠ k := fun he => h (he ▸ List.mem_map_of_mem (f := Prod.fst) hp)
    simp [replace, hne]

/-- Writing back the stored value changes nothing. -/
theorem set_self {d : Dict κ ν} {k : κ} {v : ν} (h : d.get? k = some v) : d.set k v = d := by
  have hk : k ∈ d.keys := mem_keys_of_get? h
  apply ext'
  rw [set, dif_pos hk]
  refine (List.map_congr_left fun p hp => ?_).trans (List.map_id _)
  unfold replace
  split
  · rename_i he
    have hv := get?_eq_some.mpr (he ▸ hp : (k, p.2) ∈ d.entries)
    rw [h, Option.some.injEq] at hv
    rw [hv, ← he]; rfl
  · rfl

/-! ### Predicates on all entries -/

/-- Every entry satisfies `P`. -/
def All (P : κ → ν → Prop) (d : Dict κ ν) : Prop := ∀ k v, d.get? k = some v → P k v

section all
variable {P Q : κ → ν → Prop} {d : Dict κ ν} {k : κ} {v : ν}

theorem All.imp (h : d.All P) (hPQ : ∀ k v, d.get? k = some v → P k v → Q k v) : d.All Q :=
  fun k v hv => hPQ k v hv (h k v hv)

theorem all_empty : (empty : Dict κ ν).All P := fun k v h => by simp at h

theorem All.set (h : d.All P) (hv : P k v) : (d.set k v).All P := by
  intro k' v' h'
  rw [get?_set] at h'
  split at h'
  · rename_i he
    cases h'
    exact he ▸ hv
  · exact h k' v' h'

theorem All.erase (h : d.All P) : (d.erase k).All P := by
  intro k' v' h'
  rw [get?_erase] at h'
  split at h'
  · cases h'
  · exact h k' v' h'

end all

/-! ### Changes of some entries -/

/-- Only values satisfying `p` changed, into values satisfying `p`; no key came or went. -/
def Touches (p : ν → Prop) (d d' : Dict κ ν) : Prop :=
  ∀ k, d'.get? k = d.get? k ∨
    ∃ v v', d.get? k = some v ∧ d'.get? k = some v' ∧ p v ∧ p v'

section touches
variable {p : ν → Prop} {d d' d'' : Dict κ ν} {k : κ} {v v' : ν}

theorem Touches.refl (p : ν → Prop) (d : Dict κ ν) : d.Touches p d := fun _ => .inl rfl

theorem Touches.trans (h : d.Touches p d') (h' : d'.Touches p d'') : d.Touches p d'' := by
  intro k
  rcases h k with heq | ⟨v, v', hv, hv', hp, hp'⟩ <;>
    rcases h' k with heq' | ⟨u, u', hu, hu', hq, hq'⟩
  · exact .inl (heq'.trans heq)
  · exact .inr ⟨u, u', heq ▸ hu, hu', hq, hq'⟩
  · exact .inr ⟨v, v', hv, heq'.trans hv', hp, hp'⟩
  · exact .inr ⟨v, u', hv, hu', hp, hq'⟩

theorem Touches.set (hv : d.get? k = some v) (hp : p v) (hp' : p v') :
    d.Touches p (d.set k v') := by
  intro k'
  rw [get?_set]
  split
  · rename_i he
    exact .inr ⟨v, v', he ▸ hv, rfl, hp, hp'⟩
  · exact .inl rfl

/-- An entry that does not satisfy `p` is there afterwards as it was before. -/
theorem Touches.get?_eq (h : d.Touches p d') (hv : d'.get? k = some v) (hp : ¬ p v) :
    d.get? k = some v := by
  rcases h k with heq | ⟨u, u', -, hu', -, hq'⟩
  · exact heq ▸ hv
  · rw [hv, Option.some.injEq] at hu'
    exact absurd (hu' ▸ hq') hp

end touches

end Dict

end C2Lab
