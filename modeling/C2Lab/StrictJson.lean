import Mathlib.Data.List.Perm.Subperm
import C2Lab.Python.Json

/-! The strict JSON comparisons of `core.py`, `protocol.py` and `lab_runtime.py`.

    Python's `==` identifies `True`, `1` and `1.0`; the program compares validated results without
    that coercion. `typeStrictEqual` recurses over its left argument and `sameJsonValue` over its
    right one; on well-formed values both decide `Same`, structural equality up to key order. -/

namespace C2Lab

open Json

mutual
/-- `core._type_strict_equal`. -/
def typeStrictEqual : Json → Json → Bool
  | .obj fs, .obj gs =>
    fs.length == gs.length && fs.all (fun p => (lookup gs p.1).isSome) && strictFields fs gs
  | .arr xs, .arr ys => xs.length == ys.length && strictItems xs ys
  | .null, .null => true
  | .bool a, .bool b => a == b
  | .int a, .int b => a == b
  | .float a, .float b => a.eq b
  | .str a, .str b => a == b
  | _, _ => false
/-- `all(_type_strict_equal(value, right[key]) for key, value in left.items())`. -/
def strictFields : List (PyStr × Json) → List (PyStr × Json) → Bool
  | [], _ => true
  | (k, x) :: fs, gs =>
    (match lookup gs k with
      | some y => typeStrictEqual x y
      | none => false) && strictFields fs gs
/-- The pairwise comparison of two lists of one length. -/
def strictItems : List Json → List Json → Bool
  | x :: xs, y :: ys => typeStrictEqual x y && strictItems xs ys
  | _, _ => true
end

mutual
/-- `protocol._same_json_value`, and `lab_runtime._same_json_value` word for word. -/
def sameJsonValue : Json → Json → Bool
  | .obj fs, .obj gs =>
    fs.all (fun p => (lookup gs p.1).isSome) && gs.all (fun p => (lookup fs p.1).isSome) &&
      sameFields fs gs
  | .arr xs, .arr ys => xs.length == ys.length && sameItems xs ys
  | .null, .null => true
  | .bool a, .bool b => a == b
  | .int a, .int b => a == b
  | .float a, .float b => a.eq b
  | .str a, .str b => a == b
  | _, _ => false
/-- `all(_same_json_value(actual[key], expected[key]) for key in expected)`. -/
def sameFields : List (PyStr × Json) → List (PyStr × Json) → Bool
  | _, [] => true
  | fs, (k, y) :: gs =>
    (match lookup fs k with
      | some x => sameJsonValue x y
      | none => false) && sameFields fs gs
/-- The pairwise comparison of two lists of one length. -/
def sameItems : List Json → List Json → Bool
  | x :: xs, y :: ys => sameJsonValue x y && sameItems xs ys
  | _, _ => true
end

/-- `lab_runtime._same_json_value`, the text of `protocol.py` again. -/
def labSameJsonValue (actual expected : Json) : Bool := sameJsonValue actual expected

/-! ### Structural equality up to key order -/

/-- Equal as JSON documents: one type at every place, items in order, members in any order. -/
inductive Same : Json → Json → Prop
  | null : Same .null .null
  | bool (b : Bool) : Same (.bool b) (.bool b)
  | int (n : ℤ) : Same (.int n) (.int n)
  | float {x y : PyFloat} (h : x.eq y = true) : Same (.float x) (.float y)
  | str (s : PyStr) : Same (.str s) (.str s)
  | arr {xs ys : List Json} (hlen : xs.length = ys.length)
      (h : ∀ (i : ℕ) x y, xs[i]? = some x → ys[i]? = some y → Same x y) : Same (.arr xs) (.arr ys)
  | obj {fs gs : List (PyStr × Json)} (hkeys : ∀ k, (lookup fs k).isSome = (lookup gs k).isSome)
      (h : ∀ k x y, lookup fs k = some x → lookup gs k = some y → Same x y) :
      Same (.obj fs) (.obj gs)

theorem PyFloat.eq_comm (x y : PyFloat) : x.eq y = y.eq x := by
  cases x <;> cases y <;> simp [PyFloat.eq, Bool.and_comm, BEq.comm]

theorem PyFloat.eq_trans {x y z : PyFloat} (h : x.eq y = true) (h' : y.eq z = true) :
    x.eq z = true := by
  cases x <;> cases y <;> cases z <;> simp_all [PyFloat.eq]
  rcases h with rfl | h
  · exact h'
  · rcases h' with rfl | h'
    · exact Or.inr h
    · exact Or.inr ⟨h.1, h'.2⟩

theorem Same.symm {a b : Json} (h : Same a b) : Same b a := by
  induction h with
  | null => exact .null
  | bool b => exact .bool b
  | int n => exact .int n
  | float h => exact .float (by rw [PyFloat.eq_comm]; exact h)
  | str s => exact .str s
  | arr hlen _ ih => exact .arr hlen.symm fun i x y hx hy => ih i y x hy hx
  | obj hkeys _ ih => exact .obj (fun k => (hkeys k).symm) fun k x y hx hy => ih k y x hy hx

theorem Same.trans {a b c : Json} (h : Same a b) (h' : Same b c) : Same a c := by
  induction h generalizing c with
  | null => exact h'
  | bool b => exact h'
  | int n => exact h'
  | float h => cases h' with | float h2 => exact .float (PyFloat.eq_trans h h2)
  | str s => exact h'
  | @arr xs ys hlen _ ih =>
    cases h' with
    | @arr _ zs hlen' h2 =>
      refine .arr (hlen.trans hlen') fun i x z hx hz => ?_
      have hi : i < ys.length := hlen ▸ (List.getElem?_eq_some_iff.mp hx).1
      exact ih i x ys[i] hx (List.getElem?_eq_getElem hi)
        (h2 i ys[i] z (List.getElem?_eq_getElem hi) hz)
  | @obj fs gs hkeys _ ih =>
    cases h' with
    | @obj _ ks hkeys' h2 =>
      refine .obj (fun k => (hkeys k).trans (hkeys' k)) fun k x z hx hz => ?_
      have hsome : (lookup gs k).isSome := by rw [← hkeys k, hx]; rfl
      obtain ⟨y, hy⟩ := Option.isSome_iff_exists.mp hsome
      exact ih k x y hx hy (h2 k y z hy hz)

mutual
/-- No `nan` inside, which differs from itself. -/
def Json.nanFree : Json → Bool
  | .float x => x.eq x
  | .arr xs => nanFreeList xs
  | .obj fields => nanFreeFields fields
  | _ => true
def Json.nanFreeList : List Json → Bool
  | [] => true
  | x :: xs => nanFree x && nanFreeList xs
def Json.nanFreeFields : List (PyStr × Json) → Bool
  | [] => true
  | (_, x) :: xs => nanFree x && nanFreeFields xs
end

mutual
theorem Same.refl_of_nanFree : ∀ {v : Json}, v.nanFree = true → Same v v
  | .null, _ => .null
  | .bool b, _ => .bool b
  | .int n, _ => .int n
  | .float _, h => .float h
  | .str s, _ => .str s
  | .arr xs, h => by
    refine .arr rfl fun i x y hx hy => ?_
    rw [hx, Option.some.injEq] at hy
    exact hy ▸ sameList_refl h x (List.mem_of_getElem? hx)
  | .obj fs, h => by
    refine .obj (fun _ => rfl) fun k x y hx hy => ?_
    rw [hx, Option.some.injEq] at hy
    obtain ⟨p, hp, rfl⟩ := Option.map_eq_some_iff.mp hx
    exact hy ▸ sameFields_refl h p (List.mem_of_find?_eq_some hp)
theorem sameList_refl : ∀ {xs : List Json}, Json.nanFreeList xs = true → ∀ x ∈ xs, Same x x
  | y :: ys, h, x, hx => by
    rw [Json.nanFreeList, Bool.and_eq_true] at h
    rcases List.mem_cons.mp hx with heq | hx
    · exact heq ▸ Same.refl_of_nanFree h.1
    · exact sameList_refl h.2 x hx
theorem sameFields_refl : ∀ {fs : List (PyStr × Json)}, Json.nanFreeFields fs = true →
    ∀ p ∈ fs, Same p.2 p.2
  | (k, y) :: ys, h, p, hp => by
    rw [Json.nanFreeFields, Bool.and_eq_true] at h
    rcases List.mem_cons.mp hp with heq | hp
    · exact heq ▸ Same.refl_of_nanFree h.1
    · exact sameFields_refl h.2 p hp
end

/-! ### Lookup in objects with distinct keys -/

theorem lookup_isSome_iff {fs : List (PyStr × Json)} {k : PyStr} :
    (lookup fs k).isSome = true ↔ k ∈ fs.map Prod.fst := by
  simp only [lookup, Option.isSome_map, List.find?_isSome, List.mem_map, decide_eq_true_eq]

theorem lookup_mem {fs : List (PyStr × Json)} {k : PyStr} {x : Json} (h : lookup fs k = some x) :
    (k, x) ∈ fs := by
  obtain ⟨⟨k', x'⟩, hf, rfl⟩ := Option.map_eq_some_iff.mp h
  have hk : k' = k := by simpa using List.find?_some hf
  exact hk ▸ List.mem_of_find?_eq_some hf

theorem lookup_of_mem {fs : List (PyStr × Json)} (hn : (fs.map Prod.fst).Nodup) {k : PyStr}
    {x : Json} (h : (k, x) ∈ fs) : lookup fs k = some x := by
  induction fs with
  | nil => simp at h
  | cons p fs ih =>
    rw [List.map_cons, List.nodup_cons] at hn
    rcases List.mem_cons.mp h with rfl | h
    · simp [lookup]
    · have hne : p.1 ≠ k := fun he => hn.1 (he ▸ List.mem_map_of_mem (f := Prod.fst) h)
      have := ih hn.2 h
      simpa [lookup, hne] using this

/-- Distinct keys, all present on the other side, and as many of them: the key sets agree. -/
theorem keys_eq_of_subset {fs gs : List (PyStr × Json)} (hf : (fs.map Prod.fst).Nodup)
    (hlen : fs.length = gs.length) (hsub : ∀ p ∈ fs, (lookup gs p.1).isSome = true) (k : PyStr) :
    (lookup fs k).isSome = (lookup gs k).isSome := by
  have hsubset : fs.map Prod.fst ⊆ gs.map Prod.fst := by
    intro k' hk'
    obtain ⟨p, hp, rfl⟩ := List.mem_map.mp hk'
    exact lookup_isSome_iff.mp (hsub p hp)
  have hperm : (fs.map Prod.fst).Perm (gs.map Prod.fst) :=
    (List.subperm_of_subset hf hsubset).perm_of_length_le (by simp [hlen])
  rw [Bool.eq_iff_iff, lookup_isSome_iff, lookup_isSome_iff]
  exact hperm.mem_iff

/-! ### Both comparisons decide `Same` -/

theorem strictItems_iff {xs ys : List Json} (hlen : xs.length = ys.length) :
    strictItems xs ys = true ↔
      ∀ (i : ℕ) x y, xs[i]? = some x → ys[i]? = some y → typeStrictEqual x y = true := by
  induction xs generalizing ys with
  | nil => simp [strictItems]
  | cons x xs ih =>
    cases ys with
    | nil => simp at hlen
    | cons y ys =>
      simp only [strictItems, Bool.and_eq_true, ih (Nat.succ_injective hlen)]
      constructor
      · rintro ⟨h0, h⟩ (_ | i) a b ha hb
        · simp_all
        · exact h i a b (by simpa using ha) (by simpa using hb)
      · intro h
        exact ⟨h 0 x y rfl rfl, fun i a b ha hb =>
          h (i + 1) a b (by simpa using ha) (by simpa using hb)⟩

theorem strictFields_iff {fs gs : List (PyStr × Json)} :
    strictFields fs gs = true ↔
      ∀ p ∈ fs, ∃ y, lookup gs p.1 = some y ∧ typeStrictEqual p.2 y = true := by
  induction fs with
  | nil => simp [strictFields]
  | cons p fs ih =>
    obtain ⟨k, x⟩ := p
    simp only [strictFields, Bool.and_eq_true, ih, List.mem_cons, forall_eq_or_imp]
    cases lookup gs k <;> simp

theorem sameItems_iff {xs ys : List Json} (hlen : xs.length = ys.length) :
    sameItems xs ys = true ↔
      ∀ (i : ℕ) x y, xs[i]? = some x → ys[i]? = some y → sameJsonValue x y = true := by
  induction xs generalizing ys with
  | nil => simp [sameItems]
  | cons x xs ih =>
    cases ys with
    | nil => simp at hlen
    | cons y ys =>
      simp only [sameItems, Bool.and_eq_true, ih (Nat.succ_injective hlen)]
      constructor
      · rintro ⟨h0, h⟩ (_ | i) a b ha hb
        · simp_all
        · exact h i a b (by simpa using ha) (by simpa using hb)
      · intro h
        exact ⟨h 0 x y rfl rfl, fun i a b ha hb =>
          h (i + 1) a b (by simpa using ha) (by simpa using hb)⟩

theorem sameFields_iff {fs gs : List (PyStr × Json)} :
    sameFields fs gs = true ↔
      ∀ p ∈ gs, ∃ x, lookup fs p.1 = some x ∧ sameJsonValue x p.2 = true := by
  induction gs with
  | nil => simp [sameFields]
  | cons p gs ih =>
    obtain ⟨k, y⟩ := p
    simp only [sameFields, Bool.and_eq_true, ih, List.mem_cons, forall_eq_or_imp]
    cases lookup fs k <;> simp

/-- The nested size of a member or an item is below that of its container. -/
theorem sizeOf_lookup {fs : List (PyStr × Json)} {k : PyStr} {x : Json}
    (h : lookup fs k = some x) : sizeOf x < sizeOf (Json.obj fs) := by
  have hm := List.sizeOf_lt_of_mem (lookup_mem h)
  simp only [Json.obj.sizeOf_spec]
  have : sizeOf x < sizeOf (k, x) := by simp
  omega

theorem sizeOf_item {xs : List Json} {i : ℕ} {x : Json} (h : xs[i]? = some x) :
    sizeOf x < sizeOf (Json.arr xs) := by
  have hm := List.sizeOf_lt_of_mem (List.mem_of_getElem? h)
  simp only [Json.arr.sizeOf_spec]
  omega

theorem wf_lookup {fs : List (PyStr × Json)} {k : PyStr} {x : Json} (hw : (Json.obj fs).wf = true)
    (h : lookup fs k = some x) : x.wf = true := by
  simp only [wf, Bool.and_eq_true] at hw
  exact wfFields_iff.mp hw.2 _ (lookup_mem h)

theorem wf_item {xs : List Json} {i : ℕ} {x : Json} (hw : (Json.arr xs).wf = true)
    (h : xs[i]? = some x) : x.wf = true := by
  simp only [wf] at hw
  exact wfList_iff.mp hw _ (List.mem_of_getElem? h)

theorem wf_nodup {fs : List (PyStr × Json)} (hw : (Json.obj fs).wf = true) :
    (fs.map Prod.fst).Nodup := by
  simp only [wf, Bool.and_eq_true, decide_eq_true_eq] at hw
  exact hw.1

/-- `_type_strict_equal` is structural equality up to key order. -/
theorem typeStrictEqual_iff (a b : Json) (ha : a.wf = true) (hb : b.wf = true) :
    typeStrictEqual a b = true ↔ Same a b := by
  cases a <;> cases b <;> try
    first
    | (simp only [typeStrictEqual, Bool.false_eq_true, false_iff]; intro h; cases h)
    | (simp only [typeStrictEqual, beq_iff_eq]
       exact ⟨fun h => by subst h; constructor, fun h => by cases h; rfl⟩)
  case null.null => simp only [typeStrictEqual, true_iff]; exact .null
  case float.float x y => exact ⟨fun h => .float h, fun h => by cases h; assumption⟩
  case arr.arr xs ys =>
    simp only [typeStrictEqual, Bool.and_eq_true, beq_iff_eq]
    have key : ∀ (i : ℕ) x y, xs[i]? = some x → ys[i]? = some y →
        (typeStrictEqual x y = true ↔ Same x y) := fun i x y hx hy =>
      have := sizeOf_item hx
      typeStrictEqual_iff x y (wf_item ha hx) (wf_item hb hy)
    constructor
    · rintro ⟨hlen, h⟩
      exact .arr hlen fun i x y hx hy =>
        (key i x y hx hy).mp ((strictItems_iff hlen).mp h i x y hx hy)
    · intro h
      cases h with
      | arr hlen h =>
        exact ⟨hlen, (strictItems_iff hlen).mpr fun i x y hx hy =>
          (key i x y hx hy).mpr (h i x y hx hy)⟩
  case obj.obj fs gs =>
    have key : ∀ k x y, lookup fs k = some x → lookup gs k = some y →
        (typeStrictEqual x y = true ↔ Same x y) := fun k x y hx hy =>
      have := sizeOf_lookup hx
      typeStrictEqual_iff x y (wf_lookup ha hx) (wf_lookup hb hy)
    simp only [typeStrictEqual, Bool.and_eq_true, beq_iff_eq, List.all_eq_true, strictFields_iff]
    constructor
    · rintro ⟨⟨hlen, hsub⟩, h⟩
      refine .obj (keys_eq_of_subset (wf_nodup ha) hlen hsub) fun k x y hx hy => ?_
      obtain ⟨y', hy', hxy⟩ := h _ (lookup_mem hx)
      obtain rfl : y = y' := by simpa [hy] using hy'
      exact (key k x y hx hy).mp hxy
    · intro h
      cases h with
      | obj hkeys h =>
        have hin : ∀ p ∈ fs, (lookup gs p.1).isSome = true := fun p hp => by
          rw [← hkeys, lookup_of_mem (wf_nodup ha) hp]; rfl
        have hmem : ∀ k, k ∈ fs.map Prod.fst ↔ k ∈ gs.map Prod.fst := fun k => by
          rw [← lookup_isSome_iff, ← lookup_isSome_iff, hkeys]
        have hperm := (List.perm_ext_iff_of_nodup (wf_nodup ha) (wf_nodup hb)).mpr hmem
        refine ⟨⟨by simpa using hperm.length_eq, hin⟩, fun p hp => ?_⟩
        obtain ⟨y, hy⟩ := Option.isSome_iff_exists.mp (hin p hp)
        have hx := lookup_of_mem (wf_nodup ha) hp
        exact ⟨y, hy, (key _ _ _ hx hy).mpr (h _ _ _ hx hy)⟩
termination_by sizeOf a

/-- `_same_json_value` is structural equality up to key order. -/
theorem sameJsonValue_iff (a b : Json) (ha : a.wf = true) (hb : b.wf = true) :
    sameJsonValue a b = true ↔ Same a b := by
  cases a <;> cases b <;> try
    first
    | (simp only [sameJsonValue, Bool.false_eq_true, false_iff]; intro h; cases h)
    | (simp only [sameJsonValue, beq_iff_eq]
       exact ⟨fun h => by subst h; constructor, fun h => by cases h; rfl⟩)
  case null.null => simp only [sameJsonValue, true_iff]; exact .null
  case float.float x y => exact ⟨fun h => .float h, fun h => by cases h; assumption⟩
  case arr.arr xs ys =>
    simp only [sameJsonValue, Bool.and_eq_true, beq_iff_eq]
    have key : ∀ (i : ℕ) x y, xs[i]? = some x → ys[i]? = some y →
        (sameJsonValue x y = true ↔ Same x y) := fun i x y hx hy =>
      have := sizeOf_item hx
      sameJsonValue_iff x y (wf_item ha hx) (wf_item hb hy)
    constructor
    · rintro ⟨hlen, h⟩
      exact .arr hlen fun i x y hx hy =>
        (key i x y hx hy).mp ((sameItems_iff hlen).mp h i x y hx hy)
    · intro h
      cases h with
      | arr hlen h =>
        exact ⟨hlen, (sameItems_iff hlen).mpr fun i x y hx hy =>
          (key i x y hx hy).mpr (h i x y hx hy)⟩
  case obj.obj fs gs =>
    have key : ∀ k x y, lookup fs k = some x → lookup gs k = some y →
        (sameJsonValue x y = true ↔ Same x y) := fun k x y hx hy =>
      have := sizeOf_lookup hx
      sameJsonValue_iff x y (wf_lookup ha hx) (wf_lookup hb hy)
    simp only [sameJsonValue, Bool.and_eq_true, List.all_eq_true, sameFields_iff]
    constructor
    · rintro ⟨⟨hsub, hsup⟩, h⟩
      refine .obj (fun k => ?_) fun k x y hx hy => ?_
      · rw [Bool.eq_iff_iff]
        constructor <;> intro hk <;> obtain ⟨x, hx⟩ := Option.isSome_iff_exists.mp hk
        · exact hsub _ (lookup_mem hx)
        · exact hsup _ (lookup_mem hx)
      · obtain ⟨x', hx', hxy⟩ := h _ (lookup_mem hy)
        obtain rfl : x = x' := by simpa [hx] using hx'
        exact (key k x y hx hy).mp hxy
    · intro h
      cases h with
      | obj hkeys h =>
        have hsup : ∀ p ∈ gs, (lookup fs p.1).isSome = true := fun p hp => by
          rw [hkeys, lookup_of_mem (wf_nodup hb) hp]; rfl
        refine ⟨⟨fun p hp => ?_, hsup⟩, fun p hp => ?_⟩
        · rw [← hkeys, lookup_of_mem (wf_nodup ha) hp]; rfl
        · obtain ⟨x, hx⟩ := Option.isSome_iff_exists.mp (hsup p hp)
          have hy := lookup_of_mem (wf_nodup hb) hp
          exact ⟨x, hx, (key _ _ _ hx hy).mpr (h _ _ _ hx hy)⟩
termination_by sizeOf a

/-- A value as the strict parser returns it: distinct keys in every object, and no `nan`. -/
structure ParsedJson where
  value : Json
  wf : value.wf = true
  nanFree : value.nanFree = true

/-- The three comparisons answer alike on all parsed values, namely whether the two are equal up to
    the order of keys, with booleans, integers and floats apart; and that is an equivalence. -/
theorem strict_comparisons_agree :
    (∀ a b : ParsedJson,
      typeStrictEqual a.value b.value = sameJsonValue a.value b.value ∧
      sameJsonValue a.value b.value = labSameJsonValue a.value b.value ∧
      (typeStrictEqual a.value b.value = true ↔ Same a.value b.value)) ∧
    Equivalence fun a b : ParsedJson => typeStrictEqual a.value b.value = true := by
  have hstrict : ∀ a b : ParsedJson,
      typeStrictEqual a.value b.value = true ↔ Same a.value b.value :=
    fun a b => typeStrictEqual_iff _ _ a.wf b.wf
  refine ⟨fun a b => ⟨?_, rfl, hstrict a b⟩, fun a => ?_, fun h => ?_, fun h h' => ?_⟩
  · rw [Bool.eq_iff_iff, hstrict, sameJsonValue_iff _ _ a.wf b.wf]
  · exact (hstrict a a).mpr (Same.refl_of_nanFree a.nanFree)
  · exact (hstrict _ _).mpr ((hstrict _ _).mp h).symm
  · exact (hstrict _ _).mpr (((hstrict _ _).mp h).trans ((hstrict _ _).mp h'))

end C2Lab
