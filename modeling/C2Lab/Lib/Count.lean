import Mathlib.Data.List.Basic
import Mathlib.Data.Nat.Notation

/-! Counting the elements of a list with a property.

    The pigeonhole rules used below: two properties together, a property that at most one element
    has, and a property whose elements fall into few classes of few elements each. -/

namespace C2Lab.Count

variable {α κ : Type} {l : List α} {p q r : α → Bool}

/-- What has a property has one of two others. -/
theorem countP_le_add (h : ∀ x ∈ l, p x = true → q x = true ∨ r x = true) :
    l.countP p ≤ l.countP q + l.countP r := by
  induction l with
  | nil => simp
  | cons x l ih =>
    have hrest := ih fun y hy => h y (List.mem_cons_of_mem _ hy)
    have hx := h x List.mem_cons_self
    simp only [List.countP_cons]
    cases hp : p x with
    | false => simp only [Bool.false_eq_true, if_false]; omega
    | true => rcases hx hp with hx | hx <;> simp only [hx, if_true] <;> omega

/-- Elements with different keys, of which those with the property have the same key. -/
theorem countP_le_one {f : α → κ} (hn : (l.map f).Nodup)
    (h : ∀ x ∈ l, ∀ y ∈ l, p x = true → p y = true → f x = f y) : l.countP p ≤ 1 := by
  rw [List.countP_eq_length_filter]
  have hn' : ((l.filter p).map f).Nodup := hn.sublist (List.filter_sublist.map f)
  match hl : l.filter p with
  | [] => exact Nat.zero_le _
  | [_] => exact Nat.le_refl 1
  | x :: y :: rest =>
    have hx : x ∈ l.filter p := by rw [hl]; exact List.mem_cons_self
    have hy : y ∈ l.filter p := by rw [hl]; simp
    rw [List.mem_filter] at hx hy
    rw [hl, List.map_cons, List.map_cons, List.nodup_cons] at hn'
    exact absurd (h x hx.1 y hy.1 hx.2 hy.2 ▸ List.mem_cons_self) hn'.1

/-- Few classes, each with few elements. -/
theorem countP_le_mul [DecidableEq κ] (f : α → κ) (classes : List κ) {bound : ℕ}
    (hf : ∀ x ∈ l, p x = true → f x ∈ classes)
    (hb : ∀ k ∈ classes, l.countP (fun x => p x && f x = k) ≤ bound) :
    l.countP p ≤ classes.length * bound := by
  induction classes generalizing p with
  | nil =>
    have hnone : l.countP p = 0 :=
      List.countP_eq_zero.mpr fun x hx hp => by simpa using hf x hx hp
    rw [hnone]
    exact Nat.zero_le _
  | cons k classes ih =>
    have hrest : l.countP (fun x => p x && f x ≠ k) ≤ classes.length * bound := by
      refine ih (fun x hx hp => ?_) fun k' hk' => ?_
      · obtain ⟨hp, hne⟩ := (Bool.and_eq_true_iff).mp hp
        exact (List.mem_cons.mp (hf x hx hp)).resolve_left (of_decide_eq_true hne)
      · refine Nat.le_trans (List.countP_mono_left fun x _ hx => ?_)
          (hb k' (List.mem_cons_of_mem _ hk'))
        simp only [Bool.and_eq_true] at hx ⊢
        exact ⟨hx.1.1, hx.2⟩
    have hsplit := countP_le_add (l := l) (p := p) (q := fun x => p x && f x = k)
      (r := fun x => p x && f x ≠ k) fun x _ hp => by by_cases hk : f x = k <;> simp [hp, hk]
    have hfirst := hb k List.mem_cons_self
    rw [List.length_cons, Nat.add_mul, Nat.one_mul]
    omega

end C2Lab.Count
