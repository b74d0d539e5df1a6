import Mathlib.Algebra.Order.BigOperators.Group.List
import Mathlib.Algebra.Order.Group.Nat
import Mathlib.Algebra.Order.Ring.Nat
import Mathlib.Data.List.Nodup

/-! Lists of keyed items, each handled once.

    A plan pairs distinct keys with what is to be done for them; `seen` holds the keys handled so
    far. What is still owed is a sum over the unseen part of the plan, and handling one more key
    pays exactly that key's share. -/

namespace C2Lab.Plan

variable {κ β : Type}

/-- Two keys planned with the same item are the same key. -/
theorem zip_left_unique {l : List κ} {m : List β} (hm : m.Nodup) {a b : κ} {p : β}
    (ha : (a, p) ∈ l.zip m) (hb : (b, p) ∈ l.zip m) : a = b := by
  obtain ⟨i, hi, hai⟩ := List.mem_iff_getElem.mp ha
  obtain ⟨j, hj, hbj⟩ := List.mem_iff_getElem.mp hb
  rw [List.getElem_zip, Prod.mk.injEq] at hai hbj
  have hij : i = j := (hm.getElem_inj_iff).mp (hai.2.trans hbj.2.symm)
  subst hij
  exact hai.1.symm.trans hbj.1

/-- A key is planned with one item only. -/
theorem zip_right_unique {l : List κ} {m : List β} (hl : l.Nodup) {a : κ} {p q : β}
    (hp : (a, p) ∈ l.zip m) (hq : (a, q) ∈ l.zip m) : p = q := by
  obtain ⟨i, hi, hai⟩ := List.mem_iff_getElem.mp hp
  obtain ⟨j, hj, hbj⟩ := List.mem_iff_getElem.mp hq
  rw [List.getElem_zip, Prod.mk.injEq] at hai hbj
  have hij : i = j := (hl.getElem_inj_iff).mp (hai.1.trans hbj.1.symm)
  subst hij
  exact hai.2.symm.trans hbj.2

/-- Every key of a plan of equal lengths has an item. -/
theorem exists_mem_zip {l : List κ} {m : List β} (h : l.length = m.length) {a : κ} (ha : a ∈ l) :
    ∃ p, (a, p) ∈ l.zip m := by
  obtain ⟨i, hi, rfl⟩ := List.mem_iff_getElem.mp ha
  have hi' : i < m.length := h ▸ hi
  exact ⟨m[i], List.mem_iff_getElem.mpr ⟨i, by simp [← h, hi], by simp⟩⟩

theorem mem_left_of_mem_zip {l : List κ} {m : List β} {a : κ} {p : β} (h : (a, p) ∈ l.zip m) :
    a ∈ l := (List.of_mem_zip h).1

variable [DecidableEq κ]

/-- What a plan still owes for the keys not seen yet. -/
def owed (cost : κ × β → ℕ) (plan : List (κ × β)) (seen : List κ) : ℕ :=
  ((plan.filter (·.1 ∉ seen)).map cost).sum

/-- The share of an unseen key is part of what is owed. -/
theorem le_owed {c : κ × β → ℕ} {plan : List (κ × β)} {seen : List κ} {x : κ × β}
    (hx : x ∈ plan) (hs : x.1 ∉ seen) : c x ≤ owed c plan seen :=
  List.single_le_sum (fun _ _ => Nat.zero_le _) _
    (List.mem_map_of_mem (List.mem_filter.mpr ⟨hx, by simpa using hs⟩))

/-- Seeing one more key pays its share. -/
theorem owed_append {c : κ × β → ℕ} {plan : List (κ × β)} (hn : (plan.map Prod.fst).Nodup)
    {seen : List κ} {x : κ × β} (hx : x ∈ plan) (hs : x.1 ∉ seen) :
    owed c plan (seen ++ [x.1]) + c x = owed c plan seen := by
  have key : ∀ l : List (κ × β), x.1 ∉ l.map Prod.fst →
      l.filter (·.1 ∉ seen ++ [x.1]) = l.filter (·.1 ∉ seen) := by
    intro l hl
    refine List.filter_congr fun y hy => ?_
    have hne : y.1 ≠ x.1 := fun he => hl (he ▸ List.mem_map_of_mem hy)
    simp [hne]
  induction plan with
  | nil => simp at hx
  | cons y plan ih =>
    rw [List.map_cons, List.nodup_cons] at hn
    rcases List.mem_cons.mp hx with rfl | hx
    · rw [owed, List.filter_cons_of_neg (by simp), key plan hn.1, owed,
        List.filter_cons_of_pos (by simpa using hs), List.map_cons, List.sum_cons, Nat.add_comm]
    · have hne : y.1 ≠ x.1 := fun he => hn.1 (he ▸ List.mem_map_of_mem hx)
      have hrec := ih hn.2 hx
      by_cases hy : y.1 ∈ seen
      · simpa [owed, hy, hne] using hrec
      · simp only [owed, List.mem_append, List.mem_singleton, not_or] at hrec ⊢
        simp only [hy, hne, not_false_eq_true, and_self, decide_true, List.filter_cons_of_pos,
          List.map_cons, List.sum_cons]
        omega

end C2Lab.Plan
