import Mathlib.Data.List.Basic

/-! Logs that are replayed.

    A log is folded into a state by `apply`; `Sound ok m l` says that every entry of `l` is right,
    by `ok`, about the state it is applied in when the log is replayed from `m`. -/

namespace C2Lab.Replay

variable {σ ε : Type} {apply : σ → ε → σ} {ok : ε → σ → Prop} {m : σ} {l l' : List ε}

/-- Every entry is right about the state it finds. -/
def Sound (apply : σ → ε → σ) (ok : ε → σ → Prop) (m : σ) (l : List ε) : Prop :=
  ∀ pre x post, l = pre ++ x :: post → ok x (pre.foldl apply m)

theorem sound_nil : Sound apply ok m [] := by
  intro pre x post h
  cases pre <;> cases h

theorem Sound.append (h : Sound apply ok m l) (h' : Sound apply ok (l.foldl apply m) l') :
    Sound apply ok m (l ++ l') := by
  intro pre x post heq
  rcases List.append_eq_append_iff.mp heq with ⟨mid, rfl, hl'⟩ | ⟨mid, hl, hpost⟩
  · -- the entry stands in the second part
    rw [List.foldl_append]
    exact h' mid x post hl'
  · cases mid with
    | nil =>
      rw [List.append_nil] at hl
      have hx := h' [] x post hpost.symm
      rw [hl] at hx
      exact hx
    | cons y mid =>
      obtain ⟨rfl, -⟩ := List.cons_eq_cons.mp hpost
      exact h pre _ mid hl

theorem sound_singleton {x : ε} (h : ok x m) : Sound apply ok m [x] := by
  intro pre y post heq
  cases pre with
  | nil =>
    obtain ⟨rfl, -⟩ := List.cons_eq_cons.mp heq
    exact h
  | cons z pre =>
    have hlen := congrArg List.length heq
    simp at hlen

/-- Entries that change nothing and are right anywhere. -/
theorem sound_of_forall (h : ∀ x ∈ l, ∀ m, ok x m) : Sound apply ok m l := by
  rintro pre x post rfl
  exact h x (by simp) _

theorem foldl_eq_self (h : ∀ x ∈ l, apply m x = m) : l.foldl apply m = m := by
  induction l with
  | nil => rfl
  | cons x l ih =>
    rw [List.foldl_cons, h x (by simp)]
    exact ih fun y hy => h y (by simp [hy])

end C2Lab.Replay
