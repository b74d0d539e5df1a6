import Mathlib.Data.List.Basic
import Mathlib.Data.Nat.Notation

/-! Bounded windows over a growing log.

    `push cap l x` is `deque(maxlen=cap).append`: the oldest element goes when the window is full.
    A window that started empty is always the tail of everything pushed so far, `lastN`. A `Track`
    is a log with such a window and a counter; `Goes p` says that it went on by entries satisfying
    `p`. -/

namespace C2Lab.Window

variable {α : Type}

/-- The last `n` elements. -/
def lastN (n : ℕ) (l : List α) : List α := l.drop (l.length - n)

/-- Append to a deque of bounded length. -/
def push (cap : ℕ) (l : List α) (x : α) : List α := lastN cap (l ++ [x])

theorem lastN_length (n : ℕ) (l : List α) : (lastN n l).length = min n l.length := by
  simp only [lastN, List.length_drop]
  omega

theorem lastN_of_length_le {n : ℕ} {l : List α} (h : l.length ≤ n) : lastN n l = l := by
  simp [lastN, Nat.sub_eq_zero_of_le h]

/-- The tail of a longer log only needs the tail of the log. -/
theorem lastN_append_lastN (cap : ℕ) (l new : List α) :
    lastN cap (lastN cap l ++ new) = lastN cap (l ++ new) := by
  have hdrop : lastN cap l ++ new = (l ++ new).drop (l.length - cap) := by
    rw [lastN, List.drop_append_of_le_length (by omega)]
  rw [hdrop, lastN, lastN, List.drop_drop]
  simp only [List.length_drop, List.length_append]
  congr 1
  omega

/-- A window keeps up with its log: pushing on the tail of a log is the tail of the longer log. -/
theorem push_lastN (cap : ℕ) (l : List α) (x : α) :
    push cap (lastN cap l) x = lastN cap (l ++ [x]) :=
  lastN_append_lastN cap l [x]

/-- Mapping what is in a window maps what is pushed. -/
theorem push_map {β : Type} (f : α → β) (cap : ℕ) (l : List α) (x : α) :
    push cap (l.map f) (f x) = (push cap l x).map f := by
  simp [push, lastN, List.map_drop]

/-- Pushing several elements on the tail of a log. -/
theorem foldl_push_lastN (cap : ℕ) (l new : List α) :
    new.foldl (push cap) (lastN cap l) = lastN cap (l ++ new) := by
  induction new generalizing l with
  | nil => rw [List.append_nil]; rfl
  | cons x new ih => rw [List.foldl_cons, push_lastN, ih, List.append_assoc]; rfl

/-- What was pushed last is there, as long as it is not more than the window holds. -/
theorem mem_foldl_push {cap : ℕ} {l new : List α} (hl : l.length ≤ cap) (hnew : new.length ≤ cap)
    {x : α} (hx : x ∈ new) : x ∈ new.foldl (push cap) l := by
  have hfold := foldl_push_lastN cap l new
  rw [lastN_of_length_le hl] at hfold
  rw [hfold, lastN, List.length_append, List.drop_append]
  refine List.mem_append_right _ ?_
  rwa [show l.length + new.length - cap - l.length = 0 by omega]

/-- What is in a window after a push was there before or was pushed. -/
theorem mem_push {cap : ℕ} {l : List α} {x y : α} (h : y ∈ push cap l x) : y ∈ l ∨ y = x := by
  rcases List.mem_append.mp (List.mem_of_mem_drop h) with h | h
  · exact .inl h
  · exact .inr (List.mem_singleton.mp h)

/-- A window that is the end of a log stays its end. -/
theorem push_suffix {cap : ℕ} {l log : List α} (h : l <:+ log) (x : α) :
    push cap l x <:+ log ++ [x] := by
  obtain ⟨before, rfl⟩ := h
  exact (List.drop_suffix _ _).trans ⟨before, by simp⟩

theorem push_length_le (cap : ℕ) (l : List α) (x : α) : (push cap l x).length ≤ cap := by
  rw [push, lastN_length]
  exact Nat.min_le_left _ _

/-- A list taken from a log of distinct elements lies in the window if its first element does. -/
theorem sublist_of_head_mem {l r log : List α} {x : α} (hl : (x :: l).Sublist log) (hr : r <:+ log)
    (hn : log.Nodup) (hx : x ∈ r) : (x :: l).Sublist r := by
  obtain ⟨before, rfl⟩ := hr
  obtain ⟨l₁, l₂, heq, h₁, h₂⟩ := List.sublist_append_iff.mp hl
  cases l₁ with
  | nil => rw [heq]; exact h₂
  | cons y l₁ =>
    -- the first element would stand before the window and in it
    obtain ⟨rfl, -⟩ := List.cons.inj heq
    exact absurd rfl ((List.nodup_append.mp hn).2.2 _ (h₁.subset List.mem_cons_self) _ hx)

/-- A log, its window and its counter. -/
structure Track (α : Type) where
  log : List α
  window : List α
  count : ℕ

namespace Track

variable {cap : ℕ} {p q : α → Prop} {x y z : Track α}

/-- The track went on from `x` to `y` by entries satisfying `p`. -/
def Goes (cap : ℕ) (p : α → Prop) (x y : Track α) : Prop :=
  ∃ new : List α, y.log = x.log ++ new ∧ y.window = new.foldl (push cap) x.window ∧
    y.count = x.count + new.length ∧ ∀ a ∈ new, p a

theorem Goes.refl (cap : ℕ) (p : α → Prop) (x : Track α) : Goes cap p x x :=
  ⟨[], by simp⟩

theorem Goes.trans (h : Goes cap p x y) (h' : Goes cap p y z) : Goes cap p x z := by
  obtain ⟨new, hlog, hwindow, hcount, hnew⟩ := h
  obtain ⟨new', hlog', hwindow', hcount', hnew'⟩ := h'
  refine ⟨new ++ new', ?_, ?_, ?_, fun a ha => ?_⟩
  · rw [hlog', hlog, List.append_assoc]
  · rw [hwindow', hwindow, List.foldl_append]
  · rw [hcount', hcount, List.length_append, Nat.add_assoc]
  · rcases List.mem_append.mp ha with ha | ha
    · exact hnew a ha
    · exact hnew' a ha

theorem Goes.push {a : α} (ha : p a) :
    Goes cap p x ⟨x.log ++ [a], Window.push cap x.window a, x.count + 1⟩ :=
  ⟨[a], by simpa using ha⟩

/-- What is known of the new entries of the log. -/
theorem Goes.of_log (h : Goes cap q x y)
    (hlog : ∃ new, y.log = x.log ++ new ∧ ∀ a ∈ new, p a) : Goes cap p x y := by
  obtain ⟨new, heq, hwindow, hcount, -⟩ := h
  obtain ⟨new', heq', hnew⟩ := hlog
  obtain rfl : new = new' := List.append_cancel_left (heq.symm.trans heq')
  exact ⟨new, heq, hwindow, hcount, hnew⟩

end Track

end C2Lab.Window
