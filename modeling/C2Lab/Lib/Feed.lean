import Mathlib.Order.Lattice
import C2Lab.Lib.Window

/-! A feed of bounded length, and a copy of it that is kept up to date by pages.

    A feed numbers its entries from one and keeps the latest of those since it was last cleared. A
    reader remembers the number it read up to; a page goes on from there, or starts over when the
    feed does not tell that nothing is missing. Whatever happens to the feed between two pages, a
    reader whose page leaves nothing more holds exactly what the feed retains. -/

namespace C2Lab

open Window

variable {α : Type}

/-- A log, and how long it was when the feed was last cleared. -/
structure Feed (α : Type) where
  log : List α
  cleared : ℕ

/-- What a reader has of a feed: the number of the last entry it read, and the entries it kept. -/
structure Copy (α : Type) where
  cursor : ℕ
  history : List α

/-- One answer of a feed. -/
structure Page (α : Type) where
  entries : List α
  next : ℕ
  reset : Bool
  more : Bool

namespace Feed

variable {cap limit : ℕ} {f f' f'' : Feed α} {x : Copy α} {p : Page α}

/-- The entries a feed of capacity `cap` retains. -/
def retained (cap : ℕ) (f : Feed α) : List α := lastN cap (f.log.drop f.cleared)

/-- How many entries are gone. -/
def dropped (cap : ℕ) (f : Feed α) : ℕ := max f.cleared (f.log.length - cap)

/-- How many entries a page for a reader up to `after` has to choose from. -/
def ahead (cap : ℕ) (f : Feed α) (after : ℕ) : ℕ := f.log.length - max after (f.dropped cap)

/-- A feed goes on: it grows, and may be cleared on the way. -/
structure Goes (f f' : Feed α) : Prop where
  log : ∃ new, f'.log = f.log ++ new
  cleared : f'.cleared = f.cleared ∨ f.log.length ≤ f'.cleared
  cleared_le : f'.cleared ≤ f'.log.length

theorem Goes.refl (h : f.cleared ≤ f.log.length) : f.Goes f := ⟨⟨[], by simp⟩, .inl rfl, h⟩

theorem Goes.length_le (h : f.Goes f') : f.log.length ≤ f'.log.length := by
  obtain ⟨new, hlog⟩ := h.log
  rw [hlog, List.length_append]
  exact Nat.le_add_right _ _

theorem Goes.trans (h : f.Goes f') (h' : f'.Goes f'') : f.Goes f'' := by
  obtain ⟨new, hlog⟩ := h.log
  obtain ⟨new', hlog'⟩ := h'.log
  refine ⟨⟨new ++ new', by rw [hlog', hlog, List.append_assoc]⟩, ?_, h'.cleared_le⟩
  have hlen := h.length_le
  rcases h'.cleared with hc | hc
  · rw [hc]; exact h.cleared
  · exact .inr (by omega)

theorem retained_eq (cap : ℕ) (f : Feed α) : f.retained cap = f.log.drop (f.dropped cap) := by
  rw [retained, lastN, List.drop_drop, List.length_drop, dropped]
  congr 1
  omega

theorem retained_length (cap : ℕ) (f : Feed α) :
    (f.retained cap).length = f.log.length - f.dropped cap := by
  rw [retained_eq, List.length_drop]

theorem dropped_le_length (cap : ℕ) (h : f.cleared ≤ f.log.length) :
    f.dropped cap ≤ f.log.length := by
  unfold dropped
  omega

/-- What is gone stays gone. -/
theorem Goes.dropped_le (cap : ℕ) (h : f.Goes f') (hf : f.cleared ≤ f.log.length) :
    f.dropped cap ≤ f'.dropped cap := by
  have hlen := h.length_le
  unfold dropped
  rcases h.cleared with hc | hc <;> omega

/-- A feed that grows without being cleared pushes on what it retains. -/
theorem retained_append (cap : ℕ) (h : f.cleared ≤ f.log.length) (new : List α) :
    (Feed.mk (f.log ++ new) f.cleared).retained cap = new.foldl (push cap) (f.retained cap) := by
  rw [retained, retained, foldl_push_lastN, List.drop_append_of_le_length h]

/-! ### Pages -/

/-- What a feed answers a reader up to `after`: the next entries, unless entries are gone that the
    reader has not seen, or the feed was cleared since; then the first ones it retains. -/
inductive Answers (cap limit : ℕ) (f : Feed α) (after : ℕ) : Page α → Prop
  | first (h : after ≤ f.dropped cap ∨ f.log.length < after) :
      Answers cap limit f after
        { entries := (f.retained cap).take limit
          next := f.dropped cap + ((f.retained cap).take limit).length
          reset := true
          more := decide (limit < (f.retained cap).length) }
  | next (hdropped : f.dropped cap ≤ after) (hle : after ≤ f.log.length)
      (hcleared : after ≤ f.cleared → f.cleared = 0) :
      Answers cap limit f after
        { entries := (f.log.drop after).take limit
          next := after + ((f.log.drop after).take limit).length
          reset := false
          more := decide (limit < (f.log.drop after).length) }

/-- The copy after a page, the last `cap` entries of it. -/
def merge (cap : ℕ) (x : Copy α) (p : Page α) : Copy α :=
  { cursor := p.next
    history := lastN cap ((if p.reset then [] else x.history) ++ p.entries) }

/-- The copy is a stretch of the log that starts no later than what the feed retains. -/
structure Holds (cap : ℕ) (f : Feed α) (x : Copy α) : Prop where
  cursor_le : x.cursor ≤ f.log.length
  history : ∃ start, f.cleared ≤ start ∧ start ≤ f.dropped cap ∧
    x.history = lastN cap ((f.log.take x.cursor).drop start)

/-- The copy is such a stretch, or the feed will tell that it was cleared since. -/
structure Follows (cap : ℕ) (f : Feed α) (x : Copy α) : Prop where
  cursor_le : x.cursor ≤ f.log.length
  holds : (x.cursor ≤ f.cleared ∧ 0 < f.cleared) ∨ f.Holds cap x

theorem Holds.follows (h : f.Holds cap x) : f.Follows cap x := ⟨h.cursor_le, .inr h⟩

/-- A reader that has nothing follows every feed. -/
theorem follows_empty (cap : ℕ) (f : Feed α) : f.Follows cap ⟨0, []⟩ := by
  refine ⟨Nat.zero_le _, ?_⟩
  by_cases hc : 0 < f.cleared
  · exact .inl ⟨Nat.zero_le _, hc⟩
  · have hzero : f.cleared = 0 := by omega
    exact .inr ⟨Nat.zero_le _, 0, hzero.le, Nat.zero_le _, by simp [lastN]⟩

/-- Whatever happens to the feed, the copy follows it. -/
theorem Follows.goes (h : f.Follows cap x) (hf : f.cleared ≤ f.log.length) (hg : f.Goes f') :
    f'.Follows cap x := by
  have hlen := hg.length_le
  have hcursor := h.cursor_le
  refine ⟨hcursor.trans hlen, ?_⟩
  rcases hg.cleared with hc | hc
  · rcases h.holds with ⟨hle, hpos⟩ | ⟨-, start, hstart, hdropped, hhistory⟩
    · exact .inl (hc ▸ ⟨hle, hpos⟩)
    · refine .inr ⟨hcursor.trans hlen, start, hc ▸ hstart,
        hdropped.trans (hg.dropped_le cap hf), ?_⟩
      obtain ⟨new, hlog⟩ := hg.log
      rw [hhistory, hlog, List.take_append_of_le_length hcursor]
  · by_cases hzero : f'.cleared = 0
    · -- nothing was there to be cleared
      have hempty : f.log = [] := List.length_eq_zero_iff.mp (by omega)
      have hcursor' : x.cursor = 0 := by rw [hempty] at hcursor; exact Nat.le_zero.mp hcursor
      have hnil : x.history = [] := by
        rcases h.holds with ⟨-, hpos⟩ | ⟨-, start, -, -, hhistory⟩
        · rw [hempty] at hf
          exact absurd hpos (by simpa using hf)
        · rw [hhistory, hempty]
          simp [lastN]
      refine .inr ⟨hcursor.trans hlen, 0, hzero.le, Nat.zero_le _, ?_⟩
      rw [hnil, hcursor']
      simp [lastN]
    · exact .inl ⟨hcursor.trans hc, Nat.pos_of_ne_zero hzero⟩

/-- A page brings the copy up to its number, in one stretch. -/
theorem Follows.page (h : f.Follows cap x) (hf : f.cleared ≤ f.log.length)
    (hp : f.Answers cap limit x.cursor p) : f.Holds cap (merge cap x p) := by
  have hdrop := dropped_le_length cap hf
  cases hp with
  | first hreason =>
    have htake : (f.log.drop (f.dropped cap)).take limit =
        (f.log.take (f.dropped cap + ((f.retained cap).take limit).length)).drop
          (f.dropped cap) := by
      rw [List.drop_take, retained_eq, Nat.add_sub_cancel_left, List.length_take]
      exact List.take_eq_take_min
    refine ⟨?_, f.dropped cap, Nat.le_max_left _ _, le_rfl, ?_⟩
    · simp only [merge, List.length_take, retained_length cap f]
      omega
    · simp only [merge, if_true, List.nil_append]
      rw [← htake, retained_eq]
  | next hdropped hle hcleared =>
    obtain ⟨-, start, hstart, hstart', hhistory⟩ := h.holds.resolve_left fun hbehind =>
      absurd (hcleared hbehind.1) hbehind.2.ne'
    refine ⟨?_, start, hstart, hstart', ?_⟩
    · simp only [merge, List.length_take, List.length_drop]
      omega
    · have htake : (f.log.take (x.cursor + ((f.log.drop x.cursor).take limit).length)).drop start =
          (f.log.take x.cursor).drop start ++ (f.log.drop x.cursor).take limit := by
        rw [List.take_add, List.drop_append_of_le_length
          (by rw [List.length_take]; omega), List.length_take]
        congr 1
        exact List.take_eq_take_min.symm
      simp only [merge, Bool.false_eq_true, if_false]
      rw [hhistory, htake, lastN_append_lastN]

/-- What a reader puts together at a page are different entries of the log, in its order. -/
theorem Follows.sublist (h : f.Follows cap x) (hp : f.Answers cap limit x.cursor p) :
    ((if p.reset then [] else x.history) ++ p.entries).Sublist f.log := by
  cases hp with
  | first hreason =>
    rw [if_pos rfl, List.nil_append, retained_eq]
    exact (List.take_sublist _ _).trans (List.drop_sublist _ _)
  | next hdropped hle hcleared =>
    obtain ⟨-, start, hstart, hstart', hhistory⟩ := h.holds.resolve_left fun hbehind =>
      absurd (hcleared hbehind.1) hbehind.2.ne'
    have hfront : x.history.Sublist (f.log.take x.cursor) := by
      rw [hhistory, lastN]
      exact (List.drop_sublist _ _).trans (List.drop_sublist _ _)
    have hback : ((f.log.drop x.cursor).take limit).Sublist (f.log.drop x.cursor) :=
      List.take_sublist _ _
    simp only [Bool.false_eq_true, if_false]
    have happend := hfront.append hback
    rwa [List.take_append_drop] at happend

/-- The copy is a stretch of the log. -/
theorem Holds.stretch (h : f.Holds cap x) : x.history <:+: f.log := by
  obtain ⟨-, start, -, -, hhistory⟩ := h
  rw [hhistory, lastN]
  refine List.IsInfix.trans ?_ (List.take_prefix x.cursor f.log).isInfix
  exact ((List.drop_suffix _ _).trans (List.drop_suffix _ _)).isInfix

/-- A copy that is up to date is what the feed retains. -/
theorem Holds.retained (h : f.Holds cap x) (hx : x.cursor = f.log.length) :
    x.history = f.retained cap := by
  obtain ⟨-, start, hstart, hdropped, hhistory⟩ := h
  rw [hhistory, hx, List.take_length, lastN, List.drop_drop, retained_eq, List.length_drop]
  congr 1
  unfold dropped at hdropped ⊢
  omega

/-! ### Progress -/

namespace Answers

variable {after : ℕ}

/-- How far a page brings a reader. -/
theorem next_eq (h : f.Answers cap limit after p) (hle : after ≤ f.log.length) :
    p.next = max after (f.dropped cap) + min limit (f.ahead cap after) := by
  cases h with
  | first hreason =>
    simp only [List.length_take, retained_length cap f, ahead]
    omega
  | next hdropped =>
    simp only [List.length_take, List.length_drop, ahead]
    omega

/-- No page goes beyond the log. -/
theorem next_le (h : f.Answers cap limit after p) (hf : f.cleared ≤ f.log.length) :
    p.next ≤ f.log.length := by
  have hdropped := dropped_le_length cap hf
  cases h with
  | first =>
    simp only [List.length_take, retained_length cap f]
    omega
  | next _ hle =>
    simp only [List.length_take, List.length_drop]
    omega

/-- The entries of a page are entries of the log, in its order. -/
theorem entries_sublist (h : f.Answers cap limit after p) : p.entries.Sublist f.log := by
  cases h with
  | first =>
    rw [retained_eq]
    exact (List.take_sublist _ _).trans (List.drop_sublist _ _)
  | next => exact (List.take_sublist _ _).trans (List.drop_sublist _ _)

/-- A page says that there is more when it cannot bring everything. -/
theorem more_eq (h : f.Answers cap limit after p) (hle : after ≤ f.log.length) :
    p.more = decide (limit < f.ahead cap after) := by
  cases h with
  | first hreason =>
    simp only [retained_length cap f, ahead]
    congr 2
    omega
  | next hdropped =>
    simp only [List.length_drop, ahead]
    congr 2
    omega

/-- Each page brings a reader closer by the size of the page. -/
theorem ahead_next (h : f.Answers cap limit after p) (hle : after ≤ f.log.length) :
    f.ahead cap p.next = f.ahead cap after - limit := by
  have hnext := h.next_eq hle
  unfold ahead at hnext ⊢
  omega

/-- While there is more, the number goes up. -/
theorem lt_next (h : f.Answers cap limit after p) (hle : after ≤ f.log.length)
    (hlimit : 0 < limit) (hmore : p.more = true) :
    after < p.next := by
  have hnext := h.next_eq hle
  have hahead := of_decide_eq_true ((h.more_eq hle).symm.trans hmore)
  omega

/-- When nothing is left, the reader is up to date. -/
theorem next_eq_length (h : f.Answers cap limit after p) (hle : after ≤ f.log.length)
    (hf : f.cleared ≤ f.log.length) (hmore : p.more = false) : p.next = f.log.length := by
  have hnext := h.next_eq hle
  have hahead := of_decide_eq_false ((h.more_eq hle).symm.trans hmore)
  have hdropped := dropped_le_length cap hf
  unfold ahead at hnext hahead
  omega

end Answers

theorem ahead_le (cap : ℕ) (f : Feed α) (after : ℕ) : f.ahead cap after ≤ cap := by
  unfold ahead dropped
  omega

/-- A reader whose page leaves nothing more holds what the feed retains. -/
theorem Follows.up_to_date (h : f.Follows cap x) (hf : f.cleared ≤ f.log.length)
    (hp : f.Answers cap limit x.cursor p) (hmore : p.more = false) :
    (merge cap x p).history = f.retained cap :=
  (h.page hf hp).retained (hp.next_eq_length h.cursor_le hf hmore)

end Feed

end C2Lab
