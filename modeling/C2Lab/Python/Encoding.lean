import Mathlib.Data.Nat.Digits.Lemmas
import C2Lab.Python.Exc

/-! Bounds on the encoded size of a document.

    A compact value encodes at every depth, within a bound that adds up over the members of an
    object. -/

namespace C2Lab.Json

/-- The value encodes at every depth to at most `n` bytes. -/
def Compact (v : Json) (n : ℕ) : Prop := ∀ depth, ∃ k ≤ n, v.dumps depth = .ok ⟨k, false⟩

/-- The members encode at every depth to at most `n` bytes. -/
def CompactFields (fields : List (PyStr × Json)) (n : ℕ) : Prop :=
  ∀ depth, ∃ k ≤ n, dumpsFields depth fields = .ok ⟨k, false⟩

theorem compact_bool (b : Bool) : Compact (.bool b) 5 := fun _ =>
  ⟨_, by cases b <;> decide, rfl⟩

theorem charSize_le (c : Char) : charSize c ≤ 6 := by
  unfold charSize
  split
  · omega
  · split
    · omega
    · exact (Char.utf8Size_le_four c).trans (by omega)

theorem sum_charSize_le (l : List Char) : (l.map charSize).sum ≤ 6 * l.length := by
  induction l with
  | nil => simp
  | cons c l ih =>
    have := charSize_le c
    rw [List.map_cons, List.sum_cons, List.length_cons]
    omega

/-- A text of `n` characters. -/
theorem compact_text (s : String) : Compact (.str (.text s)) (2 + 6 * s.length) := fun _ => by
  refine ⟨_, ?_, rfl⟩
  have := sum_charSize_le s.toList
  rw [String.length_toList] at this
  omega

theorem digitCount_le {n k : ℕ} (hk : 0 < k) (h : n < 10 ^ k) : digitCount n ≤ k := by
  unfold digitCount
  rw [max_le_iff]
  exact ⟨hk, (Nat.digits_length_le_iff (b := 10) (by decide) n).mpr h⟩

/-- A natural number of at most `k` digits. -/
theorem compact_nat {n k : ℕ} (hk : 0 < k) (hk' : k ≤ maxStrDigits) (h : n < 10 ^ k) :
    Compact (.int n) k := fun _ => by
  have hd := digitCount_le hk h
  refine ⟨intSize n, ?_, ?_⟩
  · have : ¬((n : ℤ) < 0) := by omega
    simp only [intSize, this, if_false, Int.natAbs_natCast]
    omega
  · rw [dumps, if_pos]
    simp only [Int.natAbs_natCast]
    omega

theorem compact_nil : CompactFields [] 0 := fun _ => ⟨0, le_rfl, rfl⟩

theorem CompactFields.cons {k : String} {v : Json} {fields : List (PyStr × Json)} {a b : ℕ}
    (h : Compact v a) (hs : CompactFields fields b) :
    CompactFields ((.text k, v) :: fields) (1 + (encodeStr k).size + 1 + a + b) := fun depth => by
  obtain ⟨m, hm, hd⟩ := h depth
  obtain ⟨n, hn, hds⟩ := hs depth
  refine ⟨1 + (encodeStr k).size + 1 + m + n, by omega, ?_⟩
  simp only [dumpsFields, hd, hds, bind, Except.bind, pure, Except.pure]
  rfl

/-- An object of compact members has an encoded size. -/
theorem CompactFields.encodedSize {fields : List (PyStr × Json)} {n depth : ℕ}
    (h : CompactFields fields n) (hd : 0 < depth) :
    ∃ k ≤ max 2 (n + 1), (Json.obj fields).encodedSize depth = .ok k := by
  obtain ⟨d, rfl⟩ := Nat.exists_eq_add_one_of_ne_zero hd.ne'
  obtain ⟨k, hk, hdump⟩ := h d
  refine ⟨max 2 (k + 1), by omega, ?_⟩
  simp only [Json.encodedSize, dumps, hdump, bind, Except.bind, pure, Except.pure]
  rfl

/-- A text under the first key is part of the encoding. -/
theorem le_encodedSize {k s : PyStr} {rest : List (PyStr × Json)} {depth n : ℕ}
    (h : (Json.obj ((k, .str s) :: rest)).encodedSize depth = .ok n) : (encodeStr s).size ≤ n := by
  unfold Json.encodedSize at h
  split at h
  · cases h
  · rename_i e he
    cases depth with
    | zero => cases he
    | succ d =>
      obtain ⟨e₁, h₁, he⟩ := bind_eq_ok.mp he
      obtain ⟨e₂, h₂, h₁⟩ := bind_eq_ok.mp h₁
      obtain ⟨e₃, -, h₁⟩ := bind_eq_ok.mp h₁
      cases h₂
      cases h₁
      cases he
      split at h
      · cases h
      · cases h
        simp only [le_max_iff]
        omega

end C2Lab.Json
