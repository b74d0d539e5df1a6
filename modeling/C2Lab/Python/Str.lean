import Mathlib.Data.List.Basic
import Mathlib.Data.Nat.Notation

/-! Python strings.

    A Python `str` is a sequence of code points and may hold lone surrogates, which a Lean `String`
    cannot; `json.loads` produces them from `\ud800`-style escapes. `PyStr` keeps the two cases
    apart: `text` for strings of scalar values, `lone` for the ones that do not encode as UTF-8. -/

namespace C2Lab

/-- A surrogate code point, U+D800 to U+DFFF. -/
def isSurrogate (c : ℕ) : Bool := 0xD800 ≤ c && c ≤ 0xDFFF

/-- `str.isspace` for one code point: what `str.strip` removes. -/
def isspace (c : ℕ) : Bool :=
  (0x09 ≤ c && c ≤ 0x0D) || (0x1C ≤ c && c ≤ 0x20) || c == 0x85 || c == 0xA0 || c == 0x1680 ||
    (0x2000 ≤ c && c ≤ 0x200A) || c == 0x2028 || c == 0x2029 || c == 0x202F || c == 0x205F ||
    c == 0x3000

/-- Drop the elements satisfying `p` from both ends. -/
def stripList {α : Type} (p : α → Bool) (l : List α) : List α :=
  ((l.dropWhile p).reverse.dropWhile p).reverse

section
variable {α : Type} {p : α → Bool}

theorem head?_dropWhile_not (l : List α) (a : α) (h : (l.dropWhile p).head? = some a) :
    p a = false := by
  induction l with
  | nil => simp at h
  | cons b l ih =>
    rw [List.dropWhile_cons] at h
    split at h
    · exact ih h
    · simp_all

theorem dropWhile_eq_self {l : List α} (h : ∀ a, l.head? = some a → p a = false) :
    l.dropWhile p = l := by
  cases l with
  | nil => rfl
  | cons a l => simp [h a rfl]

theorem getLast?_reverse_dropWhile (l : List α) :
    (l.reverse.dropWhile p).reverse = [] ∨
      (l.reverse.dropWhile p).reverse.head? = l.head? := by
  obtain ⟨t, ht⟩ := List.dropWhile_suffix (l := l.reverse) p
  have hl : l = (l.reverse.dropWhile p).reverse ++ t.reverse := by
    rw [← List.reverse_append, ht, List.reverse_reverse]
  cases hr : (l.reverse.dropWhile p).reverse with
  | nil => exact Or.inl rfl
  | cons a r => exact Or.inr (by rw [hl, hr]; rfl)

theorem head?_stripList {l : List α} {a : α} (ha : (stripList p l).head? = some a) :
    p a = false := by
  rcases getLast?_reverse_dropWhile (p := p) (l.dropWhile p) with h | h
  · simp [stripList, h] at ha
  · exact head?_dropWhile_not l a (h ▸ ha)

theorem getLast?_stripList {l : List α} {a : α} (ha : (stripList p l).getLast? = some a) :
    p a = false := by
  rw [stripList, List.getLast?_reverse] at ha
  exact head?_dropWhile_not _ a ha

/-- Nothing is stripped from a list that neither begins nor ends so. -/
theorem stripList_eq_self {l : List α} (hhead : ∀ a, l.head? = some a → p a = false)
    (hlast : ∀ a, l.getLast? = some a → p a = false) : stripList p l = l := by
  rw [stripList, dropWhile_eq_self hhead, dropWhile_eq_self, List.reverse_reverse]
  rwa [List.head?_reverse]

/-- Stripping a stripped list changes nothing. -/
theorem stripList_idem (l : List α) : stripList p (stripList p l) = stripList p l :=
  stripList_eq_self (fun _ => head?_stripList) fun _ => getLast?_stripList

theorem mem_dropWhile_of_not {l : List α} {a : α} (h : a ∈ l) (hp : p a = false) :
    a ∈ l.dropWhile p := by
  induction l with
  | nil => exact h
  | cons b l ih =>
    rw [List.dropWhile_cons]
    split
    · rename_i hb
      rcases List.mem_cons.mp h with rfl | hl
      · simp_all
      · exact ih hl
    · exact h

/-- Stripping keeps every element that is not stripped away. -/
theorem mem_stripList {l : List α} {a : α} (h : a ∈ l) (hp : p a = false) : a ∈ stripList p l :=
  List.mem_reverse.mpr (mem_dropWhile_of_not (List.mem_reverse.mpr (mem_dropWhile_of_not h hp)) hp)

end

/-- A Python `str`. -/
inductive PyStr where
  | text (s : String)
  | lone (codes : List ℕ) (h : codes.any isSurrogate = true)
  deriving DecidableEq

namespace PyStr

instance : Coe String PyStr := ⟨.text⟩

/-- The code points. -/
def codes : PyStr → List ℕ
  | .text s => s.toList.map Char.toNat
  | .lone cs _ => cs

/-- `len(s)`. -/
def len (s : PyStr) : ℕ := s.codes.length

/-- The string with the given code points. -/
def ofCodes (cs : List ℕ) : PyStr :=
  if h : cs.any isSurrogate = true then .lone cs h else .text (String.ofList (cs.map Char.ofNat))

instance : Append PyStr := ⟨fun a b =>
  match a, b with
  | .text s, .text t => .text (s ++ t)
  | a, b => ofCodes (a.codes ++ b.codes)⟩

theorem strip_lone {cs : List ℕ} (h : cs.any isSurrogate = true) :
    (stripList isspace cs).any isSurrogate = true := by
  obtain ⟨c, hc, hs⟩ := List.any_eq_true.mp h
  refine List.any_eq_true.mpr ⟨c, mem_stripList hc ?_, hs⟩
  have hb : 0xD800 ≤ c ∧ c ≤ 0xDFFF := by simpa [isSurrogate] using hs
  simp only [isspace, Bool.or_eq_false_iff, Bool.and_eq_false_iff, decide_eq_false_iff_not,
    beq_eq_false_iff_ne]
  omega

/-- `s.strip()`. -/
def strip : PyStr → PyStr
  | .text s => .text (String.ofList (stripList (fun c => isspace c.toNat) s.toList))
  | .lone cs h => .lone (stripList isspace cs) (strip_lone h)

theorem strip_idem (s : PyStr) : s.strip.strip = s.strip := by
  cases s with
  | text s => simp [strip, stripList_idem]
  | lone cs h => simp [strip, stripList_idem]

/-- `s.encode("utf-8")` succeeds. -/
def encodes : PyStr → Bool
  | .text _ => true
  | .lone _ _ => false

/-- Every character satisfies `p`; a lone surrogate never does. -/
def allChars (p : Char → Bool) : PyStr → Bool
  | .text s => s.toList.all p
  | .lone _ _ => false

/-- `sep.join(parts)`. -/
def join (sep : PyStr) : List PyStr → PyStr
  | [] => .text ""
  | [s] => s
  | s :: rest => s ++ sep ++ join sep rest

end PyStr

end C2Lab
