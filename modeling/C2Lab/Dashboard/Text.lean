import C2Lab.Dashboard.Values
import C2Lab.Python.Str

/-! Texts as JavaScript and as Python read them.

    A text arrives at the Teamserver with the code points it has in the dashboard. The two languages
    take different characters for whitespace, but where they differ the character is a control
    character, which the dashboard does not accept in a text, or the dashboard trims more. -/

namespace C2Lab

/-! ### General categories -/

/-- The general categories of Unicode. -/
inductive GeneralCategory where
  | lu | ll | lt | lm | lo | mn | mc | me | nd | nl | no | pc | pd | ps | pe | pi | pf | po
  | sm | sc | sk | so | zs | zl | zp | cc | cf | cs | co | cn
  deriving DecidableEq

/-- `[\p{Cc}\p{Cf}\p{Cs}\p{Co}\p{Cn}\p{Zl}\p{Zp}\p{Zs}]`. -/
def GeneralCategory.unsupported : GeneralCategory → Bool
  | .cc | .cf | .cs | .co | .cn | .zl | .zp | .zs => true
  | _ => false

/-- A version of the Unicode character database; the control characters and the surrogates are the
    same in all of them. -/
structure UnicodeData where
  category : ℕ → GeneralCategory
  category_control : ∀ c, c ≤ 0x1F ∨ (0x7F ≤ c ∧ c ≤ 0x9F) → category c = .cc
  category_surrogate : ∀ c, isSurrogate c = true → category c = .cs

/-- `str.isprintable` for one code point: no separator and none of the others, but the space. -/
def UnicodeData.isprintable (unicode : UnicodeData) (c : ℕ) : Bool :=
  c == 0x20 || !(unicode.category c).unsupported

/-! ### Strings of JavaScript -/

/-- What `String.prototype.trim` removes: white space and line terminators. -/
def isWhiteSpace (c : ℕ) : Bool :=
  (0x09 ≤ c && c ≤ 0x0D) || c == 0x20 || c == 0xA0 || c == 0x1680 || (0x2000 ≤ c && c ≤ 0x200A) ||
    c == 0x2028 || c == 0x2029 || c == 0x202F || c == 0x205F || c == 0x3000 || c == 0xFEFF

/-- Two units that are the surrogate pair of one code point. -/
def isPair (u v : UInt16) : Bool :=
  0xD800 ≤ u.toNat && u.toNat ≤ 0xDBFF && 0xDC00 ≤ v.toNat && v.toNat ≤ 0xDFFF

/-- The code point of a surrogate pair. -/
def pairCode (u v : UInt16) : ℕ := 0x10000 + (u.toNat - 0xD800) * 0x400 + (v.toNat - 0xDC00)

/-- The elements of `Array.from(s)`; a surrogate without its partner is one of them. -/
def codePoints : List UInt16 → List ℕ
  | [] => []
  | [u] => [u.toNat]
  | u :: v :: rest =>
    if isPair u v then pairCode u v :: codePoints rest else u.toNat :: codePoints (v :: rest)

namespace JsString

/-- `s.trim()`. -/
def trim (s : JsString) : JsString := ⟨stripList (fun u => isWhiteSpace u.toNat) s.units⟩

/-- `unicodeLength`. -/
def unicodeLength (s : JsString) : ℕ := (codePoints s.units).length

/-- `hasSupportedTextCharacters`. -/
def hasSupportedTextCharacters (unicode : UnicodeData) (s : JsString) : Bool :=
  (codePoints s.units).all fun c =>
    c == 0x0A || c == 0x09 || c == 0x20 || !(unicode.category c).unsupported

/-- The string as `json.loads` reads it from what `JSON.stringify` wrote. -/
def toPy (s : JsString) : PyStr := .ofCodes (codePoints s.units)

theorem trim_idem (s : JsString) : s.trim.trim = s.trim := by simp [trim, stripList_idem]

theorem head?_trim {s : JsString} {u : UInt16} (h : s.trim.units.head? = some u) :
    isWhiteSpace u.toNat = false :=
  head?_stripList (p := fun u : UInt16 => isWhiteSpace u.toNat) h

theorem getLast?_trim {s : JsString} {u : UInt16} (h : s.trim.units.getLast? = some u) :
    isWhiteSpace u.toNat = false :=
  getLast?_stripList (p := fun u : UInt16 => isWhiteSpace u.toNat) h

end JsString

/-! ### Code points -/

theorem pairCode_bounds {u v : UInt16} (h : isPair u v = true) :
    0x10000 ≤ pairCode u v ∧ pairCode u v < 0x110000 := by
  simp only [isPair, Bool.and_eq_true, decide_eq_true_eq] at h
  unfold pairCode
  omega

theorem codePoints_lt {us : List UInt16} : ∀ c ∈ codePoints us, c < 0x110000 := by
  fun_induction codePoints us with
  | case1 => simp
  | case2 u => simpa using u.toNat_lt.trans (by decide)
  | case3 u v rest hpair ih =>
    rw [List.forall_mem_cons]
    exact ⟨(pairCode_bounds hpair).2, ih⟩
  | case4 u v rest hpair ih =>
    rw [List.forall_mem_cons]
    exact ⟨u.toNat_lt.trans (by decide), ih⟩

/-- A first code point that is no pair is the first unit. -/
theorem head?_codePoints {us : List UInt16} {c : ℕ} (h : (codePoints us).head? = some c)
    (hc : c < 0x10000) : ∃ u, us.head? = some u ∧ u.toNat = c := by
  fun_cases codePoints us with
  | case1 => simp [codePoints] at h
  | case2 u => exact ⟨u, rfl, by simpa [codePoints] using h⟩
  | case3 u v rest hpair =>
    rw [codePoints, if_pos hpair, List.head?_cons, Option.some.injEq] at h
    exact absurd (h ▸ (pairCode_bounds hpair).1) (Nat.not_le.mpr hc)
  | case4 u v rest hpair =>
    rw [codePoints, if_neg hpair, List.head?_cons, Option.some.injEq] at h
    exact ⟨u, rfl, h⟩

/-- A last code point that is no pair is the last unit. -/
theorem getLast?_codePoints {us : List UInt16} {c : ℕ} (h : (codePoints us).getLast? = some c)
    (hc : c < 0x10000) : ∃ u, us.getLast? = some u ∧ u.toNat = c := by
  fun_induction codePoints us with
  | case1 => simp at h
  | case2 u => exact ⟨u, rfl, by simpa using h⟩
  | case3 u v rest hpair ih =>
    rw [List.getLast?_cons] at h
    cases hlast : (codePoints rest).getLast? with
    | none =>
      rw [hlast, Option.getD_none, Option.some.injEq] at h
      exact absurd (h ▸ (pairCode_bounds hpair).1) (Nat.not_le.mpr hc)
    | some d =>
      rw [hlast] at h
      obtain ⟨w, hw, rfl⟩ := ih (by simpa [hlast] using h)
      exact ⟨w, by simp [List.getLast?_cons, hw], rfl⟩
  | case4 u v rest hpair ih =>
    have hne : (codePoints (v :: rest)).getLast? ≠ none := by
      rw [Ne, List.getLast?_eq_none_iff]
      cases rest with
      | nil => simp [codePoints]
      | cons w rest =>
        rw [codePoints]
        split <;> simp
    rw [List.getLast?_cons] at h
    obtain ⟨d, hd⟩ := Option.ne_none_iff_exists'.mp hne
    rw [hd] at h
    obtain ⟨w, hw, rfl⟩ := ih (by simpa [hd] using h)
    exact ⟨w, by rw [List.getLast?_cons_cons, hw], rfl⟩

theorem toNat_ofNat_lt {n : ℕ} (h : n < 0x10000) : (UInt16.ofNat n).toNat = n :=
  UInt16.toNat_ofNat_of_lt h

theorem pairCode_eq {u v : UInt16} {n : ℕ} (hu : u.toNat = 0xD800 + n / 0x400)
    (hv : v.toNat = 0xDC00 + n % 0x400) : pairCode u v = 0x10000 + n := by
  unfold pairCode
  omega

theorem codePoints_unitsOf (c : Char) (rest : List UInt16) :
    codePoints (JsString.unitsOf c ++ rest) = c.toNat :: codePoints rest := by
  have hvalid : c.toNat < 0xD800 ∨ 0xDFFF < c.toNat ∧ c.toNat < 0x110000 := c.valid
  unfold JsString.unitsOf
  split
  · have hu : (UInt16.ofNat c.toNat).toNat = c.toNat := toNat_ofNat_lt (by omega)
    cases rest with
    | nil => simp [codePoints, hu]
    | cons v rest =>
      have hpair : ¬isPair (.ofNat c.toNat) v = true := by
        simp only [isPair, hu, Bool.and_eq_true, decide_eq_true_eq]
        omega
      rw [List.singleton_append, codePoints, if_neg hpair, hu]
  · have hhigh : (UInt16.ofNat (0xD800 + (c.toNat - 0x10000) / 0x400)).toNat =
        0xD800 + (c.toNat - 0x10000) / 0x400 := toNat_ofNat_lt (by omega)
    have hlow : (UInt16.ofNat (0xDC00 + (c.toNat - 0x10000) % 0x400)).toNat =
        0xDC00 + (c.toNat - 0x10000) % 0x400 := toNat_ofNat_lt (by omega)
    have hpair : isPair (.ofNat (0xD800 + (c.toNat - 0x10000) / 0x400))
        (.ofNat (0xDC00 + (c.toNat - 0x10000) % 0x400)) = true := by
      simp only [isPair, hhigh, hlow, Bool.and_eq_true, decide_eq_true_eq]
      omega
    rw [List.cons_append, List.singleton_append, codePoints, if_pos hpair, pairCode_eq hhigh hlow,
      Nat.add_sub_cancel' (by omega)]

/-- A literal reads as itself. -/
theorem codePoints_ofString (s : String) :
    codePoints (JsString.ofString s).units = s.toList.map Char.toNat := by
  have hlist : ∀ l : List Char, codePoints (l.flatMap JsString.unitsOf) = l.map Char.toNat := by
    intro l
    induction l with
    | nil => rfl
    | cons c l ih => rw [List.flatMap_cons, codePoints_unitsOf, ih, List.map_cons]
  exact hlist s.toList

theorem toPy_ofString (s : String) : (JsString.ofString s).toPy = .text s := by
  have hsurrogate : ¬(s.toList.map Char.toNat).any isSurrogate = true := by
    rw [List.any_map, List.any_eq_true]
    rintro ⟨c, -, hc⟩
    have hvalid : c.toNat < 0xD800 ∨ 0xDFFF < c.toNat ∧ c.toNat < 0x110000 := c.valid
    simp only [Function.comp_apply, isSurrogate, Bool.and_eq_true, decide_eq_true_eq] at hc
    omega
  rw [JsString.toPy, codePoints_ofString, PyStr.ofCodes, dif_neg hsurrogate, List.map_map]
  simp [Function.comp_def]

/-! ### Texts that both accept -/

section
variable {unicode : UnicodeData} {s : JsString}

theorem not_isSurrogate (h : s.hasSupportedTextCharacters unicode = true) {c : ℕ}
    (hc : c ∈ codePoints s.units) : ¬isSurrogate c = true := by
  intro hsurrogate
  have hsupported := List.all_eq_true.mp h c hc
  rw [unicode.category_surrogate c hsurrogate] at hsupported
  simp only [isSurrogate, Bool.and_eq_true, decide_eq_true_eq] at hsurrogate
  simp only [GeneralCategory.unsupported, Bool.not_true, Bool.or_false, Bool.or_eq_true,
    beq_iff_eq] at hsupported
  omega

/-- Python reads a supported text as a text of scalar values. -/
theorem toPy_supported (h : s.hasSupportedTextCharacters unicode = true) :
    s.toPy = .text (String.ofList ((codePoints s.units).map Char.ofNat)) := by
  refine dif_neg fun hany => ?_
  obtain ⟨c, hc, hsurrogate⟩ := List.any_eq_true.mp hany
  exact not_isSurrogate h hc hsurrogate

theorem toNat_ofNat_supported (h : s.hasSupportedTextCharacters unicode = true) {c : ℕ}
    (hc : c ∈ codePoints s.units) : (Char.ofNat c).toNat = c := by
  have hbound := codePoints_lt c hc
  have hsurrogate := not_isSurrogate h hc
  simp only [isSurrogate, Bool.and_eq_true, decide_eq_true_eq] at hsurrogate
  have hvalid : c.isValidChar := by
    unfold Nat.isValidChar
    omega
  rw [Char.ofNat, dif_pos hvalid]
  rfl

/-- Whitespace of Python that the dashboard supports is whitespace of JavaScript too. -/
theorem isWhiteSpace_of_isspace {c : ℕ}
    (h : (c == 0x0A || c == 0x09 || c == 0x20 || !(unicode.category c).unsupported) = true)
    (hc : isspace c = true) : isWhiteSpace c = true ∧ c < 0x10000 := by
  by_cases hcontrol : c ≤ 0x1F ∨ (0x7F ≤ c ∧ c ≤ 0x9F)
  · rw [unicode.category_control c hcontrol] at h
    simp only [GeneralCategory.unsupported, Bool.not_true, Bool.or_false, Bool.or_eq_true,
      beq_iff_eq] at h
    simp only [isWhiteSpace, Bool.or_eq_true, Bool.and_eq_true, beq_iff_eq, decide_eq_true_eq]
    omega
  · simp only [isspace, Bool.or_eq_true, Bool.and_eq_true, beq_iff_eq, decide_eq_true_eq] at hc
    simp only [isWhiteSpace, Bool.or_eq_true, Bool.and_eq_true, beq_iff_eq, decide_eq_true_eq]
    omega

/-- An end of a text that the dashboard trimmed and supports is no whitespace to Python. -/
theorem isspace_end (h : s.hasSupportedTextCharacters unicode = true) {c : ℕ}
    (hc : c ∈ codePoints s.units)
    (hend : c < 0x10000 → ∃ u : UInt16, isWhiteSpace u.toNat = false ∧ u.toNat = c) :
    isspace (Char.ofNat c).toNat = false := by
  rw [toNat_ofNat_supported h hc, Bool.eq_false_iff]
  intro hspace
  obtain ⟨hwhite, hlt⟩ := isWhiteSpace_of_isspace (List.all_eq_true.mp h c hc) hspace
  obtain ⟨u, hu, rfl⟩ := hend hlt
  rw [hu] at hwhite
  cases hwhite

/-- Python strips nothing from a supported text that the dashboard trimmed. -/
theorem strip_toPy_trim (h : s.trim.hasSupportedTextCharacters unicode = true) :
    s.trim.toPy.strip = s.trim.toPy := by
  rw [toPy_supported h, PyStr.strip, String.toList_ofList, stripList_eq_self]
  · intro a ha
    rw [List.head?_map, Option.map_eq_some_iff] at ha
    obtain ⟨c, hc, rfl⟩ := ha
    refine isspace_end h (List.mem_of_head? hc) fun hlt => ?_
    obtain ⟨u, hu, rfl⟩ := head?_codePoints hc hlt
    exact ⟨u, JsString.head?_trim hu, rfl⟩
  · intro a ha
    rw [List.getLast?_map, Option.map_eq_some_iff] at ha
    obtain ⟨c, hc, rfl⟩ := ha
    refine isspace_end h (List.mem_of_getLast? hc) fun hlt => ?_
    obtain ⟨u, hu, rfl⟩ := getLast?_codePoints hc hlt
    exact ⟨u, JsString.getLast?_trim hu, rfl⟩

/-- Both count its characters alike. -/
theorem len_toPy (h : s.hasSupportedTextCharacters unicode = true) :
    s.toPy.len = s.unicodeLength := by
  rw [toPy_supported h, PyStr.len, PyStr.codes, List.length_map, String.toList_ofList,
    List.length_map, JsString.unicodeLength]

/-- What the dashboard supports, Python prints. -/
theorem allChars_toPy (h : s.hasSupportedTextCharacters unicode = true) {p : Char → Bool}
    (hp : ∀ c : Char, p c = unicode.isprintable c.toNat) :
    s.toPy.allChars (fun c => p c || c == '\n' || c == '\t') = true := by
  rw [toPy_supported h, PyStr.allChars, String.toList_ofList, List.all_map, List.all_eq_true]
  intro c hc
  have hnat := toNat_ofNat_supported h hc
  have hchar := List.all_eq_true.mp h c hc
  simp only [Function.comp_apply, hp, hnat, UnicodeData.isprintable]
  simp only [Bool.or_eq_true, beq_iff_eq] at hchar ⊢
  rcases hchar with ((rfl | rfl) | rfl) | hsupported
  · exact .inl (.inr rfl)
  · exact .inr rfl
  · exact .inl (.inl (.inl rfl))
  · exact .inl (.inl (.inr hsupported))

end

end C2Lab
