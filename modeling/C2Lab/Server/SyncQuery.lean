import Mathlib.Algebra.Order.Ring.Nat
import C2Lab.Core.Reads

/-! The query of `/lab/sync`, as `LabRequestHandler._read_sync_query` reads it.

    What `parse_qsl` makes of a query is an argument: its pairs, or `ValueError`. The state of the
    reader is the arguments of `int` so far. A value is in range or its significant digits are too
    many, so the digits are counted before they are converted. -/

namespace C2Lab

def maxSyncQueryLength : ℕ := 256

/-- The members of `SYNC_QUERY_FIELDS`. -/
inductive SyncField where
  | eventsAfter
  | auditAfter
  | limit
  deriving DecidableEq, Repr

instance : Vocabulary SyncField where
  all := [.eventsAfter, .auditAfter, .limit]
  name
    | .eventsAfter => "events_after"
    | .auditAfter => "audit_after"
    | .limit => "limit"
  mem_all a := by cases a <;> simp
  name_inj a b h := by cases a <;> cases b <;> simp_all

namespace SyncField

def minimum : SyncField → ℤ
  | .limit => 1
  | _ => 0

def maximum : SyncField → ℤ
  | .limit => maxSyncPageSize
  | _ => maxSyncCursor

/-- `len(str(maximum))`. -/
def maximumDigits (f : SyncField) : ℕ := digitCount f.maximum.toNat

end SyncField

/-- The values of a query. -/
structure SyncQuery where
  eventsAfter : ℤ := 0
  auditAfter : ℤ := 0
  limit : ℤ := maxSyncPageSize
  deriving DecidableEq

namespace SyncQuery

def get (q : SyncQuery) : SyncField → ℤ
  | .eventsAfter => q.eventsAfter
  | .auditAfter => q.auditAfter
  | .limit => q.limit

/-- `values[field] = n`. -/
def set (q : SyncQuery) (f : SyncField) (n : ℤ) : SyncQuery :=
  match f with
  | .eventsAfter => { q with eventsAfter := n }
  | .auditAfter => { q with auditAfter := n }
  | .limit => { q with limit := n }

@[simp] theorem get_set (q : SyncQuery) (f g : SyncField) (n : ℤ) :
    (q.set f n).get g = if g = f then n else q.get g := by
  cases f <;> cases g <;> rfl

end SyncQuery

/-! ### Decimal digits -/

/-- The number some digits spell after the number before them. -/
def decimalFrom (n : ℕ) (digits : List ℕ) : ℕ :=
  digits.foldl (fun n c => 10 * n + (c - 0x30)) n

/-- What `int(digits, 10)` gives for ASCII digits. -/
def decimalValue (digits : List ℕ) : ℕ := decimalFrom 0 digits

/-- `digits.lstrip("0") or "0"`. -/
def significantDigits (digits : List ℕ) : List ℕ :=
  match digits.dropWhile (· == 0x30) with
  | [] => [0x30]
  | significant => significant

/-- A non-empty string of ASCII digits. -/
def isUnsignedDecimal (s : PyStr) : Bool :=
  s.len != 0 && s.codes.all (fun c => c < 128) && !s.codes.any fun c => c < 0x30 || 0x39 < c

/-! ### The reader -/

/-- A program that logs the arguments of `int`. -/
abbrev QueryReader := EStateM Exc (List (SyncField × List ℕ))

/-- `int(digits, 10)`. -/
def convert (f : SyncField) (digits : List ℕ) : QueryReader ℤ := do
  modify fun conversions => (f, digits) :: conversions
  return decimalValue digits

/-- The checks on one pair. -/
def readPair (seen : List SyncField) (p : PyStr × PyStr) : QueryReader (SyncField × ℤ) :=
  match (Vocabulary.parse (.str p.1) : Option SyncField) with
  | none => throw (invalidRequest "sync query contains unsupported parameters")
  | some f => do
    Prog.require (f ∉ seen) (invalidRequest "sync query parameters must not be repeated")
    Prog.require (isUnsignedDecimal p.2 = true)
      (invalidRequest (Vocabulary.name f ++ " must be an unsigned decimal integer"))
    let significant := significantDigits p.2.codes
    Prog.require (significant.length ≤ f.maximumDigits) (rangeError f)
    let n ← convert f significant
    Prog.require (f.minimum ≤ n ∧ n ≤ f.maximum) (rangeError f)
    return (f, n)
where
  rangeError (f : SyncField) : Exc :=
    invalidRequest (Vocabulary.name f ++ " is outside the supported range")

/-- The loop over the pairs. -/
def readPairs (seen : List SyncField) (values : SyncQuery) :
    List (PyStr × PyStr) → QueryReader SyncQuery
  | [] => return values
  | p :: rest => do
    let (f, n) ← readPair seen p
    readPairs (f :: seen) (values.set f n) rest

/-- `_read_sync_query`. -/
def readSyncQuery (parseQsl : PyStr → Option (List (PyStr × PyStr))) (rawQuery : PyStr) :
    QueryReader SyncQuery := do
  if rawQuery.len = 0 then return {}
  else do
    Prog.require (rawQuery.len ≤ maxSyncQueryLength) (invalidRequest "sync query is too large")
    match parseQsl rawQuery with
    | none => throw (invalidRequest "sync query must contain valid key=value parameters")
    | some pairs => readPairs [] {} pairs

/-! ### Digits and numbers -/

theorem decimalFrom_eq (n : ℕ) (digits : List ℕ) :
    decimalFrom n digits = n * 10 ^ digits.length + decimalValue digits := by
  induction digits generalizing n with
  | nil => simp [decimalFrom, decimalValue]
  | cons c digits ih =>
    have hstep : ∀ k, decimalFrom k (c :: digits) = decimalFrom (10 * k + (c - 0x30)) digits :=
      fun _ => rfl
    rw [decimalValue, hstep n, hstep 0, ih, ih (10 * 0 + (c - 0x30)), List.length_cons, pow_succ]
    ring

/-- Leading zeros do not count. -/
theorem decimalValue_significantDigits (digits : List ℕ) :
    decimalValue (significantDigits digits) = decimalValue digits := by
  induction digits with
  | nil => rfl
  | cons c digits ih =>
    by_cases hc : c = 0x30
    · subst hc
      have hsame : significantDigits (0x30 :: digits) = significantDigits digits := by
        simp [significantDigits]
      rw [hsame, ih]
      rfl
    · simp [significantDigits, hc]

/-- Digits that are more than those of a number spell a larger one. -/
theorem lt_decimalValue {digits : List ℕ} (hdigits : ∀ c ∈ digits, 0x30 ≤ c) {n : ℕ}
    (h : digitCount n < (significantDigits digits).length) : n < decimalValue digits := by
  have hpos : 1 ≤ digitCount n := le_max_left _ _
  rw [← decimalValue_significantDigits]
  unfold significantDigits at h ⊢
  split at h
  · simp at h
    omega
  · rename_i significant hne
    cases hs : digits.dropWhile (· == 0x30) with
    | nil => exact absurd hs hne
    | cons c rest =>
      simp only [hs] at h ⊢
      have hc : c ∈ digits := (List.dropWhile_suffix _).subset (hs ▸ List.mem_cons_self)
      have hnot : (c == 0x30) = false := by
        have := List.head?_dropWhile_not (· == 0x30) digits
        rw [hs] at this
        simpa using this
      have hge := hdigits c hc
      have hlead : 1 ≤ c - 0x30 := by
        have hne : c ≠ 0x30 := by simpa using hnot
        omega
      have hstep : decimalValue (c :: rest) = decimalFrom (c - 0x30) rest := by
        simp [decimalValue, decimalFrom]
      have hlen : (Nat.digits 10 n).length ≤ rest.length := by
        have := le_max_right 1 (Nat.digits 10 n).length
        unfold digitCount at h
        rw [List.length_cons] at h
        omega
      calc n < 10 ^ (Nat.digits 10 n).length := Nat.lt_base_pow_length_digits (by norm_num)
        _ ≤ 10 ^ rest.length := Nat.pow_le_pow_right (by norm_num) hlen
        _ ≤ (c - 0x30) * 10 ^ rest.length := Nat.le_mul_of_pos_left _ hlead
        _ ≤ decimalValue (c :: rest) := by
          rw [hstep, decimalFrom_eq]
          exact Nat.le_add_right _ _

/-! ### The grammar -/

/-- A value of a field: ASCII digits that spell a number within its bounds. -/
structure Permitted (f : SyncField) (value : PyStr) : Prop where
  nonempty : value.codes ≠ []
  digits : ∀ c ∈ value.codes, 0x30 ≤ c ∧ c ≤ 0x39
  range : f.minimum ≤ decimalValue value.codes ∧ (decimalValue value.codes : ℤ) ≤ f.maximum

/-- Known fields, each at most once, with values that are permitted. -/
structure SyncGrammar (pairs : List (PyStr × PyStr)) : Prop where
  known : ∀ p ∈ pairs, ∃ f : SyncField, p.1 = Vocabulary.name f
  once : (pairs.map Prod.fst).Nodup
  permitted : ∀ p ∈ pairs, ∀ f : SyncField, p.1 = Vocabulary.name f → Permitted f p.2

/-- The number some pairs give a field, or else the one it has. -/
def valueOf (pairs : List (PyStr × PyStr)) (f : SyncField) (n : ℤ) : ℤ :=
  match pairs.find? (·.1 = PyStr.text (Vocabulary.name f)) with
  | some p => decimalValue p.2.codes
  | none => n

/-- No conversion had more digits than the maximum of its field. -/
def Short (conversions : List (SyncField × List ℕ)) : Prop :=
  ∀ c ∈ conversions, c.2.length ≤ c.1.maximumDigits

variable {seen : List SyncField} {f : SyncField} {p : PyStr × PyStr} {q : SyncQuery}
  {pairs : List (PyStr × PyStr)} {conversions : List (SyncField × List ℕ)}

theorem isUnsignedDecimal_iff {s : PyStr} :
    isUnsignedDecimal s = true ↔ s.codes ≠ [] ∧ ∀ c ∈ s.codes, 0x30 ≤ c ∧ c ≤ 0x39 := by
  simp only [isUnsignedDecimal, PyStr.len, Bool.and_eq_true, bne_iff_ne, ne_eq,
    List.length_eq_zero_iff, List.all_eq_true, decide_eq_true_eq, Bool.not_eq_true',
    List.any_eq_false, Bool.or_eq_true, not_or, not_lt]
  constructor
  · exact fun h => ⟨h.1.1, h.2⟩
  · exact fun h => ⟨⟨h.1, fun c hc => by have := h.2 c hc; omega⟩, h.2⟩

/-- A permitted value has no more significant digits than the maximum. -/
theorem Permitted.short {value : PyStr} (h : Permitted f value) :
    (significantDigits value.codes).length ≤ f.maximumDigits := by
  by_contra hlong
  have hlt := lt_decimalValue (fun c hc => (h.digits c hc).1) (not_le.mp hlong)
  have hmax := h.range.2
  omega

/-- A pair the reader takes: a known field that was not seen, with a permitted value. -/
def Taken (seen : List SyncField) (p : PyStr × PyStr) (f : SyncField) : Prop :=
  p.1 = Vocabulary.name f ∧ f ∉ seen ∧ Permitted f p.2

theorem readPair_wp (hshort : Short conversions) :
    Prog.wp (readPair seen p)
      (fun r t => Short t ∧ Taken seen p r.1 ∧ r.2 = decimalValue p.2.codes)
      (fun e t => Short t ∧ (∃ l, e = .lab l) ∧ ∀ f, ¬ Taken seen p f) conversions := by
  unfold readPair
  cases hparse : (Vocabulary.parse (.str p.1) : Option SyncField) with
  | none =>
    refine ⟨hshort, ⟨_, rfl⟩, fun f hf => ?_⟩
    have hname : Vocabulary.parse (.str p.1) = some f := Vocabulary.parse_eq_some.mpr (by
      rw [hf.1]; rfl)
    rw [hname] at hparse
    cases hparse
  | some f =>
    have hname : p.1 = Vocabulary.name f := Json.str.inj (Vocabulary.parse_isSome_str hparse)
    have hsame : ∀ g, Taken seen p g → g = f := fun g hg =>
      Vocabulary.name_inj (PyStr.text.inj (hg.1.symm.trans hname))
    simp only [Prog.wp_bind, Prog.wp_require, convert, Prog.wp_modify, Prog.wp_pure]
    refine ⟨fun hfresh => ⟨fun hdigits => ⟨fun hlength => ⟨fun hrange => ?_, fun hrange => ?_⟩,
      fun hlength => ?_⟩, fun hdigits => ?_⟩, fun hseen => ?_⟩
    · rw [decimalValue_significantDigits] at hrange
      obtain ⟨hne, hall⟩ := isUnsignedDecimal_iff.mp hdigits
      refine ⟨List.forall_mem_cons.mpr ⟨hlength, hshort⟩, ⟨hname, hfresh, hne, hall, hrange⟩, ?_⟩
      rw [decimalValue_significantDigits]
    · refine ⟨List.forall_mem_cons.mpr ⟨hlength, hshort⟩, ⟨_, rfl⟩, fun g hg => hrange ?_⟩
      rw [decimalValue_significantDigits]
      exact hsame g hg ▸ hg.2.2.range
    · exact ⟨hshort, ⟨_, rfl⟩, fun g hg => hlength (hsame g hg ▸ hg.2.2.short)⟩
    · refine ⟨hshort, ⟨_, rfl⟩, fun g hg => hdigits ?_⟩
      exact isUnsignedDecimal_iff.mpr ⟨hg.2.2.nonempty, hg.2.2.digits⟩
    · exact ⟨hshort, ⟨_, rfl⟩, fun g hg => hseen (hsame g hg ▸ hg.2.1)⟩

/-- The grammar, pair by pair: none of the pairs has a field that was seen before. -/
def Remaining (seen : List SyncField) (pairs : List (PyStr × PyStr)) : Prop :=
  SyncGrammar pairs ∧ ∀ p ∈ pairs, ∀ f ∈ seen, p.1 ≠ Vocabulary.name f

theorem remaining_cons :
    Remaining seen (p :: pairs) ↔ ∃ f, Taken seen p f ∧ Remaining (f :: seen) pairs := by
  constructor
  · rintro ⟨h, hseen⟩
    obtain ⟨f, hf⟩ := h.known p List.mem_cons_self
    have honce := h.once
    rw [List.map_cons, List.nodup_cons] at honce
    refine ⟨f, ⟨hf, fun hmem => hseen p List.mem_cons_self f hmem hf,
      h.permitted p List.mem_cons_self f hf⟩,
      ⟨fun r hr => h.known r (List.mem_cons_of_mem _ hr), honce.2,
        fun r hr => h.permitted r (List.mem_cons_of_mem _ hr)⟩, fun r hr g hg heq => ?_⟩
    rcases List.mem_cons.mp hg with rfl | hg
    · exact honce.1 (hf.trans heq.symm ▸ List.mem_map_of_mem hr)
    · exact hseen r (List.mem_cons_of_mem _ hr) g hg heq
  · rintro ⟨f, ⟨hf, hfresh, hpermitted⟩, h, hseen⟩
    refine ⟨⟨?_, ?_, ?_⟩, ?_⟩
    · exact List.forall_mem_cons.mpr ⟨⟨f, hf⟩, h.known⟩
    · rw [List.map_cons, List.nodup_cons]
      refine ⟨fun hmem => ?_, h.once⟩
      obtain ⟨r, hr, heq⟩ := List.mem_map.mp hmem
      exact hseen r hr f List.mem_cons_self (heq.trans hf)
    · refine List.forall_mem_cons.mpr ⟨fun g hg => ?_, h.permitted⟩
      exact Vocabulary.name_inj (PyStr.text.inj (hf.symm.trans hg)) ▸ hpermitted
    · refine List.forall_mem_cons.mpr ⟨fun g hg heq => ?_, fun r hr g hg =>
        hseen r hr g (List.mem_cons_of_mem _ hg)⟩
      exact hfresh (Vocabulary.name_inj (PyStr.text.inj (hf.symm.trans heq)) ▸ hg)

theorem valueOf_of_seen {n : ℤ} (h : Remaining seen pairs) (hf : f ∈ seen) :
    valueOf pairs f n = n := by
  have hnone : pairs.find? (·.1 = PyStr.text (Vocabulary.name f)) = none :=
    List.find?_eq_none.mpr fun p hp => by simpa using h.2 p hp f hf
  rw [valueOf, hnone]

/-- The loop takes what the grammar allows, and fails on anything else. -/
theorem readPairs_wp (hshort : Short conversions) :
    Prog.wp (readPairs seen q pairs)
      (fun r t => Short t ∧ Remaining seen pairs ∧ ∀ f, r.get f = valueOf pairs f (q.get f))
      (fun e t => Short t ∧ (∃ l, e = .lab l) ∧ ¬ Remaining seen pairs) conversions := by
  induction pairs generalizing seen q conversions with
  | nil => exact ⟨hshort, ⟨⟨by simp, by simp, by simp⟩, by simp⟩, fun _ => rfl⟩
  | cons p pairs ih =>
    rw [readPairs]
    refine (Prog.wp_bind _ _).mpr (Prog.wp_mono (readPair_wp hshort) ?_ ?_)
    · rintro ⟨f, n⟩ t ⟨ht, htaken, rfl⟩
      refine Prog.wp_mono (ih ht) ?_ ?_
      · rintro r u ⟨hu, hrest, hr⟩
        refine ⟨hu, remaining_cons.mpr ⟨f, htaken, hrest⟩, fun g => ?_⟩
        rw [hr, SyncQuery.get_set]
        split
        · rename_i heq
          subst heq
          rw [valueOf_of_seen hrest List.mem_cons_self]
          simp [valueOf, htaken.1]
        · rename_i hne
          have hother : p.1 ≠ Vocabulary.name g := fun heq =>
            hne (Vocabulary.name_inj (PyStr.text.inj (heq.symm.trans htaken.1)))
          simp [valueOf, hother]
      · rintro e u ⟨hu, he, hrest⟩
        refine ⟨hu, he, fun h => hrest ?_⟩
        obtain ⟨g, hg, hrest'⟩ := remaining_cons.mp h
        have hsame : g = f := Vocabulary.name_inj (PyStr.text.inj (hg.1.symm.trans htaken.1))
        exact hsame ▸ hrest'
    · rintro e t ⟨ht, he, hnone⟩
      refine ⟨ht, he, fun h => ?_⟩
      obtain ⟨f, hf, -⟩ := remaining_cons.mp h
      exact hnone f hf

/-! ### What is accepted -/

/-- The values of a query that follows the grammar. -/
structure ReadsAs (parseQsl : PyStr → Option (List (PyStr × PyStr))) (rawQuery : PyStr)
    (q : SyncQuery) : Prop where
  short : rawQuery.len ≤ maxSyncQueryLength
  parsed : ∃ pairs, parseQsl rawQuery = some pairs ∧ SyncGrammar pairs ∧
    ∀ f, q.get f = valueOf pairs f (({} : SyncQuery).get f)

theorem readSyncQuery_wp (parseQsl : PyStr → Option (List (PyStr × PyStr))) {rawQuery : PyStr}
    (hne : rawQuery.len ≠ 0) :
    Prog.wp (readSyncQuery parseQsl rawQuery)
      (fun q t => Short t ∧ ReadsAs parseQsl rawQuery q)
      (fun e t => Short t ∧ (∃ l, e = .lab l) ∧ ∀ q, ¬ ReadsAs parseQsl rawQuery q) [] := by
  have hshort : Short [] := by simp [Short]
  unfold readSyncQuery
  rw [if_neg hne]
  simp only [Prog.wp_bind, Prog.wp_require]
  refine ⟨fun hlength => ?_, fun hlength => ⟨hshort, ⟨_, rfl⟩, fun q h => hlength h.short⟩⟩
  cases hparsed : parseQsl rawQuery with
  | none =>
    refine ⟨hshort, ⟨_, rfl⟩, fun q h => ?_⟩
    obtain ⟨pairs, hsome, -⟩ := h.parsed
    rw [hparsed] at hsome
    cases hsome
  | some pairs =>
    refine Prog.wp_mono (readPairs_wp hshort) ?_ ?_
    · rintro q t ⟨ht, hgrammar, hq⟩
      exact ⟨ht, hlength, pairs, hparsed, hgrammar.1, hq⟩
    · rintro e t ⟨ht, he, hnot⟩
      refine ⟨ht, he, fun q h => ?_⟩
      obtain ⟨pairs', hsome, hgrammar, -⟩ := h.parsed
      rw [hparsed, Option.some.injEq] at hsome
      exact hnot ⟨hsome ▸ hgrammar, by simp⟩

theorem SyncQuery.ext_get {q r : SyncQuery} (h : ∀ f, q.get f = r.get f) : q = r := by
  have he := h .eventsAfter
  have ha := h .auditAfter
  have hl := h .limit
  cases q
  cases r
  simp only [SyncQuery.get] at he ha hl
  subst he ha hl
  rfl

/-- Every field of a query that was read is within its bounds. -/
theorem ReadsAs.range {parseQsl : PyStr → Option (List (PyStr × PyStr))} {rawQuery : PyStr}
    (h : ReadsAs parseQsl rawQuery q) (f : SyncField) :
    f.minimum ≤ q.get f ∧ q.get f ≤ f.maximum := by
  obtain ⟨pairs, -, hgrammar, hq⟩ := h.parsed
  rw [hq, valueOf]
  cases hfind : pairs.find? (·.1 = PyStr.text (Vocabulary.name f)) with
  | none => cases f <;> decide
  | some p =>
    have hname : p.1 = Vocabulary.name f := by simpa using List.find?_some hfind
    exact (hgrammar.permitted p (List.mem_of_find?_eq_some hfind) f hname).range

/-- `LabState.sync` takes values within the bounds. -/
theorem sync_of_range (hq : ∀ f, f.minimum ≤ q.get f ∧ q.get f ≤ f.maximum)
    (generatedAt : Timestamp) (s : LabState) :
    ∃ page, LabState.sync generatedAt (.int q.eventsAfter) (.int q.auditAfter) (.int q.limit) s =
      .ok page := by
  have he : 0 ≤ q.eventsAfter ∧ q.eventsAfter ≤ maxSyncCursor := hq .eventsAfter
  have ha : 0 ≤ q.auditAfter ∧ q.auditAfter ≤ maxSyncCursor := hq .auditAfter
  have hl : 1 ≤ q.limit ∧ q.limit ≤ maxSyncPageSize := hq .limit
  unfold LabState.sync
  simp only [validateSyncCursor, validateSyncLimit, if_pos he, if_pos ha, if_pos hl]
  exact ⟨_, rfl⟩

/-- The empty query reads as the defaults. Any other reads as exactly the values of its grammar,
    which `sync` takes, or raises `LabError`; and `int` is never given more digits than the maximum
    of the field has. -/
theorem sync_query_grammar (parseQsl : PyStr → Option (List (PyStr × PyStr))) (rawQuery : PyStr) :
    (rawQuery.len = 0 → readSyncQuery parseQsl rawQuery [] = .ok {} []) ∧
    (rawQuery.len ≠ 0 → ∀ q, (∃ t, readSyncQuery parseQsl rawQuery [] = .ok q t) ↔
      ReadsAs parseQsl rawQuery q) ∧
    (∀ q t, readSyncQuery parseQsl rawQuery [] = .ok q t → ∀ generatedAt (s : LabState),
      ∃ page, LabState.sync generatedAt (.int q.eventsAfter) (.int q.auditAfter) (.int q.limit) s =
        .ok page) ∧
    (∀ e t, readSyncQuery parseQsl rawQuery [] = .error e t → ∃ l, e = .lab l) ∧
    Short (Prog.final (readSyncQuery parseQsl rawQuery) []) := by
  have hempty : rawQuery.len = 0 → readSyncQuery parseQsl rawQuery [] = .ok {} [] := by
    intro h
    unfold readSyncQuery
    rw [if_pos h]
    rfl
  by_cases hne : rawQuery.len = 0
  · have hrun := hempty hne
    refine ⟨hempty, fun h => absurd hne h, ?_, ?_, ?_⟩
    · intro q t hq
      rw [hrun] at hq
      cases hq
      exact sync_of_range fun f => by cases f <;> decide
    · intro e t he
      rw [hrun] at he
      cases he
    · rw [Prog.final, hrun]
      simp [Short]
  · have hwp := readSyncQuery_wp parseQsl hne
    unfold Prog.wp at hwp
    unfold Prog.final
    cases hrun : readSyncQuery parseQsl rawQuery [] with
    | ok q t =>
      rw [hrun] at hwp
      refine ⟨fun h => absurd h hne, fun _ r => ⟨?_, fun hr => ⟨t, ?_⟩⟩, ?_, ?_, hwp.1⟩
      · rintro ⟨u, hu⟩
        cases hu
        exact hwp.2
      · obtain ⟨pairs, hp, -, hq⟩ := hwp.2.parsed
        obtain ⟨pairs', hp', -, hr'⟩ := hr.parsed
        rw [hp, Option.some.injEq] at hp'
        rw [SyncQuery.ext_get fun f => (hq f).trans (hp' ▸ (hr' f).symm)]
      · intro r u hu
        cases hu
        exact sync_of_range hwp.2.range
      · intro e u hu
        cases hu
    | error e t =>
      rw [hrun] at hwp
      refine ⟨fun h => absurd h hne, fun _ r => ⟨?_, fun hr => (hwp.2.2 r hr).elim⟩, ?_, ?_, hwp.1⟩
      · rintro ⟨u, hu⟩
        cases hu
      · intro r u hu
        cases hu
      · intro e' u hu
        cases hu
        exact hwp.2.1

end C2Lab
