import C2Lab.Failure

/-! What the Teamserver stores of a result it accepts.

    Every contract returns what was sent, up to the order of the keys, but for one text: the version
    of a `RUNTIME_STATUS` result is stored without the whitespace around it. -/

namespace C2Lab

variable {py : Interp} {fields : List (PyStr × Json)}

/-! ### Values that equal themselves -/

mutual
/-- A value the encoder takes holds no `NaN`, so it equals itself. -/
theorem same_of_dumps {depth : ℕ} : ∀ {v : Json} {e : Json.Encoded}, v.dumps depth = .ok e →
    Same v v
  | .null, _, _ => .null
  | .bool b, _, _ => .bool b
  | .int n, _, _ => .int n
  | .str s, _, _ => .str s
  | .float (.finite d), _, _ => .float (by simp [PyFloat.eq])
  | .float .nan, _, h | .float (.inf _), _, h => by cases h
  | .arr xs, e, h => by
    cases depth with
    | zero => cases h
    | succ d =>
      obtain ⟨e', he, -⟩ := bind_eq_ok.mp h
      refine .arr rfl fun i x y hx hy => ?_
      obtain rfl := Option.some.inj (hx.symm.trans hy)
      exact same_of_dumpsList he _ (List.mem_of_getElem? hx)
  | .obj fields, e, h => by
    cases depth with
    | zero => cases h
    | succ d =>
      obtain ⟨e', he, -⟩ := bind_eq_ok.mp h
      refine .obj (fun _ => rfl) fun k x y hx hy => ?_
      obtain rfl := Option.some.inj (hx.symm.trans hy)
      exact same_of_dumpsFields he _ (lookup_mem hx)
theorem same_of_dumpsList {depth : ℕ} : ∀ {xs : List Json} {e : Json.Encoded},
    Json.dumpsList depth xs = .ok e → ∀ x ∈ xs, Same x x
  | [], _, _ => by simp
  | x :: xs, e, h => by
    obtain ⟨e₁, h₁, h⟩ := bind_eq_ok.mp h
    obtain ⟨e₂, h₂, -⟩ := bind_eq_ok.mp h
    exact List.forall_mem_cons.mpr ⟨same_of_dumps h₁, same_of_dumpsList h₂⟩
theorem same_of_dumpsFields {depth : ℕ} : ∀ {fs : List (PyStr × Json)} {e : Json.Encoded},
    Json.dumpsFields depth fs = .ok e → ∀ p ∈ fs, Same p.2 p.2
  | [], _, _ => by simp
  | (k, x) :: fs, e, h => by
    obtain ⟨e₁, h₁, h⟩ := bind_eq_ok.mp h
    obtain ⟨e₂, h₂, -⟩ := bind_eq_ok.mp h
    exact List.forall_mem_cons.mpr ⟨same_of_dumps h₁, same_of_dumpsFields h₂⟩
end

theorem same_of_encodedSize {depth n : ℕ} {v : Json} (h : v.encodedSize depth = .ok n) :
    Same v v := by
  unfold Json.encodedSize at h
  split at h
  · cases h
  · rename_i e he
    exact same_of_dumps he

/-! ### Objects with the expected keys -/

theorem lookup_dict_isSome {pairs : List (String × Json)} {k : PyStr} :
    (Json.lookup (pairs.map fun p => (.text p.1, p.2)) k).isSome = true ↔
      ∃ p ∈ pairs, k = .text p.1 := by
  rw [lookup_isSome_iff, List.map_map]
  constructor
  · intro h
    obtain ⟨p, hp, rfl⟩ := List.mem_map.mp h
    exact ⟨p, hp, rfl⟩
  · rintro ⟨p, hp, rfl⟩
    exact List.mem_map.mpr ⟨p, hp, rfl⟩

theorem lookup_dict {pairs : List (String × Json)} (hn : (pairs.map Prod.fst).Nodup)
    {p : String × Json} (hp : p ∈ pairs) :
    Json.lookup (pairs.map fun p => (.text p.1, p.2)) p.1 = some p.2 := by
  refine lookup_of_mem ?_ (List.mem_map_of_mem hp)
  rw [List.map_map]
  have := hn.map (f := PyStr.text) fun a b h => by cases h; rfl
  rwa [List.map_map] at this

/-- An object with the expected keys is the expected one if every member is. -/
theorem same_dict_iff {pairs : List (String × Json)} (hn : (pairs.map Prod.fst).Nodup)
    (hkeys : hasExactKeys fields (pairs.map Prod.fst) = true) :
    Same (.dict pairs) (.obj fields) ↔
      ∀ p ∈ pairs, ∀ x, Json.lookup fields p.1 = some x → Same p.2 x := by
  constructor
  · rintro (_ | _) p hp x hx
    rename_i hall
    exact hall _ _ _ (lookup_dict hn hp) hx
  · intro hall
    refine .obj (fun k => ?_) fun k x y hx hy => ?_
    · rw [Bool.eq_iff_iff, lookup_dict_isSome]
      constructor
      · rintro ⟨p, hp, rfl⟩
        obtain ⟨v, hv⟩ := hasExactKeys_lookup hkeys (List.mem_map_of_mem hp)
        simp [hv]
      · intro hk
        obtain ⟨q, hq, rfl⟩ := List.mem_map.mp (lookup_isSome_iff.mp hk)
        unfold hasExactKeys at hkeys
        rw [Bool.and_eq_true, List.all_eq_true, List.all_eq_true] at hkeys
        obtain ⟨k, hk, heq⟩ := List.any_eq_true.mp (hkeys.1 q hq)
        obtain ⟨p, hp, rfl⟩ := List.mem_map.mp hk
        exact ⟨p, hp, by simpa using heq⟩
    · obtain ⟨p, hp, rfl⟩ := lookup_dict_isSome.mp (by rw [hx]; rfl)
      rw [lookup_dict hn hp] at hx
      cases hx
      exact hall p hp y hy

/-! ### The contracts -/

/-- The version of a `RUNTIME_STATUS` result comes with whitespace around it. -/
def Padded (c : Command) (st : ResultStatus) (fields : List (PyStr × Json)) : Prop :=
  c = .runtimeStatus ∧ st = .completed ∧
    ∃ v, Json.lookup fields "version" = some (.str v) ∧ v.strip ≠ v

theorem validateFailure_stores {r : Json} (h : validateFailure (.obj fields) fields = .ok r) :
    r.wf = true ∧ Same r (.obj fields) := by
  simp only [validateFailure, bind_eq_ok, exactKeys_eq_ok, item_eq_ok, oneOf_eq_ok, pure,
    Except.pure, Except.ok.injEq] at h
  obtain ⟨-, hkeys, x, hx, code, rfl, rfl⟩ := h
  refine ⟨by simp [Json.dict, Json.wf, Json.wfFields, Vocabulary.toJson], ?_⟩
  refine (same_dict_iff (by simp) hkeys).mpr ?_
  simp only [List.forall_mem_singleton, hx, Option.some.injEq, forall_eq']
  exact .str _

theorem fixedResult_stores {fixed r : Json} {message : String} (hw : (Json.obj fields).wf = true)
    (hfixed : fixed.wf = true) (h : fixedResult (.obj fields) fixed message = .ok r) :
    r.wf = true ∧ Same r (.obj fields) := by
  unfold fixedResult at h
  split at h
  · rename_i hsame
    cases h
    exact ⟨hfixed, ((sameJsonValue_iff _ _ hw hfixed).mp hsame).symm⟩
  · cases h

theorem expectedResult_wf {c : Command} {fixed : Json} (h : expectedResult c = some fixed) :
    fixed.wf = true := by
  cases c <;> cases h <;> simp [Json.dict, Json.wf, Json.wfFields, Vocabulary.toJson]

theorem validateSleep_stores {interval jitter : ℤ} {e : ExpectedRuntime} {r : Json}
    (h : validateSleep (.obj fields) fields interval jitter (some e) = .ok r) :
    r.wf = true ∧ Same r (.obj fields) := by
  obtain ⟨hkeys, hprev, hnew, hj, -, -, -, rfl⟩ := validateSleep_eq_ok.mp h
  refine ⟨by simp [sleepResult, Json.dict, Json.wf, Json.wfFields], ?_⟩
  refine (same_dict_iff (by simp) hkeys).mpr ?_
  simp only [List.forall_mem_cons, hprev, hnew, hj, Option.some.injEq, forall_eq']
  exact ⟨.int _, .int _, .int _, by simp⟩

theorem cleanText_eq_strip {value : Json} {field : String} {maximum : ℕ} {s : PyStr}
    (h : cleanText py value field maximum = .ok s) : ∃ v, value = .str v ∧ s = v.strip := by
  cases value <;> simp only [cleanText, reduceCtorEq] at h
  split at h
  · split at h
    · cases h
      exact ⟨_, rfl, rfl⟩
    · cases h
  · cases h

theorem validateRuntimeStatus_stores {e : Option ExpectedRuntime} {r : Json}
    (h : validateRuntimeStatus py (.obj fields) fields e = .ok r) :
    r.wf = true ∧ ∃ v, Json.lookup fields "version" = some (.str v) ∧
      (Same r (.obj fields) ↔ v.strip = v) := by
  simp only [validateRuntimeStatus, bind_eq_ok, exactKeys_eq_ok, item_eq_ok, boundedInt_eq_ok,
    validatePollInterval, validateJitterPercent, validateProfile_eq_ok, pure, Except.pure] at h
  obtain ⟨-, hkeys, version, hversion, s, hs, profile, hprofile, p, rfl, uptime, huptime, completed,
    hcompleted, interval, hinterval, i, ⟨rfl, -⟩, jitter, hjitter, j, ⟨rfl, -⟩, u, ⟨rfl, -⟩, k,
    ⟨rfl, -⟩, h⟩ := h
  obtain ⟨v, rfl, rfl⟩ := cleanText_eq_strip hs
  have hr : r = .dict [("version", .str v.strip), ("profile", Vocabulary.toJson p),
      ("uptime_ms", .int u), ("tasks_completed", .int k), ("poll_interval_ms", .int i),
      ("jitter_percent", .int j)] := by
    cases e with
    | none => exact (Except.ok.inj h).symm
    | some e =>
      obtain ⟨-, -, h⟩ := bind_eq_ok.mp h
      exact (Except.ok.inj h).symm
  subst hr
  refine ⟨by simp [Json.dict, Json.wf, Json.wfFields, Vocabulary.toJson], v, hversion, ?_⟩
  rw [same_dict_iff (by simp) hkeys]
  simp only [List.forall_mem_cons, hversion, hprofile, huptime, hcompleted, hinterval, hjitter,
    Option.some.injEq, forall_eq', List.not_mem_nil, false_implies, implies_true, and_true]
  constructor
  · rintro ⟨hv, -⟩
    generalize hx : v.strip = x at hv
    cases hv
    rfl
  · intro hv
    rw [hv]
    exact ⟨.str v, .str _, .int _, .int _, .int _, .int _⟩

/-- What is stored of an accepted result equals what was sent unless the version was padded. -/
theorem validateTaskResult_stores {c : Command} {status result r : Json} {st : ResultStatus}
    {e : ExpectedRuntime} (hw : result.wf = true)
    (h : validateTaskResult py c status result (some e) = .ok (st, r)) :
    r.wf = true ∧ ∃ fields, result = .obj fields ∧ (Same r result ↔ ¬Padded c st fields) := by
  obtain ⟨fields, rfl, henv, hcon⟩ := validateTaskResult_eq_ok.mp h
  obtain ⟨-, -, -, n, -, hsize⟩ := validateResult_eq_ok.mp henv
  have hplain : r.wf = true ∧ Same r (.obj fields) → (c ≠ .runtimeStatus ∨ st ≠ .completed) →
      r.wf = true ∧ ∃ fs, Json.obj fields = .obj fs ∧ (Same r (.obj fields) ↔ ¬Padded c st fs) := by
    rintro ⟨hr, hsame⟩ hne
    refine ⟨hr, fields, rfl, iff_of_true hsame ?_⟩
    rintro ⟨hc, hst, -⟩
    exact hne.elim (· hc) (· hst)
  cases st with
  | failed => exact hplain (validateFailure_stores hcon) (.inr (by simp))
  | completed =>
    cases c <;> simp only [validateContract] at hcon
    case runtimeStatus =>
      obtain ⟨hr, v, hv, hsame⟩ := validateRuntimeStatus_stores hcon
      refine ⟨hr, fields, rfl, hsame.trans ?_⟩
      constructor
      · rintro heq ⟨-, -, v', hv', hne⟩
        rw [hv] at hv'
        cases hv'
        exact hne heq
      · intro hnot
        by_contra hne
        exact hnot ⟨rfl, rfl, v, hv, hne⟩
    case sleep => exact hplain (validateSleep_stores hcon) (.inl (by simp))
    case runPlaybook =>
      obtain ⟨rfl, -⟩ := validatePlaybookResult_eq_ok (asProtocolError_eq_ok.mp hcon)
      exact hplain ⟨hw, same_of_encodedSize hsize⟩ (.inl (by simp))
    -- the other tasks leave the Node no choice
    all_goals
      split at hcon
      · rename_i fixed hfixed
        exact hplain (fixedResult_stores hw (expectedResult_wf hfixed) hcon) (.inl (by simp))
      · cases hcon

end C2Lab
