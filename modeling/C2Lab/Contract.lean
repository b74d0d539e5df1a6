import C2Lab.Protocol

/-! What the validators of `protocol.py` guarantee about what they accept. -/

namespace C2Lab

variable {py : Interp}

/-! ### Payloads -/

/-- Cleaning is done once: a cleaned text passes unchanged. -/
theorem cleanText_idem {value : Json} {field : String} {maximum : ℕ} {s : PyStr}
    (h : cleanText py value field maximum = .ok s) :
    cleanText py (.str s) field maximum = .ok s := by
  cases value <;> simp only [cleanText, reduceCtorEq] at h
  split at h
  · split at h
    · cases h
      simp_all [cleanText, PyStr.strip_idem]
    · cases h
  · cases h

theorem boundedInt_eq_ok {value : Json} {low high n : ℤ} {message : String} :
    boundedInt value low high message = .ok n ↔ value = .int n ∧ low ≤ n ∧ n ≤ high := by
  cases value <;> simp [boundedInt]
  rename_i m
  split
  · rename_i h
    constructor
    · rintro h'; cases h'; exact ⟨rfl, h⟩
    · rintro ⟨rfl, -⟩; rfl
  · rename_i h
    simp only [reduceCtorEq, false_iff, not_and]
    rintro rfl hl hh
    exact h ⟨hl, hh⟩

theorem oneOf_eq_ok {α : Type} [Vocabulary α] {value : Json} {message : String} {a : α} :
    oneOf α value message = .ok a ↔ value = Vocabulary.toJson a := by
  unfold oneOf
  rw [← Vocabulary.parse_eq_some]
  cases (Vocabulary.parse value : Option α) <;> simp

theorem exactKeys_eq_ok {fields : List (PyStr × Json)} {expected : List String} {u : Unit} :
    exactKeys fields expected = .ok u ↔ hasExactKeys fields expected = true := by
  unfold exactKeys
  split <;> simp_all

theorem validateProfile_eq_ok {value : Json} {p : Profile} :
    validateProfile value = .ok p ↔ value = Vocabulary.toJson p := by
  unfold validateProfile
  rw [← Vocabulary.parse_eq_some]
  cases (Vocabulary.parse value : Option Profile) <;> simp

/-- The limits on the payload of a task. -/
def Command.Valid (py : Interp) : Command → Prop
  | .echoText text | .hashText text => cleanText py (.str text) "text" maxTextLength = .ok text
  | .wait ms => 0 ≤ ms ∧ ms ≤ maxWaitMs
  | .generateEvent _ _ message =>
    cleanText py (.str message) "message" maxTextLength = .ok message
  | .sleep interval jitter => (minPollIntervalMs ≤ interval ∧ interval ≤ maxPollIntervalMs) ∧
      0 ≤ jitter ∧ jitter ≤ maxJitterPercent
  | _ => True

/-- What is accepted is within the limits. -/
theorem validateTaskPayload_valid {taskType payload : Json} {c : Command}
    (h : validateTaskPayload py taskType payload = .ok c) :
    c.Valid py ∧ taskType = Vocabulary.toJson c.taskType := by
  unfold validateTaskPayload at h
  split at h
  · cases h
  · rename_i t ht
    rw [Vocabulary.parse_eq_some] at ht
    subst ht
    split at h
    · rename_i fields
      cases t <;>
        simp only [validateFields, bind_eq_ok, exactKeys_eq_ok, boundedInt_eq_ok, oneOf_eq_ok,
          validateJitterPercent, pure, Except.pure, Except.ok.injEq] at h
      case ping | runtimeStatus | exit => obtain ⟨-, -, rfl⟩ := h; exact ⟨trivial, rfl⟩
      case echoText | hashText =>
        obtain ⟨-, -, text, -, clean, hc, rfl⟩ := h
        exact ⟨cleanText_idem hc, rfl⟩
      case wait => obtain ⟨-, -, v, -, ms, ⟨-, hr⟩, rfl⟩ := h; exact ⟨hr, rfl⟩
      case generateEvent =>
        obtain ⟨-, -, v, -, cat, -, v', -, sev, -, v'', -, m, hm, rfl⟩ := h
        exact ⟨cleanText_idem hm, rfl⟩
      case sleep =>
        obtain ⟨-, -, v, -, i, ⟨-, hi⟩, v', -, j, ⟨-, hj⟩, rfl⟩ := h
        exact ⟨⟨hi, hj⟩, rfl⟩
      case runPlaybook => obtain ⟨-, -, v, -, p, -, rfl⟩ := h; exact ⟨trivial, rfl⟩
    · cases h

/-- A task within the limits passes validation as itself. -/
theorem Command.Valid.validates {c : Command} (h : c.Valid py) :
    validateTaskPayload py (Vocabulary.toJson c.taskType) c.payload = .ok c := by
  cases c <;> simp only [Valid] at h
  all_goals
    simp [validateTaskPayload, validateFields, Command.taskType, Command.payload, Json.dict,
      exactKeys, hasExactKeys, item, Json.getItem, Json.lookup, boundedInt, oneOf,
      validateJitterPercent, bind, Except.bind, pure, Except.pure, h]

/-! ### Results -/

/-- An envelope that passes is an object within the size limit, returned as it came. -/
theorem validateResult_eq_ok {status result r : Json} {st : ResultStatus} :
    validateResult py status result = .ok (st, r) ↔
      status = Vocabulary.toJson st ∧ r = result ∧ (∃ fields, result = .obj fields) ∧
        ∃ size ≤ maxResultBytes, result.encodedSize py.jsonDepth = .ok size := by
  unfold validateResult
  rw [← Vocabulary.parse_eq_some]
  cases hp : (Vocabulary.parse status : Option ResultStatus) with
  | none => simp
  | some st' =>
    cases result <;> simp only [reduceCtorEq, false_and, and_false, exists_false]
    rename_i fields
    cases hsz : (Json.obj fields).encodedSize py.jsonDepth with
    | error e =>
      by_cases h : e.isTypeOrValueError <;> simp [h]
    | ok size =>
      by_cases h : size ≤ maxResultBytes
      · simp only [h, if_true, Except.ok.injEq, Prod.mk.injEq, Option.some.injEq]
        constructor
        · rintro ⟨rfl, rfl⟩
          exact ⟨rfl, rfl, ⟨fields, rfl⟩, size, h, rfl⟩
        · rintro ⟨rfl, rfl, -⟩
          exact ⟨rfl, rfl⟩
      · simp only [h, if_false, reduceCtorEq, false_iff, not_and]
        rintro - - - ⟨n, hn, hsize⟩
        cases hsize
        exact h hn

/-- A result is accepted when its envelope passes and its task's contract does. -/
theorem validateTaskResult_eq_ok {c : Command} {status result r : Json} {st : ResultStatus}
    {expected : Option ExpectedRuntime} :
    validateTaskResult py c status result expected = .ok (st, r) ↔
      ∃ fields, result = .obj fields ∧ validateResult py status result = .ok (st, result) ∧
        validateContract py c st result fields expected = .ok r := by
  simp only [validateTaskResult, bind_eq_ok, pure, Except.pure, Except.ok.injEq, Prod.exists]
  constructor
  · rintro ⟨st', result', henv, r', hcon, heq⟩
    obtain ⟨-, rfl, ⟨fields, rfl⟩, -⟩ := validateResult_eq_ok.mp henv
    cases heq
    exact ⟨fields, rfl, henv, hcon⟩
  · rintro ⟨fields, rfl, henv, hcon⟩
    exact ⟨st, _, henv, r, hcon, rfl⟩

theorem item_eq_ok {fields : List (PyStr × Json)} {key : String} {v : Json} :
    item (.obj fields) key = .ok v ↔ Json.lookup fields key = some v := by
  simp only [item, Json.getItem]
  cases Json.lookup fields key <;> simp

theorem asProtocolError_eq_ok {α : Type} {x : Except Exc α} {a : α} :
    asProtocolError x = .ok a ↔ x = .ok a := by
  cases x <;> simp [asProtocolError]

/-- The object a Node answers a `SLEEP` with. -/
def sleepResult (prev new jitter : ℤ) : Json :=
  .dict [("previous_interval_ms", .int prev), ("new_interval_ms", .int new),
    ("jitter_percent", .int jitter)]

/-- A `SLEEP` result is accepted when it reports the recorded interval and the requested
    settings. -/
theorem validateSleep_eq_ok {fields : List (PyStr × Json)} {interval jitter : ℤ}
    {e : ExpectedRuntime} {r : Json} :
    validateSleep (.obj fields) fields interval jitter (some e) = .ok r ↔
      hasExactKeys fields ["previous_interval_ms", "new_interval_ms", "jitter_percent"] = true ∧
      Json.lookup fields "previous_interval_ms" = some (.int e.pollIntervalMs) ∧
      Json.lookup fields "new_interval_ms" = some (.int interval) ∧
      Json.lookup fields "jitter_percent" = some (.int jitter) ∧
      (minPollIntervalMs ≤ e.pollIntervalMs ∧ e.pollIntervalMs ≤ maxPollIntervalMs) ∧
      (minPollIntervalMs ≤ interval ∧ interval ≤ maxPollIntervalMs) ∧
      (0 ≤ jitter ∧ jitter ≤ maxJitterPercent) ∧
      r = sleepResult e.pollIntervalMs interval jitter := by
  simp only [validateSleep, bind_eq_ok, exactKeys_eq_ok, item_eq_ok, boundedInt_eq_ok, ensure_ok,
    pure, Except.pure, Except.ok.injEq]
  constructor
  · rintro ⟨-, hkeys, prev, hprev, new, hnew, j, hj, p, ⟨rfl, hp⟩, -, rfl, n, ⟨rfl, hn⟩, -, rfl,
      k, ⟨rfl, hk⟩, -, rfl, rfl⟩
    exact ⟨hkeys, hprev, hnew, hj, hp, hn, hk, rfl⟩
  · rintro ⟨hkeys, hprev, hnew, hj, hp, hn, hk, rfl⟩
    exact ⟨(), hkeys, _, hprev, _, hnew, _, hj, _, ⟨rfl, hp⟩, (), rfl, _, ⟨rfl, hn⟩, (), rfl,
      _, ⟨rfl, hk⟩, (), rfl, rfl⟩

open LabRuntime in
/-- An accepted playbook result is returned as it came, and its parts are the catalog's. -/
theorem validatePlaybookResult_eq_ok {depth : ℕ} {p : Playbook} {fields : List (PyStr × Json)}
    {r : Json}
    (h : validatePlaybookResult depth (Vocabulary.toJson p) (.obj fields) = .ok r) :
    r = .obj fields ∧ hasExactKeys fields
        ["playbook", "scope", "attack_techniques", "steps", "evidence"] = true ∧
      (∃ x, Json.lookup fields "attack_techniques" = some x ∧
        sameJsonValue x (attackTechniques p) = true) ∧
      ∃ items, Json.lookup fields "evidence" = some (.arr items) ∧
        checkEvidence p items = .ok () := by
  simp only [validatePlaybookResult, Vocabulary.parse_toJson, validateKnownPlaybookResult,
    bind_eq_ok, requireExactKeys, ensure_ok, item_eq_ok] at h
  obtain ⟨-, hkeys, name, -, -, -, sc, -, -, -, x, hx, -, hsame, st, -, -, -, ev, hev, h⟩ := h
  split at h
  · rename_i items
    simp only [bind_eq_ok, ensure_ok, pure, Except.pure, Except.ok.injEq] at h
    obtain ⟨u, hcheck, -, -, -, -, rfl⟩ := h
    exact ⟨rfl, hkeys, ⟨x, hx, hsame⟩, items, hev, hcheck⟩
  · cases h

/-- A value strictly equal to a string is that string. -/
theorem same_str {x : Json} {s : PyStr} (h : Same x (.str s)) : x = .str s := by
  cases h; rfl

open LabRuntime in
/-- The identifier under which a technique of the table is looked up in a result. -/
theorem technique_id {p : Playbook} {x : String × String} (hx : x ∈ techniqueTable p) :
    ∃ fields, technique x.1 x.2 = .obj fields ∧
      Json.lookup fields "id" = some (.str (.text x.1)) := by
  cases p <;> simp only [techniqueTable, List.mem_cons, List.not_mem_nil, or_false] at hx
  case discoveryFixtures => subst hx; exact ⟨_, rfl, rfl⟩
  case collectAndStage => rcases hx with rfl | rfl <;> exact ⟨_, rfl, rfl⟩
  case cleanup => subst hx; exact ⟨_, rfl, rfl⟩

open LabRuntime in
/-- The techniques of a stored playbook result are those of the table, in order. -/
theorem attackTechniques_ids {x : Json} {p : Playbook} (hw : x.wf = true)
    (h : sameJsonValue x (attackTechniques p) = true) :
    ∃ xs, x = .arr xs ∧ List.Forall₂ (fun y id => item y "id" = .ok (.str (.text id))) xs
      ((techniqueTable p).map Prod.fst) := by
  have hsame : Same x (attackTechniques p) :=
    (sameJsonValue_iff _ _ hw (by cases p <;> decide)).mp h
  unfold attackTechniques at hsame
  cases hsame with
  | @arr xs _ hlen hitems =>
    rw [List.length_map] at hlen
    refine ⟨xs, rfl, List.forall₂_iff_get.mpr ⟨by rw [List.length_map, hlen], ?_⟩⟩
    intro i hi hi'
    rw [List.length_map] at hi'
    obtain ⟨fields, htech, hid⟩ := technique_id (List.getElem_mem hi')
    have hy := hitems i xs[i] (technique (techniqueTable p)[i].1 (techniqueTable p)[i].2)
      (List.getElem?_eq_getElem hi) (by simp [hi'])
    rw [htech] at hy
    simp only [List.get_eq_getElem, List.getElem_map]
    generalize xs[i] = y at hy
    cases hy with
    | @obj fs _ hkeys hvals =>
      have hsome : (Json.lookup fs "id").isSome := by rw [hkeys, hid]; rfl
      obtain ⟨v, hv⟩ := Option.isSome_iff_exists.mp hsome
      have hvs := same_str (hvals _ _ _ hv hid)
      simp [item, Json.getItem, hv, hvs]

end C2Lab
