import C2Lab.Contract

/-! What the checks of a result raise.

    A result that fails a check ends in one of the program's own errors, with two exceptions: the
    encoder gives up on a value nested too deeply, and an observation that is a list or an object
    has no hash, so that it cannot be looked up in a set. -/

namespace C2Lab

variable {α β : Type} {P Q : Exc → Prop} {py : Interp} {fields : List (PyStr × Json)} {e : Exc}

/-! ### Failures of a computation -/

/-- Every failure of `x` satisfies `P`. -/
def Fails (P : Exc → Prop) (x : Except Exc α) : Prop := ∀ e, x = .error e → P e

theorem fails_ok (a : α) : Fails P (.ok a : Except Exc α) := by
  intro e h
  cases h

theorem fails_error (h : P e) : Fails P (.error e : Except Exc α) := by
  intro e' he
  cases he
  exact h

theorem fails_bind {x : Except Exc α} {f : α → Except Exc β} (hx : Fails P x)
    (hf : ∀ a, x = .ok a → Fails P (f a)) : Fails P (x >>= f) := by
  intro e h
  rcases bind_eq_error.mp h with h | ⟨a, ha, h⟩
  · exact hx e h
  · exact hf a ha e h

theorem fails_ensure {c : Prop} [Decidable c] (h : P e) : Fails P (ensure c e) := by
  intro e' he
  obtain ⟨-, rfl⟩ := ensure_error.mp he
  exact h

theorem Fails.mono {x : Except Exc α} (h : Fails P x) (hPQ : ∀ e, P e → Q e) : Fails Q x :=
  fun e he => hPQ e (h e he)

/-! ### Fields of an object -/

/-- An object with exactly the given keys has a value under each. -/
theorem hasExactKeys_lookup {keys : List String} (h : hasExactKeys fields keys = true)
    {k : String} (hk : k ∈ keys) : ∃ v, Json.lookup fields k = some v := by
  unfold hasExactKeys at h
  rw [Bool.and_eq_true, List.all_eq_true, List.all_eq_true] at h
  have hany := h.2 k hk
  rw [List.any_eq_true] at hany
  obtain ⟨p, hp, heq⟩ := hany
  have hmem : (k : PyStr) ∈ fields.map Prod.fst := List.mem_map.mpr ⟨p, hp, by simpa using heq⟩
  exact Option.isSome_iff_exists.mp (lookup_isSome_iff.mpr hmem)

theorem fails_item {keys : List String} (h : hasExactKeys fields keys = true) {k : String}
    (hk : k ∈ keys) : Fails P (item (.obj fields) k) := by
  obtain ⟨v, hv⟩ := hasExactKeys_lookup h hk
  rw [item_eq_ok.mpr hv]
  exact fails_ok v

/-! ### The validators of `protocol.py` -/

/-- The errors a submission is refused with. -/
def IsProtocol (e : Exc) : Prop := ∃ m, e = .protocol m

theorem exactKeys_fails (keys : List String) : Fails IsProtocol (exactKeys fields keys) := by
  unfold exactKeys
  split
  · exact fails_ok _
  · exact fails_error ⟨_, rfl⟩

theorem cleanText_fails (value : Json) (field : String) (maximum : ℕ) :
    Fails IsProtocol (cleanText py value field maximum) := by
  unfold cleanText
  split
  · simp only
    split
    · split
      · exact fails_ok _
      · exact fails_error ⟨_, rfl⟩
    · exact fails_error ⟨_, rfl⟩
  · exact fails_error ⟨_, rfl⟩

theorem boundedInt_fails (value : Json) (low high : ℤ) (message : String) :
    Fails IsProtocol (boundedInt value low high message) := by
  unfold boundedInt
  split
  · split
    · exact fails_ok _
    · exact fails_error ⟨_, rfl⟩
  · exact fails_error ⟨_, rfl⟩

theorem oneOf_fails (α : Type) [Vocabulary α] (value : Json) (message : String) :
    Fails IsProtocol (oneOf α value message) := by
  unfold oneOf
  split
  · exact fails_ok _
  · exact fails_error ⟨_, rfl⟩

theorem validateProfile_fails (value : Json) : Fails IsProtocol (validateProfile value) := by
  unfold validateProfile
  split
  · exact fails_ok _
  · exact fails_error ⟨_, rfl⟩

theorem validateFailure_fails : Fails IsProtocol (validateFailure (.obj fields) fields) := by
  refine fails_bind (exactKeys_fails _) fun _ hkeys => ?_
  have hkeys := exactKeys_eq_ok.mp hkeys
  refine fails_bind (fails_item hkeys (by simp)) fun code _ => ?_
  exact fails_bind (oneOf_fails FailureCode code _) fun _ _ => fails_ok _

theorem validateRuntimeStatus_fails (expected : Option ExpectedRuntime) :
    Fails IsProtocol (validateRuntimeStatus py (.obj fields) fields expected) := by
  refine fails_bind (exactKeys_fails _) fun _ hkeys => ?_
  have hkeys := exactKeys_eq_ok.mp hkeys
  refine fails_bind (fails_item hkeys (by simp)) fun version _ => ?_
  refine fails_bind (cleanText_fails version _ _) fun version _ => ?_
  refine fails_bind (fails_item hkeys (by simp)) fun profile _ => ?_
  refine fails_bind (validateProfile_fails profile) fun profile _ => ?_
  refine fails_bind (fails_item hkeys (by simp)) fun uptime _ => ?_
  refine fails_bind (fails_item hkeys (by simp)) fun tasksCompleted _ => ?_
  refine fails_bind (fails_item hkeys (by simp)) fun interval _ => ?_
  refine fails_bind (boundedInt_fails interval _ _ _) fun interval _ => ?_
  refine fails_bind (fails_item hkeys (by simp)) fun jitter _ => ?_
  refine fails_bind (boundedInt_fails jitter _ _ _) fun jitter _ => ?_
  refine fails_bind (boundedInt_fails uptime _ _ _) fun uptime _ => ?_
  refine fails_bind (boundedInt_fails tasksCompleted _ _ _) fun tasksCompleted _ => ?_
  cases expected with
  | none => exact fails_ok _
  | some e => exact fails_bind (fails_ensure ⟨_, rfl⟩) fun _ _ => fails_ok _

theorem validateSleep_fails (interval jitterPercent : ℤ) (expected : Option ExpectedRuntime) :
    Fails IsProtocol (validateSleep (.obj fields) fields interval jitterPercent expected) := by
  refine fails_bind (exactKeys_fails _) fun _ hkeys => ?_
  have hkeys := exactKeys_eq_ok.mp hkeys
  refine fails_bind (fails_item hkeys (by simp)) fun prev _ => ?_
  refine fails_bind (fails_item hkeys (by simp)) fun new _ => ?_
  refine fails_bind (fails_item hkeys (by simp)) fun jitter _ => ?_
  refine fails_bind (boundedInt_fails prev _ _ _) fun prev _ => ?_
  have hrest : Fails IsProtocol (do
      let new ← boundedInt new minPollIntervalMs maxPollIntervalMs
        "new_interval_ms is outside the supported range"
      ensure (new = interval) (protocolError "new_interval_ms must match the requested interval")
      let jitter ← boundedInt jitter 0 maxJitterPercent
        "jitter_percent is outside the supported range"
      ensure (jitter = jitterPercent)
        (protocolError "jitter_percent must match the requested jitter")
      return sleepResult prev new jitter) := by
    refine fails_bind (boundedInt_fails new _ _ _) fun new _ => ?_
    refine fails_bind (fails_ensure ⟨_, rfl⟩) fun _ _ => ?_
    refine fails_bind (boundedInt_fails jitter _ _ _) fun jitter _ => ?_
    exact fails_bind (fails_ensure ⟨_, rfl⟩) fun _ _ => fails_ok _
  cases expected with
  | none => exact hrest
  | some e => exact fails_bind (fails_ensure ⟨_, rfl⟩) fun _ _ => hrest

/-! ### The playbook contract -/

/-- An object that is the right evidence entry but for an observation without a hash. -/
def OddEntry (entry : Json) (keys : List String) (artifact : String) : Prop :=
  ∃ fields o, entry = .obj fields ∧ hasExactKeys fields keys = true ∧
    Json.lookup fields "artifact" = some (.str artifact) ∧
    Json.lookup fields "observation" = some o ∧ o.hashable = false

namespace LabRuntime

theorem requireExactKeys_eq_ok {value : Json} {keys : List String} {u : Unit} :
    requireExactKeys value keys = .ok u ↔
      ∃ fields, value = .obj fields ∧ hasExactKeys fields keys = true := by
  cases value <;> simp [requireExactKeys]

theorem requireExactKeys_fails (h : P schemaError) (value : Json) (keys : List String) :
    Fails P (requireExactKeys value keys) := by
  unfold requireExactKeys
  split
  · exact fails_ensure h
  · exact fails_error h

theorem inSet_fails {value : Json} {set : List PyStr}
    (h : value.hashable = false → P (.py .typeError)) : Fails P (inSet value set) := by
  unfold inSet Json.inStrSet
  cases hh : value.hashable with
  | true => exact fails_ok _
  | false => exact fails_error (h hh)

theorem checkEntries_fails (h : P schemaError) (items : List Json)
    (expected : List (List (String × Json))) : Fails P (checkEntries items expected) := by
  induction items generalizing expected with
  | nil => exact fails_ok _
  | cons item items ih =>
    cases expected with
    | nil => exact fails_ok _
    | cons entry rest =>
      refine fails_bind (fails_bind (requireExactKeys_fails h item _) fun _ _ =>
        fails_ensure h) fun _ _ => ih rest

/-- The keys of the entry of `CREATE_CANARY`. -/
def markerKeys : List String := ["artifact", "observation", "bytes"]

/-- The keys of the entries of `CLEANUP`. -/
def removalKeys : List String := ["artifact", "observation"]

theorem checkMarker_fails (h : P schemaError) {marker : Json}
    (hodd : OddEntry marker markerKeys canaryArtifact → P (.py .typeError)) :
    Fails P (checkMarker marker) := by
  refine fails_bind (requireExactKeys_fails h marker _) fun _ hreq => ?_
  obtain ⟨fields, rfl, hkeys⟩ := requireExactKeys_eq_ok.mp hreq
  refine fails_bind (fails_item hkeys (by simp)) fun artifact ha => ?_
  refine fails_bind (fails_ensure h) fun _ heq => ?_
  refine fails_bind (fails_item hkeys (by simp)) fun o ho => ?_
  refine fails_bind (inSet_fails fun hh => hodd ?_) fun known _ => ?_
  · rw [ensure_ok, Json.eqStr_iff] at heq
    subst heq
    exact ⟨fields, o, rfl, hkeys, item_eq_ok.mp ha, item_eq_ok.mp ho, hh⟩
  refine fails_bind (fails_ensure h) fun _ _ => ?_
  exact fails_bind (fails_item hkeys (by simp)) fun _ _ => fails_ensure h

theorem checkRemoval_fails (h : P schemaError) {entry : Json} {artifact : String}
    (hodd : OddEntry entry removalKeys artifact → P (.py .typeError)) :
    Fails P (checkRemoval entry artifact) := by
  refine fails_bind (requireExactKeys_fails h entry _) fun _ hreq => ?_
  obtain ⟨fields, rfl, hkeys⟩ := requireExactKeys_eq_ok.mp hreq
  refine fails_bind (fails_item hkeys (by simp)) fun x ha => ?_
  refine fails_bind (fails_ensure h) fun _ heq => ?_
  refine fails_bind (fails_item hkeys (by simp)) fun o ho => ?_
  refine fails_bind (inSet_fails fun hh => hodd ?_) fun known _ => fails_ensure h
  rw [ensure_ok, Json.eqStr_iff] at heq
  subst heq
  exact ⟨fields, o, rfl, hkeys, item_eq_ok.mp ha, item_eq_ok.mp ho, hh⟩

/-- The look-up of an observation without a hash raises. -/
theorem OddEntry.marker_raises {marker : Json} (h : OddEntry marker markerKeys canaryArtifact) :
    checkMarker marker = .error (.py .typeError) := by
  obtain ⟨fields, o, rfl, hkeys, ha, ho, hh⟩ := h
  have hkeys : hasExactKeys fields ["artifact", "observation", "bytes"] = true := hkeys
  simp [checkMarker, requireExactKeys, hkeys, item_eq_ok.mpr ha, item_eq_ok.mpr ho, ensure, inSet,
    Json.inStrSet, hh, bind, Except.bind]

theorem OddEntry.removal_raises {entry : Json} {artifact : String}
    (h : OddEntry entry removalKeys artifact) :
    checkRemoval entry artifact = .error (.py .typeError) := by
  obtain ⟨fields, o, rfl, hkeys, ha, ho, hh⟩ := h
  have hkeys : hasExactKeys fields ["artifact", "observation"] = true := hkeys
  simp [checkRemoval, requireExactKeys, hkeys, item_eq_ok.mpr ha, item_eq_ok.mpr ho, ensure, inSet,
    Json.inStrSet, hh, bind, Except.bind]

/-- Evidence whose check reaches an observation without a hash. -/
inductive OddEvidence : Playbook → List Json → Prop
  | marker {entry : Json} (h : OddEntry entry markerKeys canaryArtifact) :
      OddEvidence .createCanary [entry]
  | first {first second : Json} (h : OddEntry first removalKeys manifestArtifact) :
      OddEvidence .cleanup [first, second]
  | second {first second : Json} (hfirst : checkRemoval first manifestArtifact = .ok ())
      (h : OddEntry second removalKeys canaryArtifact) : OddEvidence .cleanup [first, second]

theorem checkEvidence_fails (h : P schemaError) {p : Playbook} {items : List Json}
    (hodd : OddEvidence p items → P (.py .typeError)) : Fails P (checkEvidence p items) := by
  cases p with
  | discoveryFixtures =>
    exact fails_bind (fails_ensure h) fun _ _ => checkEntries_fails h items _
  | collectAndStage =>
    exact fails_bind (fails_ensure h) fun _ _ => checkEntries_fails h items _
  | createCanary =>
    rcases items with _ | ⟨marker, _ | _⟩
    · exact fails_error h
    · exact checkMarker_fails h fun hm => hodd (.marker hm)
    · exact fails_error h
  | cleanup =>
    rcases items with _ | ⟨first, _ | ⟨second, _ | _⟩⟩
    · exact fails_error h
    · exact fails_error h
    · refine fails_bind (checkRemoval_fails h fun hm => hodd (.first hm)) fun _ hfirst => ?_
      exact checkRemoval_fails h fun hm => hodd (.second hfirst hm)
    · exact fails_error h

theorem OddEvidence.raises {p : Playbook} {items : List Json} (h : OddEvidence p items) :
    checkEvidence p items = .error (.py .typeError) := by
  cases h with
  | marker h => exact OddEntry.marker_raises h
  | first h => rw [checkEvidence, OddEntry.removal_raises h]; rfl
  | second hfirst h => rw [checkEvidence, hfirst]; exact OddEntry.removal_raises h

/-- A result that passes every check of its playbook before an observation without a hash. -/
structure OddResult (p : Playbook) (fields : List (PyStr × Json)) : Prop where
  keys : hasExactKeys fields ["playbook", "scope", "attack_techniques", "steps", "evidence"] = true
  name : Json.lookup fields "playbook" = some (.str (Vocabulary.name p))
  scope : ∃ x, Json.lookup fields "scope" = some x ∧ sameJsonValue x LabRuntime.scope = true
  techniques : ∃ x, Json.lookup fields "attack_techniques" = some x ∧
    sameJsonValue x (attackTechniques p) = true
  steps : ∃ x, Json.lookup fields "steps" = some x ∧
    sameJsonValue x (LabRuntime.steps p) = true
  evidence : ∃ items, Json.lookup fields "evidence" = some (.arr items) ∧ OddEvidence p items

theorem validateKnownPlaybookResult_fails (h : ∀ m, P (.labRuntime m "result_schema"))
    {depth : ℕ} {p : Playbook} {n : ℕ} (hsize : (Json.obj fields).encodedSize depth = .ok n)
    (hodd : OddResult p fields → P (.py .typeError)) :
    Fails P (validateKnownPlaybookResult depth p (.obj fields)) := by
  have hschema : P schemaError := h _
  refine fails_bind (requireExactKeys_fails hschema _ _) fun _ hreq => ?_
  obtain ⟨_, hfields, hkeys⟩ := requireExactKeys_eq_ok.mp hreq
  cases hfields
  refine fails_bind (fails_item hkeys (by simp)) fun name hname => ?_
  refine fails_bind (fails_ensure hschema) fun _ heq => ?_
  refine fails_bind (fails_item hkeys (by simp)) fun scope hscope => ?_
  refine fails_bind (fails_ensure hschema) fun _ hscope' => ?_
  refine fails_bind (fails_item hkeys (by simp)) fun techniques htech => ?_
  refine fails_bind (fails_ensure hschema) fun _ htech' => ?_
  refine fails_bind (fails_item hkeys (by simp)) fun steps hsteps => ?_
  refine fails_bind (fails_ensure hschema) fun _ hsteps' => ?_
  refine fails_bind (fails_item hkeys (by simp)) fun evidence hev => ?_
  rw [ensure_ok, Json.eqStr_iff] at heq
  subst heq
  split
  · rename_i items
    refine fails_bind (checkEvidence_fails hschema fun ho => hodd ?_) fun _ _ => ?_
    · exact ⟨hkeys, item_eq_ok.mp hname, ⟨_, item_eq_ok.mp hscope, ensure_ok.mp hscope'⟩,
        ⟨_, item_eq_ok.mp htech, ensure_ok.mp htech'⟩,
        ⟨_, item_eq_ok.mp hsteps, ensure_ok.mp hsteps'⟩, ⟨items, item_eq_ok.mp hev, ho⟩⟩
    refine fails_bind (fails_ensure hschema) fun _ _ => ?_
    refine fails_bind ?_ fun _ _ => fails_ok _
    rw [checkSize, hsize]
    exact fails_ensure (h _)
  · exact fails_error hschema

theorem OddResult.raises {p : Playbook} (h : OddResult p fields) (depth : ℕ) :
    validateKnownPlaybookResult depth p (.obj fields) = .error (.py .typeError) := by
  obtain ⟨hkeys, hname, ⟨sc, hsc, hsc'⟩, ⟨te, hte, hte'⟩, ⟨st, hst, hst'⟩, items, hev, hodd⟩ := h
  simp only [validateKnownPlaybookResult, requireExactKeys, ensure, hkeys, if_true,
    item_eq_ok.mpr hname, item_eq_ok.mpr hsc, item_eq_ok.mpr hte, item_eq_ok.mpr hst,
    item_eq_ok.mpr hev, hsc', hte', hst', Json.eqStr_iff, hodd.raises, bind, Except.bind]

end LabRuntime

/-! ### A submission -/

/-- The contract of a playbook task looks up an observation that has no hash. -/
def OddCompletion (c : Command) (st : ResultStatus) (fields : List (PyStr × Json)) : Prop :=
  st = .completed ∧ ∃ p, c = .runPlaybook p ∧ LabRuntime.OddResult p fields

/-- The contract of a task fails by its own error or at an observation without a hash. -/
theorem validateContract_fails {c : Command} {st : ResultStatus}
    {expected : Option ExpectedRuntime} {n : ℕ}
    (hsize : (Json.obj fields).encodedSize py.jsonDepth = .ok n) :
    Fails (fun e => IsProtocol e ∨ e = .py .typeError ∧ OddCompletion c st fields)
      (validateContract py c st (.obj fields) fields expected) := by
  have hfixed : ∀ (fixed : Json) (message : String),
      Fails IsProtocol (fixedResult (.obj fields) fixed message) := by
    intro fixed message
    unfold fixedResult
    split
    · exact fails_ok _
    · exact fails_error ⟨_, rfl⟩
  cases st with
  | failed => exact validateFailure_fails.mono fun _ => .inl
  | completed =>
    cases c with
    | runtimeStatus => exact (validateRuntimeStatus_fails expected).mono fun _ => .inl
    | sleep interval jitter =>
      exact (validateSleep_fails interval jitter expected).mono fun _ => .inl
    | runPlaybook p =>
      intro e he
      have hplaybook := LabRuntime.validateKnownPlaybookResult_fails
        (P := fun e => e.isValueError = true ∨
          e = .py .typeError ∧ OddCompletion (.runPlaybook p) .completed fields)
        (fun _ => .inl rfl) hsize (fun ho => .inr ⟨rfl, rfl, p, rfl, ho⟩)
      simp only [validateContract, LabRuntime.validatePlaybookResult, Vocabulary.parse_toJson,
        asProtocolError] at he
      split at he
      · cases he
      · rename_i e' he'
        cases he
        rcases hplaybook e' he' with hvalue | ⟨rfl, hodd⟩
        · rw [if_pos hvalue]
          exact .inl ⟨_, rfl⟩
        · exact .inr ⟨rfl, hodd⟩
    | ping | echoText | hashText | wait | exit | generateEvent =>
      exact (hfixed _ _).mono fun _ => .inl

theorem OddCompletion.raises {c : Command} {st : ResultStatus} (h : OddCompletion c st fields)
    (expected : Option ExpectedRuntime) :
    validateContract py c st (.obj fields) fields expected = .error (.py .typeError) := by
  obtain ⟨rfl, p, rfl, hodd⟩ := h
  simp only [validateContract, LabRuntime.validatePlaybookResult, Vocabulary.parse_toJson,
    hodd.raises, asProtocolError]
  rfl

/-! ### The encoder -/

mutual
/-- The encoder refuses a value by `ValueError`, or it runs out of depth. -/
theorem dumps_error {depth : ℕ} : ∀ {v : Json} {e : PyError}, v.dumps depth = .error e →
    e = .valueError ∨ e = .recursionError
  | .null, _, h | .bool _, _, h | .str _, _, h | .float (.finite _), _, h => by cases h
  | .int n, e, h => by
    unfold Json.dumps at h
    split at h <;> cases h
    exact .inl rfl
  | .float .nan, _, h | .float (.inf _), _, h => by cases h; exact .inl rfl
  | .arr xs, e, h => by
    cases depth with
    | zero => cases h; exact .inr rfl
    | succ d =>
      simp only [Json.dumps, bind, Except.bind] at h
      split at h
      · rename_i e' he
        cases h
        exact dumpsList_error he
      · cases h
  | .obj fields, e, h => by
    cases depth with
    | zero => cases h; exact .inr rfl
    | succ d =>
      simp only [Json.dumps, bind, Except.bind] at h
      split at h
      · rename_i e' he
        cases h
        exact dumpsFields_error he
      · cases h
theorem dumpsList_error {depth : ℕ} : ∀ {xs : List Json} {e : PyError},
    Json.dumpsList depth xs = .error e → e = .valueError ∨ e = .recursionError
  | [], _, h => by cases h
  | x :: xs, e, h => by
    simp only [Json.dumpsList, bind, Except.bind] at h
    split at h
    · rename_i e' he
      cases h
      exact dumps_error he
    · split at h
      · rename_i e' he
        cases h
        exact dumpsList_error he
      · cases h
theorem dumpsFields_error {depth : ℕ} : ∀ {fs : List (PyStr × Json)} {e : PyError},
    Json.dumpsFields depth fs = .error e → e = .valueError ∨ e = .recursionError
  | [], _, h => by cases h
  | (k, x) :: xs, e, h => by
    simp only [Json.dumpsFields, bind, Except.bind] at h
    split at h
    · rename_i e' he
      cases h
      exact dumps_error he
    · split at h
      · rename_i e' he
        cases h
        exact dumpsFields_error he
      · cases h
end

/-- The encoder runs out of depth on the result of a submission that is otherwise of the right
    form. -/
def TooDeep (py : Interp) (status result : Json) : Prop :=
  (∃ st : ResultStatus, status = Vocabulary.toJson st) ∧ (∃ fields, result = .obj fields) ∧
    result.dumps py.jsonDepth = .error .recursionError

theorem validateResult_fails (status result : Json) :
    Fails (fun e => IsProtocol e ∨ e = .py .recursionError ∧ TooDeep py status result)
      (validateResult py status result) := by
  unfold validateResult
  cases hst : (Vocabulary.parse status : Option ResultStatus) with
  | none => exact fails_error (.inl ⟨_, rfl⟩)
  | some st =>
    cases result with
    | obj fields =>
      simp only
      cases hsize : (Json.obj fields).encodedSize py.jsonDepth with
      | ok n =>
        simp only
        split
        · exact fails_ok _
        · exact fails_error (.inl ⟨_, rfl⟩)
      | error e =>
        simp only
        split
        · exact fails_error (.inl ⟨_, rfl⟩)
        · rename_i hcaught
          refine fails_error (.inr ?_)
          unfold Json.encodedSize at hsize
          split at hsize
          · rename_i e' he
            cases hsize
            rcases dumps_error he with rfl | rfl
            · exact absurd rfl hcaught
            · exact ⟨rfl, ⟨st, Vocabulary.parse_eq_some.mp hst⟩, ⟨fields, rfl⟩, he⟩
          · split at hsize
            · cases hsize
              exact absurd rfl hcaught
            · cases hsize
    | _ => exact fails_error (.inl ⟨_, rfl⟩)

theorem TooDeep.raises {status result : Json} (h : TooDeep py status result) :
    validateResult py status result = .error (.py .recursionError) := by
  obtain ⟨⟨st, rfl⟩, ⟨fields, rfl⟩, hdumps⟩ := h
  have hsize : (Json.obj fields).encodedSize py.jsonDepth = .error .recursionError := by
    rw [Json.encodedSize, hdumps]
  simp only [validateResult, Vocabulary.parse_toJson, hsize]
  rfl

end C2Lab
