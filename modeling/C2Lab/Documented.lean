import C2Lab.Node.Agreement

/-! The results a task may have.

    The set of documents each task type documents as its results, and that the contract of the task
    accepts those and no others. A document is meant up to the order of its keys; that the order
    changes neither the encoded size nor the paths in it is shown first. -/

namespace C2Lab

variable {py : Interp} {a b : Json} {fs gs fields : List (PyStr × Json)}

/-! ### Documents up to the order of keys -/

mutual
/-- No float inside: equal values are then the same value. -/
def Json.exact : Json → Bool
  | .float _ => false
  | .arr xs => exactList xs
  | .obj fields => exactFields fields
  | _ => true
def Json.exactList : List Json → Bool
  | [] => true
  | x :: xs => exact x && exactList xs
def Json.exactFields : List (PyStr × Json) → Bool
  | [] => true
  | (_, x) :: xs => exact x && exactFields xs
end

theorem exactList_mem {xs : List Json} (h : Json.exactList xs = true) {x : Json} (hx : x ∈ xs) :
    x.exact = true := by
  induction xs with
  | nil => cases hx
  | cons y ys ih =>
    rw [Json.exactList, Bool.and_eq_true] at h
    rcases List.mem_cons.mp hx with rfl | hx
    · exact h.1
    · exact ih h.2 hx

theorem exactFields_mem (h : Json.exactFields fs = true) {p : PyStr × Json} (hp : p ∈ fs) :
    p.2.exact = true := by
  induction fs with
  | nil => cases hp
  | cons q qs ih =>
    obtain ⟨k, x⟩ := q
    rw [Json.exactFields, Bool.and_eq_true] at h
    rcases List.mem_cons.mp hp with rfl | hp
    · exact h.1
    · exact ih h.2 hp

mutual
theorem nanFree_of_exact : ∀ {v : Json}, v.exact = true → v.nanFree = true
  | .null, _ | .bool _, _ | .int _, _ | .str _, _ => rfl
  | .arr _, h => nanFreeList_of_exact h
  | .obj _, h => nanFreeFields_of_exact h
theorem nanFreeList_of_exact : ∀ {xs : List Json}, Json.exactList xs = true →
    Json.nanFreeList xs = true
  | [], _ => rfl
  | x :: xs, h => by
    rw [Json.exactList, Bool.and_eq_true] at h
    rw [Json.nanFreeList, Bool.and_eq_true]
    exact ⟨nanFree_of_exact h.1, nanFreeList_of_exact h.2⟩
theorem nanFreeFields_of_exact : ∀ {fs : List (PyStr × Json)}, Json.exactFields fs = true →
    Json.nanFreeFields fs = true
  | [], _ => rfl
  | (_, x) :: fs, h => by
    rw [Json.exactFields, Bool.and_eq_true] at h
    rw [Json.nanFreeFields, Bool.and_eq_true]
    exact ⟨nanFree_of_exact h.1, nanFreeFields_of_exact h.2⟩
end

/-- A value without floats is the same document as itself. -/
theorem Same.refl {v : Json} (h : v.exact = true) : Same v v :=
  .refl_of_nanFree (nanFree_of_exact h)

/-- The order of the members does not matter to the encoder. -/
theorem dumpsFields_perm (h : fs.Perm gs) {depth : ℕ} {e : Json.Encoded}
    (he : Json.dumpsFields depth fs = .ok e) : Json.dumpsFields depth gs = .ok e := by
  induction h generalizing e with
  | nil => exact he
  | cons p _ ih =>
    obtain ⟨e₁, h₁, he⟩ := bind_eq_ok.mp he
    obtain ⟨e₂, h₂, he⟩ := bind_eq_ok.mp he
    exact bind_eq_ok.mpr ⟨e₁, h₁, bind_eq_ok.mpr ⟨e₂, ih h₂, he⟩⟩
  | swap p q l =>
    obtain ⟨e₁, h₁, he⟩ := bind_eq_ok.mp he
    obtain ⟨_, hrest, he⟩ := bind_eq_ok.mp he
    obtain ⟨e₂, h₂, hrest⟩ := bind_eq_ok.mp hrest
    obtain ⟨e₃, h₃, hrest⟩ := bind_eq_ok.mp hrest
    cases hrest
    cases he
    refine bind_eq_ok.mpr ⟨e₂, h₂, bind_eq_ok.mpr ⟨_, bind_eq_ok.mpr ⟨e₁, h₁,
      bind_eq_ok.mpr ⟨e₃, h₃, rfl⟩⟩, ?_⟩⟩
    simp only [pure, Except.pure, Except.ok.injEq, Json.Encoded.mk.injEq]
    refine ⟨by omega, ?_⟩
    cases (Json.encodeStr p.1).lone <;> cases (Json.encodeStr q.1).lone <;> cases e₁.lone <;>
      cases e₂.lone <;> rfl
  | trans _ _ ih₁ ih₂ => exact ih₂ (ih₁ he)

theorem dumpsFields_congr {depth : ℕ} {f : PyStr × Json → Json} {e : Json.Encoded}
    (h : ∀ p ∈ fs, ∀ e, (f p).dumps depth = .ok e → p.2.dumps depth = .ok e)
    (he : Json.dumpsFields depth (fs.map fun p => (p.1, f p)) = .ok e) :
    Json.dumpsFields depth fs = .ok e := by
  induction fs generalizing e with
  | nil => exact he
  | cons p ps ih =>
    obtain ⟨e₁, h₁, he⟩ := bind_eq_ok.mp he
    obtain ⟨e₂, h₂, he⟩ := bind_eq_ok.mp he
    exact bind_eq_ok.mpr ⟨e₁, h p List.mem_cons_self e₁ h₁,
      bind_eq_ok.mpr ⟨e₂, ih (fun q hq => h q (List.mem_cons_of_mem _ hq)) h₂, he⟩⟩

theorem dumpsList_congr {depth : ℕ} {xs ys : List Json} {e : Json.Encoded}
    (hlen : xs.length = ys.length)
    (h : ∀ (i : ℕ) x y, xs[i]? = some x → ys[i]? = some y → ∀ e, y.dumps depth = .ok e →
      x.dumps depth = .ok e)
    (he : Json.dumpsList depth ys = .ok e) : Json.dumpsList depth xs = .ok e := by
  induction xs generalizing ys e with
  | nil =>
    obtain rfl := List.length_eq_zero_iff.mp hlen.symm
    exact he
  | cons x xs ih =>
    cases ys with
    | nil => cases hlen
    | cons y ys =>
      obtain ⟨e₁, h₁, he⟩ := bind_eq_ok.mp he
      obtain ⟨e₂, h₂, he⟩ := bind_eq_ok.mp he
      exact bind_eq_ok.mpr ⟨e₁, h 0 x y rfl rfl e₁ h₁, bind_eq_ok.mpr ⟨e₂,
        ih (Nat.succ.inj hlen) (fun i x y hx hy => h (i + 1) x y hx hy) h₂, he⟩⟩

/-- Two objects with the same keys list the same members, in some order. -/
theorem fields_perm (hfs : (fs.map Prod.fst).Nodup) (hgs : (gs.map Prod.fst).Nodup)
    (hkeys : ∀ k, (Json.lookup fs k).isSome = (Json.lookup gs k).isSome) :
    gs.Perm (fs.map fun p => (p.1, (Json.lookup gs p.1).getD .null)) := by
  have hnodup : ((fs.map fun p => (p.1, (Json.lookup gs p.1).getD .null)).map Prod.fst).Nodup := by
    rw [List.map_map]
    exact hfs
  refine (List.perm_ext_iff_of_nodup hgs.of_map hnodup.of_map).mpr fun q => ?_
  constructor
  · intro hq
    have hlook := lookup_of_mem hgs hq
    obtain ⟨p, hp, heq⟩ := List.mem_map.mp (lookup_isSome_iff.mp (by rw [hkeys, hlook]; rfl))
    refine List.mem_map.mpr ⟨p, hp, ?_⟩
    rw [heq, hlook]
    rfl
  · intro hq
    obtain ⟨p, hp, rfl⟩ := List.mem_map.mp hq
    have hsome : (Json.lookup gs p.1).isSome = true := by
      rw [← hkeys, lookup_of_mem hfs hp]; rfl
    obtain ⟨y, hy⟩ := Option.isSome_iff_exists.mp hsome
    rw [hy]
    exact lookup_mem hy

/-- Equal documents without floats encode alike. -/
theorem Same.dumps_eq (h : Same a b) (ha : a.wf = true) (hb : b.wf = true) (hx : b.exact = true)
    {depth : ℕ} {e : Json.Encoded} (he : b.dumps depth = .ok e) : a.dumps depth = .ok e := by
  induction h generalizing depth e with
  | float => cases hx
  | arr hlen _ ih =>
    cases depth with
    | zero => cases he
    | succ d =>
      obtain ⟨e', he', he⟩ := bind_eq_ok.mp he
      refine bind_eq_ok.mpr ⟨e', dumpsList_congr hlen (fun i x y hx' hy e hye => ?_) he', he⟩
      exact ih i x y hx' hy (wf_item ha hx') (wf_item hb hy)
        (exactList_mem hx (List.mem_of_getElem? hy)) hye
  | @obj fs gs hkeys _ ih =>
    cases depth with
    | zero => cases he
    | succ d =>
      obtain ⟨e', he', he⟩ := bind_eq_ok.mp he
      refine bind_eq_ok.mpr ⟨e', dumpsFields_congr (fun p hp e hye => ?_)
        (dumpsFields_perm (fields_perm (wf_nodup ha) (wf_nodup hb) hkeys) he'), he⟩
      have hp' := lookup_of_mem (wf_nodup ha) hp
      have hsome : (Json.lookup gs p.1).isSome = true := by
        rw [← hkeys, hp']; rfl
      obtain ⟨y, hy⟩ := Option.isSome_iff_exists.mp hsome
      rw [hy] at hye
      exact ih p.1 p.2 y hp' hy (wf_lookup ha hp') (wf_lookup hb hy)
        (exactFields_mem hx (lookup_mem hy)) hye
  | _ => exact he

theorem Same.fits (h : Same a b) (ha : a.wf = true) (hb : b.wf = true) (hx : b.exact = true)
    (hfits : Fits py b) : Fits py a := by
  obtain ⟨n, hn, hsize⟩ := hfits
  refine ⟨n, hn, ?_⟩
  unfold Json.encodedSize at hsize ⊢
  split at hsize
  · cases hsize
  · rename_i e he
    rw [h.dumps_eq ha hb hx he]
    exact hsize

mutual
/-- More depth changes nothing about an encoding that succeeds. -/
theorem dumps_mono {d d' : ℕ} (hd : d ≤ d') : ∀ {v : Json} {e : Json.Encoded},
    v.dumps d = .ok e → v.dumps d' = .ok e
  | .null, _, h | .bool _, _, h | .int _, _, h | .str _, _, h | .float (.finite _), _, h => h
  | .float .nan, _, h | .float (.inf _), _, h => by cases h
  | .arr xs, e, h => by
    match d, d', hd with
    | 0, _, _ => cases h
    | d + 1, d' + 1, hd =>
      obtain ⟨e', he, h⟩ := bind_eq_ok.mp h
      exact bind_eq_ok.mpr ⟨e', dumpsList_mono (Nat.le_of_succ_le_succ hd) he, h⟩
  | .obj fields, e, h => by
    match d, d', hd with
    | 0, _, _ => cases h
    | d + 1, d' + 1, hd =>
      obtain ⟨e', he, h⟩ := bind_eq_ok.mp h
      exact bind_eq_ok.mpr ⟨e', dumpsFields_mono (Nat.le_of_succ_le_succ hd) he, h⟩
theorem dumpsList_mono {d d' : ℕ} (hd : d ≤ d') : ∀ {xs : List Json} {e : Json.Encoded},
    Json.dumpsList d xs = .ok e → Json.dumpsList d' xs = .ok e
  | [], _, h => h
  | x :: xs, e, h => by
    obtain ⟨e₁, h₁, h⟩ := bind_eq_ok.mp h
    obtain ⟨e₂, h₂, h⟩ := bind_eq_ok.mp h
    exact bind_eq_ok.mpr ⟨e₁, dumps_mono hd h₁, bind_eq_ok.mpr ⟨e₂, dumpsList_mono hd h₂, h⟩⟩
theorem dumpsFields_mono {d d' : ℕ} (hd : d ≤ d') : ∀ {fs : List (PyStr × Json)}
    {e : Json.Encoded}, Json.dumpsFields d fs = .ok e → Json.dumpsFields d' fs = .ok e
  | [], _, h => h
  | (k, x) :: fs, e, h => by
    obtain ⟨e₁, h₁, h⟩ := bind_eq_ok.mp h
    obtain ⟨e₂, h₂, h⟩ := bind_eq_ok.mp h
    exact bind_eq_ok.mpr ⟨e₁, dumps_mono hd h₁, bind_eq_ok.mpr ⟨e₂, dumpsFields_mono hd h₂, h⟩⟩
end

/-- A document that fits at some depth the interpreter has. -/
theorem fits_of_depth {depth n : ℕ} (hd : depth ≤ 16) (h : a.encodedSize depth = .ok n)
    (hn : n ≤ maxResultBytes) : Fits py a := by
  refine ⟨n, hn, ?_⟩
  unfold Json.encodedSize at h ⊢
  split at h
  · cases h
  · rename_i e he
    rw [dumps_mono (hd.trans py.jsonDepth_ge) he]
    exact h

open LabRuntime in
theorem containsAbsolutePathList_iff {xs : List Json} :
    containsAbsolutePathList xs = true ↔ ∃ x ∈ xs, containsAbsolutePath x = true := by
  induction xs with
  | nil => simp [containsAbsolutePathList]
  | cons x xs ih => simp [containsAbsolutePathList, ih]

open LabRuntime in
theorem containsAbsolutePathFields_iff : containsAbsolutePathFields fs = true ↔
    ∃ p ∈ fs, isAbsolutePathString p.1 = true ∨ containsAbsolutePath p.2 = true := by
  induction fs with
  | nil => simp [containsAbsolutePathFields]
  | cons p ps ih => simp [containsAbsolutePathFields, ih]

open LabRuntime in
/-- Equal documents hold the same paths. -/
theorem Same.absolute (h : Same a b) (ha : a.wf = true)
    (hpath : containsAbsolutePath a = true) : containsAbsolutePath b = true := by
  induction h with
  | @arr xs ys hlen _ ih =>
    obtain ⟨x, hx, hxp⟩ := containsAbsolutePathList_iff.mp hpath
    obtain ⟨i, hi⟩ := List.mem_iff_getElem?.mp hx
    have hlt : i < ys.length := hlen ▸ (List.getElem?_eq_some_iff.mp hi).1
    have hy := List.getElem?_eq_getElem hlt
    exact containsAbsolutePathList_iff.mpr
      ⟨ys[i], List.getElem_mem hlt, ih i x ys[i] hi hy (wf_item ha hi) hxp⟩
  | @obj fs gs hkeys _ ih =>
    obtain ⟨p, hp, hpp⟩ := containsAbsolutePathFields_iff.mp hpath
    have hp' := lookup_of_mem (wf_nodup ha) hp
    have hsome : (Json.lookup gs p.1).isSome = true := by
      rw [← hkeys, hp']; rfl
    obtain ⟨y, hy⟩ := Option.isSome_iff_exists.mp hsome
    refine containsAbsolutePathFields_iff.mpr ⟨_, lookup_mem hy, ?_⟩
    exact hpp.imp_right fun hxp => ih p.1 p.2 y hp' hy (wf_lookup ha hp') hxp
  | _ => exact hpath

@[simp] theorem same_int_iff {n : ℤ} : Same a (.int n) ↔ a = .int n :=
  ⟨fun h => by cases h; rfl, fun h => h ▸ .int n⟩

@[simp] theorem same_str_iff {s : PyStr} : Same a (.str s) ↔ a = .str s :=
  ⟨same_str, fun h => h ▸ .str s⟩

/-- What equals an object: the same keys, and each member equal. -/
theorem same_obj_iff {pairs : List (String × Json)} (hn : (pairs.map Prod.fst).Nodup) :
    Same a (.dict pairs) ↔ ∃ fields, a = .obj fields ∧
      hasExactKeys fields (pairs.map Prod.fst) = true ∧
      ∀ p ∈ pairs, ∃ x, Json.lookup fields p.1 = some x ∧ Same x p.2 := by
  constructor
  · intro h
    have hall := h.symm
    unfold Json.dict at h
    cases h with
    | @obj fs _ hkeys _ =>
      have hexact : hasExactKeys fs (pairs.map Prod.fst) = true := by
        unfold hasExactKeys
        rw [Bool.and_eq_true, List.all_eq_true, List.all_eq_true]
        constructor
        · intro q hq
          have hq' : (Json.lookup fs q.1).isSome = true :=
            lookup_isSome_iff.mpr (List.mem_map_of_mem hq)
          obtain ⟨p, hp, heq⟩ := lookup_dict_isSome.mp ((hkeys q.1).symm.trans hq')
          exact List.any_eq_true.mpr ⟨p.1, List.mem_map_of_mem hp, by simp [heq]⟩
        · intro k hk
          obtain ⟨p, hp, rfl⟩ := List.mem_map.mp hk
          have hp' := (hkeys (.text p.1)).trans (lookup_dict_isSome.mpr ⟨p, hp, rfl⟩)
          obtain ⟨q, hq, heq⟩ := List.mem_map.mp (lookup_isSome_iff.mp hp')
          exact List.any_eq_true.mpr ⟨q, hq, by simp [heq]⟩
      refine ⟨fs, rfl, hexact, fun p hp => ?_⟩
      obtain ⟨x, hx⟩ := hasExactKeys_lookup hexact (List.mem_map_of_mem hp)
      exact ⟨x, hx, ((same_dict_iff hn hexact).mp hall p hp x hx).symm⟩
  · rintro ⟨fields, rfl, hexact, hall⟩
    refine ((same_dict_iff hn hexact).mpr fun p hp x hx => ?_).symm
    obtain ⟨x', hx', hsame⟩ := hall p hp
    rw [hx, Option.some.injEq] at hx'
    exact hx' ▸ hsame.symm

theorem same_arr_iff {xs ys : List Json} : Same (.arr xs) (.arr ys) ↔ List.Forall₂ Same xs ys := by
  rw [List.forall₂_iff_get]
  constructor
  · intro h
    cases h with
    | arr hlen hall =>
      exact ⟨hlen, fun i hx hy =>
        hall i _ _ (List.getElem?_eq_getElem hx) (List.getElem?_eq_getElem hy)⟩
  · rintro ⟨hlen, hall⟩
    refine .arr hlen fun i x y hx hy => ?_
    obtain ⟨hi, rfl⟩ := List.getElem?_eq_some_iff.mp hx
    obtain ⟨hi', rfl⟩ := List.getElem?_eq_some_iff.mp hy
    exact hall i hi hi'

/-! ### Playbook results -/

namespace LabRuntime

open Json (dict)

/-- The result of a playbook that collected some evidence. -/
def playbookResult (p : Playbook) (evidence : List Json) : Json :=
  dict [("playbook", Vocabulary.toJson p), ("scope", scope),
    ("attack_techniques", attackTechniques p), ("steps", steps p), ("evidence", .arr evidence)]

/-- The evidence of `CREATE_CANARY`. -/
def markerEntry (observation : String) : Json :=
  dict [("artifact", .str canaryArtifact), ("observation", .str observation),
    ("bytes", .int canaryBytes.length)]

/-- The evidence of `CLEANUP` about one artifact. -/
def removalEntry (artifact observation : String) : Json :=
  dict [("artifact", .str artifact), ("observation", .str observation)]

def removals : List String := ["artifact-removed", "artifact-absent"]

/-- The evidence a playbook may collect. -/
def evidenceLists : Playbook → List (List Json)
  | .discoveryFixtures => [fixtureDefinitions.map fun f => dict (discoveryEntry f)]
  | .collectAndStage => [(fixtureDefinitions.map collectionEntry ++ [manifestEntry]).map dict]
  | .createCanary => ["canary-created", "canary-already-present"].map fun o => [markerEntry o]
  | .cleanup => removals.flatMap fun manifest => removals.map fun canary =>
      [removalEntry manifestArtifact manifest, removalEntry canaryArtifact canary]

/-- The results of a playbook. -/
def playbookResults (p : Playbook) : List Json := (evidenceLists p).map (playbookResult p)

theorem fixture_digests :
    fixtureDefinitions.map (fun f => String.ofList (Sha256.hexdigest f.contents)) =
      ["da9a7ed976a55d584f5dd31a77f269693f09b6c1dcd149b6c521f1b1a07465db",
       "a46f9bb2d2ce533a0a189998c3934efdab7ccbfc56349a3af7b59c1279f3d8c3",
       "ebabb5d61235fe368d609570ff143b1be4f9d047fbd45c16b5eca975f41a42c4"] := by
  decide +kernel

/-- The evidence about a fixture whose digest is known. -/
def digestEntry (f : Fixture) (digest : String) : List (String × Json) :=
  [("artifact", .str f.artifact), ("observation", .str "content-hashed"),
    ("bytes", .int f.contents.length), ("sha256", .str digest)]

theorem collectionEntry_map : fixtureDefinitions.map collectionEntry =
    List.zipWith digestEntry fixtureDefinitions
      ["da9a7ed976a55d584f5dd31a77f269693f09b6c1dcd149b6c521f1b1a07465db",
       "a46f9bb2d2ce533a0a189998c3934efdab7ccbfc56349a3af7b59c1279f3d8c3",
       "ebabb5d61235fe368d609570ff143b1be4f9d047fbd45c16b5eca975f41a42c4"] := by
  rw [← fixture_digests, List.zipWith_map_right, List.zipWith_self]
  rfl

/-- A closed document that passes the checks every result passes last. -/
def sendable (v : Json) : Bool :=
  v.wf && v.exact && !containsAbsolutePath v &&
    match v.encodedSize 16 with
    | .ok n => n ≤ maxResultBytes
    | .error _ => false

theorem playbookResults_sendable (p : Playbook) : (playbookResults p).all sendable = true := by
  cases p
  case collectAndStage =>
    rw [playbookResults, evidenceLists, collectionEntry_map]
    decide
  all_goals decide

variable {items evidence : List Json} {v : Json}

theorem sendable_iff : sendable v = true ↔ v.wf = true ∧ v.exact = true ∧
    containsAbsolutePath v = false ∧ ∃ n ≤ maxResultBytes, v.encodedSize 16 = .ok n := by
  unfold sendable
  cases v.encodedSize 16 <;> simp [and_assoc]

theorem checkEntry_iff {pairs : List (String × Json)} (hn : (pairs.map Prod.fst).Nodup)
    (hw : (dict pairs).wf = true) (hv : v.wf = true) :
    checkEntry v pairs = .ok () ↔ Same v (dict pairs) := by
  simp only [checkEntry, bind_eq_ok, requireExactKeys_eq_ok, ensure_ok, sameJsonValue_iff _ _ hv hw]
  constructor
  · rintro ⟨-, -, hsame⟩
    exact hsame
  · intro hsame
    obtain ⟨fields, rfl, hkeys, -⟩ := (same_obj_iff hn).mp hsame
    exact ⟨(), ⟨fields, rfl, hkeys⟩, hsame⟩

/-- The entries a playbook expects are objects. -/
def EntriesValid (entries : List (List (String × Json))) : Prop :=
  ∀ pairs ∈ entries, (pairs.map Prod.fst).Nodup ∧ (dict pairs).wf = true

theorem checkEntries_iff {entries : List (List (String × Json))} (hvalid : EntriesValid entries)
    (hw : ∀ x ∈ items, x.wf = true) (hlen : items.length = entries.length) :
    checkEntries items entries = .ok () ↔ List.Forall₂ Same items (entries.map dict) := by
  induction items generalizing entries with
  | nil =>
    obtain rfl := List.length_eq_zero_iff.mp hlen.symm
    simp [checkEntries]
  | cons x xs ih =>
    cases entries with
    | nil => cases hlen
    | cons pairs rest =>
      obtain ⟨hn, hd⟩ := hvalid pairs List.mem_cons_self
      rw [checkEntries, bind_eq_ok, List.map_cons, List.forall₂_cons,
        ← checkEntry_iff hn hd (hw x List.mem_cons_self),
        ← ih (fun q hq => hvalid q (List.mem_cons_of_mem _ hq))
          (fun y hy => hw y (List.mem_cons_of_mem _ hy)) (Nat.succ.inj hlen)]
      exact ⟨fun ⟨_, h, hs⟩ => ⟨h, hs⟩, fun ⟨h, hs⟩ => ⟨(), h, hs⟩⟩

theorem inSet_eq_ok {names : List String} :
    inSet v (names.map PyStr.text) = .ok true ↔ ∃ o ∈ names, v = .str o := by
  unfold inSet Json.inStrSet
  cases v <;> simp [Json.hashable, Json.eqStr]

theorem sameJsonValue_int {n : ℤ} : sameJsonValue v (.int n) = true ↔ v = .int n := by
  cases v <;> simp [sameJsonValue]

/-- The observations of `CREATE_CANARY`. -/
def markings : List String := ["canary-created", "canary-already-present"]

theorem checkMarker_iff : checkMarker v = .ok () ↔ ∃ o ∈ markings, Same v (markerEntry o) := by
  have hsame : ∀ o, Same v (markerEntry o) ↔ ∃ fields, v = .obj fields ∧
      hasExactKeys fields ["artifact", "observation", "bytes"] = true ∧
      Json.lookup fields "artifact" = some (.str canaryArtifact) ∧
      Json.lookup fields "observation" = some (.str o) ∧
      Json.lookup fields "bytes" = some (.int canaryBytes.length) := fun o => by
    rw [markerEntry, same_obj_iff (by simp)]
    simp
  have hset : ([("canary-created" : PyStr), "canary-already-present"] : List PyStr) =
      markings.map PyStr.text := rfl
  simp only [hsame, checkMarker, bind_eq_ok, requireExactKeys_eq_ok, ensure_ok, Json.eqStr_iff,
    hset, sameJsonValue_int]
  constructor
  · rintro ⟨-, ⟨fields, rfl, hkeys⟩, a, ha, -, rfl, x, hx, known, hknown, -, rfl, n, hn, rfl⟩
    obtain ⟨o, ho, rfl⟩ := inSet_eq_ok.mp hknown
    exact ⟨o, ho, fields, rfl, hkeys, item_eq_ok.mp ha, item_eq_ok.mp hx, item_eq_ok.mp hn⟩
  · rintro ⟨o, ho, fields, rfl, hkeys, ha, hx, hn⟩
    exact ⟨(), ⟨fields, rfl, hkeys⟩, _, item_eq_ok.mpr ha, (), rfl, _, item_eq_ok.mpr hx, true,
      inSet_eq_ok.mpr ⟨o, ho, rfl⟩, (), rfl, _, item_eq_ok.mpr hn, rfl⟩

theorem checkRemoval_iff {artifact : String} : checkRemoval v artifact = .ok () ↔
    ∃ o ∈ removals, Same v (removalEntry artifact o) := by
  have hsame : ∀ o, Same v (removalEntry artifact o) ↔ ∃ fields, v = .obj fields ∧
      hasExactKeys fields ["artifact", "observation"] = true ∧
      Json.lookup fields "artifact" = some (.str artifact) ∧
      Json.lookup fields "observation" = some (.str o) := fun o => by
    rw [removalEntry, same_obj_iff (by simp)]
    simp
  have hset : ([("artifact-removed" : PyStr), "artifact-absent"] : List PyStr) =
      removals.map PyStr.text := rfl
  simp only [hsame, checkRemoval, bind_eq_ok, requireExactKeys_eq_ok, ensure_ok, Json.eqStr_iff,
    hset]
  constructor
  · rintro ⟨-, ⟨fields, rfl, hkeys⟩, a, ha, -, rfl, x, hx, known, hknown, rfl⟩
    obtain ⟨o, ho, rfl⟩ := inSet_eq_ok.mp hknown
    exact ⟨o, ho, fields, rfl, hkeys, item_eq_ok.mp ha, item_eq_ok.mp hx⟩
  · rintro ⟨o, ho, fields, rfl, hkeys, ha, hx⟩
    exact ⟨(), ⟨fields, rfl, hkeys⟩, _, item_eq_ok.mpr ha, (), rfl, _, item_eq_ok.mpr hx, true,
      inSet_eq_ok.mpr ⟨o, ho, rfl⟩, rfl⟩

theorem discovery_valid : EntriesValid (fixtureDefinitions.map discoveryEntry) := by
  intro pairs hp
  obtain ⟨f, -, rfl⟩ := List.mem_map.mp hp
  exact ⟨by simp [discoveryEntry], by simp [discoveryEntry, dict, Json.wf, Json.wfFields]⟩

theorem collection_valid : EntriesValid (fixtureDefinitions.map collectionEntry ++
    [manifestEntry]) := by
  intro pairs hp
  rcases List.mem_append.mp hp with hp | hp
  · obtain ⟨f, -, rfl⟩ := List.mem_map.mp hp
    exact ⟨by simp [collectionEntry], by simp [collectionEntry, dict, Json.wf, Json.wfFields]⟩
  · rw [List.mem_singleton.mp hp]
    exact ⟨by simp [manifestEntry], by simp [manifestEntry, dict, Json.wf, Json.wfFields]⟩

/-- The evidence that passes is the evidence a playbook may collect. -/
theorem checkEvidence_iff {p : Playbook} (hw : ∀ x ∈ items, x.wf = true) :
    checkEvidence p items = .ok () ↔ ∃ ev ∈ evidenceLists p, Same (.arr items) (.arr ev) := by
  have hlen : ∀ {entries : List (List (String × Json))}, List.Forall₂ Same items
      (entries.map dict) → items.length = entries.length := fun h => by
    rw [h.length_eq, List.length_map]
  cases p with
  | discoveryFixtures =>
    simp only [checkEvidence, evidenceLists, List.mem_singleton, exists_eq_left, same_arr_iff,
      bind_eq_ok, ensure_ok]
    have hmap : fixtureDefinitions.map (fun f => dict (discoveryEntry f)) =
        (fixtureDefinitions.map discoveryEntry).map dict := by rw [List.map_map]; rfl
    rw [hmap]
    constructor
    · rintro ⟨-, hl, h⟩
      exact (checkEntries_iff discovery_valid hw (by simpa using hl)).mp h
    · intro h
      have hl := hlen h
      exact ⟨(), by simpa using hl, (checkEntries_iff discovery_valid hw hl).mpr h⟩
  | collectAndStage =>
    simp only [checkEvidence, evidenceLists, List.mem_singleton, exists_eq_left, same_arr_iff,
      bind_eq_ok, ensure_ok]
    constructor
    · rintro ⟨-, hl, h⟩
      exact (checkEntries_iff collection_valid hw (by simpa using hl)).mp h
    · intro h
      have hl := hlen h
      exact ⟨(), by simpa using hl, (checkEntries_iff collection_valid hw hl).mpr h⟩
  | createCanary =>
    have hev : evidenceLists .createCanary = markings.map fun o => [markerEntry o] := rfl
    simp only [hev, List.mem_map, exists_exists_and_eq_and, same_arr_iff]
    rcases items with _ | ⟨marker, _ | ⟨_, _⟩⟩
    · simp [checkEvidence]
    · simp [checkEvidence, checkMarker_iff]
    · simp [checkEvidence]
  | cleanup =>
    simp only [evidenceLists, List.mem_flatMap, List.mem_map, same_arr_iff]
    rcases items with _ | ⟨first, _ | ⟨second, _ | ⟨_, _⟩⟩⟩
    · simp [checkEvidence]
    · simp [checkEvidence]
    · rw [checkEvidence, bind_eq_ok]
      constructor
      · rintro ⟨⟨⟩, hm, hc⟩
        obtain ⟨o, ho, hfirst⟩ := checkRemoval_iff.mp hm
        obtain ⟨o', ho', hsecond⟩ := checkRemoval_iff.mp hc
        exact ⟨_, ⟨o, ho, o', ho', rfl⟩, .cons hfirst (.cons hsecond .nil)⟩
      · rintro ⟨_, ⟨o, ho, o', ho', rfl⟩, h⟩
        obtain ⟨hfirst, h⟩ := List.forall₂_cons.mp h
        obtain ⟨hsecond, -⟩ := List.forall₂_cons.mp h
        exact ⟨(), checkRemoval_iff.mpr ⟨o, ho, hfirst⟩, checkRemoval_iff.mpr ⟨o', ho', hsecond⟩⟩
    · simp [checkEvidence]

/-- Equal results hold equal evidence. -/
theorem playbookResult_evidence {p : Playbook} {ev ev' : List Json}
    (h : Same (playbookResult p ev) (playbookResult p ev')) : List.Forall₂ Same ev ev' := by
  unfold playbookResult dict at h
  cases h with
  | obj _ hall => exact same_arr_iff.mp (hall "evidence" (.arr ev) (.arr ev') rfl rfl)

theorem markerEntry_inj {o o' : String} (h : Same (markerEntry o) (markerEntry o')) : o = o' := by
  unfold markerEntry dict at h
  cases h with
  | obj _ hall =>
    have hobs := same_str_iff.mp (hall "observation" (.str o) (.str o') rfl rfl)
    exact PyStr.text.inj (Json.str.inj hobs)

theorem removalEntry_inj {artifact o o' : String}
    (h : Same (removalEntry artifact o) (removalEntry artifact o')) : o = o' := by
  unfold removalEntry dict at h
  cases h with
  | obj _ hall =>
    have hobs := same_str_iff.mp (hall "observation" (.str o) (.str o') rfl rfl)
    exact PyStr.text.inj (Json.str.inj hobs)

/-- No two evidence lists of a playbook are equal. -/
theorem evidenceLists_distinct (p : Playbook) :
    (evidenceLists p).Pairwise fun ev ev' => ¬List.Forall₂ Same ev ev' := by
  cases p with
  | discoveryFixtures | collectAndStage => exact List.pairwise_singleton _ _
  | createCanary =>
    refine List.pairwise_map.mpr ?_
    have hne : markings.Pairwise (· ≠ ·) := by decide
    refine hne.imp fun hne h => hne ?_
    exact markerEntry_inj (List.forall₂_cons.mp h).1
  | cleanup =>
    have hpairs : evidenceLists .cleanup = (removals.product removals).map fun o =>
        [removalEntry manifestArtifact o.1, removalEntry canaryArtifact o.2] := rfl
    have hne : (removals.product removals).Pairwise (· ≠ ·) := by decide
    rw [hpairs, List.pairwise_map]
    refine hne.imp fun hne h => hne ?_
    obtain ⟨hmanifest, h⟩ := List.forall₂_cons.mp h
    exact Prod.ext (removalEntry_inj hmanifest) (removalEntry_inj (List.forall₂_cons.mp h).1)

/-- A playbook result is accepted, and returned as it came, when it is one of the results of its
    playbook. -/
theorem validatePlaybookResult_iff {p : Playbook} {r : Json} (hw : v.wf = true) :
    validatePlaybookResult py.jsonDepth (Vocabulary.toJson p) v = .ok r ↔
      r = v ∧ ∃ doc ∈ playbookResults p, Same v doc := by
  have hsame : ∀ ev, Same v (playbookResult p ev) ↔ ∃ fields, v = .obj fields ∧
      hasExactKeys fields ["playbook", "scope", "attack_techniques", "steps", "evidence"] = true ∧
      Json.lookup fields "playbook" = some (Vocabulary.toJson p) ∧
      (∃ x, Json.lookup fields "scope" = some x ∧ Same x scope) ∧
      (∃ x, Json.lookup fields "attack_techniques" = some x ∧ Same x (attackTechniques p)) ∧
      (∃ x, Json.lookup fields "steps" = some x ∧ Same x (steps p)) ∧
      ∃ x, Json.lookup fields "evidence" = some x ∧ Same x (.arr ev) := fun ev => by
    rw [playbookResult, same_obj_iff (by simp)]
    simp [Vocabulary.toJson]
  have hscope : scope.wf = true := by decide
  have htech : (attackTechniques p).wf = true := by cases p <;> decide
  have hsteps : (steps p).wf = true := by cases p <;> decide
  simp only [validatePlaybookResult, Vocabulary.parse_toJson, validateKnownPlaybookResult,
    bind_eq_ok, requireExactKeys_eq_ok, ensure_ok, Json.eqStr_iff]
  constructor
  · rintro ⟨-, ⟨fields, rfl, hkeys⟩, name, hname, -, rfl, sc, hsc, -, hscs, te, hte, -, htes, st,
      hst, -, hsts, ev, hev, h⟩
    have hin : ∀ {key : String} {x : Json}, item (.obj fields) key = .ok x → x.wf = true :=
      fun hx => wf_lookup hw (item_eq_ok.mp hx)
    split at h
    · rename_i items
      simp only [bind_eq_ok, ensure_ok, pure, Except.pure, Except.ok.injEq] at h
      obtain ⟨⟨⟩, hcheck, -, -, -, -, rfl⟩ := h
      obtain ⟨ev, hmem, hsev⟩ := (checkEvidence_iff (Json.wfList_iff.mp (hin hev))).mp hcheck
      refine ⟨rfl, _, List.mem_map_of_mem hmem, (hsame ev).mpr ⟨fields, rfl, hkeys,
        item_eq_ok.mp hname, ⟨sc, item_eq_ok.mp hsc, ?_⟩, ⟨te, item_eq_ok.mp hte, ?_⟩,
        ⟨st, item_eq_ok.mp hst, ?_⟩, _, item_eq_ok.mp hev, hsev⟩⟩
      · exact (sameJsonValue_iff _ _ (hin hsc) hscope).mp hscs
      · exact (sameJsonValue_iff _ _ (hin hte) htech).mp htes
      · exact (sameJsonValue_iff _ _ (hin hst) hsteps).mp hsts
    · cases h
  · rintro ⟨rfl, doc, hdoc, hdocs⟩
    obtain ⟨hwf, hexact, hpath, n, hn, hsize⟩ :=
      sendable_iff.mp (List.all_eq_true.mp (playbookResults_sendable p) doc hdoc)
    have hfits : Fits py r := hdocs.fits hw hwf hexact (fits_of_depth le_rfl hsize hn)
    obtain ⟨m, hm, hencoded⟩ := hfits
    have hclean : containsAbsolutePath r = false := by
      by_contra hne
      rw [Bool.not_eq_false] at hne
      rw [hdocs.absolute hw hne] at hpath
      cases hpath
    obtain ⟨ev, hmem, rfl⟩ := List.mem_map.mp hdoc
    obtain ⟨fields, rfl, hkeys, hname, ⟨sc, hsc, hscs⟩, ⟨te, hte, htes⟩, ⟨st, hst, hsts⟩, x, hx,
      hxs⟩ := (hsame ev).mp hdocs
    have hxw := wf_lookup hw hx
    cases hxs with
    | @arr items _ hlen hitems =>
      have hcheck := (checkEvidence_iff (Json.wfList_iff.mp hxw)).mpr ⟨ev, hmem, .arr hlen hitems⟩
      refine ⟨(), ⟨fields, rfl, hkeys⟩, _, item_eq_ok.mpr hname, (), rfl, sc, item_eq_ok.mpr hsc,
        (), (sameJsonValue_iff _ _ (wf_lookup hw hsc) hscope).mpr hscs, te, item_eq_ok.mpr hte, (),
        (sameJsonValue_iff _ _ (wf_lookup hw hte) htech).mpr htes, st, item_eq_ok.mpr hst, (),
        (sameJsonValue_iff _ _ (wf_lookup hw hst) hsteps).mpr hsts, _, item_eq_ok.mpr hx, ?_⟩
      simp only [hcheck, hclean, checkSize, hencoded, bind_eq_ok, ensure_ok, pure, Except.pure]
      exact ⟨(), trivial, (), trivial, (), hm, trivial⟩

end LabRuntime

/-! ### The contract -/

/-- The identity of an enrolled Node, as the Teamserver records it. -/
structure ExpectedRuntime.Valid (py : Interp) (e : ExpectedRuntime) : Prop where
  version : cleanText py (.str e.version) "version" 32 = .ok e.version
  interval : minPollIntervalMs ≤ e.pollIntervalMs ∧ e.pollIntervalMs ≤ maxPollIntervalMs
  jitter : 0 ≤ e.jitterPercent ∧ e.jitterPercent ≤ maxJitterPercent

/-- The report of a failed task. -/
def failureResult (code : FailureCode) : Json := .dict [("error_code", Vocabulary.toJson code)]

/-- The report of a `RUNTIME_STATUS` task by the Node `e`, its version as sent. -/
def statusResult (e : ExpectedRuntime) (version : PyStr) (uptime completed : ℤ) : Json :=
  .dict [("version", .str version), ("profile", Vocabulary.toJson e.profile),
    ("uptime_ms", .int uptime), ("tasks_completed", .int completed),
    ("poll_interval_ms", .int e.pollIntervalMs), ("jitter_percent", .int e.jitterPercent)]

/-- The answer to a `PING`. -/
def pongResult : Json := .dict [("reply", .str "PONG")]

/-- The answer to an `ECHO_TEXT`. -/
def echoResult (text : PyStr) : Json := .dict [("echo", .str text)]

/-- The answer to a `HASH_TEXT`, the digest of the UTF-8 form of the text. -/
def hashResult (text : String) : Json :=
  .dict [("algorithm", .str "sha256"),
    ("digest", .str (String.ofList (Sha256.hexdigest (text.toUTF8.toList.map UInt8.toNat))))]

/-- The answer to a `WAIT`. -/
def waitResult (ms : ℤ) : Json := .dict [("waited_ms", .int ms)]

/-- The answer to an `EXIT`. -/
def exitResult : Json := .dict [("acknowledged", .bool true)]

/-- The answer to a `GENERATE_EVENT`. -/
def eventResult (category : Category) (severity : Level) (message : PyStr) : Json :=
  .dict [("recorded", .bool true), ("category", Vocabulary.toJson category),
    ("severity", Vocabulary.toJson severity), ("message", .str message)]

/-- The documented results of a task: what may be sent, and what is stored of it. -/
inductive Documented (py : Interp) (e : ExpectedRuntime) (sent : Json) :
    Command → ResultStatus → Json → Prop
  | failed (c : Command) {code : FailureCode} (h : Same sent (failureResult code)) :
      Documented py e sent c .failed (failureResult code)
  | ping (h : Same sent pongResult) : Documented py e sent .ping .completed pongResult
  | echoText {text : PyStr} (h : Same sent (echoResult text)) :
      Documented py e sent (.echoText text) .completed (echoResult text)
  | hashText {text : String} (h : Same sent (hashResult text)) :
      Documented py e sent (.hashText (.text text)) .completed (hashResult text)
  | wait {ms : ℤ} (h : Same sent (waitResult ms)) :
      Documented py e sent (.wait ms) .completed (waitResult ms)
  | exit (h : Same sent exitResult) : Documented py e sent .exit .completed exitResult
  | generateEvent {category : Category} {severity : Level} {message : PyStr}
      (h : Same sent (eventResult category severity message)) :
      Documented py e sent (.generateEvent category severity message) .completed
        (eventResult category severity message)
  | sleep {interval jitter : ℤ} (h : Same sent (sleepResult e.pollIntervalMs interval jitter)) :
      Documented py e sent (.sleep interval jitter) .completed
        (sleepResult e.pollIntervalMs interval jitter)
  | runtimeStatus {version : PyStr} {uptime completed : ℤ} (hv : version.strip = e.version)
      (hup : 0 ≤ uptime ∧ uptime ≤ 2 ^ 53 - 1) (hdone : 0 ≤ completed ∧ completed ≤ 1000000)
      (h : Same sent (statusResult e version uptime completed)) (hfits : Fits py sent) :
      Documented py e sent .runtimeStatus .completed (statusResult e e.version uptime completed)
  | runPlaybook {p : Playbook} {doc : Json} (hdoc : doc ∈ LabRuntime.playbookResults p)
      (h : Same sent doc) : Documented py e sent (.runPlaybook p) .completed sent

theorem validateFailure_iff {r : Json} : validateFailure (.obj fields) fields = .ok r ↔
    ∃ code, r = failureResult code ∧ Same (.obj fields) (failureResult code) := by
  have hsame : ∀ code, Same (.obj fields) (failureResult code) ↔
      hasExactKeys fields ["error_code"] = true ∧
      Json.lookup fields "error_code" = some (Vocabulary.toJson code) := fun code => by
    rw [failureResult, same_obj_iff (by simp)]
    simp [Vocabulary.toJson]
  simp only [hsame, validateFailure, bind_eq_ok, exactKeys_eq_ok, item_eq_ok, oneOf_eq_ok, pure,
    Except.pure, Except.ok.injEq]
  constructor
  · rintro ⟨-, hkeys, x, hx, code, rfl, rfl⟩
    exact ⟨code, rfl, hkeys, hx⟩
  · rintro ⟨code, rfl, hkeys, hx⟩
    exact ⟨(), hkeys, _, hx, code, rfl, rfl⟩

theorem fixedResult_iff {doc r : Json} {message : String} (hw : a.wf = true) (hd : doc.wf = true) :
    fixedResult a doc message = .ok r ↔ r = doc ∧ Same a doc := by
  rw [← sameJsonValue_iff _ _ hw hd, fixedResult]
  split
  · rename_i h
    simp [h, eq_comm]
  · rename_i h
    simp [h]

/-- Cleaning a text looks at it without the whitespace around it. -/
theorem cleanText_eq_ok {value : Json} {field : String} {maximum : ℕ} {s : PyStr} :
    cleanText py value field maximum = .ok s ↔
      ∃ v, value = .str v ∧ v.strip = s ∧ cleanText py (.str s) field maximum = .ok s := by
  constructor
  · intro h
    obtain ⟨v, rfl, rfl⟩ := cleanText_eq_strip h
    exact ⟨v, rfl, rfl, cleanText_idem h⟩
  · rintro ⟨v, rfl, rfl, h⟩
    have hsame : cleanText py (.str v) field maximum =
        cleanText py (.str v.strip) field maximum := by
      simp only [cleanText, PyStr.strip_idem]
    rw [hsame, h]

theorem validateRuntimeStatus_iff {e : ExpectedRuntime} (he : e.Valid py) {r : Json} :
    validateRuntimeStatus py (.obj fields) fields (some e) = .ok r ↔
      ∃ version uptime completed, version.strip = e.version ∧
        (0 ≤ uptime ∧ uptime ≤ 2 ^ 53 - 1) ∧ (0 ≤ completed ∧ completed ≤ 1000000) ∧
        Same (.obj fields) (statusResult e version uptime completed) ∧
        r = statusResult e e.version uptime completed := by
  have hsame : ∀ version uptime completed,
      Same (.obj fields) (statusResult e version uptime completed) ↔
        hasExactKeys fields ["version", "profile", "uptime_ms", "tasks_completed",
          "poll_interval_ms", "jitter_percent"] = true ∧
        Json.lookup fields "version" = some (.str version) ∧
        Json.lookup fields "profile" = some (Vocabulary.toJson e.profile) ∧
        Json.lookup fields "uptime_ms" = some (.int uptime) ∧
        Json.lookup fields "tasks_completed" = some (.int completed) ∧
        Json.lookup fields "poll_interval_ms" = some (.int e.pollIntervalMs) ∧
        Json.lookup fields "jitter_percent" = some (.int e.jitterPercent) := by
    intro version uptime completed
    rw [statusResult, same_obj_iff (by simp)]
    simp [Vocabulary.toJson]
  simp only [hsame, validateRuntimeStatus, bind_eq_ok, exactKeys_eq_ok, item_eq_ok,
    boundedInt_eq_ok, validatePollInterval, validateJitterPercent, validateProfile_eq_ok, ensure_ok,
    pure, Except.pure, Except.ok.injEq]
  constructor
  · rintro ⟨-, hkeys, x, hx, s, hs, y, hy, p, rfl, u, hu, k, hk, i, hi, _, ⟨rfl, -⟩, j, hj, _,
      ⟨rfl, -⟩, uptime, ⟨rfl, hup⟩, completed, ⟨rfl, hdone⟩, -, ⟨rfl, rfl, rfl, rfl⟩, rfl⟩
    obtain ⟨version, rfl, hv⟩ := cleanText_eq_strip hs
    exact ⟨version, uptime, completed, hv.symm, hup, hdone, ⟨hkeys, hx, hy, hu, hk, hi, hj⟩, rfl⟩
  · rintro ⟨version, uptime, completed, hv, hup, hdone, ⟨hkeys, hx, hy, hu, hk, hi, hj⟩, rfl⟩
    exact ⟨(), hkeys, _, hx, e.version, cleanText_eq_ok.mpr ⟨version, rfl, hv, he.version⟩, _, hy,
      e.profile, rfl, _, hu, _, hk, _, hi, _, ⟨rfl, he.interval⟩, _, hj, _, ⟨rfl, he.jitter⟩,
      uptime, ⟨rfl, hup⟩, completed, ⟨rfl, hdone⟩, (), ⟨rfl, rfl, rfl, rfl⟩, rfl⟩

theorem validateSleep_iff {e : ExpectedRuntime} (he : e.Valid py) {interval jitter : ℤ}
    (hc : (Command.sleep interval jitter).Valid py) {r : Json} :
    validateSleep (.obj fields) fields interval jitter (some e) = .ok r ↔
      r = sleepResult e.pollIntervalMs interval jitter ∧
        Same (.obj fields) (sleepResult e.pollIntervalMs interval jitter) := by
  have hsame : Same (.obj fields) (sleepResult e.pollIntervalMs interval jitter) ↔
      hasExactKeys fields ["previous_interval_ms", "new_interval_ms", "jitter_percent"] = true ∧
      Json.lookup fields "previous_interval_ms" = some (.int e.pollIntervalMs) ∧
      Json.lookup fields "new_interval_ms" = some (.int interval) ∧
      Json.lookup fields "jitter_percent" = some (.int jitter) := by
    rw [sleepResult, same_obj_iff (by simp)]
    simp
  rw [validateSleep_eq_ok, hsame]
  constructor
  · rintro ⟨hkeys, hprev, hnew, hj, -, -, -, rfl⟩
    exact ⟨rfl, hkeys, hprev, hnew, hj⟩
  · rintro ⟨rfl, hkeys, hprev, hnew, hj⟩
    exact ⟨hkeys, hprev, hnew, hj, he.interval, hc.1, hc.2, rfl⟩

/-- The object a task leaves no choice about is documented. -/
theorem Documented.of_expected {e : ExpectedRuntime} {c : Command} (hc : c.Valid py) {doc : Json}
    (hexp : expectedResult c = some doc) (h : Same a doc) : Documented py e a c .completed doc := by
  cases c with
  | ping =>
    cases hexp
    exact .ping h
  | echoText text =>
    cases hexp
    exact .echoText h
  | hashText text =>
    cases text with
    | text s =>
      cases hexp
      exact .hashText h
    | lone codes hlone =>
      -- a text that was accepted has no lone surrogate
      simp only [Command.Valid, cleanText, PyStr.strip, PyStr.allChars, Bool.false_eq_true,
        if_false] at hc
      split at hc <;> cases hc
  | wait ms =>
    cases hexp
    exact .wait h
  | exit =>
    cases hexp
    exact .exit h
  | generateEvent category severity message =>
    cases hexp
    exact .generateEvent h
  | runtimeStatus | sleep | runPlaybook => cases hexp

/-- Nothing else is documented for such a task. -/
theorem Documented.eq_expected {e : ExpectedRuntime} {c : Command} {r doc : Json}
    (h : Documented py e a c .completed r) (hexp : expectedResult c = some doc) :
    r = doc ∧ Same a doc := by
  cases h with
  | ping h | echoText h | hashText h | wait h | exit h | generateEvent h =>
    cases hexp
    exact ⟨rfl, h⟩
  | sleep | runtimeStatus | runPlaybook => cases hexp

theorem fits_of_expected {c : Command} (hc : c.Valid py) {doc : Json}
    (hexp : expectedResult c = some doc) (h : Same a doc) (hw : a.wf = true) : Fits py a := by
  have hexact : doc.exact = true := by
    cases c <;> cases hexp <;> simp [Json.dict, Json.exact, Json.exactFields, Vocabulary.toJson]
  exact h.fits hw (expectedResult_wf hexp) hexact (fits_expected hc hexp)

/-- A documented result passes the envelope check. -/
theorem Documented.fits {e : ExpectedRuntime} (he : e.Valid py) {c : Command} (hc : c.Valid py)
    {st : ResultStatus} {r : Json} (h : Documented py e a c st r) (hw : a.wf = true) :
    Fits py a := by
  cases h with
  | @failed _ code h =>
    have hcode : Json.Compact (Vocabulary.toJson code) 86 :=
      compact_name code (by cases code <;> decide)
    exact h.fits hw (by simp [failureResult, Json.dict, Json.wf, Json.wfFields, Vocabulary.toJson])
      (by simp [failureResult, Json.dict, Json.exact, Json.exactFields, Vocabulary.toJson])
      (fits_of_compact (.cons hcode Json.compact_nil) (by dsimp only; decide))
  | ping h | echoText h | hashText h | wait h | exit h | generateEvent h =>
    exact fits_of_expected hc rfl h hw
  | sleep h =>
    exact h.fits hw (by simp [sleepResult, Json.dict, Json.wf, Json.wfFields])
      (by simp [sleepResult, Json.dict, Json.exact, Json.exactFields]) (fits_sleep he.interval hc)
  | runtimeStatus _ _ _ _ hfits => exact hfits
  | @runPlaybook p doc hdoc h =>
    obtain ⟨hwf, hexact, -, n, hn, hsize⟩ := LabRuntime.sendable_iff.mp
      (List.all_eq_true.mp (LabRuntime.playbookResults_sendable p) doc hdoc)
    exact h.fits hw hwf hexact (fits_of_depth le_rfl hsize hn)

/-- A documented result is an object. -/
theorem Documented.is_obj {e : ExpectedRuntime} {c : Command} {st : ResultStatus} {r : Json}
    (h : Documented py e a c st r) : ∃ fields, a = .obj fields := by
  have hobj : ∀ {gs : List (PyStr × Json)}, Same a (.obj gs) → ∃ fields, a = .obj fields := by
    intro gs hsame
    cases hsame
    exact ⟨_, rfl⟩
  cases h with
  | failed _ h | sleep h | runtimeStatus _ _ _ h => exact hobj h
  | ping h | echoText h | hashText h | wait h | exit h | generateEvent h => exact hobj h
  | runPlaybook hdoc h =>
    obtain ⟨ev, -, rfl⟩ := List.mem_map.mp hdoc
    exact hobj h

/-- On an object that fits, the contract of a task takes the documented results. -/
theorem validateContract_iff {e : ExpectedRuntime} (he : e.Valid py) {c : Command}
    (hc : c.Valid py) {st : ResultStatus} {r : Json} (hw : (Json.obj fields).wf = true)
    (hfits : Fits py (.obj fields)) :
    validateContract py c st (.obj fields) fields (some e) = .ok r ↔
      Documented py e (.obj fields) c st r := by
  cases st with
  | failed =>
    rw [validateContract, validateFailure_iff]
    constructor
    · rintro ⟨code, rfl, h⟩
      exact .failed c h
    · rintro (@⟨_, code, h⟩)
      exact ⟨code, rfl, h⟩
  | completed =>
    have hfixed : ∀ {doc : Json} {message : String}, expectedResult c = some doc →
        (fixedResult (.obj fields) doc message = .ok r ↔
          Documented py e (.obj fields) c .completed r) := by
      intro doc message hexp
      rw [fixedResult_iff hw (expectedResult_wf hexp)]
      constructor
      · rintro ⟨rfl, h⟩
        exact .of_expected hc hexp h
      · exact fun h => h.eq_expected hexp
    cases c with
    | runtimeStatus =>
      rw [validateContract, validateRuntimeStatus_iff he]
      constructor
      · rintro ⟨version, uptime, completed, hv, hup, hdone, h, rfl⟩
        exact .runtimeStatus hv hup hdone h hfits
      · intro h
        cases h with
        | runtimeStatus hv hup hdone h => exact ⟨_, _, _, hv, hup, hdone, h, rfl⟩
    | sleep interval jitter =>
      rw [validateContract, validateSleep_iff he hc]
      constructor
      · rintro ⟨rfl, h⟩
        exact .sleep h
      · intro h
        cases h with
        | sleep h => exact ⟨rfl, h⟩
    | runPlaybook p =>
      rw [validateContract, asProtocolError_eq_ok, LabRuntime.validatePlaybookResult_iff hw]
      constructor
      · rintro ⟨rfl, doc, hdoc, h⟩
        exact .runPlaybook hdoc h
      · intro h
        cases h with
        | runPlaybook hdoc h => exact ⟨rfl, _, hdoc, h⟩
    | ping | echoText | hashText | wait | generateEvent | exit => exact hfixed rfl

/-- How many results a playbook has. -/
def resultCount : Playbook → ℕ
  | .discoveryFixtures | .collectAndStage => 1
  | .createCanary => 2
  | .cleanup => 4

/-- The result contract. For any payload that passed its check and any runtime a Node may enroll
    with, the results a task accepts are the documented ones, each stored as documented; a playbook
    has one, two or four of them, no two of them equal. -/
theorem result_contract {taskType payload : Json} {c : Command}
    (hc : validateTaskPayload py taskType payload = .ok c) {e : ExpectedRuntime} (he : e.Valid py) :
    (∀ (status : Json) (sent : Document) (st : ResultStatus) (r : Json),
      validateTaskResult py c status sent.1 (some e) = .ok (st, r) ↔
        status = Vocabulary.toJson st ∧ Documented py e sent.1 c st r) ∧
    ∀ p, (LabRuntime.playbookResults p).length = resultCount p ∧
      (LabRuntime.playbookResults p).Pairwise fun a b => ¬Same a b := by
  obtain ⟨hvalid, -⟩ := validateTaskPayload_valid hc
  refine ⟨fun status sent st r => ?_, fun p => ?_⟩
  · rw [validateTaskResult_eq_ok]
    constructor
    · rintro ⟨fields, hfields, henv, hcon⟩
      obtain ⟨hst, -, -, hfits⟩ := validateResult_eq_ok.mp henv
      have hw := sent.2
      rw [hfields] at hw hfits hcon ⊢
      exact ⟨hst, (validateContract_iff he hvalid hw hfits).mp hcon⟩
    · rintro ⟨hst, h⟩
      have hfits := h.fits he hvalid sent.2
      obtain ⟨fields, hfields⟩ := h.is_obj
      have hw := sent.2
      refine ⟨fields, hfields, validateResult_eq_ok.mpr ⟨hst, rfl, ⟨fields, hfields⟩, hfits⟩, ?_⟩
      rw [hfields] at hw hfits h ⊢
      exact (validateContract_iff he hvalid hw hfits).mpr h
  · refine ⟨by cases p <;> rfl, ?_⟩
    rw [LabRuntime.playbookResults, List.pairwise_map]
    refine (LabRuntime.evidenceLists_distinct p).imp fun hne hsame => hne ?_
    exact LabRuntime.playbookResult_evidence hsame

/-- The runtime of the Node that the checks enroll. -/
def Counting.runtime : ExpectedRuntime :=
  { version := "0.2.0", profile := .training, pollIntervalMs := 1000, jitterPercent := 0 }

/-- A report of its runtime at both limits, by that Node with its version padded: accepted, and
    stored without the padding. -/
theorem result_contract_status :
    validateTaskResult World.counting.toInterp .runtimeStatus (.str "completed")
      (statusResult Counting.runtime " 0.2.0" (2 ^ 53 - 1) 1000000) (some Counting.runtime) =
        .ok (.completed, statusResult Counting.runtime "0.2.0" (2 ^ 53 - 1) 1000000) := by
  have hc : validateTaskPayload World.counting.toInterp (Vocabulary.toJson TaskType.runtimeStatus)
      (.obj []) = .ok .runtimeStatus := rfl
  have he : Counting.runtime.Valid World.counting.toInterp := ⟨rfl, by decide, by decide⟩
  have hw : (statusResult Counting.runtime " 0.2.0" (2 ^ 53 - 1) 1000000).wf = true := by decide
  have hsame : Same (statusResult Counting.runtime " 0.2.0" (2 ^ 53 - 1) 1000000)
      (statusResult Counting.runtime " 0.2.0" (2 ^ 53 - 1) 1000000) :=
    (sameJsonValue_iff _ _ hw hw).mp (by decide)
  have hfits : Fits World.counting.toInterp
      (statusResult Counting.runtime " 0.2.0" (2 ^ 53 - 1) 1000000) :=
    ⟨_, by decide, rfl⟩
  exact ((result_contract hc he).1 (.str "completed") ⟨_, hw⟩ .completed _).mpr
    ⟨rfl, .runtimeStatus rfl (by decide) (by decide) hsame hfits⟩

end C2Lab
