import C2Lab.Workspace.Sound

/-! One execution of a playbook, and what is left of the workspace when one of its calls to the
    operating system fails.

    Between playbooks the members in order are the shelf, `Stores`. A `Profile` counts the calls of
    a part of an execution and tells the fragile ones: when such a call fails the registers no
    longer agree with the directory or the handles, and when any other fails a shelf is left in
    order. -/

namespace C2Lab.LabRuntime

open Json (dict)

/-- The artifact of a member and its bytes. -/
def Member.pair (m : Member) : String × List ℕ := (m.artifact, m.contents)

/-- The workspace holds exactly what is on the shelf. -/
def Stores (s : Shelf) (ws : Workspace) : Prop :=
  ∃ l : List Member, l.map Member.pair = s ∧ Holds l ws

/-- The evidence a playbook finds, `names` being the artifacts registered before it. -/
def evidenceOf (names : List String) : Playbook → List Json
  | .discoveryFixtures => fixtureDefinitions.map fun f => dict (discoveryEntry f)
  | .collectAndStage => (fixtureDefinitions.map collectionEntry ++ [manifestEntry]).map dict
  | .createCanary =>
    [markerEntry (if canaryArtifact ∈ names then "canary-already-present" else "canary-created")]
  | .cleanup => [manifestArtifact, canaryArtifact].map fun artifact =>
    removalEntry artifact (if artifact ∈ names then "artifact-removed" else "artifact-absent")

variable {host : Host} {l : List Member} {ws : Workspace} {s : Shelf}

theorem map_artifact (l : List Member) :
    l.map (·.artifact) = Shelf.names (l.map Member.pair) := by
  rw [Shelf.names, List.map_map]
  rfl

theorem others_pair (artifact : String) (l : List Member) :
    (others artifact l).map Member.pair = Shelf.without artifact (l.map Member.pair) := by
  rw [Shelf.without, List.filter_map]
  rfl

theorem totalBytes_pair (l : List Member) :
    totalBytes l = ((l.map Member.pair).map fun p => p.2.length).sum := by
  rw [totalBytes, List.map_map]
  rfl

/-- A shelf in order fits into the workspace. -/
theorem Stock.bounded (h : Stock (l.map Member.pair)) : Bounded l := by
  refine ⟨?_, fun m hm => h.each (List.mem_map_of_mem hm), ?_⟩
  · have hcount := h.count
    rwa [List.length_map] at hcount
  · exact totalBytes_pair l ▸ h.total

/-- There is room for what is not on the shelf yet. -/
theorem Stock.room {artifact : String} {bytes : List ℕ} (h : Stock (l.map Member.pair))
    (hnew : artifact ∉ l.map (·.artifact)) (hknown : (artifact, bytes) ∈ inventory) :
    l.length < maxWorkspaceFiles ∧ bytes.length ≤ maxArtifactBytes ∧
      totalBytes l + bytes.length ≤ maxWorkspaceBytes := by
  rw [map_artifact] at hnew
  have hadd := h.add hnew hknown
  have hcount := hadd.count
  have htotal := hadd.total
  simp only [List.length_append, List.length_map, List.length_singleton] at hcount
  simp only [List.map_append, List.sum_append, List.map_singleton, List.sum_singleton,
    ← totalBytes_pair] at htotal
  exact ⟨hcount, inventory_bounded.1 _ hknown, htotal⟩

/-- The evidence is some the contract knows. -/
theorem evidenceOf_mem (names : List String) (p : Playbook) :
    evidenceOf names p ∈ evidenceLists p := by
  cases p with
  | discoveryFixtures | collectAndStage => exact List.mem_singleton.mpr rfl
  | createCanary =>
    simp only [evidenceOf, evidenceLists]
    split <;> simp
  | cleanup =>
    simp only [evidenceOf, evidenceLists, removals, List.map_cons, List.map_nil]
    split <;> split <;> simp

variable {py : Interp}

/-- A result that was assembled from evidence the contract knows passes its own check. -/
theorem validate_playbookResult {p : Playbook} {ev : List Json} (hev : ev ∈ evidenceLists p) :
    validatePlaybookResult py.jsonDepth (Vocabulary.toJson p) (playbookResult p ev) =
      .ok (playbookResult p ev) := by
  have hmem : playbookResult p ev ∈ playbookResults p := List.mem_map_of_mem hev
  obtain ⟨hwf, hexact, -⟩ :=
    sendable_iff.mp (List.all_eq_true.mp (playbookResults_sendable p) _ hmem)
  exact (validatePlaybookResult_iff hwf).mpr ⟨rfl, _, hmem, Same.refl hexact⟩

theorem fixture_affixes : ∀ f ∈ fixtureDefinitions.zip fixtureAffixes, SafeAffixes f.2.1 f.2.2 := by
  have h : ∀ a ∈ fixtureAffixes, a.1.toList.all isMemberChar = true ∧ 2 ≤ a.1.toList.length ∧
      a.2.toList.all isMemberChar = true := by decide
  intro f hf
  obtain ⟨hpre, hlong, hsuffix⟩ := h _ (List.of_mem_zip hf).2
  exact safeAffixes_of_all hpre hlong hsuffix

theorem manifest_affixes : SafeAffixes "stage-manifest-" ".json" :=
  safeAffixes_of_all (by decide) (by decide) (by decide)

theorem canary_affixes : SafeAffixes "marker-canary-" ".json" :=
  safeAffixes_of_all (by decide) (by decide) (by decide)

/-! ### What a failed call leaves -/

/-- The registers, the directory and the open handles agree. -/
structure Intact (ws : Workspace) : Prop where
  listed : ∀ name, name ∈ ws.entries.keys ↔ name ∈ ws.artifacts.values
  handled : ∀ name, name ∈ ws.handles.keys ↔ name ∈ ws.artifacts.values
  opened : ∀ name handle, ws.handles.get? name = some handle →
    ws.entries.get? name = some { kind := .regular, inode := handle } ∧
      ∃ f, ws.files.get? handle = some f ∧ f.closed = false

/-- The workspace holds a shelf in order, the fixtures among it. -/
def Orderly (ws : Workspace) : Prop := ∃ s, Stock s ∧ fixtureShelf ⊆ s ∧ Stores s ws

theorem Stores.names (hs : Stores s ws) : ws.artifacts.keys = s.names := by
  obtain ⟨l, rfl, hl⟩ := hs
  rw [hl.artifact_keys, map_artifact]

theorem Stores.intact (hs : Stores s ws) : Intact ws := by
  obtain ⟨l, -, hl⟩ := hs
  refine ⟨fun name => ?_, fun name => ?_, fun name handle hget => ?_⟩
  · rw [hl.entry_keys, hl.artifact_values]
  · rw [hl.handle_keys, hl.artifact_values]
  · have hmem := Dict.get?_eq_some.mp hget
    rw [hl.handles, List.mem_map] at hmem
    obtain ⟨m, hm, hpair⟩ := hmem
    obtain ⟨rfl, rfl⟩ : m.name = name ∧ m.inode = handle := by simpa using hpair
    obtain ⟨position, hfile⟩ := hl.files m hm
    exact ⟨hl.entry_get? hm, _, hfile, rfl⟩

theorem Ghost.not_intact (h : Ghost l ws) : ¬ Intact ws := by
  obtain ⟨m, hfresh, hl⟩ := h
  intro hintact
  have hlisted := (hintact.listed m.name).mpr (by simp [hl.artifact_values])
  rw [hl.entry_keys] at hlisted
  exact hfresh hlisted

theorem Shut.not_intact (h : Shut l ws) : ¬ Intact ws := by
  obtain ⟨m, hm, hl, f, hf, hclosed⟩ := h
  intro hintact
  obtain ⟨-, f', hf', hopen⟩ := hintact.opened m.name m.inode (hl.handle_get? hm)
  rw [hf, Option.some.injEq] at hf'
  rw [← hf', hclosed] at hopen
  cases hopen

/-! ### Shelves -/

/-- What is new goes onto the shelf. -/
theorem createMember_stores (hone : host.FailsOnce) {artifact pre suffix : String} {bytes : List ℕ}
    (hs : Stores s ws) (h : Stock s) (haff : SafeAffixes pre suffix) (hnew : artifact ∉ s.names)
    (hknown : (artifact, bytes) ∈ inventory) :
    Attempts host (createMember host artifact pre suffix bytes) (creationCalls s.length)
      (fun _ => Stores (s ++ [(artifact, bytes)]))
      (fun i t => if i = s.length + 3 then ¬ Intact t else Stores s t) ws := by
  obtain ⟨l, rfl, hl⟩ := hs
  rw [← map_artifact] at hnew
  obtain ⟨hcount, hsize, htotal⟩ := h.room hnew hknown
  rw [List.length_map]
  refine attempts_mono (createMember_attempts hone hl haff hnew hcount hsize htotal) ?_ ?_
  · rintro _ t ⟨name, inode, ht⟩
    exact ⟨_, by simp [Member.pair], ht⟩
  · intro i _ t ht
    split
    · rename_i hlast
      rw [if_pos hlast] at ht
      exact ht.not_intact
    · rename_i hlast
      rw [if_neg hlast] at ht
      exact ⟨l, rfl, ht⟩

/-- What is on the shelf can be read. -/
theorem readArtifact_stores {artifact : String} {bytes : List ℕ} (hs : Stores s ws) (h : Stock s)
    (hmem : (artifact, bytes) ∈ s) :
    Attempts host (readArtifact host artifact) 5 (fun data t => data = bytes ∧ Stores s t)
      (fun _ => Stores s) ws := by
  obtain ⟨l, rfl, hl⟩ := hs
  obtain ⟨m, hm, hpair⟩ := List.mem_map.mp hmem
  obtain ⟨rfl, rfl⟩ : m.artifact = artifact ∧ m.contents = bytes := by
    simpa [Member.pair] using hpair
  refine attempts_mono (readArtifact_attempts hl hm (h.each hmem)) ?_ ?_
  · rintro _ t ⟨rfl, ht⟩
    exact ⟨rfl, l, rfl, ht⟩
  · exact fun _ _ t ht => ⟨l, rfl, ht⟩

theorem assertWorkspace_stores (hs : Stores s ws) (h : Stock s) :
    Attempts host (assertWorkspace host) (checkCalls s.length) (fun _ => Stores s)
      (fun _ => Stores s) ws := by
  obtain ⟨l, rfl, hl⟩ := hs
  rw [List.length_map]
  exact attempts_mono (assertWorkspace_attempts hl h.bounded) (fun _ _ ht => ⟨l, rfl, ht⟩)
    fun _ _ _ ht => ⟨l, rfl, ht⟩

/-- The fixtures are read as they were made. -/
theorem readFixtures_stores (hs : Stores s ws) (h : Stock s) (fs : List Fixture)
    (hfs : ∀ f ∈ fs, (f.artifact, f.contents) ∈ s) :
    Attempts host (readFixtures host fs) (5 * fs.length) (fun read t => read = fs ∧ Stores s t)
      (fun _ => Stores s) ws := by
  induction fs generalizing ws with
  | nil => exact attempts_zero ⟨rfl, rfl, hs⟩
  | cons f fs ih =>
    rw [readFixtures]
    refine attempts_bind (5 * fs.length) (by simp only [List.length_cons]; omega)
      (readArtifact_stores hs h (hfs f List.mem_cons_self)) ?_
    rintro _ t ⟨rfl, ht⟩
    refine attempts_then (ih ht fun x hx => hfs x (List.mem_cons_of_mem _ hx)) ?_
    rintro _ t ⟨rfl, ht⟩
    exact ⟨rfl, rfl, ht⟩

/-! ### Profiles -/

/-- The calls of a part of an execution: how many there are, and which of them are fragile. -/
structure Profile where
  calls : ℕ
  fragile : List ℕ
  fragile_lt : ∀ i ∈ fragile, i < calls

namespace Profile

/-- Calls that leave nothing behind. -/
def quiet (calls : ℕ) : Profile := ⟨calls, [], by simp⟩

/-- One part after another. -/
def andThen (a b : Profile) : Profile where
  calls := a.calls + b.calls
  fragile := a.fragile ++ b.fragile.map (a.calls + ·)
  fragile_lt i hi := by
    rcases List.mem_append.mp hi with hi | hi
    · exact (a.fragile_lt i hi).trans_le (Nat.le_add_right _ _)
    · obtain ⟨j, hj, rfl⟩ := List.mem_map.mp hi
      exact Nat.add_lt_add_left (b.fragile_lt j hj) _

/-- Of `_remove_artifact`: the removal of the file, when there is one. -/
def removal (present : Bool) : Profile := if present then ⟨2, [1], by simp⟩ else quiet 0

/-- Of `_create_member` beside some members: the check of the member it registered. -/
def creation (members : ℕ) : Profile :=
  ⟨creationCalls members, [members + 3], by simp [creationCalls]⟩

/-- Of a playbook, `names` being the artifacts registered before it. -/
def ofPlaybook (names : List String) : Playbook → Profile
  | .discoveryFixtures => quiet (5 * fixtureDefinitions.length)
  | .collectAndStage =>
    (removal (manifestArtifact ∈ names)).andThen ((quiet (5 * fixtureDefinitions.length)).andThen
      (creation (names.filter (· ≠ manifestArtifact)).length))
  | .createCanary => if canaryArtifact ∈ names then quiet 5 else creation names.length
  | .cleanup => (removal (manifestArtifact ∈ names)).andThen (removal (canaryArtifact ∈ names))

end Profile

/-- The fragile calls of `execute`, counted from its start. -/
def fragileCalls (names : List String) (p : Playbook) : List ℕ :=
  ((Profile.quiet (checkCalls names.length)).andThen (Profile.ofPlaybook names p)).fragile

/-- A part with this profile: where one of its calls fails, the workspace is in order exactly when
    the call is not fragile. -/
abbrev Runs (host : Host) {α : Type} (a : Profile) (x : Work α) (Q : α → Workspace → Prop)
    (ws : Workspace) : Prop :=
  Attempts host x a.calls Q (fun i t => if i ∈ a.fragile then ¬ Intact t else Orderly t) ws

section
variable {α β : Type} {a b : Profile} {x : Work α} {f : α → Work β} {P : α → Workspace → Prop}
  {Q : β → Workspace → Prop}

theorem runs_bind (hx : Runs host a x P ws) (hf : ∀ v t, P v t → Runs host b (f v) Q t) :
    Runs host (a.andThen b) (x >>= f) Q ws := by
  refine attempts_bind b.calls rfl (attempts_mono hx (fun _ _ h => h) ?_)
    fun v t h => attempts_mono (hf v t h) (fun _ _ h => h) ?_
  · intro i hi t ht
    have hsame : i ∈ (a.andThen b).fragile ↔ i ∈ a.fragile := by
      simp only [Profile.andThen, List.mem_append, List.mem_map, or_iff_left_iff_imp]
      rintro ⟨j, -, rfl⟩
      omega
    simpa only [hsame] using ht
  · intro i hi t ht
    have hsame : a.calls + i ∈ (a.andThen b).fragile ↔ i ∈ b.fragile := by
      have hlt : a.calls + i ∉ a.fragile := fun hmem => by
        have := a.fragile_lt _ hmem
        omega
      simp [Profile.andThen, hlt]
    simpa only [hsame] using ht

theorem runs_quiet {n : ℕ} (hx : Attempts host x n P (fun _ => Stores s) ws) (h : Stock s)
    (hfixtures : fixtureShelf ⊆ s) : Runs host (.quiet n) x P ws := by
  refine attempts_mono hx (fun _ _ h => h) fun i _ t ht => ?_
  rw [if_neg (by simp [Profile.quiet])]
  exact ⟨s, h, hfixtures, ht⟩

end

/-- What is taken from the shelf is gone, and the answer tells whether it was there. -/
theorem removeArtifact_runs (hs : Stores s ws) (h : Stock s) (hfixtures : fixtureShelf ⊆ s)
    (artifact : String) :
    Runs host (.removal (artifact ∈ s.names)) (removeArtifact host artifact)
      (fun removed t => removed = decide (artifact ∈ s.names) ∧ Stores (s.without artifact) t)
      ws := by
  obtain ⟨l, rfl, hl⟩ := hs
  rw [← map_artifact]
  by_cases hmem : artifact ∈ l.map (·.artifact)
  · obtain ⟨m, hm, rfl⟩ := List.mem_map.mp hmem
    simp only [hmem, decide_true, Profile.removal, if_true]
    refine attempts_mono (removeArtifact_attempts hl hm) ?_ ?_
    · rintro _ t ⟨rfl, ht⟩
      exact ⟨rfl, _, others_pair m.artifact l, ht⟩
    · intro i _ t ht
      simp only [List.mem_singleton]
      split
      · rename_i hlast
        rw [if_pos hlast] at ht
        exact ht.not_intact
      · rename_i hlast
        rw [if_neg hlast] at ht
        exact ⟨_, h, hfixtures, l, rfl, ht⟩
  · simp only [hmem, decide_false, Profile.removal, Bool.false_eq_true, if_false]
    refine attempts_zero (Prog.wp_imp (removeArtifact_absent hl hmem) ?_)
    rintro _ _ ⟨rfl, rfl⟩
    exact ⟨rfl, rfl, l, by rw [← others_pair, others_of_not_mem hmem], hl⟩

theorem createMember_runs (hone : host.FailsOnce) {artifact pre suffix : String} {bytes : List ℕ}
    (hs : Stores s ws) (h : Stock s) (hfixtures : fixtureShelf ⊆ s)
    (haff : SafeAffixes pre suffix) (hnew : artifact ∉ s.names)
    (hknown : (artifact, bytes) ∈ inventory) :
    Runs host (.creation s.length) (createMember host artifact pre suffix bytes)
      (fun _ => Stores (s ++ [(artifact, bytes)])) ws := by
  refine attempts_mono (createMember_stores hone hs h haff hnew hknown) (fun _ _ h => h) ?_
  intro i _ t ht
  simp only [Profile.creation, List.mem_singleton]
  split
  · rename_i hlast
    rwa [if_pos hlast] at ht
  · rename_i hlast
    rw [if_neg hlast] at ht
    exact ⟨s, h, hfixtures, ht⟩

/-! ### Playbooks -/

theorem names_without (artifact : String) (s : Shelf) :
    (s.without artifact).names = s.names.filter (· ≠ artifact) := by
  rw [Shelf.names, Shelf.names, Shelf.without, List.filter_map]
  rfl

theorem fixtures_without (hfixtures : fixtureShelf ⊆ s) :
    fixtureShelf ⊆ s.without manifestArtifact :=
  fun x hx => mem_without.mpr ⟨hfixtures hx, (fixture_names x hx).1⟩

theorem Shelf.length_names (s : Shelf) : s.names.length = s.length := List.length_map ..

/-- The evidence of a playbook, and what it does to the shelf. -/
theorem collectEvidence_runs (hone : host.FailsOnce) (hs : Stores s ws) (h : Stock s)
    (hfixtures : fixtureShelf ⊆ s) (p : Playbook) :
    Runs host (.ofPlaybook s.names p) (collectEvidence host p)
      (fun evidence t => evidence = evidenceOf s.names p ∧ Stores (shelve p s) t) ws := by
  have hread : ∀ {s' : Shelf}, fixtureShelf ⊆ s' →
      ∀ f ∈ fixtureDefinitions, (f.artifact, f.contents) ∈ s' :=
    fun hsub f hf => hsub (List.mem_map_of_mem hf)
  cases p with
  | discoveryFixtures =>
    show Runs host _ (discoverFixtures host) _ ws
    refine attempts_then (runs_quiet (readFixtures_stores hs h _ (hread hfixtures)) h hfixtures) ?_
    rintro _ t ⟨rfl, ht⟩
    exact ⟨rfl, rfl, ht⟩
  | collectAndStage =>
    show Runs host _ (collectAndStage host) _ ws
    have hsub := fixtures_without hfixtures
    refine runs_bind (removeArtifact_runs hs h hfixtures manifestArtifact) ?_
    rintro _ t ⟨-, ht⟩
    refine runs_bind (runs_quiet (readFixtures_stores ht (h.without _) _ (hread hsub))
      (h.without _) hsub) ?_
    rintro _ t ⟨rfl, ht⟩
    rw [manifest_text, ← names_without, Shelf.length_names]
    refine attempts_then (createMember_runs hone ht (h.without _) hsub manifest_affixes
      (not_mem_without s _) (by simp [inventory])) ?_
    exact fun _ t ht => ⟨rfl, rfl, ht⟩
  | createCanary =>
    show Runs host _ (createCanary host) _ ws
    unfold createCanary
    refine (Prog.wp_bind _ _).mpr (Prog.wp_get.mpr ?_)
    rw [hs.names]
    simp only [Profile.ofPlaybook, evidenceOf, shelve]
    split
    · rename_i hname
      have hmem := h.mem_of_name (x := (canaryArtifact, canaryBytes)) (by simp [inventory]) hname
      refine attempts_then (runs_quiet (readArtifact_stores hs h hmem) h hfixtures) ?_
      rintro _ t ⟨-, ht⟩
      exact ⟨rfl, rfl, ht⟩
    · rename_i hname
      rw [Shelf.length_names]
      refine attempts_then (createMember_runs hone hs h hfixtures canary_affixes hname
        (by simp [inventory])) ?_
      exact fun _ t ht => ⟨rfl, rfl, ht⟩
  | cleanup =>
    show Runs host _ (cleanupArtifacts host) _ ws
    have hsub := fixtures_without hfixtures
    have hsame : canaryArtifact ∈ (s.without manifestArtifact).names ↔
        canaryArtifact ∈ s.names := by
      have hne : canaryArtifact ≠ manifestArtifact := by decide
      simp [mem_names, mem_without, hne]
    have hremoval : ∀ artifact removed, cleanupArtifacts.removal artifact removed =
        removalEntry artifact (if removed = true then "artifact-removed" else "artifact-absent") :=
      fun _ removed => by cases removed <;> rfl
    refine runs_bind (removeArtifact_runs hs h hfixtures manifestArtifact) ?_
    rintro _ t ⟨rfl, ht⟩
    rw [← decide_eq_decide.mpr hsame]
    refine attempts_then (removeArtifact_runs ht (h.without _) hsub canaryArtifact) ?_
    rintro _ t ⟨rfl, ht⟩
    refine ⟨rfl, ?_, ht⟩
    simp [evidenceOf, hremoval, hsame]

/-- A playbook keeps the fixtures. -/
theorem fixtures_shelve (h : Stock s) (hfixtures : fixtureShelf ⊆ s) (p : Playbook) :
    fixtureShelf ⊆ shelve p s :=
  fun x hx => (mem_shelve h p x).mpr (.inl ⟨hfixtures hx, fun _ => fixture_names x hx⟩)

/-- One execution: the result, checked, and what became of the shelf; or what a failed call
    leaves. -/
theorem executePlaybook_attempts (hone : host.FailsOnce) (py : Interp) (hs : Stores s ws)
    (h : Stock s) (hfixtures : fixtureShelf ⊆ s) (p : Playbook) :
    ∃ n, Attempts host (executePlaybook host py.jsonDepth (Vocabulary.toJson p)) n
      (fun r t => r = playbookResult p (evidenceOf s.names p) ∧ Stores (shelve p s) t)
      (fun i t => if i ∈ fragileCalls s.names p then ¬ Intact t else Orderly t) ws := by
  let a := (Profile.quiet (checkCalls s.names.length)).andThen
    ((Profile.ofPlaybook s.names p).andThen
    (.quiet (checkCalls (shelve p s).length)))
  have hruns : Runs host a (executePlaybook host py.jsonDepth (Vocabulary.toJson p))
      (fun r t => r = playbookResult p (evidenceOf s.names p) ∧ Stores (shelve p s) t) ws := by
    have hopen : Succeeds requireOpen (fun _ t => t = ws) ws := by
      obtain ⟨l, rfl, hl⟩ := hs
      exact requireOpen_succeeds hl
    rw [executePlaybook, Vocabulary.parse_toJson]
    refine succeeds_bind hopen ?_
    rintro _ _ rfl
    refine runs_bind (runs_quiet (Shelf.length_names s ▸ assertWorkspace_stores hs h) h
      hfixtures) ?_
    intro _ t ht
    refine runs_bind (collectEvidence_runs hone ht h hfixtures p) ?_
    rintro _ t ⟨rfl, ht⟩
    refine attempts_then (runs_quiet (assertWorkspace_stores ht (h.shelve p)) (h.shelve p)
      (fixtures_shelve h hfixtures p)) ?_
    intro _ t ht
    have hchecked : LabRuntime.execute py.jsonDepth p (.ok (evidenceOf s.names p)) =
        .ok (playbookResult p (evidenceOf s.names p)) :=
      validate_playbookResult (evidenceOf_mem s.names p)
    rw [hchecked]
    exact ⟨rfl, rfl, ht⟩
  have hfragile : a.fragile = fragileCalls s.names p := by
    simp [a, fragileCalls, Profile.andThen, Profile.quiet]
  exact ⟨a.calls, hfragile ▸ hruns⟩

/-- On a reliable host an execution returns. -/
theorem executePlaybook_stores (hok : host.Reliable) (py : Interp) (hs : Stores s ws) (h : Stock s)
    (hfixtures : fixtureShelf ⊆ s) (p : Playbook) :
    Succeeds (executePlaybook host py.jsonDepth (Vocabulary.toJson p))
      (fun r t => r = playbookResult p (evidenceOf s.names p) ∧ Stores (shelve p s) t) ws := by
  obtain ⟨n, hruns⟩ := executePlaybook_attempts hok.once py hs h hfixtures p
  exact succeeds_of_attempts hok hruns

end C2Lab.LabRuntime
