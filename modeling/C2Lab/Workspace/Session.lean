import C2Lab.Workspace.Execution

/-! A whole session of the workspace: it is opened, then playbooks are executed one after another.

    The invariant is `Stores`: the members in order are the shelf. One lemma for each playbook takes
    it over one execution; the theorem is the induction over the session. -/

namespace C2Lab.LabRuntime

variable {host : Host} {l : List Member} {ws : Workspace} {s : Shelf}

/-! ### Opening -/

theorem holds_blank : Holds [] Workspace.blank :=
  ⟨rfl, rfl, rfl, rfl, rfl, by simp, by simp, by simp, by simp⟩

/-- `x` ends in `Q`, unless some call fails. -/
abbrev Yields (host : Host) {α : Type} (x : Work α) (Q : α → Workspace → Prop) (ws : Workspace) :
    Prop := Prog.wp x Q (fun _ _ => ∃ i, host.fails i = true) ws

section
variable {α β : Type} {x : Work α} {f : α → Work β} {P : α → Workspace → Prop}
  {Q : β → Workspace → Prop}

theorem yields_of_attempts {n : ℕ} {F : ℕ → Workspace → Prop} (hx : Attempts host x n P F ws) :
    Yields host x P ws :=
  Prog.wp_mono hx (fun _ _ h => h.2.2) fun _ _ h =>
    let ⟨_, _, hfail, _⟩ := h
    ⟨_, hfail⟩

theorem yields_bind (hx : Yields host x P ws) (hf : ∀ a t, P a t → Yields host (f a) Q t) :
    Yields host (x >>= f) Q ws := (Prog.wp_bind _ _).mpr (Prog.wp_imp hx hf)

theorem succeeds_of_yields (hok : host.Reliable) (hx : Yields host x P ws) : Succeeds x P ws := by
  refine Prog.wp_mono hx (fun _ _ h => h) ?_
  rintro _ _ ⟨i, hfail⟩
  rw [hok] at hfail
  cases hfail

end

section
variable (hone : host.FailsOnce)
include hone

/-- The fixtures still to be made go onto the shelf one after another. -/
theorem createFixtures_yields (fs : List (Fixture × String × String)) (hs : Stores s ws)
    (h : Stock (s ++ fs.map fun f => (f.1.artifact, f.1.contents)))
    (haff : ∀ f ∈ fs, SafeAffixes f.2.1 f.2.2) :
    Yields host (createFixtures host fs)
      (fun _ => Stores (s ++ fs.map fun f => (f.1.artifact, f.1.contents))) ws := by
  induction fs generalizing s ws with
  | nil => simpa [createFixtures] using hs
  | cons f fs ih =>
    have hassoc : s ++ (f :: fs).map (fun f => (f.1.artifact, f.1.contents)) =
        s ++ [(f.1.artifact, f.1.contents)] ++ fs.map fun f => (f.1.artifact, f.1.contents) := by
      simp
    rw [hassoc] at h ⊢
    rw [createFixtures]
    have hfirst : Stock (s ++ [(f.1.artifact, f.1.contents)]) :=
      h.part (List.sublist_append_left _ _)
    have hnew : f.1.artifact ∉ s.names := by
      have hnodup := hfirst.nodup
      rw [Shelf.names, List.map_append, List.nodup_append] at hnodup
      exact fun hmem => hnodup.2.2 _ hmem f.1.artifact (by simp) rfl
    refine yields_bind (yields_of_attempts (createMember_stores hone hs
      (hfirst.part (List.sublist_append_left _ _)) (haff f List.mem_cons_self) hnew
      (hfirst.known _ (by simp)))) ?_
    intro _ t ht
    exact ih ht h fun x hx => haff x (List.mem_cons_of_mem _ hx)

/-- A new workspace holds the fixtures. -/
theorem openWorkspace_yields :
    Yields host (openWorkspace host) (fun _ => Stores fixtureShelf) Workspace.blank := by
  have hshelf : fixtureShelf = [] ++
      (fixtureDefinitions.zip fixtureAffixes).map fun f => (f.1.artifact, f.1.contents) := rfl
  refine (Prog.wp_tryCatch _ _).mpr (Prog.wp_mono (E := fun _ _ => ∃ i, host.fails i = true) ?_
    (fun _ _ hdone => hdone) fun _ _ hfail => hfail)
  have hstock := stock_fixtures
  rw [hshelf] at hstock ⊢
  refine yields_bind (createFixtures_yields hone _ ⟨[], rfl, holds_blank⟩ hstock
    fixture_affixes) ?_
  exact fun _ t ht => yields_of_attempts (assertWorkspace_stores ht hstock)

end

/-! ### Sessions -/

/-- Playbooks one after another, each on what the one before left. -/
def playAll (host : Host) (depth : ℕ) : List Playbook → Work (List Json)
  | [] => return []
  | p :: ps => do
    let result ← executePlaybook host depth (Vocabulary.toJson p)
    let results ← playAll host depth ps
    return result :: results

/-- A new workspace and the playbooks executed on it. -/
def session (host : Host) (depth : ℕ) (ps : List Playbook) : Work (List Json) := do
  openWorkspace host
  playAll host depth ps

/-- The bytes of an artifact: its name leads to a handle and the handle to the file. -/
def Workspace.bytesOf (ws : Workspace) (artifact : String) : Option (List ℕ) := do
  let name ← ws.artifacts.get? artifact
  let handle ← ws.handles.get? name
  let file ← ws.files.get? handle
  return file.contents

/-- The sizes of the files in the directory. -/
def Workspace.sizes (ws : Workspace) : List ℕ :=
  ws.entries.values.filterMap fun entry => (ws.files.get? entry.inode).map (·.contents.length)

/-- The workspace after some playbooks. -/
structure Stocked (ps : List Playbook) (ws : Workspace) : Prop where
  artifacts : ∀ artifact, artifact ∈ ws.artifacts.keys ↔
    artifact ∈ fixtureDefinitions.map (·.artifact) ∨
    artifact = manifestArtifact ∧ .collectAndStage ∈ sinceCleanup ps ∨
    artifact = canaryArtifact ∧ .createCanary ∈ sinceCleanup ps
  fixtures : ∀ f ∈ fixtureDefinitions, ws.bytesOf f.artifact = some f.contents
  manifest : manifestArtifact ∈ ws.artifacts.keys → ∃ bytes,
    asciiText (manifestJson fixtureDefinitions) = some bytes ∧
      ws.bytesOf manifestArtifact = some bytes
  canary : canaryArtifact ∈ ws.artifacts.keys → ws.bytesOf canaryArtifact = some canaryBytes
  listed : ws.entries.keys = ws.artifacts.values
  handled : ws.handles.keys = ws.artifacts.values
  opened : ∀ name handle, ws.handles.get? name = some handle →
    ws.entries.get? name = some { kind := .regular, inode := handle } ∧
      ∃ f, ws.files.get? handle = some f ∧ f.closed = false ∧ f.links = 1
  count : ws.sizes.length = ws.entries.size ∧ ws.entries.size ≤ maxWorkspaceFiles
  each : ∀ size ∈ ws.sizes, size ≤ maxArtifactBytes
  total : ws.sizes.sum ≤ maxWorkspaceBytes

namespace Layout

theorem bytesOf (hl : Holds l ws) {m : Member} (hm : m ∈ l) :
    ws.bytesOf m.artifact = some m.contents := by
  obtain ⟨position, hfile⟩ := hl.files m hm
  simp [Workspace.bytesOf, hl.artifact_get? hm, hl.handle_get? hm, hfile]

theorem sizes (hl : Holds l ws) : ws.sizes = l.map (·.contents.length) := by
  rw [Workspace.sizes, Dict.values, hl.entries, List.map_map, List.filterMap_map]
  refine List.filterMap_eq_map_iff_forall_eq_some.mpr fun m hm => ?_
  obtain ⟨position, hfile⟩ := hl.files m hm
  simp [hfile]

end Layout

/-- What the workspace holds is what the playbooks make of the fixtures. -/
theorem Stores.stocked {ps : List Playbook} (hs : Stores (shelfAfter ps) ws) : Stocked ps ws := by
  obtain ⟨l, hshelf, hl⟩ := hs
  have hstock := stock_shelfAfter ps
  have hkeys : ws.artifacts.keys = (shelfAfter ps).names := by
    rw [hl.artifact_keys, map_artifact, hshelf]
  have hbytes : ∀ artifact bytes, (artifact, bytes) ∈ shelfAfter ps →
      ws.bytesOf artifact = some bytes := by
    intro artifact bytes hmem
    rw [← hshelf] at hmem
    obtain ⟨m, hm, hpair⟩ := List.mem_map.mp hmem
    obtain ⟨rfl, rfl⟩ : m.artifact = artifact ∧ m.contents = bytes := by
      simpa [Member.pair] using hpair
    exact hl.bytesOf hm
  have hnamed : ∀ artifact bytes, (artifact, bytes) ∈ inventory → artifact ∈ ws.artifacts.keys →
      ws.bytesOf artifact = some bytes := fun artifact bytes hmem hname =>
    hbytes artifact bytes (hstock.mem_of_name hmem (hkeys ▸ hname))
  have hbounded : Bounded l := (hshelf ▸ hstock : Stock (l.map Member.pair)).bounded
  have hsize : ws.entries.size = l.length := by
    rw [Dict.size_eq_length_keys, hl.entry_keys, List.length_map]
  refine ⟨fun artifact => ?_, fun f hf => ?_, fun hname => ?_, fun hname => ?_, ?_, ?_, ?_, ?_, ?_,
    ?_⟩
  · rw [hkeys, mem_names]
    simp only [mem_shelfAfter, Prod.mk.injEq]
    constructor
    · rintro ⟨bytes, hmem | ⟨⟨rfl, -⟩, hp⟩ | ⟨⟨rfl, -⟩, hp⟩⟩
      · obtain ⟨f, hf, hpair⟩ := List.mem_map.mp hmem
        exact .inl (List.mem_map.mpr ⟨f, hf, (Prod.mk.inj hpair).1⟩)
      · exact .inr (.inl ⟨rfl, hp⟩)
      · exact .inr (.inr ⟨rfl, hp⟩)
    · rintro (hmem | ⟨rfl, hp⟩ | ⟨rfl, hp⟩)
      · obtain ⟨f, hf, rfl⟩ := List.mem_map.mp hmem
        exact ⟨f.contents, .inl (List.mem_map_of_mem hf)⟩
      · exact ⟨_, .inr (.inl ⟨⟨rfl, rfl⟩, hp⟩)⟩
      · exact ⟨_, .inr (.inr ⟨⟨rfl, rfl⟩, hp⟩)⟩
  · exact hbytes _ _ ((mem_shelfAfter ps _).mpr (.inl (List.mem_map_of_mem hf)))
  · exact ⟨manifestBytes, manifest_text, hnamed _ _ (by simp [inventory]) hname⟩
  · exact hnamed _ _ (by simp [inventory]) hname
  · rw [hl.entry_keys, hl.artifact_values]
  · rw [hl.handle_keys, hl.artifact_values]
  · intro name handle hget
    have hmem := Dict.get?_eq_some.mp hget
    rw [hl.handles, List.mem_map] at hmem
    obtain ⟨m, hm, hpair⟩ := hmem
    obtain ⟨rfl, rfl⟩ : m.name = name ∧ m.inode = handle := by simpa using hpair
    obtain ⟨position, hfile⟩ := hl.files m hm
    exact ⟨hl.entry_get? hm, _, hfile, rfl, rfl⟩
  · exact ⟨by rw [hl.sizes, List.length_map, hsize], hsize ▸ hbounded.count⟩
  · rw [hl.sizes]
    intro size hmem
    obtain ⟨m, hm, rfl⟩ := List.mem_map.mp hmem
    exact hbounded.each m hm
  · rw [hl.sizes]
    exact hbounded.total

theorem fixtures_shelfAfter (ps : List Playbook) : fixtureShelf ⊆ shelfAfter ps :=
  fun x hx => (mem_shelfAfter ps x).mpr (.inl hx)

/-- One more playbook at the end of a session. -/
theorem playAll_append {depth : ℕ} {ps : List Playbook} {p : Playbook} {results : List Json}
    {r : Json} {t u : Workspace} (hps : playAll host depth ps ws = .ok results t)
    (hp : executePlaybook host depth (Vocabulary.toJson p) t = .ok r u) :
    playAll host depth (ps ++ [p]) ws = .ok (results ++ [r]) u := by
  induction ps generalizing ws results with
  | nil =>
    obtain ⟨rfl, rfl⟩ : results = [] ∧ t = ws := by
      injection hps with hresults ht
      exact ⟨hresults.symm, ht.symm⟩
    simp only [List.nil_append, playAll, bind, EStateM.bind, hp]
    rfl
  | cons q qs ih =>
    simp only [playAll, bind, EStateM.bind, List.cons_append] at hps ⊢
    cases hq : executePlaybook host depth (Vocabulary.toJson q) ws with
    | error e v => simp [hq] at hps
    | ok r' v =>
      simp only [hq] at hps ⊢
      cases hqs : playAll host depth qs v with
      | error e v' => simp [hqs] at hps
      | ok results' v' =>
        simp only [hqs] at hps
        injection hps with hresults ht
        subst hresults ht
        rw [ih hqs]
        rfl

/-- The workspace after a session, and the results of the session. -/
theorem session_stores (hok : host.Reliable) (py : Interp) (ps : List Playbook) :
    ∃ results ws, session host py.jsonDepth ps .blank = .ok results ws ∧
      Stores (shelfAfter ps) ws ∧ List.Forall₂ (fun p r =>
        validatePlaybookResult py.jsonDepth (Vocabulary.toJson p) r = .ok r) ps results := by
  obtain ⟨_, opened, hopened, hfixtures⟩ := Prog.exists_ok
    (succeeds_of_yields hok (openWorkspace_yields hok.once))
  suffices h : ∃ results ws, playAll host py.jsonDepth ps opened = .ok results ws ∧
      Stores (shelfAfter ps) ws ∧ List.Forall₂ (fun p r =>
        validatePlaybookResult py.jsonDepth (Vocabulary.toJson p) r = .ok r) ps results by
    obtain ⟨results, ws, hrun, hrest⟩ := h
    refine ⟨results, ws, ?_, hrest⟩
    simp only [session, bind, EStateM.bind, hopened]
    exact hrun
  induction ps using List.reverseRecOn with
  | nil => exact ⟨[], opened, rfl, hfixtures, .nil⟩
  | append_singleton ps p ih =>
    obtain ⟨results, ws, hrun, hs, hvalid⟩ := ih
    obtain ⟨r, ws', hstep, rfl, hs'⟩ := Prog.exists_ok
      (executePlaybook_stores hok py hs (stock_shelfAfter ps) (fixtures_shelfAfter ps) p)
    refine ⟨_, ws', playAll_append hrun hstep, (shelfAfter_append ps p).symm ▸ hs', ?_⟩
    exact List.rel_append hvalid (.cons (validate_playbookResult (evidenceOf_mem _ p)) .nil)

/-- Whatever playbooks are executed on a new workspace, none raises and every result passes its
    check; the workspace registers what the playbooks since the last `CLEANUP` made, and its
    registers, its directory and its files agree. The next result tells what was registered. -/
theorem workspace_sound (hok : host.Reliable) (py : Interp) (ps : List Playbook) :
    ∃ results ws, session host py.jsonDepth ps .blank = .ok results ws ∧ Stocked ps ws ∧
      List.Forall₂ (fun p r =>
        validatePlaybookResult py.jsonDepth (Vocabulary.toJson p) r = .ok r) ps results ∧
      ∀ p, ∃ ws', executePlaybook host py.jsonDepth (Vocabulary.toJson p) ws =
          .ok (playbookResult p (evidenceOf ws.artifacts.keys p)) ws' ∧
        session host py.jsonDepth (ps ++ [p]) .blank =
          .ok (results ++ [playbookResult p (evidenceOf ws.artifacts.keys p)]) ws' ∧
        Stocked (ps ++ [p]) ws' := by
  obtain ⟨results, ws, hrun, hs, hvalid⟩ := session_stores hok py ps
  refine ⟨results, ws, hrun, hs.stocked, hvalid, fun p => ?_⟩
  have hkeys : ws.artifacts.keys = (shelfAfter ps).names := by
    obtain ⟨l, hshelf, hl⟩ := hs
    rw [hl.artifact_keys, map_artifact, hshelf]
  obtain ⟨_, ws', hstep, rfl, hs'⟩ := Prog.exists_ok
    (executePlaybook_stores hok py hs (stock_shelfAfter ps) (fixtures_shelfAfter ps) p)
  rw [← shelfAfter_append] at hs'
  refine ⟨ws', hkeys ▸ hstep, ?_, hs'.stocked⟩
  rw [hkeys]
  simp only [session, bind, EStateM.bind] at hrun ⊢
  split at hrun
  · rename_i opened hopened
    exact playAll_append hrun hstep
  · cases hrun

/-! ### A host -/

/-- One character eight times. -/
def RandomName.repeated (c : Char) (h : c ∈ tempfileAlphabet) : RandomName where
  text := String.ofList (List.replicate 8 c)
  alphabet := by
    rw [String.toList_ofList]
    exact ⟨List.length_replicate, fun d hd => (List.eq_of_mem_replicate hd).symm ▸ h⟩

/-- Six random parts, one more than a workspace has files. -/
def randomNames : List RandomName :=
  [.repeated 'a' (by decide), .repeated 'b' (by decide), .repeated 'c' (by decide),
   .repeated 'd' (by decide), .repeated 'e' (by decide), .repeated 'f' (by decide)]

theorem memberName_inj {pre suffix : String} {a b : RandomName}
    (h : memberName pre a suffix = memberName pre b suffix) : a.text = b.text := by
  have hchars := congrArg String.toList (PyStr.text.inj h)
  simp only [String.toList_append, List.append_assoc, List.append_cancel_left_eq,
    List.append_cancel_right_eq] at hchars
  exact String.toList_inj.mp hchars

theorem exists_free (pre suffix : String) (used : List PyStr)
    (hused : used.length ≤ maxWorkspaceFiles) :
    ∃ a ∈ randomNames, memberName pre a suffix ∉ used := by
  by_contra hall
  push Not at hall
  have hnodup : (randomNames.map fun a => memberName pre a suffix).Nodup := by
    have htexts : (randomNames.map (·.text)).Nodup := by decide
    rw [List.Nodup, List.pairwise_map] at htexts ⊢
    exact htexts.imp fun hne heq => hne (memberName_inj heq)
  have hsub : (randomNames.map fun a => memberName pre a suffix) ⊆ used := by
    intro name hname
    obtain ⟨a, ha, rfl⟩ := List.mem_map.mp hname
    exact hall a ha
  have hlen := (List.subperm_of_subset hnodup hsub).length_le
  rw [List.length_map] at hlen
  exact absurd (hlen.trans hused) (by decide)

/-- A host that takes the first random part that is free, and on which nothing fails. -/
def firstFree : Host where
  pick _ pre suffix used :=
    (randomNames.find? fun a => memberName pre a suffix ∉ used).getD
      (.repeated 'a' (by decide))
  pick_fresh _ pre suffix used hused := by
    obtain ⟨a, ha, hfree⟩ := exists_free pre suffix used hused
    cases hfind : randomNames.find? fun a => memberName pre a suffix ∉ used with
    | none => exact absurd (List.find?_eq_none.mp hfind a ha) (by simpa using hfree)
    | some b => simpa using List.find?_some hfind
  fails _ := false

/-- A session that stages, marks and cleans up. -/
theorem workspace_sound_firstFree :
    ∃ results ws,
      session firstFree World.counting.jsonDepth [.collectAndStage, .createCanary, .cleanup]
          .blank = .ok results ws ∧ Stocked [.collectAndStage, .createCanary, .cleanup] ws := by
  have hreliable : firstFree.Reliable := fun _ => rfl
  obtain ⟨results, ws, hrun, hstocked, -⟩ := workspace_sound hreliable World.counting.toInterp
    [.collectAndStage, .createCanary, .cleanup]
  exact ⟨results, ws, hrun, hstocked⟩

end C2Lab.LabRuntime
