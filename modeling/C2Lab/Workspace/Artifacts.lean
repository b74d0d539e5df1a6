import C2Lab.Workspace.Layout

/-! Creating, reading and removing an artifact while no call to the operating system fails. -/

namespace C2Lab.LabRuntime

variable {host : Host} {r h e o l : List Member} {ws : Workspace} {m : Member}

/-- The other members. -/
def others (artifact : String) (l : List Member) : List Member :=
  l.filter fun m => m.artifact ≠ artifact

/-- Each member has a name of its own. -/
theorem others_eq_filter_name (hartifacts : (l.map (·.artifact)).Nodup)
    (hnames : (l.map (·.name)).Nodup) (hm : m ∈ l) :
    others m.artifact l = l.filter fun x => x.name ≠ m.name := by
  refine List.filter_congr fun x hx => ?_
  have hiff : x.artifact = m.artifact ↔ x.name = m.name := by
    constructor
    · exact fun heq => congrArg _ (List.inj_on_of_nodup_map hartifacts hx hm heq)
    · exact fun heq => congrArg _ (List.inj_on_of_nodup_map hnames hx hm heq)
  simp [hiff]

theorem mem_others {artifact : String} {x : Member} :
    x ∈ others artifact l ↔ x ∈ l ∧ x.artifact ≠ artifact := by
  simp [others]

namespace Layout

/-- The file of a member that is no longer counted as open may change. -/
theorem setOther {i : ℕ} {f : File} (hl : Layout r h e o ws) (hi : ∀ x ∈ o, x.inode ≠ i) :
    Layout r h e o { ws with files := ws.files.set i f } := by
  refine ⟨hl.1, hl.2, hl.3, hl.4, hl.5, fun x hx => ?_, hl.7, hl.8, hl.9⟩
  obtain ⟨position, hfile⟩ := hl.files x hx
  exact ⟨position, by rw [Dict.get?_set_ne _ _ (hi x hx)]; exact hfile⟩

/-- Fewer files are counted as open. -/
theorem fewer {o' : List Member} (hl : Layout r h e o ws) (hsub : o'.Sublist o) :
    Layout r h e o' ws :=
  ⟨hl.1, hl.2, hl.3, hl.4, hl.5, fun x hx => hl.files x (hsub.subset hx),
    hl.inodes.sublist (hsub.map _), fun x hx => hl.created x (hsub.subset hx), hl.9⟩

/-- A file loses its name. -/
theorem unlisted (hl : Layout r h l o ws) (hartifacts : (l.map (·.artifact)).Nodup)
    (hm : m ∈ l) :
    Layout r h (others m.artifact l) o { ws with entries := ws.entries.erase m.name } := by
  refine ⟨hl.1, hl.2, hl.3, hl.4, ?_, hl.6, hl.7, hl.8, hl.9⟩
  rw [others_eq_filter_name hartifacts hl.names_nodup hm]
  simp only [Dict.erase, hl.entries, List.filter_map]
  rfl

/-- A file loses its handle. -/
theorem unhandled (hl : Layout r l e o ws) (hartifacts : (l.map (·.artifact)).Nodup)
    (hm : m ∈ l) :
    Layout r (others m.artifact l) e o { ws with handles := ws.handles.erase m.name } := by
  refine ⟨hl.1, hl.2, hl.3, ?_, hl.5, hl.6, hl.7, hl.8, fun x hx => ?_⟩
  · rw [others_eq_filter_name hartifacts hl.handles_nodup hm]
    simp only [Dict.erase, hl.handles, List.filter_map]
    rfl
  · exact hl.bare x (mem_others.mp hx).1

/-- An artifact is registered no more. -/
theorem unregistered {artifact : String} (hl : Layout l h e o ws) :
    Layout (others artifact l) h e o { ws with artifacts := ws.artifacts.erase artifact } := by
  refine ⟨hl.1, hl.2, ?_, hl.4, hl.5, hl.6, hl.7, hl.8, hl.9⟩
  simp only [Dict.erase, hl.artifacts, List.filter_map]
  rfl

/-- An artifact is registered. -/
theorem registered (hl : Layout r h e o ws) (hm : m.artifact ∉ r.map (·.artifact)) :
    Layout (r ++ [m]) h e o { ws with artifacts := ws.artifacts.set m.artifact m.name } := by
  refine ⟨hl.1, hl.2, ?_, hl.4, hl.5, hl.6, hl.7, hl.8, hl.9⟩
  rw [Dict.set, dif_neg (by rw [hl.artifact_keys]; exact hm)]
  simp [hl.artifacts]

/-- A file gets its handle. -/
theorem handled (hl : Layout r h e o ws) (hm : m.name ∉ h.map (·.name))
    (hbare : isBareName m.name = true) :
    Layout r (h ++ [m]) e o { ws with handles := ws.handles.set m.name m.inode } := by
  refine ⟨hl.1, hl.2, hl.3, ?_, hl.5, hl.6, hl.7, hl.8, fun x hx => ?_⟩
  · rw [Dict.set, dif_neg (by rw [hl.handle_keys]; exact hm)]
    simp [hl.handles]
  · rcases List.mem_append.mp hx with hx | hx
    · exact hl.bare x hx
    · rw [List.mem_singleton.mp hx]
      exact hbare

end Layout

theorem requireOpen_succeeds (hl : Layout r h e o ws) :
    Succeeds requireOpen (fun _ t => t = ws) ws := by
  unfold requireOpen
  simp only [Prog.wp_bind, Prog.wp_get, Prog.wp_require]
  exact ⟨fun _ => trivial, fun hclosed => hclosed hl.running⟩

/-- Reading an artifact gives its bytes. -/
theorem readArtifact_attempts (hl : Holds l ws) (hm : m ∈ l)
    (hsize : m.contents.length ≤ maxArtifactBytes) :
    Attempts host (readArtifact host m.artifact) 5 (fun data t => data = m.contents ∧ Holds l t)
      (fun _ => Holds l) ws := by
  unfold readArtifact
  simp only [Prog.wp_bind, Prog.wp_get, hl.artifact_get? hm]
  rw [← Prog.wp_bind]
  refine attempts_bind 4 rfl (safeMemberPath_attempts hl hm hm) ?_
  intro _ t ht
  refine succeeds_bind (handleOf_succeeds ht hm) ?_
  rintro _ t ⟨rfl, rfl⟩
  refine attempts_bind 3 rfl (flushFile_attempts ht hm) ?_
  intro _ t ht
  refine attempts_bind 2 rfl (seekFile_attempts ht hm 0) ?_
  rintro _ t ⟨ht, hstart⟩
  refine attempts_bind 1 rfl (readFile_attempts ht hm hstart (hsize.trans (Nat.le_succ _))) ?_
  rintro _ t ⟨rfl, ht⟩
  refine attempts_then (seekFile_attempts ht hm 0) ?_
  rintro _ t ⟨ht, -⟩
  exact (Prog.wp_bind _ _).mpr
    (Prog.wp_require.mpr ⟨fun _ => ⟨rfl, rfl, ht⟩, fun hbad => hbad hsize⟩)

/-! ### Files that go -/

/-- A closed handle, of a member that is no longer counted as open. -/
theorem closeFile_succeeds {o' : List Member} (hl : Layout r h e o ws) (hm : m ∈ o)
    (hsub : o'.Sublist o) (hother : ∀ x ∈ o', x.inode ≠ m.inode) :
    Succeeds (closeFile m.inode) (fun _ t => t.calls = ws.calls ∧ Layout r h e o' t ∧
      ∃ f, t.files.get? m.inode = some f ∧ f.closed = true) ws := by
  obtain ⟨position, hfile⟩ := hl.files m hm
  unfold closeFile
  simp only [Prog.wp_modify, hfile]
  exact ⟨trivial, (hl.fewer hsub).setOther hother, _, Dict.get?_set_self _ _ _, rfl⟩

/-- Removing a file takes its name out of the directory. -/
theorem removeFile_attempts (hl : Layout r h l o ws) (hartifacts : (l.map (·.artifact)).Nodup)
    (hm : m ∈ l) (hclosed : ∀ x ∈ o, x.inode ≠ m.inode) :
    Attempts host (removeFile host m.name) 1 (fun _ t => Layout r h (others m.artifact l) o t)
      (fun _ t => Layout r h l o t ∧ t.files = ws.files) ws := by
  unfold removeFile
  refine attempts_then (attempts_mono osCall_once (fun _ _ h => h) ?_) ?_
  · rintro _ _ _ rfl
    exact ⟨hl.calls _, rfl⟩
  rintro _ _ rfl
  have ht := hl.calls (ws.calls + 1)
  simp only [Prog.wp_bind, Prog.wp_get, ht.entry_get? hm, Prog.wp_modify]
  have hgone := ht.unlisted hartifacts hm
  split
  · exact ⟨trivial, hgone.setOther hclosed⟩
  · exact ⟨trivial, hgone⟩

theorem others_of_not_mem {artifact : String} (hnew : artifact ∉ l.map (·.artifact)) :
    others artifact l = l := by
  refine List.filter_eq_self.mpr fun x hx => ?_
  simpa using fun heq : x.artifact = artifact => hnew (heq ▸ List.mem_map_of_mem hx)

theorem others_concat (hnew : m.artifact ∉ l.map (·.artifact)) :
    others m.artifact (l ++ [m]) = l := by
  have hkept := others_of_not_mem hnew
  rw [others] at hkept
  rw [others, List.filter_append, hkept]
  simp

/-- A file that was just made goes again; what is registered stays. -/
theorem discardMember_succeeds {m' : Member} (hl : Layout r h (l ++ [m]) (l ++ [m']) ws)
    (hinode : m'.inode = m.inode) (hnew : m.artifact ∉ l.map (·.artifact))
    (hartifacts : (l.map (·.artifact)).Nodup) (hok : host.fails ws.calls = false) :
    Succeeds (discardMember host m.name m.inode)
      (fun _ t => ws.calls ≤ t.calls ∧ Layout r h l l t) ws := by
  have hinodes := hl.inodes
  rw [List.map_append, List.nodup_append] at hinodes
  have hother : ∀ x ∈ l, x.inode ≠ m'.inode := fun x hx =>
    hinodes.2.2 _ (List.mem_map_of_mem hx) _ (by simp)
  have hnodup : ((l ++ [m]).map (·.artifact)).Nodup := by
    rw [List.map_append, List.nodup_append]
    refine ⟨hartifacts, by simp, fun a ha b hb => ?_⟩
    obtain rfl : b = m.artifact := by simpa using hb
    exact fun heq => hnew (heq ▸ ha)
  unfold discardMember
  rw [← hinode]
  refine succeeds_bind (closeFile_succeeds hl (by simp) (List.sublist_append_left l [m']) hother) ?_
  rintro _ t ⟨hcalls, ht, -⟩
  have hm : m ∈ l ++ [m] := by simp
  have hlisted : m.name ∈ t.entries.keys := by
    rw [ht.entry_keys]
    exact List.mem_map_of_mem hm
  simp only [Prog.wp_bind, Prog.wp_get, if_pos hlisted]
  have hgone : Attempts host (removeFile host m.name) 1 _ _ t :=
    removeFile_attempts ht hnodup hm fun x hx => hinode ▸ hother x hx
  rw [others_concat hnew] at hgone
  refine (Prog.wp_tryCatch _ _).mpr (Prog.wp_mono hgone ?_ ?_)
  · rintro _ u ⟨hcalls', -, hu⟩
    exact ⟨by omega, hu⟩
  · rintro e u ⟨i, hi, hfail, -⟩
    obtain rfl : i = 0 := by omega
    rw [hcalls, Nat.add_zero, hok] at hfail
    cases hfail

/-! ### Creating -/

/-- Filling and registering a file; until the last check it is not registered. -/
theorem fillMember_attempts (hl : Layout l l (l ++ [m]) (l ++ [{ m with contents := [] }]) ws)
    (hname : isMemberName m.name = true) (hbare : isBareName m.name = true)
    (hnew : m.artifact ∉ l.map (·.artifact)) (hfresh : m.name ∉ l.map (·.name)) :
    Attempts host (fillMember host m.artifact m.name m.inode m.contents) 3
      (fun _ => Holds (l ++ [m]))
      (fun i t => ∃ bytes, Layout (if i < 2 then l else l ++ [m]) (if i < 2 then l else l ++ [m])
        (l ++ [m]) (l ++ [{ m with contents := bytes }]) t) ws := by
  have hm : m ∈ l ++ [m] := List.mem_append_right _ List.mem_cons_self
  unfold fillMember
  refine (Prog.wp_bind _ _).mpr (Prog.wp_require.mpr ⟨fun _ => ?_, fun hbad => (hbad hname).elim⟩)
  refine attempts_bind 2 rfl (attempts_mono (writeFile_attempts hl) (fun _ _ h => h) ?_) ?_
  · rintro i hi t ht
    obtain rfl : i = 0 := by omega
    exact ⟨[], ht⟩
  intro _ t ht
  refine attempts_bind 1 rfl (attempts_mono (flushFile_attempts ht hm) (fun _ _ h => h) ?_) ?_
  · rintro i hi t ht
    obtain rfl : i = 0 := by omega
    exact ⟨m.contents, ht⟩
  intro _ t ht
  have hregistered := (ht.registered (m := m) hnew).handled (m := m) hfresh hbare
  refine attempts_mono (safeMemberPath_attempts hregistered hm hm) (fun _ _ h => h) ?_
  rintro i hi t ht
  refine ⟨m.contents, ?_⟩
  rw [if_neg (by omega)]
  exact ht

/-- The calls of `_create_member` beside some members. -/
def creationCalls (members : ℕ) : ℕ := members + 4

/-- Registered, and neither in the directory nor open. -/
def Ghost (l : List Member) (ws : Workspace) : Prop :=
  ∃ m : Member, m.name ∉ l.map (·.name) ∧ Layout (l ++ [m]) (l ++ [m]) l l ws

/-- Creating a member adds it at the end. It leaves nothing behind when a call fails, but for the
    last one: then the member stays registered. -/
theorem createMember_attempts (hone : host.FailsOnce) {artifact pre suffix : String}
    {contents : List ℕ} (hl : Holds l ws) (haff : SafeAffixes pre suffix)
    (hnew : artifact ∉ l.map (·.artifact)) (hcount : l.length < maxWorkspaceFiles)
    (hsize : contents.length ≤ maxArtifactBytes)
    (htotal : totalBytes l + contents.length ≤ maxWorkspaceBytes) :
    Attempts host (createMember host artifact pre suffix contents) (creationCalls l.length)
      (fun _ t => ∃ name inode, Holds (l ++ [⟨artifact, name, inode, contents⟩]) t)
      (fun i t => if i = l.length + 3 then Ghost l t else Holds l t) ws := by
  unfold createMember
  refine succeeds_bind (requireOpen_succeeds hl) ?_
  rintro _ _ rfl
  refine succeeds_bind (assertRoot_succeeds hl) ?_
  rintro _ _ rfl
  refine (Prog.wp_bind _ _).mpr (Prog.wp_get.mpr ((Prog.wp_bind _ _).mpr (Prog.wp_require.mpr
    ⟨fun _ => ?_, fun hbad => (hbad ⟨?_, ?_, hsize⟩).elim⟩)))
  · rw [hl.handle_values]
    refine attempts_bind 4 rfl (attempts_mono (sizeOfHandles_attempts hl l fun _ hm => hm)
      (fun _ _ h => h) ?_) ?_
    · intro i hi t ht
      rw [if_neg (by omega)]
      exact ht
    rintro _ t ⟨rfl, ht⟩
    refine (Prog.wp_bind _ _).mpr (Prog.wp_require.mpr
      ⟨fun _ => ?_, fun hbad => (hbad htotal).elim⟩)
    refine attempts_bind 3 rfl (attempts_mono (namedTemporaryFile_attempts ht hcount.le
      pre suffix artifact contents) (fun _ _ h => h) ?_) ?_
    · intro i hi t ht
      rw [if_neg (by omega)]
      exact ht
    rintro ⟨name, inode⟩ t ⟨random, rfl, ht, hfresh⟩
    let m : Member := ⟨artifact, memberName pre random suffix, inode, contents⟩
    refine attempts_tryCatch (attempts_imp (fillMember_attempts (m := m) ht
      (memberName_isMemberName haff random) (memberName_isBareName haff random) hnew hfresh)
      fun _ _ h => ⟨_, _, h⟩) ?_
    -- the failing call is behind, so the removal works
    rintro i hi e u hfail hlater ⟨bytes, hu⟩
    have hok : host.fails u.calls = false := by
      by_contra htrue
      have := hone _ _ hfail (by simpa using htrue)
      omega
    refine succeeds_bind (discardMember_succeeds (m := m) hu rfl hnew hl.artifacts_nodup hok) ?_
    rintro _ v ⟨hcalls, hv⟩
    refine ⟨hcalls, ?_⟩
    by_cases hlast : i = 2
    · subst hlast
      rw [if_pos (by omega)]
      exact ⟨m, hfresh, hv⟩
    · rw [if_neg (by omega)]
      rwa [if_pos (by omega)] at hv
  · rw [hl.artifact_keys]
    exact hnew
  · rw [Dict.size_eq_length_keys, hl.artifact_keys, List.length_map]
    exact hcount

/-! ### Removing -/

/-- Nothing is removed when nothing is registered. -/
theorem removeArtifact_absent (hl : Holds l ws) {artifact : String}
    (hnot : artifact ∉ l.map (·.artifact)) :
    Succeeds (removeArtifact host artifact) (fun removed t => removed = false ∧ t = ws) ws := by
  unfold removeArtifact
  simp only [Prog.wp_bind, Prog.wp_get]
  rw [Dict.get?_eq_none.mpr (hl.artifact_keys ▸ hnot)]
  exact ⟨rfl, rfl⟩

/-- Registered and in the directory, but closed. -/
def Shut (l : List Member) (ws : Workspace) : Prop :=
  ∃ m ∈ l, Layout l l l (others m.artifact l) ws ∧
    ∃ f, ws.files.get? m.inode = some f ∧ f.closed = true

/-- Removing an artifact leaves the others; when the file stays in the directory its handle is
    closed already. -/
theorem removeArtifact_attempts (hl : Holds l ws) (hm : m ∈ l) :
    Attempts host (removeArtifact host m.artifact) 2
      (fun removed t => removed = true ∧ Holds (others m.artifact l) t)
      (fun i t => if i = 1 then Shut l t else Holds l t) ws := by
  have hsub : (others m.artifact l).Sublist l := List.filter_sublist
  have hother : ∀ x ∈ others m.artifact l, x.inode ≠ m.inode := by
    intro x hx heq
    obtain ⟨hx, hne⟩ := mem_others.mp hx
    exact hne (congrArg _ (List.inj_on_of_nodup_map hl.inodes hx hm heq))
  unfold removeArtifact
  simp only [Prog.wp_bind, Prog.wp_get, hl.artifact_get? hm]
  rw [← Prog.wp_bind]
  refine attempts_bind 1 rfl (attempts_mono (safeMemberPath_attempts hl hm hm) (fun _ _ h => h) ?_)
    ?_
  · intro i hi t ht
    rw [if_neg (by omega)]
    exact ht
  intro _ t ht
  refine succeeds_bind (handleOf_succeeds ht hm) ?_
  rintro _ t ⟨rfl, rfl⟩
  refine succeeds_bind (closeFile_succeeds ht hm hsub hother) ?_
  rintro _ u ⟨hcalls, hu, f, hf, hclosed⟩
  rw [← hcalls]
  refine attempts_then
    (attempts_tryCatch (removeFile_attempts hu hl.artifacts_nodup hm hother) ?_) ?_
  · rintro i hi e v - - ⟨hv, hfiles⟩
    have hshut : Shut l v := ⟨m, hm, hv, f, hfiles ▸ hf, hclosed⟩
    obtain rfl : i = 0 := by omega
    cases e with
    | raised e => exact ⟨le_rfl, hshut⟩
    | os => exact ⟨le_rfl, hshut⟩
  · intro _ v hv
    simp only [Prog.wp_bind, Prog.wp_modify, Prog.wp_pure]
    exact ⟨trivial, trivial, (hv.unhandled hl.artifacts_nodup hm).unregistered⟩

end C2Lab.LabRuntime
