import Mathlib.Algebra.BigOperators.Group.List.Basic
import C2Lab.Workspace.Files

/-! The workspace from one call to the operating system to the next.

    `Layout` says which members are registered as artifacts, which have a handle, which the
    directory names and which files are open. Between playbooks the four agree, `Holds`; the steps
    of creating and removing a file take them through the stages in between. `Attempts` counts the
    calls a step makes and says what it leaves when one of them fails. -/

namespace C2Lab.LabRuntime

/-- A member of the workspace: the artifact, the name and number of its file, and its bytes. -/
structure Member where
  artifact : String
  name : PyStr
  inode : ℕ
  contents : List ℕ

/-- Registered, with a handle, in the directory, open: the members of each. -/
structure Layout (registered handled listed opened : List Member) (ws : Workspace) : Prop where
  running : ws.closed = false
  root : ws.root = { isLink := false, isDirectory := true, moved := false }
  artifacts : ws.artifacts.entries = registered.map fun m => (m.artifact, m.name)
  handles : ws.handles.entries = handled.map fun m => (m.name, m.inode)
  entries : ws.entries.entries =
      listed.map fun m => (m.name, { kind := .regular, inode := m.inode })
  files : ∀ m ∈ opened, ∃ position, ws.files.get? m.inode =
    some { contents := m.contents, links := 1, closed := false, position := position }
  inodes : (opened.map (·.inode)).Nodup
  created : ∀ m ∈ opened, m.inode < ws.created
  bare : ∀ m ∈ handled, isBareName m.name = true

/-- The four agree. -/
abbrev Holds (l : List Member) (ws : Workspace) : Prop := Layout l l l l ws

variable {host : Host} {r h e o l : List Member} {ws : Workspace} {m : Member}

/-- No step of `x` raises, and it ends in `Q`. -/
abbrev Succeeds {α : Type} (x : Work α) (Q : α → Workspace → Prop) (ws : Workspace) : Prop :=
  Prog.wp x Q (fun _ _ => False) ws

/-- `x` makes `k` calls to the operating system: it ends in `Q` when none of them fails, and it
    raises in `F i` when the `i`th fails. -/
abbrev Attempts (host : Host) {α : Type} (x : Work α) (k : ℕ) (Q : α → Workspace → Prop)
    (F : ℕ → Workspace → Prop) (ws : Workspace) : Prop :=
  Prog.wp x
    (fun a t => t.calls = ws.calls + k ∧ (∀ i < k, host.fails (ws.calls + i) = false) ∧ Q a t)
    (fun _ t => ∃ i < k, host.fails (ws.calls + i) = true ∧ ws.calls + i < t.calls ∧ F i t) ws

/-- Nothing fails. -/
def Host.Reliable (host : Host) : Prop := ∀ n, host.fails n = false

/-- At most one call fails. -/
def Host.FailsOnce (host : Host) : Prop :=
  ∀ i j, host.fails i = true → host.fails j = true → i = j

theorem Host.Reliable.once (hok : host.Reliable) : host.FailsOnce := by
  intro i j hi
  rw [hok i] at hi
  cases hi

section
variable {α β : Type} {x : Work α} {f : α → Work β} {k : ℕ} {P : α → Workspace → Prop}
  {Q : β → Workspace → Prop} {F : ℕ → Workspace → Prop}

/-- After a step that makes no call. -/
theorem succeeds_bind {E : WorkspaceExc → Workspace → Prop} (hx : Succeeds x P ws)
    (hf : ∀ a t, P a t → Prog.wp (f a) Q E t) : Prog.wp (x >>= f) Q E ws :=
  (Prog.wp_bind _ _).mpr (Prog.wp_mono hx hf fun _ _ h => h.elim)

theorem attempts_bind {n : ℕ} (k' : ℕ) (hn : k + k' = n) (hx : Attempts host x k P F ws)
    (hf : ∀ a t, P a t → Attempts host (f a) k' Q (fun i => F (k + i)) t) :
    Attempts host (x >>= f) n Q F ws := by
  refine (Prog.wp_bind _ _).mpr (Prog.wp_mono hx ?_ ?_)
  · rintro a t ⟨hcalls, hnone, hP⟩
    refine Prog.wp_mono (hf a t hP) ?_ ?_
    · rintro b u ⟨hcalls', hnone', hQ⟩
      refine ⟨by omega, fun i hi => ?_, hQ⟩
      by_cases hlt : i < k
      · exact hnone i hlt
      · have hshift : ws.calls + i = t.calls + (i - k) := by omega
        exact hshift ▸ hnone' (i - k) (by omega)
    · rintro e u ⟨i, hi, hrest⟩
      rw [hcalls, Nat.add_assoc] at hrest
      exact ⟨k + i, by omega, hrest⟩
  · rintro e t ⟨i, hi, hrest⟩
    exact ⟨i, by omega, hrest⟩

/-- Before steps that make no call. -/
theorem attempts_then (hx : Attempts host x k P F ws)
    (hf : ∀ a t, P a t → Succeeds (f a) (fun b u => u.calls = t.calls ∧ Q b u) t) :
    Attempts host (x >>= f) k Q F ws := by
  refine (Prog.wp_bind _ _).mpr (Prog.wp_imp hx ?_)
  rintro a t ⟨hcalls, hnone, hP⟩
  refine Prog.wp_mono (hf a t hP) ?_ fun _ _ h => h.elim
  rintro b u ⟨hsame, hQ⟩
  exact ⟨hsame.trans hcalls, hnone, hQ⟩

theorem attempts_mono {Q' : α → Workspace → Prop} {F' : ℕ → Workspace → Prop}
    (hx : Attempts host x k P F ws) (hQ : ∀ a t, P a t → Q' a t)
    (hF : ∀ i < k, ∀ t, F i t → F' i t) : Attempts host x k Q' F' ws := by
  refine Prog.wp_mono hx ?_ ?_
  · rintro a t ⟨hcalls, hnone, hP⟩
    exact ⟨hcalls, hnone, hQ a t hP⟩
  · rintro e t ⟨i, hi, hfail, hlater, h⟩
    exact ⟨i, hi, hfail, hlater, hF i hi t h⟩

theorem attempts_imp {Q' : α → Workspace → Prop} (hx : Attempts host x k P F ws)
    (hQ : ∀ a t, P a t → Q' a t) : Attempts host x k Q' F ws :=
  attempts_mono hx hQ fun _ _ _ h => h

theorem attempts_zero (hx : Succeeds x (fun a t => t.calls = ws.calls ∧ P a t) ws) :
    Attempts host x 0 P F ws := by
  refine Prog.wp_mono hx ?_ fun _ _ h => h.elim
  rintro a t ⟨hcalls, hP⟩
  exact ⟨hcalls, by simp, hP⟩

/-- A handler that raises again, too. -/
theorem attempts_tryCatch {handler : WorkspaceExc → Work α} {F' : ℕ → Workspace → Prop}
    (hx : Attempts host x k P F ws)
    (hh : ∀ i < k, ∀ e t, host.fails (ws.calls + i) = true → ws.calls + i < t.calls → F i t →
      Prog.wp (handler e) (fun _ _ => False) (fun _ u => t.calls ≤ u.calls ∧ F' i u) t) :
    Attempts host (tryCatch x handler) k P F' ws := by
  refine (Prog.wp_tryCatch _ _).mpr (Prog.wp_mono hx (fun _ _ h => h) ?_)
  rintro e t ⟨i, hi, hfail, hlater, h⟩
  refine Prog.wp_mono (hh i hi e t hfail hlater h) (fun _ _ h => h.elim) ?_
  rintro e' u ⟨hcalls, h'⟩
  exact ⟨i, hi, hfail, hlater.trans_le hcalls, h'⟩

/-- On a reliable host nothing is raised. -/
theorem succeeds_of_attempts (hok : host.Reliable) (hx : Attempts host x k P F ws) :
    Succeeds x P ws := by
  refine Prog.wp_mono hx (fun a t h => h.2.2) ?_
  rintro e t ⟨i, -, hfail, -⟩
  rw [hok] at hfail
  cases hfail

end

namespace Layout

theorem calls (hl : Layout r h e o ws) (n : ℕ) : Layout r h e o { ws with calls := n } :=
  ⟨hl.1, hl.2, hl.3, hl.4, hl.5, hl.6, hl.7, hl.8, hl.9⟩

theorem artifact_get? (hl : Layout r h e o ws) (hm : m ∈ r) :
    ws.artifacts.get? m.artifact = some m.name := by
  rw [Dict.get?_eq_some, hl.artifacts]
  exact List.mem_map_of_mem (f := fun m : Member => (m.artifact, m.name)) hm

theorem artifact_keys (hl : Layout r h e o ws) : ws.artifacts.keys = r.map (·.artifact) := by
  rw [Dict.keys, hl.artifacts, List.map_map]
  rfl

theorem artifact_values (hl : Layout r h e o ws) : ws.artifacts.values = r.map (·.name) := by
  rw [Dict.values, hl.artifacts, List.map_map]
  rfl

theorem handle_get? (hl : Layout r h e o ws) (hm : m ∈ h) :
    ws.handles.get? m.name = some m.inode := by
  rw [Dict.get?_eq_some, hl.handles]
  exact List.mem_map_of_mem (f := fun m : Member => (m.name, m.inode)) hm

theorem handle_keys (hl : Layout r h e o ws) : ws.handles.keys = h.map (·.name) := by
  rw [Dict.keys, hl.handles, List.map_map]
  rfl

theorem handle_values (hl : Layout r h e o ws) : ws.handles.values = h.map (·.inode) := by
  rw [Dict.values, hl.handles, List.map_map]
  rfl

theorem entry_get? (hl : Layout r h e o ws) (hm : m ∈ e) :
    ws.entries.get? m.name = some { kind := .regular, inode := m.inode } := by
  rw [Dict.get?_eq_some, hl.entries]
  exact List.mem_map_of_mem
    (f := fun m : Member => (m.name, ({ kind := .regular, inode := m.inode } : Entry))) hm

theorem entry_keys (hl : Layout r h e o ws) : ws.entries.keys = e.map (·.name) := by
  rw [Dict.keys, hl.entries, List.map_map]
  rfl

theorem artifacts_nodup (hl : Layout r h e o ws) : (r.map (·.artifact)).Nodup :=
  hl.artifact_keys ▸ ws.artifacts.keys_nodup

theorem names_nodup (hl : Layout r h e o ws) : (e.map (·.name)).Nodup :=
  hl.entry_keys ▸ ws.entries.keys_nodup

theorem handles_nodup (hl : Layout r h e o ws) : (h.map (·.name)).Nodup :=
  hl.handle_keys ▸ ws.handles.keys_nodup

/-- A file is rewritten where it stands. -/
theorem setFile {m' : Member} (position : ℕ) (hl : Layout r h e (o ++ [m]) ws)
    (hinode : m'.inode = m.inode) :
    Layout r h e (o ++ [m'])
      { ws with files := ws.files.set m.inode { contents := m'.contents, links := 1, closed := false
                                                position := position } } := by
  have hnodup := hl.inodes
  rw [List.map_append, List.nodup_append] at hnodup
  refine ⟨hl.1, hl.2, hl.3, hl.4, hl.5, ?_, ?_, ?_, hl.9⟩
  · intro x hx
    rcases List.mem_append.mp hx with hx | hx
    · obtain ⟨position', hfile⟩ := hl.files x (List.mem_append_left _ hx)
      have hne : x.inode ≠ m.inode := hnodup.2.2 _ (List.mem_map_of_mem hx) _ (by simp)
      exact ⟨position', by rw [Dict.get?_set_ne _ _ hne]; exact hfile⟩
    · rw [List.mem_singleton.mp hx, hinode]
      exact ⟨position, Dict.get?_set_self _ _ _⟩
  · have hsame : (o ++ [m']).map (·.inode) = (o ++ [m]).map (·.inode) := by simp [hinode]
    rw [hsame]
    exact hl.inodes
  · intro x hx
    rcases List.mem_append.mp hx with hx | hx
    · exact hl.created x (List.mem_append_left _ hx)
    · rw [List.mem_singleton.mp hx, hinode]
      exact hl.created m (by simp)

/-- Reading moves the position of one file. -/
theorem moved {position : ℕ} (hl : Layout r h e o ws) (hm : m ∈ o) :
    Layout r h e o
      { ws with files := ws.files.set m.inode { contents := m.contents, links := 1, closed := false
                                                position := position } } := by
  refine ⟨hl.1, hl.2, hl.3, hl.4, hl.5, fun x hx => ?_, hl.7, hl.8, hl.9⟩
  by_cases hx' : x.inode = m.inode
  · have hsame := List.inj_on_of_nodup_map hl.inodes hx hm hx'
    subst hsame
    exact ⟨position, Dict.get?_set_self _ _ _⟩
  · obtain ⟨position', hfile⟩ := hl.files x hx
    exact ⟨position', by rw [Dict.get?_set_ne _ _ hx']; exact hfile⟩

end Layout

/-! ### Calls to the operating system -/

theorem osCall_once :
    Attempts host (osCall host) 1 (fun _ t => t = { ws with calls := ws.calls + 1 })
      (fun _ t => t = { ws with calls := ws.calls + 1 }) ws := by
  unfold osCall
  simp only [Prog.wp_bind, Prog.wp_get, Prog.wp_modify, Prog.wp_require]
  refine ⟨fun hok => ⟨trivial, fun i hi => ?_, trivial⟩,
    fun hfail => ⟨0, Nat.one_pos, by simpa using hfail, Nat.lt_succ_self _, trivial⟩⟩
  obtain rfl : i = 0 := by omega
  exact hok

theorem osCall_attempts (hl : Layout r h e o ws) :
    Attempts host (osCall host) 1 (fun _ t => Layout r h e o t ∧ t.files = ws.files)
      (fun _ => Layout r h e o) ws := by
  refine attempts_mono osCall_once ?_ ?_
  · rintro _ _ rfl
    exact ⟨hl.calls _, rfl⟩
  · rintro _ _ _ rfl
    exact hl.calls _

theorem openFile_succeeds {f : File} (hfile : ws.files.get? m.inode = some f)
    (hopen : f.closed = false) :
    Succeeds (openFile m.inode) (fun f' t => f' = f ∧ t = ws) ws := by
  unfold openFile
  simp only [Prog.wp_bind, Prog.wp_get, hfile, Prog.wp_require]
  exact ⟨fun _ => ⟨rfl, rfl⟩, fun hclosed => hclosed hopen⟩

/-- An open file, and one call to the operating system about it. -/
theorem onFile_attempts {α : Type} {k : File → Work α} {Q : α → Workspace → Prop}
    (hl : Layout r h e o ws) (hm : m ∈ o)
    (hk : ∀ position t, Layout r h e o t →
      t.files.get? m.inode = some { contents := m.contents, links := 1, closed := false
                                    position := position } →
      ws.files.get? m.inode = some { contents := m.contents, links := 1, closed := false
                                     position := position } →
      Succeeds (k { contents := m.contents, links := 1, closed := false, position := position })
        (fun a u => u.calls = t.calls ∧ Q a u) t) :
    Attempts host (do
      let f ← openFile m.inode
      osCall host
      k f) 1 Q (fun _ => Layout r h e o) ws := by
  obtain ⟨position, hfile⟩ := hl.files m hm
  refine succeeds_bind (openFile_succeeds hfile rfl) ?_
  rintro _ _ ⟨rfl, rfl⟩
  refine attempts_then (osCall_attempts hl) ?_
  rintro _ t ⟨ht, hfiles⟩
  exact hk position t ht (hfiles ▸ hfile) hfile

theorem fstat_attempts (hl : Layout r h e o ws) (hm : m ∈ o) :
    Attempts host (fstat host m.inode) 1
      (fun f t => f.contents = m.contents ∧ f.links = 1 ∧ Layout r h e o t)
      (fun _ => Layout r h e o) ws :=
  onFile_attempts hl hm fun _ _ ht _ _ => ⟨rfl, rfl, rfl, ht⟩

theorem flushFile_attempts (hl : Layout r h e o ws) (hm : m ∈ o) :
    Attempts host (flushFile host m.inode) 1 (fun _ => Layout r h e o) (fun _ => Layout r h e o)
      ws := by
  obtain ⟨position, hfile⟩ := hl.files m hm
  refine succeeds_bind (openFile_succeeds hfile rfl) ?_
  rintro _ _ ⟨rfl, rfl⟩
  exact attempts_imp (osCall_attempts hl) fun _ _ ht => ht.1

theorem seekFile_attempts (hl : Layout r h e o ws) (hm : m ∈ o) (position : ℕ) :
    Attempts host (seekFile host m.inode position) 1
      (fun _ t => Layout r h e o t ∧ t.files.get? m.inode =
        some { contents := m.contents, links := 1, closed := false, position := position })
      (fun _ => Layout r h e o) ws :=
  onFile_attempts hl hm fun _ _ ht _ _ => ⟨rfl, ht.moved hm, Dict.get?_set_self _ _ _⟩

/-- Reading from the start of a file that is not too long gives all of it. -/
theorem readFile_attempts (hl : Layout r h e o ws) (hm : m ∈ o) {size : ℕ}
    (hstart : ws.files.get? m.inode =
      some { contents := m.contents, links := 1, closed := false, position := 0 })
    (hsize : m.contents.length ≤ size) :
    Attempts host (readFile host m.inode size) 1
      (fun data t => data = m.contents ∧ Layout r h e o t)
      (fun _ => Layout r h e o) ws := by
  refine onFile_attempts hl hm fun position t ht _ hfile => ?_
  rw [hstart, Option.some.injEq, File.mk.injEq] at hfile
  obtain rfl := hfile.2.2.2
  refine ⟨rfl, ?_, ht.moved hm⟩
  rw [List.drop_zero, List.take_of_length_le hsize]

/-- Writing into an empty file. -/
theorem writeFile_attempts (hl : Layout r h e (o ++ [{ m with contents := [] }]) ws) :
    Attempts host (writeFile host m.inode m.contents) 1 (fun _ => Layout r h e (o ++ [m]))
      (fun _ => Layout r h e (o ++ [{ m with contents := [] }])) ws := by
  refine onFile_attempts (m := { m with contents := [] }) hl (by simp) ?_
  intro position t ht _ _
  have hsame : m.inode = ({ m with contents := [] } : Member).inode := rfl
  have hset := ht.setFile (position + m.contents.length) hsame
  refine ⟨rfl, ?_⟩
  simpa [LabRuntime.setFile] using hset

/-- Making a file: it is in the directory and open, and nothing else. -/
theorem namedTemporaryFile_attempts (hl : Holds l ws) (hlen : l.length ≤ maxWorkspaceFiles)
    (pre suffix : String) (artifact : String) (contents : List ℕ) :
    Attempts host (namedTemporaryFile host pre suffix) 1
      (fun p t => ∃ random, p.1 = memberName pre random suffix ∧
        Layout l l (l ++ [⟨artifact, p.1, p.2, contents⟩]) (l ++ [⟨artifact, p.1, p.2, []⟩]) t ∧
        p.1 ∉ l.map (·.name)) (fun _ => Holds l) ws := by
  unfold namedTemporaryFile
  refine attempts_then (osCall_attempts hl) ?_
  rintro _ t ⟨ht, -⟩
  simp only [Prog.wp_bind, Prog.wp_get, Prog.wp_modify, Prog.wp_pure]
  have hfresh := host.pick_fresh t.created pre suffix t.entries.keys
    (by rw [ht.entry_keys, List.length_map]; exact hlen)
  refine ⟨trivial, _, rfl, ⟨ht.1, ht.2, ht.3, ht.4, ?_, ?_, ?_, ?_, ht.9⟩, ?_⟩
  · rw [Dict.set, dif_neg hfresh]
    simp [ht.entries]
  · intro x hx
    rcases List.mem_append.mp hx with hx | hx
    · obtain ⟨position, hfile⟩ := ht.files x hx
      have hne : x.inode ≠ t.created := (ht.created x hx).ne
      exact ⟨position, by rw [Dict.get?_set_ne _ _ hne]; exact hfile⟩
    · rw [List.mem_singleton.mp hx]
      exact ⟨0, Dict.get?_set_self _ _ _⟩
  · rw [List.map_append, List.nodup_append]
    refine ⟨ht.inodes, by simp, ?_⟩
    intro i hi j hj
    obtain ⟨x, hx, rfl⟩ := List.mem_map.mp hi
    obtain rfl : j = t.created := by simpa using hj
    exact (ht.created x hx).ne
  · intro x hx
    rcases List.mem_append.mp hx with hx | hx
    · exact (ht.created x hx).trans (Nat.lt_succ_self _)
    · rw [List.mem_singleton.mp hx]
      exact Nat.lt_succ_self _
  · rw [← ht.entry_keys]
    exact hfresh

/-! ### The boundary checks -/

theorem assertRoot_succeeds (hl : Layout r h e o ws) :
    Succeeds assertRoot (fun _ t => t = ws) ws := by
  unfold assertRoot
  simp only [Prog.wp_bind, Prog.wp_get, Prog.wp_require]
  have hroot := hl.root
  exact ⟨fun _ => trivial, fun hbad => hbad ⟨hl.running, by simp [hroot]⟩⟩

theorem safeMemberPath_attempts (hl : Layout r h e o ws) (hh : m ∈ h) (he : m ∈ e) :
    Attempts host (safeMemberPath host m.name) 1 (fun _ => Layout r h e o)
      (fun _ => Layout r h e o) ws := by
  unfold safeMemberPath
  refine succeeds_bind (assertRoot_succeeds hl) ?_
  rintro _ _ rfl
  simp only [Prog.wp_bind, Prog.wp_get, Prog.wp_require, Prog.wp_modify]
  have hentry := hl.entry_get? he
  refine ⟨fun _ => ⟨fun hok => ⟨trivial, fun i hi => ?_, hl.calls _⟩, fun hbad => ?_⟩,
    fun hbad => (hbad ⟨?_, hl.bare m hh⟩).elim⟩
  · obtain rfl : i = 0 := by omega
    exact hok.1
  · refine ⟨0, Nat.one_pos, ?_, Nat.lt_succ_self _, hl.calls _⟩
    simpa [hentry] using hbad
  · rw [hl.handle_keys]
    exact List.mem_map_of_mem hh

theorem handleOf_succeeds (hl : Layout r h e o ws) (hh : m ∈ h) :
    Succeeds (handleOf m.name) (fun handle t => handle = m.inode ∧ t = ws) ws := by
  unfold handleOf
  simp only [Prog.wp_bind, Prog.wp_get, hl.handle_get? hh]
  exact ⟨rfl, rfl⟩

theorem assertMember_attempts (hl : Holds l ws) (hm : m ∈ l)
    (hsize : m.contents.length ≤ maxArtifactBytes) :
    Attempts host (assertMember host m.name { kind := .regular, inode := m.inode }) 3
      (fun size t => size = m.contents.length ∧ Holds l t) (fun _ => Holds l) ws := by
  unfold assertMember
  refine attempts_bind 2 rfl (safeMemberPath_attempts hl hm hm) ?_
  intro _ t ht
  refine succeeds_bind (handleOf_succeeds ht hm) ?_
  rintro _ t ⟨rfl, rfl⟩
  refine (Prog.wp_bind _ _).mpr (Prog.wp_get.mpr ((Prog.wp_bind _ _).mpr (Prog.wp_require.mpr
    ⟨fun _ => ?_, fun hbad => (hbad ⟨?_, rfl⟩).elim⟩)))
  · refine attempts_bind 1 rfl (attempts_imp (osCall_attempts ht) fun _ _ h => h.1) ?_
    intro _ t ht
    refine attempts_then (fstat_attempts ht hm) ?_
    rintro f t ⟨hcontents, hlinks, ht⟩
    rw [hcontents]
    refine (Prog.wp_bind _ _).mpr (Prog.wp_require.mpr ⟨fun _ => ⟨rfl, rfl, ht⟩, fun hbad => ?_⟩)
    exact hbad ⟨rfl, hlinks, hsize⟩
  · obtain ⟨position, hfile⟩ := ht.files m hm
    intro f hf
    rw [Option.mem_def, hfile] at hf
    cases hf
    rfl

/-- The bytes of some members. -/
def totalBytes (l : List Member) : ℕ := (l.map (·.contents.length)).sum

theorem assertMembers_attempts (hl : Holds l ws) (sub : List Member) (hsub : ∀ m ∈ sub, m ∈ l)
    (hsize : ∀ m ∈ sub, m.contents.length ≤ maxArtifactBytes) :
    Attempts host (assertMembers host
        (sub.map fun m => (m.name, { kind := .regular, inode := m.inode }))) (3 * sub.length)
      (fun total t => total = totalBytes sub ∧ Holds l t) (fun _ => Holds l) ws := by
  induction sub generalizing ws with
  | nil => exact attempts_zero ⟨rfl, rfl, hl⟩
  | cons m sub ih =>
    rw [List.map_cons, assertMembers]
    refine attempts_bind (3 * sub.length) (by simp only [List.length_cons]; omega)
      (assertMember_attempts hl (hsub m List.mem_cons_self) (hsize m List.mem_cons_self)) ?_
    rintro _ t ⟨rfl, ht⟩
    refine attempts_then (ih ht
      (fun x hx => hsub x (List.mem_cons_of_mem _ hx))
      fun x hx => hsize x (List.mem_cons_of_mem _ hx)) ?_
    rintro _ t ⟨rfl, ht⟩
    exact ⟨rfl, by simp [totalBytes], ht⟩

/-- Few files, none too long, not too long together. -/
structure Bounded (l : List Member) : Prop where
  count : l.length ≤ maxWorkspaceFiles
  each : ∀ m ∈ l, m.contents.length ≤ maxArtifactBytes
  total : totalBytes l ≤ maxWorkspaceBytes

/-- The calls of `_assert_workspace` over some members. -/
def checkCalls (members : ℕ) : ℕ := 1 + 3 * members

theorem assertWorkspace_attempts (hl : Holds l ws) (hb : Bounded l) :
    Attempts host (assertWorkspace host) (checkCalls l.length) (fun _ => Holds l)
      (fun _ => Holds l) ws := by
  unfold assertWorkspace
  refine succeeds_bind (assertRoot_succeeds hl) ?_
  rintro _ _ rfl
  refine attempts_bind (3 * l.length) rfl (attempts_imp (osCall_attempts hl) fun _ _ h => h.1) ?_
  intro _ t ht
  refine (Prog.wp_bind _ _).mpr (Prog.wp_get.mpr ((Prog.wp_bind _ _).mpr (Prog.wp_require.mpr
    ⟨fun _ => ?_, fun hbad => (hbad ⟨?_, ?_, ?_⟩).elim⟩)))
  · rw [ht.entries]
    refine attempts_then (assertMembers_attempts ht l (fun _ hm => hm) hb.each) ?_
    rintro _ t ⟨rfl, ht⟩
    exact Prog.wp_require.mpr ⟨fun _ => ⟨rfl, ht⟩, fun hbad => hbad hb.total⟩
  · rw [Dict.size_eq_length_keys, ht.entry_keys, List.length_map]
    exact hb.count
  · rw [ht.entry_keys, ht.handle_keys]
    exact fun _ hm => hm
  · rw [ht.entry_keys, ht.handle_keys]
    exact fun _ hm => hm

theorem sizeOfHandles_attempts (hl : Layout r h e o ws) (sub : List Member)
    (hsub : ∀ m ∈ sub, m ∈ o) :
    Attempts host (sizeOfHandles host (sub.map (·.inode))) sub.length
      (fun total t => total = totalBytes sub ∧ Layout r h e o t) (fun _ => Layout r h e o) ws := by
  induction sub generalizing ws with
  | nil => exact attempts_zero ⟨rfl, rfl, hl⟩
  | cons m sub ih =>
    rw [List.map_cons, sizeOfHandles]
    refine attempts_bind sub.length (by simp only [List.length_cons]; omega)
      (fstat_attempts hl (hsub m List.mem_cons_self)) ?_
    rintro f t ⟨hcontents, -, ht⟩
    refine attempts_then (ih ht fun x hx => hsub x (List.mem_cons_of_mem _ hx)) ?_
    rintro _ t ⟨rfl, ht⟩
    exact ⟨rfl, by simp [totalBytes, hcontents], ht⟩

/-! ### Artifacts -/

/-- The prefix and suffix of a file keep its name inside the directory. -/
structure SafeAffixes (pre suffix : String) : Prop where
  pre_chars : ∀ c ∈ pre.toList, isMemberChar c = true
  pre_long : 2 ≤ pre.toList.length
  suffix_chars : ∀ c ∈ suffix.toList, isMemberChar c = true

theorem safeAffixes_of_all {pre suffix : String} (hpre : pre.toList.all isMemberChar = true)
    (hlong : 2 ≤ pre.toList.length) (hsuffix : suffix.toList.all isMemberChar = true) :
    SafeAffixes pre suffix :=
  ⟨List.all_eq_true.mp hpre, hlong, List.all_eq_true.mp hsuffix⟩

theorem memberName_chars {pre suffix : String} (haff : SafeAffixes pre suffix)
    (random : RandomName) : ∀ c ∈ (pre ++ random.text ++ suffix).toList, isMemberChar c = true := by
  have halphabet : tempfileAlphabet.all isMemberChar = true := by decide
  intro c hc
  simp only [String.toList_append, List.mem_append] at hc
  rcases hc with (hc | hc) | hc
  · exact haff.pre_chars c hc
  · exact List.all_eq_true.mp halphabet c (random.alphabet.2 c hc)
  · exact haff.suffix_chars c hc

theorem memberName_long {pre suffix : String} (haff : SafeAffixes pre suffix)
    (random : RandomName) : 2 < (pre ++ random.text ++ suffix).toList.length := by
  have hpre := haff.pre_long
  have hrandom := random.alphabet.1
  simp only [String.toList_append, List.length_append]
  omega

theorem memberName_ne {pre suffix : String} (haff : SafeAffixes pre suffix)
    (random : RandomName) {s : String} (hs : s.toList.length ≤ 2) :
    memberName pre random suffix ≠ .text s := by
  intro heq
  have hlong := memberName_long haff random
  rw [PyStr.text.inj heq] at hlong
  omega

theorem memberName_isMemberName {pre suffix : String} (haff : SafeAffixes pre suffix)
    (random : RandomName) : isMemberName (memberName pre random suffix) = true := by
  have hne := memberName_ne haff random (s := "") (by simp)
  unfold isMemberName
  rw [Bool.and_eq_true]
  exact ⟨by simpa using hne, List.all_eq_true.mpr (memberName_chars haff random)⟩

theorem memberName_isBareName {pre suffix : String} (haff : SafeAffixes pre suffix)
    (random : RandomName) : isBareName (memberName pre random suffix) = true := by
  have hcodes : ∀ c ∈ (memberName pre random suffix).codes, c ≠ 0x2F ∧ c ≠ 0x5C := by
    intro c hc
    obtain ⟨ch, hch, rfl⟩ := List.mem_map.mp hc
    have hchar := memberName_chars haff random ch hch
    constructor
    · intro h
      have : ch = '/' := Char.ext (UInt32.toNat_inj.mp h)
      subst this
      exact absurd hchar (by decide)
    · intro h
      have : ch = Char.ofNat 0x5C := Char.ext (UInt32.toNat_inj.mp h)
      subst this
      exact absurd hchar (by decide)
  have hdot := memberName_ne haff random (s := ".") (by decide)
  have hdots := memberName_ne haff random (s := "..") (by decide)
  simp only [isBareName, Bool.and_eq_true, Bool.not_eq_true', List.contains_eq_mem,
    decide_eq_false_iff_not, bne_iff_ne]
  exact ⟨⟨⟨fun hmem => (hcodes _ hmem).1 rfl, fun hmem => (hcodes _ hmem).2 rfl⟩, hdot⟩, hdots⟩

end C2Lab.LabRuntime
