import C2Lab.Documented
import C2Lab.Workspace.Artifacts
import C2Lab.Workspace.Playbooks

/-! The workspace over any sequence of playbooks, no call to the operating system failing.

    A `Shelf` is what a workspace is for: artifacts and their bytes. The playbooks act on shelves,
    and the workspace follows them: what it registers is the shelf, and the directory, the handles
    and the open files agree with it. -/

namespace C2Lab.LabRuntime

open Json (dict)

/-! ### Shelves -/

/-- Artifacts and their bytes. -/
abbrev Shelf := List (String × List ℕ)

/-- The names on a shelf. -/
def Shelf.names (s : Shelf) : List String := s.map Prod.fst

/-- A shelf without one artifact. -/
def Shelf.without (artifact : String) (s : Shelf) : Shelf := s.filter fun p => p.1 ≠ artifact

/-- The bytes of the manifest. -/
def manifestBytes : List ℕ := (asciiText (manifestJson fixtureDefinitions)).getD []

/-- The shelf of a new workspace. -/
def fixtureShelf : Shelf := fixtureDefinitions.map fun f => (f.artifact, f.contents)

/-- All that can ever be on a shelf. -/
def inventory : Shelf :=
  fixtureShelf ++ [(manifestArtifact, manifestBytes), (canaryArtifact, canaryBytes)]

/-- What a playbook does to a shelf. -/
def shelve : Playbook → Shelf → Shelf
  | .discoveryFixtures, s => s
  | .collectAndStage, s => s.without manifestArtifact ++ [(manifestArtifact, manifestBytes)]
  | .createCanary, s =>
    if canaryArtifact ∈ s.names then s else s ++ [(canaryArtifact, canaryBytes)]
  | .cleanup, s => (s.without manifestArtifact).without canaryArtifact

/-- The shelf after a sequence of playbooks. -/
def shelfAfter (ps : List Playbook) : Shelf := ps.foldl (fun s p => shelve p s) fixtureShelf

/-- What the manifest says of a fixture whose digest is known. -/
def digestItem (f : Fixture) (digest : String) : Json :=
  dict [("artifact", .str f.artifact), ("bytes", .int f.contents.length), ("sha256", .str digest)]

theorem manifestJson_digests : manifestJson fixtureDefinitions =
    dict [("synthetic", .bool true), ("entries", .arr (List.zipWith digestItem fixtureDefinitions
      ["da9a7ed976a55d584f5dd31a77f269693f09b6c1dcd149b6c521f1b1a07465db",
       "a46f9bb2d2ce533a0a189998c3934efdab7ccbfc56349a3af7b59c1279f3d8c3",
       "ebabb5d61235fe368d609570ff143b1be4f9d047fbd45c16b5eca975f41a42c4"]))] := by
  rw [← fixture_digests, List.zipWith_map_right, List.zipWith_self]
  rfl

theorem manifest_text : asciiText (manifestJson fixtureDefinitions) = some manifestBytes := by
  have h : (asciiText (manifestJson fixtureDefinitions)).isSome = true := by
    rw [manifestJson_digests]
    decide
  obtain ⟨bytes, hbytes⟩ := Option.isSome_iff_exists.mp h
  rw [manifestBytes, hbytes]
  rfl

theorem inventory_bounded :
    (∀ p ∈ inventory, p.2.length ≤ maxArtifactBytes) ∧
      (inventory.map fun p => p.2.length).sum ≤ maxWorkspaceBytes := by
  rw [inventory, manifestBytes, manifestJson_digests]
  decide +kernel

theorem inventory_names : (inventory.map Prod.fst).Nodup := by decide

/-- Things of the inventory, each at most once. -/
structure Stock (s : Shelf) : Prop where
  nodup : s.names.Nodup
  known : ∀ p ∈ s, p ∈ inventory

namespace Stock

variable {s : Shelf} {artifact : String} {bytes : List ℕ}

theorem subperm (h : Stock s) : s.Subperm inventory :=
  List.subperm_of_subset (List.Nodup.of_map _ h.nodup) h.known

theorem count (h : Stock s) : s.length ≤ maxWorkspaceFiles := h.subperm.length_le

theorem each (h : Stock s) {p : String × List ℕ} (hp : p ∈ s) : p.2.length ≤ maxArtifactBytes :=
  inventory_bounded.1 p (h.known p hp)

theorem total (h : Stock s) : (s.map fun p => p.2.length).sum ≤ maxWorkspaceBytes := by
  obtain ⟨l, hperm, hsub⟩ := h.subperm
  have hle : (l.map fun p => p.2.length).sum ≤ (inventory.map fun p => p.2.length).sum :=
    (hsub.map fun p : String × List ℕ => p.2.length).sum_le_sum fun n _ => Nat.zero_le n
  rw [← (hperm.map fun p => p.2.length).sum_eq]
  exact hle.trans inventory_bounded.2

theorem part {s' : Shelf} (h : Stock s) (hsub : s'.Sublist s) : Stock s' :=
  ⟨h.nodup.sublist (hsub.map _), fun p hp => h.known p (hsub.subset hp)⟩

theorem without (h : Stock s) (artifact : String) : Stock (s.without artifact) :=
  h.part List.filter_sublist

theorem add (h : Stock s) (hnew : artifact ∉ s.names) (hknown : (artifact, bytes) ∈ inventory) :
    Stock (s ++ [(artifact, bytes)]) := by
  refine ⟨?_, fun p hp => ?_⟩
  · rw [Shelf.names, List.map_append, List.nodup_append]
    refine ⟨h.nodup, by simp, fun a ha b hb => ?_⟩
    obtain rfl : b = artifact := by simpa using hb
    exact fun heq => hnew (heq ▸ ha)
  · rcases List.mem_append.mp hp with hp | hp
    · exact h.known p hp
    · exact List.mem_singleton.mp hp ▸ hknown

end Stock

theorem not_mem_without (s : Shelf) (artifact : String) :
    artifact ∉ (s.without artifact).names := by
  simp [Shelf.names, Shelf.without]

theorem stock_fixtures : Stock fixtureShelf :=
  ⟨by decide, fun _ hp => List.mem_append_left _ hp⟩

/-- A playbook keeps a shelf in order. -/
theorem Stock.shelve {s : Shelf} (h : Stock s) (p : Playbook) : Stock (shelve p s) := by
  cases p with
  | discoveryFixtures => exact h
  | collectAndStage =>
    exact (h.without _).add (not_mem_without s _) (by simp [inventory])
  | createCanary =>
    show Stock (if canaryArtifact ∈ s.names then s else s ++ [(canaryArtifact, canaryBytes)])
    split
    · exact h
    · rename_i hnew
      exact h.add hnew (by simp [inventory])
  | cleanup => exact (h.without _).without _

theorem shelfAfter_append (ps : List Playbook) (p : Playbook) :
    shelfAfter (ps ++ [p]) = shelve p (shelfAfter ps) := by
  simp [shelfAfter]

theorem stock_shelfAfter (ps : List Playbook) : Stock (shelfAfter ps) := by
  induction ps using List.reverseRecOn with
  | nil => exact stock_fixtures
  | append_singleton ps p ih => exact (shelfAfter_append ps p).symm ▸ ih.shelve p

/-- The playbooks that ran after the last `CLEANUP`, the latest first. -/
def sinceCleanup (ps : List Playbook) : List Playbook := ps.reverse.takeWhile (· ≠ .cleanup)

theorem sinceCleanup_append (ps : List Playbook) (p : Playbook) :
    sinceCleanup (ps ++ [p]) = if p = .cleanup then [] else p :: sinceCleanup ps := by
  by_cases hp : p = .cleanup <;> simp [sinceCleanup, hp]

theorem fixture_names : ∀ x ∈ fixtureShelf, x.1 ≠ manifestArtifact ∧ x.1 ≠ canaryArtifact := by
  decide

theorem mem_without {s : Shelf} {artifact : String} {x : String × List ℕ} :
    x ∈ s.without artifact ↔ x ∈ s ∧ x.1 ≠ artifact := by
  simp [Shelf.without]

/-- A name on the shelf stands for the bytes it has in the inventory. -/
theorem Stock.mem_of_name {s : Shelf} (h : Stock s) {x : String × List ℕ} (hx : x ∈ inventory)
    (hname : x.1 ∈ s.names) : x ∈ s := by
  obtain ⟨y, hy, heq⟩ := List.mem_map.mp hname
  have hsame : y = x := List.inj_on_of_nodup_map inventory_names (h.known y hy) hx heq
  exact hsame ▸ hy

theorem mem_shelve {s : Shelf} (h : Stock s) (p : Playbook) (x : String × List ℕ) :
    x ∈ shelve p s ↔
      (x ∈ s ∧ (p = .cleanup → x.1 ≠ manifestArtifact ∧ x.1 ≠ canaryArtifact)) ∨
      (p = .collectAndStage ∧ x = (manifestArtifact, manifestBytes)) ∨
      (p = .createCanary ∧ x = (canaryArtifact, canaryBytes)) := by
  cases p with
  | discoveryFixtures => simp [shelve]
  | collectAndStage =>
    simp only [shelve, List.mem_append, mem_without, List.mem_singleton, reduceCtorEq,
      false_implies, and_true, true_and, false_and, or_false]
    constructor
    · rintro (⟨hx, -⟩ | rfl)
      · exact .inl hx
      · exact .inr rfl
    · rintro (hx | rfl)
      · by_cases hname : x.1 = manifestArtifact
        · exact .inr (List.inj_on_of_nodup_map inventory_names (h.known x hx) (by simp [inventory])
            hname)
        · exact .inl ⟨hx, hname⟩
      · exact .inr rfl
  | createCanary =>
    simp only [shelve, reduceCtorEq, false_implies, and_true, false_and, true_and, false_or]
    split
    · rename_i hname
      constructor
      · exact .inl
      · rintro (hx | rfl)
        · exact hx
        · exact h.mem_of_name (by simp [inventory]) hname
    · simp
  | cleanup => simp [shelve, mem_without, and_assoc]

/-- What is on the shelf: the fixtures, and what was put there since the last `CLEANUP`. -/
theorem mem_shelfAfter (ps : List Playbook) (x : String × List ℕ) :
    x ∈ shelfAfter ps ↔ x ∈ fixtureShelf ∨
      x = (manifestArtifact, manifestBytes) ∧ .collectAndStage ∈ sinceCleanup ps ∨
      x = (canaryArtifact, canaryBytes) ∧ .createCanary ∈ sinceCleanup ps := by
  induction ps using List.reverseRecOn with
  | nil => simp [shelfAfter, sinceCleanup]
  | append_singleton ps p ih =>
    rw [shelfAfter_append, mem_shelve (stock_shelfAfter ps), sinceCleanup_append, ih]
    cases p with
    | discoveryFixtures => simp
    | collectAndStage | createCanary =>
      simp only [reduceCtorEq, false_implies, and_true, if_false, List.mem_cons, false_or, true_and,
        false_and, or_false, true_or]
      tauto
    | cleanup =>
      simp only [true_implies, if_true, List.not_mem_nil, and_false, or_false, reduceCtorEq,
        false_and]
      constructor
      · rintro ⟨hx | ⟨rfl, -⟩ | ⟨rfl, -⟩, hne⟩
        · exact hx
        · exact absurd rfl hne.1
        · exact absurd rfl hne.2
      · exact fun hx => ⟨.inl hx, fixture_names x hx⟩

theorem mem_names {s : Shelf} {artifact : String} :
    artifact ∈ s.names ↔ ∃ bytes, (artifact, bytes) ∈ s := by
  simp [Shelf.names]

end C2Lab.LabRuntime
