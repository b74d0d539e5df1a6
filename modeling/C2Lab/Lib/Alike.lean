import C2Lab.Lib.Prog

/-! Two programs that run alike.

    Two programs start in two states. They are alike there when both end normally with related
    values, or both raise the same exception, and the states they leave are related either way. Such
    a pair is built the way its programs are: one rule for each way a program is built, and for a
    loop one about its body. -/

namespace C2Lab.Prog

variable {ε σ α α' β β' γ : Type} {R : σ → σ → Prop} {A : α → α' → Prop} {B : β → β' → Prop}
  {s s' : σ}

/-- From `s` and `s'` the two programs end alike: values in `A`, states in `R`. -/
def Alike (R : σ → σ → Prop) (A : α → α' → Prop) (m : EStateM ε σ α) (m' : EStateM ε σ α')
    (s s' : σ) : Prop :=
  match m s, m' s' with
  | .ok a t, .ok a' t' => A a a' ∧ R t t'
  | .error e t, .error e' t' => e' = e ∧ R t t'
  | _, _ => False

/-- No value to compare. -/
abbrev AlikeUnit (R : σ → σ → Prop) (m m' : EStateM ε σ PUnit) (s s' : σ) : Prop :=
  Alike R (fun _ _ => True) m m' s s'

theorem alike_pure {a : α} {a' : α'} (h : R s s') (ha : A a a') :
    Alike R A (pure a : EStateM ε σ α) (pure a') s s' := ⟨ha, h⟩

theorem alike_unit (h : R s s') : AlikeUnit R (pure ⟨⟩ : EStateM ε σ PUnit) (pure ⟨⟩) s s' :=
  ⟨trivial, h⟩

theorem alike_throw (h : R s s') (e : ε) :
    Alike R A (throw e : EStateM ε σ α) (throw e) s s' := ⟨rfl, h⟩

/-- Alike first parts, with a finer relation between the states, then alike continuations. -/
theorem alike_bind_of {R' : σ → σ → Prop} {m : EStateM ε σ β} {m' : EStateM ε σ β'}
    {f : β → EStateM ε σ α} {f' : β' → EStateM ε σ α'} (h : Alike R' B m m' s s')
    (hR : ∀ t t', R' t t' → R t t')
    (hf : ∀ b b' t t', B b b' → R' t t' → Alike R A (f b) (f' b') t t') :
    Alike R A (m >>= f) (m' >>= f') s s' := by
  unfold Alike at h
  simp only [Alike, bind, EStateM.bind]
  cases hm : m s <;> cases hm' : m' s' <;> rw [hm, hm'] at h
  case ok.ok => exact hf _ _ _ _ h.1 h.2
  case error.error => exact ⟨h.1, hR _ _ h.2⟩
  all_goals exact h.elim

/-- Alike first parts, then alike continuations. -/
theorem alike_bind {m : EStateM ε σ β} {m' : EStateM ε σ β'} {f : β → EStateM ε σ α}
    {f' : β' → EStateM ε σ α'} (h : Alike R B m m' s s')
    (hf : ∀ b b' t t', B b b' → R t t' → Alike R A (f b) (f' b') t t') :
    Alike R A (m >>= f) (m' >>= f') s s' :=
  alike_bind_of h (fun _ _ => id) hf

/-- After `get` both sides know their state. -/
theorem alike_get {f : σ → EStateM ε σ α} {f' : σ → EStateM ε σ α'}
    (h : Alike R A (f s) (f' s') s s') : Alike R A (get >>= f) (get >>= f') s s' := h

theorem alike_modify {f f' : σ → σ} (h : R (f s) (f' s')) :
    AlikeUnit R (modify f : EStateM ε σ PUnit) (modify f') s s' := ⟨trivial, h⟩

/-- A state change, then alike continuations. -/
theorem alike_modify_bind {g g' : σ → σ} {f : PUnit → EStateM ε σ α}
    {f' : PUnit → EStateM ε σ α'} (h : R (g s) (g' s'))
    (hf : R (g s) (g' s') → Alike R A (f ⟨⟩) (f' ⟨⟩) (g s) (g' s')) :
    Alike R A (modify g >>= f) (modify g' >>= f') s s' := hf h

/-- A check that comes out the same on both sides. -/
theorem alike_require {c c' : Prop} [Decidable c] [Decidable c'] (e : ε) (hc : c' ↔ c)
    (h : R s s') : AlikeUnit R (require c e) (require c' e) s s' := by
  unfold require
  by_cases hcase : c
  · rw [if_pos hcase, if_pos (hc.mpr hcase)]
    exact alike_unit h
  · rw [if_neg hcase, if_neg fun h' => hcase (hc.mp h')]
    exact alike_throw h e

/-- A branch that is taken on both sides or on neither. -/
theorem alike_ite {c c' : Prop} [Decidable c] [Decidable c'] {m n : EStateM ε σ α}
    {m' n' : EStateM ε σ α'} (hc : c' ↔ c) (hm : c → Alike R A m m' s s')
    (hn : ¬c → Alike R A n n' s s') :
    Alike R A (if c then m else n) (if c' then m' else n') s s' := by
  by_cases hcase : c
  · rw [if_pos hcase, if_pos (hc.mpr hcase)]
    exact hm hcase
  · rw [if_neg hcase, if_neg fun h' => hcase (hc.mp h')]
    exact hn hcase

/-- Weaken what is known of the values. -/
theorem alike_imp {m : EStateM ε σ α} {m' : EStateM ε σ α'} {A' : α → α' → Prop}
    (h : Alike R A m m' s s') (hA : ∀ a a', A a a' → A' a a') : Alike R A' m m' s s' := by
  unfold Alike at h ⊢
  cases hm : m s <;> cases hm' : m' s' <;> rw [hm, hm'] at h
  case ok.ok => exact ⟨hA _ _ h.1, h.2⟩
  case error.error => exact h
  all_goals exact h.elim

theorem alike_map {m : EStateM ε σ β} {m' : EStateM ε σ β'} {f : β → α} {f' : β' → α'}
    (h : Alike R B m m' s s') (hA : ∀ b b', B b b' → A (f b) (f' b')) :
    Alike R A (f <$> m) (f' <$> m') s s' := by
  unfold Alike at h
  simp only [Alike, Functor.map, EStateM.map]
  cases hm : m s <;> cases hm' : m' s' <;> rw [hm, hm'] at h
  case ok.ok => exact ⟨hA _ _ h.1, h.2⟩
  case error.error => exact h
  all_goals exact h.elim

/-- Two loops over the same list are alike when their bodies are. -/
theorem alike_forM {l : List β} {f f' : β → EStateM ε σ PUnit}
    (hstep : ∀ b ∈ l, ∀ t t', R t t' → AlikeUnit R (f b) (f' b) t t') (h : R s s') :
    AlikeUnit R (forM l f) (forM l f') s s' := by
  induction l generalizing s s' with
  | nil => exact alike_unit h
  | cons b l ih =>
    simp only [List.forM_cons]
    refine alike_bind (hstep b List.mem_cons_self s s' h) fun _ _ t t' _ ht => ?_
    exact ih (fun c hc => hstep c (List.mem_cons_of_mem _ hc)) ht

/-- Whichever way two alike programs end, the states they leave are related. -/
theorem Alike.final {m : EStateM ε σ α} {m' : EStateM ε σ α'} (h : Alike R A m m' s s') :
    R (Prog.final m s) (Prog.final m' s') := by
  unfold Alike at h
  unfold Prog.final
  cases hm : m s <;> cases hm' : m' s' <;> rw [hm, hm'] at h
  case ok.ok => exact h.2
  case error.error => exact h.2
  all_goals exact h.elim

/-- After alike first parts it is enough that the states left by the rest are related. -/
theorem final_bind {m : EStateM ε σ β} {m' : EStateM ε σ β'} {f : β → EStateM ε σ α}
    {f' : β' → EStateM ε σ α'} (h : Alike R B m m' s s')
    (hf : ∀ b b' t t', m s = .ok b t → m' s' = .ok b' t' → B b b' → R t t' →
      R (Prog.final (f b) t) (Prog.final (f' b') t')) :
    R (Prog.final (m >>= f) s) (Prog.final (m' >>= f') s') := by
  unfold Alike at h
  simp only [Prog.final, bind, EStateM.bind]
  cases hm : m s <;> cases hm' : m' s' <;> rw [hm, hm'] at h
  case ok.ok => exact hf _ _ _ _ hm hm' h.1 h.2
  case error.error => exact h.2
  all_goals exact h.elim

end C2Lab.Prog
