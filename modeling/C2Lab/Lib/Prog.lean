import Mathlib.Init
import Mathlib.Tactic.Common

/-! Weakest preconditions for stateful programs that may raise.

    A program runs on a state and ends normally or by raising; what it wrote before raising stays
    written. `wp m Q E s` says that from `s` the run of `m` ends normally in `Q`, or raises in `E`.
    The rules below follow the program text: one for each way a program is built, and for a loop the
    invariant rule. -/

namespace C2Lab.Prog

variable {ε σ α β : Type}

/-- From `s`, `m` ends normally in a state satisfying `Q` or raises in one satisfying `E`. -/
def wp (m : EStateM ε σ α) (Q : α → σ → Prop) (E : ε → σ → Prop) (s : σ) : Prop :=
  match m s with
  | .ok a t => Q a t
  | .error e t => E e t

/-- The state a run leaves behind, whichever way it ends. -/
def final (m : EStateM ε σ α) (s : σ) : σ :=
  match m s with
  | .ok _ t => t
  | .error _ t => t

/-- Raise `e` unless `c` holds. -/
def require (c : Prop) [Decidable c] (e : ε) : EStateM ε σ PUnit :=
  if c then pure ⟨⟩ else throw e

variable {Q : α → σ → Prop} {E : ε → σ → Prop} {s : σ}

theorem get_apply (s : σ) : (get : EStateM ε σ σ) s = .ok s s := rfl

theorem modify_apply (f : σ → σ) (s : σ) :
    (modify f : EStateM ε σ PUnit) s = .ok ⟨⟩ (f s) := rfl

theorem throw_apply (e : ε) (s : σ) : (throw e : EStateM ε σ α) s = .error e s := rfl

theorem wp_final {R : σ → Prop} {m : EStateM ε σ α} :
    wp m (fun _ => R) (fun _ => R) s ↔ R (final m s) := by
  unfold wp final
  cases m s <;> rfl

@[simp] theorem wp_pure (a : α) : wp (pure a : EStateM ε σ α) Q E s ↔ Q a s := Iff.rfl

@[simp] theorem wp_throw (e : ε) : wp (throw e : EStateM ε σ α) Q E s ↔ E e s := Iff.rfl

@[simp] theorem wp_bind (m : EStateM ε σ β) (f : β → EStateM ε σ α) :
    wp (m >>= f) Q E s ↔ wp m (fun b => wp (f b) Q E) E s := by
  simp only [wp, bind, EStateM.bind]
  cases m s <;> rfl

@[simp] theorem wp_map (m : EStateM ε σ β) (f : β → α) :
    wp (f <$> m) Q E s ↔ wp m (fun b => Q (f b)) E s := by
  simp only [wp, Functor.map, EStateM.map]
  cases m s <;> rfl

@[simp] theorem wp_get {Q : σ → σ → Prop} :
    wp (get : EStateM ε σ σ) Q E s ↔ Q s s := Iff.rfl

@[simp] theorem wp_set {Q : PUnit → σ → Prop} (t : σ) :
    wp (set t : EStateM ε σ PUnit) Q E s ↔ Q ⟨⟩ t := Iff.rfl

@[simp] theorem wp_modify {Q : PUnit → σ → Prop} (f : σ → σ) :
    wp (modify f : EStateM ε σ PUnit) Q E s ↔ Q ⟨⟩ (f s) := Iff.rfl

/-- What a handler catches. -/
@[simp] theorem wp_tryCatch (m : EStateM ε σ α) (f : ε → EStateM ε σ α) :
    wp (tryCatch m f) Q E s ↔ wp m Q (fun e => wp (f e) Q E) s := by
  simp only [wp, tryCatch, tryCatchThe, MonadExceptOf.tryCatch, EStateM.tryCatch]
  cases m s <;> rfl

/-- Mapping the value of a run leaves its state alone. -/
theorem final_map_eq (m : EStateM ε σ β) (f : β → α) (s : σ) : final (f <$> m) s = final m s := by
  simp only [final, Functor.map, EStateM.map]
  cases m s <;> rfl

/-- A run that ends in `R` either way still does when its value is mapped. -/
theorem final_map {R : σ → Prop} {m : EStateM ε σ β} (f : β → α)
    (h : wp m (fun _ => R) (fun _ => R) s) : R (final (f <$> m) s) :=
  wp_final.mp ((wp_map m f).mpr h)

theorem wp_require {c : Prop} [Decidable c] {e : ε} {Q : PUnit → σ → Prop} :
    wp (require c e) Q E s ↔ (c → Q ⟨⟩ s) ∧ (¬c → E e s) := by
  unfold require
  split <;> simp_all

theorem wp_ite {c : Prop} [Decidable c] {m n : EStateM ε σ α} :
    wp (if c then m else n) Q E s ↔ (c → wp m Q E s) ∧ (¬c → wp n Q E s) := by
  split <;> simp_all

/-- Weaken both postconditions. -/
theorem wp_mono {m : EStateM ε σ α} {Q' : α → σ → Prop} {E' : ε → σ → Prop}
    (h : wp m Q E s) (hQ : ∀ a t, Q a t → Q' a t) (hE : ∀ e t, E e t → E' e t) :
    wp m Q' E' s := by
  unfold wp at *
  cases hm : m s with
  | ok a t => rw [hm] at h; exact hQ a t h
  | error e t => rw [hm] at h; exact hE e t h

/-- Weaken the postcondition of a normal end. -/
theorem wp_imp {m : EStateM ε σ α} {Q' : α → σ → Prop} (h : wp m Q E s)
    (hQ : ∀ a t, Q a t → Q' a t) : wp m Q' E s := wp_mono h hQ fun _ _ he => he

/-- Two facts about one run. -/
theorem wp_and {m : EStateM ε σ α} {Q' : α → σ → Prop} {E' : ε → σ → Prop} (h : wp m Q E s)
    (h' : wp m Q' E' s) :
    wp m (fun a t => Q a t ∧ Q' a t) (fun e t => E e t ∧ E' e t) s := by
  unfold wp at *
  cases hm : m s with
  | ok a t => rw [hm] at h h'; exact ⟨h, h'⟩
  | error e t => rw [hm] at h h'; exact ⟨h, h'⟩

/-- A run that ended in a normal result. -/
theorem wp_of_ok {m : EStateM ε σ α} {a : α} {t : σ} (h : m s = .ok a t) (hQ : Q a t) :
    wp m Q E s := by
  rw [wp, h]; exact hQ

/-- A run whose result is known. -/
theorem wp_run {m : EStateM ε σ α} {a : α} {t : σ} (h : m s = .ok a t) : wp m Q E s ↔ Q a t := by
  rw [wp, h]

/-- A program that cannot raise has a normal result satisfying its postcondition. -/
theorem exists_ok {m : EStateM ε σ α} (h : wp m Q (fun _ _ => False) s) :
    ∃ a t, m s = .ok a t ∧ Q a t := by
  unfold wp at h
  cases hm : m s with
  | ok a t => rw [hm] at h; exact ⟨a, t, rfl, h⟩
  | error e t => rw [hm] at h; exact h.elim

/-- The loop rule: what each iteration preserves holds when the loop ends. -/
theorem wp_forM {l : List β} {f : β → EStateM ε σ PUnit} {I : σ → Prop}
    (hstep : ∀ b ∈ l, ∀ t, I t → wp (f b) (fun _ => I) E t) (h0 : I s) :
    wp (forM l f) (fun _ => I) E s := by
  induction l generalizing s with
  | nil => exact h0
  | cons b l ih =>
    simp only [List.forM_cons, wp_bind]
    exact wp_mono (hstep b List.mem_cons_self s h0)
      (fun _ t ht => ih (fun c hc => hstep c (List.mem_cons_of_mem _ hc)) ht) (fun _ _ he => he)

/-- The loop rule with the iterations done so far in the invariant. -/
theorem wp_forM_prefix {l : List β} {f : β → EStateM ε σ PUnit} {I : List β → σ → Prop}
    (hstep : ∀ done b rest, l = done ++ b :: rest → ∀ t, I done t →
      wp (f b) (fun _ => I (done ++ [b])) E t)
    (h0 : I [] s) : wp (forM l f) (fun _ => I l) E s := by
  suffices h : ∀ rest done t, l = done ++ rest → I done t →
      wp (forM rest f) (fun _ => I l) E t from h l [] s rfl h0
  intro rest
  induction rest with
  | nil => intro done t hl ht; simpa [hl] using ht
  | cons b rest ih =>
    intro done t hl ht
    simp only [List.forM_cons, wp_bind]
    exact wp_mono (hstep done b rest hl t ht)
      (fun _ u hu => ih (done ++ [b]) u (by simp [hl]) hu) (fun _ _ he => he)

/-- The loop rule for a sweep: what an iteration establishes of its element, the others keep. -/
theorem wp_forM_each {l : List β} {f : β → EStateM ε σ PUnit} {I : σ → Prop} {P : β → σ → Prop}
    (hstep : ∀ b ∈ l, ∀ t, I t → wp (f b) (fun _ u => I u ∧ P b u ∧ ∀ a, P a t → P a u) E t)
    (h0 : I s) : wp (forM l f) (fun _ u => I u ∧ ∀ b ∈ l, P b u) E s := by
  refine wp_forM_prefix (I := fun done u => I u ∧ ∀ b ∈ done, P b u) ?_ ⟨h0, by simp⟩
  rintro done b rest rfl t ⟨ht, hdone⟩
  refine wp_imp (hstep b (by simp) t ht) ?_
  rintro _ u ⟨hu, hb, hkeep⟩
  refine ⟨hu, fun a ha => ?_⟩
  rcases List.mem_append.mp ha with ha | ha
  · exact hkeep a (hdone a ha)
  · rw [List.mem_singleton.mp ha]; exact hb

/-- Two loops agree when their iterations do, on the states a loop invariant allows. -/
theorem forM_congr {l : List β} {f g : β → EStateM ε σ PUnit} {I : σ → Prop}
    (hstep : ∀ b ∈ l, ∀ t, I t → g b t = f b t ∧ wp (f b) (fun _ => I) (fun _ _ => False) t)
    (h0 : I s) : forM l g s = forM l f s := by
  induction l generalizing s with
  | nil => rfl
  | cons b l ih =>
    obtain ⟨heq, hwp⟩ := hstep b List.mem_cons_self s h0
    obtain ⟨a, t, ht, hI⟩ := exists_ok hwp
    simp only [List.forM_cons, bind, EStateM.bind, heq, ht]
    exact ih (fun c hc => hstep c (List.mem_cons_of_mem _ hc)) hI

/-- Two sequences agree when their first parts do, and the rest on the states the first leaves. -/
theorem bind_congr {m n : EStateM ε σ β} {f g : β → EStateM ε σ α} (h : n s = m s)
    (hrest : wp m (fun b t => g b t = f b t) (fun _ _ => True) s) :
    (n >>= g) s = (m >>= f) s := by
  simp only [bind, EStateM.bind, h]
  cases hm : m s with
  | ok b t => rw [wp_run hm] at hrest; exact hrest
  | error e t => rfl

/-- Only the first part changes. -/
theorem bind_congr_left {m n : EStateM ε σ β} {f : β → EStateM ε σ α} (h : n s = m s) :
    (n >>= f) s = (m >>= f) s := by
  simp only [bind, EStateM.bind, h]

end C2Lab.Prog
