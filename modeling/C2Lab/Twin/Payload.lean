import C2Lab.Twin.OperatorOps

/-! Renaming the free text of a payload renames the text of its command. -/

namespace C2Lab

variable {py : Interp} {ρ : Renaming py}

/-- The member of a payload that holds free text. -/
def TaskType.textKey : TaskType → Option String
  | .echoText | .hashText => some "text"
  | .generateEvent => some "message"
  | _ => none

/-- Only the names of the members decide `exact_keys`. -/
theorem exactKeys_congr {fields fields' : List (PyStr × Json)}
    (h : fields'.map Prod.fst = fields.map Prod.fst) (expected : List String) :
    exactKeys fields' expected = exactKeys fields expected := by
  have hall : ∀ p : PyStr → Bool, fields'.all (fun q => p q.1) = fields.all fun q => p q.1 := by
    intro p
    have hmap := congrArg (List.all · p) h
    simpa only [List.all_map, Function.comp_def] using hmap
  have hany : ∀ p : PyStr → Bool, fields'.any (fun q => p q.1) = fields.any fun q => p q.1 := by
    intro p
    have hmap := congrArg (List.any · p) h
    simpa only [List.any_map, Function.comp_def] using hmap
  have hkeys : hasExactKeys fields' expected = hasExactKeys fields expected := by
    unfold hasExactKeys
    rw [hall fun k => expected.any fun e => k == .text e]
    congr 1
    exact congrArg _ (funext fun e => hany fun k => k == .text e)
  have hmessage : keysMessage fields' expected = keysMessage fields expected := by
    unfold keysMessage
    rw [h]
  unfold exactKeys
  rw [hkeys, hmessage]

/-- The name of a field shows in its errors only. -/
theorem cleanText_field {j : Json} {field : String} {limit : ℕ} {c : PyStr}
    (h : cleanText py j field limit = .ok c) (field' : String) :
    cleanText py j field' limit = .ok c := by
  cases j with
  | str s =>
    simp only [cleanText] at h ⊢
    split at h
    · rename_i hlen
      rw [if_pos hlen]
      split at h
      · rename_i hchars
        rw [if_pos hchars]
        exact h
      · cases h
    · cases h
  | _ => cases h

namespace Renaming

/-- A text under its other name. -/
noncomputable def textArg (ρ : Renaming py) : Json → Json
  | .str s => .str (ρ.text.name s)
  | j => j

/-- A text that is trimmed, or is refused. -/
def Trimmed (py : Interp) (j : Json) : Prop :=
  ∀ c, cleanText py j "text" maxTextLength = .ok c → j = .str c

theorem cleanText_textArg {j : Json} (hj : Trimmed py j) (field : String) :
    cleanText py (ρ.textArg j) field maxTextLength =
      (cleanText py j field maxTextLength).map ρ.text.name := by
  cases j with
  | str s =>
    by_cases hs : CleanText py s
    · have hname : CleanText py (ρ.text.name s) := ρ.text.name_iff.mpr hs
      have htext : cleanText py (ρ.textArg (.str s)) field maxTextLength = .ok (ρ.text.name s) :=
        cleanText_field hname field
      rw [htext, cleanText_field hs field]
      rfl
    · have hsame : ρ.textArg (.str s) = .str s := congrArg Json.str (ρ.text.name_of_not hs)
      rw [hsame]
      cases hc : cleanText py (.str s) field maxTextLength with
      | error e => rfl
      | ok c =>
        have hclean := cleanText_field hc "text"
        obtain rfl : s = c := Json.str.inj (hj c hclean)
        exact absurd hclean hs
  | _ => rfl

/-- The payload of a task under another text. -/
noncomputable def payload (ρ : Renaming py) (t : TaskType) : Json → Json
  | .obj fields => .obj (fields.map fun p =>
      if t.textKey.map PyStr.text = some p.1 then (p.1, ρ.textArg p.2) else p)
  | j => j

theorem fst_retext (key : Option PyStr) (fields : List (PyStr × Json)) :
    (fields.map fun p => if key = some p.1 then (p.1, ρ.textArg p.2) else p).map Prod.fst =
      fields.map Prod.fst := by
  rw [List.map_map]
  refine List.map_congr_left fun p _ => ?_
  simp only [Function.comp]
  split <;> rfl

theorem lookup_retext (key : Option PyStr) (fields : List (PyStr × Json)) (k : PyStr) :
    Json.lookup (fields.map fun p => if key = some p.1 then (p.1, ρ.textArg p.2) else p) k =
      (Json.lookup fields k).map fun v => if key = some k then ρ.textArg v else v := by
  unfold Json.lookup
  induction fields with
  | nil => rfl
  | cons p fields ih =>
    rw [List.map_cons, List.find?_cons, List.find?_cons]
    have hfst : (if key = some p.1 then (p.1, ρ.textArg p.2) else p).1 = p.1 := by
      split <;> rfl
    rw [hfst]
    by_cases hp : p.1 = k
    · subst hp
      simp only [decide_true, Option.map_some]
      split <;> rfl
    · simp only [hp, decide_false]
      exact ih

theorem item_retext (key : Option PyStr) (fields : List (PyStr × Json)) (k : String) :
    item (.obj (fields.map fun p => if key = some p.1 then (p.1, ρ.textArg p.2) else p)) k =
      (item (.obj fields) k).map fun v => if key = some (.text k) then ρ.textArg v else v := by
  simp only [item, Json.getItem, lookup_retext]
  cases Json.lookup fields (.text k) <;> rfl

/-- A program of checks is mapped at its end. -/
theorem bind_map_congr {α β : Type} (x : Except Exc α) (k : α → Except Exc β) (f : β → Command)
    (k' : α → Except Exc Command) (hk : ∀ a, x = .ok a → k' a = (k a).map f) :
    (x >>= k') = (x >>= k).map f := by
  cases x with
  | error e => rfl
  | ok a => exact hk a rfl

/-- A text is mapped where it is read. -/
theorem bind_textArg {v : Json} (hv : Trimmed py v) (field : String)
    (k : PyStr → Except Exc Command) (hk : ∀ c, k (ρ.text.name c) = (k c).map ρ.command) :
    (cleanText py (ρ.textArg v) field maxTextLength >>= k) =
      (cleanText py v field maxTextLength >>= k).map ρ.command := by
  rw [cleanText_textArg hv field]
  cases cleanText py v field maxTextLength with
  | error e => rfl
  | ok c => exact hk c

/-- The same payload with its trimmed text replaced names the command with that text replaced. -/
theorem samePayload (t : TaskType) (payload : Json)
    (htrim : ∀ key v, t.textKey = some key → item payload key = .ok v → Trimmed py v) :
    ρ.SamePayload (Vocabulary.toJson t) payload (ρ.payload t payload) := by
  have hparse : (Vocabulary.parse (Vocabulary.toJson t) : Option TaskType) = some t :=
    Vocabulary.parse_eq_some.mpr rfl
  unfold SamePayload validateTaskPayload
  rw [hparse]
  cases payload with
  | obj fields =>
    have hkeys := exactKeys_congr (ρ.fst_retext (t.textKey.map PyStr.text) fields)
    have hitem := ρ.item_retext (t.textKey.map PyStr.text) fields
    simp only [Renaming.payload]
    generalize (fields.map fun p =>
      if t.textKey.map PyStr.text = some p.1 then (p.1, ρ.textArg p.2) else p) = fields'
      at hkeys hitem ⊢
    cases t with
    | echoText | hashText =>
      simp only [validateFields, hkeys, hitem]
      refine bind_map_congr _ _ _ _ fun _ _ => ?_
      cases hv : item (.obj fields) "text" with
      | error e => rfl
      | ok v =>
        exact ρ.bind_textArg (htrim "text" v rfl hv) "text" _ fun _ => rfl
    | generateEvent =>
      simp only [validateFields, hkeys, hitem]
      refine bind_map_congr _ _ _ _ fun _ _ => ?_
      cases item (.obj fields) "category" with
      | error e => rfl
      | ok c =>
        refine bind_map_congr (oneOf Category c _) _ _ _ fun category _ => ?_
        cases item (.obj fields) "severity" with
        | error e => rfl
        | ok l =>
          refine bind_map_congr (oneOf Level l _) _ _ _ fun severity _ => ?_
          cases hv : item (.obj fields) "message" with
          | error e => rfl
          | ok v =>
            exact ρ.bind_textArg (htrim "message" v rfl hv) "message" _ fun _ => rfl
    | ping | runtimeStatus | exit =>
      simp only [validateFields, hkeys]
      exact bind_map_congr _ _ _ _ fun _ _ => rfl
    | wait =>
      simp only [validateFields, hkeys, hitem]
      refine bind_map_congr _ _ _ _ fun _ _ => ?_
      cases item (.obj fields) "milliseconds" with
      | error e => rfl
      | ok v => exact bind_map_congr (boundedInt v _ _ _) _ _ _ fun _ _ => rfl
    | runPlaybook =>
      simp only [validateFields, hkeys, hitem]
      refine bind_map_congr _ _ _ _ fun _ _ => ?_
      cases item (.obj fields) "playbook" with
      | error e => rfl
      | ok v => exact bind_map_congr (oneOf Playbook v _) _ _ _ fun _ _ => rfl
    | sleep =>
      simp only [validateFields, hkeys, hitem]
      refine bind_map_congr _ _ _ _ fun _ _ => ?_
      cases item (.obj fields) "interval_ms" with
      | error e => rfl
      | ok v =>
        refine bind_map_congr (boundedInt v _ _ _) _ _ _ fun interval _ => ?_
        cases item (.obj fields) "jitter_percent" with
        | error e => rfl
        | ok v => exact bind_map_congr (validateJitterPercent v) _ _ _ fun _ _ => rfl
  | _ => rfl

end Renaming

end C2Lab
