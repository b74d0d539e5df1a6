import Mathlib.Data.Finset.Card
import Mathlib.Data.List.Sort
import C2Lab.Dashboard.Values

/-! Which tasks a graph of the dashboard shows, and in which order: `graphTaskSelection`.

    Task objects are compared by reference, so they are elements of a type `ι`, and `task` tells
    what the selection reads of each. Tasks that are queued or dispatched come first; those of one
    operation stand together in the order of their steps, which grouping once more restores after
    the cap. -/

namespace C2Lab

def maxGraphTasks : ℕ := 40

/-- What the selection reads of a task object; a string that is none is `none`. -/
structure GraphTask where
  operationId : Option JsString
  operationStep : Option JsNumber
  status : Option JsString

namespace GraphTask

/-- `typeof task.operation_id === "string" ? task.operation_id : ""`. -/
def operation (t : GraphTask) : JsString := t.operationId.getD .empty

/-- `["queued", "dispatched"].includes(task.status)`. -/
def isActive (t : GraphTask) : Bool :=
  t.status = some ("queued" : JsString) || t.status = some ("dispatched" : JsString)

end GraphTask

section
variable {ι : Type} (sort : List ι → List ι) (task : ι → GraphTask)

/-- The order of `(left.operation_step || 0) - (right.operation_step || 0)`. -/
def stepLe (left right : ι) : Bool :=
  JsNumber.orZero (task left).operationStep ≤ JsNumber.orZero (task right).operationStep

/-- `tasks.sort(...)` by the steps: the sort is stable. -/
def sortSteps (tasks : List ι) : List ι := tasks.mergeSort (stepLe task)

/-- What the loop of `groupGraphTasksByOperation` pushes for the tasks still to come. -/
def pushGroups (tasks : List ι) (emitted : List JsString) : List ι → List ι
  | [] => []
  | t :: rest =>
    let operationId := (task t).operation
    if operationId = .empty then t :: pushGroups tasks emitted rest
    else if operationId ∈ emitted then pushGroups tasks emitted rest
    else
      sort (tasks.filter fun candidate => (task candidate).operationId = some operationId) ++
        pushGroups tasks (operationId :: emitted) rest

/-- `groupGraphTasksByOperation`; `sort` is the sort by steps. -/
def groupGraphTasksByOperation (tasks : List ι) : List ι := pushGroups sort task tasks [] tasks

variable [DecidableEq ι]

/-- The loop that fills the selection up with terminal tasks. -/
def fillSelection (selected : List ι) : List ι → List ι
  | [] => selected
  | t :: rest =>
    if maxGraphTasks ≤ selected.length then selected
    else fillSelection (JsSet.add selected t) rest

/-- `graphTaskSelection`. -/
def graphTaskSelection (tasks : List ι) : List ι :=
  let uniqueTasks := JsSet.of tasks
  let active := groupGraphTasksByOperation sort task (uniqueTasks.filter fun t => (task t).isActive)
  let terminal :=
    groupGraphTasksByOperation sort task (uniqueTasks.filter fun t => !(task t).isActive)
  let selectedTasks := fillSelection (JsSet.of (active.take maxGraphTasks)) terminal
  let selectedSeeds := active.filter (· ∈ selectedTasks) ++ terminal.filter (· ∈ selectedTasks)
  groupGraphTasksByOperation sort task selectedSeeds

end

/-! ### Grouping -/

variable {ι : Type} {sort : List ι → List ι} {task : ι → GraphTask} {tasks rest : List ι}
  {emitted : List JsString} {o : JsString}

theorem operationId_eq_some {t : GraphTask} (ho : o ≠ .empty) :
    t.operationId = some o ↔ t.operation = o := by
  unfold GraphTask.operation
  cases t.operationId with
  | none => simpa using ho.symm
  | some p => simp

section
variable (hsort : ∀ l, (sort l).Perm l)
include hsort

/-- The group of an operation, as it is pushed. -/
theorem mem_group {t : ι} (ho : o ≠ .empty) :
    t ∈ sort (tasks.filter fun c => (task c).operationId = some o) ↔
      t ∈ tasks ∧ (task t).operation = o := by
  rw [(hsort _).mem_iff, List.mem_filter, decide_eq_true_eq, operationId_eq_some ho]

theorem count_group [DecidableEq ι] (a : ι) (ho : o ≠ .empty) :
    (sort (tasks.filter fun c => (task c).operationId = some o)).count a =
      if (task a).operation = o then tasks.count a else 0 := by
  rw [(hsort _).count_eq]
  split
  · rename_i ha
    exact List.count_filter (decide_eq_true ((operationId_eq_some ho).mpr ha))
  · rename_i ha
    refine List.count_eq_zero.mpr fun hmem => ha ?_
    exact (operationId_eq_some ho).mp (of_decide_eq_true (List.mem_filter.mp hmem).2)

/-- Every task is pushed as often as it occurs: by itself, or with its operation at the first task
    of that. -/
theorem count_pushGroups [DecidableEq ι] (a : ι) :
    (pushGroups sort task tasks emitted rest).count a =
      if (task a).operation = .empty then rest.count a
      else if (task a).operation ∈ emitted then 0
      else if (task a).operation ∈ rest.map fun t => (task t).operation then tasks.count a
      else 0 := by
  induction rest generalizing emitted with
  | nil => simp [pushGroups]
  | cons t rest ih =>
    rw [pushGroups]
    by_cases hsingle : (task t).operation = .empty
    · rw [if_pos hsingle, List.count_cons, ih, List.count_cons]
      by_cases ha : (task a).operation = .empty
      · simp [ha]
      · have hne : (task a).operation ≠ (task t).operation := fun he => ha (he.trans hsingle)
        have hta : ¬ t = a := fun he => hne (he ▸ rfl)
        simp [hne, hta]
    · rw [if_neg hsingle]
      by_cases hemitted : (task t).operation ∈ emitted
      · rw [if_pos hemitted, ih]
        by_cases ha : (task a).operation = (task t).operation
        · rw [ha, if_neg hsingle, if_neg hsingle, if_pos hemitted, if_pos hemitted]
        · have hta : ¬ t = a := fun he => ha (he ▸ rfl)
          simp [ha, hta]
      · rw [if_neg hemitted, List.count_append, count_group hsort a hsingle, ih]
        by_cases ha : (task a).operation = (task t).operation
        · simp [ha, if_neg hsingle, hemitted]
        · have hta : ¬ t = a := fun he => ha (he ▸ rfl)
          simp [ha, hta]

variable (task) in
/-- Grouping changes the order only. -/
theorem groupGraphTasksByOperation_perm [DecidableEq ι] (tasks : List ι) :
    (groupGraphTasksByOperation sort task tasks).Perm tasks := by
  refine List.perm_iff_count.mpr fun a => ?_
  rw [groupGraphTasksByOperation, count_pushGroups hsort]
  split
  · rfl
  · rw [if_neg List.not_mem_nil]
    split
    · rfl
    · rename_i hnot
      exact (List.count_eq_zero.mpr fun hmem => hnot (List.mem_map.mpr ⟨a, hmem, rfl⟩)).symm

end

/-- The elements with a property stand together, in an order. -/
def Together (p : ι → Prop) (r : ι → ι → Prop) (l : List ι) : Prop :=
  ∃ before block after, l = before ++ block ++ after ∧ (∀ t ∈ before ++ after, ¬ p t) ∧
    (∀ t ∈ block, p t) ∧ block.Pairwise r

theorem Together.append {p : ι → Prop} {r : ι → ι → Prop} {l : List ι} (h : Together p r l)
    (l' : List ι) (hl' : ∀ t ∈ l', ¬ p t) : Together p r (l' ++ l) := by
  obtain ⟨before, block, after, rfl, hother, hblock, hr⟩ := h
  refine ⟨l' ++ before, block, after, by simp, fun t ht => ?_, hblock, hr⟩
  rw [List.append_assoc] at ht
  rcases List.mem_append.mp ht with ht | ht
  · exact hl' t ht
  · exact hother t ht

theorem together_of_none {p : ι → Prop} {r : ι → ι → Prop} {l : List ι} (h : ∀ t ∈ l, ¬ p t) :
    Together p r l :=
  ⟨l, [], [], by simp, by simpa using h, by simp, List.Pairwise.nil⟩

/-- An operation that was emitted is not pushed again. -/
theorem not_mem_pushGroups [DecidableEq ι] (hsort : ∀ l, (sort l).Perm l) {a : ι}
    (hne : (task a).operation ≠ .empty) (ha : (task a).operation ∈ emitted) :
    a ∉ pushGroups sort task tasks emitted rest := by
  refine List.count_eq_zero.mp ?_
  rw [count_pushGroups hsort, if_neg hne, if_pos ha]

theorem pushGroups_together [DecidableEq ι] (hsort : ∀ l, (sort l).Perm l) {r : ι → ι → Prop}
    (hsorted : ∀ l, (sort l).Pairwise r) (ho : o ≠ .empty) :
    Together (fun t => (task t).operation = o) r (pushGroups sort task tasks emitted rest) := by
  induction rest generalizing emitted with
  | nil => exact together_of_none (by simp [pushGroups])
  | cons t rest ih =>
    rw [pushGroups]
    split
    · rename_i hsingle
      refine ih.append [t] fun x hx => ?_
      rw [List.mem_singleton.mp hx, hsingle]
      exact ho.symm
    · rename_i hne
      split
      · exact ih
      · by_cases hto : (task t).operation = o
        · refine ⟨[], _, _, rfl, fun x hx hxo => ?_, fun x hx => ?_, hsorted _⟩
          · refine not_mem_pushGroups hsort (hxo.symm ▸ ho) ?_ hx
            rw [hxo, hto]
            exact List.mem_cons_self
          · exact ((mem_group hsort hne).mp hx).2.trans hto
        · refine ih.append _ fun x hx hxo => hto ?_
          exact ((mem_group hsort hne).mp hx).2.symm.trans hxo

/-! ### The cap -/

/-- The selection is filled up with the first terminal tasks there is room for. -/
theorem fillSelection_eq [DecidableEq ι] {selected terminal : List ι} (hnodup : terminal.Nodup)
    (hnew : ∀ t ∈ terminal, t ∉ selected) :
    fillSelection selected terminal =
      selected ++ terminal.take (maxGraphTasks - selected.length) := by
  induction terminal generalizing selected with
  | nil => simp [fillSelection]
  | cons t rest ih =>
    rw [fillSelection]
    split
    · rename_i hfull
      rw [Nat.sub_eq_zero_of_le hfull, List.take_zero, List.append_nil]
    · rename_i hroom
      have hn := List.nodup_cons.mp hnodup
      have hadd : JsSet.add selected t = selected ++ [t] := if_neg (hnew t List.mem_cons_self)
      rw [hadd, ih hn.2]
      · have hlen : maxGraphTasks - selected.length =
            maxGraphTasks - (selected ++ [t]).length + 1 := by
          rw [List.length_append, List.length_singleton]
          omega
        rw [hlen, List.take_succ_cons, List.append_assoc, List.singleton_append]
      · intro x hx hmem
        rcases List.mem_append.mp hmem with hmem | hmem
        · exact hnew x (List.mem_cons_of_mem _ hx) hmem
        · exact hn.1 (List.mem_singleton.mp hmem ▸ hx)

/-- A selection by membership from a list that has each member once. -/
theorem filter_mem_perm [DecidableEq ι] {l selected : List ι} (hl : l.Nodup)
    (hselected : selected.Nodup) (hsub : ∀ t ∈ selected, t ∈ l) :
    (l.filter (· ∈ selected)).Perm selected := by
  refine (List.perm_ext_iff_of_nodup (hl.filter _) hselected).mpr fun t => ?_
  rw [List.mem_filter, decide_eq_true_eq]
  exact ⟨fun h => h.2, fun h => ⟨hsub t h, h⟩⟩

/-- Filling up the first active tasks keeps those, and the first terminal ones there is room for. -/
theorem filter_fillSelection_perm [DecidableEq ι] {active terminal : List ι}
    (hnodup : (active ++ terminal).Nodup) :
    (active.filter (· ∈ fillSelection (JsSet.of (active.take maxGraphTasks)) terminal) ++
      terminal.filter (· ∈ fillSelection (JsSet.of (active.take maxGraphTasks)) terminal)).Perm
      (active.take maxGraphTasks ++ terminal.take (maxGraphTasks - active.length)) := by
  have hparts := List.nodup_append.mp hnodup
  have htake : (active.take maxGraphTasks).Nodup := hparts.1.sublist (List.take_sublist _ _)
  have hfill : fillSelection (JsSet.of (active.take maxGraphTasks)) terminal =
      active.take maxGraphTasks ++ terminal.take (maxGraphTasks - active.length) := by
    rw [JsSet.of_nodup htake, fillSelection_eq hparts.2.1, List.length_take]
    · congr 2
      omega
    · exact fun t ht hmem => hparts.2.2 t (List.mem_of_mem_take hmem) t ht rfl
  have hsub : (active.take maxGraphTasks ++
      terminal.take (maxGraphTasks - active.length)).Sublist (active ++ terminal) :=
    (List.take_sublist _ _).append (List.take_sublist _ _)
  rw [← List.filter_append, hfill]
  exact filter_mem_perm hnodup (hnodup.sublist hsub) fun t ht => hsub.subset ht

/-! ### The selection -/

section
variable [DecidableEq ι] (hsort : ∀ l, (sort l).Perm l) (tasks : List ι)
include hsort

variable (task) in
/-- The groups of the active and of the terminal tasks share none, and each lists its tasks once. -/
theorem groups_nodup :
    (groupGraphTasksByOperation sort task ((JsSet.of tasks).filter fun t => (task t).isActive) ++
      groupGraphTasksByOperation sort task
        ((JsSet.of tasks).filter fun t => !(task t).isActive)).Nodup := by
  have hactive := groupGraphTasksByOperation_perm task hsort
    ((JsSet.of tasks).filter fun t => (task t).isActive)
  have hterminal := groupGraphTasksByOperation_perm task hsort
    ((JsSet.of tasks).filter fun t => !(task t).isActive)
  refine List.nodup_append.mpr ⟨hactive.nodup_iff.mpr ((JsSet.nodup_of tasks).filter _),
    hterminal.nodup_iff.mpr ((JsSet.nodup_of tasks).filter _), fun t ht x hx => ?_⟩
  rw [hactive.mem_iff, List.mem_filter] at ht
  rw [hterminal.mem_iff, List.mem_filter, Bool.not_eq_true'] at hx
  rintro rfl
  rw [ht.2] at hx
  cases hx.2

/-- The selection is the first active tasks, and then the first terminal ones there is room for. -/
theorem graphTaskSelection_perm :
    (graphTaskSelection sort task tasks).Perm
      ((groupGraphTasksByOperation sort task
          ((JsSet.of tasks).filter fun t => (task t).isActive)).take maxGraphTasks ++
        (groupGraphTasksByOperation sort task
          ((JsSet.of tasks).filter fun t => !(task t).isActive)).take (maxGraphTasks -
            ((JsSet.of tasks).filter fun t => (task t).isActive).length)) := by
  have hlen := (groupGraphTasksByOperation_perm task hsort
    ((JsSet.of tasks).filter fun t => (task t).isActive)).length_eq
  rw [← hlen]
  refine (groupGraphTasksByOperation_perm _ hsort _).trans ?_
  exact filter_fillSelection_perm (groups_nodup _ hsort tasks)

theorem graphTaskSelection_nodup : (graphTaskSelection sort task tasks).Nodup := by
  refine (graphTaskSelection_perm hsort tasks).nodup_iff.mpr ?_
  exact (groups_nodup _ hsort tasks).sublist
    ((List.take_sublist _ _).append (List.take_sublist _ _))

/-- A selected task is one of the tasks, active or terminal. -/
theorem mem_of_mem_graphTaskSelection {t : ι} (ht : t ∈ graphTaskSelection sort task tasks) :
    t ∈ tasks := by
  rw [(graphTaskSelection_perm hsort tasks).mem_iff, List.mem_append] at ht
  rcases ht with ht | ht
  · have hmem := (groupGraphTasksByOperation_perm _ hsort _).mem_iff.mp (List.mem_of_mem_take ht)
    exact JsSet.mem_of.mp (List.mem_filter.mp hmem).1
  · have hmem := (groupGraphTasksByOperation_perm _ hsort _).mem_iff.mp (List.mem_of_mem_take ht)
    exact JsSet.mem_of.mp (List.mem_filter.mp hmem).1

theorem length_graphTaskSelection :
    (graphTaskSelection sort task tasks).length = min maxGraphTasks (JsSet.of tasks).length := by
  have hall := List.length_eq_length_filter_add (l := JsSet.of tasks) fun t => (task t).isActive
  rw [(graphTaskSelection_perm hsort tasks).length_eq, List.length_append, List.length_take,
    List.length_take, (groupGraphTasksByOperation_perm _ hsort _).length_eq,
    (groupGraphTasksByOperation_perm _ hsort _).length_eq]
  omega

/-- Active tasks are all selected when they fit. -/
theorem active_selected
    (hfit : ((JsSet.of tasks).filter fun t => (task t).isActive).length ≤ maxGraphTasks) {t : ι}
    (ht : t ∈ tasks) (hactive : (task t).isActive = true) :
    t ∈ graphTaskSelection sort task tasks := by
  have hgroup := groupGraphTasksByOperation_perm task hsort
    ((JsSet.of tasks).filter fun t => (task t).isActive)
  rw [(graphTaskSelection_perm hsort tasks).mem_iff,
    List.take_of_length_le (hgroup.length_eq.le.trans hfit), List.mem_append, hgroup.mem_iff]
  exact .inl (List.mem_filter.mpr ⟨JsSet.mem_of.mpr ht, hactive⟩)

/-- When they do not fit, nothing else is selected. -/
theorem selected_active
    (hfull : maxGraphTasks ≤ ((JsSet.of tasks).filter fun t => (task t).isActive).length) {t : ι}
    (ht : t ∈ graphTaskSelection sort task tasks) : (task t).isActive = true := by
  rw [(graphTaskSelection_perm hsort tasks).mem_iff, Nat.sub_eq_zero_of_le hfull, List.take_zero,
    List.append_nil] at ht
  have hmem := (groupGraphTasksByOperation_perm _ hsort _).mem_iff.mp (List.mem_of_mem_take ht)
  exact (List.mem_filter.mp hmem).2

end

theorem sortSteps_perm (l : List ι) : (sortSteps task l).Perm l := List.mergeSort_perm _ _

theorem sortSteps_sorted (l : List ι) :
    (sortSteps task l).Pairwise fun left right =>
      JsNumber.orZero (task left).operationStep ≤ JsNumber.orZero (task right).operationStep := by
  refine (List.pairwise_mergeSort ?_ ?_ l).imp fun h => of_decide_eq_true h
  · intro a b c hab hbc
    exact decide_eq_true ((of_decide_eq_true hab).trans (of_decide_eq_true hbc))
  · intro a b
    rw [Bool.or_eq_true]
    exact (le_total _ _).imp decide_eq_true decide_eq_true

theorem length_distinct [DecidableEq ι] (p : ι → Bool) (tasks : List ι) :
    ((JsSet.of tasks).filter p).length = (tasks.toFinset.filter fun t => p t = true).card := by
  rw [← List.toFinset_card_of_nodup ((JsSet.nodup_of tasks).filter p)]
  congr 1
  ext t
  simp [JsSet.mem_of]

/-- The selection has no task twice, only tasks it was given, and as many as fit of the different
    ones; all that are active, or active ones only; and each operation stands together in the order
    of its steps. -/
theorem graph_task_selection [DecidableEq ι] (task : ι → GraphTask) (tasks : List ι) :
    (graphTaskSelection (sortSteps task) task tasks).Nodup ∧
    (∀ t ∈ graphTaskSelection (sortSteps task) task tasks, t ∈ tasks) ∧
    (graphTaskSelection (sortSteps task) task tasks).length =
      min maxGraphTasks tasks.toFinset.card ∧
    ((tasks.toFinset.filter fun t => (task t).isActive = true).card ≤ maxGraphTasks →
      ∀ t ∈ tasks, (task t).isActive = true →
        t ∈ graphTaskSelection (sortSteps task) task tasks) ∧
    (maxGraphTasks < (tasks.toFinset.filter fun t => (task t).isActive = true).card →
      ∀ t ∈ graphTaskSelection (sortSteps task) task tasks, (task t).isActive = true) ∧
    ∀ o, o ≠ JsString.empty →
      Together (fun t => (task t).operation = o)
        (fun left right =>
          JsNumber.orZero (task left).operationStep ≤ JsNumber.orZero (task right).operationStep)
        (graphTaskSelection (sortSteps task) task tasks) := by
  have hdistinct : (JsSet.of tasks).length = tasks.toFinset.card := by
    simpa using length_distinct (fun _ => true) tasks
  simp only [← length_distinct, ← hdistinct]
  refine ⟨graphTaskSelection_nodup sortSteps_perm tasks,
    fun t => mem_of_mem_graphTaskSelection sortSteps_perm tasks,
    length_graphTaskSelection sortSteps_perm tasks,
    fun hfit t => active_selected sortSteps_perm tasks hfit,
    fun hfull t => selected_active sortSteps_perm tasks hfull.le, fun o ho => ?_⟩
  exact pushGroups_together sortSteps_perm sortSteps_sorted ho

end C2Lab
