import Mathlib.Algebra.BigOperators.Group.List.Basic
import Mathlib.Data.List.Perm.Subperm
import C2Lab.Lib.Dict
import C2Lab.Server.Route

/-! The request counters, `RequestMetrics` of `observability.py`.

    Every response is counted once under its method, its route and the class of its status, so the
    three breakdowns add up to the total; the labels come from fixed sets. Times and durations are
    left out. -/

namespace C2Lab

/-! ### Counters -/

/-- `counter[key] += 1`. -/
def Dict.increment {κ : Type} [DecidableEq κ] (counter : Dict κ ℕ) (key : κ) : Dict κ ℕ :=
  counter.set key ((counter.get? key).getD 0 + 1)

section
variable {κ : Type} [DecidableEq κ] {counter : Dict κ ℕ}

theorem Dict.sum_increment (counter : Dict κ ℕ) (key : κ) :
    (counter.increment key).values.sum = counter.values.sum + 1 := by
  rw [increment]
  cases h : counter.get? key with
  | none =>
    rw [values_set_of_not_mem _ (get?_eq_none.mp h)]
    simp
  | some n =>
    obtain ⟨l, r, hvalues, hset⟩ := values_split h
    rw [hset, hvalues]
    simp only [Option.getD_some, List.sum_append, List.sum_cons]
    omega

theorem Dict.keys_increment_subset {labels : List κ} {key : κ} (h : counter.keys ⊆ labels)
    (hkey : key ∈ labels) : (counter.increment key).keys ⊆ labels := by
  intro k hk
  rcases mem_keys_set.mp hk with rfl | hk
  · exact hkey
  · exact h hk

omit [DecidableEq κ] in
/-- A counter over few labels is small. -/
theorem Dict.size_le_of_subset {labels : List κ} (h : counter.keys ⊆ labels) :
    counter.size ≤ labels.length := by
  rw [size_eq_length_keys]
  exact (List.subperm_of_subset counter.keys_nodup h).length_le

end

/-- The counters of `RequestMetrics`. -/
structure RequestMetrics where
  requestsTotal : ℕ
  workerRejections : ℕ
  accessLogDrops : ℕ
  methods : Dict PyStr ℕ
  routes : Dict PyStr ℕ
  statusClasses : Dict PyStr ℕ

/-- `method if method in {"GET", "POST"} else "OTHER"`. -/
def methodLabel (method : PyStr) : PyStr :=
  if method = "GET" ∨ method = "POST" then method else "OTHER"

/-- The class of a status. -/
def statusLabel (status : ℤ) : PyStr :=
  if 100 ≤ status ∧ status ≤ 599 then .text (toString (status / 100) ++ "xx") else "other"

namespace RequestMetrics

/-- `RequestMetrics()`. -/
def init : RequestMetrics :=
  { requestsTotal := 0, workerRejections := 0, accessLogDrops := 0
    methods := .empty, routes := .empty, statusClasses := .empty }

/-- `record`. -/
def record (m : RequestMetrics) (method route : PyStr) (status : ℤ) : RequestMetrics :=
  { m with
    requestsTotal := m.requestsTotal + 1
    methods := m.methods.increment (methodLabel method)
    routes := m.routes.increment (normalizedRoute route)
    statusClasses := m.statusClasses.increment (statusLabel status) }

/-- `record_worker_rejection`. -/
def recordWorkerRejection (m : RequestMetrics) : RequestMetrics :=
  { m with workerRejections := m.workerRejections + 1 }

/-- `record_access_log_drop`. -/
def recordAccessLogDrop (m : RequestMetrics) : RequestMetrics :=
  { m with accessLogDrops := m.accessLogDrops + 1 }

/-- Every label a method can get. -/
def methodLabels : List PyStr := ["GET", "POST", "OTHER"]

/-- The labels `normalized_route` has of its own. -/
def otherRoutes : List PyStr :=
  ["/node/v1/tasks/:task_id/result", "/lab/tasks/:task_id/cancel",
    "/lab/operators/:session_id/revoke", "/lab/exercises/:exercise_id/contain", "unmatched"]

/-- Every label a route can get. -/
def routeLabels : List PyStr := exactRoutes ++ otherRoutes

/-- Every label a status can get. -/
def statusLabels : List PyStr := ["1xx", "2xx", "3xx", "4xx", "5xx", "other"]

/-- The three breakdowns agree with the total, and have only the labels there are. -/
structure Consistent (m : RequestMetrics) : Prop where
  methods : m.methods.values.sum = m.requestsTotal
  routes : m.routes.values.sum = m.requestsTotal
  statusClasses : m.statusClasses.values.sum = m.requestsTotal
  methods_subset : m.methods.keys ⊆ methodLabels
  routes_subset : m.routes.keys ⊆ routeLabels
  statuses_subset : m.statusClasses.keys ⊆ statusLabels

theorem methodLabel_mem (method : PyStr) : methodLabel method ∈ methodLabels := by
  unfold methodLabel methodLabels
  split
  · rename_i h
    rcases h with rfl | rfl <;> simp
  · simp

theorem normalizedRoute_mem (path : PyStr) : normalizedRoute path ∈ routeLabels := by
  rw [normalizedRoute, routeLabels]
  split
  · exact List.mem_append_left _ ‹_›
  · refine List.mem_append_right _ ?_
    simp only [otherRoutes]
    repeat' split
    all_goals simp

theorem statusLabel_mem (status : ℤ) : statusLabel status ∈ statusLabels := by
  unfold statusLabel
  split
  · rename_i h
    have hlo : 1 ≤ status / 100 := by omega
    have hhi : status / 100 ≤ 5 := by omega
    generalize status / 100 = n at hlo hhi
    obtain rfl | rfl | rfl | rfl | rfl : n = 1 ∨ n = 2 ∨ n = 3 ∨ n = 4 ∨ n = 5 := by omega
    all_goals decide
  · simp [statusLabels]

theorem init_consistent : init.Consistent := by
  constructor <;> simp [init, Dict.empty, Dict.values, Dict.keys]

theorem Consistent.record {m : RequestMetrics} (h : m.Consistent) (method route : PyStr)
    (status : ℤ) : (m.record method route status).Consistent where
  methods := by simp [RequestMetrics.record, Dict.sum_increment, h.methods]
  routes := by simp [RequestMetrics.record, Dict.sum_increment, h.routes]
  statusClasses := by simp [RequestMetrics.record, Dict.sum_increment, h.statusClasses]
  methods_subset := Dict.keys_increment_subset h.methods_subset (methodLabel_mem method)
  routes_subset := Dict.keys_increment_subset h.routes_subset (normalizedRoute_mem route)
  statuses_subset := Dict.keys_increment_subset h.statuses_subset (statusLabel_mem status)

theorem Consistent.drop {m : RequestMetrics} (h : m.Consistent) :
    m.recordAccessLogDrop.Consistent :=
  ⟨h.methods, h.routes, h.statusClasses, h.methods_subset, h.routes_subset, h.statuses_subset⟩

theorem Consistent.reject {m : RequestMetrics} (h : m.Consistent) :
    m.recordWorkerRejection.Consistent :=
  ⟨h.methods, h.routes, h.statusClasses, h.methods_subset, h.routes_subset, h.statuses_subset⟩

end RequestMetrics

end C2Lab
