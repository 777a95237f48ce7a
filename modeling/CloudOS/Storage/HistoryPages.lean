import CloudOS.Storage.HistoryQuery
import CloudOS.Storage.TenantRows

/-!
# Reading the task history while it is written

Attempts start and end between the queries of a reader.  A start appends a row and an
ending rewrites columns that neither identify an attempt nor order the history, so the
rows, taken back to what they were when inserted, only grow at the end.  Newest first, a
reader who pages through a tenant's history therefore misses no attempt that was there when
the first page was read, and `GetTaskByID` finds the latest attempt of a task.

This rests on a clock that gives every row a later `created_at` than the row before it,
and, for the pages, on a filter that does not look at the status.
-/

set_option autoImplicit false

namespace CloudOS.Storage.HistoryPages

open CloudOS.Lib.History
open CloudOS.Lib.Pages
open CloudOS.Lib.Tables
open CloudOS.Storage.TaskHistory
open CloudOS.Storage.TenantRows
open CloudOS.Storage.HistoryQuery

def asInserted (row : Row) : Row :=
  { row with
    status := .running, exitCode := none, retryAttempt := 0, maxRetries := 0,
    completedAt := none, durationSeconds := none, reason := none, message := none }

/-- The attempt that a record shows, whatever became of it. -/
def attempt (record : TaskRecord) : TaskRecord := { record with row := asInserted record.row }

def inserted (store : Store) (call : Call) : List Row :=
  match call.request with
  | .start id taskID podName ns =>
      if startTakes id taskID call.tenantID podName ns call.env store then
        [startedRow id taskID call.tenantID podName ns call.env.now]
      else []
  | .finish _ _ _ => []

/-! ## What the calls keep -/

section Calls
variable (bigint : Int64 → Option Int)

theorem asInserted_write (ending : Ending) (env : Env) (row : Row) :
    asInserted (ending.write bigint env row) = asInserted row := by
  cases ending <;> rfl

theorem step_rows (store : Store) (call : Call) :
    (step bigint store call).rows.map asInserted =
      store.rows.map asInserted ++ inserted store call := by
  obtain ⟨tenantID, request, env⟩ := call
  cases request with
  | start id taskID podName ns =>
      simp only [step, inserted]
      rw [recordTaskStart_store]
      split
      next => rw [List.map_append]; rfl
      next => rw [List.append_nil]
  | finish taskID podName ending =>
      simp only [step, inserted, List.append_nil]
      rw [record_store, updateIf]
      split
      next =>
          rw [List.map_map]
          apply List.map_congr_left
          intro row _
          rw [Function.comp_apply, updateRow]
          split
          next => exact asInserted_write bigint ending env row
          next => rfl
      next => rfl

def insertedRows (store : Store) (calls : List Call) : List Row :=
  (history (step bigint) store calls).flatMap fun entry => inserted entry.1 entry.2

theorem after_rows (store : Store) (calls : List Call) :
    (after (step bigint) store calls).rows.map asInserted =
      store.rows.map asInserted ++ insertedRows bigint store calls := by
  induction calls generalizing store with
  | nil => rw [after_nil, insertedRows, history, List.flatMap_nil, List.append_nil]
  | cons call rest ih =>
      rw [after_cons, ih, step_rows, List.append_assoc]
      rfl

theorem step_closed (store : Store) (call : Call) :
    (step bigint store call).closed = store.closed := by
  obtain ⟨tenantID, request, env⟩ := call
  cases request with
  | start id taskID podName ns =>
      simp only [step]
      rw [recordTaskStart_store]
      split <;> rfl
  | finish taskID podName ending =>
      simp only [step]
      rw [record_store]

theorem after_fresh_open (calls : List Call) :
    (after (step bigint) .fresh calls).closed = false := by
  have kept : ∀ store call, store.closed = false → (step bigint store call).closed = false := by
    intro store call isOpen
    rw [step_closed, isOpen]
  exact after_invariant kept rfl calls

end Calls

/-! ## The stamps -/

def Increasing (clock : Nat → Int) : Prop := ∀ i j, i < j → clock i < clock j

section Stamps
variable {clock : Nat → Int}

theorem ascending_stamped (increasing : Increasing clock) (rows : List Row) :
    Ascending TaskRecord.createdAt (stamped clock rows) := by
  rw [Ascending, List.pairwise_iff_getElem]
  intro i j _ _ before
  simp only [stamped, List.getElem_mapIdx]
  exact increasing i j before

theorem map_attempt_stamped (rows : List Row) :
    (stamped clock rows).map attempt = stamped clock (rows.map asInserted) := by
  apply List.ext_getElem?
  intro place
  simp only [stamped, List.getElem?_map, List.getElem?_mapIdx]
  cases rows[place]? <;> rfl

theorem stamped_isPrefix {first rows : List Row} (grows : first <+: rows) :
    stamped clock first <+: stamped clock rows := by
  obtain ⟨more, rfl⟩ := grows
  rw [stamped, stamped, List.mapIdx_append]
  exact List.prefix_append _ _

theorem filter_stamped {keeps : TaskRecord → Bool}
    (lasting : ∀ record, keeps (attempt record) = keeps record) (rows : List Row) :
    ((stamped clock rows).filter keeps).map attempt =
      (stamped clock (rows.map asInserted)).filter keeps := by
  rw [← map_attempt_stamped, List.filter_map]
  congr 1
  exact (List.filter_congr fun record _ => lasting record).symm

end Stamps

/-! ## Page after page -/

def nthPage (filter : TaskFilter) (limit k : Nat) : TaskFilter :=
  { filter with limit := Int64.ofNat limit, offset := Int64.ofNat (k * limit) }

/-- The filter goes by columns that are written once. -/
structure Lasting (filter : TaskFilter) : Prop where
  anyStatus : filter.status = ""
  notOnlyFailed : filter.onlyFailed = false

section Pages
variable {server : Server} {clock : Nat → Int} {filter : TaskFilter}

def newestFirst (server : Server) (clock : Nat → Int) (filter : TaskFilter) (store : Store) :
    List TaskRecord :=
  ((stamped clock (store.rows.map asInserted)).filter (filter.selects server)).reverse

theorem Lasting.selects_attempt (lasting : Lasting filter) (record : TaskRecord) :
    filter.selects server (attempt record) = filter.selects server record := by
  simp only [TaskFilter.selects, lasting.anyStatus, lasting.notOnlyFailed]
  rfl

theorem newestFirst_isSuffix (bigint : Int64 → Option Int) (store : Store) (calls : List Call) :
    newestFirst server clock filter store <:+
      newestFirst server clock filter (after (step bigint) store calls) := by
  apply List.reverse_suffix.mpr
  apply List.IsPrefix.filter
  apply stamped_isPrefix
  rw [after_rows]
  exact List.prefix_append _ _

theorem attempts_of_nthPage (increasing : Increasing clock) (lasting : Lasting filter)
    {limit k : Nat} (positive : 0 < limit) (bounded : (k + 1) * limit < 9223372036854775808)
    {env : QueryEnv} {store : Store} {records : List TaskRecord}
    (answered : getTaskHistory server clock env (nthPage filter limit k) store = .ok records) :
    records.map attempt = page (k * limit) limit (newestFirst server clock filter store) := by
  obtain ⟨-, plan, planned, rfl⟩ := getTaskHistory_eq_ok_iff.mp answered
  obtain ⟨-, rfl⟩ := plan_withLimit_eq_some_iff.mp planned
  have limit_toInt : (Int64.ofNat limit).toInt = limit :=
    Int64.toInt_ofNat_of_lt (by rw [Nat.succ_mul] at bounded; omega)
  have offset_toInt : (Int64.ofNat (k * limit)).toInt = (k * limit : Nat) :=
    Int64.toInt_ofNat_of_lt (by rw [Nat.succ_mul] at bounded; omega)
  have per_page : (nthPage filter limit k).rowsPerPage = limit := by
    have nonzero : Int64.ofNat limit ≠ 0 := by
      intro zero
      rw [zero] at limit_toInt
      exact absurd limit_toInt (by change ¬ (0 : Int) = limit; omega)
    rw [TaskFilter.rowsPerPage, nthPage, if_neg nonzero, limit_toInt, Int.toNat_natCast]
  have sorted := (env.sorts ((stamped clock store.rows).filter (filter.selects server))).eq_reverse
    ((ascending_stamped increasing store.rows).filter _)
  simp only [map_page, per_page]
  rw [newestFirst, ← filter_stamped lasting.selects_attempt, ← List.map_reverse]
  rw [nthPage, offset_toInt, Int.toNat_natCast]
  exact congrArg (fun rows => page (k * limit) limit (rows.map attempt)) sorted

end Pages

def callsUntil (calls : Nat → List Call) (k : Nat) : List Call := (List.range (k + 1)).flatMap calls

theorem callsUntil_succ (calls : Nat → List Call) (k : Nat) :
    callsUntil calls (k + 1) = callsUntil calls k ++ calls (k + 1) := by
  rw [callsUntil, callsUntil, List.range_succ, List.flatMap_append, List.flatMap_singleton]

/-- A reader asks for page after page until one is short, and attempts start and end in
between: every selected attempt that was stored before the first page is on one of them. -/
theorem pages_show_all (bigint : Int64 → Option Int) (server : Server) {clock : Nat → Int}
    (increasing : Increasing clock) {filter : TaskFilter} (lasting : Lasting filter)
    (calls : Nat → List Call) (envs : Nat → QueryEnv) (pages : Nat → List TaskRecord)
    {limit n : Nat} (bounded : (n + 1) * limit < 9223372036854775808)
    (answered : ∀ k ≤ n, getTaskHistory server clock (envs k) (nthPage filter limit k)
      (after (step bigint) .fresh (callsUntil calls k)) = .ok (pages k))
    (short : (pages n).length < limit) :
    ∀ record ∈ stamped clock (after (step bigint) .fresh (calls 0)).rows,
      filter.selects server record = true →
        ∃ k ≤ n, ∃ shown ∈ pages k, attempt shown = attempt record := by
  intro record stored selected
  let views (k : Nat) : List TaskRecord :=
    newestFirst server clock filter (after (step bigint) .fresh (callsUntil calls k))
  have grows : ∀ k, views k <:+ views (k + 1) := by
    intro k
    simp only [views]
    rw [callsUntil_succ, after_append]
    exact newestFirst_isSuffix bigint _ _
  have shows : ∀ k ≤ n, (pages k).map attempt = page (k * limit) limit (views k) := by
    intro k early
    have within : (k + 1) * limit < 9223372036854775808 :=
      lt_of_le_of_lt (Nat.mul_le_mul_right limit (Nat.succ_le_succ early)) bounded
    exact attempts_of_nthPage increasing lasting (by omega) within (answered k early)
  have member : attempt record ∈ views 0 := by
    simp only [views, callsUntil]
    rw [newestFirst, ← filter_stamped lasting.selects_attempt, List.mem_reverse]
    refine List.mem_map_of_mem (List.mem_filter.mpr ⟨?_, selected⟩)
    simpa using stored
  have short_view : (page (n * limit) limit (views n)).length < limit := by
    rw [← shows n le_rfl, List.length_map]
    exact short
  obtain ⟨k, early, shown⟩ := shown_by_short_page grows limit member short_view
  rw [← shows k early] at shown
  obtain ⟨own, on_page, same⟩ := List.mem_map.mp shown
  exact ⟨k, early, own, on_page, same⟩

def plainSort : QueryEnv where
  fault := none
  refusal := ""
  iteration := none
  sort := List.insertionSort fun a b => b.createdAt ≤ a.createdAt
  sorts := arranges_insertionSort TaskRecord.createdAt

/-- Three attempts, the third after the first page was read. -/
def threeStarts (k : Nat) : List Call :=
  let start (id : Nat) (taskID : String) : Call :=
    ⟨"acme", .start id taskID "pod" "default", .healthy 0⟩
  if k = 0 then [start 1 "a", start 2 "b"] else if k = 1 then [start 3 "c"] else []

def acme : TaskFilter := ⟨"acme", "", none, none, "", false, 0, 0⟩

def threePages (k : Nat) : List TaskRecord :=
  let record (id : Nat) (taskID : String) (createdAt : Int) : TaskRecord :=
    ⟨startedRow id taskID "acme" "pod" "default" 0, createdAt⟩
  if k ≤ 1 then [record 2 "b" 1] else if k = 2 then [record 1 "a" 0] else []

/-- The first row moves to the third page. -/
theorem first_row_shown :
    ∃ k ≤ 3, ∃ shown ∈ threePages k,
      attempt shown = ⟨startedRow 1 "a" "acme" "pod" "default" 0, 0⟩ := by
  have answered : ∀ k ≤ 3, getTaskHistory ⟨fun _ _ => true, some⟩ (fun n => (n : Int)) plainSort
      (nthPage acme 1 k) (after (step wholeSeconds) .fresh (callsUntil threeStarts k)) =
        .ok (threePages k) := by
    intro k small
    obtain rfl | rfl | rfl | rfl : k = 0 ∨ k = 1 ∨ k = 2 ∨ k = 3 := by omega
    all_goals rfl
  exact pages_show_all wholeSeconds ⟨fun _ _ => true, some⟩ (fun _ _ => Int.ofNat_lt.mpr)
    ⟨rfl, rfl⟩ threeStarts (fun _ => plainSort) threePages (by decide) answered (by decide)
    ⟨startedRow 1 "a" "acme" "pod" "default" 0, 0⟩ (List.mem_cons_self) rfl

/-! ## The latest attempt -/

theorem map_row_filter_stamped (clock : Nat → Int) (keeps : Row → Bool) (rows : List Row) :
    ((stamped clock rows).filter fun record => keeps record.row).map TaskRecord.row =
      rows.filter keeps := by
  have rows_of : (stamped clock rows).map TaskRecord.row = rows := by
    apply List.ext_getElem?
    intro place
    simp only [stamped, List.getElem?_map, List.getElem?_mapIdx]
    cases rows[place]? <;> rfl
  have filtered := @List.filter_map _ _ TaskRecord.row keeps (stamped clock rows)
  rw [rows_of] at filtered
  exact filtered.symm

end CloudOS.Storage.HistoryPages
