import CloudOS.Lib.Binary64
import CloudOS.Lib.Rounding
import CloudOS.Storage.TaskHistory

/-!
# Statistics of a tenant

`GetTenantStats` of `pkg/storage/postgres.go` reads one row of the SQL function
`get_tenant_stats` into fields that cannot be null.  The function aggregates the rows of
the tenant in the window of some days: with no such row its rate, average and maximum are
null, and with none that has a duration its maximum still is.  Then the scan fails.
-/

set_option autoImplicit false

namespace CloudOS.Storage.TenantStatistics

open CloudOS.Lib.Binary64
open CloudOS.Lib.Rounding
open CloudOS.Storage.TaskHistory

/-- A row of `task_executions` with its `created_at`, in microseconds since 2000. -/
structure Execution where
  row : Row
  createdAt : Int
  valid : row.valid = true

structure Store where
  closed : Bool
  executions : List Execution

structure Env where
  /-- What fails on the way to the database. -/
  fault : Option String
  /-- What PostgreSQL says of a query it refuses. -/
  refusal : String
  /-- `CURRENT_TIMESTAMP` less so many days, as the time zone of the session counts them. -/
  daysAgo : Int → Int
  /-- The digits behind the point that PostgreSQL computes of a quotient. -/
  scale : Nat → Nat → Nat

/-- The range of a `TIMESTAMP`, from the year 4713 BC on. -/
def isTimestamp (t : Int) : Bool := -211813488000000000 ≤ t && t < 9223371331200000000

/-! ## The function in the database -/

def inWindow (tenantID : String) (start : Int) (execution : Execution) : Bool :=
  execution.row.tenantID == tenantID && start < execution.createdAt

structure StatsRow where
  totalTasks : Nat
  completedTasks : Nat
  failedTasks : Nat
  successRate : Option ℚ
  avgDurationSeconds : Option ℚ
  maxDurationSeconds : Option Int
  deriving DecidableEq

def hasStatus (status : TaskStatus) (execution : Execution) : Bool :=
  execution.row.status == status

/-- `NULLIF(COUNT(*), 0)`; an average, too, is null without rows. -/
def nonzero (count : Nat) : Option Nat := if count = 0 then none else some count

/-- The aggregates of the rows in the window.  No duration is negative, so halves that are
rounded away from zero are rounded up. -/
def aggregate (scale : Nat → Nat → Nat) (rows : List Execution) : StatsRow :=
  let completed := rows.countP (hasStatus .completed)
  let quotient (n total : Nat) : ℚ := halfUp (10 ^ scale n total) (n / total)
  let sum := (rows.map fun execution => (execution.row.durationSeconds.getD 0).toNat).sum
  { totalTasks := rows.length
    completedTasks := completed
    failedTasks := rows.countP (hasStatus .failed)
    successRate := (nonzero rows.length).map fun total => halfUp 100 (quotient completed total * 100)
    avgDurationSeconds := (nonzero rows.length).map fun total => halfUp 100 (quotient sum total)
    maxDurationSeconds := (rows.filterMap (·.row.durationSeconds)).max? }

/-- `SELECT … FROM get_tenant_stats($1, $2)`. -/
def query (env : Env) (tenantID : String) (days : Int64) (executions : List Execution) :
    Except String StatsRow :=
  match env.fault with
  | some err => .error err
  | none =>
      if storable tenantID && int4 days && isTimestamp (env.daysAgo days.toInt) then
        .ok (aggregate env.scale (executions.filter (inWindow tenantID (env.daysAgo days.toInt))))
      else .error env.refusal

/-! ## The call -/

structure TaskExecutionStats where
  totalTasks : Nat
  completedTasks : Nat
  failedTasks : Nat
  successRate : ℚ
  avgDuration : ℚ
  maxDuration : Int
  deriving DecidableEq

/-- `Scan` of one column into a field of a plain type. -/
def scanColumn {α : Type} (index name kind : String) : Option α → Except String α
  | some value => .ok value
  | none => .error ("sql: Scan error on column index " ++ index ++ ", name \"" ++ name ++
      "\": converting NULL to " ++ kind ++ " is unsupported")

/-- A numeric is read as the nearest `float64`. -/
def scan (row : StatsRow) : Except String TaskExecutionStats := do
  let successRate ← scanColumn "3" "success_rate" "float64" row.successRate
  let avgDuration ← scanColumn "4" "avg_duration_seconds" "float64" row.avgDurationSeconds
  let maxDuration ← scanColumn "5" "max_duration_seconds" "int64" row.maxDurationSeconds
  return ⟨row.totalTasks, row.completedTasks, row.failedTasks, round64 successRate,
    round64 avgDuration, maxDuration⟩

def getTenantStats (env : Env) (tenantID : String) (days : Int64) (store : Store) :
    Except String TaskExecutionStats :=
  if store.closed then .error "store is closed"
  else
    let days := if days = 0 then 30 else days
    (query env tenantID days store.executions >>= scan).mapError
      ("failed to query tenant stats: " ++ ·)

/-! ## What is returned -/

def Counted (env : Env) (tenantID : String) (days : Int64) (execution : Execution) : Prop :=
  execution.row.tenantID = tenantID ∧ env.daysAgo days.toInt < execution.createdAt

instance (env : Env) (tenantID : String) (days : Int64) :
    DecidablePred (Counted env tenantID days) := fun _ => inferInstanceAs (Decidable (_ ∧ _))

/-- The counts are those of the tenant's rows in the window, and the rate is a percentage. -/
structure Consistent (env : Env) (tenantID : String) (days : Int64)
    (executions : List Execution) (stats : TaskExecutionStats) : Prop where
  total : stats.totalTasks = executions.countP fun e => Counted env tenantID days e
  completed : stats.completedTasks =
    executions.countP fun e => Counted env tenantID days e ∧ e.row.status = .completed
  failed : stats.failedTasks =
    executions.countP fun e => Counted env tenantID days e ∧ e.row.status = .failed
  ended_le : stats.completedTasks + stats.failedTasks ≤ stats.totalTasks
  rate_nonneg : 0 ≤ stats.successRate
  rate_le : stats.successRate ≤ 100

/-- What an answer needs: a tenant that can be asked for, a window that starts at a timestamp,
and, in the window, an execution of the tenant with a duration. -/
structure Answerable (env : Env) (tenantID : String) (days : Int64)
    (executions : List Execution) : Prop where
  tenant : storable tenantID = true
  integer : days.toInt ≤ 2147483647
  start : isTimestamp (env.daysAgo days.toInt) = true
  duration : ∃ e ∈ executions, Counted env tenantID days e ∧ e.row.durationSeconds ≠ none

section Aggregates
variable {scale : Nat → Nat → Nat} {rows : List Execution}

theorem aggregate_max_eq_none_iff :
    (aggregate scale rows).maxDurationSeconds = none ↔
      ∀ e ∈ rows, e.row.durationSeconds = none := by
  rw [aggregate, List.max?_eq_none_iff, List.filterMap_eq_nil_iff]

theorem aggregate_rate_bounds {rate : ℚ} (found : (aggregate scale rows).successRate = some rate) :
    0 ≤ rate ∧ rate ≤ 100 := by
  simp only [aggregate, Option.map_eq_some_iff, nonzero, Option.ite_none_left_eq_some,
    Option.some.injEq] at found
  obtain ⟨total, ⟨someRow, rfl⟩, rfl⟩ := found
  have hundred : RoundsToParts 100 (halfUp 100) := halfUp_rounds (by norm_num)
  have digits : 0 < 10 ^ scale (rows.countP (hasStatus .completed)) rows.length := by positivity
  have quotient := halfUp_rounds digits
  have nonneg := quotient.nonneg digits (show (0 : ℚ) ≤
    rows.countP (hasStatus .completed) / rows.length by positivity)
  have completed_le : (rows.countP (hasStatus .completed) : ℚ) ≤ rows.length := by
    exact_mod_cast List.countP_le_length
  have le_one := @RoundsToParts.le_whole _ _ quotient digits
    (rows.countP (hasStatus .completed) / rows.length) 1
    (by rw [Int.cast_one]; exact div_le_one_of_le₀ completed_le (by positivity))
  constructor
  · exact hundred.nonneg (by norm_num) (by positivity)
  · have bound := @RoundsToParts.le_whole _ _ hundred (by norm_num)
      (halfUp (10 ^ scale (rows.countP (hasStatus .completed)) rows.length)
        (rows.countP (hasStatus .completed) / rows.length) * 100) 100
      (by push_cast at le_one ⊢; linarith)
    exact_mod_cast bound

theorem ended_le_length (rows : List Execution) :
    rows.countP (hasStatus .completed) + rows.countP (hasStatus .failed) ≤ rows.length := by
  induction rows with
  | nil => simp
  | cons first rest ih =>
      have one : ¬ (hasStatus .completed first = true ∧ hasStatus .failed first = true) := by
        simp only [hasStatus, beq_iff_eq]
        intro ⟨completed, failed⟩
        rw [completed] at failed
        cases failed
      simp only [List.countP_cons, List.length_cons]
      split <;> split <;> simp_all <;> omega

theorem scan_aggregate (timed : ∃ e ∈ rows, e.row.durationSeconds ≠ none) :
    ∃ rate avg max, (aggregate scale rows).successRate = some rate ∧
      scan (aggregate scale rows) = .ok ⟨rows.length, rows.countP (hasStatus .completed),
        rows.countP (hasStatus .failed), round64 rate, avg, max⟩ := by
  obtain ⟨e, member, duration⟩ := timed
  have someRow : nonzero rows.length = some rows.length :=
    if_neg (List.length_pos_of_mem member).ne'
  have notNull : (aggregate scale rows).maxDurationSeconds ≠ none := by
    rw [Ne, aggregate_max_eq_none_iff]
    exact fun null => duration (null e member)
  obtain ⟨max, maxEq⟩ := Option.ne_none_iff_exists'.mp notNull
  have rateEq : ∃ rate, (aggregate scale rows).successRate = some rate := by
    simp [aggregate, someRow]
  have avgEq : ∃ avg, (aggregate scale rows).avgDurationSeconds = some avg := by
    simp [aggregate, someRow]
  obtain ⟨rate, rateEq⟩ := rateEq
  obtain ⟨avg, avgEq⟩ := avgEq
  refine ⟨rate, round64 avg, max, rateEq, ?_⟩
  unfold scan
  rw [rateEq, avgEq, maxEq]
  rfl

theorem scan_aggregate_error (untimed : ∀ e ∈ rows, e.row.durationSeconds = none)
    (stats : TaskExecutionStats) : scan (aggregate scale rows) ≠ .ok stats := by
  have null := (@aggregate_max_eq_none_iff scale rows).mpr untimed
  unfold scan
  rw [null]
  cases (aggregate scale rows).successRate with
  | none => exact fun scanned => by cases scanned
  | some rate =>
      cases (aggregate scale rows).avgDurationSeconds with
      | none => exact fun scanned => by cases scanned
      | some avg => exact fun scanned => by cases scanned

end Aggregates

section Call
variable {env : Env} {tenantID : String} {days : Int64} {store : Store}

theorem countP_selected (executions : List Execution) (status : TaskStatus) :
    (executions.filter (inWindow tenantID (env.daysAgo days.toInt))).countP (hasStatus status) =
      executions.countP fun e => Counted env tenantID days e ∧ e.row.status = status := by
  rw [List.countP_filter]
  apply List.countP_congr
  intro e _
  rw [decide_eq_true_iff]
  simp [hasStatus, inWindow, Counted, and_comm, and_left_comm]

theorem length_selected (executions : List Execution) :
    (executions.filter (inWindow tenantID (env.daysAgo days.toInt))).length =
      executions.countP fun e => Counted env tenantID days e := by
  rw [← List.countP_eq_length_filter]
  apply List.countP_congr
  intro e _
  rw [decide_eq_true_iff]
  simp [inWindow, Counted]

theorem int4_iff (positive : 1 ≤ days.toInt) : int4 days = true ↔ days.toInt ≤ 2147483647 := by
  simp only [int4, Bool.and_eq_true, decide_eq_true_eq]
  omega

theorem query_ok_iff (noFault : env.fault = none) {executions : List Execution}
    {row : StatsRow} :
    query env tenantID days executions = .ok row ↔
      (storable tenantID = true ∧ int4 days = true ∧
        isTimestamp (env.daysAgo days.toInt) = true) ∧
      aggregate env.scale
        (executions.filter (inWindow tenantID (env.daysAgo days.toInt))) = row := by
  unfold query
  rw [noFault]
  simp only [Bool.and_eq_true, and_assoc]
  split
  next asked => simp [asked]
  next refused => simp_all

theorem getTenantStats_ok_iff (isOpen : store.closed = false) (noFault : env.fault = none)
    (positive : 1 ≤ days.toInt) {stats : TaskExecutionStats} :
    getTenantStats env tenantID days store = .ok stats ↔
      (storable tenantID = true ∧ days.toInt ≤ 2147483647 ∧
        isTimestamp (env.daysAgo days.toInt) = true) ∧
      scan (aggregate env.scale
        (store.executions.filter (inWindow tenantID (env.daysAgo days.toInt)))) = .ok stats := by
  have given : days ≠ 0 := by
    rintro rfl
    exact absurd positive (by decide)
  have unwrapped : getTenantStats env tenantID days store = .ok stats ↔
      ∃ row, query env tenantID days store.executions = .ok row ∧ scan row = .ok stats := by
    unfold getTenantStats
    rw [isOpen, if_neg given]
    cases answered : query env tenantID days store.executions with
    | error err => simp [Except.mapError, bind, Except.bind, answered]
    | ok row =>
        cases scanned : scan row with
        | error err => simp [Except.mapError, bind, Except.bind, answered, scanned]
        | ok returned => simp [Except.mapError, bind, Except.bind, answered, scanned]
  rw [unwrapped, ← int4_iff positive]
  simp only [query_ok_iff noFault, and_assoc, exists_and_left, exists_eq_left']

/-- The statistics are returned, with the right counts and a percentage, if and only if the
query can be asked and some row of the tenant in the window has a duration. -/
theorem statistics_iff (isOpen : store.closed = false) (noFault : env.fault = none)
    (positive : 1 ≤ days.toInt) :
    (∃ stats, getTenantStats env tenantID days store = .ok stats ∧
        Consistent env tenantID days store.executions stats) ↔
      Answerable env tenantID days store.executions := by
  have rows_iff : (∃ e ∈ store.executions.filter (inWindow tenantID (env.daysAgo days.toInt)),
      e.row.durationSeconds ≠ none) ↔
      ∃ e ∈ store.executions, Counted env tenantID days e ∧ e.row.durationSeconds ≠ none := by
    simp [List.mem_filter, inWindow, Counted, and_assoc]
  constructor
  · rintro ⟨stats, returned, -⟩
    obtain ⟨⟨tenant, integer, start⟩, scanned⟩ :=
      (getTenantStats_ok_iff isOpen noFault positive).mp returned
    refine ⟨tenant, integer, start, rows_iff.mp ?_⟩
    by_contra untimed
    push Not at untimed
    exact scan_aggregate_error untimed stats scanned
  · rintro ⟨tenant, integer, start, timed⟩
    obtain ⟨rate, avg, max, rateEq, scanned⟩ :=
      @scan_aggregate env.scale _ (rows_iff.mpr timed)
    obtain ⟨nonneg, bound⟩ := aggregate_rate_bounds rateEq
    refine ⟨_, (getTenantStats_ok_iff isOpen noFault positive).mpr
      ⟨⟨tenant, integer, start⟩, scanned⟩, length_selected _, countP_selected _ _,
      countP_selected _ _, ended_le_length _, round64_nonneg nonneg, ?_⟩
    exact_mod_cast @round64_le rate 100 nonneg (by linarith) (by exact_mod_cast bound)

end Call

/-! ## Tenants with and without a finished task -/

def utc : Env :=
  { fault := none, refusal := "", scale := fun _ _ => 20,
    daysAgo := fun days => 800000000000000 - days * 86400000000 }

def execution (row : Row) (valid : row.valid = true) : Execution := ⟨row, 799913600000000, valid⟩

def runningRow : Row := startedRow 1 "job" "acme" "job-1" "default" 10

def completedRow : Row :=
  { runningRow with
    status := .completed, exitCode := some 0, durationSeconds := some 3, completedAt := some 13 }

theorem completed_task_counted :
    ∃ stats, getTenantStats utc "acme" 7
        ⟨false, [execution completedRow (by decide), execution runningRow (by decide)]⟩ = .ok stats ∧
      Consistent utc "acme" 7 [execution completedRow (by decide), execution runningRow (by decide)]
        stats := by
  refine (statistics_iff rfl rfl (by decide)).mpr ⟨by decide, by decide, by decide, ?_⟩
  exact ⟨execution completedRow (by decide), List.mem_cons_self, by decide, by decide⟩

/-- A tenant without tasks, and one whose only task still runs, are answered by an error. -/
theorem unfinished_not_counted :
    getTenantStats utc "acme" 7 ⟨false, []⟩ =
        .error ("failed to query tenant stats: sql: Scan error on column index 3, " ++
          "name \"success_rate\": converting NULL to float64 is unsupported") ∧
      getTenantStats utc "acme" 7 ⟨false, [execution runningRow (by decide)]⟩ =
        .error ("failed to query tenant stats: sql: Scan error on column index 5, " ++
          "name \"max_duration_seconds\": converting NULL to int64 is unsupported") := by
  decide +kernel

end CloudOS.Storage.TenantStatistics
