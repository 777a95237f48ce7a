import CloudOS.Lib.NumberedQueries
import CloudOS.Lib.Pages
import CloudOS.Storage.TaskHistory

/-!
# The queries of the task history

`GetTaskHistory` of `pkg/storage/postgres.go` puts a `SELECT` together from the fields of
a filter, with a numbered placeholder for each one that is set, and `GetTaskByID` asks for
the newest row of a task.  The text of the statement is kept as the list of its conditions
and the numbers behind `LIMIT` and `OFFSET`.

`created_at` is the time at which a row was inserted.  The store never deletes a row, so
`clock` gives it by the row's place in the table.
-/

set_option autoImplicit false

namespace CloudOS.Storage.HistoryQuery

open CloudOS.Lib.NumberedQueries
open CloudOS.Lib.Pages
open CloudOS.Storage.TaskHistory

/-- A date is in nanoseconds; there is none where the filter has the zero time. -/
structure TaskFilter where
  tenantID : String
  status : String
  startDate : Option Int
  endDate : Option Int
  podName : String
  onlyFailed : Bool
  limit : Int64
  offset : Int64

structure TaskRecord where
  row : Row
  createdAt : Int
  deriving DecidableEq

inductive Comparison where
  | tenantIDEquals | statusEquals | createdAtOrAfter | createdAtOrBefore | podNameILike
  deriving DecidableEq, Repr

inductive Argument where
  | text (value : String)
  | time (value : Int)
  | number (value : Int64)
  deriving DecidableEq

/-! ## Building the statement -/

def TaskFilter.withLimit (filter : TaskFilter) : TaskFilter :=
  if filter.limit = 0 then { filter with limit := 100 } else filter

def TaskFilter.conditions (filter : TaskFilter) : Draft Comparison Argument :=
  let draft : Draft Comparison Argument := ⟨[⟨.tenantIDEquals, 1⟩], [.text filter.tenantID], 2⟩
  let draft := draft.andGiven .statusEquals
    (if filter.status = "" then none else some (.text filter.status))
  let draft := draft.andGiven .statusEquals
    (if filter.onlyFailed then some (.text "failed") else none)
  let draft := draft.andGiven .createdAtOrAfter (filter.startDate.map .time)
  let draft := draft.andGiven .createdAtOrBefore (filter.endDate.map .time)
  draft.andGiven .podNameILike
    (if filter.podName = "" then none else some (.text ("%" ++ filter.podName ++ "%")))

/-- `limit` and `offset` are the numbers of their placeholders. -/
structure Query where
  conditions : List (Condition Comparison)
  limit : Nat
  offset : Option Nat
  args : List Argument

def TaskFilter.query (filter : TaskFilter) : Query :=
  let draft := filter.conditions
  let args := draft.args ++ [.number filter.limit]
  if 0 < filter.offset then
    ⟨draft.conditions, draft.argIdx, some (draft.argIdx + 1), args ++ [.number filter.offset]⟩
  else ⟨draft.conditions, draft.argIdx, none, args⟩

/-! ## Running it -/

def enumLabel : TaskStatus → String
  | .pending => "pending"
  | .running => "running"
  | .completed => "completed"
  | .failed => "failed"
  | .cancelled => "cancelled"
  | .paused => "paused"

def statusOf (text : String) : Option TaskStatus :=
  [.pending, .running, .completed, .failed, .cancelled, .paused].find?
    fun status => enumLabel status == text

structure Server where
  /-- The pattern, then the text. -/
  ilike : String → String → Bool
  /-- A date as a `TIMESTAMP`, in microseconds; there is none outside of its range. -/
  timestamp : Int → Option Int

def Server.meaning (server : Server) : Comparison → Argument → Option (TaskRecord → Bool)
  | .tenantIDEquals, .text tenant =>
      if storable tenant then some fun record => record.row.tenantID == tenant else none
  | .statusEquals, .text text =>
      (statusOf text).map fun status record => record.row.status == status
  | .createdAtOrAfter, .time date =>
      (server.timestamp date).map fun time record => decide (time ≤ record.createdAt)
  | .createdAtOrBefore, .time date =>
      (server.timestamp date).map fun time record => decide (record.createdAt ≤ time)
  | .podNameILike, .text pattern =>
      if storable pattern then some fun record => server.ilike pattern record.row.podName else none
  | _, _ => none

/-- `LIMIT` and `OFFSET` must not be negative. -/
def rowCount (args : List Argument) (placeholder : Nat) : Option Nat :=
  match bound args placeholder with
  | some (.number value) => if 0 ≤ value.toInt then some value.toInt.toNat else none
  | _ => none

def Query.placeholders (query : Query) : List Nat :=
  query.conditions.map Condition.placeholder ++ query.limit :: query.offset.toList

/-- The driver sends as many arguments as the statement has parameters. -/
def Query.takesArgs (query : Query) : Bool :=
  query.placeholders.all (· ≤ query.args.length) && query.placeholders.contains query.args.length

structure Plan where
  keeps : TaskRecord → Bool
  limit : Nat
  offset : Nat

def Server.plan (server : Server) (query : Query) : Option Plan := do
  guard query.takesArgs
  let keeps ← clause server.meaning query.args query.conditions
  let limit ← rowCount query.args query.limit
  let offset ← query.offset.elim (some 0) (rowCount query.args)
  pure ⟨keeps, limit, offset⟩

structure QueryEnv where
  /-- What fails on the way to the database. -/
  fault : Option String
  /-- What PostgreSQL says of a query it refuses. -/
  refusal : String
  /-- What fails while the rows are read. -/
  iteration : Option String
  sort : List TaskRecord → List TaskRecord
  sorts : ∀ records, Arranges TaskRecord.createdAt records (sort records)

def stamped (clock : Nat → Int) (rows : List Row) : List TaskRecord :=
  rows.mapIdx fun place row => ⟨row, clock place⟩

section Calls
variable (server : Server) (clock : Nat → Int) (env : QueryEnv)

def getTaskHistory (filter : TaskFilter) (store : Store) : Except String (List TaskRecord) :=
  if store.closed then .error "store is closed"
  else if filter.tenantID = "" then .error "tenant_id is required"
  else
    match env.fault with
    | some err => .error ("failed to query task history: " ++ err)
    | none =>
        match server.plan filter.withLimit.query with
        | none => .error ("failed to query task history: " ++ env.refusal)
        | some plan =>
            match env.iteration with
            | some err => .error ("error iterating rows: " ++ err)
            | none => .ok (page plan.offset plan.limit
                (env.sort ((stamped clock store.rows).filter plan.keeps)))

/-- `WHERE task_id = $1 AND tenant_id = $2` -/
def isOf (taskID tenantID : String) (row : Row) : Bool :=
  row.taskID == taskID && row.tenantID == tenantID

def getTaskByID (taskID tenantID : String) (store : Store) : Except String TaskRecord :=
  if store.closed then .error "store is closed"
  else
    match env.fault with
    | some err => .error ("failed to query task: " ++ err)
    | none =>
        if storable taskID && storable tenantID then
          let found := env.sort ((stamped clock store.rows).filter fun record =>
            isOf taskID tenantID record.row)
          (page 0 1 found).head?.elim (.error "task not found") .ok
        else .error ("failed to query task: " ++ env.refusal)

end Calls

/-! ## What a filter means -/

section Filter
variable (server : Server) (filter : TaskFilter)

def TaskFilter.selects (record : TaskRecord) : Bool :=
  record.row.tenantID == filter.tenantID &&
  ((filter.status == "" || enumLabel record.row.status == filter.status) &&
  ((!filter.onlyFailed || record.row.status == .failed) &&
  ((filter.startDate.all fun date => (server.timestamp date).any (· ≤ record.createdAt)) &&
  ((filter.endDate.all fun date => (server.timestamp date).any (record.createdAt ≤ ·)) &&
  (filter.podName == "" || server.ilike ("%" ++ filter.podName ++ "%") record.row.podName)))))

/-- The database takes every value that the filter compares with. -/
structure TaskFilter.Readable : Prop where
  tenant : storable filter.tenantID = true
  status : filter.status = "" ∨ ∃ status, enumLabel status = filter.status
  startDate : ∀ date ∈ filter.startDate, (server.timestamp date).isSome = true
  endDate : ∀ date ∈ filter.endDate, (server.timestamp date).isSome = true
  podName : storable filter.podName = true

def TaskFilter.rowsPerPage : Nat := if filter.limit = 0 then 100 else filter.limit.toInt.toNat

end Filter

theorem statusOf_eq_some_iff {text : String} {status : TaskStatus} :
    statusOf text = some status ↔ enumLabel status = text := by
  constructor
  · intro found
    have matching := List.find?_some found
    exact eq_of_beq matching
  · rintro rfl
    cases status <;> rfl

theorem statusOf_isSome_iff {text : String} :
    (statusOf text).isSome = true ↔ ∃ status, enumLabel status = text := by
  rw [Option.isSome_iff_exists]
  exact exists_congr fun _ => statusOf_eq_some_iff

theorem storable_append (first second : String) :
    storable (first ++ second) = (storable first && storable second) := by
  simp [storable]

section Filter
variable {server : Server} {filter : TaskFilter}

def TaskFilter.pairs (filter : TaskFilter) : List (Comparison × Argument) :=
  [(.tenantIDEquals, .text filter.tenantID)] ++
  given .statusEquals (if filter.status = "" then none else some (.text filter.status)) ++
  given .statusEquals (if filter.onlyFailed then some (.text "failed") else none) ++
  given .createdAtOrAfter (filter.startDate.map .time) ++
  given .createdAtOrBefore (filter.endDate.map .time) ++
  given .podNameILike
    (if filter.podName = "" then none else some (.text ("%" ++ filter.podName ++ "%")))

theorem conditions_eq_numbered (filter : TaskFilter) : filter.conditions = numbered filter.pairs := by
  unfold TaskFilter.conditions TaskFilter.pairs
  rw [← numbered_andGiven, ← numbered_andGiven, ← numbered_andGiven, ← numbered_andGiven,
    ← numbered_andGiven]
  rfl

theorem all_pairs (filter : TaskFilter) (test : Comparison × Argument → Bool) :
    filter.pairs.all test =
      (test (.tenantIDEquals, .text filter.tenantID) &&
      ((filter.status == "" || test (.statusEquals, .text filter.status)) &&
      ((!filter.onlyFailed || test (.statusEquals, .text "failed")) &&
      ((filter.startDate.all fun date => test (.createdAtOrAfter, .time date)) &&
      ((filter.endDate.all fun date => test (.createdAtOrBefore, .time date)) &&
      (filter.podName == "" ||
        test (.podNameILike, .text ("%" ++ filter.podName ++ "%")))))))) := by
  have given_date : ∀ comparison (date : Option Int),
      (given comparison (date.map Argument.time)).all test =
        date.all fun date => test (comparison, .time date) := by
    intro comparison date
    cases date <;> simp [given]
  have given_unless : ∀ comparison (unset : Prop) [Decidable unset] arg,
      (given comparison (if unset then none else some arg)).all test =
        (decide unset || test (comparison, arg)) := by
    intro comparison unset _ arg
    by_cases holds : unset <;> simp [given, holds]
  have given_failed : (given .statusEquals
      (if filter.onlyFailed then some (.text "failed") else none)).all test =
        (!filter.onlyFailed || test (.statusEquals, .text "failed")) := by
    cases filter.onlyFailed <;> simp [given]
  simp only [TaskFilter.pairs, List.all_append, given_date, given_unless, given_failed,
    Bool.and_assoc, List.all_cons, List.all_nil, Bool.and_true]
  rfl

theorem pairs_readable_iff :
    (filter.pairs.all fun pair => (server.meaning pair.1 pair.2).isSome) = true ↔
      filter.Readable server := by
  have failed : (server.meaning .statusEquals (.text "failed")).isSome = true := rfl
  have podName : (filter.podName = "" ∨
      (server.meaning .podNameILike (.text ("%" ++ filter.podName ++ "%"))).isSome = true) ↔
        storable filter.podName = true := by
    have percent : storable "%" = true := by decide
    have empty : storable "" = true := by decide
    rw [Server.meaning, storable_append, storable_append, percent]
    by_cases unset : filter.podName = "" <;> simp [unset, empty]
  rw [all_pairs]
  simp only [Bool.and_eq_true, Bool.or_eq_true, beq_iff_eq, podName, failed, or_true, true_and]
  simp only [Server.meaning, Option.isSome_map, statusOf_isSome_iff, Option.all_eq_true]
  constructor
  · rintro ⟨tenant, status, startDate, endDate, podName⟩
    exact ⟨by simpa using tenant, status, startDate, endDate, podName⟩
  · rintro ⟨tenant, status, startDate, endDate, podName⟩
    exact ⟨by simpa using tenant, status, startDate, endDate, podName⟩

theorem any_statusOf (text : String) (status : TaskStatus) :
    (statusOf text).any (status == ·) = (enumLabel status == text) := by
  rw [Bool.eq_iff_iff, Option.any_eq_true, beq_iff_eq, ← statusOf_eq_some_iff]
  constructor
  · rintro ⟨other, found, same⟩
    rwa [eq_of_beq same]
  · intro found
    exact ⟨status, found, beq_self_eq_true status⟩

theorem pairs_all_eq_selects (readable : filter.Readable server) (record : TaskRecord) :
    (filter.pairs.all fun pair => (server.meaning pair.1 pair.2).any (· record)) =
      filter.selects server record := by
  have tenant : (server.meaning .tenantIDEquals (.text filter.tenantID)).any (· record) =
      (record.row.tenantID == filter.tenantID) := by
    rw [Server.meaning, if_pos readable.tenant]
    rfl
  have status : ∀ text, (server.meaning .statusEquals (.text text)).any (· record) =
      (enumLabel record.row.status == text) := by
    intro text
    rw [← any_statusOf, Server.meaning, Option.any_map]
  have failed : (enumLabel record.row.status == "failed") = (record.row.status == .failed) := by
    cases record.row.status <;> rfl
  have podName : (server.meaning .podNameILike (.text ("%" ++ filter.podName ++ "%"))).any
      (· record) = server.ilike ("%" ++ filter.podName ++ "%") record.row.podName := by
    have percent : storable "%" = true := by decide
    rw [Server.meaning, storable_append, storable_append, percent, readable.podName]
    rfl
  rw [all_pairs, tenant, status, status, failed, podName]
  simp only [Server.meaning, Option.any_map]
  rfl

theorem takesArgs_query (filter : TaskFilter) : filter.query.takesArgs = true := by
  have below : ∀ more, (List.range' 1 filter.pairs.length).all
      (· ≤ filter.pairs.length + more) = true := by
    intro more
    rw [List.all_eq_true]
    intro placeholder member
    have := List.mem_range'_1.mp member
    exact decide_eq_true (by omega)
  unfold Query.takesArgs Query.placeholders TaskFilter.query
  rw [conditions_eq_numbered]
  split
  next =>
      dsimp only
      rw [placeholders_numbered]
      simp [numbered, below]
  next =>
      dsimp only
      rw [placeholders_numbered]
      simp [numbered, below]

theorem clause_query_eq_some_iff {keeps : TaskRecord → Bool} :
    clause server.meaning filter.query.args filter.query.conditions = some keeps ↔
      filter.Readable server ∧ keeps = filter.selects server := by
  have numbered_clause : ∀ more, clause server.meaning (filter.conditions.args ++ more)
      filter.conditions.conditions = some keeps ↔
        filter.Readable server ∧ keeps = filter.selects server := by
    intro more
    rw [conditions_eq_numbered, clause_numbered, Option.ite_none_right_eq_some,
      pairs_readable_iff, Option.some.injEq]
    refine and_congr_right fun readable => ?_
    rw [funext (pairs_all_eq_selects readable)]
    exact eq_comm
  unfold TaskFilter.query
  split
  next =>
      dsimp only
      rw [List.append_assoc]
      exact numbered_clause _
  next => exact numbered_clause _

theorem rowCount_of_bound {args : List Argument} {placeholder : Nat} {value : Int64}
    (found : bound args placeholder = some (.number value)) :
    rowCount args placeholder = if 0 ≤ value.toInt then some value.toInt.toNat else none := by
  rw [rowCount, found]

theorem rowCount_limit (filter : TaskFilter) :
    rowCount filter.query.args filter.query.limit =
      if 0 ≤ filter.limit.toInt then some filter.limit.toInt.toNat else none := by
  apply rowCount_of_bound
  unfold TaskFilter.query
  rw [conditions_eq_numbered]
  split <;> simp [numbered, bound]

theorem rowCount_offset (filter : TaskFilter) :
    filter.query.offset.elim (some 0) (rowCount filter.query.args) =
      some filter.offset.toInt.toNat := by
  unfold TaskFilter.query
  split
  next positive =>
      have nonneg : 0 ≤ filter.offset.toInt := (Int64.lt_iff_toInt_lt.mp positive).le
      rw [Option.elim_some, @rowCount_of_bound _ _ filter.offset, if_pos nonneg]
      rw [conditions_eq_numbered]
      simp [numbered, bound]
  next notPositive =>
      have nonpos : filter.offset.toInt ≤ 0 :=
        Int.not_lt.mp fun positive => notPositive (Int64.lt_iff_toInt_lt.mpr positive)
      rw [Option.elim_none, Int.toNat_of_nonpos nonpos]

/-- The statement keeps the rows that the filter selects and cuts out the page it asks for;
a negative offset is none. -/
theorem plan_query_eq_some_iff {plan : Plan} :
    server.plan filter.query = some plan ↔
      filter.Readable server ∧ 0 ≤ filter.limit.toInt ∧
        plan = ⟨filter.selects server, filter.limit.toInt.toNat, filter.offset.toInt.toNat⟩ := by
  simp only [Server.plan, takesArgs_query, rowCount_limit, rowCount_offset]
  constructor
  · intro planned
    cases taken : clause server.meaning filter.query.args filter.query.conditions with
    | none => simp [taken] at planned
    | some keeps =>
        obtain ⟨readable, rfl⟩ := clause_query_eq_some_iff.mp taken
        by_cases nonneg : 0 ≤ filter.limit.toInt
        · simp [taken, nonneg] at planned
          exact ⟨readable, nonneg, planned.symm⟩
        · simp [taken, nonneg] at planned
  · rintro ⟨readable, nonneg, rfl⟩
    simp [clause_query_eq_some_iff.mpr ⟨readable, rfl⟩, nonneg]

theorem plan_withLimit_eq_some_iff {plan : Plan} :
    server.plan filter.withLimit.query = some plan ↔
      (filter.Readable server ∧ 0 ≤ filter.limit.toInt) ∧
        plan = ⟨filter.selects server, filter.rowsPerPage, filter.offset.toInt.toNat⟩ := by
  rw [plan_query_eq_some_iff, TaskFilter.withLimit, TaskFilter.rowsPerPage, and_assoc]
  by_cases unset : filter.limit = 0
  · have hundred : (100 : Int64).toInt = 100 := rfl
    have zero : (0 : Int64).toInt = 0 := rfl
    have same : TaskFilter.Readable server { filter with limit := 100 } ↔ filter.Readable server :=
      ⟨fun ⟨tenant, status, startDate, endDate, podName⟩ =>
        ⟨tenant, status, startDate, endDate, podName⟩,
        fun ⟨tenant, status, startDate, endDate, podName⟩ =>
          ⟨tenant, status, startDate, endDate, podName⟩⟩
    rw [if_pos unset, if_pos unset, same, unset, hundred, zero]
    exact and_congr_right fun _ => and_congr (by decide) Iff.rfl
  · rw [if_neg unset, if_neg unset]

end Filter

theorem getTaskHistory_eq_ok_iff {server : Server} {clock : Nat → Int} {env : QueryEnv}
    {filter : TaskFilter} {store : Store} {records : List TaskRecord} :
    getTaskHistory server clock env filter store = .ok records ↔
      (store.closed = false ∧ filter.tenantID ≠ "" ∧ env.fault = none ∧ env.iteration = none) ∧
      ∃ plan, server.plan filter.withLimit.query = some plan ∧
        records = page plan.offset plan.limit
          (env.sort ((stamped clock store.rows).filter plan.keeps)) := by
  unfold getTaskHistory
  by_cases closed : store.closed = true
  · simp [closed]
  rw [if_neg closed]
  by_cases anonymous : filter.tenantID = ""
  · simp [anonymous]
  rw [if_neg anonymous]
  cases fault : env.fault with
  | some err => simp
  | none =>
      cases planned : server.plan filter.withLimit.query with
      | none => simp
      | some plan =>
          cases iteration : env.iteration with
          | some err => simp
          | none => simp [closed, anonymous, eq_comm]

end CloudOS.Storage.HistoryQuery
