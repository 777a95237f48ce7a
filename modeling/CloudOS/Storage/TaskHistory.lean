import CloudOS.Lib.History
import CloudOS.Lib.Tables

/-!
# The task history in PostgreSQL

`RecordTaskStart`, `RecordTaskCompletion` and `RecordTaskFailure` of
`pkg/storage/postgres.go`, over the table `task_executions` of the first migration.
A call is one statement; what it sees besides the table is its `Env`.  How PostgreSQL
reads the text of `duration.Seconds()` as a `BIGINT` is the parameter `bigint`.
-/

set_option autoImplicit false

namespace CloudOS.Storage.TaskHistory

open CloudOS.Lib.Tables

inductive TaskStatus where
  | pending | running | completed | failed | cancelled | paused
  deriving DecidableEq, Repr

structure Row where
  id : Nat
  taskID : String
  tenantID : String
  podName : String
  ns : String
  status : TaskStatus
  exitCode : Option Int32
  retryAttempt : Int
  maxRetries : Int
  startedAt : Option Nat
  completedAt : Option Nat
  durationSeconds : Option Int
  reason : Option String
  message : Option String
  deriving DecidableEq

/-- A text stored in a `VARCHAR` column: blanks beyond the limit are cut off, anything
else beyond it is left for `Row.valid` to refuse. -/
def varchar (limit : Nat) (text : String) : String :=
  if text.length ≤ limit then text
  else if (text.toList.drop limit).all (· == ' ') then String.ofList (text.toList.take limit)
  else text

/-- PostgreSQL has no NUL in a text. -/
def storable (text : String) : Bool := text.toList.all fun c => c != Char.ofNat 0

/-- The column widths and the constraints of the table; `NULL` passes a `CHECK`. -/
def Row.valid (row : Row) : Bool :=
  row.taskID.length ≤ 255 && row.tenantID.length ≤ 255 && row.podName.length ≤ 255 &&
  row.ns.length ≤ 255 && row.reason.all (·.length ≤ 100) &&
  row.durationSeconds.all (0 ≤ ·) &&
  row.exitCode.all (fun code => -1 ≤ code && code ≤ 255) &&
  0 ≤ row.retryAttempt &&
  row.completedAt.all fun completed => row.startedAt.all (· ≤ completed)

/-- A duration in nanoseconds whose seconds have no fractional part; any other text is
refused for a `BIGINT`. -/
def wholeSeconds (duration : Int64) : Option Int :=
  if duration.toInt % 1000000000 = 0 then some (duration.toInt / 1000000000) else none

def int4 (value : Int64) : Bool := -2147483648 ≤ value.toInt && value.toInt ≤ 2147483647

/-- The statement fails for a reason of its own, before or after it took effect. -/
structure Fault where
  error : String
  applied : Bool

structure Env where
  now : Nat
  fault : Option Fault
  /-- What PostgreSQL says of a statement it refuses. -/
  refusal : String
  rowsAffectedError : Option String

def Env.applies (env : Env) : Bool := env.fault.all Fault.applied

def Env.healthy (now : Nat) : Env := ⟨now, none, "", none⟩

structure Store where
  closed : Bool
  rows : List Row
  deriving DecidableEq

def Store.fresh : Store := ⟨false, []⟩

/-- `statement` is what the table becomes and how many rows were affected, or none
when PostgreSQL refuses the statement. -/
def exec (env : Env) (statement : Option (List Row × Nat)) (store : Store) :
    Except String Nat × Store :=
  let applied := statement.elim store fun result => { store with rows := result.1 }
  match env.fault with
  | some fault => (.error fault.error, if fault.applied then applied else store)
  | none => (statement.elim (.error env.refusal) fun result => .ok result.2, applied)

/-! ## The calls -/

def startedRow (id : Nat) (taskID tenantID podName ns : String) (now : Nat) : Row :=
  { id := id, taskID := varchar 255 taskID, tenantID := varchar 255 tenantID,
    podName := varchar 255 podName, ns := varchar 255 ns, status := .running,
    exitCode := none, retryAttempt := 0, maxRetries := 0, startedAt := some now,
    completedAt := none, durationSeconds := none, reason := none, message := none }

def insert (row : Row) (rows : List Row) : Option (List Row × Nat) :=
  if row.valid then some (rows ++ [row], 1) else none

/-- `id` is the one the database generates.  The result is the error, if any. -/
def recordTaskStart (id : Nat) (taskID tenantID podName ns : String) (env : Env) (store : Store) :
    Option String × Store :=
  if store.closed then (some "store is closed", store)
  else
    match exec env (insert (startedRow id taskID tenantID podName ns env.now) store.rows) store with
    | (.error err, store') => (some ("failed to record task start: " ++ err), store')
    | (.ok _, store') => (none, store')

structure FailureDetails where
  reason : String
  message : String
  retryAttempt : Int64
  maxRetries : Int64

/-- The values of an `UPDATE` that ends an attempt. -/
structure Outcome where
  status : TaskStatus
  exitCode : Int32
  duration : Int64
  details : Option FailureDetails

/-- `WHERE pod_name = … AND task_id = … AND status != …`. -/
def Outcome.selects (outcome : Outcome) (taskID podName : String) (row : Row) : Bool :=
  row.podName == podName && row.taskID == taskID && row.status != outcome.status

def Outcome.set (outcome : Outcome) (seconds : Int) (now : Nat) (row : Row) : Row :=
  let ended := { row with
    status := outcome.status
    exitCode := some outcome.exitCode
    durationSeconds := some seconds
    completedAt := some now }
  match outcome.details with
  | none => ended
  | some details =>
      { ended with
        reason := some (varchar 100 details.reason)
        message := some details.message
        retryAttempt := details.retryAttempt.toInt
        maxRetries := details.maxRetries.toInt }

/-- The parameters are read before the rows are. -/
def Outcome.parametersFit (outcome : Outcome) : Bool :=
  outcome.details.all fun details => int4 details.retryAttempt && int4 details.maxRetries

section Calls
variable (bigint : Int64 → Option Int)

def Outcome.update (outcome : Outcome) (taskID podName : String) (now : Nat) (rows : List Row) :
    Option (List Row × Nat) :=
  match bigint outcome.duration with
  | none => none
  | some seconds =>
      if outcome.parametersFit then
        Lib.Tables.update (outcome.selects taskID podName) (outcome.set seconds now) Row.valid rows
      else none

/-- The body that `RecordTaskCompletion` and `RecordTaskFailure` share. -/
def recordOutcome (failedText noRowsText : String) (outcome : Outcome) (taskID podName : String)
    (env : Env) (store : Store) : Option String × Store :=
  if store.closed then (some "store is closed", store)
  else
    match exec env (outcome.update bigint taskID podName env.now store.rows) store with
    | (.error err, store') => (some (failedText ++ err), store')
    | (.ok rowsAffected, store') =>
        match env.rowsAffectedError with
        | some err => (some ("failed to get rows affected: " ++ err), store')
        | none => (if rowsAffected = 0 then some noRowsText else none, store')

def recordTaskCompletion (taskID podName : String) (exitCode : Int32) (duration : Int64) :
    Env → Store → Option String × Store :=
  recordOutcome bigint "failed to record task completion: "
    "task not found or already completed" ⟨.completed, exitCode, duration, none⟩ taskID podName

def recordTaskFailure (taskID podName reason message : String) (exitCode : Int32)
    (duration : Int64) (retryAttempt maxRetries : Int64) : Env → Store → Option String × Store :=
  recordOutcome bigint "failed to record task failure: " "task not found or already failed"
    ⟨.failed, exitCode, duration, some ⟨reason, message, retryAttempt, maxRetries⟩⟩ taskID podName

/-- A call that ends an attempt, apart from the names it is made under. -/
inductive Ending where
  | completion (exitCode : Int32) (duration : Int64)
  | failure (reason message : String) (exitCode : Int32) (duration : Int64)
      (retryAttempt maxRetries : Int64)

def Ending.outcome : Ending → Outcome
  | .completion exitCode duration => ⟨.completed, exitCode, duration, none⟩
  | .failure reason message exitCode duration retryAttempt maxRetries =>
      ⟨.failed, exitCode, duration, some ⟨reason, message, retryAttempt, maxRetries⟩⟩

def Ending.record (taskID podName : String) : Ending → Env → Store → Option String × Store
  | .completion exitCode duration => recordTaskCompletion bigint taskID podName exitCode duration
  | .failure reason message exitCode duration retryAttempt maxRetries =>
      recordTaskFailure bigint taskID podName reason message exitCode duration retryAttempt maxRetries

/-! ## What a call writes -/

def startTakes (id : Nat) (taskID tenantID podName ns : String) (env : Env) (store : Store) : Bool :=
  !store.closed && env.applies && (startedRow id taskID tenantID podName ns env.now).valid

def Ending.takes (ending : Ending) (taskID podName : String) (env : Env) (store : Store) : Bool :=
  !store.closed && env.applies &&
    (ending.outcome.update bigint taskID podName env.now store.rows).isSome

def Ending.write (ending : Ending) (env : Env) (row : Row) : Row :=
  ending.outcome.set ((bigint ending.outcome.duration).getD 0) env.now row

end Calls

theorem exec_store (env : Env) {statement : Option (List Row × Nat)} (store : Store)
    {rows : List Row} (leaves : ∀ result, statement = some result → result.1 = rows) :
    (if store.closed then store else (exec env statement store).2) =
      if !store.closed && env.applies && statement.isSome then { store with rows := rows }
      else store := by
  obtain ⟨closed, before⟩ := store
  obtain ⟨now, fault, refusal, rowsAffectedError⟩ := env
  cases closed with
  | true => rfl
  | false =>
      cases statement with
      | none => cases fault <;> simp [exec, Env.applies]
      | some result =>
          obtain rfl := leaves result rfl
          cases fault <;> simp [exec, Env.applies]

theorem recordTaskStart_store (id : Nat) (taskID tenantID podName ns : String) (env : Env)
    (store : Store) :
    (recordTaskStart id taskID tenantID podName ns env store).2 =
      if startTakes id taskID tenantID podName ns env store then
        { store with rows := store.rows ++ [startedRow id taskID tenantID podName ns env.now] }
      else store := by
  let row := startedRow id taskID tenantID podName ns env.now
  have one_statement : (recordTaskStart id taskID tenantID podName ns env store).2 =
      if store.closed then store else (exec env (insert row store.rows) store).2 := by
    unfold recordTaskStart
    split
    next => rfl
    next => split <;> simp_all only [row]
  have leaves : ∀ result, insert row store.rows = some result → result.1 = store.rows ++ [row] := by
    intro result inserted
    rw [insert, Option.ite_none_right_eq_some] at inserted
    rw [← Option.some.inj inserted.2]
  have fits : (insert row store.rows).isSome = row.valid := by
    rw [insert]
    cases row.valid <;> rfl
  rw [one_statement, exec_store env store leaves, fits, startTakes]

section Spec
variable (bigint : Int64 → Option Int)

theorem Outcome.update_eq_some_iff {outcome : Outcome} {taskID podName : String} {now : Nat}
    {rows : List Row} {result : List Row × Nat} :
    outcome.update bigint taskID podName now rows = some result ↔
      ∃ seconds, bigint outcome.duration = some seconds ∧ outcome.parametersFit = true ∧
        updatable (outcome.selects taskID podName) (outcome.set seconds now) Row.valid rows = true ∧
        (rows.map (updateRow (outcome.selects taskID podName) (outcome.set seconds now)),
          rows.countP (outcome.selects taskID podName)) = result := by
  unfold Outcome.update
  cases bigint outcome.duration with
  | none => simp
  | some value =>
      simp only [Lib.Tables.update, Option.ite_none_right_eq_some, Option.some.injEq,
        exists_eq_left']

theorem Outcome.update_rows {outcome : Outcome} {taskID podName : String} {now : Nat}
    {rows : List Row} {result : List Row × Nat}
    (updated : outcome.update bigint taskID podName now rows = some result) :
    result.1 = rows.map (updateRow (outcome.selects taskID podName)
      (outcome.set ((bigint outcome.duration).getD 0) now)) := by
  obtain ⟨seconds, sent, -, -, equal⟩ := (Outcome.update_eq_some_iff bigint).mp updated
  rw [← equal, sent]
  rfl

theorem recordOutcome_store (failedText noRowsText : String) (outcome : Outcome)
    (taskID podName : String) (env : Env) (store : Store) :
    (recordOutcome bigint failedText noRowsText outcome taskID podName env store).2 =
      if store.closed then store
      else (exec env (outcome.update bigint taskID podName env.now store.rows) store).2 := by
  unfold recordOutcome
  split
  next => rfl
  next =>
      cases exec env (outcome.update bigint taskID podName env.now store.rows) store with
      | mk answer left =>
          cases answer with
          | error err => rfl
          | ok affected => cases env.rowsAffectedError <;> rfl

theorem record_store (ending : Ending) (taskID podName : String) (env : Env) (store : Store) :
    (ending.record bigint taskID podName env store).2 =
      { store with
        rows := updateIf (ending.outcome.selects taskID podName) (ending.write bigint env)
          (ending.takes bigint taskID podName env store) store.rows } := by
  have one_statement : (ending.record bigint taskID podName env store).2 =
      if store.closed then store
      else (exec env (ending.outcome.update bigint taskID podName env.now store.rows) store).2 := by
    cases ending with
    | completion exitCode duration => exact recordOutcome_store bigint _ _ _ _ _ _ _
    | failure reason message exitCode duration retryAttempt maxRetries =>
        exact recordOutcome_store bigint _ _ _ _ _ _ _
  rw [one_statement, exec_store env store fun result => Outcome.update_rows bigint]
  change (if ending.takes bigint taskID podName env store then _ else store) = _
  rw [updateIf]
  split <;> rfl

theorem recordOutcome_ok_iff (failedText noRowsText : String) (outcome : Outcome)
    (taskID podName : String) {env : Env} (counted : env.rowsAffectedError = none) {store : Store}
    (isOpen : store.closed = false) :
    (recordOutcome bigint failedText noRowsText outcome taskID podName env store).1 = none ↔
      env.fault = none ∧ ∃ result,
        outcome.update bigint taskID podName env.now store.rows = some result ∧ result.2 ≠ 0 := by
  unfold recordOutcome exec
  rw [counted, isOpen]
  cases env.fault with
  | some fault => simp
  | none =>
      cases outcome.update bigint taskID podName env.now store.rows with
      | none => simp
      | some result => simp

theorem record_ok_iff (ending : Ending) (taskID podName : String) {env : Env}
    (counted : env.rowsAffectedError = none) {store : Store} (isOpen : store.closed = false) :
    (ending.record bigint taskID podName env store).1 = none ↔
      env.fault = none ∧ ∃ result,
        ending.outcome.update bigint taskID podName env.now store.rows = some result ∧
          result.2 ≠ 0 := by
  cases ending with
  | completion exitCode duration => exact recordOutcome_ok_iff bigint _ _ _ _ _ counted isOpen
  | failure reason message exitCode duration retryAttempt maxRetries =>
      exact recordOutcome_ok_iff bigint _ _ _ _ _ counted isOpen

/-! ## What a written row shows -/

@[simp] theorem Ending.write_id (ending : Ending) (env : Env) (row : Row) :
    (ending.write bigint env row).id = row.id := by
  cases ending <;> rfl

@[simp] theorem Ending.write_tenantID (ending : Ending) (env : Env) (row : Row) :
    (ending.write bigint env row).tenantID = row.tenantID := by
  cases ending <;> rfl

@[simp] theorem Ending.write_status (ending : Ending) (env : Env) (row : Row) :
    (ending.write bigint env row).status = ending.outcome.status := by
  cases ending <;> rfl

@[simp] theorem Ending.write_exitCode (ending : Ending) (env : Env) (row : Row) :
    (ending.write bigint env row).exitCode = some ending.outcome.exitCode := by
  cases ending <;> rfl

@[simp] theorem Ending.write_completedAt (ending : Ending) (env : Env) (row : Row) :
    (ending.write bigint env row).completedAt = some env.now := by
  cases ending <;> rfl

theorem Outcome.status_of_selects {outcome : Outcome} {taskID podName : String} {row : Row}
    (selected : outcome.selects taskID podName row = true) : row.status ≠ outcome.status := by
  simp only [Outcome.selects, Bool.and_eq_true, bne_iff_ne] at selected
  exact selected.2

end Spec

end CloudOS.Storage.TaskHistory
