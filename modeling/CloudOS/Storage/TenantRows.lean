import CloudOS.Storage.TaskHistory

/-!
# One tenant's rows

Tenants start and end attempts in any order, under names that may be the same for two
of them.  A row carries its tenant, but the `UPDATE` of a completion or a failure goes
by pod and task alone, so it also rewrites the rows of other tenants with those names.
-/

set_option autoImplicit false

namespace CloudOS.Storage.TenantRows

open CloudOS.Lib.History
open CloudOS.Lib.Tables
open CloudOS.Storage.TaskHistory

inductive Request where
  | start (id : Nat) (taskID podName ns : String)
  | finish (taskID podName : String) (ending : Ending)

structure Call where
  tenantID : String
  request : Request
  env : Env

def ofTenant (tenant : String) (row : Row) : Bool := row.tenantID == varchar 255 tenant

def ownRows (tenant : String) (store : Store) : Store :=
  { store with rows := store.rows.filter (ofTenant tenant) }

def timeless (row : Row) : Row := { row with id := 0, startedAt := none, completedAt := none }

def ownCalls (tenant : String) (calls : List Call) : List Call :=
  calls.filter fun call => call.tenantID == tenant

section Calls
variable (bigint : Int64 → Option Int) (tenant : String)

def step (store : Store) (call : Call) : Store :=
  match call.request with
  | .start id taskID podName ns =>
      (recordTaskStart id taskID call.tenantID podName ns call.env store).2
  | .finish taskID podName ending => (ending.record bigint taskID podName call.env store).2

def Isolated (calls : List Call) : Prop :=
  (ownRows tenant (after (step bigint) .fresh calls)).rows.map timeless =
    (ownRows tenant (after (step bigint) .fresh (ownCalls tenant calls))).rows.map timeless

def takesAlone (tenantID taskID podName : String) (ending : Ending) (env : Env) (store : Store) :
    Bool :=
  if tenantID = tenant then ending.takes bigint taskID podName env (ownRows tenant store) else false

/-- A tenant's own completion or failure is not refused for the sake of the rows of
others, no other's takes effect on a row of the tenant, and no other's start is stored
under the tenant's id (two ids may differ only in blanks that the column cuts off). -/
def Apart (entry : Store × Call) : Prop :=
  match entry.2.request with
  | .start id taskID podName ns => entry.2.tenantID ≠ tenant →
      startTakes id taskID entry.2.tenantID podName ns entry.2.env entry.1 = true →
        varchar 255 entry.2.tenantID ≠ varchar 255 tenant
  | .finish taskID podName ending => ∀ row ∈ (ownRows tenant entry.1).rows,
      ending.outcome.selects taskID podName row = true →
        ending.takes bigint taskID podName entry.2.env entry.1 =
          takesAlone bigint tenant entry.2.tenantID taskID podName ending entry.2.env entry.1

end Calls

/-! ## One call -/

section Steps
variable {bigint : Int64 → Option Int} {tenant : String} {store : Store}

theorem ownRows_ownRows (tenant : String) (store : Store) :
    ownRows tenant (ownRows tenant store) = ownRows tenant store := by
  simp [ownRows, List.filter_filter]

theorem ownRows_start (id : Nat) (taskID tenantID podName ns : String) (env : Env) :
    ownRows tenant (recordTaskStart id taskID tenantID podName ns env store).2 =
      if startTakes id taskID tenantID podName ns env store = true ∧
          varchar 255 tenantID = varchar 255 tenant then
        { ownRows tenant store with
          rows := (ownRows tenant store).rows ++
            [startedRow id taskID tenantID podName ns env.now] }
      else ownRows tenant store := by
  rw [recordTaskStart_store]
  by_cases takes : startTakes id taskID tenantID podName ns env store = true
  · simp only [takes, if_true, true_and, ownRows, List.filter_append]
    by_cases same : varchar 255 tenantID = varchar 255 tenant
    · simp [ofTenant, startedRow, same]
    · simp [ofTenant, startedRow, same]
  · simp [takes]

theorem ownRows_finish (ending : Ending) (taskID podName : String) (env : Env) :
    ownRows tenant (ending.record bigint taskID podName env store).2 =
      { ownRows tenant store with
        rows := updateIf (ending.outcome.selects taskID podName) (ending.write bigint env)
          (ending.takes bigint taskID podName env store) (ownRows tenant store).rows } := by
  have kept : ∀ row, ofTenant tenant (ending.write bigint env row) = ofTenant tenant row := by
    intro row
    rw [ofTenant, Ending.write_tenantID, ofTenant]
  rw [record_store]
  cases ending.takes bigint taskID podName env store with
  | true => simp only [ownRows, updateIf, if_true, filter_map_updateRow kept]
  | false => rfl

/-- A write shows even without ids and timestamps, in the status. -/
theorem timeless_write {ending : Ending} {taskID podName : String} (env : Env) (row : Row)
    (selected : ending.outcome.selects taskID podName row = true) :
    timeless (ending.write bigint env row) ≠ timeless row := by
  intro same
  have status : (timeless (ending.write bigint env row)).status = (timeless row).status :=
    congrArg Row.status same
  have written : (timeless (ending.write bigint env row)).status = ending.outcome.status :=
    Ending.write_status bigint ending env row
  exact Outcome.status_of_selects selected (status.symm.trans written)

def alone (bigint : Int64 → Option Int) (tenant : String) (store : Store) (call : Call) : Store :=
  if call.tenantID = tenant then step bigint (ownRows tenant store) call else ownRows tenant store

section Start
variable {tenantID : String} {env : Env} {id : Nat} {taskID podName ns : String}

theorem alone_start :
    alone bigint tenant store ⟨tenantID, .start id taskID podName ns, env⟩ =
      if startTakes id taskID tenantID podName ns env store = true ∧ tenantID = tenant then
        { ownRows tenant store with
          rows := (ownRows tenant store).rows ++
            [startedRow id taskID tenantID podName ns env.now] }
      else ownRows tenant store := by
  simp only [alone, step, recordTaskStart_store]
  by_cases own : tenantID = tenant
  · simp only [own, and_true, if_true]
    rfl
  · simp [own]

theorem start_isolated_iff :
    (ownRows tenant (step bigint store ⟨tenantID, .start id taskID podName ns, env⟩)).rows.map
          timeless =
        (alone bigint tenant store ⟨tenantID, .start id taskID podName ns, env⟩).rows.map timeless ↔
      Apart bigint tenant (store, ⟨tenantID, .start id taskID podName ns, env⟩) := by
  simp only [step, Apart, ownRows_start, alone_start]
  by_cases own : tenantID = tenant
  · simp [own]
  · by_cases takes : startTakes id taskID tenantID podName ns env store = true
    · by_cases same : varchar 255 tenantID = varchar 255 tenant
      · simp [own, takes, same]
      · simp [own, takes, same]
    · simp [takes]

theorem start_apart
    (apart : Apart bigint tenant (store, ⟨tenantID, .start id taskID podName ns, env⟩)) :
    ownRows tenant (step bigint store ⟨tenantID, .start id taskID podName ns, env⟩) =
      alone bigint tenant store ⟨tenantID, .start id taskID podName ns, env⟩ := by
  simp only [step, Apart] at apart ⊢
  rw [ownRows_start, alone_start]
  by_cases own : tenantID = tenant
  · simp [own]
  · by_cases takes : startTakes id taskID tenantID podName ns env store = true
    · simp [own, takes, apart own takes]
    · simp [takes]

end Start

section Finish
variable {tenantID : String} {env : Env} {taskID podName : String} {ending : Ending}

theorem alone_finish :
    alone bigint tenant store ⟨tenantID, .finish taskID podName ending, env⟩ =
      { ownRows tenant store with
        rows := updateIf (ending.outcome.selects taskID podName) (ending.write bigint env)
          (takesAlone bigint tenant tenantID taskID podName ending env store)
          (ownRows tenant store).rows } := by
  simp only [alone, step, takesAlone]
  split
  next => exact record_store bigint ending taskID podName env (ownRows tenant store)
  next => rfl

theorem finish_isolated_iff :
    (ownRows tenant (step bigint store ⟨tenantID, .finish taskID podName ending, env⟩)).rows.map
          timeless =
        (alone bigint tenant store ⟨tenantID, .finish taskID podName ending, env⟩).rows.map
          timeless ↔
      Apart bigint tenant (store, ⟨tenantID, .finish taskID podName ending, env⟩) := by
  simp only [step, ownRows_finish, alone_finish]
  exact map_view_updateIf_iff (fun row => timeless_write env row) _ _ _

theorem finish_apart
    (apart : Apart bigint tenant (store, ⟨tenantID, .finish taskID podName ending, env⟩)) :
    ownRows tenant (step bigint store ⟨tenantID, .finish taskID podName ending, env⟩) =
      alone bigint tenant store ⟨tenantID, .finish taskID podName ending, env⟩ := by
  have shows : ∀ row, ending.outcome.selects taskID podName row = true →
      id (ending.write bigint env row) ≠ id row :=
    fun row selected same => timeless_write env row selected (congrArg timeless same)
  have same := (map_view_updateIf_iff shows _ _ _).mpr apart
  rw [List.map_id, List.map_id] at same
  simp only [step, ownRows_finish, alone_finish]
  exact congrArg (Store.mk store.closed) same

end Finish

end Steps

/-! ## Every run -/

section Runs
variable {bigint : Int64 → Option Int} {tenant : String}

theorem isolated_iff {store : Store} {call : Call} :
    (ownRows tenant (step bigint store call)).rows.map timeless =
        (alone bigint tenant store call).rows.map timeless ↔
      Apart bigint tenant (store, call) := by
  obtain ⟨tenantID, request, env⟩ := call
  cases request with
  | start id taskID podName ns => exact start_isolated_iff
  | finish taskID podName ending => exact finish_isolated_iff

theorem ownRows_step {store : Store} {call : Call} (apart : Apart bigint tenant (store, call)) :
    ownRows tenant (step bigint store call) = alone bigint tenant store call := by
  obtain ⟨tenantID, request, env⟩ := call
  cases request with
  | start id taskID podName ns => exact start_apart apart
  | finish taskID podName ending => exact finish_apart apart

/-- The run of the tenant's own calls is at the tenant's rows of the whole run, ids and
timestamps included. -/
def Agree (bigint : Int64 → Option Int) (tenant : String) (calls : List Call) : Prop :=
  ownRows tenant (after (step bigint) .fresh calls) =
    after (step bigint) .fresh (ownCalls tenant calls)

theorem after_ownCalls_snoc {calls : List Call} (agree : Agree bigint tenant calls) (call : Call) :
    after (step bigint) .fresh (ownCalls tenant (calls ++ [call])) =
      alone bigint tenant (after (step bigint) .fresh calls) call := by
  rw [ownCalls, List.filter_append, alone, agree]
  by_cases own : call.tenantID = tenant
  · rw [if_pos own, List.filter_cons_of_pos (by simp [own]), List.filter_nil, after_snoc, ownCalls]
  · rw [if_neg own, List.filter_cons_of_neg (by simp [own]), List.filter_nil, List.append_nil,
      ownCalls]

theorem ownRows_alone (store : Store) (call : Call) :
    ownRows tenant (alone bigint tenant store call) = alone bigint tenant store call := by
  by_cases own : call.tenantID = tenant
  · have apart : Apart bigint tenant (ownRows tenant store, call) := by
      unfold Apart takesAlone
      cases call.request with
      | start id taskID podName ns => exact fun other => absurd own other
      | finish taskID podName ending =>
          intro row _ _
          rw [if_pos own, ownRows_ownRows]
    have same := ownRows_step apart
    rw [alone, if_pos own, ownRows_ownRows] at same
    rw [alone, if_pos own, same]
  · rw [alone, if_neg own, ownRows_ownRows]

/-- A tenant's rows are the same as without the calls of others, up to ids and
timestamps, all along a run exactly when no completion or failure of another takes
effect on one of them and none of its own is refused because of another's row. -/
theorem isolated_all_along_iff (bigint : Int64 → Option Int) (tenant : String)
    (calls : List Call) :
    (∀ earlier, earlier <+: calls → Isolated bigint tenant earlier) ↔
      ∀ entry ∈ history (step bigint) .fresh calls, Apart bigint tenant entry := by
  have agree_nil : Agree bigint tenant [] := rfl
  have start : Isolated bigint tenant [] := rfl
  have exact_step : ∀ ops op, Agree bigint tenant ops → True →
      (Isolated bigint tenant (ops ++ [op]) ↔
        Apart bigint tenant (after (step bigint) .fresh ops, op)) := by
    intro ops op agree _
    rw [Isolated, after_ownCalls_snoc agree op, after_snoc, ownRows_alone]
    exact isolated_iff
  have kept : ∀ ops op, Agree bigint tenant ops → True →
      Apart bigint tenant (after (step bigint) .fresh ops, op) →
      Agree bigint tenant (ops ++ [op]) := by
    intro ops op agree _ apart
    rw [Agree, after_ownCalls_snoc agree op, after_snoc, ownRows_step apart]
  exact forall_prefix_iff_history agree_nil start exact_step kept calls (fun _ _ => trivial)

end Runs

/-! ## One tenant ends another's attempt -/

/-- Two tenants with a task and a pod of the same name. -/
def namesakes : List Call :=
  [⟨"a", .start 0 "t" "t-pod" "cloudos-a", .healthy 0⟩,
    ⟨"b", .start 1 "t" "t-pod" "cloudos-b", .healthy 1⟩,
    ⟨"b", .finish "t" "t-pod" (.completion 0 5000000000), .healthy 6⟩]

theorem other_tenant_completes_row :
    ((ownRows "a" (after (step wholeSeconds) .fresh namesakes)).rows.map
        fun row => (row.status, row.exitCode)) = [(.completed, some 0)] ∧
      ((ownRows "a" (after (step wholeSeconds) .fresh (ownCalls "a" namesakes))).rows.map
        fun row => (row.status, row.exitCode)) = [(.running, none)] ∧
      ¬ ∀ earlier, earlier <+: namesakes → Isolated wholeSeconds "a" earlier := by
  refine ⟨by decide +kernel, by decide +kernel, ?_⟩
  intro isolated
  have same := isolated namesakes (List.prefix_refl _)
  exact absurd same (by unfold Isolated; decide +kernel)

end CloudOS.Storage.TenantRows
