import CloudOS.Storage.TaskHistory

/-!
# Rows settled by their own attempt

Each attempt of a task is started, and ended once before the task's next attempt.
The `UPDATE` of a completion or a failure names a pod and a task and leaves out only
rows that already have the status it writes, so it also rewrites the rows of earlier
attempts that ended the other way.
-/

set_option autoImplicit false

namespace CloudOS.Storage.AttemptRows

open CloudOS.Lib.History
open CloudOS.Lib.Tables
open CloudOS.Storage.TaskHistory

structure Report where
  status : TaskStatus
  exitCode : Int32
  completedAt : Nat
  deriving DecidableEq

structure Attempt where
  taskID : String
  tenantID : String
  podName : String
  /-- What its completion or failure call reported, once it was made. -/
  report : Option Report
  deriving DecidableEq

/-- The store, and the attempts in the order they were started.  The row an attempt
inserts has the attempt's place in this list as its id. -/
structure Ledger where
  store : Store
  attempts : List Attempt

def Ledger.fresh : Ledger := ⟨.fresh, []⟩

inductive Call where
  | start (taskID tenantID podName ns : String) (env : Env)
  | finish (attempt : Nat) (ending : Ending) (env : Env)

def reported (ending : Ending) (env : Env) : Report :=
  ⟨ending.outcome.status, ending.outcome.exitCode, env.now⟩

section Calls
variable (bigint : Int64 → Option Int)

/-- An attempt is ended under the names it was started with. -/
def step (ledger : Ledger) : Call → Ledger
  | .start taskID tenantID podName ns env =>
      { store := (recordTaskStart ledger.attempts.length taskID tenantID podName ns env
          ledger.store).2
        attempts := ledger.attempts ++ [⟨taskID, tenantID, podName, none⟩] }
  | .finish attempt ending env =>
      match ledger.attempts[attempt]? with
      | none => ledger
      | some own =>
          { store := (ending.record bigint own.taskID own.podName env ledger.store).2
            attempts := ledger.attempts.set attempt
              { own with report := some (reported ending env) } }

/-- The next attempt of a task starts when the earlier ones were ended, and an attempt
is ended once. -/
def InTurn (entry : Ledger × Call) : Prop :=
  match entry.2 with
  | .start taskID tenantID _ _ _ => ∀ attempt ∈ entry.1.attempts,
      attempt.taskID = taskID → attempt.tenantID = tenantID → attempt.report ≠ none
  | .finish attempt _ _ => ∃ own ∈ entry.1.attempts[attempt]?, own.report = none

def Shows (row : Row) : Option Report → Prop
  | none => row.status = .running ∧ row.exitCode = none ∧ row.completedAt = none
  | some report => row.status = report.status ∧ row.exitCode = some report.exitCode ∧
      row.completedAt = some report.completedAt

def ended (row : Row) : Prop := row.status = .completed ∨ row.status = .failed

/-- After the calls, every row shows what its own attempt reported, and every row that
was ever completed or failed is still as it was then. -/
structure SettledByOwn (calls : List Call) : Prop where
  shows : ∀ row ∈ (after (step bigint) .fresh calls).store.rows,
    ∃ own ∈ (after (step bigint) .fresh calls).attempts[row.id]?, Shows row own.report
  final : ∀ earlier, earlier <+: calls → ∀ row ∈ (after (step bigint) .fresh earlier).store.rows,
    ended row → row ∈ (after (step bigint) .fresh calls).store.rows

/-- The `UPDATE` of a completion or a failure takes effect on the row of its own
attempt, if there is one, and on no other. -/
def WritesOwn (entry : Ledger × Call) : Prop :=
  match entry.2 with
  | .start _ _ _ _ _ => True
  | .finish attempt ending env => ∀ own ∈ entry.1.attempts[attempt]?,
      ∀ row ∈ entry.1.store.rows,
        (ending.takes bigint own.taskID own.podName env entry.1.store = true ∧
          ending.outcome.selects own.taskID own.podName row = true) ↔ row.id = attempt

end Calls

/-! ## One call -/

section Steps
variable {bigint : Int64 → Option Int} {ledger : Ledger}

theorem step_start_rows (taskID tenantID podName ns : String) (env : Env) :
    (step bigint ledger (.start taskID tenantID podName ns env)).store.rows = ledger.store.rows ∨
      (step bigint ledger (.start taskID tenantID podName ns env)).store.rows =
        ledger.store.rows ++
          [startedRow ledger.attempts.length taskID tenantID podName ns env.now] := by
  simp only [step, recordTaskStart_store]
  split
  next => exact .inr rfl
  next => exact .inl rfl

theorem step_finish_rows {attempt : Nat} {own : Attempt}
    (started : ledger.attempts[attempt]? = some own) (ending : Ending) (env : Env) :
    (step bigint ledger (.finish attempt ending env)).store.rows =
      ledger.store.rows.map fun row =>
        if ending.takes bigint own.taskID own.podName env ledger.store = true ∧
            ending.outcome.selects own.taskID own.podName row = true
        then ending.write bigint env row else row := by
  simp only [step, started, record_store, updateIf]
  cases ending.takes bigint own.taskID own.podName env ledger.store with
  | true =>
      simp only [true_and, if_true]
      rfl
  | false => simp

theorem step_finish_attempts {attempt : Nat} {own : Attempt}
    (started : ledger.attempts[attempt]? = some own) (ending : Ending) (env : Env) (id : Nat) :
    (step bigint ledger (.finish attempt ending env)).attempts[id]? =
      if id = attempt then some { own with report := some (reported ending env) }
      else ledger.attempts[id]? := by
  simp only [step, started]
  by_cases here : id = attempt
  · subst here
    have inside := (List.getElem?_eq_some_iff.mp started).1
    rw [if_pos rfl, List.getElem?_set_self inside]
  · rw [if_neg here, List.getElem?_set_ne (Ne.symm here)]

theorem shows_write (ending : Ending) (env : Env) (row : Row) :
    Shows (ending.write bigint env row) (some (reported ending env)) := by
  simp [Shows, reported]

end Steps

/-! ## Every run -/

section Runs
variable {bigint : Int64 → Option Int} {calls : List Call}

theorem SettledByOwn.snoc (settled : SettledByOwn bigint calls) {call : Call}
    (shows : ∀ row ∈ (step bigint (after (step bigint) .fresh calls) call).store.rows,
      ∃ own ∈ (step bigint (after (step bigint) .fresh calls) call).attempts[row.id]?,
        Shows row own.report)
    (kept : ∀ row ∈ (after (step bigint) .fresh calls).store.rows, ended row →
      row ∈ (step bigint (after (step bigint) .fresh calls) call).store.rows) :
    SettledByOwn bigint (calls ++ [call]) := by
  constructor
  · rw [after_snoc]
    exact shows
  · intro earlier within row member isEnded
    rcases List.prefix_concat_iff.mp within with rfl | before
    · exact member
    · rw [after_snoc]
      exact kept row (settled.final earlier before row member isEnded) isEnded

theorem SettledByOwn.start (settled : SettledByOwn bigint calls)
    (taskID tenantID podName ns : String) (env : Env) :
    SettledByOwn bigint (calls ++ [.start taskID tenantID podName ns env]) := by
  have older : ∀ row ∈ (after (step bigint) .fresh calls).store.rows,
      ∃ own ∈ (step bigint (after (step bigint) .fresh calls)
        (.start taskID tenantID podName ns env)).attempts[row.id]?, Shows row own.report := by
    intro row member
    obtain ⟨own, started, shows⟩ := settled.shows row member
    have inside := (List.getElem?_eq_some_iff.mp started).1
    exact ⟨own, (List.getElem?_append_left inside).trans started, shows⟩
  rcases @step_start_rows bigint (after (step bigint) .fresh calls) taskID tenantID podName ns env
    with same | inserted
  · exact settled.snoc (same ▸ older) (fun row member _ => same ▸ member)
  · apply settled.snoc
    · intro row member
      rw [inserted, List.mem_append, List.mem_singleton] at member
      rcases member with before | rfl
      · exact older row before
      · exact ⟨_, List.getElem?_concat_length, rfl, rfl, rfl⟩
    · intro row member _
      rw [inserted]
      exact List.mem_append_left _ member

section Finish
variable {attempt : Nat} {own : Attempt}
  (started : (after (step bigint) .fresh calls).attempts[attempt]? = some own)
  {ending : Ending} {env : Env}
include started

theorem SettledByOwn.finish (settled : SettledByOwn bigint calls) (open_ : own.report = none)
    (writes : WritesOwn bigint (after (step bigint) .fresh calls, .finish attempt ending env)) :
    SettledByOwn bigint (calls ++ [.finish attempt ending env]) := by
  have exactly := writes own started
  apply settled.snoc
  · intro row member
    rw [step_finish_rows started, List.mem_map] at member
    obtain ⟨old, before, rfl⟩ := member
    by_cases mine : old.id = attempt
    · rw [if_pos ((exactly old before).mpr mine), Ending.write_id, step_finish_attempts started,
        if_pos mine]
      exact ⟨_, rfl, shows_write ending env old⟩
    · rw [if_neg (mt (exactly old before).mp mine), step_finish_attempts started, if_neg mine]
      exact settled.shows old before
  · intro row member isEnded
    -- the row of an open attempt is running, so this is another's
    have apart : row.id ≠ attempt := by
      rintro rfl
      obtain ⟨attempt', started', shows⟩ := settled.shows row member
      obtain rfl := Option.some.inj (started.symm.trans started')
      rw [open_] at shows
      rcases isEnded with completed | failed
      · cases shows.1.symm.trans completed
      · cases shows.1.symm.trans failed
    rw [step_finish_rows started, List.mem_map]
    exact ⟨row, member, if_neg (mt (exactly row member).mp apart)⟩

theorem SettledByOwn.writesOwn (before : SettledByOwn bigint calls) (open_ : own.report = none)
    (settled : SettledByOwn bigint (calls ++ [.finish attempt ending env])) :
    WritesOwn bigint (after (step bigint) .fresh calls, .finish attempt ending env) := by
  intro own' started' row member
  obtain rfl := Option.some.inj (started.symm.trans started')
  obtain ⟨attempt', started'', shown⟩ := before.shows row member
  -- the row after the call, against the attempt it belongs to
  have shows := settled.shows
  rw [after_snoc, step_finish_rows started] at shows
  have shows_row := shows _ (List.mem_map_of_mem member)
  constructor
  · intro written
    by_contra apart
    rw [if_pos written, Ending.write_id, step_finish_attempts started, if_neg apart] at shows_row
    obtain ⟨attempt'', same, shown'⟩ := shows_row
    obtain rfl := Option.some.inj (started''.symm.trans same)
    have overwritten := Outcome.status_of_selects written.2
    cases report : attempt'.report with
    | none =>
        rw [report] at shown shown'
        exact absurd shown'.2.1 (by simp)
    | some report' =>
        rw [report] at shown shown'
        exact overwritten (shown.1.trans (shown'.1.symm.trans (Ending.write_status ..)))
  · intro mine
    by_contra spared
    rw [if_neg spared, step_finish_attempts started, if_pos mine] at shows_row
    obtain ⟨attempt'', same, shown'⟩ := shows_row
    obtain rfl := Option.some.inj same
    rw [mine] at started''
    obtain rfl := Option.some.inj (started.symm.trans started'')
    rw [open_] at shown
    exact absurd (shown.2.1.symm.trans shown'.2.1) (by simp)

end Finish

/-- In runs that end each attempt once, before the task's next one, every row is settled
once and by its own attempt exactly when each completion and failure call takes effect
on the row of its own attempt and on no other. -/
theorem settledByOwn_iff (bigint : Int64 → Option Int) (calls : List Call)
    (inTurn : ∀ entry ∈ history (step bigint) .fresh calls, InTurn entry) :
    (∀ earlier, earlier <+: calls → SettledByOwn bigint earlier) ↔
      ∀ entry ∈ history (step bigint) .fresh calls, WritesOwn bigint entry := by
  have start : SettledByOwn bigint [] := by
    constructor
    · intro row member
      cases member
    · intro earlier within row member _
      obtain rfl := List.prefix_nil.mp within
      exact member
  have exact_step : ∀ ops op, SettledByOwn bigint ops →
      InTurn (after (step bigint) .fresh ops, op) →
      (SettledByOwn bigint (ops ++ [op]) ↔
        WritesOwn bigint (after (step bigint) .fresh ops, op)) := by
    intro ops op settled inTurn
    cases op with
    | start taskID tenantID podName ns env =>
        exact ⟨fun _ => trivial, fun _ => settled.start taskID tenantID podName ns env⟩
    | finish attempt ending env =>
        obtain ⟨own, started, open_⟩ := inTurn
        exact ⟨settled.writesOwn started open_, settled.finish started open_⟩
  exact forall_prefix_iff_history start start exact_step
    (fun ops op settled inTurn => (exact_step ops op settled inTurn).mpr) calls inTurn

end Runs

instance : DecidablePred ended := fun _ => inferInstanceAs (Decidable (_ ∨ _))

instance : DecidablePred InTurn
  | (_, .start _ _ _ _ _) => inferInstanceAs (Decidable (∀ _ ∈ _, _ → _ → _))
  | (_, .finish _ _ _) => inferInstanceAs (Decidable (∃ _ ∈ _, _))

instance (bigint : Int64 → Option Int) : DecidablePred (WritesOwn bigint)
  | (_, .start _ _ _ _ _) => inferInstanceAs (Decidable True)
  | (_, .finish _ _ _) => inferInstanceAs (Decidable (∀ _ ∈ _, ∀ _ ∈ _, _))

/-- A first attempt that fails, and a second one in a pod of the same name. -/
def retried (last : Ending) : List Call :=
  [.start "t" "a" "t-pod" "cloudos-a" (.healthy 0),
    .finish 0 (.failure "Error" "exit status 1" 1 5000000000 0 3) (.healthy 5),
    .start "t" "a" "t-pod" "cloudos-a" (.healthy 6),
    .finish 1 last (.healthy 11)]

/-- Two failures: the second call leaves the row of the first attempt alone. -/
theorem failed_twice_settled :
    (∀ entry ∈ history (step wholeSeconds) .fresh
        (retried (.failure "Error" "exit status 2" 2 5000000000 1 3)), InTurn entry) ∧
      ∀ earlier, earlier <+: retried (.failure "Error" "exit status 2" 2 5000000000 1 3) →
        SettledByOwn wholeSeconds earlier :=
  ⟨by decide +kernel,
    (settledByOwn_iff wholeSeconds _ (by decide +kernel)).mpr (by decide +kernel)⟩

/-- A failure and then a success: the second call rewrites both rows. -/
theorem success_rewrites_failure :
    (∀ entry ∈ history (step wholeSeconds) .fresh (retried (.completion 0 5000000000)),
        InTurn entry) ∧
      ((after (step wholeSeconds) .fresh ((retried (.completion 0 5000000000)).take 2)).store.rows.map
        fun row => (row.id, row.status, row.exitCode, row.completedAt)) =
          [(0, .failed, some 1, some 5)] ∧
      ((after (step wholeSeconds) .fresh (retried (.completion 0 5000000000))).store.rows.map
        fun row => (row.id, row.status, row.exitCode, row.completedAt)) =
          [(0, .completed, some 0, some 11), (1, .completed, some 0, some 11)] ∧
      ¬ ∀ earlier, earlier <+: retried (.completion 0 5000000000) →
        SettledByOwn wholeSeconds earlier := by
  refine ⟨by decide +kernel, by decide +kernel, by decide +kernel, ?_⟩
  intro settled
  have final := (settled _ (List.prefix_refl _)).final _ (List.take_prefix 2 _)
  have rewritten : ∃ row ∈ (after (step wholeSeconds) .fresh
        ((retried (.completion 0 5000000000)).take 2)).store.rows,
      ended row ∧
        row ∉ (after (step wholeSeconds) .fresh
          (retried (.completion 0 5000000000))).store.rows := by decide +kernel
  obtain ⟨row, member, isEnded, gone⟩ := rewritten
  exact gone (final row member isEnded)

end CloudOS.Storage.AttemptRows
