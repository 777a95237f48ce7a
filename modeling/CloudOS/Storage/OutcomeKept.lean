import CloudOS.Lib.Binary64
import CloudOS.Storage.TenantRows

/-!
# The outcome of a running attempt

The `UPDATE` of a completion or a failure sends `duration.Seconds()` for the column
`duration_seconds`.  The value is a `float64`, and the driver sends its shortest decimal
text, which PostgreSQL takes for a `BIGINT` when it has no fractional part.  So the
outcome of an attempt that lasted 1.5 s is refused, and the attempt stays `running`.
-/

set_option autoImplicit false

namespace CloudOS.Storage.OutcomeKept

open CloudOS.Lib.Binary64
open CloudOS.Lib.History
open CloudOS.Lib.Tables
open CloudOS.Storage.TaskHistory
open CloudOS.Storage.TenantRows

/-! ## The seconds of a duration -/

/-- `Duration.Seconds`. -/
def seconds (duration : Int64) : ℚ := seconds64 duration.toInt

/-- The text of the seconds as a `BIGINT`. -/
def bigint (duration : Int64) : Option Int :=
  if (seconds duration).den = 1 then some (seconds duration).num else none

/-- Within half a unit in the last place of a whole number of seconds.  The unit is
2 ^ (log2 s - 52) when there are s whole seconds. -/
def NearWhole (duration : Int64) : Prop :=
  let nanoseconds := duration.toInt.toNat
  let rest := nanoseconds % 1000000000
  min rest (1000000000 - rest) * 2 ^ 53 ≤
    1000000000 * 2 ^ Nat.log 2 (nanoseconds / 1000000000)

instance (duration : Int64) : Decidable (NearWhole duration) :=
  inferInstanceAs (Decidable (_ ≤ _))

/-- What the division by 10 ^ 9 is off by cannot be seen: no multiple of 2 ^ 20 is that near
10 ^ 9. -/
theorem le_unit_iff {count scale : Nat} (positive : 0 < scale) {x : ℚ}
    (close : |x - count / 1000000000| ≤ (count : ℚ) / 2 ^ 53) :
    x ≤ 1 / (1048576 * scale) ↔ count * (1048576 * scale) ≤ 1000000000 := by
  obtain ⟨lower, upper⟩ := abs_le.mp close
  have unit : (0 : ℚ) < 1048576 * scale := by positivity
  have product : (count * (1048576 * scale) : Nat) = 1048576 * (count * scale) := by ring
  rw [le_div_iff₀ unit]
  constructor
  · intro small
    by_contra large
    have beyond : 954 ≤ count * scale := by omega
    have beyond' : (954 : ℚ) ≤ count * scale := by exact_mod_cast beyond
    have scaled := mul_le_mul_of_nonneg_right lower unit.le
    linarith
  · intro small
    have within : count * scale ≤ 953 := by omega
    have within' : (count * scale : ℚ) ≤ 953 := by exact_mod_cast within
    have scaled := mul_le_mul_of_nonneg_right upper unit.le
    linarith

section Parts
variable {whole rest : Nat}

def fraction (rest : Nat) : ℚ := round64 (rest / 1000000000)

theorem fraction_close (rest : Nat) :
    |fraction rest - rest / 1000000000| ≤ (rest : ℚ) / 1000000000 / 2 ^ 53 :=
  round64_near (by positivity)

theorem fraction_bounds (below : rest < 1000000000) : 0 ≤ fraction rest ∧ fraction rest < 1 := by
  obtain ⟨lower, upper⟩ := abs_le.mp (fraction_close rest)
  have nonneg : (0 : ℚ) ≤ rest := by positivity
  have small : (rest : ℚ) ≤ 999999999 := by exact_mod_cast Nat.le_pred_of_lt below
  constructor <;> linarith

theorem round64_fraction (below : rest < 1000000000) (positive : 0 < rest) :
    0 < round64 (fraction rest) ∧ round64 (fraction rest) < 1 := by
  obtain ⟨lower, upper⟩ := abs_le.mp (fraction_close rest)
  obtain ⟨nonneg, less⟩ := fraction_bounds below
  obtain ⟨lower', upper'⟩ := abs_le.mp (round64_near nonneg)
  have some_ : (1 : ℚ) ≤ rest := by exact_mod_cast positive
  have small : (rest : ℚ) ≤ 999999999 := by exact_mod_cast Nat.le_pred_of_lt below
  constructor <;> linarith

def Within (whole count : Nat) : Prop := count * 2 ^ 53 ≤ 1000000000 * 2 ^ Nat.log 2 whole

theorem log_whole_lt (bound : whole < 2 ^ 34) : Nat.log 2 whole < 34 := by
  rcases whole.eq_zero_or_pos with rfl | positive
  · norm_num
  · exact Nat.log_lt_of_lt_pow positive.ne' bound

theorem within_iff {count : Nat} (bound : whole < 2 ^ 34) {x : ℚ}
    (close : |x - count / 1000000000| ≤ (count : ℚ) / 2 ^ 53) :
    x ≤ 1 / 2 ^ (52 - Nat.log 2 whole + 1) ↔ Within whole count := by
  have log_le : Nat.log 2 whole ≤ 33 := Nat.le_of_lt_succ (log_whole_lt bound)
  have unit : (2 : ℚ) ^ (52 - Nat.log 2 whole + 1) = 1048576 * (2 ^ (33 - Nat.log 2 whole) : Nat) := by
    rw [show 52 - Nat.log 2 whole + 1 = 20 + (33 - Nat.log 2 whole) by omega, pow_add]
    push_cast
    norm_num
  have scale : 2 ^ 53 = 1048576 * 2 ^ (33 - Nat.log 2 whole) * 2 ^ Nat.log 2 whole := by
    rw [mul_assoc, ← pow_add, Nat.sub_add_cancel log_le]
    norm_num
  have positive : 0 < 2 ^ (33 - Nat.log 2 whole) := Nat.two_pow_pos _
  rw [unit, le_unit_iff positive close, Within, scale,
    ← mul_assoc count (1048576 * 2 ^ (33 - Nat.log 2 whole))]
  exact (Nat.mul_le_mul_right_iff (Nat.two_pow_pos _)).symm

theorem sum_cases (below : rest < 1000000000) (bound : whole < 2 ^ 34) :
    (Within whole rest ∧ round64 (whole + fraction rest) = whole) ∨
      (Within whole (1000000000 - rest) ∧ round64 (whole + fraction rest) = whole + 1) ∨
      (¬ Within whole rest ∧ ¬ Within whole (1000000000 - rest) ∧
        whole < round64 (whole + fraction rest) ∧ round64 (whole + fraction rest) < whole + 1) := by
  obtain ⟨nonneg, less⟩ := fraction_bounds below
  cases whole with
  | zero =>
      rcases rest.eq_zero_or_pos with rfl | positive
      · refine .inl ⟨by simp [Within], ?_⟩
        simp [fraction, round64_zero]
      · have strict := round64_fraction below positive
        refine .inr (.inr ⟨?_, ?_, ?_⟩)
        · simp only [Within, Nat.log_zero_right]
          omega
        · simp only [Within, Nat.log_zero_right]
          omega
        · simpa using strict
  | succ before =>
      have close := abs_le.mp (fraction_close rest)
      have small : (rest : ℚ) ≤ 1000000000 := by exact_mod_cast below.le
      have left : |fraction rest - rest / 1000000000| ≤ (rest : ℚ) / 2 ^ 53 := by
        rw [abs_le]
        constructor <;> linarith
      have right : |(1 - fraction rest) - (1000000000 - rest : Nat) / 1000000000| ≤
          ((1000000000 - rest : Nat) : ℚ) / 2 ^ 53 := by
        have some_ : (1 : ℚ) ≤ 1000000000 - rest := by
          have : (rest : ℚ) + 1 ≤ 1000000000 := by exact_mod_cast below
          linarith
        rw [Nat.cast_sub below.le, abs_le]
        push_cast
        constructor <;> linarith
      rw [round64_whole_add (by omega) (by omega) nonneg less]
      have log_lt := log_whole_lt bound
      have cases_ := @roundAt_fraction_cases (52 - Nat.log 2 (before + 1)) (by omega) (fraction rest)
        nonneg less.le
      rw [within_iff bound left, within_iff bound right] at cases_
      rcases cases_ with ⟨near, zero⟩ | ⟨near, one⟩ | ⟨far, far', positive, less_one⟩
      · exact .inl ⟨near, by rw [zero, add_zero]⟩
      · exact .inr (.inl ⟨near, by rw [one]⟩)
      · exact .inr (.inr ⟨far, far', by linarith, by linarith⟩)

end Parts

theorem duration_parts {duration : Int64} (nonneg : 0 ≤ duration.toInt) :
    ∃ whole rest : Nat, whole < 2 ^ 34 ∧ rest < 1000000000 ∧
      (duration.toInt : ℚ) = 1000000000 * whole + rest ∧
      (NearWhole duration ↔ Within whole rest ∨ Within whole (1000000000 - rest)) ∧
      seconds duration = round64 (whole + fraction rest) := by
  have bound := duration.toInt_lt
  obtain ⟨nanoseconds, equal⟩ := Int.eq_ofNat_of_zero_le nonneg
  have quotient : (nanoseconds : Int).tdiv 1000000000 = (nanoseconds / 1000000000 : Nat) :=
    (Int.ofNat_tdiv nanoseconds 1000000000).symm
  have remainder : (nanoseconds : Int).tmod 1000000000 = (nanoseconds % 1000000000 : Nat) :=
    (Int.ofNat_tmod nanoseconds 1000000000).symm
  refine ⟨nanoseconds / 1000000000, nanoseconds % 1000000000, by omega, by omega, ?_, ?_, ?_⟩
  · rw [equal, Int.cast_natCast]
    exact_mod_cast (Nat.div_add_mod nanoseconds 1000000000).symm
  · simp only [NearWhole, Within, equal, Int.toNat_natCast]
    rw [min_mul_of_nonneg _ _ (by positivity), min_le_iff]
  · unfold seconds seconds64 fraction
    rw [equal, quotient, remainder, Int.cast_natCast, Int.cast_natCast]

theorem bigint_of_seconds {duration : Int64} {value : Int} (equal : seconds duration = value) :
    bigint duration = some value := by
  unfold bigint
  rw [equal, if_pos (Rat.den_intCast value), Rat.num_intCast]

theorem bigint_of_nearWhole {duration : Int64} (nonneg : 0 ≤ duration.toInt)
    (near : NearWhole duration) :
    ∃ value, bigint duration = some value ∧ 0 ≤ value ∧
      |(value : ℚ) - duration.toInt / 1000000000| ≤ 1 := by
  obtain ⟨whole, rest, bound, below, parts, near_iff, sum⟩ := duration_parts nonneg
  have rest_nonneg : (0 : ℚ) ≤ rest := by positivity
  have rest_le : (rest : ℚ) ≤ 1000000000 := by exact_mod_cast below.le
  rcases sum_cases below bound with ⟨-, equal⟩ | ⟨-, equal⟩ | ⟨far, far', -⟩
  · refine ⟨whole, bigint_of_seconds ?_, by positivity, ?_⟩
    · rw [sum, equal, Int.cast_natCast]
    · rw [parts, Int.cast_natCast, abs_le]
      constructor <;> linarith
  · refine ⟨whole + 1, bigint_of_seconds ?_, by positivity, ?_⟩
    · rw [sum, equal, Int.cast_add, Int.cast_natCast, Int.cast_one]
    · rw [parts, Int.cast_add, Int.cast_natCast, Int.cast_one, abs_le]
      constructor <;> linarith
  · exact absurd (near_iff.mp near) (not_or.mpr ⟨far, far'⟩)

theorem den_ne_one {x : ℚ} {n : Nat} (lower : n < x) (upper : x < n + 1) : x.den ≠ 1 := by
  intro whole
  rw [← (Rat.den_eq_one_iff x).mp whole] at lower upper
  have lower' : (n : Int) < x.num := by exact_mod_cast lower
  have upper' : x.num < n + 1 := by exact_mod_cast upper
  omega

theorem bigint_of_not_nearWhole {duration : Int64} (nonneg : 0 ≤ duration.toInt)
    (far : ¬ NearWhole duration) : bigint duration = none := by
  obtain ⟨whole, rest, bound, below, -, near_iff, sum⟩ := duration_parts nonneg
  rw [near_iff, not_or] at far
  rcases sum_cases below bound with ⟨near, -⟩ | ⟨near, -⟩ | ⟨-, -, lower, upper⟩
  · exact absurd near far.1
  · exact absurd near far.2
  · rw [← sum] at lower upper
    exact if_neg (den_ne_one lower upper)

example : bigint 1500000000 = none ∧ bigint 16777216000000001 = some 16777216 := by
  decide +kernel

/-! ## The row of a running attempt -/

def texts (taskID podName : String) (ending : Ending) : List String :=
  [podName, taskID] ++ ending.outcome.details.toList.flatMap fun details =>
    [details.reason, details.message]

/-- The database is there, and what it refuses on its own account is a text it cannot store. -/
structure Serves (env : Env) (sent : List String) : Prop where
  rowsAffected : env.rowsAffectedError = none
  takes : sent.all storable = true → env.fault = none
  refuses : sent.all storable = false → ∃ error, env.fault = some ⟨error, false⟩

structure InRange (outcome : Outcome) : Prop where
  exitCode : 0 ≤ outcome.exitCode ∧ outcome.exitCode ≤ 255
  duration : 0 ≤ outcome.duration.toInt
  reason : ∀ details ∈ outcome.details, details.reason.length ≤ 100
  retries : ∀ details ∈ outcome.details,
    0 ≤ details.retryAttempt.toInt ∧ 0 ≤ details.maxRetries.toInt

/-- The call succeeds and leaves the row with its status and, to a second, its duration. -/
def Kept (index : Nat) (taskID podName : String) (ending : Ending) (env : Env) (store : Store) :
    Prop :=
  (ending.record bigint taskID podName env store).1 = none ∧
    ∃ row, (ending.record bigint taskID podName env store).2.rows[index]? = some row ∧
      row.status = ending.outcome.status ∧
      ∃ value, row.durationSeconds = some value ∧
        |(value : ℚ) - ending.outcome.duration.toInt / 1000000000| ≤ 1

/-- What the call needs: a duration that is sent as a whole number, retry numbers that fit an
`INTEGER`, names that the columns hold in full, texts that can be stored, and a clock that is
not behind the start of any row it selects. -/
structure Recordable (taskID podName : String) (ending : Ending) (now : Nat) (rows : List Row) :
    Prop where
  duration : NearWhole ending.outcome.duration
  retries : ending.outcome.parametersFit = true
  names : taskID.length ≤ 255 ∧ podName.length ≤ 255
  storable : (texts taskID podName ending).all storable = true
  clock : ∀ row ∈ rows, ending.outcome.selects taskID podName row = true →
    ∀ started ∈ row.startedAt, started ≤ now

/-- An open store of valid rows, as every run leaves it. -/
structure Sound (store : Store) : Prop where
  isOpen : store.closed = false
  valid : ∀ row ∈ store.rows, row.valid = true

theorem valid_set_iff {ending : Ending} (inRange : InRange ending.outcome) {value : Int}
    (nonneg : 0 ≤ value) {now : Nat} {row : Row} (valid : row.valid = true) :
    (ending.outcome.set value now row).valid = true ↔ ∀ started ∈ row.startedAt, started ≤ now := by
  obtain ⟨⟨exitCode_nonneg, exitCode_le⟩, -, reason, retries⟩ := inRange
  have exitCode_ge : -1 ≤ ending.outcome.exitCode := Int32.le_trans (by decide) exitCode_nonneg
  have times : (∀ started ∈ row.startedAt, started ≤ now) ↔ row.startedAt.all (· ≤ now) = true := by
    cases row.startedAt <;> simp
  rw [times]
  cases ending with
  | completion exitCode duration =>
      simp_all [Row.valid, Outcome.set, Ending.outcome]
  | failure text message exitCode duration retryAttempt maxRetries =>
      have kept : varchar 100 text = text := if_pos (reason _ rfl)
      simp_all [Row.valid, Outcome.set, Ending.outcome]

theorem sound_step {store : Store} (call : Call) (sound : Sound store) :
    Sound (step bigint store call) := by
  obtain ⟨tenantID, request, env⟩ := call
  cases request with
  | start id taskID podName ns =>
      simp only [step]
      rw [recordTaskStart_store]
      split
      next takes =>
          simp only [startTakes, Bool.and_eq_true] at takes
          refine ⟨sound.isOpen, fun row member => ?_⟩
          rcases List.mem_append.mp member with old | new
          · exact sound.valid row old
          · rw [List.mem_singleton.mp new]
            exact takes.2
      next => exact sound
  | finish taskID podName ending =>
      simp only [step]
      rw [record_store]
      refine ⟨sound.isOpen, fun row member => ?_⟩
      simp only [updateIf] at member
      split at member
      next takes =>
          simp only [Ending.takes, Bool.and_eq_true, Option.isSome_iff_exists] at takes
          obtain ⟨-, result, updated⟩ := takes
          obtain ⟨value, sent, -, written, -⟩ := (Outcome.update_eq_some_iff bigint).mp updated
          obtain ⟨old, old_member, rfl⟩ := List.mem_map.mp member
          rw [updateRow, Ending.write, sent, Option.getD_some]
          split
          next selected => exact updatable_iff.mp written old old_member selected
          next => exact sound.valid old old_member
      next => exact sound.valid row member

theorem sound_after (calls : List Call) : Sound (after (step bigint) .fresh calls) := by
  have kept : ∀ store call, Sound store → Sound (step bigint store call) :=
    fun store call => sound_step call
  exact after_invariant kept ⟨rfl, by simp [Store.fresh]⟩ calls

section Attempt
variable {id : Nat} {taskID tenantID podName ns : String} {startedAt : Nat} {ending : Ending}

theorem valid_names {row : Row} (valid : row.valid = true) :
    row.taskID.length ≤ 255 ∧ row.podName.length ≤ 255 := by
  simp only [Row.valid, Bool.and_eq_true, decide_eq_true_eq] at valid
  exact ⟨valid.1.1.1.1.1.1.1.1, valid.1.1.1.1.1.1.2⟩

theorem varchar_eq_self_iff {limit : Nat} {text : String} (stored : (varchar limit text).length ≤ limit) :
    varchar limit text = text ↔ text.length ≤ limit := by
  constructor
  · intro kept
    rwa [kept] at stored
  · intro short
    exact if_pos short

theorem selects_startedRow_iff
    (valid : (startedRow id taskID tenantID podName ns startedAt).valid = true) :
    ending.outcome.selects taskID podName
        (startedRow id taskID tenantID podName ns startedAt) = true ↔
      taskID.length ≤ 255 ∧ podName.length ≤ 255 := by
  have running : TaskStatus.running ≠ ending.outcome.status := by
    cases ending <;> exact fun same => by cases same
  have names := valid_names valid
  rw [← varchar_eq_self_iff names.1, ← varchar_eq_self_iff names.2]
  simp only [Outcome.selects, startedRow, Bool.and_eq_true, beq_iff_eq, bne_iff_ne]
  rw [and_iff_left running, and_comm]

variable {store : Store} {index : Nat} {env : Env}

theorem Kept.recordable (sound : Sound store)
    (running : store.rows[index]? = some (startedRow id taskID tenantID podName ns startedAt))
    (inRange : InRange ending.outcome) (serves : Serves env (texts taskID podName ending))
    (kept : Kept index taskID podName ending env store) :
    Recordable taskID podName ending env.now store.rows := by
  obtain ⟨succeeds, row, found, status, -⟩ := kept
  rw [record_ok_iff bigint ending taskID podName serves.rowsAffected sound.isOpen] at succeeds
  obtain ⟨noFault, result, updated, -⟩ := succeeds
  obtain ⟨value, sent, fit, written, -⟩ := (Outcome.update_eq_some_iff bigint).mp updated
  have duration : NearWhole ending.outcome.duration := by
    by_contra far
    rw [bigint_of_not_nearWhole inRange.duration far] at sent
    cases sent
  have nonneg : 0 ≤ value := by
    obtain ⟨value', sent', nonneg, -⟩ := bigint_of_nearWhole inRange.duration duration
    rw [sent] at sent'
    rwa [Option.some.inj sent']
  have storable : (texts taskID podName ending).all storable = true := by
    by_contra bad
    obtain ⟨error, fault⟩ := serves.refuses (Bool.eq_false_iff.mpr bad)
    rw [noFault] at fault
    cases fault
  have valid := sound.valid _ (List.mem_of_getElem? running)
  refine ⟨duration, fit, ?_, storable, ?_⟩
  · -- The row has the status of the ending, so it was selected.
    rw [← @selects_startedRow_iff id taskID tenantID podName ns startedAt ending valid]
    by_contra spared
    have same : row = startedRow id taskID tenantID podName ns startedAt := by
      rw [record_store] at found
      simp only [updateIf] at found
      split at found
      · rw [List.getElem?_map, running, Option.map_some,
          updateRow_of_not_selected (Bool.eq_false_iff.mpr spared)] at found
        exact (Option.some.inj found).symm
      · rw [running] at found
        exact (Option.some.inj found).symm
    rw [same] at status
    cases ending <;> cases status
  · intro other member selected
    have allowed := updatable_iff.mp written other member selected
    exact (valid_set_iff inRange nonneg (sound.valid other member)).mp allowed

theorem Recordable.kept (sound : Sound store)
    (running : store.rows[index]? = some (startedRow id taskID tenantID podName ns startedAt))
    (inRange : InRange ending.outcome) (serves : Serves env (texts taskID podName ending))
    (recordable : Recordable taskID podName ending env.now store.rows) :
    Kept index taskID podName ending env store := by
  obtain ⟨value, sent, nonneg, near⟩ := bigint_of_nearWhole inRange.duration recordable.duration
  have member := List.mem_of_getElem? running
  have selected := (@selects_startedRow_iff id taskID tenantID podName ns startedAt ending
    (sound.valid _ member)).mpr recordable.names
  have noFault := serves.takes recordable.storable
  have written : updatable (ending.outcome.selects taskID podName)
      (ending.outcome.set value env.now) Row.valid store.rows = true := by
    rw [updatable_iff]
    intro row member selected
    exact (valid_set_iff inRange nonneg (sound.valid row member)).mpr
      (recordable.clock row member selected)
  have updated := (Outcome.update_eq_some_iff bigint).mpr
    ⟨value, sent, recordable.retries, written, rfl⟩
  refine ⟨?_, ending.write bigint env (startedRow id taskID tenantID podName ns startedAt), ?_,
    Ending.write_status bigint ending env _, value, ?_, near⟩
  · rw [record_ok_iff bigint ending taskID podName serves.rowsAffected sound.isOpen]
    exact ⟨noFault, _, updated, (List.countP_pos_iff.mpr ⟨_, member, selected⟩).ne'⟩
  · have takes : ending.takes bigint taskID podName env store = true := by
      simp [Ending.takes, sound.isOpen, Env.applies, noFault, updated]
    rw [record_store, takes]
    simp only [updateIf, if_true]
    rw [List.getElem?_map, running, Option.map_some, updateRow_of_selected selected]
  · rw [Ending.write, sent]
    cases ending <;> rfl

/-- In a run of starts and endings by any tenants, the ending of an attempt that still runs is
kept if and only if its duration is sent as a whole number and the rest can be stored. -/
theorem outcome_kept_iff {calls : List Call}
    (running : (after (step bigint) .fresh calls).rows[index]? =
      some (startedRow id taskID tenantID podName ns startedAt))
    (inRange : InRange ending.outcome) (serves : Serves env (texts taskID podName ending)) :
    Kept index taskID podName ending env (after (step bigint) .fresh calls) ↔
      Recordable taskID podName ending env.now (after (step bigint) .fresh calls).rows := by
  have sound := sound_after calls
  constructor
  · intro kept
    exact kept.recordable sound running inRange serves
  · intro recordable
    exact recordable.kept sound running inRange serves

end Attempt

/-! ## One attempt -/

def started : Store :=
  after (step bigint) .fresh [⟨"acme", .start 1 "job" "job-1" "default", .healthy 10⟩]

theorem completion_inRange {duration : Int64} (nonneg : 0 ≤ duration.toInt) :
    InRange (Ending.completion 0 duration).outcome where
  exitCode := show (0 : Int32) ≤ 0 ∧ (0 : Int32) ≤ 255 by decide
  duration := nonneg
  reason := fun details member => by cases member
  retries := fun details member => by cases member

theorem completion_served (now : Nat) (duration : Int64) :
    Serves (.healthy now) (texts "job" "job-1" (.completion 0 duration)) where
  rowsAffected := rfl
  takes := fun _ => rfl
  refuses := fun bad => by cases bad

theorem whole_seconds_kept :
    Kept 0 "job" "job-1" (.completion 0 3000000000) (.healthy 13) started := by
  have running : started.rows[0]? = some (startedRow 1 "job" "acme" "job-1" "default" 10) := by
    decide +kernel
  have recordable : Recordable "job" "job-1" (.completion 0 3000000000) 13 started.rows := by
    refine ⟨by decide, rfl, by decide, by decide, ?_⟩
    intro row member _ start same
    have only : started.rows = [startedRow 1 "job" "acme" "job-1" "default" 10] := by
      decide +kernel
    rw [only, List.mem_singleton] at member
    subst member
    cases same
    decide
  exact (outcome_kept_iff running (completion_inRange (by decide)) (completion_served 13 _)).mpr
    recordable

theorem half_seconds_refused :
    started.rows[0]? = some (startedRow 1 "job" "acme" "job-1" "default" 10) ∧
      InRange (Ending.completion 0 1500000000).outcome ∧
      Serves (.healthy 12) (texts "job" "job-1" (.completion 0 1500000000)) ∧
      ¬ Kept 0 "job" "job-1" (.completion 0 1500000000) (.healthy 12) started ∧
      recordTaskCompletion bigint "job" "job-1" 0 1500000000 (.healthy 12) started =
        (some "failed to record task completion: ", started) := by
  have refused : recordTaskCompletion bigint "job" "job-1" 0 1500000000 (.healthy 12) started =
      (some "failed to record task completion: ", started) := by decide +kernel
  refine ⟨by decide +kernel, completion_inRange (by decide), completion_served 12 _, ?_, refused⟩
  rintro ⟨succeeds, -⟩
  rw [Ending.record, refused] at succeeds
  cases succeeds

end CloudOS.Storage.OutcomeKept
