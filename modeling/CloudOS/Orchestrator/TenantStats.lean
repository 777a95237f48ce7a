import CloudOS.Orchestrator.SlidingWindow
import CloudOS.Orchestrator.TenantIsolation

/-!
# What the limiter says about a tenant

`GetTenantStats` of `module2-orchestrator/pkg/auth/ratelimiter.go`, next to the
calls of `Allow` and `ResetTenantLimit` that write what it reads.  A counter of
a window that is not over holds exactly the calls made in it since the last
reset, and is missing when there were none.  A pipeline returns the error of
its first command that has one, and the `GET` of a missing key is an error.
-/

set_option autoImplicit false

namespace CloudOS.Orchestrator.TenantStats

open CloudOS.Lib.ExpiringCounters
open CloudOS.Lib.Glob
open CloudOS.Lib.History
open CloudOS.Orchestrator.RateLimiting
open CloudOS.Orchestrator.SlidingWindow (Lasting live_keyAt live_windowKey end_after noKeys
  lasting_after)
open CloudOS.Orchestrator.TenantIsolation

/-- `redis.Nil`, the error of a command that finds nothing. -/
def redisNil : LimiterError := .redis "redis: nil"

/-- A connection may fail before anything is read. -/
structure StatsEnv where
  now : Nat
  failure : Option String

def get (now : Nat) (redis : Counters String) (key : String) : Except LimiterError Nat :=
  match live now redis key with
  | some counter => .ok counter.count
  | none => .error redisNil

/-- The value of a command, where `redis.Nil` stands for zero. -/
def valueOrNil : Except LimiterError Nat → Except LimiterError Nat
  | .ok value => .ok value
  | .error err => if err ≠ redisNil then .error err else .ok 0

def getTenantStats (tenantID : String) (env : StatsEnv) (redis : Counters String) :
    Except LimiterError (Nat × Nat) :=
  match env.failure with
  | some text => .error (.redis text)
  | none => do
      let minuteCmd := get env.now redis (keyAt .minute tenantID env.now)
      let hourCmd := get env.now redis (keyAt .hour tenantID env.now)
      -- `Exec` returns the first error of its commands
      let _ ← minuteCmd
      let _ ← hourCmd
      let minuteVal ← valueOrNil minuteCmd
      let hourVal ← valueOrNil hourCmd
      return (minuteVal, hourVal)

def isReset (tenantID : String) : Call → Bool
  | .allow _ _ => false
  | .resetTenantLimit caller _ => decide (caller = tenantID)

def isAllowIn (tenantID : String) (scope : Scope) (n : Nat) : Call → Bool
  | .allow caller env => decide (caller = tenantID ∧ env.now / scope.width = n)
  | .resetTenantLimit _ _ => false

/-- How many calls of `Allow` were made for the tenant in the window since its
last reset. -/
def callsSince (tenantID : String) (scope : Scope) (n : Nat) (calls : List Call) : Nat :=
  countSince (fun entry => isReset tenantID entry.2) (fun entry => isAllowIn tenantID scope n entry.2)
    (calls.map (Prod.mk ()))

def timeOf : Call → Nat
  | .allow _ env => env.now
  | .resetTenantLimit _ env => env.now

def Served : Call → Prop
  | .allow _ env => env.failure = none
  | .resetTenantLimit _ env => env.failure = none

/-! ## What a call does to a counter -/

def held (redis : Counters String) (key : String) : Option Nat := (redis key).map Counter.count

/-- Nothing is held for nothing. -/
def positive (n : Nat) : Option Nat := if n = 0 then none else some n

section Calls
variable {rl : RateLimiter} {redis : Counters String} {tenantID : String}

theorem pipeline_keyAt (tenantID : String) (now : Nat) (redis : Counters String) (scope : Scope) :
    (pipeline now (commands tenantID now) redis).2 (keyAt scope tenantID now) =
      some ⟨count now redis (keyAt scope tenantID now) + 1, some (now + 2 * scope.width)⟩ := by
  have minuteFirst := minute_ne_hour tenantID now
  have own : (commands tenantID now).filter
      (fun command => command.key = keyAt scope tenantID now) =
        [.incr (keyAt scope tenantID now),
          .expire (keyAt scope tenantID now) (2 * scope.width)] := by
    cases scope with
    | minute => simp [commands, Command.key, minuteFirst.symm]
    | hour => simp [commands, Command.key, minuteFirst]
  rw [pipeline_filter now (commands tenantID now) rfl, own]
  exact exec_expire_apply (live_exec_incr now redis (keyAt scope tenantID now)) _

theorem allow_held {env : AllowEnv} (lasting : Lasting redis) (nonEmpty : tenantID ≠ "")
    (served : env.failure = none) (scope : Scope) (n : Nat) :
    held (allow rl tenantID env redis).2 (windowKey scope tenantID n) =
      if env.now / scope.width = n then some (stored redis (windowKey scope tenantID n) + 1)
      else held redis (windowKey scope tenantID n) := by
  have store : (allow rl tenantID env redis).2 =
      (pipeline env.now (commands tenantID env.now) redis).2 := by
    simp only [allow, if_neg nonEmpty, served]
    split_ifs <;> rfl
  rw [store]
  unfold held
  split_ifs with here
  · have counted := count_eq_stored (live_keyAt lasting scope tenantID env.now)
    have atKey := pipeline_keyAt tenantID env.now redis scope
    rw [counted, keyAt_eq, here] at atKey
    rw [atKey]
    rfl
  · have elsewhere : ∀ command ∈ commands tenantID env.now,
        command.key ≠ windowKey scope tenantID n := by
      intro command member same
      obtain ⟨scope', isKey⟩ := commands_keyAt member
      rw [isKey, keyAt_eq] at same
      obtain ⟨rfl, _, number⟩ := windowKey_inj same
      exact here number
    rw [pipeline_frame env.now elsewhere]

theorem resetPattern_matches_own (plain : PlainId tenantID) (scope : Scope) (n : Nat) :
    globMatches (resetPattern tenantID) (windowKey scope tenantID n) = true := by
  unfold globMatches
  rw [resetPattern_tokens plain, globMatch_literals]
  refine ⟨_, windowKey_toList scope tenantID n, ?_⟩
  rw [globMatch_star]
  refine ⟨scope.text.toList, _, rfl, ?_⟩
  rw [globMatch_literals]
  refine ⟨(toString n).toList, by simp, ?_⟩
  rw [globMatch_star]
  exact ⟨_, [], (List.append_nil _).symm, rfl⟩

theorem reset_held {env : ResetEnv} (lasting : Lasting redis) (plain : PlainId tenantID)
    (served : env.failure = none) (scope : Scope) {n : Nat}
    (notOver : env.now < (n + 1) * scope.width) :
    held (resetTenantLimit tenantID env redis).2 (windowKey scope tenantID n) = none := by
  have matched := resetPattern_matches_own plain scope n
  have store : (resetTenantLimit tenantID env redis).2 =
      delete env.now (globMatches (resetPattern tenantID)) redis := by
    simp only [resetTenantLimit, served]
  rw [store]
  unfold held delete
  cases present : redis (windowKey scope tenantID n) with
  | none => simp [live, present]
  | some counter =>
      have alive : (live env.now redis (windowKey scope tenantID n)).isSome = true := by
        rw [live_windowKey lasting notOver, present, Option.isSome_some]
      simp [matched, alive]

theorem lasting_delete (lasting : Lasting redis) (now : Nat) (selected : String → Bool) :
    Lasting (delete now selected redis) := by
  intro scope tenantID n counter deadline found isDeadline
  unfold delete at found
  split_ifs at found
  exact lasting scope tenantID n counter deadline found isDeadline

theorem step_lasting (rl : RateLimiter) (redis : Counters String) (call : Call)
    (lasting : Lasting redis) : Lasting (step rl redis call) := by
  cases call with
  | allow caller env => exact SlidingWindow.step_lasting rl redis ⟨caller, env⟩ lasting
  | resetTenantLimit caller env =>
      obtain ⟨selected, _, deletes⟩ := resetTenantLimit_store caller env
      simp only [step, deletes]
      exact lasting_delete lasting env.now selected

end Calls

/-! ## Whole runs -/

section Runs
variable (rl : RateLimiter)

/-- The tenant's own calls are answered, and every reset is for a plain id. -/
structure Regular (tenantID : String) (calls : List Call) : Prop where
  served : ∀ call ∈ calls, call.tenantID = tenantID → Served call
  plain : ∀ call ∈ calls, PlainId call.tenantID

theorem callsSince_snoc (tenantID : String) (scope : Scope) (n : Nat) (calls : List Call)
    (call : Call) :
    callsSince tenantID scope n (calls ++ [call]) =
      if isReset tenantID call then 0
      else callsSince tenantID scope n calls + if isAllowIn tenantID scope n call then 1 else 0 := by
  unfold callsSince
  rw [List.map_append, List.map_singleton]
  split_ifs with stop counted
  · exact countSince_stop stop
  · exact countSince_count (Bool.not_eq_true _ ▸ stop) counted
  · exact countSince_skip (Bool.not_eq_true _ ▸ stop) (Bool.not_eq_true _ ▸ counted)

theorem positive_succ (n : Nat) : positive (n + 1) = some ((positive n).getD 0 + 1) := by
  cases n with
  | zero => rfl
  | succ n => rfl

theorem run_held {tenantID : String} (nonEmpty : tenantID ≠ "") (plain : PlainId tenantID)
    {calls : List Call} (regular : Regular tenantID calls) (scope : Scope) {n : Nat}
    (notOver : ∀ call ∈ calls, timeOf call < (n + 1) * scope.width) :
    held (after (step rl) noKeys calls) (windowKey scope tenantID n) =
      positive (callsSince tenantID scope n calls) := by
  induction calls using List.reverseRecOn with
  | nil => rfl
  | append_singleton calls call ih =>
      obtain ⟨served, plains⟩ := regular
      rw [List.forall_mem_append, List.forall_mem_singleton] at served plains notOver
      have before := ih ⟨served.1, plains.1⟩ notOver.1
      have lasting := lasting_after (step_lasting rl) calls
      have own : OwnKey tenantID (windowKey scope tenantID n) := ⟨scope, n, rfl⟩
      rw [after_snoc, callsSince_snoc]
      cases call with
      | allow caller env =>
          by_cases same : caller = tenantID
          · subst same
            have isServed : env.failure = none := served.2 rfl
            simp only [step, allow_held lasting nonEmpty isServed, isReset, isAllowIn, true_and,
              Bool.false_eq_true, if_false, decide_eq_true_eq]
            split_ifs with here
            · rw [positive_succ, ← before]
              rfl
            · exact before
          · have kept : held (step rl (after (step rl) noKeys calls) (.allow caller env))
                (windowKey scope tenantID n) = _ :=
              congrArg (Option.map Counter.count) (allow_frame same env own)
            simp only [kept, isReset, isAllowIn, same, false_and, decide_false, Bool.false_eq_true,
              if_false, Nat.add_zero]
            exact before
      | resetTenantLimit caller env =>
          by_cases same : caller = tenantID
          · subst same
            have isServed : env.failure = none := served.2 rfl
            simp only [step, reset_held lasting plain isServed scope notOver.2, isReset,
              decide_true, if_true]
            rfl
          · have spared := plain_reset_spares plains.2 plain same own
            have kept : held (step rl (after (step rl) noKeys calls) (.resetTenantLimit caller env))
                (windowKey scope tenantID n) = _ :=
              congrArg (Option.map Counter.count) (reset_frame fun _ => spared)
            simp only [kept, isReset, isAllowIn, same, decide_false, Bool.false_eq_true, if_false,
              Nat.add_zero]
            exact before

/-! ## Reading the counters -/

theorem getTenantStats_eq_ok_iff (tenantID : String) (now : Nat) (redis : Counters String)
    (minuteCount hourCount : Nat) :
    getTenantStats tenantID ⟨now, none⟩ redis = .ok (minuteCount, hourCount) ↔
      (live now redis (keyAt .minute tenantID now)).map Counter.count = some minuteCount ∧
        (live now redis (keyAt .hour tenantID now)).map Counter.count = some hourCount := by
  simp only [getTenantStats, get]
  cases live now redis (keyAt .minute tenantID now) with
  | none => simp [bind, Except.bind]
  | some minute =>
      cases live now redis (keyAt .hour tenantID now) with
      | none => simp [bind, Except.bind]
      | some hour =>
          simp [bind, Except.bind, pure, Except.pure, valueOrNil]

theorem callsSince_minute_le_hour (tenantID : String) (now : Nat) (calls : List Call) :
    callsSince tenantID .minute (now / Scope.minute.width) calls ≤
      callsSince tenantID .hour (now / Scope.hour.width) calls := by
  apply List.countP_mono_left
  rintro ⟨_, call⟩ _ isMinute
  cases call with
  | allow caller env =>
      simp only [isAllowIn, decide_eq_true_eq] at isMinute ⊢
      refine ⟨isMinute.1, ?_⟩
      have widths : Scope.hour.width = Scope.minute.width * 60 := by decide
      rw [widths, ← Nat.div_div_eq_div_mul, ← Nat.div_div_eq_div_mul, isMinute.2]
  | resetTenantLimit caller env => cases isMinute

/-- After any run, a tenant's statistics are the calls of its current minute
and hour since its last reset exactly when there was one in this minute. -/
theorem stats_agree_iff {tenantID : String} (nonEmpty : tenantID ≠ "") (plain : PlainId tenantID)
    {calls : List Call} (regular : Regular tenantID calls) {now : Nat}
    (past : ∀ call ∈ calls, timeOf call ≤ now) :
    getTenantStats tenantID ⟨now, none⟩ (after (step rl) noKeys calls) =
        .ok (callsSince tenantID .minute (now / Scope.minute.width) calls,
          callsSince tenantID .hour (now / Scope.hour.width) calls) ↔
      0 < callsSince tenantID .minute (now / Scope.minute.width) calls := by
  have counted : ∀ scope : Scope,
      (live now (after (step rl) noKeys calls) (keyAt scope tenantID now)).map Counter.count =
        positive (callsSince tenantID scope (now / scope.width) calls) := by
    intro scope
    rw [live_keyAt (lasting_after (step_lasting rl) calls), keyAt_eq]
    exact run_held rl nonEmpty plain regular scope fun call member =>
      (past call member).trans_lt (end_after scope now)
  have within := callsSince_minute_le_hour tenantID now calls
  rw [getTenantStats_eq_ok_iff, counted, counted]
  unfold positive
  split_ifs <;> simp <;> omega

end Runs

/-- A call, a reset, two more calls, and a reset of another tenant. -/
def resetRun : List Call :=
  [.allow "a" ⟨0, 0, none⟩, .resetTenantLimit "a" ⟨second, none⟩,
    .allow "a" ⟨2 * second, 2 * second, none⟩, .allow "a" ⟨3 * second, 3 * second, none⟩,
    .resetTenantLimit "b" ⟨4 * second, none⟩]

theorem resetRun_stats :
    callsSince "a" .minute 0 resetRun = 2 ∧
      getTenantStats "a" ⟨5 * second, none⟩ (after (step ⟨1, 1000⟩) noKeys resetRun) =
        .ok (callsSince "a" .minute 0 resetRun, callsSince "a" .hour 0 resetRun) := by
  have plainA : PlainId "a" := forall_mem_of_all (by decide)
  have plainB : PlainId "b" := forall_mem_of_all (by decide)
  have regular : Regular "a" resetRun := by
    constructor
    · simp [resetRun, Served]
    · simp [resetRun, Call.tenantID, plainA, plainB]
  have past : ∀ call ∈ resetRun, timeOf call ≤ 5 * second := by
    simp [resetRun, timeOf, second]
  have two : callsSince "a" .minute (5 * second / Scope.minute.width) resetRun = 2 := by
    decide +kernel
  exact ⟨two, (stats_agree_iff ⟨1, 1000⟩ (by decide) plainA regular past).mpr
    (by rw [two]; decide)⟩

/-- One call, and the minute after it. -/
def quietMinute : List Call := [.allow "a" ⟨0, 0, none⟩]

theorem no_stats_in_a_new_minute :
    callsSince "a" .minute 1 quietMinute = 0 ∧ callsSince "a" .hour 0 quietMinute = 1 ∧
      60 * second / Scope.minute.width = 1 ∧ 60 * second / Scope.hour.width = 0 ∧
      getTenantStats "a" ⟨60 * second, none⟩ (after (step newRateLimiter) noKeys quietMinute) =
        .error redisNil ∧
      getTenantStats "a" ⟨0, none⟩ noKeys = .error redisNil := by
  decide +kernel

end CloudOS.Orchestrator.TenantStats
