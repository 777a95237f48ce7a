import CloudOS.Lib.ExpiringCounters
import CloudOS.Lib.Glob
import CloudOS.Lib.History
import CloudOS.Lib.Separators
import Mathlib.Data.List.Basic

/-!
# The rate limiter of the orchestrator

`module2-orchestrator/pkg/auth/ratelimiter.go` over a Redis server of its own
clock, which is the caller's.  Times are nanoseconds since the epoch.  A
pipeline may fail after some of its commands, and a scan after some of its
deletions; how it goes is part of the call.  Log lines are left out.
-/

set_option autoImplicit false

namespace CloudOS.Orchestrator.RateLimiting

open CloudOS.Lib.ExpiringCounters
open CloudOS.Lib.Glob
open CloudOS.Lib.History
open CloudOS.Lib.Separators

structure RateLimiter where
  perMinuteLimit : Int
  perHourLimit : Int
  deriving DecidableEq, Repr

def newRateLimiter : RateLimiter := ⟨100, 1000⟩

def second : Nat := 1000000000

inductive Scope where
  | minute
  | hour
  deriving DecidableEq, Repr

def Scope.text : Scope → String
  | .minute => "minute"
  | .hour => "hour"

def Scope.seconds : Scope → Nat
  | .minute => 60
  | .hour => 3600

def Scope.width (scope : Scope) : Nat := scope.seconds * second

def RateLimiter.limit (rl : RateLimiter) : Scope → Int
  | .minute => rl.perMinuteLimit
  | .hour => rl.perHourLimit

def windowKey (scope : Scope) (tenantID : String) (n : Nat) : String :=
  "ratelimit:" ++ scope.text ++ ":" ++ tenantID ++ ":" ++ toString n

def keyAt (scope : Scope) (tenantID : String) (now : Nat) : String :=
  windowKey scope tenantID (now / second / scope.seconds)

inductive LimiterError where
  | emptyTenant
  | redis (text : String)
  deriving DecidableEq, Repr

def LimiterError.text : LimiterError → String
  | .emptyTenant => "tenant ID cannot be empty"
  | .redis text => text

structure Decision where
  allowed : Bool
  remainingTime : Int
  err : Option LimiterError
  deriving DecidableEq, Repr

/-- A pipeline that fails has had some of its commands executed. -/
structure PipelineFailure where
  applied : Nat
  text : String

/-- The clock is read at the start, and again for `time.Until`. -/
structure AllowEnv where
  now : Nat
  later : Nat
  failure : Option PipelineFailure

def commands (tenantID : String) (now : Nat) : List (Command String) :=
  [.incr (keyAt .minute tenantID now), .incr (keyAt .hour tenantID now),
    .expire (keyAt .minute tenantID now) (2 * Scope.minute.width),
    .expire (keyAt .hour tenantID now) (2 * Scope.hour.width)]

/-- `time.Until` of the end of the window of `now`. -/
def untilNext (scope : Scope) (env : AllowEnv) : Int :=
  ((env.now / scope.width * scope.width + scope.width : Nat) : Int) - env.later

def allow (rl : RateLimiter) (tenantID : String) (env : AllowEnv) (redis : Counters String) :
    Decision × Counters String :=
  if tenantID = "" then (⟨false, 0, some .emptyTenant⟩, redis)
  else
    match env.failure with
    | some failure =>
        (⟨false, 0, some (.redis failure.text)⟩,
          (pipeline env.now ((commands tenantID env.now).take failure.applied) redis).2)
    | none =>
        let (results, redis) := pipeline env.now (commands tenantID env.now) redis
        let minuteCount := results.getD 0 0
        let hourCount := results.getD 1 0
        if minuteCount > rl.perMinuteLimit then (⟨false, untilNext .minute env, none⟩, redis)
        else if hourCount > rl.perHourLimit then (⟨false, untilNext .hour env, none⟩, redis)
        else (⟨true, 0, none⟩, redis)

/-- A scan that fails has had some of the keys deleted. -/
structure ScanFailure where
  deleted : String → Bool
  text : String

structure ResetEnv where
  now : Nat
  failure : Option ScanFailure

def resetPattern (tenantID : String) : String := "ratelimit:*:" ++ tenantID ++ ":*"

/-- The loop over the cursor sees every key that matches. -/
def resetTenantLimit (tenantID : String) (env : ResetEnv) (redis : Counters String) :
    Option LimiterError × Counters String :=
  match env.failure with
  | some failure =>
      (some (.redis failure.text),
        delete env.now
          (fun key => globMatches (resetPattern tenantID) key && failure.deleted key) redis)
  | none => (none, delete env.now (globMatches (resetPattern tenantID)) redis)

/-! ## Keys -/

theorem windowKey_toList (scope : Scope) (tenantID : String) (n : Nat) :
    (windowKey scope tenantID n).toList =
      "ratelimit:".toList ++
        (scope.text.toList ++ ':' :: (tenantID.toList ++ ':' :: (toString n).toList)) := by
  show ("ratelimit:" ++ scope.text ++ ":" ++ tenantID ++ ":" ++ toString n).toList = _
  simp only [String.toList_append, List.append_assoc]
  rfl

theorem windowKey_inj {scope scope' : Scope} {tenantID tenantID' : String} {n n' : Nat}
    (same : windowKey scope tenantID n = windowKey scope' tenantID' n') :
    scope = scope' ∧ tenantID = tenantID' ∧ n = n' := by
  have lists := congrArg String.toList same
  rw [windowKey_toList, windowKey_toList, List.append_cancel_left_eq] at lists
  have noColon : ∀ scope : Scope, ':' ∉ scope.text.toList := by
    intro scope
    cases scope <;> decide
  obtain ⟨scopes, rest⟩ := append_cons_inj_first (noColon scope) (noColon scope') lists
  obtain ⟨tenants, numbers⟩ :=
    append_cons_inj_last (notMem_digits (by decide) n) (notMem_digits (by decide) n') rest
  refine ⟨?_, String.toList_injective tenants, toString_injective numbers⟩
  cases scope with
  | minute =>
      cases scope' with
      | minute => rfl
      | hour => cases scopes
  | hour =>
      cases scope' with
      | minute => cases scopes
      | hour => rfl

theorem Scope.width_pos (scope : Scope) : 0 < scope.width := by
  cases scope <;> decide

theorem keyAt_eq (scope : Scope) (tenantID : String) (now : Nat) :
    keyAt scope tenantID now = windowKey scope tenantID (now / scope.width) := by
  unfold keyAt Scope.width
  rw [Nat.div_div_eq_div_mul, Nat.mul_comm]

theorem commands_keyAt {tenantID : String} {now : Nat} {command : Command String}
    (member : command ∈ commands tenantID now) :
    ∃ scope, command.key = keyAt scope tenantID now := by
  simp only [commands, List.mem_cons, List.not_mem_nil, or_false] at member
  rcases member with rfl | rfl | rfl | rfl
  · exact ⟨.minute, rfl⟩
  · exact ⟨.hour, rfl⟩
  · exact ⟨.minute, rfl⟩
  · exact ⟨.hour, rfl⟩

/-! ## What a call decides -/

def HasRoom (rl : RateLimiter) (tenantID : String) (env : AllowEnv) (redis : Counters String) :
    Prop :=
  tenantID ≠ "" ∧ env.failure = none ∧
    ∀ scope, (count env.now redis (keyAt scope tenantID env.now) + 1 : Int) ≤ rl.limit scope

theorem minute_ne_hour (tenantID : String) (now : Nat) :
    keyAt .minute tenantID now ≠ keyAt .hour tenantID now := by
  intro same
  cases (windowKey_inj same).1

theorem pipeline_counts (tenantID : String) (now : Nat) (redis : Counters String) :
    (pipeline now (commands tenantID now) redis).1.getD 0 0 =
        count now redis (keyAt .minute tenantID now) + 1 ∧
      (pipeline now (commands tenantID now) redis).1.getD 1 0 =
        count now redis (keyAt .hour tenantID now) + 1 := by
  have apart := exec_frame now redis (.incr (keyAt .minute tenantID now))
    (minute_ne_hour tenantID now)
  constructor
  · rfl
  · show count now (exec now redis (.incr (keyAt .minute tenantID now))).2
        (keyAt .hour tenantID now) + 1 = _
    simp only [count, live, apart]

theorem forall_scope_iff {P : Scope → Prop} : (∀ scope, P scope) ↔ P .minute ∧ P .hour := by
  constructor
  · intro all
    exact ⟨all .minute, all .hour⟩
  · rintro ⟨minute, hour⟩ scope
    cases scope with
    | minute => exact minute
    | hour => exact hour

theorem allow_allowed_iff (rl : RateLimiter) (tenantID : String) (env : AllowEnv)
    (redis : Counters String) :
    (allow rl tenantID env redis).1.allowed = true ↔ HasRoom rl tenantID env redis := by
  obtain ⟨minuteCount, hourCount⟩ := pipeline_counts tenantID env.now redis
  unfold HasRoom allow
  rw [forall_scope_iff]
  by_cases empty : tenantID = ""
  · rw [if_pos empty]
    constructor
    · intro allowed
      cases allowed
    · intro room
      exact absurd empty room.1
  · cases env.failure with
    | some failure => simp [empty]
    | none =>
        simp only [if_neg empty, minuteCount, hourCount, RateLimiter.limit]
        split_ifs with minute hour
        · simp
          omega
        · simp
          omega
        · simp [empty]
          omega

theorem resetTenantLimit_store (tenantID : String) (env : ResetEnv) :
    ∃ selected : String → Bool,
      (∀ key, globMatches (resetPattern tenantID) key = false → selected key = false) ∧
        ∀ redis, (resetTenantLimit tenantID env redis).2 = delete env.now selected redis := by
  unfold resetTenantLimit
  cases env.failure with
  | some failure =>
      refine ⟨fun key => globMatches (resetPattern tenantID) key && failure.deleted key, ?_,
        fun redis => rfl⟩
      intro key unmatched
      simp [unmatched]
  | none => exact ⟨globMatches (resetPattern tenantID), fun key unmatched => unmatched, fun _ => rfl⟩

end CloudOS.Orchestrator.RateLimiting
