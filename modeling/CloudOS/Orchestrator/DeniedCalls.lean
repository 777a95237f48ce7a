import CloudOS.Lib.NestedLimits
import CloudOS.Orchestrator.SlidingWindow

/-!
# What the limiter denies

`Allow` counts a call in its minute and its hour before it looks at either
limit, so a call that the minute denies is taken from the hour as well.  A
tenant that keeps trying may be denied for the rest of the hour with far fewer
calls allowed than the limit of an hour.
-/

set_option autoImplicit false

namespace CloudOS.Orchestrator.DeniedCalls

open CloudOS.Lib.ExpiringCounters
open CloudOS.Lib.History
open CloudOS.Lib.NestedLimits (Limited firsts attemptsIn)
open CloudOS.Lib.TimeWindows
open CloudOS.Orchestrator.RateLimiting
open CloudOS.Orchestrator.SlidingWindow

/-- When the tenant called, allowed or not. -/
def attempts (tenantID : String) (calls : List AllowCall) : List Nat :=
  (calls.filter fun call => call.tenantID = tenantID).map fun call => call.env.now

def Served (tenantID : String) (calls : List AllowCall) : Prop :=
  ∀ call ∈ calls, call.tenantID = tenantID → call.env.failure = none

section Definitions
variable (rl : RateLimiter) (earlier : List AllowCall) (call : AllowCall)

/-- An error is no denial. -/
def Denied : Prop :=
  (allow rl call.tenantID call.env (after (step rl) noKeys earlier)).1.allowed = false ∧
    (allow rl call.tenantID call.env (after (step rl) noKeys earlier)).1.err = none

def UsedUp : Prop :=
  ∃ scope : Scope, rl.limit scope ≤
    inWindow scope.width (call.env.now / scope.width) (allowedTimes rl call.tenantID earlier)

def firstOfHour : List Nat :=
  firsts (fun t => t / Scope.hour.width) rl.perHourLimit.toNat (call.env.now / Scope.hour.width)
    (attempts call.tenantID earlier)

/-- The hour has room; or the first calls of the hour have filled the minute of
the call; or they kept to the limit in every minute. -/
def Spread : Prop :=
  (inWindow Scope.hour.width (call.env.now / Scope.hour.width)
      (attempts call.tenantID earlier) : Int) < rl.perHourLimit ∨
    rl.perMinuteLimit ≤
      inWindow Scope.minute.width (call.env.now / Scope.minute.width)
        (firstOfHour rl earlier call) ∨
    ∀ n, (inWindow Scope.minute.width n (firstOfHour rl earlier call) : Int) ≤ rl.perMinuteLimit

end Definitions

/-! ## The counters count attempts -/

section Runs
variable (rl : RateLimiter) {tenantID : String}

theorem attempts_snoc (tenantID : String) (calls : List AllowCall) (call : AllowCall) :
    attempts tenantID (calls ++ [call]) =
      attempts tenantID calls ++ if call.tenantID = tenantID then [call.env.now] else [] := by
  unfold attempts
  split_ifs with own
  · simp [own]
  · simp [own]

theorem Served.of_snoc {calls : List AllowCall} {call : AllowCall}
    (served : Served tenantID (calls ++ [call])) :
    Served tenantID calls ∧ (call.tenantID = tenantID → call.env.failure = none) := by
  unfold Served at served ⊢
  rw [List.forall_mem_append, List.forall_mem_singleton] at served
  exact served

theorem countedTimes_eq {calls : List AllowCall} (served : Served tenantID calls) (scope : Scope) :
    countedTimes scope tenantID calls = attempts tenantID calls := by
  unfold countedTimes attempts
  congr 1
  apply List.filter_congr
  intro call member
  have all : call.tenantID = tenantID → place scope < applied call.env :=
    fun own => place_lt_applied (served call member own) scope
  simpa using all

theorem minute_in_hour (t u : Nat) (same : t / Scope.minute.width = u / Scope.minute.width) :
    t / Scope.hour.width = u / Scope.hour.width := by
  have widths : Scope.hour.width = Scope.minute.width * 60 := by decide
  rw [widths, ← Nat.div_div_eq_div_mul, ← Nat.div_div_eq_div_mul, same]

theorem hasRoom_iff {earlier : List AllowCall} {call : AllowCall} (nonEmpty : call.tenantID ≠ "")
    (served : Served call.tenantID (earlier ++ [call])) :
    HasRoom rl call.tenantID call.env (after (step rl) noKeys earlier) ↔
      CloudOS.Lib.NestedLimits.HasRoom (fun t => t / Scope.minute.width)
        (fun t => t / Scope.hour.width) rl.perMinuteLimit.toNat rl.perHourLimit.toNat
        (attempts call.tenantID earlier) call.env.now := by
  obtain ⟨before, here⟩ := served.of_snoc
  have counted : ∀ scope : Scope,
      count call.env.now (after (step rl) noKeys earlier) (keyAt scope call.tenantID call.env.now) =
        attemptsIn (fun t => t / scope.width) (call.env.now / scope.width)
          (attempts call.tenantID earlier) := by
    intro scope
    rw [run_count rl nonEmpty, countedTimes_eq before]
    rfl
  unfold HasRoom CloudOS.Lib.NestedLimits.HasRoom
  rw [forall_scope_iff, counted, counted]
  simp only [nonEmpty, here rfl, ne_eq, not_false_eq_true, true_and, RateLimiter.limit]
  omega

theorem allowedTimes_limited (nonEmpty : tenantID ≠ "") {calls : List AllowCall}
    (served : Served tenantID calls) :
    Limited (fun t => t / Scope.minute.width) (fun t => t / Scope.hour.width)
      rl.perMinuteLimit.toNat rl.perHourLimit.toNat (attempts tenantID calls)
      (allowedTimes rl tenantID calls) := by
  induction calls using List.reverseRecOn with
  | nil => exact .nil
  | append_singleton calls call ih =>
      have limited := ih served.of_snoc.1
      rw [attempts_snoc, allowedTimes_snoc]
      by_cases own : call.tenantID = tenantID
      · subst own
        have room := hasRoom_iff rl nonEmpty served
        have allowed := allow_allowed_iff rl call.tenantID call.env (after (step rl) noKeys calls)
        rw [if_pos rfl]
        by_cases hasRoom : HasRoom rl call.tenantID call.env (after (step rl) noKeys calls)
        · rw [if_pos ⟨rfl, allowed.mpr hasRoom⟩]
          exact .accept limited (room.mp hasRoom)
        · rw [if_neg fun both => hasRoom (allowed.mp both.2), List.append_nil]
          exact .deny limited (mt room.mpr hasRoom)
      · rw [if_neg own, if_neg fun both => own both.1, List.append_nil, List.append_nil]
        exact limited

theorem denied_iff {earlier : List AllowCall} {call : AllowCall} (nonEmpty : call.tenantID ≠ "")
    (answered : call.env.failure = none) :
    Denied rl earlier call ↔
      ¬ HasRoom rl call.tenantID call.env (after (step rl) noKeys earlier) := by
  have noError : (allow rl call.tenantID call.env (after (step rl) noKeys earlier)).1.err =
      none := by
    simp only [allow, if_neg nonEmpty, answered]
    split_ifs <;> rfl
  unfold Denied
  rw [← allow_allowed_iff, Bool.not_eq_true]
  simp only [noError, and_true]

theorem usedUp_iff (rl : RateLimiter) (earlier : List AllowCall) (call : AllowCall) :
    UsedUp rl earlier call ↔
      rl.perMinuteLimit.toNat ≤ attemptsIn (fun t => t / Scope.minute.width)
          (call.env.now / Scope.minute.width) (allowedTimes rl call.tenantID earlier) ∨
        rl.perHourLimit.toNat ≤ attemptsIn (fun t => t / Scope.hour.width)
          (call.env.now / Scope.hour.width) (allowedTimes rl call.tenantID earlier) := by
  constructor
  · rintro ⟨scope, used⟩
    cases scope with
    | minute => exact .inl (Int.toNat_le.mpr used)
    | hour => exact .inr (Int.toNat_le.mpr used)
  · rintro (used | used)
    · exact ⟨.minute, Int.toNat_le.mp used⟩
    · exact ⟨.hour, Int.toNat_le.mp used⟩

/-- A call is denied only where a limit is used up exactly when the calls of its
hour are spread over the minutes. -/
theorem denied_only_when_used_up_iff (limits : ∀ scope, 0 < rl.limit scope)
    {earlier : List AllowCall} {call : AllowCall} (nonEmpty : call.tenantID ≠ "")
    (served : Served call.tenantID (earlier ++ [call])) :
    (Denied rl earlier call → UsedUp rl earlier call) ↔ Spread rl earlier call := by
  obtain ⟨before, here⟩ := served.of_snoc
  have limited := allowedTimes_limited rl nonEmpty before
  have perMinute : ∀ count : Nat, count ≤ rl.perMinuteLimit.toNat ↔ (count : Int) ≤ rl.perMinuteLimit :=
    fun count => Int.le_toNat (limits .minute).le
  rw [denied_iff rl nonEmpty (here rfl), hasRoom_iff rl nonEmpty served, usedUp_iff,
    limited.denied_iff minute_in_hour call.env.now, Int.lt_toNat, Int.toNat_le]
  simp only [perMinute]
  rfl

end Runs

/-- Two calls an hour, and both are allowed; the third is denied. -/
def patient : List AllowCall := [callAt "a" 0, callAt "a" 0]

theorem patient_denied_when_used_up :
    Denied ⟨5, 2⟩ patient (callAt "a" second) ∧ UsedUp ⟨5, 2⟩ patient (callAt "a" second) := by
  have limits : ∀ scope, 0 < RateLimiter.limit ⟨5, 2⟩ scope := by
    intro scope
    cases scope <;> decide
  have served : Served "a" (patient ++ [callAt "a" second]) := by
    simp [Served, patient, callAt]
  have denied : Denied ⟨5, 2⟩ patient (callAt "a" second) := by
    unfold Denied
    decide +kernel
  have spread : Spread ⟨5, 2⟩ patient (callAt "a" second) := by
    have two : (firstOfHour ⟨5, 2⟩ patient (callAt "a" second)).length = 2 := by decide +kernel
    refine .inr (.inr fun n => ?_)
    have few : inWindow Scope.minute.width n (firstOfHour ⟨5, 2⟩ patient (callAt "a" second)) ≤
        (firstOfHour ⟨5, 2⟩ patient (callAt "a" second)).length := List.countP_le_length
    show (_ : Int) ≤ 5
    omega
  exact ⟨denied, (denied_only_when_used_up_iff ⟨5, 2⟩ limits (by decide) served).mpr spread denied⟩

/-- One call a minute and two an hour: a call, one more in the same minute, and
one in the next. -/
def impatient : List AllowCall := [callAt "a" 0, callAt "a" second]

theorem denied_before_used_up :
    (history (step ⟨1, 2⟩) noKeys (impatient ++ [callAt "a" (60 * second)])).map
        (fun entry => isAllowed ⟨1, 2⟩ entry.1 entry.2) = [true, false, false] ∧
      Denied ⟨1, 2⟩ impatient (callAt "a" (60 * second)) ∧
      ¬ UsedUp ⟨1, 2⟩ impatient (callAt "a" (60 * second)) := by
  refine ⟨by decide +kernel, by unfold Denied; decide +kernel, ?_⟩
  rintro ⟨scope, used⟩
  cases scope with
  | minute => exact absurd used (by decide +kernel)
  | hour => exact absurd used (by decide +kernel)

end CloudOS.Orchestrator.DeniedCalls
