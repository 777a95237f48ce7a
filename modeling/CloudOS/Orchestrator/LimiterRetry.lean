import CloudOS.Orchestrator.ApiGateway
import CloudOS.Orchestrator.ApiRouter
import CloudOS.Orchestrator.DeniedCalls
import Mathlib.Algebra.Order.Round
import Mathlib.Data.Rat.Floor
import Mathlib.Tactic.Linarith

/-!
# Coming back to the limiter

A denied request is answered with the header `Retry-After`, by `withRateLimit`
of `cmd/api-gateway/main.go` or `rateLimitMiddleware` of `pkg/api/router.go`:
the time left in the window that denied it, rounded to whole seconds.  Rounding
may go down, and the time left in a minute says nothing about an hour that is
used up as well.
-/

set_option autoImplicit false

namespace CloudOS.Orchestrator.LimiterRetry

open CloudOS.Lib.ExpiringCounters
open CloudOS.Lib.History
open CloudOS.Lib.HttpHandlers
open CloudOS.Lib.Separators
open CloudOS.Lib.TimeWindows
open CloudOS.Orchestrator.ApiGateway (withRateLimit httpError)
open CloudOS.Orchestrator.ApiRouter (Router)
open CloudOS.Orchestrator.DeniedCalls
open CloudOS.Orchestrator.HttpAuth
open CloudOS.Orchestrator.RateLimiting
open CloudOS.Orchestrator.SlidingWindow

/-- What `%.0f` does; a number in the middle between two may go either way. -/
def RoundsToNearest (nearest : ℚ → Int) : Prop := ∀ x, |(nearest x : ℚ) - x| ≤ 1 / 2

section Definitions
variable (nearest : ℚ → Int) (rl : RateLimiter)

/-- `%.0f` of the seconds of a duration in nanoseconds. -/
def showSeconds (d : Int) : String := toString (nearest (d / second))

/-- One of the middlewares answers the call with this number of seconds,
whatever handler is behind it. -/
inductive Told (redis : Counters String) (call : AllowCall) (seconds : Int) : Prop
  | byGateway (r : HttpRequest) (ctx : Context) (w : ApiGateway.World)
      (limiter : r.limiter = call.env) (tenant : getTenantIDFromContext ctx = .ok call.tenantID)
      (store : w.redis = redis)
      (header : ∀ next, Write.header "Retry-After" (toString seconds) ∈
        (withRateLimit (showSeconds nearest) (some rl) next r ctx w).writes)
  | byRouter {Cluster : Type} (router : Router Cluster) (req : HttpRequest) (ctx : Context)
      (claims : Claims) (w : ApiRouter.World Cluster) (limited : router.rateLimiter = some rl)
      (limiter : req.limiter = call.env) (inContext : ctx.claims = some claims)
      (tenant : claims.tenantID = call.tenantID) (store : w.redis = redis)
      (header : ∀ next, Write.header "Retry-After" (toString seconds) ∈
        (router.rateLimitMiddleware (showSeconds nearest) next req ctx w).writes)

variable (earlier : List AllowCall) (call : AllowCall)

/-- After the seconds, and not before the answer, the tenant's next call is
allowed. -/
def ComesBack (seconds : Int) : Prop :=
  ∀ between next, (∀ other ∈ between, other.tenantID ≠ call.tenantID) →
    next.tenantID = call.tenantID → next.env.failure = none →
      call.env.later ≤ next.env.now →
        call.env.later + seconds * second ≤ next.env.now →
          isAllowed rl (after (step rl) noKeys (earlier ++ call :: between)) next = true

def countBefore (scope : Scope) : Nat :=
  count call.env.now (after (step rl) noKeys earlier) (keyAt scope call.tenantID call.env.now)

def RoundedDown (d : Int) : Prop := 0 < d ∧ nearest (d / second) * second < d

/-- The time left in the window that denies is not rounded down; and when that is
the minute, the hour has room for another call or is over with it. -/
def WaitsEnough : Prop :=
  if rl.perMinuteLimit < countBefore rl earlier call .minute + 1 then
    ¬ RoundedDown nearest (untilNext .minute call.env) ∧
      ((countBefore rl earlier call .hour + 2 : Int) ≤ rl.perHourLimit ∨
        windowEnd Scope.hour.width call.env.now = windowEnd Scope.minute.width call.env.now ∨
        windowEnd Scope.hour.width call.env.now ≤ call.env.later)
  else ¬ RoundedDown nearest (untilNext .hour call.env)

end Definitions

/-! ## What a denied call is told -/

section Told
variable {nearest : ℚ → Int} {rl : RateLimiter} {redis : Counters String} {call : AllowCall}
  {seconds : Int}

theorem denied_of_header {decision : Decision} {failed rest : List Write}
    (noHeader : ∀ value, Write.header "Retry-After" value ∉ failed ++ rest)
    (member : Write.header "Retry-After" (toString seconds) ∈
      if decision.err.isSome then failed
      else if !decision.allowed then
        .header "Retry-After" (showSeconds nearest decision.remainingTime) :: rest
      else []) :
    decision.allowed = false ∧ decision.err = none ∧
      seconds = nearest (decision.remainingTime / second) := by
  simp only [List.mem_append, not_or] at noHeader
  split_ifs at member with isError isDenied
  · exact absurd member (noHeader _).1
  · rcases List.mem_cons.mp member with same | later
    · injection same with _ text
      exact ⟨by simpa using isDenied, by simpa using isError, intToString_injective text⟩
    · exact absurd later (noHeader _).2
  · cases member

theorem Told.denied (told : Told nearest rl redis call seconds) :
    (allow rl call.tenantID call.env redis).1.allowed = false ∧
      (allow rl call.tenantID call.env redis).1.err = none ∧
      seconds = nearest ((allow rl call.tenantID call.env redis).1.remainingTime / second) := by
  cases told with
  | byGateway r ctx w limiter tenant store header =>
      have silent := header fun _ _ w => answer [] w
      simp only [withRateLimit, tenant, limiter, store, apply_ite Served.writes, answer] at silent
      exact denied_of_header (by simp [httpError]) silent
  | byRouter router req ctx claims w limited limiter inContext tenant store header =>
      have silent := header fun _ _ w => answer [] w
      simp only [Router.rateLimitMiddleware, limited, inContext, tenant, limiter, store,
        apply_ite Served.writes, answer] at silent
      exact denied_of_header (by simp) silent

theorem denied_cases (denied : (allow rl call.tenantID call.env redis).1.allowed = false)
    (noError : (allow rl call.tenantID call.env redis).1.err = none) :
    call.tenantID ≠ "" ∧ call.env.failure = none ∧
      ((rl.perMinuteLimit < count call.env.now redis (keyAt .minute call.tenantID call.env.now) + 1 ∧
          (allow rl call.tenantID call.env redis).1.remainingTime = untilNext .minute call.env) ∨
        (¬ rl.perMinuteLimit <
            count call.env.now redis (keyAt .minute call.tenantID call.env.now) + 1 ∧
          rl.perHourLimit < count call.env.now redis (keyAt .hour call.tenantID call.env.now) + 1 ∧
          (allow rl call.tenantID call.env redis).1.remainingTime = untilNext .hour call.env)) := by
  obtain ⟨minuteCount, hourCount⟩ := pipeline_counts call.tenantID call.env.now redis
  by_cases empty : call.tenantID = ""
  · simp [allow, empty] at noError
  · cases failing : call.env.failure with
    | some failure => simp [allow, empty, failing] at noError
    | none =>
        refine ⟨empty, rfl, ?_⟩
        simp only [allow, if_neg empty, failing, minuteCount, hourCount, gt_iff_lt,
          Nat.cast_add, Nat.cast_one] at denied ⊢
        split_ifs at denied ⊢ with minute hour
        · exact .inl ⟨minute, rfl⟩
        · exact .inr ⟨minute, hour, rfl⟩

end Told

/-! ## What the next call finds -/

section Next
variable {rl : RateLimiter} {earlier between : List AllowCall} {call : AllowCall}

theorem countedTimes_next (served : call.env.failure = none)
    (others : ∀ other ∈ between, other.tenantID ≠ call.tenantID) (scope : Scope) :
    countedTimes scope call.tenantID (earlier ++ call :: between) =
      countedTimes scope call.tenantID earlier ++ [call.env.now] := by
  have counted := place_lt_applied served scope
  simp only [countedTimes, List.filter_append, List.map_append, List.append_cancel_left_eq]
  rw [List.filter_cons_of_pos (by simp [counted]), List.filter_eq_nil_iff.mpr]
  · rfl
  · intro other member
    simp [others other member]

theorem count_next (past : ∀ other ∈ earlier, other.env.now ≤ call.env.now)
    (nonEmpty : call.tenantID ≠ "") (served : call.env.failure = none)
    (others : ∀ other ∈ between, other.tenantID ≠ call.tenantID) {now : Nat}
    (later : call.env.now ≤ now) (scope : Scope) :
    count now (after (step rl) noKeys (earlier ++ call :: between))
        (keyAt scope call.tenantID now) =
      if windowEnd scope.width call.env.now ≤ now then 0
      else countBefore rl earlier call scope + 1 := by
  have isOver := @windowEnd_le_iff scope.width call.env.now scope.width_pos now
  have ordered : call.env.now / scope.width ≤ now / scope.width := Nat.div_le_div_right later
  rw [run_count rl nonEmpty, countedTimes_next served others, inWindow_snoc, countBefore,
    run_count rl nonEmpty]
  split_ifs with same ended ended
  · exact absurd (isOver.mp ended) (by omega)
  · rw [same]
  · apply List.countP_eq_zero.mpr
    intro t member
    obtain ⟨other, listed, rfl⟩ := List.mem_map.mp member
    have before := Nat.div_le_div_right (c := scope.width)
      (past other (List.mem_of_mem_filter listed))
    simp only [decide_eq_true_eq]
    exact (before.trans_lt (isOver.mp ended)).ne
  · exact absurd (isOver.mpr (by omega)) ended

def release (call : AllowCall) (seconds : Int) : Int :=
  max call.env.later (call.env.later + seconds * second)

theorem comesBack_iff (limits : ∀ scope, 0 < rl.limit scope)
    (past : ∀ other ∈ earlier, other.env.now ≤ call.env.now) (nonEmpty : call.tenantID ≠ "")
    (served : call.env.failure = none) (answered : call.env.now ≤ call.env.later) (seconds : Int) :
    ComesBack rl earlier call seconds ↔
      ∀ scope : Scope, (windowEnd scope.width call.env.now : Int) ≤ release call seconds ∨
        (countBefore rl earlier call scope + 2 : Int) ≤ rl.limit scope := by
  constructor
  · intro comesBack scope
    -- the earliest return, at once
    obtain ⟨now, isNow⟩ := Int.eq_ofNat_of_zero_le
      (show 0 ≤ release call seconds by unfold release; omega)
    have inTime : call.env.later ≤ now := by
      unfold release at isNow
      omega
    have allowed := comesBack [] ⟨call.tenantID, ⟨now, now, none⟩⟩ (by simp) rfl rfl inTime (by
      unfold release at isNow
      show _ ≤ (now : Int)
      omega)
    have room := ((allow_allowed_iff _ _ _ _).mp allowed).2.2 scope
    have found := @count_next rl earlier [] call past nonEmpty served (by simp) now
      (answered.trans inTime) scope
    rw [found] at room
    split_ifs at room with ended
    · left
      omega
    · right
      push_cast at room
      omega
  · intro waits between next others sameTenant answeredNext inTime told
    apply (allow_allowed_iff _ _ _ _).mpr
    refine ⟨by rw [sameTenant]; exact nonEmpty, answeredNext, fun scope => ?_⟩
    have found := @count_next rl earlier between call past nonEmpty served others next.env.now
      (answered.trans inTime) scope
    rw [sameTenant, found]
    have limit := limits scope
    rcases waits scope with ended | room
    · unfold release at ended
      rw [if_pos (by omega)]
      omega
    · split_ifs <;> omega

end Next

/-! ## Whether the seconds are enough -/

section Enough
variable {nearest : ℚ → Int} {rl : RateLimiter}

theorem nearest_near (rounds : RoundsToNearest nearest) (d : Int) :
    2 * (nearest (d / second) * second) ≤ 2 * d + second ∧
      2 * d ≤ 2 * (nearest (d / second) * second) + second := by
  obtain ⟨lower, upper⟩ := abs_le.mp (rounds (d / second))
  have unit : (second : ℚ) = 1000000000 := by norm_num [second]
  generalize nearest (d / second) = seconds at lower upper ⊢
  have unit' : (second : Int) = 1000000000 := rfl
  rw [unit] at lower upper
  rw [unit']
  have above : 2 * ((seconds : ℚ) * 1000000000) ≤ 2 * d + 1000000000 := by linarith
  have below : 2 * (d : ℚ) ≤ 2 * (seconds * 1000000000) + 1000000000 := by linarith
  exact ⟨by exact_mod_cast above, by exact_mod_cast below⟩

theorem hour_ends (now : Nat) :
    windowEnd Scope.minute.width now ≤ windowEnd Scope.hour.width now ∧
      (windowEnd Scope.hour.width now < windowEnd Scope.minute.width now + second →
        windowEnd Scope.hour.width now = windowEnd Scope.minute.width now) := by
  simp only [windowEnd, Scope.width, Scope.seconds, second]
  omega

theorem untilNext_eq (scope : Scope) (env : AllowEnv) :
    untilNext scope env = (windowEnd scope.width env.now : Int) - env.later := rfl

variable {earlier : List AllowCall} {call : AllowCall} {seconds : Int} {scope : Scope}

theorem release_reaches_iff
    (isSeconds : seconds = nearest (untilNext scope call.env / second)) :
    (windowEnd scope.width call.env.now : Int) ≤ release call seconds ↔
      ¬ RoundedDown nearest (untilNext scope call.env) := by
  unfold RoundedDown release
  rw [← isSeconds, untilNext_eq]
  generalize seconds * (second : Int) = wait
  omega

theorem release_near (rounds : RoundsToNearest nearest)
    (isSeconds : seconds = nearest (untilNext scope call.env / second)) :
    release call seconds = call.env.later ∨
      release call seconds < windowEnd scope.width call.env.now + second := by
  have near := nearest_near rounds (untilNext scope call.env)
  have unit : second = 1000000000 := rfl
  unfold release
  rw [← isSeconds, untilNext_eq] at near
  generalize seconds * (second : Int) = wait at near ⊢
  omega

/-- A tenant that was denied and told to come back is let in when it does
exactly when the wait is enough. -/
theorem told_seconds_enough_iff (rounds : RoundsToNearest nearest)
    (limits : ∀ scope, 0 < rl.limit scope)
    (past : ∀ other ∈ earlier, other.env.now ≤ call.env.now)
    (answered : call.env.now ≤ call.env.later)
    (told : Told nearest rl (after (step rl) noKeys earlier) call seconds) :
    ComesBack rl earlier call seconds ↔ WaitsEnough nearest rl earlier call := by
  obtain ⟨denied, noError, isSeconds⟩ := told.denied
  obtain ⟨nonEmpty, served, minuteOrHour⟩ := denied_cases denied noError
  rw [comesBack_iff limits past nonEmpty served answered, forall_scope_iff]
  obtain ⟨within, together⟩ := hour_ends call.env.now
  unfold WaitsEnough
  rcases minuteOrHour with ⟨minute, remaining⟩ | ⟨minute, hour, remaining⟩
  · change rl.perMinuteLimit < countBefore rl earlier call .minute + 1 at minute
    rw [remaining] at isSeconds
    have near := release_near rounds isSeconds
    have answer : (call.env.later : Int) ≤ release call seconds := le_max_left _ _
    rw [if_pos minute, ← release_reaches_iff isSeconds]
    simp only [RateLimiter.limit]
    omega
  · change ¬ rl.perMinuteLimit < countBefore rl earlier call .minute + 1 at minute
    change rl.perHourLimit < countBefore rl earlier call .hour + 1 at hour
    rw [remaining] at isSeconds
    rw [if_neg minute, ← release_reaches_iff isSeconds]
    simp only [RateLimiter.limit]
    omega

end Enough

/-! ## Runs with one call a minute -/

section Runs
variable {nearest : ℚ → Int} {rl : RateLimiter} {redis : Counters String} {call : AllowCall}

theorem told_of_denied {d seconds : Int}
    (decided : (allow rl call.tenantID call.env redis).1 = ⟨false, d, none⟩)
    (isSeconds : nearest (d / second) = seconds) : Told nearest rl redis call seconds := by
  refine .byGateway ⟨"GET", ["api", "v1", "tasks"], [], "", .ok "", 0, 0, call.env⟩
    ⟨none, some ⟨call.tenantID, "", "", []⟩⟩ ⟨redis, []⟩ rfl rfl rfl fun next => ?_
  simp [withRateLimit, getTenantIDFromContext, decided, answer, showSeconds, isSeconds]

theorem round_nearest : RoundsToNearest round := fun x => by
  rw [abs_sub_comm]
  exact abs_sub_round x

/-- Denied in the middle of a minute, and told the half minute that is left. -/
theorem halfMinute_told :
    Told round ⟨1, 1000⟩ (after (step ⟨1, 1000⟩) noKeys [callAt "a" 0])
        (callAt "a" (30 * second)) 30 ∧
      ComesBack ⟨1, 1000⟩ [callAt "a" 0] (callAt "a" (30 * second)) 30 := by
  have limits : ∀ scope, 0 < RateLimiter.limit ⟨1, 1000⟩ scope := by
    intro scope
    cases scope <;> decide
  have rounded : round (((30000000000 : Int) : ℚ) / (second : Nat)) = 30 := by
    norm_num [second, round_eq]
  have told : Told round ⟨1, 1000⟩ (after (step ⟨1, 1000⟩) noKeys [callAt "a" 0])
      (callAt "a" (30 * second)) 30 := told_of_denied (by decide +kernel) rounded
  refine ⟨told, (told_seconds_enough_iff round_nearest limits (by decide +kernel) le_rfl told).mpr ?_⟩
  have isLeft : untilNext .minute (callAt "a" (30 * second)).env = 30000000000 := by
    decide +kernel
  rw [WaitsEnough, if_pos (by decide +kernel), isLeft, RoundedDown, rounded]
  exact ⟨by decide +kernel, .inl (by decide +kernel)⟩

/-- 0.3 s before the end of a minute the wait is rounded to nothing; and with the
hour used up as well, the end of the minute is too early. -/
theorem told_too_few_seconds :
    (Told round ⟨1, 1000⟩ (after (step ⟨1, 1000⟩) noKeys [callAt "a" (597 * second / 10)])
        (callAt "a" (597 * second / 10)) 0 ∧
      ¬ ComesBack ⟨1, 1000⟩ [callAt "a" (597 * second / 10)] (callAt "a" (597 * second / 10)) 0) ∧
    (Told round ⟨1, 1⟩ (after (step ⟨1, 1⟩) noKeys [callAt "a" 0])
        (callAt "a" (30 * second)) 30 ∧
      ¬ ComesBack ⟨1, 1⟩ [callAt "a" 0] (callAt "a" (30 * second)) 30) := by
  have rounded : round (((300000000 : Int) : ℚ) / (second : Nat)) = 0 := by
    norm_num [second, round_eq]
  have halfMinute : round (((30000000000 : Int) : ℚ) / (second : Nat)) = 30 := by
    norm_num [second, round_eq]
  refine ⟨⟨told_of_denied (by decide +kernel) rounded, fun comesBack => ?_⟩,
    ⟨told_of_denied (by decide +kernel) halfMinute, fun comesBack => ?_⟩⟩
  · have allowed := comesBack [] (callAt "a" (597 * second / 10)) (by simp) rfl rfl
      (by decide +kernel) (by decide +kernel)
    exact absurd allowed (by decide +kernel)
  · have allowed := comesBack [] (callAt "a" (60 * second)) (by simp) (by decide) rfl
      (by decide +kernel) (by decide +kernel)
    exact absurd allowed (by decide +kernel)

end Runs

end CloudOS.Orchestrator.LimiterRetry
