import CloudOS.Lib.TimeWindows
import CloudOS.Orchestrator.TenantIsolation

/-!
# The limiter and sliding windows

The limiter counts every attempt in its clock minute and its clock hour, and
each count is exact: a key outlives its window.  So the attempts alone decide
which calls are allowed: those that come early enough in both of their windows.
An interval that starts anywhere lies across two windows, and there the limit
holds only when the early calls of the first that are too many together with
those of the second are a whole window old by then.
-/

set_option autoImplicit false

namespace CloudOS.Orchestrator.SlidingWindow

open CloudOS.Lib.ExpiringCounters
open CloudOS.Lib.History
open CloudOS.Lib.TimeWindows
open CloudOS.Orchestrator.RateLimiting
open CloudOS.Orchestrator.TenantIsolation (OwnKey allow_frame allow_sends)

structure AllowCall where
  tenantID : String
  env : AllowEnv

section Definitions
variable (rl : RateLimiter)

def step (redis : Counters String) (call : AllowCall) : Counters String :=
  (allow rl call.tenantID call.env redis).2

def isAllowed (redis : Counters String) (call : AllowCall) : Bool :=
  (allow rl call.tenantID call.env redis).1.allowed

def noKeys : Counters String := fun _ => none

def allowedTimes (tenantID : String) (calls : List AllowCall) : List Nat :=
  (history (step rl) noKeys calls).filterMap fun entry =>
    if entry.2.tenantID = tenantID ∧ isAllowed rl entry.1 entry.2 then some entry.2.env.now
    else none

/-- No interval as long as a minute (an hour) sees more allowed calls of one
tenant than the limit of a minute (an hour), wherever it starts. -/
def Sliding (calls : List AllowCall) : Prop :=
  ∀ tenantID scope s,
    (inInterval scope.width s (allowedTimes rl tenantID calls) : Int) ≤ rl.limit scope

/-- The place of a counter's increment in the pipeline. -/
def place : Scope → Nat
  | .minute => 0
  | .hour => 1

/-- How many commands of the pipeline Redis executes. -/
def applied (env : AllowEnv) : Nat :=
  match env.failure with
  | some failure => failure.applied
  | none => 4

/-- When the tenant called, allowed or not, as far as Redis has counted it. -/
def countedTimes (scope : Scope) (tenantID : String) (calls : List AllowCall) : List Nat :=
  (calls.filter fun call => call.tenantID = tenantID ∧ place scope < applied call.env).map
    fun call => call.env.now

/-- The call comes before its minute and its hour have had their limit of
attempts. -/
def isEarly (earlier : List AllowCall) (call : AllowCall) : Bool :=
  call.tenantID ≠ "" && call.env.failure.isNone &&
    [Scope.minute, .hour].all fun scope =>
      (inWindow scope.width (call.env.now / scope.width)
        (countedTimes scope call.tenantID earlier) : Int) < rl.limit scope

def earlyTimes (tenantID : String) (calls : List AllowCall) : List Nat :=
  (history (fun earlier call => earlier ++ [call]) [] calls).filterMap fun entry =>
    if entry.2.tenantID = tenantID ∧ isEarly rl entry.1 entry.2 then some entry.2.env.now
    else none

/-- When an early call comes, the surplus of early calls in the window before is
a whole window old. -/
def FitsAcross (earlier : List AllowCall) (call : AllowCall) : Prop :=
  isEarly rl earlier call = true →
    ∀ scope : Scope, ∀ t ∈ surplus scope.width (rl.limit scope).toNat call.env.now
        (earlyTimes rl call.tenantID earlier),
      t + scope.width ≤ call.env.now

def Monotonic (calls : List AllowCall) : Prop :=
  (calls.map fun call => call.env.now).Pairwise (· ≤ ·)

end Definitions

/-! ## Keys outlive their windows -/

def Lasting (redis : Counters String) : Prop :=
  ∀ (scope : Scope) (tenantID : String) (n : Nat) (counter : Counter) (deadline : Nat),
    redis (windowKey scope tenantID n) = some counter → counter.deadline = some deadline →
      (n + 1) * scope.width ≤ deadline

section Lasting
variable {redis : Counters String}

theorem end_after (scope : Scope) (now : Nat) : now < (now / scope.width + 1) * scope.width := by
  have whole := Nat.lt_div_mul_add scope.width_pos (a := now)
  rw [Nat.add_mul, Nat.one_mul]
  exact whole

theorem live_windowKey (lasting : Lasting redis) {scope : Scope} {now n : Nat}
    (notOver : now < (n + 1) * scope.width) (tenantID : String) :
    live now redis (windowKey scope tenantID n) = redis (windowKey scope tenantID n) := by
  unfold live
  cases present : redis (windowKey scope tenantID n) with
  | none => rfl
  | some counter =>
      apply Option.filter_eq_some_iff.mpr
      refine ⟨rfl, ?_⟩
      unfold Counter.alive
      cases isDeadline : counter.deadline with
      | none => rfl
      | some deadline =>
          have bound := lasting scope tenantID n counter deadline present isDeadline
          simp only [Option.all_some, decide_eq_true_eq]
          omega

theorem live_keyAt (lasting : Lasting redis) (scope : Scope) (tenantID : String) (now : Nat) :
    live now redis (keyAt scope tenantID now) = redis (keyAt scope tenantID now) := by
  rw [keyAt_eq]
  exact live_windowKey lasting (end_after scope now) tenantID

theorem Lasting.update (lasting : Lasting redis) (scope : Scope) (tenantID : String) (now : Nat)
    (counter : Counter)
    (late : ∀ deadline, counter.deadline = some deadline →
      (now / scope.width + 1) * scope.width ≤ deadline) :
    Lasting (Function.update redis (keyAt scope tenantID now) (some counter)) := by
  intro scope' tenantID' n counter' deadline found isDeadline
  by_cases same : windowKey scope' tenantID' n = keyAt scope tenantID now
  · rw [same, Function.update_self, Option.some.injEq] at found
    rw [keyAt_eq] at same
    obtain ⟨rfl, _, rfl⟩ := windowKey_inj same
    rw [← found] at isDeadline
    exact late deadline isDeadline
  · rw [Function.update_of_ne same] at found
    exact lasting scope' tenantID' n counter' deadline found isDeadline

theorem Lasting.incr (lasting : Lasting redis) (scope : Scope) (tenantID : String) (now : Nat) :
    Lasting (exec now redis (.incr (keyAt scope tenantID now))).2 := by
  apply lasting.update
  intro deadline isDeadline
  obtain ⟨counter, present, isDeadline⟩ := Option.bind_eq_some_iff.mp isDeadline
  rw [live_keyAt lasting, keyAt_eq] at present
  exact lasting scope tenantID _ counter deadline present isDeadline

theorem Lasting.expire (lasting : Lasting redis) (scope : Scope) (tenantID : String) (now : Nat) :
    Lasting (exec now redis (.expire (keyAt scope tenantID now) (2 * scope.width))).2 := by
  simp only [exec]
  split
  · exact lasting
  · apply lasting.update
    intro deadline isDeadline
    have begun := Nat.div_mul_le_self now scope.width
    simp only [Option.some.injEq] at isDeadline
    rw [Nat.add_mul, Nat.one_mul]
    omega

theorem Lasting.pipeline (lasting : Lasting redis) {tenantID : String} {now : Nat}
    {part : List (Command String)} (within : ∀ command ∈ part, command ∈ commands tenantID now) :
    Lasting (pipeline now part redis).2 := by
  have kept : ∀ command ∈ part, ∀ store, Lasting store → Lasting (exec now store command).2 := by
    intro command member store lasting
    have sent := within command member
    simp only [commands, List.mem_cons, List.not_mem_nil, or_false] at sent
    rcases sent with rfl | rfl | rfl | rfl
    · exact lasting.incr .minute tenantID now
    · exact lasting.incr .hour tenantID now
    · exact lasting.expire .minute tenantID now
    · exact lasting.expire .hour tenantID now
  exact pipeline_invariant kept lasting

theorem step_lasting (rl : RateLimiter) (redis : Counters String) (call : AllowCall)
    (lasting : Lasting redis) : Lasting (step rl redis call) := by
  obtain ⟨sent, within, answer, sends⟩ := allow_sends rl call.tenantID call.env
  rw [step, sends]
  exact lasting.pipeline within

theorem lasting_after {Op : Type} {next : Counters String → Op → Counters String}
    (kept : ∀ redis op, Lasting redis → Lasting (next redis op)) (ops : List Op) :
    Lasting (after next noKeys ops) := by
  have start : Lasting noKeys := by
    intro scope tenantID n counter deadline found
    cases found
  exact after_invariant kept start ops

theorem run_lasting (rl : RateLimiter) (calls : List AllowCall) :
    Lasting (after (step rl) noKeys calls) :=
  lasting_after (step_lasting rl) calls

end Lasting

/-! ## The counters count attempts -/

section Attempts
variable (rl : RateLimiter)

theorem keyAt_eq_windowKey_iff {scope scope' : Scope} {tenantID tenantID' : String} {now n : Nat} :
    keyAt scope tenantID now = windowKey scope' tenantID' n ↔
      scope = scope' ∧ tenantID = tenantID' ∧ now / scope.width = n := by
  rw [keyAt_eq]
  constructor
  · exact windowKey_inj
  · rintro ⟨rfl, rfl, rfl⟩
    rfl

theorem step_eq (redis : Counters String) {call : AllowCall} (nonEmpty : call.tenantID ≠ "") :
    step rl redis call =
      (pipeline call.env.now
        ((commands call.tenantID call.env.now).take (applied call.env)) redis).2 := by
  unfold step allow applied
  rw [if_neg nonEmpty]
  cases call.env.failure with
  | some failure => rfl
  | none =>
      have all : (commands call.tenantID call.env.now).take 4 =
          commands call.tenantID call.env.now := rfl
      simp only [all]
      split_ifs <;> rfl

theorem countP_increments (scope : Scope) (tenantID : String) (now sent : Nat) :
    ((commands tenantID now).take sent).countP (increments (keyAt scope tenantID now)) =
      if place scope < sent then 1 else 0 := by
  have apart := minute_ne_hour tenantID now
  rcases sent with _ | _ | _ | _ | sent <;>
    cases scope <;> simp [commands, increments, place, apart, apart.symm]

theorem step_stored {redis : Counters String} {tenantID : String} (lasting : Lasting redis)
    (nonEmpty : tenantID ≠ "") (call : AllowCall) (scope : Scope) (n : Nat) :
    stored (step rl redis call) (windowKey scope tenantID n) =
      stored redis (windowKey scope tenantID n) +
        if (call.tenantID = tenantID ∧ place scope < applied call.env) ∧
          call.env.now / scope.width = n then 1 else 0 := by
  by_cases own : call.tenantID = tenantID
  · subst own
    rw [step_eq rl redis nonEmpty]
    by_cases here : call.env.now / scope.width = n
    · subst here
      have leaves : ∀ command ∈ (commands call.tenantID call.env.now).take (applied call.env),
          command.leavesAlive := by
        intro command member
        have sent := List.mem_of_mem_take member
        simp only [commands, List.mem_cons, List.not_mem_nil, or_false] at sent
        rcases sent with rfl | rfl | rfl | rfl
        · trivial
        · trivial
        · exact Nat.mul_pos Nat.two_pos Scope.minute.width_pos
        · exact Nat.mul_pos Nat.two_pos Scope.hour.width_pos
      rw [← keyAt_eq, pipeline_stored (live_keyAt lasting scope _ _) leaves, countP_increments]
      simp
    · have elsewhere : ∀ command ∈ (commands call.tenantID call.env.now).take (applied call.env),
          command.key ≠ windowKey scope call.tenantID n := by
        intro command member same
        obtain ⟨scope', isKey⟩ := commands_keyAt (List.mem_of_mem_take member)
        rw [isKey] at same
        obtain ⟨rfl, _, number⟩ := keyAt_eq_windowKey_iff.mp same
        exact here number
      rw [if_neg fun both => here both.2, stored, pipeline_frame _ elsewhere]
      rfl
  · have kept := @allow_frame rl tenantID redis _ _ own call.env ⟨scope, n, rfl⟩
    rw [if_neg fun both => own both.1.1, stored, step, kept]
    rfl

theorem place_lt_applied {env : AllowEnv} (answered : env.failure = none) (scope : Scope) :
    place scope < applied env := by
  cases scope <;> simp [applied, answered, place]

theorem countedTimes_snoc (scope : Scope) (tenantID : String) (calls : List AllowCall)
    (call : AllowCall) :
    countedTimes scope tenantID (calls ++ [call]) =
      countedTimes scope tenantID calls ++
        if call.tenantID = tenantID ∧ place scope < applied call.env then [call.env.now]
        else [] := by
  unfold countedTimes
  rw [List.filter_append, List.map_append]
  split_ifs with counted
  · simp [counted]
  · simp [counted]

theorem run_stored {tenantID : String} (nonEmpty : tenantID ≠ "") (calls : List AllowCall)
    (scope : Scope) (n : Nat) :
    stored (after (step rl) noKeys calls) (windowKey scope tenantID n) =
      inWindow scope.width n (countedTimes scope tenantID calls) := by
  induction calls using List.reverseRecOn with
  | nil => rfl
  | append_singleton calls call ih =>
      rw [after_snoc, step_stored rl (run_lasting rl calls) nonEmpty, ih, countedTimes_snoc]
      by_cases counted : call.tenantID = tenantID ∧ place scope < applied call.env
      · rw [if_pos counted, inWindow_snoc]
        simp only [counted, true_and, and_self]
      · rw [if_neg counted, List.append_nil, if_neg fun both => counted both.1, Nat.add_zero]

theorem run_count {tenantID : String} (nonEmpty : tenantID ≠ "") (calls : List AllowCall)
    (scope : Scope) (now : Nat) :
    count now (after (step rl) noKeys calls) (keyAt scope tenantID now) =
      inWindow scope.width (now / scope.width) (countedTimes scope tenantID calls) := by
  rw [count_eq_stored (live_keyAt (run_lasting rl calls) scope tenantID now), keyAt_eq,
    run_stored rl nonEmpty]

theorem isEarly_iff (earlier : List AllowCall) (call : AllowCall) :
    isEarly rl earlier call = true ↔
      call.tenantID ≠ "" ∧ call.env.failure = none ∧ ∀ scope : Scope,
        (inWindow scope.width (call.env.now / scope.width)
          (countedTimes scope call.tenantID earlier) : Int) < rl.limit scope := by
  rw [forall_scope_iff]
  simp [isEarly, and_assoc]

theorem isAllowed_eq_isEarly (earlier : List AllowCall) (call : AllowCall) :
    isAllowed rl (after (step rl) noKeys earlier) call = isEarly rl earlier call := by
  rw [Bool.eq_iff_iff, isEarly_iff, isAllowed, allow_allowed_iff, HasRoom]
  apply and_congr_right
  intro nonEmpty
  simp only [run_count rl nonEmpty, Int.add_one_le_iff]

end Attempts

/-! ## The early calls -/

section Early
variable (rl : RateLimiter)

theorem after_append_self (calls : List AllowCall) :
    after (fun earlier call => earlier ++ [call]) [] calls = calls := by
  induction calls using List.reverseRecOn with
  | nil => rfl
  | append_singleton calls call ih => rw [after_snoc, ih]

theorem earlyTimes_snoc (tenantID : String) (calls : List AllowCall) (call : AllowCall) :
    earlyTimes rl tenantID (calls ++ [call]) =
      earlyTimes rl tenantID calls ++
        if call.tenantID = tenantID ∧ isEarly rl calls call then [call.env.now] else [] := by
  simp only [earlyTimes, history_snoc, after_append_self, List.filterMap_append]
  split_ifs with early
  · simp [early]
  · simp [early]

theorem allowedTimes_snoc (tenantID : String) (calls : List AllowCall) (call : AllowCall) :
    allowedTimes rl tenantID (calls ++ [call]) =
      allowedTimes rl tenantID calls ++
        if call.tenantID = tenantID ∧ isAllowed rl (after (step rl) noKeys calls) call then
          [call.env.now]
        else [] := by
  simp only [allowedTimes, history_snoc, List.filterMap_append]
  split_ifs with allowed
  · simp [allowed]
  · simp [allowed]

theorem allowedTimes_eq (tenantID : String) (calls : List AllowCall) :
    allowedTimes rl tenantID calls = earlyTimes rl tenantID calls := by
  induction calls using List.reverseRecOn with
  | nil => rfl
  | append_singleton calls call ih =>
      rw [allowedTimes_snoc, earlyTimes_snoc, ih, isAllowed_eq_isEarly]

theorem earlyTimes_sublist (scope : Scope) (tenantID : String) (calls : List AllowCall) :
    (earlyTimes rl tenantID calls).Sublist (countedTimes scope tenantID calls) := by
  induction calls using List.reverseRecOn with
  | nil => exact List.Sublist.refl []
  | append_singleton calls call ih =>
      rw [earlyTimes_snoc, countedTimes_snoc]
      apply ih.append
      split_ifs with early counted
      · exact List.Sublist.refl _
      · have answered := ((isEarly_iff rl calls call).mp early.2).2.1
        exact absurd ⟨early.1, place_lt_applied answered scope⟩ counted
      · exact List.nil_sublist _
      · exact List.Sublist.refl []

end Early

/-! ## Intervals across two windows -/

section Sliding
variable (rl : RateLimiter)

theorem Monotonic.of_snoc {calls : List AllowCall} {call : AllowCall}
    (clock : Monotonic (calls ++ [call])) :
    Monotonic calls ∧ ∀ other ∈ calls, other.env.now ≤ call.env.now := by
  unfold Monotonic at clock ⊢
  rw [List.map_append, List.pairwise_append] at clock
  obtain ⟨before, _, across⟩ := clock
  exact ⟨before, fun other member => across _ (List.mem_map_of_mem member) _ (by simp)⟩

theorem earlyTimes_inOrder {calls : List AllowCall} (clock : Monotonic calls) (tenantID : String) :
    (earlyTimes rl tenantID calls).Pairwise (· ≤ ·) := by
  have made : (countedTimes .minute tenantID calls).Sublist (calls.map fun call => call.env.now) :=
    List.filter_sublist.map _
  exact clock.sublist ((earlyTimes_sublist rl .minute tenantID calls).trans made)

theorem earlyTimes_le {calls : List AllowCall} {now : Nat}
    (past : ∀ call ∈ calls, call.env.now ≤ now) (tenantID : String) :
    ∀ t ∈ earlyTimes rl tenantID calls, t ≤ now := by
  intro t member
  obtain ⟨call, listed, rfl⟩ :=
    List.mem_map.mp ((earlyTimes_sublist rl .minute tenantID calls).subset member)
  exact past call (List.mem_of_mem_filter listed)

/-- The tenant's intervals after an early call: within the window the limit on
attempts sees to the bound, so only calls across its start are in question. -/
theorem interval_step {earlier : List AllowCall} {call : AllowCall}
    (clock : Monotonic (earlier ++ [call])) (early : isEarly rl earlier call = true)
    (scope : Scope) :
    (∀ s, (inInterval scope.width s
        (earlyTimes rl call.tenantID earlier ++ [call.env.now]) : Int) ≤ rl.limit scope) ↔
      (∀ s, (inInterval scope.width s (earlyTimes rl call.tenantID earlier) : Int) ≤
          rl.limit scope) ∧
        ∀ t ∈ surplus scope.width (rl.limit scope).toNat call.env.now
            (earlyTimes rl call.tenantID earlier),
          t + scope.width ≤ call.env.now := by
  have room := ((isEarly_iff rl earlier call).mp early).2.2 scope
  have atMost : inWindow scope.width (call.env.now / scope.width)
      (earlyTimes rl call.tenantID earlier) ≤ _ :=
    (earlyTimes_sublist rl scope call.tenantID earlier).countP_le
  have limit : 0 ≤ rl.limit scope := by omega
  simp only [← Int.le_toNat limit]
  refine sliding_snoc scope.width_pos (earlyTimes_inOrder rl clock.of_snoc.1 call.tenantID)
    (earlyTimes_le rl clock.of_snoc.2 call.tenantID) (atMost.trans_lt ?_)
  exact Int.lt_toNat.mpr room

theorem sliding_step (earlier : List AllowCall) (call : AllowCall)
    (clock : Monotonic (earlier ++ [call])) :
    Sliding rl (earlier ++ [call]) ↔ Sliding rl earlier ∧ FitsAcross rl earlier call := by
  simp only [Sliding, allowedTimes_eq, earlyTimes_snoc]
  by_cases early : isEarly rl earlier call = true
  · have exact_scope := interval_step rl clock early
    constructor
    · intro sliding
      have here : ∀ scope, _ := fun scope => (exact_scope scope).mp fun s => by
        simpa [early] using sliding call.tenantID scope s
      constructor
      · intro tenantID scope s
        by_cases same : call.tenantID = tenantID
        · rw [← same]
          exact (here scope).1 s
        · simpa [same] using sliding tenantID scope s
      · intro _ scope
        exact (here scope).2
    · rintro ⟨sliding, fits⟩ tenantID scope s
      by_cases same : call.tenantID = tenantID
      · rw [← same, if_pos ⟨rfl, early⟩]
        exact (exact_scope scope).mpr ⟨sliding call.tenantID scope, fits early scope⟩ s
      · rw [if_neg fun both => same both.1, List.append_nil]
        exact sliding tenantID scope s
  · simp only [FitsAcross, early, and_false, if_false, List.append_nil, false_imp_iff, and_true,
      Bool.false_eq_true]

/-- The limits hold in every interval exactly when they are limits at all and
every early call comes late enough after the early calls of the window before. -/
theorem sliding_window_iff (calls : List AllowCall) (clock : Monotonic calls) :
    Sliding rl calls ↔
      (∀ scope, 0 ≤ rl.limit scope) ∧
        ∀ earlier call, earlier ++ [call] <+: calls → FitsAcross rl earlier call := by
  have start : Sliding rl [] ↔ ∀ scope, 0 ≤ rl.limit scope := by
    unfold Sliding
    constructor
    · intro sliding scope
      exact sliding "" scope 0
    · intro limits _ scope _
      exact limits scope
  rw [iff_forall_last (sliding_step rl) (fun _ _ snoc => snoc.of_snoc.1) clock, start]

end Sliding

def callAt (tenantID : String) (now : Nat) : AllowCall := ⟨tenantID, ⟨now, now, none⟩⟩

/-- With two calls a minute: two calls and one that is denied, two more of the
next minute, each a minute after one of the first, and a call of another tenant. -/
def steady : List AllowCall :=
  [] ++ [callAt "a" (10 * second)] ++ [callAt "a" (50 * second)] ++ [callAt "a" (55 * second)] ++
    [callAt "a" (75 * second)] ++ [callAt "b" (80 * second)] ++ [callAt "a" (110 * second)]

theorem steady_sliding :
    Monotonic steady ∧
      allowedTimes ⟨2, 1000⟩ "a" steady = [10 * second, 50 * second, 75 * second, 110 * second] ∧
      Sliding ⟨2, 1000⟩ steady := by
  have clock : Monotonic steady := by
    unfold Monotonic
    decide +kernel
  have apart : ∀ earlier call, earlier ++ [call] <+: steady →
      FitsAcross ⟨2, 1000⟩ earlier call := by
    unfold steady
    simp only [forall_last_snoc]
    refine ⟨⟨⟨⟨⟨⟨by simp, ?_⟩, ?_⟩, ?_⟩, ?_⟩, ?_⟩, ?_⟩
    all_goals
      intro _ scope
      cases scope <;> decide +kernel
  have limits : ∀ scope, 0 ≤ RateLimiter.limit ⟨2, 1000⟩ scope := by
    intro scope
    cases scope <;> decide
  exact ⟨clock, by decide +kernel, (sliding_window_iff ⟨2, 1000⟩ steady clock).mpr ⟨limits, apart⟩⟩

/-- With one call a minute: one in the last second of a minute, and one in the
first second of the next. -/
def acrossMinute : List AllowCall := [callAt "a" (59 * second), callAt "a" (60 * second)]

theorem two_calls_in_a_second :
    Monotonic acrossMinute ∧
      (history (step ⟨1, 1000⟩) noKeys acrossMinute).map
          (fun entry => isAllowed ⟨1, 1000⟩ entry.1 entry.2) = [true, true] ∧
      inInterval Scope.minute.width (59 * second) (allowedTimes ⟨1, 1000⟩ "a" acrossMinute) = 2 ∧
      ¬ Sliding ⟨1, 1000⟩ acrossMinute := by
  have two : inInterval Scope.minute.width (59 * second)
      (allowedTimes ⟨1, 1000⟩ "a" acrossMinute) = 2 := by
    decide +kernel
  refine ⟨by unfold Monotonic; decide +kernel, by decide +kernel, two, ?_⟩
  intro sliding
  have bound := sliding "a" .minute (59 * second)
  rw [two] at bound
  exact absurd bound (by decide)

end CloudOS.Orchestrator.SlidingWindow
