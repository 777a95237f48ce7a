import CloudOS.Lib.History

/-!
# The circuit breaker of the Module 1 client

The four critical sections of `module2-orchestrator/pkg/grpc/module1_client.go`
that touch the breaker.  Each runs under the client's mutex, so what any number
of callers do to the breaker is a list of them, in some order and at some times.
Times and durations are nanoseconds; log lines are left out.
-/

set_option autoImplicit false

namespace CloudOS.Orchestrator.CircuitBreaker

open CloudOS.Lib.History

inductive CircuitBreakerState where
  | stateClosed
  | stateOpen
  | stateHalfOpen
  deriving DecidableEq, Repr

structure ClientConfig where
  maxRetries : Int
  timeout : Int
  retryBackoff : Int
  maxConsecutiveErr : Int
  circuitRecoverTime : Int
  healthCheckInterval : Int
  deriving DecidableEq, Repr

def second : Int := 1000000000

/-- The values `NewModule1RealClient` starts from. -/
def ClientConfig.default : ClientConfig :=
  ⟨3, 30 * second, 1 * second, 5, 30 * second, 30 * second⟩

structure Breaker where
  consecutiveErr : Int
  circuitState : CircuitBreakerState
  lastFailTime : Int
  deriving DecidableEq, Repr

def Breaker.fresh : Breaker := ⟨0, .stateClosed, 0⟩

/-- `circuit breaker is open (failed %d consecutive times, recover in %s)` -/
structure CircuitOpenError where
  failed : Int
  recoverIn : Int
  deriving DecidableEq, Repr

/-- `time.Since(c.lastFailTime) > c.config.CircuitRecoverTime` -/
def Breaker.recovered (config : ClientConfig) (b : Breaker) (now : Int) : Bool :=
  config.circuitRecoverTime < now - b.lastFailTime

def checkCircuitBreaker (config : ClientConfig) (b : Breaker) (now : Int) :
    Option CircuitOpenError × Breaker :=
  match b.circuitState with
  | .stateClosed => (none, b)
  | .stateOpen =>
      if b.recovered config now then
        (none, { b with circuitState := .stateHalfOpen, consecutiveErr := 0 })
      else
        (some ⟨config.maxConsecutiveErr,
          config.circuitRecoverTime - (now - b.lastFailTime)⟩, b)
  | .stateHalfOpen => (none, b)

def recordSuccess (b : Breaker) : Breaker :=
  { b with
    circuitState :=
      if b.circuitState = .stateHalfOpen then .stateClosed else b.circuitState
    consecutiveErr := 0 }

def recordFailure (config : ClientConfig) (b : Breaker) (now : Int) : Breaker :=
  { consecutiveErr := b.consecutiveErr + 1
    lastFailTime := now
    circuitState :=
      if config.maxConsecutiveErr ≤ b.consecutiveErr + 1 ∧ b.circuitState ≠ .stateOpen then
        .stateOpen
      else b.circuitState }

/-- The part of `connectWithRetry` under the mutex. -/
def resetBreaker (b : Breaker) : Breaker :=
  { b with consecutiveErr := 0, circuitState := .stateClosed }

/-! ## Steps and histories -/

inductive BreakerOp where
  | checkCircuitBreaker (now : Int)
  | recordSuccess
  | recordFailure (now : Int)
  | reset
  deriving DecidableEq, Repr

def apply (config : ClientConfig) (b : Breaker) : BreakerOp → Breaker
  | .checkCircuitBreaker now => (checkCircuitBreaker config b now).2
  | .recordSuccess => recordSuccess b
  | .recordFailure now => recordFailure config b now
  | .reset => resetBreaker b

def breakerAfter (config : ClientConfig) (ops : List BreakerOp) : Breaker :=
  after (apply config) .fresh ops

def breakerHistory (config : ClientConfig) (ops : List BreakerOp) :
    List (Breaker × BreakerOp) :=
  history (apply config) .fresh ops

theorem breakerAfter_append (config : ClientConfig) (first second : List BreakerOp) :
    breakerAfter config (first ++ second) =
      after (apply config) (breakerAfter config first) second :=
  after_append (apply config) .fresh first second

theorem breakerAfter_snoc (config : ClientConfig) (ops : List BreakerOp) (op : BreakerOp) :
    breakerAfter config (ops ++ [op]) = apply config (breakerAfter config ops) op :=
  after_snoc (apply config) .fresh ops op

def startsProbe (config : ClientConfig) : Breaker × BreakerOp → Bool
  | (b, .checkCircuitBreaker now) => b.circuitState = .stateOpen ∧ b.recovered config now
  | _ => false

def clears (config : ClientConfig) : Breaker × BreakerOp → Bool
  | (_, .recordSuccess) => true
  | (_, .reset) => true
  | step => startsProbe config step

def isFailure : Breaker × BreakerOp → Bool
  | (_, .recordFailure _) => true
  | _ => false

/-- Failures recorded since the last success, reset or half-open transition. -/
def failureStreak (config : ClientConfig) (ops : List BreakerOp) : Nat :=
  countSince (clears config) isFailure (breakerHistory config ops)

/-- Failures recorded since the breaker last became half-open. -/
def failuresSinceProbe (config : ClientConfig) (ops : List BreakerOp) : Nat :=
  countSince (startsProbe config) isFailure (breakerHistory config ops)

/-! ## What one step does -/

section Steps
variable {config : ClientConfig} {b : Breaker} {now : Int}

theorem check_of_probe (probe : startsProbe config (b, .checkCircuitBreaker now) = true) :
    checkCircuitBreaker config b now =
      (none, { b with circuitState := .stateHalfOpen, consecutiveErr := 0 }) := by
  simp only [startsProbe, decide_eq_true_eq] at probe
  simp [checkCircuitBreaker, probe.1, probe.2]

theorem check_of_no_probe (noProbe : startsProbe config (b, .checkCircuitBreaker now) = false) :
    (checkCircuitBreaker config b now).2 = b := by
  simp only [startsProbe, decide_eq_false_iff_not, not_and] at noProbe
  unfold checkCircuitBreaker
  cases state : b.circuitState with
  | stateClosed => rfl
  | stateHalfOpen => rfl
  | stateOpen => simp [noProbe state]

theorem check_rejects_iff :
    (checkCircuitBreaker config b now).1.isSome ↔
      b.circuitState = .stateOpen ∧ b.recovered config now = false := by
  unfold checkCircuitBreaker
  cases state : b.circuitState with
  | stateClosed => simp
  | stateHalfOpen => simp
  | stateOpen => cases recovered : b.recovered config now <;> simp

theorem recordFailure_opens_iff (notOpen : b.circuitState ≠ .stateOpen) :
    (recordFailure config b now).circuitState = .stateOpen ↔
      config.maxConsecutiveErr ≤ b.consecutiveErr + 1 := by
  simp only [recordFailure, notOpen, ne_eq, not_false_eq_true, and_true]
  constructor
  · intro opened
    by_contra few
    rw [if_neg few] at opened
    exact notOpen opened
  · intro many
    rw [if_pos many]

end Steps

/-! ## The counter is the length of the current series of failures -/

theorem consecutiveErr_eq_streak (config : ClientConfig) (ops : List BreakerOp) :
    (breakerAfter config ops).consecutiveErr = failureStreak config ops := by
  unfold breakerAfter failureStreak breakerHistory
  induction ops using List.reverseRecOn with
  | nil => rfl
  | append_singleton ops op ih =>
      rw [after_snoc, history_snoc]
      generalize after (apply config) .fresh ops = b at ih ⊢
      cases op with
      | recordSuccess => rw [countSince_stop rfl]; rfl
      | reset => rw [countSince_stop rfl]; rfl
      | recordFailure now =>
          rw [countSince_count rfl rfl]
          simp only [apply, recordFailure, ih]
          push_cast
          rfl
      | checkCircuitBreaker now =>
          cases probe : startsProbe config (b, .checkCircuitBreaker now) with
          | true =>
              have stop : clears config (b, .checkCircuitBreaker now) = true := probe
              rw [countSince_stop stop]
              simp only [apply, check_of_probe probe]
              rfl
          | false =>
              have go : clears config (b, .checkCircuitBreaker now) = false := probe
              rw [countSince_skip go rfl]
              simp only [apply, check_of_no_probe probe, ih]

def Below (config : ClientConfig) (b : Breaker) : Prop :=
  b.circuitState ≠ .stateOpen → b.consecutiveErr < config.maxConsecutiveErr

theorem apply_below {config : ClientConfig} (positive : 1 ≤ config.maxConsecutiveErr)
    (b : Breaker) (op : BreakerOp) (below : Below config b) : Below config (apply config b op) := by
  cases op with
  | recordSuccess =>
      intro _
      show 0 < config.maxConsecutiveErr
      omega
  | reset =>
      intro _
      show 0 < config.maxConsecutiveErr
      omega
  | recordFailure now =>
      intro notOpen
      have wasNotOpen : b.circuitState ≠ .stateOpen := by
        intro wasOpen
        exact notOpen (by simp [apply, recordFailure, wasOpen])
      have few : ¬ config.maxConsecutiveErr ≤ b.consecutiveErr + 1 := by
        intro many
        exact notOpen ((recordFailure_opens_iff wasNotOpen).mpr many)
      show b.consecutiveErr + 1 < config.maxConsecutiveErr
      omega
  | checkCircuitBreaker now =>
      cases probe : startsProbe config (b, .checkCircuitBreaker now) with
      | true =>
          intro _
          simp only [apply, check_of_probe probe]
          omega
      | false =>
          simp only [apply, check_of_no_probe probe]
          exact below

theorem breakerAfter_below {config : ClientConfig} (positive : 1 ≤ config.maxConsecutiveErr)
    (ops : List BreakerOp) : Below config (breakerAfter config ops) := by
  have fresh : Below config .fresh := by
    intro _
    show 0 < config.maxConsecutiveErr
    omega
  exact after_invariant (apply_below positive) fresh ops

theorem apply_opens {config : ClientConfig} {b : Breaker} {op : BreakerOp}
    (wasNotOpen : b.circuitState ≠ .stateOpen)
    (opened : (apply config b op).circuitState = .stateOpen) :
    ∃ now, op = .recordFailure now ∧ config.maxConsecutiveErr ≤ b.consecutiveErr + 1 := by
  cases op with
  | recordFailure now => exact ⟨now, rfl, (recordFailure_opens_iff wasNotOpen).mp opened⟩
  | reset => cases opened
  | recordSuccess =>
      simp only [apply, recordSuccess] at opened
      split at opened
      · cases opened
      · exact absurd opened wasNotOpen
  | checkCircuitBreaker now =>
      cases probe : startsProbe config (b, .checkCircuitBreaker now) with
      | true =>
          simp only [apply, check_of_probe probe] at opened
          cases opened
      | false =>
          simp only [apply, check_of_no_probe probe] at opened
          exact absurd opened wasNotOpen

/-- Whatever the callers did so far: a breaker that is not open counts fewer
errors than its threshold, and the next step opens it only if it records a
failure that completes an uninterrupted series. -/
theorem counter_within_threshold (config : ClientConfig)
    (positive : 1 ≤ config.maxConsecutiveErr) (ops : List BreakerOp) :
    ((breakerAfter config ops).circuitState ≠ .stateOpen →
      0 ≤ (breakerAfter config ops).consecutiveErr ∧
      (breakerAfter config ops).consecutiveErr < config.maxConsecutiveErr) ∧
    (∀ op, (breakerAfter config ops).circuitState ≠ .stateOpen →
      (breakerAfter config (ops ++ [op])).circuitState = .stateOpen →
      (∃ now, op = .recordFailure now) ∧
      config.maxConsecutiveErr - 1 ≤ failureStreak config ops) := by
  have counted := consecutiveErr_eq_streak config ops
  constructor
  · intro notOpen
    have below := breakerAfter_below positive ops notOpen
    omega
  · intro op notOpen opened
    rw [breakerAfter_snoc] at opened
    obtain ⟨now, isFailure, many⟩ := apply_opens notOpen opened
    exact ⟨⟨now, isFailure⟩, by omega⟩

def fiveFailures : List BreakerOp :=
  [.recordFailure 1, .recordFailure 2, .recordFailure 3, .recordFailure 4, .recordFailure 5]

theorem default_opens_at_fifth :
    (breakerAfter .default fiveFailures).circuitState = .stateOpen ∧
    ClientConfig.default.maxConsecutiveErr - 1 ≤
      failureStreak .default (fiveFailures.take 4) := by
  have opened : (breakerAfter .default (fiveFailures.take 4 ++ [.recordFailure 5])).circuitState =
      .stateOpen := by decide
  have within := counter_within_threshold .default (by decide) (fiveFailures.take 4)
  exact ⟨opened, (within.2 (.recordFailure 5) (by decide) opened).2⟩

/-! ## When the breaker is open -/

def leavesOpen (config : ClientConfig) : Breaker × BreakerOp → Bool
  | (_, .reset) => true
  | step => startsProbe config step

/-- A failure completed a full series, and the breaker has neither gone
half-open nor been reset since. -/
def TrippedSince (config : ClientConfig) (ops : List BreakerOp) : Prop :=
  ∃ earlier now later, ops = earlier ++ [.recordFailure now] ++ later ∧
    config.maxConsecutiveErr ≤ failureStreak config earlier + 1 ∧
    ∀ entry ∈ history (apply config) (breakerAfter config (earlier ++ [.recordFailure now])) later,
      leavesOpen config entry = false

theorem apply_stays_open {config : ClientConfig} {b : Breaker} {op : BreakerOp}
    (isOpen : b.circuitState = .stateOpen) (stays : leavesOpen config (b, op) = false) :
    (apply config b op).circuitState = .stateOpen := by
  cases op with
  | reset => cases stays
  | recordSuccess => simp [apply, recordSuccess, isOpen]
  | recordFailure now => simp [apply, recordFailure, isOpen]
  | checkCircuitBreaker now =>
      have noProbe : startsProbe config (b, .checkCircuitBreaker now) = false := stays
      simp only [apply, check_of_no_probe noProbe, isOpen]

theorem apply_leaves_open {config : ClientConfig} {b : Breaker} {op : BreakerOp}
    (leaves : leavesOpen config (b, op) = true) :
    (apply config b op).circuitState ≠ .stateOpen := by
  cases op with
  | reset =>
      intro isOpen
      cases isOpen
  | recordSuccess => cases leaves
  | recordFailure now => cases leaves
  | checkCircuitBreaker now =>
      have probe : startsProbe config (b, .checkCircuitBreaker now) = true := leaves
      simp only [apply, check_of_probe probe]
      decide

theorem after_stays_open {config : ClientConfig} {b : Breaker}
    (isOpen : b.circuitState = .stateOpen) (ops : List BreakerOp)
    (stays : ∀ entry ∈ history (apply config) b ops, leavesOpen config entry = false) :
    (after (apply config) b ops).circuitState = .stateOpen := by
  induction ops generalizing b with
  | nil => exact isOpen
  | cons op rest ih =>
      simp only [history, List.forall_mem_cons] at stays
      exact ih (apply_stays_open isOpen stays.1) stays.2

theorem tripped_of_isOpen {config : ClientConfig} {ops : List BreakerOp}
    (isOpen : (breakerAfter config ops).circuitState = .stateOpen) : TrippedSince config ops := by
  induction ops using List.reverseRecOn with
  | nil => cases isOpen
  | append_singleton ops op ih =>
      rw [breakerAfter_snoc] at isOpen
      by_cases wasOpen : (breakerAfter config ops).circuitState = .stateOpen
      · -- it was open before, and the last step did not leave
        obtain ⟨earlier, now, later, rfl, full, stays⟩ := ih wasOpen
        refine ⟨earlier, now, later ++ [op], by simp, full, ?_⟩
        rw [history_snoc, List.forall_mem_append, List.forall_mem_singleton,
          ← breakerAfter_append]
        have stayed : leavesOpen config
            (breakerAfter config (earlier ++ [.recordFailure now] ++ later), op) = false := by
          by_contra leaves
          exact apply_leaves_open (by simpa using leaves) isOpen
        exact ⟨stays, stayed⟩
      · -- the last step opened it
        obtain ⟨now, rfl, many⟩ := apply_opens wasOpen isOpen
        rw [consecutiveErr_eq_streak] at many
        exact ⟨ops, now, [], by simp, many, by simp [history]⟩

theorem isOpen_of_tripped {config : ClientConfig} {ops : List BreakerOp}
    (tripped : TrippedSince config ops) :
    (breakerAfter config ops).circuitState = .stateOpen := by
  obtain ⟨earlier, now, later, rfl, full, stays⟩ := tripped
  rw [← consecutiveErr_eq_streak] at full
  have opened : (apply config (breakerAfter config earlier) (.recordFailure now)).circuitState =
      .stateOpen := by
    by_cases wasOpen : (breakerAfter config earlier).circuitState = .stateOpen
    · exact apply_stays_open wasOpen rfl
    · exact (recordFailure_opens_iff wasOpen).mpr full
  rw [← breakerAfter_snoc] at opened
  rw [breakerAfter_append]
  exact after_stays_open opened later stays

theorem isOpen_iff_tripped {config : ClientConfig} {ops : List BreakerOp} :
    (breakerAfter config ops).circuitState = .stateOpen ↔ TrippedSince config ops :=
  ⟨tripped_of_isOpen, isOpen_of_tripped⟩

/-! ## Failures of a half-open breaker -/

/-- Becoming half-open resets the counter, and nothing but a failure changes
it while the breaker stays half-open. -/
theorem consecutiveErr_of_halfOpen (config : ClientConfig) (ops : List BreakerOp)
    (halfOpen : (breakerAfter config ops).circuitState = .stateHalfOpen) :
    (breakerAfter config ops).consecutiveErr = failuresSinceProbe config ops := by
  unfold breakerAfter failuresSinceProbe breakerHistory at *
  induction ops using List.reverseRecOn with
  | nil => cases halfOpen
  | append_singleton ops op ih =>
      rw [after_snoc] at halfOpen ⊢
      rw [history_snoc]
      generalize after (apply config) .fresh ops = b at ih halfOpen ⊢
      cases op with
      | reset => cases halfOpen
      | recordSuccess =>
          simp only [apply, recordSuccess] at halfOpen
          split at halfOpen
          · cases halfOpen
          · exact absurd halfOpen (by assumption)
      | recordFailure now =>
          simp only [apply, recordFailure] at halfOpen ⊢
          split at halfOpen
          · cases halfOpen
          · rw [countSince_count rfl rfl, ih halfOpen]
            push_cast
            rfl
      | checkCircuitBreaker now =>
          cases probe : startsProbe config (b, .checkCircuitBreaker now) with
          | true =>
              rw [countSince_stop probe]
              simp only [apply, check_of_probe probe]
              rfl
          | false =>
              simp only [apply, check_of_no_probe probe] at halfOpen ⊢
              rw [countSince_skip probe rfl]
              exact ih halfOpen

/-- A failure recorded while half-open opens the breaker again and restarts
its recovery time exactly when it completes a whole new series of failures
since the breaker became half-open. -/
theorem half_open_failure_reopens_iff (config : ClientConfig) (ops : List BreakerOp)
    (halfOpen : (breakerAfter config ops).circuitState = .stateHalfOpen) (now : Int) :
    ((recordFailure config (breakerAfter config ops) now).circuitState = .stateOpen ∧
      (recordFailure config (breakerAfter config ops) now).lastFailTime = now) ↔
    config.maxConsecutiveErr ≤ failuresSinceProbe config ops + 1 := by
  have notOpen : (breakerAfter config ops).circuitState ≠ .stateOpen := by
    rw [halfOpen]
    decide
  rw [recordFailure_opens_iff notOpen, consecutiveErr_of_halfOpen config ops halfOpen]
  exact and_iff_left rfl

/-- With a threshold of one the first failed probe reopens the breaker. -/
theorem threshold_one_reopens :
    (recordFailure { ClientConfig.default with maxConsecutiveErr := 1 }
      (breakerAfter { ClientConfig.default with maxConsecutiveErr := 1 }
        [.recordFailure 0, .checkCircuitBreaker (31 * second)])
      (32 * second)).circuitState = .stateOpen :=
  ((half_open_failure_reopens_iff { ClientConfig.default with maxConsecutiveErr := 1 }
    [.recordFailure 0, .checkCircuitBreaker (31 * second)] (by decide) (32 * second)).mpr
      (by decide)).1

/-- With the default threshold it does not: after five failures and the
recovery time, the failed probe leaves the breaker half-open. -/
theorem failed_probe_stays_half_open :
    1 ≤ ClientConfig.default.maxConsecutiveErr ∧
    (breakerAfter .default (fiveFailures ++ [.checkCircuitBreaker (31 * second)])).circuitState =
      .stateHalfOpen ∧
    (recordFailure .default
      (breakerAfter .default (fiveFailures ++ [.checkCircuitBreaker (31 * second)]))
      (32 * second)).circuitState = .stateHalfOpen := by
  decide

end CloudOS.Orchestrator.CircuitBreaker
