import CloudOS.Orchestrator.ClientSession

/-!
# When a server that does not answer opens the breaker

`callWithRetry` records a failure only after its last attempt.  A caller whose
context ends during a backoff leaves the loop by another exit and records
nothing, so it is the deadlines of the callers that decide whether the breaker
ever opens.
-/

set_option autoImplicit false

namespace CloudOS.Orchestrator.FailureCounting

open CloudOS.Lib.CallProgram
open CloudOS.Lib.History
open CloudOS.Orchestrator.CircuitBreaker
open CloudOS.Orchestrator.Module1Client
open CloudOS.Orchestrator.ClientSession

/-! ## Contexts and backoff waits -/

def backoffAt (config : ClientConfig) : Nat → Int
  | 0 => config.retryBackoff
  | i + 1 => wrapInt64 (backoffAt config i * 2)

/-- When the wait after attempt `i` begins, counted from the beginning of the call. -/
def waitBegins (config : ClientConfig) (input : CallInput) : Nat → Int
  | 0 => input.elapsed 0
  | i + 1 => waitBegins config input i + max (backoffAt config i) 0 + input.elapsed (i + 1)

/-- The context ends the wait after attempt `i`, if the call gets that far. -/
def cutsOff (config : ClientConfig) (input : CallInput) (i : Nat) : Bool :=
  contextWins (input.tie i) (waitBegins config input i) (backoffAt config i) input.patience

def survives (config : ClientConfig) (input : CallInput) : Nat → Nat → Bool
  | _, 0 => true
  | i, left + 1 => !cutsOff config input i && survives config input (i + 1) left

def outlives (config : ClientConfig) (input : CallInput) : Bool :=
  survives config input 0 config.maxRetries.toNat

theorem contextWins_shift (tie : Bool) (begun now d : Int) (doneAt : Option Int) :
    contextWins tie (begun + now) d (doneAt.map (begun + ·)) = contextWins tie now d doneAt := by
  cases doneAt with
  | none => rfl
  | some doneAt =>
      have shifted : max (begun + doneAt) (begun + now) = begun + max doneAt now := by omega
      have fires : begun + now + max d 0 = begun + (now + max d 0) := by omega
      simp only [Option.map_some, contextWins, shifted, fires, Int.add_lt_add_iff_left,
        Int.add_right_inj]

/-! ## One call -/

section Call
variable {config : ClientConfig} {input : CallInput}

/-- Where a retry loop begun at `begun` stands before attempt `i`. -/
structure Standing (config : ClientConfig) (input : CallInput) (begun : Int)
    (doneAt : Option Int) (i : Nat) (s : Session) : Prop where
  index : s.attempts = i
  time : s.clock + input.elapsed i = begun + waitBegins config input i
  context : s.doneAt = doneAt

section Standing
variable {begun : Int} {doneAt : Option Int} {i : Nat} {s : Session}
  (here : Standing config input begun doneAt i s)
include here

theorem Standing.contextWins_eq (d : Int) :
    contextWins (input.tie s.attempts) (attempted input s).clock d s.doneAt =
      contextWins (input.tie i) (begun + waitBegins config input i) d doneAt := by
  rw [here.index, here.context, ← here.time, ← here.index]
  rfl

theorem Standing.waited :
    Standing config input begun doneAt (i + 1) (waited input (backoffAt config i) s) := by
  refine ⟨congrArg (· + 1) here.index, ?_, here.context⟩
  have time := here.time
  rw [← here.index] at time
  simp only [ClientSession.waited, attempted, waitBegins, ← here.index]
  omega

end Standing

theorem outcome_of_failed {left : Nat} {backoffDuration : Int} {lastErr : Option AttemptError}
    {s : Session}
    (failed : ((callLoop config input.request.callFunc (left + 1) backoffDuration
      lastErr).eval (handle config input) s).1.isOk = false) :
    ∃ err, input.outcome s.attempts = .error err := by
  cases outcome : input.outcome s.attempts with
  | ok response =>
      rw [callLoop_success outcome] at failed
      cases failed
  | error err => exact ⟨err, rfl⟩

theorem callLoop_error {begun : Int} {i left : Nat} {s : Session} {lastErr : Option AttemptError}
    (here : Standing config input begun (input.patience.map (begun + ·)) i s)
    (failed : ((callLoop config input.request.callFunc (left + 1) (backoffAt config i)
      lastErr).eval (handle config input) s).1.isOk = false) :
    ∃ now, ((callLoop config input.request.callFunc (left + 1) (backoffAt config i)
      lastErr).eval (handle config input) s).2.breaker =
        if survives config input i left then recordFailure config s.breaker now
        else s.breaker := by
  induction left generalizing i s lastErr with
  | zero =>
      obtain ⟨err, outcome⟩ := outcome_of_failed failed
      rw [callLoop_last outcome]
      exact ⟨_, rfl⟩
  | succ left ih =>
      obtain ⟨err, outcome⟩ := outcome_of_failed failed
      have wins : contextWins (input.tie s.attempts) (attempted input s).clock
          (backoffAt config i) s.doneAt = cutsOff config input i :=
        (here.contextWins_eq _).trans (contextWins_shift _ _ _ _ _)
      rw [callLoop_failure outcome, wins] at failed ⊢
      cases cut : cutsOff config input i with
      | true =>
          refine ⟨0, ?_⟩
          simp [survives, cut, attempted]
      | false =>
          simp only [cut, Bool.false_eq_true, if_false] at failed ⊢
          obtain ⟨now, recorded⟩ := ih here.waited failed
          refine ⟨now, recorded.trans ?_⟩
          simp [survives, cut, waited, attempted]

theorem retryCall_failed {s : Session} (retries : 0 ≤ config.maxRetries)
    (reached : s.sent < (retryCall config s input).2.sent)
    (failed : (retryCall config s input).1.isOk = false) :
    (checkCircuitBreaker config s.breaker (s.clock + input.idle)).1 = none ∧
    ∃ now, (retryStep config s input).breaker =
      if outlives config input then
        recordFailure config (checkCircuitBreaker config s.breaker (s.clock + input.idle)).2 now
      else (checkCircuitBreaker config s.breaker (s.clock + input.idle)).2 := by
  cases checked : (checkCircuitBreaker config s.breaker (s.clock + input.idle)).1 with
  | some err =>
      have rejected : (checkCircuitBreaker config (enter input s).breaker
          (enter input s).clock).1 = some err := checked
      unfold retryCall at reached
      rw [callWithRetry_rejected rejected] at reached
      exact absurd reached (Nat.lt_irrefl s.sent)
  | none =>
      have admitted : (checkCircuitBreaker config (enter input s).breaker
          (enter input s).clock).1 = none := checked
      have iterations : (config.maxRetries + 1).toNat = config.maxRetries.toNat + 1 := by omega
      unfold retryStep
      unfold retryCall at failed ⊢
      rw [callWithRetry_admitted admitted, iterations] at failed ⊢
      have start : Standing config input (s.clock + input.idle)
          (input.patience.map (s.clock + input.idle + ·)) 0 { enter input s with
            breaker := (checkCircuitBreaker config (enter input s).breaker
              (enter input s).clock).2 } := ⟨rfl, rfl, rfl⟩
      exact ⟨rfl, callLoop_error start failed⟩

end Call

/-! ## A series of calls -/

def AllFail (config : ClientConfig) (start : Session) (inputs : List CallInput) : Prop :=
  ∀ entry ∈ history (retryStep config) start inputs,
    entry.1.sent < (retryCall config entry.1 entry.2).2.sent ∧
      (retryCall config entry.1 entry.2).1.isOk = false

def lastOutlives (config : ClientConfig) (inputs : List CallInput) : Bool :=
  (inputs.getLast?.map (outlives config)).getD false

theorem check_admitted {config : ClientConfig} {b : Breaker} {now : Int}
    (admitted : (checkCircuitBreaker config b now).1 = none) :
    (checkCircuitBreaker config b now).2.circuitState ≠ .stateOpen ∧
    (checkCircuitBreaker config b now).2.consecutiveErr =
      if b.circuitState = .stateOpen then 0 else b.consecutiveErr := by
  cases probe : startsProbe config (b, .checkCircuitBreaker now) with
  | true =>
      have wasOpen : b.circuitState = .stateOpen := by
        simp only [startsProbe, decide_eq_true_eq] at probe
        exact probe.1
      rw [check_of_probe probe, if_pos wasOpen]
      constructor
      · intro isOpen
        cases isOpen
      · rfl
  | false =>
      have notOpen : b.circuitState ≠ .stateOpen := by
        intro isOpen
        have notRecovered : b.recovered config now = false := by
          simpa [startsProbe, isOpen] using probe
        have rejects := check_rejects_iff.mpr ⟨isOpen, notRecovered⟩
        rw [admitted] at rejects
        cases rejects
      rw [check_of_no_probe probe, if_neg notOpen]
      exact ⟨notOpen, rfl⟩

theorem allFail_snoc {config : ClientConfig} {start : Session} {inputs : List CallInput}
    {input : CallInput} (allFail : AllFail config start (inputs ++ [input])) :
    AllFail config start inputs ∧
      (after (retryStep config) start inputs).sent <
        (retryCall config (after (retryStep config) start inputs) input).2.sent ∧
      (retryCall config (after (retryStep config) start inputs) input).1.isOk = false := by
  unfold AllFail at allFail
  rw [history_snoc, List.forall_mem_append, List.forall_mem_singleton] at allFail
  exact allFail

/-- The count, of which one full series may have been spent on opening the
breaker. -/
def remainder (config : ClientConfig) (count : Int) : Int :=
  if count < config.maxConsecutiveErr then count else count - config.maxConsecutiveErr

theorem recordFailure_remainder {config : ClientConfig} {b : Breaker} {count : Int} (now : Int)
    (notOpen : b.circuitState ≠ .stateOpen) (held : b.consecutiveErr = remainder config count)
    (short : count + 1 < 2 * config.maxConsecutiveErr) :
    ((recordFailure config b now).circuitState = .stateOpen ↔
      count + 1 = config.maxConsecutiveErr) ∧
    ((recordFailure config b now).circuitState ≠ .stateOpen →
      (recordFailure config b now).consecutiveErr = remainder config (count + 1)) := by
  have opens : (recordFailure config b now).circuitState = .stateOpen ↔
      config.maxConsecutiveErr ≤ b.consecutiveErr + 1 := recordFailure_opens_iff notOpen
  have incremented : (recordFailure config b now).consecutiveErr = b.consecutiveErr + 1 := rfl
  unfold remainder at held ⊢
  simp only [ne_eq, incremented, opens]
  split at held <;> split <;> omega

/-- The breaker after a series that stays short of two full counts: it is open
exactly right after the call that completed the first count. -/
theorem series_breaker {config : ClientConfig} (retries : 0 ≤ config.maxRetries)
    {start : Session} (notOpen : start.breaker.circuitState ≠ .stateOpen)
    (below : start.breaker.consecutiveErr < config.maxConsecutiveErr)
    (inputs : List CallInput) (allFail : AllFail config start inputs)
    (short : start.breaker.consecutiveErr + inputs.countP (outlives config) <
      2 * config.maxConsecutiveErr) :
    ((after (retryStep config) start inputs).breaker.circuitState = .stateOpen ↔
      lastOutlives config inputs = true ∧
      start.breaker.consecutiveErr + inputs.countP (outlives config) =
        config.maxConsecutiveErr) ∧
    ((after (retryStep config) start inputs).breaker.circuitState ≠ .stateOpen →
      (after (retryStep config) start inputs).breaker.consecutiveErr =
        remainder config
          (start.breaker.consecutiveErr + inputs.countP (outlives config))) := by
  induction inputs using List.reverseRecOn with
  | nil => simp [lastOutlives, notOpen, below, remainder]
  | append_singleton inputs input ih =>
      obtain ⟨before, reached, failed⟩ := allFail_snoc allFail
      obtain ⟨admitted, now, recorded⟩ := retryCall_failed retries reached failed
      obtain ⟨admitting, count⟩ := check_admitted admitted
      have last : lastOutlives config (inputs ++ [input]) = outlives config input := by
        simp [lastOutlives]
      rw [List.countP_append, List.countP_singleton] at short ⊢
      rw [after_snoc, recorded, last]
      generalize after (retryStep config) start inputs = s at *
      generalize (checkCircuitBreaker config s.breaker (s.clock + input.idle)).2 = b at *
      have earlier : start.breaker.consecutiveErr + (inputs.countP (outlives config) : Int) <
          2 * config.maxConsecutiveErr := by
        split at short <;> push_cast at short <;> omega
      obtain ⟨openIff, countIs⟩ := ih before earlier
      -- an open breaker has spent one full count, and admitting the call forgets it
      have held : b.consecutiveErr = remainder config
          (start.breaker.consecutiveErr + inputs.countP (outlives config)) := by
        rw [count]
        split
        · rename_i isOpen
          have full := (openIff.mp isOpen).2
          unfold remainder
          omega
        · rename_i isNotOpen
          exact countIs isNotOpen
      cases outlived : outlives config input with
      | true =>
          simp only [outlived, if_true] at short ⊢
          push_cast at short ⊢
          have step := recordFailure_remainder now admitting held (by omega)
          rw [← Int.add_assoc]
          exact ⟨by rw [step.1]; simp, step.2⟩
      | false =>
          simp only [Bool.false_eq_true, if_false, false_and, iff_false, Nat.add_zero]
          exact ⟨admitting, fun _ => held⟩

/-- A series of as many failing calls as the threshold, started with the
breaker closed after any earlier use of the client, ends with the breaker open
exactly if the last call and, with the failures counted before, enough of the
others had contexts that outlived their backoff waits. -/
theorem unreachable_server_opens_iff (config : ClientConfig)
    (positive : 1 ≤ config.maxConsecutiveErr) (retries : 0 ≤ config.maxRetries)
    (earlier inputs : List CallInput)
    (closed : (after (callStep config) .fresh earlier).breaker.circuitState = .stateClosed)
    (number : (inputs.length : Int) = config.maxConsecutiveErr)
    (allFail : AllFail config (after (callStep config) .fresh earlier) inputs) :
    (after (retryStep config) (after (callStep config) .fresh earlier)
      inputs).breaker.circuitState = .stateOpen ↔
    lastOutlives config inputs = true ∧
      (after (callStep config) .fresh earlier).breaker.consecutiveErr +
        inputs.countP (outlives config) = config.maxConsecutiveErr := by
  have notOpen : (after (callStep config) .fresh earlier).breaker.circuitState ≠ .stateOpen := by
    rw [closed]
    decide
  obtain ⟨ops, reached⟩ := session_breaker config earlier
  have below : (after (callStep config) .fresh earlier).breaker.consecutiveErr <
      config.maxConsecutiveErr := by
    rw [reached] at notOpen ⊢
    exact breakerAfter_below positive ops notOpen
  have atMost : inputs.countP (outlives config) ≤ inputs.length := List.countP_le_length
  exact (series_breaker retries notOpen below inputs allFail (by omega)).1

/-! ### Health checks of a server that is down -/

/-- `healthCheckLoop` gives each check five seconds; nothing answers. -/
def failingHealthCheck (patience : Option Int) : CallInput where
  request := .getQueueDepth
  idle := 0
  connState := .ready
  dial := fun _ => true
  reply := fun _ _ => .error ⟨"Unavailable", "connection refused"⟩
  elapsed := fun _ => 0
  patience := patience
  contextError := .deadlineExceeded
  tie := fun _ => false

instance (config : ClientConfig) (start : Session) (inputs : List CallInput) :
    Decidable (AllFail config start inputs) :=
  inferInstanceAs (Decidable (∀ entry ∈ history (retryStep config) start inputs, _ ∧ _))

theorem patient_callers_open :
    (after (retryStep .default) .fresh
      (List.replicate 5 (failingHealthCheck none))).breaker.circuitState = .stateOpen :=
  (unreachable_server_opens_iff .default (by decide) (by decide) []
    (List.replicate 5 (failingHealthCheck none)) rfl rfl (by decide)).mpr (by decide)

/-- Five health checks of the default client: the waits of one, two and four
seconds outlast the five seconds of each check, and nothing is recorded. -/
theorem health_checks_never_open :
    1 ≤ ClientConfig.default.maxConsecutiveErr ∧ 0 ≤ ClientConfig.default.maxRetries ∧
    AllFail .default .fresh (List.replicate 5 (failingHealthCheck (some (5 * second)))) ∧
    ((List.replicate 5 (failingHealthCheck (some (5 * second)))).length : Int) =
      ClientConfig.default.maxConsecutiveErr ∧
    (after (retryStep .default) .fresh
      (List.replicate 5 (failingHealthCheck (some (5 * second))))).breaker = .fresh := by
  decide

end CloudOS.Orchestrator.FailureCounting
