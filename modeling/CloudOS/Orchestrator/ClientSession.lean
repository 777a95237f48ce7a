import CloudOS.Orchestrator.Module1Client

/-!
# A client used by one caller at a time

A `CallInput` is one call with everything the outside world does to it: the
connection state gRPC reports, what the server answers to each attempt and how
long that takes, and when the caller's context is done.  Time passes while an
attempt, a backoff or a sleep is under way, and between calls.
-/

set_option autoImplicit false

namespace CloudOS.Orchestrator.ClientSession

open CloudOS.Lib.CallProgram
open CloudOS.Lib.History
open CloudOS.Orchestrator.CircuitBreaker
open CloudOS.Orchestrator.Module1Client

/-- `patience` is the time from the beginning of the call to the end of its
context.  `tie i` says that the context wins the `select` after attempt `i` if
both channels become ready together. -/
structure CallInput where
  request : Request
  idle : Nat
  connState : ConnState
  dial : Nat → Bool
  reply : Nat → (rpc : Rpc) → Except RpcError rpc.Reply
  elapsed : Nat → Nat
  patience : Option Int
  contextError : ContextError
  tie : Nat → Bool

/-- `sent` counts the RPCs of the whole session, `attempts` and `dials` those
of the current call. -/
structure Session where
  breaker : Breaker
  connected : Bool
  clock : Int
  sent : Nat
  attempts : Nat
  dials : Nat
  doneAt : Option Int

def Session.fresh : Session := ⟨.fresh, true, 0, 0, 0, 0, none⟩

/-- The `select` of `callWithRetry`, entered at `now`. -/
def contextWins (tie : Bool) (now d : Int) : Option Int → Bool
  | none => false
  | some doneAt =>
      max doneAt now < now + max d 0 ∨ (max doneAt now = now + max d 0 ∧ tie = true)

def handle (config : ClientConfig) (input : CallInput) : (op : Op) → Session → Res op × Session
  | .getState, s => (if s.connected then some input.connState else none, s)
  | .dialContext, s => (input.dial s.dials, { s with dials := s.dials + 1 })
  | .install, s => ((), { s with connected := true, breaker := resetBreaker s.breaker })
  | .sleep d, s => ((), { s with clock := s.clock + max d 0 })
  | .checkCircuitBreaker, s =>
      ((checkCircuitBreaker config s.breaker s.clock).1,
        { s with breaker := (checkCircuitBreaker config s.breaker s.clock).2 })
  | .invoke rpc, s =>
      (input.reply s.attempts rpc,
        { s with
          sent := s.sent + 1
          attempts := s.attempts + 1
          clock := s.clock + input.elapsed s.attempts })
  | .awaitBackoff d, s =>
      if contextWins (input.tie (s.attempts - 1)) s.clock d s.doneAt then
        (some input.contextError, { s with clock := max (s.doneAt.getD 0) s.clock })
      else (none, { s with clock := s.clock + max d 0 })
  | .recordSuccess, s => ((), { s with breaker := recordSuccess s.breaker })
  | .recordFailure, s => ((), { s with breaker := recordFailure config s.breaker s.clock })

def enter (input : CallInput) (s : Session) : Session :=
  { s with
    clock := s.clock + input.idle
    attempts := 0
    dials := 0
    doneAt := input.patience.map fun patience => s.clock + input.idle + patience }

def call (config : ClientConfig) (s : Session) (input : CallInput) :
    Except CallError Response × Session :=
  (clientCall config input.request).eval (handle config input) (enter input s)

def retryCall (config : ClientConfig) (s : Session) (input : CallInput) :
    Except CallError Response × Session :=
  (callWithRetry config input.request.callFunc).eval (handle config input) (enter input s)

def callStep (config : ClientConfig) (s : Session) (input : CallInput) : Session :=
  (call config s input).2

def retryStep (config : ClientConfig) (s : Session) (input : CallInput) : Session :=
  (retryCall config s input).2

/-! ## Attempts -/

def CallInput.outcome (input : CallInput) (i : Nat) : Except AttemptError Response :=
  match input.reply i input.request.rpc with
  | .error err => .error (.rpc err)
  | .ok reply => input.request.judge reply

def attempted (input : CallInput) (s : Session) : Session :=
  { s with
    sent := s.sent + 1
    attempts := s.attempts + 1
    clock := s.clock + input.elapsed s.attempts }

def waited (input : CallInput) (d : Int) (s : Session) : Session :=
  { attempted input s with clock := (attempted input s).clock + max d 0 }

section Eval
variable {config : ClientConfig} {input : CallInput} {s : Session}

theorem invoke_eval (rpc : Rpc) :
    (invoke rpc).eval (handle config input) s =
      (input.reply s.attempts rpc, attempted input s) := rfl

theorem callFunc_eval :
    input.request.callFunc.eval (handle config input) s =
      (input.outcome s.attempts, attempted input s) := by
  unfold Request.callFunc attemptRpc CallInput.outcome
  simp only [eval_bind, invoke_eval]
  cases input.reply s.attempts input.request.rpc <;> rfl

theorem doCheck_eval :
    doCheck.eval (handle config input) s =
      ((checkCircuitBreaker config s.breaker s.clock).1,
        { s with breaker := (checkCircuitBreaker config s.breaker s.clock).2 }) := rfl

theorem awaitBackoff_eval (d : Int) :
    (awaitBackoff d).eval (handle config input) s =
      if contextWins (input.tie (s.attempts - 1)) s.clock d s.doneAt then
        (some input.contextError, { s with clock := max (s.doneAt.getD 0) s.clock })
      else (none, { s with clock := s.clock + max d 0 }) := by
  have served : (awaitBackoff d).eval (handle config input) s =
      handle config input (.awaitBackoff d) s := rfl
  rw [served]
  rfl

/-! ## The retry loop, one iteration at a time -/

theorem callLoop_zero (backoffDuration : Int) (lastErr : Option AttemptError) :
    (callLoop config input.request.callFunc 0 backoffDuration lastErr).eval
        (handle config input) s =
      (.error (.exhausted (config.maxRetries + 1) lastErr),
        { s with breaker := recordFailure config s.breaker s.clock }) := rfl

theorem callLoop_success {left : Nat} {backoffDuration : Int} {lastErr : Option AttemptError}
    {response : Response} (success : input.outcome s.attempts = .ok response) :
    (callLoop config input.request.callFunc (left + 1) backoffDuration lastErr).eval
        (handle config input) s =
      (.ok response, { attempted input s with breaker := recordSuccess s.breaker }) := by
  unfold callLoop
  simp only [eval_bind, callFunc_eval, success]
  rfl

theorem callLoop_last {backoffDuration : Int} {lastErr : Option AttemptError}
    {err : AttemptError} (failure : input.outcome s.attempts = .error err) :
    (callLoop config input.request.callFunc 1 backoffDuration lastErr).eval
        (handle config input) s =
      (.error (.exhausted (config.maxRetries + 1) (some err)),
        { attempted input s with
          breaker := recordFailure config s.breaker (attempted input s).clock }) := by
  unfold callLoop
  simp only [eval_bind, callFunc_eval, failure, if_true]
  rfl

theorem callLoop_failure {left : Nat} {backoffDuration : Int} {lastErr : Option AttemptError}
    {err : AttemptError} (failure : input.outcome s.attempts = .error err) :
    (callLoop config input.request.callFunc (left + 2) backoffDuration lastErr).eval
        (handle config input) s =
      if contextWins (input.tie s.attempts) (attempted input s).clock backoffDuration s.doneAt then
        (.error (.contextDone input.contextError),
          { attempted input s with
            clock := max (s.doneAt.getD 0) (attempted input s).clock })
      else
        (callLoop config input.request.callFunc (left + 1) (wrapInt64 (backoffDuration * 2))
          (some err)).eval (handle config input)
          (waited input backoffDuration s) := by
  rw [callLoop]
  simp only [eval_bind, callFunc_eval, failure]
  rw [if_neg (Nat.succ_ne_zero left)]
  simp only [eval_bind, awaitBackoff_eval]
  have index : (attempted input s).attempts - 1 = s.attempts := Nat.add_sub_cancel _ 1
  have sameDone : (attempted input s).doneAt = s.doneAt := rfl
  rw [index, sameDone]
  by_cases wins : contextWins (input.tie s.attempts) (attempted input s).clock backoffDuration
      s.doneAt = true
  · rw [if_pos wins, if_pos wins]
    rfl
  · rw [if_neg wins, if_neg wins]
    rfl

theorem callWithRetry_rejected {err : CircuitOpenError}
    (rejected : (checkCircuitBreaker config s.breaker s.clock).1 = some err) :
    (callWithRetry config input.request.callFunc).eval (handle config input) s =
      (.error (.circuitOpen err),
        { s with breaker := (checkCircuitBreaker config s.breaker s.clock).2 }) := by
  unfold callWithRetry
  simp only [eval_bind, doCheck_eval, rejected]
  rfl

theorem callWithRetry_admitted
    (admitted : (checkCircuitBreaker config s.breaker s.clock).1 = none) :
    (callWithRetry config input.request.callFunc).eval (handle config input) s =
      (callLoop config input.request.callFunc (config.maxRetries + 1).toNat config.retryBackoff
        none).eval (handle config input)
        { s with breaker := (checkCircuitBreaker config s.breaker s.clock).2 } := by
  unfold callWithRetry
  simp only [eval_bind, doCheck_eval, admitted]

/-! ## Connecting before a call -/

theorem getState_eval (connected : s.connected = true) :
    getState.eval (handle config input) s = (some input.connState, s) := by
  show (if s.connected then some input.connState else none, s) = (some input.connState, s)
  rw [if_pos connected]

theorem ensureConnected_healthy (connected : s.connected = true)
    (healthy : input.connState.failing = false) :
    (ensureConnected config).eval (handle config input) s = (none, s) := by
  unfold ensureConnected
  simp only [eval_bind, getState_eval connected, healthy]
  rfl

def reconnected (s : Session) : Session :=
  { s with dials := s.dials + 1, connected := true, breaker := resetBreaker s.breaker }

theorem ensureConnected_redials (connected : s.connected = true)
    (failing : input.connState.failing = true) (retries : 1 ≤ config.maxRetries)
    (dials : input.dial s.dials = true) :
    (ensureConnected config).eval (handle config input) s =
      (none, reconnected s) := by
  have dialled : dialContext.eval (handle config input) s =
      (true, { s with dials := s.dials + 1 }) := by
    show (input.dial s.dials, { s with dials := s.dials + 1 }) = _
    rw [dials]
  obtain ⟨left, some_left⟩ : ∃ left, config.maxRetries.toNat = left + 1 :=
    ⟨config.maxRetries.toNat - 1, by omega⟩
  unfold ensureConnected connectWithRetry
  simp only [eval_bind, getState_eval connected, failing, if_true, some_left, connectLoop, dialled]
  rfl

/-- Without retries there is not even a first attempt to connect. -/
theorem ensureConnected_gives_up (connected : s.connected = true)
    (failing : input.connState.failing = true) (noRetries : config.maxRetries ≤ 0) :
    (ensureConnected config).eval (handle config input) s =
      (some (.connectFailed config.maxRetries), s) := by
  have none_left : config.maxRetries.toNat = 0 := by omega
  unfold ensureConnected connectWithRetry
  simp only [eval_bind, getState_eval connected, failing, if_true, none_left]
  rfl

theorem call_of_connected {s' : Session}
    (ensured : (ensureConnected config).eval (handle config input) (enter input s) = (none, s')) :
    call config s input =
      (callWithRetry config input.request.callFunc).eval (handle config input) s' := by
  unfold call
  rw [clientCall_eq]
  unfold remoteCall
  simp only [eval_bind, ensured]
  rfl

theorem call_of_unconnected {s' : Session} {err : CallError}
    (ensured : (ensureConnected config).eval (handle config input) (enter input s) =
      (some err, s')) :
    call config s input = (.error err, s') := by
  unfold call
  rw [clientCall_eq]
  unfold remoteCall
  simp only [eval_bind, ensured]
  rfl

/-! ## RPCs are only ever added -/

theorem callLoop_sent (config : ClientConfig) (input : CallInput) (s : Session) (left : Nat)
    (backoffDuration : Int) (lastErr : Option AttemptError) :
    s.sent + min 1 left ≤
      ((callLoop config input.request.callFunc left backoffDuration lastErr).eval
        (handle config input) s).2.sent := by
  induction left generalizing s backoffDuration lastErr with
  | zero =>
      rw [callLoop_zero]
      simp
  | succ left ih =>
      cases outcome : input.outcome s.attempts with
      | ok response =>
          rw [callLoop_success outcome]
          simp [attempted]
      | error err =>
          cases left with
          | zero =>
              rw [callLoop_last outcome]
              simp [attempted]
          | succ left =>
              rw [callLoop_failure outcome]
              split
              · simp [attempted]
              · refine Nat.le_trans ?_ (ih _ (wrapInt64 (backoffDuration * 2)) (some err))
                simp only [waited, attempted]
                omega

theorem callWithRetry_sends
    (admitted : (checkCircuitBreaker config s.breaker s.clock).1 = none)
    (retries : 0 ≤ config.maxRetries) :
    s.sent + 1 ≤
      ((callWithRetry config input.request.callFunc).eval (handle config input) s).2.sent := by
  have attempts : 1 ≤ (config.maxRetries + 1).toNat := by omega
  rw [callWithRetry_admitted admitted]
  refine Nat.le_trans ?_ (callLoop_sent config input _ _ config.retryBackoff none)
  exact Nat.add_le_add_left (Nat.le_min.mpr ⟨Nat.le_refl 1, attempts⟩) s.sent

theorem call_connected (connected : s.connected = true) :
    (call config s input).2.connected = true := by
  have kept : ∀ op s, s.connected = true → (handle config input op s).2.connected = true := by
    intro op s connected
    cases op with
    | install => rfl
    | awaitBackoff d =>
        simp only [handle]
        split <;> exact connected
    | _ => exact connected
  exact eval_invariant _ kept _ _ connected

theorem handle_breaker (op : Op) :
    ∃ ops, (handle config input op s).2.breaker = after (apply config) s.breaker ops := by
  cases op with
  | install => exact ⟨[.reset], rfl⟩
  | checkCircuitBreaker => exact ⟨[.checkCircuitBreaker s.clock], rfl⟩
  | recordSuccess => exact ⟨[.recordSuccess], rfl⟩
  | recordFailure => exact ⟨[.recordFailure s.clock], rfl⟩
  | awaitBackoff d =>
      refine ⟨[], ?_⟩
      simp only [handle]
      split <;> rfl
  | _ => exact ⟨[], rfl⟩

end Eval

theorem session_breaker (config : ClientConfig) (inputs : List CallInput) :
    ∃ ops, (after (callStep config) .fresh inputs).breaker = breakerAfter config ops := by
  let reached (s : Session) : Prop := ∃ ops, s.breaker = breakerAfter config ops
  have kept : ∀ s input, reached s → reached (callStep config s input) := by
    intro s input held
    have byOp : ∀ op s, reached s → reached (handle config input op s).2 := by
      rintro op s ⟨ops, sofar⟩
      obtain ⟨more, moved⟩ := handle_breaker (s := s) op
      refine ⟨ops ++ more, ?_⟩
      rw [moved, sofar]
      exact (after_append (apply config) .fresh ops more).symm
    exact eval_invariant _ byOp _ (enter input s) held
  exact after_invariant kept ⟨[], rfl⟩ inputs

end CloudOS.Orchestrator.ClientSession
