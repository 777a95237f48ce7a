import CloudOS.Orchestrator.FailureCounting

/-!
# Refusals by a server that answers

A server that answers every RPC may still refuse what it is asked.  A refused
submission is handed to the caller, but the closure of `CancelTask` turns a
refused cancellation into an error, which `callWithRetry` retries and counts
like a failure of the server.
-/

set_option autoImplicit false

namespace CloudOS.Orchestrator.BusinessRejections

open CloudOS.Lib.CallProgram
open CloudOS.Lib.History
open CloudOS.Orchestrator.CircuitBreaker
open CloudOS.Orchestrator.Module1Client
open CloudOS.Orchestrator.ClientSession
open CloudOS.Orchestrator.FailureCounting

/-- The server answers every RPC of the call, and dialling succeeds. -/
structure Answering (input : CallInput) : Prop where
  replies : ∀ i, ∃ reply, input.reply i input.request.rpc = .ok reply
  dials : ∀ i, input.dial i = true

def Harmless (config : ClientConfig) (entry : Session × CallInput) : Prop :=
  (callStep config entry.1 entry.2).breaker.circuitState = .stateClosed ∧
    (callStep config entry.1 entry.2).sent = entry.1.sent + 1

def refusedCancel (input : CallInput) : Bool :=
  match input.request with
  | .cancelTask taskID =>
      match input.reply 0 (.cancelTask taskID "") with
      | .ok reply => !reply.cancelled
      | .error _ => false
  | _ => false

/-- When a refused cancellation does no harm: without retries as long as the
breaker can take one more failure, with retries only if the caller gives up
during the first wait. -/
def RefusalAbsorbed (config : ClientConfig) (entry : Session × CallInput) : Prop :=
  (config.maxRetries = 0 ∧
    entry.1.breaker.consecutiveErr + 1 < config.maxConsecutiveErr) ∨
  (0 < config.maxRetries ∧ cutsOff config entry.2 0 = true)

def Condition (config : ClientConfig) (entry : Session × CallInput) : Prop :=
  0 ≤ config.maxRetries ∧ (entry.2.connState.failing = true → 1 ≤ config.maxRetries) ∧
    (refusedCancel entry.2 = true → RefusalAbsorbed config entry)

/-! ## One call -/

section Call
variable {config : ClientConfig} {input : CallInput}

theorem outcome_of_reply {i : Nat} {reply : input.request.rpc.Reply}
    (answered : input.reply i input.request.rpc = .ok reply) :
    input.outcome i = input.request.judge reply := by
  unfold CallInput.outcome
  rw [answered]

theorem outcome_of_answer (answers : Answering input) :
    (refusedCancel input = false ∧ ∃ response, input.outcome 0 = .ok response) ∨
      (refusedCancel input = true ∧ ∃ err, input.outcome 0 = .error err) := by
  obtain ⟨request, idle, connState, dial, reply, elapsed, patience, contextError, tie⟩ := input
  obtain ⟨answer, answered⟩ := answers.replies 0
  have outcome := outcome_of_reply answered
  cases request with
  | submitTask req => exact Or.inl ⟨rfl, _, outcome⟩
  | getTaskStatus taskID => exact Or.inl ⟨rfl, _, outcome⟩
  | getQueueDepth => exact Or.inl ⟨rfl, _, outcome⟩
  | cancelTask taskID =>
      have replied : reply 0 (.cancelTask taskID "") = .ok answer := answered
      have judged : Request.judge (.cancelTask taskID) answer = judgeCancel answer := rfl
      rw [outcome, judged]
      unfold refusedCancel judgeCancel
      simp only [replied]
      cases flag : CancelTaskResponse.cancelled answer with
      | true => exact Or.inl ⟨rfl, _, rfl⟩
      | false => exact Or.inr ⟨rfl, _, rfl⟩

/-- A call that gets past `ensureConnected` finds a closed breaker, be it
because it was closed or because the new connection closed it. -/
theorem call_enters {s : Session} (connected : s.connected = true)
    (closed : s.breaker.circuitState = .stateClosed) (answers : Answering input)
    (reaches : input.connState.failing = true → 1 ≤ config.maxRetries) :
    ∃ s', call config s input =
        (callWithRetry config input.request.callFunc).eval (handle config input) s' ∧
      s'.breaker.circuitState = .stateClosed ∧ s'.sent = s.sent ∧ s'.attempts = 0 ∧
      s'.clock = s.clock + input.idle ∧
      s'.doneAt = input.patience.map (s.clock + input.idle + ·) ∧
      (input.connState.failing = false → s'.breaker = s.breaker) := by
  have here : (enter input s).connected = true := connected
  cases failing : input.connState.failing with
  | false =>
      exact ⟨enter input s, call_of_connected (ensureConnected_healthy here failing), closed,
        rfl, rfl, rfl, rfl, fun _ => rfl⟩
  | true =>
      have ensured := ensureConnected_redials here failing (reaches failing)
        (answers.dials (enter input s).dials)
      exact ⟨reconnected (enter input s), call_of_connected ensured, rfl, rfl, rfl, rfl, rfl,
        fun healthy => by cases healthy⟩

theorem callWithRetry_closed {s : Session} (closed : s.breaker.circuitState = .stateClosed) :
    (callWithRetry config input.request.callFunc).eval (handle config input) s =
      (callLoop config input.request.callFunc (config.maxRetries + 1).toNat config.retryBackoff
        none).eval (handle config input) s := by
  have checked : checkCircuitBreaker config s.breaker s.clock = (none, s.breaker) := by
    unfold checkCircuitBreaker
    rw [closed]
  rw [callWithRetry_admitted (congrArg Prod.fst checked), checked]

theorem recordSuccess_closed {b : Breaker} (closed : b.circuitState = .stateClosed) :
    (recordSuccess b).circuitState = .stateClosed := by
  simp [recordSuccess, closed]

theorem recordFailure_closed_iff {b : Breaker} {now : Int}
    (closed : b.circuitState = .stateClosed) :
    (recordFailure config b now).circuitState = .stateClosed ↔
      b.consecutiveErr + 1 < config.maxConsecutiveErr := by
  unfold recordFailure
  constructor
  · intro stays
    by_contra many
    rw [if_pos ⟨by omega, by rw [closed]; decide⟩] at stays
    cases stays
  · intro few
    rw [if_neg (by omega)]
    exact closed

theorem not_harmless_of_no_rpc {s : Session}
    (silent : (call config s input).2.sent = s.sent) : ¬ Harmless config (s, input) := by
  rintro ⟨_, once⟩
  have sent : (call config s input).2.sent = s.sent + 1 := once
  omega

theorem call_without_attempt {s : Session} (connected : s.connected = true)
    (closed : s.breaker.circuitState = .stateClosed)
    (barred : config.maxRetries < 0 ∨
      (input.connState.failing = true ∧ config.maxRetries ≤ 0)) :
    (call config s input).2.sent = s.sent := by
  have here : (enter input s).connected = true := connected
  cases failing : input.connState.failing with
  | true =>
      have noRetries : config.maxRetries ≤ 0 := by omega
      rw [call_of_unconnected (ensureConnected_gives_up here failing noRetries)]
      rfl
  | false =>
      have none_left : (config.maxRetries + 1).toNat = 0 := by
        rw [failing] at barred
        rcases barred with negative | ⟨impossible, _⟩
        · omega
        · cases impossible
      have still : (enter input s).breaker.circuitState = .stateClosed := closed
      rw [call_of_connected (ensureConnected_healthy here failing), callWithRetry_closed still,
        none_left]
      rfl

theorem refused_harmless_iff {s : Session} (connected : s.connected = true)
    (closed : s.breaker.circuitState = .stateClosed) (answers : Answering input)
    (retries : 0 ≤ config.maxRetries)
    (reaches : input.connState.failing = true → 1 ≤ config.maxRetries)
    {err : AttemptError} (refused : input.outcome 0 = .error err) :
    Harmless config (s, input) ↔ RefusalAbsorbed config (s, input) := by
  obtain ⟨s', called, closed', sent, attempts, clock, doneAt, sameBreaker⟩ :=
    call_enters connected closed answers reaches
  have failure : input.outcome s'.attempts = .error err := by
    rw [attempts]
    exact refused
  unfold Harmless callStep RefusalAbsorbed
  simp only [called, callWithRetry_closed closed']
  by_cases noRetries : config.maxRetries = 0
  · -- the only attempt is also the last, and is recorded
    have healthy : input.connState.failing = false := by
      cases failing : input.connState.failing with
      | false => rfl
      | true =>
          have atLeastOne := reaches failing
          omega
    have once : (config.maxRetries + 1).toNat = 1 := by omega
    rw [once, callLoop_last failure]
    simp only [sameBreaker healthy, recordFailure_closed_iff closed, attempted, sent, and_true]
    constructor
    · intro room
      exact Or.inl ⟨noRetries, room⟩
    · rintro (⟨_, room⟩ | ⟨positive, _⟩)
      · exact room
      · omega
  · -- the context decides whether there is a second attempt
    obtain ⟨left, more⟩ : ∃ left, (config.maxRetries + 1).toNat = left + 2 :=
      ⟨(config.maxRetries - 1).toNat, by omega⟩
    have wins : contextWins (input.tie s'.attempts) (attempted input s').clock
        config.retryBackoff s'.doneAt = cutsOff config input 0 := by
      have begins : (attempted input s').clock =
          s.clock + input.idle + waitBegins config input 0 := by
        simp only [attempted, attempts, clock, waitBegins]
      rw [begins, doneAt, contextWins_shift, attempts]
      rfl
    rw [more, callLoop_failure failure, wins]
    cases cut : cutsOff config input 0 with
    | true =>
        simp only [if_true, attempted, closed', sent, true_and, true_iff]
        exact Or.inr ⟨by omega, trivial⟩
    | false =>
        simp only [Bool.false_eq_true, if_false, and_false, or_false]
        have again := callLoop_sent config input (waited input config.retryBackoff s') (left + 1)
          (wrapInt64 (config.retryBackoff * 2)) (some err)
        have first : (waited input config.retryBackoff s').sent = s.sent + 1 :=
          congrArg (· + 1) sent
        constructor
        · rintro ⟨_, once⟩
          omega
        · rintro ⟨zero, _⟩
          exact absurd zero noRetries

theorem harmless_iff {s : Session} (connected : s.connected = true)
    (closed : s.breaker.circuitState = .stateClosed) (answers : Answering input) :
    Harmless config (s, input) ↔ Condition config (s, input) := by
  by_cases barred : config.maxRetries < 0 ∨
      (input.connState.failing = true ∧ config.maxRetries ≤ 0)
  · constructor
    · intro harmless
      exact absurd harmless
        (not_harmless_of_no_rpc (call_without_attempt connected closed barred))
    · rintro ⟨retries, reaches, _⟩
      rcases barred with negative | ⟨failing, noRetries⟩
      · omega
      · have atLeastOne : 1 ≤ config.maxRetries := reaches failing
        omega
  · have retries : 0 ≤ config.maxRetries := by omega
    have reaches : input.connState.failing = true → 1 ≤ config.maxRetries := by
      intro failing
      by_contra few
      exact barred (Or.inr ⟨failing, by omega⟩)
    rcases outcome_of_answer answers with ⟨accepted, response, success⟩ | ⟨refused, err, failure⟩
    · obtain ⟨s', called, closed', sent, attempts, _⟩ :=
        call_enters connected closed answers reaches
      obtain ⟨left, iterations⟩ : ∃ left, (config.maxRetries + 1).toNat = left + 1 :=
        ⟨config.maxRetries.toNat, by omega⟩
      have succeeds : input.outcome s'.attempts = .ok response := by
        rw [attempts]
        exact success
      have harmless : Harmless config (s, input) := by
        unfold Harmless callStep
        simp only [called, callWithRetry_closed closed', iterations]
        rw [callLoop_success succeeds]
        exact ⟨recordSuccess_closed closed', by simp [attempted, sent]⟩
      exact ⟨fun _ => ⟨retries, reaches, fun refused => by rw [accepted] at refused; cases refused⟩,
        fun _ => harmless⟩
    · rw [refused_harmless_iff connected closed answers retries reaches failure]
      exact ⟨fun absorbed => ⟨retries, reaches, fun _ => absorbed⟩,
        fun condition => condition.2.2 refused⟩

end Call

/-! ## Runs -/

/-- With a server that answers, every call of a run issues exactly one RPC and
leaves the breaker closed, if and only if there is at least one attempt to make
in every call and every refused cancellation is absorbed. -/
theorem answered_calls_harmless_iff (config : ClientConfig) (inputs : List CallInput)
    (answering : ∀ input ∈ inputs, Answering input) :
    (∀ entry ∈ history (callStep config) .fresh inputs, Harmless config entry) ↔
      ∀ entry ∈ history (callStep config) .fresh inputs, Condition config entry := by
  let inv (s : Session) : Prop := s.connected = true ∧ s.breaker.circuitState = .stateClosed
  let given (entry : Session × CallInput) : Prop := Answering entry.2
  have exactStep : ∀ s input, inv s → given (s, input) →
      (Harmless config (s, input) ↔ Condition config (s, input)) :=
    fun s input held answers => harmless_iff held.1 held.2 answers
  have kept : ∀ s input, inv s → given (s, input) → Harmless config (s, input) →
      inv (callStep config s input) :=
    fun s input held _ harmless => ⟨call_connected held.1, harmless.1⟩
  have givens : ∀ entry ∈ history (callStep config) .fresh inputs, given entry :=
    forall_history_of_ops answering
  exact forall_history_iff exactStep kept ⟨rfl, rfl⟩ inputs givens

def cancellation (cancelled : Bool) (reason : String) : CallInput where
  request := .cancelTask "task-1"
  idle := 0
  connState := .ready
  dial := fun _ => true
  reply := fun _ rpc => match rpc with
    | .cancelTask _ _ => .ok (⟨cancelled, reason⟩ : CancelTaskResponse)
    | .submitTask _ => .ok (⟨true, 1, 0, ""⟩ : SubmitTaskResponse)
    | .getTaskStatus taskID _ => .ok (⟨taskID, "Running", "", 0, 0, 0⟩ : TaskStatusResponse)
    | .getQueueDepth => .ok (⟨0, 0, 0⟩ : QueueDepthResponse)
  elapsed := fun _ => 0
  patience := none
  contextError := .canceled
  tie := fun _ => false

theorem cancellation_answering (cancelled : Bool) (reason : String) :
    Answering (cancellation cancelled reason) :=
  ⟨fun _ => ⟨_, rfl⟩, fun _ => rfl⟩

/-- Without retries a refusal between two cancellations that are accepted costs
one RPC. -/
def refusedOnce : List CallInput :=
  [cancellation true "", cancellation false "cannot cancel Completed task", cancellation true ""]

theorem absorbed_refusal_harmless :
    refusedOnce.map refusedCancel = [false, true, false] ∧
      ∀ entry ∈ history (callStep { ClientConfig.default with maxRetries := 0 }) .fresh refusedOnce,
        Harmless { ClientConfig.default with maxRetries := 0 } entry := by
  refine ⟨by decide, ?_⟩
  refine (answered_calls_harmless_iff _ refusedOnce
    (by simp [refusedOnce, cancellation_answering])).mpr ?_
  simp only [refusedOnce, history, List.forall_mem_cons, List.not_mem_nil, false_imp_iff,
    implies_true, and_true]
  refine ⟨⟨by decide, by decide, fun refused => by cases refused⟩,
    ⟨by decide, by decide, fun _ => .inl ⟨rfl, by decide⟩⟩,
    ⟨by decide, by decide, fun refused => by cases refused⟩⟩

/-- Cancelling a finished task with the default configuration takes four RPCs,
and five such calls open the breaker for everybody. -/
theorem refused_cancellations_open :
    Answering (cancellation false "cannot cancel Completed task") ∧
    (callStep .default .fresh (cancellation false "cannot cancel Completed task")).sent = 4 ∧
    (after (callStep .default) .fresh
      (List.replicate 5 (cancellation false "cannot cancel Completed task"))).breaker.circuitState =
        .stateOpen :=
  ⟨cancellation_answering false _, by decide, by decide⟩

end CloudOS.Orchestrator.BusinessRejections
