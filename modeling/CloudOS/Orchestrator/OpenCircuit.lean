import CloudOS.Orchestrator.ClientSession

/-!
# Calls while the circuit is open

Every method first makes sure that it is connected, and only then asks the
breaker.  A connection that gRPC reports as failing is dialled anew, and since
dialling does not wait for the server it succeeds and closes the breaker.
-/

set_option autoImplicit false

namespace CloudOS.Orchestrator.OpenCircuit

open CloudOS.Lib.History
open CloudOS.Orchestrator.CircuitBreaker
open CloudOS.Orchestrator.Module1Client
open CloudOS.Orchestrator.ClientSession

def Rejected (config : ClientConfig) (entry : Session × CallInput) : Prop :=
  (∃ err, (call config entry.1 entry.2).1 = .error err) ∧
    (call config entry.1 entry.2).2.sent = entry.1.sent

/-- The call finds a failing connection that it may dial anew. -/
def Reconnects (config : ClientConfig) (entry : Session × CallInput) : Prop :=
  entry.2.connState.failing = true ∧ 1 ≤ config.maxRetries

def BegunBefore (deadline : Int) (entry : Session × CallInput) : Prop :=
  entry.1.clock + entry.2.idle < deadline

section Open
variable {config : ClientConfig} {s : Session} {input : CallInput}

theorem check_open {b : Breaker} {now : Int} (isOpen : b.circuitState = .stateOpen)
    (early : now < b.lastFailTime + config.circuitRecoverTime) :
    ∃ err, checkCircuitBreaker config b now = (some err, b) := by
  have notRecovered : b.recovered config now = false := by
    simp only [Breaker.recovered, decide_eq_false_iff_not]
    omega
  exact ⟨⟨config.maxConsecutiveErr, config.circuitRecoverTime - (now - b.lastFailTime)⟩,
    by simp [checkCircuitBreaker, isOpen, notRecovered]⟩

theorem call_rejected (connected : s.connected = true)
    (isOpen : s.breaker.circuitState = .stateOpen)
    (early : s.clock + input.idle < s.breaker.lastFailTime + config.circuitRecoverTime)
    (stays : ¬ Reconnects config (s, input)) :
    Rejected config (s, input) ∧ (callStep config s input).breaker = s.breaker := by
  have here : (enter input s).connected = true := connected
  cases failing : input.connState.failing with
  | false =>
      obtain ⟨err, checked⟩ := check_open isOpen early
      have rejected : (checkCircuitBreaker config (enter input s).breaker
          (enter input s).clock).1 = some err := congrArg Prod.fst checked
      have unchanged : (checkCircuitBreaker config (enter input s).breaker
          (enter input s).clock).2 = s.breaker := congrArg Prod.snd checked
      have called := (call_of_connected (ensureConnected_healthy here failing)).trans
        (callWithRetry_rejected rejected)
      unfold Rejected callStep
      rw [called]
      exact ⟨⟨⟨_, rfl⟩, rfl⟩, unchanged⟩
  | true =>
      have noRetries : config.maxRetries ≤ 0 := by
        by_contra positive
        exact stays ⟨failing, by omega⟩
      have called := call_of_unconnected (ensureConnected_gives_up here failing noRetries)
      unfold Rejected callStep
      rw [called]
      exact ⟨⟨⟨_, rfl⟩, rfl⟩, rfl⟩

theorem call_goes_through (connected : s.connected = true)
    (dials : ∀ i, input.dial i = true) (reconnects : Reconnects config (s, input)) :
    ¬ Rejected config (s, input) := by
  have here : (enter input s).connected = true := connected
  obtain ⟨failing, retries⟩ := reconnects
  have ensured := ensureConnected_redials here failing retries (dials (enter input s).dials)
  have enough : 0 ≤ config.maxRetries := by omega
  have sends : s.sent + 1 ≤ (call config s input).2.sent := by
    rw [call_of_connected ensured]
    exact callWithRetry_sends (s := reconnected (enter input s)) rfl enough
  rintro ⟨_, sameSent⟩
  simp only at sameSent
  omega

end Open

/-- However the breaker came to be open: as long as calls begin within the
recovery time, all of them are turned away without reaching the server exactly
if none of them reconnects. -/
theorem open_circuit_rejects_iff (config : ClientConfig) (earlier later : List CallInput)
    (opened : (after (callStep config) .fresh earlier).breaker.circuitState = .stateOpen)
    (begun : ∀ entry ∈ history (callStep config) (after (callStep config) .fresh earlier) later,
      BegunBefore ((after (callStep config) .fresh earlier).breaker.lastFailTime +
        config.circuitRecoverTime) entry)
    (dials : ∀ input ∈ later, ∀ i, input.dial i = true) :
    (∀ entry ∈ history (callStep config) (after (callStep config) .fresh earlier) later,
      Rejected config entry) ↔
    (∀ entry ∈ history (callStep config) (after (callStep config) .fresh earlier) later,
      ¬ Reconnects config entry) := by
  have stillConnected : ∀ s input, s.connected = true → (callStep config s input).connected = true :=
    fun s input held => call_connected held
  have connected : (after (callStep config) .fresh earlier).connected = true :=
    after_invariant stillConnected rfl earlier
  generalize after (callStep config) .fresh earlier = start at opened begun connected ⊢
  -- until the first reconnection the breaker stays as it was opened
  let inv (s : Session) : Prop := s.connected = true ∧ s.breaker = start.breaker
  let given (entry : Session × CallInput) : Prop :=
    BegunBefore (start.breaker.lastFailTime + config.circuitRecoverTime) entry ∧
      ∀ i, entry.2.dial i = true
  have turnedAway : ∀ s input, inv s → given (s, input) → ¬ Reconnects config (s, input) →
      Rejected config (s, input) ∧ (callStep config s input).breaker = s.breaker := by
    intro s input held facts stays
    refine call_rejected held.1 (by rw [held.2]; exact opened) ?_ stays
    rw [held.2]
    exact facts.1
  have exactStep : ∀ s input, inv s → given (s, input) →
      (Rejected config (s, input) ↔ ¬ Reconnects config (s, input)) := by
    intro s input held facts
    constructor
    · intro rejected reconnects
      exact call_goes_through held.1 facts.2 reconnects rejected
    · intro stays
      exact (turnedAway s input held facts stays).1
  have kept : ∀ s input, inv s → given (s, input) → Rejected config (s, input) →
      inv (callStep config s input) := by
    intro s input held facts rejected
    have stays := (exactStep s input held facts).mp rejected
    exact ⟨call_connected held.1, (turnedAway s input held facts stays).2.trans held.2⟩
  have givens : ∀ entry ∈ history (callStep config) start later, given entry := by
    intro entry member
    exact ⟨begun entry member, forall_history_of_ops dials entry member⟩
  exact forall_history_iff exactStep kept ⟨connected, rfl⟩ later givens

/-! ### A server that is down -/

/-- A health check of a server that is down, made in connection state `state`. -/
def unansweredCheck (state : ConnState) : CallInput where
  request := .getQueueDepth
  idle := 0
  connState := state
  dial := fun _ => true
  reply := fun _ _ => .error ⟨"Unavailable", "connection refused"⟩
  elapsed := fun _ => 0
  patience := none
  contextError := .canceled
  tie := fun _ => false

def fiveUnanswered : List CallInput := List.replicate 5 (unansweredCheck .ready)

theorem open_circuit_turns_away :
    (after (callStep .default) .fresh fiveUnanswered).breaker.circuitState = .stateOpen ∧
    Rejected .default (after (callStep .default) .fresh fiveUnanswered, unansweredCheck .ready) := by
  have opened : (after (callStep .default) .fresh fiveUnanswered).breaker.circuitState =
      .stateOpen := by decide
  have rejects := open_circuit_rejects_iff .default fiveUnanswered [unansweredCheck .ready]
    opened (by simp only [history, List.forall_mem_singleton, BegunBefore]; decide)
    (by simp [unansweredCheck])
  refine ⟨opened, rejects.mpr ?_ _ (List.mem_singleton_self _)⟩
  simp only [history, List.forall_mem_singleton, Reconnects]
  decide

/-- The breaker is open and its recovery time has not passed, but gRPC reports
a transient failure: the next call closes the breaker and sends four RPCs. -/
theorem open_circuit_reconnects :
    (after (callStep .default) .fresh fiveUnanswered).breaker.circuitState = .stateOpen ∧
    BegunBefore ((after (callStep .default) .fresh fiveUnanswered).breaker.lastFailTime +
      ClientConfig.default.circuitRecoverTime)
      (after (callStep .default) .fresh fiveUnanswered, unansweredCheck .transientFailure) ∧
    (callStep .default (after (callStep .default) .fresh fiveUnanswered)
      (unansweredCheck .transientFailure)).sent =
        (after (callStep .default) .fresh fiveUnanswered).sent + 4 ∧
    ¬ Rejected .default (after (callStep .default) .fresh fiveUnanswered,
      unansweredCheck .transientFailure) := by
  have sends : (callStep .default (after (callStep .default) .fresh fiveUnanswered)
      (unansweredCheck .transientFailure)).sent =
        (after (callStep .default) .fresh fiveUnanswered).sent + 4 := by decide
  refine ⟨by decide, by unfold BegunBefore; decide, sends, ?_⟩
  rintro ⟨_, sameSent⟩
  have same : (callStep .default (after (callStep .default) .fresh fiveUnanswered)
      (unansweredCheck .transientFailure)).sent =
        (after (callStep .default) .fresh fiveUnanswered).sent := sameSent
  omega

end CloudOS.Orchestrator.OpenCircuit
