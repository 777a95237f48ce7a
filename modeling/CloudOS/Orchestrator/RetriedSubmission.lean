import CloudOS.Mock.SchedulerService
import CloudOS.Orchestrator.FailureCounting

/-!
# A submission over a network that loses messages

`SubmitTask` of the client against `SubmitTask` of the mock scheduler.  A request
may get lost, and so may the reply to one that arrived; the client sees an error
in both cases and sends again.  The scheduler does not know a request it has seen
before: it stores a task and starts a goroutine for each one that arrives.
What else happens at the scheduler before an attempt arrives is `meanwhile`; in a
call of its own nothing does.
-/

set_option autoImplicit false

namespace CloudOS.Orchestrator.RetriedSubmission

open CloudOS.Lib.CallProgram
open CloudOS.Lib.History
open CloudOS.Mock.SchedulerService
open CloudOS.Orchestrator.CircuitBreaker
open CloudOS.Orchestrator.ClientSession
open CloudOS.Orchestrator.FailureCounting
open CloudOS.Orchestrator.Module1Client

/-! ## How many attempts a call makes -/

section Attempts
variable (config : ClientConfig) (input : CallInput)

/-- Attempt `k` of a loop begun at `begun` fails, and the wait after it is not cut
off. -/
def goesOn (begun : Int) (doneAt : Option Int) (k : Nat) : Bool :=
  !(input.outcome k).isOk &&
    !contextWins (input.tie k) (begun + waitBegins config input k) (backoffAt config k) doneAt

def attemptsFrom (begun : Int) (doneAt : Option Int) : Nat → Nat → Nat
  | 0, i => i
  | left + 1, i =>
      if goesOn config input begun doneAt i then attemptsFrom begun doneAt left (i + 1) else i + 1

theorem le_attemptsFrom (begun : Int) (doneAt : Option Int) (left i : Nat) :
    i ≤ attemptsFrom config input begun doneAt left i := by
  induction left generalizing i with
  | zero => exact Nat.le_refl i
  | succ left ih =>
      have later := ih (i + 1)
      rw [attemptsFrom]
      split <;> omega

theorem lt_attemptsFrom_iff (begun : Int) (doneAt : Option Int) (left : Nat) {i j : Nat}
    (later : i ≤ j) :
    j < attemptsFrom config input begun doneAt left i ↔
      j < i + left ∧ ∀ k, i ≤ k → k < j → goesOn config input begun doneAt k = true := by
  induction left generalizing i with
  | zero =>
      rw [attemptsFrom]
      omega
  | succ left ih =>
      rw [attemptsFrom]
      rcases Nat.eq_or_lt_of_le later with rfl | beyond
      · have least := le_attemptsFrom config input begun doneAt left (i + 1)
        refine iff_of_true ?_ ⟨by omega, fun k low high => absurd high (by omega)⟩
        split <;> omega
      · cases goes : goesOn config input begun doneAt i with
        | false =>
            rw [if_neg (by simp)]
            refine iff_of_false (by omega) ?_
            rintro ⟨_, all⟩
            rw [all i (Nat.le_refl i) beyond] at goes
            cases goes
        | true =>
            rw [if_pos rfl, ih beyond]
            constructor
            · rintro ⟨bound, all⟩
              refine ⟨by omega, ?_⟩
              intro k low high
              rcases Nat.eq_or_lt_of_le low with rfl | above
              · exact goes
              · exact all k above high
            · rintro ⟨bound, all⟩
              exact ⟨by omega, fun k low high => all k (by omega) high⟩

variable {config input}

theorem callLoop_attempts {begun : Int} {doneAt : Option Int} {left i : Nat} {s : Session}
    (lastErr : Option AttemptError) (here : Standing config input begun doneAt i s) :
    ((callLoop config input.request.callFunc left (backoffAt config i) lastErr).eval
        (handle config input) s).2.attempts =
      attemptsFrom config input begun doneAt left i := by
  induction left generalizing i s lastErr with
  | zero =>
      rw [callLoop_zero]
      exact here.index
  | succ left ih =>
      have counted : (attempted input s).attempts = i + 1 := congrArg (· + 1) here.index
      cases outcome : input.outcome s.attempts with
      | ok response =>
          have stops : goesOn config input begun doneAt i = false := by
            simp [goesOn, ← here.index, outcome, Except.isOk, Except.toBool]
          rw [callLoop_success outcome, attemptsFrom, stops, if_neg (by simp)]
          exact counted
      | error err =>
          cases left with
          | zero =>
              rw [callLoop_last outcome, attemptsFrom]
              simp only [attemptsFrom, ite_self]
              exact counted
          | succ left =>
              have goes : goesOn config input begun doneAt i =
                  !contextWins (input.tie s.attempts) (attempted input s).clock
                    (backoffAt config i) s.doneAt := by
                rw [here.contextWins_eq, goesOn, ← here.index, outcome]
                rfl
              rw [callLoop_failure outcome, attemptsFrom, goes]
              cases cut : contextWins (input.tie s.attempts) (attempted input s).clock
                  (backoffAt config i) s.doneAt with
              | true => exact counted
              | false => exact ih (some err) here.waited

theorem connectLoop_attempts (left attempt : Nat) (s : Session) :
    ((connectLoop config left attempt).eval (handle config input) s).2.attempts = s.attempts := by
  induction left generalizing attempt s with
  | zero => rfl
  | succ left ih =>
      rw [connectLoop]
      simp only [eval_bind]
      have dialled : dialContext.eval (handle config input) s =
          (input.dial s.dials, { s with dials := s.dials + 1 }) := rfl
      rw [dialled]
      cases input.dial s.dials with
      | true => rfl
      | false =>
          simp only [Bool.false_eq_true, if_false]
          split
          · exact ih (attempt + 1) _
          · simp only [eval_bind]
            exact ih (attempt + 1) _

theorem ensureConnected_attempts (s : Session) :
    ((ensureConnected config).eval (handle config input) s).2.attempts = s.attempts := by
  unfold ensureConnected connectWithRetry
  simp only [eval_bind]
  have asked : getState.eval (handle config input) s =
      (if s.connected then some input.connState else none, s) := rfl
  rw [asked]
  cases s.connected with
  | false => rfl
  | true =>
      simp only [if_true]
      split
      · exact connectLoop_attempts _ _ s
      · rfl

variable (config input)

/-- The session in which the retry loop begins, if the client is connected and the
breaker admits the call. -/
def loopStart (s : Session) : Option Session :=
  let ensured := (ensureConnected config).eval (handle config input) (enter input s)
  let checked := checkCircuitBreaker config ensured.2.breaker ensured.2.clock
  if ensured.1 = none ∧ checked.1 = none then some { ensured.2 with breaker := checked.2 } else none

theorem call_attempts (s : Session) :
    (call config s input).2.attempts =
      (loopStart config input s).elim 0 fun begun =>
        attemptsFrom config input begun.clock begun.doneAt (config.maxRetries + 1).toNat 0 := by
  have zero : ((ensureConnected config).eval (handle config input) (enter input s)).2.attempts = 0 :=
    ensureConnected_attempts (enter input s)
  unfold loopStart
  cases ensured : (ensureConnected config).eval (handle config input) (enter input s) with
  | mk answer s' =>
      rw [ensured] at zero
      cases answer with
      | some err =>
          rw [call_of_unconnected ensured]
          simpa using zero
      | none =>
          rw [call_of_connected ensured]
          cases checked : (checkCircuitBreaker config s'.breaker s'.clock).1 with
          | some err =>
              rw [callWithRetry_rejected checked]
              simpa [checked] using zero
          | none =>
              rw [callWithRetry_admitted checked]
              simp only [checked, and_self, if_true, Option.elim_some]
              have start : Standing config input s'.clock s'.doneAt 0
                  { s' with breaker := (checkCircuitBreaker config s'.breaker s'.clock).2 } :=
                ⟨zero, rfl, rfl⟩
              exact callLoop_attempts none start

def Attempts (s : Session) (j : Nat) : Prop :=
  ∃ begun, loopStart config input s = some begun ∧ (j : Int) ≤ config.maxRetries ∧
    ∀ k < j, goesOn config input begun.clock begun.doneAt k = true

theorem lt_call_attempts_iff (s : Session) (j : Nat) :
    j < (call config s input).2.attempts ↔ Attempts config input s j := by
  rw [call_attempts]
  unfold Attempts
  cases loopStart config input s with
  | none => simp
  | some begun =>
      rw [Option.elim_some, lt_attemptsFrom_iff config input begun.clock begun.doneAt _
        (Nat.zero_le j)]
      constructor
      · rintro ⟨bound, all⟩
        exact ⟨begun, rfl, by omega, fun k below => all k (Nat.zero_le k) below⟩
      · rintro ⟨_, same, bound, all⟩
        cases same
        exact ⟨by omega, fun k _ below => all k below⟩

end Attempts

/-! ## The network and the scheduler -/

/-- What happens to attempt `i`: whether its request arrives, at which time of the
scheduler, and whether the reply does. -/
structure Network where
  delivered : Nat → Bool
  arrival : Nat → Nat
  answered : Nat → Bool
  lost : RpcError

def submission (req : SubmitTaskRequest) : SubmitRequest :=
  ⟨req.taskID, req.tenantID, req.cpuRequest, req.memoryRequest⟩

def responseOf (response : SubmitResponse) : SubmitTaskResponse where
  accepted := response.accepted
  queuePosition := response.queuePosition.toInt
  estimatedStartSeconds := response.estimatedStartSeconds
  reason := response.reason

section Traffic
variable (scheduler : Config) (net : Network) (meanwhile : Nat → List Call)
  (req : SubmitTaskRequest) (server : Service)

/-- The scheduler when attempt `i` arrives, from the one after the attempts before. -/
def reached (i : Nat) (left : Service) : Service :=
  after (Mock.SchedulerService.step scheduler) left (meanwhile i)

def serverAfter : Nat → Service
  | 0 => server
  | i + 1 =>
      let here := reached scheduler meanwhile i (serverAfter i)
      if net.delivered i then
        (Mock.SchedulerService.submitTask scheduler (submission req) (net.arrival i) here).2
      else here

def replyTo (i : Nat) : (rpc : Rpc) → Except RpcError rpc.Reply
  | .submitTask req' =>
      if net.delivered i && net.answered i then
        .ok (responseOf (Mock.SchedulerService.submitTask scheduler (submission req') (net.arrival i)
          (reached scheduler meanwhile i (serverAfter scheduler net meanwhile req server i))).1)
      else .error net.lost
  | .getTaskStatus _ _ => .error net.lost
  | .cancelTask _ _ => .error net.lost
  | .getQueueDepth => .error net.lost

def submissionOver (input : CallInput) : CallInput :=
  { input with
    request := .submitTask req
    reply := replyTo scheduler net meanwhile req server }

theorem submissionOver_outcome (input : CallInput) (i : Nat) :
    (submissionOver scheduler net meanwhile req server input).outcome i =
      if net.delivered i && net.answered i then
        .ok (.submitted (responseOf (Mock.SchedulerService.submitTask scheduler (submission req)
          (net.arrival i)
          (reached scheduler meanwhile i (serverAfter scheduler net meanwhile req server i))).1))
      else .error (.rpc net.lost) := by
  have given : (submissionOver scheduler net meanwhile req server input).reply i
      (submissionOver scheduler net meanwhile req server input).request.rpc =
        if net.delivered i && net.answered i then
          .ok (responseOf (Mock.SchedulerService.submitTask scheduler (submission req)
            (net.arrival i) (reached scheduler meanwhile i
              (serverAfter scheduler net meanwhile req server i))).1)
        else .error net.lost := rfl
  rw [CallInput.outcome, given]
  cases net.delivered i && net.answered i <;> rfl

end Traffic

section Network
variable (scheduler : Config) (net : Network) (req : SubmitTaskRequest) (server : Service)

def undisturbed : Nat → List Call := fun _ => []

theorem reached_undisturbed (i : Nat) (left : Service) :
    reached scheduler undisturbed i left = left := rfl

/-- The call gets to attempt `j`: it has been let into the loop, no earlier attempt
was answered, and no wait before it was cut off. -/
def Resent (config : ClientConfig) (s : Session) (input : CallInput) (j : Nat) : Prop :=
  ∃ begun,
    loopStart config (submissionOver scheduler net undisturbed req server input) s = some begun ∧
    (j : Int) ≤ config.maxRetries ∧
    ∀ k < j, (net.delivered k && net.answered k) = false ∧
      contextWins (input.tie k)
        (begun.clock +
          waitBegins config (submissionOver scheduler net undisturbed req server input) k)
        (backoffAt config k) begun.doneAt = false

theorem attempts_iff_resent (config : ClientConfig) (s : Session) (input : CallInput) (j : Nat) :
    Attempts config (submissionOver scheduler net undisturbed req server input) s j ↔
      Resent scheduler net req server config s input j := by
  have isOk : ∀ k, ((submissionOver scheduler net undisturbed req server input).outcome k).isOk =
      (net.delivered k && net.answered k) := by
    intro k
    rw [submissionOver_outcome]
    cases net.delivered k && net.answered k <;> rfl
  unfold Attempts Resent goesOn
  simp only [isOk, Bool.and_eq_true, Bool.not_eq_true']
  rfl

def arrivals (count : Nat) : Nat := (List.range count).countP net.delivered

theorem arrivals_succ (count : Nat) :
    arrivals net (count + 1) = arrivals net count + if net.delivered count then 1 else 0 := by
  rw [arrivals, List.range_succ, List.countP_append, List.countP_singleton, arrivals]

theorem serverAfter_effect (count : Nat) :
    (serverAfter scheduler net undisturbed req server count).queueDepth =
        server.queueDepth + Int32.ofNat (arrivals net count) ∧
      (serverAfter scheduler net undisturbed req server count).transitions.length =
        server.transitions.length + arrivals net count := by
  induction count with
  | zero => simp [serverAfter, arrivals]
  | succ count ih =>
      rw [serverAfter, arrivals_succ, reached_undisturbed]
      cases net.delivered count with
      | false => simpa using ih
      | true =>
          obtain ⟨depth, transitions⟩ := ih
          simp only [if_true, Mock.SchedulerService.submitTask, List.length_append,
            List.length_singleton, depth, transitions]
          refine ⟨?_, by omega⟩
          rw [Int32.ofNat_add, Int32.add_assoc]
          rfl

theorem arrivals_le_one_iff (count : Nat) :
    arrivals net count ≤ 1 ↔
      ∀ i j, i < j → j < count → net.delivered i = true → net.delivered j = false := by
  have none_iff : ∀ count, arrivals net count = 0 ↔ ∀ i < count, net.delivered i = false := by
    intro count
    simp [arrivals, List.countP_eq_zero]
  induction count with
  | zero => simp [arrivals]
  | succ count ih =>
      rw [arrivals_succ]
      cases last : net.delivered count with
      | false =>
          simp only [Bool.false_eq_true, if_false, Nat.add_zero, ih]
          constructor
          · intro before i j less within arrived
            rcases Nat.lt_succ_iff_lt_or_eq.mp within with earlier | rfl
            · exact before i j less earlier arrived
            · exact last
          · intro all i j less within arrived
            exact all i j less (Nat.lt_succ_of_lt within) arrived
      | true =>
          have first : arrivals net count + 1 ≤ 1 ↔ arrivals net count = 0 := by omega
          rw [if_pos rfl, first, none_iff]
          constructor
          · intro none i j less within arrived
            rw [none i (by omega)] at arrived
            cases arrived
          · intro all i below
            by_contra arrived
            have again := all i count below (Nat.lt_succ_self count) (by simpa using arrived)
            rw [last] at again
            cases again

def EnqueuedOnce (config : ClientConfig) (s : Session) (input : CallInput) : Prop :=
  let left := serverAfter scheduler net undisturbed req server
    (call config s (submissionOver scheduler net undisturbed req server input)).2.attempts
  (left.queueDepth = server.queueDepth ∨ left.queueDepth = server.queueDepth + 1) ∧
    left.transitions.length ≤ server.transitions.length + 1

/-- One call enqueues at most once exactly when it is never sent again, after a
request that arrived, with one that arrives too. -/
theorem enqueuedOnce_iff (config : ClientConfig) (s : Session) (input : CallInput) :
    EnqueuedOnce scheduler net req server config s input ↔
      ∀ i j, i < j → net.delivered i = true → net.delivered j = true →
        ¬ Resent scheduler net req server config s input j := by
  obtain ⟨depth, transitions⟩ := serverAfter_effect scheduler net req server
    (call config s (submissionOver scheduler net undisturbed req server input)).2.attempts
  have counted : EnqueuedOnce scheduler net req server config s input ↔
      arrivals net
        (call config s (submissionOver scheduler net undisturbed req server input)).2.attempts ≤
          1 := by
    unfold EnqueuedOnce
    simp only [depth, transitions]
    constructor
    · rintro ⟨_, started⟩
      omega
    · intro once
      refine ⟨?_, by omega⟩
      rcases Nat.le_one_iff_eq_zero_or_eq_one.mp once with zero | one
      · left
        rw [zero]
        exact Int32.add_zero _
      · right
        rw [one]
        rfl
  rw [counted, arrivals_le_one_iff]
  simp only [lt_call_attempts_iff, attempts_iff_resent]
  constructor
  · intro once i j less first second made
    rw [once i j less made first] at second
    cases second
  · intro never i j less made first
    by_contra second
    exact never i j less first (by simpa using second) made

end Network

/-! ## A lost reply -/

def patientCall : CallInput := failingHealthCheck none

def firstReplyLost : Network where
  delivered := fun _ => true
  arrival := fun i => i
  answered := fun i => i ≠ 0
  lost := ⟨"Unavailable", "connection reset"⟩

def freshSubmission : SubmitTaskRequest := ⟨"t", "a", "busybox", ["true"], "100m", "128Mi", 0, 60⟩

theorem lost_reply_enqueues_twice :
    (call .default .fresh (submissionOver ⟨0, 0⟩ firstReplyLost undisturbed freshSubmission .fresh
        patientCall)).2.attempts = 2 ∧
      (serverAfter ⟨0, 0⟩ firstReplyLost undisturbed freshSubmission .fresh 2).queueDepth = 2 ∧
      (serverAfter ⟨0, 0⟩ firstReplyLost undisturbed freshSubmission .fresh 2).transitions.length =
        2 ∧
      ¬ EnqueuedOnce ⟨0, 0⟩ firstReplyLost freshSubmission .fresh .default .fresh patientCall := by
  have attempts : (call .default .fresh (submissionOver ⟨0, 0⟩ firstReplyLost undisturbed
      freshSubmission .fresh patientCall)).2.attempts = 2 := by decide +kernel
  have started : (serverAfter ⟨0, 0⟩ firstReplyLost undisturbed freshSubmission .fresh
      2).transitions.length = 2 := by decide +kernel
  refine ⟨attempts, by decide +kernel, started, ?_⟩
  rintro ⟨_, atMost⟩
  rw [attempts, started] at atMost
  exact absurd atMost (by decide)

end CloudOS.Orchestrator.RetriedSubmission
