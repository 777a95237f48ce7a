import CloudOS.Orchestrator.Module1Client

/-!
# Concurrent callers of one client

Any number of callers share the breaker; each of its critical sections is one
step, and between two of them anything may happen.  `probing` is a history
variable that no code reads: the callers that took the breaker from open to
half-open and have not recorded the outcome of their call yet.
-/

set_option autoImplicit false

namespace CloudOS.Orchestrator.ConcurrentCallers

open CloudOS.Lib.CallProgram
open CloudOS.Lib.History
open CloudOS.Orchestrator.CircuitBreaker
open CloudOS.Orchestrator.Module1Client

abbrev Caller := Nat

structure World where
  breaker : Breaker
  clock : Int
  probing : List Caller

def checked (config : ClientConfig) (caller : Caller) (w : World) : World :=
  { w with
    breaker := (checkCircuitBreaker config w.breaker w.clock).2
    probing :=
      if startsProbe config (w.breaker, .checkCircuitBreaker w.clock) then
        caller :: w.probing
      else w.probing }

def recorded (caller : Caller) (breaker : Breaker) (w : World) : World :=
  { w with breaker := breaker, probing := w.probing.filter (· ≠ caller) }

/-- The server, the network and the contexts answer as they like. -/
def Outcome (config : ClientConfig) (caller : Caller) :
    (op : Op) → World → Res op → World → Prop
  | .checkCircuitBreaker, w, answer, w' =>
      answer = (checkCircuitBreaker config w.breaker w.clock).1 ∧ w' = checked config caller w
  | .recordSuccess, w, _, w' => w' = recorded caller (recordSuccess w.breaker) w
  | .recordFailure, w, _, w' => w' = recorded caller (recordFailure config w.breaker w.clock) w
  | .install, w, _, w' => w' = { w with breaker := resetBreaker w.breaker }
  | .getState, w, _, w' => w' = w
  | .dialContext, w, _, w' => w' = w
  | .sleep _, w, _, w' => w' = w
  | .invoke _, w, _, w' => w' = w
  | .awaitBackoff _, w, _, w' => w' = w

def system (config : ClientConfig) (program : Prog Op Res (Except CallError Response) → Prop) :
    System Caller World Op Res (Except CallError Response) where
  outcome := Outcome config
  program _ p := program p
  environment w w' := ∃ later : Nat, w' = { w with clock := w.clock + later }

abbrev Configuration := Conf Caller World Op Res (Except CallError Response)

abbrev History := List (Configuration × Event Caller Op Res)

/-- Callers of `callWithRetry` with the closures of the four methods. -/
def callers (config : ClientConfig) (p : Prog Op Res (Except CallError Response)) : Prop :=
  ∃ request : Request, p = callWithRetry config request.callFunc

/-- Users of the whole client, which may also reconnect. -/
def clients (config : ClientConfig) (p : Prog Op Res (Except CallError Response)) : Prop :=
  ∃ request, p = clientCall config request

/-! ## What a run does to the breaker -/

/-- The breaker operation an event stands for. -/
def breakerOp (entry : Configuration × Event Caller Op Res) : Option BreakerOp :=
  match entry.2 with
  | .called _ .checkCircuitBreaker _ => some (.checkCircuitBreaker entry.1.world.clock)
  | .called _ .recordSuccess _ => some .recordSuccess
  | .called _ .recordFailure _ => some (.recordFailure entry.1.world.clock)
  | .called _ .install _ => some .reset
  | _ => none

def breakerOps (history : History) : List BreakerOp := history.filterMap breakerOp

theorem breakerOps_snoc (history : History) (entry : Configuration × Event Caller Op Res) :
    breakerOps (history ++ [entry]) = breakerOps history ++ (breakerOp entry).toList := by
  unfold breakerOps
  cases op : breakerOp entry <;> simp [op]

theorem step_breaker {config : ClientConfig}
    {program : Prog Op Res (Except CallError Response) → Prop} {c c' : Configuration}
    {event : Event Caller Op Res} (step : (system config program).Step c event c') :
    c'.world.breaker = after (apply config) c.world.breaker (breakerOp (c, event)).toList := by
  cases step with
  | start caller p idle allowed => rfl
  | finish caller value at_ret => rfl
  | crash caller => rfl
  | environment world moves =>
      obtain ⟨later, rfl⟩ := moves
      rfl
  | call caller op next answer world at_call out =>
      cases op with
      | checkCircuitBreaker => exact congrArg World.breaker out.2
      | _ => exact congrArg World.breaker out

theorem run_breaker {config : ClientConfig}
    {program : Prog Op Res (Except CallError Response) → Prop} {start c : Configuration}
    {history : History} (fresh : start.world.breaker = .fresh)
    (run : (system config program).Run start history c) :
    c.world.breaker = breakerAfter config (breakerOps history) := by
  induction run with
  | nil => exact fresh
  | @snoc history middle final event before step ih =>
      rw [step_breaker step, ih, breakerOps_snoc, breakerAfter_append]

theorem run_below {config : ClientConfig} (positive : 1 ≤ config.maxConsecutiveErr)
    {start c : Configuration} {history : History} (fresh : start.world.breaker = .fresh)
    (run : (system config (clients config)).Run start history c) :
    Below config c.world.breaker := by
  rw [run_breaker fresh run]
  exact breakerAfter_below positive (breakerOps history)

/-! ## Admissions while a probe is outstanding -/

/-- No caller is admitted between an open to half-open transition and the
recording of that caller's outcome. -/
def SingleProbe (history : History) : Prop :=
  ∀ entry ∈ history, ∀ caller answer, entry.2 = .called caller .checkCircuitBreaker answer →
    entry.1.world.probing ≠ [] → answer.isSome = true

/-- Whoever asks while a probe is outstanding asks after failures of other
calls have tripped the breaker again, and before its recovery time is over. -/
def TrippedBeforeChecks (config : ClientConfig) (history : History) : Prop :=
  ∀ before entry rest, history = before ++ entry :: rest →
    ∀ caller answer, entry.2 = .called caller .checkCircuitBreaker answer →
      entry.1.world.probing ≠ [] →
        TrippedSince config (breakerOps before) ∧
          entry.1.world.breaker.recovered config entry.1.world.clock = false

theorem check_answer {config : ClientConfig}
    {program : Prog Op Res (Except CallError Response) → Prop} {c c' : Configuration}
    {caller : Caller} {answer : Res .checkCircuitBreaker}
    (step : (system config program).Step c (.called caller .checkCircuitBreaker answer) c') :
    answer = (checkCircuitBreaker config c.world.breaker c.world.clock).1 := by
  cases step with
  | call _ _ next _ world at_call out => exact out.1

theorem check_rejected_iff {config : ClientConfig}
    {program : Prog Op Res (Except CallError Response) → Prop} {start c : Configuration}
    {history before rest : History} {entry : Configuration × Event Caller Op Res}
    (fresh : start.world.breaker = .fresh) (run : (system config program).Run start history c)
    (cut : history = before ++ entry :: rest) {caller : Caller}
    {answer : Res .checkCircuitBreaker}
    (isCheck : entry.2 = .called caller .checkCircuitBreaker answer) :
    answer.isSome = true ↔ TrippedSince config (breakerOps before) ∧
      entry.1.world.breaker.recovered config entry.1.world.clock = false := by
  obtain ⟨sofar, next, step⟩ := run.split cut
  rw [isCheck] at step
  rw [check_answer step, check_rejects_iff, ← isOpen_iff_tripped, ← run_breaker fresh sofar]

structure Initial (c : Configuration) : Prop where
  fresh : c.world.breaker = .fresh
  noProbe : c.world.probing = []
  idle : ∀ caller, c.running caller = none

/-- In every interleaving of any number of callers: the probe stays the only
call exactly if nobody asks while it is outstanding, except after a full series
of failures of other calls. -/
theorem single_probe_iff (config : ClientConfig) (start c : Configuration) (history : History)
    (initial : Initial start) (run : (system config (callers config)).Run start history c) :
    SingleProbe history ↔ TrippedBeforeChecks config history := by
  constructor
  · intro single before entry rest cut caller answer isCheck outstanding
    have member : entry ∈ history := by simp [cut]
    have rejected := single entry member caller answer isCheck outstanding
    exact (check_rejected_iff initial.fresh run cut isCheck).mp rejected
  · intro tripped entry member caller answer isCheck outstanding
    obtain ⟨before, rest, cut⟩ := List.append_of_mem member
    have facts := tripped before entry rest cut caller answer isCheck outstanding
    exact (check_rejected_iff initial.fresh run cut isCheck).mpr facts

/-! ### Runs with a probe

`GetQueueDepth` is called by several callers, and nothing answers. -/

section Callers
variable (config : ClientConfig)

def depthCall : Prog Op Res (Except CallError Response) :=
  callWithRetry config Request.getQueueDepth.callFunc

def afterCheck (answer : Res .checkCircuitBreaker) : Prog Op Res (Except CallError Response) :=
  match answer with
  | some err => .ret (.error (.circuitOpen err))
  | none => callLoop config Request.getQueueDepth.callFunc (config.maxRetries + 1).toNat
      config.retryBackoff none

theorem depthCall_eq : depthCall config = .call .checkCircuitBreaker (afterCheck config) := by
  refine congrArg (Prog.call Op.checkCircuitBreaker) (funext ?_)
  intro answer
  cases answer <;> rfl

def started (caller : Caller) (c : Configuration) : Configuration :=
  ⟨c.world, Function.update c.running caller (some (depthCall config))⟩

def answerIn (c : Configuration) : Res .checkCircuitBreaker :=
  (checkCircuitBreaker config c.world.breaker c.world.clock).1

def asked (caller : Caller) (c : Configuration) : Configuration :=
  ⟨checked config caller c.world,
    Function.update (started config caller c).running caller
      (some (afterCheck config (answerIn config c)))⟩

theorem asked_running_of_ne {caller other : Caller} (c : Configuration)
    (different : other ≠ caller) : (asked config caller c).running other = c.running other := by
  simp [asked, started, Function.update_of_ne different]

theorem asked_run (caller : Caller) (c : Configuration) (idle : c.running caller = none) :
    (system config (callers config)).Run c
      [(c, .started caller),
        (started config caller c, .called caller .checkCircuitBreaker (answerIn config c))]
      (asked config caller c) := by
  have starts : (system config (callers config)).Step c (.started caller)
      (started config caller c) := .start c caller (depthCall config) idle ⟨.getQueueDepth, rfl⟩
  have asks : (started config caller c).running caller =
      some (.call .checkCircuitBreaker (afterCheck config)) := by
    rw [← depthCall_eq]
    exact Function.update_self _ _ _
  have out : Outcome config caller .checkCircuitBreaker (started config caller c).world
      (answerIn config c) (checked config caller c.world) := ⟨rfl, rfl⟩
  have checks : (system config (callers config)).Step (started config caller c)
      (.called caller .checkCircuitBreaker (answerIn config c)) (asked config caller c) :=
    .call _ caller Op.checkCircuitBreaker (afterCheck config) _ _ asks out
  exact (System.Run.nil.snoc starts).snoc checks

end Callers

def freshWorld : World := ⟨.fresh, 0, []⟩

theorem freshWorld_initial : Initial ⟨freshWorld, fun _ => none⟩ := ⟨rfl, rfl, fun _ => rfl⟩

def unavailable : Except RpcError (Rpc.Reply .getQueueDepth) :=
  .error ⟨"Unavailable", "connection refused"⟩

/-- One attempt a call, and one failure opens the breaker. -/
def oneShot : ClientConfig :=
  { ClientConfig.default with maxRetries := 0, maxConsecutiveErr := 1 }

def failureRecorded (caller : Caller) (w : World) : World :=
  recorded caller (recordFailure oneShot w.breaker w.clock) w

theorem failed_run (caller : Caller) (c : Configuration)
    (sending : c.running caller = some (afterCheck oneShot none)) :
    ∃ next running, (system oneShot (callers oneShot)).Run c
        [(c, .called caller (.invoke .getQueueDepth) unavailable),
          (next, .called caller .recordFailure ())]
        ⟨failureRecorded caller c.world, running⟩ ∧
      ∀ other, other ≠ caller → running other = c.running other := by
  obtain ⟨reply, sends, finish, records⟩ : ∃ reply, afterCheck oneShot none =
      .call (.invoke .getQueueDepth) reply ∧
      ∃ finish, reply unavailable = .call .recordFailure finish := ⟨_, rfl, _, rfl⟩
  have atSend : c.running caller = some (.call (.invoke .getQueueDepth) reply) := by
    rw [sending, sends]
  have invokes : (system oneShot (callers oneShot)).Step c
      (.called caller (.invoke .getQueueDepth) unavailable)
      ⟨c.world, Function.update c.running caller (some (reply unavailable))⟩ :=
    .call c caller (Op.invoke .getQueueDepth) reply unavailable c.world atSend rfl
  have atRecord : Function.update c.running caller (some (reply unavailable)) caller =
      some (.call .recordFailure finish) := by
    rw [Function.update_self, records]
  have fails : (system oneShot (callers oneShot)).Step
      ⟨c.world, Function.update c.running caller (some (reply unavailable))⟩
      (.called caller .recordFailure ())
      ⟨failureRecorded caller c.world,
        Function.update (Function.update c.running caller (some (reply unavailable))) caller
          (some (finish ()))⟩ :=
    .call _ caller Op.recordFailure finish () _ atRecord rfl
  refine ⟨_, _, (System.Run.nil.snoc invokes).snoc fails, ?_⟩
  intro other different
  simp [Function.update_of_ne different]

def twoAdmitted : Configuration :=
  asked oneShot 1 (asked oneShot 0 ⟨freshWorld, fun _ => none⟩)

def halfMinuteLater : World :=
  { failureRecorded 0 twoAdmitted.world with clock := (31000000000 : Nat) }

/-- The failure of caller 1 comes while caller 2 probes. -/
def reopened : World := failureRecorded 1 (checked oneShot 2 halfMinuteLater)

def Shielded (entry : Configuration × Event Caller Op Res) : Prop :=
  ∀ caller answer, entry.2 = .called caller .checkCircuitBreaker answer →
    entry.1.world.probing ≠ [] → entry.1.world.breaker.circuitState = .stateOpen ∧
      entry.1.world.breaker.recovered oneShot entry.1.world.clock = false

theorem reopened_run :
    ∃ history c before err, (system oneShot (callers oneShot)).Run
        ⟨freshWorld, fun _ => none⟩ history c ∧
      (before, .called 3 .checkCircuitBreaker (some err)) ∈ history ∧
      before.world.probing = [2] ∧ ∀ entry ∈ history, Shielded entry := by
  have two : (system oneShot (callers oneShot)).Run ⟨freshWorld, fun _ => none⟩ _ twoAdmitted :=
    (asked_run oneShot 0 _ rfl).trans (asked_run oneShot 1 _ rfl)
  obtain ⟨next, running, opened, others⟩ := failed_run 0 twoAdmitted rfl
  have waits : (system oneShot (callers oneShot)).Step
      ⟨failureRecorded 0 twoAdmitted.world, running⟩ .environment ⟨halfMinuteLater, running⟩ :=
    .environment _ _ ⟨31000000000, rfl⟩
  have probes := asked_run oneShot 2 ⟨halfMinuteLater, running⟩ (others 2 (by decide))
  have sending : (asked oneShot 2 ⟨halfMinuteLater, running⟩).running 1 =
      some (afterCheck oneShot none) := by
    rw [asked_running_of_ne oneShot _ (by decide)]
    exact others 1 (by decide)
  obtain ⟨next', running', fails, others'⟩ := failed_run 1 _ sending
  have idle : running' 3 = none := by
    rw [others' 3 (by decide), asked_running_of_ne oneShot _ (by decide)]
    exact others 3 (by decide)
  have rejects := asked_run oneShot 3 ⟨reopened, running'⟩ idle
  have run := ((((two.trans opened).snoc waits).trans probes).trans fails).trans rejects
  refine ⟨_, _, _, _, run, List.mem_append_right _ (List.mem_cons_of_mem _ List.mem_cons_self),
    rfl, ?_⟩
  intro entry member caller answer isCheck outstanding
  simp only [List.mem_append, List.mem_cons, List.not_mem_nil, or_false] at member
  -- of the four checks, the first three find no probe
  rcases member with ((((((rfl | rfl) | rfl | rfl) | rfl | rfl) | rfl) | rfl | rfl) | rfl | rfl) |
    rfl | rfl <;> cases isCheck
  · exact absurd rfl outstanding
  · exact absurd rfl outstanding
  · exact absurd rfl outstanding
  · exact ⟨rfl, rfl⟩

/-- Caller 3 would join the probe of caller 2 if the failure of caller 1 had
not been recorded in between. -/
theorem late_failure_protects_probe :
    ∃ history c before err, (system oneShot (callers oneShot)).Run
        ⟨freshWorld, fun _ => none⟩ history c ∧
      (before, .called 3 .checkCircuitBreaker (some err)) ∈ history ∧
      before.world.probing = [2] ∧ SingleProbe history := by
  obtain ⟨history, c, before, err, run, member, probe, shielded⟩ := reopened_run
  have single := (single_probe_iff oneShot _ _ _ freshWorld_initial run).mpr
  refine ⟨history, c, before, err, run, member, probe, single ?_⟩
  intro earlier entry rest cut caller answer isCheck outstanding
  have sofar := run_breaker rfl (run.split cut).1
  rw [← isOpen_iff_tripped, ← sofar]
  exact shielded entry (by simp [cut]) caller answer isCheck outstanding

def unanswered (config : ClientConfig) (caller : Caller) : (op : Op) → World → Res op × World
  | .checkCircuitBreaker, w =>
      ((checkCircuitBreaker config w.breaker w.clock).1, checked config caller w)
  | .recordSuccess, w => ((), recorded caller (recordSuccess w.breaker) w)
  | .recordFailure, w => ((), recorded caller (recordFailure config w.breaker w.clock) w)
  | .install, w => ((), { w with breaker := resetBreaker w.breaker })
  | .getState, w => (some .ready, w)
  | .dialContext, w => (true, w)
  | .sleep _, w => ((), w)
  | .invoke _, w => (.error ⟨"Unavailable", "connection refused"⟩, w)
  | .awaitBackoff _, w => (none, w)

theorem unanswered_faithful (config : ClientConfig) (caller : Caller) (op : Op) (w : World) :
    Outcome config caller op w (unanswered config caller op w).1
      (unanswered config caller op w).2 := by
  cases op with
  | checkCircuitBreaker => exact ⟨rfl, rfl⟩
  | _ => rfl

def failedCalls : Nat → World → World
  | 0, w => w
  | n + 1, w => failedCalls n ((depthCall .default).eval (unanswered .default 0) w).2

theorem failedCalls_run (n : Nat) (w : World) :
    ∃ history, (system .default (callers .default)).Run ⟨w, fun _ => none⟩ history
      ⟨failedCalls n w, fun _ => none⟩ := by
  induction n generalizing w with
  | zero => exact ⟨[], .nil⟩
  | succ n ih =>
      obtain ⟨first, toFirst⟩ := (system .default (callers .default)).run_eval
        (unanswered .default 0) 0 (unanswered_faithful .default 0) (depthCall .default)
        ⟨.getQueueDepth, rfl⟩ ⟨w, fun _ => none⟩ rfl
      obtain ⟨rest, toRest⟩ := ih ((depthCall .default).eval (unanswered .default 0) w).2
      exact ⟨_, toFirst.trans toRest⟩

def recoveredStart : Configuration where
  world := { failedCalls 5 freshWorld with
    clock := (failedCalls 5 freshWorld).clock + (31000000000 : Nat) }
  running := fun _ => none

theorem recovered_run : ∃ history, (system .default (callers .default)).Run
    ⟨freshWorld, fun _ => none⟩ history recoveredStart := by
  obtain ⟨history, failed⟩ := failedCalls_run 5 freshWorld
  exact ⟨_, failed.snoc (.environment _ _ ⟨31000000000, rfl⟩)⟩

/-- With the default configuration: after five failures and the recovery time,
caller 0 takes the breaker to half-open, and caller 1 is admitted before the
outcome of that call is known. -/
theorem two_probes_admitted :
    ∃ history c before, (system .default (callers .default)).Run
        ⟨freshWorld, fun _ => none⟩ history c ∧
      (before, .called 1 .checkCircuitBreaker none) ∈ history ∧
      before.world.probing = [0] ∧ ¬ SingleProbe history := by
  obtain ⟨history, recovered⟩ := recovered_run
  have first := asked_run .default 0 recoveredStart rfl
  have second := asked_run .default 1 (asked .default 0 recoveredStart) rfl
  have outstanding :
      (started .default 1 (asked .default 0 recoveredStart)).world.probing = [0] := by decide
  have admits : answerIn .default (asked .default 0 recoveredStart) = none := rfl
  rw [admits] at second
  refine ⟨_, _, started .default 1 (asked .default 0 recoveredStart),
    (recovered.trans first).trans second, by simp, outstanding, ?_⟩
  intro single
  have rejected := single (started .default 1 (asked .default 0 recoveredStart),
    .called 1 .checkCircuitBreaker none) (by simp) 1 none rfl (by rw [outstanding]; decide)
  cases rejected

end CloudOS.Orchestrator.ConcurrentCallers
