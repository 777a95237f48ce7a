import CloudOS.Orchestrator.ApiGateway
import CloudOS.Orchestrator.RetriedSubmission

/-!
# The gateway with the client and the scheduler behind it

The gateway of `module2-orchestrator/cmd/api-gateway/main.go` with the Module 1 client and the
mock scheduler behind it: a request passes the token check, the limiter and the checks of
`HandleCreateTask`, and the client submits it through its breaker and its retries over a
network that loses messages.  Between the requests the scheduler goes on with its tasks, and
others call it.

`http_cases` says what one request can do: nothing, or it was authorised and the scheduler has
taken the attempts of one call.
-/

set_option autoImplicit false

namespace CloudOS.Orchestrator.GatewayDeployment

open CloudOS.Lib.ExpiringCounters
open CloudOS.Lib.History
open CloudOS.Lib.HttpHandlers
open CloudOS.Lib.References
open CloudOS.Mock.SchedulerService
open CloudOS.Orchestrator.ApiGateway (Gateway World Unmarshal CreateCloudTaskRequest
  answerSubmission checkedTask withRateLimit writeJSON)
open CloudOS.Orchestrator.CircuitBreaker
open CloudOS.Orchestrator.ClientSession
open CloudOS.Orchestrator.HttpAuth
open CloudOS.Orchestrator.Module1Client
open CloudOS.Orchestrator.RateLimiting
open CloudOS.Orchestrator.RetriedSubmission

/-- The network of a call, and what happens at the scheduler before each of the attempts
arrives. -/
structure Traffic extends Network where
  meanwhile : Nat → List Call

/-! ## The deployment -/

structure Deployment where
  redis : Counters String
  session : Session
  service : Service

def Deployment.fresh : Deployment := ⟨fun _ => none, .fresh, .fresh⟩

/-- How it is set up, with the library functions that the parts leave open. -/
structure Setup where
  client : ClientConfig
  scheduler : Config
  rateLimiter : Option RateLimiter
  jwtManager : JWTManager
  parseWithClaims : Parser
  unmarshal : Unmarshal
  showSeconds : Int → String
  showDuration : Int → String

/-- A request to the gateway, with what the network does to the call to Module 1 that it may
lead to; or something else that happens at the scheduler. -/
inductive DeploymentOp where
  | http (r : HttpRequest) (net : Traffic) (input : CallInput)
  | scheduler (call : Call)

section Definitions
variable (setup : Setup) (d : Deployment) (net : Traffic) (input : CallInput) (r : HttpRequest)

def clientCallOf (req : SubmitTaskRequest) : Except CallError Response × Session :=
  call setup.client d.session
    (submissionOver setup.scheduler net.toNetwork net.meanwhile req d.service input)

/-- What `SubmitTask` returns; other responses belong to other methods. -/
def submitResult : Except CallError Response → Except String SubmitTaskResponse
  | .ok (.submitted response) => .ok response
  | .ok _ => .error ""
  | .error err => .error (err.text setup.showDuration)

def gatewayFor : Gateway where
  apiServer := ⟨some fun req => submitResult setup (clientCallOf setup d net input req).1⟩
  rateLimiter := setup.rateLimiter
  jwtManager := setup.jwtManager

def served : Served World :=
  (gatewayFor setup d net input).serve setup.parseWithClaims setup.unmarshal setup.showSeconds r
    ⟨d.redis, []⟩

def submitted (redis : Counters String) : List SubmitTaskRequest → Deployment
  | [] => { d with redis := redis }
  | req :: _ =>
      let called := clientCallOf setup d net input req
      ⟨redis, called.2, serverAfter setup.scheduler net.toNetwork net.meanwhile req d.service
        called.2.attempts⟩

end Definitions

def deploymentStep (setup : Setup) (d : Deployment) : DeploymentOp → Deployment
  | .http r net input =>
      let answered := (served setup d net input r).world
      submitted setup d net input answered.redis answered.submitted
  | .scheduler call =>
      { d with service := Mock.SchedulerService.step setup.scheduler d.service call }

/-! ## The scheduler keeps its tasks -/

structure SameTask (task task' : Task) : Prop where
  id : task'.id = task.id
  tenantID : task'.tenantID = task.tenantID
  queuePosition : task'.queuePosition = task.queuePosition

theorem SameTask.refl (task : Task) : SameTask task task := ⟨rfl, rfl, rfl⟩

/-- Every task is still there, and every id is still known: it leads to the task that it led
to, or to a newer one. -/
structure Keeps (s s' : Service) : Prop where
  tasks : ∀ ref task, s.tasks.get? ref = some task →
    ∃ task', s'.tasks.get? ref = some task' ∧ SameTask task task'
  ids : ∀ taskID ref, s.tasks.ref? taskID = some ref →
    ∃ latest, s'.tasks.ref? taskID = some latest ∧ ref ≤ latest

theorem Keeps.refl (s : Service) : Keeps s s where
  tasks := fun _ task there => ⟨task, there, .refl task⟩
  ids := fun _ ref known => ⟨ref, known, Nat.le_refl ref⟩

theorem Keeps.trans {s s' s'' : Service} (first : Keeps s s') (second : Keeps s' s'') :
    Keeps s s'' where
  tasks := by
    intro ref task there
    obtain ⟨task', there', same⟩ := first.tasks ref task there
    obtain ⟨task'', there'', same'⟩ := second.tasks ref task' there'
    exact ⟨task'', there'', same'.id.trans same.id, same'.tenantID.trans same.tenantID,
      same'.queuePosition.trans same.queuePosition⟩
  ids := by
    intro taskID ref known
    obtain ⟨later, known', notOlder⟩ := first.ids taskID ref known
    obtain ⟨latest, known'', notOlder'⟩ := second.ids taskID later known'
    exact ⟨latest, known'', notOlder.trans notOlder'⟩

theorem keeps_alloc {s s' : Service} {key : String} {task : Task}
    (tasks : s'.tasks = s.tasks.alloc key task) : Keeps s s' where
  tasks := by
    intro ref old there
    refine ⟨old, ?_, .refl old⟩
    rw [tasks]
    exact RefStore.get?_alloc s.tasks key task there
  ids := by
    intro taskID ref known
    rw [tasks, RefStore.ref?_alloc]
    split
    next => exact ⟨_, rfl, Nat.le_of_lt (RefStore.ref?_lt known)⟩
    next => exact ⟨ref, known, Nat.le_refl ref⟩

theorem keeps_write {s s' : Service} {ref : Nat} {old task : Task}
    (there : s.tasks.get? ref = some old) (same : SameTask old task)
    (tasks : s'.tasks = s.tasks.write ref task) : Keeps s s' where
  tasks := by
    intro other found here
    rw [tasks, s.tasks.get?_write there]
    split
    next isRef =>
      subst isRef
      obtain rfl := Option.some.inj (there.symm.trans here)
      exact ⟨task, rfl, same⟩
    next => exact ⟨found, here, .refl found⟩
  ids := by
    intro taskID other known
    rw [tasks]
    exact ⟨other, known, Nat.le_refl other⟩

theorem finishedTask_same (failing : Bool) (now : Nat) (task : Task) :
    SameTask task (finishedTask failing now task) := by
  cases failing <;> exact ⟨rfl, rfl, rfl⟩

theorem step_keeps (scheduler : Config) (s : Service) (call : Call) :
    Keeps s (Mock.SchedulerService.step scheduler s call) := by
  cases call with
  | submitTask req now => exact keeps_alloc rfl
  | addPendingTask taskID now => exact keeps_alloc rfl
  | cancelTask taskID tenantID now =>
      rw [Mock.SchedulerService.step]
      rcases cancelTask_cases taskID tenantID now s with same | ⟨ref, task, _, there, _, left⟩
      · rw [same]
        exact .refl s
      · have kept : SameTask task (cancelledTask now task) := ⟨rfl, rfl, rfl⟩
        rw [left]
        exact keeps_write there kept rfl
  | transition index roll now =>
      rw [Mock.SchedulerService.step]
      rcases transition_cases scheduler index roll now s with
        ⟨ref, task, due⟩ | ⟨ref, task, due⟩ | ⟨same, _⟩
      · have kept : SameTask task (runningTask now task) := ⟨rfl, rfl, rfl⟩
        rw [transition_waiting due]
        exact keeps_write due.2 kept rfl
      · rw [transition_executing due]
        exact keeps_write due.2 (finishedTask_same _ now task) rfl
      · rw [same]
        exact .refl s

theorem run_keeps (scheduler : Config) (s : Service) (calls : List Call) :
    Keeps s (after (Mock.SchedulerService.step scheduler) s calls) := by
  have kept : ∀ left call, Keeps s left → Keeps s (Mock.SchedulerService.step scheduler left call) :=
    fun left call held => held.trans (step_keeps scheduler left call)
  exact after_invariant kept (.refl s) calls

theorem Keeps.length_le {s s' : Service} (keeps : Keeps s s') :
    s.tasks.heap.length ≤ s'.tasks.heap.length := by
  by_contra shorter
  have below : s'.tasks.heap.length < s.tasks.heap.length := Nat.lt_of_not_le shorter
  obtain ⟨task, there, _⟩ := keeps.tasks s'.tasks.heap.length _ (List.getElem?_eq_getElem below)
  exact absurd (List.getElem?_eq_some_iff.mp there).1 (Nat.lt_irrefl _)

section Attempts
variable (scheduler : Config) (net : Network) (meanwhile : Nat → List Call)
  (req : SubmitTaskRequest) (server : Service)

theorem serverAfter_keeps (count : Nat) :
    Keeps server (serverAfter scheduler net meanwhile req server count) := by
  induction count with
  | zero => exact .refl server
  | succ count ih =>
      have here := ih.trans (run_keeps scheduler _ (meanwhile count))
      rw [serverAfter]
      split
      next => exact here.trans (keeps_alloc rfl)
      next => exact here

theorem serverAfter_delivered {i : Nat} (delivered : net.delivered i = true) :
    ∃ ref, server.tasks.heap.length ≤ ref ∧
      (serverAfter scheduler net meanwhile req server (i + 1)).tasks.ref? req.taskID = some ref ∧
      (serverAfter scheduler net meanwhile req server (i + 1)).tasks.get? ref =
        some (submittedTask (submission req) (net.arrival i)
          (reached scheduler meanwhile i (serverAfter scheduler net meanwhile req server i))) := by
  have here := (serverAfter_keeps scheduler net meanwhile req server i).trans
    (run_keeps scheduler _ (meanwhile i))
  rw [serverAfter, if_pos delivered]
  refine ⟨_, here.length_le, ?_, ?_⟩
  · exact (RefStore.ref?_alloc _ _ _ _).trans (if_pos rfl)
  · simp [Mock.SchedulerService.submitTask, RefStore.alloc, RefStore.get?, reached]

theorem submissionOver_outcome_ok {input : CallInput} {i : Nat} {response : Response}
    (well : (submissionOver scheduler net meanwhile req server input).outcome i = .ok response) :
    net.delivered i = true ∧
      response = .submitted (responseOf (Mock.SchedulerService.submitTask scheduler
        (submission req) (net.arrival i)
        (reached scheduler meanwhile i (serverAfter scheduler net meanwhile req server i))).1) := by
  rw [submissionOver_outcome] at well
  cases both : net.delivered i && net.answered i with
  | false =>
      rw [both] at well
      cases well
  | true =>
      rw [both] at well
      exact ⟨(Bool.and_eq_true_iff.mp both).1, (Except.ok.inj well).symm⟩

end Attempts

/-! ## The client -/

section Client
variable {config : ClientConfig} {input : CallInput}

theorem callLoop_ok {left : Nat} {backoffDuration : Int} {lastErr : Option AttemptError}
    {s : Session} {response : Response}
    (well : ((callLoop config input.request.callFunc left backoffDuration lastErr).eval
      (handle config input) s).1 = .ok response) :
    ∃ i, ((callLoop config input.request.callFunc left backoffDuration lastErr).eval
        (handle config input) s).2.attempts = i + 1 ∧ input.outcome i = .ok response := by
  induction left generalizing s backoffDuration lastErr with
  | zero =>
      rw [callLoop_zero] at well
      cases well
  | succ left ih =>
      cases outcome : input.outcome s.attempts with
      | ok answer =>
          rw [callLoop_success outcome] at well ⊢
          obtain rfl := Except.ok.inj well
          exact ⟨s.attempts, rfl, outcome⟩
      | error err =>
          cases left with
          | zero =>
              rw [callLoop_last outcome] at well
              cases well
          | succ left =>
              rw [callLoop_failure outcome] at well ⊢
              split at well
              next => cases well
              next cut =>
                rw [if_neg cut]
                exact ih well

theorem call_ok {s : Session} {response : Response} (well : (call config s input).1 = .ok response) :
    ∃ i, (call config s input).2.attempts = i + 1 ∧ input.outcome i = .ok response := by
  cases ensured : (ensureConnected config).eval (handle config input) (enter input s) with
  | mk answer s' =>
      cases answer with
      | some err =>
          rw [call_of_unconnected ensured] at well
          cases well
      | none =>
          rw [call_of_connected ensured] at well ⊢
          cases checked : (checkCircuitBreaker config s'.breaker s'.clock).1 with
          | some err =>
              rw [callWithRetry_rejected checked] at well
              cases well
          | none =>
              rw [callWithRetry_admitted checked] at well ⊢
              exact callLoop_ok well

end Client

/-! ## The gateway -/

structure Quiet (w : World) (result : Served World) : Prop where
  submitted : result.world.submitted = w.submitted
  answer : .status 202 ∉ result.writes

structure Submits (unmarshal : Unmarshal) (g : Gateway) (r : HttpRequest) (w : World)
    (result : Served World) (req : CreateCloudTaskRequest) : Prop where
  checked : checkedTask unmarshal r = some req
  submitted : result.world.submitted = w.submitted ++ [ApiGateway.submission req]
  answer : ∃ submitTask, g.apiServer.module1Client = some submitTask ∧
    result.writes = answerSubmission req.name (submitTask (ApiGateway.submission req))

section Gateway
variable (unmarshal : Unmarshal) (showSeconds : Int → String) (parseWithClaims : Parser)
  (g : Gateway) (r : HttpRequest) (ctx : Context) (w : World)

theorem quiet_writeError {code : Nat} (other : code ≠ 202) (headers : List Write)
    (plain : .status 202 ∉ headers) (message : String) (err : Option String) :
    Quiet w (answer (headers ++ ApiGateway.writeError code message err) w) := by
  refine ⟨rfl, ?_⟩
  simp [answer, plain, ApiGateway.writeError, writeJSON, Ne.symm other]

theorem handleCreateTask_cases :
    Quiet w (g.apiServer.handleCreateTask unmarshal r ctx w) ∨
      ∃ req, Submits unmarshal g r w (g.apiServer.handleCreateTask unmarshal r ctx w) req := by
  have badRequest : ∀ message err,
      Quiet w (answer (ApiGateway.writeError 400 message err) w) :=
    quiet_writeError w (by decide) [] List.not_mem_nil
  unfold ApiGateway.APIServer.handleCreateTask
  cases body : r.body with
  | error err => exact .inl (badRequest _ _)
  | ok text =>
      simp only
      cases decoded : unmarshal text with
      | error err => exact .inl (badRequest _ _)
      | ok req =>
          simp only
          by_cases named : req.name = ""
          · rw [if_pos named]
            exact .inl (badRequest _ _)
          by_cases owned : req.tenantID = ""
          · rw [if_neg named, if_pos owned]
            exact .inl (badRequest _ _)
          by_cases built : req.image = ""
          · rw [if_neg named, if_neg owned, if_pos built]
            exact .inl (badRequest _ _)
          rw [if_neg named, if_neg owned, if_neg built]
          cases client : g.apiServer.module1Client with
          | none =>
              have retryLater : .status 202 ∉ [Write.header "Retry-After" "30"] := by simp
              exact .inl (quiet_writeError w (by decide) _ retryLater _ _)
          | some submitTask =>
              have checked : checkedTask unmarshal r = some req := by
                simp [checkedTask, body, decoded, named, owned, built]
              exact .inr ⟨req, checked, rfl, submitTask, client, rfl⟩

theorem withRateLimit_cases {claims : Claims} (given : ctx.claims = some claims)
    (next : HttpHandler World) :
    Quiet w (withRateLimit showSeconds g.rateLimiter next r ctx w) ∨
      ∃ redis, withRateLimit showSeconds g.rateLimiter next r ctx w =
        next r ctx { w with redis := redis } := by
  unfold withRateLimit
  cases g.rateLimiter with
  | none => exact .inr ⟨w.redis, rfl⟩
  | some rateLimiter =>
      simp only [getTenantIDFromContext, given]
      cases working : (allow rateLimiter claims.tenantID r.limiter w.redis).1.err with
      | some err =>
          refine .inl ⟨rfl, ?_⟩
          simp [answer, ApiGateway.httpError]
      | none =>
          cases permitted : (allow rateLimiter claims.tenantID r.limiter w.redis).1.allowed with
          | false =>
              refine .inl ⟨rfl, ?_⟩
              simp [answer]
          | true => exact .inr ⟨_, rfl⟩

theorem guarded_cases (handler : HttpHandler World) :
    Quiet w (g.guarded parseWithClaims showSeconds handler r .background w) ∨
      ∃ claims redis, acceptedClaims parseWithClaims g.jwtManager r.now (extractBearerToken r) =
          some claims ∧
        g.guarded parseWithClaims showSeconds handler r .background w =
          handler r { Context.background with claims := some claims } { w with redis := redis } := by
  unfold Gateway.guarded authMiddleware
  unfold requireToken
  dsimp only
  split
  next =>
    refine .inl ⟨rfl, ?_⟩
    simp [refuse, answer]
  next =>
    cases validated : g.jwtManager.validateToken parseWithClaims r.now (extractBearerToken r) with
    | error err =>
        refine .inl ⟨rfl, ?_⟩
        simp [refuse, answer]
    | ok claims =>
        have accepted : acceptedClaims parseWithClaims g.jwtManager r.now (extractBearerToken r) =
            some claims := by
          rw [acceptedClaims, validated]
          rfl
        rcases withRateLimit_cases showSeconds g r
            { Context.background with claims := some claims } w rfl handler with
          quiet | ⟨redis, passed⟩
        · exact .inl quiet
        · exact .inr ⟨claims, redis, accepted, passed⟩

theorem guarded_quiet_of {handler : HttpHandler World}
    (quiet : ∀ ctx redis, Quiet w (handler r ctx { w with redis := redis })) :
    Quiet w (g.guarded parseWithClaims showSeconds handler r .background w) := by
  rcases guarded_cases showSeconds parseWithClaims g r w handler with
    silent | ⟨claims, redis, _, passed⟩
  · exact silent
  · rw [passed]
    exact quiet _ redis

theorem withTaskName_quiet_of (report : String → Json) (redis : Counters String) :
    Quiet w (ApiGateway.withTaskName report r ctx { w with redis := redis }) := by
  unfold ApiGateway.withTaskName
  dsimp only
  split
  next => exact ⟨rfl, by simp [answer, ApiGateway.writeError, writeJSON]⟩
  next => exact ⟨rfl, by simp [answer, writeJSON]⟩

theorem serve_cases :
    Quiet w (g.serve parseWithClaims unmarshal showSeconds r w) ∨
      ∃ claims req, acceptedClaims parseWithClaims g.jwtManager r.now (extractBearerToken r) =
          some claims ∧
        Submits unmarshal g r w (g.serve parseWithClaims unmarshal showSeconds r w) req := by
  unfold Gateway.serve
  split
  next => exact .inl ⟨rfl, by simp [ApiGateway.handleHealth, answer, writeJSON]⟩
  next => exact .inl ⟨rfl, by simp [ApiGateway.handleMetrics, answer]⟩
  next =>
    refine .inl (guarded_quiet_of showSeconds parseWithClaims g r w ?_)
    intro ctx redis
    exact ⟨rfl, by simp [ApiGateway.handleListTasks, answer, writeJSON]⟩
  next =>
    rcases guarded_cases showSeconds parseWithClaims g r w
        (g.apiServer.handleCreateTask unmarshal) with
      silent | ⟨claims, redis, accepted, passed⟩
    · exact .inl silent
    · rw [passed]
      rcases handleCreateTask_cases unmarshal g r
          { Context.background with claims := some claims } { w with redis := redis } with
        quiet | ⟨req, submits⟩
      · exact .inl ⟨quiet.submitted, quiet.answer⟩
      · exact .inr ⟨claims, req, accepted, submits.checked, submits.submitted, submits.answer⟩
  next =>
    exact .inl (guarded_quiet_of showSeconds parseWithClaims g r w
      fun ctx redis => withTaskName_quiet_of r ctx w _ redis)
  next =>
    exact .inl (guarded_quiet_of showSeconds parseWithClaims g r w
      fun ctx redis => withTaskName_quiet_of r ctx w _ redis)
  next => exact .inl ⟨rfl, by simp [answer, ApiGateway.httpError]⟩

theorem answered_of_accepted {taskID : String} {result : Except String SubmitTaskResponse}
    (accepted : .status 202 ∈ answerSubmission taskID result) : ∃ resp, result = .ok resp := by
  cases result with
  | ok resp => exact ⟨resp, rfl⟩
  | error err => simp [answerSubmission, ApiGateway.writeError, writeJSON] at accepted

end Gateway

/-! ## One step of the deployment -/

section Steps
variable (setup : Setup) (d : Deployment) (r : HttpRequest) (net : Traffic) (input : CallInput)

/-- The request comes with a token that is accepted and with a body that decodes to `req` and
passes the checks. -/
def Authorised (setup : Setup) (r : HttpRequest) (req : CreateCloudTaskRequest) : Prop :=
  (∃ claims, acceptedClaims setup.parseWithClaims setup.jwtManager r.now (extractBearerToken r) =
    some claims) ∧ checkedTask setup.unmarshal r = some req

theorem http_cases :
    ((deploymentStep setup d (.http r net input)).service = d.service ∧
        .status 202 ∉ (served setup d net input r).writes) ∨
      ∃ req, Authorised setup r req ∧
        (deploymentStep setup d (.http r net input)).service =
          serverAfter setup.scheduler net.toNetwork net.meanwhile (ApiGateway.submission req)
            d.service (clientCallOf setup d net input (ApiGateway.submission req)).2.attempts ∧
        (served setup d net input r).writes = answerSubmission req.name
          (submitResult setup (clientCallOf setup d net input (ApiGateway.submission req)).1) := by
  rcases serve_cases setup.unmarshal setup.showSeconds setup.parseWithClaims
      (gatewayFor setup d net input) r ⟨d.redis, []⟩ with
    quiet | ⟨claims, req, accepted, checked, sent, submitTask, client, answer⟩
  · have nothing : (served setup d net input r).world.submitted = [] := quiet.submitted
    refine .inl ⟨?_, quiet.answer⟩
    simp only [deploymentStep, nothing, submitted]
  · have one : (served setup d net input r).world.submitted = [ApiGateway.submission req] := sent
    refine .inr ⟨req, ⟨⟨claims, accepted⟩, checked⟩, ?_, ?_⟩
    · simp only [deploymentStep, one, submitted]
    · cases client
      exact answer

theorem deploymentStep_keeps (op : DeploymentOp) :
    Keeps d.service (deploymentStep setup d op).service := by
  cases op with
  | http r net input =>
      rcases http_cases setup d r net input with ⟨same, _⟩ | ⟨req, _, called, _⟩
      · rw [same]
        exact .refl d.service
      · rw [called]
        exact serverAfter_keeps _ _ _ _ _ _
  | scheduler call => exact step_keeps setup.scheduler d.service call

theorem deployment_keeps (ops : List DeploymentOp) :
    Keeps d.service (after (deploymentStep setup) d ops).service := by
  have kept : ∀ left op, Keeps d.service left.service →
      Keeps d.service (deploymentStep setup left op).service :=
    fun left op held => held.trans (deploymentStep_keeps setup left op)
  exact @after_invariant _ _ _ (fun left => Keeps d.service left.service) kept d
    (.refl d.service) ops

end Steps

end CloudOS.Orchestrator.GatewayDeployment
