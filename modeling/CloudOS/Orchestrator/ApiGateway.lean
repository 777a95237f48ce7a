import CloudOS.Orchestrator.HttpAuth
import CloudOS.Orchestrator.Module1Client

/-!
# The API gateway

`module2-orchestrator/cmd/api-gateway/main.go` with the handlers of
`pkg/api/handlers.go`.  A submission reaches Module 1 through the client's
`SubmitTask`, which is a parameter; what it is called with is kept in the order
of the calls.  Decoding a body and printing the seconds of a duration are
parameters too.  The middleware that logs every request, and the log lines, are
left out.
-/

set_option autoImplicit false

namespace CloudOS.Orchestrator.ApiGateway

open CloudOS.Lib.ExpiringCounters
open CloudOS.Lib.HttpHandlers
open CloudOS.Orchestrator.HttpAuth
open CloudOS.Orchestrator.Module1Client
open CloudOS.Orchestrator.RateLimiting

/-! ## Handlers -/

structure World where
  redis : Counters String
  submitted : List SubmitTaskRequest

/-- What `HandleCreateTask` reads of a decoded body.  It reads `CPURequest`,
`MemoryRequest` and `TimeoutSeconds`, which `types.go` does not declare. -/
structure CreateCloudTaskRequest where
  name : String
  image : String
  command : List String
  tenantID : String
  cpuRequest : String
  memoryRequest : String
  priority : Int
  timeoutSeconds : Int

abbrev Unmarshal : Type := String → Except String CreateCloudTaskRequest

/-- The server with the `SubmitTask` of its Module 1 client, if there is one. -/
structure APIServer where
  module1Client : Option (SubmitTaskRequest → Except String SubmitTaskResponse)

/-- `http.StatusText`, for the codes the handlers use. -/
def statusText : Nat → String
  | 400 => "Bad Request"
  | 503 => "Service Unavailable"
  | _ => ""

def writeJSON (statusCode : Nat) (data : Json) : List Write :=
  [.header "Content-Type" "application/json", .status statusCode, .body (.json data)]

def writeError (statusCode : Nat) (message : String) (err : Option String) : List Write :=
  let errorMsg :=
    match err with
    | none => message
    | some text => message ++ ": " ++ text
  writeJSON statusCode
    (.object [("error", .text (statusText statusCode)), ("message", .text errorMsg),
      ("code", .number statusCode)])

/-- `EstimatedStartSeconds + 10` as an `int64`. -/
def retryAfterRejection (resp : SubmitTaskResponse) : String :=
  toString (Int.bmod (resp.estimatedStartSeconds + 10) 18446744073709551616)

/-- The request to Module 1.  The task id is the name, which is not empty here. -/
def submission (req : CreateCloudTaskRequest) : SubmitTaskRequest where
  taskID := req.name
  tenantID := req.tenantID
  image := req.image
  command := req.command
  cpuRequest := req.cpuRequest
  memoryRequest := req.memoryRequest
  priority := req.priority
  timeoutSeconds := req.timeoutSeconds

def answerSubmission (taskID : String) : Except String SubmitTaskResponse → List Write
  | .error err =>
      .header "Retry-After" "30" ::
        writeError 503 "Module 1 scheduler communication failed" (some err)
  | .ok resp =>
      if !resp.accepted then
        .header "Retry-After" (retryAfterRejection resp) ::
          writeError 503 ("Module 1 rejected task: " ++ resp.reason) none
      else
        -- the encoder sorts the keys of a map
        writeJSON 202
          (.object [("estimated_start_sec", .number resp.estimatedStartSeconds),
            ("message", .text "Task accepted and queued"),
            ("queue_position", .number resp.queuePosition),
            ("status", .text "Queued"), ("task_id", .text taskID)])

def APIServer.handleCreateTask (unmarshal : Unmarshal) (s : APIServer) : HttpHandler World :=
  fun r _ w =>
    match r.body with
    | .error err => answer (writeError 400 "Failed to read request body" (some err)) w
    | .ok body =>
        match unmarshal body with
        | .error err => answer (writeError 400 "Invalid request format" (some err)) w
        | .ok req =>
            if req.name = "" then answer (writeError 400 "Task name is required" none) w
            else if req.tenantID = "" then
              answer (writeError 400 "Tenant ID is required" none) w
            else if req.image = "" then
              answer (writeError 400 "Container image is required" none) w
            else
              match s.module1Client with
              | none =>
                  answer (.header "Retry-After" "30" ::
                    writeError 503 "Module 1 scheduler service not available" none) w
              | some submitTask =>
                  let grpcReq := submission req
                  answer (answerSubmission grpcReq.taskID (submitTask grpcReq))
                    { w with submitted := w.submitted ++ [grpcReq] }

/-- The handlers that need a name in the query, and only report on it. -/
def withTaskName (report : String → Json) : HttpHandler World := fun r _ w =>
  let name := r.queryGet "name"
  if name = "" then answer (writeError 400 "Task name required" none) w
  else answer (writeJSON 200 (report name)) w

def handleGetTask : HttpHandler World :=
  withTaskName fun name => .object [("name", .text name), ("phase", .text "Running")]

/-- The namespace and the tenant of the query are only logged. -/
def handleListTasks : HttpHandler World := fun _ _ w =>
  answer (writeJSON 200 (.object [("items", .array []), ("count", .number 0)])) w

def handleDeleteTask : HttpHandler World :=
  withTaskName fun _ => .object [("message", .text "CloudTask deleted")]

def handleHealth : HttpHandler World := fun _ _ w =>
  answer (writeJSON 200 (.object [("status", .text "healthy"), ("version", .text "v1.0.0"),
    ("kubeStatus", .text "connected")])) w

def handleMetrics : HttpHandler World := fun _ _ w =>
  answer [.header "Content-Type" "text/plain", .status 200,
    .body (.text
      "# HELP cloudtask_total Total CloudTasks\n# TYPE cloudtask_total counter\ncloudtask_total 0\n")]
    w

/-! ## The server of `main` -/

structure Gateway where
  apiServer : APIServer
  rateLimiter : Option RateLimiter
  jwtManager : JWTManager

def httpError (message : String) (code : Nat) : List Write :=
  [.header "Content-Type" "text/plain; charset=utf-8",
    .header "X-Content-Type-Options" "nosniff", .status code, .body (.text (message ++ "\n"))]

def withRateLimit (showSeconds : Int → String) (rateLimiter : Option RateLimiter) :
    HttpMiddleware World := fun next r ctx w =>
  match rateLimiter with
  | none => next r ctx w
  | some rateLimiter =>
      match getTenantIDFromContext ctx with
      | .error _ => answer (httpError "Internal server error" 500) w
      | .ok tenantID =>
          let (decision, redis) := allow rateLimiter tenantID r.limiter w.redis
          let w := { w with redis := redis }
          if decision.err.isSome then answer (httpError "Internal server error" 500) w
          else if !decision.allowed then
            answer [.header "Retry-After" (showSeconds decision.remainingTime),
              .header "Content-Type" "application/json", .status 429,
              .body (errorBody "Rate limit exceeded" 429)] w
          else next r ctx w

section Serve

variable (parseWithClaims : Parser) (unmarshal : Unmarshal) (showSeconds : Int → String)
  (g : Gateway)

/-- A task endpoint behind the token check and the limiter. -/
def Gateway.guarded (handler : HttpHandler World) : HttpHandler World :=
  authMiddleware parseWithClaims g.jwtManager (withRateLimit showSeconds g.rateLimiter handler)

def Gateway.serve (r : HttpRequest) (w : World) : Served World :=
  match r.path with
  | ["health"] => handleHealth r .background w
  | ["metrics"] => handleMetrics r .background w
  | ["tasks"] => g.guarded parseWithClaims showSeconds handleListTasks r .background w
  | ["tasks", "create"] =>
      g.guarded parseWithClaims showSeconds (g.apiServer.handleCreateTask unmarshal) r
        .background w
  | ["tasks", "get"] => g.guarded parseWithClaims showSeconds handleGetTask r .background w
  | ["tasks", "delete"] =>
      g.guarded parseWithClaims showSeconds handleDeleteTask r .background w
  | _ => answer (httpError "404 page not found" 404) w

end Serve

/-! ## What a handler submits -/

/-- The body of a request that passes the checks of `HandleCreateTask`. -/
def checkedTask (unmarshal : Unmarshal) (r : HttpRequest) : Option CreateCloudTaskRequest :=
  match r.body with
  | .error _ => none
  | .ok body =>
      match unmarshal body with
      | .error _ => none
      | .ok req => if req.name = "" ∨ req.tenantID = "" ∨ req.image = "" then none else some req

theorem handleCreateTask_submitted (unmarshal : Unmarshal) (s : APIServer) (r : HttpRequest)
    (ctx : Context) (w : World) :
    (s.handleCreateTask unmarshal r ctx w).world.submitted =
      w.submitted ++ ((s.module1Client.bind fun _ => checkedTask unmarshal r).map
        submission).toList := by
  unfold APIServer.handleCreateTask checkedTask
  cases r.body with
  | error err => simp
  | ok body =>
      simp only
      cases unmarshal body with
      | error err => simp
      | ok req =>
          simp only
          by_cases named : req.name = ""
          · simp [named]
          by_cases owned : req.tenantID = ""
          · simp [named, owned]
          by_cases built : req.image = ""
          · simp [named, owned, built]
          cases s.module1Client with
          | none => simp [named, owned, built]
          | some submitTask => simp [named, owned, built]

def Gateway.admits (g : Gateway) (tenantID : String) (r : HttpRequest)
    (redis : Counters String) : Bool :=
  g.rateLimiter.all fun rateLimiter =>
    let decision := (allow rateLimiter tenantID r.limiter redis).1
    decision.err.isNone && decision.allowed

theorem withRateLimit_submitted (showSeconds : Int → String) (g : Gateway)
    (handler : HttpHandler World) (r : HttpRequest) (ctx : Context) (w : World)
    {claims : Claims} (given : ctx.claims = some claims) :
    ∃ redis, (withRateLimit showSeconds g.rateLimiter handler r ctx w).world.submitted =
      if g.admits claims.tenantID r w.redis then
        (handler r ctx { w with redis := redis }).world.submitted
      else w.submitted := by
  unfold withRateLimit Gateway.admits
  cases g.rateLimiter with
  | none => exact ⟨w.redis, rfl⟩
  | some rateLimiter =>
      simp only [getTenantIDFromContext, given, Option.all_some]
      refine ⟨(allow rateLimiter claims.tenantID r.limiter w.redis).2, ?_⟩
      by_cases working : (allow rateLimiter claims.tenantID r.limiter w.redis).1.err = none
      · by_cases permitted : (allow rateLimiter claims.tenantID r.limiter w.redis).1.allowed
        · simp [working, permitted]
        · simp [working, permitted]
      · simp [Option.isSome_iff_ne_none, working]

section Submissions

variable (parseWithClaims : Parser) (unmarshal : Unmarshal) (showSeconds : Int → String)
  (g : Gateway)

def Gateway.submissionOf (claims : Claims) (r : HttpRequest) (redis : Counters String) :
    Option SubmitTaskRequest :=
  if r.path = ["tasks", "create"] ∧ g.apiServer.module1Client.isSome ∧
      g.admits claims.tenantID r redis then
    (checkedTask unmarshal r).map submission
  else none

theorem guarded_submitted (handler : HttpHandler World) (r : HttpRequest) (w : World)
    {claims : Claims}
    (accepted : acceptedClaims parseWithClaims g.jwtManager r.now (extractBearerToken r) =
      some claims) :
    ∃ ctx redis, (g.guarded parseWithClaims showSeconds handler r .background w).world.submitted =
      if g.admits claims.tenantID r w.redis then
        (handler r ctx { w with redis := redis }).world.submitted
      else w.submitted := by
  unfold Gateway.guarded authMiddleware
  rw [requireToken_world, accepted, Option.elim_some]
  obtain ⟨redis, served⟩ := withRateLimit_submitted showSeconds g handler r
    { Context.background with claims := some claims } w rfl
  exact ⟨_, redis, served⟩

theorem guarded_quiet {handler : HttpHandler World}
    (quiet : ∀ r ctx w, (handler r ctx w).world.submitted = w.submitted) (r : HttpRequest)
    (w : World) {claims : Claims}
    (accepted : acceptedClaims parseWithClaims g.jwtManager r.now (extractBearerToken r) =
      some claims) :
    (g.guarded parseWithClaims showSeconds handler r .background w).world.submitted =
      w.submitted := by
  obtain ⟨ctx, redis, served⟩ :=
    guarded_submitted parseWithClaims showSeconds g handler r w accepted
  rw [served, quiet, ite_self]

theorem withTaskName_quiet (report : String → Json) (r : HttpRequest) (ctx : Context)
    (w : World) : (withTaskName report r ctx w).world.submitted = w.submitted := by
  unfold withTaskName
  by_cases blank : r.queryGet "name" = ""
  · simp [blank]
  · simp [blank]

theorem serve_submitted (r : HttpRequest) (w : World) {claims : Claims}
    (accepted : acceptedClaims parseWithClaims g.jwtManager r.now (extractBearerToken r) =
      some claims) :
    (g.serve parseWithClaims unmarshal showSeconds r w).world.submitted =
      w.submitted ++ (g.submissionOf unmarshal claims r w.redis).toList := by
  by_cases create : r.path = ["tasks", "create"]
  · obtain ⟨ctx, redis, served⟩ := guarded_submitted parseWithClaims showSeconds g
      (g.apiServer.handleCreateTask unmarshal) r w accepted
    simp only [Gateway.serve, create, served, Gateway.submissionOf, true_and,
      handleCreateTask_submitted]
    cases g.admits claims.tenantID r w.redis with
    | false => simp
    | true =>
        cases g.apiServer.module1Client with
        | none => simp
        | some submitTask => simp
  · have nothing : g.submissionOf unmarshal claims r w.redis = none := by
      simp [Gateway.submissionOf, create]
    rw [nothing, Option.toList_none, List.append_nil]
    unfold Gateway.serve
    split
    · rfl
    · rfl
    · exact guarded_quiet _ _ _ (fun _ _ _ => rfl) r w accepted
    · contradiction
    · exact guarded_quiet _ _ _ (withTaskName_quiet _) r w accepted
    · exact guarded_quiet _ _ _ (withTaskName_quiet _) r w accepted
    · rfl

theorem guarded_refused (handler : HttpHandler World) (r : HttpRequest) (w : World)
    (refused : acceptedClaims parseWithClaims g.jwtManager r.now (extractBearerToken r) = none) :
    (g.guarded parseWithClaims showSeconds handler r .background w).world = w := by
  unfold Gateway.guarded authMiddleware
  rw [requireToken_world, refused, Option.elim_none]

theorem serve_refused (r : HttpRequest) (w : World)
    (refused : acceptedClaims parseWithClaims g.jwtManager r.now (extractBearerToken r) = none) :
    (g.serve parseWithClaims unmarshal showSeconds r w).world = w := by
  unfold Gateway.serve
  split
  · rfl
  · rfl
  · exact guarded_refused _ _ _ _ r w refused
  · exact guarded_refused _ _ _ _ r w refused
  · exact guarded_refused _ _ _ _ r w refused
  · exact guarded_refused _ _ _ _ r w refused
  · rfl

/-! ## Whose task is submitted -/

/-- A body that gets as far as Module 1 names the tenant of the token. -/
def Gateway.NamesOwnTenant (claims : Claims) (r : HttpRequest) (redis : Counters String) : Prop :=
  r.path = ["tasks", "create"] → g.apiServer.module1Client.isSome →
    g.admits claims.tenantID r redis →
      ∀ req ∈ checkedTask unmarshal r, req.tenantID = claims.tenantID

theorem submissionOf_authentic_iff (claims : Claims) (r : HttpRequest)
    (redis : Counters String) :
    (∀ sent ∈ g.submissionOf unmarshal claims r redis, sent.tenantID = claims.tenantID) ↔
      g.NamesOwnTenant unmarshal claims r redis := by
  unfold Gateway.submissionOf Gateway.NamesOwnTenant
  constructor
  · intro authentic create client admitted req checked
    apply authentic (submission req)
    rw [if_pos ⟨create, client, admitted⟩]
    exact Option.mem_map_of_mem submission checked
  · intro own sent submitted
    split at submitted
    · rename_i passes
      obtain ⟨req, checked, rfl⟩ := Option.map_eq_some_iff.mp submitted
      exact own passes.1 passes.2.1 passes.2.2 req checked
    · cases submitted

theorem submissions_authentic_iff (r : HttpRequest) (redis : Counters String) {claims : Claims}
    (accepted : acceptedClaims parseWithClaims g.jwtManager r.now (extractBearerToken r) =
      some claims) :
    (∀ sent ∈ (g.serve parseWithClaims unmarshal showSeconds r ⟨redis, []⟩).world.submitted,
        sent.tenantID = claims.tenantID) ↔
      g.NamesOwnTenant unmarshal claims r redis := by
  rw [serve_submitted parseWithClaims unmarshal showSeconds g r ⟨redis, []⟩ accepted]
  rw [← submissionOf_authentic_iff unmarshal g claims r redis]
  simp only [List.nil_append, Option.mem_toList, Option.mem_def]

end Submissions

/-! ## A token of one tenant with the body of another -/

def claimsA : Claims := ⟨"tenant-a", "user", "", []⟩

def bodyFor (tenantID : String) : String :=
  "\x7b\"name\":\"job\",\"image\":\"img\",\"tenantID\":\"" ++ tenantID ++ "\"\x7d"

def taskFor (tenantID : String) : CreateCloudTaskRequest :=
  ⟨"job", "img", [], tenantID, "", "", 0, 0⟩

def decodeTask : Unmarshal := fun body =>
  if body = bodyFor "tenant-a" then .ok (taskFor "tenant-a")
  else if body = bodyFor "tenant-b" then .ok (taskFor "tenant-b")
  else .error "unexpected end of JSON input"

def openGateway : Gateway where
  apiServer := ⟨some fun _ => .ok ⟨true, 1, 0, ""⟩⟩
  rateLimiter := none
  jwtManager := ⟨"secret", none, "HS256"⟩

def createRequest (tenantID : String) : HttpRequest where
  method := "POST"
  path := ["tasks", "create"]
  query := []
  authorization := "Bearer token-a"
  body := .ok (bodyFor tenantID)
  nanos := 0
  now := 0
  limiter := ⟨0, 0, none⟩

def submittedFor (tenantID : String) : List SubmitTaskRequest :=
  (openGateway.serve (parseTokenOf "tenant-a") decodeTask toString (createRequest tenantID)
    ⟨fun _ => none, []⟩).world.submitted

theorem own_tenant_authentic :
    acceptedClaims (parseTokenOf "tenant-a") openGateway.jwtManager (createRequest "tenant-a").now
        (extractBearerToken (createRequest "tenant-a")) = some claimsA ∧
      submittedFor "tenant-a" = [submission (taskFor "tenant-a")] ∧
      ∀ sent ∈ submittedFor "tenant-a", sent.tenantID = claimsA.tenantID := by
  have accepted : acceptedClaims (parseTokenOf "tenant-a") openGateway.jwtManager
      (createRequest "tenant-a").now (extractBearerToken (createRequest "tenant-a")) =
        some claimsA := by
    decide +kernel
  refine ⟨accepted, by decide +kernel, ?_⟩
  refine (submissions_authentic_iff (parseTokenOf "tenant-a") decodeTask toString openGateway
    (createRequest "tenant-a") (fun _ => none) accepted).mpr ?_
  intro _ _ _ req checked
  have decoded : checkedTask decodeTask (createRequest "tenant-a") =
      some (taskFor "tenant-a") := by rfl
  rw [decoded] at checked
  cases checked
  rfl

theorem submitted_for_other_tenant :
    acceptedClaims (parseTokenOf "tenant-a") openGateway.jwtManager (createRequest "tenant-b").now
        (extractBearerToken (createRequest "tenant-b")) = some claimsA ∧
      submittedFor "tenant-b" = [submission (taskFor "tenant-b")] ∧
      ¬ ∀ sent ∈ submittedFor "tenant-b", sent.tenantID = claimsA.tenantID := by
  have submitted : submittedFor "tenant-b" = [submission (taskFor "tenant-b")] := by
    decide +kernel
  refine ⟨by decide +kernel, submitted, ?_⟩
  intro authentic
  rw [submitted] at authentic
  have same : "tenant-b" = "tenant-a" := authentic (submission (taskFor "tenant-b")) (by simp)
  exact absurd same (by decide)

end CloudOS.Orchestrator.ApiGateway
