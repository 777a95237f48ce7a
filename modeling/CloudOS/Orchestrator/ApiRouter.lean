import CloudOS.Orchestrator.HttpAuth

/-!
# The routes of the v1 API

`module2-orchestrator/pkg/api/router.go`: the middlewares, their chain and the
routes `SetupRoutes` installs.  The handlers behind the routes are parameters.
Each call of a task handler is noted with the claims in its context, and nothing
reads that note.  How `fmt` prints the seconds of a duration is a parameter
too.  Log lines are left out.
-/

set_option autoImplicit false

namespace CloudOS.Orchestrator.ApiRouter

open CloudOS.Lib.ExpiringCounters
open CloudOS.Lib.History
open CloudOS.Lib.HttpHandlers
open CloudOS.Orchestrator.HttpAuth
open CloudOS.Orchestrator.RateLimiting

/-! ## Routes -/

inductive TaskEndpoint where
  | createTask
  | listTasks
  | getTask
  | deleteTask
  | getTaskLogs
  deriving DecidableEq, Repr

inductive HealthEndpoint where
  | healthz
  | readyz
  deriving DecidableEq, Repr

inductive Route where
  | health (endpoint : HealthEndpoint)
  | task (endpoint : TaskEndpoint)
  | methodNotAllowed (allow : String)
  | notFound
  deriving DecidableEq, Repr

/-- A pattern with `GET` is also one for `HEAD`, and `{id}` is not empty. -/
def findRoute (req : HttpRequest) : Route :=
  let get := req.method = "GET" ∨ req.method = "HEAD"
  match req.path with
  | ["healthz"] => .health .healthz
  | ["readyz"] => .health .readyz
  | ["v1", "tasks"] =>
      if req.method = "POST" then .task .createTask
      else if get then .task .listTasks
      else .methodNotAllowed "GET, HEAD, POST"
  | ["v1", "tasks", id] =>
      if id = "" then .notFound
      else if get then .task .getTask
      else if req.method = "DELETE" then .task .deleteTask
      else .methodNotAllowed "DELETE, GET, HEAD"
  | ["v1", "tasks", id, "logs"] =>
      if id = "" then .notFound
      else if get then .task .getTaskLogs
      else .methodNotAllowed "GET, HEAD"
  | _ => .notFound

def Route.taskEndpoint : Route → Option TaskEndpoint
  | .task endpoint => some endpoint
  | _ => none

/-! ## The router and its middlewares -/

structure TaskCall where
  endpoint : TaskEndpoint
  claims : Option Claims
  now : Nat

structure World (Cluster : Type) where
  redis : Counters String
  cluster : Cluster
  calls : List TaskCall

structure Router (Cluster : Type) where
  taskHandler : TaskEndpoint → HttpHandler Cluster
  healthHandler : HealthEndpoint → HttpHandler Cluster
  rateLimiter : Option RateLimiter
  jwtManager : JWTManager

/-- The loop over `middlewares`, from the last to the first. -/
def chainMiddleware {W : Type} (handler : HttpHandler W) (middlewares : List (HttpMiddleware W)) :
    HttpHandler W :=
  middlewares.reverse.foldl (fun inner middleware => middleware inner) handler

def newRequestID (req : HttpRequest) : String := req.method ++ "-" ++ toString req.nanos

def requestIDMiddleware {W : Type} : HttpMiddleware W := fun next req ctx w =>
  (next req { ctx with requestID := some (newRequestID req) } w).after
    [.header "X-Request-ID" (newRequestID req)]

/-- `responseWriterWrapper`: a status after the first, or after a part of the
body, goes no further. -/
def throughWrapper (written : Bool) : List Write → List Write
  | [] => []
  | .status code :: rest =>
      if written then throughWrapper true rest else .status code :: throughWrapper true rest
  | .body content :: rest => .body content :: throughWrapper true rest
  | .header name value :: rest => .header name value :: throughWrapper written rest

/-- The type assertion on the request id panics without one. -/
def requestLoggingMiddleware {W : Type} : HttpMiddleware W := fun next req ctx w =>
  match ctx.requestID with
  | none => panicked "interface conversion: interface \x7b\x7d is nil, not string" w
  | some _ => (next req ctx w).mapWrites (throughWrapper false)

def corsMiddleware {W : Type} : HttpMiddleware W := fun next req ctx w =>
  let headers : List Write :=
    [.header "Access-Control-Allow-Origin" "*",
      .header "Access-Control-Allow-Methods" "GET, POST, PUT, DELETE, OPTIONS, PATCH",
      .header "Access-Control-Allow-Headers" "Content-Type, Authorization, X-Request-ID",
      .header "Access-Control-Max-Age" "3600"]
  if req.method = "OPTIONS" then answer (headers ++ [.status 200]) w
  else (next req ctx w).after headers

/-- The scheme is compared as it is written, and the token is not empty. -/
def extractBearerToken (req : HttpRequest) : String :=
  if "Bearer ".toList.isPrefixOf req.authorization.toList then
    String.ofList (req.authorization.toList.drop 7)
  else ""

def authErrorMessage : TokenError → String
  | .expired => "Token has expired"
  | .missing => "Invalid token"
  | .invalid => "Invalid token"
  | .wrapsInvalid _ => "Invalid token"

section Router

variable {Cluster : Type} (parseWithClaims : Parser) (showSeconds : Int → String)
  (r : Router Cluster)

def Router.authMiddleware : HttpMiddleware (World Cluster) :=
  requireToken extractBearerToken "Missing or invalid Authorization header" authErrorMessage
    parseWithClaims r.jwtManager

def Router.rateLimitMiddleware : HttpMiddleware (World Cluster) := fun next req ctx w =>
  match r.rateLimiter with
  | none => next req ctx w
  | some rateLimiter =>
      match ctx.claims with
      -- no tenant in the context: the limit is skipped
      | none => next req ctx w
      | some claims =>
          let (decision, redis) := allow rateLimiter claims.tenantID req.limiter w.redis
          let w := { w with redis := redis }
          if decision.err.isSome then
            answer [.status 500, .body (errorBody "Internal server error" 500)] w
          else if !decision.allowed then
            answer [.header "Retry-After" (showSeconds decision.remainingTime),
              .header "Content-Type" "application/json", .status 429,
              .body (errorBody "Rate limit exceeded" 429)] w
          else next req ctx w

def Router.callTask (endpoint : TaskEndpoint) : HttpHandler (World Cluster) := fun req ctx w =>
  (r.taskHandler endpoint req ctx w.cluster).mapWorld fun cluster =>
    { w with cluster := cluster, calls := w.calls ++ [⟨endpoint, ctx.claims, req.now⟩] }

def Router.callHealth (endpoint : HealthEndpoint) : HttpHandler (World Cluster) :=
  fun req ctx w =>
    (r.healthHandler endpoint req ctx w.cluster).mapWorld fun cluster =>
      { w with cluster := cluster }

def Router.taskMiddlewares : List (HttpMiddleware (World Cluster)) :=
  [corsMiddleware, requestIDMiddleware, requestLoggingMiddleware,
    r.rateLimitMiddleware showSeconds, r.authMiddleware parseWithClaims]

def Router.taskRoute (endpoint : TaskEndpoint) : HttpHandler (World Cluster) :=
  chainMiddleware (r.callTask endpoint) (r.taskMiddlewares parseWithClaims showSeconds)

def Router.healthRoute (endpoint : HealthEndpoint) : HttpHandler (World Cluster) :=
  chainMiddleware (r.callHealth endpoint) [requestLoggingMiddleware, requestIDMiddleware]

/-- The mux with the routes of `SetupRoutes`.  The last two answers are the mux's own. -/
def Router.serve (req : HttpRequest) (w : World Cluster) : Served (World Cluster) :=
  match findRoute req with
  | .health endpoint => r.healthRoute endpoint req .background w
  | .task endpoint => r.taskRoute parseWithClaims showSeconds endpoint req .background w
  | .methodNotAllowed allow =>
      answer [.header "Allow" allow, .header "Content-Type" "text/plain; charset=utf-8",
        .header "X-Content-Type-Options" "nosniff", .status 405,
        .body (.text "Method Not Allowed\n")] w
  | .notFound =>
      answer [.header "Content-Type" "text/plain; charset=utf-8",
        .header "X-Content-Type-Options" "nosniff", .status 404,
        .body (.text "404 page not found\n")] w

def Router.step (w : World Cluster) (req : HttpRequest) : World Cluster :=
  (r.serve parseWithClaims showSeconds req w).world

end Router

/-! ## One middleware -/

section Middlewares

variable {W : Type} (next : HttpHandler W) (req : HttpRequest) (ctx : Context) (w : W)

theorem corsMiddleware_world (other : req.method ≠ "OPTIONS") :
    (corsMiddleware next req ctx w).world = (next req ctx w).world := by
  simp [corsMiddleware, other]

theorem requestIDMiddleware_world :
    (requestIDMiddleware next req ctx w).world =
      (next req { ctx with requestID := some (newRequestID req) } w).world := rfl

theorem requestLoggingMiddleware_some {requestID : String} (given : ctx.requestID = some requestID) :
    (requestLoggingMiddleware next req ctx w).world = (next req ctx w).world := by
  simp [requestLoggingMiddleware, given]

theorem requestLoggingMiddleware_none (missing : ctx.requestID = none) :
    (requestLoggingMiddleware next req ctx w).world = w := by
  simp [requestLoggingMiddleware, missing]

end Middlewares

section Requests

variable {Cluster : Type} (parseWithClaims : Parser) (showSeconds : Int → String)
  (r : Router Cluster)

theorem Router.rateLimitMiddleware_noClaims (next : HttpHandler (World Cluster))
    (req : HttpRequest) (ctx : Context) (w : World Cluster) (missing : ctx.claims = none) :
    r.rateLimitMiddleware showSeconds next req ctx w = next req ctx w := by
  unfold Router.rateLimitMiddleware
  cases r.rateLimiter with
  | none => rfl
  | some rateLimiter => simp only [missing]

/-! ## One request -/

theorem chainMiddleware_eq_wrap {W : Type} (handler : HttpHandler W)
    (middlewares : List (HttpMiddleware W)) :
    chainMiddleware handler middlewares = wrap middlewares handler :=
  foldl_reverse_eq_wrap middlewares handler

theorem method_ne_options {req : HttpRequest} {endpoint : TaskEndpoint}
    (found : findRoute req = .task endpoint) : req.method ≠ "OPTIONS" := by
  intro options
  -- with this method no branch of a task path is taken
  unfold findRoute at found
  simp only [options] at found
  split at found <;> simp at found
  all_goals split at found <;> simp at found

/-- The call of a task handler a request leads to when nothing but its token is
checked. -/
def Router.taskCall (req : HttpRequest) : Option TaskCall :=
  (findRoute req).taskEndpoint.bind fun endpoint =>
    (acceptedClaims parseWithClaims r.jwtManager req.now (extractBearerToken req)).map
      fun claims => ⟨endpoint, some claims, req.now⟩

/-- The limiter of a task route runs before the token is read, so all that can
stop a request is its token. -/
theorem Router.taskRoute_world {req : HttpRequest} {endpoint : TaskEndpoint}
    (found : findRoute req = .task endpoint) (w : World Cluster) :
    (r.taskRoute parseWithClaims showSeconds endpoint req .background w).world =
      (acceptedClaims parseWithClaims r.jwtManager req.now (extractBearerToken req)).elim w
        fun claims =>
          (r.callTask endpoint req ⟨some (newRequestID req), some claims⟩ w).world := by
  rw [Router.taskRoute, chainMiddleware_eq_wrap, Router.taskMiddlewares]
  simp only [wrap_cons, wrap_nil]
  rw [corsMiddleware_world _ _ _ _ (method_ne_options found)]
  rw [requestIDMiddleware_world]
  rw [requestLoggingMiddleware_some _ _ _ _ rfl]
  rw [r.rateLimitMiddleware_noClaims showSeconds _ _ _ _ rfl]
  exact requireToken_world _ _ _ _ _ _ _ _ _

theorem Router.healthRoute_world (endpoint : HealthEndpoint) (req : HttpRequest)
    (w : World Cluster) : (r.healthRoute endpoint req .background w).world = w := by
  rw [Router.healthRoute, chainMiddleware_eq_wrap]
  simp only [wrap_cons]
  exact requestLoggingMiddleware_none _ req .background w rfl

theorem Router.step_cases (w : World Cluster) (req : HttpRequest) :
    (r.taskCall parseWithClaims req = none ∧ r.step parseWithClaims showSeconds w req = w) ∨
      ∃ call cluster, r.taskCall parseWithClaims req = some call ∧
        r.step parseWithClaims showSeconds w req =
          { w with cluster := cluster, calls := w.calls ++ [call] } := by
  unfold Router.step Router.serve Router.taskCall
  cases found : findRoute req with
  | health endpoint => exact .inl ⟨rfl, r.healthRoute_world endpoint req w⟩
  | methodNotAllowed allow => exact .inl ⟨rfl, rfl⟩
  | notFound => exact .inl ⟨rfl, rfl⟩
  | task endpoint =>
      simp only [r.taskRoute_world parseWithClaims showSeconds found w, Route.taskEndpoint, Option.bind_some]
      cases acceptedClaims parseWithClaims r.jwtManager req.now (extractBearerToken req) with
      | none => exact .inl ⟨rfl, rfl⟩
      | some claims => exact .inr ⟨⟨endpoint, some claims, req.now⟩, _, rfl, rfl⟩

theorem Router.step_calls (w : World Cluster) (req : HttpRequest) :
    (r.step parseWithClaims showSeconds w req).calls =
      w.calls ++ (r.taskCall parseWithClaims req).toList := by
  rcases r.step_cases parseWithClaims showSeconds w req with
    ⟨none, same⟩ | ⟨call, cluster, some, served⟩
  · simp [none, same]
  · simp [some, served]

theorem Router.step_redis (w : World Cluster) (req : HttpRequest) :
    (r.step parseWithClaims showSeconds w req).redis = w.redis := by
  rcases r.step_cases parseWithClaims showSeconds w req with
    ⟨_, same⟩ | ⟨call, cluster, _, served⟩
  · rw [same]
  · rw [served]

/-! ## Runs -/

theorem Router.run_calls (w : World Cluster) (requests : List HttpRequest) :
    (after (r.step parseWithClaims showSeconds) w requests).calls =
      w.calls ++ requests.filterMap (r.taskCall parseWithClaims) := by
  induction requests generalizing w with
  | nil => simp
  | cons req rest ih =>
      rw [after_cons, ih, r.step_calls, List.filterMap_cons]
      cases r.taskCall parseWithClaims req with
      | none => simp
      | some call => simp

theorem Router.run_redis (w : World Cluster) (requests : List HttpRequest) :
    (after (r.step parseWithClaims showSeconds) w requests).redis = w.redis := by
  have kept : ∀ (state : World Cluster) req, state.redis = w.redis →
      (r.step parseWithClaims showSeconds state req).redis = w.redis := fun state req same =>
    (r.step_redis parseWithClaims showSeconds state req).trans same
  exact after_invariant kept rfl requests

/-! ## The limit -/

def Router.withLimiter (rl : RateLimiter) : Router Cluster := { r with rateLimiter := some rl }

def TaskCall.isOf (tenantID : String) (n : Nat) (call : TaskCall) : Bool :=
  call.claims.any (fun claims => claims.tenantID = tenantID) &&
    call.now / Scope.minute.width = n

def reached (tenantID : String) (n : Nat) (calls : List TaskCall) : Nat :=
  calls.countP (TaskCall.isOf tenantID n)

def Router.isRequestOf (tenantID : String) (n : Nat) (req : HttpRequest) : Bool :=
  (findRoute req).taskEndpoint.isSome &&
    (acceptedClaims parseWithClaims r.jwtManager req.now (extractBearerToken req)).any
      (fun claims => claims.tenantID = tenantID) &&
    req.now / Scope.minute.width = n

theorem Router.isRequestOf_eq (tenantID : String) (n : Nat) (req : HttpRequest) :
    ((r.taskCall parseWithClaims req).map (TaskCall.isOf tenantID n)).getD false =
      r.isRequestOf parseWithClaims tenantID n req := by
  unfold Router.taskCall Router.isRequestOf
  cases (findRoute req).taskEndpoint with
  | none => rfl
  | some endpoint =>
      cases acceptedClaims parseWithClaims r.jwtManager req.now (extractBearerToken req) with
      | none => rfl
      | some claims => simp [TaskCall.isOf]

theorem Router.reached_eq (redis : Counters String) (cluster : Cluster)
    (requests : List HttpRequest) (tenantID : String) (n : Nat) :
    reached tenantID n
        (after (r.step parseWithClaims showSeconds) ⟨redis, cluster, []⟩ requests).calls =
      requests.countP (r.isRequestOf parseWithClaims tenantID n) := by
  rw [r.run_calls, reached, List.nil_append, List.countP_filterMap]
  exact List.countP_congr fun req _ => by rw [r.isRequestOf_eq]

/-- At most `perMinuteLimit` requests of a tenant reach a task handler in a clock
minute exactly when no tenant sends more. -/
theorem limit_enforced_iff (rl : RateLimiter) (redis : Counters String) (cluster : Cluster)
    (requests : List HttpRequest) :
    (∀ tenantID n,
        (reached tenantID n (after ((r.withLimiter rl).step parseWithClaims showSeconds)
          ⟨redis, cluster, []⟩ requests).calls : Int) ≤ rl.perMinuteLimit) ↔
      ∀ tenantID n,
        (requests.countP (r.isRequestOf parseWithClaims tenantID n) : Int) ≤
          rl.perMinuteLimit := by
  have counted : ∀ tenantID n,
      reached tenantID n (after ((r.withLimiter rl).step parseWithClaims showSeconds)
        ⟨redis, cluster, []⟩ requests).calls =
      requests.countP (r.isRequestOf parseWithClaims tenantID n) := fun tenantID n =>
    (r.withLimiter rl).reached_eq parseWithClaims showSeconds redis cluster requests tenantID n
  simp only [counted]

end Requests

/-! ## Two requests under a limit of one -/

def idleRouter : Router Unit where
  taskHandler := fun _ _ _ w => answer [] w
  healthHandler := fun _ _ _ w => answer [] w
  rateLimiter := none
  jwtManager := ⟨"secret", none, "HS256"⟩

def listRequest (now : Nat) : HttpRequest where
  method := "GET"
  path := ["v1", "tasks"]
  query := []
  authorization := "Bearer token-a"
  body := .ok ""
  nanos := now
  now := now
  limiter := ⟨now, now, none⟩

def twoRequests : World Unit :=
  after ((idleRouter.withLimiter ⟨1, 1000⟩).step (parseTokenOf "a") toString)
    ⟨fun _ => none, (), []⟩ [listRequest 0, listRequest second]

theorem two_requests_reach_handler :
    reached "a" 0 twoRequests.calls = 2 ∧
      ¬ ∀ tenantID n, (reached tenantID n twoRequests.calls : Int) ≤ 1 := by
  have two : reached "a" 0 twoRequests.calls = 2 := by decide +kernel
  refine ⟨two, ?_⟩
  intro enforced
  have one := enforced "a" 0
  rw [two] at one
  omega

end CloudOS.Orchestrator.ApiRouter
