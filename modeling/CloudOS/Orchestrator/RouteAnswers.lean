import CloudOS.Orchestrator.TaskTenants

/-!
# What the routes answer

A request to a route is to end with one status and a JSON body, or none.  Two
things stand against it: the routes of the health checks log a request id before
one is set, and `writeError` calls `err.Error()` where a handler has no error to
pass on.
-/

set_option autoImplicit false

namespace CloudOS.Orchestrator.RouteAnswers

open CloudOS.Kubernetes.Objects
open CloudOS.Lib.HttpHandlers
open CloudOS.Orchestrator.ApiRouter
open CloudOS.Orchestrator.HttpAuth
open CloudOS.Orchestrator.RateLimiting
open CloudOS.Orchestrator.TaskHandler
open CloudOS.Orchestrator.TaskPages
open CloudOS.Orchestrator.TaskTenants
open CloudOS.Orchestrator.TaskValidator

/-! ## Complete answers -/

def Write.statusCode : Write → Option Nat
  | .status code => some code
  | _ => none

def Write.content : Write → Option Body
  | .body content => some content
  | _ => none

structure Complete {W : Type} (served : Served W) : Prop where
  panic : served.panic = none
  status : (served.writes.filterMap Write.statusCode).length = 1
  body : served.writes.filterMap Write.content = [] ∨
    ∃ content, served.writes.filterMap Write.content = [.json content]

theorem complete_congr {W W' : Type} {served : Served W} {served' : Served W'}
    (writes : served.writes = served'.writes) (panic : served.panic = served'.panic) :
    Complete served ↔ Complete served' := by
  constructor
  · rintro ⟨panics, status, body⟩
    exact ⟨panic ▸ panics, writes ▸ status, writes ▸ body⟩
  · rintro ⟨panics, status, body⟩
    exact ⟨panic.symm ▸ panics, writes.symm ▸ status, writes.symm ▸ body⟩

theorem complete_after_iff {W : Type} {headers : List Write}
    (noStatus : headers.filterMap Write.statusCode = [])
    (noBody : headers.filterMap Write.content = []) (served : Served W) :
    Complete (served.after headers) ↔ Complete served := by
  have statuses : (served.after headers).writes.filterMap Write.statusCode =
      served.writes.filterMap Write.statusCode := by
    simp [Served.after, List.filterMap_append, noStatus]
  have bodies : (served.after headers).writes.filterMap Write.content =
      served.writes.filterMap Write.content := by
    simp [Served.after, List.filterMap_append, noBody]
  constructor
  · rintro ⟨panic, status, body⟩
    exact ⟨panic, statuses ▸ status, bodies ▸ body⟩
  · rintro ⟨panic, status, body⟩
    exact ⟨panic, statuses.symm ▸ status, bodies.symm ▸ body⟩

theorem complete_refuse {W : Type} (code : Nat) (message : String) (w : W) :
    Complete (refuse code message w) := ⟨rfl, rfl, .inr ⟨_, rfl⟩⟩

def Reply.NilError (answered : Reply) : Prop :=
  ∃ statusCode message, answered = .error statusCode message none

/-- Any other reply, for the cases where which one it is can be seen. -/
def Reply.passesOn : Reply → Bool
  | .error _ _ none => false
  | _ => true

theorem Reply.passesOn_not_nilError {answered : Reply} (passes : Reply.passesOn answered = true) :
    ¬ Reply.NilError answered := by
  rintro ⟨statusCode, message, rfl⟩
  cases passes

theorem throughWrapper_written (showTime : Nat → String) (answered : Reply) :
    throughWrapper false (answered.written showTime).writes =
      (answered.written showTime).writes := by
  cases answered with
  | error statusCode message err => cases err <;> rfl
  | logs taskID task podLogs => cases podLogs <;> rfl
  | invalid errors => rfl
  | created task => rfl
  | page tasks total limit offset => rfl
  | found task => rfl
  | deleted => rfl
  | notStarted taskID task => rfl

theorem complete_served_iff (b : Backend) (answered : Reply × Cluster) :
    Complete (served b answered) ↔ ¬ Reply.NilError answered.1 := by
  obtain ⟨answered, cluster⟩ := answered
  have json : ∀ statusCode data,
      answered.written b.showTime = writeJSON statusCode data →
      Complete (served b (answered, cluster)) := by
    intro statusCode data written
    refine ⟨?_, ?_, .inr ⟨data, ?_⟩⟩ <;> simp only [served, written] <;> rfl
  cases answered with
  | error statusCode message err =>
      cases err with
      | none =>
          constructor
          · rintro ⟨panic, _, _⟩
            cases panic
          · intro passed
            exact absurd ⟨statusCode, message, rfl⟩ passed
      | some text => exact iff_of_true (json _ _ rfl) (Reply.passesOn_not_nilError rfl)
  | invalid errors => exact iff_of_true (json _ _ rfl) (Reply.passesOn_not_nilError rfl)
  | created task => exact iff_of_true (json _ _ rfl) (Reply.passesOn_not_nilError rfl)
  | page tasks total limit offset =>
      exact iff_of_true (json _ _ rfl) (Reply.passesOn_not_nilError rfl)
  | found task => exact iff_of_true (json _ _ rfl) (Reply.passesOn_not_nilError rfl)
  | deleted =>
      exact iff_of_true ⟨rfl, rfl, .inl rfl⟩ (Reply.passesOn_not_nilError rfl)
  | notStarted taskID task =>
      exact iff_of_true (json _ _ rfl) (Reply.passesOn_not_nilError rfl)
  | logs taskID task podLogs =>
      cases podLogs with
      | error err => exact iff_of_true (json _ _ rfl) (Reply.passesOn_not_nilError rfl)
      | ok text => exact iff_of_true (json _ _ rfl) (Reply.passesOn_not_nilError rfl)

/-! ## The endpoints -/

section Endpoints
variable (b : Backend) (env : KubeEnv) (tenantID : String) (r : HttpRequest) (cluster : Cluster)

/-- The task of a valid id is there, unless the call fails otherwise, and is the
tenant's own. -/
def TaskAtHand : Prop :=
  validateTaskID (taskIDOf r) = none →
    (∀ err, kubeGet env ⟨tenantNamespace tenantID, taskIDOf r⟩ cluster = .error err →
      err.reason ≠ .notFound) ∧
    ∀ task, kubeGet env ⟨tenantNamespace tenantID, taskIDOf r⟩ cluster = .ok task →
      task.spec.tenantID = tenantID

/-- A valid request to create is the tenant's own, and its name is free. -/
def NameAtHand : Prop :=
  ∀ req, decodeRequest b r = .ok req →
    req.tenantID = tenantID ∧
      (validateTaskID (newTaskID req) = none →
        ∀ err, (kubeCreate b env (newCloudTask tenantID (newTaskID req) req) cluster).1 =
          .error err → err.reason ≠ .alreadyExists)

def Answerable : TaskEndpoint → Prop
  | .createTask => NameAtHand b env tenantID r cluster
  | .listTasks => True
  | .getTask => TaskAtHand env tenantID r cluster
  | .deleteTask => TaskAtHand env tenantID r cluster
  | .getTaskLogs => TaskAtHand env tenantID r cluster

theorem ownTask_nilError_iff (failed forbidden : String) :
    (∃ refusal, ownTask env tenantID r cluster failed forbidden = .error refusal ∧
        Reply.NilError refusal) ↔ ¬ TaskAtHand env tenantID r cluster := by
  rcases ownTask_cases env tenantID r cluster failed forbidden with
    ⟨err, invalid, answered⟩ | ⟨valid, ⟨err, got, missing, answered⟩ |
      ⟨err, got, failing, answered⟩ | ⟨task, got, foreign, answered⟩ |
      ⟨task, got, own, answered⟩⟩
  · refine iff_of_false ?_ (not_not.mpr ?_)
    · rintro ⟨refusal, refused, _, _, rfl⟩
      rw [answered] at refused
      cases refused
    · intro valid
      rw [invalid] at valid
      cases valid
  · refine iff_of_true ⟨_, answered, _, _, rfl⟩ ?_
    intro atHand
    exact (atHand valid).1 err got missing
  · refine iff_of_false ?_ (not_not.mpr ?_)
    · rintro ⟨refusal, refused, _, _, rfl⟩
      rw [answered] at refused
      cases refused
    · intro _
      rw [got]
      constructor
      · intro other same
        cases same
        exact failing
      · intro task same
        cases same
  · refine iff_of_true ⟨_, answered, _, _, rfl⟩ ?_
    intro atHand
    exact foreign ((atHand valid).2 task got)
  · refine iff_of_false ?_ (not_not.mpr ?_)
    · rintro ⟨refusal, refused, _⟩
      rw [answered] at refused
      cases refused
    · intro _
      rw [got]
      constructor
      · intro err same
        cases same
      · intro other same
        cases same
        exact own

theorem answerOwn_nilError_iff {found : StoredTask → Reply}
    (passes : ∀ task, ¬ Reply.NilError (found task)) (failed forbidden : String) :
    Reply.NilError (answerOwn found (ownTask env tenantID r cluster failed forbidden)) ↔
      ¬ TaskAtHand env tenantID r cluster := by
  rw [← ownTask_nilError_iff env tenantID r cluster failed forbidden]
  cases ownTask env tenantID r cluster failed forbidden with
  | error refusal =>
      constructor
      · intro nilError
        exact ⟨refusal, rfl, nilError⟩
      · rintro ⟨_, same, nilError⟩
        cases same
        exact nilError
  | ok task =>
      refine iff_of_false (passes task) ?_
      rintro ⟨_, refused, _⟩
      cases refused

theorem getTask_nilError_iff :
    Reply.NilError (getTask env tenantID r cluster) ↔ ¬ TaskAtHand env tenantID r cluster := by
  apply answerOwn_nilError_iff
  intro task
  exact Reply.passesOn_not_nilError rfl

theorem getTaskLogs_nilError_iff (parts : '/' ∈ taskPath r) :
    Reply.NilError (getTaskLogs env tenantID r cluster) ↔ ¬ TaskAtHand env tenantID r cluster := by
  rw [getTaskLogs, if_neg (not_not.mpr parts)]
  apply answerOwn_nilError_iff
  intro task
  unfold logsReply
  split
  · exact Reply.passesOn_not_nilError rfl
  · exact Reply.passesOn_not_nilError rfl

theorem deleteReply_passes (outcome : Except ApiError Unit) :
    ¬ Reply.NilError (deleteReply outcome) := by
  cases outcome with
  | ok _ => exact Reply.passesOn_not_nilError rfl
  | error err =>
      by_cases missing : err.reason = .notFound
      · rw [deleteReply, if_pos missing]
        exact Reply.passesOn_not_nilError rfl
      · rw [deleteReply, if_neg missing]
        exact Reply.passesOn_not_nilError rfl

theorem deleteTask_nilError_iff :
    Reply.NilError (deleteTask env tenantID r cluster).1 ↔
      ¬ TaskAtHand env tenantID r cluster := by
  rw [← answerOwn_nilError_iff env tenantID r cluster
    (fun task => deleteReply_passes (kubeDelete env task.key cluster).1) "Failed to delete task"
    "Cannot delete tasks from other tenants", deleteTask]
  cases ownTask env tenantID r cluster "Failed to delete task"
      "Cannot delete tasks from other tenants" with
  | error refusal => rfl
  | ok task => rfl

theorem decodeRequest_passes {refusal : Reply} (refused : decodeRequest b r = .error refusal) :
    ¬ Reply.NilError refusal := by
  rintro ⟨_, _, rfl⟩
  unfold decodeRequest at refused
  cases body : r.body with
  | error err => simp [body] at refused
  | ok text =>
      cases decoded : b.unmarshal text with
      | error err => simp [body, decoded] at refused
      | ok req =>
          simp only [body, decoded] at refused
          split at refused <;> cases refused

theorem createReply_nilError_iff (outcome : Except ApiError StoredTask) :
    Reply.NilError (createReply outcome) ↔
      ∃ err, outcome = .error err ∧ err.reason = .alreadyExists := by
  cases outcome with
  | ok task =>
      refine iff_of_false (Reply.passesOn_not_nilError rfl) ?_
      rintro ⟨_, same, _⟩
      cases same
  | error err =>
      by_cases taken : err.reason = .alreadyExists
      · rw [createReply, if_pos taken]
        exact iff_of_true ⟨_, _, rfl⟩ ⟨err, rfl, taken⟩
      · rw [createReply, if_neg taken]
        refine iff_of_false (Reply.passesOn_not_nilError rfl) ?_
        rintro ⟨_, same, reason⟩
        cases same
        exact taken reason

theorem createTask_nilError_iff :
    Reply.NilError (createTask b env tenantID r cluster).1 ↔
      ¬ NameAtHand b env tenantID r cluster := by
  unfold createTask NameAtHand
  cases decoded : decodeRequest b r with
  | error refusal =>
      refine iff_of_false (decodeRequest_passes b r decoded) (not_not.mpr ?_)
      intro req same
      cases same
  | ok req =>
      by_cases foreign : req.tenantID ≠ tenantID
      · simp only [if_pos foreign]
        refine iff_of_true ⟨_, _, rfl⟩ ?_
        intro atHand
        exact foreign (atHand req rfl).1
      · simp only [if_neg foreign]
        cases named : validateTaskID (newTaskID req) with
        | some err =>
            refine iff_of_false (Reply.passesOn_not_nilError rfl) (not_not.mpr ?_)
            intro other same
            cases same
            refine ⟨not_not.mp foreign, ?_⟩
            intro valid
            rw [named] at valid
            cases valid
        | none =>
            simp only [createReply_nilError_iff]
            constructor
            · rintro ⟨err, outcome, taken⟩ atHand
              exact (atHand req rfl).2 named err outcome taken
            · intro notAtHand
              by_contra free
              apply notAtHand
              intro other same
              cases same
              exact ⟨not_not.mp foreign, fun _ err outcome taken => free ⟨err, outcome, taken⟩⟩

theorem listTasks_passes : ¬ Reply.NilError (listTasks b env tenantID r cluster) := by
  rintro ⟨_, _, same⟩
  unfold listTasks at same
  cases known : validateStatus (r.queryGet "status") with
  | some err => simp [known] at same
  | none =>
      simp only [known] at same
      split at same <;> cases same

theorem reply_nilError_iff {endpoint : TaskEndpoint}
    (parts : endpoint = .getTaskLogs → '/' ∈ taskPath r) :
    Reply.NilError (reply b env tenantID r cluster endpoint).1 ↔
      ¬ Answerable b env tenantID r cluster endpoint := by
  cases endpoint with
  | createTask => exact createTask_nilError_iff b env tenantID r cluster
  | listTasks =>
      exact iff_of_false (listTasks_passes b env tenantID r cluster) (not_not.mpr trivial)
  | getTask => exact getTask_nilError_iff env tenantID r cluster
  | deleteTask => exact deleteTask_nilError_iff env tenantID r cluster
  | getTaskLogs => exact getTaskLogs_nilError_iff env tenantID r cluster (parts rfl)

end Endpoints

theorem slash_mem_taskPath {r : HttpRequest} (found : findRoute r = .task .getTaskLogs) :
    '/' ∈ taskPath r := by
  obtain ⟨id, path⟩ : ∃ id, r.path = ["v1", "tasks", id, "logs"] := by
    simp only [findRoute] at found
    split at found
    next => cases found
    next => cases found
    next =>
      split at found
      · cases found
      · split at found <;> cases found
    next =>
      split at found
      · cases found
      · split at found
        · cases found
        · split at found <;> cases found
    next id path => exact ⟨id, path⟩
    next => cases found
  have url : urlPath r = "/v1/tasks/".toList ++ (id.toList ++ "/logs".toList) := by
    rw [urlPath, path]
    rfl
  have cut : taskPath r = id.toList ++ "/logs".toList := by
    rw [taskPath, url, if_pos (List.isPrefixOf_iff_prefix.mpr (List.prefix_append _ _))]
    rfl
  rw [cut]
  exact List.mem_append_right _ (by decide)

/-! ## The routes -/

section Routes
variable (parseWithClaims : Parser) (showSeconds : Int → String) (b : Backend) (env : KubeEnv)
  (healthHandler : HealthEndpoint → HttpHandler Cluster) (rateLimiter : Option RateLimiter)
  (jm : JWTManager)

def taskRouter : Router Cluster := ⟨taskHandler b env, healthHandler, rateLimiter, jm⟩

def Installed : Route → Prop
  | .health _ => True
  | .task _ => True
  | .methodNotAllowed _ => False
  | .notFound => False

/-- Without a token that is accepted no handler is reached. -/
def RouteAnswerable (req : HttpRequest) (cluster : Cluster) : Route → Prop
  | .task endpoint => ∀ claims,
      acceptedClaims parseWithClaims jm req.now (ApiRouter.extractBearerToken req) = some claims →
        Answerable b env claims.tenantID req cluster endpoint
  | _ => False

theorem taskRoute_complete_iff {req : HttpRequest} {endpoint : TaskEndpoint}
    (found : findRoute req = .task endpoint) (w : World Cluster) :
    Complete ((taskRouter b env healthHandler rateLimiter jm).taskRoute parseWithClaims showSeconds
        endpoint req .background w) ↔
      RouteAnswerable parseWithClaims b env jm req w.cluster (.task endpoint) := by
  rw [Router.taskRoute, chainMiddleware_eq_wrap, Router.taskMiddlewares]
  simp only [wrap_cons, wrap_nil]
  rw [corsMiddleware, if_neg (method_ne_options found), complete_after_iff rfl rfl,
    requestIDMiddleware, complete_after_iff rfl rfl]
  simp only [requestLoggingMiddleware]
  rw [Router.rateLimitMiddleware_noClaims _ _ _ _ _ _ rfl, Router.authMiddleware]
  rcases requireToken_cases ApiRouter.extractBearerToken
      "Missing or invalid Authorization header" ApiRouter.authErrorMessage parseWithClaims
      jm ((taskRouter b env healthHandler rateLimiter jm).callTask endpoint) req
      ⟨some (newRequestID req), none⟩ w with ⟨none, code, text, refused⟩ | ⟨claims, some, reached⟩
  · refine iff_of_true ?_ ?_
    · exact refused ▸ complete_refuse code text w
    · intro claims accepted
      exact absurd (none.symm.trans accepted) (Option.some_ne_none claims).symm
  · have parts : endpoint = .getTaskLogs → '/' ∈ taskPath req := by
      rintro rfl
      exact slash_mem_taskPath found
    have answer : Complete (served b (reply b env claims.tenantID req w.cluster endpoint)) ↔
        Answerable b env claims.tenantID req w.cluster endpoint := by
      rw [complete_served_iff, reply_nilError_iff b env claims.tenantID req w.cluster parts,
        not_not]
    have only : RouteAnswerable parseWithClaims b env jm req w.cluster (.task endpoint) ↔
        Answerable b env claims.tenantID req w.cluster endpoint := by
      constructor
      · intro answerable
        exact answerable claims some
      · intro answerable other accepted
        obtain rfl := Option.some.inj (some.symm.trans accepted)
        exact answerable
    rw [only, ← answer]
    apply complete_congr
    · exact (congrArg (fun served => throughWrapper false served.writes) reached).trans
        (throughWrapper_written b.showTime _)
    · exact congrArg Served.panic reached

theorem healthRoute_panics (endpoint : HealthEndpoint) (req : HttpRequest) (w : World Cluster) :
    ¬ Complete ((taskRouter b env healthHandler rateLimiter jm).healthRoute endpoint req
      .background w) := by
  rw [Router.healthRoute, chainMiddleware_eq_wrap]
  rintro ⟨panic, _, _⟩
  cases panic

/-- A request to an installed route is answered in full exactly when it is for a
task route and its handler, if it is reached, has no error to make up. -/
theorem routes_complete_iff (req : HttpRequest) (w : World Cluster)
    (installed : Installed (findRoute req)) :
    Complete ((taskRouter b env healthHandler rateLimiter jm).serve parseWithClaims showSeconds
        req w) ↔
      RouteAnswerable parseWithClaims b env jm req w.cluster (findRoute req) := by
  unfold Router.serve
  cases found : findRoute req with
  | health endpoint =>
      exact iff_of_false (healthRoute_panics b env healthHandler rateLimiter jm endpoint req w) id
  | task endpoint =>
      exact taskRoute_complete_iff parseWithClaims showSeconds b env healthHandler rateLimiter jm
        found w
  | methodNotAllowed allow =>
      rw [found] at installed
      exact installed.elim
  | notFound =>
      rw [found] at installed
      exact installed.elim

end Routes

/-! ## A task that is not there, and two that are -/

def getMissing : HttpRequest := { listRequest 0 with path := ["v1", "tasks", "missing"] }

def quietWorld (cluster : Cluster) : World Cluster := ⟨fun _ => none, cluster, []⟩

def noHealthHandler : HealthEndpoint → HttpHandler Cluster := fun _ _ _ w => answer [] w

def plainRouter : Router Cluster :=
  taskRouter plainBackend (.healthy 0) noHealthHandler none ⟨"secret", none, "HS256"⟩

theorem missing_task_panics :
    Installed (findRoute getMissing) ∧
      (plainRouter.serve (parseTokenOf "a") toString getMissing (quietWorld noTasks)).panic =
        some "runtime error: invalid memory address or nil pointer dereference" ∧
      ¬ Complete (plainRouter.serve (parseTokenOf "a") toString getMissing
        (quietWorld noTasks)) := by
  have panics : (plainRouter.serve (parseTokenOf "a") toString getMissing
      (quietWorld noTasks)).panic =
        some "runtime error: invalid memory address or nil pointer dereference" := by
    decide +kernel
  refine ⟨trivial, panics, ?_⟩
  intro complete
  exact absurd (panics.symm.trans complete.panic) (Option.some_ne_none _)

theorem two_tasks_answered :
    Installed (findRoute (listRequest 0)) ∧
      (reply plainBackend (.healthy 0) "a" (listRequest 0) twoTaskCluster .listTasks).1.describes.map
        (fun task => task.key.name) = ["first", "second"] ∧
      Complete (plainRouter.serve (parseTokenOf "a") toString (listRequest 0)
        (quietWorld twoTaskCluster)) :=
  ⟨trivial, by decide +kernel,
    (routes_complete_iff (parseTokenOf "a") toString plainBackend (.healthy 0) noHealthHandler none
      ⟨"secret", none, "HS256"⟩ (listRequest 0) (quietWorld twoTaskCluster) trivial).mpr
      fun _ _ => trivial⟩

end CloudOS.Orchestrator.RouteAnswers
