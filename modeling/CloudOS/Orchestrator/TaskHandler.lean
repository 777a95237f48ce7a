import CloudOS.Orchestrator.ApiRouter
import CloudOS.Orchestrator.CloudTaskReconcile
import CloudOS.Orchestrator.TaskValidator
import Mathlib.Logic.Function.Basic

/-!
# The task handlers

`module2-orchestrator/pkg/api/handlers/task_handler.go`.  A handler decides on a
`Reply`, and `Reply.written` is what the response helpers write for it.  The
Kubernetes client keeps CloudTasks under their namespace and name; how its calls
turn out otherwise is given with each request.  Decoding a body, printing a time,
the admission of an object and the order of a listing are parameters.  Log lines
are left out.
-/

set_option autoImplicit false

namespace CloudOS.Orchestrator.TaskHandler

open CloudOS.Kubernetes.Objects
open CloudOS.Lib.HttpHandlers
open CloudOS.Orchestrator.ApiRouter
open CloudOS.Orchestrator.CloudTaskReconcile
open CloudOS.Orchestrator.HttpAuth
open CloudOS.Orchestrator.TaskValidator

/-! ## The tasks of a cluster -/

structure StoredTask where
  key : ObjectKey
  labels : List (String × String)
  creationTimestamp : Nat
  finalizers : List String
  deletionTimestamp : Option Nat
  spec : CloudTaskSpec
  status : CloudTaskStatus

/-- The CloudTasks of a namespace: no two of them share a name. -/
@[ext] structure Tasks (ns : String) where
  items : List StoredTask
  placed : ∀ task ∈ items, task.key.ns = ns
  distinct : (items.map fun task => task.key.name).Nodup

abbrev Cluster : Type := (ns : String) → Tasks ns

def Tasks.find? {ns : String} (tasks : Tasks ns) (name : String) : Option StoredTask :=
  tasks.items.find? fun task => task.key.name = name

theorem Tasks.find?_mem {ns name : String} {tasks : Tasks ns} {task : StoredTask}
    (found : tasks.find? name = some task) : task ∈ tasks.items ∧ task.key.name = name :=
  ⟨List.mem_of_find?_eq_some found, by simpa using List.find?_some found⟩

theorem Tasks.notMem_of_find? {ns name : String} {tasks : Tasks ns}
    (absent : tasks.find? name = none) : name ∉ tasks.items.map fun task => task.key.name := by
  intro member
  obtain ⟨task, listed, named⟩ := List.mem_map.mp member
  have other := List.find?_eq_none.mp absent task listed
  simp [named] at other

/-- A new object goes to the end; the order of a listing is another matter. -/
def Tasks.create {ns : String} (tasks : Tasks ns) (task : StoredTask) (here : task.key.ns = ns) :
    Except ApiError (Tasks ns) :=
  if fresh : tasks.find? task.key.name = none then
    .ok {
      items := tasks.items ++ [task]
      placed := by
        intro other member
        rcases List.mem_append.mp member with old | new
        · exact tasks.placed other old
        · obtain rfl := List.mem_singleton.mp new
          exact here
      distinct := by
        rw [List.map_append, List.map_singleton, ← List.concat_eq_append]
        exact tasks.distinct.concat (Tasks.notMem_of_find? fresh) }
  else .error (alreadyExistsError "cloudtasks" task.key.name)

/-- An object with finalizers is only marked. -/
def StoredTask.delete (name : String) (now : Nat) (task : StoredTask) : Option StoredTask :=
  if task.key.name = name then
    if task.finalizers = [] then none
    else some { task with deletionTimestamp := some (task.deletionTimestamp.getD now) }
  else some task

theorem StoredTask.delete_key {name : String} {now : Nat} {task left : StoredTask}
    (kept : task.delete name now = some left) : left.key = task.key := by
  unfold StoredTask.delete at kept
  split at kept
  · split at kept
    · cases kept
    · cases kept
      rfl
  · cases kept
    rfl

theorem names_delete_sublist (name : String) (now : Nat) (items : List StoredTask) :
    ((items.filterMap (StoredTask.delete name now)).map fun task => task.key.name).Sublist
      (items.map fun task => task.key.name) := by
  induction items with
  | nil => exact .slnil
  | cons task rest ih =>
      cases kept : task.delete name now with
      | none =>
          rw [List.filterMap_cons_none kept, List.map_cons]
          exact ih.cons _
      | some left =>
          rw [List.filterMap_cons_some kept, List.map_cons, List.map_cons,
            StoredTask.delete_key kept]
          exact ih.cons_cons _

def Tasks.delete {ns : String} (tasks : Tasks ns) (name : String) (now : Nat) :
    Except ApiError (Tasks ns) :=
  if tasks.find? name = none then .error (notFoundError "cloudtasks" name)
  else
    .ok {
      items := tasks.items.filterMap (StoredTask.delete name now)
      placed := by
        intro left member
        obtain ⟨task, listed, kept⟩ := List.mem_filterMap.mp member
        rw [StoredTask.delete_key kept]
        exact tasks.placed task listed
      distinct := tasks.distinct.sublist (names_delete_sublist name now tasks.items) }

/-! ## The Kubernetes client -/

/-- What the handlers get from elsewhere.  `admission` checks the spec of an object
and sets its defaults; `arrange` is the order in which a namespace is listed. -/
structure Backend where
  unmarshal : String → Except String CreateCloudTaskRequest
  showTime : Nat → String
  admission : ObjectKey → CloudTaskSpec → Except ApiError CloudTaskSpec
  arrange : List StoredTask → List StoredTask
  arranged : ∀ tasks, (arrange tasks).Perm tasks

/-- A call that fails, and may have been carried out all the same. -/
structure Fault where
  error : ApiError
  applied : Bool

/-- How the calls made for one request turn out, and the server's clock. -/
structure KubeEnv where
  now : Nat
  create : Option Fault
  delete : Option Fault
  get : Option ApiError
  list : Option ApiError

def KubeEnv.healthy (now : Nat) : KubeEnv := ⟨now, none, none, none, none⟩

section Client
variable (b : Backend) (env : KubeEnv)

def serverCreate (task : StoredTask) (tasks : Tasks task.key.ns) :
    Except ApiError (StoredTask × Tasks task.key.ns) :=
  match b.admission task.key task.spec with
  | .error err => .error err
  | .ok spec =>
      let admitted := { task with spec := spec, creationTimestamp := env.now }
      match tasks.create admitted rfl with
      | .error err => .error err
      | .ok left => .ok (admitted, left)

/-- A call that writes to a namespace, given what the server would do. -/
def kubeWrite {α : Type} {ns : String} (fault : Option Fault)
    (result : Except ApiError (α × Tasks ns)) (cluster : Cluster) :
    Except ApiError α × Cluster :=
  match fault, result with
  | none, .ok (answered, left) => (.ok answered, Function.update cluster ns left)
  | none, .error err => (.error err, cluster)
  | some fault, .ok (_, left) =>
      (.error fault.error, if fault.applied then Function.update cluster ns left else cluster)
  | some fault, .error _ => (.error fault.error, cluster)

def kubeCreate (task : StoredTask) (cluster : Cluster) : Except ApiError StoredTask × Cluster :=
  kubeWrite env.create (serverCreate b env task (cluster task.key.ns)) cluster

def kubeGet (key : ObjectKey) (cluster : Cluster) : Except ApiError StoredTask :=
  match env.get, (cluster key.ns).find? key.name with
  | some err, _ => .error err
  | none, none => .error (notFoundError "cloudtasks" key.name)
  | none, some task => .ok task

/-- `client.Limit` only limits when it is positive. -/
def kubeList (ns : String) (limit : Int) (cluster : Cluster) : Except ApiError (List StoredTask) :=
  match env.list with
  | some err => .error err
  | none =>
      let items := b.arrange (cluster ns).items
      .ok (if limit ≤ 0 then items else items.take limit.toNat)

def kubeDelete (key : ObjectKey) (cluster : Cluster) : Except ApiError Unit × Cluster :=
  kubeWrite env.delete
    (((cluster key.ns).delete key.name env.now).map fun left => ((), left)) cluster

end Client

/-! ## Responses -/

/-- What a handler answers.  `err` is the error it passes to `writeError`. -/
inductive Reply where
  | error (statusCode : Nat) (message : String) (err : Option String)
  | invalid (errors : List ValidationError)
  | created (task : StoredTask)
  | page (tasks : List StoredTask) (total limit offset : Nat)
  | found (task : StoredTask)
  | deleted
  | notStarted (taskID : String) (task : StoredTask)
  | logs (taskID : String) (task : StoredTask) (podLogs : Except String String)

def Reply.describes : Reply → List StoredTask
  | .error _ _ _ => []
  | .invalid _ => []
  | .created task => [task]
  | .page tasks _ _ _ => tasks
  | .found task => [task]
  | .deleted => []
  | .notStarted _ task => [task]
  | .logs _ task _ => [task]

def phaseText : CloudTaskPhase → String
  | .unset => ""
  | .pending => "Pending"
  | .running => "Running"
  | .completed => "Completed"
  | .failed => "Failed"

structure CloudTaskResponse where
  name : String
  ns : String
  phase : String
  podName : String
  message : String
  retryCount : Int
  createdAt : String
  completedAt : String
  spec : CreateCloudTaskRequest

def convertResourceRequirements (req : ResourceRequirementsReq) : TaskResources where
  requests := req.requests.map fun list => ⟨list.cpu, list.memory⟩
  limits := req.limits.map fun list => ⟨list.cpu, list.memory⟩

/-- The source uses `convertResourceRequirements` in this direction too, which
its type does not allow. -/
def resourcesOfTask (resources : TaskResources) : ResourceRequirementsReq where
  requests := resources.requests.map fun list => ⟨list.cpu, list.memory⟩
  limits := resources.limits.map fun list => ⟨list.cpu, list.memory⟩

def convertCloudTaskToResponse (showTime : Nat → String) (task : StoredTask) :
    CloudTaskResponse where
  name := task.key.name
  ns := task.key.ns
  phase := phaseText task.status.phase
  podName := task.status.podName
  message := task.status.message
  retryCount := task.status.retryCount
  createdAt := showTime task.creationTimestamp
  completedAt := (task.status.completionTime.map showTime).getD ""
  spec := {
    name := task.key.name
    image := task.spec.image
    command := task.spec.command
    args := task.spec.args
    tenantID := task.spec.tenantID
    resources := task.spec.resources.map resourcesOfTask
    retries := task.spec.retries
    timeout := task.spec.timeout
    priority := task.spec.priority }

/-! ### Their JSON, with `omitempty` -/

def textField (name value : String) : List (String × Json) :=
  if value = "" then [] else [(name, .text value)]

def textsField (name : String) (values : List String) : List (String × Json) :=
  if values = [] then [] else [(name, .array (values.map .text))]

def numberField (name : String) (n : Int) : List (String × Json) :=
  if n = 0 then [] else [(name, .number n)]

def pointerField {α : Type} (name : String) (json : α → Json) (value : Option α) :
    List (String × Json) :=
  (value.map fun target => (name, json target)).toList

def ResourceListReq.json (list : ResourceListReq) : Json :=
  .object (textField "cpu" list.cpu ++ textField "memory" list.memory)

def ResourceRequirementsReq.json (resources : ResourceRequirementsReq) : Json :=
  .object (pointerField "requests" ResourceListReq.json resources.requests ++
    pointerField "limits" ResourceListReq.json resources.limits)

def CreateCloudTaskRequest.json (req : CreateCloudTaskRequest) : Json :=
  .object ([("name", .text req.name), ("image", .text req.image)] ++
    textsField "command" req.command ++ textsField "args" req.args ++
    [("tenantID", .text req.tenantID)] ++
    pointerField "resources" ResourceRequirementsReq.json req.resources ++
    numberField "retries" req.retries ++ textField "timeout" req.timeout ++
    numberField "priority" req.priority)

def CloudTaskResponse.json (resp : CloudTaskResponse) : Json :=
  .object ([("name", .text resp.name), ("namespace", .text resp.ns),
      ("phase", .text resp.phase)] ++
    textField "podName" resp.podName ++ textField "message" resp.message ++
    [("retryCount", .number resp.retryCount), ("createdAt", .text resp.createdAt)] ++
    textField "completedAt" resp.completedAt ++
    [("spec", CreateCloudTaskRequest.json resp.spec)])

/-! ### The helpers that write -/

/-- What is written, and the panic that stops it. -/
structure Written where
  writes : List Write
  panic : Option String

def writeJSON (statusCode : Nat) (data : Json) : Written :=
  ⟨[.header "Content-Type" "application/json", .status statusCode, .body (.json data)], none⟩

/-- `err.Error()` is called after the status is written, with or without an error. -/
def writeError (statusCode : Nat) (message : String) (err : Option String) : Written :=
  match err with
  | some text =>
      writeJSON statusCode
        (.object [("detail", .text text), ("error", .text message),
          ("status", .number statusCode)])
  | none =>
      ⟨[.header "Content-Type" "application/json", .status statusCode],
        some "runtime error: invalid memory address or nil pointer dereference"⟩

def writeValidationErrors (statusCode : Nat) (errors : List ValidationError) : Written :=
  writeJSON statusCode
    (.object [("error", .text "Validation failed"),
      ("fields", .array (errors.map fun e =>
        .object [("field", .text e.field), ("message", .text e.message)])),
      ("status", .number statusCode)])

/-- The encoder sorts the keys of a map. -/
def Reply.written (showTime : Nat → String) : Reply → Written
  | .error statusCode message err => writeError statusCode message err
  | .invalid errors => writeValidationErrors 400 errors
  | .created task => writeJSON 201 (convertCloudTaskToResponse showTime task).json
  | .page tasks total limit offset =>
      writeJSON 200
        (.object [("count", .number tasks.length),
          ("items", .array (tasks.map fun task =>
            (convertCloudTaskToResponse showTime task).json)),
          ("limit", .number limit), ("offset", .number offset), ("total", .number total)])
  | .found task => writeJSON 200 (convertCloudTaskToResponse showTime task).json
  | .deleted => ⟨[.status 204], none⟩
  | .notStarted taskID _ =>
      writeJSON 200
        (.object [("logs", .text "Task pod not yet created"), ("status", .text "Not Started"),
          ("taskID", .text taskID)])
  | .logs taskID task (.error err) =>
      writeJSON 200
        (.object [("logs", .text ("Unable to fetch logs: " ++ err)),
          ("status", .text (phaseText task.status.phase)), ("taskID", .text taskID)])
  | .logs taskID task (.ok podLogs) =>
      writeJSON 200
        (.object [("logs", .text podLogs), ("podName", .text task.status.podName),
          ("status", .text (phaseText task.status.phase)), ("taskID", .text taskID)])

/-! ## Parameters of a request -/

def maxInt : Int := 9223372036854775807

/-- `strconv.Atoi`. -/
def atoi (text : String) : Option Int :=
  let (negative, digits) :=
    match text.toList with
    | '-' :: rest => (true, rest)
    | '+' :: rest => (false, rest)
    | chars => (false, chars)
  if digits = [] ∨ digits.any (fun c => !c.isDigit) then none
  else
    let magnitude : Int := Nat.ofDigitChars 10 digits 0
    let value := if negative then -magnitude else magnitude
    if value < -maxInt - 1 ∨ value > maxInt then none else some value

/-- A parameter left out is not a number either. -/
def limitOf (r : HttpRequest) : Nat :=
  match atoi (r.queryGet "limit") with
  | none => 50
  | some l => if l > 0 then if l > 500 then 500 else l.toNat else 50

def offsetOf (r : HttpRequest) : Nat :=
  match atoi (r.queryGet "offset") with
  | none => 0
  | some o => if o ≥ 0 then o.toNat else 0

/-- `r.URL.Path`; an escaped slash of the URL is a slash inside a part. -/
def urlPath (r : HttpRequest) : List Char :=
  match r.path with
  | [] => ['/']
  | parts => parts.flatMap fun part => '/' :: part.toList

/-- `strings.TrimPrefix(r.URL.Path, "/v1/tasks/")` -/
def taskPath (r : HttpRequest) : List Char :=
  if "/v1/tasks/".toList.isPrefixOf (urlPath r) then (urlPath r).drop 10 else urlPath r

def taskIDOf (r : HttpRequest) : String := String.ofList ((taskPath r).takeWhile (· ≠ '/'))

/-! ## Endpoints -/

def tenantNamespace (tenantID : String) : String := "tenant-" ++ tenantID

/-- `randString(n)`: the loop takes the letters in their order. -/
def randString (n : Nat) : String :=
  let letters := "abcdef0123456789".toList
  String.ofList ((List.range n).map fun i => letters.getD (i % letters.length) 'a')

def newTaskID (req : CreateCloudTaskRequest) : String :=
  if req.name = "" then "task-" ++ randString 8 else req.name

def newCloudTask (tenantID taskID : String) (req : CreateCloudTaskRequest) : StoredTask where
  key := ⟨tenantNamespace tenantID, taskID⟩
  labels := [("tenantID", tenantID), ("app", "cloudtask")]
  creationTimestamp := 0
  finalizers := []
  deletionTimestamp := none
  spec := {
    image := req.image
    command := req.command
    args := req.args
    resources := req.resources.map convertResourceRequirements
    retries := req.retries
    timeout := req.timeout
    tenantID := tenantID
    priority := req.priority
    env := []
    volumeMounts := []
    labels := .empty
    annotations := .empty }
  status := .zero

section Endpoints
variable (b : Backend) (env : KubeEnv) (tenantID : String) (r : HttpRequest) (cluster : Cluster)

def decodeRequest : Except Reply CreateCloudTaskRequest :=
  match r.body with
  | .error err => .error (.error 400 "Failed to read request body" (some err))
  | .ok body =>
      match b.unmarshal body with
      | .error err => .error (.error 400 "Invalid JSON format" (some err))
      | .ok req =>
          let validationErrors := validateCreateTaskRequest req
          if validationErrors.length > 0 then .error (.invalid validationErrors) else .ok req

def createReply : Except ApiError StoredTask → Reply
  | .ok cloudTask => .created cloudTask
  | .error err =>
      if err.reason = .alreadyExists then .error 409 "Task with this name already exists" none
      else .error 500 "Failed to create task" (some err.message)

def createTask : Reply × Cluster :=
  match decodeRequest b r with
  | .error refusal => (refusal, cluster)
  | .ok req =>
      if req.tenantID ≠ tenantID then
        (.error 403 "Tenant ID mismatch: cannot create tasks for other tenants" none, cluster)
      else
        match validateTaskID (newTaskID req) with
        | some err => (.error 400 "Invalid task name" (some err), cluster)
        | none =>
            let call := kubeCreate b env (newCloudTask tenantID (newTaskID req) req) cluster
            (createReply call.1, call.2)

/-- The cut out of the tasks left by the filter.  An offset within a slice and a
limit of at most 500 do not overflow when they are added. -/
def pageOf (offset limit : Nat) (tasks : List StoredTask) : List StoredTask :=
  if offset > tasks.length then []
  else if offset + limit > tasks.length then tasks.drop offset
  else (tasks.drop offset).take limit

def hasStatus (status : String) (task : StoredTask) : Bool :=
  status = "" || phaseText task.status.phase = status

/-- The sum of limit and offset is an `int`. -/
def listTasks : Reply :=
  let status := r.queryGet "status"
  match validateStatus status with
  | some err => .error 400 "Invalid status parameter" (some err)
  | none =>
      let limit := limitOf r
      let offset := offsetOf r
      match kubeList b env (tenantNamespace tenantID)
          (Int.bmod (limit + offset) 18446744073709551616) cluster with
      | .error err => .error 500 "Failed to list tasks" (some err.message)
      | .ok items =>
          let tasks := items.filter (hasStatus status)
          .page (pageOf offset limit tasks) tasks.length limit offset

/-- What the endpoints of a single task begin with: its id is checked, the task
is fetched, and it must be the tenant's own. -/
def ownTask (failed forbidden : String) : Except Reply StoredTask :=
  match validateTaskID (taskIDOf r) with
  | some err => .error (.error 400 "Invalid task ID" (some err))
  | none =>
      match kubeGet env ⟨tenantNamespace tenantID, taskIDOf r⟩ cluster with
      | .error err =>
          if err.reason = .notFound then .error (.error 404 "Task not found" none)
          else .error (.error 500 failed (some err.message))
      | .ok cloudTask =>
          if cloudTask.spec.tenantID ≠ tenantID then .error (.error 403 forbidden none)
          else .ok cloudTask

theorem ownTask_cases (failed forbidden : String) :
    (∃ err, validateTaskID (taskIDOf r) = some err ∧
        ownTask env tenantID r cluster failed forbidden =
          .error (.error 400 "Invalid task ID" (some err))) ∨
      validateTaskID (taskIDOf r) = none ∧
        ((∃ err, kubeGet env ⟨tenantNamespace tenantID, taskIDOf r⟩ cluster = .error err ∧
            err.reason = .notFound ∧
            ownTask env tenantID r cluster failed forbidden =
              .error (.error 404 "Task not found" none)) ∨
          (∃ err, kubeGet env ⟨tenantNamespace tenantID, taskIDOf r⟩ cluster = .error err ∧
            err.reason ≠ .notFound ∧
            ownTask env tenantID r cluster failed forbidden =
              .error (.error 500 failed (some err.message))) ∨
          (∃ task, kubeGet env ⟨tenantNamespace tenantID, taskIDOf r⟩ cluster = .ok task ∧
            task.spec.tenantID ≠ tenantID ∧
            ownTask env tenantID r cluster failed forbidden =
              .error (.error 403 forbidden none)) ∨
          ∃ task, kubeGet env ⟨tenantNamespace tenantID, taskIDOf r⟩ cluster = .ok task ∧
            task.spec.tenantID = tenantID ∧
            ownTask env tenantID r cluster failed forbidden = .ok task) := by
  unfold ownTask
  cases validateTaskID (taskIDOf r) with
  | some err => exact .inl ⟨err, rfl, rfl⟩
  | none =>
      refine .inr ⟨rfl, ?_⟩
      cases kubeGet env ⟨tenantNamespace tenantID, taskIDOf r⟩ cluster with
      | error err =>
          by_cases missing : err.reason = .notFound
          · exact .inl ⟨err, rfl, missing, if_pos missing⟩
          · exact .inr (.inl ⟨err, rfl, missing, if_neg missing⟩)
      | ok task =>
          by_cases foreign : task.spec.tenantID ≠ tenantID
          · exact .inr (.inr (.inl ⟨task, rfl, foreign, if_pos foreign⟩))
          · exact .inr (.inr (.inr ⟨task, rfl, not_not.mp foreign, if_neg foreign⟩))

def answerOwn (found : StoredTask → Reply) : Except Reply StoredTask → Reply
  | .error refusal => refusal
  | .ok cloudTask => found cloudTask

def getTask : Reply :=
  answerOwn .found (ownTask env tenantID r cluster "Failed to get task"
    "Cannot access tasks from other tenants")

def deleteReply : Except ApiError Unit → Reply
  | .ok _ => .deleted
  | .error err =>
      if err.reason = .notFound then .deleted
      else .error 500 "Failed to delete task" (some err.message)

def deleteTask : Reply × Cluster :=
  match ownTask env tenantID r cluster "Failed to delete task"
      "Cannot delete tasks from other tenants" with
  | .error refusal => (refusal, cluster)
  | .ok cloudTask =>
      let call := kubeDelete env cloudTask.key cluster
      (deleteReply call.1, call.2)

/-- A placeholder in the source. -/
def getPodLogs (_ns _podName : String) : Except String String :=
  .ok "Pod logs would be streamed here"

def logsReply (cloudTask : StoredTask) : Reply :=
  if cloudTask.status.podName = "" then .notStarted (taskIDOf r) cloudTask
  else
    .logs (taskIDOf r) cloudTask
      (getPodLogs (tenantNamespace tenantID) cloudTask.status.podName)

def getTaskLogs : Reply :=
  -- a path without a slash has fewer than two parts
  if '/' ∉ taskPath r then .error 400 "Invalid request path" none
  else
    answerOwn (logsReply tenantID r) (ownTask env tenantID r cluster "Failed to get task logs"
      "Cannot access logs from other tenant tasks")

def reply : TaskEndpoint → Reply × Cluster
  | .createTask => createTask b env tenantID r cluster
  | .listTasks => (listTasks b env tenantID r cluster, cluster)
  | .getTask => (getTask env tenantID r cluster, cluster)
  | .deleteTask => deleteTask env tenantID r cluster
  | .getTaskLogs => (getTaskLogs env tenantID r cluster, cluster)

end Endpoints

def served (b : Backend) (answered : Reply × Cluster) : Served Cluster :=
  let written := answered.1.written b.showTime
  ⟨written.writes, written.panic, answered.2⟩

/-- Every endpoint begins with the tenant of the token. -/
def taskHandler (b : Backend) (env : KubeEnv) (endpoint : TaskEndpoint) : HttpHandler Cluster :=
  fun r ctx cluster =>
    match getTenantIDFromContext ctx with
    | .error err =>
        served b (.error 401 "Tenant ID not found in token" (some err), cluster)
    | .ok tenantID => served b (reply b env tenantID r cluster endpoint)

end CloudOS.Orchestrator.TaskHandler
