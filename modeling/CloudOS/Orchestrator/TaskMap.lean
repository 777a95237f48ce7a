import CloudOS.Lib.Tables
import CloudOS.Orchestrator.TaskSchema
import CloudOS.Orchestrator.TaskTenants

/-!
# The task API as a map

What the API is for: a tenant keeps tasks under names, makes one, looks at it and removes
it.  `mapReply` says so with nothing but a map from names to tasks and the outcome of the
calls to Kubernetes.  The handlers keep to it for each tenant, while the controllers write
the status and the finalizers of tasks: what a tenant is answered in a run of everybody's
requests is what its own map answers to its own.

The order of a listing is not the map's, so `ListTasks` is left out there.
-/

set_option autoImplicit false

namespace CloudOS.Orchestrator.TaskMap

open CloudOS.Kubernetes.Objects
open CloudOS.Lib.History
open CloudOS.Lib.HttpHandlers
open CloudOS.Lib.LocalOps
open CloudOS.Lib.Tables
open CloudOS.Orchestrator.ApiRouter
open CloudOS.Orchestrator.CloudTaskReconcile
open CloudOS.Orchestrator.HttpAuth
open CloudOS.Orchestrator.TaskHandler
open CloudOS.Orchestrator.TaskPages
open CloudOS.Orchestrator.TaskSchema
open CloudOS.Orchestrator.TaskTenants
open CloudOS.Orchestrator.TaskValidator

/-! ## The map -/

abbrev NamedTasks : Type := String → Option StoredTask

/-- What is left of a deleted task: it stays, marked, as long as a finalizer holds it. -/
def afterDelete (now : Nat) (task : StoredTask) : Option StoredTask :=
  if task.finalizers = [] then none
  else some { task with deletionTimestamp := some (task.deletionTimestamp.getD now) }

def afterControl (status : CloudTaskStatus) (finalizers : List String) (task : StoredTask) :
    Option StoredTask :=
  if finalizers = [] ∧ task.deletionTimestamp.isSome then none
  else some { task with status := status, finalizers := finalizers }

def make (fault : Option Fault) (task : StoredTask) (map : NamedTasks) : Reply × NamedTasks :=
  let made := Function.update map task.key.name (some task)
  match fault, map task.key.name with
  | none, none => (.created task, made)
  | none, some _ => (.error 409 "Task with this name already exists" none, map)
  | some fault, none => (createReply (.error fault.error), if fault.applied then made else map)
  | some fault, some _ => (createReply (.error fault.error), map)

def look (failure : Option ApiError) (failed name : String) (map : NamedTasks) :
    Except Reply StoredTask :=
  match failure, map name with
  | some err, _ =>
      if err.reason = .notFound then .error (.error 404 "Task not found" none)
      else .error (.error 500 failed (some err.message))
  | none, none => .error (.error 404 "Task not found" none)
  | none, some task => .ok task

def remove (fault : Option Fault) (now : Nat) (name : String) (map : NamedTasks) :
    Reply × NamedTasks :=
  let removed := Function.update map name ((map name).bind (afterDelete now))
  match fault with
  | none => (.deleted, removed)
  | some fault => (deleteReply (.error fault.error), if fault.applied then removed else map)

section Requests
variable (b : Backend) (env : KubeEnv) (tenantID : String) (r : HttpRequest)

def requestedTask : Except Reply StoredTask :=
  match decodeRequest b r with
  | .error refusal => .error refusal
  | .ok req =>
      if req.tenantID ≠ tenantID then
        .error (.error 403 "Tenant ID mismatch: cannot create tasks for other tenants" none)
      else
        match validateTaskID (newTaskID req) with
        | some err => .error (.error 400 "Invalid task name" (some err))
        | none => .ok (newCloudTask tenantID (newTaskID req) req)

def admittedTask (task : StoredTask) : Except Reply StoredTask :=
  match b.admission task.key task.spec with
  | .error err => .error (createReply (.error ((env.create.map Fault.error).getD err)))
  | .ok spec => .ok { task with spec := spec, creationTimestamp := env.now }

def makeAccepted (map : NamedTasks) : Except Reply StoredTask → Reply × NamedTasks
  | .error refusal => (refusal, map)
  | .ok task => make env.create task map

def mapCreate (map : NamedTasks) : Reply × NamedTasks :=
  makeAccepted env map ((requestedTask b tenantID r).bind (admittedTask b env))

def namedTask (failed : String) (map : NamedTasks) : Except Reply StoredTask :=
  match validateTaskID (taskIDOf r) with
  | some err => .error (.error 400 "Invalid task ID" (some err))
  | none => look env.get failed (taskIDOf r) map

def mapDelete (map : NamedTasks) : Reply × NamedTasks :=
  match namedTask env r "Failed to delete task" map with
  | .error refusal => (refusal, map)
  | .ok task => remove env.delete env.now task.key.name map

def mapLogs (map : NamedTasks) : Reply :=
  if '/' ∉ taskPath r then .error 400 "Invalid request path" none
  else answerOwn (logsReply tenantID r) (namedTask env r "Failed to get task logs" map)

def mapReply (map : NamedTasks) : TaskEndpoint → Option Reply × NamedTasks
  | .createTask => (some (mapCreate b env tenantID r map).1, (mapCreate b env tenantID r map).2)
  | .listTasks => (none, map)
  | .getTask => (some (answerOwn .found (namedTask env r "Failed to get task" map)), map)
  | .deleteTask => (some (mapDelete env r map).1, (mapDelete env r map).2)
  | .getTaskLogs => (some (mapLogs env tenantID r map), map)

end Requests

/-! ## The tasks of a namespace as a map -/

section Tasks
variable {ns : String} (tasks : Tasks ns)

theorem create_cases (task : StoredTask) (here : task.key.ns = ns) :
    (tasks.find? task.key.name = none ∧ ∃ left, tasks.create task here = .ok left ∧
        left.find? = Function.update tasks.find? task.key.name (some task)) ∨
      ∃ old, tasks.find? task.key.name = some old ∧
        tasks.create task here = .error (alreadyExistsError "cloudtasks" task.key.name) := by
  cases found : tasks.find? task.key.name with
  | some old =>
      refine .inr ⟨old, rfl, dif_neg ?_⟩
      simp [found]
  | none =>
      refine .inl ⟨rfl, _, dif_pos found, ?_⟩
      funext name
      rw [Function.update_apply]
      simp only [Tasks.find?, List.find?_append] at found ⊢
      by_cases same : name = task.key.name
      · subst same
        simp [found]
      · have different : task.key.name ≠ name := Ne.symm same
        simp [same, different]

def edited (edit : StoredTask → Option StoredTask)
    (keeps : ∀ task left, edit task = some left → left.key = task.key) (name : String) :
    Tasks ns where
  items := tasks.items.filterMap (editRow (fun task => task.key.name) name edit)
  placed := by
    intro left member
    obtain ⟨task, listed, kept⟩ := List.mem_filterMap.mp member
    rw [editRow_view keeps kept]
    exact tasks.placed task listed
  distinct := by
    refine tasks.distinct.sublist (map_key_filterMap_sublist ?_ tasks.items)
    intro task left kept
    rw [editRow_view keeps kept]

theorem find?_edited {edit : StoredTask → Option StoredTask}
    (keeps : ∀ task left, edit task = some left → left.key = task.key) (name : String) :
    (edited tasks edit keeps name).find? =
      Function.update tasks.find? name ((tasks.find? name).bind edit) := by
  have keepsName : ∀ task left, edit task = some left → left.key.name = task.key.name :=
    fun task left kept => congrArg ObjectKey.name (keeps task left kept)
  funext other
  rw [Function.update_apply]
  exact find?_filterMap_editRow keepsName tasks.distinct name other

theorem afterDelete_keeps {now : Nat} {task left : StoredTask}
    (kept : afterDelete now task = some left) : left.key = task.key ∧ left.spec = task.spec := by
  unfold afterDelete at kept
  split at kept
  next => cases kept
  next =>
    obtain rfl := Option.some.inj kept
    exact ⟨rfl, rfl⟩

theorem afterControl_keeps {status : CloudTaskStatus} {finalizers : List String}
    {task left : StoredTask} (kept : afterControl status finalizers task = some left) :
    left.key = task.key ∧ left.spec = task.spec := by
  unfold afterControl at kept
  split at kept
  next => cases kept
  next =>
    obtain rfl := Option.some.inj kept
    exact ⟨rfl, rfl⟩

def controlled (name : String) (status : CloudTaskStatus) (finalizers : List String) : Tasks ns :=
  edited tasks (afterControl status finalizers) (fun _ _ kept => (afterControl_keeps kept).1) name

theorem delete_eq {name : String} {now : Nat} {task : StoredTask}
    (present : tasks.find? name = some task) :
    tasks.delete name now =
      .ok (edited tasks (afterDelete now) (fun _ _ kept => (afterDelete_keeps kept).1) name) := by
  have missing : tasks.find? name ≠ none := by simp [present]
  rw [Tasks.delete, if_neg missing]
  rfl

end Tasks

/-! ## The handlers as operations on the map -/

def viewOf (tenantID : String) (cluster : Cluster) : NamedTasks :=
  (cluster (tenantNamespace tenantID)).find?

theorem viewOf_update (tenantID : String) (cluster : Cluster)
    (tasks : Tasks (tenantNamespace tenantID)) :
    viewOf tenantID (Function.update cluster (tenantNamespace tenantID) tasks) = tasks.find? := by
  rw [viewOf, Function.update_self]

theorem key_of_viewOf {tenantID name : String} {cluster : Cluster} {task : StoredTask}
    (found : viewOf tenantID cluster name = some task) :
    task.key = ⟨tenantNamespace tenantID, name⟩ := by
  obtain ⟨member, named⟩ := Tasks.find?_mem found
  rw [← named, ← (cluster (tenantNamespace tenantID)).placed task member]

def Own (tenantID : String) (map : NamedTasks) : Prop :=
  ∀ name task, map name = some task → task.spec.tenantID = tenantID

/-- Admission sets defaults; it leaves the tenant. -/
def KeepsTenant (b : Backend) : Prop :=
  ∀ key spec admitted, b.admission key spec = .ok admitted → admitted.tenantID = spec.tenantID

section Handlers
variable (b : Backend) (env : KubeEnv) (tenantID : String) (r : HttpRequest) (cluster : Cluster)

theorem kubeCreate_view {task : StoredTask} (here : task.key.ns = tenantNamespace tenantID) :
    (createReply (kubeCreate b env task cluster).1,
        viewOf tenantID (kubeCreate b env task cluster).2) =
      makeAccepted env (viewOf tenantID cluster) (admittedTask b env task) := by
  obtain ⟨⟨ns, name⟩, labels, created, finalizers, deletionTimestamp, spec, status⟩ := task
  obtain rfl : ns = tenantNamespace tenantID := here
  unfold kubeCreate serverCreate admittedTask
  cases b.admission ⟨tenantNamespace tenantID, name⟩ spec with
  | error err => cases env.create <;> rfl
  | ok admitted =>
      rcases create_cases (cluster (tenantNamespace tenantID))
          ⟨⟨tenantNamespace tenantID, name⟩, labels, env.now, finalizers, deletionTimestamp,
            admitted, status⟩ rfl with ⟨free, left, created, view⟩ | ⟨old, taken, refused⟩
      · have absent : viewOf tenantID cluster name = none := free
        have made := (viewOf_update tenantID cluster left).trans view
        simp only [created, makeAccepted, make, absent]
        cases env.create with
        | none => exact congrArg (Prod.mk _) made
        | some fault =>
            cases applied : fault.applied with
            | false => simp only [kubeWrite, applied, Bool.false_eq_true, if_false]
            | true =>
                simp only [kubeWrite, applied, if_true]
                exact congrArg (Prod.mk _) made
      · have present : viewOf tenantID cluster name = some old := taken
        simp only [refused, makeAccepted, make, present]
        cases env.create <;> rfl

theorem createTask_view :
    ((createTask b env tenantID r cluster).1,
        viewOf tenantID (createTask b env tenantID r cluster).2) =
      mapCreate b env tenantID r (viewOf tenantID cluster) := by
  unfold createTask mapCreate requestedTask
  cases decodeRequest b r with
  | error refusal => rfl
  | ok req =>
      by_cases foreign : req.tenantID ≠ tenantID
      · simp only [if_pos foreign]
        rfl
      · simp only [if_neg foreign]
        cases validateTaskID (newTaskID req) with
        | some err => rfl
        | none => exact kubeCreate_view b env tenantID cluster rfl

theorem ownTask_view (own : Own tenantID (viewOf tenantID cluster)) (failed forbidden : String) :
    ownTask env tenantID r cluster failed forbidden =
      namedTask env r failed (viewOf tenantID cluster) := by
  unfold ownTask namedTask
  cases validateTaskID (taskIDOf r) with
  | some err => rfl
  | none =>
      unfold kubeGet look
      cases env.get with
      | some err => rfl
      | none =>
          simp only
          cases found : viewOf tenantID cluster (taskIDOf r) with
          | none =>
              simp only [viewOf] at found
              simp [found, notFoundError]
          | some task =>
              have isOwn := own _ task found
              simp only [viewOf] at found
              simp [found, isOwn]

theorem namedTask_name {failed : String} {task : StoredTask}
    (found : namedTask env r failed (viewOf tenantID cluster) = .ok task) :
    viewOf tenantID cluster task.key.name = some task := by
  unfold namedTask look at found
  split at found
  next => cases found
  next =>
    split at found
    next => split at found <;> cases found
    next => cases found
    next present =>
      obtain rfl := Except.ok.inj found
      rw [key_of_viewOf present]
      exact present

theorem deleteTask_view (own : Own tenantID (viewOf tenantID cluster)) :
    ((deleteTask env tenantID r cluster).1, viewOf tenantID (deleteTask env tenantID r cluster).2) =
      mapDelete env r (viewOf tenantID cluster) := by
  unfold deleteTask mapDelete
  rw [ownTask_view env tenantID r cluster own]
  cases found : namedTask env r "Failed to delete task" (viewOf tenantID cluster) with
  | error refusal => rfl
  | ok task =>
      have present := namedTask_name env tenantID r cluster found
      obtain ⟨⟨ns, name⟩, labels, created, finalizers, deleted, spec, status⟩ := task
      obtain rfl : ns = tenantNamespace tenantID := congrArg ObjectKey.ns (key_of_viewOf present)
      have removed := (viewOf_update tenantID cluster _).trans
        (find?_edited (cluster (tenantNamespace tenantID))
          (fun _ _ kept => (@afterDelete_keeps env.now _ _ kept).1) name)
      simp only [kubeDelete, remove, delete_eq _ present, Except.map]
      cases env.delete with
      | none => exact congrArg (Prod.mk _) removed
      | some fault =>
          cases applied : fault.applied with
          | false => simp only [kubeWrite, applied, Bool.false_eq_true, if_false]
          | true =>
              simp only [kubeWrite, applied, if_true]
              exact congrArg (Prod.mk _) removed

theorem reply_view (own : Own tenantID (viewOf tenantID cluster)) (endpoint : TaskEndpoint) :
    (mapReply b env tenantID r (viewOf tenantID cluster) endpoint).1 =
        (if endpoint = .listTasks then none
          else some (reply b env tenantID r cluster endpoint).1) ∧
      (mapReply b env tenantID r (viewOf tenantID cluster) endpoint).2 =
        viewOf tenantID (reply b env tenantID r cluster endpoint).2 := by
  cases endpoint with
  | createTask =>
      rw [mapReply, ← createTask_view]
      exact ⟨rfl, rfl⟩
  | listTasks => exact ⟨rfl, rfl⟩
  | getTask =>
      rw [mapReply, ← ownTask_view env tenantID r cluster own]
      exact ⟨rfl, rfl⟩
  | deleteTask =>
      rw [mapReply, ← deleteTask_view env tenantID r cluster own]
      exact ⟨rfl, rfl⟩
  | getTaskLogs =>
      rw [mapReply, mapLogs, ← ownTask_view env tenantID r cluster own]
      exact ⟨rfl, rfl⟩

end Handlers

/-! ## Every task is the tenant's own -/

section Own
variable {tenantID : String} {map : NamedTasks}

theorem Own.update (own : Own tenantID map) (name : String) {entry : Option StoredTask}
    (fits : ∀ task, entry = some task → task.spec.tenantID = tenantID) :
    Own tenantID (Function.update map name entry) := by
  intro other task found
  rw [Function.update_apply] at found
  split at found
  next => exact fits task found
  next => exact own other task found

theorem Own.edit (own : Own tenantID map) (name : String) {edit : StoredTask → Option StoredTask}
    (keeps : ∀ task left, edit task = some left → left.spec = task.spec) :
    Own tenantID (Function.update map name ((map name).bind edit)) := by
  apply own.update
  intro left found
  obtain ⟨task, present, kept⟩ := Option.bind_eq_some_iff.mp found
  rw [keeps task left kept]
  exact own name task present

variable {b : Backend} (env : KubeEnv) (r : HttpRequest)

theorem tenantID_of_requested {task : StoredTask}
    (requested : requestedTask b tenantID r = .ok task) : task.spec.tenantID = tenantID := by
  unfold requestedTask at requested
  split at requested
  next => cases requested
  next =>
    split at requested
    next => cases requested
    next =>
      split at requested
      next => cases requested
      next =>
        obtain rfl := Except.ok.inj requested
        rfl

theorem tenantID_of_accepted (keeps : KeepsTenant b) {task : StoredTask}
    (accepted : (requestedTask b tenantID r).bind (admittedTask b env) = .ok task) :
    task.spec.tenantID = tenantID := by
  cases requested : requestedTask b tenantID r with
  | error refusal =>
      rw [requested] at accepted
      cases accepted
  | ok fresh =>
      rw [requested] at accepted
      have admitted : admittedTask b env fresh = .ok task := accepted
      have tenant := tenantID_of_requested r requested
      unfold admittedTask at admitted
      split at admitted
      next => cases admitted
      next spec isAdmitted =>
        obtain rfl := Except.ok.inj admitted
        exact (keeps _ _ _ isAdmitted).trans tenant

theorem make_left (fault : Option Fault) (task : StoredTask) (map : NamedTasks) :
    (make fault task map).2 = map ∨
      (make fault task map).2 = Function.update map task.key.name (some task) := by
  unfold make
  cases fault with
  | none => cases map task.key.name <;> simp
  | some fault =>
      cases map task.key.name with
      | some old => exact .inl rfl
      | none => exact (ite_eq_or_eq _ _ _).symm

theorem remove_left (fault : Option Fault) (now : Nat) (name : String) (map : NamedTasks) :
    (remove fault now name map).2 = map ∨
      (remove fault now name map).2 =
        Function.update map name ((map name).bind (afterDelete now)) := by
  unfold remove
  cases fault with
  | none => exact .inr rfl
  | some fault => exact (ite_eq_or_eq _ _ _).symm

theorem Own.mapCreate (keeps : KeepsTenant b) (own : Own tenantID map) :
    Own tenantID (mapCreate b env tenantID r map).2 := by
  unfold TaskMap.mapCreate
  cases accepted : (requestedTask b tenantID r).bind (admittedTask b env) with
  | error refusal => exact own
  | ok task =>
      rw [makeAccepted]
      rcases make_left env.create task map with left | left
      · rw [left]
        exact own
      · rw [left]
        apply own.update
        intro other same
        rw [← Option.some.inj same]
        exact tenantID_of_accepted env r keeps accepted

theorem Own.mapDelete (own : Own tenantID map) : Own tenantID (mapDelete env r map).2 := by
  unfold TaskMap.mapDelete
  cases namedTask env r "Failed to delete task" map with
  | error refusal => exact own
  | ok task =>
      rcases remove_left env.delete env.now task.key.name map with left | left
      · simp only [left]
        exact own
      · simp only [left]
        exact own.edit task.key.name fun _ _ kept => (afterDelete_keeps kept).2

theorem Own.mapReply (keeps : KeepsTenant b) (own : Own tenantID map) (endpoint : TaskEndpoint) :
    Own tenantID (mapReply b env tenantID r map endpoint).2 := by
  cases endpoint with
  | createTask => exact own.mapCreate env r keeps
  | listTasks => exact own
  | getTask => exact own
  | deleteTask => exact own.mapDelete env r
  | getTaskLogs => exact own

end Own

/-! ## Runs -/

/-- A request, or a write of the controllers to the status and finalizers of a task. -/
inductive SystemOp where
  | request (op : TaskRequest)
  | control (key : ObjectKey) (status : CloudTaskStatus) (finalizers : List String)

def SystemOp.concerns (tenantID : String) : SystemOp → Bool
  | .request op => op.isOf tenantID
  | .control key _ _ => key.ns = tenantNamespace tenantID

section Runs
variable (b : Backend) (tenantID : String)

def systemStep (cluster : Cluster) : SystemOp → Cluster
  | .request op => (handle b op cluster).2
  | .control key status finalizers =>
      Function.update cluster key.ns (controlled (cluster key.ns) key.name status finalizers)

def systemAnswer (cluster : Cluster) : SystemOp → Option Written
  | .request op => if op.endpoint = .listTasks then none else some (handle b op cluster).1
  | .control _ _ _ => none

def mapStep (map : NamedTasks) : SystemOp → NamedTasks
  | .request op => (mapReply b op.env tenantID op.request map op.endpoint).2
  | .control key status finalizers =>
      Function.update map key.name ((map key.name).bind (afterControl status finalizers))

def mapAnswer (map : NamedTasks) : SystemOp → Option Written
  | .request op =>
      (mapReply b op.env tenantID op.request map op.endpoint).1.map fun reply =>
        reply.written b.showTime
  | .control _ _ _ => none

/-- The map holds what the tenant's namespace does. -/
structure Holds (cluster : Cluster) (map : NamedTasks) : Prop where
  view : map = viewOf tenantID cluster
  own : Own tenantID map

variable {tenantID}

theorem handle_of_isOf {op : TaskRequest} (isOf : op.isOf tenantID = true) (cluster : Cluster) :
    handle b op cluster =
      ((reply b op.env tenantID op.request cluster op.endpoint).1.written b.showTime,
        (reply b op.env tenantID op.request cluster op.endpoint).2) := by
  obtain ⟨endpoint, request, ⟨requestID, claims⟩, env⟩ := op
  have given := of_decide_eq_true isOf
  cases claims with
  | none => cases given
  | some claims =>
      obtain rfl := Option.some.inj given
      rfl

theorem holds_own_step (keeps : KeepsTenant b) (cluster : Cluster) (map : NamedTasks)
    (op : SystemOp) (concerned : op.concerns tenantID = true) (holds : Holds tenantID cluster map) :
    systemAnswer b cluster op = mapAnswer b tenantID map op ∧
      Holds tenantID (systemStep b cluster op) (mapStep b tenantID map op) := by
  obtain ⟨rfl, own⟩ := holds
  cases op with
  | request op =>
      obtain ⟨answered, left⟩ := reply_view b op.env tenantID op.request cluster own op.endpoint
      have handled := handle_of_isOf b concerned cluster
      refine ⟨?_, ?_, own.mapReply op.env op.request keeps op.endpoint⟩
      · rw [mapAnswer, answered, systemAnswer, handled]
        split
        next => rfl
        next => rfl
      · rw [mapStep, left, systemStep, handled]
  | control key status finalizers =>
      obtain ⟨ns, name⟩ := key
      obtain rfl : ns = tenantNamespace tenantID := of_decide_eq_true concerned
      refine ⟨rfl, ?_, own.edit name fun _ _ kept => (afterControl_keeps kept).2⟩
      rw [systemStep, viewOf_update]
      exact (find?_edited _ _ name).symm

theorem holds_other_step (cluster : Cluster) (map : NamedTasks) (op : SystemOp)
    (unconcerned : op.concerns tenantID = false) (holds : Holds tenantID cluster map) :
    Holds tenantID (systemStep b cluster op) map := by
  have same : systemStep b cluster op (tenantNamespace tenantID) =
      cluster (tenantNamespace tenantID) := by
    cases op with
    | request op =>
        rw [SystemOp.concerns, isOf_eq] at unconcerned
        have apart := of_decide_eq_false unconcerned
        cases given : op.ns with
        | none => rw [systemStep, handle_noTenant b op cluster given]
        | some ns =>
            refine (handle_local b op ns given).writes cluster ?_
            intro here
            exact apart (given.trans (congrArg some here.symm))
    | control key status finalizers =>
        have apart := of_decide_eq_false unconcerned
        exact Function.update_of_ne (Ne.symm apart) _ _
  refine ⟨?_, holds.own⟩
  rw [holds.view, viewOf, viewOf, same]

/-- Whatever others do, and however the calls turn out, a tenant is answered as by a map of
its own. -/
theorem tenant_served_by_map (keeps : KeepsTenant b) (ops : List SystemOp) :
    observed (systemAnswer b) (SystemOp.concerns tenantID) (systemStep b) noTasks ops =
      observed (mapAnswer b tenantID) (SystemOp.concerns tenantID) (mapStep b tenantID)
        (fun _ => none) (ops.filter (SystemOp.concerns tenantID)) := by
  have start : Holds tenantID noTasks (fun _ => none) :=
    ⟨rfl, fun name task found => nomatch found⟩
  exact observed_simulated (holds_own_step b keeps) (holds_other_step b) start ops

end Runs

/-! ## A name used by two tenants -/

/-- The body of a request is the tenant the task is for. -/
def jobBackend : Backend :=
  { plainBackend with
    unmarshal := fun body => .ok { plainRequest with name := "job", tenantID := body } }

def jobRequest (tenantID : String) (endpoint : TaskEndpoint) (create : Option Fault) : SystemOp :=
  .request {
    endpoint := endpoint
    request := { listRequest 0 with path := ["v1", "tasks", "job"], body := .ok tenantID }
    ctx := ⟨none, some ⟨tenantID, "user", "", []⟩⟩
    env := { KubeEnv.healthy 5 with create := create } }

/-- A task that a finalizer holds is still found after it is deleted; a create that times out
may have made the task. -/
def twoTenantRun : List SystemOp :=
  [jobRequest "a" .createTask none, jobRequest "b" .createTask none,
    .control ⟨"tenant-a", "job"⟩ .zero ["cleanup"], jobRequest "a" .deleteTask none,
    jobRequest "a" .getTask none, .control ⟨"tenant-a", "job"⟩ .zero [],
    jobRequest "a" .getTask none,
    jobRequest "a" .createTask (some ⟨⟨.unavailable, "timeout"⟩, true⟩),
    jobRequest "a" .getTask none, jobRequest "a" .createTask none]

def codes (answers : List Written) : List Nat :=
  answers.flatMap fun written => written.writes.filterMap fun write =>
    match write with
    | .status code => some code
    | _ => none

theorem jobBackend_keepsTenant : KeepsTenant jobBackend := by
  intro key spec admitted isAdmitted
  rw [← Except.ok.inj isAdmitted]

theorem two_tenants_served :
    KeepsTenant jobBackend ∧
      codes (observed (systemAnswer jobBackend) (SystemOp.concerns "a") (systemStep jobBackend)
        noTasks twoTenantRun) = [201, 204, 200, 404, 500, 200, 409] := by
  refine ⟨jobBackend_keepsTenant, ?_⟩
  rw [tenant_served_by_map jobBackend jobBackend_keepsTenant]
  decide +kernel

end CloudOS.Orchestrator.TaskMap
