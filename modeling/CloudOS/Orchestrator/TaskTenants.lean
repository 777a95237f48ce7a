import CloudOS.Lib.LocalOps
import CloudOS.Orchestrator.TaskPages

/-!
# The task handlers between tenants

A tenant's requests read and write the namespace of that tenant and no other, so
what others do does not show in the answers.  The tasks of one's own namespace
are another matter: they may be somebody else's by their spec, and `ListTasks`
does not look at that.
-/

set_option autoImplicit false

namespace CloudOS.Orchestrator.TaskTenants

open CloudOS.Kubernetes.Objects
open CloudOS.Lib.History
open CloudOS.Lib.HttpHandlers
open CloudOS.Lib.LocalOps
open CloudOS.Orchestrator.ApiRouter
open CloudOS.Orchestrator.CloudTaskReconcile
open CloudOS.Orchestrator.HttpAuth
open CloudOS.Orchestrator.TaskHandler
open CloudOS.Orchestrator.TaskPages
open CloudOS.Orchestrator.TaskValidator

theorem tenantNamespace_injective {tenantID other : String}
    (same : tenantNamespace tenantID = tenantNamespace other) : tenantID = other := by
  have texts := congrArg String.toList same
  simp only [tenantNamespace, String.toList_append] at texts
  exact String.toList_inj.mp (List.append_cancel_left texts)

/-! ## Every endpoint is local to the tenant's namespace -/

section Client
variable (b : Backend) (env : KubeEnv)

theorem kubeGet_same {key : ObjectKey} {cluster cluster' : Cluster}
    (same : cluster key.ns = cluster' key.ns) :
    kubeGet env key cluster = kubeGet env key cluster' := by
  rw [kubeGet, kubeGet, same]

theorem kubeGet_mem {key : ObjectKey} {cluster : Cluster} {task : StoredTask}
    (got : kubeGet env key cluster = .ok task) : task ∈ (cluster key.ns).items := by
  unfold kubeGet at got
  split at got
  next => cases got
  next => cases got
  next found =>
    obtain rfl := Except.ok.inj got
    exact (Tasks.find?_mem found).1

theorem kubeWrite_local {α : Type} {ns : String} (fault : Option Fault)
    (result : Except ApiError (α × Tasks ns)) : Local ns (kubeWrite fault result) := by
  cases result with
  | error err => cases fault <;> exact .answer _ _
  | ok done =>
      cases fault with
      | none => exact .set _ _ _
      | some fault =>
          obtain ⟨error, applied⟩ := fault
          cases applied with
          | false => exact .answer _ _
          | true => exact .set _ _ _

theorem kubeCreate_local (task : StoredTask) : Local task.key.ns (kubeCreate b env task) := by
  have only : ∀ {cluster cluster' : Cluster}, cluster task.key.ns = cluster' task.key.ns →
      serverCreate b env task (cluster task.key.ns) =
        serverCreate b env task (cluster' task.key.ns) := fun same => by rw [same]
  change Local task.key.ns fun cluster =>
    kubeWrite env.create (serverCreate b env task (cluster task.key.ns)) cluster
  exact Local.read only fun cluster => kubeWrite_local env.create _

theorem kubeDelete_local (key : ObjectKey) : Local key.ns (kubeDelete env key) := by
  have only : ∀ {cluster cluster' : Cluster}, cluster key.ns = cluster' key.ns →
      ((cluster key.ns).delete key.name env.now).map (fun left => ((), left)) =
        ((cluster' key.ns).delete key.name env.now).map fun left => ((), left) :=
    fun same => by rw [same]
  change Local key.ns fun cluster => kubeWrite env.delete
    (((cluster key.ns).delete key.name env.now).map fun left => ((), left)) cluster
  exact Local.read only fun cluster => kubeWrite_local env.delete _

end Client

section Endpoints
variable (b : Backend) (env : KubeEnv) (tenantID : String) (r : HttpRequest)

theorem createTask_local : Local (tenantNamespace tenantID) (createTask b env tenantID r) := by
  unfold createTask
  cases decodeRequest b r with
  | error refusal => exact .answer _ _
  | ok req =>
      by_cases foreign : req.tenantID ≠ tenantID
      · simp only [if_pos foreign]
        exact .answer _ _
      · simp only [if_neg foreign]
        cases validateTaskID (newTaskID req) with
        | some err => exact .answer _ _
        | none =>
            have create := kubeCreate_local b env (newCloudTask tenantID (newTaskID req) req)
            exact create.map createReply

theorem listTasks_same {cluster cluster' : Cluster}
    (same : cluster (tenantNamespace tenantID) = cluster' (tenantNamespace tenantID)) :
    listTasks b env tenantID r cluster = listTasks b env tenantID r cluster' := by
  unfold listTasks kubeList
  rw [same]

theorem ownTask_same {cluster cluster' : Cluster}
    (same : cluster (tenantNamespace tenantID) = cluster' (tenantNamespace tenantID))
    (failed forbidden : String) :
    ownTask env tenantID r cluster failed forbidden =
      ownTask env tenantID r cluster' failed forbidden := by
  have calls : kubeGet env ⟨tenantNamespace tenantID, taskIDOf r⟩ cluster =
      kubeGet env ⟨tenantNamespace tenantID, taskIDOf r⟩ cluster' := kubeGet_same env same
  unfold ownTask
  rw [calls]

/-- The check that all endpoints of a single task share: a refusal tells of no task,
and a task that passes is in the namespace and is the tenant's own. -/
theorem ownTask_result (cluster : Cluster) (failed forbidden : String) :
    (∃ refusal, ownTask env tenantID r cluster failed forbidden = .error refusal ∧
        refusal.describes = []) ∨
      ∃ task, ownTask env tenantID r cluster failed forbidden = .ok task ∧
        task ∈ (cluster (tenantNamespace tenantID)).items ∧ task.spec.tenantID = tenantID := by
  rcases ownTask_cases env tenantID r cluster failed forbidden with
    ⟨_, _, refused⟩ | ⟨_, ⟨_, _, _, refused⟩ | ⟨_, _, _, refused⟩ | ⟨_, _, _, refused⟩ |
      ⟨found, got, own, accepted⟩⟩
  · exact .inl ⟨_, refused, rfl⟩
  · exact .inl ⟨_, refused, rfl⟩
  · exact .inl ⟨_, refused, rfl⟩
  · exact .inl ⟨_, refused, rfl⟩
  · exact .inr ⟨found, accepted, kubeGet_mem env got, own⟩

theorem getTask_same {cluster cluster' : Cluster}
    (same : cluster (tenantNamespace tenantID) = cluster' (tenantNamespace tenantID)) :
    getTask env tenantID r cluster = getTask env tenantID r cluster' := by
  unfold getTask
  rw [ownTask_same env tenantID r same]

theorem getTaskLogs_same {cluster cluster' : Cluster}
    (same : cluster (tenantNamespace tenantID) = cluster' (tenantNamespace tenantID)) :
    getTaskLogs env tenantID r cluster = getTaskLogs env tenantID r cluster' := by
  unfold getTaskLogs
  rw [ownTask_same env tenantID r same]

theorem deleteTask_local : Local (tenantNamespace tenantID) (deleteTask env tenantID r) := by
  -- the task that is deleted stands in the namespace it was found in
  have own : ∀ (cluster : Cluster) task,
      ownTask env tenantID r cluster "Failed to delete task"
        "Cannot delete tasks from other tenants" = .ok task →
      Local (tenantNamespace tenantID) (fun cluster : Cluster =>
        (deleteReply (kubeDelete env task.key cluster).1, (kubeDelete env task.key cluster).2)) := by
    intro cluster task found
    have member : task ∈ (cluster (tenantNamespace tenantID)).items := by
      rcases ownTask_result env tenantID r cluster "Failed to delete task"
          "Cannot delete tasks from other tenants" with ⟨_, refused, _⟩ | ⟨_, accepted, member, _⟩
      · rw [refused] at found
        cases found
      · obtain rfl := Except.ok.inj (accepted.symm.trans found)
        exact member
    have here : task.key.ns = tenantNamespace tenantID :=
      (cluster (tenantNamespace tenantID)).placed task member
    rw [← here]
    exact (kubeDelete_local env task.key).map deleteReply
  constructor
  · intro cluster cluster' same
    unfold deleteTask
    rw [← ownTask_same env tenantID r same]
    cases found : ownTask env tenantID r cluster "Failed to delete task"
        "Cannot delete tasks from other tenants" with
    | error refusal => exact ⟨rfl, same⟩
    | ok task => exact (own cluster task found).reads same
  · intro cluster other apart
    unfold deleteTask
    cases found : ownTask env tenantID r cluster "Failed to delete task"
        "Cannot delete tasks from other tenants" with
    | error refusal => rfl
    | ok task => exact (own cluster task found).writes cluster apart

theorem reply_local (endpoint : TaskEndpoint) :
    Local (tenantNamespace tenantID) (fun cluster => reply b env tenantID r cluster endpoint) := by
  cases endpoint with
  | createTask => exact createTask_local b env tenantID r
  | listTasks => exact .look (listTasks_same b env tenantID r)
  | getTask => exact .look (getTask_same env tenantID r)
  | deleteTask => exact deleteTask_local env tenantID r
  | getTaskLogs => exact .look (getTaskLogs_same env tenantID r)

end Endpoints

/-! ## Runs -/

structure TaskRequest where
  endpoint : TaskEndpoint
  request : HttpRequest
  ctx : Context
  env : KubeEnv

def TaskRequest.tenantID (op : TaskRequest) : Option String :=
  op.ctx.claims.map fun claims => claims.tenantID

def TaskRequest.isOf (tenantID : String) (op : TaskRequest) : Bool :=
  decide (op.tenantID = some tenantID)

def handle (b : Backend) (op : TaskRequest) (cluster : Cluster) : Written × Cluster :=
  let served := taskHandler b op.env op.endpoint op.request op.ctx cluster
  (⟨served.writes, served.panic⟩, served.world)

def responses (b : Backend) (tenantID : String) (cluster : Cluster) (ops : List TaskRequest) :
    List Written :=
  observed (fun cluster op => some (handle b op cluster).1) (TaskRequest.isOf tenantID)
    (fun cluster op => (handle b op cluster).2) cluster ops

def TaskRequest.ns (op : TaskRequest) : Option String := op.tenantID.map tenantNamespace

theorem isOf_eq (tenantID : String) :
    TaskRequest.isOf tenantID = fun op => decide (op.ns = some (tenantNamespace tenantID)) := by
  funext op
  rw [TaskRequest.isOf, TaskRequest.ns, decide_eq_decide]
  cases op.tenantID with
  | none => simp
  | some other =>
      constructor
      · intro same
        rw [Option.some.inj same, Option.map_some]
      · intro same
        rw [tenantNamespace_injective (Option.some.inj same)]

theorem handle_local (b : Backend) (op : TaskRequest) (ns : String) (given : op.ns = some ns) :
    Local ns (handle b op) := by
  obtain ⟨endpoint, request, ⟨requestID, claims⟩, env⟩ := op
  cases claims with
  | none => cases given
  | some claims =>
      obtain rfl := Option.some.inj given
      exact (reply_local b env claims.tenantID request endpoint).map
        fun answered => answered.written b.showTime

theorem handle_noTenant (b : Backend) (op : TaskRequest) (cluster : Cluster)
    (missing : op.ns = none) : (handle b op cluster).2 = cluster := by
  obtain ⟨endpoint, request, ⟨requestID, claims⟩, env⟩ := op
  cases claims with
  | none => rfl
  | some claims => cases missing

/-- A tenant gets the same responses in the run without the requests of others. -/
theorem responses_without_others (b : Backend) (tenantID : String) (cluster : Cluster)
    (ops : List TaskRequest) :
    responses b tenantID cluster ops =
      responses b tenantID cluster (ops.filter (TaskRequest.isOf tenantID)) := by
  unfold responses
  rw [isOf_eq]
  exact observed_own (handle_local b) (handle_noTenant b) (tenantNamespace tenantID) cluster ops

/-! ## Reading -/

def readEndpoints : List TaskEndpoint := [.listTasks, .getTask, .getTaskLogs]

section Reads
variable (b : Backend) (tenantID : String) (cluster : Cluster)

theorem ownTask_describes (env : KubeEnv) (r : HttpRequest) (failed forbidden : String)
    {found : StoredTask → Reply} (about : ∀ task, (found task).describes = [task]) :
    ∀ task ∈ (answerOwn found (ownTask env tenantID r cluster failed forbidden)).describes,
      task.spec.tenantID = tenantID := by
  intro task described
  rcases ownTask_result env tenantID r cluster failed forbidden with
    ⟨refusal, refused, silent⟩ | ⟨cloudTask, accepted, _, own⟩
  · rw [refused, answerOwn, silent] at described
    cases described
  · rw [accepted, answerOwn, about] at described
    obtain rfl := List.mem_singleton.mp described
    exact own

theorem getTask_own (env : KubeEnv) (r : HttpRequest) :
    ∀ task ∈ (getTask env tenantID r cluster).describes, task.spec.tenantID = tenantID :=
  ownTask_describes tenantID cluster env r _ _ fun _ => rfl

theorem getTaskLogs_own (env : KubeEnv) (r : HttpRequest) :
    ∀ task ∈ (getTaskLogs env tenantID r cluster).describes, task.spec.tenantID = tenantID := by
  unfold getTaskLogs
  split
  next short =>
    intro task described
    cases described
  next =>
    apply ownTask_describes
    intro task
    unfold logsReply
    split
    next => rfl
    next => rfl

theorem listTasks_describes (env : KubeEnv) (r : HttpRequest) :
    ∀ task ∈ (listTasks b env tenantID r cluster).describes,
      task ∈ (cluster (tenantNamespace tenantID)).items := by
  intro task described
  unfold listTasks kubeList at described
  cases known : validateStatus (r.queryGet "status") with
  | some err => simp [known, Reply.describes] at described
  | none =>
      cases failing : env.list with
      | some err => simp [known, failing, Reply.describes] at described
      | none =>
          simp only [known, failing, Reply.describes, pageOf_eq] at described
          have filtered := List.mem_of_mem_drop (List.mem_of_mem_take described)
          have fetched := (List.mem_filter.mp filtered).1
          have within : task ∈ b.arrange (cluster (tenantNamespace tenantID)).items := by
            split at fetched
            next => exact fetched
            next => exact List.mem_of_mem_take fetched
          exact (b.arranged _).mem_iff.mp within

theorem listTasks_shows {task : StoredTask}
    (member : task ∈ (cluster (tenantNamespace tenantID)).items)
    (fits : ((cluster (tenantNamespace tenantID)).items.length : Int) ≤ maxInt)
    (base : HttpRequest) :
    ∃ offset, task ∈
      (listTasks b (.healthy 0) tenantID (pageRequest base "" 1 offset) cluster).describes := by
  have inListing : task ∈ listed b tenantID cluster := (b.arranged _).mem_iff.mpr member
  obtain ⟨offset, inside, here⟩ := List.getElem_of_mem inListing
  have length : (listed b tenantID cluster).length =
      (cluster (tenantNamespace tenantID)).items.length := (b.arranged _).length_eq
  have small : (offset : Int) ≤ maxInt := by omega
  refine ⟨offset, ?_⟩
  rw [listTasks_pageRequest b tenantID cluster 0 base rfl (by decide) (by decide) small]
  have all : ∀ tasks : List StoredTask, tasks.filter (hasStatus "") = tasks := fun tasks =>
    List.filter_eq_self.mpr fun _ _ => rfl
  rw [Reply.describes, all]
  have head : task ∈ ((listed b tenantID cluster).drop offset).take 1 := by
    rw [List.drop_eq_getElem_cons inside, here]
    simp
  rcases fetched_cases Nat.one_pos (by decide) small (listed b tenantID cluster) with
    part | whole
  · rw [part, List.drop_take, Nat.add_sub_cancel, List.take_take]
    exact head
  · rw [whole]
    exact head

/-- A tenant reads only tasks of its own exactly when its namespace holds no
others. -/
theorem reads_own_iff (fits : ((cluster (tenantNamespace tenantID)).items.length : Int) ≤ maxInt) :
    (∀ env r, ∀ endpoint ∈ readEndpoints,
        ∀ task ∈ (reply b env tenantID r cluster endpoint).1.describes,
          task.spec.tenantID = tenantID) ↔
      ∀ task ∈ (cluster (tenantNamespace tenantID)).items, task.spec.tenantID = tenantID := by
  constructor
  · intro own task member
    obtain ⟨offset, shown⟩ := listTasks_shows b tenantID cluster member fits (listRequest 0)
    exact own (.healthy 0) (pageRequest (listRequest 0) "" 1 offset) .listTasks
      List.mem_cons_self task shown
  · intro own env r endpoint reading task described
    simp only [readEndpoints, List.mem_cons, List.not_mem_nil, or_false] at reading
    rcases reading with rfl | rfl | rfl
    · exact own task (listTasks_describes b tenantID cluster env r task described)
    · exact getTask_own tenantID cluster env r task described
    · exact getTaskLogs_own tenantID cluster env r task described

end Reads

/-! ## A task of another tenant in the namespace -/

def foreignTask : StoredTask :=
  let task := taskWithPhase "stray" .running
  { task with spec := { task.spec with tenantID := "b" } }

def strayCluster : Cluster :=
  Function.update noTasks "tenant-a"
    { items := [foreignTask]
      placed := by
        intro task member
        rw [List.mem_singleton.mp member]
        rfl
      distinct := List.nodup_singleton _ }

theorem stray_task_listed :
    ((reply plainBackend (.healthy 0) "a" (listRequest 0) strayCluster .listTasks).1.describes.map
        fun task => (task.key.name, task.spec.tenantID)) = [("stray", "b")] ∧
      ¬ ∀ env r, ∀ endpoint ∈ readEndpoints,
        ∀ task ∈ (reply plainBackend env "a" r strayCluster endpoint).1.describes,
          task.spec.tenantID = "a" := by
  have shown : ((reply plainBackend (.healthy 0) "a" (listRequest 0) strayCluster
      .listTasks).1.describes.map fun task => (task.key.name, task.spec.tenantID)) =
        [("stray", "b")] := by decide +kernel
  refine ⟨shown, ?_⟩
  intro own
  have each := own (.healthy 0) (listRequest 0) .listTasks List.mem_cons_self
  have tenants : ∀ entry ∈ [("stray", "b")], entry.2 = "a" := by
    rw [← shown]
    intro entry member
    obtain ⟨task, described, rfl⟩ := List.mem_map.mp member
    exact each task described
  exact absurd (tenants _ List.mem_cons_self) (by decide)

theorem own_tasks_listed :
    ((twoTaskCluster (tenantNamespace "a")).items.length : Int) ≤ maxInt ∧
      ∀ env r, ∀ endpoint ∈ readEndpoints,
        ∀ task ∈ (reply plainBackend env "a" r twoTaskCluster endpoint).1.describes,
          task.spec.tenantID = "a" := by
  have fits : ((twoTaskCluster (tenantNamespace "a")).items.length : Int) ≤ maxInt := by
    decide +kernel
  refine ⟨fits, (reads_own_iff plainBackend "a" twoTaskCluster fits).mpr ?_⟩
  have own : (twoTaskCluster (tenantNamespace "a")).items.all
      (fun task => decide (task.spec.tenantID = "a")) = true := by decide +kernel
  intro task member
  exact of_decide_eq_true (List.all_eq_true.mp own task member)

end CloudOS.Orchestrator.TaskTenants
