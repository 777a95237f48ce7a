import CloudOS.Orchestrator.TaskTenants

/-!
# Tasks created without a name

`CreateTask` makes up the name of a task that is sent without one.  The part
that should be random is not: `randString` takes the letters in their order, and
every such task of a tenant gets the same name.
-/

set_option autoImplicit false

namespace CloudOS.Orchestrator.UnnamedTasks

open CloudOS.Kubernetes.Objects
open CloudOS.Lib.History
open CloudOS.Lib.HttpHandlers
open CloudOS.Orchestrator.ApiRouter
open CloudOS.Orchestrator.CloudTaskReconcile
open CloudOS.Orchestrator.HttpAuth
open CloudOS.Orchestrator.TaskHandler
open CloudOS.Orchestrator.TaskPages
open CloudOS.Orchestrator.TaskTenants
open CloudOS.Orchestrator.TaskValidator

/-- A valid request to create a task without a name, on a healthy server. -/
structure UnnamedRequest (b : Backend) where
  request : HttpRequest
  ctx : Context
  env : KubeEnv
  tenantID : String
  req : CreateCloudTaskRequest
  token : getTenantIDFromContext ctx = .ok tenantID
  valid : decodeRequest b request = .ok req
  own : req.tenantID = tenantID
  unnamed : req.name = ""
  healthy : env.create = none

section Requests
variable {b : Backend}

def UnnamedRequest.generated (r : UnnamedRequest b) : String := newTaskID r.req

def UnnamedRequest.task (r : UnnamedRequest b) : StoredTask :=
  newCloudTask r.tenantID r.generated r.req

/-- The server takes the spec, apart from what else it has. -/
def UnnamedRequest.Admissible (r : UnnamedRequest b) : Prop :=
  ∃ spec, b.admission r.task.key r.task.spec = .ok spec

def respond (cluster : Cluster) (r : UnnamedRequest b) : Written × Cluster :=
  handle b ⟨.createTask, r.request, r.ctx, r.env⟩ cluster

def step (cluster : Cluster) (r : UnnamedRequest b) : Cluster := (respond cluster r).2

def statusOf (written : Written) : Option Nat :=
  written.writes.findSome? fun write =>
    match write with
    | .status code => some code
    | _ => none

/-- Every request is answered 201, and the generated names are distinct within
each tenant and valid. -/
structure NeverCollide (cluster : Cluster) (requests : List (UnnamedRequest b)) : Prop where
  created : ∀ entry ∈ history step cluster requests,
    statusOf (respond entry.1 entry.2).1 = some 201
  distinct : (requests.map fun r => (r.tenantID, r.generated)).Nodup
  valid : ∀ r ∈ requests, validateTaskID r.generated = none

/-! ## One request -/

theorem generated_eq (r : UnnamedRequest b) : r.generated = "task-abcdef01" := by
  rw [UnnamedRequest.generated, newTaskID, if_pos r.unnamed]
  decide

theorem generated_valid (r : UnnamedRequest b) : validateTaskID r.generated = none := by
  rw [generated_eq]
  decide +kernel

theorem respond_eq (cluster : Cluster) (r : UnnamedRequest b) :
    respond cluster r =
      ((createReply (kubeCreate b r.env r.task cluster).1).written b.showTime,
        (kubeCreate b r.env r.task cluster).2) := by
  have replied : createTask b r.env r.tenantID r.request cluster =
      (createReply (kubeCreate b r.env r.task cluster).1,
        (kubeCreate b r.env r.task cluster).2) := by
    unfold createTask
    rw [r.valid]
    simp only [r.own, ne_eq, not_true_eq_false, if_false]
    rw [show validateTaskID (newTaskID r.req) = none from generated_valid r]
    rfl
  unfold respond handle taskHandler
  rw [r.token]
  simp only [reply, replied]
  rfl

def Free (cluster : Cluster) (tenantID : String) : Prop :=
  (cluster (tenantNamespace tenantID)).find? "task-abcdef01" = none

theorem statusOf_createReply_error (err : ApiError) :
    statusOf ((createReply (.error err)).written b.showTime) ≠ some 201 := by
  simp only [createReply]
  by_cases taken : err.reason = .alreadyExists
  · rw [if_pos taken]
    exact fun same => by cases same
  · rw [if_neg taken]
    exact fun same => by cases same

theorem serverCreate_cases (env : KubeEnv) (task : StoredTask) (tasks : Tasks task.key.ns) :
    (∃ spec stored left, b.admission task.key task.spec = .ok spec ∧
        tasks.find? task.key.name = none ∧ left.find? task.key.name ≠ none ∧
        serverCreate b env task tasks = .ok (stored, left)) ∨
      ¬ ((∃ spec, b.admission task.key task.spec = .ok spec) ∧
          tasks.find? task.key.name = none) ∧
        ∃ err, serverCreate b env task tasks = .error err := by
  unfold serverCreate Tasks.create
  cases admitted : b.admission task.key task.spec with
  | error err =>
      refine .inr ⟨?_, err, rfl⟩
      rintro ⟨⟨spec, accepted⟩, _⟩
      cases accepted
  | ok spec =>
      by_cases fresh : tasks.find? task.key.name = none
      · simp only [dif_pos fresh]
        refine .inl ⟨spec, _, _, rfl, fresh, ?_, rfl⟩
        simp [Tasks.find?]
      · simp only [dif_neg fresh]
        exact .inr ⟨fun both => fresh both.2, _, rfl⟩

theorem kubeCreate_cases (cluster : Cluster) (r : UnnamedRequest b) :
    (∃ stored left, r.Admissible ∧ Free cluster r.tenantID ∧
        left.find? "task-abcdef01" ≠ none ∧
        kubeCreate b r.env r.task cluster =
          (.ok stored, Function.update cluster (tenantNamespace r.tenantID) left)) ∨
      ¬ (r.Admissible ∧ Free cluster r.tenantID) ∧
        ∃ err, kubeCreate b r.env r.task cluster = (.error err, cluster) := by
  have named : r.task.key.name = "task-abcdef01" := generated_eq r
  unfold kubeCreate
  rw [r.healthy]
  rcases serverCreate_cases r.env r.task (cluster r.task.key.ns) with
    ⟨spec, stored, left, admitted, free, present, created⟩ | ⟨refused, err, failed⟩
  · rw [named] at free present
    refine .inl ⟨stored, left, ⟨spec, admitted⟩, free, present, ?_⟩
    rw [created]
    rfl
  · rw [named] at refused
    refine .inr ⟨refused, err, ?_⟩
    rw [failed]
    rfl

theorem created_iff (cluster : Cluster) (r : UnnamedRequest b) :
    statusOf (respond cluster r).1 = some 201 ↔ r.Admissible ∧ Free cluster r.tenantID := by
  rw [respond_eq]
  rcases kubeCreate_cases cluster r with
    ⟨stored, left, admissible, free, _, created⟩ | ⟨refused, err, failed⟩
  · rw [created]
    exact ⟨fun _ => ⟨admissible, free⟩, fun _ => rfl⟩
  · rw [failed]
    exact ⟨fun answered => absurd answered (statusOf_createReply_error err),
      fun both => absurd both refused⟩

theorem free_step_iff {cluster : Cluster} {r : UnnamedRequest b}
    (created : r.Admissible ∧ Free cluster r.tenantID) (tenantID : String) :
    Free (step cluster r) tenantID ↔ tenantID ≠ r.tenantID ∧ Free cluster tenantID := by
  rw [step, respond_eq]
  rcases kubeCreate_cases cluster r with ⟨stored, left, _, _, present, done⟩ | ⟨refused, _⟩
  · rw [done]
    show (Function.update cluster (tenantNamespace r.tenantID) left
      (tenantNamespace tenantID)).find? "task-abcdef01" = none ↔ _
    by_cases same : tenantID = r.tenantID
    · subst same
      rw [Function.update_self]
      exact ⟨fun free => absurd free present, fun both => absurd rfl both.1⟩
    · have apart : tenantNamespace tenantID ≠ tenantNamespace r.tenantID :=
        fun equal => same (tenantNamespace_injective equal)
      rw [Function.update_of_ne apart]
      exact ⟨fun free => ⟨same, free⟩, fun both => both.2⟩
  · exact absurd created refused

/-! ## Every sequence of requests -/

theorem all_created_iff (cluster : Cluster) (requests : List (UnnamedRequest b)) :
    (∀ entry ∈ history step cluster requests, statusOf (respond entry.1 entry.2).1 = some 201) ↔
      (∀ r ∈ requests, r.Admissible ∧ Free cluster r.tenantID) ∧
        (requests.map UnnamedRequest.tenantID).Nodup := by
  induction requests generalizing cluster with
  | nil => simp [history]
  | cons r rest ih =>
      simp only [history, List.forall_mem_cons, List.map_cons, List.nodup_cons]
      rw [created_iff, ih]
      constructor
      · rintro ⟨first, later, distinct⟩
        have others := fun other member =>
          (free_step_iff first other.tenantID).mp (later other member).2
        refine ⟨⟨first, fun other member => ⟨(later other member).1, (others other member).2⟩⟩,
          ?_, distinct⟩
        intro again
        obtain ⟨other, member, same⟩ := List.mem_map.mp again
        exact (others other member).1 same
      · rintro ⟨⟨first, later⟩, notAgain, distinct⟩
        refine ⟨first, ?_, distinct⟩
        intro other member
        have apart : other.tenantID ≠ r.tenantID :=
          fun same => notAgain (List.mem_map.mpr ⟨other, member, same⟩)
        exact ⟨(later other member).1,
          (free_step_iff first other.tenantID).mpr ⟨apart, (later other member).2⟩⟩

/-- Unnamed tasks never collide exactly when no tenant sends two of them or has
one already, of specs that the server takes. -/
theorem never_collide_iff (b : Backend) (cluster : Cluster) (requests : List (UnnamedRequest b)) :
    NeverCollide cluster requests ↔
      (∀ r ∈ requests, r.Admissible ∧ Free cluster r.tenantID) ∧
        (requests.map UnnamedRequest.tenantID).Nodup := by
  constructor
  · intro never
    exact (all_created_iff cluster requests).mp never.created
  · intro once
    refine ⟨(all_created_iff cluster requests).mpr once, ?_, fun r _ => generated_valid r⟩
    have pairs : requests.map (fun r => (r.tenantID, r.generated)) =
        (requests.map UnnamedRequest.tenantID).map fun tenantID => (tenantID, "task-abcdef01") := by
      rw [List.map_map]
      exact List.map_congr_left fun r _ => congrArg (r.tenantID, ·) (generated_eq r)
    rw [pairs]
    exact once.2.map fun first second same => congrArg Prod.fst same

end Requests

/-! ## Two tasks of one tenant -/

def unnamedBody (tenantID : String) : CreateCloudTaskRequest where
  name := ""
  image := "busybox"
  command := ["true"]
  args := []
  tenantID := tenantID
  resources := none
  retries := 0
  timeout := ""
  priority := 10

/-- A body is the id of the tenant it is for. -/
def unnamedBackend : Backend := { plainBackend with unmarshal := fun body => .ok (unnamedBody body) }

theorem unnamedBody_valid (tenantID : String) :
    validateCreateTaskRequest (unnamedBody tenantID) = [] := by
  have forA : validateCreateTaskRequest (unnamedBody "a") = [] := by decide +kernel
  exact forA

theorem decodeRequest_of_valid {b : Backend} {r : HttpRequest} {body : String}
    {req : CreateCloudTaskRequest} (read : r.body = .ok body) (decoded : b.unmarshal body = .ok req)
    (valid : validateCreateTaskRequest req = []) : decodeRequest b r = .ok req := by
  unfold decodeRequest
  rw [read]
  simp only [decoded, valid, List.length_nil, gt_iff_lt, Nat.lt_irrefl, if_false]

def unnamedFrom (tenantID : String) : UnnamedRequest unnamedBackend where
  request := { listRequest 0 with method := "POST", body := .ok tenantID }
  ctx := ⟨none, some ⟨tenantID, "", "", []⟩⟩
  env := .healthy 0
  tenantID := tenantID
  req := unnamedBody tenantID
  token := rfl
  valid := decodeRequest_of_valid rfl rfl (unnamedBody_valid tenantID)
  own := rfl
  unnamed := rfl
  healthy := rfl

/-- The second task of a tenant is refused. -/
theorem second_unnamed_refused :
    ((history step noTasks [unnamedFrom "a", unnamedFrom "a"]).map
        fun entry => statusOf (respond entry.1 entry.2).1) = [some 201, some 409] ∧
      ¬ NeverCollide noTasks [unnamedFrom "a", unnamedFrom "a"] := by
  have statuses : ((history step noTasks [unnamedFrom "a", unnamedFrom "a"]).map
      fun entry => statusOf (respond entry.1 entry.2).1) = [some 201, some 409] := by
    decide +kernel
  refine ⟨statuses, ?_⟩
  intro never
  exact absurd never.distinct (by decide +kernel)

end CloudOS.Orchestrator.UnnamedTasks
