import CloudOS.TaskScheduler.DeadlockDetector
import CloudOS.TaskScheduler.PriorityQueue
import CloudOS.TaskScheduler.Resources

/-!
# The scheduler API

The endpoints of `scheduler/scheduler_api.py` that create, hand out and
reschedule tasks, over the global objects of the module.  Requests are handled
one at a time.  The JSON that goes to Redis is read by nobody here and is left
out; whether Redis can be reached and takes it is part of the request's
environment.
-/

set_option autoImplicit false

namespace CloudOS.TaskScheduler.SchedulerApi

open CloudOS.TaskScheduler.DeadlockDetector
open CloudOS.TaskScheduler.PriorityQueue
open CloudOS.TaskScheduler.Resources

structure SubmitTaskRequest where
  taskId : String
  command : String
  priority : String
  algorithm : String
  cpuRequest : ℚ
  memoryRequest : ℚ
  estimatedDuration : Int
  dependsOn : List String

/-- The defaults of the request model. -/
def SubmitTaskRequest.minimal (taskId command : String) : SubmitTaskRequest :=
  ⟨taskId, command, "medium", "mlfq", 1 / 2, 256, 30, []⟩

/-- `time.time()`, and how Redis behaves: whether a first connection is
answered, and whether the push raises. -/
structure SubmitEnv where
  now : ℚ
  pingOk : Bool
  pushRaises : Bool

inductive Request where
  | submitTask (req : SubmitTaskRequest) (env : SubmitEnv)
  | getNextTask
  | changeAlgorithm (algorithm : String)

structure TaskView where
  taskId : String
  command : String
  priority : Int
  estimatedDuration : Int
  deriving DecidableEq, Repr

/-- `deadlock cycle` is the text "Deadlock detected! Cycle: {cycle}". -/
inductive Detail where
  | deadlock (cycle : Option (List String))
  | message (text : String)
  deriving DecidableEq, Repr

/-- `serverError` is an exception that no endpoint catches. -/
inductive Response where
  | queued (taskId : String) (node : Option String) (priority algorithm : String)
  | task (view : TaskView)
  | algorithmChanged (algorithm : String)
  | httpError (status : Nat) (detail : Detail)
  | serverError (err : PyError)
  deriving DecidableEq, Repr

inductive OrderResponse where
  | executionOrder (order : List String)
  | httpError (status : Nat) (detail : Detail)
  deriving DecidableEq, Repr

/-- The globals of the module; `redisClient` is whether there is a client. -/
structure ApiState where
  scheduler : Scheduler
  detector : DiGraph
  allocator : ResourceAllocator
  redisClient : Bool

def defaultAllocator : ResourceAllocator :=
  ((ResourceAllocator.empty.addNode "node-1" 4 4096).addNode "node-2" 4 4096).addNode
    "node-3" 8 8192

def ApiState.initial : ApiState := ⟨getScheduler "mlfq", .empty, defaultAllocator, false⟩

def priorityOf (text : String) : Priority :=
  if text.toLower = "critical" then .critical
  else if text.toLower = "high" then .high
  else if text.toLower = "medium" then .medium
  else if text.toLower = "low" then .low
  else .medium

def taskOf (req : SubmitTaskRequest) (now : ℚ) : Task :=
  ⟨(priorityOf req.priority).toInt, now, req.taskId, req.command, req.cpuRequest,
    req.memoryRequest, req.estimatedDuration, 30⟩

def Task.view (task : Task) : TaskView :=
  ⟨task.taskId, task.command, task.priority, task.estimatedDuration⟩

section Endpoints
variable (findCycle : DiGraph → Option (List Edge))

/-- `get_redis` connects once and keeps the client. -/
def getRedis (s : ApiState) (env : SubmitEnv) : Bool := s.redisClient || env.pingOk

/-- The task goes into a scheduler made for this request, which nobody else
has a reference to. -/
def enqueueAndPush (req : SubmitTaskRequest) (env : SubmitEnv) (node : Option String)
    (s : ApiState) : Response × ApiState :=
  match (getScheduler req.algorithm).enqueue (taskOf req env.now) with
  | .error err => (.serverError err, s)
  | .ok _ =>
      if getRedis s env ∧ env.pushRaises then
        (.serverError .redisError, { s with redisClient := getRedis s env })
      else
        (.queued req.taskId node req.priority req.algorithm,
          { s with redisClient := getRedis s env })

/-- The cycle in the answer is looked for after the task has been removed. -/
def submitTask (req : SubmitTaskRequest) (env : SubmitEnv) (s : ApiState) :
    Response × ApiState :=
  let graph := addTask s.detector req.taskId req.dependsOn
  if hasDeadlock findCycle graph then
    let removed := removeTask graph req.taskId
    (.httpError 400 (.deadlock (getCycle findCycle removed)), { s with detector := removed })
  else
    let (result, allocator) :=
      allocate s.allocator req.taskId req.cpuRequest req.memoryRequest "best_fit"
    let s := { s with detector := graph, allocator := allocator }
    if !result.success then (.httpError 507 (.message result.message), s)
    else enqueueAndPush req env result.nodeId s

def getNextTask (s : ApiState) : Response × ApiState :=
  match s.scheduler.dequeue with
  | .error err => (.serverError err, s)
  | .ok (none, scheduler) =>
      (.httpError 404 (.message "No tasks in queue"), { s with scheduler := scheduler })
  | .ok (some task, scheduler) => (.task (Task.view task), { s with scheduler := scheduler })

def executionOrder (topologicalSort : DiGraph → List String) (s : ApiState) : OrderResponse :=
  match getExecutionOrder findCycle topologicalSort s.detector with
  | none => .httpError 400 (.message "Deadlock detected!")
  | some order => .executionOrder order

/-- The old scheduler object is dropped with what it holds. -/
def changeAlgorithm (algorithm : String) (s : ApiState) : Response × ApiState :=
  (.algorithmChanged algorithm, { s with scheduler := getScheduler algorithm })

def serve (s : ApiState) : Request → Response × ApiState
  | .submitTask req env => submitTask findCycle req env s
  | .getNextTask => getNextTask s
  | .changeAlgorithm algorithm => changeAlgorithm algorithm s

end Endpoints

/-! ## What a submission does -/

section Submission
variable {findCycle : DiGraph → Option (List Edge)} {s : ApiState} {req : SubmitTaskRequest}

def extended (s : ApiState) (req : SubmitTaskRequest) : DiGraph :=
  addTask s.detector req.taskId req.dependsOn

def placement (s : ApiState) (req : SubmitTaskRequest) : Option Node :=
  chosenNode s.allocator req.cpuRequest req.memoryRequest "best_fit"

theorem submitTask_deadlock (env : SubmitEnv)
    (cycle : hasDeadlock findCycle (extended s req) = true) :
    submitTask findCycle req env s =
      (.httpError 400 (.deadlock (getCycle findCycle (removeTask (extended s req) req.taskId))),
        { s with detector := removeTask (extended s req) req.taskId }) := by
  unfold extended at cycle ⊢
  simp only [submitTask, cycle, if_true]

theorem submitTask_noRoom (env : SubmitEnv)
    (noCycle : hasDeadlock findCycle (extended s req) = false) (full : placement s req = none) :
    submitTask findCycle req env s =
      (.httpError 507 (.message ("No node has enough resources for " ++ req.taskId)),
        { s with detector := extended s req }) := by
  unfold extended at noCycle ⊢
  simp [submitTask, noCycle, allocate_none full]

theorem submitTask_placed (env : SubmitEnv)
    (noCycle : hasDeadlock findCycle (extended s req) = false) {node : Node}
    (room : placement s req = some node) :
    submitTask findCycle req env s =
      enqueueAndPush req env (some node.nodeId)
        { s with
          detector := extended s req
          allocator :=
            s.allocator.charge req.taskId node.nodeId req.cpuRequest req.memoryRequest } := by
  unfold extended at noCycle ⊢
  simp [submitTask, noCycle, allocate_some room]

end Submission

theorem getNextTask_frame (s : ApiState) :
    (getNextTask s).2.detector = s.detector ∧ (getNextTask s).2.allocator = s.allocator := by
  unfold getNextTask
  split <;> exact ⟨rfl, rfl⟩

end CloudOS.TaskScheduler.SchedulerApi
