import CloudOS.Lib.History
import CloudOS.Lib.References

/-!
# The mock of the Module 1 scheduler

`module2-orchestrator/pkg/mock/scheduler_service.go`.  The service keeps its tasks
behind pointers.  `SubmitTask` starts a goroutine that holds the pointer of the
task and takes the lock twice; a call of the model is one locked section, with
the reading of the clock it makes.  Log lines are left out, and so is the
connection to Redis: an event is published when `publishEvent` is called.
-/

set_option autoImplicit false

namespace CloudOS.Mock.SchedulerService

open CloudOS.Lib.References

inductive Status where
  | pending
  | running
  | completed
  | failed
  deriving DecidableEq, Repr

def Status.text : Status → String
  | .pending => "Pending"
  | .running => "Running"
  | .completed => "Completed"
  | .failed => "Failed"

def Status.active : Status → Bool
  | .pending => true
  | .running => true
  | .completed => false
  | .failed => false

structure Task where
  id : String
  tenantID : String
  status : Status
  queuePosition : Int32
  startedAt : Nat
  completedAt : Nat
  exitCode : Int
  cpuRequest : String
  memoryRequest : String
  podName : String
  createdAt : Nat
  deriving DecidableEq

def Task.active (task : Task) : Bool := task.status.active

inductive Channel where
  | completed
  | failed
  | cancelled
  deriving DecidableEq, Repr

def Channel.text : Channel → String
  | .completed => "tasks:completed"
  | .failed => "tasks:failed"
  | .cancelled => "tasks:cancelled"

/-- A call of `publishEvent`: the pointer it gets, and the task as it was then. -/
structure Event where
  channel : Channel
  ref : Nat
  task : Task
  timestamp : Nat
  deriving DecidableEq

/-- Where the goroutine of a task is: before its first locked section, between
the two, or at its end. -/
inductive Stage where
  | waiting
  | executing
  | ended
  deriving DecidableEq, Repr

structure Transition where
  ref : Nat
  stage : Stage
  deriving DecidableEq

structure Config where
  delayMS : Int
  failureRate : Int

structure Service where
  tasks : RefStore String Task
  queueDepth : Int32
  transitions : List Transition
  published : List Event

def Service.fresh : Service := ⟨.empty, 0, [], []⟩

/-- The values of the request, as `%v` prints them. -/
structure SubmitRequest where
  taskID : String
  tenantID : String
  cpuRequest : String
  memoryRequest : String

structure SubmitResponse where
  accepted : Bool
  queuePosition : Int32
  estimatedStartSeconds : Int
  reason : String

/-! ## The calls -/

section Calls
variable (config : Config)

def submittedTask (req : SubmitRequest) (now : Nat) (s : Service) : Task where
  id := req.taskID
  tenantID := req.tenantID
  status := .pending
  queuePosition := s.queueDepth + 1
  startedAt := 0
  completedAt := 0
  exitCode := 0
  cpuRequest := req.cpuRequest
  memoryRequest := req.memoryRequest
  podName := req.taskID ++ "-pod-" ++ toString now
  createdAt := now

def submitTask (req : SubmitRequest) (now : Nat) (s : Service) : SubmitResponse × Service :=
  let task := submittedTask req now s
  (⟨true, task.queuePosition, config.delayMS.tdiv 1000, ""⟩,
    { s with
      tasks := s.tasks.alloc req.taskID task
      queueDepth := s.queueDepth + 1
      transitions := s.transitions ++ [⟨s.tasks.heap.length, .waiting⟩] })

def pendingTask (taskID : String) (now : Nat) (s : Service) : Task where
  id := taskID
  tenantID := "system"
  status := .pending
  queuePosition := s.queueDepth + 1
  startedAt := 0
  completedAt := 0
  exitCode := 0
  cpuRequest := ""
  memoryRequest := ""
  podName := taskID ++ "-pod"
  createdAt := now

def addPendingTask (taskID : String) (now : Nat) (s : Service) : Service :=
  { s with
    tasks := s.tasks.alloc taskID (pendingTask taskID now s)
    queueDepth := s.queueDepth + 1 }

def lookup (taskID : String) (s : Service) : Option (Nat × Task) :=
  (s.tasks.ref? taskID).bind fun ref => (s.tasks.get? ref).map fun task => (ref, task)

structure TaskStatus where
  taskID : String
  status : String
  podName : String
  startedAt : Nat
  completedAt : Nat
  exitCode : Int

def getTaskStatus (taskID : String) (s : Service) : Except String TaskStatus :=
  match lookup taskID s with
  | none => .error ("task not found: " ++ taskID)
  | some (_, task) =>
      .ok ⟨task.id, task.status.text, task.podName, task.startedAt, task.completedAt, task.exitCode⟩

def cancelledTask (now : Nat) (task : Task) : Task :=
  { task with status := .failed, completedAt := now, exitCode := 137 }

structure CancelResponse where
  cancelled : Bool
  reason : String
  deriving DecidableEq

/-- The tenant is not looked at. -/
def cancelTask (taskID _tenantID : String) (now : Nat) (s : Service) : CancelResponse × Service :=
  match lookup taskID s with
  | none => (⟨false, "task not found"⟩, s)
  | some (ref, task) =>
      if task.active = false then (⟨false, "cannot cancel " ++ task.status.text ++ " task"⟩, s)
      else
        let cancelled := cancelledTask now task
        (⟨true, ""⟩,
          { s with
            tasks := s.tasks.write ref cancelled
            queueDepth := s.queueDepth - 1
            published := s.published ++ [⟨.cancelled, ref, cancelled, now⟩] })

structure QueueDepth where
  totalQueued : Int32
  pendingTasks : Nat
  runningTasks : Nat

def getQueueDepth (s : Service) : QueueDepth :=
  ⟨s.queueDepth, s.tasks.count (fun task => task.status = .pending),
    s.tasks.count fun task => task.status = .running⟩

/-! ### `scheduleTaskTransition` -/

def runningTask (now : Nat) (task : Task) : Task :=
  { task with status := .running, startedAt := now }

def finishedTask (shouldFail : Bool) (now : Nat) (task : Task) : Task :=
  if shouldFail then { task with status := .failed, completedAt := now, exitCode := 1 }
  else { task with status := .completed, completedAt := now, exitCode := 0 }

/-- `roll` is what `rand.Intn(100)` gives. -/
def shouldFail (roll : Nat) : Bool := config.failureRate > 0 && (roll : Int) < config.failureRate

/-- The next locked section of a goroutine. -/
def scheduleTaskTransition (index roll now : Nat) (s : Service) : Service :=
  match s.transitions[index]? with
  | none => s
  | some transition =>
      match s.tasks.get? transition.ref, transition.stage with
      | some task, .waiting =>
          { s with
            tasks := s.tasks.write transition.ref (runningTask now task)
            transitions := s.transitions.set index ⟨transition.ref, .executing⟩ }
      | some task, .executing =>
          let failing := shouldFail config roll
          let finished := finishedTask failing now task
          { s with
            tasks := s.tasks.write transition.ref finished
            queueDepth := s.queueDepth - 1
            transitions := s.transitions.set index ⟨transition.ref, .ended⟩
            published := s.published ++
              [⟨if failing then .failed else .completed, transition.ref, finished, now⟩] }
      | _, _ => s

end Calls

inductive Call where
  | submitTask (req : SubmitRequest) (now : Nat)
  | addPendingTask (taskID : String) (now : Nat)
  | cancelTask (taskID tenantID : String) (now : Nat)
  | transition (index roll now : Nat)

def step (config : Config) (s : Service) : Call → Service
  | .submitTask req now => (submitTask config req now s).2
  | .addPendingTask taskID now => addPendingTask taskID now s
  | .cancelTask taskID tenantID now => (cancelTask taskID tenantID now s).2
  | .transition index roll now => scheduleTaskTransition config index roll now s

/-! ## What a call can do -/

theorem lookup_some {taskID : String} {s : Service} {ref : Nat} {task : Task}
    (found : lookup taskID s = some (ref, task)) :
    s.tasks.Named ref ∧ s.tasks.get? ref = some task := by
  obtain ⟨found', named, there⟩ := Option.bind_eq_some_iff.mp found
  obtain ⟨task', there', same⟩ := Option.map_eq_some_iff.mp there
  obtain ⟨rfl, rfl⟩ := Prod.mk.inj same
  exact ⟨RefStore.named_of_ref? named, there'⟩

theorem cancelTask_cases (taskID tenantID : String) (now : Nat) (s : Service) :
    (cancelTask taskID tenantID now s).2 = s ∨
      ∃ ref task, s.tasks.Named ref ∧ s.tasks.get? ref = some task ∧ task.active = true ∧
        (cancelTask taskID tenantID now s).2 =
          { s with
            tasks := s.tasks.write ref (cancelledTask now task)
            queueDepth := s.queueDepth - 1
            published := s.published ++ [⟨.cancelled, ref, cancelledTask now task, now⟩] } := by
  unfold cancelTask
  cases found : lookup taskID s with
  | none => exact .inl rfl
  | some entry =>
      obtain ⟨ref, task⟩ := entry
      obtain ⟨named, there⟩ := lookup_some found
      cases active : task.active with
      | false =>
          left
          simp [active]
      | true =>
          right
          exact ⟨ref, task, named, there, active, by simp [active]⟩

def Due (index : Nat) (stage : Stage) (ref : Nat) (task : Task) (s : Service) : Prop :=
  s.transitions[index]? = some ⟨ref, stage⟩ ∧ s.tasks.get? ref = some task

theorem Due.unique {index ref ref' : Nat} {stage stage' : Stage} {task task' : Task} {s : Service}
    (due : Due index stage ref task s) (due' : Due index stage' ref' task' s) :
    stage = stage' ∧ ref = ref' ∧ task = task' := by
  obtain ⟨rfl, rfl⟩ := Transition.mk.inj (Option.some.inj (due.1.symm.trans due'.1))
  exact ⟨rfl, rfl, Option.some.inj (due.2.symm.trans due'.2)⟩

theorem Due.forall_iff {index ref : Nat} {stage : Stage} {task : Task} {s : Service}
    (due : Due index stage ref task s) {condition : Nat → Task → Prop} :
    (∀ ref' task', Due index stage ref' task' s → condition ref' task') ↔ condition ref task := by
  constructor
  · intro all
    exact all ref task due
  · intro here ref' task' due'
    obtain ⟨_, rfl, rfl⟩ := due.unique due'
    exact here

theorem Due.forall_other {index ref : Nat} {stage stage' : Stage} {task : Task} {s : Service}
    (due : Due index stage ref task s) (apart : stage ≠ stage') {condition : Nat → Task → Prop} :
    ∀ ref' task', Due index stage' ref' task' s → condition ref' task' := by
  intro ref' task' due'
  exact absurd (due.unique due').1 apart

theorem transition_waiting {config : Config} {index ref : Nat} {task : Task} {s : Service}
    (due : Due index .waiting ref task s) (roll now : Nat) :
    scheduleTaskTransition config index roll now s =
      { s with
        tasks := s.tasks.write ref (runningTask now task)
        transitions := s.transitions.set index ⟨ref, .executing⟩ } := by
  simp only [scheduleTaskTransition, due.1, due.2]

theorem transition_executing {config : Config} {index ref : Nat} {task : Task} {s : Service}
    (due : Due index .executing ref task s) (roll now : Nat) :
    scheduleTaskTransition config index roll now s =
      { s with
        tasks := s.tasks.write ref (finishedTask (shouldFail config roll) now task)
        queueDepth := s.queueDepth - 1
        transitions := s.transitions.set index ⟨ref, .ended⟩
        published := s.published ++
          [⟨if shouldFail config roll then .failed else .completed, ref,
            finishedTask (shouldFail config roll) now task, now⟩] } := by
  simp only [scheduleTaskTransition, due.1, due.2]

theorem transition_cases (config : Config) (index roll now : Nat) (s : Service) :
    (∃ ref task, Due index .waiting ref task s) ∨
      (∃ ref task, Due index .executing ref task s) ∨
      scheduleTaskTransition config index roll now s = s ∧
        ∀ stage ref task, Due index stage ref task s → stage = .ended := by
  unfold Due
  cases at_ : s.transitions[index]? with
  | none =>
      refine .inr (.inr ⟨by simp only [scheduleTaskTransition, at_], ?_⟩)
      rintro stage ref task ⟨same, _⟩
      cases same
  | some transition =>
      obtain ⟨ref, stage⟩ := transition
      cases there : s.tasks.get? ref with
      | none =>
          refine .inr (.inr ⟨by simp only [scheduleTaskTransition, at_, there], ?_⟩)
          rintro stage' ref' task ⟨same, here⟩
          cases same
          rw [there] at here
          cases here
      | some task =>
          cases stage with
          | waiting => exact .inl ⟨ref, task, rfl, there⟩
          | executing => exact .inr (.inl ⟨ref, task, rfl, there⟩)
          | ended =>
              refine .inr (.inr ⟨by simp only [scheduleTaskTransition, at_, there], ?_⟩)
              rintro stage' ref' task' ⟨same, _⟩
              cases same
              rfl

@[simp] theorem cancelledTask_active (now : Nat) (task : Task) :
    (cancelledTask now task).active = false := rfl

@[simp] theorem runningTask_active (now : Nat) (task : Task) :
    (runningTask now task).active = true := rfl

@[simp] theorem finishedTask_active (failing : Bool) (now : Nat) (task : Task) :
    (finishedTask failing now task).active = false := by
  cases failing <;> rfl

end CloudOS.Mock.SchedulerService
