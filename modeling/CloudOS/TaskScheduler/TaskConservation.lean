import CloudOS.Lib.History
import CloudOS.TaskScheduler.SchedulerApi
import Mathlib.Data.Multiset.AddSub

/-!
# Where submitted tasks go

Each scheduler object keeps what is put into it, but `submit_task` puts a task
into an object of its own and the other endpoints read the global one.  So the
global scheduler never holds anything: an accepted task is lost, and the books
balance exactly in the runs in which no task is accepted.
-/

set_option autoImplicit false

namespace CloudOS.TaskScheduler.TaskConservation

open CloudOS.Lib.Heapq
open CloudOS.Lib.History
open CloudOS.TaskScheduler.DeadlockDetector
open CloudOS.TaskScheduler.PriorityQueue
open CloudOS.TaskScheduler.Resources
open CloudOS.TaskScheduler.SchedulerApi

def isQueued : Response → Bool
  | .queued _ _ _ _ => true
  | _ => false

def returned : Response → Option TaskView
  | .task view => some view
  | _ => none

def isNotFound : Response → Bool
  | .httpError status _ => status == 404
  | _ => false

section Runs
variable (findCycle : DiGraph → Option (List Edge))

def step (s : ApiState) (request : Request) : ApiState := (serve findCycle s request).2

def queuedTask (entry : ApiState × Request) : Option TaskView :=
  match entry.2 with
  | .submitTask req env =>
      if isQueued (serve findCycle entry.1 entry.2).1 then
        some (Task.view (taskOf req env.now))
      else none
  | _ => none

def returnedTask (entry : ApiState × Request) : Option TaskView :=
  returned (serve findCycle entry.1 entry.2).1

/-- The queued tasks are those returned and those the global scheduler still
holds, each as often. -/
def Conserved (requests : List Request) : Prop :=
  ((history (step findCycle) .initial requests).filterMap (queuedTask findCycle) :
      Multiset TaskView) =
    ((history (step findCycle) .initial requests).filterMap (returnedTask findCycle) :
      Multiset TaskView) +
    ((after (step findCycle) .initial requests).scheduler.held.map Task.view :
      Multiset TaskView)

def NextAnswered (entry : ApiState × Request) : Prop :=
  entry.2 = .getNextTask →
    (returned (serve findCycle entry.1 entry.2).1).isSome = true ∨
      isNotFound (serve findCycle entry.1 entry.2).1 = true

def TurnedAway (s : ApiState) (req : SubmitTaskRequest) (env : SubmitEnv) : Prop :=
  hasDeadlock findCycle (addTask s.detector req.taskId req.dependsOn) = true ∨
    candidates s.allocator req.cpuRequest req.memoryRequest = [] ∨
      (getRedis s env = true ∧ env.pushRaises = true)

/-- No submission is accepted, and the next task is not asked for while round
robin is selected. -/
def Condition (entry : ApiState × Request) : Prop :=
  match entry.2 with
  | .submitTask req env => TurnedAway findCycle entry.1 req env
  | .getNextTask => entry.1.scheduler.isRoundRobin = false
  | .changeAlgorithm _ => True

end Runs

/-! ## Submitting a task -/

section Submit
variable {findCycle : DiGraph → Option (List Edge)}

theorem enqueue_new_ok (algorithm : String) (req : SubmitTaskRequest) (now : ℚ) :
    ∃ s, (getScheduler algorithm).enqueue (taskOf req now) = .ok s := by
  have mlfq : ∃ s, (Scheduler.mlfq .new).enqueue (taskOf req now) = .ok s := by
    -- the four priorities are the four levels
    have level : ∃ level, pyIndex 4 (priorityOf req.priority).toInt = some level := by
      cases priorityOf req.priority <;> exact ⟨_, rfl⟩
    obtain ⟨level, found⟩ := level
    exact ⟨.mlfq (MLFQueue.new.atLevel level fun queue => heappush Task.lt queue (taskOf req now)),
      by simp [Scheduler.enqueue, MLFQueue.enqueue, MLFQueue.new, taskOf, found, Except.map]⟩
  unfold getScheduler
  split_ifs
  · exact mlfq
  · exact ⟨_, rfl⟩
  · exact ⟨_, rfl⟩
  · exact ⟨_, rfl⟩
  · exact mlfq

theorem enqueueAndPush_eq (req : SubmitTaskRequest) (env : SubmitEnv) (node : Option String)
    (s : ApiState) :
    enqueueAndPush req env node s =
      (if getRedis s env ∧ env.pushRaises then .serverError .redisError
        else .queued req.taskId node req.priority req.algorithm,
        { s with redisClient := getRedis s env }) := by
  obtain ⟨own, enqueued⟩ := enqueue_new_ok req.algorithm req env.now
  unfold enqueueAndPush
  rw [enqueued]
  split_ifs <;> rfl

theorem enqueueAndPush_isQueued (req : SubmitTaskRequest) (env : SubmitEnv)
    (node : Option String) (s : ApiState) :
    isQueued (enqueueAndPush req env node s).1 = true ↔
      ¬ (getRedis s env = true ∧ env.pushRaises = true) := by
  rw [enqueueAndPush_eq]
  split_ifs with raises <;> simp [isQueued, raises]

theorem submitTask_scheduler (req : SubmitTaskRequest) (env : SubmitEnv) (s : ApiState) :
    (submitTask findCycle req env s).2.scheduler = s.scheduler := by
  simp only [submitTask, enqueueAndPush_eq]
  split_ifs <;> rfl

theorem submitTask_returned (req : SubmitTaskRequest) (env : SubmitEnv) (s : ApiState) :
    returned (submitTask findCycle req env s).1 = none := by
  simp only [submitTask, enqueueAndPush_eq]
  split_ifs <;> rfl

theorem submitTask_isQueued (req : SubmitTaskRequest) (env : SubmitEnv) (s : ApiState) :
    isQueued (submitTask findCycle req env s).1 = true ↔ ¬ TurnedAway findCycle s req env := by
  unfold submitTask TurnedAway
  by_cases cycle : hasDeadlock findCycle (addTask s.detector req.taskId req.dependsOn) = true
  · simp [cycle, isQueued]
  · have success := allocate_success_iff s.allocator req.taskId req.cpuRequest
      req.memoryRequest "best_fit"
    by_cases full : candidates s.allocator req.cpuRequest req.memoryRequest = []
    · have refused := mt success.mp (not_not_intro full)
      simp [cycle, full, refused, isQueued]
    · have allocated := success.mpr full
      simp [cycle, full, allocated, enqueueAndPush_isQueued, getRedis]

end Submit

/-! ## Every request finds the global scheduler empty -/

section Empty
variable {findCycle : DiGraph → Option (List Edge)} {s : ApiState}

def Empty (s : ApiState) : Prop := s.scheduler.held = []

theorem dequeue_empty {scheduler scheduler' : Scheduler} {task : Option Task}
    (empty : scheduler.held = []) (done : scheduler.dequeue = .ok (task, scheduler')) :
    task = none ∧ scheduler'.held = [] := by
  have kept := dequeue_held done
  rw [empty] at kept
  have nothing := kept.nil_eq
  cases task with
  | none => exact ⟨rfl, nothing.symm⟩
  | some task => cases nothing

theorem getNextTask_empty (empty : Empty s) :
    (s.scheduler.isRoundRobin = true ∧ ∃ err, getNextTask s = (.serverError err, s)) ∨
      (s.scheduler.isRoundRobin = false ∧ ∃ s', Empty s' ∧
        getNextTask s = (.httpError 404 (.message "No tasks in queue"), s')) := by
  cases kind : s.scheduler.isRoundRobin with
  | true =>
      left
      cases scheduler : s.scheduler with
      | rr q =>
          have failed : getNextTask s = (.serverError (.attributeError
              "'RoundRobinScheduler' object has no attribute 'dequeue'"), s) := by
            simp only [getNextTask, scheduler, Scheduler.dequeue]
          exact ⟨rfl, _, failed⟩
      | mlfq q => simp [scheduler, Scheduler.isRoundRobin] at kind
      | sjf queue => simp [scheduler, Scheduler.isRoundRobin] at kind
      | fifo queue => simp [scheduler, Scheduler.isRoundRobin] at kind
  | false =>
      right
      obtain ⟨task, scheduler', done⟩ := dequeue_ok kind
      obtain ⟨rfl, stillEmpty⟩ := dequeue_empty empty done
      have answered : getNextTask s = (.httpError 404 (.message "No tasks in queue"),
          { s with scheduler := scheduler' }) := by
        simp only [getNextTask, done]
      exact ⟨rfl, { s with scheduler := scheduler' }, stillEmpty, answered⟩

theorem step_empty (s : ApiState) (request : Request) (empty : Empty s) :
    Empty (step findCycle s request) := by
  cases request with
  | submitTask req env =>
      have same : (step findCycle s (.submitTask req env)).scheduler = s.scheduler :=
        submitTask_scheduler req env s
      exact (congrArg Scheduler.held same).trans empty
  | getNextTask =>
      show Empty (getNextTask s).2
      rcases getNextTask_empty empty with ⟨_, err, failed⟩ | ⟨_, s', stillEmpty, answered⟩
      · rw [failed]
        exact empty
      · rw [answered]
        exact stillEmpty
  | changeAlgorithm algorithm => exact held_getScheduler algorithm

theorem returnedTask_empty (request : Request) (empty : Empty s) :
    returnedTask findCycle (s, request) = none := by
  cases request with
  | submitTask req env => exact submitTask_returned req env s
  | getNextTask =>
      show returned (getNextTask s).1 = none
      rcases getNextTask_empty empty with ⟨_, err, failed⟩ | ⟨_, s', _, answered⟩
      · rw [failed]
        rfl
      · rw [answered]
        rfl
  | changeAlgorithm algorithm => rfl

theorem nextAnswered_iff (empty : Empty s) :
    NextAnswered findCycle (s, .getNextTask) ↔ s.scheduler.isRoundRobin = false := by
  have response : (serve findCycle s .getNextTask).1 = (getNextTask s).1 := rfl
  unfold NextAnswered
  rcases getNextTask_empty empty with ⟨roundRobin, err, failed⟩ | ⟨other, s', _, answered⟩
  · simp [response, failed, roundRobin, returned, isNotFound]
  · simp [response, answered, other, returned, isNotFound]

/-- One request: nothing is put on the books, and the next task is answered
as it should be, exactly under the condition. -/
theorem entry_iff (request : Request) (empty : Empty s) :
    (queuedTask findCycle (s, request) = none ∧ NextAnswered findCycle (s, request)) ↔
      Condition findCycle (s, request) := by
  cases request with
  | submitTask req env =>
      have accepted : isQueued (serve findCycle s (.submitTask req env)).1 = true ↔
          ¬ TurnedAway findCycle s req env := submitTask_isQueued req env s
      simp [queuedTask, NextAnswered, Condition, accepted]
  | getNextTask =>
      have answered : NextAnswered findCycle (s, .getNextTask) ↔
          s.scheduler.isRoundRobin = false := nextAnswered_iff empty
      simp [queuedTask, Condition, answered]
  | changeAlgorithm algorithm => simp [queuedTask, NextAnswered, Condition]

end Empty

/-! ## Whole runs -/

section Whole
variable (findCycle : DiGraph → Option (List Edge))

theorem initial_empty : Empty .initial := held_getScheduler "mlfq"

theorem run_empty (requests : List Request) :
    ∀ entry ∈ history (step findCycle) .initial requests, Empty entry.1 :=
  history_invariant step_empty initial_empty requests

/-- Nothing is ever returned or held, so the books balance when nothing was
queued. -/
theorem conserved_iff (requests : List Request) :
    Conserved findCycle requests ↔
      ∀ entry ∈ history (step findCycle) .initial requests, queuedTask findCycle entry = none := by
  have final : Empty (after (step findCycle) .initial requests) :=
    after_invariant step_empty initial_empty requests
  have noneReturned :
      (history (step findCycle) .initial requests).filterMap (returnedTask findCycle) = [] := by
    rw [List.filterMap_eq_nil_iff]
    intro entry member
    exact returnedTask_empty entry.2 (run_empty findCycle requests entry member)
  unfold Conserved
  rw [final, noneReturned, ← List.filterMap_eq_nil_iff]
  simp

/-- Every accepted task is lost: over any run the tasks are conserved, and
`/tasks/next` answers with a task or 404, exactly when no submission is
accepted and no next task is asked for under round robin. -/
theorem tasks_conserved_iff (requests : List Request) :
    (Conserved findCycle requests ∧
        ∀ entry ∈ history (step findCycle) .initial requests, NextAnswered findCycle entry) ↔
      ∀ entry ∈ history (step findCycle) .initial requests, Condition findCycle entry := by
  have each : ∀ entry ∈ history (step findCycle) .initial requests,
      ((queuedTask findCycle entry = none ∧ NextAnswered findCycle entry) ↔
        Condition findCycle entry) := by
    intro entry member
    exact entry_iff entry.2 (run_empty findCycle requests entry member)
  rw [conserved_iff, ← forall₂_and]
  exact forall₂_congr each

/-- A default submission is accepted; the next request finds nothing, and the
same request under round robin fails. -/
def lostRun : List Request :=
  [.submitTask (.minimal "task-1" "echo hi") ⟨0, false, false⟩, .getNextTask,
    .changeAlgorithm "rr", .getNextTask]

theorem accepted_task_lost :
    (history (step fun _ => none) .initial lostRun).map
        (fun entry => (serve (fun _ => none) entry.1 entry.2).1) =
      [.queued "task-1" (some "node-1") "medium" "mlfq",
        .httpError 404 (.message "No tasks in queue"),
        .algorithmChanged "rr",
        .serverError (.attributeError
          "'RoundRobinScheduler' object has no attribute 'dequeue'")] ∧
      ¬ Conserved (fun _ => none) lostRun := by
  unfold Conserved
  decide +kernel

end Whole

end CloudOS.TaskScheduler.TaskConservation
