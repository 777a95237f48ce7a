import CloudOS.Lib.LevelQueues
import Mathlib.Algebra.Order.Ring.Rat
import Mathlib.Data.List.Sort

/-!
# The four schedulers

`scheduler/priority_queue.py`.  A class with other methods than its siblings is
part of the picture: a method that a class does not have is an AttributeError.
Times are rationals, which is how floats are compared; log lines are left out.
-/

set_option autoImplicit false

namespace CloudOS.TaskScheduler.PriorityQueue

open CloudOS.Lib.Heapq
open CloudOS.Lib.LevelQueues

inductive PyError where
  | attributeError (text : String)
  | indexError (text : String)
  | redisError
  deriving DecidableEq, Repr

inductive Priority where
  | critical
  | high
  | medium
  | low
  deriving DecidableEq, Repr

def Priority.toInt : Priority → Int
  | .critical => 0
  | .high => 1
  | .medium => 2
  | .low => 3

structure Task where
  priority : Int
  submittedAt : ℚ
  taskId : String
  command : String
  cpuRequest : ℚ
  memoryRequest : ℚ
  estimatedDuration : Int
  burstRemaining : Int
  deriving DecidableEq

def plainTask (priority : Int) (submittedAt : ℚ) (taskId : String) : Task :=
  ⟨priority, submittedAt, taskId, "echo hi", 1 / 2, 256, 30, 30⟩

/-- The order of the dataclass compares priority and submission time only. -/
def Task.lt (a b : Task) : Bool :=
  a.priority < b.priority ∨ (a.priority = b.priority ∧ a.submittedAt < b.submittedAt)

/-! ## `MLFQueue` -/

structure MLFQueue where
  queues : List (List Task)
  levels : queues.length = 4

def MLFQueue.new : MLFQueue := ⟨[[], [], [], []], rfl⟩

/-- A Python index counts from the end when it is negative. -/
def pyIndex (length : Nat) (index : Int) : Option Nat :=
  if 0 ≤ index then if index < length then some index.toNat else none
  else if 0 ≤ index + length then some (index + length).toNat else none

def MLFQueue.atLevel (q : MLFQueue) (level : Nat) (f : List Task → List Task) : MLFQueue :=
  ⟨q.queues.modify level f, by rw [List.length_modify, q.levels]⟩

def MLFQueue.enqueue (q : MLFQueue) (task : Task) : Except PyError MLFQueue :=
  match pyIndex q.queues.length task.priority with
  | none => .error (.indexError "list index out of range")
  | some level => .ok (q.atLevel level fun queue => heappush Task.lt queue task)

/-- `takeFirst` is the loop over the levels. -/
def MLFQueue.dequeue (q : MLFQueue) : Option Task × MLFQueue :=
  match taken : takeFirst Task.lt q.queues with
  | none => (none, q)
  | some (task, queues) => (some task, ⟨queues, (takeFirst_length taken).trans q.levels⟩)

/-! ## The other three, and `get_scheduler` -/

structure RoundRobinScheduler where
  queue : List Task
  index : Nat

inductive Scheduler where
  | mlfq (q : MLFQueue)
  | rr (q : RoundRobinScheduler)
  | sjf (queue : List Task)
  | fifo (queue : List Task)

/-- A new scheduler object; any other name is the default. -/
def getScheduler (algorithm : String) : Scheduler :=
  if algorithm = "mlfq" then .mlfq .new
  else if algorithm = "rr" then .rr ⟨[], 0⟩
  else if algorithm = "sjf" then .sjf []
  else if algorithm = "fifo" then .fifo []
  else .mlfq .new

/-- `list.sort` is stable, and so is insertion. -/
def sortByDuration (queue : List Task) : List Task :=
  queue.insertionSort fun a b => a.estimatedDuration ≤ b.estimatedDuration

def Scheduler.enqueue (s : Scheduler) (task : Task) : Except PyError Scheduler :=
  match s with
  | .mlfq q => (q.enqueue task).map .mlfq
  | .rr q => .ok (.rr { q with queue := q.queue ++ [task] })
  | .sjf queue => .ok (.sjf (sortByDuration (queue ++ [task])))
  | .fifo queue => .ok (.fifo (queue ++ [task]))

/-- `self.queue.pop(0) if self.queue else None` -/
def popFirst : List Task → Option Task × List Task
  | [] => (none, [])
  | task :: rest => (some task, rest)

/-- `RoundRobinScheduler` has `next_task` instead. -/
def Scheduler.dequeue (s : Scheduler) : Except PyError (Option Task × Scheduler) :=
  match s with
  | .mlfq q => .ok (q.dequeue.1, .mlfq q.dequeue.2)
  | .rr _ => .error (.attributeError "'RoundRobinScheduler' object has no attribute 'dequeue'")
  | .sjf queue => .ok ((popFirst queue).1, .sjf (popFirst queue).2)
  | .fifo queue => .ok ((popFirst queue).1, .fifo (popFirst queue).2)

def Scheduler.isRoundRobin : Scheduler → Bool
  | .rr _ => true
  | _ => false

/-! ## No scheduler object loses a task -/

def Scheduler.held : Scheduler → List Task
  | .mlfq q => q.queues.flatten
  | .rr q => q.queue
  | .sjf queue => queue
  | .fifo queue => queue

theorem held_getScheduler (algorithm : String) : (getScheduler algorithm).held = [] := by
  unfold getScheduler
  split_ifs <;> rfl

theorem popFirst_held (queue : List Task) :
    queue = (popFirst queue).1.toList ++ (popFirst queue).2 := by
  cases queue <;> rfl

theorem dequeue_held {s s' : Scheduler} {task : Option Task} (done : s.dequeue = .ok (task, s')) :
    s.held.Perm (task.toList ++ s'.held) := by
  cases s with
  | rr q => cases done
  | sjf queue =>
      cases done
      exact List.Perm.of_eq (popFirst_held queue)
  | fifo queue =>
      cases done
      exact List.Perm.of_eq (popFirst_held queue)
  | mlfq q =>
      cases done
      unfold MLFQueue.dequeue
      split
      · exact List.Perm.refl _
      · rename_i first queues taken
        exact takeFirst_perm taken

theorem dequeue_ok {s : Scheduler} (notRoundRobin : s.isRoundRobin = false) :
    ∃ task s', s.dequeue = .ok (task, s') := by
  cases s with
  | rr q => cases notRoundRobin
  | mlfq q => exact ⟨_, _, rfl⟩
  | sjf queue => exact ⟨_, _, rfl⟩
  | fifo queue => exact ⟨_, _, rfl⟩

end CloudOS.TaskScheduler.PriorityQueue
