import CloudOS.Mock.SchedulerService

/-!
# The queue depth of the mock scheduler

The depth goes up when a task is stored and down when one is cancelled or ends.
It is to be the number of tasks in the map that are pending or running.  It stops
being that when a task replaces one that is still active, when a goroutine sets a
cancelled task running again, and when a goroutine ends a task that was cancelled
or replaced.
-/

set_option autoImplicit false

namespace CloudOS.Mock.QueueDepth

open CloudOS.Lib.History
open CloudOS.Lib.References
open CloudOS.Mock.SchedulerService

def activeTasks (s : Service) : Nat := s.tasks.count Task.active

theorem activeTasks_eq (s : Service) :
    activeTasks s = (getQueueDepth s).pendingTasks + (getQueueDepth s).runningTasks := by
  unfold activeTasks getQueueDepth RefStore.count
  induction s.tasks.entries with
  | nil => rfl
  | cons entry rest ih =>
      simp only [List.countP_cons, ih]
      unfold RefStore.satisfies
      cases s.tasks.get? entry.2 with
      | none => simp
      | some task =>
          obtain ⟨id, tenantID, status, _⟩ := task
          cases status <;> simp [Task.active, Status.active] <;> omega

def Exact (s : Service) : Prop := s.queueDepth.toInt = activeTasks s

/-- No active task is under the id, and the depth has room for one more. -/
def Free (taskID : String) (s : Service) : Prop :=
  (s.tasks.ref? taskID).any (s.tasks.satisfies Task.active) = false ∧ activeTasks s < 2147483647

def KeepsDepth (s : Service) : Call → Prop
  | .submitTask req _ => Free req.taskID s
  | .addPendingTask taskID _ => Free taskID s
  | .cancelTask _ _ _ => True
  | .transition index _ _ =>
      (∀ ref task, Due index .waiting ref task s → s.tasks.Named ref → task.active = true) ∧
        ∀ ref task, Due index .executing ref task s → s.tasks.Named ref ∧ task.active = true

/-! ## One call -/

theorem toInt_add_one (depth : Int32) :
    (depth + 1).toInt = if depth.toInt = 2147483647 then -2147483648 else depth.toInt + 1 := by
  have lower := depth.le_toInt
  have upper := depth.toInt_lt
  have one : (1 : Int32).toInt = 1 := by decide
  rw [Int32.toInt_add, one, Int.bmod]
  split <;> split <;> omega

theorem toInt_sub_one (depth : Int32) :
    (depth - 1).toInt = if depth.toInt = -2147483648 then 2147483647 else depth.toInt - 1 := by
  have lower := depth.le_toInt
  have upper := depth.toInt_lt
  have one : (1 : Int32).toInt = 1 := by decide
  rw [Int32.toInt_sub, one, Int.bmod]
  split <;> split <;> omega

section Step
variable {s : Service}

theorem stored_exact_iff (before : Exact s) {taskID : String} {task : Task}
    (active : task.active = true) (transitions : List Transition) :
    Exact { s with
      tasks := s.tasks.alloc taskID task
      queueDepth := s.queueDepth + 1
      transitions := transitions } ↔ Free taskID s := by
  have moved := s.tasks.count_alloc taskID task Task.active
  have upper := s.queueDepth.toInt_lt
  unfold Exact Free activeTasks at *
  simp only [toInt_add_one, active, if_true] at moved ⊢
  cases taken : (s.tasks.ref? taskID).any (s.tasks.satisfies Task.active) with
  | false =>
      simp only [taken, Bool.false_eq_true, if_false, true_and] at moved ⊢
      split <;> omega
  | true =>
      simp only [taken, if_true, Bool.true_eq_false, false_and, iff_false] at moved ⊢
      split <;> omega

theorem cancelTask_exact (before : Exact s) (taskID tenantID : String) (now : Nat) :
    Exact (cancelTask taskID tenantID now s).2 := by
  rcases cancelTask_cases taskID tenantID now s with same | ⟨ref, task, named, there, active, left⟩
  · rw [same]
    exact before
  · have moved := s.tasks.count_write there (cancelledTask now task) Task.active
    rw [left]
    unfold Exact activeTasks at *
    simp only [named, active, cancelledTask_active, toInt_sub_one] at moved ⊢
    simp only [true_and, if_true, Bool.false_eq_true, and_false, if_false] at moved
    split <;> omega

theorem transition_exact_iff (config : Config) (before : Exact s) (index roll now : Nat) :
    Exact (scheduleTaskTransition config index roll now s) ↔
      KeepsDepth s (.transition index roll now) := by
  rcases transition_cases config index roll now s with
    ⟨ref, task, due⟩ | ⟨ref, task, due⟩ | ⟨same, ended⟩
  · have moved := s.tasks.count_write due.2 (runningTask now task) Task.active
    rw [transition_waiting due]
    unfold Exact activeTasks at *
    simp only [runningTask_active, and_true] at moved ⊢
    have condition : KeepsDepth s (.transition index roll now) ↔
        (s.tasks.Named ref → task.active = true) := by
      rw [KeepsDepth, due.forall_iff]
      exact and_iff_left (due.forall_other Stage.noConfusion)
    rw [condition]
    by_cases named : s.tasks.Named ref
    · cases active : task.active <;> simp [named, active] at moved ⊢ <;> omega
    · simp [named] at moved ⊢
      omega
  · have moved := s.tasks.count_write due.2 (finishedTask (shouldFail config roll) now task)
      Task.active
    rw [transition_executing due]
    have upper := s.queueDepth.toInt_lt
    unfold Exact activeTasks at *
    simp only [finishedTask_active, toInt_sub_one] at moved ⊢
    have condition : KeepsDepth s (.transition index roll now) ↔
        s.tasks.Named ref ∧ task.active = true := by
      rw [KeepsDepth, due.forall_iff]
      exact and_iff_right (due.forall_other Stage.noConfusion)
    rw [condition]
    by_cases named : s.tasks.Named ref ∧ task.active = true
    · simp [named] at moved ⊢
      split <;> omega
    · simp [named] at moved ⊢
      split <;> omega
  · rw [same]
    refine iff_of_true before ?_
    constructor
    · intro ref task due
      cases ended .waiting ref task due
    · intro ref task due
      cases ended .executing ref task due

theorem step_exact_iff (config : Config) (before : Exact s) (call : Call) :
    Exact (step config s call) ↔ KeepsDepth s call := by
  cases call with
  | submitTask req now => exact stored_exact_iff before rfl _
  | addPendingTask taskID now => exact stored_exact_iff before rfl s.transitions
  | cancelTask taskID tenantID now =>
      exact iff_of_true (cancelTask_exact before taskID tenantID now) trivial
  | transition index roll now => exact transition_exact_iff config before index roll now

end Step

/-! ## Runs -/

/-- The depth is the number of active tasks all along a run exactly when no task
replaces an active one, no goroutine finds its task cancelled and still in the
map at its first step, and each finds it active and in the map at its second. -/
theorem queueDepth_exact_iff (config : Config) (calls : List Call) :
    (∀ earlier, earlier <+: calls → Exact (after (step config) .fresh earlier)) ↔
      ∀ earlier last, earlier ++ [last] <+: calls →
        KeepsDepth (after (step config) .fresh earlier) last := by
  have start : Exact (after (step config) .fresh []) := rfl
  have exact_step : ∀ ops op, Exact (after (step config) .fresh ops) →
      (Exact (after (step config) .fresh (ops ++ [op])) ↔
        KeepsDepth (after (step config) .fresh ops) op) := by
    intro ops op before
    rw [after_snoc]
    exact step_exact_iff config before op
  exact forall_prefix_iff start exact_step calls

/-! ## A cancelled task that goes on -/

def quickConfig : Config := ⟨0, 0⟩

/-- A task is cancelled before its goroutine runs. -/
def cancelledRun : List Call :=
  [.submitTask ⟨"t", "a", "100m", "128Mi"⟩ 0, .cancelTask "t" "a" 1, .transition 0 0 2,
    .transition 0 0 3]

theorem cancelled_run_negative_depth :
    (after (step quickConfig) .fresh cancelledRun).queueDepth.toInt = -1 ∧
      ¬ ∀ earlier, earlier <+: cancelledRun → Exact (after (step quickConfig) .fresh earlier) := by
  have negative : (after (step quickConfig) .fresh cancelledRun).queueDepth.toInt = -1 := by
    decide +kernel
  refine ⟨negative, ?_⟩
  intro exact_
  have whole := exact_ cancelledRun (List.prefix_refl _)
  unfold Exact at whole
  omega

end CloudOS.Mock.QueueDepth
