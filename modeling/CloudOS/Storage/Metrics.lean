import CloudOS.Lib.Dicts
import CloudOS.Lib.History
import Mathlib.Algebra.BigOperators.Group.List.Basic
import Mathlib.Algebra.Order.Ring.Rat

/-!
# The metrics collector

`storage/metrics.py`: counters and gauges under names, some of which are made of
the strings that callers pass.  The average duration is updated with each
completed task and never recomputed.  Floats are rationals; the start time and
the two renderings are left out.
-/

set_option autoImplicit false

namespace CloudOS.Storage.Metrics

open CloudOS.Lib.Dicts
open CloudOS.Lib.History

structure CloudOSMetrics where
  counters : Dict String Int
  gauges : Dict String ℚ

def CloudOSMetrics.fresh : CloudOSMetrics := ⟨.empty, .empty⟩

namespace CloudOSMetrics

def increment (m : CloudOSMetrics) (name : String) (value : Int) : CloudOSMetrics :=
  { m with counters := m.counters.set name (m.counters.getD name 0 + value) }

def setGauge (m : CloudOSMetrics) (name : String) (value : ℚ) : CloudOSMetrics :=
  { m with gauges := m.gauges.set name value }

def recordTaskSubmitted (m : CloudOSMetrics) (algorithm priority : String) : CloudOSMetrics :=
  ((m.increment "tasks_submitted_total" 1).increment
    ("tasks_by_algorithm_" ++ algorithm) 1).increment ("tasks_by_priority_" ++ priority) 1

def recordTaskCompleted (m : CloudOSMetrics) (duration : ℚ) : CloudOSMetrics :=
  let m := m.increment "tasks_completed_total" 1
  let currentAvg := m.gauges.getD "avg_task_duration" 0
  let total := m.counters.getD "tasks_completed_total" 1
  m.setGauge "avg_task_duration" ((currentAvg * (total - 1) + duration) / total)

def recordTaskFailed (m : CloudOSMetrics) : CloudOSMetrics := m.increment "tasks_failed_total" 1

def setQueueDepth (m : CloudOSMetrics) (depth : Int) : CloudOSMetrics :=
  m.setGauge "queue_depth" depth

def setActiveWorkers (m : CloudOSMetrics) (count : Int) : CloudOSMetrics :=
  m.setGauge "active_workers" count

end CloudOSMetrics

inductive Call where
  | taskSubmitted (algorithm priority : String)
  | taskCompleted (duration : ℚ)
  | taskFailed
  | queueDepth (depth : Int)
  | activeWorkers (count : Int)

def step (m : CloudOSMetrics) : Call → CloudOSMetrics
  | .taskSubmitted algorithm priority => m.recordTaskSubmitted algorithm priority
  | .taskCompleted duration => m.recordTaskCompleted duration
  | .taskFailed => m.recordTaskFailed
  | .queueDepth depth => m.setQueueDepth depth
  | .activeWorkers count => m.setActiveWorkers count

/-! ## What was recorded -/

def Call.submissions : Call → Int
  | .taskSubmitted _ _ => 1
  | _ => 0

def Call.durations : Call → List ℚ
  | .taskCompleted duration => [duration]
  | _ => []

def durations (calls : List Call) : List ℚ := calls.flatMap Call.durations

def startsWith (start name : String) : Bool := start.toList.isPrefixOf name.toList

def CloudOSMetrics.sumOf (m : CloudOSMetrics) (start : String) : Int :=
  m.counters.sumWhere (startsWith start)

/-! ## Names -/

@[simp] theorem startsWith_append (start rest : String) :
    startsWith start (start ++ rest) = true := by
  simp [startsWith]

@[simp] theorem algorithm_not_priority (priority : String) :
    startsWith "tasks_by_algorithm_" ("tasks_by_priority_" ++ priority) = false := by
  unfold startsWith
  rw [String.toList_append]
  rfl

@[simp] theorem priority_not_algorithm (algorithm : String) :
    startsWith "tasks_by_priority_" ("tasks_by_algorithm_" ++ algorithm) = false := by
  unfold startsWith
  rw [String.toList_append]
  rfl

theorem ne_append_of_startsWith {start name : String} (without : startsWith start name = false)
    (rest : String) : name ≠ start ++ rest := by
  intro same
  rw [same, startsWith_append] at without
  cases without

/-! ## One update -/

section Updates
variable (m : CloudOSMetrics)

theorem getD_increment (name other : String) (value : Int) :
    (m.increment name value).counters.getD other 0 =
      m.counters.getD other 0 + if other = name then value else 0 := by
  by_cases same : other = name
  · subst same
    rw [if_pos rfl]
    exact Dict.getD_set_self _ _ _ _
  · rw [if_neg same, add_zero]
    exact Dict.getD_set_of_ne _ same _ _

theorem sumOf_increment (start name : String) (value : Int) :
    (m.increment name value).sumOf start =
      m.sumOf start + if startsWith start name then value else 0 :=
  Dict.sumWhere_add (startsWith start) m.counters name value

theorem get?_setGauge (name other : String) (value : ℚ) :
    (m.setGauge name value).gauges.get? other =
      if other = name then some value else m.gauges.get? other :=
  Dict.get?_set m.gauges name value other

end Updates

/-! ## Whole runs -/

/-- What the counters and gauges show of so many submissions and of the tasks
completed with these durations. -/
structure Shows (m : CloudOSMetrics) (submitted : Int) (durations : List ℚ) : Prop where
  total : m.counters.getD "tasks_submitted_total" 0 = submitted
  byAlgorithm : m.sumOf "tasks_by_algorithm_" = submitted
  byPriority : m.sumOf "tasks_by_priority_" = submitted
  completed : m.counters.getD "tasks_completed_total" 0 = durations.length
  average : m.gauges.get? "avg_task_duration" =
    if durations = [] then none else some (durations.sum / durations.length)

theorem shows_fresh : Shows .fresh 0 [] := ⟨rfl, rfl, rfl, rfl, rfl⟩

theorem average_snoc (earlier : List ℚ) (duration : ℚ) :
    ((if earlier = [] then none else some (earlier.sum / earlier.length)).getD 0 *
          earlier.length + duration) / (earlier.length + 1) =
      (earlier ++ [duration]).sum / (earlier ++ [duration]).length := by
  cases earlier with
  | nil => simp
  | cons first rest =>
      have nonzero : ((first :: rest).length : ℚ) ≠ 0 := Nat.cast_ne_zero.mpr (by simp)
      rw [if_neg (List.cons_ne_nil first rest), Option.getD_some, div_mul_cancel₀ _ nonzero,
        List.sum_append, List.sum_singleton, List.length_append, List.length_singleton,
        Nat.cast_add, Nat.cast_one]

section Steps
variable {m : CloudOSMetrics} {submitted : Int} {recorded : List ℚ}
  (shows : Shows m submitted recorded)
include shows

theorem shows_increment_other {name : String} (value : Int)
    (others : "tasks_submitted_total" ≠ name ∧ "tasks_completed_total" ≠ name ∧
      startsWith "tasks_by_algorithm_" name = false ∧
      startsWith "tasks_by_priority_" name = false) :
    Shows (m.increment name value) submitted recorded := by
  obtain ⟨notTotal, notCompleted, notAlgorithm, notPriority⟩ := others
  constructor
  · rw [getD_increment, if_neg notTotal, add_zero, shows.total]
  · rw [sumOf_increment, notAlgorithm, shows.byAlgorithm]
    exact add_zero submitted
  · rw [sumOf_increment, notPriority, shows.byPriority]
    exact add_zero submitted
  · rw [getD_increment, if_neg notCompleted, add_zero, shows.completed]
  · exact shows.average

theorem shows_setGauge_other {name : String} (value : ℚ) (other : "avg_task_duration" ≠ name) :
    Shows (m.setGauge name value) submitted recorded := by
  refine ⟨shows.total, shows.byAlgorithm, shows.byPriority, shows.completed, ?_⟩
  rw [get?_setGauge, if_neg other, shows.average]

theorem shows_recordTaskSubmitted (algorithm priority : String) :
    Shows (m.recordTaskSubmitted algorithm priority) (submitted + 1) recorded := by
  have total_algorithm := ne_append_of_startsWith
    (show startsWith "tasks_by_algorithm_" "tasks_submitted_total" = false by decide) algorithm
  have total_priority := ne_append_of_startsWith
    (show startsWith "tasks_by_priority_" "tasks_submitted_total" = false by decide) priority
  have completed_algorithm := ne_append_of_startsWith
    (show startsWith "tasks_by_algorithm_" "tasks_completed_total" = false by decide) algorithm
  have completed_priority := ne_append_of_startsWith
    (show startsWith "tasks_by_priority_" "tasks_completed_total" = false by decide) priority
  unfold CloudOSMetrics.recordTaskSubmitted
  constructor
  · simp [getD_increment, total_algorithm, total_priority, shows.total]
  · simp [sumOf_increment, shows.byAlgorithm,
      show startsWith "tasks_by_algorithm_" "tasks_submitted_total" = false by decide]
  · simp [sumOf_increment, shows.byPriority,
      show startsWith "tasks_by_priority_" "tasks_submitted_total" = false by decide]
  · simp [getD_increment, completed_algorithm, completed_priority, shows.completed]
  · exact shows.average

theorem shows_recordTaskCompleted (duration : ℚ) :
    Shows (m.recordTaskCompleted duration) submitted (recorded ++ [duration]) := by
  have total : (m.increment "tasks_completed_total" 1).counters.getD "tasks_completed_total" 1 =
      recorded.length + 1 := by
    rw [← shows.completed]
    exact Dict.getD_set_self _ _ _ _
  have average : m.gauges.getD "avg_task_duration" 0 =
      (if recorded = [] then none else some (recorded.sum / recorded.length)).getD 0 := by
    rw [← shows.average]
    rfl
  constructor
  · show (m.increment _ 1).counters.getD "tasks_submitted_total" 0 = submitted
    rw [getD_increment, if_neg (by decide), add_zero, shows.total]
  · show (m.increment _ 1).sumOf "tasks_by_algorithm_" = submitted
    rw [sumOf_increment, if_neg (by decide), add_zero, shows.byAlgorithm]
  · show (m.increment _ 1).sumOf "tasks_by_priority_" = submitted
    rw [sumOf_increment, if_neg (by decide), add_zero, shows.byPriority]
  · show (m.increment _ 1).counters.getD "tasks_completed_total" 0 = _
    rw [getD_increment, if_pos rfl, shows.completed, List.length_append]
    rfl
  · unfold CloudOSMetrics.recordTaskCompleted
    rw [get?_setGauge, if_pos rfl, total, if_neg (by simp), ← average_snoc, ← average]
    simp [CloudOSMetrics.increment]

theorem shows_step (call : Call) :
    Shows (step m call) (submitted + call.submissions) (recorded ++ call.durations) := by
  cases call with
  | taskSubmitted algorithm priority =>
      simpa [step, Call.submissions, Call.durations] using
        shows_recordTaskSubmitted shows algorithm priority
  | taskCompleted duration =>
      simpa [step, Call.submissions, Call.durations] using
        shows_recordTaskCompleted shows duration
  | taskFailed =>
      simpa [step, Call.submissions, Call.durations, CloudOSMetrics.recordTaskFailed] using
        @shows_increment_other m _ _ shows "tasks_failed_total" 1 (by decide)
  | queueDepth depth =>
      simpa [step, Call.submissions, Call.durations, CloudOSMetrics.setQueueDepth] using
        @shows_setGauge_other m _ _ shows "queue_depth" depth (by decide)
  | activeWorkers count =>
      simpa [step, Call.submissions, Call.durations, CloudOSMetrics.setActiveWorkers] using
        @shows_setGauge_other m _ _ shows "active_workers" count (by decide)

theorem shows_after (calls : List Call) :
    Shows (after step m calls) (submitted + (calls.map Call.submissions).sum)
      (recorded ++ durations calls) := by
  induction calls generalizing m submitted recorded with
  | nil => simpa [durations] using shows
  | cons call rest ih =>
      have later := ih (shows_step shows call)
      rw [add_assoc, List.append_assoc] at later
      exact later

end Steps

/-- After any calls on fresh metrics the average duration is that of the
completed tasks, if there are any, and the submitted tasks are counted once by
algorithm and once by priority. -/
theorem metrics_exact (calls : List Call) :
    (durations calls ≠ [] →
      (after step .fresh calls).gauges.get? "avg_task_duration" =
        some ((durations calls).sum / (durations calls).length)) ∧
    (after step .fresh calls).counters.getD "tasks_submitted_total" 0 =
      (after step .fresh calls).sumOf "tasks_by_algorithm_" ∧
    (after step .fresh calls).counters.getD "tasks_submitted_total" 0 =
      (after step .fresh calls).sumOf "tasks_by_priority_" := by
  have shows := shows_after shows_fresh calls
  rw [List.nil_append] at shows
  refine ⟨?_, shows.total.trans shows.byAlgorithm.symm, shows.total.trans shows.byPriority.symm⟩
  intro some_completed
  rw [shows.average, if_neg some_completed]

/-- A label that looks like the start of another counter's name. -/
def crossedCalls : List Call :=
  [.taskSubmitted "sjf" "HIGH", .taskCompleted 3, .taskSubmitted "by_priority_" "",
    .queueDepth 4, .taskCompleted 4, .taskFailed, .activeWorkers 2]

theorem crossedCalls_exact :
    durations crossedCalls ≠ [] ∧
    (after step .fresh crossedCalls).gauges.get? "avg_task_duration" = some (7 / 2) ∧
    (after step .fresh crossedCalls).sumOf "tasks_by_priority_" = 2 := by
  have completed : durations crossedCalls ≠ [] := by decide
  obtain ⟨average, _, byPriority⟩ := metrics_exact crossedCalls
  refine ⟨completed, ?_, ?_⟩
  · rw [average completed]
    decide +kernel
  · rw [← byPriority]
    decide

end CloudOS.Storage.Metrics
