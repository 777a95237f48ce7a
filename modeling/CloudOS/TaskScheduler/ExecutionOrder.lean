import CloudOS.Lib.TopologicalOrder
import CloudOS.TaskScheduler.DependencyGraph
import CloudOS.TaskScheduler.ReadyTasks

/-!
# The execution order of the detector

An edge of the detector leads from a task to what it depends on, so the topological order
of the graph library has every task before its dependencies, and `get_execution_order`
turns it around.  What results can be worked off task by task: each one is among those
that `get_ready_tasks` gives for the tasks before it.
-/

set_option autoImplicit false

namespace CloudOS.TaskScheduler.ExecutionOrder

open CloudOS.Lib
open CloudOS.Lib.Digraph
open CloudOS.Lib.History
open CloudOS.Lib.TopologicalOrder
open CloudOS.TaskScheduler.DeadlockDetector
open CloudOS.TaskScheduler.DependencyGraph
open CloudOS.TaskScheduler.ReadyTasks
open CloudOS.TaskScheduler.SchedulerApi
open CloudOS.TaskScheduler.TaskConservation

/-- What the graph library documents of its sort. -/
def SortsTopologically (topologicalSort : DiGraph → List String) : Prop :=
  ∀ g, ¬ HasCycle g.edges → IsTopological g.edges g.nodes (topologicalSort g)

section Order
variable {g : DiGraph} {order : List String}

theorem ready_of_isTopological (acyclic : ¬ HasCycle g.edges)
    (sorted : IsTopological g.edges g.nodes order) {before later : List String} {node : String}
    (split : order.reverse = before ++ node :: later) : node ∈ getReadyTasks g before := by
  have turned : order = later.reverse ++ node :: before.reverse := by
    have both := congrArg List.reverse split
    simpa using both
  have listed : node ∈ g.nodes := sorted.perm.mem_iff.mp (by simp [turned])
  have once : order.Nodup := sorted.perm.nodup_iff.mpr g.nodes_nodup
  refine mem_getReadyTasks.mpr ⟨listed, ?_, ?_⟩
  · rw [← List.nodup_reverse, split, List.nodup_append] at once
    exact fun earlier => once.2.2 node earlier node List.mem_cons_self rfl
  · intro dep depends
    exact List.mem_reverse.mp
      (sorted.mem_later acyclic turned depends (g.closed _ depends).2)

theorem worked_of_isTopological (acyclic : ¬ HasCycle g.edges)
    (sorted : IsTopological g.edges g.nodes order) : Worked g order.reverse := by
  have front : ∀ done later, order.reverse = done ++ later → Worked g done := by
    intro done
    induction done using List.reverseRecOn with
    | nil => exact fun _ _ => .start
    | append_singleton done node ih =>
        intro later split
        rw [List.append_assoc, List.singleton_append] at split
        exact .complete (ih (node :: later) split) (ready_of_isTopological acyclic sorted split)
  exact front order.reverse [] (List.append_nil _).symm

end Order

/-- After any requests the API gives an order of all tasks it knows of that can be worked
off from its beginning. -/
theorem execution_order_workable {findCycle : DiGraph → Option (List Edge)}
    (finds : FindsCycles findCycle) {topologicalSort : DiGraph → List String}
    (sorts : SortsTopologically topologicalSort) (requests : List Request) :
    ∃ order,
      executionOrder findCycle topologicalSort (after (step findCycle) .initial requests) =
        .executionOrder order ∧
      order.Perm (after (step findCycle) .initial requests).detector.nodes ∧
      Worked (after (step findCycle) .initial requests).detector order := by
  let g := (after (step findCycle) .initial requests).detector
  have acyclic : ¬ HasCycle g.edges := run_acyclic finds requests
  have noDeadlock : hasDeadlock findCycle g = false := by
    rw [Bool.eq_false_iff]
    exact mt (finds g).mp acyclic
  refine ⟨(topologicalSort g).reverse, ?_, ?_, worked_of_isTopological acyclic (sorts g acyclic)⟩
  · simp [executionOrder, getExecutionOrder, g, noDeadlock]
  · exact (List.reverse_perm _).trans (sorts g acyclic).perm

theorem topologicalSort_sorts :
    SortsTopologically fun g => TopologicalOrder.topologicalSort g.edges g.nodes :=
  fun g acyclic => isTopological_topologicalSort acyclic g.nodes

theorem mixedRun_workable :
    ∃ order,
      executionOrder searchCycle (fun g => TopologicalOrder.topologicalSort g.edges g.nodes)
        (after (step searchCycle) .initial mixedRun) = .executionOrder order ∧
      order.Perm (after (step searchCycle) .initial mixedRun).detector.nodes ∧
      Worked (after (step searchCycle) .initial mixedRun).detector order :=
  execution_order_workable searchCycle_findsCycles topologicalSort_sorts mixedRun

end CloudOS.TaskScheduler.ExecutionOrder
