import CloudOS.TaskScheduler.DeadlockDetector
import Mathlib.Data.List.Perm.Subperm

/-!
# Working off a dependency graph

`get_ready_tasks` of the deadlock detector: a task is ready when it is not
completed and everything it depends on is.  In a graph without a cycle some
task is ready until all are completed, so completing ready tasks one after
another, in whatever order, goes through the graph; the tasks on a cycle wait
for each other.
-/

set_option autoImplicit false

namespace CloudOS.TaskScheduler.ReadyTasks

open CloudOS.Lib.Digraph
open CloudOS.TaskScheduler.DeadlockDetector

def successors (g : DiGraph) (node : String) : List String :=
  (g.edges.filter fun edge => edge.1 = node).map Prod.snd

def getReadyTasks (g : DiGraph) (completed : List String) : List String :=
  g.nodes.filter fun node => node ∉ completed ∧ ∀ dep ∈ successors g node, dep ∈ completed

/-- The lists that completing ready tasks one at a time leads to. -/
inductive Worked (g : DiGraph) : List String → Prop
  | start : Worked g []
  | complete {completed : List String} {node : String} (before : Worked g completed)
      (ready : node ∈ getReadyTasks g completed) : Worked g (completed ++ [node])

def InDependencyOrder (g : DiGraph) (completed : List String) : Prop :=
  ∀ before node later, completed = before ++ node :: later →
    ∀ dep, (node, dep) ∈ g.edges → dep ∈ before

/-- Nothing but the whole graph is an end, and it is reached after as many
steps as there are nodes. -/
structure FinishesAll (g : DiGraph) : Prop where
  goesOn : ∀ completed, Worked g completed → completed.length < g.nodes.length →
    getReadyTasks g completed ≠ []
  ends : ∀ completed, Worked g completed → completed.length ≤ g.nodes.length
  finished : ∀ completed, Worked g completed → completed.length = g.nodes.length →
    completed.Perm g.nodes
  ordered : ∀ completed, Worked g completed → InDependencyOrder g completed

section Ready
variable {g : DiGraph} {completed : List String} {node : String}

theorem mem_successors {dep : String} : dep ∈ successors g node ↔ (node, dep) ∈ g.edges := by
  simp [successors]

theorem mem_getReadyTasks :
    node ∈ getReadyTasks g completed ↔
      node ∈ g.nodes ∧ node ∉ completed ∧ ∀ dep, (node, dep) ∈ g.edges → dep ∈ completed := by
  simp [getReadyTasks, mem_successors]

theorem ready_of_acyclic (acyclic : ¬ HasCycle g.edges) (listed : node ∈ g.nodes)
    (pending : node ∉ completed) : getReadyTasks g completed ≠ [] := by
  have isOpen : node ∈ g.nodes.filter (· ∉ completed) := by simp [listed, pending]
  obtain ⟨sink, member, stuck⟩ := exists_sink acyclic (List.ne_nil_of_mem isOpen)
  have sinkOpen : sink ∈ g.nodes ∧ sink ∉ completed := by simpa using member
  apply List.ne_nil_of_mem
  refine mem_getReadyTasks.mpr ⟨sinkOpen.1, sinkOpen.2, ?_⟩
  intro dep depends
  by_contra missing
  have depOpen : dep ∈ g.nodes.filter (· ∉ completed) := by
    simp [(g.closed _ depends).2, missing]
  exact stuck dep depOpen (Relation.TransGen.single depends)

end Ready

section Runs
variable {g : DiGraph} {completed : List String}

theorem Worked.nodup_subset (worked : Worked g completed) :
    completed.Nodup ∧ completed ⊆ g.nodes := by
  induction worked with
  | start => exact ⟨List.nodup_nil, List.nil_subset _⟩
  | @complete completed node before ready ih =>
      obtain ⟨listed, pending, _⟩ := mem_getReadyTasks.mp ready
      refine ⟨?_, ?_⟩
      · exact ih.1.append (List.nodup_singleton node) (List.disjoint_singleton.mpr pending)
      · exact List.append_subset.mpr ⟨ih.2, List.cons_subset.mpr ⟨listed, List.nil_subset _⟩⟩

theorem Worked.inDependencyOrder (worked : Worked g completed) :
    InDependencyOrder g completed := by
  induction worked with
  | start =>
      intro before node later split
      simp at split
  | @complete completed last before ready ih =>
      intro front node later split dep depends
      rcases List.eq_nil_or_concat later with rfl | ⟨init, final, rfl⟩
      · -- the task completed last
        obtain ⟨rfl, same⟩ := List.append_inj' split rfl
        cases same
        exact (mem_getReadyTasks.mp ready).2.2 dep depends
      · have shorter : completed ++ [last] = (front ++ node :: init) ++ [final] := by
          simpa using split
        obtain ⟨same, _⟩ := List.append_inj' shorter rfl
        exact ih front node init same dep depends

/-- A task on a cycle is never ready: it waits for the next one on the cycle. -/
theorem Worked.cycle_not_completed (worked : Worked g completed) {node : String}
    (around : Relation.TransGen (Linked g.edges) node node) : node ∉ completed := by
  induction worked generalizing node with
  | start => exact List.not_mem_nil
  | @complete completed last before ready ih =>
      intro member
      rcases List.mem_append.mp member with earlier | isLast
      · exact ih around earlier
      · obtain rfl := List.mem_singleton.mp isLast
        obtain ⟨next, depends, back⟩ := Relation.TransGen.head'_iff.mp around
        have onCycle : Relation.TransGen (Linked g.edges) next next :=
          Relation.TransGen.tail' back depends
        exact ih onCycle ((mem_getReadyTasks.mp ready).2.2 next depends)

theorem finishesAll (acyclic : ¬ HasCycle g.edges) : FinishesAll g where
  goesOn completed worked short := by
    have someOpen : ∃ node ∈ g.nodes, node ∉ completed := by
      by_contra none_open
      push Not at none_open
      have all := (List.subperm_of_subset g.nodes_nodup none_open).length_le
      omega
    obtain ⟨node, listed, pending⟩ := someOpen
    exact ready_of_acyclic acyclic listed pending
  ends completed worked :=
    (List.subperm_of_subset worked.nodup_subset.1 worked.nodup_subset.2).length_le
  finished completed worked full :=
    (List.subperm_of_subset worked.nodup_subset.1 worked.nodup_subset.2).perm_of_length_le
      (Nat.le_of_eq full.symm)
  ordered completed worked := worked.inDependencyOrder

end Runs

/-- For every graph: if it has no cycle, some task is ready as long as a node is
not completed, whatever list is given, and completing ready tasks from the
empty list on goes through all nodes in dependency order; and no node on a
cycle ever becomes ready that way. -/
theorem dependency_scheduling_progresses (g : DiGraph) :
    (¬ HasCycle g.edges →
      (∀ completed : List String, (∃ node ∈ g.nodes, node ∉ completed) →
        getReadyTasks g completed ≠ []) ∧
      FinishesAll g) ∧
    ∀ node, Relation.TransGen (Linked g.edges) node node →
      ∀ completed, Worked g completed → node ∉ getReadyTasks g completed := by
  refine ⟨?_, ?_⟩
  · intro acyclic
    refine ⟨?_, finishesAll acyclic⟩
    rintro completed ⟨node, listed, pending⟩
    exact ready_of_acyclic acyclic listed pending
  · intro node around completed worked ready
    exact (Worked.complete worked ready).cycle_not_completed around (by simp)

def fork : DiGraph := addTask (addTask .empty "b" ["a"]) "c" ["a"]

/-- "b" and "c" wait for each other, and "d" waits for "a" alone. -/
def knotted : DiGraph := addTask (addTask (addTask .empty "b" ["c"]) "c" ["b"]) "d" ["a"]

theorem fork_progresses :
    ¬ HasCycle fork.edges ∧ getReadyTasks fork ["b"] ≠ [] ∧ FinishesAll fork ∧
      Worked knotted ["a", "d"] ∧
      ∀ completed, Worked knotted completed → "b" ∉ getReadyTasks knotted completed := by
  have acyclic : ¬ HasCycle fork.edges := by
    rw [← searchCycle_findsCycles fork]
    decide
  have progresses := (dependency_scheduling_progresses fork).1 acyclic
  have forth : Linked knotted.edges "b" "c" := show ("b", "c") ∈ knotted.edges by decide
  have back : Linked knotted.edges "c" "b" := show ("c", "b") ∈ knotted.edges by decide
  have around : Relation.TransGen (Linked knotted.edges) "b" "b" := .tail (.single forth) back
  have worked : Worked knotted ["a", "d"] := .complete (.complete .start (by decide)) (by decide)
  exact ⟨acyclic, progresses.1 ["b"] ⟨"a", by decide, by decide⟩, progresses.2, worked,
    (dependency_scheduling_progresses knotted).2 "b" around⟩

end CloudOS.TaskScheduler.ReadyTasks
