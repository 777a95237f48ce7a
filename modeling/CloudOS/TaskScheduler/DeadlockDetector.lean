import CloudOS.Lib.Digraph
import Mathlib.Data.List.Induction
import Mathlib.Data.List.Nodup
import Mathlib.Tactic.Tauto

/-!
# The deadlock detector

`scheduler/deadlock_detector.py`: a directed graph of task ids with an edge from
each task to what it depends on.  Node and edge lists are in insertion order,
which is the order in which the graph library walks them; its cycle search is
the parameter `findCycle`, with none for `NetworkXNoCycle`.
-/

set_option autoImplicit false

namespace CloudOS.TaskScheduler.DeadlockDetector

open CloudOS.Lib
open CloudOS.Lib.Digraph

abbrev Edge := String × String

/-- `nx.DiGraph`: no node or edge twice, and no edge without its nodes. -/
@[ext]
structure DiGraph where
  nodes : List String
  edges : List Edge
  nodes_nodup : nodes.Nodup
  edges_nodup : edges.Nodup
  closed : ∀ edge ∈ edges, edge.1 ∈ nodes ∧ edge.2 ∈ nodes

def DiGraph.empty : DiGraph := ⟨[], [], List.nodup_nil, List.nodup_nil, by simp⟩

def addOnce {α : Type} [DecidableEq α] (items : List α) (item : α) : List α :=
  if item ∈ items then items else items ++ [item]

theorem addOnce_nodup {α : Type} [DecidableEq α] {items : List α} (nodup : items.Nodup)
    (item : α) : (addOnce items item).Nodup := by
  unfold addOnce
  split
  · exact nodup
  · rename_i absent
    exact nodup.append (List.nodup_singleton item) (List.disjoint_singleton.mpr absent)

theorem mem_addOnce {α : Type} [DecidableEq α] {items : List α} {item other : α} :
    other ∈ addOnce items item ↔ other ∈ items ∨ other = item := by
  unfold addOnce
  split
  · rename_i present
    constructor
    · exact Or.inl
    · rintro (old | rfl)
      · exact old
      · exact present
  · simp

def DiGraph.addNode (g : DiGraph) (node : String) : DiGraph where
  nodes := addOnce g.nodes node
  edges := g.edges
  nodes_nodup := addOnce_nodup g.nodes_nodup node
  edges_nodup := g.edges_nodup
  closed edge member :=
    ⟨mem_addOnce.mpr (Or.inl (g.closed edge member).1),
      mem_addOnce.mpr (Or.inl (g.closed edge member).2)⟩

/-- `add_edge` adds missing end points first. -/
def DiGraph.addEdge (g : DiGraph) (u v : String) : DiGraph where
  nodes := addOnce (addOnce g.nodes u) v
  edges := addOnce g.edges (u, v)
  nodes_nodup := addOnce_nodup (addOnce_nodup g.nodes_nodup u) v
  edges_nodup := addOnce_nodup g.edges_nodup (u, v)
  closed edge member := by
    rcases mem_addOnce.mp member with old | rfl
    · have ends := g.closed edge old
      simp [mem_addOnce, ends.1, ends.2]
    · simp [mem_addOnce]

/-- `remove_node` takes the edges of the node along. -/
def DiGraph.removeNode (g : DiGraph) (node : String) : DiGraph where
  nodes := g.nodes.filter (· ≠ node)
  edges := g.edges.filter fun edge => edge.1 ≠ node ∧ edge.2 ≠ node
  nodes_nodup := g.nodes_nodup.filter _
  edges_nodup := g.edges_nodup.filter _
  closed edge member := by
    simp only [List.mem_filter, decide_eq_true_eq] at member ⊢
    have ends := g.closed edge member.1
    exact ⟨⟨ends.1, member.2.1⟩, ends.2, member.2.2⟩

def addTask (g : DiGraph) (taskId : String) (dependsOn : List String) : DiGraph :=
  dependsOn.foldl (fun g dep => (g.addNode dep).addEdge taskId dep) (g.addNode taskId)

def removeTask (g : DiGraph) (taskId : String) : DiGraph :=
  if taskId ∈ g.nodes then g.removeNode taskId else g

section Cycles
variable (findCycle : DiGraph → Option (List Edge))

def hasDeadlock (g : DiGraph) : Bool := (findCycle g).isSome

def getCycle (g : DiGraph) : Option (List String) :=
  (findCycle g).map fun cycle => cycle.map Prod.fst

/-- The sort is called only on a graph without a cycle, for which it is
defined. -/
def getExecutionOrder (topologicalSort : DiGraph → List String) (g : DiGraph) :
    Option (List String) :=
  if hasDeadlock findCycle g then none else some (topologicalSort g).reverse

end Cycles

/-! ## The cycle search -/

/-- What the graph library documents of its cycle search: it finds one exactly
when there is one. -/
def FindsCycles (findCycle : DiGraph → Option (List Edge)) : Prop :=
  ∀ g, (findCycle g).isSome = true ↔ HasCycle g.edges

def searchCycle (g : DiGraph) : Option (List Edge) := Digraph.findCycle g.edges g.nodes

theorem searchCycle_findsCycles : FindsCycles searchCycle := by
  intro g
  exact findCycle_isSome_iff fun edge member => (g.closed edge member).1

/-! ## What the operations do to the graph -/

section Operations
variable {g : DiGraph} {node dep : String} {edge : Edge}

theorem addOnce_of_mem {α : Type} [DecidableEq α] {items : List α} {item : α}
    (present : item ∈ items) : addOnce items item = items := if_pos present

theorem addNode_of_mem (present : node ∈ g.nodes) : g.addNode node = g := by
  ext1
  · exact addOnce_of_mem present
  · rfl

theorem addEdge_of_mem {u v : String} (present : (u, v) ∈ g.edges) : g.addEdge u v = g := by
  have ends := g.closed _ present
  ext1
  · show addOnce (addOnce g.nodes u) v = g.nodes
    rw [addOnce_of_mem ends.1, addOnce_of_mem ends.2]
  · exact addOnce_of_mem present

theorem mem_removeNode_nodes : dep ∈ (g.removeNode node).nodes ↔ dep ∈ g.nodes ∧ dep ≠ node := by
  simp [DiGraph.removeNode]

theorem mem_removeNode_edges :
    edge ∈ (g.removeNode node).edges ↔ edge ∈ g.edges ∧ edge.1 ≠ node ∧ edge.2 ≠ node := by
  simp [DiGraph.removeNode]

theorem removeNode_of_notMem (absent : node ∉ g.nodes) : g.removeNode node = g := by
  have others : ∀ dep ∈ g.nodes, dep ≠ node := fun dep member same => absent (same ▸ member)
  ext1
  · apply List.filter_eq_self.mpr
    intro dep member
    simpa using others dep member
  · apply List.filter_eq_self.mpr
    intro edge member
    have ends := g.closed edge member
    simpa using ⟨others _ ends.1, others _ ends.2⟩

theorem filter_addOnce {α : Type} [DecidableEq α] {items : List α} {item : α} {p : α → Bool}
    (harmless : item ∈ items ∨ p item = false) :
    (addOnce items item).filter p = items.filter p := by
  unfold addOnce
  split
  · rfl
  · rename_i absent
    simp [harmless.resolve_left absent]

theorem removeNode_addNode (known : dep = node ∨ dep ∈ g.nodes) :
    (g.addNode dep).removeNode node = g.removeNode node := by
  ext1
  · apply filter_addOnce
    rcases known with rfl | member
    · simp
    · exact Or.inl member
  · rfl

theorem removeNode_addEdge (known : dep = node ∨ dep ∈ g.nodes) :
    (g.addEdge node dep).removeNode node = g.removeNode node := by
  ext1
  · show (addOnce (addOnce g.nodes node) dep).filter _ = g.nodes.filter _
    rw [filter_addOnce, filter_addOnce]
    · simp
    · rcases known with rfl | member
      · simp
      · exact Or.inl (mem_addOnce.mpr (Or.inl member))
  · apply filter_addOnce
    simp

end Operations

/-! ## Adding a task and taking it back -/

section AddTask
variable {g : DiGraph} {taskId node : String} {dependsOn : List String} {edge : Edge}

theorem addTask_snoc (g : DiGraph) (taskId : String) (deps : List String) (dep : String) :
    addTask g taskId (deps ++ [dep]) =
      ((addTask g taskId deps).addNode dep).addEdge taskId dep := by
  simp [addTask]

theorem mem_addTask_nodes :
    node ∈ (addTask g taskId dependsOn).nodes ↔
      node ∈ g.nodes ∨ node = taskId ∨ node ∈ dependsOn := by
  induction dependsOn using List.reverseRecOn with
  | nil => simp [addTask, DiGraph.addNode, mem_addOnce]
  | append_singleton deps dep ih =>
      simp only [addTask_snoc, DiGraph.addEdge, DiGraph.addNode, mem_addOnce, ih,
        List.mem_append, List.mem_singleton]
      grind

theorem mem_addTask_edges :
    edge ∈ (addTask g taskId dependsOn).edges ↔
      edge ∈ g.edges ∨ edge.1 = taskId ∧ edge.2 ∈ dependsOn := by
  induction dependsOn using List.reverseRecOn with
  | nil => simp [addTask, DiGraph.addNode]
  | append_singleton deps dep ih =>
      simp only [addTask_snoc, DiGraph.addEdge, DiGraph.addNode, mem_addOnce, ih,
        List.mem_append, List.mem_singleton, Prod.ext_iff]
      grind

theorem removeTask_addTask (g : DiGraph) (taskId : String) (dependsOn : List String) :
    removeTask (addTask g taskId dependsOn) taskId =
      (addTask g taskId dependsOn).removeNode taskId :=
  if_pos (mem_addTask_nodes.mpr (Or.inr (Or.inl rfl)))

theorem removeTask_addTask_edges_subset :
    (removeTask (addTask g taskId dependsOn) taskId).edges ⊆ g.edges := by
  intro edge member
  rw [removeTask_addTask, mem_removeNode_edges, mem_addTask_edges] at member
  obtain ⟨old | new, otherTask, _⟩ := member
  · exact old
  · exact absurd new.1 otherTask

theorem addTask_eq_self_iff :
    addTask g taskId dependsOn = g ↔
      taskId ∈ g.nodes ∧ ∀ dep ∈ dependsOn, (taskId, dep) ∈ g.edges := by
  constructor
  · intro same
    constructor
    · rw [← same]
      exact mem_addTask_nodes.mpr (Or.inr (Or.inl rfl))
    · intro dep member
      rw [← same]
      exact mem_addTask_edges.mpr (Or.inr ⟨rfl, member⟩)
  · rintro ⟨present, linked⟩
    induction dependsOn using List.reverseRecOn with
    | nil => exact addNode_of_mem present
    | append_singleton deps dep ih =>
        have last : (taskId, dep) ∈ g.edges := linked dep (by simp)
        have before : addTask g taskId deps = g :=
          ih fun other member => linked other (List.mem_append_left [dep] member)
        rw [addTask_snoc, before, addNode_of_mem (g.closed _ last).2, addEdge_of_mem last]

theorem removeNode_addTask (known : ∀ dep ∈ dependsOn, dep = taskId ∨ dep ∈ g.nodes) :
    (addTask g taskId dependsOn).removeNode taskId = g.removeNode taskId := by
  induction dependsOn using List.reverseRecOn with
  | nil => exact removeNode_addNode (Or.inl rfl)
  | append_singleton deps dep ih =>
      have here : dep = taskId ∨ dep ∈ (addTask g taskId deps).nodes :=
        (known dep (by simp)).imp id fun member => mem_addTask_nodes.mpr (Or.inl member)
      have added : dep = taskId ∨ dep ∈ ((addTask g taskId deps).addNode dep).nodes :=
        Or.inr (mem_addOnce.mpr (Or.inr rfl))
      rw [addTask_snoc, removeNode_addEdge added, removeNode_addNode here]
      exact ih fun other member => known other (List.mem_append_left [dep] member)

theorem removeTask_addTask_eq_self_iff :
    removeTask (addTask g taskId dependsOn) taskId = g ↔
      taskId ∉ g.nodes ∧ ∀ dep ∈ dependsOn, dep = taskId ∨ dep ∈ g.nodes := by
  rw [removeTask_addTask]
  constructor
  · intro same
    have nodes : ∀ node, node ∈ g.nodes ↔
        (node ∈ g.nodes ∨ node = taskId ∨ node ∈ dependsOn) ∧ node ≠ taskId := by
      intro node
      rw [← mem_addTask_nodes, ← mem_removeNode_nodes, same]
    constructor
    · intro present
      exact ((nodes taskId).mp present).2 rfl
    · intro dep member
      by_cases self : dep = taskId
      · exact Or.inl self
      · exact Or.inr ((nodes dep).mpr ⟨Or.inr (Or.inr member), self⟩)
  · rintro ⟨absent, known⟩
    rw [removeNode_addTask known, removeNode_of_notMem absent]

end AddTask

end CloudOS.TaskScheduler.DeadlockDetector
