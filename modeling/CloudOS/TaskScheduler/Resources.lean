import Mathlib.Algebra.Order.Ring.Rat
import Mathlib.Data.List.Nodup
import Mathlib.Logic.Function.Basic

/-!
# The resource allocator

`scheduler/resource_allocator.py` over exact rationals.  The node table keeps
its insertion order, in which candidates are compared.
-/

set_option autoImplicit false

namespace CloudOS.TaskScheduler.Resources

structure Node where
  nodeId : String
  totalCpu : ℚ
  totalMemory : ℚ
  usedCpu : ℚ
  usedMemory : ℚ
  deriving DecidableEq

def Node.availableCpu (n : Node) : ℚ := n.totalCpu - n.usedCpu

def Node.availableMemory (n : Node) : ℚ := n.totalMemory - n.usedMemory

structure AllocationResult where
  success : Bool
  nodeId : Option String
  message : String
  deriving DecidableEq, Repr

/-- The node table has one entry for each id. -/
structure ResourceAllocator where
  nodes : List Node
  allocations : String → Option String
  distinct : (nodes.map Node.nodeId).Nodup

def ResourceAllocator.empty : ResourceAllocator := ⟨[], fun _ => none, List.nodup_nil⟩

def atNode (nodeId : String) (f : Node → Node) (nodes : List Node) : List Node :=
  nodes.map fun n => if n.nodeId = nodeId then f n else n

theorem atNode_nodeIds {nodeId : String} {f : Node → Node} (keeps : ∀ n, (f n).nodeId = n.nodeId)
    (nodes : List Node) : (atNode nodeId f nodes).map Node.nodeId = nodes.map Node.nodeId := by
  unfold atNode
  rw [List.map_map]
  apply List.map_congr_left
  intro n _
  show (if n.nodeId = nodeId then f n else n).nodeId = n.nodeId
  split
  · exact keeps n
  · rfl

theorem atNode_distinct {nodeId : String} {f : Node → Node} {nodes : List Node}
    (keeps : ∀ n, (f n).nodeId = n.nodeId) (distinct : (nodes.map Node.nodeId).Nodup) :
    ((atNode nodeId f nodes).map Node.nodeId).Nodup := by
  rw [atNode_nodeIds keeps]
  exact distinct

theorem forall_atNode_iff {nodes : List Node} (distinct : (nodes.map Node.nodeId).Nodup)
    {chosen : Node} (member : chosen ∈ nodes) {f : Node → Node} {P : Node → Prop} :
    (∀ n ∈ atNode chosen.nodeId f nodes, P n) ↔
      P (f chosen) ∧ ∀ n ∈ nodes, n.nodeId ≠ chosen.nodeId → P n := by
  simp only [atNode, List.forall_mem_map]
  constructor
  · intro all
    constructor
    · simpa using all chosen member
    · intro n listed other
      simpa [other] using all n listed
  · rintro ⟨here, elsewhere⟩ n listed
    by_cases same : n.nodeId = chosen.nodeId
    · obtain rfl : n = chosen := List.inj_on_of_nodup_map distinct listed member same
      simpa using here
    · simpa [same] using elsewhere n listed same

/-- Adding a node under a known id replaces it in its place. -/
def putNode (node : Node) (nodes : List Node) : List Node :=
  if node.nodeId ∈ nodes.map Node.nodeId then
    atNode node.nodeId (fun n => { node with nodeId := n.nodeId }) nodes
  else nodes ++ [node]

theorem putNode_distinct {node : Node} {nodes : List Node}
    (distinct : (nodes.map Node.nodeId).Nodup) :
    ((putNode node nodes).map Node.nodeId).Nodup := by
  unfold putNode
  split
  · exact atNode_distinct (fun _ => rfl) distinct
  · rename_i absent
    rw [List.map_append]
    exact distinct.append (List.nodup_singleton _) (List.disjoint_singleton.mpr absent)

def ResourceAllocator.addNode (a : ResourceAllocator) (nodeId : String) (cpu memory : ℚ) :
    ResourceAllocator :=
  { a with
    nodes := putNode ⟨nodeId, cpu, memory, 0, 0⟩ a.nodes
    distinct := putNode_distinct a.distinct }

inductive Strategy where
  | firstFit
  | bestFit
  | worstFit
  deriving DecidableEq, Repr

/-- Any other string than the two names means worst fit. -/
def Strategy.ofString (text : String) : Strategy :=
  if text = "first_fit" then .firstFit
  else if text = "best_fit" then .bestFit
  else .worstFit

/-- The first of the nodes that no other one is better than. -/
def firstBest (better : Node → Node → Bool) (first : Node) (rest : List Node) : Node :=
  rest.foldl (fun best n => if better n best then n else best) first

def choose (strategy : Strategy) (cpu memory : ℚ) (first : Node) (rest : List Node) : Node :=
  match strategy with
  | .firstFit => first
  | .bestFit =>
      firstBest (fun n best => n.availableCpu - cpu + n.availableMemory - memory <
        best.availableCpu - cpu + best.availableMemory - memory) first rest
  | .worstFit =>
      firstBest (fun n best => best.availableCpu + best.availableMemory <
        n.availableCpu + n.availableMemory) first rest

def candidates (a : ResourceAllocator) (cpu memory : ℚ) : List Node :=
  a.nodes.filter fun n => cpu ≤ n.availableCpu ∧ memory ≤ n.availableMemory

def ResourceAllocator.charge (a : ResourceAllocator) (taskId chosen : String)
    (cpu memory : ℚ) : ResourceAllocator where
  nodes := atNode chosen (fun n =>
    { n with usedCpu := n.usedCpu + cpu, usedMemory := n.usedMemory + memory }) a.nodes
  allocations := Function.update a.allocations taskId (some chosen)
  distinct := atNode_distinct (fun _ => rfl) a.distinct

theorem charge_nodeIds (a : ResourceAllocator) (taskId chosen : String) (cpu memory : ℚ) :
    (a.charge taskId chosen cpu memory).nodes.map Node.nodeId = a.nodes.map Node.nodeId := by
  unfold ResourceAllocator.charge
  apply atNode_nodeIds
  intro n
  rfl

def allocate (a : ResourceAllocator) (taskId : String) (cpu memory : ℚ) (strategy : String) :
    AllocationResult × ResourceAllocator :=
  match candidates a cpu memory with
  | [] => (⟨false, none, "No node has enough resources for " ++ taskId⟩, a)
  | first :: rest =>
      let chosen := choose (.ofString strategy) cpu memory first rest
      (⟨true, some chosen.nodeId, "Allocated to " ++ chosen.nodeId⟩,
        a.charge taskId chosen.nodeId cpu memory)

def chosenNode (a : ResourceAllocator) (cpu memory : ℚ) (strategy : String) : Option Node :=
  match candidates a cpu memory with
  | [] => none
  | first :: rest => some (choose (.ofString strategy) cpu memory first rest)

theorem chosenNode_eq_none_iff {a : ResourceAllocator} {cpu memory : ℚ} {strategy : String} :
    chosenNode a cpu memory strategy = none ↔ candidates a cpu memory = [] := by
  unfold chosenNode
  cases candidates a cpu memory <;> simp

theorem allocate_none {a : ResourceAllocator} {cpu memory : ℚ} {strategy : String}
    (full : chosenNode a cpu memory strategy = none) (taskId : String) :
    allocate a taskId cpu memory strategy =
      (⟨false, none, "No node has enough resources for " ++ taskId⟩, a) := by
  unfold allocate
  rw [chosenNode_eq_none_iff.mp full]

theorem chosenNode_some {a : ResourceAllocator} {cpu memory : ℚ} {strategy : String} {chosen : Node}
    (room : chosenNode a cpu memory strategy = some chosen) :
    ∃ first rest, candidates a cpu memory = first :: rest ∧
      choose (.ofString strategy) cpu memory first rest = chosen := by
  unfold chosenNode at room
  cases found : candidates a cpu memory with
  | nil => simp [found] at room
  | cons first rest =>
      rw [found] at room
      exact ⟨first, rest, rfl, Option.some.inj room⟩

theorem allocate_some {a : ResourceAllocator} {cpu memory : ℚ} {strategy : String} {chosen : Node}
    (room : chosenNode a cpu memory strategy = some chosen) (taskId : String) :
    allocate a taskId cpu memory strategy =
      (⟨true, some chosen.nodeId, "Allocated to " ++ chosen.nodeId⟩,
        a.charge taskId chosen.nodeId cpu memory) := by
  obtain ⟨first, rest, found, rfl⟩ := chosenNode_some room
  unfold allocate
  rw [found]

theorem firstBest_mem (better : Node → Node → Bool) (first : Node) (rest : List Node) :
    firstBest better first rest ∈ first :: rest := by
  unfold firstBest
  induction rest generalizing first with
  | nil => simp
  | cons n rest ih =>
      rw [List.foldl_cons]
      split
      · exact List.mem_cons_of_mem first (ih n)
      · rcases List.mem_cons.mp (ih first) with same | later
        · rw [same]
          exact List.mem_cons_self
        · exact List.mem_cons_of_mem first (List.mem_cons_of_mem n later)

theorem chosenNode_mem {a : ResourceAllocator} {cpu memory : ℚ} {strategy : String} {chosen : Node}
    (room : chosenNode a cpu memory strategy = some chosen) :
    chosen ∈ a.nodes ∧ cpu ≤ chosen.availableCpu ∧ memory ≤ chosen.availableMemory := by
  have candidate : chosen ∈ candidates a cpu memory := by
    obtain ⟨first, rest, found, rfl⟩ := chosenNode_some room
    rw [found]
    unfold choose
    cases Strategy.ofString strategy with
    | firstFit => exact List.mem_cons_self
    | bestFit => exact firstBest_mem _ first rest
    | worstFit => exact firstBest_mem _ first rest
  simpa [candidates] using candidate

theorem allocate_success_iff (a : ResourceAllocator) (taskId : String) (cpu memory : ℚ)
    (strategy : String) :
    (allocate a taskId cpu memory strategy).1.success = true ↔ candidates a cpu memory ≠ [] := by
  unfold allocate
  cases candidates a cpu memory <;> simp

/-! ## Giving back -/

/-- `keyError` is a task whose node is not in the table. -/
inductive DeallocateOutcome where
  | returned
  | keyError (nodeId : String)
  deriving DecidableEq, Repr

/-- The task is forgotten before its node is looked up. -/
def deallocate (a : ResourceAllocator) (taskId : String) (cpu memory : ℚ) :
    DeallocateOutcome × ResourceAllocator :=
  match a.allocations taskId with
  | none => (.returned, a)
  | some nodeId =>
      let popped := { a with allocations := Function.update a.allocations taskId none }
      if nodeId ∈ a.nodes.map Node.nodeId then
        (.returned,
          { popped with
            nodes := atNode nodeId (fun n =>
              { n with usedCpu := n.usedCpu - cpu, usedMemory := n.usedMemory - memory }) a.nodes
            distinct := atNode_distinct (fun _ => rfl) a.distinct })
      else (.keyError nodeId, popped)

def ResourceAllocator.release (a : ResourceAllocator) (taskId chosen : String)
    (cpu memory : ℚ) : ResourceAllocator where
  nodes := atNode chosen (fun n =>
    { n with usedCpu := n.usedCpu - cpu, usedMemory := n.usedMemory - memory }) a.nodes
  allocations := Function.update a.allocations taskId none
  distinct := atNode_distinct (fun _ => rfl) a.distinct

theorem release_nodeIds (a : ResourceAllocator) (taskId chosen : String) (cpu memory : ℚ) :
    (a.release taskId chosen cpu memory).nodes.map Node.nodeId = a.nodes.map Node.nodeId := by
  unfold ResourceAllocator.release
  apply atNode_nodeIds
  intro n
  rfl

theorem deallocate_none {a : ResourceAllocator} {taskId : String}
    (unknown : a.allocations taskId = none) (cpu memory : ℚ) :
    deallocate a taskId cpu memory = (.returned, a) := by
  unfold deallocate
  rw [unknown]

theorem deallocate_some {a : ResourceAllocator} {taskId nodeId : String}
    (mapped : a.allocations taskId = some nodeId) (listed : nodeId ∈ a.nodes.map Node.nodeId)
    (cpu memory : ℚ) :
    deallocate a taskId cpu memory = (.returned, a.release taskId nodeId cpu memory) := by
  unfold deallocate
  rw [mapped]
  exact if_pos listed

theorem release_charge {a : ResourceAllocator} {taskId : String}
    (unknown : a.allocations taskId = none) (chosen : String) (cpu memory : ℚ) :
    (a.charge taskId chosen cpu memory).release taskId chosen cpu memory = a := by
  have nodes : ((a.charge taskId chosen cpu memory).release taskId chosen cpu memory).nodes =
      a.nodes := by
    simp only [ResourceAllocator.charge, ResourceAllocator.release, atNode, List.map_map]
    conv_rhs => rw [← List.map_id a.nodes]
    apply List.map_congr_left
    intro n _
    by_cases here : n.nodeId = chosen
    · subst here
      simp
    · simp [here]
  have allocations :
      ((a.charge taskId chosen cpu memory).release taskId chosen cpu memory).allocations =
        a.allocations := by
    simp [ResourceAllocator.charge, ResourceAllocator.release, ← unknown]
  exact ResourceAllocator.mk.injEq .. ▸ ⟨nodes, allocations⟩

/-! ## The choice among several nodes -/

theorem firstBest_least (key : Node → ℚ) (first : Node) (rest : List Node) :
    ∀ n ∈ first :: rest,
      key (firstBest (fun n best => key n < key best) first rest) ≤ key n := by
  unfold firstBest
  induction rest generalizing first with
  | nil => simp
  | cons second rest ih =>
      intro n listed
      rw [List.foldl_cons]
      by_cases better : key second < key first
      · simp only [better, decide_true, if_true]
        rcases List.mem_cons.mp listed with rfl | later
        · exact (ih second second List.mem_cons_self).trans better.le
        · exact ih second n later
      · simp only [better, decide_false, Bool.false_eq_true, if_false]
        rcases List.mem_cons.mp listed with rfl | later
        · exact ih n n List.mem_cons_self
        · rcases List.mem_cons.mp later with rfl | last
          · exact (ih first first List.mem_cons_self).trans (not_lt.mp better)
          · exact ih first n (List.mem_cons_of_mem first last)

/-- What a node would have left of cpu and memory together. -/
def leftover (n : Node) (cpu memory : ℚ) : ℚ :=
  n.availableCpu - cpu + n.availableMemory - memory

theorem chosenNode_bestFit {a : ResourceAllocator} {cpu memory : ℚ} {chosen : Node}
    (room : chosenNode a cpu memory "best_fit" = some chosen) :
    ∀ n ∈ candidates a cpu memory, leftover chosen cpu memory ≤ leftover n cpu memory := by
  obtain ⟨first, rest, found, rfl⟩ := chosenNode_some room
  rw [found]
  exact firstBest_least (fun n => leftover n cpu memory) first rest

end CloudOS.TaskScheduler.Resources
