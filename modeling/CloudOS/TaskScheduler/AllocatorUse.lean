import CloudOS.TaskScheduler.NodeAccounting
import Mathlib.Algebra.Order.BigOperators.Group.List

/-!
# The allocator under disciplined use

`allocate` and `deallocate` trust their caller: a task is not placed twice, and
what is given back is what was taken.  A caller that keeps to this gets an
allocator whose nodes carry exactly the live allocations, never more than they
have, and in which every placement can be undone.  The live allocations with
their amounts are kept beside the allocator, which itself remembers only the
node of a task.
-/

set_option autoImplicit false

namespace CloudOS.TaskScheduler.AllocatorUse

open CloudOS.Lib.History
open CloudOS.TaskScheduler.NodeAccounting
open CloudOS.TaskScheduler.Resources

structure Capacity where
  nodeId : String
  cpu : ℚ
  memory : ℚ

inductive Use where
  | allocate (charge : Charge) (strategy : String)
  | deallocate (charge : Charge)

structure Books where
  allocator : ResourceAllocator
  live : List Charge

def addNodes (capacities : List Capacity) : ResourceAllocator :=
  capacities.foldl (fun a c => a.addNode c.nodeId c.cpu c.memory) .empty

def start (capacities : List Capacity) : Books := ⟨addNodes capacities, []⟩

def step (b : Books) : Use → Books
  | .allocate charge strategy =>
      let (result, allocator) :=
        allocate b.allocator charge.taskId charge.cpu charge.memory strategy
      ⟨allocator, if result.success then b.live ++ [charge] else b.live⟩
  | .deallocate charge =>
      ⟨(deallocate b.allocator charge.taskId charge.cpu charge.memory).2,
        forget charge.taskId b.live⟩

deriving instance DecidableEq for Charge

/-- Non-negative amounts for a task that is not placed; back goes what a task
was placed with, or anything for a task that is not placed. -/
def Disciplined : Books × Use → Prop
  | (b, .allocate charge _) =>
      b.allocator.allocations charge.taskId = none ∧ 0 ≤ charge.cpu ∧ 0 ≤ charge.memory
  | (b, .deallocate charge) =>
      b.allocator.allocations charge.taskId = none ∨ charge ∈ b.live

instance : DecidablePred Disciplined
  | (b, .allocate charge _) =>
      inferInstanceAs (Decidable (b.allocator.allocations charge.taskId = none ∧
        0 ≤ charge.cpu ∧ 0 ≤ charge.memory))
  | (b, .deallocate charge) =>
      inferInstanceAs (Decidable (b.allocator.allocations charge.taskId = none ∨
        charge ∈ b.live))

structure Correct (b : Books) : Prop where
  live : Backed b.allocator b.live
  accounted : Accounted b.allocator b.live
  within : ∀ n ∈ b.allocator.nodes, WithinCapacity n
  succeeds : ∀ taskId cpu memory strategy,
    (allocate b.allocator taskId cpu memory strategy).1.success = true ↔
      ∃ n ∈ b.allocator.nodes, cpu ≤ n.availableCpu ∧ memory ≤ n.availableMemory
  bestFit : ∀ taskId cpu memory nodeId,
    (allocate b.allocator taskId cpu memory "best_fit").1.nodeId = some nodeId →
      ∃ chosen ∈ b.allocator.nodes, chosen.nodeId = nodeId ∧
        ∀ n ∈ b.allocator.nodes, cpu ≤ n.availableCpu → memory ≤ n.availableMemory →
          leftover chosen cpu memory ≤ leftover n cpu memory
  failed : ∀ taskId cpu memory strategy,
    (allocate b.allocator taskId cpu memory strategy).1.success = false →
      (allocate b.allocator taskId cpu memory strategy).2 = b.allocator
  restores : ∀ taskId cpu memory strategy, b.allocator.allocations taskId = none →
    deallocate (allocate b.allocator taskId cpu memory strategy).2 taskId cpu memory =
      (.returned, b.allocator)
  returns : ∀ charge, Disciplined (b, .deallocate charge) →
    (deallocate b.allocator charge.taskId charge.cpu charge.memory).1 = .returned

/-! ## What holds of any allocator -/

section Allocate
variable (a : ResourceAllocator) (taskId : String) (cpu memory : ℚ) (strategy : String)

theorem candidates_ne_nil_iff :
    candidates a cpu memory ≠ [] ↔
      ∃ n ∈ a.nodes, cpu ≤ n.availableCpu ∧ memory ≤ n.availableMemory := by
  simp [candidates, List.filter_eq_nil_iff]

theorem allocate_failed (failed : (allocate a taskId cpu memory strategy).1.success = false) :
    (allocate a taskId cpu memory strategy).2 = a := by
  cases room : chosenNode a cpu memory strategy with
  | none => rw [allocate_none room]
  | some chosen =>
      rw [allocate_some room] at failed
      cases failed

theorem allocate_bestFit {nodeId : String}
    (placed : (allocate a taskId cpu memory "best_fit").1.nodeId = some nodeId) :
    ∃ chosen ∈ a.nodes, chosen.nodeId = nodeId ∧
      ∀ n ∈ a.nodes, cpu ≤ n.availableCpu → memory ≤ n.availableMemory →
        leftover chosen cpu memory ≤ leftover n cpu memory := by
  cases room : chosenNode a cpu memory "best_fit" with
  | none =>
      rw [allocate_none room] at placed
      cases placed
  | some chosen =>
      rw [allocate_some room] at placed
      refine ⟨chosen, (chosenNode_mem room).1, Option.some.inj placed, ?_⟩
      intro n listed cpuRoom memoryRoom
      apply chosenNode_bestFit room
      simpa [candidates] using ⟨listed, cpuRoom, memoryRoom⟩

theorem deallocate_allocate (unknown : a.allocations taskId = none) :
    deallocate (allocate a taskId cpu memory strategy).2 taskId cpu memory = (.returned, a) := by
  cases room : chosenNode a cpu memory strategy with
  | none =>
      rw [allocate_none room]
      exact deallocate_none unknown cpu memory
  | some chosen =>
      rw [allocate_some room]
      have mapped : (a.charge taskId chosen.nodeId cpu memory).allocations taskId =
          some chosen.nodeId := by simp [ResourceAllocator.charge]
      have listed : chosen.nodeId ∈
          (a.charge taskId chosen.nodeId cpu memory).nodes.map Node.nodeId := by
        rw [charge_nodeIds]
        exact List.mem_map_of_mem (chosenNode_mem room).1
      rw [deallocate_some mapped listed, release_charge unknown]

end Allocate

/-! ## What the discipline keeps -/

/-- The live allocations are those of the map, add up to the usage of each
node, and none is negative; no node has more in use than it has. -/
structure Sound (b : Books) : Prop where
  backed : Backed b.allocator b.live
  accounted : Accounted b.allocator b.live
  nonneg : ∀ charge ∈ b.live, 0 ≤ charge.cpu ∧ 0 ≤ charge.memory
  bounded : ∀ n ∈ b.allocator.nodes, n.usedCpu ≤ n.totalCpu ∧ n.usedMemory ≤ n.totalMemory

section Charged
variable {a : ResourceAllocator} {live : List Charge}

theorem charged_nonneg {amount : Charge → ℚ} (nonneg : ∀ charge ∈ live, 0 ≤ amount charge)
    (allocations : String → Option String) (nodeId : String) :
    0 ≤ charged amount allocations nodeId live := by
  apply List.sum_nonneg
  intro value listed
  obtain ⟨charge, member, rfl⟩ := List.mem_map.mp listed
  exact nonneg charge (List.mem_filter.mp member).1

theorem Backed.notMem (backed : Backed a live) {taskId : String}
    (unknown : a.allocations taskId = none) : taskId ∉ live.map Charge.taskId := by
  rw [← backed.listed, unknown]
  exact Bool.false_ne_true

theorem forget_of_notMem {taskId : String} (absent : taskId ∉ live.map Charge.taskId) :
    forget taskId live = live := by
  apply List.filter_eq_self.mpr
  intro charge member
  have other : charge.taskId ≠ taskId := fun same => absent (same ▸ List.mem_map_of_mem member)
  simpa using other

theorem Backed.node (backed : Backed a live) {charge : Charge} (member : charge ∈ live) :
    ∃ node ∈ a.nodes, a.allocations charge.taskId = some node.nodeId := by
  have mapped := (backed.listed charge.taskId).mpr (List.mem_map_of_mem member)
  obtain ⟨nodeId, allocated⟩ := Option.isSome_iff_exists.mp mapped
  obtain ⟨node, listed, rfl⟩ := List.mem_map.mp (backed.known _ _ allocated)
  exact ⟨node, listed, allocated⟩

theorem Backed.release (backed : Backed a live) (charge : Charge) (nodeId : String) :
    Backed (a.release charge.taskId nodeId charge.cpu charge.memory)
      (forget charge.taskId live) where
  once := backed.once.sublist (List.filter_sublist.map Charge.taskId)
  listed taskId := by
    rw [mem_forget, ← backed.listed]
    by_cases own : taskId = charge.taskId
    · simp [ResourceAllocator.release, own]
    · simp [ResourceAllocator.release, own]
  known taskId target mapped := by
    rw [release_nodeIds]
    simp only [ResourceAllocator.release] at mapped
    by_cases own : taskId = charge.taskId
    · rw [own, Function.update_self] at mapped
      cases mapped
    · rw [Function.update_of_ne own] at mapped
      exact backed.known taskId target mapped

theorem charged_eq_forget_add (once : (live.map Charge.taskId).Nodup) {charge : Charge}
    (member : charge ∈ live) (amount : Charge → ℚ) (nodeId : String) :
    charged amount a.allocations nodeId live =
      charged amount a.allocations nodeId (forget charge.taskId live) +
        if a.allocations charge.taskId = some nodeId then amount charge else 0 := by
  rw [charged_split charge.taskId live, filter_own once member]
  simp

theorem accounted_release (backed : Backed a live) (accounted : Accounted a live)
    {charge : Charge} (member : charge ∈ live) {node : Node} (listed : node ∈ a.nodes)
    (mapped : a.allocations charge.taskId = some node.nodeId) :
    Accounted (a.release charge.taskId node.nodeId charge.cpu charge.memory)
      (forget charge.taskId live) := by
  simp only [Accounted, ResourceAllocator.release, forall_atNode_iff a.distinct listed,
    charged_forget_update]
  constructor
  · obtain ⟨cpu, memory⟩ := accounted node listed
    rw [charged_eq_forget_add backed.once member, if_pos mapped] at cpu memory
    constructor <;> linarith
  · intro n present elsewhere
    obtain ⟨cpu, memory⟩ := accounted n present
    have notHere : a.allocations charge.taskId ≠ some n.nodeId := by
      rw [mapped]
      exact fun same => elsewhere (Option.some.inj same).symm
    rw [charged_eq_forget_add backed.once member, if_neg notHere, add_zero] at cpu memory
    exact ⟨cpu, memory⟩

end Charged

section Steps
variable {b : Books}

theorem step_allocate_failed {charge : Charge} {strategy : String}
    (full : chosenNode b.allocator charge.cpu charge.memory strategy = none) :
    step b (.allocate charge strategy) = b := by
  simp [step, allocate_none full]

theorem step_allocate_placed {charge : Charge} {strategy : String} {node : Node}
    (room : chosenNode b.allocator charge.cpu charge.memory strategy = some node) :
    step b (.allocate charge strategy) =
      ⟨b.allocator.charge charge.taskId node.nodeId charge.cpu charge.memory,
        b.live ++ [charge]⟩ := by
  simp [step, allocate_some room]

theorem Sound.allocate (sound : Sound b) {charge : Charge} {strategy : String}
    (disciplined : Disciplined (b, .allocate charge strategy)) :
    Sound (step b (.allocate charge strategy)) := by
  obtain ⟨unknown, cpuNonneg, memoryNonneg⟩ := disciplined
  cases room : chosenNode b.allocator charge.cpu charge.memory strategy with
  | none =>
      rw [step_allocate_failed room]
      exact sound
  | some node =>
      obtain ⟨listed, cpuRoom, memoryRoom⟩ := chosenNode_mem room
      have absent := Backed.notMem sound.backed unknown
      have recorded : record b.live charge = b.live ++ [charge] := by
        rw [record, forget_of_notMem absent]
      rw [step_allocate_placed room, ← recorded]
      refine ⟨sound.backed.charge listed charge, ?_, ?_, ?_⟩
      · apply (accounted_charge_iff sound.accounted sound.backed listed charge).mpr
        intro other member same
        exact absurd (same ▸ List.mem_map_of_mem member) absent
      · simp only [recorded]
        intro other member
        rcases List.mem_append.mp member with old | new
        · exact sound.nonneg other old
        · obtain rfl := List.mem_singleton.mp new
          exact ⟨cpuNonneg, memoryNonneg⟩
      · simp only [Node.availableCpu, Node.availableMemory] at cpuRoom memoryRoom
        simp only [ResourceAllocator.charge, forall_atNode_iff b.allocator.distinct listed]
        exact ⟨⟨by linarith, by linarith⟩, fun n present _ => sound.bounded n present⟩

theorem Sound.deallocate (sound : Sound b) {charge : Charge}
    (disciplined : Disciplined (b, .deallocate charge)) :
    Sound (step b (.deallocate charge)) := by
  rcases disciplined with unknown | member
  · have same : step b (.deallocate charge) = b := by
      simp only [step, deallocate_none unknown,
        forget_of_notMem (Backed.notMem sound.backed unknown)]
    rw [same]
    exact sound
  · obtain ⟨node, listed, mapped⟩ := Backed.node sound.backed member
    have released : step b (.deallocate charge) =
        ⟨b.allocator.release charge.taskId node.nodeId charge.cpu charge.memory,
          forget charge.taskId b.live⟩ := by
      simp only [step, deallocate_some mapped (List.mem_map_of_mem listed)]
    rw [released]
    refine ⟨Backed.release sound.backed charge node.nodeId,
      accounted_release sound.backed sound.accounted member listed mapped, ?_, ?_⟩
    · intro other remaining
      exact sound.nonneg other (List.mem_filter.mp remaining).1
    · obtain ⟨cpuNonneg, memoryNonneg⟩ := sound.nonneg charge member
      obtain ⟨cpuBound, memoryBound⟩ := sound.bounded node listed
      simp only [ResourceAllocator.release, forall_atNode_iff b.allocator.distinct listed]
      exact ⟨⟨by linarith, by linarith⟩, fun n present _ => sound.bounded n present⟩

theorem Sound.step (sound : Sound b) {use : Use} (disciplined : Disciplined (b, use)) :
    Sound (step b use) := by
  cases use with
  | allocate charge strategy => exact sound.allocate disciplined
  | deallocate charge => exact sound.deallocate disciplined

theorem Sound.within (sound : Sound b) : ∀ n ∈ b.allocator.nodes, WithinCapacity n := by
  intro n listed
  obtain ⟨cpu, memory⟩ := sound.accounted n listed
  obtain ⟨cpuBound, memoryBound⟩ := sound.bounded n listed
  have cpuNonneg : 0 ≤ n.usedCpu := by
    rw [cpu]
    exact charged_nonneg (fun charge member => (sound.nonneg charge member).1) _ _
  have memoryNonneg : 0 ≤ n.usedMemory := by
    rw [memory]
    exact charged_nonneg (fun charge member => (sound.nonneg charge member).2) _ _
  exact ⟨cpuNonneg, cpuBound, memoryNonneg, memoryBound⟩

theorem Sound.correct (sound : Sound b) : Correct b where
  live := sound.backed
  accounted := sound.accounted
  within := sound.within
  succeeds taskId cpu memory strategy :=
    (allocate_success_iff b.allocator taskId cpu memory strategy).trans
      (candidates_ne_nil_iff b.allocator cpu memory)
  bestFit taskId cpu memory _ := allocate_bestFit b.allocator taskId cpu memory
  failed := allocate_failed b.allocator
  restores := deallocate_allocate b.allocator
  returns charge disciplined := by
    rcases disciplined with unknown | member
    · rw [deallocate_none unknown]
    · obtain ⟨node, listed, mapped⟩ := Backed.node sound.backed member
      rw [deallocate_some mapped (List.mem_map_of_mem listed)]

end Steps

/-! ## Nodes added up front -/

def Fresh (n : Node) : Prop :=
  n.usedCpu = 0 ∧ n.usedMemory = 0 ∧ 0 ≤ n.totalCpu ∧ 0 ≤ n.totalMemory

theorem addNode_fresh {a : ResourceAllocator} (fresh : ∀ n ∈ a.nodes, Fresh n)
    {c : Capacity} (nonneg : 0 ≤ c.cpu ∧ 0 ≤ c.memory) :
    ∀ n ∈ (a.addNode c.nodeId c.cpu c.memory).nodes, Fresh n := by
  intro n listed
  simp only [ResourceAllocator.addNode, putNode] at listed
  split at listed
  · obtain ⟨old, present, rfl⟩ := List.mem_map.mp listed
    split
    · exact ⟨rfl, rfl, nonneg⟩
    · exact fresh old present
  · rcases List.mem_append.mp listed with old | new
    · exact fresh n old
    · obtain rfl := List.mem_singleton.mp new
      exact ⟨rfl, rfl, nonneg⟩

theorem addNodes_fresh {capacities : List Capacity}
    (nonneg : ∀ c ∈ capacities, 0 ≤ c.cpu ∧ 0 ≤ c.memory) :
    (∀ n ∈ (addNodes capacities).nodes, Fresh n) ∧
      ∀ taskId, (addNodes capacities).allocations taskId = none := by
  induction capacities using List.reverseRecOn with
  | nil => simp [addNodes, ResourceAllocator.empty]
  | append_singleton front last ih =>
      obtain ⟨fresh, unknown⟩ := ih fun c member => nonneg c (List.mem_append_left [last] member)
      have added : addNodes (front ++ [last]) =
          (addNodes front).addNode last.nodeId last.cpu last.memory := by simp [addNodes]
      rw [added]
      exact ⟨addNode_fresh fresh (nonneg last (by simp)), unknown⟩

theorem start_sound {capacities : List Capacity}
    (nonneg : ∀ c ∈ capacities, 0 ≤ c.cpu ∧ 0 ≤ c.memory) : Sound (start capacities) := by
  obtain ⟨fresh, unknown⟩ := addNodes_fresh nonneg
  refine ⟨⟨List.nodup_nil, ?_, ?_⟩, ?_, ?_, ?_⟩
  · intro taskId
    simp [start, unknown]
  · intro taskId nodeId mapped
    simp [start, unknown] at mapped
  · intro n listed
    exact ⟨(fresh n listed).1, (fresh n listed).2.1⟩
  · simp [start]
  · intro n listed
    obtain ⟨cpu, memory, cpuNonneg, memoryNonneg⟩ := fresh n listed
    rw [cpu, memory]
    exact ⟨cpuNonneg, memoryNonneg⟩

/-- Over any nodes with non-negative capacities and any disciplined sequence of
calls. -/
theorem disciplined_use_correct (capacities : List Capacity)
    (nonneg : ∀ c ∈ capacities, 0 ≤ c.cpu ∧ 0 ≤ c.memory) (uses : List Use)
    (disciplined : ∀ entry ∈ history step (start capacities) uses, Disciplined entry) :
    Correct (after step (start capacities) uses) := by
  have sound : Sound (after step (start capacities) uses) :=
    after_invariant_allowed (fun _ _ sound allowed => sound.step allowed)
      (start_sound nonneg) disciplined
  exact sound.correct

def twoNodes : List Capacity := [⟨"node-1", 2, 1024⟩, ⟨"node-2", 1, 512⟩]

/-- Placed, refused, placed elsewhere, given back; and a task that nobody
placed. -/
def mixedUses : List Use :=
  [.allocate ⟨"a", 1, 256⟩ "best_fit", .allocate ⟨"b", 3, 256⟩ "first_fit",
    .allocate ⟨"b", 1, 512⟩ "round_robin", .deallocate ⟨"a", 1, 256⟩, .deallocate ⟨"c", 7, 7⟩]

theorem mixedUses_correct :
    (after step (start twoNodes) mixedUses).live = [⟨"b", 1, 512⟩] ∧
      (after step (start twoNodes) mixedUses).allocator.nodes =
        [⟨"node-1", 2, 1024, 1, 512⟩, ⟨"node-2", 1, 512, 0, 0⟩] ∧
      Correct (after step (start twoNodes) mixedUses) :=
  ⟨by decide +kernel, by decide +kernel,
    disciplined_use_correct twoNodes (by decide +kernel) mixedUses (by decide +kernel)⟩

end CloudOS.TaskScheduler.AllocatorUse
