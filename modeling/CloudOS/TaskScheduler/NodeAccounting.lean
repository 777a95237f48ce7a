import CloudOS.TaskScheduler.TaskConservation
import Mathlib.Algebra.BigOperators.Group.List.Basic
import Mathlib.Tactic.Linarith
import Mathlib.Tactic.Ring

/-!
# What the nodes have in use

`allocate` places a request on a node with room for it and charges the node.
The upper bound on a node's usage needs no more than that.  A request is not
checked to be non-negative, and a task that is placed again is charged again
while the allocation map forgets where it was: these are the two ways in which
a run leaves the bounds, and the books.
-/

set_option autoImplicit false

namespace CloudOS.TaskScheduler.NodeAccounting

open CloudOS.Lib.History
open CloudOS.TaskScheduler.DeadlockDetector
open CloudOS.TaskScheduler.Resources
open CloudOS.TaskScheduler.SchedulerApi
open CloudOS.TaskScheduler.TaskConservation

/-! ## Capacity -/

def WithinCapacity (n : Node) : Prop :=
  0 ≤ n.usedCpu ∧ n.usedCpu ≤ n.totalCpu ∧ 0 ≤ n.usedMemory ∧ n.usedMemory ≤ n.totalMemory

def CapacityRespected (s : ApiState) : Prop := ∀ n ∈ s.allocator.nodes, WithinCapacity n

section Definitions
variable (findCycle : DiGraph → Option (List Edge))

def placedOn (s : ApiState) (req : SubmitTaskRequest) : Option Node :=
  if hasDeadlock findCycle (extended s req) then none else placement s req

/-- A placed submission takes back no more than its node has in use. -/
def TakesBackNoMore (s : ApiState) : Request → Prop
  | .submitTask req _ =>
      ∀ node, placedOn findCycle s req = some node →
        0 ≤ node.usedCpu + req.cpuRequest ∧ 0 ≤ node.usedMemory + req.memoryRequest
  | _ => True

end Definitions

section Capacity
variable {findCycle : DiGraph → Option (List Edge)} {s : ApiState} {req : SubmitTaskRequest}

theorem submitTask_allocator_none (env : SubmitEnv) (nowhere : placedOn findCycle s req = none) :
    (submitTask findCycle req env s).2.allocator = s.allocator := by
  unfold placedOn at nowhere
  cases cycle : hasDeadlock findCycle (extended s req) with
  | true => simp [submitTask_deadlock env cycle]
  | false =>
      have full : placement s req = none := by simpa [cycle] using nowhere
      simp [submitTask_noRoom env cycle full]

theorem submitTask_allocator_some (env : SubmitEnv) {node : Node}
    (placed : placedOn findCycle s req = some node) :
    (submitTask findCycle req env s).2.allocator =
      s.allocator.charge req.taskId node.nodeId req.cpuRequest req.memoryRequest := by
  unfold placedOn at placed
  cases cycle : hasDeadlock findCycle (extended s req) with
  | true => simp [cycle] at placed
  | false =>
      have room : placement s req = some node := by simpa [cycle] using placed
      simp [submitTask_placed env cycle room, enqueueAndPush_eq]

theorem placedOn_mem {node : Node} (placed : placedOn findCycle s req = some node) :
    node ∈ s.allocator.nodes ∧ req.cpuRequest ≤ node.availableCpu ∧
      req.memoryRequest ≤ node.availableMemory := by
  unfold placedOn at placed
  split at placed
  · cases placed
  · exact chosenNode_mem placed

theorem capacityRespected_submit {env : SubmitEnv} (respected : CapacityRespected s) :
    CapacityRespected (submitTask findCycle req env s).2 ↔
      TakesBackNoMore findCycle s (.submitTask req env) := by
  cases placed : placedOn findCycle s req with
  | none =>
      have same := submitTask_allocator_none env placed
      simp only [CapacityRespected, TakesBackNoMore, same, placed]
      exact iff_of_true respected fun node impossible => by cases impossible
  | some node =>
      obtain ⟨member, cpuRoom, memoryRoom⟩ := placedOn_mem placed
      have charged := submitTask_allocator_some env placed
      simp only [Node.availableCpu, Node.availableMemory] at cpuRoom memoryRoom
      simp only [CapacityRespected, charged, ResourceAllocator.charge,
        forall_atNode_iff s.allocator.distinct member, WithinCapacity]
      constructor
      · rintro ⟨⟨cpu, _, memory, _⟩, _⟩ other same
        obtain rfl : node = other := Option.some.inj (placed.symm.trans same)
        exact ⟨cpu, memory⟩
      · intro enough
        obtain ⟨cpu, memory⟩ := enough node placed
        exact ⟨⟨cpu, by linarith, memory, by linarith⟩, fun n listed _ => respected n listed⟩

theorem step_capacityRespected_iff (respected : CapacityRespected s) (request : Request) :
    CapacityRespected (step findCycle s request) ↔ TakesBackNoMore findCycle s request := by
  cases request with
  | submitTask req env => exact capacityRespected_submit respected
  | getNextTask =>
      simp only [CapacityRespected, step, serve, (getNextTask_frame s).2]
      exact iff_of_true respected trivial
  | changeAlgorithm algorithm => exact iff_of_true respected trivial

def NonNegative : Request → Prop
  | .submitTask req _ => 0 ≤ req.cpuRequest ∧ 0 ≤ req.memoryRequest
  | _ => True

theorem takesBackNoMore_of_nonNegative (respected : CapacityRespected s) {request : Request}
    (nonNegative : NonNegative request) : TakesBackNoMore findCycle s request := by
  cases request with
  | submitTask req env =>
      intro node placed
      obtain ⟨cpu, _, memory, _⟩ := respected node (placedOn_mem placed).1
      exact ⟨add_nonneg cpu nonNegative.1, add_nonneg memory nonNegative.2⟩
  | getNextTask => trivial
  | changeAlgorithm algorithm => trivial

end Capacity

theorem initial_capacityRespected : CapacityRespected .initial := by
  unfold CapacityRespected WithinCapacity
  decide +kernel

/-- Over any run every node stays within its capacity exactly when no placed
submission takes back more than its node has in use. -/
theorem capacity_respected_iff (findCycle : DiGraph → Option (List Edge))
    (requests : List Request) :
    (∀ earlier, earlier <+: requests →
        CapacityRespected (after (step findCycle) .initial earlier)) ↔
      ∀ earlier request, earlier ++ [request] <+: requests →
        TakesBackNoMore findCycle (after (step findCycle) .initial earlier) request := by
  have exactStep : ∀ earlier request,
      CapacityRespected (after (step findCycle) .initial earlier) →
      (CapacityRespected (after (step findCycle) .initial (earlier ++ [request])) ↔
        TakesBackNoMore findCycle (after (step findCycle) .initial earlier) request) := by
    intro earlier request respected
    rw [after_snoc]
    exact step_capacityRespected_iff respected request
  exact forall_prefix_iff initial_capacityRespected exactStep requests

theorem capacity_respected_of_nonNegative (findCycle : DiGraph → Option (List Edge))
    {requests : List Request} (nonNegative : ∀ request ∈ requests, NonNegative request) :
    CapacityRespected (after (step findCycle) .initial requests) := by
  have kept : ∀ s request, CapacityRespected s → NonNegative request →
      CapacityRespected (step findCycle s request) := fun s request respected isNonNegative =>
    (step_capacityRespected_iff respected request).mpr
      (takesBackNoMore_of_nonNegative respected isNonNegative)
  exact after_invariant_allowed kept initial_capacityRespected (forall_history_of_ops nonNegative)

def negativeRun : List Request :=
  [.submitTask { SubmitTaskRequest.minimal "a" "echo hi" with cpuRequest := -1 } ⟨0, false, false⟩]

theorem capacity_not_respected :
    (history (step searchCycle) .initial negativeRun).map
        (fun entry => (serve searchCycle entry.1 entry.2).1) =
      [.queued "a" (some "node-1") "medium" "mlfq"] ∧
      (after (step searchCycle) .initial negativeRun).allocator.nodes.map Node.usedCpu =
        [-1, 0, 0] ∧
      ¬ CapacityRespected (after (step searchCycle) .initial negativeRun) := by
  unfold CapacityRespected WithinCapacity
  decide +kernel

/-! ## Accounting -/

structure Charge where
  taskId : String
  cpu : ℚ
  memory : ℚ

def forget (taskId : String) (ledger : List Charge) : List Charge :=
  ledger.filter fun charge => charge.taskId ≠ taskId

/-- The new charge takes the place of an earlier one of its task. -/
def record (ledger : List Charge) (charge : Charge) : List Charge :=
  forget charge.taskId ledger ++ [charge]

/-- The sum over the tasks that are mapped to the node. -/
def charged (amount : Charge → ℚ) (allocations : String → Option String) (nodeId : String)
    (ledger : List Charge) : ℚ :=
  ((ledger.filter fun charge => allocations charge.taskId = some nodeId).map amount).sum

def Accounted (a : ResourceAllocator) (ledger : List Charge) : Prop :=
  ∀ n ∈ a.nodes,
    n.usedCpu = charged Charge.cpu a.allocations n.nodeId ledger ∧
      n.usedMemory = charged Charge.memory a.allocations n.nodeId ledger

section Ledger
variable (findCycle : DiGraph → Option (List Edge))

def placedCharge (entry : ApiState × Request) : Option Charge :=
  match entry.2 with
  | .submitTask req _ =>
      (placedOn findCycle entry.1 req).map fun _ =>
        ⟨req.taskId, req.cpuRequest, req.memoryRequest⟩
  | _ => none

def ledger (requests : List Request) : List Charge :=
  ((history (step findCycle) .initial requests).filterMap (placedCharge findCycle)).foldl record []

def BooksBalance (requests : List Request) : Prop :=
  Accounted (after (step findCycle) .initial requests).allocator (ledger findCycle requests)

/-- A task that is placed was not placed before, or last with an empty
request. -/
def NotChargedBefore (earlier : List Request) : Request → Prop
  | .submitTask req _ =>
      placedOn findCycle (after (step findCycle) .initial earlier) req ≠ none →
        ∀ charge ∈ ledger findCycle earlier,
          charge.taskId = req.taskId → charge.cpu = 0 ∧ charge.memory = 0
  | _ => True

end Ledger

section Charged
variable {amount : Charge → ℚ} {allocations : String → Option String} {nodeId taskId : String}

@[simp] theorem charged_nil : charged amount allocations nodeId [] = 0 := rfl

@[simp] theorem charged_cons (charge : Charge) (rest : List Charge) :
    charged amount allocations nodeId (charge :: rest) =
      (if allocations charge.taskId = some nodeId then amount charge else 0) +
        charged amount allocations nodeId rest := by
  unfold charged
  rw [List.filter_cons]
  split <;> simp_all

@[simp] theorem charged_append (first second : List Charge) :
    charged amount allocations nodeId (first ++ second) =
      charged amount allocations nodeId first + charged amount allocations nodeId second := by
  simp [charged]

theorem charged_split (taskId : String) (ledger : List Charge) :
    charged amount allocations nodeId ledger =
      charged amount allocations nodeId (forget taskId ledger) +
        charged amount allocations nodeId (ledger.filter fun charge => charge.taskId = taskId) := by
  induction ledger with
  | nil => simp [forget]
  | cons charge rest ih =>
      simp only [forget, List.filter_cons, charged_cons, ih]
      by_cases own : charge.taskId = taskId
      · simp [own]
        ring
      · simp [own]
        ring

theorem charged_forget_update (target : Option String) (ledger : List Charge) :
    charged amount (Function.update allocations taskId target) nodeId (forget taskId ledger) =
      charged amount allocations nodeId (forget taskId ledger) := by
  unfold charged
  congr 2
  apply List.filter_congr
  intro charge member
  have other : charge.taskId ≠ taskId := by simpa using (List.mem_filter.mp member).2
  simp [other]

theorem charged_record (chosen : String) (ledger : List Charge) (charge : Charge) :
    charged amount (Function.update allocations charge.taskId (some chosen)) nodeId
        (record ledger charge) =
      charged amount allocations nodeId (forget charge.taskId ledger) +
        if chosen = nodeId then amount charge else 0 := by
  simp [record, charged_forget_update]

end Charged

/-- The ledger has each task of the allocation map once, and the map leads to
nodes. -/
structure Backed (a : ResourceAllocator) (ledger : List Charge) : Prop where
  once : (ledger.map Charge.taskId).Nodup
  listed : ∀ taskId, (a.allocations taskId).isSome = true ↔ taskId ∈ ledger.map Charge.taskId
  known : ∀ taskId nodeId, a.allocations taskId = some nodeId → nodeId ∈ a.nodes.map Node.nodeId

section Backed
variable {a : ResourceAllocator} {ledger : List Charge}

theorem mem_forget {taskId other : String} :
    other ∈ (forget taskId ledger).map Charge.taskId ↔
      other ∈ ledger.map Charge.taskId ∧ other ≠ taskId := by
  simp only [forget, List.mem_map, List.mem_filter, decide_eq_true_eq]
  constructor
  · rintro ⟨charge, ⟨member, different⟩, rfl⟩
    exact ⟨⟨charge, member, rfl⟩, different⟩
  · rintro ⟨⟨charge, member, rfl⟩, different⟩
    exact ⟨charge, ⟨member, different⟩, rfl⟩

theorem Backed.charge (backed : Backed a ledger) {node : Node} (member : node ∈ a.nodes)
    (charge : Charge) :
    Backed (a.charge charge.taskId node.nodeId charge.cpu charge.memory)
      (record ledger charge) where
  once := by
    rw [record, List.map_append]
    apply List.Nodup.append
    · exact backed.once.sublist (List.filter_sublist.map Charge.taskId)
    · exact List.nodup_singleton charge.taskId
    · apply List.disjoint_singleton.mpr
      intro present
      exact (mem_forget.mp present).2 rfl
  listed taskId := by
    rw [record, List.map_append, List.mem_append, mem_forget, ← backed.listed]
    by_cases own : taskId = charge.taskId
    · simp [ResourceAllocator.charge, own]
    · simp [ResourceAllocator.charge, own]
  known taskId nodeId mapped := by
    rw [charge_nodeIds]
    simp only [ResourceAllocator.charge] at mapped
    by_cases own : taskId = charge.taskId
    · rw [own, Function.update_self, Option.some.injEq] at mapped
      rw [← mapped]
      exact List.mem_map_of_mem member
    · rw [Function.update_of_ne own] at mapped
      exact backed.known taskId nodeId mapped

theorem filter_own (once : (ledger.map Charge.taskId).Nodup) {charge : Charge}
    (member : charge ∈ ledger) :
    (ledger.filter fun other => other.taskId = charge.taskId) = [charge] := by
  induction ledger with
  | nil => simp at member
  | cons first rest ih =>
      obtain ⟨fresh, onceRest⟩ := List.nodup_cons.mp once
      rcases List.mem_cons.mp member with rfl | later
      · have others : (rest.filter fun other => other.taskId = charge.taskId) = [] := by
          apply List.filter_eq_nil_iff.mpr
          intro other listed same
          exact fresh (List.mem_map.mpr ⟨other, listed, by simpa using same⟩)
        simp [others]
      · have different : first.taskId ≠ charge.taskId := by
          intro same
          exact fresh (List.mem_map.mpr ⟨charge, later, same.symm⟩)
        simp [different, ih onceRest later]

theorem Backed.own_zero_iff (backed : Backed a ledger) (amount : Charge → ℚ) (taskId : String) :
    (∀ n ∈ a.nodes, charged amount a.allocations n.nodeId
        (ledger.filter fun charge => charge.taskId = taskId) = 0) ↔
      ∀ charge ∈ ledger, charge.taskId = taskId → amount charge = 0 := by
  constructor
  · rintro weightless charge member rfl
    have mapped : (a.allocations charge.taskId).isSome = true :=
      (backed.listed charge.taskId).mpr (List.mem_map_of_mem member)
    obtain ⟨nodeId, allocated⟩ := Option.isSome_iff_exists.mp mapped
    obtain ⟨n, listed, rfl⟩ := List.mem_map.mp (backed.known _ _ allocated)
    simpa [filter_own backed.once member, allocated] using weightless n listed
  · intro empty n _
    apply List.sum_eq_zero
    intro value listed
    obtain ⟨charge, member, rfl⟩ := List.mem_map.mp listed
    obtain ⟨own, _⟩ := List.mem_filter.mp member
    obtain ⟨present, same⟩ := List.mem_filter.mp own
    exact empty charge present (by simpa using same)

def Weightless (a : ResourceAllocator) (ledger : List Charge) (taskId nodeId : String) : Prop :=
  charged Charge.cpu a.allocations nodeId
      (ledger.filter fun other => other.taskId = taskId) = 0 ∧
    charged Charge.memory a.allocations nodeId
      (ledger.filter fun other => other.taskId = taskId) = 0

/-- A node that was in balance still is without the task, whatever is then added
on both sides, exactly when the task was weightless there. -/
theorem balanced_iff_weightless (accounted : Accounted a ledger) {n : Node} (listed : n ∈ a.nodes)
    (taskId : String) (extraCpu extraMemory : ℚ) :
    (n.usedCpu + extraCpu =
          charged Charge.cpu a.allocations n.nodeId (forget taskId ledger) + extraCpu ∧
        n.usedMemory + extraMemory =
          charged Charge.memory a.allocations n.nodeId (forget taskId ledger) + extraMemory) ↔
      Weightless a ledger taskId n.nodeId := by
  obtain ⟨cpu, memory⟩ := accounted n listed
  unfold Weightless
  rw [cpu, memory, charged_split taskId ledger, charged_split taskId ledger]
  constructor
  · rintro ⟨cpuSame, memorySame⟩
    constructor <;> linarith
  · rintro ⟨cpuZero, memoryZero⟩
    constructor <;> linarith

theorem accounted_charge_iff_weightless (accounted : Accounted a ledger) {node : Node}
    (member : node ∈ a.nodes) (charge : Charge) :
    Accounted (a.charge charge.taskId node.nodeId charge.cpu charge.memory)
        (record ledger charge) ↔
      ∀ n ∈ a.nodes, Weightless a ledger charge.taskId n.nodeId := by
  simp only [Accounted, ResourceAllocator.charge, forall_atNode_iff a.distinct member,
    charged_record, if_true]
  constructor
  · rintro ⟨here, elsewhere⟩ n listed
    by_cases same : n.nodeId = node.nodeId
    · obtain rfl : n = node := List.inj_on_of_nodup_map a.distinct listed member same
      exact (balanced_iff_weightless accounted listed _ _ _).mp here
    · have there := elsewhere n listed same
      simp only [if_neg (Ne.symm same)] at there
      exact (balanced_iff_weightless accounted listed _ 0 0).mp (by simpa using there)
  · intro weightless
    constructor
    · exact (balanced_iff_weightless accounted member _ _ _).mpr (weightless node member)
    · intro n listed same
      simp only [if_neg (Ne.symm same)]
      simpa using
        (balanced_iff_weightless accounted listed charge.taskId 0 0).mpr (weightless n listed)

theorem accounted_charge_iff (accounted : Accounted a ledger) (backed : Backed a ledger)
    {node : Node} (member : node ∈ a.nodes) (charge : Charge) :
    Accounted (a.charge charge.taskId node.nodeId charge.cpu charge.memory)
        (record ledger charge) ↔
      ∀ other ∈ ledger, other.taskId = charge.taskId → other.cpu = 0 ∧ other.memory = 0 := by
  rw [accounted_charge_iff_weightless accounted member]
  unfold Weightless
  rw [forall₂_and, backed.own_zero_iff Charge.cpu, backed.own_zero_iff Charge.memory]
  constructor
  · rintro ⟨cpu, memory⟩ other listed same
    exact ⟨cpu other listed same, memory other listed same⟩
  · intro empty
    exact ⟨fun other listed same => (empty other listed same).1,
      fun other listed same => (empty other listed same).2⟩

end Backed

/-! ## The books over a run -/

section Runs
variable (findCycle : DiGraph → Option (List Edge))

theorem ledger_snoc (requests : List Request) (request : Request) :
    ledger findCycle (requests ++ [request]) =
      (placedCharge findCycle (after (step findCycle) .initial requests, request)).elim
        (ledger findCycle requests) (record (ledger findCycle requests)) := by
  unfold ledger
  rw [history_snoc, List.filterMap_append, List.foldl_append]
  cases placed : placedCharge findCycle (after (step findCycle) .initial requests, request) with
  | none => simp [placed]
  | some charge => simp [placed]

theorem initial_allocations : (ApiState.initial.allocator).allocations = fun _ => none := rfl

theorem initial_backed : Backed ApiState.initial.allocator [] where
  once := List.nodup_nil
  listed taskId := by simp [initial_allocations]
  known taskId nodeId mapped := by simp [initial_allocations] at mapped

theorem initial_accounted : Accounted ApiState.initial.allocator [] := by
  unfold Accounted
  decide +kernel

theorem allocator_ledger_snoc (requests : List Request) (request : Request) :
    ((∀ req env, request = .submitTask req env →
          placedOn findCycle (after (step findCycle) .initial requests) req = none) ∧
        (after (step findCycle) .initial (requests ++ [request])).allocator =
          (after (step findCycle) .initial requests).allocator ∧
        ledger findCycle (requests ++ [request]) = ledger findCycle requests) ∨
      ∃ req env node, request = .submitTask req env ∧
        placedOn findCycle (after (step findCycle) .initial requests) req = some node ∧
        (after (step findCycle) .initial (requests ++ [request])).allocator =
          (after (step findCycle) .initial requests).allocator.charge req.taskId node.nodeId
            req.cpuRequest req.memoryRequest ∧
        ledger findCycle (requests ++ [request]) =
          record (ledger findCycle requests)
            ⟨req.taskId, req.cpuRequest, req.memoryRequest⟩ := by
  rw [ledger_snoc, after_snoc]
  cases request with
  | submitTask req env =>
      cases placed : placedOn findCycle (after (step findCycle) .initial requests) req with
      | none =>
          left
          refine ⟨?_, submitTask_allocator_none env placed, by simp [placedCharge, placed]⟩
          rintro _ _ ⟨⟩
          exact placed
      | some node =>
          right
          exact ⟨req, env, node, rfl, placed, submitTask_allocator_some env placed,
            by simp [placedCharge, placed]⟩
  | getNextTask =>
      left
      refine ⟨?_, (getNextTask_frame (after (step findCycle) .initial requests)).2, rfl⟩
      intro req env impossible
      cases impossible
  | changeAlgorithm algorithm =>
      left
      refine ⟨?_, rfl, rfl⟩
      intro req env impossible
      cases impossible

theorem run_backed (requests : List Request) :
    Backed (after (step findCycle) .initial requests).allocator (ledger findCycle requests) := by
  induction requests using List.reverseRecOn with
  | nil => exact initial_backed
  | append_singleton requests request ih =>
      rcases allocator_ledger_snoc findCycle requests request with
        ⟨_, sameAllocator, sameLedger⟩ | ⟨req, env, node, _, placed, charged, recorded⟩
      · rw [sameAllocator, sameLedger]
        exact ih
      · rw [charged, recorded]
        exact ih.charge (placedOn_mem placed).1 ⟨req.taskId, req.cpuRequest, req.memoryRequest⟩

/-- Over any run the nodes' usage is that of the tasks mapped to them exactly
when no task is placed again, except after an empty request. -/
theorem books_balance_iff (requests : List Request) :
    (∀ earlier, earlier <+: requests → BooksBalance findCycle earlier) ↔
      ∀ earlier request, earlier ++ [request] <+: requests →
        NotChargedBefore findCycle earlier request := by
  have start : BooksBalance findCycle [] := initial_accounted
  have exactStep : ∀ earlier request, BooksBalance findCycle earlier →
      (BooksBalance findCycle (earlier ++ [request]) ↔
        NotChargedBefore findCycle earlier request) := by
    intro earlier request accounted
    unfold BooksBalance
    rcases allocator_ledger_snoc findCycle earlier request with
      ⟨nowhere, sameAllocator, sameLedger⟩ | ⟨req, env, node, rfl, placed, charged, recorded⟩
    · rw [sameAllocator, sameLedger]
      apply iff_of_true accounted
      cases request with
      | submitTask req env => exact fun somewhere => absurd (nowhere req env rfl) somewhere
      | getNextTask => trivial
      | changeAlgorithm algorithm => trivial
    · rw [charged, recorded]
      simp only [NotChargedBefore, placed, ne_eq, reduceCtorEq, not_false_eq_true, true_imp_iff]
      exact accounted_charge_iff accounted (run_backed findCycle earlier) (placedOn_mem placed).1
        ⟨req.taskId, req.cpuRequest, req.memoryRequest⟩
  exact forall_prefix_iff start exactStep requests

end Runs

def repeatedRun : List Request :=
  [.submitTask (.minimal "a" "echo hi") ⟨0, false, false⟩,
    .submitTask (.minimal "a" "echo hi") ⟨1, false, false⟩]

theorem repeated_task_charged_twice :
    (history (step searchCycle) .initial repeatedRun).map
        (fun entry => (serve searchCycle entry.1 entry.2).1) =
      [.queued "a" (some "node-1") "medium" "mlfq",
        .queued "a" (some "node-1") "medium" "mlfq"] ∧
      (after (step searchCycle) .initial repeatedRun).allocator.nodes.map Node.usedCpu =
        [1, 0, 0] ∧
      (ledger searchCycle repeatedRun).map Charge.cpu = [1 / 2] ∧
      ¬ BooksBalance searchCycle repeatedRun := by
  unfold BooksBalance Accounted
  decide +kernel

end CloudOS.TaskScheduler.NodeAccounting
