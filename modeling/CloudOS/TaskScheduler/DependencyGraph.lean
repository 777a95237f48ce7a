import CloudOS.TaskScheduler.TaskConservation

/-!
# The dependency graph under API traffic

Every submission edits the one graph of the module, and a submission that
closes a cycle is rolled back by removing its node.  All edges of a submission
start at that node, so the graph stays without cycles; but the node may have
been there before, and then the rollback takes edges of accepted tasks along.
-/

set_option autoImplicit false

namespace CloudOS.TaskScheduler.DependencyGraph

open CloudOS.Lib.Digraph
open CloudOS.Lib.History
open CloudOS.TaskScheduler.DeadlockDetector
open CloudOS.TaskScheduler.Resources
open CloudOS.TaskScheduler.SchedulerApi
open CloudOS.TaskScheduler.TaskConservation

section Definitions
variable (findCycle : DiGraph → Option (List Edge))

def acceptedEdges (entry : ApiState × Request) : List Edge :=
  match entry.2 with
  | .submitTask req _ =>
      if isQueued (serve findCycle entry.1 entry.2).1 then
        req.dependsOn.map fun dep => (req.taskId, dep)
      else []
  | _ => []

def accepted (requests : List Request) : List Edge :=
  (history (step findCycle) .initial requests).flatMap (acceptedEdges findCycle)

def KeepsAccepted (requests : List Request) : Prop :=
  ∀ edge ∈ accepted findCycle requests,
    edge ∈ (after (step findCycle) .initial requests).detector.edges

/-- A submission that closes a cycle has an id that no accepted dependency
mentions. -/
def SparesAccepted (earlier : List Request) : Request → Prop
  | .submitTask req _ =>
      hasDeadlock findCycle (extended (after (step findCycle) .initial earlier) req) = true →
        ∀ edge ∈ accepted findCycle earlier, edge.1 ≠ req.taskId ∧ edge.2 ≠ req.taskId
  | _ => True

def isHttpError : Response → Bool
  | .httpError _ _ => true
  | _ => false

structure Untouched (s s' : ApiState) : Prop where
  detector : s'.detector = s.detector
  allocator : s'.allocator = s.allocator
  scheduler : s'.scheduler = s.scheduler

/-- A submission that closes a cycle is of an unknown task with known
dependencies; one that finds no room is of a known task with its dependencies
registered before. -/
def LeavesNoTrace (s : ApiState) (req : SubmitTaskRequest) : Prop :=
  if hasDeadlock findCycle (extended s req) = true then
    req.taskId ∉ s.detector.nodes ∧
      ∀ dep ∈ req.dependsOn, dep = req.taskId ∨ dep ∈ s.detector.nodes
  else
    candidates s.allocator req.cpuRequest req.memoryRequest = [] →
      req.taskId ∈ s.detector.nodes ∧
        ∀ dep ∈ req.dependsOn, (req.taskId, dep) ∈ s.detector.edges

def Acyclic (s : ApiState) : Prop := ¬ HasCycle s.detector.edges

end Definitions

/-! ## One submission -/

section Submit
variable {findCycle : DiGraph → Option (List Edge)} {s : ApiState} {req : SubmitTaskRequest}

theorem submitTask_detector (findCycle : DiGraph → Option (List Edge)) (s : ApiState)
    (req : SubmitTaskRequest) (env : SubmitEnv) :
    (submitTask findCycle req env s).2.detector =
      if hasDeadlock findCycle (extended s req) = true then
        removeTask (extended s req) req.taskId
      else extended s req := by
  cases cycle : hasDeadlock findCycle (extended s req) with
  | true => simp [submitTask_deadlock env cycle]
  | false =>
      cases room : placement s req with
      | none => simp [submitTask_noRoom env cycle room]
      | some node => simp [submitTask_placed env cycle room, enqueueAndPush_eq]

theorem isHttpError_enqueueAndPush (env : SubmitEnv) (node : Option String) :
    isHttpError (enqueueAndPush req env node s).1 = false := by
  rw [enqueueAndPush_eq]
  split_ifs <;> rfl

/-- A submission that raises leaves everything as it was exactly when there
was nothing to undo but its own node, or nothing to undo at all. -/
theorem failed_submission_untouched_iff (findCycle : DiGraph → Option (List Edge)) (s : ApiState)
    (req : SubmitTaskRequest) (env : SubmitEnv) :
    (isHttpError (submitTask findCycle req env s).1 = true →
        Untouched s (submitTask findCycle req env s).2) ↔
      LeavesNoTrace findCycle s req := by
  unfold LeavesNoTrace
  cases cycle : hasDeadlock findCycle (extended s req) with
  | true =>
      rw [submitTask_deadlock env cycle, if_pos rfl, ← removeTask_addTask_eq_self_iff]
      constructor
      · intro untouched
        exact (untouched rfl).detector
      · intro same _
        exact ⟨same, rfl, rfl⟩
  | false =>
      rw [if_neg Bool.false_ne_true, ← addTask_eq_self_iff]
      cases room : placement s req with
      | none =>
          rw [submitTask_noRoom env cycle room]
          constructor
          · intro untouched _
            exact (untouched rfl).detector
          · intro same _
            exact ⟨same (chosenNode_eq_none_iff.mp room), rfl, rfl⟩
      | some node =>
          have hasRoom : candidates s.allocator req.cpuRequest req.memoryRequest ≠ [] := by
            intro full
            have nowhere : placement s req = none := chosenNode_eq_none_iff.mpr full
            simp [nowhere] at room
          simp [submitTask_placed env cycle room, isHttpError_enqueueAndPush, hasRoom]

end Submit

/-- A task that depends on itself and on an unknown one leaves the unknown one
behind. -/
def selfDependent : SubmitTaskRequest :=
  { SubmitTaskRequest.minimal "a" "echo hi" with dependsOn := ["a", "b"] }

/-- A task too large for every node stays in the graph with its dependency. -/
def tooLarge : SubmitTaskRequest :=
  { SubmitTaskRequest.minimal "a" "echo hi" with cpuRequest := 100, dependsOn := ["b"] }

def quiet : SubmitEnv := ⟨0, false, false⟩

theorem failed_submission_leaves_traces :
    (submitTask searchCycle selfDependent quiet .initial).1 = .httpError 400 (.deadlock none) ∧
      (submitTask searchCycle selfDependent quiet .initial).2.detector.nodes = ["b"] ∧
      (submitTask searchCycle tooLarge quiet .initial).1 =
        .httpError 507 (.message "No node has enough resources for a") ∧
      (submitTask searchCycle tooLarge quiet .initial).2.detector.nodes = ["a", "b"] ∧
      (submitTask searchCycle tooLarge quiet .initial).2.detector.edges = [("a", "b")] ∧
      ¬ Untouched .initial (submitTask searchCycle selfDependent quiet .initial).2 ∧
      ¬ Untouched .initial (submitTask searchCycle tooLarge quiet .initial).2 := by
  have placeholder :
      (submitTask searchCycle selfDependent quiet .initial).2.detector.nodes = ["b"] := by
    decide +kernel
  have kept : (submitTask searchCycle tooLarge quiet .initial).2.detector.nodes = ["a", "b"] := by
    decide +kernel
  refine ⟨by decide +kernel, placeholder, by decide +kernel, kept, by decide +kernel, ?_, ?_⟩
  · intro untouched
    rw [untouched.detector] at placeholder
    cases placeholder
  · intro untouched
    rw [untouched.detector] at kept
    cases kept

/-! ## Accepted dependencies -/

section Accepted
variable (findCycle : DiGraph → Option (List Edge))

theorem accepted_snoc (requests : List Request) (request : Request) :
    accepted findCycle (requests ++ [request]) =
      accepted findCycle requests ++
        acceptedEdges findCycle (after (step findCycle) .initial requests, request) := by
  simp [accepted, history_snoc]

variable {findCycle} {s : ApiState} {req : SubmitTaskRequest} {env : SubmitEnv}

theorem acceptedEdges_deadlock (cycle : hasDeadlock findCycle (extended s req) = true) :
    acceptedEdges findCycle (s, .submitTask req env) = [] := by
  simp [acceptedEdges, serve, submitTask_deadlock env cycle, isQueued]

theorem acceptedEdges_extended :
    ∀ edge ∈ acceptedEdges findCycle (s, .submitTask req env), edge ∈ (extended s req).edges := by
  intro edge member
  simp only [acceptedEdges] at member
  split at member
  · obtain ⟨dep, dependsOn, rfl⟩ := List.mem_map.mp member
    exact mem_addTask_edges.mpr (Or.inr ⟨rfl, dependsOn⟩)
  · simp at member

theorem keepsAccepted_submit {earlier : List Request} (kept : KeepsAccepted findCycle earlier) :
    KeepsAccepted findCycle (earlier ++ [.submitTask req env]) ↔
      SparesAccepted findCycle earlier (.submitTask req env) := by
  have graph := submitTask_detector findCycle (after (step findCycle) .initial earlier) req env
  have stepped : ∀ edge ∈ accepted findCycle earlier,
      edge ∈ (extended (after (step findCycle) .initial earlier) req).edges :=
    fun edge member => mem_addTask_edges.mpr (Or.inl (kept edge member))
  simp only [KeepsAccepted, SparesAccepted, accepted_snoc, after_snoc, step, serve, graph]
  cases cycle : hasDeadlock findCycle (extended (after (step findCycle) .initial earlier) req) with
  | true =>
      rw [acceptedEdges_deadlock cycle, List.append_nil, if_pos rfl]
      constructor
      · intro still _ edge member
        have survivor := still edge member
        rw [extended, removeTask_addTask, mem_removeNode_edges] at survivor
        exact survivor.2
      · intro spared edge member
        rw [extended, removeTask_addTask, mem_removeNode_edges]
        exact ⟨stepped edge member, spared rfl edge member⟩
  | false =>
      constructor
      · intro _ impossible
        cases impossible
      · intro _ edge member
        rcases List.mem_append.mp member with old | new
        · exact stepped edge old
        · exact acceptedEdges_extended edge new

theorem keepsAccepted_other {earlier : List Request} {request : Request}
    (same : (step findCycle (after (step findCycle) .initial earlier) request).detector =
      (after (step findCycle) .initial earlier).detector)
    (none : acceptedEdges findCycle (after (step findCycle) .initial earlier, request) = [])
    (kept : KeepsAccepted findCycle earlier) :
    KeepsAccepted findCycle (earlier ++ [request]) := by
  unfold KeepsAccepted
  rw [accepted_snoc, none, List.append_nil, after_snoc, same]
  exact kept

/-- Over any run, every accepted dependency stays in the graph exactly when
every submission that closes a cycle has an id that no dependency accepted
before mentions. -/
theorem accepted_dependencies_kept_iff (findCycle : DiGraph → Option (List Edge))
    (requests : List Request) :
    (∀ earlier, earlier <+: requests → KeepsAccepted findCycle earlier) ↔
      ∀ earlier request, earlier ++ [request] <+: requests →
        SparesAccepted findCycle earlier request := by
  have start : KeepsAccepted findCycle [] := by simp [KeepsAccepted, accepted, history]
  have exactStep : ∀ earlier request, KeepsAccepted findCycle earlier →
      (KeepsAccepted findCycle (earlier ++ [request]) ↔
        SparesAccepted findCycle earlier request) := by
    intro earlier request kept
    cases request with
    | submitTask req env => exact keepsAccepted_submit kept
    | getNextTask =>
        exact iff_of_true (keepsAccepted_other (getNextTask_frame _).1 rfl kept) trivial
    | changeAlgorithm algorithm =>
        exact iff_of_true (keepsAccepted_other rfl rfl kept) trivial
  exact forall_prefix_iff start exactStep requests

/-- The rejected task was already depended on: its rollback takes the edge of
the accepted task along. -/
def lostDependency : List Request :=
  [.submitTask { SubmitTaskRequest.minimal "a" "echo hi" with dependsOn := ["b"] } quiet,
    .submitTask { SubmitTaskRequest.minimal "b" "echo hi" with dependsOn := ["a"] } quiet]

theorem accepted_dependency_lost :
    (history (step searchCycle) .initial lostDependency).map
        (fun entry => (serve searchCycle entry.1 entry.2).1) =
      [.queued "a" (some "node-1") "medium" "mlfq", .httpError 400 (.deadlock none)] ∧
      accepted searchCycle lostDependency = [("a", "b")] ∧
      (after (step searchCycle) .initial lostDependency).detector.edges = [] ∧
      ¬ KeepsAccepted searchCycle lostDependency := by
  unfold KeepsAccepted
  decide +kernel

end Accepted

/-! ## No cycle ever -/

section Cycles
variable {findCycle : DiGraph → Option (List Edge)} (finds : FindsCycles findCycle)
include finds

theorem submitTask_acyclic (s : ApiState) (req : SubmitTaskRequest) (env : SubmitEnv)
    (acyclic : Acyclic s) : Acyclic (submitTask findCycle req env s).2 := by
  unfold Acyclic
  rw [submitTask_detector]
  split
  · -- what the rollback leaves was there before
    intro cyclic
    exact acyclic (cyclic.mono removeTask_addTask_edges_subset)
  · rename_i noCycle
    exact mt (finds (extended s req)).mpr noCycle

theorem step_acyclic (s : ApiState) (request : Request) (acyclic : Acyclic s) :
    Acyclic (step findCycle s request) := by
  cases request with
  | submitTask req env => exact submitTask_acyclic finds s req env acyclic
  | getNextTask =>
      have same : (step findCycle s .getNextTask).detector = s.detector := (getNextTask_frame s).1
      unfold Acyclic
      rw [same]
      exact acyclic
  | changeAlgorithm algorithm => exact acyclic

theorem run_acyclic (requests : List Request) :
    Acyclic (after (step findCycle) .initial requests) := by
  have start : Acyclic .initial := by
    rintro ⟨v, around⟩
    obtain ⟨w, linked, _⟩ := Relation.TransGen.head'_iff.mp around
    cases linked
  exact after_invariant (step_acyclic finds) start requests

/-- No run makes a cycle, so there is always an execution order. -/
theorem always_acyclic (topologicalSort : DiGraph → List String) (requests : List Request) :
    Acyclic (after (step findCycle) .initial requests) ∧
      ∀ status detail,
        executionOrder findCycle topologicalSort (after (step findCycle) .initial requests) ≠
          .httpError status detail := by
  have acyclic := run_acyclic finds requests
  have noDeadlock :
      hasDeadlock findCycle (after (step findCycle) .initial requests).detector = false := by
    rw [Bool.eq_false_iff]
    exact mt (finds _).mp acyclic
  constructor
  · exact acyclic
  · intro status detail
    simp [executionOrder, getExecutionOrder, noDeadlock]

end Cycles

/-- Accepted, rejected for a self-dependency, and rejected for a cycle through
a task submitted before. -/
def mixedRun : List Request :=
  [.submitTask { SubmitTaskRequest.minimal "a" "echo hi" with dependsOn := ["b", "c"] } quiet,
    .submitTask { SubmitTaskRequest.minimal "b" "echo hi" with dependsOn := ["b"] } quiet,
    .submitTask { SubmitTaskRequest.minimal "c" "echo hi" with dependsOn := ["d", "a"] } quiet,
    .submitTask { SubmitTaskRequest.minimal "a" "echo hi" with dependsOn := ["d"] } quiet]

theorem mixedRun_acyclic :
    FindsCycles searchCycle ∧
      (after (step searchCycle) .initial mixedRun).detector.edges = [("a", "d")] ∧
      Acyclic (after (step searchCycle) .initial mixedRun) ∧
      ∀ status detail,
        executionOrder searchCycle (fun _ => ["a", "d"])
          (after (step searchCycle) .initial mixedRun) ≠ .httpError status detail :=
  ⟨searchCycle_findsCycles, by decide +kernel,
    always_acyclic searchCycle_findsCycles (fun _ => ["a", "d"]) mixedRun⟩

/-! ## What a rejected submission is told -/

/-- Each id depends on the next one, and the last on the first. -/
def CycleOf (edges : List Edge) (ids : List String) : Prop :=
  ids ≠ [] ∧ ∀ edge ∈ ids.zip (ids.rotate 1), edge ∈ edges

instance (edges : List Edge) (ids : List String) : Decidable (CycleOf edges ids) :=
  inferInstanceAs (Decidable (_ ∧ _))

def acceptedWith (findCycle : DiGraph → Option (List Edge)) (requests : List Request)
    (req : SubmitTaskRequest) : List Edge :=
  accepted findCycle requests ++ req.dependsOn.map fun dep => (req.taskId, dep)

def NamesCycle (edges : List Edge) (detail : Detail) : Prop :=
  ∃ ids, detail = .deadlock (some ids) ∧ CycleOf edges ids

section Report
variable {findCycle : DiGraph → Option (List Edge)}

/-- After the rollback there is no cycle left to report. -/
theorem getCycle_rolledBack (finds : FindsCycles findCycle) {s : ApiState} (acyclic : Acyclic s)
    (req : SubmitTaskRequest) :
    getCycle findCycle (removeTask (extended s req) req.taskId) = none := by
  have noCycle : ¬ HasCycle (removeTask (extended s req) req.taskId).edges :=
    fun cyclic => acyclic (cyclic.mono removeTask_addTask_edges_subset)
  have notFound := mt (finds _).mp noCycle
  rw [getCycle, Option.not_isSome_iff_eq_none.mp notFound, Option.map_none]

theorem submitTask_400 {s : ApiState} {req : SubmitTaskRequest} {env : SubmitEnv}
    {detail : Detail} (rejected : (submitTask findCycle req env s).1 = .httpError 400 detail) :
    hasDeadlock findCycle (extended s req) = true := by
  by_contra noCycle
  rw [Bool.not_eq_true] at noCycle
  cases room : placement s req with
  | none =>
      rw [submitTask_noRoom env noCycle room] at rejected
      cases rejected
  | some node =>
      rw [submitTask_placed env noCycle room] at rejected
      have noError := congrArg isHttpError rejected
      rw [isHttpError_enqueueAndPush] at noError
      cases noError

/-- In every run, a submission answered 400 closes a cycle, and its answer
names none. -/
theorem reported_cycle_never_real (finds : FindsCycles findCycle) (requests : List Request)
    (req : SubmitTaskRequest) (env : SubmitEnv) (detail : Detail)
    (rejected : (submitTask findCycle req env
      (after (step findCycle) .initial requests)).1 = .httpError 400 detail) :
    HasCycle (extended (after (step findCycle) .initial requests) req).edges ∧
      detail = .deadlock none ∧ ¬ NamesCycle (acceptedWith findCycle requests req) detail := by
  have cycle := submitTask_400 rejected
  have unnamed : detail = .deadlock none := by
    rw [submitTask_deadlock env cycle, getCycle_rolledBack finds (run_acyclic finds requests)]
      at rejected
    cases rejected
    rfl
  refine ⟨(finds _).mp cycle, unnamed, ?_⟩
  rintro ⟨ids, named, _⟩
  rw [unnamed] at named
  cases named

end Report

def secondOfTwo : SubmitTaskRequest :=
  { SubmitTaskRequest.minimal "b" "echo hi" with dependsOn := ["a"] }

theorem mutual_dependency_unnamed :
    FindsCycles searchCycle ∧
      HasCycle (extended (after (step searchCycle) .initial (lostDependency.take 1))
        secondOfTwo).edges ∧
      Detail.deadlock none = .deadlock none ∧
      ¬ NamesCycle (acceptedWith searchCycle (lostDependency.take 1) secondOfTwo)
        (.deadlock none) :=
  ⟨searchCycle_findsCycles,
    reported_cycle_never_real searchCycle_findsCycles (lostDependency.take 1) secondOfTwo quiet
      (.deadlock none) (by decide +kernel)⟩

/-- The cycle is there to be named, and the answer has none. -/
theorem deadlock_answer_without_cycle :
    (submitTask searchCycle secondOfTwo quiet
        (after (step searchCycle) .initial (lostDependency.take 1))).1 =
      .httpError 400 (.deadlock none) ∧
      acceptedWith searchCycle (lostDependency.take 1) secondOfTwo = [("a", "b"), ("b", "a")] ∧
      CycleOf (acceptedWith searchCycle (lostDependency.take 1) secondOfTwo) ["a", "b"] ∧
      ¬ NamesCycle (acceptedWith searchCycle (lostDependency.take 1) secondOfTwo)
        (.deadlock none) := by
  refine ⟨by decide +kernel, by decide +kernel, by decide +kernel, ?_⟩
  rintro ⟨ids, named, _⟩
  cases named

end CloudOS.TaskScheduler.DependencyGraph
