import CloudOS.Gateway.TaskService
import CloudOS.Lib.Digraph

/-!
# What is in the task store

Nothing is ever taken out of the store.  An id that the client supplies is
looked up first; a generated one is not, so that a coincidence puts the new
task in the place of an old one.  Where generated ids are new, a task can only
depend on what was in the store before it, and no cycle can be declared.
-/

set_option autoImplicit false

namespace CloudOS.Gateway.StoredTasks

open CloudOS.Gateway.TaskService
open CloudOS.Lib.Digraph
open CloudOS.Lib.History
open CloudOS.Lib.References

/-- The dependencies that tasks were registered with. -/
def declared (calls : List DetectorCall) : List (String × String) :=
  calls.flatMap fun
    | .addTask taskId dependencies => dependencies.map fun depId => (taskId, depId)
    | .removeTask _ => []

section Definitions
variable (detector : Detector)

/-- What was in the store at some time is there at the end, the same object
under the same id. -/
def TasksStay (requests : List Request) : Prop :=
  ∀ earlier, earlier <+: requests → ∀ taskId ref,
    (after (step detector) .initial earlier).taskStore.ref? taskId = some ref →
      (after (step detector) .initial requests).taskStore.ref? taskId = some ref

/-- A submission that puts a task under a generated id does not find the id in
use. -/
def GeneratesUnused (s : Globals) : Request → Prop
  | .submitTask body env =>
      body.clientId = none → Writes detector s body env →
        s.isStored env.generatedId.text = false
  | _ => True

/-- A cycle is reported only if the dependencies ever declared and the new ones
contain one. -/
def ReportsRealCycles : Prop :=
  ∀ calls taskId dependencies, (detector.canAdd calls taskId dependencies).1 = false →
    HasCycle (declared calls ++ dependencies.map fun depId => (taskId, depId))

def PutBefore (requests : List Request) (first second : String) : Prop :=
  (after (step detector) .initial requests).isStored second = true ∧
    ∃ earlier, earlier <+: requests ∧
      (after (step detector) .initial earlier).isStored first = true ∧
      (after (step detector) .initial earlier).isStored second = false

end Definitions

def GeneratesNew : Globals × Request → Prop
  | (s, .submitTask body env) => body.clientId = none → s.isStored env.generatedId.text = false
  | _ => True

instance : DecidablePred GeneratesNew
  | (s, .submitTask body env) =>
      inferInstanceAs (Decidable (body.clientId = none → s.isStored env.generatedId.text = false))
  | (_, .cancelTask _) => inferInstanceAs (Decidable True)
  | (_, .completeTask _ _) => inferInstanceAs (Decidable True)

/-! ## Requests that store nothing -/

structure SameTasks (s s' : Globals) : Prop where
  refs : ∀ taskId, s'.taskStore.ref? taskId = s.taskStore.ref? taskId
  size : s'.taskStore.heap.length = s.taskStore.heap.length
  declares : declared s'.detectorCalls = declared s.detectorCalls

section Frames
variable {s s' : Globals}

theorem mem_declared_addTask {calls : List DetectorCall} {taskId depId next : String}
    {dependencies : List String} :
    (taskId, depId) ∈ declared (calls ++ [.addTask next dependencies]) ↔
      (taskId, depId) ∈ declared calls ∨ taskId = next ∧ depId ∈ dependencies := by
  simp [declared, and_comm, eq_comm]

theorem SameTasks.refl (s : Globals) : SameTasks s s := ⟨fun _ => rfl, rfl, rfl⟩

theorem SameTasks.trans {s'' : Globals} (first : SameTasks s s') (second : SameTasks s' s'') :
    SameTasks s s'' :=
  ⟨fun taskId => (second.refs taskId).trans (first.refs taskId), second.size.trans first.size,
    second.declares.trans first.declares⟩

theorem SameTasks.isStored (same : SameTasks s s') (taskId : String) :
    s'.isStored taskId = s.isStored taskId := by
  rw [Globals.isStored, same.refs, Globals.isStored]

theorem SameTasks.of_sameStore (same : SameStore s s') : SameTasks s s' :=
  ⟨same.ref?, same.size, congrArg declared same.calls⟩

theorem removeFromDetector_sameTasks (s : Globals) (taskId : String) :
    SameTasks s (s.removeFromDetector taskId) :=
  ⟨fun _ => rfl, rfl, by simp [Globals.removeFromDetector, declared]⟩

theorem setStatus_sameTasks (s : Globals) (ref : TaskRef) (status : TaskStatus) :
    SameTasks s (s.setStatus ref status) :=
  .of_sameStore (setStatus_sameStore s ref status)

theorem cancelTask_sameTasks (taskId : String) (s : Globals) :
    SameTasks s (cancelTask taskId s).2 := by
  have outcome := cancelTask_cancelled taskId s
  generalize cancelTask taskId s = result at outcome
  cases outcome with
  | refused => exact .refl s
  | cancelled message ref task _ _ =>
      exact (setStatus_sameTasks s ref .rejected).trans (removeFromDetector_sameTasks _ taskId)

theorem finished_sameTasks (taskId : String) (s : Globals) (ref : TaskRef) :
    SameTasks s (finished taskId s ref) := by
  have released : SameTasks (s.setStatus ref .completed)
      ((s.setStatus ref .completed).release ref) := ⟨fun _ => rfl, rfl, rfl⟩
  exact ((setStatus_sameTasks s ref .completed).trans released).trans
    (removeFromDetector_sameTasks _ taskId)

theorem completeTask_sameTasks (detector : Detector) (taskId : String) (env : PassEnv)
    (s : Globals) : SameTasks s (completeTask detector taskId env s).2 := by
  have outcome := completeTask_completed detector taskId s env
  generalize completeTask detector taskId env s = result at outcome
  cases outcome with
  | unchanged => exact .refl s
  | completed response ref task _ _ _ =>
      exact (finished_sameTasks taskId s ref).trans
        (.of_sameStore (triggerScheduling_sameStore detector env _))

end Frames

/-! ## Tasks stay in the store -/

section Stay
variable {detector : Detector} {s : Globals}

theorem isStored_eq_false_iff {taskId : String} :
    s.isStored taskId = false ↔ s.taskStore.ref? taskId = none := by
  simp [Globals.isStored]

theorem generatesUnused_iff {body : TaskRequest} {env : SubmitEnv}
    (isWritten : Writes detector s body env) :
    GeneratesUnused detector s (.submitTask body env) ↔
      s.taskStore.ref? (taskIdOf body env) = none := by
  rw [← isStored_eq_false_iff]
  cases client : body.clientId with
  | none => simp [GeneratesUnused, taskIdOf, client, isWritten]
  | some taskId =>
      have unused := isWritten.2.1 taskId client
      simp [GeneratesUnused, taskIdOf, client, unused]

theorem step_keeps_iff (request : Request) :
    (∀ taskId ref, s.taskStore.ref? taskId = some ref →
        (step detector s request).taskStore.ref? taskId = some ref) ↔
      GeneratesUnused detector s request := by
  cases request with
  | cancelTask taskId =>
      have same := (cancelTask_sameTasks taskId s).refs
      simp [step, serve, same, GeneratesUnused]
  | completeTask taskId env =>
      have same := (completeTask_sameTasks detector taskId env s).refs
      simp [step, serve, same, GeneratesUnused]
  | submitTask body env =>
      have outcome := submitTask_submitted detector s body env
      simp only [step, serve]
      generalize submitTask detector body env s = result at outcome
      cases outcome with
      | refused status detail _ unwritten =>
          exact iff_of_true (fun _ _ found => found) fun _ isWritten => absurd isWritten unwritten
      | deadlocked detail _ _ _ unwritten =>
          exact iff_of_true (fun _ _ found => found) fun _ isWritten => absurd isWritten unwritten
      | overQuota detail task isWritten =>
          rw [generatesUnused_iff isWritten]
          exact s.taskStore.put_keeps_iff (taskIdOf body env) _
      | registered response task _ _ isWritten _ =>
          have pass := triggerScheduling_sameStore detector env.pass (putRegistered s body env task)
          rw [generatesUnused_iff isWritten]
          simp only [pass.ref?]
          exact s.taskStore.put_keeps_iff (taskIdOf body env) task

end Stay

/-- Over any run, what was put in the store stays there exactly when no task is
put under a generated id that is in use. -/
theorem stored_tasks_stay_iff (detector : Detector) (requests : List Request) :
    (∀ earlier, earlier <+: requests → TasksStay detector earlier) ↔
      ∀ earlier request, earlier ++ [request] <+: requests →
        GeneratesUnused detector (after (step detector) .initial earlier) request := by
  have start : TasksStay detector [] := by
    intro earlier isPrefix taskId ref found
    obtain rfl := List.prefix_nil.mp isPrefix
    exact found
  have exactStep : ∀ earlier request, TasksStay detector earlier →
      (TasksStay detector (earlier ++ [request]) ↔
        GeneratesUnused detector (after (step detector) .initial earlier) request) := by
    intro earlier request stay
    rw [← step_keeps_iff]
    constructor
    · intro stayOn taskId ref found
      rw [← after_snoc (step detector)]
      exact stayOn earlier (List.prefix_append earlier [request]) taskId ref found
    · intro kept first isPrefix taskId ref found
      rcases List.prefix_concat_iff.mp isPrefix with rfl | within
      · exact found
      · rw [after_snoc]
        exact kept taskId ref (stay first within taskId ref found)
  exact forall_prefix_iff start exactStep requests

def someId : GeneratedId := ⟨"0a1b2c3d", by decide, by decide⟩

/-- The first queue entry, and always a worker. -/
def easyPass : PassEnv := ⟨fun _ => .mlfq, fun _ => 0, fun _ => some "worker-1"⟩

def rememberingDetector : Detector where
  canAdd calls taskId dependencies :=
    let edges := declared calls ++ dependencies.map fun depId => (taskId, depId)
    let cycle := findCycle edges (edges.map Prod.fst)
    (!cycle.isSome, cycle.map fun edges => edges.map Prod.fst)
  getReadyTasks calls allIds completedIds :=
    allIds.filter fun taskId => taskId ∉ completedIds ∧
      ∀ edge ∈ declared calls, edge.1 = taskId → edge.2 ∈ completedIds

/-- Two submissions without an id that are given the same one. -/
def coincidence : List Request :=
  [.submitTask (.minimal "first") ⟨someId, 0, true, easyPass⟩,
    .submitTask (.minimal "second") ⟨someId, 1, true, easyPass⟩]

/-- The first task is running, and no longer in the store. -/
theorem generated_id_replaces_task :
    (after (step rememberingDetector) .initial (coincidence.take 1)).taskStore.find? "0a1b2c3d" =
        some (0, ⟨"0a1b2c3d", "first", 1, .normal, [], 1, 256, .running, 0, some "worker-1"⟩) ∧
      (after (step rememberingDetector) .initial coincidence).taskStore.find? "0a1b2c3d" =
        some (1, ⟨"0a1b2c3d", "second", 1, .normal, [], 1, 256, .pending, 1, none⟩) ∧
      (after (step rememberingDetector) .initial coincidence).reservations = [(0, "worker-1")] ∧
      ¬ TasksStay rememberingDetector coincidence := by
  refine ⟨by decide +kernel, by decide +kernel, by decide +kernel, ?_⟩
  intro stay
  have before : (after (step rememberingDetector) .initial
      (coincidence.take 1)).taskStore.ref? "0a1b2c3d" = some 0 := by decide +kernel
  have replaced : (after (step rememberingDetector) .initial
      coincidence).taskStore.ref? "0a1b2c3d" = some 1 := by decide +kernel
  have still := stay (coincidence.take 1) (List.take_prefix 1 coincidence) "0a1b2c3d" 0 before
  rw [replaced] at still
  cases still

/-! ## Dependencies come first -/

/-- Registered tasks are in the store, behind what they depend on. -/
def Ordered (s : Globals) : Prop :=
  ∀ taskId depId, (taskId, depId) ∈ declared s.detectorCalls →
    ∃ ref dep, s.taskStore.ref? taskId = some ref ∧ s.taskStore.ref? depId = some dep ∧ dep < ref

section Order
variable {detector : Detector} {s s' : Globals} {body : TaskRequest} {env : SubmitEnv}

theorem Ordered.same (ordered : Ordered s) (same : SameTasks s s') : Ordered s' := by
  intro taskId depId edge
  rw [same.declares] at edge
  simp only [same.refs]
  exact ordered taskId depId edge

theorem taskIdOf_unused (isNew : GeneratesNew (s, .submitTask body env))
    (unused : ∀ taskId, body.clientId = some taskId → s.isStored taskId = false) :
    s.taskStore.ref? (taskIdOf body env) = none := by
  rw [← isStored_eq_false_iff]
  unfold taskIdOf
  cases client : body.clientId with
  | none => exact isNew client
  | some taskId => exact unused taskId client

/-- The place in the store, with the place that the next task will have. -/
def rankWith (s : Globals) (next : String) (taskId : String) : Nat :=
  if taskId = next then s.taskStore.heap.length else (s.taskStore.ref? taskId).getD 0

theorem rankWith_of_stored {next taskId : String} {ref : TaskRef}
    (free : s.taskStore.ref? next = none) (found : s.taskStore.ref? taskId = some ref) :
    rankWith s next taskId = ref := by
  have apart : taskId ≠ next := by
    rintro rfl
    rw [free] at found
    cases found
  rw [rankWith, if_neg apart, found, Option.getD_some]

/-- A new task that depends on stored ones closes no cycle. -/
theorem Ordered.acyclic_with (ordered : Ordered s) {next : String}
    (free : s.taskStore.ref? next = none) {dependencies : List String}
    (known : ∀ depId ∈ dependencies, s.isStored depId = true) :
    ¬ HasCycle (declared s.detectorCalls ++ dependencies.map fun depId => (next, depId)) := by
  apply not_hasCycle_of_rank (rankWith s next)
  intro taskId depId edge
  rcases List.mem_append.mp edge with old | new
  · obtain ⟨ref, dep, stored, depStored, earlier⟩ := ordered taskId depId old
    rw [rankWith_of_stored free stored, rankWith_of_stored free depStored]
    exact earlier
  · obtain ⟨other, listed, same⟩ := List.mem_map.mp new
    cases same
    obtain ⟨dep, found⟩ := Option.isSome_iff_exists.mp (known depId listed)
    have top : rankWith s next next = s.taskStore.heap.length := by simp [rankWith]
    rw [rankWith_of_stored free found, top]
    exact RefStore.ref?_lt found

theorem Ordered.acyclic (ordered : Ordered s) : ¬ HasCycle (declared s.detectorCalls) := by
  apply not_hasCycle_of_rank fun taskId => (s.taskStore.ref? taskId).getD 0
  intro taskId depId edge
  obtain ⟨ref, dep, stored, depStored, earlier⟩ := ordered taskId depId edge
  simpa [stored, depStored] using earlier

theorem Ordered.putRegistered (ordered : Ordered s)
    (free : s.taskStore.ref? (taskIdOf body env) = none)
    (known : ∀ depId ∈ body.dependencies, s.isStored depId = true) (task : Task) :
    Ordered (putRegistered s body env task) := by
  have kept := (s.taskStore.put_keeps_iff (taskIdOf body env) task).mpr free
  intro taskId depId edge
  rcases mem_declared_addTask.mp edge with old | ⟨rfl, listed⟩
  · obtain ⟨ref, dep, stored, depStored, earlier⟩ := ordered taskId depId old
    exact ⟨ref, dep, kept taskId ref stored, kept depId dep depStored, earlier⟩
  · obtain ⟨dep, found⟩ := Option.isSome_iff_exists.mp (known depId listed)
    refine ⟨s.taskStore.heap.length, dep, ?_, kept depId dep found, RefStore.ref?_lt found⟩
    show (s.taskStore.put (taskIdOf body env) task).ref? (taskIdOf body env) = _
    rw [RefStore.ref?_put, if_pos rfl]

theorem isStored_putRegistered (s : Globals) (body : TaskRequest) (env : SubmitEnv)
    (task : Task) : (putRegistered s body env task).isStored (taskIdOf body env) = true := by
  simp [Globals.isStored, TaskService.putRegistered, RefStore.ref?_put]

theorem Ordered.putRejected (ordered : Ordered s)
    (free : s.taskStore.ref? (taskIdOf body env) = none) (task : Task) :
    Ordered (putRejected s body env task) := by
  have kept := (s.taskStore.put_keeps_iff (taskIdOf body env)
    { task with status := .rejected }).mpr free
  intro taskId depId edge
  obtain ⟨ref, dep, stored, depStored, earlier⟩ := ordered taskId depId edge
  exact ⟨ref, dep, kept taskId ref stored, kept depId dep depStored, earlier⟩

theorem step_ordered {request : Request} (ordered : Ordered s)
    (isNew : GeneratesNew (s, request)) : Ordered (step detector s request) := by
  cases request with
  | cancelTask taskId => exact ordered.same (cancelTask_sameTasks taskId s)
  | completeTask taskId env => exact ordered.same (completeTask_sameTasks detector taskId env s)
  | submitTask body env =>
      have outcome := submitTask_submitted detector s body env
      simp only [step, serve]
      generalize submitTask detector body env s = result at outcome
      cases outcome with
      | refused => exact ordered
      | deadlocked => exact ordered
      | overQuota detail task isWritten =>
          exact ordered.putRejected (taskIdOf_unused isNew isWritten.2.1) task
      | registered response task _ _ isWritten known =>
          have free := taskIdOf_unused isNew isWritten.2.1
          exact (ordered.putRegistered free known task).same
            (.of_sameStore (triggerScheduling_sameStore detector env.pass _))

theorem serve_ne_deadlock (sound : ReportsRealCycles detector) (ordered : Ordered s)
    {request : Request} (isNew : GeneratesNew (s, request)) (detail : Detail) :
    (serve detector s request).1 ≠ .httpError 409 detail := by
  cases request with
  | cancelTask taskId =>
      have outcome := cancelTask_cancelled taskId s
      simp only [serve]
      generalize cancelTask taskId s = result at outcome
      cases outcome with
      | refused status other otherwise =>
          intro same
          cases same
          exact otherwise rfl
      | cancelled message ref task _ _ =>
          intro same
          cases same
  | completeTask taskId env =>
      have outcome := completeTask_completed detector taskId s env
      simp only [serve]
      generalize completeTask detector taskId env s = result at outcome
      cases outcome with
      | unchanged response otherwise => exact otherwise detail
      | completed response ref task answered _ _ => exact answered 409 detail
  | submitTask body env =>
      have outcome := submitTask_submitted detector s body env
      simp only [serve]
      generalize submitTask detector body env s = result at outcome
      cases outcome with
      | refused status other otherwise _ =>
          intro same
          cases same
          exact otherwise rfl
      | deadlocked other unused known cyclic _ =>
          have free := taskIdOf_unused isNew unused
          exact absurd (sound _ _ _ cyclic) (ordered.acyclic_with free known)
      | overQuota other task _ =>
          intro same
          cases same
      | registered response task answered _ _ _ => exact answered 409 detail

theorem step_declares {request : Request} (isNew : GeneratesNew (s, request))
    {taskId depId : String}
    (edge : (taskId, depId) ∈ declared (step detector s request).detectorCalls) :
    (taskId, depId) ∈ declared s.detectorCalls ∨
      s.isStored depId = true ∧ s.isStored taskId = false ∧
        (step detector s request).isStored taskId = true := by
  cases request with
  | cancelTask other =>
      simp only [step, serve, (cancelTask_sameTasks other s).declares] at edge
      exact Or.inl edge
  | completeTask other env =>
      simp only [step, serve, (completeTask_sameTasks detector other env s).declares] at edge
      exact Or.inl edge
  | submitTask body env =>
      have outcome := submitTask_submitted detector s body env
      simp only [step, serve] at edge ⊢
      generalize submitTask detector body env s = result at outcome edge ⊢
      cases outcome with
      | refused => exact Or.inl edge
      | deadlocked => exact Or.inl edge
      | overQuota => exact Or.inl edge
      | registered response task _ _ isWritten known =>
          have pass := SameTasks.of_sameStore
            (triggerScheduling_sameStore detector env.pass (putRegistered s body env task))
          have free := taskIdOf_unused isNew isWritten.2.1
          simp only [pass.declares] at edge
          rcases mem_declared_addTask.mp edge with old | ⟨rfl, listed⟩
          · exact Or.inl old
          · refine Or.inr ⟨known depId listed, isStored_eq_false_iff.mpr free, ?_⟩
            rw [pass.isStored]
            exact isStored_putRegistered s body env task

theorem generatesUnused_of_new {request : Request} (isNew : GeneratesNew (s, request)) :
    GeneratesUnused detector s request := by
  cases request with
  | cancelTask taskId => trivial
  | completeTask taskId env => trivial
  | submitTask body env => exact fun generated _ => isNew generated

theorem step_isStored {request : Request} (isNew : GeneratesNew (s, request)) {taskId : String}
    (stored : s.isStored taskId = true) : (step detector s request).isStored taskId = true := by
  obtain ⟨ref, found⟩ := Option.isSome_iff_exists.mp stored
  have unused : GeneratesUnused detector s request := generatesUnused_of_new isNew
  have kept := (step_keeps_iff request).mpr unused taskId ref found
  exact Option.isSome_iff_exists.mpr ⟨ref, kept⟩

end Order

section Runs
variable {detector : Detector} {requests : List Request}

theorem declared_putBefore
    (isNew : ∀ entry ∈ history (step detector) .initial requests, GeneratesNew entry)
    {taskId depId : String}
    (edge : (taskId, depId) ∈
      declared (after (step detector) .initial requests).detectorCalls) :
    PutBefore detector requests depId taskId := by
  induction requests using List.reverseRecOn with
  | nil => simp [declared, Globals.initial] at edge
  | append_singleton requests request ih =>
      rw [history_snoc, List.forall_mem_append, List.forall_mem_singleton] at isNew
      obtain ⟨before, here⟩ := isNew
      rw [after_snoc] at edge
      unfold PutBefore
      rw [after_snoc]
      rcases step_declares here edge with old | ⟨depStored, unstored, stored⟩
      · obtain ⟨stored, earlier, isPrefix, first, second⟩ := ih before old
        exact ⟨step_isStored here stored, earlier,
          isPrefix.trans (List.prefix_append requests [request]), first, second⟩
      · exact ⟨stored, requests, List.prefix_append requests [request], depStored, unstored⟩

theorem initial_ordered : Ordered .initial := by
  intro taskId depId edge
  simp [declared, Globals.initial] at edge

/-- In every run in which generated ids are new, dependencies were stored before
the task that names them, they form no cycle, and no request is answered 409. -/
theorem dependencies_stored_first (detector : Detector) (sound : ReportsRealCycles detector)
    (requests : List Request)
    (isNew : ∀ entry ∈ history (step detector) .initial requests, GeneratesNew entry) :
    (∀ taskId depId,
        (taskId, depId) ∈ declared (after (step detector) .initial requests).detectorCalls →
          PutBefore detector requests depId taskId) ∧
      ¬ HasCycle (declared (after (step detector) .initial requests).detectorCalls) ∧
      ∀ entry ∈ history (step detector) .initial requests, ∀ detail,
        (serve detector entry.1 entry.2).1 ≠ .httpError 409 detail := by
  have kept : ∀ s request, Ordered s → GeneratesNew (s, request) →
      Ordered (step detector s request) := fun _ _ ordered allowed => step_ordered ordered allowed
  refine ⟨fun taskId depId edge => declared_putBefore isNew edge, ?_, ?_⟩
  · have ordered := after_invariant_allowed kept initial_ordered isNew
    exact ordered.acyclic
  · have ordered := history_invariant_allowed kept initial_ordered isNew
    intro entry member detail
    exact serve_ne_deadlock sound (ordered entry member) (isNew entry member) detail

end Runs

theorem rememberingDetector_reportsRealCycles : ReportsRealCycles rememberingDetector := by
  intro calls taskId dependencies reported
  have found : (findCycle (declared calls ++ dependencies.map fun depId => (taskId, depId))
      ((declared calls ++ dependencies.map fun depId => (taskId, depId)).map Prod.fst)).isSome =
        true := by simpa [rememberingDetector] using reported
  exact (findCycle_isSome_iff fun edge member => List.mem_map_of_mem member).mp found

/-- Two tasks of which each names the other: the first is refused for a
dependency that does not exist.  Then a chain, a rejected task and a
completion. -/
def lockTest : List Request :=
  [.submitTask { TaskRequest.minimal "deadlock-A" with
      id := some "LOCKA123", dependencies := ["LOCKB123"] } ⟨someId, 0, true, easyPass⟩,
    .submitTask { TaskRequest.minimal "base" with id := some "LOCKB123" }
      ⟨someId, 1, true, easyPass⟩,
    .submitTask { TaskRequest.minimal "deadlock-A" with
      id := some "LOCKA123", dependencies := ["LOCKB123"] } ⟨someId, 2, true, easyPass⟩,
    .submitTask { TaskRequest.minimal "generated" with dependencies := ["LOCKA123", "LOCKB123"] }
      ⟨someId, 3, true, easyPass⟩,
    .submitTask { TaskRequest.minimal "too-large" with id := some "big" }
      ⟨someId, 4, false, easyPass⟩,
    .completeTask "LOCKB123" easyPass,
    .cancelTask "0a1b2c3d"]

theorem lockTest_stored_first :
    declared (after (step rememberingDetector) .initial lockTest).detectorCalls =
        [("LOCKA123", "LOCKB123"), ("0a1b2c3d", "LOCKA123"), ("0a1b2c3d", "LOCKB123")] ∧
      (∀ taskId depId,
        (taskId, depId) ∈
            declared (after (step rememberingDetector) .initial lockTest).detectorCalls →
          PutBefore rememberingDetector lockTest depId taskId) ∧
      ¬ HasCycle (declared (after (step rememberingDetector) .initial lockTest).detectorCalls) ∧
      ∀ entry ∈ history (step rememberingDetector) .initial lockTest, ∀ detail,
        (serve rememberingDetector entry.1 entry.2).1 ≠ .httpError 409 detail :=
  ⟨by decide +kernel,
    dependencies_stored_first rememberingDetector rememberingDetector_reportsRealCycles lockTest
      (by decide +kernel)⟩

end CloudOS.Gateway.StoredTasks
