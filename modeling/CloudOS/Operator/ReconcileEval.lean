import CloudOS.Operator.DependencySafety

/-!
# A reconcile of a TaskJob served without faults

What one `Reconcile` does when it runs alone and every call is answered by a
correct API server: the cluster afterwards, branch by branch.
-/

set_option autoImplicit false

namespace CloudOS.Operator.ReconcileEval

open CloudOS.Kubernetes.Objects
open CloudOS.Lib.CallProgram
open CloudOS.Lib.VersionedStore
open CloudOS.Operator.DependencySafety
open CloudOS.Operator.ReconcileOutline
open CloudOS.Operator.TaskJobReconcile
open CloudOS.Operator.TaskJobCluster

variable {w : Cluster} {key : ObjectKey} {entry : Versioned JobRecord}

def afterReconcile (parseQuantity : String → Option ℚ) (key : ObjectKey) (w : Cluster) : Cluster :=
  ((reconcile parseQuantity key).eval serve w).2

/-! ## The calls -/

theorem getTaskJob_eval (found : w.jobs.cell key = some entry) :
    (getTaskJob key).eval serve w = (.ok (toTaskJob key entry), w) := by
  have answer : serve (.getTaskJob key) w = (Except.ok (toTaskJob key entry), w) := by
    simp only [serve, found]
    rfl
  exact answer

theorem getTaskJob_eval_missing (absent : w.jobs.cell key = none) :
    (getTaskJob key).eval serve w =
      (.error (notFoundError "taskjobs.scheduler.cloudos.io" key.name), w) := by
  have answer : serve (.getTaskJob key) w =
      (Except.error (notFoundError "taskjobs.scheduler.cloudos.io" key.name), w) := by
    simp only [serve, absent]
    rfl
  exact answer

theorem findPod_eval (tj : TaskJob) :
    (findPod tj).eval serve w =
      (.ok (w.pods.filter (labelledFor tj.key.ns tj.key.name)).head?, w) := rfl

theorem timeNow_eval : timeNow.eval serve w = (w.clock, w) := rfl

theorem createPod_eval (pod : Pod) : (createPod pod).eval serve w = servePodCreate w pod := rfl

theorem writeStatus_eval (found : w.jobs.cell key = some entry) (status : TaskJobStatus)
    (exit : Exit) :
    (writeStatus (toTaskJob key entry) status exit).eval serve w =
      (exit, writeJobStatus w key entry.value.spec status) := by
  have answer : (updateStatus { toTaskJob key entry with status := status }).eval serve w =
      (.ok (), writeJobStatus w key entry.value.spec status) := by
    have stored : serveStatusUpdate w { toTaskJob key entry with status := status } =
        (.ok (), writeJobStatus w key entry.value.spec status) := by
      unfold serveStatusUpdate
      have here : w.jobs.cell (toTaskJob key entry).key = some entry := found
      simp only [here]
      exact if_pos rfl
    exact stored
  unfold writeStatus
  simp only [eval_bind, answer]
  rfl

/-! ## The dependency check -/

/-- The check reads only.  It says yes exactly when all dependencies are
completed, and fails only when one of them does not exist. -/
theorem checkDependencies_eval (w : Cluster) (ns : String) (deps : List String) :
    ∃ answer, (checkDependencies ns deps).eval serve w = (answer, w) ∧
      (answer = .ok true ↔ ∀ dep ∈ deps, CompletedIn w ns dep) ∧
      ((∀ dep ∈ deps, ∃ entry, w.jobs.cell ⟨ns, dep⟩ = some entry) →
        ∃ result, answer = .ok result) := by
  induction deps with
  | nil => exact ⟨.ok true, rfl, by simp, fun _ => ⟨true, rfl⟩⟩
  | cons dep rest ih =>
      obtain ⟨answer, evaluated, yes, total⟩ := ih
      unfold checkDependencies
      cases found : w.jobs.cell ⟨ns, dep⟩ with
      | none =>
          refine ⟨_, by simp only [eval_bind, getTaskJob_eval_missing found]; rfl, ?_, ?_⟩
          · refine ⟨(nomatch ·), fun completed => ?_⟩
            obtain ⟨entry, here, _⟩ := completed dep List.mem_cons_self
            rw [found] at here
            cases here
          · intro exist
            obtain ⟨entry, here⟩ := exist dep List.mem_cons_self
            rw [found] at here
            cases here
      | some entry =>
          by_cases phase : entry.value.status.phase = .completed
          · have completed : CompletedIn w ns dep := ⟨entry, found, phase⟩
            refine ⟨answer, ?_, ?_, ?_⟩
            · simp only [eval_bind, getTaskJob_eval found, toTaskJob, ne_eq, phase,
                not_true_eq_false, if_false]
              exact evaluated
            · rw [yes, List.forall_mem_cons]
              exact ⟨fun all => ⟨completed, all⟩, And.right⟩
            · exact fun exist => total fun other member =>
                exist other (List.mem_cons_of_mem dep member)
          · refine ⟨.ok false, ?_, ?_, fun _ => ⟨false, rfl⟩⟩
            · simp only [eval_bind, getTaskJob_eval found, toTaskJob, ne_eq, phase,
                not_false_eq_true, if_true]
              rfl
            · refine ⟨(nomatch ·), fun completed => ?_⟩
              obtain ⟨current, here, done⟩ := completed dep List.mem_cons_self
              cases Option.some.inj (here.symm.trans found)
              exact absurd done phase

theorem checkDependencies_eval_completed {tj : TaskJob}
    (completed : ∀ dep ∈ tj.spec.dependsOn, CompletedIn w tj.key.ns dep) :
    (checkDependencies tj.key.ns tj.spec.dependsOn).eval serve w = (.ok true, w) := by
  obtain ⟨answer, evaluated, yes, _⟩ := checkDependencies_eval w tj.key.ns tj.spec.dependsOn
  rw [evaluated, yes.mpr completed]

/-! ## With and without a pod -/

theorem syncStatus_eval (found : w.jobs.cell key = some entry) (pod : Pod) :
    (reportedPhase pod.status.phase = none ∧
      ((syncStatus (toTaskJob key entry) pod).eval serve w).2 = w) ∨
    ∃ status : TaskJobStatus, reportedPhase pod.status.phase = some status.phase ∧
      ((syncStatus (toTaskJob key entry) pod).eval serve w).2 =
        writeJobStatus w key entry.value.spec status := by
  unfold syncStatus
  cases pod.status.phase with
  | running =>
      cases (toTaskJob key entry).status.startTime with
      | none =>
          simp only [eval_bind, timeNow_eval]
          exact Or.inr ⟨_, rfl, congrArg Prod.snd (writeStatus_eval found _ _)⟩
      | some time =>
          simp only [eval_bind]
          exact Or.inr ⟨_, rfl, congrArg Prod.snd (writeStatus_eval found _ _)⟩
  | succeeded =>
      simp only [eval_bind, timeNow_eval]
      exact Or.inr ⟨_, rfl, congrArg Prod.snd (writeStatus_eval found _ _)⟩
  | failed =>
      simp only [eval_bind, timeNow_eval]
      exact Or.inr ⟨_, rfl, congrArg Prod.snd (writeStatus_eval found _ _)⟩
  | pending => exact Or.inr ⟨_, rfl, congrArg Prod.snd (writeStatus_eval found _ _)⟩
  | unknown => exact Or.inl ⟨rfl, rfl⟩

theorem buildPod_isSome_iff (parseQuantity : String → Option ℚ) (tj : TaskJob) :
    (buildPod parseQuantity tj).isSome = true ↔
      (parseQuantity (orDefault tj.spec.cpuRequest "500m")).isSome = true ∧
      (parseQuantity (orDefault tj.spec.memoryRequest "256Mi")).isSome = true := by
  unfold buildPod
  cases parseQuantity (orDefault tj.spec.cpuRequest "500m") with
  | none => simp
  | some cpu =>
      cases parseQuantity (orDefault tj.spec.memoryRequest "256Mi") with
      | none => simp
      | some memory => simp

theorem startPod_eval (parseQuantity : String → Option ℚ)
    (found : w.jobs.cell key = some entry) {pod : Pod} (image : entry.value.spec.image ≠ "")
    (built : buildPod parseQuantity (toTaskJob key entry) = some pod)
    (free : ∀ other ∈ w.pods, other.key ≠ pod.key) :
    ∃ status : TaskJobStatus, status.phase = .running ∧
      ((startPod parseQuantity (toTaskJob key entry)).eval serve w).2 =
        writeJobStatus (addPod w pod) key entry.value.spec status := by
  have created : servePodCreate w pod = (.ok (), addPod w pod) := by
    unfold servePodCreate
    have none_there : w.pods.any (fun other => other.key == pod.key) = false := by
      simpa using free
    rw [none_there]
    rfl
  have hasImage : (toTaskJob key entry).spec.image ≠ "" := image
  have found' : (addPod w pod).jobs.cell key = some entry := found
  unfold startPod
  rw [if_neg hasImage, built]
  simp only [eval_bind, createPod_eval, created]
  exact ⟨_, rfl, congrArg Prod.snd (writeStatus_eval found' _ _)⟩

/-! ## The reconcile -/

theorem afterReconcile_terminal (parseQuantity : String → Option ℚ)
    (found : w.jobs.cell key = some entry)
    (terminal : TaskPhase.terminal entry.value.status.phase) :
    afterReconcile parseQuantity key w = w := by
  have early : (toTaskJob key entry).status.phase = .completed ∨
      (toTaskJob key entry).status.phase = .failed := terminal
  unfold afterReconcile reconcile
  simp only [eval_bind, getTaskJob_eval found, early, if_true]
  rfl

/-- A dependency is not completed: nothing happens, or the TaskJob is queued;
the latter if all dependencies exist. -/
theorem afterReconcile_waiting (parseQuantity : String → Option ℚ)
    (found : w.jobs.cell key = some entry)
    (live : ¬ TaskPhase.terminal entry.value.status.phase)
    (waiting : ¬ ∀ dep ∈ entry.value.spec.dependsOn, CompletedIn w key.ns dep) :
    (afterReconcile parseQuantity key w = w ∧
      ¬ ∀ dep ∈ entry.value.spec.dependsOn, ∃ other, w.jobs.cell ⟨key.ns, dep⟩ = some other) ∨
    ∃ status : TaskJobStatus, status.phase = .queued ∧
      afterReconcile parseQuantity key w = writeJobStatus w key entry.value.spec status := by
  have goOn : ¬ ((toTaskJob key entry).status.phase = .completed ∨
      (toTaskJob key entry).status.phase = .failed) := live
  obtain ⟨answer, evaluated, yes, total⟩ :=
    checkDependencies_eval w key.ns entry.value.spec.dependsOn
  have checked : (checkDependencies (toTaskJob key entry).key.ns
      (toTaskJob key entry).spec.dependsOn).eval serve w = (answer, w) := evaluated
  unfold afterReconcile reconcile
  simp only [eval_bind, getTaskJob_eval found, goOn, if_false, checked]
  match answer with
  | .error err =>
      refine Or.inl ⟨rfl, ?_⟩
      intro exist
      obtain ⟨result, impossible⟩ := total exist
      cases impossible
  | .ok true => exact absurd (yes.mp rfl) waiting
  | .ok false => exact Or.inr ⟨_, rfl, congrArg Prod.snd (writeStatus_eval found _ _)⟩

section Ready
variable (parseQuantity : String → Option ℚ) (found : w.jobs.cell key = some entry)
  (live : ¬ TaskPhase.terminal entry.value.status.phase)
  (completed : ∀ dep ∈ entry.value.spec.dependsOn, CompletedIn w key.ns dep)
include found live completed

theorem reconcile_eval_start
    (noPod : (w.pods.filter (labelledFor key.ns key.name)).head? = none) :
    (reconcile parseQuantity key).eval serve w =
      (startPod parseQuantity (toTaskJob key entry)).eval serve w := by
  have goOn : ¬ ((toTaskJob key entry).status.phase = .completed ∨
      (toTaskJob key entry).status.phase = .failed) := live
  have checked := @checkDependencies_eval_completed w (toTaskJob key entry) completed
  have listed : (findPod (toTaskJob key entry)).eval serve w = (.ok none, w) := by
    rw [findPod_eval]
    exact congrArg (fun pod => (Except.ok pod, w)) noPod
  unfold reconcile
  simp only [eval_bind, getTaskJob_eval found, goOn, if_false, checked, listed]

theorem reconcile_eval_sync {pod : Pod}
    (first : (w.pods.filter (labelledFor key.ns key.name)).head? = some pod) :
    (reconcile parseQuantity key).eval serve w =
      (syncStatus (toTaskJob key entry) pod).eval serve w := by
  have goOn : ¬ ((toTaskJob key entry).status.phase = .completed ∨
      (toTaskJob key entry).status.phase = .failed) := live
  have checked := @checkDependencies_eval_completed w (toTaskJob key entry) completed
  have listed : (findPod (toTaskJob key entry)).eval serve w = (.ok (some pod), w) := by
    rw [findPod_eval]
    exact congrArg (fun pod => (Except.ok pod, w)) first
  unfold reconcile
  simp only [eval_bind, getTaskJob_eval found, goOn, if_false, checked, listed]

end Ready

end CloudOS.Operator.ReconcileEval
