import CloudOS.Orchestrator.RetryAccounting

/-!
# A reconcile of a CloudTask served without faults

What one `Reconcile` of a task that is not being deleted does when it runs
alone and every call is answered by a correct API server, branch by branch.
-/

set_option autoImplicit false

namespace CloudOS.Orchestrator.CloudTaskEval

open CloudOS.Kubernetes.Objects
open CloudOS.Lib.CallProgram
open CloudOS.Lib.VersionedStore
open CloudOS.Orchestrator.CloudTaskReconcile
open CloudOS.Orchestrator.CloudTaskCluster
open CloudOS.Orchestrator.RetryInvariant
open CloudOS.Orchestrator.RetryAccounting

variable {key : ObjectKey} {w : Cluster}

/-! ## The calls -/

theorem getCloudTask_eval {entry : Versioned TaskRecord}
    (found : w.tasks.cell key = some entry) :
    (getCloudTask key).eval (serve key) w = (.ok (toCloudTask key entry), w) := by
  have answer : serve key (.getCloudTask key) w = (Except.ok (toCloudTask key entry), w) := by
    simp only [serve, found]
    rfl
  exact answer

theorem createPod_eval (pod : Pod) :
    (createPod pod).eval (serve key) w = servePodCreate w pod := rfl

theorem timeNow_eval : timeNow.eval (serve key) w = (w.clock, w) := rfl

theorem updateCloudTask_eval (task : CloudTask) :
    (updateCloudTask task).eval (serve key) w = serveUpdate w task
      (fun record => storeMetadata w task.key (updatedRecord record task))
      (fun record => updatedRecord record task) := rfl

theorem updateStatus_eval {task : CloudTask} (live : Live task w) (status : CloudTaskStatus) :
    (updateStatus { task with status := status }).eval (serve key) w =
      (.ok (toCloudTask task.key ⟨w.tasks.next, (toRecord task).withStatus status⟩),
        storeStatus w task.key (toRecord task) status) :=
  serveUpdate_current (fun record => storeStatus w task.key record status)
    (fun record => record.withStatus status) live rfl

/-- The task as it is held once the finalizer is there: only metadata may have
been written. -/
structure Owned (key : ObjectKey) (entry : Versioned TaskRecord) (w : Cluster)
    (owned : CloudTask) (w' : Cluster) : Prop where
  key : owned.key = key
  live : Live owned w'
  status : owned.status = entry.value.status
  spec : owned.spec = entry.value.spec
  pods : w'.pods = w.pods
  nextUid : w'.nextUid = w.nextUid

theorem Owned.named_pod {entry : Versioned TaskRecord} {owned : CloudTask} {w' : Cluster}
    (holds : Owned key entry w owned w') :
    w'.pods ⟨owned.key.ns, owned.status.podName⟩ =
      w.pods ⟨key.ns, entry.value.status.podName⟩ := by
  rw [holds.pods, holds.key, holds.status]

theorem ensureFinalizer_eval {entry : Versioned TaskRecord}
    (found : w.tasks.cell key = some entry) (kept : entry.value.deletionTimestamp = none) :
    ∃ owned w', (ensureFinalizer (toCloudTask key entry)).eval (serve key) w = (.ok owned, w') ∧
      Owned key entry w owned w' := by
  by_cases present : cloudTaskFinalizerKey ∈ entry.value.finalizers
  · refine ⟨toCloudTask key entry, w, ?_, rfl, found, rfl, rfl, rfl, rfl⟩
    have same : cloudTaskFinalizerKey ∈ (toCloudTask key entry).finalizers := present
    unfold ensureFinalizer
    rw [if_pos same]
    rfl
  · let record := updatedRecord entry.value { toCloudTask key entry with
      finalizers := entry.value.finalizers ++ [cloudTaskFinalizerKey] }
    have stays : storeMetadata w key record = storeTask w key record := by
      unfold storeMetadata
      rw [if_neg (by simp [record, updatedRecord, kept])]
    refine ⟨toCloudTask key ⟨w.tasks.next, record⟩, storeTask w key record, ?_, rfl,
      put_cell_self w.tasks key record, rfl, rfl, rfl, rfl⟩
    have absent : cloudTaskFinalizerKey ∉ (toCloudTask key entry).finalizers := present
    unfold ensureFinalizer
    rw [if_neg absent, updateCloudTask_eval, ← stays]
    exact serveUpdate_current _ _ found rfl

/-! ## Looking for the pod -/

theorem lookupPod_eval {task : CloudTask} (unnamed : task.status.podName = "") :
    (lookupPod task).eval (serve key) w = (.ok none, w) := by
  unfold lookupPod
  rw [if_pos unnamed]
  rfl

theorem lookupPod_eval_missing {task : CloudTask} (named : task.status.podName ≠ "")
    (missing : w.pods ⟨task.key.ns, task.status.podName⟩ = none) :
    (lookupPod task).eval (serve key) w = (.ok none, w) := by
  have answer : (getPod ⟨task.key.ns, task.status.podName⟩).eval (serve key) w =
      (.error (notFoundError "pods" task.status.podName), w) := by
    have served : serve key (.getPod ⟨task.key.ns, task.status.podName⟩) w =
        (Except.error (notFoundError "pods" task.status.podName), w) := by
      simp only [serve, missing]
      rfl
    exact served
  unfold lookupPod
  rw [if_neg named]
  simp only [eval_bind, answer]
  rfl

theorem lookupPod_eval_found {task : CloudTask} {pod : Pod} (named : task.status.podName ≠ "")
    (there : w.pods ⟨task.key.ns, task.status.podName⟩ = some pod) :
    (lookupPod task).eval (serve key) w =
      (.ok (some pod), { w with observed := Function.update w.observed key (some pod) }) := by
  have answer : (getPod ⟨task.key.ns, task.status.podName⟩).eval (serve key) w =
      (.ok pod, { w with observed := Function.update w.observed key (some pod) }) := by
    have served : serve key (.getPod ⟨task.key.ns, task.status.podName⟩) w =
        (Except.ok pod, { w with observed := Function.update w.observed key (some pod) }) := by
      simp only [serve, there]
      rfl
    exact served
  unfold lookupPod
  rw [if_neg named]
  simp only [eval_bind, answer]
  rfl

/-! ## Without a pod -/

/-- The old pod is in the way. -/
theorem reconcileWithoutPod_taken (parseQuantity : String → Option ℚ) {task : CloudTask}
    {old : Pod} (waiting : task.status.phase = .unset ∨ task.status.phase = .pending)
    (taken : w.pods (podKey task.key) = some old) :
    (reconcileWithoutPod parseQuantity task).eval (serve key) w =
      (⟨10, some (alreadyExistsError "pods" (podNameFor task.key.name))⟩, w) := by
  have answer : servePodCreate w
      (setControllerReference task (constructPod parseQuantity task)) =
        (.error (alreadyExistsError "pods" (podNameFor task.key.name)), w) := by
    have here : w.pods (setControllerReference task (constructPod parseQuantity task)).key =
        some old := taken
    simp only [servePodCreate, here]
    rfl
  unfold reconcileWithoutPod
  rw [if_pos waiting]
  simp only [eval_bind, createPod_eval, answer]
  rfl

theorem reconcileWithoutPod_starts (parseQuantity : String → Option ℚ) {task : CloudTask}
    (live : Live task w) (waiting : task.status.phase = .unset ∨ task.status.phase = .pending)
    (free : w.pods (podKey task.key) = none) :
    ((reconcileWithoutPod parseQuantity task).eval (serve key) w).2 =
      storeTask (addPod w (setControllerReference task (constructPod parseQuantity task)))
        task.key ((toRecord task).withStatus
          (startedStatus task (podNameFor task.key.name) w.clock)) := by
  have created : servePodCreate w (setControllerReference task (constructPod parseQuantity task))
      = (.ok (), addPod w (setControllerReference task (constructPod parseQuantity task))) := by
    have here : w.pods (setControllerReference task (constructPod parseQuantity task)).key =
        none := free
    simp only [servePodCreate, here]
    rfl
  generalize podIs : setControllerReference task (constructPod parseQuantity task) = pod
    at created
  have sameName : pod.key.name = podNameFor task.key.name := by
    rw [← podIs]
    rfl
  have live' : Live task (addPod w pod) := live
  have sameCount : (startedStatus task pod.key.name w.clock).retryCount =
      (toRecord task).status.retryCount := rfl
  rw [← sameName, ← storeStatus_same sameCount]
  unfold reconcileWithoutPod
  rw [if_pos waiting]
  simp only [podIs, eval_bind, createPod_eval, created, timeNow_eval]
  rw [updateStatus_eval live']
  rfl

theorem reconcileWithoutPod_idle (parseQuantity : String → Option ℚ) {task : CloudTask}
    (busy : ¬ (task.status.phase = .unset ∨ task.status.phase = .pending)) :
    (reconcileWithoutPod parseQuantity task).eval (serve key) w = (.done 30, w) := by
  unfold reconcileWithoutPod
  rw [if_neg busy]
  rfl

/-! ## With the pod -/

theorem updateStatusFromPod_eval_none {task : CloudTask} {pod : Pod}
    (unchanged : observedStatus task.status pod.status w.clock = none) :
    (updateStatusFromPod task pod).eval (serve key) w = ((task, false), w) := by
  unfold updateStatusFromPod
  simp only [eval_bind, timeNow_eval, unchanged]
  rfl

theorem updateStatusFromPod_eval_some {task : CloudTask} {pod : Pod} {status : CloudTaskStatus}
    (news : observedStatus task.status pod.status w.clock = some status) :
    (updateStatusFromPod task pod).eval (serve key) w =
      (({ task with status := { status with lastUpdateTime := some w.clock } }, true), w) := by
  unfold updateStatusFromPod
  simp only [eval_bind, timeNow_eval, news]
  rfl

theorem actOnPhase_idle {task : CloudTask}
    (idle : ¬ (task.status.phase = .failed ∧ task.status.retryCount < task.spec.retries)) :
    ((actOnPhase task).eval (serve key) w).2 = w := by
  unfold actOnPhase
  cases phase : task.status.phase with
  | unset => rfl
  | pending => rfl
  | running => rfl
  | completed => rfl
  | failed =>
      have spent : ¬ task.status.retryCount < task.spec.retries := fun more => idle ⟨phase, more⟩
      simp only [spent, if_false]
      rfl

theorem actOnPhase_retries {task : CloudTask} (live : Live task w)
    (failed : task.status.phase = .failed)
    (more : task.status.retryCount < task.spec.retries) :
    ((actOnPhase task).eval (serve key) w).2 =
      storeStatus w task.key (toRecord task) (retriedStatus task) := by
  unfold actOnPhase
  simp only [failed, more, if_true, eval_bind]
  rw [updateStatus_eval live]
  rfl

theorem reconcileWithPod_unchanged {task : CloudTask} {pod : Pod}
    (unchanged : observedStatus task.status pod.status w.clock = none) :
    (reconcileWithPod task pod).eval (serve key) w = (actOnPhase task).eval (serve key) w := by
  unfold reconcileWithPod
  simp only [eval_bind, updateStatusFromPod_eval_none unchanged]

theorem reconcileWithPod_refreshed {task : CloudTask} {pod : Pod} {status : CloudTaskStatus}
    (live : Live task w) (news : observedStatus task.status pod.status w.clock = some status)
    (sameCount : status.retryCount = task.status.retryCount) :
    ∃ written w', (reconcileWithPod task pod).eval (serve key) w =
        (actOnPhase written).eval (serve key) w' ∧
      written.key = task.key ∧ Live written w' ∧
      written.status = { status with lastUpdateTime := some w.clock } ∧ w'.pods = w.pods := by
  let record := (toRecord task).withStatus { status with lastUpdateTime := some w.clock }
  refine ⟨toCloudTask task.key ⟨w.tasks.next, record⟩, storeTask w task.key record, ?_, rfl,
    put_cell_self w.tasks task.key record, rfl, rfl⟩
  unfold reconcileWithPod
  simp only [eval_bind, updateStatusFromPod_eval_some news]
  rw [updateStatus_eval live, storeStatus_same sameCount]

/-! ## The reconcile -/

section
variable (parseQuantity : String → Option ℚ) {entry : Versioned TaskRecord}
  (found : w.tasks.cell key = some entry) (kept : entry.value.deletionTimestamp = none)
include found kept

/-- Up to the lookup of the pod every such reconcile is the same. -/
theorem reconcile_eval_owned :
    ∃ owned w', Owned key entry w owned w' ∧
      ∀ pod w'', (lookupPod owned).eval (serve key) w' = (.ok pod, w'') →
        (reconcile parseQuantity key).eval (serve key) w =
          (pod.elim (reconcileWithoutPod parseQuantity owned) (reconcileWithPod owned)).eval
            (serve key) w'' := by
  obtain ⟨owned, w', ensured, holds⟩ := ensureFinalizer_eval found kept
  have notDeleted : (toCloudTask key entry).deletionTimestamp.isSome = false := by
    rw [show (toCloudTask key entry).deletionTimestamp = none from kept]
    rfl
  refine ⟨owned, w', holds, ?_⟩
  intro pod w'' looked
  unfold reconcile
  simp only [eval_bind, getCloudTask_eval found, notDeleted, Bool.false_eq_true, if_false,
    ensured, looked]
  cases pod with
  | none => rfl
  | some pod => rfl

theorem reconcile_eval_unnamed (unnamed : entry.value.status.podName = "") :
    ∃ owned w', (reconcile parseQuantity key).eval (serve key) w =
        (reconcileWithoutPod parseQuantity owned).eval (serve key) w' ∧
      Owned key entry w owned w' := by
  obtain ⟨owned, w', holds, continues⟩ := reconcile_eval_owned parseQuantity found kept
  have unnamed' : owned.status.podName = "" := by
    rw [holds.status]
    exact unnamed
  exact ⟨owned, w', continues none w' (lookupPod_eval unnamed'), holds⟩

theorem reconcile_eval_missing (named : entry.value.status.podName ≠ "")
    (missing : w.pods ⟨key.ns, entry.value.status.podName⟩ = none) :
    ∃ owned w', (reconcile parseQuantity key).eval (serve key) w =
        (reconcileWithoutPod parseQuantity owned).eval (serve key) w' ∧
      Owned key entry w owned w' := by
  obtain ⟨owned, w', holds, continues⟩ := reconcile_eval_owned parseQuantity found kept
  have named' : owned.status.podName ≠ "" := by
    rw [holds.status]
    exact named
  have missing' := holds.named_pod.trans missing
  exact ⟨owned, w', continues none w' (lookupPod_eval_missing named' missing'), holds⟩

theorem reconcile_eval_found {pod : Pod} (named : entry.value.status.podName ≠ "")
    (there : w.pods ⟨key.ns, entry.value.status.podName⟩ = some pod) :
    ∃ owned w', (reconcile parseQuantity key).eval (serve key) w =
        (reconcileWithPod owned pod).eval (serve key)
          { w' with observed := Function.update w'.observed key (some pod) } ∧
      Owned key entry w owned w' := by
  obtain ⟨owned, w', holds, continues⟩ := reconcile_eval_owned parseQuantity found kept
  have named' : owned.status.podName ≠ "" := by
    rw [holds.status]
    exact named
  have there' := holds.named_pod.trans there
  exact ⟨owned, w', continues (some pod) _ (lookupPod_eval_found named' there'), holds⟩

end

end CloudOS.Orchestrator.CloudTaskEval
