import CloudOS.Orchestrator.CloudTaskEval

/-!
# What the next reconcile repairs

A pod and the status that names it are written by two calls, and pods vanish on
their own.  The controller knows its pod only by `Status.PodName`, so the next
reconcile neither finds a pod that was created without being recorded nor
notices in what phase a recorded pod has vanished.
-/

set_option autoImplicit false

namespace CloudOS.Orchestrator.PodRecovery

open CloudOS.Kubernetes.Objects
open CloudOS.Lib.CallProgram
open CloudOS.Lib.VersionedStore
open CloudOS.Orchestrator.CloudTaskReconcile
open CloudOS.Orchestrator.CloudTaskCluster
open CloudOS.Orchestrator.RetryInvariant
open CloudOS.Orchestrator.RetryAccounting
open CloudOS.Orchestrator.CloudTaskEval

def Adopted (key : ObjectKey) (pod : Pod) (w : Cluster) : Prop :=
  ∃ entry, w.tasks.cell key = some entry ∧ entry.value.status.podName = pod.key.name

/-- A running task has its pod, and no failure with a retry left is standing. -/
structure Settled (key : ObjectKey) (pods : ObjectKey → Option Pod) (record : TaskRecord) :
    Prop where
  running : record.status.phase = .running →
    ∃ pod, pods ⟨key.ns, record.status.podName⟩ = some pod
  failed : ¬ (record.status.phase = .failed ∧ record.status.retryCount < record.spec.retries)

def NoPhantom (key : ObjectKey) (w : Cluster) : Prop :=
  ∀ entry, w.tasks.cell key = some entry → Settled key w.pods entry.value

/-- The pod the task names is gone while the task still needs it, to go on
running or to be retried. -/
structure Stranded (key : ObjectKey) (w : Cluster) (record : TaskRecord) : Prop where
  missing : w.pods ⟨key.ns, record.status.podName⟩ = none
  waits : record.status.phase = .running ∨
    (record.status.phase = .failed ∧ record.status.retryCount < record.spec.retries)

section Recovery
variable {key : ObjectKey} {w : Cluster}

theorem named_podKey {status : CloudTaskStatus} (shape : StatusShape key status)
    (named : status.podName ≠ "") : (⟨key.ns, status.podName⟩ : ObjectKey) = podKey key := by
  rw [(named_shape shape named).1]
  rfl

/-! ## A pod that exists -/

theorem observedStatus_alive {status : CloudTaskStatus} {pod : PodStatus} {now : Nat}
    (running : status.phase = .running) (alive : pod.phase.terminated = false) :
    observedStatus status pod now = none := by
  unfold observedStatus
  cases phase : pod.phase with
  | pending => simp [running]
  | running => simp [running]
  | unknown => rfl
  | succeeded => simp [phase, PodPhase.terminated] at alive
  | failed => simp [phase, PodPhase.terminated] at alive

theorem running_of_alive {status : CloudTaskStatus} {charges : List Charge} {pod : Pod}
    (shape : StatusShape key status) (named : status.podName ≠ "")
    (agrees : PodAgrees status.phase charges pod)
    (alive : pod.status.phase.terminated = false) : status.phase = .running := by
  rcases (named_shape shape named).2 with running | completed | failed
  · exact running
  · rw [agrees.succeeded completed] at alive
    cases alive
  · rw [agrees.failed failed] at alive
    cases alive

section Adoption
variable (parseQuantity : String → Option ℚ) (ok : Accounted w) {entry : Versioned TaskRecord}
  {pod : Pod} (found : w.tasks.cell key = some entry)
  (kept : entry.value.deletionTimestamp = none) (there : w.pods (podKey key) = some pod)
include ok found kept there

theorem not_adopted_of_unnamed (unnamed : entry.value.status.podName = "") :
    ¬ Adopted key pod ((reconcile parseQuantity key).eval (serve key) w).2 := by
  have taskOk := (ok.task key entry found).1
  obtain ⟨owned, w', evaluated, holds⟩ := reconcile_eval_unnamed parseQuantity found kept unnamed
  have waiting : owned.status.phase = .unset ∨ owned.status.phase = .pending := by
    rw [holds.status]
    exact unnamed_shape taskOk.shape unnamed
  have taken : w'.pods (podKey owned.key) = some pod := by
    rw [holds.pods, holds.key]
    exact there
  rw [evaluated, reconcileWithoutPod_taken parseQuantity waiting taken]
  rintro ⟨entry', found', adopted⟩
  rw [← holds.key, holds.live] at found'
  cases found'
  have empty : podNameFor key.name = "" := by
    have named : owned.status.podName = pod.key.name := adopted
    rw [holds.status, unnamed, (ok.pod _ pod there).1] at named
    exact named.symm
  exact podNameFor_ne_empty key.name empty

theorem adopted_of_named (alive : pod.status.phase.terminated = false)
    (named : entry.value.status.podName ≠ "") :
    Adopted key pod ((reconcile parseQuantity key).eval (serve key) w).2 := by
  have taskOk := (ok.task key entry found).1
  have there' : w.pods ⟨key.ns, entry.value.status.podName⟩ = some pod := by
    rw [named_podKey taskOk.shape named]
    exact there
  obtain ⟨owned, w', evaluated, holds⟩ :=
    reconcile_eval_found parseQuantity found kept named there'
  have running : owned.status.phase = .running := by
    rw [holds.status]
    exact running_of_alive taskOk.shape named (taskOk.agrees named pod there) alive
  have idle : ¬ (owned.status.phase = .failed ∧
      owned.status.retryCount < owned.spec.retries) := by
    rw [running]
    exact fun failed => nomatch failed.1
  rw [evaluated, reconcileWithPod_unchanged (observedStatus_alive running alive),
    actOnPhase_idle idle]
  refine ⟨⟨owned.resourceVersion, toRecord owned⟩, ?_, ?_⟩
  · rw [← holds.key]
    exact holds.live
  · show owned.status.podName = pod.key.name
    rw [holds.status, (ok.pod _ pod there).1]
    exact (named_shape taskOk.shape named).1

end Adoption

/-! ## A pod that may be gone -/

theorem actOnPhase_noPhantom {task : CloudTask} {pod : Pod} (live : Live task w)
    (there : w.pods ⟨task.key.ns, task.status.podName⟩ = some pod) :
    NoPhantom task.key ((actOnPhase task).eval (serve key) w).2 := by
  intro entry' found'
  by_cases retry : task.status.phase = .failed ∧ task.status.retryCount < task.spec.retries
  · rw [actOnPhase_retries live retry.1 retry.2] at found' ⊢
    rw [storeStatus_tasks, put_cell_self] at found'
    cases found'
    exact ⟨(nomatch ·), fun failed => nomatch failed.1⟩
  · rw [actOnPhase_idle retry] at found' ⊢
    cases Option.some.inj (found'.symm.trans live)
    exact ⟨fun _ => ⟨pod, there⟩, retry⟩

theorem reconcileWithPod_noPhantom {task : CloudTask} {pod : Pod} {charges : List Charge}
    (live : Live task w) (shape : StatusShape task.key task.status)
    (named : task.status.podName ≠ "") (agrees : PodAgrees task.status.phase charges pod)
    (there : w.pods ⟨task.key.ns, task.status.podName⟩ = some pod) :
    NoPhantom task.key ((reconcileWithPod task pod).eval (serve key) w).2 := by
  cases news : observedStatus task.status pod.status w.clock with
  | none =>
      rw [reconcileWithPod_unchanged news]
      exact actOnPhase_noPhantom live there
  | some status =>
      obtain ⟨_, sameName, sameCount, _⟩ :=
        observedStatus_agreeing agrees (named_shape shape named).2 news
      obtain ⟨written, w', evaluated, sameKey, live', status', pods⟩ :=
        reconcileWithPod_refreshed live news sameCount
      rw [evaluated, ← sameKey]
      apply actOnPhase_noPhantom live'
      rw [pods, sameKey, status', ← there, ← sameName]

theorem reconcileWithoutPod_noPhantom (parseQuantity : String → Option ℚ) {task : CloudTask}
    (live : Live task w)
    (waiting : task.status.phase = .unset ∨ task.status.phase = .pending) :
    NoPhantom task.key ((reconcileWithoutPod parseQuantity task).eval (serve key) w).2 := by
  intro entry' found'
  cases taken : w.pods (podKey task.key) with
  | some old =>
      rw [reconcileWithoutPod_taken parseQuantity waiting taken] at found' ⊢
      cases Option.some.inj (found'.symm.trans live)
      have notRunning : task.status.phase ≠ .running := by
        rcases waiting with phase | phase <;> simp [phase]
      have notFailed : task.status.phase ≠ .failed := by
        rcases waiting with phase | phase <;> simp [phase]
      exact ⟨fun running => absurd running notRunning, fun failed => notFailed failed.1⟩
  | none =>
      rw [reconcileWithoutPod_starts parseQuantity live waiting taken] at found' ⊢
      obtain ⟨_, rfl⟩ := (cell_of_put found').resolve_right fun other => other.1 rfl
      exact ⟨fun _ => ⟨_, Function.update_self _ _ _⟩, fun failed => nomatch failed.1⟩

theorem noPhantom_iff_settled {entry : Versioned TaskRecord}
    (found : w.tasks.cell key = some entry) :
    NoPhantom key w ↔ Settled key w.pods entry.value := by
  refine ⟨fun fine => fine entry found, ?_⟩
  intro settled entry' found'
  cases Option.some.inj (found'.symm.trans found)
  exact settled

theorem noPhantom_owned {entry : Versioned TaskRecord} {owned : CloudTask} {w' : Cluster}
    (found : w.tasks.cell key = some entry) (holds : Owned key entry w owned w') :
    NoPhantom key w' ↔ NoPhantom key w := by
  have live : w'.tasks.cell key = some ⟨owned.resourceVersion, toRecord owned⟩ := by
    rw [← holds.key]
    exact holds.live
  rw [noPhantom_iff_settled live, noPhantom_iff_settled found, holds.pods]
  have status : (toRecord owned).status = entry.value.status := holds.status
  have spec : (toRecord owned).spec = entry.value.spec := holds.spec
  constructor
  · rintro ⟨running, failed⟩
    rw [status] at running
    rw [status, spec] at failed
    exact ⟨running, failed⟩
  · rintro ⟨running, failed⟩
    rw [← status] at running
    rw [← status, ← spec] at failed
    exact ⟨running, failed⟩

theorem noPhantom_iff_missing {entry : Versioned TaskRecord}
    (found : w.tasks.cell key = some entry)
    (missing : w.pods ⟨key.ns, entry.value.status.podName⟩ = none) :
    NoPhantom key w ↔ ¬ Stranded key w entry.value := by
  rw [noPhantom_iff_settled found]
  constructor
  · rintro ⟨running, failed⟩ ⟨_, phase | retry⟩
    · obtain ⟨pod, there⟩ := running phase
      rw [missing] at there
      cases there
    · exact failed retry
  · intro fine
    exact ⟨fun phase => absurd ⟨missing, Or.inl phase⟩ fine,
      fun retry => fine ⟨missing, Or.inr retry⟩⟩

section Phantom
variable (parseQuantity : String → Option ℚ) (ok : Accounted w) {entry : Versioned TaskRecord}
  (found : w.tasks.cell key = some entry) (kept : entry.value.deletionTimestamp = none)
include ok found kept

theorem noPhantom_of_unnamed (unnamed : entry.value.status.podName = "") :
    NoPhantom key ((reconcile parseQuantity key).eval (serve key) w).2 := by
  obtain ⟨owned, w', evaluated, holds⟩ := reconcile_eval_unnamed parseQuantity found kept unnamed
  have waiting := unnamed_shape (ok.task key entry found).1.shape unnamed
  rw [← holds.status] at waiting
  rw [evaluated, ← holds.key]
  exact reconcileWithoutPod_noPhantom parseQuantity holds.live waiting

theorem noPhantom_of_found {pod : Pod} (named : entry.value.status.podName ≠ "")
    (there : w.pods ⟨key.ns, entry.value.status.podName⟩ = some pod) :
    NoPhantom key ((reconcile parseQuantity key).eval (serve key) w).2 := by
  have taskOk := (ok.task key entry found).1
  obtain ⟨owned, w', evaluated, holds⟩ :=
    reconcile_eval_found parseQuantity found kept named there
  have agrees : PodAgrees owned.status.phase (w.charges key) pod := by
    rw [holds.status]
    refine taskOk.agrees named pod ?_
    rw [← named_podKey taskOk.shape named]
    exact there
  have shape : StatusShape owned.key owned.status := by
    rw [holds.key, holds.status]
    exact taskOk.shape
  rw [← holds.status] at named
  rw [evaluated, ← holds.key]
  refine reconcileWithPod_noPhantom holds.live shape named agrees ?_
  rw [holds.key, holds.status, show w'.pods = w.pods from holds.pods]
  exact there

theorem noPhantom_unchanged_of_missing (named : entry.value.status.podName ≠ "")
    (missing : w.pods ⟨key.ns, entry.value.status.podName⟩ = none) :
    NoPhantom key ((reconcile parseQuantity key).eval (serve key) w).2 ↔ NoPhantom key w := by
  obtain ⟨owned, w', evaluated, holds⟩ :=
    reconcile_eval_missing parseQuantity found kept named missing
  have busy : ¬ (owned.status.phase = .unset ∨ owned.status.phase = .pending) := by
    rw [holds.status]
    rcases (named_shape (ok.task key entry found).1.shape named).2 with phase | phase | phase <;>
      simp [phase]
  rw [evaluated, reconcileWithoutPod_idle parseQuantity busy]
  exact noPhantom_owned found holds

end Phantom

end Recovery

/-! ## Reachable states -/

section Reachable
variable (parseQuantity : String → Option ℚ) (start c : Configuration)
  (history : List (Configuration × Event ObjectKey Call Answer))
  (initial : Initial start) (run : (system parseQuantity).Run start history c)
  (key : ObjectKey) (entry : Versioned TaskRecord)
  (found : c.world.tasks.cell key = some entry)
  (kept : entry.value.deletionTimestamp = none)
include initial run found kept

/-- In any state of any run, for a task that is not being deleted and whose pod
exists and has not ended: the next reconcile, served without faults, leaves the
pod named exactly when the status named a pod before. -/
theorem pod_adopted_iff (pod : Pod) (there : c.world.pods (podKey key) = some pod)
    (alive : pod.status.phase.terminated = false) :
    Adopted key pod ((reconcile parseQuantity key).eval (serve key) c.world).2 ↔
      entry.value.status.podName ≠ "" := by
  have ok : Accounted c.world := (run_sound parseQuantity initial run).1
  constructor
  · intro adopted unnamed
    exact not_adopted_of_unnamed parseQuantity ok found kept there unnamed adopted
  · intro named
    exact adopted_of_named parseQuantity ok found kept there alive named

/-- In any state of any run, for a task that is not being deleted: the next
reconcile, served without faults, leaves no phantom exactly when the task was
not stranded. -/
theorem no_phantom_iff :
    NoPhantom key ((reconcile parseQuantity key).eval (serve key) c.world).2 ↔
      ¬ Stranded key c.world entry.value := by
  have ok : Accounted c.world := (run_sound parseQuantity initial run).1
  by_cases unnamed : entry.value.status.podName = ""
  · have settled : ¬ Stranded key c.world entry.value := by
      have waiting := unnamed_shape (ok.task key entry found).1.shape unnamed
      rintro ⟨_, running | ⟨failed, _⟩⟩
      · simp [running] at waiting
      · simp [failed] at waiting
    exact iff_of_true (noPhantom_of_unnamed parseQuantity ok found kept unnamed) settled
  · cases there : c.world.pods ⟨key.ns, entry.value.status.podName⟩ with
    | some pod =>
        have present : ¬ Stranded key c.world entry.value := by
          intro stranded
          rw [stranded.missing] at there
          cases there
        exact iff_of_true (noPhantom_of_found parseQuantity ok found kept unnamed there) present
    | none =>
        rw [noPhantom_unchanged_of_missing parseQuantity ok found kept unnamed there]
        exact noPhantom_iff_missing found there

end Reachable

theorem recorded_pod_adopted :
    ∃ history, (system fun _ => none).Run ⟨oneTask, fun _ => none⟩ history
        ⟨reconciled oneTask, fun _ => none⟩ ∧
      Adopted flakyKey firstPod (reconciled (reconciled oneTask)) := by
  obtain ⟨history, run⟩ := reconciled_run oneTask
  have adopted := pod_adopted_iff (fun _ => none) _ _ history oneTask_initial run flakyKey _ rfl
    rfl firstPod firstPod_created rfl
  exact ⟨history, run, adopted.mpr (by decide)⟩

theorem failed_pod_leaves_no_phantom :
    ∃ history, (system fun _ => none).Run ⟨oneTask, fun _ => none⟩ history
        ⟨podFails (reconciled oneTask) firstPod, fun _ => none⟩ ∧
      NoPhantom flakyKey (reconciled (podFails (reconciled oneTask) firstPod)) := by
  obtain ⟨history, run⟩ := reconciled_run oneTask
  have fails := run.snoc (.environment _ (podFails (reconciled oneTask) firstPod)
    (.podMoves (podKey flakyKey) firstPod _ firstPod_created (Or.inr ⟨rfl, by decide⟩)))
  have fine := no_phantom_iff (fun _ => none) _ _ _ oneTask_initial fails flakyKey _ rfl rfl
  refine ⟨_, fails, fine.mpr ?_⟩
  intro stranded
  cases stranded.missing

/-! ### A status update that fails after the pod was created -/

def refusingStatus : (op : Call) → Cluster → Answer op × Cluster
  | .updateStatus _, w => (.error ⟨.unavailable, "timeout"⟩, w)
  | op, w => serve flakyKey op w

def unrecorded : Cluster :=
  ((reconcile (fun _ => none) flakyKey).eval refusingStatus oneTask).2

theorem unrecorded_run : ∃ history, (system fun _ => none).Run ⟨oneTask, fun _ => none⟩ history
    ⟨unrecorded, fun _ => none⟩ := by
  refine (system fun _ => none).run_eval refusingStatus flakyKey ?_
    (reconcile (fun _ => none) flakyKey) rfl ⟨oneTask, fun _ => none⟩ rfl
  intro op w
  cases op with
  | updateStatus task => exact .refused "timeout" _ rfl
  | getCloudTask key => exact .served
  | updateCloudTask task => exact .served
  | getPod key => exact .served
  | createPod pod => exact .served
  | deletePod key => exact .served
  | now => exact .served

theorem unrecorded_pod : unrecorded.pods (podKey flakyKey) = some firstPod := rfl

/-- The pod was created and its status update refused: the next reconcile runs
into the pod's name and does not record it. -/
theorem unrecorded_pod_not_adopted :
    ∃ history, (system fun _ => none).Run ⟨oneTask, fun _ => none⟩ history
        ⟨unrecorded, fun _ => none⟩ ∧
      Initial ⟨oneTask, fun _ => none⟩ ∧
      (∃ entry, unrecorded.tasks.cell flakyKey = some entry ∧
        entry.value.deletionTimestamp = none) ∧
      unrecorded.pods (podKey flakyKey) = some firstPod ∧
      firstPod.status.phase.terminated = false ∧
      ¬ Adopted flakyKey firstPod (reconciled unrecorded) := by
  obtain ⟨history, run⟩ := unrecorded_run
  refine ⟨history, run, oneTask_initial, ⟨_, rfl, rfl⟩, unrecorded_pod, rfl, ?_⟩
  rintro ⟨entry, found, adopted⟩
  cases found
  revert adopted
  decide

/-! ### A pod that vanishes under a running task -/

def vanished : Cluster :=
  { reconciled oneTask with
    pods := Function.update (reconciled oneTask).pods (podKey flakyKey) none
    removed := [podKey flakyKey] }

/-- The task goes on running without its pod. -/
theorem vanished_pod_leaves_phantom :
    ∃ history, (system fun _ => none).Run ⟨oneTask, fun _ => none⟩ history
        ⟨vanished, fun _ => none⟩ ∧
      Initial ⟨oneTask, fun _ => none⟩ ∧
      (∃ entry, vanished.tasks.cell flakyKey = some entry ∧
        entry.value.deletionTimestamp = none) ∧
      ¬ NoPhantom flakyKey (reconciled vanished) := by
  obtain ⟨history, run⟩ := reconciled_run oneTask
  refine ⟨_, run.snoc (.environment _ vanished (.podRemoved (podKey flakyKey))), oneTask_initial,
    ⟨_, rfl, rfl⟩, ?_⟩
  intro fine
  obtain ⟨pod, there⟩ := (fine _ rfl).running rfl
  cases there

end CloudOS.Orchestrator.PodRecovery
