import CloudOS.Orchestrator.CloudTaskEval

/-!
# Whether a retry takes effect

The retry branch clears the pod name in the status and leaves the failed pod in
the cluster; the creation branch uses the same pod name again.  The next
reconcile therefore starts a pod exactly when somebody else has removed the old
one.
-/

set_option autoImplicit false

namespace CloudOS.Orchestrator.RetryEffect

open CloudOS.Kubernetes.Objects
open CloudOS.Lib.CallProgram
open CloudOS.Lib.VersionedStore
open CloudOS.Orchestrator.CloudTaskReconcile
open CloudOS.Orchestrator.CloudTaskCluster
open CloudOS.Orchestrator.CloudTaskEval
open CloudOS.Orchestrator.RetryInvariant
open CloudOS.Orchestrator.RetryAccounting

structure AwaitingRetry (record : TaskRecord) : Prop where
  kept : record.deletionTimestamp = none
  phase : record.status.phase = .pending
  retried : 0 < record.status.retryCount
  unnamed : record.status.podName = ""

/-- The task runs in a pod that did not exist before and has not terminated. -/
def TakesEffect (key : ObjectKey) (before after : Cluster) : Prop :=
  ∃ entry pod, after.tasks.cell key = some entry ∧ entry.value.status.phase = .running ∧
    after.pods ⟨key.ns, entry.value.status.podName⟩ = some pod ∧
    before.nextUid ≤ pod.uid ∧ pod.owner = some ⟨"CloudTask", key.name⟩ ∧
    pod.status.phase.terminated = false

/-! ## With the name free or taken -/

section FaultFree
variable {key : ObjectKey} {w : Cluster}

theorem reconcileWithoutPod_free (parseQuantity : String → Option ℚ) {task : CloudTask}
    (live : Live task w) (waiting : task.status.phase = .pending)
    (free : w.pods (podKey task.key) = none) :
    TakesEffect task.key w
      ((reconcileWithoutPod parseQuantity task).eval (serve key) w).2 := by
  rw [reconcileWithoutPod_starts parseQuantity live (Or.inr waiting) free]
  exact ⟨_, _, put_cell_self _ _ _, rfl, Function.update_self _ _ _, Nat.le_refl _, rfl, rfl⟩

theorem reconcile_eval (parseQuantity : String → Option ℚ) {entry : Versioned TaskRecord}
    (found : w.tasks.cell key = some entry) (awaiting : AwaitingRetry entry.value) :
    ∃ owned w', (reconcile parseQuantity key).eval (serve key) w =
        (reconcileWithoutPod parseQuantity owned).eval (serve key) w' ∧
      Owned key entry w owned w' :=
  reconcile_eval_unnamed parseQuantity found awaiting.kept awaiting.unnamed

end FaultFree

/-! ## Reachable states -/

/-- For a task put back for retry, in any state of any run: the next reconcile,
served without faults, starts a new pod exactly when the old pod's name is
free, and it is free only if somebody else removed a pod of that name. -/
theorem retry_takes_effect_iff (parseQuantity : String → Option ℚ) (start c : Configuration)
    (history : List (Configuration × Event ObjectKey Call Answer))
    (initial : Initial start) (run : (system parseQuantity).Run start history c)
    (key : ObjectKey) (entry : Versioned TaskRecord)
    (found : c.world.tasks.cell key = some entry) (awaiting : AwaitingRetry entry.value) :
    (TakesEffect key c.world ((reconcile parseQuantity key).eval (serve key) c.world).2 ↔
      c.world.pods (podKey key) = none) ∧
    (c.world.pods (podKey key) = none → podKey key ∈ c.world.removed) := by
  constructor
  · obtain ⟨owned, w', evaluated, ⟨rfl, live, status, _, pods, nextUid⟩⟩ :=
      reconcile_eval parseQuantity found awaiting
    have waiting : owned.status.phase = .pending := by
      rw [status]
      exact awaiting.phase
    rw [evaluated, ← pods]
    constructor
    · intro effect
      cases taken : w'.pods (podKey owned.key) with
      | none => rfl
      | some old =>
          -- the status is still the one the retry wrote
          rw [reconcileWithoutPod_taken parseQuantity (Or.inr waiting) taken] at effect
          obtain ⟨entry', pod, found', running, _⟩ := effect
          cases Option.some.inj (found'.symm.trans live)
          have pending : owned.status.phase = .running := running
          rw [waiting] at pending
          cases pending
    · intro free
      have effect : TakesEffect owned.key w'
          ((reconcileWithoutPod parseQuantity owned).eval (serve owned.key) w').2 :=
        reconcileWithoutPod_free parseQuantity live waiting free
      unfold TakesEffect at effect ⊢
      rw [nextUid] at effect
      exact effect
  · intro free
    have ok : Accounted c.world := (run_sound parseQuantity initial run).1
    have counted := (ok.task key entry found).1.counted
    have retried := awaiting.retried
    have charged : c.world.charges key ≠ [] := by
      intro none
      rw [none] at counted
      simp only [chargesOf, List.filter_nil, List.length_nil] at counted
      omega
    exact ok.remains key charged free

/-- With the failed pod out of the way the retry goes through. -/
theorem retry_after_removal :
    ∃ history c, (system fun _ => none).Run ⟨oneTask, fun _ => none⟩ history c ∧
      podKey flakyKey ∈ c.world.removed ∧
      TakesEffect flakyKey c.world
        ((reconcile (fun _ => none) flakyKey).eval (serve flakyKey) c.world).2 := by
  obtain ⟨history, run⟩ := retried_run
  have removed := run.snoc (.environment _ _ (.podRemoved (podKey flakyKey)))
  have effect := retry_takes_effect_iff (fun _ => none) _ _ _ oneTask_initial removed flakyKey
    _ rfl ⟨rfl, rfl, by decide, rfl⟩
  have free : Function.update retried.pods (podKey flakyKey) none (podKey flakyKey) = none :=
    Function.update_self _ _ _
  exact ⟨_, _, removed, List.mem_cons_self, effect.1.mpr free⟩

/-- After the first failure of a task with one retry, nobody having touched
its pod, the next reconcile fails to create a pod and the task stays Pending. -/
theorem retry_without_effect :
    ∃ history, (system fun _ => none).Run ⟨oneTask, fun _ => none⟩ history
        ⟨retried, fun _ => none⟩ ∧
      Initial ⟨oneTask, fun _ => none⟩ ∧
      (∃ entry, retried.tasks.cell flakyKey = some entry ∧ AwaitingRetry entry.value) ∧
      ((reconcile (fun _ => none) flakyKey).eval (serve flakyKey) retried).1 =
        ⟨10, some (alreadyExistsError "pods" "flaky-pod")⟩ ∧
      ¬ TakesEffect flakyKey retried
        ((reconcile (fun _ => none) flakyKey).eval (serve flakyKey) retried).2 := by
  obtain ⟨history, run⟩ := retried_run
  refine ⟨history, run, oneTask_initial, ⟨_, rfl, rfl, rfl, by decide, rfl⟩, rfl, ?_⟩
  rintro ⟨entry, pod, found, running, _⟩
  cases found
  cases running

end CloudOS.Orchestrator.RetryEffect
